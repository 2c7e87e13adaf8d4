import SiteGate.Log.Pattern.Atom

/-!
# Classes of characters

A class stands in brackets and lists atoms, ranges of characters, named classes and other classes;
after a circumflex it stands for the characters that it does not list. Doubled marks join what is
listed before them and after them. Hyphens at the beginning and a closing bracket in the first place
stand for themselves.

A class has a depth: how many classes, lists of several things and joints lie one inside the other.
-/

set_option autoImplicit false

namespace SiteGate.Log.Pattern

/-- How deep something is that is made of parts one after the other, by the depths of its parts. A
single part is not made of parts. -/
def listDepth : List Nat → Nat
  | [] => 0
  | [depth] => depth
  | depths => depths.foldl max 0 + 1

/-- A class whose closing bracket has not been read. -/
structure OpenClass where
  /-- Nothing but hyphens has been read. -/
  fresh : Bool
  /-- The depth of what stands before the last joint. -/
  joined : Option Nat
  /-- The depths of what is listed since then. -/
  listed : List Nat
deriving DecidableEq

namespace OpenClass

/-- The class that has something more listed. -/
def add (c : OpenClass) (depth : Nat) : OpenClass := { c with listed := depth :: c.listed }

/-- The depth of all that has been read of a class. -/
def content (c : OpenClass) : Nat :=
  match c.joined with
  | none => listDepth c.listed
  | some depth => max depth (listDepth c.listed) + 1

/-- The class after a joint. -/
def join (c : OpenClass) : OpenClass := ⟨false, some c.content, []⟩

/-- The depth of a class whose closing bracket has been read. -/
def depth (c : OpenClass) : Nat := c.content + 1

/-- Opens a class after its bracket. A class of bytes cannot be negated. -/
def ofText? (m : Modes) (t : Text) : Option (OpenClass × Text) :=
  match m.skip t with
  | '^' :: rest => if m.unicode then some (⟨true, none, []⟩, rest) else none
  | t => some (⟨true, none, []⟩, t)

end OpenClass

/-- The names of classes. -/
def classNames : List String :=
  ["alnum", "alpha", "ascii", "blank", "cntrl", "digit", "graph", "lower", "print", "punct",
    "space", "upper", "word", "xdigit"]

/-- Reads a named class after its first bracket, and tells whether it is negated. -/
def namedClass? : Text → Option (Bool × Text)
  | ':' :: t =>
    let (negated, t) :=
      match t with
      | '^' :: t => (true, t)
      | _ => (false, t)
    let name := t.takeWhile (· ≠ ':')
    match t.drop name.length with
    | ':' :: ']' :: rest =>
      if classNames.contains (String.ofList name) then some (negated, rest) else none
    | _ => none
  | _ => none

/-- Whether a named class may stand in a class. -/
def allowsNamed (m : Modes) (negated : Bool) : Bool :=
  if m.unicode then !m.caseless else !negated

/-- Whether a hyphen in a class is no range, told by what follows it: the end of the class or
another hyphen. Only blanks and the mark of a comment may stand between them. -/
def endsBeforeHyphen (m : Modes) (rest : Text) : Bool :=
  let next :=
    if m.spaced then
      match Text.trimStart rest with
      | '#' :: rest => Text.trimStart rest
      | rest => rest
    else rest
  next.head?.any "]-".toList.contains

/-- Reads an atom in a class, or a range of characters from one to another that is not before it. -/
def listedAtom? (m : Modes) (t : Text) : Option Text :=
  (Atom.readInClass? m t).bind fun (a, rest) =>
    if !a.isAllowedInClass m then none
    else
      match m.skip rest with
      | '-' :: rest =>
        if endsBeforeHyphen m rest then some ('-' :: rest)
        else
          (Atom.readInClass? m (m.skip rest)).bind fun (b, rest) =>
            match a, b with
            | .literal first _, .literal last _ =>
              if first ≤ last && b.isAllowedInClass m then some rest else none
            | _, _ => none
      | rest => some rest

/-- The mark that joins what stands before it and after it, if a text begins with one. -/
def afterJoint? : Text → Option Text
  | '&' :: '&' :: rest | '-' :: '-' :: rest | '~' :: '~' :: rest => some rest
  | _ => none

/-- Reads the rest of an open class within others, and tells the depth of the outermost. Each step
reads at least one character, so there are not more steps than characters. -/
def closeClasses? (m : Modes) :
    Nat → OpenClass → List OpenClass → Text → Option (Nat × Text)
  | 0, _, _, _ => none
  | steps + 1, c, outer, t =>
    let t := m.skip t
    let itself := fun (fresh : Bool) (mark : Char) (rest : Text) =>
      if (Atom.literal mark false).isAllowedInClass m then
        closeClasses? m steps { c.add 0 with fresh } outer rest
      else none
    match c.fresh, t with
    | true, '-' :: rest => itself true '-' rest
    | fresh, ']' :: rest =>
      if fresh && c.listed.isEmpty then itself false ']' rest
      else
        match outer with
        | [] => some (c.depth, rest)
        | parent :: outer => closeClasses? m steps (parent.add c.depth) outer rest
    | _, '[' :: rest =>
      match namedClass? rest with
      | some (negated, rest) =>
        if allowsNamed m negated then
          closeClasses? m steps { c.add 0 with fresh := false } outer rest
        else none
      | none =>
        (OpenClass.ofText? m rest).bind fun (inner, rest) =>
          closeClasses? m steps inner ({ c with fresh := false } :: outer) rest
    | _, t =>
      match afterJoint? t with
      | some rest => closeClasses? m steps c.join outer rest
      | none =>
        (listedAtom? m t).bind fun rest =>
          closeClasses? m steps { c.add 0 with fresh := false } outer rest

/-- Reads a class after its first bracket. -/
def charClass? (m : Modes) (t : Text) : Option (Nat × Text) :=
  (OpenClass.ofText? m t).bind fun (c, rest) => closeClasses? m (rest.length + 1) c [] rest

end SiteGate.Log.Pattern
