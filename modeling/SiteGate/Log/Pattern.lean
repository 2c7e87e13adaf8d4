import SiteGate.Log.Pattern.CharClass
import SiteGate.Text.Word

/-!
# Patterns

A pattern stands for texts. It is a list of branches with bars between them, and a branch a list of
atoms, classes of characters and groups, each perhaps repeated. A group is a pattern in parentheses;
it may have a name, and letters after a question mark change the modes in it, or those of the rest
of the group that they stand in.

This module tells which texts are patterns. It reads them piece by piece, and keeps for every open
group how deep its parts are; what is too deep is refused.
-/

set_option autoImplicit false

namespace SiteGate.Log.Pattern

/-- A piece of a pattern. -/
inductive Piece where
  /-- An atom or a class, with its depth. -/
  | item (depth : Nat)
  /-- A change of the modes. -/
  | change (modes : Modes)
  /-- The beginning of a group with its modes, and its name if it has one. -/
  | opening (modes : Modes) (name : Option Text)
  | closing
  | bar
  | repetition
deriving DecidableEq

/-- The modes after one letter among those that change them; some of these letters change nothing
that matters for what a pattern is. -/
def Modes.switch (m : Modes) (letter : Char) (on : Bool) : Modes :=
  match letter with
  | 'i' => { m with caseless := on }
  | 'u' => { m with unicode := on }
  | 'x' => { m with spaced := on }
  | _ => m

/-- Reads letters that change the modes, up to a colon or a closing parenthesis. A hyphen stands
before letters that switch something off; nothing may be there twice. `seen` holds what has been
read, the last of it first. -/
def changeOrOpening? (m : Modes) (seen : Text) : Text → Option (Piece × Text)
  | [] => none
  | c :: rest =>
    if c = ':' || c = ')' then
      if seen.head? = some '-' then none
      else if c = ':' then some (.opening m none, rest)
      else if seen.isEmpty then none
      else some (.change m, rest)
    else if "imsUuRx-".toList.contains c && !seen.contains c then
      changeOrOpening? (m.switch c (!seen.contains '-')) (c :: seen) rest
    else none

/-- Reads the name of a group and the angle that ends it. -/
def groupName? (t : Text) : Option (Text × Text) :=
  let name := t.takeWhile (· ≠ '>')
  match name, t.drop name.length with
  | first :: others, _ :: rest =>
    if (first = '_' || Text.isLetter first) &&
        others.all (fun c => "_.[]".toList.contains c || Text.isWordChar c) then
      some (name, rest)
    else none
  | _, _ => none

/-- Reads the beginning of a group after its parenthesis, or a change of the modes. -/
def opening? (m : Modes) (t : Text) : Option (Piece × Text) :=
  match m.skip t with
  | '?' :: 'P' :: '<' :: rest | '?' :: '<' :: rest =>
    (groupName? rest).map fun (name, rest) => (.opening m (some name), rest)
  | '?' :: rest => changeOrOpening? m [] rest
  | rest => some (.opening m none, rest)

/-- Reads a piece. -/
def Piece.read? (m : Modes) : Text → Option (Piece × Text)
  | [] => none
  | c :: rest =>
    match c with
    | '(' => opening? m rest
    | ')' => some (.closing, rest)
    | '|' => some (.bar, rest)
    | '*' | '+' | '?' => some (.repetition, rest)
    | '[' => (charClass? m rest).map fun (depth, rest) => (.item depth, rest)
    | '\x7b' => none
    | _ =>
      (Atom.read? m (c :: rest)).bind fun (a, rest) =>
        if a.isAllowed m then some (.item 0, rest) else none

/-- What has been read of a group, or of the whole pattern. -/
structure Group where
  modes : Modes
  /-- The depths of the branches that a bar has ended. -/
  branches : List Nat
  /-- The depths of the parts of the branch after them, the last one first. -/
  parts : List Nat
  /-- The last part may be repeated. -/
  repeatable : Bool

namespace Group

/-- The beginning of a group. -/
def initial (m : Modes) : Group := ⟨m, [], [], false⟩

/-- The group with one more part. -/
def add (g : Group) (depth : Nat) : Group :=
  { g with parts := depth :: g.parts, repeatable := true }

/-- How deep the content of a group is. -/
def content (g : Group) : Nat :=
  if g.branches.isEmpty then listDepth g.parts else listDepth (listDepth g.parts :: g.branches)

/-- The group whose last part is repeated. -/
def repeatLast? (g : Group) : Option Group :=
  match g.repeatable, g.parts with
  | true, last :: others => some { g with parts := (last + 1) :: others }
  | _, _ => none

end Group

/-- What has been read of a pattern: the innermost open group, those around it, and the names of
groups. -/
structure Progress where
  group : Group
  outer : List Group
  names : List Text

namespace Progress

/-- The beginning of a pattern. -/
def initial : Progress := ⟨.initial .initial, [], []⟩

/-- What has been read after one more piece. -/
def take? (s : Progress) : Piece → Option Progress
  | .item depth => some { s with group := s.group.add depth }
  | .change m =>
    some { s with group := { s.group.add 0 with modes := m, repeatable := false } }
  | .opening m name =>
    if name.any s.names.contains then none
    else some ⟨.initial m, s.group :: s.outer, name.toList ++ s.names⟩
  | .closing =>
    match s.outer with
    | [] => none
    | parent :: outer =>
      some { s with group := parent.add (s.group.content + 1), outer := outer }
  | .bar =>
    let branches := listDepth s.group.parts :: s.group.branches
    some { s with group := ⟨s.group.modes, branches, [], false⟩ }
  | .repetition => s.group.repeatLast?.map fun group => { s with group }

/-- Reads the rest of a pattern. Each step reads at least one character, so there are not more steps
than characters. -/
def finish? : Nat → Progress → Text → Option Progress
  | 0, _, _ => none
  | steps + 1, s, t =>
    match s.group.modes.skip t with
    | [] => some s
    | c :: rest =>
      (Piece.read? s.group.modes (c :: rest)).bind fun (piece, rest) =>
        (s.take? piece).bind fun s => finish? steps s rest

/-- Whether a pattern may end here: all groups are closed, and nothing is too deep. -/
def isComplete (s : Progress) : Bool := s.outer.isEmpty && s.group.content ≤ 250

end Progress

end Pattern

/-- Whether a text is a pattern. -/
def isPattern (t : Text) : Bool :=
  ((Pattern.Progress.initial.finish? (t.length + 1) t).map (·.isComplete)).getD false

end SiteGate.Log
