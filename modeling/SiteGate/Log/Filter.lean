import SiteGate.Log.Event
import SiteGate.Log.Pattern
import SiteGate.Text.Decimal

/-!
# Log filters

A filter is a list of directives with commas between them. A directive is a level, which limits the
events of every target, a target, which lets all of its events through, or both with an equals sign
between them. A directive is about every target that begins with its own. Of several directives
about an event the one with the longest target counts, and of equally long ones the last.

A target may be followed by brackets. A name in them is that of a span, and a field in braces may
have a value: such a directive is only about what happens within a span, and says nothing about an
event outside of all spans. A field alone limits the directive to the events that have it; of two
directives with the same target, one with a field comes before one without, and the greater field
before the other.

An event that no directive is about does not pass, so the filter without directives lets nothing
through.
-/

set_option autoImplicit false

namespace SiteGate.Log

/-- What a directive is about, of that which its target is about. -/
inductive Scope where
  | all
  /-- The events that have a field. -/
  | field (name : Text)
  /-- What happens within a span. -/
  | span
deriving DecidableEq

/-- A directive: how the targets that it is about begin, what of them it is about, and the highest
rank that passes. -/
structure Directive where
  target : Text
  scope : Scope
  limit : Nat
deriving DecidableEq

/-- The limit that a word or number spells. -/
def limitOf? (t : Text) : Option Nat :=
  match Text.natural? 6 t with
  | some n => some n
  | none =>
    if Text.sameIgnoringCase t "off".toList then some 0
    else (Level.all.find? fun l => Text.sameIgnoringCase t l.name.toList).map Level.rank

/-- The limit that lets everything through. -/
def everything : Nat := Level.tracing.rank

/-- Whether a directive may begin with a character: a letter or a number, a hyphen, a colon, a low
line, or the bracket of a span. -/
def beginsDirective (c : Char) : Bool :=
  Text.isWordChar c || "-:_[".toList.contains c

/-- A text without the sign that it begins with. -/
def dropSign (t : Text) : Text := if t.head?.any "+-".toList.contains then t.drop 1 else t

/-- Whether a text is the power of ten that a number may end with. -/
def isPowerOfTen : Text → Bool
  | [] => true
  | c :: rest =>
    let digits := dropSign rest
    (c = 'e' || c = 'E') && !digits.isEmpty && digits.all Char.isDigit

/-- Whether a text is a number, perhaps with a sign: digits with at most one point, which a power of
ten may follow, or a word for what is no finite number. -/
def isNumber (t : Text) : Bool :=
  let unsigned := dropSign t
  let mantissa := unsigned.takeWhile fun c => c.isDigit || c = '.'
  (mantissa.any Char.isDigit && mantissa.count '.' ≤ 1 &&
      isPowerOfTen (unsigned.drop mantissa.length)) ||
    ["inf", "infinity", "nan"].any fun word => Text.sameIgnoringCase unsigned word.toList

/-- What a directive with a field in braces is about. A field that has a value, which is a number or
a pattern, belongs to spans. -/
def Scope.ofField? (t : Text) : Option Scope :=
  match t.splitOn '=' with
  | [] | [[]] => none
  | [name] => some (.field name)
  | _ :: value :: _ => if isNumber value || isPattern value then some .span else none

/-- What a directive with brackets is about, and what follows them. The opening bracket has been
read; a field stands in braces before the closing one, perhaps after the name of a span. -/
def Scope.ofBrackets? (t : Text) : Option (Scope × Text) :=
  let name := t.takeWhile fun c => c ≠ ']' && c ≠ '\x7b'
  match t.drop name.length with
  | ']' :: rest => some (.span, rest)
  | '\x7b' :: rest =>
    match Text.cutAt? (· = '\x7d') rest with
    | some (inside, ']' :: rest) =>
      (Scope.ofField? inside).map fun s => (if name.isEmpty then s else .span, rest)
    | _ => none
  | _ => none

/-- The limit that is given after an equals sign; where none is given, everything passes. -/
def givenLimit? (t : Text) : Option Nat := if t.isEmpty then some everything else limitOf? t

/-- The directive that a text spells. -/
def Directive.ofText? (t : Text) : Option Directive :=
  if !((Text.trim t).head?.any beginsDirective) then none
  else
    let indented := t.head?.any Text.isBlank
    let name := t.takeWhile fun c => c ≠ '=' && c ≠ '['
    match t.drop name.length with
    | '=' :: limit =>
      if indented then none else (givenLimit? limit).map fun n => ⟨name, .all, n⟩
    | '[' :: brackets =>
      (Scope.ofBrackets? brackets).bind fun (scope, rest) =>
        match Text.trimEnd rest, rest with
        | [], _ => some ⟨name, scope, everything⟩
        | _, '=' :: limit =>
          if indented then none else (givenLimit? limit).map fun n => ⟨name, scope, n⟩
        | _, _ => none
    | _ =>
      match limitOf? t with
      | some n => some ⟨[], .all, n⟩
      | none => some ⟨t, .all, everything⟩

namespace Directive

/-- Whether a directive is about an event outside of all spans. -/
def isAbout (d : Directive) (e : Event) : Bool :=
  d.target.isPrefixOf e.target.toList &&
    match d.scope with
    | .all => true
    | .field name => e.fieldNames.contains name
    | .span => false

/-- Whether a directive comes before another one that stands earlier in its filter. -/
def outranks (d earlier : Directive) : Bool :=
  earlier.target.length < d.target.length ||
    earlier.target.length = d.target.length &&
      match earlier.scope, d.scope with
      | .field a, .field b => !List.lex b a
      | .field _, _ => false
      | _, _ => true

end Directive

/-- A filter: its directives in order. -/
abbrev Filter := List Directive

namespace Filter

/-- The filter that a text spells; one directive that cannot be read refuses all of it. -/
def ofText? (t : Text) : Option Filter :=
  ((t.splitOn ',').filter (!·.isEmpty)).mapM Directive.ofText?

/-- The directive of a filter that counts for an event outside of all spans. -/
def about? (f : Filter) (e : Event) : Option Directive :=
  (f.filter (·.isAbout e)).foldl
    (fun best d => if best.all d.outranks then some d else best) none

/-- Whether an event passes. -/
def allows (f : Filter) (e : Event) : Bool := (f.about? e).any (e.level.rank ≤ ·.limit)

/-- The filter without directives lets nothing through. -/
theorem allows_nil (e : Event) : allows [] e = false := rfl

end Filter

end SiteGate.Log
