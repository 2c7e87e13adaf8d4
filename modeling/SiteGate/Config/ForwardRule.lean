import SiteGate.Text.Basic

/-!
# Forward rules

A forward rule sends visitors of one path to another path of the same site. It is written as the
two paths with a bar between them. A rule whose destination is missing or does not begin with a
slash stays in the list, but its destination is replaced by a text that begins with the error mark;
such a rule is not valid and never used.
-/

set_option autoImplicit false

namespace SiteGate.Config

/-- The beginning of a text that stands for a refused value. -/
def errorMark : Text := "~@error:".toList

/-- Why a destination was refused. -/
inductive Refusal where
  | missing
  | absolute
deriving DecidableEq

/-- The text that replaces a refused destination. -/
def Refusal.message : Refusal → Text
  | .missing => errorMark ++ " missing forward destination".toList
  | .absolute => errorMark ++ " fully qualified url-forwarding not allowed".toList

/-- The text of a refusal begins with the error mark. -/
theorem errorMark_prefix_message (why : Refusal) : errorMark <+: why.message := by
  cases why <;> decide

/-- A rule that forwards from one path to another. -/
structure ForwardRule where
  source : Text
  target : Text
deriving DecidableEq

namespace ForwardRule

/-- The destination that a text asks for. -/
def targetOf (t : Text) : Text :=
  match t with
  | [] => Refusal.missing.message
  | c :: _ => if c = '/' then t else Refusal.absolute.message

/-- A destination is kept or refused. -/
theorem targetOf_kept_or_refused (place : Text) :
    (place.head? = some '/' ∧ targetOf place = place) ∨
      ∃ why : Refusal, targetOf place = why.message := by
  cases place with
  | nil => exact .inr ⟨.missing, rfl⟩
  | cons c rest =>
    by_cases hc : c = '/'
    · exact .inl ⟨by simp [hc], if_pos hc⟩
    · exact .inr ⟨.absolute, if_neg hc⟩

/-- The rule that an entry of the list spells. -/
def ofText (entry : Text) : ForwardRule :=
  match Text.cutAt? (· == '|') entry with
  | some (source, target) => ⟨Text.trim source, targetOf (Text.trim target)⟩
  | none => ⟨Text.trim entry, targetOf []⟩

/-- The entry of the list that spells the rule. -/
def toText (r : ForwardRule) : Text := r.source ++ '|' :: r.target

/-- Whether the rule may be used. -/
def isValid (r : ForwardRule) : Bool :=
  !errorMark.isPrefixOf r.source && !errorMark.isPrefixOf r.target

end ForwardRule

end SiteGate.Config
