import Mathlib.Data.List.Basic
import SiteGate.Config.ConditionalRule
import SiteGate.Proofs.Json.Elements

/-!
# Rules side by side

The conditional rules of a configuration are the elements of a JSON array, and each element is
taken or left out by what it says itself. So the rules of an array are the rules of its elements, in
order, as if each stood in an array of its own (`listOfText_arrayText`), and an element that is no
rule, or one for a path that does not begin with a slash, costs no other element its place.
-/

set_option autoImplicit false

namespace SiteGate.Config.ConditionalRule

open Json (arrayText parse?)

/-- A text is an element of an array: it is one JSON value, and the array of it alone is accepted,
with every number of it in range and no nesting too deep. -/
structure IsElement (e : Text) : Prop where
  value : (parse? e).isSome
  accepted : (Json.ofText? (arrayText [e])).isSome

/-- The rules of an array of elements are those that its elements spell. -/
theorem listOfText_elements {es : List Text} (h : ∀ e ∈ es, IsElement e) :
    listOfText (arrayText es) = es.filterMap fun e => (parse? e).bind accept? := by
  have hread := Json.ofText?_arrayText (fun e he => (h e he).value) fun e he => (h e he).accepted
  have htrim : (Text.trim (arrayText es)).isEmpty = false := by
    have hhead := Text.head?_trim (t := arrayText es) (c := '[') rfl (by decide)
    cases htext : Text.trim (arrayText es) with
    | nil => rw [htext] at hhead; cases hhead
    | cons c rest => rfl
  rw [listOfText, htrim, hread]
  simp [List.filterMap_filterMap]

/-- The rules of an array are those of its elements, in order, each in an array of its own. An
element makes no rule, or one whose path begins with a slash, by its own value alone. -/
theorem listOfText_arrayText {es : List Text} (h : ∀ e ∈ es, IsElement e) :
    listOfText (arrayText es) = es.flatMap (fun e => listOfText (arrayText [e])) ∧
      ∀ e ∈ es, listOfText (arrayText [e]) = ((parse? e).bind accept?).toList ∧
        (listOfText (arrayText [e]) = [] ∨
          ∃ rule, listOfText (arrayText [e]) = [rule] ∧ ['/'] <+: rule.urlPath) := by
  have hone : ∀ e ∈ es, listOfText (arrayText [e]) = ((parse? e).bind accept?).toList := by
    intro e he
    rw [listOfText_elements (by simpa using h e he), List.filterMap_eq_flatMap_toList,
      List.flatMap_singleton]
  refine ⟨?_, fun e he => ⟨hone e he, ?_⟩⟩
  · rw [listOfText_elements h, List.filterMap_eq_flatMap_toList]
    exact List.flatMap_congr fun e he => (hone e he).symm
  · obtain ⟨j, hj⟩ := Option.isSome_iff_exists.mp (h e he).value
    rw [hone e he, hj, Option.bind_some]
    cases hrule : accept? j with
    | none => exact .inl rfl
    | some rule =>
      obtain ⟨rest, hrest⟩ := List.head?_eq_some_iff.mp (head?_urlPath_of_accept? hrule)
      exact .inr ⟨rule, rfl, rest, hrest.symm⟩

/-- The text of a rule for one criterion. -/
def ruleText (path criterion : String) : Text :=
  ["\x7b\"rule-type\": \"header\", \"url-path\": \"", path,
    "\", \"serve-only-to-criteria\": [\"", criterion, "\"]\x7d"].flatMap String.toList

/-- Two rules, of which one has marks of arrays in a string, and between them a rule whose path does
not begin with a slash, a number, and a rule without its fields. -/
def mixedElements : List Text :=
  [ruleText "/robots.txt" "], [\\\"bot", ruleText "robots.txt" "bot", " -0.5e3 ".toList,
    "\x7b\"url-path\": [[], null]\x7d".toList, ruleText "/a" "b"]

/-- The two rules are taken, whatever stands between them. -/
theorem listOfText_arrayText_mixedElements :
    (∀ e ∈ mixedElements, IsElement e) ∧
      listOfText (arrayText mixedElements) =
        mixedElements.flatMap (fun e => listOfText (arrayText [e])) ∧
      listOfText (arrayText mixedElements) =
        [⟨.header, "/robots.txt".toList, ["], [\"bot".toList], 0⟩,
          ⟨.header, "/a".toList, ["b".toList], 0⟩] := by
  have hread : ∀ e ∈ mixedElements,
      (parse? e).isSome ∧ (Json.ofText? (arrayText [e])).isSome := by decide +kernel
  have helements : ∀ e ∈ mixedElements, IsElement e := fun e he => ⟨(hread e he).1, (hread e he).2⟩
  exact ⟨helements, (listOfText_arrayText helements).1, by decide +kernel⟩

end SiteGate.Config.ConditionalRule
