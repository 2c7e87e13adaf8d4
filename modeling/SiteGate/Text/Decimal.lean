import SiteGate.Text.Basic

/-!
# Decimal numbers in text

Natural numbers below a limit are read from decimal digits with at most one plus sign before them,
and written without a sign and without leading zeros. `natural?` refuses every other text, so a
value with a blank, a sign of its own or one digit too many counts as no number.
-/

set_option autoImplicit false

namespace SiteGate.Text

/-- The value of a decimal digit. -/
def digit? (c : Char) : Option Nat :=
  if '0' ≤ c && c ≤ '9' then some (c.toNat - '0'.toNat) else none

/-- The number that the digits continue from `value`, if all characters are digits. -/
def digits? (value : Nat) : Text → Option Nat
  | [] => some value
  | c :: rest => (digit? c).bind fun d => digits? (value * 10 + d) rest

/-- The natural number below `limit` that the text spells. -/
def natural? (limit : Nat) (t : Text) : Option Nat :=
  let body := match t with
    | '+' :: rest => rest
    | _ => t
  if body.isEmpty then none else (digits? 0 body).filter (· < limit)

/-- A natural number in decimal digits. -/
def ofNat (n : Nat) : Text := Nat.toDigits 10 n

/-- An integer in decimal digits, with a minus sign before a negative one. -/
def ofInt : Int → Text
  | .ofNat n => ofNat n
  | .negSucc n => '-' :: ofNat (n + 1)

/-- A number is written with digits only. -/
theorem not_mem_ofNat {c : Char} (hc : c.isDigit = false) (n : Nat) : c ∉ ofNat n := by
  intro hmem
  rw [Nat.isDigit_of_mem_toDigits (by decide) (by decide) hmem] at hc
  cases hc

/-- A number that has been read is below the limit. -/
theorem natural?_lt {limit : Nat} {t : Text} {n : Nat} (h : natural? limit t = some n) :
    n < limit := by
  unfold natural? at h
  split at h <;> simp_all [Option.filter_eq_some_iff]

end SiteGate.Text
