import Mathlib

/-!
# Decimal numbers in text

A machine `int` printed in decimal and read back. `parseInt` reads what
`Integer.valueOf` accepts: an optional sign, at least one digit, and a value
that fits in 32 bits. Only the ASCII digits count as digits.
-/

namespace BitMesh.Lib

/-- The text of an integer. -/
def decimal : Int → List Char
  | .ofNat n => Nat.toDigits 10 n
  | .negSucc n => '-' :: Nat.toDigits 10 (n + 1)

/-- The value of a non-empty row of digits. -/
def parseDigits (s : List Char) : Option Nat :=
  if s ≠ [] ∧ s.all Char.isDigit then some (Nat.ofDigitChars 10 s 0) else none

/-- The integers of 32 bits. -/
def IsInt (n : Int) : Prop := -2 ^ 31 ≤ n ∧ n < 2 ^ 31

instance IsInt.decidable (n : Int) : Decidable (IsInt n) :=
  inferInstanceAs (Decidable (_ ∧ _))

/-- The number a text denotes, with a sign or without. -/
def parseSigned : List Char → Option Int
  | '-' :: digits => (parseDigits digits).map fun n => -(n : Int)
  | '+' :: digits => (parseDigits digits).map fun n => (n : Int)
  | digits => (parseDigits digits).map fun n => (n : Int)

/-- The number a text denotes, if it is one of 32 bits. -/
def parseInt (s : List Char) : Option Int := (parseSigned s).filter fun n => IsInt n

theorem isDigit_of_mem_digits {n : Nat} {c : Char} (h : c ∈ Nat.toDigits 10 n) :
    c.isDigit = true :=
  Nat.isDigit_of_mem_toDigits (by decide) (by decide) h

@[simp] theorem parseDigits_toDigits (n : Nat) : parseDigits (Nat.toDigits 10 n) = some n := by
  have hall : (Nat.toDigits 10 n).all Char.isDigit = true :=
    List.all_eq_true.mpr fun _ hc => isDigit_of_mem_digits hc
  rw [parseDigits, if_pos ⟨Nat.toDigits_ne_nil, hall⟩,
    Nat.ofDigitChars_toDigits (by decide) (by decide)]

/-- A row of digits has no sign in front of it. -/
theorem parseSigned_digits {s : List Char} (hdigit : ∀ c ∈ s, c.isDigit = true) :
    parseSigned s = (parseDigits s).map fun n => (n : Int) := by
  unfold parseSigned
  split
  · exact absurd (hdigit '-' (List.mem_cons_self ..)) (by decide)
  · exact absurd (hdigit '+' (List.mem_cons_self ..)) (by decide)
  · rfl

theorem parseSigned_toDigits (n : Nat) : parseSigned (Nat.toDigits 10 n) = some (n : Int) := by
  rw [parseSigned_digits fun _ => isDigit_of_mem_digits, parseDigits_toDigits]
  rfl

theorem parseSigned_decimal (n : Int) : parseSigned (decimal n) = some n := by
  cases n with
  | ofNat n => exact parseSigned_toDigits n
  | negSucc n =>
    rw [decimal, parseSigned, parseDigits_toDigits]
    rfl

/-- What is printed is read back. -/
theorem parseInt_decimal {n : Int} (h : IsInt n) : parseInt (decimal n) = some n := by
  simp [parseInt, parseSigned_decimal, h]

/-- A separator that is neither a digit nor a sign does not occur in a
number. -/
theorem not_mem_decimal {c : Char} (hdigit : c.isDigit = false) (hsign : c ≠ '-') (n : Int) :
    c ∉ decimal n := by
  intro hc
  cases n with
  | ofNat n => simp [isDigit_of_mem_digits hc] at hdigit
  | negSucc n =>
    rcases List.mem_cons.mp hc with rfl | hc
    · exact hsign rfl
    · simp [isDigit_of_mem_digits hc] at hdigit

end BitMesh.Lib
