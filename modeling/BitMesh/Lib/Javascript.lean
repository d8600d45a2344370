import BitMesh.Lib.Decimal

/-!
# Numbers and texts of a script

JavaScript's `+` adds numbers and joins texts, and an object that has no
`valueOf` of its own takes part in it as a text. Numbers are exact here.
-/

namespace BitMesh.Lib.Javascript

/-- A whole number, the number that is none, or a text. -/
inductive Value where
  | number (n : Int)
  | nan
  | text (s : List Char)
  deriving DecidableEq, Repr

/-- What arithmetic answers. -/
inductive Number where
  | finite (q : ℚ)
  | infinite (negative : Bool)
  | nan
  deriving DecidableEq, Repr

/-- The digits of a number from `10 ^ 21` on: one, the others that count, and
the exponent. -/
def exponential (n : Nat) : List Char :=
  let digits := Nat.toDigits 10 n
  let significant := (digits.reverse.dropWhile fun c => c == '0').reverse
  let mantissa := match significant with
    | first :: second :: rest => first :: '.' :: second :: rest
    | short => short
  mantissa ++ 'e' :: '+' :: Nat.toDigits 10 (digits.length - 1)

/-- `String(n)`. -/
def numberToText (n : Int) : List Char :=
  if n.natAbs < 10 ^ 21 then decimal n
  else if n < 0 then '-' :: exponential n.natAbs
  else exponential n.natAbs

namespace Value

/-- `String(v)`. -/
def toText : Value → List Char
  | number n => numberToText n
  | nan => ['N', 'a', 'N']
  | text s => s

/-- `v + o`, for an object that has the text `s`. -/
def plusObject (v : Value) (s : List Char) : Value := text (v.toText ++ s)

/-- `parseInt(v)`, of texts without blanks: a sign and the digits up to the
first character that is none. -/
def parseInt (v : Value) : Value :=
  let read (negative : Bool) (s : List Char) : Value :=
    match parseDigits (s.takeWhile Char.isDigit) with
    | none => nan
    | some n => number (if negative then -n else n)
  match v.toText with
  | '-' :: s => read true s
  | '+' :: s => read false s
  | s => read false s

/-- `Number(v)`, of texts of digits and signs. -/
def toNumber : Value → Number
  | number n => .finite n
  | nan => .nan
  | text s => match parseSigned s with
    | none => .nan
    | some n => .finite n

end Value

namespace Number

/-- `x / y`. -/
def divide (x : Number) (y : ℚ) : Number :=
  match x with
  | finite q =>
      if y ≠ 0 then finite (q / y)
      else if q = 0 then nan
      else infinite (q < 0)
  | infinite negative => infinite (negative != decide (y < 0))
  | nan => nan

/-- `x - y`. -/
def minus (x : Number) (y : ℚ) : Number :=
  match x with
  | finite q => finite (q - y)
  | other => other

end Number

/-- `Math.round(q)`: a half is rounded up. -/
def round (q : ℚ) : Int := ⌊q + 1 / 2⌋

/-- A quotient of whole numbers is rounded by adding half the divisor. -/
theorem round_div (n : Int) {k : Nat} (hk : 0 < k) :
    round ((n : ℚ) / (2 * k : Nat)) = (n + k) / (2 * k : Nat) := by
  have hne : ((2 * k : Nat) : ℚ) ≠ 0 := by
    exact_mod_cast (by omega : 2 * k ≠ 0)
  have hsum : (n : ℚ) / (2 * k : Nat) + 1 / 2 = ((n + k : Int) : ℚ) / (2 * k : Nat) := by
    field_simp
    push_cast
    ring
  rw [round, hsum, Rat.floor_intCast_div_natCast]

end BitMesh.Lib.Javascript
