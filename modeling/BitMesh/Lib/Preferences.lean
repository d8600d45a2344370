import BitMesh.Lib.Decimal

/-!
# Preferences

A node of `java.util.prefs.Preferences`: texts under keys. A number is kept
as its decimal text, and a key without a value, or with a text that is not
a number of 64 bits, reads as the default the caller gives.
-/

namespace BitMesh.Lib

/-- The number a text denotes, if it is one of 64 bits. -/
def parseLong (s : List Char) : Option Int64 :=
  (parseSigned s).bind fun n =>
    if -2 ^ 63 ≤ n ∧ n < 2 ^ 63 then some (Int64.ofInt n) else none

theorem parseLong_decimal (n : Int64) : parseLong (decimal n.toInt) = some n := by
  have hfits : -2 ^ 63 ≤ n.toInt ∧ n.toInt < 2 ^ 63 := ⟨n.le_toInt, n.toInt_lt⟩
  rw [parseLong, parseSigned_decimal, Option.bind_some, if_pos hfits, Int64.ofInt_toInt]

structure Preferences where
  entry : String → Option String

namespace Preferences

variable (p : Preferences)

/-- Nothing stored yet. -/
def empty : Preferences := ⟨fun _ => none⟩

def get (key default : String) : String := (p.entry key).getD default

def put (key value : String) : Preferences :=
  ⟨Function.update p.entry key (some value)⟩

def getLong (key : String) (default : Int64) : Int64 :=
  ((p.entry key).bind fun text => parseLong text.toList).getD default

def putLong (key : String) (value : Int64) : Preferences :=
  p.put key (String.ofList (decimal value.toInt))

variable (key key' : String)

@[simp] theorem get_put (value default : String) :
    (p.put key value).get key' default = if key' = key then value else p.get key' default := by
  by_cases h : key' = key <;> simp [get, put, h]

@[simp] theorem getLong_putLong (value default : Int64) :
    (p.putLong key value).getLong key' default =
      if key' = key then value else p.getLong key' default := by
  by_cases h : key' = key
  · simp [getLong, putLong, put, h, parseLong_decimal]
  · simp [getLong, putLong, put, h]

variable {key key'}

@[simp] theorem get_putLong_of_ne (h : key' ≠ key) (value : Int64) (default : String) :
    (p.putLong key value).get key' default = p.get key' default := by
  simp [get, putLong, put, h]

@[simp] theorem getLong_put_of_ne (h : key' ≠ key) (value : String) (default : Int64) :
    (p.put key value).getLong key' default = p.getLong key' default := by
  simp [getLong, put, h]

end Preferences

end BitMesh.Lib
