import BitMesh.Java

/-!
# Amounts

`org.bitcoinj.core.Coin`: the constructor refuses a number of satoshis
beyond the money supply, in either direction, so the range is a field.
-/

namespace BitMesh.Bitcoin

/-- `COIN_VALUE * NetworkParameters.MAX_COINS`. -/
def maxSatoshis : Int := 100000000 * 21000000

/-- A monetary value; every one that exists passed the constructor. -/
structure Coin where
  value : Int
  inRange : -maxSatoshis ≤ value ∧ value ≤ maxSatoshis
  deriving DecidableEq

namespace Coin

theorem ext {a b : Coin} (h : a.value = b.value) : a = b := by
  cases a; cases b; cases h; rfl

/-- `Coin.valueOf(satoshis)`, which is the constructor. -/
def valueOf (satoshis : Int) : Except JavaException Coin :=
  if h : -maxSatoshis ≤ satoshis ∧ satoshis ≤ maxSatoshis then .ok ⟨satoshis, h⟩
  else .error (.illegalArgument
    (some (toString satoshis ++ " satoshis exceeds maximum possible quantity of Bitcoin.")))

/-- `a.subtract(b)`. `LongMath.checkedSubtract` cannot overflow on two
values of the supply, so only the constructor can refuse the difference. -/
def subtract (a b : Coin) : Except JavaException Coin := valueOf (a.value - b.value)

/-- `Coin.ZERO`. -/
def zero : Coin := ⟨0, by decide⟩

/-- `NetworkParameters.MAX_MONEY`. -/
def maxMoney : Coin := ⟨maxSatoshis, by decide⟩

/-- `Transaction.REFERENCE_DEFAULT_MIN_TX_FEE`. -/
def referenceDefaultMinTxFee : Coin := ⟨1000, by decide⟩

@[simp] theorem zero_value : zero.value = 0 := rfl

@[simp] theorem referenceDefaultMinTxFee_value : referenceDefaultMinTxFee.value = 1000 := rfl

@[simp] theorem maxMoney_value : maxMoney.value = maxSatoshis := rfl

theorem valueOf_value (c : Coin) : valueOf c.value = .ok c := by
  rw [valueOf, dif_pos c.inRange]

/-- The constructor refuses with an `IllegalArgumentException`. -/
theorem cls_of_valueOf {n : Int} {e : JavaException} (h : valueOf n = .error e) :
    e.cls = .illegalArgument := by
  unfold valueOf at h
  split at h
  · cases h
  · cases h; rfl

/-- A coin made from a number has that number of satoshis. -/
theorem value_of_valueOf {n : Int} {c : Coin} (h : valueOf n = .ok c) : c.value = n := by
  unfold valueOf at h
  split at h
  · cases h; rfl
  · cases h

theorem value_of_subtract {a b c : Coin} (h : a.subtract b = .ok c) :
    c.value = a.value - b.value :=
  value_of_valueOf h

theorem valueOf_eq_ok {n : Int} (h : -maxSatoshis ≤ n ∧ n ≤ maxSatoshis) :
    valueOf n = .ok ⟨n, h⟩ := by
  rw [valueOf, dif_pos h]

/-- The numbers of satoshis the constructor takes. -/
def InRange (n : Int) : Prop := -maxSatoshis ≤ n ∧ n ≤ maxSatoshis

instance InRange.decidable (n : Int) : Decidable (InRange n) :=
  inferInstanceAs (Decidable (_ ∧ _))

theorem exists_valueOf_iff {n : Int} : (∃ c, valueOf n = .ok c) ↔ InRange n := by
  constructor
  · intro h
    obtain ⟨c, hc⟩ := h
    have hrange := c.inRange
    rwa [value_of_valueOf hc] at hrange
  · intro h
    exact ⟨_, valueOf_eq_ok h⟩

/-- A difference in range is not refused. -/
theorem subtract_eq_ok {a b : Coin} (h₁ : -maxSatoshis ≤ a.value - b.value)
    (h₂ : a.value - b.value ≤ maxSatoshis) :
    a.subtract b = .ok ⟨a.value - b.value, h₁, h₂⟩ :=
  valueOf_eq_ok ⟨h₁, h₂⟩

end Coin

end BitMesh.Bitcoin
