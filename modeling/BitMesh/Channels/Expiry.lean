import BitMesh.Channels.ClientState

/-!
# When the next client channel expires

`getSecondsUntilExpiry` looks for the earliest expiry among the channels of
a server that have not expired. It keeps the earliest one in an `int`, with
`Integer.MAX_VALUE` for none: expiry times from 2038 on do not fit, and one
of them is the mark for none.
-/

namespace BitMesh.Channels

/-- A `long` cast to `int`. -/
def toJavaInt (n : Int) : Int := n.bmod (2 ^ 32)

/-- `Integer.MAX_VALUE`. -/
def integerMaxValue : Int := 2 ^ 31 - 1

def StoredClientChannel.expiryTimeSeconds (channel : StoredClientChannel) : Int :=
  channel.refund.lockTime.toNat + 60 * 5

/-- The body of the loop. -/
def earlierTime (nowSeconds : Nat) (earliestTime : Int) (channel : StoredClientChannel) : Int :=
  if (nowSeconds : Int) < channel.expiryTimeSeconds then
    min earliestTime (toJavaInt channel.expiryTimeSeconds)
  else earliestTime

/-- `getSecondsUntilExpiry`, of the channels of one server. -/
def getSecondsUntilExpiry (setChannels : List StoredClientChannel) (nowSeconds : Nat) : Int :=
  let earliestTime := setChannels.foldl (earlierTime nowSeconds) integerMaxValue
  if earliestTime = integerMaxValue then 0 else earliestTime - nowSeconds

/-- The expiry times that are still to come. -/
def unexpired (setChannels : List StoredClientChannel) (nowSeconds : Nat) : List Int :=
  (setChannels.map (·.expiryTimeSeconds)).filter ((nowSeconds : Int) < ·)

/-- The seconds to the first of them, or 0. -/
def secondsToFirst (setChannels : List StoredClientChannel) (nowSeconds : Nat) : Int :=
  ((unexpired setChannels nowSeconds).min?.map (· - (nowSeconds : Int))).getD 0

structure TellsExpiry (setChannels : List StoredClientChannel) (nowSeconds : Nat) : Prop where
  first : getSecondsUntilExpiry setChannels nowSeconds = secondsToFirst setChannels nowSeconds
  nonneg : 0 ≤ getSecondsUntilExpiry setChannels nowSeconds

/-- One expiry lies below the mark, and those that do not fit come out no
earlier than another one is. -/
def FitsInt (expiries : List Int) : Prop :=
  expiries = [] ∨
    (∃ e ∈ expiries, e < integerMaxValue) ∧
      ∀ e ∈ expiries, e < 2 ^ 31 ∨ 2 ^ 32 ≤ e ∧ ∃ e' ∈ expiries, e' ≤ e - 2 ^ 32

/-! ## The loop -/

theorem bounds_of_mem_unexpired {setChannels : List StoredClientChannel} {nowSeconds : Nat}
    {e : Int} (h : e ∈ unexpired setChannels nowSeconds) : nowSeconds < e ∧ e < 2 ^ 32 + 300 := by
  obtain ⟨hmem, hlater⟩ := List.mem_filter.mp h
  obtain ⟨channel, -, rfl⟩ := List.mem_map.mp hmem
  have hlock := channel.refund.lockTime.toNat_lt
  have hsum : channel.expiryTimeSeconds = channel.refund.lockTime.toNat + 60 * 5 := rfl
  have hlater := of_decide_eq_true hlater
  omega

/-- What becomes of an expiry time: it stays, or 2 ^ 32 is lost. -/
theorem toJavaInt_eq {e : Int} (hpos : 0 ≤ e) (hlt : e < 2 ^ 32 + 300) :
    toJavaInt e = if e < 2 ^ 31 then e else e - 2 ^ 32 := by
  unfold toJavaInt
  rw [Int.bmod_def]
  split <;> split <;> omega

theorem toJavaInt_le {e : Int} : toJavaInt e ≤ integerMaxValue := by
  have h := Int.bmod_lt (x := e) (m := 2 ^ 32) (by decide)
  unfold toJavaInt integerMaxValue
  omega

/-- The loop takes the least of the expiry times as they come out. -/
theorem earliestTime_eq (setChannels : List StoredClientChannel) (nowSeconds : Nat)
    (earliestTime : Int) :
    setChannels.foldl (earlierTime nowSeconds) earliestTime =
      ((unexpired setChannels nowSeconds).map toJavaInt).foldl min earliestTime := by
  induction setChannels generalizing earliestTime with
  | nil => rfl
  | cons channel rest ih =>
      rw [List.foldl_cons, ih, unexpired, unexpired, List.map_cons]
      by_cases hlater : (nowSeconds : Int) < channel.expiryTimeSeconds
      · rw [earlierTime, if_pos hlater, List.filter_cons_of_pos (by simpa using hlater),
          List.map_cons, List.foldl_cons]
      · rw [earlierTime, if_neg hlater, List.filter_cons_of_neg (by simpa using hlater)]

section
variable {expiries : List Int} {nowSeconds : Nat} {first narrowed : Int}

/-- The least expiry comes out of the loop just when the times fit. -/
theorem narrowed_eq_first_iff
    (hbounds : ∀ e ∈ expiries, (nowSeconds : Int) < e ∧ e < 2 ^ 32 + 300)
    (hfirst : first ∈ expiries ∧ ∀ e ∈ expiries, first ≤ e)
    (hnarrowed : narrowed ∈ expiries.map toJavaInt ∧ ∀ e ∈ expiries, narrowed ≤ toJavaInt e) :
    (narrowed ≠ integerMaxValue ∧ narrowed = first) ↔ FitsInt expiries := by
  obtain ⟨hmem, hleast⟩ := hfirst
  have hint (e : Int) (he : e ∈ expiries) :
      toJavaInt e = if e < 2 ^ 31 then e else e - 2 ^ 32 := by
    have := hbounds e he
    exact toJavaInt_eq (by omega) (by omega)
  constructor
  · rintro ⟨hmark, rfl⟩
    have hself := hnarrowed.2 narrowed hmem
    rw [hint narrowed hmem] at hself
    have hbelow : narrowed < integerMaxValue := by
      have hle := toJavaInt_le (e := narrowed)
      rw [hint narrowed hmem] at hle
      unfold integerMaxValue at hle hmark ⊢
      split at hle <;> split at hself <;> omega
    refine .inr ⟨⟨narrowed, hmem, hbelow⟩, ?_⟩
    intro e he
    have hle := hnarrowed.2 e he
    have hnow := hbounds narrowed hmem
    rw [hint e he] at hle
    by_cases hfits : e < 2 ^ 31
    · exact .inl hfits
    · -- what is lost must not bring it before the first
      rw [if_neg hfits] at hle
      exact .inr ⟨by omega, narrowed, hmem, by omega⟩
  · intro hfits
    have hne : expiries ≠ [] := List.ne_nil_of_mem hmem
    obtain ⟨⟨e₀, he₀, hbelow⟩, hall⟩ := hfits.resolve_left hne
    have hlow := hleast e₀ he₀
    have hle := hnarrowed.2 first hmem
    obtain ⟨e, he, rfl⟩ := List.mem_map.mp hnarrowed.1
    have hge : first ≤ toJavaInt e := by
      rw [hint e he]
      rcases hall e he with hsmall | ⟨hlarge, e', he', hearlier⟩
      · rw [if_pos hsmall]
        exact hleast e he
      · rw [if_neg (by omega)]
        have := hleast e' he'
        omega
    unfold integerMaxValue at hbelow ⊢
    rw [hint first hmem, if_pos (by omega)] at hle
    constructor <;> omega

end

/-- The seconds are right if, and only if, the expiry times that are still
to come fit into an `int`. -/
theorem tells_expiry_iff (setChannels : List StoredClientChannel) (nowSeconds : Nat) :
    TellsExpiry setChannels nowSeconds ↔ FitsInt (unexpired setChannels nowSeconds) := by
  have hbounds (e : Int) (he : e ∈ unexpired setChannels nowSeconds) :=
    bounds_of_mem_unexpired he
  have hsource : getSecondsUntilExpiry setChannels nowSeconds =
      if ((unexpired setChannels nowSeconds).map toJavaInt).foldl min integerMaxValue =
          integerMaxValue then 0
      else ((unexpired setChannels nowSeconds).map toJavaInt).foldl min integerMaxValue -
        nowSeconds := by
    rw [getSecondsUntilExpiry, earliestTime_eq]
  cases hmin : (unexpired setChannels nowSeconds).min? with
  | none =>
      have hnone := List.min?_eq_none_iff.mp hmin
      have hvalue : getSecondsUntilExpiry setChannels nowSeconds = 0 := by
        rw [hsource, hnone]
        rfl
      have hfirst : secondsToFirst setChannels nowSeconds = 0 := by
        rw [secondsToFirst, hmin]
        rfl
      exact iff_of_true ⟨hvalue.trans hfirst.symm, hvalue.ge⟩ (.inl hnone)
  | some first =>
      have hfirst := List.min?_eq_some_iff.mp hmin
      have hwanted : secondsToFirst setChannels nowSeconds = first - nowSeconds := by
        rw [secondsToFirst, hmin]
        rfl
      obtain ⟨narrowed, hnarrowed⟩ :
          ∃ narrowed, ((unexpired setChannels nowSeconds).map toJavaInt).min? = some narrowed := by
        apply Option.ne_none_iff_exists'.mp
        intro hnone
        rw [List.min?_eq_none_iff, List.map_eq_nil_iff] at hnone
        rw [hnone] at hfirst
        cases hfirst.1
      obtain ⟨hmem, hleast⟩ := List.min?_eq_some_iff.mp hnarrowed
      have hle : narrowed ≤ integerMaxValue := by
        obtain ⟨e, -, rfl⟩ := List.mem_map.mp hmem
        exact toJavaInt_le
      rw [List.foldl_min, hnarrowed, Option.getD_some, min_eq_right hle] at hsource
      rw [← narrowed_eq_first_iff hbounds hfirst
        ⟨hmem, fun e he => hleast _ (List.mem_map_of_mem he)⟩]
      have hlater := (hbounds first hfirst.1).1
      constructor
      · intro h
        have hright := h.first
        rw [hsource, hwanted] at hright
        split at hright
        · omega
        · rename_i hmark
          exact ⟨hmark, by omega⟩
      · rintro ⟨hmark, rfl⟩
        rw [if_neg hmark] at hsource
        exact ⟨hsource.trans hwanted.symm, by omega⟩

/-- A channel that waits for the lock time of its refund, and no more. -/
def lockedUntil (lockTime : UInt32) : StoredClientChannel where
  id := .zero
  contract := ⟨1, [], [], 0⟩
  refund := ⟨1, [], [], lockTime⟩
  myKey := ⟨[], none⟩
  valueToMe := .zero
  refundFees := none
  active := false

/-- A refund locked until 2 ^ 31 makes its channel long overdue, and one
whose channel expires at `Integer.MAX_VALUE` is not seen. -/
theorem expiry_out_of_range :
    ¬ TellsExpiry [lockedUntil 2147483648] 1000000 ∧
      getSecondsUntilExpiry [lockedUntil 2147483648] 1000000 = -2148483348 ∧
      secondsToFirst [lockedUntil 2147483648] 1000000 = 2146483948 ∧
      getSecondsUntilExpiry [lockedUntil 2147483347] 1000000 = 0 ∧
      secondsToFirst [lockedUntil 2147483347] 1000000 = 2146483647 := by
  refine ⟨fun h => ?_, by decide +kernel, by decide +kernel, by decide +kernel,
    by decide +kernel⟩
  exact absurd h.nonneg (by decide +kernel)

end BitMesh.Channels
