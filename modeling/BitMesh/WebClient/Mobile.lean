import BitMesh.Lib.Javascript

/-!
# The mobile page

`bitmesh_mobile.js` adds up what was paid and bought as acknowledgements
arrive. Their amounts are `Long` objects, which `+` turns into texts: from
the first acknowledgement on the counters are texts, and the digits of one
amount stand behind those of the one before.
-/

namespace BitMesh.WebClient.Mobile

open BitMesh.Lib (decimal parseDigits parseSigned)
open BitMesh.Lib.Javascript

/-- What `receive_payment_ack` reads of a PAYMENT_ACK. -/
structure PaymentAck where
  amountPurchased : Int64
  amountSpent : Int64

/-- `time_purchased` and `total_paid`. -/
structure Counters where
  timePurchased : Value := .number 0
  totalPaid : Value := .number 0

/-- `Long.toString`. -/
def longToText (n : Int64) : List Char := decimal n.toInt

/-- `receive_payment_ack`. -/
def receivePaymentAck (counters : Counters) (paymentAck : PaymentAck) : Counters :=
  let purchaseAmount := longToText paymentAck.amountPurchased
  let paymentAmount := longToText paymentAck.amountSpent
  let timePurchased := counters.timePurchased.parseInt
  { timePurchased := timePurchased.plusObject purchaseAmount
    totalPaid := counters.totalPaid.plusObject paymentAmount }

/-- `get_time_left`. -/
def getTimeLeft (counters : Counters) (pricePerSecond timeSpent : ℚ) : Number :=
  (counters.totalPaid.toNumber.divide pricePerSecond).minus timeSpent

/-- The counters after a sequence of acknowledgements. -/
def run (acks : List PaymentAck) : Counters := acks.foldl receivePaymentAck {}

def spent (acks : List PaymentAck) : Int := (acks.map fun ack => ack.amountSpent.toInt).sum

def purchased (acks : List PaymentAck) : Int := (acks.map fun ack => ack.amountPurchased.toInt).sum

/-- The page has added up what it bought. -/
structure AddsUp (acks : List PaymentAck) (pricePerSecond timeSpent : ℚ) : Prop where
  totalPaid : (run acks).totalPaid = .number (spent acks)
  timePurchased : (run acks).timePurchased = .number (purchased acks)
  timeLeft : getTimeLeft (run acks) pricePerSecond timeSpent =
    .finite (spent acks / pricePerSecond - timeSpent)

theorem run_concat (acks : List PaymentAck) (ack : PaymentAck) :
    run (acks ++ [ack]) = receivePaymentAck (run acks) ack := by
  simp [run]

/-! ## What the counters become -/

/-- The digits stand one behind the other, after the 0 of the beginning. -/
theorem totalPaid_run (acks : List PaymentAck) :
    (run acks).totalPaid.toText = '0' :: acks.flatMap fun ack => longToText ack.amountSpent := by
  induction acks using List.reverseRecOn with
  | nil => decide
  | append_singleton acks ack ih =>
      rw [run_concat]
      show (run acks).totalPaid.toText ++ longToText ack.amountSpent = _
      rw [ih]
      simp

/-- One acknowledgement is enough to make both of them texts. -/
theorem run_isText {acks : List PaymentAck} (h : acks ≠ []) :
    (∃ s, (run acks).totalPaid = .text s) ∧ ∃ s, (run acks).timePurchased = .text s := by
  obtain ⟨earlier, last, rfl⟩ := List.eq_nil_or_concat' acks |>.resolve_left h
  rw [run_concat]
  exact ⟨⟨_, rfl⟩, ⟨_, rfl⟩⟩

/-- The time left is that of the number the joined digits denote. -/
theorem getTimeLeft_run {acks : List PaymentAck} (h : acks ≠ [])
    (hnonneg : ∀ ack ∈ acks, 0 ≤ ack.amountSpent.toInt) {pricePerSecond : ℚ}
    (hprice : pricePerSecond ≠ 0) (timeSpent : ℚ) :
    getTimeLeft (run acks) pricePerSecond timeSpent =
      .finite (Nat.ofDigitChars 10 (acks.flatMap fun ack => longToText ack.amountSpent) 0 /
        pricePerSecond - timeSpent) := by
  have hdigits : ∀ c ∈ acks.flatMap fun ack => longToText ack.amountSpent, c.isDigit = true := by
    intro c hc
    obtain ⟨ack, hack, hc⟩ := List.mem_flatMap.mp hc
    obtain ⟨n, hn⟩ := Int.eq_ofNat_of_zero_le (hnonneg ack hack)
    rw [longToText, hn] at hc
    exact Lib.isDigit_of_mem_digits hc
  have hread (digits : List Char) (hdigits : ∀ c ∈ digits, c.isDigit = true) :
      parseSigned ('0' :: digits) = some (Nat.ofDigitChars 10 digits 0 : Int) := by
    have hall : ∀ c ∈ '0' :: digits, c.isDigit = true := List.forall_mem_cons.mpr ⟨rfl, hdigits⟩
    rw [Lib.parseSigned_digits hall, parseDigits,
      if_pos ⟨List.cons_ne_nil _ _, List.all_eq_true.mpr hall⟩]
    simp [Nat.ofDigitChars_cons]
  obtain ⟨s, hs⟩ := (run_isText h).1
  have htext := totalPaid_run acks
  rw [hs] at htext
  obtain rfl : s = '0' :: acks.flatMap fun ack => longToText ack.amountSpent := htext
  rw [getTimeLeft, hs, Value.toNumber, hread _ hdigits]
  simp [Number.divide, Number.minus, hprice]

/-- The sums are right only before anything was acknowledged. -/
theorem adds_up_iff (acks : List PaymentAck) (pricePerSecond timeSpent : ℚ) :
    AddsUp acks pricePerSecond timeSpent ↔ acks = [] ∧ pricePerSecond ≠ 0 := by
  constructor
  · intro h
    have hnone : acks = [] := by
      by_contra hsome
      obtain ⟨s, hs⟩ := (run_isText hsome).1
      have hnumber := h.totalPaid
      rw [hs] at hnumber
      cases hnumber
    subst hnone
    refine ⟨rfl, fun hprice => ?_⟩
    -- nothing is divided by nothing
    have hleft := h.timeLeft
    simp [getTimeLeft, run, Value.toNumber, Number.divide, Number.minus, hprice] at hleft
  · rintro ⟨rfl, hprice⟩
    refine ⟨rfl, rfl, ?_⟩
    simp [getTimeLeft, run, spent, Value.toNumber, Number.divide, Number.minus, hprice]

/-- Two payments of 1000 satoshis at a price of 1 leave ten million and one
thousand seconds. -/
theorem payments_joined :
    let acks : List PaymentAck := [⟨1000, 1000⟩, ⟨1000, 1000⟩]
    ¬ AddsUp acks 1 0 ∧ spent acks = 2000 ∧
      (run acks).totalPaid = .text ['0', '1', '0', '0', '0', '1', '0', '0', '0'] ∧
      (run acks).timePurchased = .text ['1', '0', '0', '0', '1', '0', '0', '0'] ∧
      getTimeLeft (run acks) 1 0 = .finite 10001000 := by
  refine ⟨fun h => ?_, by decide, by decide +kernel, by decide +kernel, by decide +kernel⟩
  exact absurd h.totalPaid (by decide +kernel)

end BitMesh.WebClient.Mobile
