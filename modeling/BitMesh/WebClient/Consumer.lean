import BitMesh.Channels.Client
import BitMesh.Channels.Paying
import BitMesh.WebClient.Bitcore

/-!
# The browser's side of the money

`Consumer` of bitcore-channel builds the contract, the refund and the
payments. The contract's output is what is left of the inputs after a fee
estimated without that output; refund and payments start from what is left
after a fee estimated with it.
-/

namespace BitMesh.WebClient

open BitMesh.Bitcoin (Bytes Script)

/-! ## The code -/

/-- A pay-to-script-hash script: two opcodes around a hash with its length. -/
structure ScriptHashOut where
  script : Script
  length_eq : script.program.length = 23

/-- What `$.checkState` throws. -/
structure InvalidState where
  message : String
  deriving DecidableEq, Repr

def checkState (condition : Bool) (message : String) : Except InvalidState Unit :=
  if condition then .ok () else .error ⟨message⟩

structure PaymentOutput where
  script : Script
  satoshis : ℚ
  deriving DecidableEq, Repr

/-- A `Payment`. Its outputs are the client's change, if any is left. The
increments need not be whole numbers. -/
structure Payment where
  amount : ℚ
  paid : ℚ
  sequence : Nat
  changeAddress : Script
  outputs : List PaymentOutput
  deriving DecidableEq, Repr

namespace Payment

def new (satoshis : Int) (changeAddress : Script) : Payment where
  amount := satoshis
  paid := 0
  sequence := 0
  changeAddress := changeAddress
  outputs := []

/-- `updateValue`, with `_updateTransaction`. -/
def updateValue (payment : Payment) (delta : ℚ) : Payment :=
  let paid := payment.paid + delta
  let refund := payment.amount - paid
  { payment with
    paid := paid
    sequence := payment.sequence + 1
    outputs := if refund ≠ 0 then [⟨payment.changeAddress, refund⟩] else [] }

/-- `refund_amount` of `increment_payment`. -/
def refundAmount (payment : Payment) : ℚ :=
  match payment.outputs with
  | output :: _ => output.satoshis
  | [] => 0

/-- `Long.fromNumber(value)`: a whole number goes over the wire. -/
def longFromNumber (value : ℚ) : Int := if value < 0 then -⌊-value⌋ else ⌊value⌋

/-- The change that the server is told. -/
def clientChangeValue (payment : Payment) : Int := longFromNumber payment.refundAmount

theorem longFromNumber_intCast (n : Int) : longFromNumber n = n := by
  unfold longFromNumber
  split
  · rw [← Int.cast_neg, Int.floor_intCast, neg_neg]
  · exact Int.floor_intCast n

end Payment

structure Consumer where
  /-- `commitmentTx.outscript`. -/
  outscript : ScriptHashOut
  /-- The output script of the client's refund address. -/
  refundAddress : Script
  commitmentTx : Transaction
  refundTx : Option Transaction
  paymentTx : Option Payment

namespace Consumer

/-- The constructor; that of `Commitment` sets the change address. -/
def new (outscript : ScriptHashOut) (refundAddress : Script) : Consumer where
  outscript := outscript
  refundAddress := refundAddress
  commitmentTx := ({} : Transaction).change outscript.script
  refundTx := none
  paymentTx := none

/-- `from`, and the assignment that forgets the outputs but not their sum. -/
def attach (tx : Transaction) (utxo : UnspentOutput) : Transaction :=
  { tx.fromUtxo utxo with outputs := [] }

def processFunding (consumer : Consumer) (utxo : UnspentOutput) : Consumer :=
  let tx := attach consumer.commitmentTx utxo
  { consumer with
    commitmentTx := tx.cached.addOutput ⟨consumer.outscript.script, tx.inputAmount - tx.getFee⟩ }

/-- What the refund and the payments are made of. -/
def spendable (consumer : Consumer) : Int :=
  consumer.commitmentTx.inputAmount - consumer.commitmentTx.getFee

/-- `MultiSigScriptHashInput._estimateSize` for two of two keys. -/
def multisigInputSize : Nat := 7 + 2 * 74 + 2 * 34

variable (id : Transaction → Bytes)

/-- `setupRefund`, given whether the contract got all its signatures. -/
def setupRefund (consumer : Consumer) (fullySigned : Bool) :
    Except InvalidState (Consumer × Transaction) := do
  checkState fullySigned "Invalid state"
  let tx := consumer.commitmentTx
  let refund := ({} : Transaction).addInput ⟨id tx, 0, consumer.spendable, multisigInputSize⟩
  let refund := refund.addOutput ⟨consumer.refundAddress, refund.inputAmount⟩
  return ({ consumer with commitmentTx := tx.cached, refundTx := some refund }, refund)

/-- `validateRefund`, given whether the refund got all its signatures and
whether they verify. -/
def validateRefund (consumer : Consumer) (refund : Transaction) (fullySigned verified : Bool) :
    Except InvalidState Consumer := do
  match refund.outputs with
  | [] => throw ⟨"Cannot read property 'script' of undefined"⟩
  | output :: _ =>
      checkState (output.script = consumer.refundAddress) "Invalid state"
      checkState (output.satoshis = consumer.spendable)
        "Refund amount must equal commitmentTx amount"
      checkState (refund.outputs.length = 1) "More than expected outputs received"
      checkState fullySigned "Refund was not fully signed"
      checkState verified "Refund is incorrectly signed"
      return { consumer with
        commitmentTx := consumer.commitmentTx.cached
        refundTx := some refund
        paymentTx := some (.new output.satoshis consumer.refundAddress) }

end Consumer

/-! ## The contract's output -/

/-- The size of a contract with `n` inputs before it has an output. -/
def contractSize (n : Nat) : Nat := maximumExtraSize + n * scriptMaxSize

/-- The inputs of a contract: pay-to-pubkey-hash outputs, whose sum is
known. -/
structure Spends (tx : Transaction) (total : Int) : Prop where
  sizes : ∀ input ∈ tx.inputs, input.estimateSize = scriptMaxSize
  nonneg : ∀ input ∈ tx.inputs, 0 ≤ input.satoshis
  amount : tx.inputAmount = total
  total_eq : (tx.inputs.map (·.satoshis)).sum = total

theorem Spends.estimateSize {tx : Transaction} {total : Int} (h : Spends tx total) :
    tx.estimateSize = contractSize tx.inputs.length + (tx.outputs.map (·.size)).sum := by
  have hsum : (tx.inputs.map (·.estimateSize)).sum = tx.inputs.length * scriptMaxSize := by
    have hconst := List.map_congr_left h.sizes
    rw [hconst, List.map_const', List.sum_replicate, smul_eq_mul]
  rw [Transaction.estimateSize, hsum]
  rfl

/-- The total is more than the fee for these inputs. -/
def Covers (n : Nat) (total : Int) : Prop := estimateFee (contractSize n) total < total

instance Covers.decidable (n : Nat) (total : Int) : Decidable (Covers n total) :=
  inferInstanceAs (Decidable (_ < _))

theorem Covers.kilobytes_lt {n : Nat} {total : Int} (h : Covers n total) :
    (kilobytes (contractSize n) : Int) < total :=
  kilobytes_lt_of_estimateFee_lt h

/-- What the contract's output costs if the total covers it. -/
def fullFee (n : Nat) : Int := kilobytes (contractSize n + changeOutputMaxSize) * feePerKb

theorem le_fullFee (n : Nat) : (kilobytes (contractSize n) * feePerKb : Int) ≤ fullFee n := by
  have hmono : kilobytes (contractSize n) ≤ kilobytes (contractSize n + changeOutputMaxSize) :=
    kilobytes_mono (Nat.le_add_right _ _)
  unfold fullFee
  exact_mod_cast Nat.mul_le_mul_right feePerKb hmono

theorem contractSize_pos (n : Nat) : 0 < contractSize n :=
  Nat.lt_of_lt_of_le (by decide) (Nat.le_add_right maximumExtraSize _)

theorem contractSize_succ (n : Nat) : contractSize (n + 1) = contractSize n + scriptMaxSize := by
  rw [contractSize, contractSize, Nat.succ_mul, Nat.add_assoc]

/-- A contract between two outputs: the sum of the old ones may still be
remembered. -/
structure Cleared (script : Script) (tx : Transaction) (total : Int) : Prop
    extends Spends tx total where
  changeScript : tx.changeScript = some script
  outputs : tx.outputs = []
  index : tx.changeIndex = none ∨ (tx.changeIndex = some 0 ∧ Covers tx.inputs.length total) ∨
    tx.changeIndex = some 1
  available : Covers tx.inputs.length total →
    (kilobytes (contractSize tx.inputs.length) : Int) < tx.getUnspentValue

/-- A contract with its output. -/
structure Funded (script : Script) (tx : Transaction) (total : Int) : Prop
    extends Spends tx total where
  changeScript : tx.changeScript = some script
  index : tx.changeIndex = none ∨ (tx.changeIndex = some 0 ∧ Covers tx.inputs.length total)
  output : ∃ fee, tx.outputs = [⟨script, total - fee⟩] ∧
    kilobytes (contractSize tx.inputs.length) * feePerKb ≤ fee ∧
    (Covers tx.inputs.length total → fee = fullFee tx.inputs.length)
  outputAmount : tx.outputAmount = (tx.outputs.map (·.satoshis)).sum

theorem Spends.getFee_eq {tx : Transaction} {total : Int} {script : Script}
    (h : Spends tx total) (hscript : tx.changeScript = some script) :
    tx.getFee = estimateFee
      (contractSize tx.inputs.length + (tx.outputs.map (·.size)).sum) tx.getUnspentValue := by
  rw [Transaction.getFee, hscript, h.estimateSize]

section Change

variable {outscript : ScriptHashOut} {tx : Transaction} {total fee : Int}

/-- An output that leaves no more than its own fee gets no change beside it. -/
theorem Funded.of_kept (h : Spends tx total) (hscript : tx.changeScript = some outscript.script)
    (houtputs : tx.outputs = [⟨outscript.script, total - fee⟩])
    (hamount : tx.outputAmount = total - fee)
    (hlow : kilobytes (contractSize tx.inputs.length) * feePerKb ≤ fee)
    (hhigh : fee ≤ fullFee tx.inputs.length)
    (hexact : Covers tx.inputs.length total → fee = fullFee tx.inputs.length) :
    Funded outscript.script (tx.withChange outscript.script) total := by
  have hunspent : tx.getUnspentValue = fee := by
    rw [Transaction.getUnspentValue, h.amount, hamount]
    omega
  have hsize : (tx.outputs.map (·.size)).sum = 32 := by
    rw [houtputs]
    simp [Output.size, outscript.length_eq]
  -- the fee with the output in place is no smaller
  have hlt : (kilobytes (contractSize tx.inputs.length + 32) : Int) < fee := by
    have hadd : kilobytes (contractSize tx.inputs.length + 32) <
        kilobytes (contractSize tx.inputs.length) * feePerKb :=
      kilobytes_add_lt (contractSize_pos _) (by decide)
    refine lt_of_lt_of_le ?_ hlow
    exact_mod_cast hadd
  have hfee : fee ≤ tx.getFee := by
    rw [h.getFee_eq hscript, hsize, hunspent, estimateFee_of_lt hlt]
    refine hhigh.trans ?_
    have hmono : kilobytes (contractSize tx.inputs.length + changeOutputMaxSize) ≤
        kilobytes (contractSize tx.inputs.length + 32 + changeOutputMaxSize) :=
      kilobytes_mono (by omega)
    unfold fullFee
    exact_mod_cast Nat.mul_le_mul_right feePerKb hmono
  rw [Transaction.withChange_of_le (by omega)]
  exact
    { sizes := h.sizes
      nonneg := h.nonneg
      amount := h.amount
      total_eq := h.total_eq
      changeScript := hscript
      index := .inl rfl
      output := ⟨fee, houtputs, hlow, hexact⟩
      outputAmount := by
        show tx.outputAmount = _
        rw [hamount]
        simp [Transaction.cached, houtputs] }

/-- Without an output the change is the output, if the total covers it. -/
theorem Funded.of_replaced (h : Spends tx total)
    (hscript : tx.changeScript = some outscript.script) (houtputs : tx.outputs = [])
    (hamount : tx.outputAmount = 0) (hcovers : Covers tx.inputs.length total) :
    Funded outscript.script (tx.withChange outscript.script) total := by
  have hunspent : tx.getUnspentValue = total := by
    rw [Transaction.getUnspentValue, h.amount, hamount, Int.sub_zero]
  have hfee : tx.getFee = fullFee tx.inputs.length := by
    rw [h.getFee_eq hscript, houtputs, hunspent]
    exact estimateFee_of_lt hcovers.kilobytes_lt
  have hpos : 0 < tx.getUnspentValue - tx.getFee := by
    have hless : estimateFee (contractSize tx.inputs.length) total < total := hcovers
    rw [estimateFee_of_lt hcovers.kilobytes_lt] at hless
    rw [hunspent, hfee]
    unfold fullFee
    omega
  rw [Transaction.withChange_of_pos hpos, hunspent, hfee]
  refine { sizes := h.sizes, nonneg := h.nonneg, amount := h.amount, total_eq := h.total_eq
           changeScript := hscript, index := .inr ⟨?_, hcovers⟩
           output := ⟨fullFee tx.inputs.length, ?_, le_fullFee _, fun _ => rfl⟩
           outputAmount := ?_ }
  · simp [houtputs]
  · simp [Transaction.pushOutput, Transaction.cached, houtputs]
  · simp [Transaction.outputAmount, Transaction.pushOutput]

/-- The output is added, and replaced by the change if there was one. -/
theorem Cleared.addOutput (h : Cleared outscript.script tx total) :
    Funded outscript.script
      (tx.cached.addOutput ⟨outscript.script, tx.inputAmount - tx.getFee⟩) total := by
  have hspends : ∀ t : Transaction, t.inputs = tx.inputs → t.inputAmount = tx.inputAmount →
      Spends t total := fun t hinputs hamount =>
    ⟨hinputs ▸ h.sizes, hinputs ▸ h.nonneg, hamount.trans h.amount, hinputs ▸ h.total_eq⟩
  have hfee : tx.getFee = estimateFee (contractSize tx.inputs.length) tx.getUnspentValue := by
    rw [h.getFee_eq h.changeScript, h.outputs]
    rfl
  have hscript : (tx.cached.pushOutput
      ⟨outscript.script, total - tx.getFee⟩).changeScript = some outscript.script :=
    h.changeScript
  have houtputs : (tx.cached.pushOutput ⟨outscript.script, total - tx.getFee⟩).outputs =
      [⟨outscript.script, total - tx.getFee⟩] := by
    simp [Transaction.pushOutput, Transaction.cached, h.outputs]
  -- with no change in the first place, the new output stays
  have hkept : ∀ t : Transaction, t.inputs = tx.inputs → t.inputAmount = tx.inputAmount →
      t.changeScript = some outscript.script → t.cachedOutputAmount = none →
      t.outputs = [⟨outscript.script, total - tx.getFee⟩] →
      Funded outscript.script (t.withChange outscript.script) total := by
    intro t hinputs hamount hscript hcache houtputs
    refine Funded.of_kept (hspends t hinputs hamount) hscript houtputs ?_ ?_ ?_ ?_
    · simp [Transaction.outputAmount, hcache, houtputs]
    · rw [hinputs, hfee]
      exact le_estimateFee _ _
    · rw [hinputs, hfee]
      exact estimateFee_le _ _
    · intro hcovers
      rw [hinputs] at hcovers ⊢
      rw [hfee]
      exact estimateFee_of_lt (h.available hcovers)
  rw [h.amount, Transaction.addOutput, Transaction.updateChangeOutput_eq hscript,
    Transaction.withoutChange]
  rcases h.index with hindex | ⟨hindex, hcovers⟩ | hindex
  · rw [show (tx.cached.pushOutput _).changeIndex = none from hindex]
    exact hkept _ rfl rfl hscript rfl houtputs
  · rw [show (tx.cached.pushOutput _).changeIndex = some 0 from hindex]
    refine Funded.of_replaced (hspends _ rfl rfl) hscript ?_ ?_ hcovers
    · simp [Transaction.removeOutput, houtputs]
    · simp [Transaction.outputAmount, Transaction.removeOutput, houtputs]
  · rw [show (tx.cached.pushOutput _).changeIndex = some 1 from hindex]
    refine hkept _ rfl rfl hscript rfl ?_
    simp [Transaction.removeOutput, houtputs]

/-- A contract that the next output is added to: what is left of it without
its change. -/
structure Ready (script : Script) (tx : Transaction) (total : Int) : Prop
    extends Spends tx total where
  changeScript : tx.changeScript = some script
  rest : (tx.withoutChange.outputs = [] ∧ tx.withoutChange.outputAmount = 0) ∨
    ∃ fee, tx.withoutChange.outputs = [⟨script, total - fee⟩] ∧
      tx.withoutChange.outputAmount = total - fee ∧
      kilobytes (contractSize tx.inputs.length) * feePerKb ≤ fee

theorem Funded.ready (h : Funded outscript.script tx total) : Ready outscript.script tx total := by
  obtain ⟨fee, houtputs, hlow, -⟩ := h.output
  refine ⟨h.toSpends, h.changeScript, ?_⟩
  rw [Transaction.withoutChange]
  rcases h.index with hindex | ⟨hindex, -⟩
  · rw [hindex]
    refine .inr ⟨fee, houtputs, ?_, hlow⟩
    rw [h.outputAmount, houtputs]
    simp
  · rw [hindex]
    refine .inl ⟨?_, ?_⟩
    · simp [Transaction.removeOutput, houtputs]
    · simp [Transaction.outputAmount, Transaction.removeOutput, houtputs]

theorem ready_new (outscript : ScriptHashOut) (refundAddress : Script) :
    Ready outscript.script (Consumer.new outscript refundAddress).commitmentTx 0 := by
  have hnew : (Consumer.new outscript refundAddress).commitmentTx =
      { changeScript := some outscript.script
        cachedInputAmount := some 0
        cachedOutputAmount := some 0 } := by
    -- there is nothing to spend, so there is no change
    show Transaction.withChange { changeScript := some outscript.script } outscript.script = _
    rw [Transaction.withChange_of_le]
    · rfl
    · show (0 : Int) - estimateFee maximumExtraSize 0 ≤ 0
      decide
  rw [hnew]
  refine ⟨⟨?_, ?_, rfl, rfl⟩, rfl, .inl ⟨rfl, rfl⟩⟩
  · intro input hmem
    cases hmem
  · intro input hmem
    cases hmem

/-- The change of a contract with more inputs is dropped with the other
outputs. -/
theorem Cleared.of_withChange (h : Spends tx total)
    (hscript : tx.changeScript = some outscript.script)
    (hrest : (tx.outputs = [] ∧ tx.outputAmount = 0) ∨
      (tx.outputs.length = 1 ∧
        (kilobytes (contractSize tx.inputs.length) : Int) < tx.getUnspentValue)) :
    Cleared outscript.script { tx.withChange outscript.script with outputs := [] } total := by
  rcases lt_or_ge 0 (tx.getUnspentValue - tx.getFee) with hpos | hle
  · rw [Transaction.withChange_of_pos hpos]
    refine { sizes := h.sizes, nonneg := h.nonneg, amount := h.amount, total_eq := h.total_eq
             changeScript := hscript, outputs := rfl, index := .inr ?_, available := ?_ }
    · rcases hrest with ⟨houtputs, hamount⟩ | ⟨hlength, -⟩
      · refine .inl ⟨by rw [houtputs]; rfl, ?_⟩
        rw [h.getFee_eq hscript, houtputs, Transaction.getUnspentValue, h.amount, hamount,
          Int.sub_zero] at hpos
        show estimateFee (contractSize tx.inputs.length) total < total
        exact Int.lt_of_sub_pos hpos
      · exact .inr (by rw [hlength])
    · -- the push forgot the amount of the outputs, and the assignment the outputs
      intro hcovers
      have hunspent : tx.inputAmount - 0 = total := by rw [h.amount, Int.sub_zero]
      exact lt_of_lt_of_eq hcovers.kilobytes_lt hunspent.symm
  · rw [Transaction.withChange_of_le hle]
    refine { sizes := h.sizes, nonneg := h.nonneg, amount := h.amount, total_eq := h.total_eq
             changeScript := hscript, outputs := rfl, index := .inl rfl, available := ?_ }
    intro hcovers
    show (kilobytes (contractSize tx.inputs.length) : Int) < tx.getUnspentValue
    rcases hrest with ⟨-, hamount⟩ | ⟨-, hlt⟩
    · rw [Transaction.getUnspentValue, h.amount, hamount, Int.sub_zero]
      exact hcovers.kilobytes_lt
    · exact hlt

/-- An output that is spent already only clears the outputs. -/
theorem Funded.cleared (h : Funded outscript.script tx total) :
    Cleared outscript.script { tx with outputs := [] } total := by
  refine { sizes := h.sizes, nonneg := h.nonneg, amount := h.amount, total_eq := h.total_eq
           changeScript := h.changeScript, outputs := rfl, index := ?_, available := ?_ }
  · exact h.index.imp_right .inl
  · intro hcovers
    obtain ⟨fee, houtputs, hlow, -⟩ := h.output
    have hamount := h.outputAmount
    show _ < tx.inputAmount - tx.cachedOutputAmount.getD 0
    rw [h.amount]
    cases hcache : tx.cachedOutputAmount with
    | none => simpa using hcovers.kilobytes_lt
    | some sum =>
        rw [Transaction.outputAmount, hcache, houtputs] at hamount
        simp only [Option.getD_some, List.map_cons, List.map_nil, List.sum_cons, List.sum_nil,
          Int.add_zero] at hamount
        have hadd : kilobytes (contractSize tx.inputs.length + 0) <
            kilobytes (contractSize tx.inputs.length) * feePerKb :=
          kilobytes_add_lt (contractSize_pos _) (by decide)
        rw [Option.getD_some, hamount]
        rw [Nat.add_zero] at hadd
        show (kilobytes (contractSize tx.inputs.length) : Int) < _
        have hlow' : ((kilobytes (contractSize tx.inputs.length) * feePerKb : Nat) : Int) ≤ fee := by
          exact_mod_cast hlow
        omega

/-- A new input: its amount is spent, and the outputs are cleared. -/
theorem Ready.addInput (h : Ready outscript.script tx total) {utxo : UnspentOutput}
    (hkind : utxo.isPublicKeyHashOut) :
    Cleared outscript.script { tx.addInput (.ofUtxo utxo) with outputs := [] }
      (total + utxo.satoshis) := by
  have hsum : ((tx.inputs ++ [Input.ofUtxo utxo]).map (·.satoshis)).sum =
      total + utxo.satoshis := by
    rw [List.map_append, List.sum_append, h.total_eq]
    simp [Input.ofUtxo]
  have hspends : ∀ t : Transaction, t.inputs = tx.inputs ++ [.ofUtxo utxo] →
      t.cachedInputAmount = none → Spends t (total + utxo.satoshis) := by
    intro t hinputs hcache
    refine ⟨?_, ?_, ?_, ?_⟩
    · intro input hmem
      rw [hinputs, List.mem_append, List.mem_singleton] at hmem
      rcases hmem with hold | rfl
      · exact h.sizes input hold
      · exact if_pos hkind
    · intro input hmem
      rw [hinputs, List.mem_append, List.mem_singleton] at hmem
      rcases hmem with hold | rfl
      · exact h.nonneg input hold
      · exact Int.natCast_nonneg _
    · rw [Transaction.inputAmount, hcache, hinputs]
      exact hsum
    · rw [hinputs]
      exact hsum
  have hscript : tx.withoutChange.changeScript = some outscript.script :=
    Transaction.withoutChange_changeScript.trans h.changeScript
  have hgrown : Transaction.changeScript { tx with
      inputs := tx.inputs ++ [.ofUtxo utxo], cachedInputAmount := none } =
      some outscript.script := h.changeScript
  rw [Transaction.addInput, Transaction.updateChangeOutput_eq hgrown,
    Transaction.withoutChange_inputs]
  refine Cleared.of_withChange (hspends _ rfl rfl) hscript (h.rest.imp_right ?_)
  rintro ⟨fee, hone, hless, hlow⟩
  refine ⟨by rw [hone]; rfl, ?_⟩
  -- the old fee counts more satoshis than the new size has kilobytes
  have hadd : kilobytes (contractSize tx.inputs.length + scriptMaxSize) <
      kilobytes (contractSize tx.inputs.length) * feePerKb :=
    kilobytes_add_lt (contractSize_pos _) (by decide)
  have hlow' : ((kilobytes (contractSize tx.inputs.length) * feePerKb : Nat) : Int) ≤ fee := by
    exact_mod_cast hlow
  have hamount : Transaction.inputAmount { tx.withoutChange with
      inputs := tx.inputs ++ [.ofUtxo utxo], cachedInputAmount := none } = total + utxo.satoshis :=
    hsum
  rw [List.length_append, List.length_singleton, contractSize_succ, Transaction.getUnspentValue,
    hamount]
  show _ < total + utxo.satoshis - tx.withoutChange.outputAmount
  rw [hless]
  omega

end Change

/-! ## A list of funding outputs -/

/-- An output that is spent already is skipped. -/
def keep (kept : List UnspentOutput) (utxo : UnspentOutput) : List UnspentOutput :=
  if kept.any (·.outpoint = utxo.outpoint) then kept else kept ++ [utxo]

/-- The outputs that become inputs: for each outpoint the first one. -/
def distinct (utxos : List UnspentOutput) : List UnspentOutput := utxos.foldl keep []

/-- What a list of outputs is worth. -/
def worth (utxos : List UnspentOutput) : Int := (utxos.map fun utxo => (utxo.satoshis : Int)).sum

/-- The loop of `create_payment_channel`. -/
def Consumer.processAll (consumer : Consumer) (utxos : List UnspentOutput) : Consumer :=
  utxos.foldl Consumer.processFunding consumer

/-- The consumer's contract spends these outputs. -/
structure Consumer.Holds (consumer : Consumer) (kept : List UnspentOutput) : Prop where
  inputs : consumer.commitmentTx.inputs = kept.map .ofUtxo
  ready : Ready consumer.outscript.script consumer.commitmentTx (worth kept)
  funded : kept ≠ [] → Funded consumer.outscript.script consumer.commitmentTx (worth kept)

theorem keep_ne_nil (kept : List UnspentOutput) (utxo : UnspentOutput) : keep kept utxo ≠ [] := by
  unfold keep
  split
  · rintro rfl
    contradiction
  · exact List.append_ne_nil_of_right_ne_nil _ (List.cons_ne_nil _ _)

theorem distinct_ne_nil {utxos : List UnspentOutput} (h : utxos ≠ []) : distinct utxos ≠ [] := by
  obtain ⟨init, last, rfl⟩ := List.eq_nil_or_concat utxos |>.resolve_left h
  rw [distinct, List.concat_eq_append, List.foldl_append]
  exact keep_ne_nil _ _

namespace Consumer.Holds

variable {consumer : Consumer} {kept : List UnspentOutput}

theorem processFunding (h : consumer.Holds kept) {utxo : UnspentOutput}
    (hkind : utxo.isPublicKeyHashOut) :
    (consumer.processFunding utxo).Holds (keep kept utxo) := by
  have hany : (consumer.commitmentTx.inputs.any fun input =>
      input.prevTxId = utxo.txId ∧ input.outputIndex = utxo.outputIndex) =
      kept.any (·.outpoint = utxo.outpoint) := by
    rw [Bool.eq_iff_iff, h.inputs]
    simp only [List.any_eq_true, List.mem_map, exists_exists_and_eq_and, Input.ofUtxo,
      UnspentOutput.outpoint, Prod.mk.injEq]
  have hadd : ∀ {kept' : List UnspentOutput},
      (attach consumer.commitmentTx utxo).inputs = kept'.map .ofUtxo →
      Cleared consumer.outscript.script (attach consumer.commitmentTx utxo) (worth kept') →
      (consumer.processFunding utxo).Holds kept' := by
    intro kept' hinputs hcleared
    have hfunded := hcleared.addOutput
    refine ⟨?_, hfunded.ready, fun _ => hfunded⟩
    rw [← hinputs]
    exact Transaction.updateChangeOutput_inputs
  unfold keep
  split
  case isTrue hmem =>
    have hsame : consumer.commitmentTx.fromUtxo utxo = consumer.commitmentTx :=
      if_pos (hany.trans hmem)
    apply hadd
    · rw [attach, hsame]
      exact h.inputs
    · rw [attach, hsame]
      refine (h.funded ?_).cleared
      rintro rfl
      contradiction
  case isFalse hmem =>
    have hnew : consumer.commitmentTx.fromUtxo utxo =
        consumer.commitmentTx.addInput (.ofUtxo utxo) :=
      if_neg (by rw [hany]; exact hmem)
    have hworth : worth (kept ++ [utxo]) = worth kept + utxo.satoshis := by simp [worth]
    apply hadd
    · rw [attach, hnew]
      show (consumer.commitmentTx.addInput (.ofUtxo utxo)).inputs = _
      rw [Transaction.addInput, Transaction.updateChangeOutput_inputs, h.inputs, List.map_append,
        List.map_singleton]
    · rw [attach, hnew, hworth]
      exact h.ready.addInput hkind

theorem processAll (utxos : List UnspentOutput) (hkind : ∀ utxo ∈ utxos, utxo.isPublicKeyHashOut)
    (h : consumer.Holds kept) : (consumer.processAll utxos).Holds (utxos.foldl keep kept) := by
  induction utxos generalizing consumer kept with
  | nil => exact h
  | cons utxo utxos ih =>
      have hfirst := h.processFunding (hkind utxo List.mem_cons_self)
      exact ih (fun u hmem => hkind u (List.mem_cons_of_mem _ hmem)) hfirst

theorem new (outscript : ScriptHashOut) (refundAddress : Script) :
    (Consumer.new outscript refundAddress).Holds [] := by
  have hready := ready_new outscript refundAddress
  exact ⟨Transaction.updateChangeOutput_inputs, hready, fun h => absurd rfl h⟩

end Consumer.Holds

/-! ## The two sides -/

open BitMesh.Channels (Platform Env World StateRef incrementPayment incrementPayment_spec)

open BitMesh.Bitcoin (Coin)

/-- The output does not start another kilobyte. -/
def SameKilobyte (n : Nat) : Prop :=
  kilobytes (contractSize n + 32 + changeOutputMaxSize) =
    kilobytes (contractSize n + changeOutputMaxSize)

instance SameKilobyte.decidable (n : Nat) : Decidable (SameKilobyte n) :=
  inferInstanceAs (Decidable (_ = _))

/-- The browser's updates by these increments that `incrementPayment`
accepts, between which the server may do anything that is not about this
channel's money. -/
inductive Updates (p : Platform) (s : StateRef) (first : Payment × World) :
    List ℚ → Payment × World → Prop
  | refl : Updates p s first [] first
  | update {payment : Payment} {w w' : World} {env : Env} {deltas : List ℚ} {delta : ℚ}
      {refundSize : Coin} {signature : Bytes} {usable : Bool}
      (before : Updates p s first deltas (payment, w))
      (size : refundSize.value = (payment.updateValue delta).clientChangeValue)
      (accepted : (incrementPayment p env s refundSize signature).run w = .ok usable w') :
      Updates p s first (delta :: deltas) (payment.updateValue delta, w')
  | other {payment : Payment} {w w' : World} {deltas : List ℚ}
      (before : Updates p s first deltas (payment, w))
      (totalValue : (w'.states.read s).totalValue = (w.states.read s).totalValue)
      (best : (w'.states.read s).bestValueToMe = (w.states.read s).bestValueToMe) :
      Updates p s first deltas (payment, w')

/-- A whole number of satoshis. -/
def IsWhole (value : ℚ) : Prop := ∃ n : Int, value = n

section Agreement

variable {outscript : ScriptHashOut} {tx : Transaction} {total : Int}

/-- What the refund spends: the fee is estimated again, now with the
output. -/
theorem Funded.inputAmount_sub_getFee (h : Funded outscript.script tx total) :
    tx.inputAmount - tx.getFee = total -
      kilobytes (contractSize tx.inputs.length + 32 + changeOutputMaxSize) * feePerKb := by
  obtain ⟨fee, houtputs, hlow, -⟩ := h.output
  have hsize : (tx.outputs.map (·.size)).sum = 32 := by
    rw [houtputs]
    simp [Output.size, outscript.length_eq]
  have hunspent : tx.getUnspentValue = fee := by
    rw [Transaction.getUnspentValue, h.amount, h.outputAmount, houtputs]
    simp
  have hadd : kilobytes (contractSize tx.inputs.length + 32) <
      kilobytes (contractSize tx.inputs.length) * feePerKb :=
    kilobytes_add_lt (contractSize_pos _) (by decide)
  have hlt : (kilobytes (contractSize tx.inputs.length + 32) : Int) < fee := by
    refine lt_of_lt_of_le ?_ hlow
    exact_mod_cast hadd
  rw [h.amount, h.getFee_eq h.changeScript, hsize, hunspent, estimateFee_of_lt hlt]

theorem Payment.updateValue_refundAmount (payment : Payment) (delta : ℚ) :
    (payment.updateValue delta).refundAmount = payment.amount - (payment.paid + delta) := by
  unfold Payment.updateValue Payment.refundAmount
  dsimp only
  split
  case h_1 output rest houtputs =>
    split at houtputs
    · obtain ⟨rfl, -⟩ := List.cons.inj houtputs
      rfl
    · contradiction
  case h_2 houtputs =>
    split at houtputs
    · contradiction
    · rename_i hzero
      exact (not_not.mp hzero).symm

/-- What every accepted update leaves on both sides, of a channel whose
amount they agree on. -/
theorem Updates.amounts {p : Platform} {s : StateRef} {payment : Payment} {w : World} {T : Coin}
    (hT : (w.states.read s).totalValue = some T) (hamount : payment.amount = T.value)
    (hpaid : payment.paid = 0) (hbest : (w.states.read s).bestValueToMe.value = 0)
    {deltas : List ℚ} {last : Payment × World} (h : Updates p s (payment, w) deltas last) :
    last.1.amount = T.value ∧ last.1.paid = deltas.sum ∧
      (last.2.states.read s).totalValue = some T ∧
      (last.2.states.read s).bestValueToMe.value =
        T.value - Payment.longFromNumber (T.value - last.1.paid) := by
  induction h with
  | refl =>
      refine ⟨hamount, hpaid, hT, ?_⟩
      rw [hpaid, hbest, sub_zero, Payment.longFromNumber_intCast, Int.sub_self]
  | @update payment' w₀ w' env deltas delta refundSize signature usable _ size accepted ih =>
      obtain ⟨hsame, hsum, htotal, -⟩ := ih
      have hspec := incrementPayment_spec s refundSize signature
        (fun _ _ => trivial) (fun _ _ _ => trivial)
        (fun _ => Lib.wp.trivial (Channels.close p env s) w₀)
      obtain ⟨htotal', hvalue⟩ := (hspec.of_run_eq_ok accepted).value htotal
      have hpaid' : (payment'.updateValue delta).paid = payment'.paid + delta := rfl
      refine ⟨hsame, ?_, htotal', ?_⟩
      · rw [hpaid', List.sum_cons, hsum, add_comm]
      · rw [hvalue, size, Payment.clientChangeValue, Payment.updateValue_refundAmount, hsame,
          hpaid']
  | other _ totalValue best ih =>
      obtain ⟨hsame, hsum, htotal, hvalue⟩ := ih
      refine ⟨hsame, hsum, totalValue.trans htotal, ?_⟩
      rw [best]
      exact hvalue

/-- The server's part is what the browser paid if that is a whole number,
and is rounded otherwise. -/
theorem Updates.best_eq_paid_iff {p : Platform} {s : StateRef} {payment : Payment} {w : World}
    {T : Coin} (hT : (w.states.read s).totalValue = some T) (hamount : payment.amount = T.value)
    (hpaid : payment.paid = 0) (hbest : (w.states.read s).bestValueToMe.value = 0)
    {deltas : List ℚ} {last : Payment × World} (h : Updates p s (payment, w) deltas last) :
    ((last.2.states.read s).bestValueToMe.value : ℚ) = last.1.paid ↔ IsWhole deltas.sum := by
  obtain ⟨-, hsum, -, hvalue⟩ := h.amounts hT hamount hpaid hbest
  rw [← hsum]
  constructor
  · intro hsame
    exact ⟨_, hsame.symm⟩
  · rintro ⟨n, hn⟩
    rw [hvalue, hn, ← Int.cast_sub, Payment.longFromNumber_intCast, Int.sub_sub_self]

variable {id : Transaction → Bytes} {consumer consumer' : Consumer} {refund : Transaction}

theorem Consumer.setupRefund_eq_ok {signed : Bool}
    (h : consumer.setupRefund id signed = .ok (consumer', refund)) :
    consumer'.commitmentTx = consumer.commitmentTx.cached := by
  cases signed with
  | false => cases h
  | true =>
      cases h
      rfl

/-- A refund is accepted for what the contract leaves after the fee. -/
theorem Consumer.validateRefund_eq_ok {signed verified : Bool}
    (h : consumer.validateRefund refund signed verified = .ok consumer') :
    consumer'.paymentTx = some (.new consumer.spendable consumer.refundAddress) ∧
      consumer'.commitmentTx = consumer.commitmentTx.cached := by
  unfold Consumer.validateRefund at h
  split at h
  · cases h
  · rename_i output rest _
    obtain ⟨-, -, h⟩ := Lib.exists_of_bind_eq_ok h
    obtain ⟨_, hcheck, h⟩ := Lib.exists_of_bind_eq_ok h
    obtain ⟨-, -, h⟩ := Lib.exists_of_bind_eq_ok h
    obtain ⟨-, -, h⟩ := Lib.exists_of_bind_eq_ok h
    obtain ⟨-, -, h⟩ := Lib.exists_of_bind_eq_ok h
    have hamount : output.satoshis = consumer.spendable := by
      unfold checkState at hcheck
      split at hcheck
      · exact of_decide_eq_true ‹_›
      · cases hcheck
    cases h
    exact ⟨by rw [hamount], rfl⟩

/-- The refund that the browser built is accepted once it is signed. -/
theorem Consumer.validateRefund_setupRefund (id : Transaction → Bytes) (consumer : Consumer) :
    ∃ between sent after, consumer.setupRefund id true = .ok (between, sent) ∧
      between.validateRefund sent true true = .ok after := by
  refine ⟨_, _, { consumer with
    commitmentTx := consumer.commitmentTx.cached.cached
    refundTx := some ((({} : Transaction).addInput
      ⟨id consumer.commitmentTx, 0, consumer.spendable, multisigInputSize⟩).addOutput
        ⟨consumer.refundAddress, consumer.spendable + 0⟩)
    paymentTx := some (.new (consumer.spendable + 0) consumer.refundAddress) }, rfl, ?_⟩
  have hsame : consumer.spendable + 0 = consumer.spendable := Int.add_zero _
  show (do
      checkState (consumer.refundAddress = consumer.refundAddress) "Invalid state"
      checkState (consumer.spendable + 0 = consumer.spendable)
        "Refund amount must equal commitmentTx amount"
      _ : Except InvalidState Consumer) = _
  rw [decide_eq_true hsame, decide_eq_true rfl]
  rfl

/-- What there is to pay, once a refund was accepted. -/
theorem Consumer.Holds.validated_paymentTx {kept : List UnspentOutput}
    {before between after : Consumer} {sent : Transaction} {setUp signed verified : Bool}
    (h : before.Holds kept) (hne : kept ≠ [])
    (hsetup : before.setupRefund id setUp = .ok (between, sent))
    (hvalidate : between.validateRefund refund signed verified = .ok after) :
    after.paymentTx = some (.new (worth kept -
      kilobytes (contractSize kept.length + 32 + changeOutputMaxSize) * feePerKb)
        between.refundAddress) := by
  have hlength : before.commitmentTx.inputs.length = kept.length := by
    rw [h.inputs, List.length_map]
  have hspendable : between.spendable =
      before.commitmentTx.inputAmount - before.commitmentTx.getFee := by
    rw [Consumer.spendable, Consumer.setupRefund_eq_ok hsetup]
    rfl
  obtain ⟨hpayment, -⟩ := Consumer.validateRefund_eq_ok hvalidate
  rw [hpayment, hspendable, (h.funded hne).inputAmount_sub_getFee, hlength]

/-- What the two sides read off the contract, once a refund was accepted. -/
theorem Consumer.Holds.validated {kept : List UnspentOutput} {before between after : Consumer}
    {sent : Transaction} {setUp signed verified : Bool} (h : before.Holds kept) (hne : kept ≠ [])
    (hcovers : Covers kept.length (worth kept))
    (hsetup : before.setupRefund id setUp = .ok (between, sent))
    (hvalidate : between.validateRefund refund signed verified = .ok after) :
    ∃ changeAddress script,
      after.paymentTx = some (.new (worth kept -
        kilobytes (contractSize kept.length + 32 + changeOutputMaxSize) * feePerKb)
          changeAddress) ∧
      after.commitmentTx.outputs = [⟨script, worth kept - fullFee kept.length⟩] := by
  have hfunded := h.funded hne
  have hlength : before.commitmentTx.inputs.length = kept.length := by
    rw [h.inputs, List.length_map]
  refine ⟨between.refundAddress, before.outscript.script,
    h.validated_paymentTx hne hsetup hvalidate, ?_⟩
  obtain ⟨-, htx⟩ := Consumer.validateRefund_eq_ok hvalidate
  obtain ⟨fee, houtputs, -, hfee⟩ := hfunded.output
  rw [hlength] at hfee
  rw [htx, Consumer.setupRefund_eq_ok hsetup]
  show before.commitmentTx.outputs = _
  rw [houtputs, hfee hcovers]

/-- After a refund was accepted and updates by any increments, browser and
server agree on the channel's value and on what was paid exactly if the
contract's output does not start another kilobyte and the increments add
up to a whole number. -/
theorem amounts_agree_iff (p : Platform) (id : Transaction → Bytes) (outscript : ScriptHashOut)
    (refundAddress : Script) {utxos : List UnspentOutput} (hne : utxos ≠ [])
    (hkind : ∀ utxo ∈ utxos, utxo.isPublicKeyHashOut)
    (hcovers : Covers (distinct utxos).length (worth (distinct utxos)))
    {setUp signed verified : Bool} {between after : Consumer} {sent refund : Transaction}
    (hsetup : ((Consumer.new outscript refundAddress).processAll utxos).setupRefund id setUp =
      .ok (between, sent))
    (hvalidate : between.validateRefund refund signed verified = .ok after) :
    ∃ payment output rest, after.paymentTx = some payment ∧
      after.commitmentTx.outputs = output :: rest ∧
      ∀ s w T, (w.states.read s).totalValue = some T → T.value = output.satoshis →
        (w.states.read s).bestValueToMe = Coin.zero →
        ∀ deltas payment' w', Updates p s (payment, w) deltas (payment', w') →
          (payment.amount = output.satoshis ∧
            ((w'.states.read s).bestValueToMe.value : ℚ) = payment'.paid ↔
          SameKilobyte (distinct utxos).length ∧ IsWhole deltas.sum) := by
  have hholds : ((Consumer.new outscript refundAddress).processAll utxos).Holds (distinct utxos) :=
    (Consumer.Holds.new outscript refundAddress).processAll utxos hkind
  obtain ⟨address, script, hpayment, houtputs⟩ :=
    hholds.validated (distinct_ne_nil hne) hcovers hsetup hvalidate
  refine ⟨_, _, _, hpayment, houtputs, ?_⟩
  intro s w T hT hvalue hbest deltas payment' w' hupdates
  have hfees : (Payment.new (worth (distinct utxos) - kilobytes (contractSize
      (distinct utxos).length + 32 + changeOutputMaxSize) * feePerKb) address).amount =
      ((worth (distinct utxos) - fullFee (distinct utxos).length : Int) : ℚ) ↔
      SameKilobyte (distinct utxos).length := by
    have hunit : (feePerKb : Int) = 1000 := rfl
    show ((_ : Int) : ℚ) = _ ↔ _
    rw [Int.cast_inj, fullFee, hunit]
    unfold SameKilobyte
    omega
  have hzero : (w.states.read s).bestValueToMe.value = 0 := by
    rw [hbest]
    rfl
  rw [hfees]
  refine and_congr_right fun hsame => ?_
  have hamount := hfees.mpr hsame
  refine hupdates.best_eq_paid_iff hT ?_ rfl hzero
  rw [hamount, hvalue]

end Agreement

/-- A pay-to-script-hash script. -/
def sampleOutscript : ScriptHashOut := ⟨⟨[169, 20] ++ List.replicate 20 0 ++ [135]⟩, rfl⟩

/-- Outputs of `satoshis` each, of `n` transactions. -/
def sampleUtxos (n satoshis : Nat) : List UnspentOutput :=
  (List.range n).map fun i => ⟨[UInt8.ofNat i], 0, satoshis, true⟩

/-- Three outputs, two of them of one transaction. -/
def threeUtxos : List UnspentOutput :=
  [⟨[1], 0, 50000, true⟩, ⟨[2], 0, 30000, true⟩, ⟨[2], 1, 21000, true⟩]

/-- Browser and server agree on a contract that three outputs fund, and on
the ten thousand satoshis of a payment that the server has accepted. -/
theorem amounts_agree_three_outputs :
    ∃ between sent after payment output rest usable w', ∃ refundSize : Coin,
      ((Consumer.new sampleOutscript ⟨[1]⟩).processAll threeUtxos).setupRefund (fun _ => []) true =
        .ok (between, sent) ∧
      between.validateRefund sent true true = .ok after ∧ after.paymentTx = some payment ∧
      after.commitmentTx.outputs = output :: rest ∧ output.satoshis = 100000 ∧
      refundSize.value = (payment.updateValue 10000).clientChangeValue ∧
      (incrementPayment Channels.Client.platform Channels.Client.env 0 refundSize
          (Channels.Client.payment 1 90000).signature).run
        (Channels.Client.run (Channels.Client.openChannel 100000)) = .ok usable w' ∧
      payment.amount = output.satoshis ∧
      ((w'.states.read 0).bestValueToMe.value : ℚ) = (payment.updateValue 10000).paid := by
  have hsetUp : (do
      let (between, sent) ← ((Consumer.new sampleOutscript ⟨[1]⟩).processAll
        threeUtxos).setupRefund (fun _ => []) true
      let after ← between.validateRefund sent true true
      return (after.paymentTx.map fun payment => (payment.updateValue 10000).clientChangeValue,
          after.commitmentTx.outputs.map Output.satoshis)
        : Except InvalidState (Option Int × List Int)) = .ok (some 90000, [100000]) := by
    decide +kernel
  obtain ⟨⟨between, sent⟩, hsetup, hsetUp⟩ := Lib.exists_of_bind_eq_ok hsetUp
  obtain ⟨after, hvalidate, hafter⟩ := Lib.exists_of_bind_eq_ok hsetUp
  obtain ⟨hchange, hvalue⟩ := Prod.mk.inj (Except.ok.inj hafter)
  obtain ⟨payment, output, rest, hpayment, houtputs, hagree⟩ :=
    amounts_agree_iff Channels.Client.platform (fun _ => []) sampleOutscript ⟨[1]⟩
      (List.cons_ne_nil _ _) (by decide) (by decide) hsetup hvalidate
  rw [hpayment] at hchange
  rw [houtputs] at hvalue
  have hleft : (payment.updateValue 10000).clientChangeValue = 90000 := Option.some.inj hchange
  have htotal : output.satoshis = 100000 := (List.cons.inj hvalue).1
  have hopen : ((Channels.Client.run (Channels.Client.openChannel 100000)).states.read 0).totalValue =
      some ⟨100000, by decide⟩ ∧ ((Channels.Client.run (Channels.Client.openChannel 100000)).states.read
        0).bestValueToMe = Coin.zero := by
    decide +kernel
  have hpays : Lib.wp (incrementPayment Channels.Client.platform Channels.Client.env 0
      ⟨90000, by decide⟩ (Channels.Client.payment 1 90000).signature)
      (Channels.Client.run (Channels.Client.openChannel 100000))
      (fun _ _ => True) (fun _ _ => False) := by
    decide +kernel
  obtain ⟨usable, w', hrun, -⟩ := hpays.exists_run_eq_ok
  obtain ⟨hsame, hpaid⟩ := (hagree 0 _ _ hopen.1 htotal.symm hopen.2 [10000] _ w'
    (.update .refl hleft.symm hrun)).mpr ⟨by decide, 10000, by norm_num⟩
  exact ⟨between, sent, after, payment, output, rest, usable, w', _, hsetup, hvalidate, hpayment,
    houtputs, htotal, hleft.symm, hrun, hsame, hpaid⟩

/-- With 27 outputs the contract's own output starts a kilobyte. -/
theorem amounts_differ_27_outputs :
    (∀ utxo ∈ sampleUtxos 27 10000, utxo.isPublicKeyHashOut) ∧
    Covers (distinct (sampleUtxos 27 10000)).length (worth (distinct (sampleUtxos 27 10000))) ∧
    (do
      let (between, sent) ← ((Consumer.new sampleOutscript ⟨[1]⟩).processAll
        (sampleUtxos 27 10000)).setupRefund (fun _ => []) true
      let after ← between.validateRefund sent true true
      return (after.paymentTx.map Payment.amount, after.commitmentTx.outputs.map Output.satoshis)
        : Except InvalidState (Option ℚ × List Int)).toOption = some (some 266000, [267000]) := by
  decide +kernel

end BitMesh.WebClient
