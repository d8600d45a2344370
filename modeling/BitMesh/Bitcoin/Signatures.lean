import BitMesh.Bitcoin.Ideal

/-!
# What a signature leaves open

A signature covers the transaction in the form that its hash type selects.
None covers the script of the input it is for. With SIGHASH_NONE the
outputs can be anything, and with SIGHASH_SINGLE outputs may follow the
first one. So a party can sign first and another complete the transaction.
-/

namespace BitMesh.Bitcoin

namespace Transaction

variable (lib : Bitcoinj) (tx : Transaction) (redeemScript : Script) (anyoneCanPay : Bool)

/-- The script of the input that is signed is replaced in what is hashed. -/
theorem signatureForm_setScriptSig (scriptSig : Script) (sigHashType : UInt8) :
    (tx.setScriptSig scriptSig).signatureForm 0 redeemScript sigHashType =
      tx.signatureForm 0 redeemScript sigHashType := by
  obtain ⟨version, inputs, outputs, lockTime⟩ := tx
  cases inputs with
  | nil => rfl
  | cons i rest => simp [setScriptSig, signatureForm, List.mapIdx_cons]

@[simp] theorem hashForSignature_setScriptSig (scriptSig : Script) (mode : SigHash) :
    (tx.setScriptSig scriptSig).hashForSignature lib 0 redeemScript mode anyoneCanPay =
      tx.hashForSignature lib 0 redeemScript mode anyoneCanPay := by
  rw [hashForSignature, hashForSignature, signatureForm_setScriptSig]

theorem calcSigHashValue_mode (mode : SigHash) :
    calcSigHashValue mode anyoneCanPay &&& 0x1f = mode.flag := by
  cases mode <;> cases anyoneCanPay <;> decide

/-- SIGHASH_NONE leaves the outputs open. -/
theorem hashForSignature_addOutput_none (o : TransactionOutput) :
    (tx.addOutput o).hashForSignature lib 0 redeemScript .none anyoneCanPay =
      tx.hashForSignature lib 0 redeemScript .none anyoneCanPay := by
  simp only [hashForSignature, signatureForm, calcSigHashValue_mode, addOutput, if_true]

/-- SIGHASH_SINGLE on the first input leaves all outputs but the first open. -/
theorem hashForSignature_addOutput_single (o : TransactionOutput) (h : tx.outputs ≠ []) :
    (tx.addOutput o).hashForSignature lib 0 redeemScript .single anyoneCanPay =
      tx.hashForSignature lib 0 redeemScript .single anyoneCanPay := by
  obtain ⟨version, inputs, outputs, lockTime⟩ := tx
  cases outputs with
  | nil => exact absurd rfl h
  | cons first rest =>
    simp [hashForSignature, signatureForm, calcSigHashValue_mode, addOutput, SigHash.flag]

/-! ## Transactions that verify -/

/-- Amounts of money that are within the supply together. -/
theorem addOutputs_eq_ok {total : Int} {outputs : List TransactionOutput} (htotal : 0 ≤ total)
    (hnonneg : ∀ o ∈ outputs, 0 ≤ o.value)
    (hsum : total + (outputs.map (·.value)).sum ≤ maxSatoshis) :
    addOutputs total outputs = .ok (total + (outputs.map (·.value)).sum) := by
  induction outputs generalizing total with
  | nil => simp [addOutputs]
  | cons o rest ih =>
    have ho : 0 ≤ o.value := hnonneg o (List.mem_cons_self ..)
    have hrest : ∀ o ∈ rest, 0 ≤ o.value := fun o h => hnonneg o (List.mem_cons_of_mem _ h)
    have hpos : 0 ≤ (rest.map (·.value)).sum := List.sum_nonneg (by simpa using hrest)
    simp only [List.map_cons, List.sum_cons] at hsum ⊢
    rw [addOutputs, if_neg (by omega), if_neg (by omega),
      ih (by omega) hrest (by omega), Int.add_assoc]

/-- A transaction with one input that is no coinbase, and outputs within
the supply, verifies. -/
theorem verify_eq_ok {tx : Transaction} {i : TransactionInput} (hinputs : tx.inputs = [i])
    (hcoinbase : i.isCoinBase = false) (houtputs : tx.outputs ≠ [])
    (hsize : lib.getMessageSize tx ≤ 1000000) (hnonneg : ∀ o ∈ tx.outputs, 0 ≤ o.value)
    (hsum : (tx.outputs.map (·.value)).sum ≤ maxSatoshis) : tx.verify lib = .ok () := by
  have hadd := addOutputs_eq_ok le_rfl hnonneg (by omega)
  have hempty : tx.outputs.isEmpty = false := by simpa using houtputs
  simp [verify, hinputs, hempty, Nat.not_lt.mpr hsize, hadd, hcoinbase, bind, Except.bind, pure,
    Except.pure]

end Transaction

end BitMesh.Bitcoin
