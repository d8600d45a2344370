import BitMesh.Bitcoin.Transaction

/-!
# Transactions under construction

The part of bitcore's `Transaction` that the browser builds a channel
with: inputs, outputs, the change output that every edit replaces, and the
fee estimated from the size. The amounts are cached until an edit forgets
them; an assignment to `outputs` forgets nothing. Satoshis are far below
2^53, so the numbers of the language are exact.
-/

namespace BitMesh.WebClient

open BitMesh.Bitcoin (Bytes Script)

/-- `FEE_PER_KB`. -/
def feePerKb : Nat := 1000

/-- `CHANGE_OUTPUT_MAX_SIZE`. -/
def changeOutputMaxSize : Nat := 20 + 4 + 34 + 4

/-- `MAXIMUM_EXTRA_SIZE`. -/
def maximumExtraSize : Nat := 4 + 9 + 9 + 4

/-- `PublicKeyHashInput.SCRIPT_MAX_SIZE`. -/
def scriptMaxSize : Nat := 73 + 34

/-- The serialized size of any other input, whose script is empty. -/
def emptyInputSize : Nat := 32 + 4 + 1 + 4

/-- `Math.ceil(size / 1000)`. -/
def kilobytes (size : Nat) : Nat := (size + 999) / 1000

/-- An `UnspentOutput`; of its script only the kind matters. -/
structure UnspentOutput where
  txId : Bytes
  outputIndex : Nat
  satoshis : Nat
  isPublicKeyHashOut : Bool
  deriving DecidableEq, Repr

/-- What an output is known by. -/
def UnspentOutput.outpoint (utxo : UnspentOutput) : Bytes × Nat := (utxo.txId, utxo.outputIndex)

structure Input where
  prevTxId : Bytes
  outputIndex : Nat
  satoshis : Int
  estimateSize : Nat
  deriving DecidableEq, Repr

def Input.outpoint (input : Input) : Bytes × Nat := (input.prevTxId, input.outputIndex)

/-- The input that `_fromNonP2SH` makes. -/
def Input.ofUtxo (utxo : UnspentOutput) : Input where
  prevTxId := utxo.txId
  outputIndex := utxo.outputIndex
  satoshis := utxo.satoshis
  estimateSize := if utxo.isPublicKeyHashOut then scriptMaxSize else emptyInputSize

structure Output where
  script : Script
  satoshis : Int
  deriving DecidableEq, Repr

def Output.size (output : Output) : Nat := output.script.program.length + 9

/-- A `Transaction`. Nobody sets a fee by hand. -/
structure Transaction where
  inputs : List Input := []
  outputs : List Output := []
  changeScript : Option Script := none
  changeIndex : Option Nat := none
  /-- `_inputAmount`. -/
  cachedInputAmount : Option Int := none
  /-- `_outputAmount`. -/
  cachedOutputAmount : Option Int := none
  deriving DecidableEq, Repr

/-- `Transaction._estimateFee`. -/
def estimateFee (size : Nat) (amountAvailable : Int) : Int :=
  let fee := kilobytes size
  let size := if (fee : Int) < amountAvailable then size + changeOutputMaxSize else size
  kilobytes size * feePerKb

namespace Transaction

variable (tx : Transaction)

/-- `_getInputAmount`. -/
def inputAmount : Int := tx.cachedInputAmount.getD (tx.inputs.map (·.satoshis)).sum

/-- `_getOutputAmount`. -/
def outputAmount : Int := tx.cachedOutputAmount.getD (tx.outputs.map (·.satoshis)).sum

def getUnspentValue : Int := tx.inputAmount - tx.outputAmount

/-- What asking for the amounts leaves behind. -/
def cached : Transaction :=
  { tx with
    cachedInputAmount := some tx.inputAmount
    cachedOutputAmount := some tx.outputAmount }

def estimateSize : Nat :=
  maximumExtraSize + (tx.inputs.map (·.estimateSize)).sum + (tx.outputs.map (·.size)).sum

def getFee : Int :=
  match tx.changeScript with
  | none => tx.getUnspentValue
  | some _ => estimateFee tx.estimateSize tx.getUnspentValue

/-- `_addOutput`. -/
def pushOutput (output : Output) : Transaction :=
  { tx with outputs := tx.outputs ++ [output], cachedOutputAmount := none }

/-- `_removeOutput`. There may be no output at the index. -/
def removeOutput (index : Nat) : Transaction :=
  { tx with outputs := tx.outputs.eraseIdx index, cachedOutputAmount := none }

/-- The first half of `_updateChangeOutput`. -/
def withoutChange : Transaction :=
  match tx.changeIndex with
  | some index => tx.removeOutput index
  | none => tx

/-- The second half of it. -/
def withChange (script : Script) : Transaction :=
  let changeAmount := tx.getUnspentValue - tx.getFee
  if 0 < changeAmount then
    { tx.cached.pushOutput ⟨script, changeAmount⟩ with changeIndex := some tx.outputs.length }
  else { tx.cached with changeIndex := none }

def updateChangeOutput : Transaction :=
  match tx.changeScript with
  | none => tx
  | some script => tx.withoutChange.withChange script

def change (script : Script) : Transaction :=
  { tx with changeScript := some script }.updateChangeOutput

def addOutput (output : Output) : Transaction := (tx.pushOutput output).updateChangeOutput

def addInput (input : Input) : Transaction :=
  { tx with inputs := tx.inputs ++ [input], cachedInputAmount := none }.updateChangeOutput

/-- `from`, which skips an output that is spent already. -/
def fromUtxo (utxo : UnspentOutput) : Transaction :=
  if tx.inputs.any (fun input => input.prevTxId = utxo.txId ∧ input.outputIndex = utxo.outputIndex)
  then tx
  else tx.addInput (.ofUtxo utxo)

section

variable {tx} {script : Script}

theorem withChange_of_pos (h : 0 < tx.getUnspentValue - tx.getFee) :
    tx.withChange script = { tx.cached.pushOutput ⟨script, tx.getUnspentValue - tx.getFee⟩ with
      changeIndex := some tx.outputs.length } :=
  if_pos h

theorem withChange_of_le (h : tx.getUnspentValue - tx.getFee ≤ 0) :
    tx.withChange script = { tx.cached with changeIndex := none } :=
  if_neg (Int.not_lt.mpr h)

theorem updateChangeOutput_eq (h : tx.changeScript = some script) :
    tx.updateChangeOutput = tx.withoutChange.withChange script := by
  rw [updateChangeOutput, h]

/-- Inputs and outputs are edited apart. -/
theorem withoutChange_inputs (inputs : List Input) (cache : Option Int) :
    { tx with inputs := inputs, cachedInputAmount := cache }.withoutChange =
      { tx.withoutChange with inputs := inputs, cachedInputAmount := cache } := by
  cases hindex : tx.changeIndex <;> simp [withoutChange, removeOutput, hindex]

theorem updateChangeOutput_inputs : tx.updateChangeOutput.inputs = tx.inputs := by
  unfold updateChangeOutput withoutChange withChange
  split
  · rfl
  · dsimp only
    split <;> split <;> rfl

theorem withoutChange_changeScript : tx.withoutChange.changeScript = tx.changeScript := by
  cases hindex : tx.changeIndex <;> simp [withoutChange, removeOutput, hindex]

end

end Transaction

/-! ## The fee -/

theorem kilobytes_mono {a b : Nat} (h : a ≤ b) : kilobytes a ≤ kilobytes b :=
  Nat.div_le_div_right (Nat.add_le_add_right h _)

theorem kilobytes_pos {a : Nat} (h : 0 < a) : 0 < kilobytes a := by
  unfold kilobytes
  omega

/-- The fee is at least what the size without change costs. -/
theorem le_estimateFee (size : Nat) (amountAvailable : Int) :
    (kilobytes size * feePerKb : Int) ≤ estimateFee size amountAvailable := by
  unfold estimateFee
  dsimp only
  have hmono : kilobytes size ≤ kilobytes (size + changeOutputMaxSize) :=
    kilobytes_mono (Nat.le_add_right _ _)
  have hfee : (feePerKb : Int) = 1000 := rfl
  rw [hfee]
  split <;> omega

/-- The fee is at most what the size with change costs. -/
theorem estimateFee_le (size : Nat) (amountAvailable : Int) :
    estimateFee size amountAvailable ≤ kilobytes (size + changeOutputMaxSize) * feePerKb := by
  unfold estimateFee
  dsimp only
  have hmono : kilobytes size ≤ kilobytes (size + changeOutputMaxSize) :=
    kilobytes_mono (Nat.le_add_right _ _)
  have hfee : (feePerKb : Int) = 1000 := rfl
  rw [hfee]
  split <;> omega

/-- A fee counts more satoshis than there are kilobytes, also after a
little was added. -/
theorem kilobytes_add_lt {size extra : Nat} (hsize : 0 < size) (hextra : extra ≤ 1000) :
    kilobytes (size + extra) < kilobytes size * feePerKb := by
  have hpos := kilobytes_pos hsize
  have hfee : feePerKb = 1000 := rfl
  have hle : kilobytes (size + extra) ≤ kilobytes size + 1 := by
    unfold kilobytes
    omega
  rw [hfee]
  omega

/-- With enough available, a change output is paid for. -/
theorem estimateFee_of_lt {size : Nat} {amountAvailable : Int}
    (h : (kilobytes size : Int) < amountAvailable) :
    estimateFee size amountAvailable = kilobytes (size + changeOutputMaxSize) * feePerKb := by
  unfold estimateFee
  dsimp only
  rw [if_pos h]

/-- More than the fee is enough. -/
theorem kilobytes_lt_of_estimateFee_lt {size : Nat} {amountAvailable : Int}
    (h : estimateFee size amountAvailable < amountAvailable) :
    (kilobytes size : Int) < amountAvailable := by
  have hle := le_estimateFee size amountAvailable
  have hfee : (feePerKb : Int) = 1000 := rfl
  rw [hfee] at hle
  omega

end BitMesh.WebClient
