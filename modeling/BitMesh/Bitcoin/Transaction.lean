import BitMesh.Bitcoin.Coin
import Mathlib

/-!
# Transactions, scripts and signatures

What the channel classes use of bitcoinj. The structural part (building a
transaction, `Transaction.verify`, the SIGHASH simplification, the script
templates, the dust rule) is embedded. Byte encodings, hashing, curve
arithmetic and script execution are the fields of `Bitcoinj`, a parameter
of everything above.
-/

namespace BitMesh.Bitcoin

abbrev Bytes := List UInt8

structure Sha256Hash where
  bytes : Bytes
  deriving DecidableEq, Repr

/-- `Sha256Hash.ZERO_HASH`. -/
def Sha256Hash.zero : Sha256Hash := ⟨List.replicate 32 0⟩

structure Script where
  program : Bytes
  deriving DecidableEq, Repr

/-- A key pair; a key made by `fromPublicOnly` has no private part. -/
structure ECKey where
  pub : Bytes
  priv : Option Bytes
  deriving DecidableEq, Repr

/-- `ECKey.fromPublicOnly(pub)`. -/
def ECKey.fromPublicOnly (pub : Bytes) : ECKey := ⟨pub, none⟩

structure Address where
  version : UInt8
  hash160 : Bytes
  deriving DecidableEq, Repr

structure TransactionOutPoint where
  hash : Sha256Hash
  index : UInt32
  deriving DecidableEq, Repr

structure TransactionInput where
  outpoint : TransactionOutPoint
  scriptSig : Script
  sequence : UInt32
  deriving DecidableEq, Repr

/-- The `long` read off the wire is kept as it is; `getValue` checks it. -/
structure TransactionOutput where
  value : Int
  script : Script
  deriving DecidableEq, Repr

structure Transaction where
  version : UInt32
  inputs : List TransactionInput
  outputs : List TransactionOutput
  lockTime : UInt32
  deriving DecidableEq, Repr

/-- `Transaction.SigHash`. -/
inductive SigHash where
  | all
  | none
  | single
  deriving DecidableEq, Repr

/-- `ordinal() + 1`. -/
def SigHash.flag : SigHash → UInt8
  | .all => 1
  | .none => 2
  | .single => 3

/-- `Transaction.SIGHASH_ANYONECANPAY_VALUE`. -/
def sighashAnyoneCanPay : UInt8 := 0x80

/-- `TransactionSignature.calcSigHashValue`. -/
def calcSigHashValue (mode : SigHash) (anyoneCanPay : Bool) : UInt8 :=
  if anyoneCanPay then mode.flag ||| sighashAnyoneCanPay else mode.flag

structure TransactionSignature where
  rs : Nat × Nat
  sighashFlags : UInt8
  deriving DecidableEq, Repr

namespace TransactionSignature

def anyoneCanPay (s : TransactionSignature) : Bool :=
  s.sighashFlags &&& sighashAnyoneCanPay ≠ 0

def sigHashMode (s : TransactionSignature) : SigHash :=
  let mode := s.sighashFlags &&& 0x1f
  if mode = SigHash.none.flag then .none
  else if mode = SigHash.single.flag then .single
  else .all

@[simp] theorem sigHashMode_calcSigHashValue (rs : Nat × Nat) (mode : SigHash) (anyone : Bool) :
    (mk rs (calcSigHashValue mode anyone)).sigHashMode = mode := by
  show (if calcSigHashValue mode anyone &&& 0x1f = SigHash.none.flag then SigHash.none
    else if calcSigHashValue mode anyone &&& 0x1f = SigHash.single.flag then .single
    else .all) = mode
  cases mode <;> cases anyone <;> decide

@[simp] theorem anyoneCanPay_calcSigHashValue (rs : Nat × Nat) (mode : SigHash) (anyone : Bool) :
    (mk rs (calcSigHashValue mode anyone)).anyoneCanPay = anyone := by
  show decide (calcSigHashValue mode anyone &&& sighashAnyoneCanPay ≠ 0) = anyone
  cases mode <;> cases anyone <;> decide

end TransactionSignature

/-- The part of bitcoinj that is not embedded. -/
structure Bitcoinj where
  /-- `new Transaction(params, payload)`. -/
  parseTransaction : Bytes → Except JavaException Transaction
  /-- `tx.bitcoinSerialize()`. -/
  serializeTransaction : Transaction → Bytes
  /-- `new TransactionOutput(params, null, payload, 0)`. -/
  parseOutput : Bytes → Except JavaException TransactionOutput
  serializeOutput : TransactionOutput → Bytes
  getHash : Transaction → Sha256Hash
  getMessageSize : Transaction → Nat
  /-- `tx.toString()`, which ends up in an error text. -/
  toText : Transaction → String
  /-- Double SHA-256 of the simplified transaction and the hash type. -/
  signatureDigest : Transaction → UInt8 → Sha256Hash
  sha256hash160 : Bytes → Bytes
  /-- What `new Script(program)` says of a program that does not parse. -/
  scriptError : Bytes → Option String
  /-- What `CURVE.getCurve().decodePoint(pub)` says of bytes that are no
  point. -/
  pointError : Bytes → Option String
  /-- The compressed public key of a private key. -/
  publicKey : Bytes → Bytes
  sign : Bytes → Sha256Hash → Nat × Nat
  verify : Bytes → Sha256Hash → Nat × Nat → Bool
  /-- `TransactionSignature.decodeFromBitcoin(bytes, true)`. -/
  decodeFromBitcoin : Bytes → Except JavaException TransactionSignature
  encodeToBitcoin : TransactionSignature → Bytes
  /-- Whether the input's script satisfies the given output script. -/
  correctlySpends : Transaction → Nat → Script → Bool
  /-- `new Address(params, text)`, or the text of the exception. -/
  parseAddress : String → Except String Address
  /-- `key.toAddress(params)`. -/
  toAddress : Bytes → Address
  /-- `output.getAddressFromP2PKHScript(params)`. -/
  addressFromP2PKHScript : Script → Option Address

/-- `ECKey.fromPrivate(priv)`. -/
def ECKey.fromPrivate (lib : Bitcoinj) (priv : Bytes) : ECKey :=
  ⟨lib.publicKey priv, some priv⟩

/-! ## Script templates -/

/-- `ScriptBuilder.data`, for data longer than one byte. -/
def pushData (data : Bytes) : Bytes :=
  if data.length < 0x4c then UInt8.ofNat data.length :: data
  else if data.length < 256 then 0x4c :: UInt8.ofNat data.length :: data
  else 0x4d :: UInt8.ofNat data.length :: UInt8.ofNat (data.length / 256) :: data

/-- `createMultiSigOutputScript(2, [a, b])`. The vendored
`createRedeemScript` does not sort the keys either. -/
def createMultiSigOutputScript (a b : ECKey) : Script :=
  ⟨0x52 :: pushData a.pub ++ pushData b.pub ++ [0x52, 0xae]⟩

/-- `createP2SHOutputScript(redeemScript)`. -/
def createP2SHOutputScript (lib : Bitcoinj) (redeemScript : Script) : Script :=
  ⟨0xa9 :: pushData (lib.sha256hash160 redeemScript.program) ++ [0x87]⟩

/-- `createP2SHMultiSigInputScript([a, b], multisigProgram)`. -/
def createP2SHMultiSigInputScript (lib : Bitcoinj) (a b : TransactionSignature)
    (multisigProgram : Script) : Script :=
  ⟨0x00 :: pushData (lib.encodeToBitcoin a) ++ pushData (lib.encodeToBitcoin b)
    ++ pushData multisigProgram.program⟩

/-! ## Outputs and inputs -/

namespace TransactionOutput

/-- `getValue()`: a `long` that is no amount of money throws. -/
def getValue (o : TransactionOutput) : Except JavaException Coin :=
  match Coin.valueOf o.value with
  | .ok c => .ok c
  | .error e => .error ⟨.illegalState, e.message⟩

theorem value_of_getValue {o : TransactionOutput} {c : Coin} (h : o.getValue = .ok c) :
    c.value = o.value := by
  unfold getValue at h
  split at h
  · next hv =>
    cases h
    exact Coin.value_of_valueOf hv
  · cases h

/-- `setValue(value)`. -/
def setValue (o : TransactionOutput) (v : Coin) : TransactionOutput :=
  { o with value := v.value }

/-- `o'` is the output `o`, or `o` after `setValue`. -/
def Revalued (o o' : TransactionOutput) : Prop := o' = o ∨ ∃ v, o' = o.setValue v

theorem Revalued.script {o o' : TransactionOutput} (h : o.Revalued o') : o'.script = o.script := by
  rcases h with rfl | ⟨v, rfl⟩ <;> rfl

theorem Revalued.trans {o₁ o₂ o₃ : TransactionOutput} (h : o₁.Revalued o₂) (h' : o₂.Revalued o₃) :
    o₁.Revalued o₃ := by
  rcases h' with rfl | ⟨v, rfl⟩
  · exact h
  · rcases h with rfl | ⟨u, rfl⟩ <;> exact .inr ⟨v, rfl⟩

/-- `VarInt.sizeOf`. -/
def varIntSize (n : Nat) : Nat :=
  if n < 253 then 1 else if n < 65536 then 3 else 5

/-- `getMinNonDustValue()` at three times the default fee per kilobyte,
rounded up to a whole satoshi. -/
def getMinNonDustValue (o : TransactionOutput) : Int :=
  let size := 8 + varIntSize o.script.program.length + o.script.program.length + 148
  let product := 3000 * size
  if product % 1000 = 0 then product / 1000 else product / 1000 + 1

theorem getMinNonDustValue_pos (o : TransactionOutput) : 0 < o.getMinNonDustValue := by
  simp only [getMinNonDustValue]
  split <;> omega

end TransactionOutput

namespace TransactionInput

/-- `isCoinBase()`. -/
def isCoinBase (i : TransactionInput) : Bool :=
  i.outpoint.hash = Sha256Hash.zero && i.outpoint.index = 0xffffffff

/-- `TransactionInput.NO_SEQUENCE`. -/
def noSequence : UInt32 := 0xffffffff

/-- The input `tx.addInput(from)` makes for output `index` of the
transaction with the given hash. -/
def spending (hash : Sha256Hash) (index : UInt32) : TransactionInput :=
  { outpoint := ⟨hash, index⟩, scriptSig := ⟨[]⟩, sequence := noSequence }

end TransactionInput

/-! ## Verification and signature hashes -/

namespace Transaction

/-- The running total of `verify`: amounts are nonnegative and the sum
stays within the supply. -/
def addOutputs (total : Int) : List TransactionOutput → Except JavaException Int
  | [] => .ok total
  | o :: rest =>
      if o.value < 0 ∧ -maxSatoshis ≤ o.value then
        .error (.verification "Transaction output negative")
      else if o.value < 0 ∨ maxSatoshis < o.value ∨ maxSatoshis < total + o.value then
        .error (.verification "Total transaction output value greater than possible")
      else addOutputs (total + o.value) rest

/-- `Transaction.verify()`. -/
def verify (lib : Bitcoinj) (tx : Transaction) : Except JavaException Unit := do
  if tx.inputs.isEmpty || tx.outputs.isEmpty then
    throw (.verification "Transaction had no inputs or no outputs.")
  if 1000000 < lib.getMessageSize tx then
    throw (.verification "Transaction larger than MAX_BLOCK_SIZE")
  if ¬ (tx.inputs.map (·.outpoint)).Nodup then
    throw (.verification "Duplicated outpoint")
  let _ ← addOutputs 0 tx.outputs
  match tx.inputs with
  | [i] =>
      if i.isCoinBase ∧ (i.scriptSig.program.length < 2 ∨ 100 < i.scriptSig.program.length) then
        throw (.verification "Coinbase script size out of range")
  | is =>
      if is.any (·.isCoinBase) then
        throw (.verification "Coinbase input as input in non-coinbase transaction")

/-- `getOutput(0)`; a transaction that verifies has one. -/
def output0 (tx : Transaction) : Except JavaException TransactionOutput :=
  match tx.outputs with
  | o :: _ => .ok o
  | [] => .error ⟨.runtime, some "Index: 0, Size: 0"⟩

/-- The transaction that is serialised and hashed for a signature on
input `inputIndex`; `none` on the path where the reference client's bug
hashes to the constant one. The connected scripts here are multisig
templates, which hold no OP_CODESEPARATOR to be removed first. -/
def signatureForm (tx : Transaction) (inputIndex : Nat) (connectedScript : Script)
    (sigHashType : UInt8) : Option Transaction :=
  let mode := sigHashType &&& 0x1f
  let signed (keep : Bool) (i : Nat) (inp : TransactionInput) : TransactionInput :=
    if i = inputIndex then { inp with scriptSig := connectedScript }
    else { inp with scriptSig := ⟨[]⟩, sequence := if keep then inp.sequence else 0 }
  let restrict (inputs : List TransactionInput) : List TransactionInput :=
    if sigHashType &&& sighashAnyoneCanPay = sighashAnyoneCanPay then
      (inputs.drop inputIndex).take 1
    else inputs
  if mode = SigHash.none.flag then
    some { tx with inputs := restrict (tx.inputs.mapIdx (signed false)), outputs := [] }
  else if mode = SigHash.single.flag then
    if tx.outputs.length ≤ inputIndex then none
    else
      some { tx with
        inputs := restrict (tx.inputs.mapIdx (signed false))
        outputs := List.replicate inputIndex ⟨-1, ⟨[]⟩⟩
          ++ (tx.outputs.drop inputIndex).take 1 }
  else
    some { tx with inputs := restrict (tx.inputs.mapIdx (signed true)) }

/-- `tx.hashForSignature(inputIndex, redeemScript, mode, anyoneCanPay)`. -/
def hashForSignature (lib : Bitcoinj) (tx : Transaction) (inputIndex : Nat)
    (redeemScript : Script) (mode : SigHash) (anyoneCanPay : Bool) : Sha256Hash :=
  let sigHashType := calcSigHashValue mode anyoneCanPay
  match tx.signatureForm inputIndex redeemScript sigHashType with
  | some form => lib.signatureDigest form sigHashType
  | none => ⟨1 :: List.replicate 31 0⟩

/-- `tx.calculateSignature(inputIndex, key, redeemScript, mode, anyoneCanPay)`.
A key without its private part cannot sign. -/
def calculateSignature (lib : Bitcoinj) (tx : Transaction) (inputIndex : Nat) (key : ECKey)
    (redeemScript : Script) (mode : SigHash) (anyoneCanPay : Bool) :
    Except JavaException TransactionSignature :=
  match key.priv with
  | none => .error ⟨.runtime, none⟩
  | some priv =>
      .ok ⟨lib.sign priv (tx.hashForSignature lib inputIndex redeemScript mode anyoneCanPay),
        calcSigHashValue mode anyoneCanPay⟩

/-- `tx.getInput(0).setScriptSig(scriptSig)`. -/
def setScriptSig (tx : Transaction) (scriptSig : Script) : Transaction :=
  match tx.inputs with
  | [] => tx
  | i :: rest => { tx with inputs := { i with scriptSig := scriptSig } :: rest }

def addOutput (tx : Transaction) (o : TransactionOutput) : Transaction :=
  { tx with outputs := tx.outputs ++ [o] }

end Transaction

/-- `new TransactionOutput(params, tx, value, script)`. -/
def TransactionOutput.new (value : Coin) (script : Script) :
    Except JavaException TransactionOutput :=
  if value.value < -1 then .error (.illegalArgument (some "Negative values not allowed"))
  else if maxSatoshis ≤ value.value then
    .error (.illegalArgument (some "Values larger than MAX_MONEY not allowed"))
  else .ok ⟨value.value, script⟩

theorem TransactionOutput.eq_of_new {value : Coin} {script : Script} {o : TransactionOutput}
    (h : TransactionOutput.new value script = .ok o) : o = ⟨value.value, script⟩ := by
  unfold TransactionOutput.new at h
  split at h
  · cases h
  · split at h
    · cases h
    · exact (Except.ok.inj h).symm

end BitMesh.Bitcoin
