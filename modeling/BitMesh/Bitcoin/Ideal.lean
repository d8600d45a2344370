import BitMesh.Bitcoin.Transaction
import Mathlib

/-!
# What is assumed of bitcoinj

Some properties only hold for signatures that verify and encodings that
lose nothing. Those assumptions are the fields of `Ideal` and `Lossless`,
and `reference` is a small library that meets them: its keys sign by
writing down what they sign.
-/

namespace BitMesh.Bitcoin

/-- The signature hash that `sig` is checked against, whose flags it carries. -/
def TransactionSignature.digest (lib : Bitcoinj) (sig : TransactionSignature) (tx : Transaction)
    (redeemScript : Script) : Sha256Hash :=
  tx.hashForSignature lib 0 redeemScript sig.sigHashMode sig.anyoneCanPay

/-- The output came as output 0 of a transaction in a message, which has
at most `Short.MAX_VALUE` bytes. Its amount may have been set since. -/
def Received (lib : Bitcoinj) (o : TransactionOutput) : Prop :=
  ∃ bytes tx sent, bytes.length ≤ 32767 ∧ lib.parseTransaction bytes = .ok tx ∧
    tx.output0 = .ok sent ∧ sent.Revalued o

theorem Received.revalued {lib : Bitcoinj} {o o' : TransactionOutput} (h : Received lib o)
    (hset : o.Revalued o') : Received lib o' := by
  obtain ⟨bytes, tx, sent, hsize, hparse, houtput, hsent⟩ := h
  exact ⟨bytes, tx, sent, hsize, hparse, houtput, hsent.trans hset⟩

/-- What `close` builds: the client's signature, key and output came in
messages, and the server is paid at an address. -/
structure SettlementForm (lib : Bitcoinj) (tx : Transaction) : Prop where
  input : ∃ (i : TransactionInput) (bytes priv : Bytes) (digest : Sha256Hash) (a b : ECKey)
    (sigA sigB : TransactionSignature), lib.decodeFromBitcoin bytes = .ok sigA ∧
    sigB.rs = lib.sign priv digest ∧ a.pub.length ≤ 32767 ∧ b = ECKey.fromPrivate lib priv ∧
    tx.inputs = [{ i with scriptSig :=
      createP2SHMultiSigInputScript lib sigA sigB (createMultiSigOutputScript a b) }]
  outputs : tx.outputs.length ≤ 2
  scripts : ∀ o ∈ tx.outputs, Received lib o ∨ o.script.program.length ≤ 25

/-- Signatures behave, and correctly signed transactions verify. -/
structure Ideal (lib : Bitcoinj) : Prop where
  /-- `decodeFromBitcoin(bytes, true)` only accepts hash types that are one
  of the three modes, with or without ANYONECANPAY. -/
  canonical : ∀ bytes sig, lib.decodeFromBitcoin bytes = .ok sig →
    sig.sighashFlags = calcSigHashValue sig.sigHashMode sig.anyoneCanPay
  signs : ∀ priv digest, lib.verify (lib.publicKey priv) digest (lib.sign priv digest) = true
  /-- Both signatures of a two-of-two script, in order, spend its hash. -/
  spends : ∀ (tx : Transaction) (i : TransactionInput) (a b : ECKey)
    (sigA sigB : TransactionSignature),
    tx.inputs = [{ i with scriptSig :=
      createP2SHMultiSigInputScript lib sigA sigB (createMultiSigOutputScript a b) }] →
    lib.verify a.pub (sigA.digest lib tx (createMultiSigOutputScript a b)) sigA.rs = true →
    lib.verify b.pub (sigB.digest lib tx (createMultiSigOutputScript a b)) sigB.rs = true →
    lib.correctlySpends tx 0
      (createP2SHOutputScript lib (createMultiSigOutputScript a b)) = true
  /-- A settlement is far from a block's size. -/
  size : ∀ tx, SettlementForm lib tx → lib.getMessageSize tx ≤ 1000000

/-- What was read is written so that it is read again. -/
structure Lossless (lib : Bitcoinj) : Prop where
  transaction : ∀ bytes tx, lib.parseTransaction bytes = .ok tx →
    lib.parseTransaction (lib.serializeTransaction tx) = .ok tx
  output : ∀ o, Received lib o → lib.parseOutput (lib.serializeOutput o) = .ok o

/-! ## A library that meets the assumptions -/

namespace Reference

instance encodableUInt8 : Encodable UInt8 :=
  .ofLeftInverse UInt8.toFin UInt8.ofFin fun x => by simp

instance encodableUInt32 : Encodable UInt32 :=
  .ofLeftInverse UInt32.toFin UInt32.ofFin fun x => by simp

instance encodableTransactionOutput : Encodable TransactionOutput :=
  .ofLeftInverse (fun o => (o.value, o.script.program)) (fun x => ⟨x.1, ⟨x.2⟩⟩) fun _ => rfl

instance encodableTransactionInput : Encodable TransactionInput :=
  .ofLeftInverse
    (fun i => (i.outpoint.hash.bytes, i.outpoint.index, i.scriptSig.program, i.sequence))
    (fun x => ⟨⟨⟨x.1⟩, x.2.1⟩, ⟨x.2.2.1⟩, x.2.2.2⟩) fun _ => rfl

instance encodableTransaction : Encodable Transaction :=
  .ofLeftInverse (fun tx => (tx.version, tx.inputs, tx.outputs, tx.lockTime))
    (fun x => ⟨x.1, x.2.1, x.2.2.1, x.2.2.2⟩) fun _ => rfl

/-- The bytes of `x`: as many as its number says, after a tag. -/
def encode {α : Type} [Encodable α] (x : α) : Bytes :=
  0 :: List.replicate (Encodable.encode x) 0

def decode (α : Type) [Encodable α] : Bytes → Except JavaException α
  | 0 :: rest =>
      match (Encodable.decode rest.length : Option α) with
      | some x => .ok x
      | none => .error (.verification "malformed")
  | _ => .error (.verification "malformed")

theorem decode_encode {α : Type} [Encodable α] (x : α) : decode α (encode x) = .ok x := by
  simp [decode, encode]

/-- The keys of the two parties. -/
def clientKey : Bytes := [7]

def serverKey : Bytes := [9]

def redeemScript : Script :=
  createMultiSigOutputScript ⟨clientKey, none⟩ ⟨serverKey, some serverKey⟩

/-- The refund that unlocks at `lockTime`. -/
def refund (lockTime : UInt32) : Transaction where
  version := 1
  inputs := [⟨⟨⟨[0]⟩, 0⟩, ⟨[]⟩, 0⟩]
  outputs := [⟨5000, ⟨[1]⟩⟩]
  lockTime := lockTime

/-- The contract with number `n` that locks up `value`. -/
def contract (n : UInt8) (value : Int) : Transaction where
  version := 1
  inputs := [TransactionInput.spending ⟨[n]⟩ 0]
  outputs := [⟨value, ⟨0xa9 :: pushData redeemScript.program ++ [0x87]⟩⟩]
  lockTime := 0

/-- Short names for refunds (in units of 100000 seconds, or in seconds)
and for contracts (in units of 1000 satoshis), beside the long ones. -/
def parse : Bytes → Except JavaException Transaction
  | [1, t] => .ok (refund (t.toUInt32 * 100000))
  | [2, t] => .ok (refund t.toUInt32)
  | [3, n, v] => .ok (contract n (v.toNat * 1000))
  | bytes => decode Transaction bytes

theorem parse_encode (tx : Transaction) : parse (encode tx) = .ok tx := by
  have h : parse (encode tx) = decode Transaction (encode tx) := by
    simp [parse, encode]
  rw [h, decode_encode]

def toNat (bytes : Bytes) : Nat := bytes.foldl (fun n b => n * 256 + b.toNat) 1

/-- Enough of an amount for the amounts used here. -/
def amount (value : Int) : Bytes :=
  [.ofNat (value.toNat / 65536), .ofNat (value.toNat / 256), .ofNat value.toNat]

def signatureDigest (form : Transaction) (flags : UInt8) : Sha256Hash :=
  ⟨flags :: form.inputs.flatMap (·.outpoint.hash.bytes.take 1)
    ++ form.outputs.flatMap (amount ·.value)⟩

def sign (key : Bytes) (digest : Sha256Hash) : Nat × Nat := (toNat key, toNat digest.bytes)

/-- A signature is its flags, the signing key's byte and the signed bytes. -/
def decodeSignature : Bytes → Except JavaException TransactionSignature
  | flags :: key :: digest =>
      let sig : TransactionSignature := ⟨sign [key] ⟨digest⟩, flags⟩
      if flags = calcSigHashValue sig.sigHashMode sig.anyoneCanPay then .ok sig
      else .error (.verification "Signature encoding is not canonical.")
  | _ => .error (.verification "Could not decode signature")

end Reference

/-- A library whose signatures write down what is signed, and whose
transactions are told apart by their first input. -/
def reference : Bitcoinj where
  parseTransaction := Reference.parse
  serializeTransaction := Reference.encode
  parseOutput := Reference.decode TransactionOutput
  serializeOutput := Reference.encode
  getHash tx :=
    ⟨(tx.inputs.flatMap (·.outpoint.hash.bytes.take 1)).take 1 ++ List.replicate 31 0⟩
  getMessageSize tx := 10 * tx.inputs.length
  toText _ := "transaction"
  signatureDigest := Reference.signatureDigest
  sha256hash160 := id
  scriptError _ := none
  pointError _ := none
  publicKey := id
  sign := Reference.sign
  verify pub digest rs := rs = Reference.sign pub digest
  decodeFromBitcoin := Reference.decodeSignature
  encodeToBitcoin sig := [sig.sighashFlags]
  correctlySpends _ _ _ := true
  parseAddress _ := .error "malformed"
  toAddress pub := ⟨0, pub⟩
  addressFromP2PKHScript _ := none

theorem reference_ideal : Ideal reference where
  canonical bytes sig h := by
    simp only [reference] at h
    unfold Reference.decodeSignature at h
    split at h
    · dsimp only at h
      split at h
      · rename_i hflags
        cases h
        exact hflags
      · cases h
    · cases h
  signs priv digest := by simp [reference]
  spends _ _ _ _ _ _ _ _ _ := rfl
  size tx h := by
    obtain ⟨_, _, _, _, _, _, _, _, -, -, -, -, hinputs⟩ := h.input
    simp [reference, hinputs]

theorem reference_lossless : Lossless reference where
  transaction _ tx _ := by simp only [reference, Reference.parse_encode]
  output o _ := by simp only [reference, Reference.decode_encode]

end BitMesh.Bitcoin
