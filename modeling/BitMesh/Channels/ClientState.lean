import BitMesh.Bitcoin.Signatures
import BitMesh.Channels.Client
import BitMesh.Channels.Effects

/-!
# `PaymentChannelClientState`

The client side of one channel in Java. The wallet is a parameter: which
coins it spends, the change it makes and what saving throws.
-/

namespace BitMesh.Channels

open BitMesh.Bitcoin BitMesh.Lib

/-- `PaymentChannelClientState.State`. -/
inductive ClientStage where
  | new
  | initiated
  | waitingForSignedRefund
  | saveStateInWallet
  | provideMultisigContractToServer
  | ready
  | expired
  | closed
  deriving DecidableEq, Repr

/-- A `StoredClientChannel`. -/
structure StoredClientChannel where
  id : Sha256Hash
  contract : Transaction
  refund : Transaction
  myKey : ECKey
  valueToMe : Coin
  refundFees : Option Coin
  active : Bool

structure PaymentChannelClientState where
  myKey : ECKey
  serverMultisigKey : ECKey
  totalValue : Coin
  expiryTime : Int
  refundTx : Option Transaction := none
  refundFees : Option Coin := none
  multisigContract : Option Transaction := none
  multisigScript : Option Script := none
  valueToMe : Coin
  state : ClientStage := .new
  storedChannel : Option StoredClientChannel := none

/-- What `wallet.completeTx` adds to a template with one output: signed
inputs and perhaps change, behind what is there since the outputs are not
shuffled. The fee is null if an input's value is not known. -/
structure Completion where
  inputs : List TransactionInput
  change : Option TransactionOutput
  fee : Option Coin

structure ClientWallet where
  completeTx : TransactionOutput → Except JavaException Completion
  /-- `channels.getChannel(id, contractHash) != null`. -/
  hasChannel : Sha256Hash → Sha256Hash → Bool
  /-- `addOrUpdateExtension`, which saves the wallet. -/
  addOrUpdateExtension : Except JavaException Unit
  commitTx : Transaction → Except JavaException Unit

/-- `ScriptBuilder.createOutputScript(address)` for the address of a key. -/
def createOutputScript (address : Address) : Script :=
  ⟨[0x76, 0xa9] ++ pushData address.hash160 ++ [0x88, 0xac]⟩

/-- `ScriptBuilder.createMultiSigInputScript(a, b)`. -/
def createMultiSigInputScript (lib : Bitcoinj) (a b : TransactionSignature) : Script :=
  ⟨0x00 :: pushData (lib.encodeToBitcoin a) ++ pushData (lib.encodeToBitcoin b)⟩

/-- `Coin.CENT`. -/
def cent : Int := 1000000

/-- `Transaction.MIN_NONDUST_OUTPUT`. -/
def minNondustOutput : Int := 546

/-- An `IncrementedPayment`. -/
structure IncrementedPayment where
  signature : TransactionSignature
  amount : Coin

abbrev ClientMethod := EStateM JavaException PaymentChannelClientState

namespace PaymentChannelClientState

section Methods

variable (p : Platform) (wallet : ClientWallet)

/-- The constructor. -/
def create (myKey serverMultisigKey : ECKey) (value : Coin) (expiryTimeInSeconds : Int) :
    Except JavaException PaymentChannelClientState :=
  if 0 < value.value then
    .ok {
      myKey := myKey
      serverMultisigKey := serverMultisigKey
      totalValue := value
      expiryTime := expiryTimeInSeconds
      valueToMe := value }
  else .error (.illegalArgument none)

/-- The refund's output and fees, by what is left of the value. -/
def refundOutput (totalValue : Coin) (multisigFee : Option Coin) (script : Script) :
    Except JavaException (TransactionOutput × Option Coin) := do
  if totalValue.value < cent then
    let valueAfterFee ← totalValue.subtract Coin.referenceDefaultMinTxFee
    if valueAfterFee.value < minNondustOutput then
      throw (.valueOutOfRange "totalValue too small to use")
    let output ← TransactionOutput.new valueAfterFee script
    match multisigFee with
    | none => throw .nullPointer
    | some fee =>
        let refundFees ← Coin.valueOf (fee.value + Coin.referenceDefaultMinTxFee.value)
        return (output, some refundFees)
  else
    let output ← TransactionOutput.new totalValue script
    return (output, multisigFee)

/-- `initiate`. The lock time has 32 bits on the wire. -/
def initiate : ClientMethod Unit := do
  let st ← get
  let multisigOutput ← orThrow (TransactionOutput.new st.totalValue
    (createMultiSigOutputScript st.myKey st.serverMultisigKey))
  if st.totalValue.value < multisigOutput.getMinNonDustValue then
    throw (.valueOutOfRange "totalValue too small to use")
  let completion ← orThrow (wallet.completeTx multisigOutput)
  let contract : Transaction := {
    version := 1
    inputs := completion.inputs
    outputs := multisigOutput :: completion.change.toList
    lockTime := 0 }
  let input := { TransactionInput.spending (p.getHash contract) 0 with sequence := 0 }
  let refundTx : Transaction := {
    version := 1
    inputs := [input]
    outputs := []
    lockTime := UInt32.ofInt st.expiryTime }
  modify fun st => { st with multisigContract := some contract, refundTx := some refundTx }
  let (output, refundFees) ← orThrow (refundOutput st.totalValue completion.fee
    (createOutputScript (p.toAddress st.myKey.pub)))
  modify fun st => { st with
    refundTx := some (refundTx.addOutput output)
    refundFees := refundFees
    state := .initiated }

def getIncompleteRefundTransaction : ClientMethod Transaction := do
  let st ← get
  checkState st.refundTx.isSome
  if st.state = .initiated then
    modify fun st => { st with state := .waitingForSignedRefund }
  nonNull st.refundTx

/-- `refundInput.verify(multisigContractOutput)`. -/
def verifyRefund (contract refundTx : Transaction) (output : TransactionOutput) :
    Except JavaException Unit := do
  match refundTx.inputs with
  | [] => throw ⟨.runtime, some "Index: 0, Size: 0"⟩
  | input :: _ =>
      if input.outpoint.hash ≠ p.getHash contract then
        throw (.verification "This input does not refer to the tx containing the output.")
      if input.outpoint.index ≠ 0 then
        throw (.verification "This input refers to a different output on the given tx.")
      if ¬ p.correctlySpends refundTx 0 output.script then
        throw (.verification "Script resulted in a non-true stack")

def provideRefundSignature (theirSignature : Bytes) : ClientMethod Unit := do
  let st ← get
  checkState (st.state = .waitingForSignedRefund)
  let theirSig ← orThrow (p.decodeFromBitcoin theirSignature)
  if theirSig.sigHashMode ≠ .none ∨ ¬ theirSig.anyoneCanPay then
    throw (.verification "Refund signature was not SIGHASH_NONE|SIGHASH_ANYONECANPAY")
  let contract ← nonNull st.multisigContract
  let output ← orThrow contract.output0
  match p.scriptError output.script.program with
  | some msg => throw ⟨.runtime, some msg⟩
  | none => pure ()
  modify fun st => { st with multisigScript := some output.script }
  let refundTx ← nonNull st.refundTx
  let ourSignature ← orThrow
    (refundTx.calculateSignature p.toBitcoinj 0 st.myKey output.script .all false)
  let refundTx :=
    refundTx.setScriptSig (createMultiSigInputScript p.toBitcoinj ourSignature theirSig)
  modify fun st => { st with refundTx := some refundTx }
  orThrow (verifyRefund p contract refundTx output)
  modify fun st => { st with state := .saveStateInWallet }

/-- `storeChannelInWallet`, with `doStoreChannelInWallet`. -/
def storeChannelInWallet (id : Sha256Hash) : ClientMethod Unit := do
  let st ← get
  checkState (st.state = .saveStateInWallet)
  match st.storedChannel with
  | some stored => checkState (stored.id = id)
  | none =>
      let contract ← nonNull st.multisigContract
      let refund ← nonNull st.refundTx
      checkState (¬ wallet.hasChannel id (p.getHash contract))
      modify fun st => { st with storedChannel := some {
        id := id
        contract := contract
        refund := refund
        myKey := st.myKey
        valueToMe := st.valueToMe
        refundFees := st.refundFees
        active := true } }
      orThrow wallet.addOrUpdateExtension
      match wallet.commitTx contract with
      | .error e => throw (if e.cls = .verification then e.wrap else e)
      | .ok () => modify fun st => { st with state := .provideMultisigContractToServer }

def getMultisigContract : ClientMethod Transaction := do
  let st ← get
  checkState st.multisigContract.isSome
  if st.state = .provideMultisigContractToServer then
    modify fun st => { st with state := .ready }
  nonNull st.multisigContract

/-- `makeUnsignedChannelContract`: there is an output even if nothing is
left for it. -/
def makeUnsignedChannelContract (valueToMe : Coin) : ClientMethod Transaction := do
  let st ← get
  let contract ← nonNull st.multisigContract
  let output ← orThrow
    (TransactionOutput.new valueToMe (createOutputScript (p.toAddress st.myKey.pub)))
  return {
    version := 1
    inputs := [TransactionInput.spending (p.getHash contract) 0]
    outputs := [output]
    lockTime := 0 }

/-- `checkNotExpired`, with `disconnectFromChannel`. -/
def checkNotExpired (now : Int) : ClientMethod Unit := do
  let st ← get
  if st.expiryTime < now then
    modify fun st => { st with
      state := .expired
      storedChannel := st.storedChannel.map ({ · with active := false }) }
    throw ⟨.illegalState, some "Channel expired"⟩

def updateChannelInWallet : ClientMethod Unit := do
  let st ← get
  match st.storedChannel with
  | none => return
  | some stored =>
      modify fun st => { st with
        storedChannel := some { stored with valueToMe := st.valueToMe } }
      orThrow wallet.addOrUpdateExtension

/-- What a payment leaves the client with: change that would be dust is
paid too. -/
def paid (valueToMe size : Coin) : Except JavaException (Coin × Coin) := do
  if size.value < 0 then
    throw (.valueOutOfRange "Tried to decrement payment")
  let newValueToMe ← valueToMe.subtract size
  let (size, newValueToMe) :=
    if newValueToMe.value < minNondustOutput ∧ 0 < newValueToMe.value then (valueToMe, Coin.zero)
    else (size, newValueToMe)
  if newValueToMe.value < 0 then
    throw (.valueOutOfRange
      ("Channel has too little money to pay " ++ toString size.value ++ " satoshis"))
  return (size, newValueToMe)

/-- `incrementPaymentBy`. -/
def incrementPaymentBy (now : Int) (size : Coin) : ClientMethod IncrementedPayment := do
  let st ← get
  checkState (st.state = .ready)
  checkNotExpired now
  let (size, newValueToMe) ← orThrow (paid st.valueToMe size)
  let tx ← makeUnsignedChannelContract p newValueToMe
  let mode := if newValueToMe = Coin.zero then SigHash.none else .single
  let script ← nonNull st.multisigScript
  let sig ← orThrow (tx.calculateSignature p.toBitcoinj 0 st.myKey script mode true)
  modify fun st => { st with valueToMe := newValueToMe }
  updateChannelInWallet wallet
  return ⟨sig, size⟩

/-! ## The contract -/

variable {p wallet}

/-- The contract's first output is the multisig script itself. -/
theorem initiate_spec (st : PaymentChannelClientState) :
    Lib.wp (initiate p wallet) st
      (fun _ st' => ∃ contract rest, st'.multisigContract = some contract ∧
        contract.outputs = ⟨st.totalValue.value,
          createMultiSigOutputScript st.myKey st.serverMultisigKey⟩ :: rest)
      (fun _ _ => True) := by
  simp only [initiate, wp_bind, wp_get, wp_orThrow, wp_ite, wp_throw, wp_modify]
  refine ⟨fun output houtput => ⟨fun _ => trivial, fun _ => ⟨fun completion _ =>
    ⟨fun refund _ => ⟨_, completion.change.toList, rfl, ?_⟩, fun _ _ => trivial⟩,
      fun _ _ => trivial⟩⟩, fun _ _ => trivial⟩
  rw [TransactionOutput.eq_of_new houtput]

theorem getIncompleteRefundTransaction_spec (st : PaymentChannelClientState) :
    Lib.wp getIncompleteRefundTransaction st
      (fun _ st' => st'.multisigContract = st.multisigContract) (fun _ _ => True) := by
  simp only [getIncompleteRefundTransaction, wp_bind, wp_get, wp_checkState, wp_ite, wp_modify,
    wp_nonNull]
  simp

theorem provideRefundSignature_spec (st : PaymentChannelClientState) (theirSignature : Bytes) :
    Lib.wp (provideRefundSignature p theirSignature) st
      (fun _ st' => st'.multisigContract = st.multisigContract) (fun _ _ => True) := by
  simp only [provideRefundSignature, wp_bind, wp_get, wp_checkState, wp_orThrow, wp_ite, wp_throw,
    wp_nonNull]
  refine ⟨fun _ => ⟨fun sig _ => ⟨fun _ => trivial, fun _ => ⟨fun contract _ => ⟨fun output _ => ?_,
    fun _ _ => trivial⟩, fun _ => trivial⟩⟩, fun _ _ => trivial⟩, fun _ => trivial⟩
  cases p.scriptError output.script.program with
  | some msg => exact trivial
  | none => simp

/-- The client has initiated the channel, the server has signed the refund
and the client has accepted the signature. -/
inductive RefundAccepted (p : Platform) (wallet : ClientWallet)
    (first : PaymentChannelClientState) : PaymentChannelClientState → Prop
  | intro {initiated asked client : PaymentChannelClientState} {refundTx : Transaction}
      {s : StateRef} {w w' : World} {signature : Bytes}
      (initiate : (initiate p wallet).run first = .ok () initiated)
      (ask : getIncompleteRefundTransaction.run initiated = .ok refundTx asked)
      (key : (w.states.read s).serverKey.pub = first.serverMultisigKey.pub)
      (sign : (provideRefundTransaction p s refundTx first.myKey.pub).run w = .ok signature w')
      (accept : (provideRefundSignature p signature).run asked = .ok () client) :
      RefundAccepted p wallet first client

theorem RefundAccepted.contract {first client : PaymentChannelClientState}
    (h : RefundAccepted p wallet first client) :
    ∃ contract rest, client.multisigContract = some contract ∧
      contract.outputs = ⟨first.totalValue.value,
        createMultiSigOutputScript first.myKey first.serverMultisigKey⟩ :: rest := by
  cases h with
  | intro initiate ask key sign accept =>
    obtain ⟨contract, rest, hcontract, houtputs⟩ := (initiate_spec first).of_run_eq_ok initiate
    have hasked := (getIncompleteRefundTransaction_spec _).of_run_eq_ok ask
    have haccepted := (provideRefundSignature_spec _ _).of_run_eq_ok accept
    exact ⟨contract, rest, haccepted.trans (hasked.trans hcontract), houtputs⟩

/-- A multisig script is not the hash of one. -/
theorem createMultiSigOutputScript_ne (lib : Bitcoinj) (a b : ECKey) (redeemScript : Script) :
    createMultiSigOutputScript a b ≠ createP2SHOutputScript lib redeemScript := by
  intro h
  have hfirst : (0x52 : UInt8) = 0xa9 := (List.cons.inj (congrArg Script.program h)).1
  contradiction

/-- The server accepts no contract of the Java client: it wants the hash of
the script that the client puts into the output. -/
theorem java_contract_rejected {first client : PaymentChannelClientState}
    (h : RefundAccepted p wallet first client) :
    ∃ contract, client.multisigContract = some contract ∧
      ∀ (w : World) (s : StateRef) (c : ConnRef) (provided : ProvideContract),
        Lib.wp (provideMultiSigContract p s contract c provided) w
          (fun _ _ => False) (fun _ _ => True) := by
  obtain ⟨contract, rest, hcontract, houtputs⟩ := h.contract
  refine ⟨contract, hcontract, fun w s c provided => ?_⟩
  simp only [provideMultiSigContract, wp_bind, wp_readState, wp_checkState, wp_orThrow,
    wp_modifyState]
  refine ⟨fun _ => ⟨fun _ _ => ⟨fun output houtput => ?_, fun _ _ => trivial⟩,
    fun _ _ => trivial⟩, fun _ => trivial⟩
  have hscript : output.script =
      createMultiSigOutputScript first.myKey first.serverMultisigKey := by
    rw [Transaction.output0, houtputs] at houtput
    cases houtput
    rfl
  cases p.scriptError output.script.program with
  | some msg => exact trivial
  | none =>
      simp only [wp_bind, wp_nonNull, wp_note, wp_ite, wp_throw]
      refine ⟨fun key _ => ⟨fun _ => trivial, fun hsame => absurd ?_ hsame⟩, fun _ => trivial⟩
      rw [hscript]
      exact createMultiSigOutputScript_ne _ _ _ _

/-- A handshake up to the client's acceptance, run from its parties. -/
def Accepts (p : Platform) (wallet : ClientWallet) (first : PaymentChannelClientState)
    (s : StateRef) (w : World) (Q : PaymentChannelClientState → World → Prop) : Prop :=
  Lib.wp (initiate p wallet) first (fun _ initiated =>
    Lib.wp getIncompleteRefundTransaction initiated (fun refundTx asked =>
      Lib.wp (provideRefundTransaction p s refundTx first.myKey.pub) w (fun signature w' =>
        Lib.wp (provideRefundSignature p signature) asked (fun _ client => Q client w')
          (fun _ _ => False)) (fun _ _ => False)) (fun _ _ => False)) (fun _ _ => False)

instance Accepts.decidable (first : PaymentChannelClientState) (s : StateRef) (w : World)
    (Q : PaymentChannelClientState → World → Prop) [∀ client w, Decidable (Q client w)] :
    Decidable (Accepts p wallet first s w Q) :=
  inferInstanceAs (Decidable (Lib.wp _ _ _ _))

theorem Accepts.refundAccepted {first : PaymentChannelClientState} {s : StateRef} {w : World}
    {Q : PaymentChannelClientState → World → Prop} (h : Accepts p wallet first s w Q)
    (key : (w.states.read s).serverKey.pub = first.serverMultisigKey.pub) :
    ∃ client, RefundAccepted p wallet first client := by
  obtain ⟨_, initiated, hinitiate, h⟩ := wp.exists_run_eq_ok h
  obtain ⟨refundTx, asked, hask, h⟩ := wp.exists_run_eq_ok h
  obtain ⟨signature, w', hsign, h⟩ := wp.exists_run_eq_ok h
  obtain ⟨_, client, haccept, -⟩ := wp.exists_run_eq_ok h
  exact ⟨client, .intro hinitiate hask key hsign haccept⟩

/-! ## The payments -/

theorem paid_nonneg {valueToMe size amount left : Coin}
    (h : paid valueToMe size = .ok (amount, left)) : 0 ≤ left.value ∧
      amount.value = valueToMe.value - left.value := by
  unfold paid at h
  split at h
  · cases h
  · obtain ⟨v, hv, h⟩ := exists_of_bind_eq_ok h
    have hvalue := Coin.value_of_subtract hv
    by_cases hdust : v.value < minNondustOutput ∧ 0 < v.value
    · -- the rest would be dust
      rw [if_pos hdust] at h
      cases h
      exact ⟨le_rfl, (Int.sub_zero _).symm⟩
    · rw [if_neg hdust] at h
      dsimp only at h
      split at h
      · cases h
      · cases h
        exact ⟨by omega, by omega⟩

/-- Both sides compute what the client signs from the contract and the
client's key alone. -/
theorem hashForSignature_channelTx (lib : Platform) (contract : Transaction) (left : Coin)
    (script redeemScript : Script) :
    Transaction.hashForSignature lib.toBitcoinj {
      version := 1
      inputs := [TransactionInput.spending (lib.getHash contract) 0]
      outputs := [⟨left.value, script⟩]
      lockTime := 0 } 0 redeemScript (paymentMode left) true =
    (channelTx lib contract left script).hashForSignature lib.toBitcoinj 0 redeemScript
      (paymentMode left) true := by
  by_cases hzero : left = Coin.zero
  · -- nothing is left: the client's empty output is not signed
    rw [paymentMode, if_pos hzero, ← Transaction.hashForSignature_addOutput_none lib.toBitcoinj
      (channelTx lib contract left script) redeemScript true ⟨left.value, script⟩]
    simp [channelTx, hzero, Transaction.addOutput]
  · simp [channelTx, hzero]

theorem updateChannelInWallet_spec (st : PaymentChannelClientState) :
    Lib.wp (updateChannelInWallet wallet) st (fun _ st' => st'.valueToMe = st.valueToMe)
      (fun _ _ => True) := by
  simp only [updateChannelInWallet, wp_bind, wp_get]
  cases st.storedChannel with
  | none => rfl
  | some stored => simp

/-- A payment of the client is signed as the server checks it, for the
refund size that is left. -/
theorem incrementPaymentBy_spec (hp : Ideal p.toBitcoinj) {st : PaymentChannelClientState}
    {priv : Bytes} {serverKey : ECKey} {contract : Transaction} (now : Int) (size : Coin)
    (hkey : st.myKey = .fromPrivate p.toBitcoinj priv)
    (hcontract : st.multisigContract = some contract)
    (hscript : st.multisigScript = some (createMultiSigOutputScript st.myKey serverKey)) :
    Lib.wp (incrementPaymentBy p wallet now size) st
      (fun payment st' => 0 ≤ st'.valueToMe.value ∧
        payment.amount.value = st.valueToMe.value - st'.valueToMe.value ∧
        payment.signature.sigHashMode = paymentMode st'.valueToMe ∧
        payment.signature.anyoneCanPay = true ∧
        p.verify st.myKey.pub ((channelTx p contract st'.valueToMe
          (createOutputScript (p.toAddress st.myKey.pub))).hashForSignature p.toBitcoinj 0
            (createMultiSigOutputScript st.myKey serverKey) (paymentMode st'.valueToMe) true)
          payment.signature.rs = true)
      (fun _ _ => True) := by
  simp only [incrementPaymentBy, checkNotExpired, makeUnsignedChannelContract, wp_bind, wp_get,
    wp_checkState, wp_ite, wp_throw, wp_modify, wp_pure, wp_orThrow, wp_nonNull]
  refine ⟨fun _ => ⟨fun _ => trivial, fun _ => ⟨?_, fun _ _ => trivial⟩⟩, fun _ => trivial⟩
  rintro ⟨amount, left⟩ hpaid
  refine ⟨fun contract' hcontract' => ⟨fun output houtput => ⟨fun script hscript' =>
    ⟨fun sig hsig => ?_, fun _ _ => trivial⟩, fun _ => trivial⟩, fun _ _ => trivial⟩,
      fun _ => trivial⟩
  obtain rfl := Option.some.inj (hcontract.symm.trans hcontract')
  obtain rfl := Option.some.inj (hscript.symm.trans hscript')
  obtain rfl := TransactionOutput.eq_of_new houtput
  obtain ⟨hnonneg, hamount⟩ := paid_nonneg hpaid
  refine wp.mono (updateChannelInWallet_spec _) ?_ (fun _ _ _ => trivial)
  intro _ st' hst'
  have hleft : st'.valueToMe = left := hst'
  simp only [Transaction.calculateSignature, hkey, ECKey.fromPrivate] at hsig
  cases hsig
  rw [hleft]
  refine ⟨hnonneg, hamount, TransactionSignature.sigHashMode_calcSigHashValue _ _ _,
    TransactionSignature.anyoneCanPay_calcSigHashValue _ _ _, ?_⟩
  rw [← hashForSignature_channelTx, hkey]
  exact hp.signs priv _

end Methods

namespace Sample

/-- A library whose signatures are as short as its keys, and are read back
as they were written. -/
def platform : Platform := { Client.platform with
  sign := fun priv digest => ((priv.headD 0).toNat, (digest.bytes.headD 0).toNat)
  verify := fun pub digest rs => rs = ((pub.headD 0).toNat, (digest.bytes.headD 0).toNat)
  encodeToBitcoin := fun sig => [sig.sighashFlags, UInt8.ofNat sig.rs.1, UInt8.ofNat sig.rs.2]
  decodeFromBitcoin := fun bytes =>
    match bytes with
    | [flags, r, s] => .ok ⟨(r.toNat, s.toNat), flags⟩
    | _ => .error (.verification "Could not decode DER") }

/-- A wallet with one coin to spend. -/
def wallet : ClientWallet where
  completeTx _ := .ok ⟨[TransactionInput.spending ⟨[1]⟩ 0], none, some Coin.zero⟩
  hasChannel _ _ := false
  addOrUpdateExtension := .ok ()
  commitTx _ := .ok ()

/-- A client with a channel of 100000 satoshis to come. -/
def client : PaymentChannelClientState where
  myKey := ⟨Reference.clientKey, some Reference.clientKey⟩
  serverMultisigKey := .fromPublicOnly Reference.serverKey
  totalValue := ⟨100000, by decide⟩
  expiryTime := 1500000000
  valueToMe := ⟨100000, by decide⟩

/-- A server that waits for the refund. -/
def world : World :=
  Lib.finalState (newState ⟨Reference.serverKey, some Reference.serverKey⟩ 0) (World.initial false)

end Sample

theorem java_contract_rejected_100000 :
    ∃ client, RefundAccepted Sample.platform Sample.wallet Sample.client client ∧
      ∃ contract, client.multisigContract = some contract ∧
        ∀ (w : World) (s : StateRef) (c : ConnRef) (provided : ProvideContract),
          Lib.wp (provideMultiSigContract Sample.platform s contract c provided) w
            (fun _ _ => False) (fun _ _ => True) := by
  have haccepts : Accepts Sample.platform Sample.wallet Sample.client 0 Sample.world
      (fun _ _ => True) := by
    decide +kernel
  obtain ⟨client, h⟩ := haccepts.refundAccepted rfl
  exact ⟨client, h, java_contract_rejected h⟩

/-- The Java client is turned away by the Java server. -/
theorem java_contract_turned_away :
    Accepts Sample.platform Sample.wallet Sample.client 0 Sample.world (fun client w =>
      Lib.wp getMultisigContract client (fun contract _ =>
        Lib.wp (provideMultiSigContract Sample.platform 0 contract 0
            ⟨[], { clientChangeValue := 0, signature := [] }⟩) w
          (fun _ _ => False)
          (fun e _ => e = .verification ("Multisig contract's first output was not a standard "
            ++ "2-of-2 multisig to client and server in that order."))) (fun _ _ => False)) := by
  decide +kernel

end PaymentChannelClientState

end BitMesh.Channels
