import BitMesh.Channels.StoredChannels

/-!
# `PaymentChannelServerState`

The server side of one channel: the refund is signed, the contract is
checked and broadcast, payments are accepted and the channel is settled.
`close` and `StoredPaymentChannelServerStates.closeChannel` call each
other; every call that gets past the map takes a channel out of it, so
the number of stored channels bounds the recursion.
-/

namespace BitMesh.Channels

open BitMesh.Bitcoin BitMesh.Lib

variable (p : Platform) (env : Env)

/-- `new PaymentChannelServerState(broadcaster, wallet, serverKey, minExpireTime)`. -/
def newState (serverKey : ECKey) (minExpireTime : Int) : Method StateRef := do
  let w ← get
  set { w with states := (w.states.alloc {
    state := .waitingForRefundTransaction
    serverKey := serverKey
    minExpireTime := minExpireTime }).2 }
  return w.states.next

/-- `broadcaster.broadcastTransaction(tx)` with the callbacks of `purpose`. -/
def broadcastTransaction (tx : Transaction) (purpose : Purpose) : Method Unit :=
  modify fun w => { w with broadcasts := (w.broadcasts.alloc { tx, purpose }).2 }

/-! ## Opening -/

/-- The checks `provideRefundTransaction` makes before it signs; the one
output is what it keeps. -/
def checkRefund (minExpireTime : Int) (refundTx : Transaction) :
    Except JavaException TransactionOutput := do
  refundTx.verify p.toBitcoinj
  match refundTx.inputs with
  | [input] =>
      if input.sequence ≠ 0 then
        throw (.verification "Refund transaction's input's sequence number is non-0")
  | _ => throw (.verification "Refund transaction does not have exactly one input")
  if (refundTx.lockTime.toNat : Int) < minExpireTime then
    throw (.verification "Refund transaction has a lock time too soon")
  match refundTx.outputs with
  | [output] => return output
  | _ => throw (.verification "Refund transaction does not have exactly one output")

/-- `provideRefundTransaction`. -/
def provideRefundTransaction (s : StateRef) (refundTx : Transaction)
    (clientMultiSigPubKey : Bytes) : Method Bytes := do
  let st ← readState s
  checkState (st.state = .waitingForRefundTransaction)
  let output ← orThrow (checkRefund p st.minExpireTime refundTx)
  modifyState s fun st =>
    { st with refundTransactionUnlockTimeSecs := refundTx.lockTime.toNat }
  match p.pointError clientMultiSigPubKey with
  | some msg => throw (.illegalArgument (some msg))
  | none => pure ()
  let clientKey := ECKey.fromPublicOnly clientMultiSigPubKey
  let redeemScript := createMultiSigOutputScript clientKey st.serverKey
  modifyState s fun st =>
    { st with clientKey := some clientKey, redeemScript := some redeemScript }
  let sig ← orThrow
    (refundTx.calculateSignature p.toBitcoinj 0 st.serverKey redeemScript .none true)
  let w ← get
  set { w with outputs := (w.outputs.alloc output).2 }
  modifyState s fun st =>
    { st with clientOutput := some w.outputs.next, state := .waitingForMultisigContract }
  note (.refundSigned s refundTx.lockTime.toNat)
  return p.encodeToBitcoin sig

/-- `provideMultiSigContract`, with the listener `receiveContractMessage`
adds. What fails its checks has been written to the state all the same. -/
def provideMultiSigContract (s : StateRef) (multisigContract : Transaction)
    (c : ConnRef) (provided : ProvideContract) : Method Unit := do
  let st ← readState s
  checkState (st.state = .waitingForMultisigContract)
  orThrow (multisigContract.verify p.toBitcoinj)
  modifyState s fun st => { st with multisigContract := some multisigContract }
  let output ← orThrow multisigContract.output0
  match p.scriptError output.script.program with
  | some msg => throw (.verification msg)
  | none => pure ()
  let clientKey ← nonNull st.clientKey
  let expectedScript := createP2SHOutputScript p.toBitcoinj
    (createMultiSigOutputScript clientKey st.serverKey)
  note (.keyUsed c st.serverKey.pub)
  if output.script ≠ expectedScript then
    throw (.verification ("Multisig contract's first output was not a standard 2-of-2 "
      ++ "multisig to client and server in that order."))
  let totalValue ← orThrow output.getValue
  modifyState s fun st => { st with totalValue := some totalValue }
  if totalValue.value ≤ 0 then
    throw (.verification "Not accepting an attempt to open a contract with zero value.")
  modifyState s fun st => { st with state := .waitingForMultisigAcceptance }
  broadcastTransaction multisigContract (.contract s c provided)

/-- `storeChannelInWallet`. -/
def storeChannelInWallet (s : StateRef) (c : ConnRef) : Method Unit := do
  let st ← readState s
  checkState (st.state = .ready)
  if st.storedServerChannel.isSome then
    return
  let contract ← nonNull st.multisigContract
  addOrGetExistingExtension p
  let clientOutput ← nonNull st.clientOutput
  let w ← get
  let r := w.channels.next
  set { w with channels := (w.channels.alloc {
    contract := contract
    clientOutput := clientOutput
    refundTransactionUnlockTimeSecs := st.refundTransactionUnlockTimeSecs
    myKey := st.serverKey
    bestValueToMe := st.bestValueToMe
    bestValueSignature := st.bestValueSignature
    state := some s }).2 }
  modifyState s fun st => { st with storedServerChannel := some r }
  let _ ← setConnectedHandler r c false
  putChannel p env r

/-! ## Settling -/

/-- `makeUnsignedChannelContract`. The client's output object is changed
in place, whatever becomes of the transaction. -/
def makeUnsignedChannelContract (s : StateRef) (valueToMe : Coin) :
    Method Transaction := do
  let st ← readState s
  let totalValue ← nonNull st.totalValue
  let change ← orThrow (totalValue.subtract valueToMe)
  let outputs ← if change = Coin.zero then pure [] else do
    let o ← nonNull st.clientOutput
    modifyOutput o (·.setValue change)
    let output ← readOutput o
    pure [output]
  let contract ← nonNull st.multisigContract
  return {
    version := 1
    inputs := [TransactionInput.spending (p.getHash contract) 0]
    outputs := outputs
    lockTime := 0 }

/-- `signMultisigInput`. A state that was restored has no redeem script. -/
def signMultisigInput (s : StateRef) (tx : Transaction) (hashType : SigHash)
    (anyoneCanPay : Bool) : Method Transaction := do
  let st ← readState s
  let redeemScript ← nonNull st.redeemScript
  let signature ← orThrow
    (tx.calculateSignature p.toBitcoinj 0 st.serverKey redeemScript hashType anyoneCanPay)
  let bestValueSignature ← nonNull st.bestValueSignature
  let bestValueSig ← orThrow (p.decodeFromBitcoin bestValueSignature)
  return tx.setScriptSig
    (createP2SHMultiSigInputScript p.toBitcoinj bestValueSig signature redeemScript)

/-- `input.verify()` on every input; they all spend the contract. -/
def verifyInputs (tx : Transaction) (multisigContract : Transaction) :
    Except JavaException Unit := do
  let output ← multisigContract.output0
  if ¬ p.correctlySpends tx 0 output.script then
    throw (.verification "Script resulted in a non-true stack")

/-- The second half of the `try` block of `close`: the server's output is
added, and the transaction signed and checked. -/
def signSettlement (s : StateRef) (tx : Transaction) (bestValueToMe : Coin) :
    Method Transaction := do
  let output ← orThrow (TransactionOutput.new bestValueToMe env.changeScript)
  let tx ← signMultisigInput p s (tx.addOutput output) .all false
  orThrow (tx.verify p.toBitcoinj)
  let contract ← nonNull (← readState s).multisigContract
  orThrow (verifyInputs p tx contract)
  return tx

/-- The `try` block of `close`: the signed settlement, or `none` when the
fee eats what the channel is worth. -/
def makeSettlement (s : StateRef) : Method (Option Transaction) := do
  let st ← readState s
  let tx ← makeUnsignedChannelContract p s st.bestValueToMe
  let feePaidForPayment := Coin.referenceDefaultMinTxFee
  let bestValueToMe ← orThrow (st.bestValueToMe.subtract feePaidForPayment)
  modifyState s fun st => { st with bestValueToMe := bestValueToMe }
  if bestValueToMe.value ≤ feePaidForPayment.value then
    return none
  else
    let tx ← signSettlement p env s tx bestValueToMe
    return some tx

/-- `closedFuture.set(tx)`: the first one counts, and runs the callbacks
of `settlePayment`. -/
def setClosedFuture (s : StateRef) (tx : Option Transaction) : Method Unit := do
  let st ← readState s
  if st.closedFuture = .pending then
    modifyState s fun st => { st with closedFuture := .set tx, closeCallbacks := [] }
    st.closeCallbacks.forM fun cb =>
      modifyServer cb.1 fun sv => { sv with finalTransaction := tx }

/-- The future `close` returns: the state's own, or a new one that nobody
completes. -/
inductive CloseResult where
  | closedFuture
  | abandoned
  deriving DecidableEq, Repr

/-- `close`, from the point where the stored channel has been dealt with. -/
def settle (s : StateRef) : Method CloseResult := do
  let st ← readState s
  if st.state.ordinal < State.ready.ordinal then
    modifyState s fun st => { st with state := .closed }
    setClosedFuture s none
    return .closedFuture
  if st.state ≠ .ready then
    return .closedFuture
  match ← tryCatch (makeSettlement p env s) fun e => throw (.wrap e) with
  | none => return .abandoned
  | some tx =>
      modifyState s fun st => { st with state := .closing }
      broadcastTransaction tx (.settlement s)
      return .closedFuture

/-- `PaymentChannelServerState.close`, given what it calls `closeChannel`. -/
def closeWith (closeChannel : ChannelRef → Method Unit) (s : StateRef) :
    Method CloseResult := do
  note (.closeCalled s)
  match (← readState s).storedServerChannel with
  | none => settle p env s
  | some temp =>
      modifyState s fun st => { st with storedServerChannel := none }
      closeChannel temp
      if State.closing.ordinal ≤ (← readState s).state.ordinal then
        return .closedFuture
      settle p env s

/-- `closeChannel` once the channel is out of the map. -/
def closeRemoved (close : StateRef → Method CloseResult) (r : ChannelRef) :
    Method Unit := do
  let closeState : Method Unit := do
    let s ← getOrCreateState p r
    let _ ← close s
  tryCatch closeState fun e =>
    if e.cls = .insufficientMoney ∨ e.cls = .verification then pure () else throw e
  modifyChannel r fun ch => { ch with state := none }
  updatedChannel p

/-- `StoredPaymentChannelServerStates.closeChannel`, given the `close` it
calls. -/
def closeChannelWith (close : StateRef → Method CloseResult) (r : ChannelRef) :
    Method Unit := do
  let w ← get
  let h := p.getHash (w.channels.read r).contract
  if (w.mapChannels.lookup h).isSome then
    modify fun w => { w with mapChannels := w.mapChannels.erase h }
    note (.removed h)
    closeRemoved p close r

/-- `closeChannel` with at most `n` channels stored. With none it returns
at once. -/
def closeChannelN : Nat → ChannelRef → Method Unit
  | 0, _ => pure ()
  | n + 1, r => closeChannelWith p (closeWith p env (closeChannelN n)) r

/-- `StoredPaymentChannelServerStates.closeChannel`. -/
def closeChannel (r : ChannelRef) : Method Unit := do
  closeChannelN p env (← get).mapChannels.keys.length r

/-- `PaymentChannelServerState.close`. -/
def close (s : StateRef) : Method CloseResult :=
  closeWith p env (closeChannel p env) s

/-! ## Paying -/

/-- `updateChannelInWallet`. -/
def updateChannelInWallet (s : StateRef) : Method Unit := do
  let st ← readState s
  match st.storedServerChannel with
  | none => return
  | some r =>
      updateValueToMe r st.bestValueToMe st.bestValueSignature
      updatedChannel p

/-- `incrementPayment`; the result says whether value is left. -/
def incrementPayment (s : StateRef) (refundSize : Coin) (signatureBytes : Bytes) :
    Method Bool := do
  let st ← readState s
  checkState (st.state = .ready)
  let signature ← orThrow (p.decodeFromBitcoin signatureBytes)
  let fullyUsedUp := refundSize = Coin.zero
  let clientOutput ← nonNull st.clientOutput
  let minNonDustValue := (← readOutput clientOutput).getMinNonDustValue
  if refundSize.value < minNonDustValue ∧ ¬ fullyUsedUp then
    throw (.valueOutOfRange ("Attempt to refund negative value or value too small to be "
      ++ "accepted by the network"))
  let totalValue ← nonNull st.totalValue
  let newValueToMe ← orThrow (totalValue.subtract refundSize)
  if newValueToMe.value < 0 then
    throw (.valueOutOfRange "Attempt to refund more than the contract allows.")
  if newValueToMe.value < st.bestValueToMe.value then
    throw (.valueOutOfRange "Attempt to roll back payment on the channel.")
  let contract ← nonNull st.multisigContract
  let confidence ← nonNull ((← get).transactions (p.getHash contract))
  if confidence = .dead then
    let _ ← close p env s
    throw (.verification "Multisig contract was double-spent")
  let mode := if fullyUsedUp then SigHash.none else SigHash.single
  if signature.sigHashMode ≠ mode ∨ ¬ signature.anyoneCanPay then
    throw (.verification
      "New payment signature was not signed with the right SIGHASH flags.")
  let tx ← makeUnsignedChannelContract p s newValueToMe
  let clientKey ← nonNull st.clientKey
  let sighash := tx.hashForSignature p.toBitcoinj 0
    (createMultiSigOutputScript clientKey st.serverKey) mode true
  if ¬ p.verify clientKey.pub sighash signature.rs then
    throw (.verification ("Signature does not verify on tx\n" ++ p.toText tx))
  modifyState s fun st =>
    { st with bestValueToMe := newValueToMe, bestValueSignature := some signatureBytes }
  note (.accepted s (p.getHash contract) newValueToMe)
  updateChannelInWallet p s
  return ¬ fullyUsedUp

end BitMesh.Channels
