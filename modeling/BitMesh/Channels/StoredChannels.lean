import BitMesh.Channels.World

/-!
# Stored channels

`StoredServerChannel` and the part of `StoredPaymentChannelServerStates`
that does not close channels: the map, its place in the wallet, and the
bytes it is saved as. Closing calls back into the channel's state and is
in `Channels.ServerState`.
-/

namespace BitMesh.Channels

open BitMesh.Bitcoin BitMesh.Lib

variable (p : Platform) (env : Env)

/-! ## The saved form -/

/-- `ServerState.StoredServerPaymentChannel`. -/
structure StoredServerPaymentChannel where
  bestValueToMe : Int
  refundTransactionUnlockTimeSecs : Int
  contractTransaction : Bytes
  clientOutput : Bytes
  myKey : Bytes
  bestValueSignature : Option Bytes
  deriving DecidableEq, Repr

/-- The body of the loop of `serializeWalletExtension`. -/
def serializeChannel (channel : StoredServerChannel) (clientOutput : TransactionOutput) :
    Except JavaException StoredServerPaymentChannel := do
  if ¬ (0 ≤ channel.bestValueToMe.value ∧
      channel.bestValueToMe.value < Coin.maxMoney.value) then
    throw .illegalState
  if ¬ 0 < channel.refundTransactionUnlockTimeSecs then
    throw .illegalState
  match channel.myKey.priv with
  | none => throw ⟨.runtime, none⟩
  | some priv =>
      return {
        bestValueToMe := channel.bestValueToMe.value
        refundTransactionUnlockTimeSecs := channel.refundTransactionUnlockTimeSecs
        contractTransaction := p.serializeTransaction channel.contract
        clientOutput := p.serializeOutput clientOutput
        myKey := priv
        bestValueSignature := channel.bestValueSignature }

/-- `serializeWalletExtension`. One channel that fails its checks fails
the whole extension. -/
def serializeWalletExtension (w : World) :
    Except JavaException (List StoredServerPaymentChannel) :=
  w.mapChannels.entries.mapM fun e =>
    let channel := w.channels.read e.2
    serializeChannel p channel (w.outputs.read channel.clientOutput)

/-! ## The wallet -/

/-- `wallet.saveNow()`: with autosave on, every extension is serialised,
and what that throws is thrown on. -/
def saveNow : Method Unit := do
  let w ← get
  if w.autosave && w.extensionInstalled then
    let _ ← orThrow (serializeWalletExtension p w)

/-- `updatedChannel`, which is `wallet.addOrUpdateExtension(this)`. -/
def updatedChannel : Method Unit := do
  modify fun w => { w with extensionInstalled := true }
  saveNow p

/-- `wallet.addOrGetExistingExtension`, which saves a new extension. -/
def addOrGetExistingExtension : Method Unit := do
  if ¬ (← get).extensionInstalled then
    modify fun w => { w with extensionInstalled := true }
    saveNow p

/-- `wallet.receivePending(tx, null, true)`: a transaction the wallet
knows is ignored, a risky one is kept out. -/
def receivePending (tx : Transaction) : Method Unit := do
  let w ← get
  if (w.transactions (p.getHash tx)).isNone && !env.risky then
    modify fun w =>
      { w with transactions := Function.update w.transactions (p.getHash tx) (some .alive) }
    saveNow p

/-! ## `StoredServerChannel` -/

/-- `updateValueToMe`. -/
def updateValueToMe (r : ChannelRef) (newValue : Coin) (newSignature : Option Bytes) :
    Method Unit :=
  modifyChannel r fun ch =>
    { ch with bestValueToMe := newValue, bestValueSignature := newSignature }

/-- `setConnectedHandler`: the handler the channel has afterwards, or the
one that stays in the way. -/
def setConnectedHandler (r : ChannelRef) (c : ConnRef) (override : Bool) :
    Method ConnRef := do
  match (← readChannel r).connectedHandler, override with
  | some existing, false => return existing
  | _, _ =>
      modifyChannel r fun ch => { ch with connectedHandler := some c }
      note (.driven c r)
      return c

section

variable {w : World} {r : ChannelRef} {c : ConnRef} {Q : ConnRef → World → Prop}
  {E : JavaException → World → Prop}

/-- The handler is set if there is none, or if it is to be replaced. -/
theorem wp_setConnectedHandler {override : Bool}
    (h : (w.channels.read r).connectedHandler = none ∨ override = true) :
    wp (setConnectedHandler r c override) w Q E ↔ Q c { w with
      channels := w.channels.modify r fun ch => { ch with connectedHandler := some c }
      trace := .driven c r :: w.trace } := by
  simp only [setConnectedHandler, wp_bind, wp_readChannel]
  cases hr : (w.channels.read r).connectedHandler with
  | none => simp
  | some existing =>
    obtain rfl : override = true := h.resolve_left (by simp [hr])
    simp

/-- A handler that is not to be replaced stays. -/
theorem wp_setConnectedHandler_busy {existing : ConnRef}
    (h : (w.channels.read r).connectedHandler = some existing) :
    wp (setConnectedHandler r c false) w Q E ↔ Q existing w := by
  simp [setConnectedHandler, h]

end

/-- `clearConnectedHandler`. -/
def clearConnectedHandler (r : ChannelRef) : Method Unit :=
  modifyChannel r fun ch => { ch with connectedHandler := none }

/-- The constructor `PaymentChannelServerState(storedServerChannel, ...)`.
It leaves `clientKey` and `redeemScript` unset. -/
def restoreState (r : ChannelRef) : Method StateRef := do
  let ch ← readChannel r
  let output ← orThrow ch.contract.output0
  match p.scriptError output.script.program with
  | some msg => throw (.verification msg)
  | none => pure ()
  let totalValue ← orThrow output.getValue
  checkArgument (ch.bestValueToMe = Coin.zero || ch.bestValueSignature.isSome)
  let w ← get
  let s := w.states.next
  set { w with states := (w.states.alloc {
    state := .ready
    serverKey := ch.myKey
    multisigContract := some ch.contract
    totalValue := some totalValue
    bestValueToMe := ch.bestValueToMe
    bestValueSignature := ch.bestValueSignature
    clientOutput := some ch.clientOutput
    refundTransactionUnlockTimeSecs := ch.refundTransactionUnlockTimeSecs
    storedServerChannel := some r }).2 }
  modifyChannel r fun ch => { ch with state := some s }
  return s

/-- `getOrCreateState`. There is one wallet, so its check passes. -/
def getOrCreateState (r : ChannelRef) : Method StateRef := do
  match (← readChannel r).state with
  | some s => return s
  | none => restoreState p r

/-! ## The map -/

/-- `getChannel`. -/
def getChannel (h : Sha256Hash) : Method (Option ChannelRef) := do
  return (← get).mapChannels.lookup h

/-- The date `putChannel` schedules the auto-close for, in milliseconds. -/
def autocloseTime (unlockTimeSecs clockOffset : Int) : Int :=
  addLong (mulLong (addLong unlockTimeSecs (-hardMinTimeWindow)) 1000) clockOffset

/-- `channelTimeoutHandler.schedule(task, date)`. -/
def schedule (r : ChannelRef) (date : Int) : Method Unit := do
  if date < 0 then
    throw (.illegalArgument (some "Illegal execution time."))
  if (← get).timerCancelled then
    throw ⟨.illegalState, some "Timer already cancelled."⟩
  modify fun w => { w with timers := (r, date) :: w.timers }

/-- `putChannel`. The map is written before the check that it held no
channel for the contract. -/
def putChannel (r : ChannelRef) : Method Unit := do
  let ch ← readChannel r
  let h := p.getHash ch.contract
  let put : Method Unit := do
    let old ← getChannel h
    modify fun w => { w with mapChannels := w.mapChannels.insert h r }
    note (.stored h r)
    checkArgument old.isNone
    schedule r (autocloseTime ch.refundTransactionUnlockTimeSecs env.clockOffset)
  tryCatch put fun e =>
    if e.cls = .illegalState then pure () else throw e
  updatedChannel p

/-- One channel of `deserializeWalletExtension`. -/
def deserializeChannel (stored : StoredServerPaymentChannel) : Method Unit := do
  let contract ← orThrow (p.parseTransaction stored.contractTransaction)
  let output ← orThrow (p.parseOutput stored.clientOutput)
  let best ← orThrow (Coin.valueOf stored.bestValueToMe)
  let w ← get
  let r := w.channels.next
  set { w with
    outputs := (w.outputs.alloc output).2
    channels := (w.channels.alloc {
      contract := contract
      clientOutput := w.outputs.next
      refundTransactionUnlockTimeSecs := stored.refundTransactionUnlockTimeSecs
      myKey := ECKey.fromPrivate p.toBitcoinj stored.myKey
      bestValueToMe := best
      bestValueSignature := stored.bestValueSignature }).2 }
  putChannel p env r

/-- `deserializeWalletExtension`, after the protobuf is parsed. -/
def deserializeWalletExtension (channels : List StoredServerPaymentChannel) : Method Unit :=
  channels.forM (deserializeChannel p env)

end BitMesh.Channels
