import BitMesh.Channels.Messages
import BitMesh.Lib.Heap
import Mathlib

/-!
# The objects of the channel server

One `World` holds every object the server side of the protocol mutates:
the `PaymentChannelServer` of each connection, the
`PaymentChannelServerState` and `StoredServerChannel` objects, the shared
client outputs, the map of `StoredPaymentChannelServerStates`, what was
handed to the broadcaster, and the wallet's view of transactions. Objects
refer to each other by heap name, so that the sharing of the Java code
(one record reached from the map, from a state and from a timer task; one
client output reached from a state and from its record) is kept.
-/

namespace BitMesh.Channels

open BitMesh.Bitcoin BitMesh.Lib

/-- Names of `PaymentChannelServer` objects, one a connection. -/
abbrev ConnRef := Nat

/-- Names of `PaymentChannelServerState` objects. -/
abbrev StateRef := Nat

/-- Names of `StoredServerChannel` objects. -/
abbrev ChannelRef := Nat

/-- Names of the `TransactionOutput` objects that are shared. -/
abbrev OutputRef := Nat

/-- `closedFuture`: unset, set (to `null` on the paths that never opened)
or failed. -/
inductive ClosedFuture where
  | pending
  | set (tx : Option Transaction)
  | failed
  deriving DecidableEq, Repr

/-- A `PaymentChannelServerState`. Fields the constructor leaves `null`
are optional; `closeCallbacks` are the callbacks on `closedFuture`. -/
structure PaymentChannelServerState where
  state : State
  serverKey : ECKey
  minExpireTime : Int := 0
  clientKey : Option ECKey := none
  redeemScript : Option Script := none
  multisigContract : Option Transaction := none
  totalValue : Option Coin := none
  bestValueToMe : Coin := Coin.zero
  bestValueSignature : Option Bytes := none
  clientOutput : Option OutputRef := none
  refundTransactionUnlockTimeSecs : Int := 0
  storedServerChannel : Option ChannelRef := none
  closedFuture : ClosedFuture := .pending
  closeCallbacks : List (ConnRef × CloseReason) := []

/-- A `StoredServerChannel`. -/
structure StoredServerChannel where
  contract : Transaction
  clientOutput : OutputRef
  refundTransactionUnlockTimeSecs : Int
  myKey : ECKey
  bestValueToMe : Coin
  bestValueSignature : Option Bytes
  state : Option StateRef := none
  connectedHandler : Option ConnRef := none

/-- `-StoredPaymentChannelServerStates.CHANNEL_EXPIRE_OFFSET`, which is
`PaymentChannelServer.HARD_MIN_TIME_WINDOW`. -/
def hardMinTimeWindow : Int := 2 * 60 * 60

/-- The time windows a server offers; the constructor of
`PaymentChannelServer` throws on any other pair. -/
structure TimeWindow where
  minTimeWindow : Int
  maxTimeWindow : Int
  ordered : minTimeWindow ≤ maxTimeWindow
  hardMin : hardMinTimeWindow ≤ minTimeWindow

/-- `DEFAULT_MIN_TIME_WINDOW` and `DEFAULT_MAX_TIME_WINDOW`. -/
def TimeWindow.default : TimeWindow :=
  ⟨4 * 60 * 60, 7 * 24 * 60 * 60, by decide, by decide⟩

/-- The configuration of the `ConnectedClient` behind a connection. -/
structure ClientConfig where
  maxPrice : Int
  negotiatedPrice : Int

/-- A `PaymentChannelServer`. `client` is `null` until the connection
opens. -/
structure PaymentChannelServer where
  minAcceptedChannelSize : Coin
  window : TimeWindow
  myKey : ECKey
  myAddress : Address
  step : InitStep := .waitingOnClientVersion
  connectionOpen : Bool := false
  channelSettling : Bool := false
  state : Option StateRef := none
  expireTime : Int := 0
  fundingAddress : Option Address := none
  client : Option ClientConfig := none
  finalTransaction : Option Transaction := none
  numFundingSent : Int := 0
  clientVersion : Option ClientVersion := none
  totalSent : Int := 0

/-- Why a transaction was broadcast, which is what its callbacks do: the
contract of a state, with the message and connection it came with, or the
settlement of a state. -/
inductive Purpose where
  | contract (s : StateRef) (c : ConnRef) (provided : ProvideContract)
  | settlement (s : StateRef)
  deriving DecidableEq, Repr

/-- A call of `broadcaster.broadcastTransaction`. -/
structure Broadcast where
  tx : Transaction
  purpose : Purpose
  completed : Bool := false
  deriving DecidableEq, Repr

/-- What the wallet knows of a transaction's fate; only `DEAD` matters. -/
inductive Confidence where
  | alive
  | dead
  deriving DecidableEq, Repr

/-- The history of a run. The first group are the calls on the
connection and the client behind it; the rest mark the moments the
properties speak of. No method reads the history. -/
inductive Event where
  | sent (c : ConnRef) (m : ServerMessage)
  | destroyed (c : ConnRef) (reason : CloseReason)
  | channelOpen (c : ConnRef) (contractHash : Sha256Hash)
  | paymentIncrease (c : ConnRef) (amount total : Coin) (info : Option Bytes)
  | reloadedChannel (c : ConnRef)
  /-- `step` was assigned. -/
  | stepped (c : ConnRef) (s : InitStep)
  /-- `expireTime` was set from this reading of the clock. -/
  | expirySet (c : ConnRef) (now : Int)
  /-- `provideRefundTransaction` signed a refund with this lock time. -/
  | refundSigned (s : StateRef) (lockTime : Int)
  /-- A redeem script with this key of the server was signed for, or made
  to be compared with the script of a contract. -/
  | keyUsed (c : ConnRef) (pub : Bytes)
  /-- `incrementPayment` accepted, leaving this `bestValueToMe`. -/
  | accepted (s : StateRef) (h : Sha256Hash) (valueToMe : Coin)
  /-- An UPDATE_PAYMENT message reached the state of the connection. -/
  | updateApplied (c : ConnRef) (s : StateRef)
  /-- `receiveUpdatePaymentMessage` reported this increase of the state of
  the connection to `conn.paymentIncrease`, and this total. -/
  | credited (c : ConnRef) (s : StateRef) (amount total : Coin)
  /-- `mapChannels.put`. -/
  | stored (h : Sha256Hash) (r : ChannelRef)
  /-- `storeChannelInWallet` returned to the connection. -/
  | channelStored (s : StateRef)
  /-- `mapChannels.remove` found the channel. -/
  | removed (h : Sha256Hash)
  /-- `PaymentChannelServerState.close` was called. -/
  | closeCalled (s : StateRef)
  /-- `multisigContractPropogated` sent CHANNEL_OPEN for its state. -/
  | opened (c : ConnRef) (s : StateRef)
  /-- `setConnectedHandler` made the connection the channel's handler. -/
  | driven (c : ConnRef) (r : ChannelRef)
  /-- `PaymentChannelServer.close` was called by a resuming connection. -/
  | superseded (c : ConnRef) (r : ChannelRef)
  | connectionClosed (c : ConnRef)
  /-- `addressConnectionMap.put`. -/
  | watched (a : Address) (c : ConnRef)
  /-- `addressConnectionMap.remove`, for the connection that had the address. -/
  | unwatched (a : Address) (c : ConnRef)
  deriving DecidableEq

/-- Everything the server side mutates, and the history so far. -/
structure World where
  servers : Heap PaymentChannelServer
  states : Heap PaymentChannelServerState
  channels : Heap StoredServerChannel
  outputs : Heap TransactionOutput
  broadcasts : Heap Broadcast
  /-- `mapChannels` of the installed `StoredPaymentChannelServerStates`. -/
  mapChannels : AList (fun _ : Sha256Hash => ChannelRef)
  /-- Whether the wallet has the extension yet. -/
  extensionInstalled : Bool
  /-- The auto-close tasks that have not run, with their dates. -/
  timers : List (ChannelRef × Int)
  /-- Whether a task's exception has ended the timer thread. -/
  timerCancelled : Bool
  /-- `wallet.getTransaction(hash)` and its confidence. -/
  transactions : Sha256Hash → Option Confidence
  /-- Whether the wallet saves itself on every change. -/
  autosave : Bool
  /-- `BitmeshServer.addressConnectionMap`. -/
  addressConnectionMap : AList (fun _ : Address => ConnRef)
  /-- Newest first. -/
  trace : List Event

/-- The calls on the `ConnectedClient` that can throw. -/
inductive Callback where
  | channelOpen
  | paymentIncrease
  | setReloadedChannel
  deriving DecidableEq, Repr

/-- What one call reads from outside the server. -/
structure Env where
  /-- `Utils.currentTimeSeconds()`. -/
  now : Int
  /-- Its second reading in the same handler. -/
  later : Int
  /-- `System.currentTimeMillis() - Utils.currentTimeMillis()`. -/
  clockOffset : Int
  /-- The private key `new ECKey()` generates. -/
  freshKey : Bytes
  /-- The output script of `wallet.getChangeAddress()`. -/
  changeScript : Script
  changeScript_length : changeScript.program.length ≤ 25
  /-- `wallet.getWatchedOutputs(true)`, each with its transaction. -/
  watchedOutputs : List (TransactionOutput × Transaction)
  /-- Whether the wallet keeps a pending contract out as risky. -/
  risky : Bool
  callbackThrows : Callback → Option JavaException

/-- The libraries below the channel classes: bitcoinj, and the size of
the protobuf encoding of a message. -/
structure Platform extends Bitcoinj where
  encodedSize : ServerMessage → Nat

/-- Methods of the channel classes. -/
abbrev Method := EStateM JavaException World

/-! ## Field access -/

def readServer (c : ConnRef) : Method PaymentChannelServer := do
  return (← get).servers.read c

def modifyServer (c : ConnRef) (f : PaymentChannelServer → PaymentChannelServer) :
    Method Unit :=
  modify fun w => { w with servers := w.servers.modify c f }

def readState (s : StateRef) : Method PaymentChannelServerState := do
  return (← get).states.read s

def modifyState (s : StateRef)
    (f : PaymentChannelServerState → PaymentChannelServerState) : Method Unit :=
  modify fun w => { w with states := w.states.modify s f }

def readChannel (r : ChannelRef) : Method StoredServerChannel := do
  return (← get).channels.read r

def modifyChannel (r : ChannelRef) (f : StoredServerChannel → StoredServerChannel) :
    Method Unit :=
  modify fun w => { w with channels := w.channels.modify r f }

def readOutput (o : OutputRef) : Method TransactionOutput := do
  return (← get).outputs.read o

def modifyOutput (o : OutputRef) (f : TransactionOutput → TransactionOutput) :
    Method Unit :=
  modify fun w => { w with outputs := w.outputs.modify o f }

def note (e : Event) : Method Unit :=
  modify fun w => { w with trace := e :: w.trace }

section Access

variable {α : Type} {w : World} {E : JavaException → World → Prop}

@[simp] theorem wp_readServer (c : ConnRef) {Q : PaymentChannelServer → World → Prop} :
    wp (readServer c) w Q E ↔ Q (w.servers.read c) w := by
  simp [readServer]

@[simp] theorem wp_modifyServer (c : ConnRef) (f) {Q : Unit → World → Prop} :
    wp (modifyServer c f) w Q E ↔ Q () { w with servers := w.servers.modify c f } := by
  simp [modifyServer]

@[simp] theorem wp_readState (s : StateRef) {Q : PaymentChannelServerState → World → Prop} :
    wp (readState s) w Q E ↔ Q (w.states.read s) w := by
  simp [readState]

@[simp] theorem wp_modifyState (s : StateRef) (f) {Q : Unit → World → Prop} :
    wp (modifyState s f) w Q E ↔ Q () { w with states := w.states.modify s f } := by
  simp [modifyState]

@[simp] theorem wp_readChannel (r : ChannelRef) {Q : StoredServerChannel → World → Prop} :
    wp (readChannel r) w Q E ↔ Q (w.channels.read r) w := by
  simp [readChannel]

@[simp] theorem wp_modifyChannel (r : ChannelRef) (f) {Q : Unit → World → Prop} :
    wp (modifyChannel r f) w Q E ↔ Q () { w with channels := w.channels.modify r f } := by
  simp [modifyChannel]

@[simp] theorem wp_readOutput (o : OutputRef) {Q : TransactionOutput → World → Prop} :
    wp (readOutput o) w Q E ↔ Q (w.outputs.read o) w := by
  simp [readOutput]

@[simp] theorem wp_modifyOutput (o : OutputRef) (f) {Q : Unit → World → Prop} :
    wp (modifyOutput o f) w Q E ↔ Q () { w with outputs := w.outputs.modify o f } := by
  simp [modifyOutput]

@[simp] theorem wp_note (e : Event) {Q : Unit → World → Prop} :
    wp (note e) w Q E ↔ Q () { w with trace := e :: w.trace } := by
  simp [note]

end Access

end BitMesh.Channels
