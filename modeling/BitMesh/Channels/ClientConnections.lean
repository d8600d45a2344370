import BitMesh.Channels.ClientState
import BitMesh.Lib.Transition

/-!
# Connections of the Java client

`connectionOpen` looks for a stored channel of the server that nobody uses
and sets its `active` flag. The flag is cleared by `disconnectFromChannel` of
the state object, and that is made only when CHANNEL_OPEN resumes the
channel: a connection that ends before leaves the channel in use for good.
-/

namespace BitMesh.Channels

open BitMesh.Bitcoin BitMesh.Lib

/-- A connection: its `PaymentChannelClient`. -/
abbrev ConnectionRef := Nat

/-- A `StoredClientChannel` of the wallet. -/
abbrev StoredRef := Nat

/-- `PaymentChannelClient.InitStep`. -/
inductive ClientStep where
  | waitingForConnectionOpen
  | waitingForVersionNegotiation
  | waitingForInitiate
  | waitingForRefundReturn
  | waitingForChannelOpen
  | channelOpen
  | waitingForChannelClose
  | channelClosed
  deriving DecidableEq, Repr

/-- A stored channel as the wallet has it: with the transaction that closed
it, and whether the wallet knew its key when it was read. -/
structure ClientChannel extends StoredClientChannel where
  close : Option Transaction := none
  keyFound : Bool := true

/-- A `PaymentChannelClientState` made from a stored channel. -/
structure ResumedState where
  refundTx : Transaction
  expiryTime : Int
  state : ClientStage := .ready
  storedChannel : Option StoredRef

/-- The codes of `Error.ErrorCode` the client sends. -/
inductive ClientErrorCode where
  | syntaxError
  | noAcceptableVersion
  | badTransaction
  | timeWindowUnacceptable
  | channelValueTooLarge
  | minPaymentTooLarge
  deriving DecidableEq, Repr

/-- The reasons the client closes for. -/
inductive ClientCloseReason where
  | noAcceptableVersion
  | timeWindowUnacceptable
  | serverRequestedTooMuchValue
  | remoteSentError
  | remoteSentInvalidMessage
  | clientRequestedClose
  | serverRequestedClose
  deriving DecidableEq, Repr

/-- The `Error` that is built when a message is refused. -/
structure Refusal where
  code : ClientErrorCode
  explanation : Option String := none
  expectedValue : Option Int := none
  closeReason : ClientCloseReason

/-- What a client has its `ClientConnection` do. -/
inductive ClientCall where
  | sendClientVersion (version : ClientVersion)
  | sendProvideRefund (refund : ProvideRefund)
  | sendClose
  | sendError (refusal : Refusal)
  | destroyConnection (reason : ClientCloseReason)
  | channelOpen (wasInitiated : Bool)

/-- What the constructor of a client is given; `userKeySetup` is whether
there is one. -/
structure ClientParams where
  serverId : Sha256Hash
  myKey : ECKey
  maxValue : Coin
  timeWindow : Nat
  userKeySetup : Bool := false

structure PaymentChannelClient extends ClientParams where
  connectionOpen : Bool := false
  state : Option ResumedState := none
  step : ClientStep := .waitingForConnectionOpen
  storedChannel : Option StoredRef := none
  missing : Option Coin := none
  minPayment : Int := 0
  increasePaymentFuture : Bool := false
  calls : List ClientCall := []

structure Initiate where
  expireTimeSecs : Int
  minAcceptedChannelSize : Int
  minPayment : Int

/-- A message from the server, by what the client reads of it. -/
structure FromServer where
  type : MessageType
  serverVersion : Option Int := none
  initiate : Option Initiate := none
  returnRefund : Option Bytes := none
  settlement : Option Bytes := none
  hasError : Bool := false

/-- What the wallet and the connection answer while a message is handled. -/
structure ClientAnswers where
  isEncrypted : Bool
  acceptExpireTime : Int → Bool
  isSettlementTransaction : Transaction → Bool
  receivePending : Transaction → Except JavaException Unit

namespace PaymentChannelClient

def clientMajorVersion : Int := 1

def clientMinorVersion : Int := 0

def serverMajorVersion : Int := 1

/-- Methods of one client. The stored channels are read only. -/
abbrev Handler := EStateM JavaException PaymentChannelClient

def call (call : ClientCall) : Handler Unit :=
  modify fun client => { client with calls := client.calls ++ [call] }

def setStep (step : ClientStep) : Handler Unit :=
  modify fun client => { client with step := step }

/-- `receiveInitiate`. What made the state object is commented out, so
there is one only if the client was connected before. -/
def receiveInitiate (lib : Bitcoinj) (answers : ClientAnswers) (initiate : Initiate) :
    Handler (Option Refusal) := do
  let client ← get
  if answers.isEncrypted && !client.userKeySetup then
    throw ⟨.runtime, none⟩
  let expireTime := initiate.expireTimeSecs
  checkState (decide (0 ≤ expireTime ∧ 0 ≤ initiate.minAcceptedChannelSize))
  if !answers.acceptExpireTime expireTime then
    return some { code := .timeWindowUnacceptable, closeReason := .timeWindowUnacceptable }
  let minChannelSize ← orThrow (Coin.valueOf initiate.minAcceptedChannelSize)
  if client.maxValue.value < minChannelSize.value then
    let missing ← orThrow (minChannelSize.subtract client.maxValue)
    modify fun client => { client with missing := some missing }
    return some { code := .channelValueTooLarge, closeReason := .serverRequestedTooMuchValue }
  let minPayment := Coin.referenceDefaultMinTxFee.value
  if initiate.minPayment ≠ minPayment then
    let missing ← orThrow (Coin.valueOf (addLong initiate.minPayment (-minPayment)))
    modify fun client => { client with missing := some missing }
    return some {
      code := .minPaymentTooLarge
      expectedValue := some minPayment
      closeReason := .serverRequestedTooMuchValue }
  modify fun client => { client with minPayment := initiate.minPayment }
  setStep .waitingForRefundReturn
  let state ← nonNull client.state
  call (.sendProvideRefund ⟨client.myKey.pub, lib.serializeTransaction state.refundTx⟩)
  return none

/-- `receiveRefund`. A state object that was resumed is past waiting for a
signature, which is what `provideRefundSignature` checks first. -/
def receiveRefund (msg : FromServer) : Handler Unit := do
  let client ← get
  checkState (decide (client.step = .waitingForRefundReturn) && msg.returnRefund.isSome)
  let state ← nonNull client.state
  checkState (decide (state.state = .waitingForSignedRefund))

/-- `new PaymentChannelClientState(storedChannel, wallet)`. -/
def resume (lib : Bitcoinj) (channels : StoredRef → ClientChannel) (storedChannel : StoredRef) :
    Handler ResumedState := do
  let channel := channels storedChannel
  let output ← orThrow channel.contract.output0
  match lib.scriptError output.script.program with
  | some msg => throw (.verification msg)
  | none => pure ()
  let _ ← nonNull channel.refundFees
  let _ ← nonNull (if channel.keyFound then some channel.myKey else none)
  let _ ← orThrow output.getValue
  return {
    refundTx := channel.refund
    expiryTime := channel.refund.lockTime.toNat
    storedChannel := some storedChannel }

/-- `receiveChannelOpen`. -/
def receiveChannelOpen (lib : Bitcoinj) (channels : StoredRef → ClientChannel) :
    Handler Unit := do
  let client ← get
  checkState (decide (client.step = .waitingForChannelOpen ∨
    client.step = .waitingForInitiate ∧ client.storedChannel.isSome))
  if client.step = .waitingForInitiate then
    let storedChannel ← nonNull client.storedChannel
    let state ← resume lib channels storedChannel
    modify fun client => { client with state := some state }
  setStep .channelOpen
  call (.channelOpen (decide (client.step ≠ .waitingForInitiate)))

/-- `receivePaymentAck`, as far as the client keeps anything of it. -/
def receivePaymentAck : Handler Unit :=
  modify fun client => { client with increasePaymentFuture := false }

/-- `receiveClose`. What the wallet's listeners do about the settlement are
events of their own. -/
def receiveClose (lib : Bitcoinj) (answers : ClientAnswers) (msg : FromServer) :
    Handler Unit := do
  let client ← get
  match msg.settlement with
  | some tx =>
      let settleTx ← orThrow (lib.parseTransaction tx)
      if client.state.isSome && answers.isSettlementTransaction settleTx then
        orThrow (answers.receivePending settleTx)
  | none => pure ()
  call (.destroyConnection (if client.step = .waitingForChannelClose then .clientRequestedClose
    else .serverRequestedClose))
  setStep .channelClosed

/-- The cases of `receiveMessage`; a refusal is what falls out of the
`switch`. -/
def receive (lib : Bitcoinj) (answers : ClientAnswers) (channels : StoredRef → ClientChannel)
    (msg : FromServer) : Handler (Option Refusal) := do
  let client ← get
  match msg.type with
  | .serverVersion =>
      checkState (decide (client.step = .waitingForVersionNegotiation) && msg.serverVersion.isSome)
      if msg.serverVersion ≠ some serverMajorVersion then
        return some { code := .noAcceptableVersion, closeReason := .noAcceptableVersion }
      setStep .waitingForInitiate
      return none
  | .initiate =>
      checkState (decide (client.step = .waitingForInitiate))
      match msg.initiate with
      | some initiate => receiveInitiate lib answers initiate
      | none => throw .illegalState
  | .returnRefund =>
      receiveRefund msg
      return none
  | .channelOpen =>
      receiveChannelOpen lib channels
      return none
  | .paymentAck =>
      receivePaymentAck
      return none
  | .close =>
      receiveClose lib answers msg
      return none
  | .error =>
      checkState msg.hasError
      call (.destroyConnection .remoteSentError)
      return none
  | _ => return some { code := .syntaxError, closeReason := .remoteSentInvalidMessage }

def receiveMessage (lib : Bitcoinj) (answers : ClientAnswers)
    (channels : StoredRef → ClientChannel) (msg : FromServer) : Handler Unit := do
  checkState (← get).connectionOpen
  let refusal ← tryCatch (receive lib answers channels msg) fun e => do
    if e.cls = .verification then
      let explanation ← nonNull e.message
      return some {
        code := .badTransaction
        explanation := some explanation
        closeReason := .remoteSentInvalidMessage }
    else if e.cls = .illegalState then
      return some { code := .syntaxError, closeReason := .remoteSentInvalidMessage }
    else throw e
  match refusal with
  | none => pure ()
  | some refusal =>
      call (.sendError refusal)
      call (.destroyConnection refusal.closeReason)

/-- `settle`. -/
def settle : Handler Unit := do
  checkState (← get).connectionOpen
  setStep .waitingForChannelClose
  call .sendClose

/-- The channel `connectionClosed` makes its state object disconnect from. -/
def disconnects (client : PaymentChannelClient) : Option StoredRef :=
  client.state.bind (·.storedChannel)

/-- The state object that is asked for a payment, if it comes to that. -/
def paying (client : PaymentChannelClient) (isEncrypted : Bool) : Option ResumedState :=
  client.state.filter fun state =>
    client.connectionOpen && decide (client.step = .channelOpen) &&
      !client.increasePaymentFuture && !isEncrypted && decide (state.state = .ready)

end PaymentChannelClient

/-- The stored channels of a wallet, the connections that use it, and who
activated a channel last, which the source does not keep. `mapChannels`
lists the channels of a server in the order they are gone through. It is
null where the wallet lacks the extension. -/
structure Clients where
  channels : Heap ClientChannel
  mapChannels : Option (Sha256Hash → List StoredRef)
  clients : Heap PaymentChannelClient
  activatedBy : StoredRef → Option ConnectionRef

/-- What happens to the connections of a wallet. The last three are what the
wallet's listeners and the timer of the stored channels do. -/
inductive ClientEvent where
  | connectionOpen (c : ConnectionRef)
  | receiveMessage (c : ConnectionRef) (answers : ClientAnswers) (msg : FromServer)
  | connectionClosed (c : ConnectionRef)
  | settle (c : ConnectionRef)
  /-- `incrementPayment` on a wallet that is encrypted or not; what is left
  to the client afterwards if nothing is thrown. -/
  | incrementPayment (c : ConnectionRef) (isEncrypted : Bool) (now : Int) (valueToMe : Option Coin)
  | settlementSeen (c : ConnectionRef) (tx : Transaction)
  | settlementConfirmed (c : ConnectionRef)
  | timedOut (ch : StoredRef)

namespace Clients

/-- No connection has been opened yet. -/
def start (channels : Heap ClientChannel) (mapChannels : Option (Sha256Hash → List StoredRef))
    (params : ConnectionRef → ClientParams) : Clients where
  channels := channels
  mapChannels := mapChannels
  clients := ⟨0, fun c => { toClientParams := params c }⟩
  activatedBy _ := none

/-- The test in the loop of `getUsableChannelForServerID`. -/
def usable (w : Clients) (ch : StoredRef) : Bool :=
  let channel := w.channels.read ch
  !(channel.close.isSome || decide (channel.valueToMe.value = 0)) && !channel.active

/-- The channel `getUsableChannelForServerID` finds in what is stored. -/
def getUsableChannel (w : Clients) (setChannels : List StoredRef) : Option StoredRef :=
  setChannels.find? w.usable

/-- `storedChannel` after the look for a usable channel. -/
def lookedUp (w : Clients) (c : ConnectionRef) : Option StoredRef :=
  match w.mapChannels with
  | some mapChannels => w.getUsableChannel (mapChannels (w.clients.read c).serverId)
  | none => (w.clients.read c).storedChannel

/-- The rest of `connectionOpen`. -/
def beginHandshake (lib : Bitcoinj) (w : Clients) (c : ConnectionRef)
    (storedChannel : Option StoredRef) : Clients :=
  { w with clients := w.clients.modify c fun client =>
    { client with
      connectionOpen := true
      storedChannel := storedChannel
      step := .waitingForVersionNegotiation
      calls := client.calls ++ [.sendClientVersion {
        major := PaymentChannelClient.clientMajorVersion
        minor := PaymentChannelClient.clientMinorVersion
        previousChannelContractHash := match storedChannel with
          | some ch => (lib.getHash (w.channels.read ch).contract).bytes
          | none => []
        timeWindowSecs := client.timeWindow }] } }

/-- `channel.active = true`. -/
def activate (w : Clients) (c : ConnectionRef) (ch : StoredRef) : Clients :=
  { w with
    channels := w.channels.modify ch fun channel => { channel with active := true }
    activatedBy := Function.update w.activatedBy ch (some c) }

/-- `connectionOpen`. -/
def connectionOpen (lib : Bitcoinj) (w : Clients) (c : ConnectionRef) : Clients :=
  let storedChannel := w.lookedUp c
  let w := match w.mapChannels, storedChannel with
    | some _, some ch => w.activate c ch
    | _, _ => w
  w.beginHandshake lib c storedChannel

/-- `disconnectFromChannel`. -/
def disconnectFromChannel (w : Clients) (storedChannel : Option StoredRef) : Clients :=
  match storedChannel with
  | some ch =>
      { w with channels := w.channels.modify ch fun channel => { channel with active := false } }
  | none => w

/-- `connectionClosed`. -/
def connectionClosed (w : Clients) (c : ConnectionRef) : Clients :=
  { w with clients := w.clients.modify c fun client =>
      { client with connectionOpen := false } }.disconnectFromChannel
    (w.clients.read c).disconnects

/-- A change of a connection's state object. -/
def setState (w : Clients) (c : ConnectionRef) (state : ResumedState) : Clients :=
  { w with clients := w.clients.modify c fun client => { client with state := some state } }

/-- `removeChannel`. -/
def removeChannel (w : Clients) (ch : StoredRef) : Clients :=
  { w with mapChannels := w.mapChannels.map fun mapChannels =>
      let id := (w.channels.read ch).id
      Function.update mapChannels id ((mapChannels id).filter (· ≠ ch)) }

/-- `incrementPayment`; a channel that turns out to be expired is
disconnected from. -/
def incrementPayment (w : Clients) (c : ConnectionRef) (isEncrypted : Bool) (now : Int)
    (valueToMe : Option Coin) : Clients :=
  match (w.clients.read c).paying isEncrypted with
  | none => w
  | some state =>
      if state.expiryTime < now then
        (w.setState c { state with state := .expired }).disconnectFromChannel state.storedChannel
      else
        match valueToMe, state.storedChannel with
        | some valueToMe, some ch =>
            { w with
              channels := w.channels.modify ch fun channel =>
                { channel with valueToMe := valueToMe }
              clients := w.clients.modify c fun client =>
                { client with increasePaymentFuture := true } }
        | some _, none =>
            { w with clients := w.clients.modify c fun client =>
                { client with increasePaymentFuture := true } }
        | none, _ => w

/-- `onCoinsReceived` of the listener of a state object, for a transaction
that settles its contract. -/
def settlementSeen (w : Clients) (c : ConnectionRef) (tx : Transaction) : Clients :=
  match (w.clients.read c).state with
  | none => w
  | some state =>
      let w := w.setState c { state with state := .closed }
      match state.storedChannel with
      | some ch =>
          { w with channels := w.channels.modify ch fun channel =>
              { channel with close := some tx } }
      | none => w

/-- `deleteChannelFromWallet` of a state object. -/
def settlementConfirmed (w : Clients) (c : ConnectionRef) : Clients :=
  match (w.clients.read c).state with
  | none => w
  | some state =>
      match state.storedChannel with
      | some ch => (w.removeChannel ch).setState c { state with storedChannel := none }
      | none => w

/-- A method of one client, whose exceptions end in the thread it runs in. -/
def run (w : Clients) (c : ConnectionRef) (m : PaymentChannelClient.Handler Unit) : Clients :=
  { w with clients := w.clients.modify c (finalState m) }

def handle (lib : Bitcoinj) (w : Clients) : ClientEvent → Clients
  | .connectionOpen c => w.connectionOpen lib c
  | .receiveMessage c answers msg =>
      w.run c (PaymentChannelClient.receiveMessage lib answers w.channels.read msg)
  | .connectionClosed c => w.connectionClosed c
  | .settle c => w.run c PaymentChannelClient.settle
  | .incrementPayment c isEncrypted now valueToMe =>
      w.incrementPayment c isEncrypted now valueToMe
  | .settlementSeen c tx => w.settlementSeen c tx
  | .settlementConfirmed c => w.settlementConfirmed c
  | .timedOut ch => w.removeChannel ch

/-! ## What is said of the connections -/

/-- The connection is open and the channel is its `storedChannel`. -/
structure Holds (w : Clients) (c : ConnectionRef) (ch : StoredRef) : Prop where
  isOpen : (w.clients.read c).connectionOpen = true
  stored : (w.clients.read c).storedChannel = some ch

/-- A stored channel is held by at most one open connection. -/
def Exclusive (w : Clients) : Prop :=
  ∀ ch c d, w.Holds c ch → w.Holds d ch → c = d

/-- The channel is out of use: unless it is closed or empty, a connection
that comes to it takes it. -/
structure Released (w : Clients) (ch : StoredRef) : Prop where
  inactive : (w.channels.read ch).active = false
  reopens : (w.channels.read ch).close = none → (w.channels.read ch).valueToMe.value ≠ 0 →
    ∀ rest, w.getUsableChannel (ch :: rest) = some ch

/-- After the event no two open connections hold one channel, and if it is
the end of a connection, the channel that it activated is released. -/
structure Leased (lib : Bitcoinj) (w : Clients) (event : ClientEvent) : Prop where
  exclusive : (w.handle lib event).Exclusive
  released : ∀ c, event = .connectionClosed c → ∀ ch, w.activatedBy ch = some c →
    (w.handle lib event).Released ch

/-- The channel an event disconnects from. -/
def disconnected (w : Clients) : ClientEvent → Option StoredRef
  | .connectionClosed c => (w.clients.read c).disconnects
  | .incrementPayment c isEncrypted now _ =>
      match (w.clients.read c).paying isEncrypted with
      | some state => if state.expiryTime < now then state.storedChannel else none
      | none => none
  | _ => none

/-- No open connection but the one that ends holds the channel that is
disconnected from. -/
def LeavesOthers (w : Clients) (event : ClientEvent) : Prop :=
  ∀ ch, w.disconnected event = some ch → ∀ d, w.Holds d ch → event = .connectionClosed d

/-- When a connection ends, the channel it has in use is the one that its
state object was made from: CHANNEL_OPEN has resumed it. -/
def Resumed (w : Clients) (event : ClientEvent) : Prop :=
  ∀ c, event = .connectionClosed c → ∀ ch, w.activatedBy ch = some c →
    (w.channels.read ch).active = true → (w.clients.read c).disconnects = some ch

end Clients

/-! ## Messages

No message changes which channel a connection holds. -/

namespace PaymentChannelClient

/-- What decides whether a connection holds a channel. -/
def hold (client : PaymentChannelClient) : Bool × Option StoredRef :=
  (client.connectionOpen, client.storedChannel)

theorem keeps_checkState (b : Bool) : Keeps hold (checkState b) := by
  cases b
  · exact Keeps.throw _
  · exact Keeps.pure _

theorem keeps_nonNull {α : Type} (x : Option α) : Keeps hold (nonNull x) := by
  cases x
  · exact Keeps.throw _
  · exact Keeps.pure _

theorem keeps_orThrow {α : Type} (x : Except JavaException α) : Keeps hold (orThrow x) := by
  cases x
  · exact Keeps.throw _
  · exact Keeps.pure _

theorem keeps_call (c : ClientCall) : Keeps hold (call c) := Keeps.modify fun _ => rfl

theorem keeps_setStep (step : ClientStep) : Keeps hold (setStep step) := Keeps.modify fun _ => rfl

theorem keeps_receiveInitiate (lib : Bitcoinj) (answers : ClientAnswers) (initiate : Initiate) :
    Keeps hold (receiveInitiate lib answers initiate) := by
  refine Keeps.read fun client => Keeps.ite (fun _ => Keeps.throw_bind _ _) fun _ => ?_
  refine Keeps.bind (keeps_checkState _) fun _ => Keeps.ite (fun _ => Keeps.pure _) fun _ => ?_
  refine Keeps.bind (keeps_orThrow _) fun minChannelSize => Keeps.ite (fun _ => ?_) fun _ => ?_
  · exact Keeps.bind (keeps_orThrow _) fun _ => Keeps.modify_bind (fun _ => rfl) (Keeps.pure _)
  refine Keeps.ite (fun _ => ?_) fun _ => ?_
  · exact Keeps.bind (keeps_orThrow _) fun _ => Keeps.modify_bind (fun _ => rfl) (Keeps.pure _)
  refine Keeps.modify_bind (fun _ => rfl) (Keeps.bind (keeps_setStep _) fun _ => ?_)
  exact Keeps.bind (keeps_nonNull _) fun _ => Keeps.bind (keeps_call _) fun _ => Keeps.pure _

theorem keeps_receiveRefund (msg : FromServer) : Keeps hold (receiveRefund msg) :=
  Keeps.read fun _ => Keeps.bind (keeps_checkState _) fun _ =>
    Keeps.bind (keeps_nonNull _) fun _ => keeps_checkState _

theorem keeps_resume (lib : Bitcoinj) (channels : StoredRef → ClientChannel) (ch : StoredRef) :
    Keeps hold (resume lib channels ch) := by
  refine Keeps.bind (keeps_orThrow _) fun output => ?_
  cases lib.scriptError output.script.program with
  | some msg => exact Keeps.throw_bind _ _
  | none =>
      refine Keeps.bind (keeps_nonNull _) fun _ => Keeps.bind (keeps_nonNull _) fun _ => ?_
      exact Keeps.bind (keeps_orThrow _) fun _ => Keeps.pure _

theorem keeps_receiveChannelOpen (lib : Bitcoinj) (channels : StoredRef → ClientChannel) :
    Keeps hold (receiveChannelOpen lib channels) := by
  refine Keeps.read fun client => Keeps.bind (keeps_checkState _) fun _ => ?_
  have hrest : Keeps hold (setStep .channelOpen >>= fun _ =>
      call (.channelOpen (decide (client.step ≠ .waitingForInitiate)))) :=
    Keeps.bind (keeps_setStep _) fun _ => keeps_call _
  refine Keeps.ite (fun _ => ?_) fun _ => hrest
  refine Keeps.bind (keeps_nonNull _) fun _ => Keeps.bind (keeps_resume lib _ _) fun _ => ?_
  exact Keeps.modify_bind (fun _ => rfl) hrest

theorem keeps_receiveClose (lib : Bitcoinj) (answers : ClientAnswers) (msg : FromServer) :
    Keeps hold (receiveClose lib answers msg) := by
  refine Keeps.read fun client => ?_
  have hrest (reason : ClientCloseReason) : Keeps hold (call (.destroyConnection reason) >>=
      fun _ => setStep .channelClosed) :=
    Keeps.bind (keeps_call _) fun _ => keeps_setStep _
  cases msg.settlement with
  | none => exact hrest _
  | some tx =>
      refine Keeps.bind (keeps_orThrow _) fun settleTx => Keeps.ite (fun _ => ?_) fun _ => hrest _
      exact Keeps.bind (keeps_orThrow _) fun _ => hrest _

theorem keeps_receive (lib : Bitcoinj) (answers : ClientAnswers)
    (channels : StoredRef → ClientChannel) (msg : FromServer) :
    Keeps hold (receive lib answers channels msg) := by
  refine Keeps.read fun client => ?_
  cases msg.type with
  | serverVersion =>
      refine Keeps.bind (keeps_checkState _) fun _ => Keeps.ite (fun _ => Keeps.pure _) fun _ => ?_
      exact Keeps.bind (keeps_setStep _) fun _ => Keeps.pure _
  | initiate =>
      refine Keeps.bind (keeps_checkState _) fun _ => ?_
      cases msg.initiate with
      | none => exact Keeps.throw _
      | some initiate => exact keeps_receiveInitiate lib answers initiate
  | returnRefund => exact Keeps.bind (keeps_receiveRefund msg) fun _ => Keeps.pure _
  | channelOpen => exact Keeps.bind (keeps_receiveChannelOpen lib channels) fun _ => Keeps.pure _
  | paymentAck => exact Keeps.modify_bind (fun _ => rfl) (Keeps.pure _)
  | close => exact Keeps.bind (keeps_receiveClose lib answers msg) fun _ => Keeps.pure _
  | error =>
      refine Keeps.bind (keeps_checkState _) fun _ => ?_
      exact Keeps.bind (keeps_call _) fun _ => Keeps.pure _
  | clientVersion => exact Keeps.pure _
  | price => exact Keeps.pure _
  | fundingAddress => exact Keeps.pure _
  | funding => exact Keeps.pure _
  | provideRefund => exact Keeps.pure _
  | provideContract => exact Keeps.pure _
  | updatePayment => exact Keeps.pure _

theorem keeps_receiveMessage (lib : Bitcoinj) (answers : ClientAnswers)
    (channels : StoredRef → ClientChannel) (msg : FromServer) :
    Keeps hold (receiveMessage lib answers channels msg) := by
  refine Keeps.read fun client => Keeps.bind (keeps_checkState _) fun _ => ?_
  refine Keeps.bind (Keeps.tryCatch (keeps_receive lib answers channels msg) fun e => ?_) ?_
  · refine Keeps.ite (fun _ => Keeps.bind (keeps_nonNull _) fun _ => Keeps.pure _) fun _ => ?_
    exact Keeps.ite (fun _ => Keeps.pure _) fun _ => Keeps.throw _
  · intro refusal
    cases refusal with
    | none => exact Keeps.pure _
    | some refusal => exact Keeps.bind (keeps_call _) fun _ => keeps_call _

theorem keeps_settle : Keeps hold settle :=
  Keeps.read fun _ => Keeps.bind (keeps_checkState _) fun _ =>
    Keeps.bind (keeps_setStep _) fun _ => keeps_call _

end PaymentChannelClient

/-! ## Channels in use -/

namespace Clients

variable {lib : Bitcoinj} {w w' : Clients}

/-- A channel that is held is active, by the connection that holds it. -/
structure InUse (w : Clients) : Prop where
  active : ∀ c ch, w.Holds c ch → (w.channels.read ch).active = true
  activatedBy : ∀ c ch, w.Holds c ch → w.activatedBy ch = some c
  unlisted : w.mapChannels = none → ∀ c, (w.clients.read c).storedChannel = none

theorem InUse.exclusive (h : InUse w) : w.Exclusive := by
  intro ch c d hc hd
  have hby := h.activatedBy c ch hc
  rw [h.activatedBy d ch hd] at hby
  exact (Option.some.inj hby).symm

theorem inUse_start (channels : Heap ClientChannel)
    (mapChannels : Option (Sha256Hash → List StoredRef))
    (params : ConnectionRef → ClientParams) :
    InUse (start channels mapChannels params) where
  active _ _ h := by cases h.isOpen
  activatedBy _ _ h := by cases h.isOpen
  unlisted _ _ := rfl

/-- Nothing has changed about who uses what. -/
structure SameUse (w w' : Clients) : Prop where
  hold : ∀ c, (w'.clients.read c).hold = (w.clients.read c).hold
  active : ∀ ch, (w'.channels.read ch).active = (w.channels.read ch).active
  activatedBy : w'.activatedBy = w.activatedBy
  mapChannels : w'.mapChannels = none → w.mapChannels = none

theorem SameUse.refl (w : Clients) : SameUse w w := ⟨fun _ => rfl, fun _ => rfl, rfl, id⟩

theorem SameUse.trans {w'' : Clients} (h : SameUse w w') (h' : SameUse w' w'') :
    SameUse w w'' where
  hold c := (h'.hold c).trans (h.hold c)
  active ch := (h'.active ch).trans (h.active ch)
  activatedBy := h'.activatedBy.trans h.activatedBy
  mapChannels hnone := h.mapChannels (h'.mapChannels hnone)

theorem SameUse.holds (h : SameUse w w') {c : ConnectionRef} {ch : StoredRef}
    (hc : w'.Holds c ch) : w.Holds c ch := by
  have hhold := h.hold c
  simp only [PaymentChannelClient.hold, Prod.mk.injEq] at hhold
  exact ⟨hhold.1 ▸ hc.isOpen, hhold.2 ▸ hc.stored⟩

theorem InUse.same (h : InUse w) (hsame : SameUse w w') : InUse w' where
  active c ch hc := (hsame.active ch).trans (h.active c ch (hsame.holds hc))
  activatedBy c ch hc := by
    rw [hsame.activatedBy]
    exact h.activatedBy c ch (hsame.holds hc)
  unlisted hnone c := by
    have hhold := hsame.hold c
    simp only [PaymentChannelClient.hold, Prod.mk.injEq] at hhold
    exact hhold.2.trans (h.unlisted (hsame.mapChannels hnone) c)

theorem sameUse_run (w : Clients) (c : ConnectionRef) {m : PaymentChannelClient.Handler Unit}
    (hm : Keeps PaymentChannelClient.hold m) : SameUse w (w.run c m) where
  hold d := Heap.field_modify w.clients c d PaymentChannelClient.hold hm.finalState
  active _ := rfl
  activatedBy := rfl
  mapChannels := id

theorem sameUse_setState (w : Clients) (c : ConnectionRef) (state : ResumedState) :
    SameUse w (w.setState c state) where
  hold d := Heap.field_modify w.clients c d PaymentChannelClient.hold fun _ => rfl
  active _ := rfl
  activatedBy := rfl
  mapChannels := id

theorem sameUse_removeChannel (w : Clients) (ch : StoredRef) : SameUse w (w.removeChannel ch) where
  hold _ := rfl
  active _ := rfl
  activatedBy := rfl
  mapChannels := Option.map_eq_none_iff.mp

theorem sameUse_settlementSeen (w : Clients) (c : ConnectionRef) (tx : Transaction) :
    SameUse w (w.settlementSeen c tx) := by
  unfold settlementSeen
  cases (w.clients.read c).state with
  | none => exact SameUse.refl w
  | some state =>
      have hset := sameUse_setState w c { state with state := .closed }
      dsimp only
      split
      next ch _ =>
        refine hset.trans ⟨fun _ => rfl, fun ch' => ?_, rfl, id⟩
        exact Heap.field_modify _ ch ch' (fun channel : ClientChannel => channel.active)
          fun _ => rfl
      next => exact hset

theorem sameUse_settlementConfirmed (w : Clients) (c : ConnectionRef) :
    SameUse w (w.settlementConfirmed c) := by
  unfold settlementConfirmed
  cases (w.clients.read c).state with
  | none => exact SameUse.refl w
  | some state =>
      dsimp only
      cases state.storedChannel with
      | none => exact SameUse.refl w
      | some ch => exact (sameUse_removeChannel w ch).trans (sameUse_setState _ c _)

/-! ## Opening and closing -/

theorem activate_active (w : Clients) (c : ConnectionRef) (ch ch' : StoredRef) :
    ((w.activate c ch).channels.read ch').active =
      (decide (ch' = ch) || (w.channels.read ch').active) := by
  simp only [activate, Heap.read_modify]
  by_cases heq : ch' = ch
  · simp [heq]
  · simp [heq]

theorem disconnectFromChannel_active (w : Clients) (stored : Option StoredRef) (ch : StoredRef) :
    ((w.disconnectFromChannel stored).channels.read ch).active =
      (decide (stored ≠ some ch) && (w.channels.read ch).active) := by
  cases stored with
  | none => simp [disconnectFromChannel]
  | some ch' =>
      simp only [disconnectFromChannel, Heap.read_modify]
      by_cases heq : ch = ch'
      · simp [heq]
      · simp [heq, Ne.symm heq]

@[simp] theorem disconnectFromChannel_clients (w : Clients) (stored : Option StoredRef) :
    (w.disconnectFromChannel stored).clients = w.clients := by
  cases stored <;> rfl

@[simp] theorem disconnectFromChannel_activatedBy (w : Clients) (stored : Option StoredRef) :
    (w.disconnectFromChannel stored).activatedBy = w.activatedBy := by
  cases stored <;> rfl

@[simp] theorem disconnectFromChannel_mapChannels (w : Clients) (stored : Option StoredRef) :
    (w.disconnectFromChannel stored).mapChannels = w.mapChannels := by
  cases stored <;> rfl

theorem holds_disconnectFromChannel {stored : Option StoredRef} {c : ConnectionRef} {ch : StoredRef}
    (hc : (w.disconnectFromChannel stored).Holds c ch) : w.Holds c ch := by
  obtain ⟨hopen, hstored⟩ := hc
  rw [disconnectFromChannel_clients] at hopen hstored
  exact ⟨hopen, hstored⟩

/-- A channel that nobody holds may be disconnected from. -/
theorem InUse.disconnectFromChannel (h : InUse w) {stored : Option StoredRef}
    (hfree : ∀ ch, stored = some ch → ∀ c, ¬ w.Holds c ch) :
    InUse (w.disconnectFromChannel stored) where
  active c ch hc := by
    have hc := holds_disconnectFromChannel hc
    have hne : stored ≠ some ch := fun heq => hfree ch heq c hc
    rw [disconnectFromChannel_active, h.active c ch hc]
    simp [hne]
  activatedBy c ch hc := by
    rw [disconnectFromChannel_activatedBy]
    exact h.activatedBy c ch (holds_disconnectFromChannel hc)
  unlisted hnone c := by
    rw [disconnectFromChannel_mapChannels] at hnone
    rw [disconnectFromChannel_clients]
    exact h.unlisted hnone c

/-- A channel that is looked up in the map is not active yet. -/
theorem inactive_of_getUsableChannel {setChannels : List StoredRef} {ch : StoredRef}
    (h : w.getUsableChannel setChannels = some ch) : (w.channels.read ch).active = false := by
  have husable := List.find?_some h
  simp only [usable, Bool.and_eq_true, Bool.not_eq_true'] at husable
  exact husable.2

theorem holds_beginHandshake {c d : ConnectionRef} {ch : StoredRef} {stored : Option StoredRef}
    (h : (w.beginHandshake lib c stored).Holds d ch) :
    d = c ∧ stored = some ch ∨ d ≠ c ∧ w.Holds d ch := by
  obtain ⟨hopen, hstored⟩ := h
  by_cases heq : d = c
  · subst heq
    simp only [beginHandshake, Heap.read_modify_self] at hstored
    exact .inl ⟨rfl, hstored⟩
  · simp only [beginHandshake, Heap.read_modify_ne _ _ heq] at hopen hstored
    exact .inr ⟨heq, hopen, hstored⟩

/-- The handshake begins with a channel that the connection has activated,
or with none. -/
theorem InUse.beginHandshake (h : InUse w) (c : ConnectionRef) {stored : Option StoredRef}
    (hstored : ∀ ch, stored = some ch → (w.channels.read ch).active = true ∧
      w.activatedBy ch = some c)
    (hnone : w.mapChannels = none → stored = none) : InUse (w.beginHandshake lib c stored) where
  active d ch hd := by
    obtain ⟨-, hch⟩ | ⟨-, hd⟩ := holds_beginHandshake hd
    · exact (hstored ch hch).1
    · exact h.active d ch hd
  activatedBy d ch hd := by
    obtain ⟨rfl, hch⟩ | ⟨-, hd⟩ := holds_beginHandshake hd
    · exact (hstored ch hch).2
    · exact h.activatedBy d ch hd
  unlisted hmap d := by
    by_cases heq : d = c
    · subst heq
      simp only [Clients.beginHandshake, Heap.read_modify_self]
      exact hnone hmap
    · simp only [Clients.beginHandshake, Heap.read_modify_ne _ _ heq]
      exact h.unlisted hmap d

/-- A channel that is not active is held by nobody, so that it may be
activated. -/
theorem InUse.activate (h : InUse w) (c : ConnectionRef) {ch : StoredRef}
    (hch : (w.channels.read ch).active = false) : InUse (w.activate c ch) where
  active d ch' hd := by
    rw [activate_active, h.active d ch' ⟨hd.isOpen, hd.stored⟩, Bool.or_true]
  activatedBy d ch' hd := by
    have hholds : w.Holds d ch' := ⟨hd.isOpen, hd.stored⟩
    have hne : ch' ≠ ch := by
      intro heq
      rw [← heq, h.active d ch' hholds] at hch
      cases hch
    simp only [Clients.activate, Function.update_of_ne hne]
    exact h.activatedBy d ch' hholds
  unlisted hnone d := h.unlisted hnone d

theorem InUse.connectionOpen (h : InUse w) (c : ConnectionRef) :
    InUse (w.connectionOpen lib c) := by
  unfold Clients.connectionOpen lookedUp
  cases hmap : w.mapChannels with
  | none =>
      refine h.beginHandshake c ?_ fun _ => h.unlisted hmap c
      intro ch hch
      dsimp only at hch
      rw [h.unlisted hmap c] at hch
      cases hch
  | some mapChannels =>
      dsimp only
      cases hch : w.getUsableChannel (mapChannels (w.clients.read c).serverId) with
      | none =>
          refine h.beginHandshake c ?_ fun _ => rfl
          intro ch hch
          cases hch
      | some ch =>
          have hinactive := inactive_of_getUsableChannel hch
          refine (h.activate c hinactive).beginHandshake c ?_ ?_
          · rintro ch' ⟨⟩
            refine ⟨?_, Function.update_self _ _ _⟩
            rw [activate_active, decide_eq_true rfl, Bool.true_or]
          · intro hnone
            rw [show (w.activate c ch).mapChannels = w.mapChannels from rfl, hmap] at hnone
            cases hnone

/-- A connection that ends holds nothing any more. -/
theorem InUse.connectionClosed (h : InUse w) {c : ConnectionRef}
    (hother : ∀ ch, (w.clients.read c).disconnects = some ch → ∀ d, w.Holds d ch → d = c) :
    InUse (w.connectionClosed c) := by
  have hholds {d : ConnectionRef} {ch : StoredRef} (hd : Holds { w with
      clients := w.clients.modify c fun client => { client with connectionOpen := false } } d ch) :
      d ≠ c ∧ w.Holds d ch := by
    obtain ⟨hopen, hstored⟩ := hd
    by_cases heq : d = c
    · subst heq
      simp only [Heap.read_modify_self, Bool.false_eq_true] at hopen
    · simp only [Heap.read_modify_ne _ _ heq] at hopen hstored
      exact ⟨heq, hopen, hstored⟩
  refine InUse.disconnectFromChannel ⟨?_, ?_, ?_⟩ ?_
  · intro d ch hd
    exact h.active d ch (hholds hd).2
  · intro d ch hd
    exact h.activatedBy d ch (hholds hd).2
  · intro hnone d
    refine Eq.trans (Heap.field_modify w.clients c d PaymentChannelClient.storedChannel ?_)
      (h.unlisted hnone d)
    exact fun _ => rfl
  · intro ch hch d hd
    obtain ⟨hne, hd⟩ := hholds hd
    exact hne (hother ch hch d hd)

theorem InUse.incrementPayment (h : InUse w) {c : ConnectionRef} {isEncrypted : Bool} {now : Int}
    {valueToMe : Option Coin}
    (hfree : ∀ ch, w.disconnected (.incrementPayment c isEncrypted now valueToMe) = some ch →
      ∀ d, ¬ w.Holds d ch) :
    InUse (w.incrementPayment c isEncrypted now valueToMe) := by
  unfold Clients.incrementPayment
  cases hpaying : (w.clients.read c).paying isEncrypted with
  | none => exact h
  | some state =>
      simp only [disconnected, hpaying] at hfree
      dsimp only
      by_cases hexpired : state.expiryTime < now
      · rw [if_pos hexpired] at hfree ⊢
        have hset := sameUse_setState w c { state with state := .expired }
        exact (h.same hset).disconnectFromChannel fun ch hch d hd => hfree ch hch d (hset.holds hd)
      · rw [if_neg hexpired]
        have hfuture (w : Clients) : SameUse w { w with
            clients := w.clients.modify c fun client =>
              { client with increasePaymentFuture := true } } :=
          ⟨fun d => Heap.field_modify _ c d PaymentChannelClient.hold fun _ => rfl, fun _ => rfl,
            rfl, id⟩
        split
        next _ _ v ch _ =>
          have hvalue : SameUse w { w with
              channels := w.channels.modify ch fun channel =>
                { channel with valueToMe := v } } :=
            ⟨fun _ => rfl, fun ch' => Heap.field_modify _ ch ch'
              (fun channel : ClientChannel => channel.active) fun _ => rfl, rfl, id⟩
          exact h.same (hvalue.trans (hfuture _))
        next => exact h.same (hfuture w)
        next => exact h

/-- Every event keeps the channels in use, if it disconnects from none that
another connection holds. -/
theorem InUse.handle (h : InUse w) {event : ClientEvent} (hothers : w.LeavesOthers event) :
    InUse (w.handle lib event) := by
  cases event with
  | connectionOpen c => exact h.connectionOpen c
  | receiveMessage c answers msg =>
      exact h.same (sameUse_run w c (PaymentChannelClient.keeps_receiveMessage lib answers _ msg))
  | connectionClosed c =>
      refine h.connectionClosed fun ch hch d hd => ?_
      cases hothers ch hch d hd
      rfl
  | settle c => exact h.same (sameUse_run w c PaymentChannelClient.keeps_settle)
  | incrementPayment c isEncrypted now valueToMe =>
      refine h.incrementPayment fun ch hch d hd => ?_
      cases hothers ch hch d hd
  | settlementSeen c tx => exact h.same (sameUse_settlementSeen w c tx)
  | settlementConfirmed c => exact h.same (sameUse_settlementConfirmed w c)
  | timedOut ch => exact h.same (sameUse_removeChannel w ch)

/-! ## The end of a connection -/

/-- A channel that is not active is taken by the connection that comes to
it, unless it is closed or empty. -/
theorem released_iff (ch : StoredRef) :
    w.Released ch ↔ (w.channels.read ch).active = false := by
  constructor
  · exact fun h => h.inactive
  · intro h
    refine ⟨h, fun hclose hvalue rest => List.find?_cons_of_pos ?_⟩
    simp [usable, h, hclose, hvalue]

/-- `connectionClosed` releases what its connection has in use if and only
if the state object is the one of that channel. -/
theorem leased_iff_resumed (h : InUse w) {event : ClientEvent} (hothers : w.LeavesOthers event) :
    Leased lib w event ↔ w.Resumed event := by
  constructor
  · rintro hleased c rfl ch hby hactive
    have hinactive := (hleased.released c rfl ch hby).inactive
    rw [handle, connectionClosed, disconnectFromChannel_active, hactive] at hinactive
    simpa using hinactive
  · intro hresumed
    refine ⟨(h.handle hothers).exclusive, ?_⟩
    rintro c rfl ch hby
    rw [released_iff, handle, connectionClosed, disconnectFromChannel_active]
    by_cases hactive : (w.channels.read ch).active = true
    · rw [hresumed c rfl ch hby hactive]
      simp
    · simp [hactive]

/-- The stored channels are held once and released in every run whose
connections all end after CHANNEL_OPEN has resumed the channel that they
activated. In runs that disconnect from no channel of another connection it
takes nothing less. -/
theorem leased_along_iff (lib : Bitcoinj) (channels : Heap ClientChannel)
    (mapChannels : Option (Sha256Hash → List StoredRef)) (params : ConnectionRef → ClientParams)
    (events : List ClientEvent) :
    Along (handle lib) (fun w event => Leased lib w event ∧ w.LeavesOthers event)
        (start channels mapChannels params) events ↔
      Along (handle lib) (fun w event => w.Resumed event ∧ w.LeavesOthers event)
        (start channels mapChannels params) events := by
  refine along_congr (inUse_start channels mapChannels params) (fun _ _ => trivial) ?_ ?_
  · intro w event h _ hok
    exact h.handle hok.2
  · intro w event h _
    exact and_congr_left fun hothers => leased_iff_resumed h hothers

/-- A stored channel with the least fee left to the client. -/
def savedChannel : ClientChannel where
  id := .zero
  contract := Reference.contract 1 Coin.referenceDefaultMinTxFee.value
  refund := Reference.refund 100000
  myKey := ⟨Reference.clientKey, none⟩
  valueToMe := Coin.referenceDefaultMinTxFee
  refundFees := some Coin.zero
  active := false

/-- A wallet with one stored channel, and clients of its server. -/
def oneSaved : Clients :=
  start ⟨1, fun _ => savedChannel⟩ (some fun _ => [0]) fun _ => {
    serverId := .zero
    myKey := ⟨Reference.clientKey, none⟩
    maxValue := savedChannel.valueToMe
    timeWindow := 86340 }

/-- A connection that ends before the server has answered leaves its channel
active, and the next connection does not find it. -/
theorem early_end_keeps_channel :
    ¬ Along (handle reference) (Leased reference) oneSaved
        [.connectionOpen 0, .connectionClosed 0] ∧
      let later := [.connectionOpen 0, .connectionClosed 0, .connectionOpen 1].foldl
        (handle reference) oneSaved
      (later.channels.read 0).active = true ∧ (later.clients.read 1).storedChannel = none := by
  refine ⟨fun h => ?_, by decide +kernel⟩
  have hinactive := (h.2.1.released 0 rfl 0 (by decide +kernel)).inactive
  exact absurd hinactive (by decide +kernel)

end Clients

end BitMesh.Channels
