import BitMesh.Channels.Server

/-!
# Runs of the server

The server is driven from outside by messages, by the wallet, by the
broadcaster, by the auto-close timer and by connections coming and going.
Each of these is an `Input`; `perform` is the code it runs, under the
locks that make it one step.
-/

namespace BitMesh.Channels

open BitMesh.Bitcoin BitMesh.Lib

/-- What reaches the server from outside. -/
inductive Input where
  /-- A connection is accepted and gets its `PaymentChannelServer`. -/
  | newServer (minAcceptedChannelSize : Coin) (window : TimeWindow)
  /-- Its socket is up and its `ConnectedClient` known. -/
  | connectionOpen (c : ConnRef) (client : ClientConfig)
  | message (c : ConnRef) (msg : TwoWayChannelMessage)
  /-- The wallet saw a transaction to a watched address. -/
  | funding (c : ConnRef) (tx : Transaction)
  /-- A broadcast was seen by enough peers, or failed. -/
  | broadcastDone (b : Nat) (success : Bool)
  /-- The auto-close timer fires for a channel. -/
  | autoClose (r : ChannelRef)
  /-- The socket is down. -/
  | connectionClosed (c : ConnRef)
  /-- `PaymentStateMachine` disconnects a client that stopped paying. -/
  | serverClose (c : ConnRef)
  /-- The wallet learns about a transaction. -/
  | confidence (h : Sha256Hash) (confidence : Option Confidence)

variable (p : Platform) (env : Env)

/-- Callbacks of futures: what they throw is logged and dropped. -/
def swallow (m : Method Unit) : Method Unit :=
  tryCatch m fun _ => pure ()

/-- `closedFuture.setException`. -/
def failClosedFuture (s : StateRef) : Method Unit := do
  let st ← readState s
  if st.closedFuture = .pending then
    modifyState s fun st => { st with closedFuture := .failed, closeCallbacks := [] }
    st.closeCallbacks.forM fun cb => swallow (destroyConnection p cb.1 cb.2)

/-- The callbacks of a contract's broadcast. The listener of
`receiveContractMessage` runs on success and on failure alike, but not
when the wallet throws on the way. -/
def contractBroadcastDone (tx : Transaction) (s : StateRef) (c : ConnRef)
    (provided : ProvideContract) (success : Bool) : Method Unit :=
  swallow do
    if success then
      receivePending p env tx
      modifyState s fun st => { st with state := .ready }
    else
      modifyState s fun st => { st with state := .error }
    multisigContractPropogated p env c provided (p.getHash tx)

/-- The callbacks of a settlement's broadcast. -/
def settlementBroadcastDone (tx : Transaction) (s : StateRef) (success : Bool) :
    Method Unit := do
  if success then
    modifyState s fun st => { st with state := .closed }
    setClosedFuture s (some tx)
  else
    modifyState s fun st => { st with state := .error }
    failClosedFuture p s

/-- The completion of a broadcast, once. -/
def broadcastDone (b : Nat) (success : Bool) : Method Unit := do
  let w ← get
  let broadcast := w.broadcasts.read b
  if b < w.broadcasts.next ∧ ¬ broadcast.completed then
    set { w with broadcasts := w.broadcasts.modify b ({ · with completed := true }) }
    match broadcast.purpose with
    | .contract s c provided => contractBroadcastDone p env broadcast.tx s c provided success
    | .settlement s => settlementBroadcastDone p broadcast.tx s success

/-- The `TimerTask` of a channel. An exception ends the timer thread. -/
def autoClose (r : ChannelRef) : Method Unit := do
  let w ← get
  match w.timers.find? (·.1 = r), w.timerCancelled with
  | some task, false =>
      set { w with timers := w.timers.erase task }
      tryCatch (closeChannel p env r) fun _ =>
        modify fun w => { w with timerCancelled := true }
  | _, _ => return

/-- The code an input runs. What is sent to a connection that does not
exist goes nowhere, and `ProtobufParser` hands no message on that is too
long. -/
def perform : Input → Method Unit
  | .newServer minAcceptedChannelSize window => do
      let _ ← newServer p env minAcceptedChannelSize window
  | .connectionOpen c client => do
      let w ← get
      if c < w.servers.next ∧ (w.servers.read c).client.isNone then
        modifyServer c fun sv => { sv with client := some client, connectionOpen := true }
  | .message c msg => do
      if c < (← get).servers.next ∧ msg.contentSize ≤ maxMessageSize then
        receiveMessage p env c msg
  | .funding c tx => do
      if c < (← get).servers.next then sendFunding p env c tx
  | .broadcastDone b success => broadcastDone p env b success
  | .autoClose r => autoClose p env r
  | .connectionClosed c => do
      if c < (← get).servers.next then connectionClosed p c
  | .serverClose c => do
      if c < (← get).servers.next then serverClose p c
  | .confidence h confidence =>
      modify fun w =>
        { w with transactions := Function.update w.transactions h confidence }

/-- The world after an input; the caller's thread survives an exception. -/
def World.next (w : World) (i : Env × Input) : World :=
  finalState (perform p i.1 i.2) w

/-- The world after a sequence of inputs. -/
def World.run (w : World) (is : List (Env × Input)) : World :=
  is.foldl (World.next p) w

/-- A call on the server: one of its inputs, or a public method of the
channel classes called directly. -/
inductive Action where
  | input (i : Input)
  | incrementPayment (s : StateRef) (refundSize : Coin) (signature : Bytes)
  | close (s : StateRef)
  | closeChannel (r : ChannelRef)

/-- The code an action runs. -/
def Action.perform : Action → Method Unit
  | .input i => Channels.perform p env i
  | .incrementPayment s refundSize signature => do
      let _ ← Channels.incrementPayment p env s refundSize signature
  | .close s => do
      let _ ← Channels.close p env s
  | .closeChannel r => Channels.closeChannel p env r

/-- The world after an action. -/
def World.after (w : World) (a : Env × Action) : World :=
  finalState (a.2.perform p a.1) w

/-- A server that has just been started with an empty wallet. -/
def World.initial (autosave : Bool) : World where
  servers := .empty {
    minAcceptedChannelSize := Coin.zero
    window := TimeWindow.default
    myKey := ⟨[], none⟩
    myAddress := ⟨0, []⟩ }
  states := .empty { state := .error, serverKey := ⟨[], none⟩ }
  channels := .empty {
    contract := ⟨1, [], [], 0⟩
    clientOutput := 0
    refundTransactionUnlockTimeSecs := 0
    myKey := ⟨[], none⟩
    bestValueToMe := Coin.zero
    bestValueSignature := none }
  outputs := .empty ⟨0, ⟨[]⟩⟩
  broadcasts := .empty { tx := ⟨1, [], [], 0⟩, purpose := .settlement 0 }
  mapChannels := ∅
  extensionInstalled := true
  timers := []
  timerCancelled := false
  transactions := fun _ => none
  autosave := autosave
  addressConnectionMap := ∅
  trace := []

end BitMesh.Channels
