import BitMesh.Lib.Heap
import BitMesh.Sentry.Client
import BitMesh.Sentry.Metering

/-!
# The access point

The table of clients with everything that writes to it: websockets,
captive-portal requests, payments and timers. Objects live in heaps. An
`Event` is one call from outside or one expiry of a timer, and `after` is
what it does. Time passes only in `elapse`, which also adds up, for each
client, how long it was online and how long it was graced.
-/

namespace BitMesh.Sentry

open BitMesh.Lib

/-! ## WISPr sequences -/

inductive AppleStage where
  | new
  | wisprServed
  | wisprSubmitted
  | complete
  deriving DecidableEq, Repr

def AppleStage.transitionIsValid : AppleStage → AppleStage → Bool
  | .new, .wisprServed => true
  | .wisprServed, .wisprSubmitted => true
  | .wisprSubmitted, .complete => true
  | _, _ => false

inductive AndroidStage where
  | new
  | wisprServed
  | wisprSubmitted
  | paid
  | deauthenticated
  deriving DecidableEq, Repr

def AndroidStage.transitionIsValid : AndroidStage → AndroidStage → Bool
  | .new, .wisprServed => true
  | .wisprServed, .wisprSubmitted => true
  | .wisprSubmitted, .paid => true
  | _, _ => false

inductive Windows7Stage where
  | new
  | wisprServed
  | complete
  deriving DecidableEq, Repr

def Windows7Stage.transitionIsValid : Windows7Stage → Windows7Stage → Bool
  | .new, .wisprServed => true
  | .wisprServed, .complete => true
  | _, _ => false

inductive Windows8Stage where
  | new
  | firstWisprServed
  | secondWisprServed
  | complete
  deriving DecidableEq, Repr

def Windows8Stage.transitionIsValid : Windows8Stage → Windows8Stage → Bool
  | .new, .firstWisprServed => true
  | .firstWisprServed, .complete => true
  | _, _ => false

/-- The class of a sequence with its state machine; `WISPrNone` has none. -/
inductive WISPrMachine where
  | none
  | apple (machine : StateMachine AppleStage)
  | android (machine : StateMachine AndroidStage)
  | windows7 (machine : StateMachine Windows7Stage)
  | windows8 (machine : StateMachine Windows8Stage)
  deriving DecidableEq, Repr

structure WISPrSequence where
  client : ClientRef
  machine : WISPrMachine
  wisprComplete : Bool
  deriving DecidableEq, Repr

/-- `new WISPrNone(client)`. -/
def WISPrSequence.noSequence (client : ClientRef) : WISPrSequence := ⟨client, .none, true⟩

/-- `String.contains`. -/
def contains (text pattern : String) : Bool := decide (pattern.toList <:+: text.toList)

/-- The branches of `getClient(session)` on the user agent. -/
inductive AgentKind where
  | apple
  | windows7
  | android
  | windows8
  | unknown
  deriving DecidableEq, Repr

def agentKind (userAgent : String) : AgentKind :=
  if contains userAgent "Apple" || contains userAgent "CaptiveNetworkSupport" ||
      contains userAgent "ocspd" || contains userAgent "Macintosh" ||
      contains userAgent "OS X" then .apple
  else if contains userAgent "Skype WISPr" then .windows7
  else if contains userAgent "Dalvik" then .android
  else if contains userAgent "Microsoft-WNS" || contains userAgent "Microsoft NCSI" ||
      contains userAgent "WISPR!Microsoft" then .windows8
  else .unknown

/-- The sequence a request installs when the client has none or a complete
one; a sequence of the right class is kept. -/
def chooseSequence (client : ClientRef) (userAgent : Option String)
    (current : Option WISPrSequence) : Option WISPrSequence :=
  match userAgent with
  | none => some (.noSequence client)
  | some userAgent =>
      match agentKind userAgent, current.map WISPrSequence.machine with
      | .apple, some (.apple _) => none
      | .apple, _ => some ⟨client, .apple (.init .new), false⟩
      | .windows7, some (.windows7 _) => none
      | .windows7, _ => some ⟨client, .windows7 (.init .new), false⟩
      | .android, some (.android _) => none
      | .android, _ => some ⟨client, .android (.init .new), false⟩
      | .windows8, some (.windows8 _) => none
      | .windows8, _ => some ⟨client, .windows8 (.init .new), false⟩
      | .unknown, _ => some (.noSequence client)

/-! ## Websockets -/

/-- `WebSocket.State`, from the handshake on. -/
inductive SocketState where
  | open
  | closing
  | closed
  deriving DecidableEq, Repr

/-- A `MicropaymentWebsocket` with the `PaymentChannelServer` behind it. -/
structure MicropaymentWebsocket where
  remoteAddress : IpAddress
  /-- The `eventHandler` of its listener. -/
  client : ClientRef
  ephemeral : Bool
  state : SocketState
  /-- The thread of `readWebsocket` is alive. -/
  reading : Bool
  /-- `connectionOpen` of the `PaymentChannelServer`. -/
  connectionOpen : Bool
  deriving DecidableEq

/-! ## The world -/

/-- A scheduled `WISPrGapRunnable`. -/
structure Gap where
  sequence : SequenceRef
  due : Int
  deriving DecidableEq, Repr

/-- `NUM_SECONDS_FOR_WISPR_GAP`, in milliseconds. -/
def wisprGap : Int := 20000

/-- What is observed of a client but not stored by the program. -/
structure Observed where
  /-- Milliseconds its connectivity state was OPEN. -/
  openMillis : Int
  /-- Milliseconds its payment state was GRACED. -/
  gracedMillis : Int
  lastTick : Int
  /-- How often a WISPr gap was opened for it. -/
  gaps : Nat
  deriving DecidableEq, Repr

structure World where
  now : Int
  /-- `server.getConfig()`. -/
  config : BitmeshConfiguration
  inFace : InterfaceName
  outFace : InterfaceName
  clients : Heap ConnectedClient
  ipList : AList fun _ : IpAddress => ClientRef
  sequences : Heap WISPrSequence
  gaps : List Gap
  sockets : Heap MicropaymentWebsocket
  connectedIps : Finset IpAddress
  /-- The arguments the script was last run with. -/
  scriptArgs : List Word
  observed : ClientRef → Observed

namespace World

/-- The server after its start. -/
def initial (now : Int) (config : BitmeshConfiguration) (inFace outFace : InterfaceName) :
    World where
  now := now
  config := config
  inFace := inFace
  outFace := outFace
  clients := .empty (.init clientAddress config now)
  ipList := ∅
  sequences := .empty (.noSequence 0)
  gaps := []
  sockets := .empty ⟨clientAddress, 0, true, .closed, false, false⟩
  connectedIps := ∅
  scriptArgs := Sentry.updatePeers inFace.name outFace.name []
  observed := fun _ => ⟨0, 0, now, 0⟩

variable (w : World)

/-! ### `ConnectivitySentry` -/

/-- The table in the order of insertion. -/
def peers : List Peer :=
  w.ipList.entries.reverse.map fun entry =>
    let client := w.clients.read entry.2
    ⟨client.ipAddress, client.getConnectivityState⟩

def updatePeers : World :=
  { w with scriptArgs := Sentry.updatePeers w.inFace.name w.outFace.name w.peers }

/-- A method of one client. The script runs when the connectivity state
changes. -/
def onClient (r : ClientRef) (method : ConnectedClient → ConnectedClient) : World :=
  let w' := { w with clients := w.clients.modify r method }
  if (w'.clients.read r).getConnectivityState ≠ (w.clients.read r).getConnectivityState then
    w'.updatePeers
  else w'

def removeConnectedClient (ipAddress : IpAddress) : World :=
  { w with ipList := w.ipList.erase ipAddress }

/-- The client registered for an address, made if there is none. -/
def lookupClient (ipAddress : IpAddress) : World × ClientRef :=
  match w.ipList.lookup ipAddress with
  | some r => (w, r)
  | none =>
      let (r, clients) := w.clients.alloc (.init ipAddress w.config w.now)
      ({ w with clients := clients, ipList := w.ipList.insert ipAddress r }, r)

def setWisprSequence (r : ClientRef) (sequence : WISPrSequence) : World :=
  let (q, sequences) := w.sequences.alloc sequence
  { w with
    sequences := sequences
    clients := w.clients.modify r fun client => { client with wisprSequence := some q } }

/-! ### Websockets -/

/-- `MicropaymentWebsocketServer.removeWebsocket`. -/
def removeWebsocket (ipAddress : IpAddress) : World :=
  { w with connectedIps := w.connectedIps.erase ipAddress }

/-- `wisprComplete` of the sequence a client has at the moment. -/
def setWisprComplete (r : ClientRef) (complete : Bool) : World :=
  match (w.clients.read r).wisprSequence with
  | some q => { w with
      sequences := w.sequences.modify q fun s => { s with wisprComplete := complete } }
  | none => w

/-- `connectionClosed` of the parser's listener. -/
def connectionClosed (s : SocketRef) : World :=
  let r := (w.sockets.read s).client
  let w := { w with
    sockets := w.sockets.modify s fun ws => { ws with connectionOpen := false }
    clients := w.clients.modify r fun client => { client with channelOpen := false } }
  w.setWisprComplete r false

/-- `MicropaymentWebsocket.onClose`. -/
def onClose (s : SocketRef) : World :=
  if (w.sockets.read s).ephemeral then w
  else (w.connectionClosed s).removeWebsocket (w.sockets.read s).remoteAddress

def setSocketState (s : SocketRef) (state : SocketState) : World :=
  { w with sockets := w.sockets.modify s fun ws => { ws with state := state } }

/-- `WebSocket.doClose`. -/
def doClose (s : SocketRef) : World :=
  if (w.sockets.read s).state = .closed then w
  else (w.setSocketState s .closed).onClose s

/-- `WebSocket.close`. -/
def close (s : SocketRef) : World :=
  match (w.sockets.read s).state with
  | .open => w.setSocketState s .closing
  | _ => (w.setSocketState s .closing).doClose s

/-- The thread of `readWebsocket` ends. -/
def stopReading (s : SocketRef) : World :=
  { w with sockets := w.sockets.modify s fun ws => { ws with reading := false } }

/-- `getClient(clientAddress)`, for a websocket. -/
def getSocketClient (ipAddress : IpAddress) : World × ClientRef :=
  let (w, r) := w.lookupClient ipAddress
  let w := w.setWisprSequence r (.noSequence r)
  ({ w with clients := w.clients.modify r fun client => { client with channelOpen := true } }, r)

/-- The rest of `openWebSocket`: the `PaymentChannelServer` of the new
socket becomes the client's manager, and only then is it checked whether
the address has a socket already. -/
def acceptSocket (ipAddress : IpAddress) (r : ClientRef) : World :=
  let ephemeral := decide (ipAddress ∈ w.connectedIps)
  let (s, sockets) := w.sockets.alloc
    { remoteAddress := ipAddress
      client := r
      ephemeral := ephemeral
      state := .open
      reading := true
      connectionOpen := true }
  { w with
    sockets := sockets
    clients := w.clients.modify r fun client => { client with manager := some s }
    connectedIps := if ephemeral then w.connectedIps else insert ipAddress w.connectedIps }

/-- `openWebSocket`, and the handshake response. -/
def openWebSocket (ipAddress : IpAddress) : World :=
  let (w, r) := w.getSocketClient ipAddress
  w.acceptSocket ipAddress r

/-! ### Payment -/

/-- `setPaymentState(DISCONNECTED)` from the timer: the client goes to the
captive portal and is forgotten, and its connection is closed. -/
def disconnect (r : ClientRef) : World :=
  let client := w.clients.read r
  let w := (w.onClient r ConnectedClient.act).removeConnectedClient client.ipAddress
  match client.manager with
  | some s => if (w.sockets.read s).connectionOpen then w.close s else w
  | none => w

/-- The second step of `SentryTimerRunnable.run`. -/
def actTimer (r : ClientRef) : World :=
  match (w.clients.read r).ticking with
  | none => w
  | some true => w.onClient r ConnectedClient.act
  | some false => w.disconnect r

/-- The first step of it. -/
def checkTimer (r : ClientRef) : World :=
  let client := w.clients.read r
  if client.sentryHandler ∧ client.ticking = none then
    let w := w.onClient r fun client => client.check w.now w.now
    { w with observed :=
        Function.update w.observed r { w.observed r with lastTick := w.now } }
  else w

/-! ### The captive portal -/

/-- What a sequence answers. -/
inductive Response where
  | page (file : String)
  | forbidden
  | null
  deriving DecidableEq, Repr

def setMachine (q : SequenceRef) (machine : WISPrMachine) : World :=
  { w with sequences := w.sequences.modify q fun s => { s with machine := machine } }

/-- `WISPrApple`'s `setState(WISPR_SUBMITTED)`: online for a few seconds. -/
def openGap (q : SequenceRef) (machine : StateMachine AppleStage) : World :=
  let r := (w.sequences.read q).client
  let w := w.setMachine q
    (.apple (machine.setState AppleStage.transitionIsValid .wisprSubmitted))
  let w := w.onClient r fun client => client.setConnectivityState .open
  { w with
    gaps := ⟨q, w.now + wisprGap⟩ :: w.gaps
    observed := Function.update w.observed r
      { w.observed r with gaps := (w.observed r).gaps + 1 } }

/-- `serve` of a sequence. -/
def serveSequence (q : SequenceRef) (uri : String) : World × Response :=
  match (w.sequences.read q).machine with
  | .none => (w, .forbidden)
  | .apple machine =>
      match machine.currentState with
      | .wisprServed => (w.openGap q machine, .page "wispr_auth_apple.html")
      | _ => (w.setMachine q
          (.apple (machine.setState AppleStage.transitionIsValid .wisprServed)),
          .page "wispr.html")
  | .android machine =>
      match machine.currentState with
      | .new => (w.setMachine q
          (.android (machine.setState AndroidStage.transitionIsValid .wisprServed)),
          .page "wispr.html")
      | .wisprServed => (w.setMachine q
          (.android (machine.setState AndroidStage.transitionIsValid .wisprSubmitted)),
          .page "auth_reply.html")
      | _ => (w, .null)
  | .windows7 machine => (w.setMachine q
      (.windows7 (machine.setState Windows7Stage.transitionIsValid .wisprServed)),
      .page "wispr.html")
  | .windows8 machine =>
      let set (stage : Windows8Stage) := w.setMachine q
        (.windows8 (machine.setState Windows8Stage.transitionIsValid stage))
      if contains uri "/redirect" then (set .secondWisprServed, .page "wispr_auth_windows.html")
      else
        match machine.currentState with
        | .new => (set .firstWisprServed, .page "wispr.html")
        | .firstWisprServed => (set .secondWisprServed, .page "wispr.html")
        | .secondWisprServed => (w, .page "wispr_auth_windows.html")
        | .complete => (set .firstWisprServed, .page "wispr.html")

/-- `getClient(session)`, for an HTTP request. -/
def getHttpClient (ipAddress : IpAddress) (userAgent : Option String) : World × ClientRef :=
  let (w, r) := w.lookupClient ipAddress
  let current := (w.clients.read r).wisprSequence.map w.sequences.read
  if current.all (·.wisprComplete) then
    match chooseSequence r userAgent current with
    | some sequence => (w.setWisprSequence r sequence, r)
    | none => (w, r)
  else (w, r)

/-- The requests `HttpServerController.serve` answers itself: files of the
portal, and the dashboard. -/
def servedDirectly (uri : String) : Bool :=
  [".js", ".css", ".png", ".svg"].any (fun suffix => suffix.toList.isSuffixOf uri.toList) ||
    ["/save", "/cost", "/email", "/address"].contains uri

/-- `HttpServerController.serve`, for the requests that reach a client. -/
def serve (ipAddress : IpAddress) (uri : String) (userAgent : Option String) : World :=
  if servedDirectly uri then w
  else
    let (w, r) := w.getHttpClient ipAddress userAgent
    match (w.clients.read r).wisprSequence with
    | some q => (w.serveSequence q uri).1
    | none => w

/-- `WISPrGapRunnable.run`: the sequence is complete, and its client goes
to the captive portal. -/
def gapExpired (gap : Gap) : World :=
  if gap ∈ w.gaps ∧ gap.due ≤ w.now then
    let w := { w with gaps := w.gaps.erase gap }
    let sequence := w.sequences.read gap.sequence
    let w := w.onClient sequence.client fun client =>
      client.setConnectivityState .redirectToCaptivePortal
    { w with sequences := w.sequences.modify gap.sequence fun s => { s with
        machine := match s.machine with
          | .apple machine =>
              .apple (machine.setState AppleStage.transitionIsValid .complete)
          | other => other
        wisprComplete := true } }
  else w

/-- `WISPrResetRunnable.run`. -/
def reset (r : ClientRef) : World :=
  let client := w.clients.read r
  match client.resetHandler with
  | none => w
  | some due =>
      if due ≤ w.now then
        if client.channelOpen then
          { w with clients := w.clients.modify r fun client =>
              { client with resetHandler := none } }
        else
          let w := { w with clients := w.clients.modify r fun client =>
            { client with resetHandler := some (due + resetFrequency) } }
          if client.getConnectivityState ≠ .redirectToLocalhost then
            w.onClient r fun client => client.setConnectivityState .redirectToLocalhost
          else w
      else w

/-- Time passes. -/
def elapse (millis : Nat) : World :=
  { w with
    now := w.now + millis
    observed := fun r => { w.observed r with
      openMillis := (w.observed r).openMillis +
        (if (w.clients.read r).getConnectivityState = .open then (millis : Int) else 0)
      gracedMillis := (w.observed r).gracedMillis +
        (if (w.clients.read r).getPaymentState = .graced then (millis : Int) else 0) } }

end World

/-! ## Events -/

inductive Event where
  | elapse (millis : Nat)
  /-- The dashboard stores a configuration. -/
  | save (config : BitmeshConfiguration)
  | handshake (ipAddress : IpAddress)
  /-- The peer closes the socket, or its thread ends. -/
  | closed (s : SocketRef)
  /-- Reading from the socket fails. -/
  | ioException (s : SocketRef)
  /-- The server closes the socket. -/
  | close (s : SocketRef)
  | request (ipAddress : IpAddress) (uri : String) (userAgent : Option String)
  /-- `conn.channelOpen`. -/
  | channelOpen (s : SocketRef)
  /-- `client.setReloadedChannel(true)`, when a channel is resumed. -/
  | reloaded (s : SocketRef)
  /-- `conn.paymentIncrease(by, to)`. -/
  | paymentIncrease (s : SocketRef) (increase total : Int)
  /-- The two steps of `SentryTimerRunnable.run`. -/
  | check (r : ClientRef)
  | act (r : ClientRef)
  | gapExpired (gap : Gap)
  | reset (r : ClientRef)
  deriving DecidableEq

def World.after (w : World) : Event → World
  | .elapse millis => w.elapse millis
  | .save config => { w with config := config }
  | .handshake ipAddress => w.openWebSocket ipAddress
  | .closed s =>
      if (w.sockets.read s).reading then (w.doClose s).stopReading s else w
  | .ioException s =>
      if (w.sockets.read s).reading then
        ((w.removeWebsocket (w.sockets.read s).remoteAddress).doClose s).stopReading s
      else w
  | .close s => w.close s
  | .request ipAddress uri userAgent => w.serve ipAddress uri userAgent
  | .channelOpen s =>
      if s < w.sockets.next then w.setWisprComplete (w.sockets.read s).client true else w
  | .reloaded s =>
      if s < w.sockets.next then
        w.onClient (w.sockets.read s).client fun client => client.setReloadedChannel true
      else w
  | .paymentIncrease s _ total =>
      if s < w.sockets.next then
        w.onClient (w.sockets.read s).client fun client => client.paymentIncrease w.now total
      else w
  | .check r => w.checkTimer r
  | .act r => w.actTimer r
  | .gapExpired gap => w.gapExpired gap
  | .reset r => w.reset r

def eth0 : InterfaceName := ⟨"eth0".toList, by decide⟩

def wlan0 : InterfaceName := ⟨"wlan0".toList, by decide⟩

/-- The server with the default configuration, started at 0. -/
abbrev accessPoint : World := .initial 0 SentryTimeLogic.defaultConfiguration eth0 wlan0

end BitMesh.Sentry
