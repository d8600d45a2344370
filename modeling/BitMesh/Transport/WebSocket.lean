import BitMesh.Transport.Frame

/-!
# WebSocket connections

The reading thread of a `WebSocket` takes frames from the stream and
handles them one after another; other threads ping, send and close in
between. What the application does in a callback, which writes fail and
how text is coded is up to the surroundings. A call of another thread is
taken to fall between two frames.
-/

namespace BitMesh.Transport

open Lib

/-- `WebSocket.State`. -/
inductive SocketState where
  | unconnected
  | connecting
  | opened
  | closing
  | closed
  deriving DecidableEq, Repr

/-- What the methods throw: an `IOException`, its two subclasses that
matter, or a `RuntimeException` of the application. -/
inductive SocketException where
  | io
  | characterCoding
  | webSocket (code : CloseCode) (reason : String)
  | runtime
  deriving DecidableEq, Repr

/-- The calls of the listener methods. -/
inductive Callback where
  | onPong (pongFrame : WebSocketFrame)
  | onMessage (messageFrame : WebSocketFrame)
  | onClose (code : Option CloseCode) (reason : Option String) (initiatedByRemote : Bool)
  | onException (e : SocketException)
  deriving DecidableEq

/-- The calls of the public methods, a message that is written with
`closeConnection` where this fails, and a `RuntimeException`. -/
inductive Reply where
  | ping (payload : List UInt8)
  | send (payload : List UInt8)
  | sendText (payload : String)
  | close (code : CloseCode) (reason : String)
  | closeConnection
  | write (message : List UInt8)
  | fail

/-- What a connection is given: the coding of text, whether its `n`-th
write succeeds, and what the application does in `onMessage` and `onPong`
after the callbacks it has seen. -/
structure Surroundings where
  binary2Text : List UInt8 → Option String
  text2Binary : String → List UInt8
  codingReason : String
  writes : Nat → Bool
  reaction : List Callback → Callback → List Reply

/-- A `WebSocket`, with the frames it has written, the callbacks it has
made and how often `close` has found it closed. -/
structure WebSocket where
  state : SocketState := .opened
  inOpen : Bool := true
  outOpen : Bool := true
  continuousOpCode : Option OpCode := none
  continuousFrames : List WebSocketFrame := []
  attempts : Nat := 0
  sent : List WebSocketFrame := []
  calls : List Callback := []
  lateCloses : Nat := 0

namespace WebSocket

variable (env : Surroundings)

def sendFrame (frame : WebSocketFrame) : EStateM SocketException WebSocket Unit := do
  let s ← get
  if s.outOpen ∧ env.writes s.attempts then
    set { s with attempts := s.attempts + 1, sent := s.sent ++ [frame] }
  else do
    set { s with attempts := s.attempts + 1 }
    throw .io

/-- `CloseFrame.generatePayload`. -/
def generatePayload (code : Option CloseCode) (closeReason : String) : List UInt8 :=
  match code with
  | some code => .ofNat (code.getValue >>> 8) :: .ofNat code.getValue :: env.text2Binary closeReason
  | none => []

/-- `new CloseFrame(code, closeReason)`, whose own two fields stay unset. -/
def closeFrame (code : Option CloseCode) (closeReason : String) : WebSocketFrame :=
  ⟨.close, true, none, generatePayload env code closeReason, some ⟨none, none⟩⟩

def doClose (code : Option CloseCode) (reason : Option String) (initiatedByRemote : Bool) :
    EStateM SocketException WebSocket Unit := do
  let s ← get
  if s.state = .closed then pure ()
  else
    set { s with
      inOpen := false
      outOpen := false
      state := .closed
      calls := s.calls ++ [Callback.onClose code reason initiatedByRemote] }

def close (code : CloseCode) (reason : String) : EStateM SocketException WebSocket Unit := do
  let s ← get
  set { s with
    state := .closing
    lateCloses := if s.state = SocketState.closed then s.lateCloses + 1 else s.lateCloses }
  if s.state = .opened then sendFrame env (closeFrame env (some code) reason)
  else doClose (some code) (some reason) false

def send (payload : List UInt8) : EStateM SocketException WebSocket Unit :=
  sendFrame env ⟨.binary, true, none, payload, none⟩

/-- `MicropaymentWebsocket.closeConnection`; all that `close` throws is an
`IOException`. -/
def closeConnection : EStateM SocketException WebSocket Unit :=
  tryCatch (close env .normalClosure "") fun _ => pure ()

def perform : Reply → EStateM SocketException WebSocket Unit
  | .ping payload => sendFrame env ⟨.ping, true, none, payload, none⟩
  | .send payload => send env payload
  | .sendText payload => sendFrame env ⟨.text, true, none, env.text2Binary payload, none⟩
  | .close code reason => close env code reason
  | .closeConnection => closeConnection env
  | .write message => tryCatch (send env message) fun _ => closeConnection env
  | .fail => throw .runtime

/-- `onMessage` or `onPong`. -/
def callback (c : Callback) : EStateM SocketException WebSocket Unit := do
  let s ← get
  set { s with calls := s.calls ++ [c] }
  (env.reaction s.calls c).forM (perform env)

/-- The constructor that joins fragments. -/
def joined (opCode : OpCode) (fragments : List WebSocketFrame) :
    Except SocketException WebSocketFrame :=
  if 2 ^ 31 - 1 < (fragments.map fun inter => inter.payload.length).sum then
    .error (.webSocket .messageTooBig "Max frame length has been exceeded.")
  else .ok ⟨opCode, true, none, fragments.flatMap (·.payload), none⟩

def handleFrameFragment (frame : WebSocketFrame) : EStateM SocketException WebSocket Unit := do
  let s ← get
  if frame.opCode ≠ .continuation then -- first
    if s.continuousOpCode.isSome then
      throw (.webSocket .protocolError "Previous continuous frame sequence not completed.")
    else
      set { s with continuousOpCode := some frame.opCode, continuousFrames := [frame] }
  else
    match s.continuousOpCode with
    | none => throw (.webSocket .protocolError "Continuous frame sequence was not started.")
    | some opCode =>
        if frame.fin then do -- last
          match joined opCode s.continuousFrames with
          | .error e => throw e
          | .ok message => do
              callback env (.onMessage message)
              modify fun s => { s with continuousOpCode := none, continuousFrames := [] }
        else -- intermediate
          set { s with continuousFrames := s.continuousFrames ++ [frame] }

def handleCloseFrame (frame : WebSocketFrame) : EStateM SocketException WebSocket Unit := do
  let details := frame.closing.getD ⟨some .normalClosure, some ""⟩
  let s ← get
  if s.state = .closing then -- answer for my requested close
    doClose details.closeCode details.closeReason false
  else do -- answer close request from other endpoint and close self
    set { s with state := .closing }
    if s.state = .opened then do
      sendFrame env (closeFrame env details.closeCode (details.closeReason.getD ""))
      doClose details.closeCode details.closeReason true
    else doClose details.closeCode details.closeReason true

/-- The branch of `handleWebsocketFrame` for a message in one frame. -/
def handleMessage (frame : WebSocketFrame) : EStateM SocketException WebSocket Unit := do
  let s ← get
  if s.continuousOpCode.isSome then
    throw (.webSocket .protocolError "Continuous frame sequence not completed.")
  else callback env (.onMessage frame)

def handleWebsocketFrame (frame : WebSocketFrame) : EStateM SocketException WebSocket Unit :=
  if frame.opCode = .close then handleCloseFrame env frame
  else if frame.opCode = .ping then sendFrame env ⟨.pong, true, none, frame.payload, none⟩
  else if frame.opCode = .pong then callback env (.onPong frame)
  else if ¬ frame.fin ∨ frame.opCode = .continuation then handleFrameFragment env frame
  else handleMessage env frame

/-- The exceptions of a read. -/
def ofReadFailure : ReadFailure → SocketException
  | .endOfFile => .io
  | .characterCoding => .characterCoding
  | .webSocket code reason => .webSocket code reason

/-- `WebSocketFrame.read(in)` with the outcome `result`; a stream that was
closed gives an `IOException`. -/
def readFrame (result : Except ReadFailure WebSocketFrame) :
    EStateM SocketException WebSocket WebSocketFrame := do
  let s ← get
  if s.inOpen then
    match result with
    | .ok frame => pure frame
    | .error e => throw (ofReadFailure e)
  else throw .io

/-- The catch clauses of `readWebsocket`. -/
def caught (e : SocketException) : EStateM SocketException WebSocket Unit :=
  match e with
  | .characterCoding => do
      modify fun s => { s with calls := s.calls ++ [.onException e] }
      doClose (some .invalidFramePayloadData) (some env.codingReason) false
  | .io => modify fun s => { s with calls := s.calls ++ [.onException e] }
  | .webSocket code reason => do
      modify fun s => { s with calls := s.calls ++ [.onException e] }
      doClose (some code) (some reason) false
  | .runtime => pure ()

/-- The finally clause of `readWebsocket`. -/
def terminated : EStateM SocketException WebSocket Unit :=
  doClose (some .internalServerError) (some "Handler terminated without closing the connection.")
    false

/-- One round of the loop in `readWebsocket`: whether the loop goes on, or
else what comes after it. -/
def round (result : Except ReadFailure WebSocketFrame) : EStateM SocketException WebSocket Bool := do
  let goesOn ← tryCatch
    (do
      let frame ← readFrame result
      handleWebsocketFrame env frame
      let s ← get
      pure (decide (s.state = .opened)))
    (fun e => do
      caught env e
      pure false)
  if goesOn then pure true
  else do
    terminated
    pure false

end WebSocket

/-! ## Sessions -/

/-- A connection and whether its reading thread is still in the loop. -/
structure Session where
  socket : WebSocket := {}
  reading : Bool := true

/-- What happens to a connection: the reading thread's next read ends, or
another thread calls. -/
inductive SocketEvent where
  | read (result : Except ReadFailure WebSocketFrame)
  | call (reply : Reply)

namespace Session

variable (env : Surroundings)

def next (s : Session) : SocketEvent → Session
  | .read result =>
      if s.reading then
        match (WebSocket.round env result).run s.socket with
        | .ok goesOn socket => ⟨socket, goesOn⟩
        | .error _ socket => ⟨socket, false⟩
      else s
  | .call reply => { s with socket := finalState (WebSocket.perform env reply) s.socket }

/-- The loop of `readWebsocket` over a stream, without other threads, for a
number of rounds. -/
def readLoop (stream : InputStream) : Nat → InputStream.Position → Session → Session
  | 0, _, s => s
  | rounds + 1, pos, s =>
      if s.reading then
        match (WebSocketFrame.read stream env.binary2Text).run pos with
        | .ok frame pos' => readLoop stream rounds pos' (s.next env (.read (.ok frame)))
        | .error e _ => s.next env (.read (.error e))
      else s

/-- `readWebsocket` on a fresh connection: there are fewer frames than
bytes. -/
def readWebsocket (stream : InputStream) : Session :=
  readLoop env stream (stream.bytes.length + 1) {} {}

end Session

/-! ## The end of a connection -/

namespace Callback

def isOnClose : Callback → Bool
  | onClose .. => true
  | _ => false

/-- A callback that brings something from the other side. -/
def delivers : Callback → Bool
  | onPong _ => true
  | onMessage _ => true
  | _ => false

end Callback

namespace WebSocket

variable {env : Surroundings} {s : WebSocket}

/-- `onClose` is called when the connection gets closed, once more for each
call of `close` after that, and nothing is delivered after it. -/
structure Sound (s : WebSocket) : Prop where
  count_eq : s.calls.countP Callback.isOnClose = (decide (s.state = .closed)).toNat + s.lateCloses
  late_eq : s.state ≠ .closed → s.lateCloses = 0
  in_eq : s.inOpen = decide (s.state ≠ .closed)
  ordered : s.calls.Pairwise fun a b => a.isOnClose = true → b.delivers = false

theorem Sound.none_closed (h : s.Sound) (hopen : s.state ≠ .closed) :
    ∀ c ∈ s.calls, c.isOnClose = false := by
  have hcount := h.count_eq
  rw [h.late_eq hopen, decide_eq_false hopen] at hcount
  intro c hc
  simpa using List.countP_eq_zero.mp hcount c hc

/-- Adding a callback that is not `onClose`. -/
theorem Sound.call (h : s.Sound) {c : Callback} (hc : c.isOnClose = false)
    (hdelivers : c.delivers = true → s.state ≠ .closed) :
    Sound { s with calls := s.calls ++ [c] } := by
  refine ⟨?_, h.late_eq, h.in_eq, ?_⟩
  · show (s.calls ++ [c]).countP Callback.isOnClose = _
    rw [List.countP_append, List.countP_singleton, hc]
    exact h.count_eq
  · show (s.calls ++ [c]).Pairwise _
    refine List.pairwise_append.mpr ⟨h.ordered, List.pairwise_singleton _ _, fun a ha b hb => ?_⟩
    obtain rfl := List.mem_singleton.mp hb
    intro hclose
    by_contra hb
    rw [h.none_closed (hdelivers (by simpa using hb)) a ha] at hclose
    cases hclose

theorem sound_sendFrame (frame : WebSocketFrame) : Preserves Sound (sendFrame env frame) := by
  intro s h
  rw [sendFrame, wp_bind, wp_get, wp_ite]
  exact ⟨fun _ => ⟨h.count_eq, h.late_eq, h.in_eq, h.ordered⟩,
    fun _ => ⟨h.count_eq, h.late_eq, h.in_eq, h.ordered⟩⟩

/-- The connection gets closed, or once more. -/
theorem Sound.closed (h : s.Sound) {late : Nat} (hlate : s.calls.countP Callback.isOnClose = late)
    (code : Option CloseCode) (reason : Option String) (initiatedByRemote : Bool) :
    Sound { s with
      inOpen := false, outOpen := false, state := .closed, lateCloses := late,
      calls := s.calls ++ [.onClose code reason initiatedByRemote] } := by
  refine ⟨?_, fun hne => absurd rfl hne, rfl, ?_⟩
  · show (s.calls ++ [_]).countP Callback.isOnClose = 1 + late
    rw [List.countP_append, hlate, Nat.add_comm]
    rfl
  · show (s.calls ++ [_]).Pairwise _
    refine List.pairwise_append.mpr ⟨h.ordered, List.pairwise_singleton _ _, fun a _ b hb _ => ?_⟩
    obtain rfl := List.mem_singleton.mp hb
    rfl

theorem Sound.doClose (h : s.Sound) (code : Option CloseCode) (reason : Option String)
    (initiatedByRemote : Bool) :
    wp (doClose code reason initiatedByRemote) s (fun _ t => t.Sound ∧ t.state = .closed)
      (fun _ _ => False) := by
  rw [WebSocket.doClose, wp_bind, wp_get, wp_ite]
  refine ⟨fun hclosed => ⟨h, hclosed⟩, fun hopen => ⟨?_, rfl⟩⟩
  have hcount := h.count_eq
  rw [decide_eq_false hopen, Bool.toNat_false, Nat.zero_add] at hcount
  exact h.closed hcount code reason initiatedByRemote

theorem sound_doClose (code : Option CloseCode) (reason : Option String) (initiatedByRemote : Bool) :
    Preserves Sound (doClose code reason initiatedByRemote) :=
  fun _ h => (h.doClose code reason initiatedByRemote).mono (fun _ _ ht => ht.1) (fun _ _ hf => hf.elim)

/-- A connection that is not closed may begin to close. -/
theorem Sound.closing (h : s.Sound) (hopen : s.state ≠ .closed) :
    Sound { s with state := .closing } := by
  have hcount := h.count_eq
  rw [decide_eq_false hopen] at hcount
  exact ⟨hcount, fun _ => h.late_eq hopen, h.in_eq.trans (by simpa using hopen), h.ordered⟩

theorem sound_close (code : CloseCode) (reason : String) : Preserves Sound (close env code reason) := by
  intro s h
  rw [close, wp_bind, wp_get, wp_bind, wp_set, wp_ite]
  by_cases hclosed : s.state = .closed
  · rw [if_pos hclosed]
    refine ⟨fun hopened => ?_, fun _ => ?_⟩
    · rw [hclosed] at hopened
      cases hopened
    · -- it is closed a second time
      rw [doClose, wp_bind, wp_get, wp_ite]
      refine ⟨fun hfalse => (by cases hfalse), fun _ => ?_⟩
      have hcount := h.count_eq
      rw [decide_eq_true hclosed, Bool.toNat_true, Nat.add_comm] at hcount
      exact h.closed hcount (some code) (some reason) false
  · rw [if_neg hclosed]
    exact ⟨fun _ => sound_sendFrame _ _ (h.closing hclosed),
      fun _ => sound_doClose _ _ _ _ (h.closing hclosed)⟩

theorem sound_closeConnection : Preserves Sound (closeConnection env) :=
  .tryCatch (sound_close _ _) fun _ => .pure _

theorem sound_perform (reply : Reply) : Preserves Sound (perform env reply) := by
  cases reply with
  | ping payload => exact sound_sendFrame _
  | send payload => exact sound_sendFrame _
  | sendText payload => exact sound_sendFrame _
  | close code reason => exact sound_close code reason
  | closeConnection => exact sound_closeConnection
  | write message => exact .tryCatch (sound_sendFrame _) fun _ => sound_closeConnection
  | fail => exact .throw _

theorem Sound.callback (h : s.Sound) (hopen : s.state ≠ .closed) {c : Callback}
    (hc : c.delivers = true) :
    wp (callback env c) s (fun _ t => t.Sound) (fun _ t => t.Sound) := by
  have hclose : c.isOnClose = false := by
    cases c with
    | onClose => cases hc
    | _ => rfl
  rw [WebSocket.callback, wp_bind, wp_get, wp_bind, wp_set]
  exact Preserves.forM _ (fun reply => sound_perform reply) _ (h.call hclose fun _ => hopen)

theorem Sound.handleFrameFragment (h : s.Sound) (hopen : s.state ≠ .closed) (frame : WebSocketFrame) :
    wp (handleFrameFragment env frame) s (fun _ t => t.Sound) (fun _ t => t.Sound) := by
  have hsame (opCode : Option OpCode) (frames : List WebSocketFrame) :
      Sound { s with continuousOpCode := opCode, continuousFrames := frames } :=
    ⟨h.count_eq, h.late_eq, h.in_eq, h.ordered⟩
  rw [WebSocket.handleFrameFragment, wp_bind, wp_get, wp_ite]
  refine ⟨fun _ => ?_, fun _ => ?_⟩
  · rw [wp_ite]
    exact ⟨fun _ => h, fun _ => hsame _ _⟩
  · split
    · exact h
    · rw [wp_ite]
      refine ⟨fun _ => ?_, fun _ => hsame _ _⟩
      split
      · exact h
      · rw [wp_bind]
        refine (h.callback hopen rfl).mono (fun _ t ht => ?_) (fun _ _ ht => ht)
        exact ⟨ht.count_eq, ht.late_eq, ht.in_eq, ht.ordered⟩

theorem Sound.handleCloseFrame (h : s.Sound) (hopen : s.state ≠ .closed) (frame : WebSocketFrame) :
    wp (handleCloseFrame env frame) s (fun _ t => t.Sound) (fun _ t => t.Sound) := by
  rw [WebSocket.handleCloseFrame, wp_bind, wp_get, wp_ite]
  refine ⟨fun _ => sound_doClose _ _ _ s h, fun _ => ?_⟩
  rw [wp_bind, wp_set, wp_ite]
  refine ⟨fun _ => ?_, fun _ => sound_doClose _ _ _ _ (h.closing hopen)⟩
  rw [wp_bind]
  exact (sound_sendFrame _ _ (h.closing hopen)).mono (fun _ t ht => sound_doClose _ _ _ t ht)
    (fun _ _ ht => ht)

theorem Sound.handleWebsocketFrame (h : s.Sound) (hopen : s.state ≠ .closed) (frame : WebSocketFrame) :
    wp (handleWebsocketFrame env frame) s (fun _ t => t.Sound) (fun _ t => t.Sound) := by
  unfold WebSocket.handleWebsocketFrame
  rw [wp_ite]
  refine ⟨fun _ => h.handleCloseFrame hopen frame, fun _ => ?_⟩
  rw [wp_ite]
  refine ⟨fun _ => sound_sendFrame _ s h, fun _ => ?_⟩
  rw [wp_ite]
  refine ⟨fun _ => h.callback hopen rfl, fun _ => ?_⟩
  rw [wp_ite]
  refine ⟨fun _ => h.handleFrameFragment hopen frame, fun _ => ?_⟩
  rw [handleMessage, wp_bind, wp_get, wp_ite]
  exact ⟨fun _ => h, fun _ => h.callback hopen rfl⟩

theorem Sound.caught (h : s.Sound) (e : SocketException) :
    wp (caught env e) s (fun _ t => t.Sound) (fun _ _ => False) := by
  have hcall : Sound { s with calls := s.calls ++ [.onException e] } :=
    h.call rfl (fun hfalse => by cases hfalse)
  cases e with
  | io => exact hcall
  | characterCoding => exact (hcall.doClose _ _ _).mono (fun _ _ ht => ht.1) (fun _ _ hf => hf)
  | webSocket code reason => exact (hcall.doClose _ _ _).mono (fun _ _ ht => ht.1) (fun _ _ hf => hf)
  | runtime => exact h

/-- A round of the loop does not throw, and the connection is closed when
the loop ends. -/
theorem Sound.round (h : s.Sound) (result : Except ReadFailure WebSocketFrame) :
    wp (round env result) s (fun goesOn t => t.Sound ∧ (goesOn = false → t.state = .closed))
      (fun _ _ => False) := by
  rw [WebSocket.round, wp_bind, wp_tryCatch]
  refine wp.mono (Q := fun _ t => t.Sound) (E := fun _ t => t.Sound) ?_ ?_ ?_
  · unfold readFrame
    rw [wp_bind, wp_bind, wp_get, wp_ite]
    refine ⟨fun hin => ?_, fun _ => h⟩
    have hopen : s.state ≠ .closed := by
      rw [h.in_eq] at hin
      exact of_decide_eq_true hin
    cases result with
    | error e => exact h
    | ok frame =>
      rw [wp_pure, wp_bind]
      exact (h.handleWebsocketFrame hopen frame).mono (fun _ t ht => ht) (fun _ t ht => ht)
  · intro goesOn t ht
    rw [wp_ite]
    refine ⟨fun _ => ⟨ht, fun hfalse => by cases hfalse⟩, fun _ => ?_⟩
    rw [wp_bind]
    exact (ht.doClose _ _ _).mono (fun _ u hu => ⟨hu.1, fun _ => hu.2⟩) (fun _ _ hf => hf)
  · intro e t ht
    rw [wp_bind]
    refine (ht.caught e).mono (fun _ u hu => ?_) (fun _ _ hf => hf)
    rw [wp_pure, if_neg (by decide), wp_bind]
    exact (hu.doClose _ _ _).mono (fun _ u hu => ⟨hu.1, fun _ => hu.2⟩) (fun _ _ hf => hf)

/-- A connection stays closed. -/
theorem closed_perform (reply : Reply) : Preserves (fun s => s.state = .closed) (perform env reply) := by
  have hsend (frame : WebSocketFrame) :
      Preserves (fun s => s.state = .closed) (sendFrame env frame) := by
    intro s hclosed
    rw [sendFrame, wp_bind, wp_get, wp_ite]
    exact ⟨fun _ => hclosed, fun _ => hclosed⟩
  have hclose (code : CloseCode) (reason : String) :
      Preserves (fun s => s.state = .closed) (close env code reason) := by
    intro s hclosed
    rw [close, wp_bind, wp_get, wp_bind, wp_set, wp_ite]
    refine ⟨fun hopened => ?_, fun _ => ?_⟩
    · rw [hclosed] at hopened
      cases hopened
    · rw [doClose, wp_bind, wp_get, wp_ite]
      exact ⟨id, fun _ => rfl⟩
  have hcloseConnection : Preserves (fun s => s.state = .closed) (closeConnection env) :=
    .tryCatch (hclose _ _) fun _ => .pure _
  cases reply with
  | ping payload => exact hsend _
  | send payload => exact hsend _
  | sendText payload => exact hsend _
  | close code reason => exact hclose code reason
  | closeConnection => exact hcloseConnection
  | write message => exact .tryCatch (hsend _) fun _ => hcloseConnection
  | fail => exact .throw _

end WebSocket

namespace Session

variable {env : Surroundings} {s : Session}

/-- A connection whose thread has left the loop is closed. -/
structure Sound (s : Session) : Prop where
  socket : s.socket.Sound
  closed_of_ended : s.reading = false → s.socket.state = .closed

theorem Sound.next (h : s.Sound) (e : SocketEvent) : (s.next env e).Sound := by
  cases e with
  | read result =>
    by_cases hreading : s.reading = true
    · obtain ⟨goesOn, socket, hrun, hsound, hclosed⟩ :=
        (h.socket.round result : wp (WebSocket.round env result) _ _ _).exists_run_eq_ok
      rw [Session.next, if_pos hreading, hrun]
      exact ⟨hsound, hclosed⟩
    · rw [Session.next, if_neg hreading]
      exact h
  | call reply =>
    have hsound := wp_iff_finalState.mp (@WebSocket.sound_perform env reply _ h.socket)
    refine ⟨hsound, fun hended => ?_⟩
    exact wp_iff_finalState.mp (WebSocket.closed_perform reply _ (h.closed_of_ended hended))

theorem sound_foldl (h : s.Sound) (events : List SocketEvent) :
    (events.foldl (Session.next env) s).Sound := by
  induction events generalizing s with
  | nil => exact h
  | cons e events ih => exact ih (h.next e)

theorem sound_start : Sound {} where
  socket := ⟨rfl, fun _ => rfl, rfl, List.Pairwise.nil⟩
  closed_of_ended := fun h => by cases h

/-- `onClose`, over every order of frames, failures and calls of other
threads that fall between two frames: it is called when the connection gets
closed and once more for every later `close`, the connection is closed when
the reading thread has ended, and after `onClose` no message and no pong is
delivered. The application's `onClose` and `onException` are taken to do
nothing and not to throw. -/
theorem onClose_along_run (env : Surroundings) (events : List SocketEvent) :
    let s := events.foldl (Session.next env) {}
    s.socket.calls.countP Callback.isOnClose =
        (decide (s.socket.state = .closed)).toNat + s.socket.lateCloses ∧
      (s.reading = false → s.socket.state = .closed) ∧
      s.socket.calls.Pairwise fun a b => a.isOnClose = true → b.delivers = false := by
  have h := @sound_foldl env {} sound_start events
  exact ⟨h.socket.count_eq, h.closed_of_ended, h.socket.ordered⟩

/-! ## The reading thread alone -/

variable {stream : InputStream}

theorem next_of_ended (hended : s.reading = false) (result : Except ReadFailure WebSocketFrame) :
    s.next env (.read result) = s := by
  rw [Session.next, if_neg (by rw [hended]; decide)]

theorem Sound.readLoop (h : s.Sound) (rounds : Nat) (pos : InputStream.Position) :
    (readLoop env stream rounds pos s).Sound := by
  induction rounds generalizing pos s with
  | zero => exact h
  | succ rounds ih =>
    rw [Session.readLoop]
    split
    · split
      · exact ih (h.next _) _
      · exact h.next _
    · exact h

end Session

theorem WebSocketFrame.two_le_length_write (frame : WebSocketFrame) : 2 ≤ frame.write.length := by
  have hlength : 1 ≤ (WebSocketFrame.lengthBytes frame.maskingKey.isSome frame.payload.length).length := by
    unfold WebSocketFrame.lengthBytes
    split
    · exact Nat.le_refl 1
    · split
      · exact Nat.le_add_left 1 2
      · exact Nat.le_add_left 1 8
  rw [WebSocketFrame.write, List.length_cons, List.length_append, List.length_append]
  omega

namespace Session

variable {env : Surroundings} {s : Session} {stream : InputStream}

/-- A read that fails ends the loop. -/
theorem reading_of_error (e : ReadFailure) : (s.next env (.read (.error e))).reading = false := by
  have hround : wp (WebSocket.round env (.error e)) s.socket (fun goesOn _ => goesOn = false)
      (fun _ _ => True) := by
    rw [WebSocket.round, wp_bind, wp_tryCatch]
    refine wp.mono (Q := fun _ _ => False) (E := fun _ _ => True) ?_ (fun _ _ hf => hf.elim) ?_
    · unfold WebSocket.readFrame
      rw [wp_bind, wp_bind, wp_get, wp_ite]
      exact ⟨fun _ => trivial, fun _ => trivial⟩
    · intro e t _
      rw [wp_bind]
      refine (wp.trivial _ _).mono (fun _ u _ => ?_) (fun _ _ h => h)
      rw [wp_pure, if_neg (by decide), wp_bind]
      exact (wp.trivial _ _).mono (fun _ _ _ => rfl) (fun _ _ h => h)
  by_cases hreading : s.reading = true
  · rw [Session.next, if_pos hreading]
    unfold wp at hround
    split at hround
    · next hrun =>
      rw [hrun]
      exact hround
    · next hrun => rw [hrun]
  · rw [Session.next, if_neg hreading]
    simpa using hreading

/-- Every frame takes bytes, so the loop ends. -/
theorem ended_of_length_lt {rounds : Nat} {pos : InputStream.Position} (hpos : stream.Valid pos)
    (hrounds : (stream.rest pos).length < rounds) :
    (readLoop env stream rounds pos s).reading = false := by
  induction rounds generalizing pos s with
  | zero => omega
  | succ rounds ih =>
    rw [readLoop]
    split
    · split
      · next frame pos' hrun =>
        obtain ⟨bytes, ⟨-, rfl⟩, hrest, hpos'⟩ :=
          (WebSocketFrame.reads_frame env.binary2Text).sound hpos hrun
        have hlength := congrArg List.length hrest
        have htwo := frame.two_le_length_write
        rw [List.length_append] at hlength
        exact ih hpos' (by omega)
      · exact reading_of_error _
    · next hended => simpa using hended

/-- Whatever bytes arrive and whatever the application does, the loop comes
to an end, the connection is closed then, and `onClose` was called. -/
theorem readWebsocket_closes (env : Surroundings) (stream : InputStream) :
    (readWebsocket env stream).reading = false ∧
      (readWebsocket env stream).socket.state = .closed ∧
      (readWebsocket env stream).socket.calls.countP Callback.isOnClose =
        1 + (readWebsocket env stream).socket.lateCloses := by
  have hended : (readWebsocket env stream).reading = false :=
    ended_of_length_lt (Nat.zero_le _) (Nat.lt_succ_self _)
  have hsound : (readWebsocket env stream).Sound := sound_start.readLoop _ _
  have hclosed := hsound.closed_of_ended hended
  refine ⟨hended, hclosed, ?_⟩
  rw [hsound.socket.count_eq, decide_eq_true hclosed]
  rfl

end Session

end BitMesh.Transport
