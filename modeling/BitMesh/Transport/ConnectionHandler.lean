import BitMesh.Lib.Transition
import BitMesh.Transport.Parser

/-!
# A connection's handler

`ConnectionHandler` moves the bytes of one TCP connection. What arrives
goes through a fixed buffer to the connection's `ProtobufParser`; what is
to be sent waits in a queue until the channel takes it. The events of a
connection come in any order: bytes arrive, the selector finds the key
readable or writable, and any thread writes a message or closes. Over
every run the messages received are those of the plain reading of the
bytes taken, the queue loses and reorders nothing, and the parser hears of
the end once.
-/

namespace BitMesh.Transport

open Lib

/-- The handler's fields besides its read buffer, and what the connection
has done so far: the messages the listener was given, the bytes the channel
took, the messages the queue was offered and how often the parser was told
of the end. `registered` is whether `connectedHandlers` has this handler,
or `none` where there is no such set. -/
structure Link (M : Type) where
  bytesToWrite : List (List UInt8) := []
  bytesToWriteRemaining : Int := 0
  channelOpen : Bool := true
  closeCalled : Bool := false
  registered : Option Bool
  received : List M := []
  written : List UInt8 := []
  offered : List (List UInt8) := []
  connectionClosedCalls : Nat := 0

namespace Link

variable {M : Type}

/-- `OUTBOUND_BUFFER_BYTE_COUNT`. -/
def outboundBufferByteCount : Int := 0x02000000 + 24

/-- The private `connectionClosed()`. -/
def connectionClosed : EStateM JavaException (Link M) Unit := do
  let s ← get
  set { s with closeCalled := true }
  if s.closeCalled then pure ()
  else do
    checkState (s.registered ≠ some false)
    modify fun s =>
      { s with
        registered := s.registered.map fun _ => false
        connectionClosedCalls := s.connectionClosedCalls + 1 }

def closeConnection : EStateM JavaException (Link M) Unit := do
  modify fun s => { s with channelOpen := false }
  connectionClosed

/-- `writeBytes`; the result is whether it threw an `IOException`. A closed
channel has cancelled its key, which `setWriteOps` finds out after the
message was put into the queue. -/
def writeBytes (message : List UInt8) : EStateM JavaException (Link M) Bool := do
  let s ← get
  if outboundBufferByteCount < s.bytesToWriteRemaining + message.length then do
    closeConnection
    pure true
  else do
    set { s with
      bytesToWrite := s.bytesToWrite ++ [message]
      bytesToWriteRemaining := s.bytesToWriteRemaining + message.length
      offered := s.offered ++ [message] }
    if s.channelOpen then pure false
    else do
      closeConnection
      pure true

/-- The loop of `tryWriteBytes` over the queue. An entry of `accepts` is
how many bytes a call of `channel.write` takes, or that it fails. The
result is what was written, what is left of the queue and whether a call
failed. -/
def drain : List (Option Nat) → List (List UInt8) → List UInt8 × List (List UInt8) × Bool
  | _, [] => ([], [], false)
  | accepts, buff :: rest =>
      match accepts.headD (some 0) with
      | none => ([], buff :: rest, true)
      | some n =>
          if buff.length ≤ n then
            let r := drain accepts.tail rest
            (buff ++ r.1, r.2)
          else (buff.take n, buff.drop n :: rest, false)

/-- `tryWriteBytes`; on a closed channel it throws at once. -/
def tryWriteBytes (accepts : List (Option Nat)) : EStateM JavaException (Link M) Unit := do
  let s ← get
  if s.channelOpen then do
    let r := drain accepts s.bytesToWrite
    set { s with
      bytesToWrite := r.2.1
      bytesToWriteRemaining := s.bytesToWriteRemaining - r.1.length
      written := s.written ++ r.1 }
    if r.2.2 then throw ⟨.runtime, none⟩ else pure ()
  else throw ⟨.runtime, none⟩

end Link

/-! ## The parser of the connection -/

/-- What a listener does with its connection: `ProtobufParser.write`,
`ProtobufParser.closeConnection`, or an exception. -/
inductive Action where
  | write (message : List UInt8)
  | closeConnection
  | fail (e : JavaException)

/-- The messages of a connection, and what its listener does on each: this
may depend on those it has received before. -/
structure Service (M : Type) where
  mergeFrom : List UInt8 → Except JavaException M
  maxMessageSize : Nat
  maxMessageSize_le : maxMessageSize ≤ 2 ^ 31 - 1 - 4
  reaction : List M → M → List Action

namespace Service

variable {M : Type} (service : Service M)

/-- `ProtobufParser.write`. -/
def write (message : List UInt8) : EStateM JavaException (Link M) Unit := do
  checkState (message.length ≤ service.maxMessageSize)
  let threw ← Link.writeBytes message
  if threw then Link.closeConnection else pure ()

def perform : Action → EStateM JavaException (Link M) Unit
  | .write message => service.write message
  | .closeConnection => Link.closeConnection
  | .fail e => throw e

def messageReceived (msg : M) : EStateM JavaException (Link M) Unit := do
  let s ← get
  set { s with received := s.received ++ [msg] }
  (service.reaction s.received msg).forM service.perform

def parser : ProtobufParser (Link M) M :=
  ⟨service.messageReceived, service.mergeFrom, service.maxMessageSize, service.maxMessageSize_le⟩

/-- The size of the read buffer, between its two bounds. -/
def bufferSize : Nat := min (max service.maxMessageSize 4096) 65536

theorem four_le_bufferSize : 4 ≤ service.bufferSize := by
  unfold bufferSize
  omega

end Service

/-! ## The events of a connection -/

/-- A read buffer between two reads: the bytes that wait in it. -/
structure ReadBuffer where
  held : List UInt8
  capacity : Nat
  held_le : held.length ≤ capacity

namespace ReadBuffer

def room (b : ReadBuffer) : Nat := b.capacity - b.held.length

/-- The buffer after `channel.read` and `flip()`. -/
def flip (b : ReadBuffer) (bytes : List UInt8) : ByteBuffer where
  consumed := []
  pending := b.held ++ bytes.take b.room
  capacity := b.capacity
  limit_le := by
    have := b.held_le
    unfold room
    rw [List.length_append, List.length_take, List.length_nil]
    omega

end ReadBuffer

/-- `compact()`. -/
def ByteBuffer.compact (b : ByteBuffer) : ReadBuffer := ⟨b.pending, b.capacity, b.remaining_le⟩

/-- A connection: the handler, its parser, and the bytes the other side
has sent, those the handler has read and those it has not. -/
structure Connection (M : Type) where
  link : Link M
  messageBytes : Option MessageBytes := none
  readBuff : ReadBuffer
  taken : List UInt8 := []
  incoming : List UInt8 := []

/-- How a `channel.read` ends. -/
inductive ReadResult where
  | bytes (atMost : Nat)
  | ended
  | failed

/-- A selected key: what a read gives if it is readable, and what the
channel takes if it is writable. -/
structure SelectedKey where
  readable : Option ReadResult
  writable : Option (List (Option Nat))

namespace Connection

variable {M : Type} (service : Service M)

/-- Runs a method of the handler. -/
def onLink {α : Type} (m : EStateM JavaException (Link M) α) :
    EStateM JavaException (Connection M) α :=
  onPart Connection.link (fun c l => { c with link := l }) m

/-- Hands `bytes` that were read to the parser. -/
def receive (bytes : List UInt8) : EStateM JavaException (Connection M) Unit := do
  let c ← get
  let buff := c.readBuff.flip bytes
  set { c with taken := c.taken ++ bytes, incoming := c.incoming.drop bytes.length }
  match (service.parser.receiveBytes (buff.remaining + 2)).run ⟨c.messageBytes, buff, c.link⟩ with
  | .ok bytesConsumed t => do
      modify fun c => { c with link := t.listener, messageBytes := t.messageBytes }
      checkState (t.buff.position = bytesConsumed)
      modify fun c => { c with readBuff := t.buff.compact }
  | .error e t => do
      modify fun c => { c with link := t.listener, messageBytes := t.messageBytes }
      throw e

/-- The last part of `handleKey`. -/
def handleWritable (key : SelectedKey) : EStateM JavaException (Connection M) Unit :=
  match key.writable with
  | some accepts => onLink (Link.tryWriteBytes accepts)
  | none => pure ()

def handleKey (key : SelectedKey) : EStateM JavaException (Connection M) Unit :=
  tryCatch (do
      let c ← get
      if c.link.channelOpen then
        match key.readable with
        | some (.bytes atMost) => do
            let bytes := c.incoming.take (min atMost c.readBuff.room)
            if bytes = [] then pure () -- was probably waiting on a write
            else do
              receive service bytes
              handleWritable key
        | some .ended => onLink Link.closeConnection
        | some .failed => throw ⟨.runtime, none⟩
        | none => handleWritable key
      else onLink Link.closeConnection)
    fun _ => onLink Link.closeConnection

/-- What happens to a connection: the other side sends bytes, the selector
picks its key, or a thread calls the parser. -/
inductive Event where
  | sent (bytes : List UInt8)
  | selected (key : SelectedKey)
  | write (message : List UInt8)
  | closeConnection

def handle : Event → EStateM JavaException (Connection M) Unit
  | .sent bytes => modify fun c => { c with incoming := c.incoming ++ bytes }
  | .selected key => handleKey service key
  | .write message => onLink (service.write message)
  | .closeConnection => onLink Link.closeConnection

/-- A connection after an event, whether or not the call threw. -/
def next (c : Connection M) (e : Event) : Connection M := finalState (handle service e) c

/-- A connection as the constructors leave it: where there is a set of
connected handlers, the handler is in it. -/
def start (inSet : Bool) : Connection M where
  link := { registered := if inSet then some true else none }
  readBuff := ⟨[], service.bufferSize, Nat.zero_le _⟩

end Connection

/-! ## What the handler keeps up -/

namespace Link

variable {M : Type}

/-- The account of the queue is right, and the end is told once. -/
structure Sound (l : Link M) : Prop where
  written_append : l.written ++ l.bytesToWrite.flatten = l.offered.flatten
  remaining_eq : l.bytesToWriteRemaining = l.bytesToWrite.flatten.length
  remaining_le : l.bytesToWriteRemaining ≤ outboundBufferByteCount
  open_eq : l.channelOpen = !l.closeCalled
  registered_eq : ∀ b, l.registered = some b → b = !l.closeCalled
  calls_eq : l.connectionClosedCalls = l.closeCalled.toNat

/-- A method that goes on from `l` to `t`: it receives nothing and opens
nothing. -/
structure Continues (l t : Link M) : Prop where
  sound : t.Sound
  received_eq : t.received = l.received
  open_of_open : t.channelOpen = true → l.channelOpen = true

theorem Sound.refl {l : Link M} (h : l.Sound) : l.Continues l := ⟨h, rfl, id⟩

theorem Continues.trans {l t u : Link M} (h : l.Continues t) (h' : t.Continues u) : l.Continues u :=
  ⟨h'.sound, h'.received_eq.trans h.received_eq, fun hu => h.open_of_open (h'.open_of_open hu)⟩

/-- Closing never throws: the handler is in the set until it was closed. -/
theorem Sound.closeConnection {l : Link M} (h : l.Sound) :
    wp closeConnection l (fun _ t => l.Continues t ∧ t.channelOpen = false) (fun _ _ => False) := by
  have hreg := h.registered_eq
  have hcalls := h.calls_eq
  rw [Link.closeConnection, wp_bind, wp_modify, connectionClosed, wp_bind, wp_get, wp_bind, wp_set,
    wp_ite]
  refine ⟨fun hclosed => ⟨⟨?_, rfl, fun hopen => by cases hopen⟩, rfl⟩, fun hfirst => ?_⟩
  · exact ⟨h.written_append, h.remaining_eq, h.remaining_le, rfl,
      fun b hb => by simpa [show l.closeCalled = true from hclosed] using hreg b hb,
      by simpa [show l.closeCalled = true from hclosed] using hcalls⟩
  · have hfirst' : l.closeCalled = false := by simpa using hfirst
    rw [wp_bind, wp_checkState]
    refine ⟨fun _ => ⟨⟨?_, rfl, fun hopen => by cases hopen⟩, rfl⟩, fun hfail => ?_⟩
    · refine ⟨h.written_append, h.remaining_eq, h.remaining_le, rfl, ?_, ?_⟩
      · intro b hb
        obtain ⟨_, _, rfl⟩ := Option.map_eq_some_iff.mp hb
        rfl
      · simpa [hfirst'] using hcalls
    · have hnone : l.registered = some false := by simpa using hfail
      simpa [hfirst'] using hreg false hnone

theorem Sound.writeBytes {l : Link M} (h : l.Sound) (message : List UInt8) :
    wp (writeBytes message) l (fun _ t => l.Continues t) (fun _ _ => False) := by
  rw [Link.writeBytes, wp_bind, wp_get, wp_ite]
  refine ⟨fun _ => ?_, fun hfits => ?_⟩
  · rw [wp_bind]
    exact h.closeConnection.mono (fun _ t ht => ht.1) (fun _ _ hf => hf)
  · have hsound : Sound { l with
        bytesToWrite := l.bytesToWrite ++ [message]
        bytesToWriteRemaining := l.bytesToWriteRemaining + message.length
        offered := l.offered ++ [message] } := by
      refine ⟨?_, ?_, not_lt.mp hfits, h.open_eq, h.registered_eq, h.calls_eq⟩
      · simp only [List.flatten_append, ← h.written_append, List.append_assoc]
      · simp only [List.flatten_append, List.length_append, h.remaining_eq]
        simp
    rw [wp_bind, wp_set, wp_ite]
    refine ⟨fun _ => ⟨hsound, rfl, id⟩, fun _ => ?_⟩
    rw [wp_bind]
    refine hsound.closeConnection.mono (fun _ t ht => ?_) (fun _ _ hf => hf)
    exact ⟨ht.1.sound, ht.1.received_eq, ht.1.open_of_open⟩

theorem closeConnection_keeps_written : Keeps Link.written (closeConnection (M := M)) := by
  refine .modify_bind (fun _ => rfl) (.get_bind fun l => ?_)
  rw [wp_bind, wp_set, wp_ite]
  refine ⟨fun _ => rfl, fun _ => ?_⟩
  rw [wp_bind, wp_checkState]
  exact ⟨fun _ => rfl, fun _ => rfl⟩

theorem writeBytes_keeps_written (message : List UInt8) :
    Keeps Link.written (writeBytes (M := M) message) := by
  have hclose : Keeps Link.written (do closeConnection (M := M); pure true) :=
    closeConnection_keeps_written.bind fun _ => .pure _
  refine .get_bind fun l => ?_
  rw [wp_ite]
  refine ⟨fun _ => hclose l, fun _ => ?_⟩
  rw [wp_bind, wp_set, wp_ite]
  exact ⟨fun _ => rfl, fun _ => hclose.after rfl⟩

/-- What is written and what stays in the queue are the queue. -/
theorem drain_append (accepts : List (Option Nat)) (queue : List (List UInt8)) :
    (drain accepts queue).1 ++ (drain accepts queue).2.1.flatten = queue.flatten := by
  induction queue generalizing accepts with
  | nil => rfl
  | cons buff rest ih =>
    rw [drain]
    split
    · rfl
    · split
      · simp only [List.append_assoc, ih, List.flatten_cons]
      · simp only [List.flatten_cons, ← List.append_assoc, List.take_append_drop]

theorem Sound.tryWriteBytes {l : Link M} (h : l.Sound) (accepts : List (Option Nat)) :
    wp (tryWriteBytes accepts) l (fun _ t => l.Continues t) (fun _ t => l.Continues t) := by
  have hdrain := drain_append accepts l.bytesToWrite
  have hlength := congrArg List.length hdrain
  rw [List.length_append] at hlength
  have heq := h.remaining_eq
  have hle := h.remaining_le
  have hsound : Sound { l with
      bytesToWrite := (drain accepts l.bytesToWrite).2.1
      bytesToWriteRemaining := l.bytesToWriteRemaining - (drain accepts l.bytesToWrite).1.length
      written := l.written ++ (drain accepts l.bytesToWrite).1 } := by
    refine ⟨?_, ?_, ?_, h.open_eq, h.registered_eq, h.calls_eq⟩
    · rw [List.append_assoc, hdrain]
      exact h.written_append
    · simp only
      omega
    · simp only
      omega
  rw [Link.tryWriteBytes, wp_bind, wp_get, wp_ite]
  refine ⟨fun _ => ?_, fun _ => h.refl⟩
  rw [wp_bind, wp_set, wp_ite]
  exact ⟨fun _ => ⟨hsound, rfl, id⟩, fun _ => ⟨hsound, rfl, id⟩⟩

end Link

/-! ## The plain reading of a connection -/

namespace Service

variable {M : Type} (service : Service M)

/-- Whether an action returns. -/
def returns : Action → Bool
  | .write message => message.length ≤ service.maxMessageSize
  | .closeConnection => true
  | .fail _ => false

/-- What a message, its length in front, adds to the messages received, and
whether the connection goes on. -/
def deliver (received : List M) (bytes : List UInt8) : List M × Bool :=
  match service.mergeFrom (bytes.drop 4) with
  | .error _ => (received, false)
  | .ok msg => (received ++ [msg], (service.reaction received msg).all service.returns)

/-- The messages of a stream of bytes, up to the first that fails, and what
is left over. -/
def messages (bytes : List UInt8) : List M × Option (List UInt8) :=
  service.parser.framing.feed service.deliver [] bytes

variable {service}

theorem perform_spec {l : Link M} (h : l.Sound) (a : Action) :
    wp (service.perform a) l (fun _ t => l.Continues t ∧ service.returns a = true)
      (fun _ t => l.Continues t ∧ service.returns a = false) := by
  cases a with
  | write message =>
    rw [perform, Service.write, wp_bind, wp_checkState]
    refine ⟨fun hok => ?_, fun hbad => ⟨h.refl, hbad⟩⟩
    rw [wp_bind]
    refine (h.writeBytes message).mono (fun threw t ht => ?_) (fun _ _ hf => hf.elim)
    rw [wp_ite]
    refine ⟨fun _ => ?_, fun _ => ⟨ht, hok⟩⟩
    exact ht.sound.closeConnection.mono (fun _ u hu => ⟨ht.trans hu.1, hok⟩) (fun _ _ hf => hf.elim)
  | closeConnection =>
    exact h.closeConnection.mono (fun _ t ht => ⟨ht.1, rfl⟩) (fun _ _ hf => hf.elim)
  | fail e => exact ⟨h.refl, rfl⟩

theorem performs_spec {l : Link M} (h : l.Sound) (as : List Action) :
    wp (as.forM service.perform) l (fun _ t => l.Continues t ∧ as.all service.returns = true)
      (fun _ t => l.Continues t ∧ as.all service.returns = false) := by
  induction as generalizing l with
  | nil => exact ⟨h.refl, rfl⟩
  | cons a as ih =>
    show wp (service.perform a >>= fun _ => as.forM service.perform) l _ _
    rw [wp_bind]
    refine (perform_spec h a).mono (fun _ t ht => ?_) (fun _ t ht => ⟨ht.1, by simp [ht.2]⟩)
    refine (ih ht.1.sound).mono (fun _ u hu => ⟨ht.1.trans hu.1, ?_⟩)
      (fun _ u hu => ⟨ht.1.trans hu.1, ?_⟩)
    · rw [List.all_cons, ht.2, hu.2]
      rfl
    · rw [List.all_cons, ht.2, hu.2]
      rfl

theorem write_keeps_written (message : List UInt8) : Keeps Link.written (service.write message) := by
  intro l
  rw [Service.write, wp_bind, wp_checkState]
  refine ⟨fun _ => ?_, fun _ => rfl⟩
  exact (Link.writeBytes_keeps_written message).bind
    (fun _ => .ite (fun _ => Link.closeConnection_keeps_written) (fun _ => .pure _)) l

theorem messageReceived_spec {l : Link M} (h : l.Sound) (msg : M) :
    wp (service.messageReceived msg) l
      (fun _ t => t.Sound ∧ t.received = l.received ++ [msg] ∧
        (service.reaction l.received msg).all service.returns = true)
      (fun _ t => t.Sound ∧ t.received = l.received ++ [msg] ∧
        (service.reaction l.received msg).all service.returns = false) := by
  rw [messageReceived, wp_bind, wp_get, wp_bind, wp_set]
  have hsound : Link.Sound { l with received := l.received ++ [msg] } :=
    ⟨h.written_append, h.remaining_eq, h.remaining_le, h.open_eq, h.registered_eq, h.calls_eq⟩
  exact (performs_spec hsound (service.reaction l.received msg)).mono
    (fun _ t ht => ⟨ht.1.sound, ht.1.received_eq, ht.2⟩)
    (fun _ t ht => ⟨ht.1.sound, ht.1.received_eq, ht.2⟩)

/-- The listener's side of one message, and the messages received. -/
theorem consume_spec {l : Link M} (h : l.Sound) (bytes : List UInt8) :
    (service.parser.consume l bytes).1.Sound ∧
      ((service.parser.consume l bytes).1.received, (service.parser.consume l bytes).2) =
        service.deliver l.received bytes := by
  unfold ProtobufParser.consume deliver parser
  simp only
  cases service.mergeFrom (bytes.drop 4) with
  | error e => exact ⟨h, rfl⟩
  | ok msg =>
    have hspec := service.messageReceived_spec h msg
    unfold wp at hspec
    simp only
    split at hspec
    · next t hrun =>
      rw [hrun, hspec.2.2, ← hspec.2.1]
      exact ⟨hspec.1, rfl⟩
    · next e t hrun =>
      rw [hrun, hspec.2.2, ← hspec.2.1]
      exact ⟨hspec.1, rfl⟩

/-- The parser's reading of a stream is the plain one. -/
theorem feed_spec {l : Link M} (h : l.Sound) (bytes : List UInt8) :
    (service.parser.feed l bytes).1.Sound ∧
      ((service.parser.feed l bytes).1.received, (service.parser.feed l bytes).2) =
        service.parser.framing.feed service.deliver l.received bytes :=
  Framing.feed_map (f := Link.received) (fun _ xs hl => (consume_spec hl xs).1)
    (fun _ xs hl => (consume_spec hl xs).2) h bytes

end Service

/-! ## Runs -/

namespace Connection

variable {M : Type} (service : Service M)

/-- What holds of a connection at all times: what was received is what the
plain reading finds in the bytes taken, and the buffer has room. -/
structure Account (c : Connection M) : Prop where
  link : c.link.Sound
  received_eq : (service.messages c.taken).1 = c.link.received
  held_lt : c.readBuff.held.length < c.readBuff.capacity
  capacity_eq : c.readBuff.capacity = service.bufferSize

/-- And while it is open, the parser and the buffer have what is left over. -/
structure Sound (c : Connection M) : Prop extends Account service c where
  owed_eq : c.link.channelOpen = true →
    (service.messages c.taken).2 = some (MessageBytes.owed c.messageBytes ++ c.readBuff.held)
  gathers : c.link.channelOpen = true → service.parser.Gathers c.messageBytes

variable {service} {c : Connection M}

theorem Account.closeConnection (h : Account service c) :
    wp (onLink Link.closeConnection) c
      (fun _ d => Sound service d ∧ d.link.channelOpen = false ∧ d.taken = c.taken ∧
        d.incoming = c.incoming)
      (fun _ _ => False) := by
  rw [onLink, wp_onPart]
  refine h.link.closeConnection.mono (fun _ l hl => ?_) (fun _ _ hf => hf)
  refine ⟨⟨⟨hl.1.sound, ?_, h.held_lt, h.capacity_eq⟩, fun hopen => ?_, fun hopen => ?_⟩, hl.2, rfl, rfl⟩
  · exact h.received_eq.trans hl.1.received_eq.symm
  · rw [hl.2] at hopen
    cases hopen
  · rw [hl.2] at hopen
    cases hopen

/-- A method of the handler that receives nothing. -/
theorem Sound.continues (h : Sound service c) {l : Link M} (hl : c.link.Continues l) :
    Sound service { c with link := l } :=
  ⟨⟨hl.sound, h.received_eq.trans hl.received_eq.symm, h.held_lt, h.capacity_eq⟩,
    fun hopen => h.owed_eq (hl.open_of_open hopen), fun hopen => h.gathers (hl.open_of_open hopen)⟩

theorem Sound.receive (h : Sound service c) (hopen : c.link.channelOpen = true) {bytes : List UInt8}
    (hroom : bytes.length ≤ c.readBuff.room) :
    wp (receive service bytes) c
      (fun _ d => Sound service d ∧ d.taken = c.taken ++ bytes ∧
        d.incoming = c.incoming.drop bytes.length)
      (fun _ d => Account service d ∧ d.taken = c.taken ++ bytes ∧
        d.incoming = c.incoming.drop bytes.length) := by
  have hpending : (c.readBuff.flip bytes).pending = c.readBuff.held ++ bytes := by
    show c.readBuff.held ++ bytes.take c.readBuff.room = _
    rw [List.take_of_length_le hroom]
  have howed : (⟨c.messageBytes, c.readBuff.flip bytes, c.link⟩ : Receiving (Link M)).owed =
      MessageBytes.owed c.messageBytes ++ c.readBuff.held ++ bytes := by
    rw [Receiving.owed, hpending, List.append_assoc]
  -- the plain reading of the bytes before and of the new ones
  have hmessages : service.messages (c.taken ++ bytes) =
      service.parser.framing.feed service.deliver c.link.received
        (MessageBytes.owed c.messageBytes ++ c.readBuff.held ++ bytes) :=
    Framing.feed_append_of_some (Prod.ext h.received_eq (h.owed_eq hopen)) bytes
  have hfeed := service.feed_spec h.link
    (MessageBytes.owed c.messageBytes ++ c.readBuff.held ++ bytes)
  have hcall : wp (service.parser.receiveBytes ((c.readBuff.flip bytes).remaining + 2))
      ⟨c.messageBytes, c.readBuff.flip bytes, c.link⟩ _ _ :=
    ProtobufParser.receiveBytes_spec (by simp) (h.gathers hopen)
  rw [howed] at hcall
  rw [Connection.receive, wp_bind, wp_get, wp_bind, wp_set]
  unfold wp at hcall
  split at hcall
  · next n t hrun =>
    rw [hrun]
    obtain ⟨hsound, hplain⟩ := hfeed
    rw [hcall.feed_eq] at hsound hplain
    simp only
    rw [wp_bind, wp_modify, wp_bind, wp_checkState]
    have hposition : t.buff.position = n := by
      rw [hcall.position_eq]
      exact Nat.zero_add n
    have hcapacity : t.buff.capacity = service.bufferSize := hcall.capacity_eq.trans h.capacity_eq
    refine ⟨fun _ => ?_, fun hbad => absurd hposition (of_decide_eq_false hbad)⟩
    refine ⟨⟨⟨hsound, ?_, ?_, hcapacity⟩, fun _ => ?_, fun _ => hcall.gathers⟩, rfl, rfl⟩
    · show (service.messages (c.taken ++ bytes)).1 = t.listener.received
      rw [hmessages, ← hplain]
    · show t.buff.remaining < t.buff.capacity
      have hlt := hcall.remaining_lt
      have hfour := service.four_le_bufferSize
      have hsame : (c.readBuff.flip bytes).capacity = t.buff.capacity := hcall.capacity_eq.symm
      rw [hsame] at hlt
      omega
    · show (service.messages (c.taken ++ bytes)).2 = some t.owed
      rw [hmessages, ← hplain]
  · next e t hrun =>
    rw [hrun]
    obtain ⟨hsound, hplain⟩ := hfeed
    rw [show service.parser.feed c.link _ = (t.listener, none) from hcall] at hsound hplain
    refine ⟨⟨hsound, ?_, h.held_lt, h.capacity_eq⟩, rfl, rfl⟩
    show (service.messages (c.taken ++ bytes)).1 = t.listener.received
    rw [hmessages, ← hplain]

theorem Sound.handleWritable (h : Sound service c) (key : SelectedKey) :
    wp (handleWritable key) c
      (fun _ d => Sound service d ∧ d.taken = c.taken ∧ d.incoming = c.incoming)
      (fun _ d => Account service d ∧ d.taken = c.taken ∧ d.incoming = c.incoming) := by
  unfold Connection.handleWritable
  split
  · next accepts _ =>
    rw [onLink, wp_onPart]
    exact (h.link.tryWriteBytes accepts).mono (fun _ l hl => ⟨h.continues hl, rfl, rfl⟩)
      (fun _ l hl => ⟨(h.continues hl).toAccount, rfl, rfl⟩)
  · exact ⟨h, rfl, rfl⟩

/-- The bytes a selected key makes a connection take. -/
def fetched (c : Connection M) (key : SelectedKey) : List UInt8 :=
  match key.readable with
  | some (.bytes atMost) =>
      if c.link.channelOpen then c.incoming.take (min atMost c.readBuff.room) else []
  | _ => []

theorem fetched_append_drop (c : Connection M) (key : SelectedKey) :
    c.fetched key ++ c.incoming.drop (c.fetched key).length = c.incoming := by
  have hfront : c.fetched key <+: c.incoming := by
    unfold fetched
    split
    · split
      · exact List.take_prefix _ _
      · exact List.nil_prefix
    · exact List.nil_prefix
  exact (List.prefix_append_drop hfront).symm

/-- A connection that has read `bytes` more than `c`. -/
def Reads (c : Connection M) (bytes : List UInt8) (d : Connection M) : Prop :=
  d.taken = c.taken ++ bytes ∧ d.incoming = c.incoming.drop bytes.length

theorem reads_nil {d : Connection M} (htaken : d.taken = c.taken) (hincoming : d.incoming = c.incoming) :
    c.Reads [] d :=
  ⟨by rw [htaken, List.append_nil], hincoming⟩

/-- Selecting a key never throws: whatever goes wrong closes the connection. -/
theorem Sound.handleKey (h : Sound service c) (key : SelectedKey) :
    wp (handleKey service key) c
      (fun _ d => Sound service d ∧ c.Reads (c.fetched key) d) (fun _ _ => False) := by
  have hclose {d : Connection M} {bytes : List UInt8} (hd : Account service d) (hread : c.Reads bytes d) :
      wp (onLink Link.closeConnection) d (fun _ e => Sound service e ∧ c.Reads bytes e)
        (fun _ _ => False) :=
    hd.closeConnection.mono
      (fun _ e he => ⟨he.1, he.2.2.1.trans hread.1, he.2.2.2.trans hread.2⟩) (fun _ _ hf => hf)
  rw [Connection.handleKey, wp_tryCatch]
  refine wp.mono (Q := fun _ d => Sound service d ∧ c.Reads (c.fetched key) d)
    (E := fun _ d => Account service d ∧ c.Reads (c.fetched key) d) ?_ (fun _ _ hd => hd)
    (fun _ d hd => hclose hd.1 hd.2)
  have hnothing (hnil : c.fetched key = []) : c.Reads (c.fetched key) c :=
    hnil ▸ reads_nil rfl rfl
  rw [wp_bind, wp_get, wp_ite]
  refine ⟨fun hopen => ?_, fun hclosed => ?_⟩
  · split
    · next atMost hreadable =>
      have hfetched : c.fetched key = c.incoming.take (min atMost c.readBuff.room) := by
        rw [fetched, hreadable]
        exact if_pos hopen
      rw [← hfetched, wp_ite]
      refine ⟨fun hnil => ⟨h, hnothing hnil⟩, fun _ => ?_⟩
      have hroom : (c.fetched key).length ≤ c.readBuff.room := by
        rw [hfetched, List.length_take]
        omega
      rw [wp_bind]
      refine (h.receive hopen hroom).mono (fun _ d hd => ?_) (fun _ d hd => hd)
      refine (hd.1.handleWritable key).mono (fun _ e he => ⟨he.1, ?_⟩) (fun _ e he => ⟨he.1, ?_⟩)
      · exact ⟨he.2.1.trans hd.2.1, he.2.2.trans hd.2.2⟩
      · exact ⟨he.2.1.trans hd.2.1, he.2.2.trans hd.2.2⟩
    · next hreadable =>
      have hnil : c.fetched key = [] := by rw [fetched, hreadable]
      exact (hclose h.toAccount (hnothing hnil)).mono (fun _ _ hd => hd) (fun _ _ hf => hf.elim)
    · next hreadable =>
      have hnil : c.fetched key = [] := by rw [fetched, hreadable]
      exact ⟨h.toAccount, hnothing hnil⟩
    · next hreadable =>
      have hnil : c.fetched key = [] := by rw [fetched, hreadable]
      rw [hnil]
      exact (h.handleWritable key).mono (fun _ d hd => ⟨hd.1, reads_nil hd.2.1 hd.2.2⟩)
        (fun _ d hd => ⟨hd.1, reads_nil hd.2.1 hd.2.2⟩)
  · have hnil : c.fetched key = [] := by
      unfold fetched
      split
      · exact if_neg hclosed
      · rfl
    exact (hclose h.toAccount (hnothing hnil)).mono (fun _ _ hd => hd) (fun _ _ hf => hf.elim)

/-- The bytes the other side sends. -/
def Event.sentBytes : Event → List UInt8
  | .sent bytes => bytes
  | _ => []

/-- The bytes an event makes a connection take. -/
def Event.takes (c : Connection M) : Event → List UInt8
  | .selected key => c.fetched key
  | _ => []

theorem Sound.next (h : Sound service c) (e : Event) :
    Sound service (c.next service e) ∧ (c.next service e).taken = c.taken ++ e.takes c ∧
      (c.next service e).incoming = c.incoming.drop (e.takes c).length ++ e.sentBytes := by
  have hlink {α : Type} {m : EStateM JavaException (Link M) α}
      (hm : wp m c.link (fun _ l => c.link.Continues l) (fun _ l => c.link.Continues l)) :
      wp (onLink m) c
        (fun _ d => Sound service d ∧ d.taken = c.taken ++ [] ∧ d.incoming = c.incoming ++ [])
        (fun _ d => Sound service d ∧ d.taken = c.taken ++ [] ∧ d.incoming = c.incoming ++ []) := by
    rw [onLink, wp_onPart, List.append_nil, List.append_nil]
    exact hm.mono (fun _ l hl => ⟨h.continues hl, rfl, rfl⟩) (fun _ l hl => ⟨h.continues hl, rfl, rfl⟩)
  refine (wp_iff_finalState (P := fun d => Sound service d ∧ d.taken = c.taken ++ e.takes c ∧
    d.incoming = c.incoming.drop (e.takes c).length ++ e.sentBytes)).mp ?_
  cases e with
  | sent bytes =>
    refine ⟨⟨⟨h.link, h.received_eq, h.held_lt, h.capacity_eq⟩, h.owed_eq, h.gathers⟩, ?_, rfl⟩
    exact (List.append_nil _).symm
  | selected key =>
    refine (h.handleKey key).mono (fun _ d hd => ⟨hd.1, hd.2.1, ?_⟩) (fun _ _ hf => hf.elim)
    rw [hd.2.2]
    exact (List.append_nil _).symm
  | write message =>
    exact hlink ((Service.perform_spec h.link (.write message)).mono (fun _ l hl => hl.1)
      (fun _ l hl => hl.1))
  | closeConnection =>
    exact hlink (h.link.closeConnection.mono (fun _ l hl => hl.1) (fun _ _ hf => hf.elim))

theorem sound_start (service : Service M) (inSet : Bool) : Sound service (start service inSet) := by
  have hempty : service.messages [] = ([], some []) := Framing.feed_nil
  have hfour := service.four_le_bufferSize
  have hlimit : (0 : Int) ≤ Link.outboundBufferByteCount := by decide
  refine ⟨⟨⟨rfl, rfl, hlimit, rfl, ?_, rfl⟩, by rw [start, hempty], ?_, rfl⟩, fun _ => by
    rw [start, hempty]; rfl, fun _ => ProtobufParser.gathers_none⟩
  · intro b hb
    cases inSet with
    | false => cases hb
    | true => exact (Option.some.inj hb).symm
  · exact Nat.lt_of_lt_of_le (Nat.zero_lt_succ 3) hfour

/-- The connection after some events. -/
def run (service : Service M) (inSet : Bool) (events : List Event) : Connection M :=
  events.foldl (Connection.next service) (start service inSet)

theorem run_append (inSet : Bool) (before after : List Event) :
    run service inSet (before ++ after) =
      after.foldl (Connection.next service) (run service inSet before) :=
  List.foldl_append

theorem sound_foldl (h : Sound service c) (events : List Event) :
    Sound service (events.foldl (Connection.next service) c) := by
  induction events generalizing c with
  | nil => exact h
  | cons e events ih => exact ih (h.next e).1

/-- Bytes are taken in the order in which they were sent. -/
theorem taken_append_incoming (h : Sound service c) (events : List Event) :
    (events.foldl (Connection.next service) c).taken ++
        (events.foldl (Connection.next service) c).incoming =
      c.taken ++ c.incoming ++ events.flatMap Event.sentBytes := by
  induction events generalizing c with
  | nil => rw [List.flatMap_nil, List.append_nil]; rfl
  | cons e events ih =>
    obtain ⟨hsound, htaken, hincoming⟩ := h.next e
    have htakes : e.takes c ++ c.incoming.drop (e.takes c).length = c.incoming := by
      cases e with
      | selected key => exact fetched_append_drop c key
      | _ => rfl
    have hall : c.taken ++ e.takes c ++ (c.incoming.drop (e.takes c).length ++ e.sentBytes) =
        c.taken ++ c.incoming ++ e.sentBytes := by
      rw [List.append_assoc, ← List.append_assoc (e.takes c), htakes, ← List.append_assoc]
    rw [List.foldl_cons, ih hsound, htaken, hincoming, hall, List.flatMap_cons]
    simp only [List.append_assoc]

/-- However the bytes of the other side arrive, whatever is written and
whoever closes in between, the listener has received the messages of the
bytes taken so far, in order and up to the first that fails; and as long as
the connection is open the rest of these bytes is kept and the read buffer
has room for more. -/
theorem received_eq_messages (inSet : Bool) (events : List Event) :
    (run service inSet events).taken ++ (run service inSet events).incoming =
        events.flatMap Event.sentBytes ∧
      (run service inSet events).link.received =
        (service.messages (run service inSet events).taken).1 ∧
      ((run service inSet events).link.channelOpen = true →
        (service.messages (run service inSet events).taken).2 =
            some (MessageBytes.owed (run service inSet events).messageBytes ++
              (run service inSet events).readBuff.held) ∧
          0 < (run service inSet events).readBuff.room) := by
  have h := sound_foldl (sound_start service inSet) events
  refine ⟨taken_append_incoming (sound_start service inSet) events, h.received_eq.symm, fun hopen => ?_⟩
  exact ⟨h.owed_eq hopen, Nat.sub_pos_of_lt h.held_lt⟩

/-! ## Reading on -/

/-- A selected key from which at least one byte can be read. -/
def SelectedKey.Offers (key : SelectedKey) : Prop :=
  ∃ atMost, key.readable = some (.bytes atMost) ∧ 0 < atMost

/-- The buffer has room, so such a key makes progress. -/
theorem Sound.fetches (h : Sound service c) (hopen : c.link.channelOpen = true) {key : SelectedKey}
    (hkey : SelectedKey.Offers key) (hsent : c.incoming ≠ []) : 0 < (c.fetched key).length := by
  obtain ⟨atMost, hreadable, hpos⟩ := hkey
  have hroom : 0 < c.readBuff.room := Nat.sub_pos_of_lt h.held_lt
  have hlength := List.length_pos_of_ne_nil hsent
  rw [fetched, hreadable]
  simp only
  rw [if_pos hopen, List.length_take]
  omega

/-- Once closed, a connection reads and writes nothing more. -/
theorem Sound.next_of_closed (h : Sound service c) (hclosed : c.link.channelOpen = false) (e : Event) :
    (c.next service e).link.channelOpen = false ∧
      (c.next service e).link.written = c.link.written ∧ (c.next service e).taken = c.taken := by
  have hclose : wp (onLink Link.closeConnection) c
      (fun _ d => d.link.channelOpen = false ∧ d.link.written = c.link.written ∧ d.taken = c.taken)
      (fun _ _ => False) := by
    rw [onLink, wp_onPart]
    exact (h.link.closeConnection.and (Link.closeConnection_keeps_written c.link)).mono
      (fun _ l hl => ⟨hl.1.2, hl.2, rfl⟩) (fun _ _ hf => hf.1)
  refine (wp_iff_finalState (P := fun d : Connection M => d.link.channelOpen = false ∧
    d.link.written = c.link.written ∧ d.taken = c.taken)).mp ?_
  cases e with
  | sent bytes => exact ⟨hclosed, rfl, rfl⟩
  | selected key =>
    show wp (Connection.handleKey service key) c _ _
    rw [Connection.handleKey, wp_tryCatch, wp_bind, wp_get, if_neg (by rw [hclosed]; decide)]
    exact hclose.mono (fun _ _ hd => hd) (fun _ _ hf => hf.elim)
  | write message =>
    show wp (onLink (service.write message)) c _ _
    rw [onLink, wp_onPart]
    have hstays {l : Link M} (hl : c.link.Continues l) : l.channelOpen = false := by
      by_contra hopen
      rw [hl.open_of_open (by simpa using hopen)] at hclosed
      cases hclosed
    exact ((Service.perform_spec h.link (.write message)).and
        (Service.write_keeps_written message c.link)).mono
      (fun _ l hl => ⟨hstays hl.1.1, hl.2, rfl⟩) (fun _ l hl => ⟨hstays hl.1.1, hl.2, rfl⟩)
  | closeConnection => exact hclose.mono (fun _ _ hd => hd) (fun _ _ hf => hf.elim)

theorem foldl_of_closed (h : Sound service c) (hclosed : c.link.channelOpen = false)
    (events : List Event) :
    (events.foldl (Connection.next service) c).link.channelOpen = false ∧
      (events.foldl (Connection.next service) c).link.written = c.link.written ∧
      (events.foldl (Connection.next service) c).taken = c.taken := by
  induction events generalizing c with
  | nil => exact ⟨hclosed, rfl, rfl⟩
  | cons e events ih =>
    obtain ⟨hclosed', hwritten, htaken⟩ := h.next_of_closed hclosed e
    obtain ⟨h₁, h₂, h₃⟩ := ih (h.next e).1 hclosed'
    exact ⟨h₁, h₂.trans hwritten, h₃.trans htaken⟩

/-- Once the key has been selected as often as there are bytes, they are
all taken, unless the connection was closed. -/
theorem Sound.drains (h : Sound service c) {keys : List SelectedKey}
    (hkeys : ∀ key ∈ keys, SelectedKey.Offers key) (hlength : c.incoming.length ≤ keys.length) :
    ((keys.map Event.selected).foldl (Connection.next service) c).link.channelOpen = false ∨
      ((keys.map Event.selected).foldl (Connection.next service) c).incoming = [] := by
  induction keys generalizing c with
  | nil => exact .inr (List.length_eq_zero_iff.mp (Nat.le_zero.mp hlength))
  | cons key keys ih =>
    obtain ⟨hkey, hkeys'⟩ := List.forall_mem_cons.mp hkeys
    obtain ⟨hsound, -, hincoming⟩ := h.next (.selected key)
    rw [List.map_cons, List.foldl_cons]
    cases hopen : c.link.channelOpen with
    | false => exact .inl (foldl_of_closed hsound (h.next_of_closed hopen _).1 _).1
    | true =>
      refine ih hsound hkeys' ?_
      have hdrop : (c.next service (.selected key)).incoming = c.incoming.drop (c.fetched key).length :=
        hincoming.trans (List.append_nil _)
      rw [hdrop, List.length_drop]
      rw [List.length_cons] at hlength
      by_cases hempty : c.incoming = []
      · rw [hempty, List.length_nil]
        omega
      · have := h.fetches hopen hkey hempty
        omega

/-- Nothing that was sent is left behind: when the key has been selected
often enough, the listener has received every message of all the bytes
sent, unless the connection was closed before. -/
theorem all_received (inSet : Bool) (events : List Event) {keys : List SelectedKey}
    (hkeys : ∀ key ∈ keys, SelectedKey.Offers key)
    (hlength : (run service inSet events).incoming.length ≤ keys.length) :
    (run service inSet (events ++ keys.map .selected)).link.channelOpen = false ∨
      (run service inSet (events ++ keys.map .selected)).link.received =
        (service.messages (events.flatMap Event.sentBytes)).1 := by
  have hstart := sound_start service inSet
  have h : Sound service (run service inSet events) := sound_foldl hstart events
  have hsound := sound_foldl h (keys.map Event.selected)
  rw [run_append]
  refine (h.drains hkeys hlength).imp id (fun hempty => ?_)
  have htaken := taken_append_incoming h (keys.map Event.selected)
  have hsent : (keys.map Event.selected).flatMap Event.sentBytes = [] := by
    rw [List.flatMap_eq_nil_iff]
    intro e he
    obtain ⟨key, -, rfl⟩ := List.mem_map.mp he
    rfl
  have hbefore : (run service inSet events).taken ++ (run service inSet events).incoming =
      events.flatMap Event.sentBytes := taken_append_incoming hstart events
  rw [hempty, List.append_nil, hsent, List.append_nil, hbefore] at htaken
  rw [← hsound.received_eq, htaken]

/-- A service whose messages are plain bytes and whose listener only takes
them. -/
def listening : Service (List UInt8) where
  mergeFrom := .ok
  maxMessageSize := 32767
  maxMessageSize_le := by decide
  reaction _ _ := []

/-- Two messages that arrive byte by byte. -/
theorem all_received_bytewise :
    (run listening false ([.sent [0, 0, 0, 1, 7, 0, 0, 0, 2, 8, 9]] ++
      (List.replicate 11 (⟨some (.bytes 1), none⟩ : SelectedKey)).map .selected)).link.received =
        [[7], [8, 9]] := by
  have hmessages : (listening.messages
      ([Event.sent [0, 0, 0, 1, 7, 0, 0, 0, 2, 8, 9]].flatMap Event.sentBytes)).1 = [[7], [8, 9]] := by
    decide +kernel
  have hopen : (run listening false ([.sent [0, 0, 0, 1, 7, 0, 0, 0, 2, 8, 9]] ++
      (List.replicate 11 (⟨some (.bytes 1), none⟩ : SelectedKey)).map .selected)).link.channelOpen =
        true := by
    decide +kernel
  have hall := @all_received _ listening false [.sent [0, 0, 0, 1, 7, 0, 0, 0, 2, 8, 9]]
    (List.replicate 11 ⟨some (.bytes 1), none⟩)
    (fun _ hkey => List.eq_of_mem_replicate hkey ▸ ⟨1, rfl, Nat.one_pos⟩) (Nat.le_refl 11)
  rw [hmessages, hopen] at hall
  exact hall.resolve_left Bool.noConfusion

/-! ## Two handlers -/

/-- A stream that begins with the byte 8 has a length of more than 2 ^ 27
in front. -/
theorem messages_of_head_eight (hmax : service.maxMessageSize < 2 ^ 27) {bytes : List UInt8}
    (hhead : ∀ b, bytes.head? = some b → b = 8) : (service.messages bytes).1 = [] := by
  by_cases hshort : bytes.length < 4
  · rw [Service.messages, Framing.feed_incomplete (ProtobufParser.next_short hshort)]
  · obtain ⟨a, b, c, d, rest, rfl⟩ : ∃ a b c d rest, bytes = a :: b :: c :: d :: rest := by
      match bytes, hshort with
      | a :: b :: c :: d :: rest, _ => exact ⟨a, b, c, d, rest, rfl⟩
      | [], h | [_], h | [_, _], h | [_, _, _], h => exact absurd (by simp) h
    obtain rfl : a = 8 := hhead a rfl
    have hlength : service.parser.maxMessageSize < bigEndian ((8 :: b :: c :: d :: rest).take 4) := by
      show service.maxMessageSize < bigEndian [8, b, c, d]
      rw [bigEndian_four]
      show service.maxMessageSize < ((8 * 256 + b.toNat) * 256 + c.toNat) * 256 + d.toNat
      omega
    rw [Service.messages, Framing.feed_malformed
      (ProtobufParser.next_malformed (by simp) hlength)]

/-- `ProtobufParser.write` sends a message without its length, and a
serialized `TwoWayChannelMessage` begins with the byte 8, the tag of its
`type`. So a handler at the other end of such a connection never receives
anything, whatever is written and however it arrives. -/
theorem nothing_received_of_written (hmax : service.maxMessageSize < 2 ^ 27) (inSet : Bool)
    {peer : Service M} (events peerEvents : List Event)
    (hoffered : ∀ message ∈ (run peer inSet peerEvents).link.offered, message.head? = some 8)
    (hsent : events.flatMap Event.sentBytes <+: (run peer inSet peerEvents).link.written) :
    (run service inSet events).link.received = [] := by
  have hpeer := (sound_foldl (sound_start peer inSet) peerEvents).link
  have htaken : (run service inSet events).taken <+: (run peer inSet peerEvents).link.offered.flatten := by
    have hall : (run service inSet events).taken ++ (run service inSet events).incoming =
        events.flatMap Event.sentBytes := taken_append_incoming (sound_start service inSet) events
    have hwritten : (run peer inSet peerEvents).link.written <+:
        (run peer inSet peerEvents).link.offered.flatten := ⟨_, hpeer.written_append⟩
    exact ((List.prefix_append _ _).trans (hall ▸ hsent)).trans hwritten
  have hsound : Sound service (run service inSet events) := sound_foldl (sound_start service inSet) events
  rw [← hsound.received_eq]
  refine messages_of_head_eight hmax fun b hb => ?_
  -- the first byte taken is the first byte of the first message written
  obtain ⟨rest, hrest⟩ := htaken
  cases hfirst : (run peer inSet peerEvents).link.offered with
  | nil =>
    rw [hfirst, List.flatten_nil] at hrest
    rw [(List.append_eq_nil_iff.mp hrest).1] at hb
    cases hb
  | cons message more =>
    have hmessage := hoffered message (hfirst ▸ List.mem_cons_self ..)
    have hhead : (message ++ more.flatten).head? = some b := by
      rw [← List.flatten_cons, ← hfirst, ← hrest, List.head?_append, hb]
      rfl
    rw [List.head?_append, hmessage] at hhead
    exact (Option.some.inj hhead).symm

theorem nothing_received_of_version :
    (run listening false [.write [8, 1, 18, 0], .selected ⟨none, some [some 9]⟩]).link.written =
        [8, 1, 18, 0] ∧
      (run listening false [.sent [8, 1, 18, 0], .selected ⟨some (.bytes 9), none⟩]).link.received =
        [] :=
  have hwritten : (run listening false
      [.write [8, 1, 18, 0], .selected ⟨none, some [some 9]⟩]).link.written = [8, 1, 18, 0] := by
    decide +kernel
  ⟨hwritten, nothing_received_of_written (by decide) false _
    [.write [8, 1, 18, 0], .selected ⟨none, some [some 9]⟩] (by decide +kernel)
    (hwritten.symm ▸ List.prefix_refl [8, 1, 18, 0])⟩

/-! ## Writing, and the end -/

/-- The outbound queue: what the channel has taken and what waits in the
queue are the messages offered to it, in their order, and the account of
the bytes that wait is right and within its bound, whatever the channel
takes of them at a time. -/
theorem queue_along_run (inSet : Bool) (events : List Event) :
    (run service inSet events).link.written ++
          (run service inSet events).link.bytesToWrite.flatten =
        (run service inSet events).link.offered.flatten ∧
      (run service inSet events).link.bytesToWriteRemaining =
        (run service inSet events).link.bytesToWrite.flatten.length ∧
      (run service inSet events).link.bytesToWriteRemaining ≤ Link.outboundBufferByteCount := by
  have h := (sound_foldl (sound_start service inSet) events).link
  exact ⟨h.written_append, h.remaining_eq, h.remaining_le⟩

/-- The end of a connection: no selection of its key throws, the parser is
told once when it is closed and not before, and no later event receives or
writes anything. The listener's `connectionClosed` and `channel.close()` are
assumed not to throw. A listener that closes the connection on a message
still gets the other messages of the same read. -/
theorem closed_once (inSet : Bool) (before after : List Event) :
    (∀ key, wp (handleKey service key) (run service inSet before) (fun _ _ => True)
        (fun _ _ => False)) ∧
      (run service inSet before).link.connectionClosedCalls =
        (!(run service inSet before).link.channelOpen).toNat ∧
      ((run service inSet before).link.channelOpen = false →
        (run service inSet (before ++ after)).link.channelOpen = false ∧
        (run service inSet (before ++ after)).link.received =
          (run service inSet before).link.received ∧
        (run service inSet (before ++ after)).link.written =
          (run service inSet before).link.written) := by
  have h : Sound service (run service inSet before) :=
    sound_foldl (sound_start service inSet) before
  refine ⟨fun key => (h.handleKey key).mono (fun _ _ _ => trivial) (fun _ _ hf => hf), ?_,
    fun hclosed => ?_⟩
  · rw [h.link.calls_eq, h.link.open_eq, Bool.not_not]
  · rw [run_append]
    obtain ⟨hstays, hwritten, htaken⟩ := foldl_of_closed h hclosed after
    refine ⟨hstays, ?_, hwritten⟩
    rw [← (sound_foldl h after).received_eq, htaken, h.received_eq]

end Connection

end BitMesh.Transport
