import BitMesh.Transport.ConnectionHandler
import BitMesh.Transport.Fragments

/-!
# Micropayment websockets

`MicropaymentWebsocket` gives each message of a websocket to a
`ProtobufParser`, in a buffer of its own with the length put in front. So
the parser is never left within a message, and every message that is short
enough and parses reaches the listener once, in order.
-/

namespace BitMesh.Transport

open Lib

/-- The listener of a websocket's parser: the messages it has received and
what it does on the last one. -/
structure Handled (M : Type) where
  received : List M := []
  replies : List Reply := []

/-- The parser of a websocket between two calls. -/
structure Parsing (M : Type) where
  messageBytes : Option MessageBytes := none
  handled : Handled M := {}

namespace MicropaymentWebsocket

variable {M : Type} (service : Service M)

/-- What an action is on a websocket: `ProtobufParser.write` refuses a
message that is too long. -/
def reply : Action → Reply
  | .write message => if message.length ≤ service.maxMessageSize then .write message else .fail
  | .closeConnection => .closeConnection
  | .fail _ => .fail

def parser : ProtobufParser (Handled M) M where
  messageReceived msg :=
    modify fun h => ⟨h.received ++ [msg], (service.reaction h.received msg).map (reply service)⟩
  mergeFrom := service.mergeFrom
  maxMessageSize := service.maxMessageSize
  maxMessageSize_le := service.maxMessageSize_le

/-- The buffer that `onMessage` makes. -/
def buffer (messageBytes : List UInt8) : ByteBuffer where
  consumed := []
  pending := uint32ToByteArrayBE messageBytes.length ++ messageBytes
  capacity := messageBytes.length + 4
  limit_le := by
    rw [List.length_append, length_uint32ToByteArrayBE, List.length_nil]
    omega

/-- `parser.receiveBytes(buffer)`. -/
def receiveBytes (buff : ByteBuffer) : EStateM JavaException (Parsing M) Unit := do
  let s ← get
  match ((parser service).receiveBytes (buff.remaining + 2)).run ⟨s.messageBytes, buff, s.handled⟩ with
  | .ok _ t => set (⟨t.messageBytes, t.listener⟩ : Parsing M)
  | .error e t => do
      set (⟨t.messageBytes, t.listener⟩ : Parsing M)
      throw e

def onMessage (messageBytes : List UInt8) : EStateM JavaException (Parsing M) Unit :=
  tryCatch (do
      checkState (messageBytes.length ≤ service.maxMessageSize)
      let _ ← orThrow (service.mergeFrom messageBytes)
      receiveBytes service (buffer messageBytes))
    fun _ => throw ⟨.runtime, none⟩

/-- The parser after a callback. -/
def afterCall (s : Parsing M) : Callback → Parsing M
  | .onMessage messageFrame => finalState (onMessage service messageFrame.payload) s
  | _ => s

/-- The parser after some callbacks. -/
def parsing (calls : List Callback) : Parsing M := calls.foldl (afterCall service) {}

/-- What the websocket does in a callback. -/
def reaction (history : List Callback) : Callback → List Reply
  | .onMessage messageFrame =>
      match (onMessage service messageFrame.payload).run (parsing service history) with
      | .ok _ t => t.handled.replies
      | .error _ _ => [.fail]
  | _ => []

variable {service}

/-- The message that the listener gets from `messageBytes`. -/
def accepted? (service : Service M) (messageBytes : List UInt8) : Option M :=
  if messageBytes.length ≤ service.maxMessageSize then (service.mergeFrom messageBytes).toOption
  else none

theorem accepted_eq_some {messageBytes : List UInt8} {msg : M}
    (h : accepted? service messageBytes = some msg) :
    messageBytes.length ≤ service.maxMessageSize ∧ service.mergeFrom messageBytes = .ok msg := by
  unfold accepted? at h
  split at h
  · next hlen =>
    cases hmsg : service.mergeFrom messageBytes with
    | error e =>
      rw [hmsg] at h
      cases h
    | ok msg' =>
      rw [hmsg] at h
      exact ⟨hlen, congrArg Except.ok (Option.some.inj h)⟩
  · cases h

/-- A parser between two messages takes the whole buffer as one message. -/
theorem receiveBytes_message {s : Parsing M} {messageBytes : List UInt8} {msg : M}
    (hs : s.messageBytes = none) (hlen : messageBytes.length ≤ service.maxMessageSize)
    (hmsg : service.mergeFrom messageBytes = .ok msg) :
    wp (receiveBytes service (buffer messageBytes)) s
      (fun _ t => t = ⟨none, s.handled.received ++ [msg],
        (service.reaction s.handled.received msg).map (reply service)⟩)
      (fun _ _ => False) := by
  have hfeed := @ProtobufParser.feed_message _ _ (parser service) messageBytes msg s.handled _ hlen hmsg
    rfl []
  rw [List.append_nil] at hfeed
  have hcall := @ProtobufParser.receiveBytes_between _ _ (parser service)
    ((buffer messageBytes).remaining + 2) ⟨s.messageBytes, buffer messageBytes, s.handled⟩ hs
    (Nat.lt_add_of_pos_right Nat.two_pos)
  have howed : Receiving.owed ⟨s.messageBytes, buffer messageBytes, s.handled⟩ =
      uint32ToByteArrayBE messageBytes.length ++ messageBytes := by
    rw [Receiving.owed, hs]
    rfl
  rw [howed] at hcall
  rw [receiveBytes, wp_bind, wp_get]
  unfold wp at hcall
  split at hcall
  · next n t hrun =>
    simp only [hrun]
    have heq := hfeed.symm.trans hcall.feed_eq
    rw [ProtobufParser.feed, Framing.feed_nil, Prod.mk.injEq, Option.some.injEq] at heq
    -- nothing is owed, so no message was begun
    have hnone : t.messageBytes = none := by
      cases hbytes : t.messageBytes with
      | none => rfl
      | some m =>
        have howed := heq.2
        rw [Receiving.owed, hbytes] at howed
        cases howed
    rw [wp_set, hnone, ← heq.1]
  · next e t hrun =>
    have heq := hfeed.symm.trans hcall
    rw [ProtobufParser.feed, Framing.feed_nil, Prod.mk.injEq] at heq
    cases heq.2

theorem onMessage_accepted {s : Parsing M} {messageBytes : List UInt8} {msg : M}
    (hs : s.messageBytes = none) (hmsg : accepted? service messageBytes = some msg) :
    wp (onMessage service messageBytes) s
      (fun _ t => t = ⟨none, s.handled.received ++ [msg],
        (service.reaction s.handled.received msg).map (reply service)⟩)
      (fun _ _ => False) := by
  obtain ⟨hlen, hmerge⟩ := accepted_eq_some hmsg
  rw [onMessage, wp_tryCatch, wp_bind, wp_checkState]
  refine ⟨fun _ => ?_, fun hlong => absurd hlen (of_decide_eq_false hlong)⟩
  rw [wp_bind, wp_orThrow_ok hmerge]
  exact (receiveBytes_message hs hlen hmerge).mono (fun _ _ ht => ht) (fun _ _ hf => hf.elim)

theorem onMessage_refused {s : Parsing M} {messageBytes : List UInt8}
    (hnone : accepted? service messageBytes = none) :
    wp (onMessage service messageBytes) s (fun _ _ => False) (fun _ t => t = s) := by
  unfold accepted? at hnone
  rw [onMessage, wp_tryCatch, wp_bind, wp_checkState]
  refine ⟨fun hlen => ?_, fun _ => rfl⟩
  rw [if_pos (of_decide_eq_true hlen)] at hnone
  cases hmsg : service.mergeFrom messageBytes with
  | error e => rfl
  | ok msg =>
    rw [hmsg] at hnone
    cases hnone

theorem received_afterCall {s : Parsing M} (hs : s.messageBytes = none) (c : Callback) :
    (afterCall service s c).messageBytes = none ∧
      (afterCall service s c).handled.received =
        s.handled.received ++ (c.message?.bind fun m => accepted? service m.2).toList := by
  cases c with
  | onMessage messageFrame =>
    have hbind : ((Callback.onMessage messageFrame).message?.bind fun m => accepted? service m.2) =
        accepted? service messageFrame.payload := rfl
    rw [hbind, afterCall]
    cases hmsg : accepted? service messageFrame.payload with
    | none =>
      have hstate : finalState (onMessage service messageFrame.payload) s = s :=
        (wp_iff_finalState (P := fun t => t = s)).mp
          ((onMessage_refused hmsg).mono (fun _ _ hf => hf.elim) (fun _ _ ht => ht))
      rw [hstate]
      exact ⟨hs, (List.append_nil _).symm⟩
    | some msg =>
      have hstate : finalState (onMessage service messageFrame.payload) s =
          ⟨none, s.handled.received ++ [msg],
            (service.reaction s.handled.received msg).map (reply service)⟩ :=
        (wp_iff_finalState (P := fun t => t = _)).mp
          ((onMessage_accepted hs hmsg).mono (fun _ _ ht => ht) (fun _ _ hf => hf.elim))
      rw [hstate]
      exact ⟨rfl, rfl⟩
  | onPong _ => exact ⟨hs, (List.append_nil _).symm⟩
  | onClose _ _ _ => exact ⟨hs, (List.append_nil _).symm⟩
  | onException _ => exact ⟨hs, (List.append_nil _).symm⟩

/-- Over any callbacks, the parser is between two messages, and what the
listener has received are the messages that it accepts. -/
theorem received_parsing (calls : List Callback) :
    (parsing service calls).messageBytes = none ∧
      (parsing service calls).handled.received =
        (calls.filterMap Callback.message?).filterMap fun m => accepted? service m.2 := by
  induction calls using List.reverseRecOn with
  | nil => exact ⟨rfl, rfl⟩
  | append_singleton calls c ih =>
    obtain ⟨hnone, hreceived⟩ := @received_afterCall M service _ ih.1 c
    have hlast : parsing service (calls ++ [c]) = afterCall service (parsing service calls) c :=
      List.foldl_append
    rw [hlast, hreceived, ih.2, List.filterMap_append, List.filterMap_append]
    refine ⟨hnone, congrArg _ ?_⟩
    cases hm : c.message? with
    | none => simp [hm]
    | some m => cases hmsg : accepted? service m.2 <;> simp [hm, hmsg]

/-- A listener that, on any message, only writes, and never too much at
once. -/
def OnlyWrites (service : Service M) : Prop :=
  ∀ received msg, ∀ action ∈ service.reaction received msg,
    ∃ message, action = .write message ∧ message.length ≤ service.maxMessageSize

/-- The surroundings of a websocket with this listener. -/
def surroundings (service : Service M) (coding : List UInt8 → Option String)
    (text2Binary : String → List UInt8) (codingReason : String) (writes : Nat → Bool) : Surroundings :=
  ⟨coding, text2Binary, codingReason, writes, reaction service⟩

theorem calm_surroundings (h : OnlyWrites service) (coding : List UInt8 → Option String)
    (text2Binary : String → List UInt8) (codingReason : String) {writes : Nat → Bool}
    (hwrites : ∀ n, writes n = true) :
    (surroundings service coding text2Binary codingReason writes).Calm
      fun m => (accepted? service m.2).isSome := by
  refine ⟨hwrites, fun history c hc r hr => ?_⟩
  cases c with
  | onMessage messageFrame =>
    obtain ⟨msg, hmsg⟩ : ∃ msg, accepted? service messageFrame.payload = some msg :=
      Option.isSome_iff_exists.mp (hc _ rfl)
    have hbetween : (parsing service history).messageBytes = none := (received_parsing history).1
    obtain ⟨_, t, hrun, rfl⟩ := (onMessage_accepted hbetween hmsg).exists_run_eq_ok
    have hreplies : reaction service history (.onMessage messageFrame) =
        (service.reaction (parsing service history).handled.received msg).map (reply service) := by
      simp only [reaction, hrun]
    change r ∈ reaction service history (.onMessage messageFrame) at hr
    rw [hreplies] at hr
    obtain ⟨action, haction, rfl⟩ := List.mem_map.mp hr
    obtain ⟨message, rfl, hlen⟩ := h _ _ action haction
    exact ⟨message, .inr (if_pos hlen)⟩
  | onPong _ => cases hr
  | onClose _ _ _ => cases hr
  | onException _ => cases hr

/-- From the bytes of a websocket without a close frame to the listener:
where every write succeeds, the listener only writes, and it accepts what is
delivered of each message of the other side, it receives that of them, each
once and in the order sent, and the parser ends between two messages. Of a
message in one frame all is delivered, and of one in several all but the
last fragment. -/
theorem received_of_stream (service : Service M) (honlyWrites : OnlyWrites service)
    (coding : List UInt8 → Option String) (text2Binary : String → List UInt8) (codingReason : String)
    {writes : Nat → Bool} (hwrites : ∀ n, writes n = true) (stream : InputStream)
    (frames : List WebSocketFrame) (sent : List Message) (msgs : List M)
    (hmsgs : sent.map (fun m => accepted? service m.delivered) = msgs.map some)
    (hbytes : stream.bytes = frames.flatMap (·.write))
    (hframes : ∀ frame ∈ frames, frame.WellFormed coding)
    (hclose : ∀ frame ∈ frames, frame.opCode ≠ .close)
    (hsent : (frames.filter fun frame => !frame.opCode.isControlFrame).map (·.part) =
      sent.flatMap Message.fragments) :
    let s := Session.readWebsocket
      (surroundings service coding text2Binary codingReason writes) stream
    (parsing service s.socket.calls).handled.received = msgs ∧
      (parsing service s.socket.calls).messageBytes = none := by
  intro s
  have haccepted (m : Message) (hm : m ∈ sent) : (accepted? service m.delivered).isSome := by
    have hmem : accepted? service m.delivered ∈ msgs.map some :=
      hmsgs ▸ List.mem_map_of_mem (f := fun m => accepted? service m.delivered) hm
    obtain ⟨msg, -, hmsg⟩ := List.mem_map.mp hmem
    rw [← hmsg]
    rfl
  have hlength (m : Message) (hm : m ∈ sent) : m.delivered.length ≤ 2 ^ 31 - 1 := by
    obtain ⟨msg, hmsg⟩ := Option.isSome_iff_exists.mp (haccepted m hm)
    have hlen := (accepted_eq_some hmsg).1
    have hmax := service.maxMessageSize_le
    omega
  have hassembles := WebSocket.assembles_of_filter hclose (WebSocket.assembles_messages hsent hlength)
  have hcalm := calm_surroundings honlyWrites coding text2Binary codingReason hwrites
  obtain ⟨hmessages, -⟩ := Session.readWebsocket_frames hcalm hassembles (by
    intro _ hmessage
    obtain ⟨m, hm, rfl⟩ := List.mem_map.mp hmessage
    exact haccepted m hm) hbytes hframes
  obtain ⟨hnone, hreceived⟩ := @received_parsing M service s.socket.calls
  refine ⟨?_, hnone⟩
  have hcalls : s.socket.calls.filterMap Callback.message? =
      sent.map fun m => (m.opCode, m.delivered) := hmessages
  rw [hreceived, hcalls, List.filterMap_map]
  have hmap := congrArg (List.filterMap id) hmsgs
  rw [List.filterMap_map, List.filterMap_map, Function.id_comp, Function.id_comp,
    List.filterMap_some] at hmap
  exact hmap

/-- Two messages of a browser, in a frame each, with a pong between them. -/
theorem received_of_stream_two :
    let frames : List WebSocketFrame :=
      [⟨.binary, true, some ⟨[1, 2, 3, 4], rfl⟩, [7], none⟩, ⟨.pong, true, none, [], none⟩,
        ⟨.binary, true, some ⟨[5, 6, 7, 8], rfl⟩, [8, 9], none⟩]
    let s := Session.readWebsocket
      (surroundings Connection.listening (fun _ => none) (fun _ => []) "" fun _ => true)
      (.bytewise (frames.flatMap (·.write)))
    (parsing Connection.listening s.socket.calls).handled.received = [[7], [8, 9]] ∧
      (parsing Connection.listening s.socket.calls).messageBytes = none := by
  refine received_of_stream Connection.listening (fun _ _ _ h => absurd h List.not_mem_nil) _ _ _
    (fun _ => rfl) (.bytewise _) _ [⟨.binary, .inr rfl, [7], []⟩, ⟨.binary, .inr rfl, [8, 9], []⟩] _ rfl
    rfl ?_ (by decide) (by decide)
  intro frame hframe
  simp only [List.mem_cons, List.not_mem_nil, or_false] at hframe
  rcases hframe with rfl | rfl | rfl
  all_goals exact WebSocketFrame.wellFormed_of_short _ (by decide) (by decide) (by decide) (by decide) rfl

end MicropaymentWebsocket

end BitMesh.Transport
