import BitMesh.Transport.WebSocket

/-!
# Messages in fragments

What a connection delivers of the messages that the other side cuts into
fragments, with pings and pongs in between. `handleFrameFragment` joins the
fragments it has kept, and it does not keep the last one.
-/

namespace BitMesh.Transport

open Lib

/-- The message a callback delivers. -/
def Callback.message? : Callback → Option (OpCode × List UInt8)
  | onMessage frame => some (frame.opCode, frame.payload)
  | _ => none

/-- A reply that only sends. -/
def Reply.Sends (reply : Reply) : Prop := ∃ payload, reply = .send payload ∨ reply = .write payload

/-- Surroundings in which every write succeeds and the application, given
a message that it accepts, only sends. -/
def Surroundings.Calm (env : Surroundings) (accepts : OpCode × List UInt8 → Prop) : Prop :=
  (∀ n, env.writes n = true) ∧
    ∀ history c, (∀ m, c.message? = some m → accepts m) → ∀ reply ∈ env.reaction history c, reply.Sends

namespace WebSocket

variable {env : Surroundings} {s : WebSocket}

/-- The payloads of the pongs that were sent. -/
def pongs (s : WebSocket) : List (List UInt8) :=
  (s.sent.filter fun frame => frame.opCode = .pong).map (·.payload)

/-- The messages that were delivered. -/
def messages (s : WebSocket) : List (OpCode × List UInt8) := s.calls.filterMap Callback.message?

/-- A connection in use, with the fragments `inside` of a message that is
not complete. -/
structure InUse (s : WebSocket) (inside : Option (OpCode × List WebSocketFrame)) : Prop where
  state_eq : s.state = .opened
  in_eq : s.inOpen = true
  out_eq : s.outOpen = true
  opCode_eq : s.continuousOpCode = inside.map Prod.fst
  frames_eq : s.continuousFrames = (inside.map Prod.snd).getD []

/-- `t` comes after `s`, has delivered `messages` more and answered `pings`. -/
structure After (s : WebSocket) (inside : Option (OpCode × List WebSocketFrame))
    (messages : List (OpCode × List UInt8)) (pings : List (List UInt8)) (t : WebSocket) : Prop where
  inUse : t.InUse inside
  messages_eq : t.messages = s.messages ++ messages
  pongs_eq : t.pongs = s.pongs ++ pings

/-- What the frames after the fragments `inside` bring: the messages, as
the connection delivers them, and the pings. -/
inductive Assembles : Option (OpCode × List WebSocketFrame) → List WebSocketFrame →
    List (OpCode × List UInt8) → List (List UInt8) → Prop where
  | done {inside} : Assembles inside [] [] []
  | ping {inside frame rest messages pings} : frame.opCode = .ping →
      Assembles inside rest messages pings →
      Assembles inside (frame :: rest) messages (frame.payload :: pings)
  | pong {inside frame rest messages pings} : frame.opCode = .pong →
      Assembles inside rest messages pings → Assembles inside (frame :: rest) messages pings
  | whole {frame rest messages pings} : frame.opCode = .text ∨ frame.opCode = .binary →
      frame.fin = true → Assembles none rest messages pings →
      Assembles none (frame :: rest) ((frame.opCode, frame.payload) :: messages) pings
  | first {frame rest messages pings} : frame.opCode = .text ∨ frame.opCode = .binary →
      frame.fin = false → Assembles (some (frame.opCode, [frame])) rest messages pings →
      Assembles none (frame :: rest) messages pings
  | intermediate {opCode fragments frame rest messages pings} : frame.opCode = .continuation →
      frame.fin = false → Assembles (some (opCode, fragments ++ [frame])) rest messages pings →
      Assembles (some (opCode, fragments)) (frame :: rest) messages pings
  | last {opCode fragments frame rest messages pings} : frame.opCode = .continuation →
      frame.fin = true → (fragments.flatMap (·.payload)).length ≤ 2 ^ 31 - 1 →
      Assembles none rest messages pings →
      Assembles (some (opCode, fragments)) (frame :: rest)
        ((opCode, fragments.flatMap (·.payload)) :: messages) pings

variable {inside : Option (OpCode × List WebSocketFrame)} {accepts : OpCode × List UInt8 → Prop}

theorem InUse.sendFrame (h : s.InUse inside) (hcalm : env.Calm accepts) (frame : WebSocketFrame) :
    wp (sendFrame env frame) s
      (fun _ t => s.After inside [] (if frame.opCode = .pong then [frame.payload] else []) t)
      (fun _ _ => False) := by
  rw [WebSocket.sendFrame, wp_bind, wp_get, wp_ite]
  refine ⟨fun _ => ⟨⟨h.state_eq, h.in_eq, h.out_eq, h.opCode_eq, h.frames_eq⟩, ?_, ?_⟩, fun hfails => ?_⟩
  · exact (List.append_nil _).symm
  · unfold pongs
    rw [List.filter_append, List.map_append]
    by_cases hpong : frame.opCode = .pong <;> simp [hpong]
  · exact absurd ⟨h.out_eq, hcalm.1 _⟩ hfails

theorem InUse.after_refl (h : s.InUse inside) : s.After inside [] [] s :=
  ⟨h, (List.append_nil _).symm, (List.append_nil _).symm⟩

theorem After.trans {inside' inside'' : Option (OpCode × List WebSocketFrame)} {t u : WebSocket}
    {ms ms' : List (OpCode × List UInt8)} {ps ps' : List (List UInt8)} (h : s.After inside' ms ps t)
    (h' : t.After inside'' ms' ps' u) : s.After inside'' (ms ++ ms') (ps ++ ps') u :=
  ⟨h'.inUse, by rw [h'.messages_eq, h.messages_eq, List.append_assoc],
    by rw [h'.pongs_eq, h.pongs_eq, List.append_assoc]⟩

theorem InUse.replies (h : s.InUse inside) (hcalm : env.Calm accepts) {replies : List Reply}
    (hreplies : ∀ reply ∈ replies, reply.Sends) :
    wp (replies.forM (perform env)) s (fun _ t => s.After inside [] [] t) (fun _ _ => False) := by
  induction replies generalizing s with
  | nil => exact h.after_refl
  | cons reply replies ih =>
    obtain ⟨⟨payload, hsends⟩, hreplies'⟩ := List.forall_mem_cons.mp hreplies
    have hsend : wp (send env payload) s (fun _ t => s.After inside [] [] t) (fun _ _ => False) :=
      h.sendFrame hcalm _
    have hreply : wp (perform env reply) s (fun _ t => s.After inside [] [] t) (fun _ _ => False) := by
      rcases hsends with rfl | rfl
      · exact hsend
      · rw [perform, wp_tryCatch]
        exact hsend.mono (fun _ _ ht => ht) (fun _ _ hf => hf.elim)
    show wp (perform env reply >>= fun _ => replies.forM (perform env)) s _ _
    rw [wp_bind]
    refine hreply.mono (fun _ t ht => ?_) (fun _ _ hf => hf)
    exact (ih ht.inUse hreplies').mono (fun _ u hu => ht.trans hu) (fun _ _ hf => hf)

theorem InUse.callback (h : s.InUse inside) (hcalm : env.Calm accepts) {c : Callback}
    (hc : ∀ m, c.message? = some m → accepts m) :
    wp (callback env c) s (fun _ t => s.After inside c.message?.toList [] t) (fun _ _ => False) := by
  rw [WebSocket.callback, wp_bind, wp_get, wp_bind, wp_set]
  have hcall : s.After inside c.message?.toList [] { s with calls := s.calls ++ [c] } := by
    refine ⟨⟨h.state_eq, h.in_eq, h.out_eq, h.opCode_eq, h.frames_eq⟩, ?_, (List.append_nil _).symm⟩
    unfold messages
    rw [List.filterMap_append]
    cases hmessage : c.message? <;> simp [hmessage]
  refine (hcall.inUse.replies hcalm (hcalm.2 _ _ hc)).mono (fun _ t ht => ?_) (fun _ _ hf => hf)
  simpa using hcall.trans ht

/-- The fragments that the connection keeps. -/
theorem InUse.fragment (h : s.InUse inside) (opCode : OpCode) (fragments : List WebSocketFrame) :
    s.After (some (opCode, fragments)) [] []
      { s with continuousOpCode := some opCode, continuousFrames := fragments } :=
  ⟨⟨h.state_eq, h.in_eq, h.out_eq, rfl, rfl⟩, (List.append_nil _).symm, (List.append_nil _).symm⟩

section Handle

variable {frame : WebSocketFrame}

theorem InUse.handle_ping (h : s.InUse inside) (hcalm : env.Calm accepts) (hping : frame.opCode = .ping) :
    wp (handleWebsocketFrame env frame) s (fun _ t => s.After inside [] [frame.payload] t)
      (fun _ _ => False) := by
  rw [handleWebsocketFrame, if_neg (by rw [hping]; decide), if_pos hping]
  exact h.sendFrame hcalm _

theorem InUse.handle_pong (h : s.InUse inside) (hcalm : env.Calm accepts) (hpong : frame.opCode = .pong) :
    wp (handleWebsocketFrame env frame) s (fun _ t => s.After inside [] [] t) (fun _ _ => False) := by
  rw [handleWebsocketFrame, if_neg (by rw [hpong]; decide), if_neg (by rw [hpong]; decide),
    if_pos hpong]
  exact h.callback hcalm fun m hm => by cases hm

/-- A data frame goes past the tests for the control frames. -/
theorem handle_data (hdata : frame.opCode.isControlFrame = false) :
    handleWebsocketFrame env frame =
      if ¬ frame.fin ∨ frame.opCode = .continuation then handleFrameFragment env frame
      else handleMessage env frame := by
  unfold handleWebsocketFrame
  cases hop : frame.opCode <;> simp_all [OpCode.isControlFrame]

theorem InUse.handle_whole (h : s.InUse none) (hcalm : env.Calm accepts)
    (hdata : frame.opCode = .text ∨ frame.opCode = .binary) (hfin : frame.fin = true)
    (hm : accepts (frame.opCode, frame.payload)) :
    wp (handleWebsocketFrame env frame) s
      (fun _ t => s.After none [(frame.opCode, frame.payload)] [] t) (fun _ _ => False) := by
  rw [handle_data (by rcases hdata with h | h <;> rw [h] <;> rfl),
    if_neg (by rcases hdata with h | h <;> simp [h, hfin]), handleMessage, wp_bind, wp_get,
    if_neg (by rw [h.opCode_eq]; decide)]
  exact h.callback hcalm fun _ heq => Option.some.inj heq ▸ hm

theorem InUse.handle_first (h : s.InUse none)
    (hdata : frame.opCode = .text ∨ frame.opCode = .binary) (hfin : frame.fin = false) :
    wp (handleWebsocketFrame env frame) s
      (fun _ t => s.After (some (frame.opCode, [frame])) [] [] t) (fun _ _ => False) := by
  rw [handle_data (by rcases hdata with h | h <;> rw [h] <;> rfl), if_pos (by simp [hfin]),
    handleFrameFragment, wp_bind, wp_get,
    if_pos (by rcases hdata with h | h <;> rw [h] <;> decide), if_neg (by rw [h.opCode_eq]; decide)]
  exact h.fragment frame.opCode [frame]

variable {opCode : OpCode} {fragments : List WebSocketFrame}

theorem InUse.handle_intermediate (h : s.InUse (some (opCode, fragments)))
    (hcontinuation : frame.opCode = .continuation) (hfin : frame.fin = false) :
    wp (handleWebsocketFrame env frame) s
      (fun _ t => s.After (some (opCode, fragments ++ [frame])) [] [] t) (fun _ _ => False) := by
  have hopCode : s.continuousOpCode = some opCode := h.opCode_eq
  have hframes : s.continuousFrames = fragments := h.frames_eq
  rw [handle_data (by rw [hcontinuation]; rfl), if_pos (.inr hcontinuation), handleFrameFragment,
    wp_bind, wp_get, if_neg (not_not.mpr hcontinuation)]
  simp only [hopCode, hfin, hframes]
  exact hopCode ▸ h.fragment opCode (fragments ++ [frame])

theorem InUse.handle_last (h : s.InUse (some (opCode, fragments))) (hcalm : env.Calm accepts)
    (hcontinuation : frame.opCode = .continuation) (hfin : frame.fin = true)
    (hlength : (fragments.flatMap (·.payload)).length ≤ 2 ^ 31 - 1)
    (hm : accepts (opCode, fragments.flatMap (·.payload))) :
    wp (handleWebsocketFrame env frame) s
      (fun _ t => s.After none [(opCode, fragments.flatMap (·.payload))] [] t) (fun _ _ => False) := by
  have hopCode : s.continuousOpCode = some opCode := h.opCode_eq
  have hframes : s.continuousFrames = fragments := h.frames_eq
  have hjoined : joined opCode fragments =
      .ok ⟨opCode, true, none, fragments.flatMap (·.payload), none⟩ := by
    rw [joined, if_neg]
    rw [List.length_flatMap] at hlength
    exact not_lt.mpr hlength
  rw [handle_data (by rw [hcontinuation]; rfl), if_pos (.inr hcontinuation), handleFrameFragment,
    wp_bind, wp_get, if_neg (not_not.mpr hcontinuation)]
  simp only [hopCode, hfin, hframes, hjoined, if_true]
  rw [wp_bind]
  have hc (m : OpCode × List UInt8) (heq : Callback.message? (.onMessage
      ⟨opCode, true, none, fragments.flatMap (·.payload), none⟩) = some m) : accepts m :=
    Option.some.inj heq ▸ hm
  refine (h.callback hcalm hc).mono (fun _ t ht => ?_) (fun _ _ hf => hf)
  exact ⟨⟨ht.inUse.state_eq, ht.inUse.in_eq, ht.inUse.out_eq, rfl, rfl⟩, ht.messages_eq, ht.pongs_eq⟩

end Handle

end WebSocket

namespace Session

open WebSocket

variable {env : Surroundings} {s : Session} {inside : Option (OpCode × List WebSocketFrame)}
  {messages : List (OpCode × List UInt8)} {pings : List (List UInt8)}
  {accepts : OpCode × List UInt8 → Prop}

/-- The reading thread takes a frame. -/
def take (env : Surroundings) (s : Session) (frame : WebSocketFrame) : Session :=
  s.next env (.read (.ok frame))

theorem take_of_handled {inside' : Option (OpCode × List WebSocketFrame)} {frame : WebSocketFrame}
    (hreading : s.reading = true) (h : s.socket.InUse inside)
    (hhandle : wp (handleWebsocketFrame env frame) s.socket
      (fun _ t => s.socket.After inside' messages pings t) (fun _ _ => False)) :
    (s.take env frame).reading = true ∧
      s.socket.After inside' messages pings (s.take env frame).socket := by
  have hround : wp (WebSocket.round env (.ok frame)) s.socket
      (fun goesOn t => goesOn = true ∧ s.socket.After inside' messages pings t)
      (fun _ _ => False) := by
    rw [WebSocket.round, wp_bind, wp_tryCatch]
    refine wp.mono (Q := fun goesOn t => goesOn = true ∧ s.socket.After inside' messages pings t)
      (E := fun _ _ => False) ?_ (fun goesOn t ht => ?_) (fun _ _ hf => hf.elim)
    · unfold readFrame
      rw [wp_bind, wp_bind, wp_get, if_pos h.in_eq, wp_pure, wp_bind]
      refine hhandle.mono (fun _ t ht => ?_) (fun _ _ hf => hf)
      exact ⟨decide_eq_true ht.inUse.state_eq, ht⟩
    · rw [if_pos ht.1]
      exact ⟨rfl, ht.2⟩
  obtain ⟨goesOn, socket, hrun, hgoesOn, hafter⟩ := hround.exists_run_eq_ok
  rw [Session.take, Session.next, if_pos hreading, hrun]
  exact ⟨hgoesOn, hafter⟩

/-- The reading thread goes through frames as `Assembles` says. -/
theorem foldl_take (hcalm : env.Calm accepts) {frames : List WebSocketFrame}
    (hframes : Assembles inside frames messages pings) (haccepts : ∀ m ∈ messages, accepts m)
    (hreading : s.reading = true) (h : s.socket.InUse inside) :
    (frames.foldl (take env) s).reading = true ∧
      ∃ inside', s.socket.After inside' messages pings (frames.foldl (take env) s).socket := by
  -- after the first frame, the rest goes on from the connection it leaves
  have hstep {inside inside' : Option (OpCode × List WebSocketFrame)} {s : Session}
      {frame : WebSocketFrame} {rest : List WebSocketFrame} {ms ms' : List (OpCode × List UInt8)}
      {ps ps' : List (List UInt8)} (hreading : s.reading = true) (h : s.socket.InUse inside)
      (hhandle : wp (handleWebsocketFrame env frame) s.socket
        (fun _ t => s.socket.After inside' ms ps t) (fun _ _ => False))
      (hrest : ∀ {t : Session}, t.reading = true → t.socket.InUse inside' →
        (rest.foldl (take env) t).reading = true ∧
          ∃ inside'', t.socket.After inside'' ms' ps' (rest.foldl (take env) t).socket) :
      ((frame :: rest).foldl (take env) s).reading = true ∧
        ∃ inside'', s.socket.After inside'' (ms ++ ms') (ps ++ ps')
          ((frame :: rest).foldl (take env) s).socket := by
    obtain ⟨hreading', hafter⟩ := take_of_handled hreading h hhandle
    obtain ⟨hended, inside'', hafter'⟩ := hrest hreading' hafter.inUse
    exact ⟨hended, inside'', hafter.trans hafter'⟩
  induction hframes generalizing s with
  | done => exact ⟨hreading, _, h.after_refl⟩
  | ping hping _ ih => exact hstep hreading h (h.handle_ping hcalm hping) (ih haccepts)
  | pong hpong _ ih => exact hstep hreading h (h.handle_pong hcalm hpong) (ih haccepts)
  | whole hdata hfin _ ih =>
    obtain ⟨hm, hmessages⟩ := List.forall_mem_cons.mp haccepts
    exact hstep hreading h (h.handle_whole hcalm hdata hfin hm) (ih hmessages)
  | first hdata hfin _ ih => exact hstep hreading h (h.handle_first hdata hfin) (ih haccepts)
  | intermediate hop hfin _ ih =>
    exact hstep hreading h (h.handle_intermediate hop hfin) (ih haccepts)
  | last hop hfin hlength _ ih =>
    obtain ⟨hm, hmessages⟩ := List.forall_mem_cons.mp haccepts
    exact hstep hreading h (h.handle_last hcalm hop hfin hlength hm) (ih hmessages)

end Session

/-! ## The sender's side -/

/-- A message as its sender cuts it: text or binary, in one piece or more. -/
structure Message where
  opCode : OpCode
  isData : opCode = .text ∨ opCode = .binary
  first : List UInt8
  more : List (List UInt8)

/-- What the other side sees of a frame. -/
abbrev Part := OpCode × Bool × List UInt8

def WebSocketFrame.part (frame : WebSocketFrame) : Part := (frame.opCode, frame.fin, frame.payload)

namespace Message

def continuations : List (List UInt8) → List Part
  | [] => []
  | piece :: more => (.continuation, more.isEmpty, piece) :: continuations more

/-- The frames of a message. -/
def fragments (m : Message) : List Part :=
  (m.opCode, m.more.isEmpty, m.first) :: continuations m.more

/-- What is delivered of a message. -/
def delivered (m : Message) : List UInt8 := m.first ++ m.more.dropLast.flatten

end Message

/-- The pings among the frames. -/
def pingPayloads (frames : List WebSocketFrame) : List (List UInt8) :=
  (frames.filter fun frame => frame.opCode = .ping).map (·.payload)

namespace WebSocket

/-- Continuations, up to the one that ends the message. -/
theorem assembles_continuations {opCode : OpCode} {kept frames rest : List WebSocketFrame}
    {pieces : List (List UInt8)} {messages : List (OpCode × List UInt8)} (hpieces : pieces ≠ [])
    (hframes : frames.map (·.part) = Message.continuations pieces)
    (hlength : (kept.flatMap (·.payload) ++ pieces.dropLast.flatten).length ≤ 2 ^ 31 - 1)
    (hrest : Assembles none rest messages []) :
    Assembles (some (opCode, kept)) (frames ++ rest)
      ((opCode, kept.flatMap (·.payload) ++ pieces.dropLast.flatten) :: messages) [] := by
  induction pieces generalizing kept frames with
  | nil => exact absurd rfl hpieces
  | cons piece more ih =>
    obtain ⟨frame, frames, rfl, hframe, hmore⟩ := List.map_eq_cons_iff.mp hframes
    obtain ⟨hop, hfin, hpayload⟩ : frame.opCode = .continuation ∧ frame.fin = more.isEmpty ∧
        frame.payload = piece := by simpa [WebSocketFrame.part] using hframe
    cases more with
    | nil =>
      obtain rfl : frames = [] := List.map_eq_nil_iff.mp hmore
      rw [List.dropLast_singleton, List.flatten_nil, List.append_nil] at hlength ⊢
      exact .last hop hfin hlength hrest
    | cons next more =>
      -- the fragment is kept, and the message so far has its piece
      have hkept : kept.flatMap (·.payload) ++ (piece :: next :: more).dropLast.flatten =
          (kept ++ [frame]).flatMap (·.payload) ++ (next :: more).dropLast.flatten := by
        simp [hpayload]
      rw [hkept] at hlength ⊢
      exact .intermediate hop hfin (ih (List.cons_ne_nil _ _) hmore hlength)

theorem assembles_fragments {frames rest : List WebSocketFrame} {m : Message}
    {messages : List (OpCode × List UInt8)} (hframes : frames.map (·.part) = m.fragments)
    (hlength : m.delivered.length ≤ 2 ^ 31 - 1) (hrest : Assembles none rest messages []) :
    Assembles none (frames ++ rest) ((m.opCode, m.delivered) :: messages) [] := by
  obtain ⟨frame, frames, rfl, hframe, hmore⟩ := List.map_eq_cons_iff.mp hframes
  obtain ⟨hop, hfin, hpayload⟩ : frame.opCode = m.opCode ∧ frame.fin = m.more.isEmpty ∧
      frame.payload = m.first := by simpa [WebSocketFrame.part] using hframe
  have hdata : frame.opCode = .text ∨ frame.opCode = .binary := hop ▸ m.isData
  unfold Message.delivered at hlength ⊢
  rw [← hop, ← hpayload]
  rw [← hpayload] at hlength
  cases hpieces : m.more with
  | nil =>
    rw [hpieces] at hmore hfin
    obtain rfl : frames = [] := List.map_eq_nil_iff.mp hmore
    rw [List.dropLast_nil, List.flatten_nil, List.append_nil]
    exact .whole hdata hfin hrest
  | cons piece more =>
    rw [hpieces] at hmore hfin hlength
    have hkept : [frame].flatMap (·.payload) = frame.payload := by simp
    rw [← hkept] at hlength ⊢
    exact .first hdata hfin
      (assembles_continuations (List.cons_ne_nil _ _) hmore hlength hrest)

theorem assembles_messages {frames : List WebSocketFrame} {sent : List Message}
    (hframes : frames.map (·.part) = sent.flatMap Message.fragments)
    (hlength : ∀ m ∈ sent, m.delivered.length ≤ 2 ^ 31 - 1) :
    Assembles none frames (sent.map fun m => (m.opCode, m.delivered)) [] := by
  induction sent generalizing frames with
  | nil =>
    obtain rfl : frames = [] := List.map_eq_nil_iff.mp hframes
    exact .done
  | cons m sent ih =>
    obtain ⟨xs, ys, rfl, hxs, hys⟩ := List.map_eq_append_iff.mp hframes
    obtain ⟨hm, hsent⟩ := List.forall_mem_cons.mp hlength
    exact assembles_fragments hxs hm (ih hys hsent)

/-- Pings and pongs between the frames of messages change nothing about the
messages. -/
theorem assembles_of_filter {inside : Option (OpCode × List WebSocketFrame)}
    {frames : List WebSocketFrame} {messages : List (OpCode × List UInt8)}
    (hclose : ∀ frame ∈ frames, frame.opCode ≠ .close)
    (h : Assembles inside (frames.filter fun frame => !frame.opCode.isControlFrame) messages []) :
    Assembles inside frames messages (pingPayloads frames) := by
  induction frames generalizing inside messages with
  | nil => exact h
  | cons frame frames ih =>
    obtain ⟨hframe, hframes⟩ := List.forall_mem_cons.mp hclose
    by_cases hping : frame.opCode = .ping
    · rw [List.filter_cons_of_neg (by rw [hping]; decide)] at h
      have hpings : pingPayloads (frame :: frames) = frame.payload :: pingPayloads frames := by
        simp [pingPayloads, hping]
      rw [hpings]
      exact .ping hping (ih hframes h)
    have hpings : pingPayloads (frame :: frames) = pingPayloads frames := by
      simp [pingPayloads, hping]
    rw [hpings]
    by_cases hpong : frame.opCode = .pong
    · rw [List.filter_cons_of_neg (by rw [hpong]; decide)] at h
      exact .pong hpong (ih hframes h)
    · have hdata : (!frame.opCode.isControlFrame) = true := by
        simp [OpCode.isControlFrame, hframe, hping, hpong]
      rw [List.filter_cons, if_pos hdata] at h
      cases h with
      | pong hop _ => exact absurd hop hpong
      | whole hop hfin hrest => exact .whole hop hfin (ih hframes hrest)
      | first hop hfin hrest => exact .first hop hfin (ih hframes hrest)
      | intermediate hop hfin hrest => exact .intermediate hop hfin (ih hframes hrest)
      | last hop hfin hlength hrest => exact .last hop hfin hlength (ih hframes hrest)

end WebSocket

/-! ## From the bytes to the messages -/

namespace Session

open WebSocket

variable {env : Surroundings} {stream : InputStream} {s : Session}

/-- The reading thread takes the frames that the bytes make up. -/
theorem readLoop_frames {frames : List WebSocketFrame} {tail : List UInt8}
    {pos : InputStream.Position} (hframes : ∀ frame ∈ frames, frame.WellFormed env.binary2Text)
    (hpos : stream.Valid pos) (hrest : stream.rest pos = frames.flatMap (·.write) ++ tail)
    (rounds : Nat) :
    ∃ pos', stream.Valid pos' ∧ stream.rest pos' = tail ∧
      readLoop env stream (rounds + frames.length) pos s =
        readLoop env stream rounds pos' (frames.foldl (take env) s) := by
  induction frames generalizing pos s with
  | nil => exact ⟨pos, hpos, hrest, rfl⟩
  | cons frame frames ih =>
    obtain ⟨hframe, hframes⟩ := List.forall_mem_cons.mp hframes
    have hreads := @WebSocketFrame.reads_frame stream env.binary2Text
    rw [List.flatMap_cons, List.append_assoc] at hrest
    obtain ⟨pos₁, hrun, hrest₁⟩ := hreads.complete hpos ⟨hframe, rfl⟩ hrest
    obtain ⟨-, -, -, hpos₁⟩ := hreads.sound hpos hrun
    obtain ⟨pos', hpos', htail, hloop⟩ := ih (s := s.take env frame) hframes hpos₁ hrest₁
    refine ⟨pos', hpos', htail, ?_⟩
    rw [List.foldl_cons, ← hloop, List.length_cons, ← Nat.add_assoc, readLoop, hrun]
    by_cases hreading : s.reading = true
    · rw [if_pos hreading]
      rfl
    · -- a thread that has ended takes nothing
      rw [if_neg hreading, take, next_of_ended (by simpa using hreading)]
      cases hcount : rounds + frames.length with
      | zero => rfl
      | succ count => rw [readLoop, if_neg hreading]

theorem length_le_flatMap_write (frames : List WebSocketFrame) :
    frames.length ≤ (frames.flatMap (·.write)).length := by
  induction frames with
  | nil => exact Nat.le_refl 0
  | cons frame frames ih =>
    have htwo := frame.two_le_length_write
    rw [List.flatMap_cons, List.length_append, List.length_cons]
    omega

/-- At the end of the stream the read fails. -/
theorem read_of_rest_nil {pos : InputStream.Position} (hpos : stream.Valid pos)
    (hrest : stream.rest pos = []) :
    ∃ pos', (WebSocketFrame.read stream env.binary2Text).run pos = .error .endOfFile pos' := by
  have hpong : WebSocketFrame.WellFormed env.binary2Text ⟨.pong, true, none, [], none⟩ :=
    WebSocketFrame.wellFormed_of_short _ (Nat.zero_le _) (fun _ => rfl) (fun h => by cases h) (by decide) rfl
  refine (WebSocketFrame.reads_frame env.binary2Text).truncated hpos ⟨hpong, rfl⟩ ?_ ?_
  · rw [hrest]
    exact List.nil_prefix
  · rw [hrest]
    exact (List.cons_ne_nil _ _).symm

theorem messages_call (s : WebSocket) {c : Callback} (hc : c.message? = none) :
    WebSocket.messages { s with calls := s.calls ++ [c] } = s.messages := by
  unfold messages
  rw [List.filterMap_append, List.filterMap_cons_none hc, List.filterMap_nil, List.append_nil]

theorem keeps_doClose (code : Option CloseCode) (reason : Option String) (initiatedByRemote : Bool) :
    Keeps (fun s => (s.messages, s.pongs)) (doClose code reason initiatedByRemote) := by
  refine .get_bind fun s => ?_
  rw [wp_ite]
  exact ⟨fun _ => rfl, fun _ => congrArg (·, s.pongs) (messages_call s rfl)⟩

theorem keeps_caught (e : SocketException) :
    Keeps (fun s => (s.messages, s.pongs)) (caught env e) := by
  have hcall (s : WebSocket) : ((WebSocket.messages { s with calls := s.calls ++ [.onException e] }),
      WebSocket.pongs { s with calls := s.calls ++ [.onException e] }) = (s.messages, s.pongs) :=
    congrArg (·, s.pongs) (messages_call s rfl)
  cases e with
  | io => exact .modify hcall
  | characterCoding => exact .modify_bind hcall (keeps_doClose _ _ _)
  | webSocket code reason => exact .modify_bind hcall (keeps_doClose _ _ _)
  | runtime => exact .pure _

/-- A failed read delivers no message and sends no pong. -/
theorem keeps_round_error (e : ReadFailure) :
    Keeps (fun s => (s.messages, s.pongs)) (WebSocket.round env (.error e)) := by
  refine .bind (.tryCatch ?_ fun e => .bind (keeps_caught e) fun _ => .pure _) fun goesOn => ?_
  · unfold readFrame
    rw [bind_assoc]
    refine .read fun s => ?_
    split
    · exact .throw_bind _ _
    · exact .throw_bind _ _
  · exact .ite (fun _ => .pure _) fun _ => .bind (keeps_doClose _ _ _) fun _ => .pure _

theorem next_of_error (e : ReadFailure) :
    (s.next env (.read (.error e))).socket.messages = s.socket.messages ∧
      (s.next env (.read (.error e))).socket.pongs = s.socket.pongs := by
  by_cases hreading : s.reading = true
  · have hkeeps := @keeps_round_error env e s.socket
    unfold wp at hkeeps
    rw [Session.next, if_pos hreading]
    split at hkeeps
    · next hrun =>
      rw [hrun]
      exact Prod.mk.inj hkeeps
    · next hrun =>
      rw [hrun]
      exact Prod.mk.inj hkeeps
  · rw [Session.next, if_neg hreading]
    exact ⟨rfl, rfl⟩

/-- The bytes of well-formed frames, read to the end. -/
theorem readWebsocket_frames {accepts : OpCode × List UInt8 → Prop} (hcalm : env.Calm accepts)
    {frames : List WebSocketFrame} {messages : List (OpCode × List UInt8)} {pings : List (List UInt8)}
    (hassembles : Assembles none frames messages pings) (haccepts : ∀ m ∈ messages, accepts m)
    (hbytes : stream.bytes = frames.flatMap (·.write))
    (hframes : ∀ frame ∈ frames, frame.WellFormed env.binary2Text) :
    (readWebsocket env stream).socket.messages = messages ∧
      (readWebsocket env stream).socket.pongs = pings := by
  obtain ⟨hreading, inside, hafter⟩ :=
    foldl_take hcalm hassembles haccepts (s := {}) rfl ⟨rfl, rfl, rfl, rfl, rfl⟩
  have hstart : stream.Valid {} := Nat.zero_le _
  have hall : stream.rest {} = frames.flatMap (·.write) ++ [] := hbytes.trans (List.append_nil _).symm
  obtain ⟨pos, hpos, hrest, hloop⟩ := readLoop_frames (s := {}) hframes hstart hall
    (stream.bytes.length - frames.length + 1)
  obtain ⟨pos', hend⟩ := @read_of_rest_nil env stream pos hpos hrest
  have hrounds : stream.bytes.length + 1 =
      stream.bytes.length - frames.length + 1 + frames.length := by
    have hle := length_le_flatMap_write frames
    rw [← hbytes] at hle
    omega
  have hread : readWebsocket env stream =
      (frames.foldl (take env) {}).next env (.read (.error .endOfFile)) := by
    rw [readWebsocket, hrounds, hloop, readLoop, if_pos hreading, hend]
  obtain ⟨hmessages, hpongs⟩ := @next_of_error env (frames.foldl (take env) {}) .endOfFile
  rw [hread, hmessages, hpongs]
  exact ⟨hafter.messages_eq, hafter.pongs_eq⟩

/-- Messages in calm surroundings, where every write succeeds: whatever the
sizes of the pieces their bytes arrive in, and however pings and pongs are
mixed into the frames of whole messages, every message is delivered once and
in the order sent, and every ping is answered. But a message in several
frames is delivered without its last piece. -/
theorem messages_of_fragments (env : Surroundings) (stream : InputStream)
    (frames : List WebSocketFrame) (sent : List Message) (accepts : OpCode × List UInt8 → Prop)
    (hcalm : env.Calm accepts) (haccepts : ∀ m ∈ sent, accepts (m.opCode, m.delivered))
    (hbytes : stream.bytes = frames.flatMap (·.write))
    (hframes : ∀ frame ∈ frames, frame.WellFormed env.binary2Text)
    (hclose : ∀ frame ∈ frames, frame.opCode ≠ .close)
    (hsent : (frames.filter fun frame => !frame.opCode.isControlFrame).map (·.part) =
      sent.flatMap Message.fragments)
    (hlength : ∀ m ∈ sent, m.delivered.length ≤ 2 ^ 31 - 1) :
    (readWebsocket env stream).socket.messages = sent.map (fun m => (m.opCode, m.delivered)) ∧
      (readWebsocket env stream).socket.pongs = pingPayloads frames := by
  refine readWebsocket_frames hcalm (assembles_of_filter hclose (assembles_messages hsent hlength)) ?_
    hbytes hframes
  intro _ hmessage
  obtain ⟨m, hm, rfl⟩ := List.mem_map.mp hmessage
  exact haccepts m hm

/-- "Hi" in two frames with a ping between them, arriving byte by byte. -/
theorem messages_of_fragments_hi :
    let env : Surroundings := ⟨fun _ => some "", fun _ => [], "", fun _ => true, fun _ _ => []⟩
    let frames : List WebSocketFrame :=
      [⟨.text, false, none, [72], none⟩, ⟨.ping, true, none, [1], none⟩,
        ⟨.continuation, true, none, [105], none⟩]
    let s := readWebsocket env (.bytewise (frames.flatMap (·.write)))
    s.socket.messages = [(.text, [72])] ∧ s.socket.pongs = [[1]] := by
  refine messages_of_fragments _ (.bytewise _) _ [⟨.text, .inl rfl, [72], [[105]]⟩]
    (fun _ => True) ⟨fun _ => rfl, fun _ _ _ _ h => absurd h List.not_mem_nil⟩
    (fun _ _ => trivial) rfl ?_ (by decide) (by decide) (by decide)
  rintro frame hframe
  simp only [List.mem_cons, List.not_mem_nil, or_false] at hframe
  rcases hframe with rfl | rfl | rfl
  all_goals exact WebSocketFrame.wellFormed_of_short _ (by decide) (by decide) (by decide) (by decide) rfl

end Session

end BitMesh.Transport
