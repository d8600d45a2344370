import BitMesh.Java
import BitMesh.Lib.Framing

/-!
# The protobuf parser

`ProtobufParser.receiveBytes` cuts the bytes of a connection into messages
with a four-byte length in front. A message that fits into the network
buffer waits there until it is complete; a longer one is gathered in an
array of its own. Either way the parser is in one of the states of the
plain cutting of the stream: the bytes it has taken and not yet delivered
are `owed`, and a call goes through them together with the new ones
(`receiveBytes_spec`).
-/

namespace BitMesh.Transport

open Lib

/-- Addition of Java `int`s. -/
def addInt (a b : Int) : Int := (a + b).bmod (2 ^ 32)

/-- `Utils.uint32ToByteArrayBE`, for the lengths it is used with. -/
def uint32ToByteArrayBE (val : Nat) : List UInt8 :=
  [.ofNat (val >>> 24), .ofNat (val >>> 16), .ofNat (val >>> 8), .ofNat val]

@[simp] theorem length_uint32ToByteArrayBE (val : Nat) : (uint32ToByteArrayBE val).length = 4 := rfl

theorem bigEndian_four (a b c d : UInt8) :
    bigEndian [a, b, c, d] = ((a.toNat * 256 + b.toNat) * 256 + c.toNat) * 256 + d.toNat := by
  simp only [bigEndian, List.reverse_cons, List.reverse_nil, List.nil_append, List.cons_append,
    List.map_cons, List.map_nil, Nat.ofDigits_cons, Nat.ofDigits_nil]
  omega

theorem bigEndian_uint32ToByteArrayBE {val : Nat} (h : val < 2 ^ 32) :
    bigEndian (uint32ToByteArrayBE val) = val := by
  rw [uint32ToByteArrayBE, bigEndian_four]
  simp only [UInt8.toNat_ofNat', Nat.shiftRight_eq_div_pow]
  omega

theorem uint32ToByteArrayBE_bigEndian {bytes : List UInt8} (h : bytes.length = 4) :
    uint32ToByteArrayBE (bigEndian bytes) = bytes := by
  obtain ⟨a, b, c, d, rfl⟩ := List.length_eq_four.mp h
  have ha := a.toNat_lt
  have hb := b.toNat_lt
  have hc := c.toNat_lt
  have hd := d.toNat_lt
  rw [bigEndian_four, uint32ToByteArrayBE]
  simp only [List.cons.injEq, and_true, ← UInt8.toNat_inj, UInt8.toNat_ofNat',
    Nat.shiftRight_eq_div_pow]
  omega

/-! ## Buffers -/

/-- A `ByteBuffer` that is being read: the bytes before its position, those
from there to its limit, and its capacity. -/
@[ext]
structure ByteBuffer where
  consumed : List UInt8
  pending : List UInt8
  capacity : Nat
  limit_le : consumed.length + pending.length ≤ capacity

namespace ByteBuffer

def position (b : ByteBuffer) : Nat := b.consumed.length

def remaining (b : ByteBuffer) : Nat := b.pending.length

/-- `get(dst, off, n)`, as far as the buffer is concerned. -/
def get (b : ByteBuffer) (n : Nat) : ByteBuffer where
  consumed := b.consumed ++ b.pending.take n
  pending := b.pending.drop n
  capacity := b.capacity
  limit_le := by
    have := b.limit_le
    rw [List.length_append, List.length_take, List.length_drop]
    omega

/-- `position(position() - n)`. -/
def back (b : ByteBuffer) (n : Nat) : ByteBuffer where
  consumed := b.consumed.take (b.position - n)
  pending := b.consumed.drop (b.position - n) ++ b.pending
  capacity := b.capacity
  limit_le := by
    have := b.limit_le
    rw [List.length_append, List.length_take, List.length_drop]
    omega

/-- `getInt()` in big-endian order: the number read is a signed one. -/
def peekInt (b : ByteBuffer) : Int := (bigEndian (b.pending.take 4) : Int).bmod (2 ^ 32)

@[simp] theorem pending_get (b : ByteBuffer) (n : Nat) : (b.get n).pending = b.pending.drop n := rfl

@[simp] theorem capacity_get (b : ByteBuffer) (n : Nat) : (b.get n).capacity = b.capacity := rfl

@[simp] theorem remaining_get (b : ByteBuffer) (n : Nat) :
    (b.get n).remaining = b.remaining - n := List.length_drop

theorem position_get {b : ByteBuffer} {n : Nat} (h : n ≤ b.remaining) :
    (b.get n).position = b.position + n := by
  have h' : n ≤ b.pending.length := h
  simp [position, get, h']

theorem back_get {b : ByteBuffer} {n : Nat} (h : n ≤ b.remaining) : (b.get n).back n = b := by
  have hpos : (b.get n).position - n = b.consumed.length := by
    rw [position_get h, Nat.add_sub_cancel]
    rfl
  ext1
  · show (b.consumed ++ b.pending.take n).take ((b.get n).position - n) = b.consumed
    rw [hpos, List.take_left]
  · show (b.consumed ++ b.pending.take n).drop ((b.get n).position - n) ++ b.pending.drop n =
      b.pending
    rw [hpos, List.drop_left, List.take_append_drop]
  · rfl

theorem remaining_le (b : ByteBuffer) : b.remaining ≤ b.capacity := by
  have := b.limit_le
  unfold remaining
  omega

end ByteBuffer

/-! ## The parser -/

/-- What a `ProtobufParser` is made with: the listener, whose own state is
a `σ`, the prototype that reads messages, and the largest message it takes. -/
structure ProtobufParser (σ M : Type) where
  messageReceived : M → EStateM JavaException σ Unit
  mergeFrom : List UInt8 → Except JavaException M
  maxMessageSize : Nat
  maxMessageSize_le : maxMessageSize ≤ 2 ^ 31 - 1 - 4

/-- `messageBytes`: the length of the array, and its bytes before
`messageBytesOffset`. -/
structure MessageBytes where
  length : Nat
  filled : List UInt8
  deriving DecidableEq

/-- The parser's fields, the buffer of the call and the listener. -/
structure Receiving (σ : Type) where
  messageBytes : Option MessageBytes
  buff : ByteBuffer
  listener : σ

namespace ProtobufParser

variable {σ M : Type} (parser : ProtobufParser σ M)

/-- `deserializeMessage`: the listener may throw, and what it did before
that stays done. -/
def deserializeMessage (bytes : List UInt8) : EStateM JavaException (Receiving σ) Unit := do
  let msg ← orThrow (parser.mergeFrom bytes)
  onPart Receiving.listener (fun s t => { s with listener := t }) (parser.messageReceived msg)

/-- The exception of a length that is out of range. -/
def tooLarge : JavaException :=
  ⟨.illegalState, some "Message too large or length underflowed"⟩

/-- `receiveBytes`, with the number of calls the stack has room for. -/
def receiveBytes : Nat → EStateM JavaException (Receiving σ) Nat
  | 0 => throw ⟨.runtime, none⟩
  | depth + 1 => do
    let s ← get
    match s.messageBytes with
    | some m => do
        -- just keep filling up the currently being worked on message
        let bytesToGet := min (m.length - m.filled.length) s.buff.remaining
        let filled := m.filled ++ s.buff.pending.take bytesToGet
        set { s with messageBytes := some ⟨m.length, filled⟩, buff := s.buff.get bytesToGet }
        if filled.length = m.length then do
          parser.deserializeMessage filled
          modify fun s => { s with messageBytes := none }
          let s ← get
          if 0 < s.buff.remaining then do
            let more ← receiveBytes depth
            pure (bytesToGet + more)
          else pure bytesToGet
        else pure bytesToGet
    | none =>
        if s.buff.remaining < 4 then pure 0
        else do
          let len := s.buff.peekInt
          let buff := s.buff.get 4
          set { s with buff }
          if parser.maxMessageSize < len ∨ addInt len 4 < 4 then throw tooLarge
          else if buff.capacity < len + 4 then do
            let bytesToRead := buff.remaining
            set { s with
              messageBytes := some ⟨len.toNat, buff.pending⟩
              buff := buff.get bytesToRead }
            pure (bytesToRead + 4)
          else if buff.remaining < len then do
            set { s with buff := buff.back 4 }
            pure 0
          else do
            set { s with buff := buff.get len.toNat }
            parser.deserializeMessage (buff.pending.take len.toNat)
            let s ← get
            if 0 < s.buff.remaining then do
              let more ← receiveBytes depth
              pure (len.toNat + 4 + more)
            else pure (len.toNat + 4)

/-! ## The stream it cuts -/

/-- How the stream is to be cut into messages. -/
def framing : Framing UInt8 := lengthPrefixed 4 parser.maxMessageSize (by decide)

/-- What one message of the stream, its length in front, does to the
listener, and whether the connection goes on after it. -/
def consume (listener : σ) (bytes : List UInt8) : σ × Bool :=
  match parser.mergeFrom (bytes.drop 4) with
  | .error _ => (listener, false)
  | .ok msg =>
      match (parser.messageReceived msg).run listener with
      | .ok _ t => (t, true)
      | .error _ t => (t, false)

/-- The plain reading of a stream: its messages go to the listener in
order, up to the first one that fails. -/
def feed (listener : σ) (bytes : List UInt8) : σ × Option (List UInt8) :=
  parser.framing.feed parser.consume listener bytes

end ProtobufParser

/-- The bytes a parser has taken without having delivered them. -/
def MessageBytes.owed : Option MessageBytes → List UInt8
  | none => []
  | some m => uint32ToByteArrayBE m.length ++ m.filled

/-- Those and the bytes still in the buffer. -/
def Receiving.owed {σ : Type} (s : Receiving σ) : List UInt8 :=
  MessageBytes.owed s.messageBytes ++ s.buff.pending

namespace ProtobufParser

variable {σ M : Type} {parser : ProtobufParser σ M}

/-- A message that is being gathered is not complete. -/
def Gathers (parser : ProtobufParser σ M) (messageBytes : Option MessageBytes) : Prop :=
  ∀ m, messageBytes = some m → m.filled.length < m.length ∧ m.length ≤ parser.maxMessageSize

/-- Reading the length as a signed number and testing it for an overflow is
the plain comparison. -/
theorem length_check_iff {n : Nat} (hn : n < 2 ^ 32) :
    ((parser.maxMessageSize : Int) < (n : Int).bmod (2 ^ 32) ∨
        addInt ((n : Int).bmod (2 ^ 32)) 4 < 4) ↔
      parser.maxMessageSize < n := by
  have hmax := parser.maxMessageSize_le
  unfold addInt
  rw [Int.bmod_def, Int.bmod_def]
  split <;> split <;> omega

theorem bmod_of_le {n : Nat} (hn : n ≤ parser.maxMessageSize) :
    (n : Int).bmod (2 ^ 32) = n := by
  have hmax := parser.maxMessageSize_le
  rw [Int.bmod_def]
  split <;> omega

section Next

variable {bytes : List UInt8} {len : Nat}

theorem next_short (h : bytes.length < 4) : parser.framing.next bytes = .incomplete :=
  if_pos h

theorem next_malformed (h : 4 ≤ bytes.length) (hlen : parser.maxMessageSize < bigEndian (bytes.take 4)) :
    parser.framing.next bytes = .malformed := by
  show ite _ _ _ = _
  rw [if_neg (by omega), if_pos hlen]

theorem next_incomplete (h : 4 ≤ bytes.length) (hlen : bigEndian (bytes.take 4) ≤ parser.maxMessageSize)
    (hshort : bytes.length < 4 + bigEndian (bytes.take 4)) :
    parser.framing.next bytes = .incomplete := by
  show ite _ _ _ = _
  rw [if_neg (by omega), if_neg (by omega), if_pos hshort]

theorem next_complete (hlen : bigEndian (bytes.take 4) ≤ parser.maxMessageSize)
    (hall : 4 + bigEndian (bytes.take 4) ≤ bytes.length) :
    parser.framing.next bytes = .complete (4 + bigEndian (bytes.take 4)) := by
  show ite _ _ _ = _
  rw [if_neg (by omega), if_neg (by omega), if_neg (by omega)]

end Next

/-- The message at the front of a stream. -/
theorem next_message {bytes : List UInt8} (rest : List UInt8)
    (hlen : bytes.length ≤ parser.maxMessageSize) :
    parser.framing.next (uint32ToByteArrayBE bytes.length ++ bytes ++ rest) =
      .complete (4 + bytes.length) := by
  have hmax := parser.maxMessageSize_le
  have hfront : bigEndian ((uint32ToByteArrayBE bytes.length ++ bytes ++ rest).take 4) =
      bytes.length := bigEndian_uint32ToByteArrayBE (by omega)
  rw [next_complete (hfront.trans_le hlen)
    (by rw [hfront, List.length_append, List.length_append, length_uint32ToByteArrayBE]; omega),
    hfront]

theorem length_message (bytes : List UInt8) :
    (uint32ToByteArrayBE bytes.length ++ bytes).length = 4 + bytes.length := by
  rw [List.length_append, length_uint32ToByteArrayBE]

/-- A message that the listener takes. -/
theorem feed_message {bytes : List UInt8} {msg : M} {listener t : σ}
    (hlen : bytes.length ≤ parser.maxMessageSize) (hmsg : parser.mergeFrom bytes = .ok msg)
    (hrun : (parser.messageReceived msg).run listener = .ok () t) (rest : List UInt8) :
    parser.feed listener (uint32ToByteArrayBE bytes.length ++ bytes ++ rest) = parser.feed t rest := by
  have htake : (uint32ToByteArrayBE bytes.length ++ bytes ++ rest).take (4 + bytes.length) =
      uint32ToByteArrayBE bytes.length ++ bytes := List.take_left' (length_message bytes)
  have hdrop : (uint32ToByteArrayBE bytes.length ++ bytes ++ rest).drop (4 + bytes.length) = rest :=
    List.drop_left' (length_message bytes)
  have hbody : (uint32ToByteArrayBE bytes.length ++ bytes).drop 4 = bytes := rfl
  rw [feed, Framing.feed_complete (next_message rest hlen) (t := t), hdrop]
  · rfl
  · rw [htake, consume, hbody, hmsg]
    simp only [hrun]

/-- A message that does not parse, or that the listener fails on. -/
theorem feed_failed {bytes : List UInt8} {listener t : σ} (hlen : bytes.length ≤ parser.maxMessageSize)
    (hfail : parser.consume listener (uint32ToByteArrayBE bytes.length ++ bytes) = (t, false))
    (rest : List UInt8) :
    parser.feed listener (uint32ToByteArrayBE bytes.length ++ bytes ++ rest) = (t, none) := by
  have htake : (uint32ToByteArrayBE bytes.length ++ bytes ++ rest).take (4 + bytes.length) =
      uint32ToByteArrayBE bytes.length ++ bytes := List.take_left' (length_message bytes)
  refine Framing.feed_refused (next_message rest hlen) ?_
  rwa [htake]

/-- Delivering the message at the front of a stream. -/
theorem deserializeMessage_spec {s : Receiving σ} {bytes : List UInt8} (rest : List UInt8)
    (hlen : bytes.length ≤ parser.maxMessageSize) :
    wp (parser.deserializeMessage bytes) s
      (fun _ t => t.buff = s.buff ∧ t.messageBytes = s.messageBytes ∧
        parser.feed s.listener (uint32ToByteArrayBE bytes.length ++ bytes ++ rest) =
          parser.feed t.listener rest)
      (fun _ t =>
        parser.feed s.listener (uint32ToByteArrayBE bytes.length ++ bytes ++ rest) =
          (t.listener, none)) := by
  have hbody : (uint32ToByteArrayBE bytes.length ++ bytes).drop 4 = bytes := rfl
  unfold deserializeMessage
  cases hmsg : parser.mergeFrom bytes with
  | error e =>
    refine feed_failed hlen ?_ rest
    rw [consume, hbody, hmsg]
  | ok msg =>
    rw [wp_bind, wp_orThrow_ok rfl, wp_onPart]
    refine ((wp.trivial _ _).run).mono ?_ ?_
    · rintro _ t ⟨-, hrun⟩
      exact ⟨rfl, rfl, feed_message hlen hmsg hrun rest⟩
    · rintro e t ⟨-, hrun⟩
      refine feed_failed hlen ?_ rest
      rw [consume, hbody, hmsg]
      simp only [hrun]

/-- How a call returns `n` that found `bytes` owed and the buffer `buff`. -/
structure Returned (parser : ProtobufParser σ M) (listener : σ) (bytes : List UInt8)
    (buff : ByteBuffer) (n : Nat) (t : Receiving σ) : Prop where
  feed_eq : parser.feed listener bytes = (t.listener, some t.owed)
  gathers : parser.Gathers t.messageBytes
  pending_eq : t.messageBytes.isSome → t.buff.pending = []
  remaining_lt : t.buff.remaining < max 4 buff.capacity
  capacity_eq : t.buff.capacity = buff.capacity
  position_eq : t.buff.position = buff.position + n

/-- How such a call throws. -/
def Threw (parser : ProtobufParser σ M) (listener : σ) (bytes : List UInt8)
    (t : Receiving σ) : Prop :=
  parser.feed listener bytes = (t.listener, none)

theorem gathers_none : parser.Gathers none := by
  intro m hm
  cases hm

/-- The recursive calls: once a message has been delivered, the rest of the
buffer is gone through. -/
theorem receiveBytes_rest {depth k : Nat} {listener : σ} {bytes : List UInt8} {buff : ByteBuffer}
    {u : Receiving σ} (hnone : u.messageBytes = none)
    (hcapacity : u.buff.capacity = buff.capacity) (hposition : u.buff.position = buff.position + k)
    (hfeed : parser.feed listener bytes = parser.feed u.listener u.buff.pending)
    (hcall : wp (parser.receiveBytes depth) u (parser.Returned u.listener u.owed u.buff)
      (fun _ => parser.Threw u.listener u.owed)) :
    wp (if 0 < u.buff.remaining then do
          let more ← parser.receiveBytes depth
          pure (k + more)
        else pure k) u
      (parser.Returned listener bytes buff) (fun _ => parser.Threw listener bytes) := by
  have howed : u.owed = u.buff.pending := by
    rw [Receiving.owed, hnone]
    rfl
  rw [howed] at hcall
  rw [wp_ite]
  refine ⟨fun _ => ?_, fun hempty => ?_⟩
  · rw [wp_bind]
    refine hcall.mono (fun more t ht => ?_) (fun _ t ht => hfeed.trans ht)
    exact ⟨hfeed.trans ht.feed_eq, ht.gathers, ht.pending_eq, hcapacity ▸ ht.remaining_lt,
      ht.capacity_eq.trans hcapacity, by rw [ht.position_eq, hposition, Nat.add_assoc]⟩
  · have hpending : u.buff.pending = [] := List.length_eq_zero_iff.mp (by
      unfold ByteBuffer.remaining at hempty
      omega)
    refine ⟨?_, hnone ▸ gathers_none, fun _ => hpending, by omega, hcapacity, hposition⟩
    rw [hfeed, howed, hpending]
    exact Framing.feed_nil

/-- A call between two messages. -/
theorem receiveBytes_between (depth : Nat) {s : Receiving σ} (hnone : s.messageBytes = none)
    (hdepth : s.buff.remaining < depth) :
    wp (parser.receiveBytes depth) s (parser.Returned s.listener s.owed s.buff)
      (fun _ => parser.Threw s.listener s.owed) := by
  induction depth generalizing s with
  | zero => omega
  | succ depth ih =>
    obtain ⟨messageBytes, buff, listener⟩ := s
    obtain rfl : messageBytes = none := hnone
    have howed : (⟨none, buff, listener⟩ : Receiving σ).owed = buff.pending := rfl
    have hdepth' : buff.remaining < depth + 1 := hdepth
    rw [howed, receiveBytes, wp_bind, wp_get, wp_ite]
    refine ⟨fun hshort => ?_, fun hlong => ?_⟩
    · exact ⟨Framing.feed_incomplete (next_short hshort), gathers_none, (fun h => by cases h),
        lt_max_of_lt_left hshort, rfl, rfl⟩
    have hfour : 4 ≤ buff.remaining := not_lt.mp hlong
    have hremaining : buff.remaining = buff.pending.length := rfl
    have hfront : (buff.pending.take 4).length = 4 := List.length_take_of_le hfour
    have hpeek : buff.peekInt = (bigEndian (buff.pending.take 4) : Int).bmod (2 ^ 32) := rfl
    have hbound : bigEndian (buff.pending.take 4) < 2 ^ 32 := by
      have h := bigEndian_lt (buff.pending.take 4)
      rwa [hfront] at h
    have hbytes := uint32ToByteArrayBE_bigEndian hfront
    have hparts : buff.pending.take 4 ++ buff.pending.drop 4 = buff.pending :=
      List.take_append_drop 4 buff.pending
    generalize hlen : bigEndian (buff.pending.take 4) = len at *
    simp only [hpeek]
    rw [wp_bind, wp_set, wp_ite]
    refine ⟨fun hbad => ?_, fun hgood => ?_⟩
    · exact Framing.feed_malformed
        (next_malformed hfour (hlen ▸ (length_check_iff hbound).mp hbad))
    have hmax : len ≤ parser.maxMessageSize := by
      rw [length_check_iff hbound] at hgood
      omega
    simp only [bmod_of_le hmax, Int.toNat_natCast]
    rw [wp_ite]
    refine ⟨fun hlarge => ?_, fun hfits => ?_⟩
    · -- the message does not fit into the buffer: it gets an array
      rw [wp_bind, wp_set, wp_pure]
      have hcapacity := buff.remaining_le
      have hincomplete : parser.framing.next buff.pending = .incomplete :=
        next_incomplete hfour (hlen ▸ hmax) (by
          rw [ByteBuffer.capacity_get] at hlarge
          omega)
      refine ⟨?_, ?_, fun _ => List.drop_eq_nil_of_le le_rfl, ?_, rfl, ?_⟩
      · rw [feed, Framing.feed_incomplete hincomplete]
        simp only [Receiving.owed, MessageBytes.owed, hbytes, ByteBuffer.pending_get,
          ByteBuffer.remaining, List.drop_length, List.append_nil, hparts]
      · rintro m ⟨⟩
        refine ⟨?_, hmax⟩
        show (buff.pending.drop 4).length < len
        rw [ByteBuffer.capacity_get] at hlarge
        rw [List.length_drop]
        omega
      · rw [ByteBuffer.remaining_get, Nat.sub_self]
        omega
      · show ((buff.get 4).get (buff.get 4).remaining).position = _
        rw [ByteBuffer.position_get le_rfl, ByteBuffer.position_get hfour]
        omega
    rw [wp_ite]
    refine ⟨fun hwait => ?_, fun hwhole => ?_⟩
    · -- the message is not complete: its length is read again next time
      rw [wp_bind, wp_set, wp_pure, ByteBuffer.back_get hfour]
      have hincomplete : parser.framing.next buff.pending = .incomplete :=
        next_incomplete hfour (hlen ▸ hmax) (by
          rw [ByteBuffer.remaining_get] at hwait
          omega)
      refine ⟨Framing.feed_incomplete hincomplete, gathers_none, (fun h => by cases h), ?_, rfl, rfl⟩
      rw [ByteBuffer.remaining_get] at hwait
      rw [ByteBuffer.capacity_get] at hfits
      show buff.remaining < max 4 buff.capacity
      omega
    · -- the message is there
      have hbody : ((buff.get 4).pending.take len).length = len := List.length_take_of_le (by
        rw [ByteBuffer.remaining_get] at hwhole
        rw [ByteBuffer.pending_get, List.length_drop]
        omega)
      have hstream : uint32ToByteArrayBE ((buff.get 4).pending.take len).length ++
          (buff.get 4).pending.take len ++ (buff.get 4).pending.drop len = buff.pending := by
        rw [hbody, hbytes, List.append_assoc, List.take_append_drop]
        exact hparts
      rw [wp_bind, wp_set, wp_bind]
      refine (deserializeMessage_spec ((buff.get 4).pending.drop len)
        (hbody.trans_le hmax)).mono ?_ ?_
      · rintro _ t ⟨hbuff, hmessage, hfeed⟩
        rw [hstream] at hfeed
        rw [wp_bind, wp_get]
        refine receiveBytes_rest hmessage (by rw [hbuff]; rfl) ?_ ?_ (ih hmessage ?_)
        · rw [hbuff]
          show ((buff.get 4).get len).position = _
          rw [ByteBuffer.position_get (by omega), ByteBuffer.position_get hfour]
          omega
        · rw [hbuff]
          exact hfeed
        · simp only [hbuff, ByteBuffer.remaining_get]
          omega
      · intro _ t hfeed
        rwa [hstream] at hfeed

/-- A call of `receiveBytes` goes through the bytes that are owed as the
plain reading does, and returns how far it has moved the buffer. A stack
with one frame for every byte of the buffer, and one more, is enough. -/
theorem receiveBytes_spec {depth : Nat} {s : Receiving σ} (hdepth : s.buff.remaining + 1 < depth)
    (hs : parser.Gathers s.messageBytes) :
    wp (parser.receiveBytes depth) s (parser.Returned s.listener s.owed s.buff)
      (fun _ => parser.Threw s.listener s.owed) := by
  obtain ⟨_ | m, buff, listener⟩ := s
  · exact receiveBytes_between depth rfl (by omega)
  obtain ⟨hfilled, hmax⟩ := hs m rfl
  obtain ⟨depth, rfl⟩ : ∃ d, depth = d + 1 := ⟨depth - 1, by omega⟩
  have hdepth' : buff.remaining < depth := by
    simp only at hdepth
    omega
  have howed : (⟨some m, buff, listener⟩ : Receiving σ).owed =
      uint32ToByteArrayBE m.length ++ m.filled ++ buff.pending := rfl
  rw [howed, receiveBytes, wp_bind, wp_get]
  simp only
  have hle : min (m.length - m.filled.length) buff.remaining ≤ buff.remaining := min_le_right _ _
  have hneed : min (m.length - m.filled.length) buff.remaining ≤ m.length - m.filled.length :=
    min_le_left _ _
  have hget : min (m.length - m.filled.length) buff.remaining =
      m.length - m.filled.length ∨ min (m.length - m.filled.length) buff.remaining =
      buff.remaining := min_choice _ _
  generalize min (m.length - m.filled.length) buff.remaining = n at *
  have hsplit : buff.pending.take n ++ buff.pending.drop n = buff.pending :=
    List.take_append_drop n buff.pending
  have hlength : (m.filled ++ buff.pending.take n).length = m.filled.length + n := by
    rw [List.length_append, List.length_take_of_le hle]
  rw [wp_bind, wp_set, wp_ite]
  refine ⟨fun hfull => ?_, fun hpart => ?_⟩
  · rw [wp_bind]
    refine (deserializeMessage_spec (buff.pending.drop n) (hfull.trans_le hmax)).mono ?_ ?_
    · rintro _ t ⟨hbuff, -, hfeed⟩
      rw [wp_bind, wp_modify, wp_bind, wp_get]
      refine receiveBytes_rest rfl (by rw [hbuff]; rfl)
        (by rw [hbuff]; exact ByteBuffer.position_get hle) ?_
        (receiveBytes_between depth rfl ?_)
      · rw [hbuff, ByteBuffer.pending_get, ← hfeed, hfull]
        simp only [List.append_assoc, hsplit]
      · simp only [hbuff, ByteBuffer.remaining_get]
        omega
    · intro _ t hfeed
      rw [hfull] at hfeed
      simpa only [Threw, List.append_assoc, hsplit] using hfeed
  · -- all of the buffer went into the array, which is still not full
    have hall : n = buff.pending.length := by
      unfold ByteBuffer.remaining at hget hle
      omega
    have hincomplete : parser.framing.next
        (uint32ToByteArrayBE m.length ++ m.filled ++ buff.pending) = .incomplete := by
      have hfront : bigEndian ((uint32ToByteArrayBE m.length ++ m.filled ++ buff.pending).take 4) =
          m.length := bigEndian_uint32ToByteArrayBE (by
        have := parser.maxMessageSize_le
        omega)
      have htotal : (uint32ToByteArrayBE m.length ++ m.filled ++ buff.pending).length =
          4 + m.filled.length + n := by
        rw [List.length_append, List.length_append, length_uint32ToByteArrayBE, hall]
      refine next_incomplete (by omega) (hfront.trans_le hmax) ?_
      rw [hfront, htotal]
      omega
    refine ⟨?_, ?_, fun _ => List.drop_eq_nil_of_le hall.ge, ?_, rfl, ByteBuffer.position_get hle⟩
    · rw [feed, Framing.feed_incomplete hincomplete]
      simp only [Receiving.owed, MessageBytes.owed, ByteBuffer.pending_get, hall, List.take_length,
        List.drop_length, List.append_nil, List.append_assoc]
    · rintro m' ⟨⟩
      refine ⟨?_, hmax⟩
      show (m.filled ++ buff.pending.take n).length < m.length
      rw [hlength] at hpart ⊢
      omega
    · rw [ByteBuffer.remaining_get, hall]
      show buff.pending.length - buff.pending.length < _
      omega

end ProtobufParser

end BitMesh.Transport
