import BitMesh.Lib.Framing
import BitMesh.Lib.StreamReader

/-!
# WebSocket frames

`WebSocketFrame.read` and `WebSocketFrame.write`. A frame is read from a
stream that hands over its bytes in pieces of any size; the reader and the
writer agree exactly: what is read is a well-formed frame, and the bytes
taken are those that writing the frame gives (`reads_frame`).
-/

namespace BitMesh.Transport

open Lib

/-- `WebSocketFrame.OpCode`. -/
inductive OpCode where
  | continuation
  | text
  | binary
  | close
  | ping
  | pong
  deriving DecidableEq, Repr

namespace OpCode

def getValue : OpCode → UInt8
  | continuation => 0
  | text => 1
  | binary => 2
  | close => 8
  | ping => 9
  | pong => 10

def isControlFrame (opCode : OpCode) : Bool := opCode = close ∨ opCode = ping ∨ opCode = pong

def values : List OpCode := [continuation, text, binary, close, ping, pong]

def find (value : UInt8) : Option OpCode := values.find? fun opCode => opCode.getValue = value

end OpCode

/-- `WebSocketFrame.CloseCode`. -/
inductive CloseCode where
  | normalClosure
  | goingAway
  | protocolError
  | unsupportedData
  | noStatusRcvd
  | abnormalClosure
  | invalidFramePayloadData
  | policyViolation
  | messageTooBig
  | mandatoryExt
  | internalServerError
  | tlsHandshake
  deriving DecidableEq, Repr

namespace CloseCode

def getValue : CloseCode → Nat
  | normalClosure => 1000
  | goingAway => 1001
  | protocolError => 1002
  | unsupportedData => 1003
  | noStatusRcvd => 1005
  | abnormalClosure => 1006
  | invalidFramePayloadData => 1007
  | policyViolation => 1008
  | messageTooBig => 1009
  | mandatoryExt => 1010
  | internalServerError => 1011
  | tlsHandshake => 1015

def values : List CloseCode :=
  [normalClosure, goingAway, protocolError, unsupportedData, noStatusRcvd, abnormalClosure,
    invalidFramePayloadData, policyViolation, messageTooBig, mandatoryExt, internalServerError,
    tlsHandshake]

def find (value : Nat) : Option CloseCode := values.find? fun code => code.getValue = value

end CloseCode

/-- What a read throws: `EOFException`, `CharacterCodingException` or a
`WebSocketException`. -/
inductive ReadFailure where
  | endOfFile
  | characterCoding
  | webSocket (code : CloseCode) (reason : String)
  deriving DecidableEq, Repr

/-- The masking key, of the length that `setMaskingKey` insists on. -/
abbrev MaskingKey := { key : List UInt8 // key.length = 4 }

/-- The two fields of a `CloseFrame`. -/
structure CloseDetails where
  closeCode : Option CloseCode
  closeReason : Option String
  deriving DecidableEq, Repr

/-- A `WebSocketFrame`; `closing` is there for a `CloseFrame`. -/
structure WebSocketFrame where
  opCode : OpCode
  fin : Bool
  maskingKey : Option MaskingKey := none
  payload : List UInt8
  closing : Option CloseDetails := none
  deriving DecidableEq

namespace WebSocketFrame

/-- `payload[i] ^= maskingKey[i % 4]`. -/
def applyMask (key : MaskingKey) (payload : List UInt8) : List UInt8 :=
  payload.mapIdx fun i b => b ^^^ key.val.getD (i % 4) 0

@[simp] theorem length_applyMask (key : MaskingKey) (payload : List UInt8) :
    (applyMask key payload).length = payload.length := List.length_mapIdx

/-- Masking twice is not masking. -/
@[simp] theorem applyMask_applyMask (key : MaskingKey) (payload : List UInt8) :
    applyMask key (applyMask key payload) = payload := by
  refine List.ext_getElem (by simp) fun i _ _ => ?_
  simp [applyMask]

/-! ## Writing -/

def header (fin : Bool) (opCode : OpCode) : UInt8 :=
  (if fin then 0x80 else 0) ||| (opCode.getValue &&& 0x0F)

/-- The second byte and the longer forms of the length. -/
def lengthBytes (masked : Bool) (length : Nat) : List UInt8 :=
  if length ≤ 125 then [if masked then 0x80 ||| .ofNat length else .ofNat length]
  else if length ≤ 0xFFFF then
    [if masked then 0xFE else 126, .ofNat (length >>> 8), .ofNat length]
  else
    [if masked then 0xFF else 127, 0, 0, 0, 0, .ofNat (length >>> 24), .ofNat (length >>> 16),
      .ofNat (length >>> 8), .ofNat length]

/-- The masking key, if there is one. -/
def keyBytes : Option MaskingKey → List UInt8
  | some key => key.val
  | none => []

/-- The payload as it goes over the wire. -/
def payloadBytes : Option MaskingKey → List UInt8 → List UInt8
  | some key, payload => applyMask key payload
  | none, payload => payload

/-- `write`: the bytes that go out. -/
def write (frame : WebSocketFrame) : List UInt8 :=
  header frame.fin frame.opCode :: (lengthBytes frame.maskingKey.isSome frame.payload.length ++
    keyBytes frame.maskingKey ++ payloadBytes frame.maskingKey frame.payload)

/-! ## Reading -/

section Read

variable (stream : InputStream)

/-- `checkedRead(in.read())`. -/
def checkedRead : EStateM ReadFailure InputStream.Position UInt8 := stream.readByte .endOfFile

def protocolError (reason : String) : ReadFailure := .webSocket .protocolError reason

/-- An `int` that is made a `long`, as the 64 bits it then has. -/
def toLong (bits : Nat) : Nat := if bits < 2 ^ 31 then bits else bits + (2 ^ 64 - 2 ^ 32)

/-- The eight-byte length: the upper four bytes are shifted as `long`s and
the lower four as `int`s, which only then become `long`s. -/
def eightByteLength (a b c d e f g h : UInt8) : Int :=
  ((a.toNat <<< 56 ||| b.toNat <<< 48 ||| c.toNat <<< 40 ||| d.toNat <<< 32 |||
      toLong (e.toNat <<< 24) ||| f.toNat <<< 16 ||| g.toNat <<< 8 ||| h.toNat : Nat) : Int).bmod
    (2 ^ 64)

/-- The first part of `readPayloadInfo`: the mask bit and the length. -/
def readPayloadLength : EStateM ReadFailure InputStream.Position (Bool × Nat) := do
  let b ← checkedRead stream
  let masked : Bool := b &&& 0x80 ≠ 0
  if b &&& 0x7F = 126 then do
    let high ← checkedRead stream
    let low ← checkedRead stream
    let payloadLength := (high.toNat <<< 8 ||| low.toNat) &&& 0xFFFF
    if payloadLength < 126 then
      throw (protocolError
        "Invalid data frame 2byte length. (not using minimal length encoding)")
    else pure (masked, payloadLength)
  else if b &&& 0x7F = 127 then do
    let b₁ ← checkedRead stream
    let b₂ ← checkedRead stream
    let b₃ ← checkedRead stream
    let b₄ ← checkedRead stream
    let b₅ ← checkedRead stream
    let b₆ ← checkedRead stream
    let b₇ ← checkedRead stream
    let b₈ ← checkedRead stream
    let payloadLength := eightByteLength b₁ b₂ b₃ b₄ b₅ b₆ b₇ b₈
    if payloadLength < 65536 then
      throw (protocolError
        "Invalid data frame 4byte length. (not using minimal length encoding)")
    else if payloadLength < 0 ∨ 2 ^ 31 - 1 < payloadLength then
      throw (.webSocket .messageTooBig "Max frame length has been exceeded.")
    else pure (masked, payloadLength.toNat)
  else pure (masked, (b &&& 0x7F).toNat)

/-- `readPayloadInfo`: the length of the payload and the masking key. -/
def readPayloadInfo (opCode : OpCode) :
    EStateM ReadFailure InputStream.Position (Nat × Option MaskingKey) := do
  let (masked, payloadLength) ← readPayloadLength stream
  if opCode.isControlFrame ∧ 125 < payloadLength then
    throw (protocolError "Control frame with payload length > 125 bytes.")
  else if opCode = .close ∧ payloadLength = 1 then
    throw (protocolError "Received close frame with payload len 1.")
  else if masked then do
    let key ← stream.readFully .endOfFile 4
    if h : key.length = 4 then pure (payloadLength, some ⟨key, h⟩) else throw .endOfFile
  else pure (payloadLength, none)

variable (binary2Text : List UInt8 → Option String)

/-- `readPayload`: the payload, unmasked, and for a text one that can be
decoded. -/
def readPayload (opCode : OpCode) (payloadLength : Nat) (maskingKey : Option MaskingKey) :
    EStateM ReadFailure InputStream.Position (List UInt8) := do
  let bytes ← stream.readFully .endOfFile payloadLength
  let payload := payloadBytes maskingKey bytes
  if opCode = .text ∧ binary2Text payload = none then throw .characterCoding
  else pure payload

/-- The constructor `CloseFrame(WebSocketFrame)`. -/
def closeDetails (payload : List UInt8) : Except ReadFailure CloseDetails :=
  if 2 ≤ payload.length then
    match binary2Text (payload.drop 2) with
    | some reason => .ok ⟨CloseCode.find (bigEndian (payload.take 2)), some reason⟩
    | none => .error .characterCoding
  else .ok ⟨none, none⟩

def binaryString (n : Nat) : String := String.ofList (Nat.toDigits 2 n)

/-- `read` after the first byte. -/
def readBody (opCode : OpCode) (fin : Bool) :
    EStateM ReadFailure InputStream.Position WebSocketFrame := do
  let (payloadLength, maskingKey) ← readPayloadInfo stream opCode
  let payload ← readPayload stream binary2Text opCode payloadLength maskingKey
  if opCode = .close then
    match closeDetails binary2Text payload with
    | .ok details => pure ⟨opCode, fin, maskingKey, payload, some details⟩
    | .error e => throw e
  else pure ⟨opCode, fin, maskingKey, payload, none⟩

def read : EStateM ReadFailure InputStream.Position WebSocketFrame := do
  let head ← checkedRead stream
  let fin : Bool := head &&& 0x80 ≠ 0
  if head &&& 0x70 ≠ 0 then
    throw (protocolError
      ("The reserved bits (" ++ binaryString (head &&& 0x70).toNat ++ ") must be 0."))
  else
    match OpCode.find (head &&& 0x0F) with
    | none =>
        throw (protocolError
          ("Received frame with reserved/unknown opcode " ++ toString (head &&& 0x0F).toNat ++ "."))
    | some opCode =>
        if opCode.isControlFrame ∧ ¬ fin then throw (protocolError "Fragmented control frame.")
        else readBody stream binary2Text opCode fin

end Read

/-! ## The grammar of a frame -/

/-- The first byte says what it is made from, and nothing else. -/
theorem eq_header_iff (head : UInt8) (fin : Bool) (opCode : OpCode) :
    (head &&& 0x70 = 0 ∧ OpCode.find (head &&& 0x0F) = some opCode ∧
        fin = decide (head &&& 0x80 ≠ 0)) ↔
      head = header fin opCode := by
  revert head
  cases fin <;> cases opCode <;> decide +kernel

/-- A short length and the mask bit in one byte. -/
theorem short_length_iff (b : UInt8) (masked : Bool) (length : Nat) :
    (b &&& 0x7F ≠ 126 ∧ b &&& 0x7F ≠ 127 ∧ masked = decide (b &&& 0x80 ≠ 0) ∧
        length = (b &&& 0x7F).toNat) ↔
      length ≤ 125 ∧ b = if masked then 0x80 ||| UInt8.ofNat length else UInt8.ofNat length := by
  constructor
  · rintro ⟨h₁, h₂, rfl, rfl⟩
    revert b
    decide +kernel
  · rintro ⟨hle, rfl⟩
    have hall : ∀ n : Fin 126, ∀ masked : Bool,
        (if masked then 0x80 ||| UInt8.ofNat n else UInt8.ofNat n) &&& 0x7F ≠ 126 ∧
        (if masked then 0x80 ||| UInt8.ofNat n else UInt8.ofNat n) &&& 0x7F ≠ 127 ∧
        masked = decide ((if masked then 0x80 ||| UInt8.ofNat n else UInt8.ofNat n) &&& 0x80 ≠ 0) ∧
        n = ((if masked then 0x80 ||| UInt8.ofNat n else UInt8.ofNat n) &&& 0x7F).toNat := by
      decide +kernel
    exact hall ⟨length, by omega⟩ masked

theorem medium_length_iff (b : UInt8) (masked : Bool) :
    (b &&& 0x7F = 126 ∧ masked = decide (b &&& 0x80 ≠ 0)) ↔ b = if masked then 0xFE else 126 := by
  revert b
  cases masked <;> decide +kernel

theorem long_length_iff (b : UInt8) (masked : Bool) :
    (b &&& 0x7F = 127 ∧ masked = decide (b &&& 0x80 ≠ 0)) ↔ b = if masked then 0xFF else 127 := by
  revert b
  cases masked <;> decide +kernel

/-- One more byte at the end of a number that is put together from bytes. -/
theorem shiftLeft_or_shiftLeft (n s : Nat) (b : UInt8) :
    n <<< (8 + s) ||| b.toNat <<< s = (n * 256 + b.toNat) <<< s := by
  rw [Nat.shiftLeft_add, ← Nat.shiftLeft_or_distrib, ← Nat.shiftLeft_add_eq_or_of_lt b.toNat_lt,
    Nat.shiftLeft_eq n 8]

theorem two_bytes_iff (high low : UInt8) (length : Nat) :
    length = (high.toNat <<< 8 ||| low.toNat) &&& 0xFFFF ↔
      length ≤ 0xFFFF ∧ high = .ofNat (length >>> 8) ∧ low = .ofNat length := by
  have hvalue : (high.toNat <<< 8 ||| low.toNat) &&& 0xFFFF = high.toNat * 256 + low.toNat := by
    have h := shiftLeft_or_shiftLeft high.toNat 0 low
    rw [Nat.shiftLeft_zero, Nat.shiftLeft_zero] at h
    rw [h]
    have := high.toNat_lt
    have := low.toNat_lt
    exact (Nat.and_two_pow_sub_one_eq_mod _ 16).trans (Nat.mod_eq_of_lt (by omega))
  rw [hvalue]
  have := high.toNat_lt
  have := low.toNat_lt
  simp only [← UInt8.toNat_inj, UInt8.toNat_ofNat', Nat.shiftRight_eq_div_pow]
  omega

/-- Eight bytes whose fifth has no sign are put together as one number. -/
theorem eightByteLength_of_lt (a b c d : UInt8) {e : UInt8} (f g h : UInt8) (he : e.toNat < 128) :
    eightByteLength a b c d e f g h =
      ((((((((a.toNat * 256 + b.toNat) * 256 + c.toNat) * 256 + d.toNat) * 256 + e.toNat) * 256 +
        f.toNat) * 256 + g.toNat) * 256 + h.toNat : Nat) : Int).bmod (2 ^ 64) := by
  have hshift : e.toNat <<< 24 = e.toNat * 2 ^ 24 := Nat.shiftLeft_eq _ _
  have hlt : e.toNat <<< 24 < 2 ^ 31 := by
    rw [hshift]
    omega
  have hlong : toLong (e.toNat <<< 24) = e.toNat <<< 24 := by rw [toLong, if_pos hlt]
  have h₇ (n : Nat) : n <<< 56 ||| b.toNat <<< 48 = (n * 256 + b.toNat) <<< 48 :=
    shiftLeft_or_shiftLeft n 48 b
  have h₆ (n : Nat) : n <<< 48 ||| c.toNat <<< 40 = (n * 256 + c.toNat) <<< 40 :=
    shiftLeft_or_shiftLeft n 40 c
  have h₅ (n : Nat) : n <<< 40 ||| d.toNat <<< 32 = (n * 256 + d.toNat) <<< 32 :=
    shiftLeft_or_shiftLeft n 32 d
  have h₄ (n : Nat) : n <<< 32 ||| e.toNat <<< 24 = (n * 256 + e.toNat) <<< 24 :=
    shiftLeft_or_shiftLeft n 24 e
  have h₃ (n : Nat) : n <<< 24 ||| f.toNat <<< 16 = (n * 256 + f.toNat) <<< 16 :=
    shiftLeft_or_shiftLeft n 16 f
  have h₂ (n : Nat) : n <<< 16 ||| g.toNat <<< 8 = (n * 256 + g.toNat) <<< 8 :=
    shiftLeft_or_shiftLeft n 8 g
  have h₁ (n : Nat) : n <<< 8 ||| h.toNat = n * 256 + h.toNat := by
    have hlast := shiftLeft_or_shiftLeft n 0 h
    rwa [Nat.shiftLeft_zero, Nat.shiftLeft_zero] at hlast
  unfold eightByteLength
  rw [hlong, h₇, h₆, h₅, h₄, h₃, h₂, h₁]

/-- A fifth byte with its top bit set makes the length negative. -/
theorem eightByteLength_neg (a b c d : UInt8) {e : UInt8} (f g h : UInt8) (he : 128 ≤ e.toNat) :
    eightByteLength a b c d e f g h < 0 := by
  have hbyte (x : UInt8) (s : Nat) (hs : s ≤ 56) : x.toNat <<< s < 2 ^ 64 := by
    rw [Nat.shiftLeft_eq]
    calc x.toNat * 2 ^ s < 2 ^ 8 * 2 ^ s := by
          exact (Nat.mul_lt_mul_right (Nat.two_pow_pos s)).mpr x.toNat_lt
      _ = 2 ^ (8 + s) := (Nat.pow_add 2 8 s).symm
      _ ≤ 2 ^ 64 := Nat.pow_le_pow_right (by decide) (by omega)
  have hshift : e.toNat <<< 24 = e.toNat * 2 ^ 24 := Nat.shiftLeft_eq _ _
  have hge : ¬ e.toNat <<< 24 < 2 ^ 31 := by
    rw [hshift]
    omega
  have hlong : toLong (e.toNat <<< 24) = e.toNat * 2 ^ 24 + (2 ^ 64 - 2 ^ 32) := by
    rw [toLong, if_neg hge, hshift]
  have he' := e.toNat_lt
  have hbound : toLong (e.toNat <<< 24) < 2 ^ 64 := by
    rw [hlong]
    omega
  have hlt : a.toNat <<< 56 ||| b.toNat <<< 48 ||| c.toNat <<< 40 ||| d.toNat <<< 32 |||
      toLong (e.toNat <<< 24) ||| f.toNat <<< 16 ||| g.toNat <<< 8 ||| h.toNat < 2 ^ 64 := by
    have hupper := Nat.or_lt_two_pow (Nat.or_lt_two_pow (Nat.or_lt_two_pow (hbyte a 56 (by decide))
      (hbyte b 48 (by decide))) (hbyte c 40 (by decide))) (hbyte d 32 (by decide))
    exact Nat.or_lt_two_pow (Nat.or_lt_two_pow (Nat.or_lt_two_pow (Nat.or_lt_two_pow hupper hbound)
      (hbyte f 16 (by decide))) (hbyte g 8 (by decide))) (lt_of_lt_of_le h.toNat_lt (by decide))
  have hle : toLong (e.toNat <<< 24) ≤ a.toNat <<< 56 ||| b.toNat <<< 48 ||| c.toNat <<< 40 |||
      d.toNat <<< 32 ||| toLong (e.toNat <<< 24) ||| f.toNat <<< 16 ||| g.toNat <<< 8 ||| h.toNat :=
    Nat.right_le_or.trans (Nat.left_le_or.trans (Nat.left_le_or.trans Nat.left_le_or))
  unfold eightByteLength
  rw [Int.bmod_def]
  generalize a.toNat <<< 56 ||| b.toNat <<< 48 ||| c.toNat <<< 40 ||| d.toNat <<< 32 |||
      toLong (e.toNat <<< 24) ||| f.toNat <<< 16 ||| g.toNat <<< 8 ||| h.toNat = bits at *
  split <;> omega

/-- The lengths that eight bytes may say: a long length is accepted in its
one form, the upper four bytes zero. -/
theorem eight_bytes_iff (a b c d e f g h : UInt8) (length : Nat) :
    (¬ eightByteLength a b c d e f g h < 65536 ∧
        ¬ (eightByteLength a b c d e f g h < 0 ∨ 2 ^ 31 - 1 < eightByteLength a b c d e f g h) ∧
        length = (eightByteLength a b c d e f g h).toNat) ↔
      0xFFFF < length ∧ length ≤ 2 ^ 31 - 1 ∧
        [a, b, c, d, e, f, g, h] = [0, 0, 0, 0, .ofNat (length >>> 24), .ofNat (length >>> 16),
          .ofNat (length >>> 8), .ofNat length] := by
  have ha := a.toNat_lt
  have hb := b.toNat_lt
  have hc := c.toNat_lt
  have hd := d.toNat_lt
  have he := e.toNat_lt
  have hf := f.toNat_lt
  have hg := g.toNat_lt
  have hh := h.toNat_lt
  simp only [List.cons.injEq, and_true, ← UInt8.toNat_inj, UInt8.toNat_ofNat', UInt8.toNat_zero,
    Nat.shiftRight_eq_div_pow]
  by_cases hsign : e.toNat < 128
  · rw [eightByteLength_of_lt a b c d f g h hsign, Int.bmod_def]
    split <;> omega
  · have hneg := eightByteLength_neg a b c d f g h (not_lt.mp hsign)
    omega

section Grammar

variable {stream : InputStream}

theorem reads_payloadLength :
    Reads stream ReadFailure.endOfFile (readPayloadLength stream)
      (fun r bytes => r.2 ≤ 2 ^ 31 - 1 ∧ bytes = lengthBytes r.1 r.2) := by
  unfold readPayloadLength checkedRead
  refine (Reads.byte_bind fun b => Reads.ite
    (fun _ => Reads.byte_bind fun high => Reads.byte_bind fun low => Reads.check fun _ => .pure _)
    (fun _ => Reads.ite
      (fun _ => Reads.byte_bind fun b₁ => Reads.byte_bind fun b₂ => Reads.byte_bind fun b₃ =>
        Reads.byte_bind fun b₄ => Reads.byte_bind fun b₅ => Reads.byte_bind fun b₆ =>
        Reads.byte_bind fun b₇ => Reads.byte_bind fun b₈ =>
        Reads.check fun _ => Reads.check fun _ => .pure _)
      (fun _ => .pure _))).congr ?_
  rintro ⟨masked, length⟩ bytes
  simp only [Prod.mk.injEq]
  constructor
  · rintro ⟨b, more, hcases, rfl⟩
    rcases hcases with ⟨hb, high, more, ⟨low, more, ⟨hmin, ⟨rfl, hlength⟩, rfl⟩, rfl⟩, rfl⟩ |
      ⟨hb, ⟨hb', b₁, _, ⟨b₂, _, ⟨b₃, _, ⟨b₄, _, ⟨b₅, _, ⟨b₆, _, ⟨b₇, _, ⟨b₈, _, ⟨hmin, hmax,
        ⟨rfl, hlength⟩, rfl⟩, rfl⟩, rfl⟩, rfl⟩, rfl⟩, rfl⟩, rfl⟩, rfl⟩, rfl⟩ |
        ⟨hb', ⟨rfl, hlength⟩, rfl⟩⟩
    · obtain ⟨hle, hhigh, hlow⟩ := (two_bytes_iff high low length).mp hlength
      have hfirst := (medium_length_iff b _).mp ⟨hb, rfl⟩
      rw [← hlength] at hmin
      rw [lengthBytes, if_neg (by omega), if_pos hle, ← hfirst, ← hhigh, ← hlow]
      exact ⟨by omega, rfl⟩
    · obtain ⟨hgt, hle, hbytes⟩ :=
        (eight_bytes_iff b₁ b₂ b₃ b₄ b₅ b₆ b₇ b₈ length).mp ⟨hmin, hmax, hlength⟩
      have hfirst := (long_length_iff b _).mp ⟨hb', rfl⟩
      rw [lengthBytes, if_neg (by omega), if_neg (by omega), ← hfirst, ← hbytes]
      exact ⟨hle, rfl⟩
    · obtain ⟨hle, hfirst⟩ := (short_length_iff b _ length).mp ⟨hb, hb', rfl, hlength⟩
      rw [lengthBytes, if_pos hle, ← hfirst]
      exact ⟨by omega, rfl⟩
  · rintro ⟨hle, rfl⟩
    by_cases hshort : length ≤ 125
    · rw [lengthBytes, if_pos hshort]
      obtain ⟨h₁, h₂, hmasked, hlength⟩ := (short_length_iff _ masked length).mpr ⟨hshort, rfl⟩
      exact ⟨_, [], .inr ⟨h₁, .inr ⟨h₂, ⟨hmasked, hlength⟩, rfl⟩⟩, rfl⟩
    by_cases hmedium : length ≤ 0xFFFF
    · rw [lengthBytes, if_neg hshort, if_pos hmedium]
      obtain ⟨hb, hmasked⟩ := (medium_length_iff _ masked).mpr rfl
      have hlength := (two_bytes_iff _ _ length).mpr ⟨hmedium, rfl, rfl⟩
      exact ⟨_, _, .inl ⟨hb, _, _, ⟨_, _, ⟨by rw [← hlength]; omega, ⟨hmasked, hlength⟩, rfl⟩, rfl⟩,
        rfl⟩, rfl⟩
    · rw [lengthBytes, if_neg hshort, if_neg hmedium]
      obtain ⟨hb, hmasked⟩ := (long_length_iff _ masked).mpr rfl
      obtain ⟨hmin, hmax, hlength⟩ := (eight_bytes_iff 0 0 0 0 _ _ _ _ length).mpr
        ⟨by omega, hle, rfl⟩
      exact ⟨_, _, .inr ⟨by rw [hb]; decide, .inl ⟨hb, 0, _, ⟨0, _, ⟨0, _, ⟨0, _, ⟨_, _, ⟨_, _,
        ⟨_, _, ⟨_, _, ⟨hmin, hmax, ⟨hmasked, hlength⟩, rfl⟩, rfl⟩, rfl⟩, rfl⟩, rfl⟩, rfl⟩, rfl⟩, rfl⟩,
        rfl⟩⟩, rfl⟩

/-- Which payload lengths an opcode allows. -/
def Allows (opCode : OpCode) (length : Nat) : Prop :=
  length ≤ 2 ^ 31 - 1 ∧ (opCode.isControlFrame = true → length ≤ 125) ∧
    (opCode = .close → length ≠ 1)

theorem reads_payloadInfo (opCode : OpCode) :
    Reads stream ReadFailure.endOfFile (readPayloadInfo stream opCode)
      (fun r bytes => Allows opCode r.1 ∧ bytes = lengthBytes r.2.isSome r.1 ++ keyBytes r.2) := by
  unfold readPayloadInfo
  refine (reads_payloadLength.bind fun r => Reads.check fun _ => Reads.check fun _ => Reads.ite
    (fun _ => (Reads.readFully 4).bind fun key => Reads.dite (fun h => .pure _) (fun _ => .throw _))
    (fun _ => .pure _)).congr ?_
  rintro ⟨length, key⟩ bytes
  simp only [Prod.mk.injEq]
  constructor
  · rintro ⟨⟨masked, n⟩, xs, ys, ⟨hle, rfl⟩, ⟨hcontrol, hclose, hkey⟩, rfl⟩
    have hallows : Allows opCode n :=
      ⟨hle, fun h => not_lt.mp fun hlt => hcontrol ⟨h, hlt⟩, fun h hone => hclose ⟨h, hone⟩⟩
    rcases hkey with ⟨rfl, got, xs, ys, ⟨rfl, hfour⟩, ⟨_, ⟨rfl, rfl⟩, rfl⟩ | ⟨_, hfalse⟩, rfl⟩ |
      ⟨hmasked, ⟨rfl, rfl⟩, rfl⟩
    · exact ⟨hallows, by rw [List.append_nil]; rfl⟩
    · exact hfalse.elim
    · rw [Bool.not_eq_true] at hmasked
      exact ⟨hallows, by rw [show masked = false from hmasked]; rfl⟩
  · rintro ⟨⟨hle, hcontrol, hclose⟩, rfl⟩
    refine ⟨(key.isSome, length), _, _, ⟨hle, rfl⟩, ⟨?_, ?_, ?_⟩, rfl⟩
    · exact fun h => absurd (hcontrol h.1) (not_le.mpr h.2)
    · exact fun h => hclose h.1 h.2
    · cases key with
      | none => exact .inr ⟨Bool.false_ne_true, ⟨rfl, rfl⟩, rfl⟩
      | some key =>
        exact .inl ⟨rfl, key.val, key.val, [], ⟨rfl, key.property⟩,
          .inl ⟨key.property, ⟨rfl, rfl⟩, rfl⟩, (List.append_nil _).symm⟩

@[simp] theorem payloadBytes_payloadBytes (key : Option MaskingKey) (payload : List UInt8) :
    payloadBytes key (payloadBytes key payload) = payload := by
  cases key with
  | none => rfl
  | some key => exact applyMask_applyMask key payload

@[simp] theorem length_payloadBytes (key : Option MaskingKey) (payload : List UInt8) :
    (payloadBytes key payload).length = payload.length := by
  cases key with
  | none => rfl
  | some key => exact length_applyMask key payload

variable (binary2Text : List UInt8 → Option String)

theorem reads_payload (opCode : OpCode) (length : Nat) (key : Option MaskingKey) :
    Reads stream ReadFailure.endOfFile (readPayload stream binary2Text opCode length key)
      (fun payload bytes => payload.length = length ∧
        (opCode = .text → binary2Text payload ≠ none) ∧ bytes = payloadBytes key payload) := by
  unfold readPayload
  refine ((Reads.readFully length).bind fun got => Reads.check fun _ => .pure _).congr ?_
  intro payload bytes
  constructor
  · rintro ⟨got, xs, ys, ⟨rfl, hlength⟩, ⟨htext, rfl, rfl⟩, rfl⟩
    exact ⟨by rw [length_payloadBytes, hlength], fun h hnone => htext ⟨h, hnone⟩, by simp⟩
  · rintro ⟨hlength, htext, rfl⟩
    refine ⟨payloadBytes key payload, _, [], ⟨rfl, by simpa using hlength⟩, ⟨?_, ?_, rfl⟩, by simp⟩
    · rw [payloadBytes_payloadBytes]
      exact fun h => htext h.1 h.2
    · rw [payloadBytes_payloadBytes]

/-- The frames that a connection accepts. -/
structure WellFormed (frame : WebSocketFrame) : Prop where
  allows : Allows frame.opCode frame.payload.length
  control : frame.opCode.isControlFrame = true → frame.fin = true
  text : frame.opCode = .text → binary2Text frame.payload ≠ none
  close : frame.opCode = .close →
    ∃ details, closeDetails binary2Text frame.payload = .ok details ∧ frame.closing = some details
  other : frame.opCode ≠ .close → frame.closing = none

theorem wellFormed_of_short {frame : WebSocketFrame} (hlength : frame.payload.length ≤ 125)
    (hfin : frame.opCode.isControlFrame = true → frame.fin = true)
    (htext : frame.opCode = .text → binary2Text frame.payload ≠ none) (hclose : frame.opCode ≠ .close)
    (hclosing : frame.closing = none) : frame.WellFormed binary2Text where
  allows := ⟨by omega, fun _ => hlength, fun h => absurd h hclose⟩
  control := hfin
  text := htext
  close := fun h => absurd h hclose
  other := fun _ => hclosing

/-- The bytes after the first one. -/
def writeTail (frame : WebSocketFrame) : List UInt8 :=
  lengthBytes frame.maskingKey.isSome frame.payload.length ++ keyBytes frame.maskingKey ++
    payloadBytes frame.maskingKey frame.payload

/-- What follows a first byte with the opcode `opCode`. -/
theorem reads_body {opCode : OpCode} {fin : Bool} (hfin : opCode.isControlFrame = true → fin = true) :
    Reads stream ReadFailure.endOfFile (readBody stream binary2Text opCode fin)
      (fun frame bytes => (frame.opCode = opCode ∧ frame.fin = fin) ∧ frame.WellFormed binary2Text ∧
        bytes = frame.writeTail) := by
  have hclosing (maskingKey : Option MaskingKey) (payload : List UInt8) :
      Reads stream ReadFailure.endOfFile
        (match closeDetails binary2Text payload with
          | .ok details => (pure ⟨opCode, fin, maskingKey, payload, some details⟩ :
              EStateM ReadFailure InputStream.Position WebSocketFrame)
          | .error e => throw e)
        (fun frame bytes => (∃ details, closeDetails binary2Text payload = .ok details ∧
          frame = ⟨opCode, fin, maskingKey, payload, some details⟩) ∧ bytes = []) := by
    cases hdetails : closeDetails binary2Text payload with
    | error e => exact (Reads.throw e).congr fun frame bytes => by simp
    | ok details => exact (Reads.pure _).congr fun frame bytes => by simp
  refine ((reads_payloadInfo opCode).bind fun r => (reads_payload binary2Text opCode r.1 r.2).bind
    fun payload => Reads.ite (fun _ => hclosing r.2 payload) (fun _ => .pure _)).congr ?_
  intro frame bytes
  constructor
  · rintro ⟨⟨length, key⟩, xs, ys, ⟨hallows, rfl⟩, ⟨payload, zs, ws, ⟨hlength, htext, rfl⟩, hend, rfl⟩,
      rfl⟩
    obtain rfl : payload.length = length := hlength
    rcases hend with ⟨hclose, ⟨details, hdetails, rfl⟩, rfl⟩ | ⟨hother, rfl, rfl⟩
    · refine ⟨⟨rfl, rfl⟩, ⟨hallows, hfin, htext, fun _ => ⟨details, hdetails, rfl⟩,
        fun h => absurd hclose h⟩, ?_⟩
      rw [List.append_nil]
      rfl
    · refine ⟨⟨rfl, rfl⟩, ⟨hallows, hfin, htext, fun h => absurd h hother, fun _ => rfl⟩, ?_⟩
      rw [List.append_nil]
      rfl
  · rintro ⟨⟨rfl, rfl⟩, hframe, rfl⟩
    refine ⟨(frame.payload.length, frame.maskingKey), _, _, ⟨hframe.allows, rfl⟩,
      ⟨frame.payload, _, [], ⟨rfl, hframe.text, rfl⟩, ?_, rfl⟩, ?_⟩
    · by_cases hclose : frame.opCode = .close
      · obtain ⟨details, hdetails, heq⟩ := hframe.close hclose
        exact .inl ⟨hclose, ⟨details, hdetails, by rw [← heq]⟩, rfl⟩
      · exact .inr ⟨hclose, by rw [← hframe.other hclose], rfl⟩
    · rw [List.append_nil]
      rfl

/-- Reading and writing agree: a frame is read exactly from the bytes that
writing it gives, and only if it is well formed. -/
theorem reads_frame :
    Reads stream ReadFailure.endOfFile (read stream binary2Text)
      (fun frame bytes => frame.WellFormed binary2Text ∧ bytes = frame.write) := by
  refine (Reads.byte_bind (S := fun head frame bytes => head = header frame.fin frame.opCode ∧
    frame.WellFormed binary2Text ∧ bytes = frame.writeTail) fun head => ?_).congr ?_
  · refine (Reads.check (R := fun frame bytes => head = header frame.fin frame.opCode ∧
      frame.WellFormed binary2Text ∧ bytes = frame.writeTail) fun hreserved => ?_).congr ?_
    · cases hfind : OpCode.find (head &&& 0x0F) with
      | none =>
        refine (Reads.throw _).congr fun frame bytes => ⟨False.elim, ?_⟩
        rintro ⟨hhead, -⟩
        cases hfind.symm.trans ((eq_header_iff head _ _).mpr hhead).2.1
      | some opCode =>
        refine (Reads.check fun hcontrol => reads_body binary2Text ?_).congr ?_
        · intro h
          by_contra hfin
          exact hcontrol ⟨h, hfin⟩
        · intro frame bytes
          constructor
          · rintro ⟨-, ⟨hop, hfin⟩, hframe, rfl⟩
            exact ⟨(eq_header_iff head _ _).mp ⟨not_not.mp hreserved, hop ▸ hfind, hfin⟩, hframe, rfl⟩
          · rintro ⟨hhead, hframe, rfl⟩
            obtain ⟨-, hop, hfin⟩ := (eq_header_iff head _ _).mpr hhead
            obtain rfl : opCode = frame.opCode := Option.some.inj (hfind.symm.trans hop)
            exact ⟨fun h => h.2 (hfin ▸ hframe.control h.1), ⟨rfl, hfin⟩, hframe, rfl⟩
    · -- the reserved bits of a first byte are zero
      intro frame bytes
      refine ⟨fun h => h.2, fun h => ⟨not_not.mpr ((eq_header_iff _ _ _).mpr h.1).1, h⟩⟩
  · intro frame bytes
    constructor
    · rintro ⟨head, more, ⟨rfl, hframe, rfl⟩, rfl⟩
      exact ⟨hframe, rfl⟩
    · rintro ⟨hframe, rfl⟩
      exact ⟨_, _, ⟨rfl, hframe, rfl⟩, rfl⟩

end Grammar

/-- Frames on the wire, wherever a reader is in whatever stream: what is
read is a well-formed frame, and the bytes taken are those it is written
as; such a frame is read back, with all that follows left in the stream;
and a frame that breaks off is an early end. -/
theorem read_frame_iff (stream : InputStream) (binary2Text : List UInt8 → Option String)
    {pos : InputStream.Position} (hpos : stream.Valid pos) :
    (∀ frame pos', (read stream binary2Text).run pos = .ok frame pos' →
      frame.WellFormed binary2Text ∧ stream.rest pos = frame.write ++ stream.rest pos') ∧
    (∀ (frame : WebSocketFrame) (rest : List UInt8), frame.WellFormed binary2Text →
      stream.rest pos = frame.write ++ rest →
      ∃ pos', (read stream binary2Text).run pos = .ok frame pos' ∧ stream.rest pos' = rest) ∧
    (∀ frame : WebSocketFrame, frame.WellFormed binary2Text → stream.rest pos <+: frame.write →
      stream.rest pos ≠ frame.write →
      ∃ pos', (read stream binary2Text).run pos = .error .endOfFile pos') := by
  have hreads := @reads_frame stream binary2Text
  refine ⟨fun frame pos' hrun => ?_, fun frame rest hframe hrest => ?_,
    fun frame hframe hfront hne => ?_⟩
  · obtain ⟨bytes, ⟨hframe, rfl⟩, hrest, -⟩ := hreads.sound hpos hrun
    exact ⟨hframe, hrest⟩
  · exact hreads.complete hpos ⟨hframe, rfl⟩ hrest
  · exact hreads.truncated hpos ⟨hframe, rfl⟩ hfront hne

/-- A masked ping, byte by byte. -/
theorem read_frame_iff_ping :
    let ping : WebSocketFrame := ⟨.ping, true, some ⟨[1, 2, 3, 4], rfl⟩, [72, 105], none⟩
    ping.write = [0x89, 0x82, 1, 2, 3, 4, 73, 107] ∧
      ∃ pos', (read (.bytewise ping.write) fun _ => none).run {} = .ok ping pos' ∧
        (InputStream.bytewise ping.write).rest pos' = [] := by
  refine ⟨by decide +kernel, ?_⟩
  refine (read_frame_iff (.bytewise _) _ (Nat.zero_le _)).2.1 _ [] ?_ (List.append_nil _).symm
  exact wellFormed_of_short _ (by decide) (by decide) (by decide) (by decide) rfl

end WebSocketFrame

end BitMesh.Transport
