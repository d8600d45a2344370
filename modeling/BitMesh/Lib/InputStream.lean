import Mathlib

/-!
# Input streams

`java.io.InputStream` over a sequence of bytes that arrives piece by piece
and then ends. Which bytes have arrived at a call, and how many of them a
read hands over, is up to the stream.
-/

namespace BitMesh.Lib

/-- What a stream does: the bytes it delivers before it ends, how many of
them have arrived at its `k`-th call, and how many the `k`-th call would
like to hand over. -/
structure InputStream where
  bytes : List UInt8
  arrived : Nat → Nat
  handed : Nat → Nat
  arrived_mono : Monotone arrived
  arrived_le : ∀ k, arrived k ≤ bytes.length
  arrives : ∃ k, arrived k = bytes.length

namespace InputStream

/-- Where a reader is: how often it has called, and how much it has taken. -/
structure Position where
  calls : Nat := 0
  taken : Nat := 0

variable (stream : InputStream)

/-- `available()`: what can be read without blocking, 0 at the end. -/
def available (pos : Position) : Nat := stream.arrived pos.calls - pos.taken

/-- How many bytes `read(buf, off, len)` copies: at least one if `len` is
positive and the stream has not ended, and no more than `len`. -/
def count (pos : Position) (len : Nat) : Nat :=
  min (max 1 (stream.handed pos.calls)) (min len (stream.bytes.length - pos.taken))

/-- The bytes `read(buf, off, len)` copies. -/
def chunk (pos : Position) (len : Nat) : List UInt8 :=
  (stream.bytes.drop pos.taken).take (stream.count pos len)

/-- What `read(buf, off, len)` returns. -/
def returned (pos : Position) (len : Nat) : Int :=
  if len = 0 then 0
  else if pos.taken = stream.bytes.length then -1
  else stream.count pos len

/-- The stream after `read(buf, off, len)`. -/
def advance (pos : Position) (len : Nat) : Position :=
  ⟨pos.calls + 1, pos.taken + stream.count pos len⟩

variable {stream}

theorem available_le (pos : Position) :
    stream.available pos ≤ stream.bytes.length - pos.taken :=
  Nat.sub_le_sub_right (stream.arrived_le _) _

theorem count_le (pos : Position) (len : Nat) :
    stream.count pos len ≤ stream.bytes.length - pos.taken := by
  unfold count
  omega

theorem count_le_len (pos : Position) (len : Nat) : stream.count pos len ≤ len := by
  unfold count
  omega

theorem one_le_count {pos : Position} {len : Nat} (hlen : 0 < len) (h : pos.taken < stream.bytes.length) :
    1 ≤ stream.count pos len := by
  unfold count
  omega

theorem length_chunk (pos : Position) (len : Nat) :
    (stream.chunk pos len).length = stream.count pos len := by
  rw [chunk, List.length_take, List.length_drop]
  exact Nat.min_eq_left (count_le pos len)

/-- A read of what is available returns what it copies: it does not see the
end of the stream. -/
theorem returned_available (pos : Position) :
    stream.returned pos (stream.available pos) = stream.count pos (stream.available pos) := by
  have hcount := stream.count_le_len pos (stream.available pos)
  have havailable := stream.available_le pos
  unfold returned
  split
  · omega
  · rw [if_neg (by omega)]

end InputStream

end BitMesh.Lib
