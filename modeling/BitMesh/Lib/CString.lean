import Mathlib

/-!
# C strings

NUL-terminated strings, character arrays, and buffers that are written
piece by piece. A function that looks for the terminator reads on through
memory until it finds one, and a write goes where it is told to: what was
read and written is kept, so that it can be compared with the arrays it was
meant for.
-/

namespace BitMesh.Lib

/-- A NUL-terminated string, without its terminator. -/
structure CString where
  chars : List UInt8
  noNul : ∀ c ∈ chars, c ≠ 0

/-- `char array[n]`. -/
structure CharArray (n : Nat) where
  bytes : List UInt8
  size : bytes.length = n

/-- What a scan for the terminator passes; past the end of what is given
there is one. -/
def beforeNul (memory : List UInt8) : List UInt8 := memory.takeWhile (· ≠ 0)

theorem beforeNul_eq (memory : List UInt8) :
    beforeNul memory =
      if memory.headD 0 = 0 then [] else memory.headD 0 :: beforeNul memory.tail := by
  cases memory with
  | nil => rfl
  | cons c rest =>
      by_cases h : c = 0
      · simp [beforeNul, h]
      · simp [beforeNul, h]

theorem beforeNul_of_noNul {bytes : List UInt8} (h : ∀ c ∈ bytes, c ≠ 0) :
    beforeNul bytes = bytes := by
  simpa [beforeNul] using h

theorem noNul_beforeNul {memory : List UInt8} {c : UInt8} (h : c ∈ beforeNul memory) : c ≠ 0 := by
  simpa using List.mem_takeWhile_imp h

theorem length_beforeNul_le (memory : List UInt8) : (beforeNul memory).length ≤ memory.length :=
  (List.takeWhile_sublist _).length_le

/-- A terminator ends the scan, whatever comes behind it. -/
theorem beforeNul_append_nul {bytes : List UInt8} (h : ∀ c ∈ bytes, c ≠ 0)
    (rest : List UInt8) : beforeNul (bytes ++ 0 :: rest) = bytes := by
  unfold beforeNul
  rw [List.takeWhile_append_of_pos (by simpa using h), List.takeWhile_cons_of_neg (by simp),
    List.append_nil]

/-- If the scan stops within the first bytes, it does not see the others. -/
theorem beforeNul_append {bytes : List UInt8} (h : (beforeNul bytes).length < bytes.length)
    (rest : List UInt8) : beforeNul (bytes ++ rest) = beforeNul bytes := by
  unfold beforeNul at h ⊢
  rw [List.takeWhile_append, if_neg (Nat.ne_of_lt h)]

/-! ## Arrays -/

namespace CharArray

variable {n : Nat}

/-- The string an array holds, or all of it. -/
def text (array : CharArray n) : List UInt8 := beforeNul array.bytes

/-- There is a terminator inside. -/
def Terminated (array : CharArray n) : Prop := array.text.length < n

theorem length_text_le (array : CharArray n) : array.text.length ≤ n := by
  have h := length_beforeNul_le array.bytes
  rwa [array.size] at h

/-- A terminated array is read within its bounds, and only then. -/
theorem beforeNul_bytes_append {array : CharArray n} (h : array.Terminated) (rest : List UInt8) :
    beforeNul (array.bytes ++ rest) = array.text := by
  apply beforeNul_append
  rw [array.size]
  exact h

theorem terminated_of_beforeNul {array : CharArray n} {rest : List UInt8}
    (h : (beforeNul (array.bytes ++ rest)).length < n) : array.Terminated := by
  by_contra hfull
  have htext := array.length_text_le
  have hlength : array.text.length = n := by
    unfold Terminated at hfull
    omega
  unfold text beforeNul at hlength
  unfold beforeNul at h
  rw [List.takeWhile_append, if_pos (by rw [hlength, array.size])] at h
  rw [List.length_append, array.size] at h
  omega

end CharArray

/-- `strncpy(array, src, n)`: what is left of the array is filled with NUL. -/
def strncpy (n : Nat) (src : CString) : CharArray n where
  bytes := (src.chars ++ List.replicate n 0).take n
  size := by simp

/-- `strncmp(a, b, n) == 0`. -/
def strncmp : Nat → List UInt8 → List UInt8 → Bool
  | 0, _, _ => true
  | n + 1, a, b =>
      if a.headD 0 ≠ b.headD 0 then false
      else if a.headD 0 = 0 then true
      else strncmp n a.tail b.tail

theorem text_strncpy (n : Nat) (src : CString) : (strncpy n src).text = src.chars.take n := by
  have hnoNul : ∀ c ∈ src.chars.take n, c ≠ 0 := fun c hc => src.noNul c (List.mem_of_mem_take hc)
  show beforeNul ((src.chars ++ List.replicate n 0).take n) = _
  rw [List.take_append]
  cases hrest : (List.replicate n (0 : UInt8)).take (n - src.chars.length) with
  | nil => rw [List.append_nil, beforeNul_of_noNul hnoNul]
  | cons c rest =>
      have hc : c = 0 := by
        have hmem : c ∈ (List.replicate n (0 : UInt8)).take (n - src.chars.length) := by
          rw [hrest]
          exact List.mem_cons_self
        exact List.eq_of_mem_replicate (List.mem_of_mem_take hmem)
      rw [hc, beforeNul_append_nul hnoNul]

theorem terminated_strncpy_iff {n : Nat} {src : CString} :
    (strncpy n src).Terminated ↔ src.chars.length < n := by
  unfold CharArray.Terminated
  rw [text_strncpy, List.length_take]
  omega

theorem strncmp_iff (n : Nat) (a b : List UInt8) :
    strncmp n a b = true ↔ (beforeNul a).take n = (beforeNul b).take n := by
  induction n generalizing a b with
  | zero => simp [strncmp]
  | succ n ih =>
      rw [strncmp, beforeNul_eq a, beforeNul_eq b]
      generalize a.headD 0 = x, b.headD 0 = y
      by_cases hxy : x = y
      · subst hxy
        by_cases hnul : x = 0
        · simp [hnul]
        · simp [hnul, ih]
      · -- of two different characters one is not NUL
        by_cases hx : x = 0
        · have hy : y ≠ 0 := fun hy => hxy (hx.trans hy.symm)
          simp [hx, hy, hy.symm]
        · by_cases hy : y = 0
          · simp [hx, hy]
          · simp [hx, hy, hxy]

/-- A string is compared with what an array holds of it. -/
theorem strncmp_text_iff {n : Nat} (src : CString) (array : CharArray n) :
    strncmp n src.chars array.bytes = true ↔ array.text = src.chars.take n := by
  rw [strncmp_iff, beforeNul_of_noNul src.noNul]
  show _ = array.text.take n ↔ _
  rw [List.take_of_length_le array.length_text_le]
  exact eq_comm

/-! ## Buffers -/

/-- The memory from the start of a buffer on, and the offsets that were
written. -/
structure Buffer where
  memory : Nat → UInt8
  written : List Nat

namespace Buffer

def put (buffer : Buffer) (offset : Nat) (c : UInt8) : Buffer where
  memory i := if i = offset then c else buffer.memory i
  written := buffer.written ++ [offset]

def write (buffer : Buffer) (offset : Nat) : List UInt8 → Buffer
  | [] => buffer
  | c :: rest => (buffer.put offset c).write (offset + 1) rest

/-- `snprintf(buffer + offset, size, ...)` with this output. The source uses
what it returns, the length of the output. -/
def snprintf (buffer : Buffer) (offset size : Nat) (output : List UInt8) : Buffer :=
  buffer.write offset (output.take (size - 1) ++ [0])

/-- The string at the start of a buffer of `size` bytes. -/
def text (buffer : Buffer) (size : Nat) : List UInt8 :=
  beforeNul ((List.range size).map buffer.memory)

/-- The buffer begins with these bytes. -/
def Begins (buffer : Buffer) (bytes : List UInt8) : Prop :=
  ∀ i c, bytes[i]? = some c → buffer.memory i = c

theorem written_write (buffer : Buffer) (offset : Nat) (bytes : List UInt8) :
    (buffer.write offset bytes).written = buffer.written ++ List.range' offset bytes.length := by
  induction bytes generalizing buffer offset with
  | nil => simp [write]
  | cons c rest ih =>
      rw [write, ih]
      simp [put, List.range'_succ]

theorem memory_write_of_lt (buffer : Buffer) {offset i : Nat} (h : i < offset)
    (bytes : List UInt8) : (buffer.write offset bytes).memory i = buffer.memory i := by
  induction bytes generalizing buffer offset with
  | nil => rfl
  | cons c rest ih =>
      rw [write, ih _ (by omega)]
      simp [put, Nat.ne_of_lt h]

theorem memory_write (buffer : Buffer) (offset : Nat) {bytes : List UInt8} {i : Nat} {c : UInt8}
    (h : bytes[i]? = some c) : (buffer.write offset bytes).memory (offset + i) = c := by
  induction bytes generalizing buffer offset i with
  | nil => simp at h
  | cons b rest ih =>
      cases i with
      | zero =>
          rw [write, memory_write_of_lt _ (by omega)]
          simpa [put] using h
      | succ i =>
          rw [write, show offset + (i + 1) = (offset + 1) + i by omega]
          exact ih _ _ (by simpa using h)

theorem begins_nil (buffer : Buffer) : buffer.Begins [] := by
  intro i c h
  simp at h

/-- What is written behind the first bytes follows them. -/
theorem Begins.write {buffer : Buffer} {bytes : List UInt8} (h : buffer.Begins bytes)
    (more : List UInt8) : (buffer.write bytes.length more).Begins (bytes ++ more) := by
  intro i c hi
  rw [List.getElem?_append] at hi
  split at hi
  · rename_i hlt
    rw [memory_write_of_lt _ hlt]
    exact h i c hi
  · rename_i hge
    have hmore := memory_write buffer bytes.length hi
    rwa [Nat.add_sub_cancel' (by omega)] at hmore

theorem Begins.append_left {buffer : Buffer} {bytes more : List UInt8}
    (h : buffer.Begins (bytes ++ more)) : buffer.Begins bytes := by
  intro i c hi
  apply h i c
  rw [List.getElem?_append_left (List.getElem?_eq_some_iff.mp hi).1]
  exact hi

/-- Output that fits follows the first bytes, and so does its terminator. -/
theorem Begins.snprintf {buffer : Buffer} {bytes : List UInt8} (h : buffer.Begins bytes)
    {size : Nat} {output : List UInt8} (hfits : output.length < size) :
    (buffer.snprintf bytes.length size output).Begins (bytes ++ output) := by
  unfold Buffer.snprintf
  rw [List.take_of_length_le (by omega)]
  have hboth := h.write (output ++ [0])
  rw [← List.append_assoc] at hboth
  exact hboth.append_left

/-- A terminator behind the first bytes makes them the string. -/
theorem Begins.text {buffer : Buffer} {bytes : List UInt8} {size : Nat}
    (h : buffer.Begins (bytes ++ [0])) (hnoNul : ∀ c ∈ bytes, c ≠ 0) (hsize : bytes.length < size) :
    buffer.text size = bytes := by
  have hmemory : (List.range size).map buffer.memory = (bytes ++ [0]) ++
      ((List.range size).map buffer.memory).drop (bytes.length + 1) := by
    apply List.ext_getElem?
    intro i
    rw [List.getElem?_append]
    split
    · rename_i hlt
      obtain ⟨c, hc⟩ : ∃ c, (bytes ++ [0])[i]? = some c := ⟨_, List.getElem?_eq_getElem hlt⟩
      rw [hc, List.getElem?_map, List.getElem?_range (by simp at hlt; omega), Option.map_some,
        h i c hc]
    · rename_i hge
      rw [List.getElem?_drop]
      congr 1
      simp at hge ⊢
      omega
  unfold Buffer.text
  rw [hmemory, List.append_assoc]
  exact beforeNul_append_nul hnoNul _

end Buffer

end BitMesh.Lib
