import BitMesh.Lib.InputStream

/-!
# Reading a request

`StatsServlet.doPost` asks for what is available until it has as many bytes
as the request announced. When the stream ends before that, nothing is
available, a read of nothing returns 0, and the loop goes round for ever.
-/

namespace BitMesh.CloudServer

open BitMesh.Lib

/-- The loop of `doPost`: the position of the stream, `alreadyRead` and
`statsArray`. -/
structure Reader where
  position : InputStream.Position
  alreadyRead : Int
  statsArray : List UInt8

/-- Where the loop is after some iterations. -/
inductive Reading where
  | looping
  | indexOutOfBounds
  | parsing (statsArray : List UInt8)

namespace Reader

/-- Before the loop. -/
def start (contentLength : Nat) : Reader := ⟨{}, 0, List.replicate contentLength 0⟩

/-- One iteration, unless `read` rejects its arguments. -/
def iterate (stream : InputStream) (reader : Reader) : Option Reader :=
  let len := stream.available reader.position
  if reader.alreadyRead < 0 ∨ (reader.statsArray.length : Int) < reader.alreadyRead + len then
    none
  else
    let off := reader.alreadyRead.toNat
    let chunk := stream.chunk reader.position len
    some {
      position := stream.advance reader.position len
      alreadyRead := reader.alreadyRead + stream.returned reader.position len
      statsArray :=
        reader.statsArray.take off ++ chunk ++ reader.statsArray.drop (off + chunk.length) }

/-- The loop, for `fuel` iterations. -/
def loop (contentLength : Nat) (stream : InputStream) : Nat → Reader → Reading
  | fuel, reader =>
      if (contentLength : Int) > reader.alreadyRead then
        match fuel with
        | 0 => .looping
        | fuel + 1 =>
            match reader.iterate stream with
            | some reader => loop contentLength stream fuel reader
            | none => .indexOutOfBounds
      else .parsing reader.statsArray

end Reader

/-- `doPost` up to the parser. -/
def readStats (contentLength : Nat) (stream : InputStream) (fuel : Nat) : Reading :=
  Reader.loop contentLength stream fuel (.start contentLength)

/-- The loop ends, and parses the whole body if anything. -/
structure ReadsWhole (contentLength : Nat) (stream : InputStream) : Prop where
  ends : ∃ fuel, readStats contentLength stream fuel ≠ .looping
  whole : ∀ fuel statsArray, readStats contentLength stream fuel = .parsing statsArray →
    stream.bytes.length = contentLength ∧ statsArray = stream.bytes

/-! ## What the loop has read -/

/-- The array begins with what was taken from the stream, and ends with the
zeros it was made of. -/
structure Reader.Filled (contentLength : Nat) (stream : InputStream) (reader : Reader) : Prop where
  alreadyRead : reader.alreadyRead = reader.position.taken
  taken_le : reader.position.taken ≤ stream.bytes.length
  statsArray : reader.statsArray = stream.bytes.take reader.position.taken ++
    List.replicate (contentLength - reader.position.taken) 0

section
variable {contentLength : Nat} {stream : InputStream}
  (hfits : stream.bytes.length ≤ contentLength)

theorem Reader.filled_start (contentLength : Nat) (stream : InputStream) :
    (Reader.start contentLength).Filled contentLength stream :=
  ⟨rfl, Nat.zero_le _, by simp [Reader.start]⟩

include hfits

/-- An iteration takes the next bytes of what is available. -/
theorem Reader.Filled.iterate {reader : Reader} (h : reader.Filled contentLength stream) :
    ∃ reader', reader.iterate stream = some reader' ∧ reader'.Filled contentLength stream ∧
      reader'.position = stream.advance reader.position (stream.available reader.position) := by
  have htaken := h.taken_le
  have havailable := stream.available_le reader.position
  have hcount := stream.count_le reader.position (stream.available reader.position)
  have hlength : reader.statsArray.length = contentLength := by
    rw [h.statsArray, List.length_append, List.length_take, List.length_replicate]
    omega
  have hinside : ¬ (reader.alreadyRead < 0 ∨ (reader.statsArray.length : Int) <
      reader.alreadyRead + stream.available reader.position) := by
    rw [h.alreadyRead, hlength]
    omega
  refine ⟨_, if_neg hinside, ⟨?_, ?_, ?_⟩, rfl⟩
  · show reader.alreadyRead + stream.returned reader.position _ = _
    rw [stream.returned_available, h.alreadyRead]
    rfl
  · show reader.position.taken + stream.count reader.position _ ≤ _
    omega
  · -- the chunk stands where zeros were
    have hfront : (stream.bytes.take reader.position.taken).length = reader.position.taken := by
      rw [List.length_take]
      omega
    have hrest (k : Nat) : reader.statsArray.drop (reader.position.taken + k) =
        List.replicate (contentLength - (reader.position.taken + k)) 0 := by
      rw [h.statsArray, List.drop_append, List.drop_eq_nil_of_le (by omega), List.nil_append,
        List.drop_replicate]
      congr 1
      omega
    show List.take _ reader.statsArray ++ stream.chunk reader.position _ ++
      List.drop _ reader.statsArray = List.take (_ + _) _ ++ List.replicate (_ - (_ + _)) 0
    rw [h.alreadyRead, Int.toNat_natCast, stream.length_chunk, hrest, h.statsArray,
      List.take_left' hfront, List.take_add, InputStream.chunk]

/-- While bytes are missing the loop goes on. -/
theorem Reader.Filled.looping (hless : stream.bytes.length < contentLength) (fuel : Nat)
    {reader : Reader} (h : reader.Filled contentLength stream) :
    Reader.loop contentLength stream fuel reader = .looping := by
  induction fuel generalizing reader with
  | zero =>
      have htaken := h.taken_le
      rw [Reader.loop, if_pos (by rw [h.alreadyRead]; omega)]
  | succ fuel ih =>
      have htaken := h.taken_le
      obtain ⟨reader', hiterate, hfilled, -⟩ := h.iterate hfits
      rw [Reader.loop, if_pos (by rw [h.alreadyRead]; omega)]
      simp only [hiterate]
      exact ih hfilled

omit hfits in
/-- When nothing is missing the array is the body. -/
theorem Reader.Filled.statsArray_eq (hall : stream.bytes.length = contentLength)
    {reader : Reader} (h : reader.Filled contentLength stream)
    (hdone : ¬ (contentLength : Int) > reader.alreadyRead) :
    reader.statsArray = stream.bytes := by
  have htaken := h.taken_le
  have hend : reader.position.taken = contentLength := by
    rw [h.alreadyRead] at hdone
    omega
  rw [h.statsArray, hend, Nat.sub_self, ← hall]
  simp

/-- What is parsed is what was delivered. -/
theorem Reader.Filled.whole (hall : stream.bytes.length = contentLength) (fuel : Nat)
    {reader : Reader} (h : reader.Filled contentLength stream) {statsArray : List UInt8}
    (hparsing : Reader.loop contentLength stream fuel reader = .parsing statsArray) :
    statsArray = stream.bytes := by
  induction fuel generalizing reader with
  | zero =>
      rw [Reader.loop] at hparsing
      split at hparsing
      · cases hparsing
      · rename_i hdone
        cases hparsing
        exact h.statsArray_eq hall hdone
  | succ fuel ih =>
      rw [Reader.loop] at hparsing
      split at hparsing
      · obtain ⟨reader', hiterate, hfilled, -⟩ := h.iterate hfits
        simp only [hiterate] at hparsing
        exact ih hfilled hparsing
      · rename_i hdone
        cases hparsing
        exact h.statsArray_eq hall hdone

/-- Once everything has arrived each iteration takes a byte at least; until
then each iteration waits for it. -/
theorem Reader.Filled.parsing (hall : stream.bytes.length = contentLength) {k : Nat}
    (hk : stream.arrived k = stream.bytes.length) (fuel : Nat) {reader : Reader}
    (h : reader.Filled contentLength stream)
    (hfuel : (k - reader.position.calls) + (stream.bytes.length - reader.position.taken) ≤ fuel) :
    Reader.loop contentLength stream fuel reader = .parsing stream.bytes := by
  induction fuel generalizing reader with
  | zero =>
      have hdone : ¬ (contentLength : Int) > reader.alreadyRead := by
        rw [h.alreadyRead]
        omega
      rw [Reader.loop, if_neg hdone, h.statsArray_eq hall hdone]
  | succ fuel ih =>
      rw [Reader.loop]
      split
      · rename_i hmore
        have hless : reader.position.taken < stream.bytes.length := by
          rw [h.alreadyRead] at hmore
          omega
        obtain ⟨reader', hiterate, hfilled, hposition⟩ := h.iterate hfits
        simp only [hiterate]
        apply ih hfilled
        rw [hposition]
        show (k - (reader.position.calls + 1)) + (stream.bytes.length -
          (reader.position.taken + stream.count reader.position _)) ≤ fuel
        by_cases hwaits : reader.position.calls < k
        · omega
        · -- everything is available
          have harrived : stream.arrived reader.position.calls = stream.bytes.length := by
            apply Nat.le_antisymm (stream.arrived_le _)
            rw [← hk]
            exact stream.arrived_mono (Nat.not_lt.mp hwaits)
          have havailable : 0 < stream.available reader.position := by
            rw [InputStream.available, harrived]
            omega
          have hcount := stream.one_le_count havailable hless
          omega
      · rename_i hdone
        rw [h.statsArray_eq hall hdone]

end

/-- The loop of `doPost` ends, with the whole body, if and only if the
stream delivers as many bytes as the request announced. -/
theorem reads_whole_iff {contentLength : Nat} {stream : InputStream}
    (hfits : stream.bytes.length ≤ contentLength) :
    ReadsWhole contentLength stream ↔ stream.bytes.length = contentLength := by
  have hstart := Reader.filled_start contentLength stream
  constructor
  · intro h
    obtain ⟨fuel, hends⟩ := h.ends
    by_contra hne
    exact hends (hstart.looping hfits (by omega) fuel)
  · intro hall
    constructor
    · obtain ⟨k, hk⟩ := stream.arrives
      refine ⟨k + stream.bytes.length, ?_⟩
      rw [readStats, hstart.parsing hfits hall hk (k + stream.bytes.length) (Nat.le_refl _)]
      intro hlooping
      cases hlooping
    · intro fuel statsArray hparsing
      exact ⟨hall, hstart.whole hfits hall fuel hparsing⟩

/-- A stream that has everything at once. -/
def atOnce (bytes : List UInt8) : InputStream where
  bytes := bytes
  arrived _ := bytes.length
  handed _ := bytes.length
  arrived_mono _ _ _ := Nat.le_refl _
  arrived_le _ := Nat.le_refl _
  arrives := ⟨0, rfl⟩

/-- Two announced bytes that come are read. -/
theorem reads_whole_two : ReadsWhole 2 (atOnce [123, 125]) :=
  (reads_whole_iff (by decide)).mpr rfl

/-- Of two announced bytes one comes: the loop never ends. -/
theorem read_never_ends :
    ¬ ReadsWhole 2 (atOnce [123]) ∧ ∀ fuel, readStats 2 (atOnce [123]) fuel = .looping := by
  have hloops (fuel : Nat) : readStats 2 (atOnce [123]) fuel = .looping :=
    (Reader.filled_start 2 _).looping (by decide) (by decide) fuel
  refine ⟨fun h => ?_, hloops⟩
  obtain ⟨fuel, hends⟩ := h.ends
  exact hends (hloops fuel)

end BitMesh.CloudServer
