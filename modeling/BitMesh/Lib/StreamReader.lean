import BitMesh.Lib.InputStream
import BitMesh.Lib.Program

/-!
# Readers of a stream

Programs that take bytes from an `InputStream`. `Reads m R` says that `m`
recognises the grammar `R`: it returns `a` exactly when the next bytes are
ones that `R` has for `a`, takes these bytes and no more, and runs into the
end when the stream breaks off within them. How many bytes each single
read hands over makes no difference. The rules follow the ways a reader is
put together.
-/

namespace BitMesh.Lib

namespace InputStream

variable {ε α β : Type} (stream : InputStream)

/-- What is still to come. -/
def rest (pos : Position) : List UInt8 := stream.bytes.drop pos.taken

/-- `read()`, with an exception at the end of the stream. -/
def readByte (eof : ε) : EStateM ε Position UInt8 := do
  let pos ← get
  set (stream.advance pos 1)
  match stream.chunk pos 1 with
  | [] => throw eof
  | b :: _ => pure b

/-- The loop that fills an array of `n` bytes by `read(buf, off, len)`:
`got` is what it has, and each round gets at least one more. -/
def fill (eof : ε) (n : Nat) : Nat → List UInt8 → EStateM ε Position (List UInt8)
  | 0, got => pure got
  | rounds + 1, got =>
      if got.length < n then do
        let pos ← get
        set (stream.advance pos (n - got.length))
        if stream.returned pos (n - got.length) < 0 then throw eof
        else fill eof n rounds (got ++ stream.chunk pos (n - got.length))
      else pure got

def readFully (eof : ε) (n : Nat) : EStateM ε Position (List UInt8) := stream.fill eof n n []

variable {stream}

/-- A reader is never past the end. -/
def Valid (stream : InputStream) (pos : Position) : Prop := pos.taken ≤ stream.bytes.length

theorem rest_advance (pos : Position) (len : Nat) :
    stream.rest pos = stream.chunk pos len ++ stream.rest (stream.advance pos len) := by
  rw [rest, rest, chunk, advance, ← List.drop_drop, List.take_append_drop]

theorem length_rest (pos : Position) : (stream.rest pos).length = stream.bytes.length - pos.taken :=
  List.length_drop

theorem Valid.advance {pos : Position} (h : stream.Valid pos) (len : Nat) :
    stream.Valid (stream.advance pos len) := by
  have hcount := stream.count_le pos len
  unfold Valid at h
  show pos.taken + stream.count pos len ≤ stream.bytes.length
  omega

/-- A single byte is read if there is one. -/
theorem chunk_one (pos : Position) : stream.chunk pos 1 = (stream.rest pos).take 1 := by
  have hcount : stream.count pos 1 = min 1 (stream.rest pos).length := by
    rw [count, length_rest]
    omega
  show (stream.rest pos).take (stream.count pos 1) = _
  rw [hcount, ← List.take_eq_take_min]

/-- The loop gets the bytes it asks for, or meets the end. -/
theorem run_fill (eof : ε) (n rounds : Nat) (got : List UInt8) {pos : Position}
    (hpos : stream.Valid pos) (hgot : got.length ≤ n) (hrounds : n ≤ got.length + rounds) :
    (n - got.length ≤ (stream.rest pos).length ∧ ∃ pos', stream.Valid pos' ∧
      (stream.fill eof n rounds got).run pos =
        .ok (got ++ (stream.rest pos).take (n - got.length)) pos' ∧
      stream.rest pos' = (stream.rest pos).drop (n - got.length)) ∨
    ((stream.rest pos).length < n - got.length ∧ ∃ pos',
      (stream.fill eof n rounds got).run pos = .error eof pos') := by
  induction rounds generalizing got pos with
  | zero =>
    have hall : n - got.length = 0 := by omega
    rw [hall, List.take_zero, List.drop_zero, List.append_nil]
    exact .inl ⟨Nat.zero_le _, pos, hpos, rfl, rfl⟩
  | succ rounds ih =>
    rw [fill]
    by_cases hmore : got.length < n
    · rw [if_pos hmore]
      show (_ ∧ ∃ pos', _ ∧ (if stream.returned pos (n - got.length) < 0 then MonadExcept.throw eof
          else stream.fill eof n rounds (got ++ stream.chunk pos (n - got.length))).run
          (stream.advance pos (n - got.length)) = _ ∧ _) ∨
        (_ ∧ ∃ pos', (if stream.returned pos (n - got.length) < 0 then MonadExcept.throw eof
          else stream.fill eof n rounds (got ++ stream.chunk pos (n - got.length))).run
          (stream.advance pos (n - got.length)) = _)
      have hlength := stream.length_rest pos
      by_cases hend : pos.taken = stream.bytes.length
      · have hreturned : stream.returned pos (n - got.length) < 0 := by
          rw [returned, if_neg (by omega), if_pos hend]
          decide
        rw [if_pos hreturned]
        exact .inr ⟨by omega, _, rfl⟩
      · have hreturned : ¬ stream.returned pos (n - got.length) < 0 := by
          rw [returned, if_neg (by omega), if_neg hend]
          omega
        rw [if_neg hreturned]
        have hchunk := stream.length_chunk pos (n - got.length)
        have hone : 1 ≤ stream.count pos (n - got.length) :=
          one_le_count (by omega) (lt_of_le_of_ne hpos hend)
        have hle := stream.count_le_len pos (n - got.length)
        have hrest := stream.rest_advance pos (n - got.length)
        have hgot' : (got ++ stream.chunk pos (n - got.length)).length =
            got.length + stream.count pos (n - got.length) := by
          rw [List.length_append, hchunk]
        have hsplit := congrArg List.length hrest
        rw [List.length_append, hchunk] at hsplit
        have hneed : n - (got ++ stream.chunk pos (n - got.length)).length =
            n - got.length - stream.count pos (n - got.length) := by omega
        rcases ih (got ++ stream.chunk pos (n - got.length)) (hpos.advance (n - got.length))
            (by omega) (by omega) with
          ⟨henough, pos', hvalid, hrun, hpos'⟩ | ⟨hshort, pos', hrun⟩
        · refine .inl ⟨by omega, pos', hvalid, ?_, ?_⟩
          · rw [hrun, hneed, hrest, List.take_append, hchunk, List.append_assoc,
              List.take_of_length_le (l := stream.chunk pos (n - got.length)) (by omega)]
          · have hnone : (stream.chunk pos (n - got.length)).drop (n - got.length) = [] :=
              List.drop_eq_nil_of_le (by omega)
            rw [hpos', hneed, hrest, List.drop_append, hchunk, hnone, List.nil_append]
        · exact .inr ⟨by omega, pos', hrun⟩
    · have hall : n - got.length = 0 := by omega
      rw [if_neg hmore, hall, List.take_zero, List.drop_zero, List.append_nil]
      exact .inl ⟨Nat.zero_le _, pos, hpos, rfl, rfl⟩

/-- A stream whose bytes arrive and are handed over one by one. -/
def bytewise (bytes : List UInt8) : InputStream where
  bytes := bytes
  arrived k := min k bytes.length
  handed _ := 1
  arrived_mono _ _ h := min_le_min_right _ h
  arrived_le k := min_le_right k _
  arrives := ⟨bytes.length, min_self _⟩

end InputStream

open InputStream

/-- The reader `m` recognises `R`, and throws `eof` where the stream ends
too early. -/
structure Reads {ε α : Type} (stream : InputStream) (eof : ε) (m : EStateM ε Position α)
    (R : α → List UInt8 → Prop) : Prop where
  sound : ∀ {pos a pos'}, stream.Valid pos → m.run pos = .ok a pos' →
    ∃ bytes, R a bytes ∧ stream.rest pos = bytes ++ stream.rest pos' ∧ stream.Valid pos'
  complete : ∀ {pos a bytes rest}, stream.Valid pos → R a bytes → stream.rest pos = bytes ++ rest →
    ∃ pos', m.run pos = .ok a pos' ∧ stream.rest pos' = rest
  truncated : ∀ {pos a bytes}, stream.Valid pos → R a bytes → stream.rest pos <+: bytes →
    stream.rest pos ≠ bytes → ∃ pos', m.run pos = .error eof pos'

namespace Reads

variable {ε α β : Type} {stream : InputStream} {eof : ε} {m : EStateM ε Position α}
  {R R' : α → List UInt8 → Prop}

theorem congr (h : Reads stream eof m R) (hR : ∀ a bytes, R a bytes ↔ R' a bytes) :
    Reads stream eof m R' := by
  obtain rfl : R = R' := funext fun a => funext fun bytes => propext (hR a bytes)
  exact h

theorem pure (a : α) :
    Reads stream eof (pure a : EStateM ε Position α) (fun b bytes => b = a ∧ bytes = []) where
  sound := by
    intro pos b pos' hpos h
    cases h
    exact ⟨[], ⟨rfl, rfl⟩, rfl, hpos⟩
  complete := by
    rintro pos b bytes rest - ⟨rfl, rfl⟩ h
    exact ⟨pos, rfl, h⟩
  truncated := by
    rintro pos b bytes - ⟨rfl, rfl⟩ hfront hne
    exact absurd (List.prefix_nil.mp hfront) hne

theorem throw (e : ε) :
    Reads stream eof (throw e : EStateM ε Position α) (fun _ _ => False) where
  sound := by
    intro pos a pos' _ h
    cases h
  complete := fun _ h => h.elim
  truncated := fun _ h => h.elim

theorem bind {f : α → EStateM ε Position β} {S : α → β → List UInt8 → Prop}
    (hm : Reads stream eof m R) (hf : ∀ a, Reads stream eof (f a) (S a)) :
    Reads stream eof (m >>= f)
      (fun b bytes => ∃ a xs ys, R a xs ∧ S a b ys ∧ bytes = xs ++ ys) where
  sound := by
    intro pos b pos' hpos h
    rw [EStateM.run_bind] at h
    cases hrun : m.run pos with
    | error e t =>
      rw [hrun] at h
      cases h
    | ok a t =>
      rw [hrun] at h
      obtain ⟨xs, hxs, hrest, ht⟩ := hm.sound hpos hrun
      obtain ⟨ys, hys, hrest', hpos'⟩ := (hf a).sound ht h
      exact ⟨xs ++ ys, ⟨a, xs, ys, hxs, hys, rfl⟩, by rw [hrest, hrest', List.append_assoc], hpos'⟩
  complete := by
    rintro pos b bytes rest hpos ⟨a, xs, ys, hxs, hys, rfl⟩ h
    rw [List.append_assoc] at h
    obtain ⟨t, hrun, ht⟩ := hm.complete hpos hxs h
    obtain ⟨-, -, -, hvalid⟩ := hm.sound hpos hrun
    obtain ⟨u, hrun', hu⟩ := (hf a).complete hvalid hys ht
    exact ⟨u, by rw [EStateM.run_bind, hrun]; exact hrun', hu⟩
  truncated := by
    rintro pos b bytes hpos ⟨a, xs, ys, hxs, hys, rfl⟩ ⟨tail, htail⟩ hne
    rw [EStateM.run_bind]
    by_cases hfirst : ∃ zs, stream.rest pos = xs ++ zs
    · -- the first part is there, and the stream ends within the second
      obtain ⟨zs, hzs⟩ := hfirst
      obtain ⟨t, hrun, ht⟩ := hm.complete hpos hxs hzs
      obtain ⟨-, -, -, hvalid⟩ := hm.sound hpos hrun
      rw [hzs, List.append_assoc] at htail
      rw [hrun]
      exact (hf a).truncated hvalid hys (ht ▸ ⟨tail, List.append_cancel_left htail⟩)
        (fun heq => hne (by rw [hzs, ← ht, heq]))
    · obtain ⟨more, hmore, -⟩ | ⟨zs, hzs, -⟩ := List.append_eq_append_iff.mp htail
      · obtain ⟨t, hrun⟩ := hm.truncated hpos hxs ⟨more, hmore.symm⟩
          (fun heq => hfirst ⟨[], by rw [heq, List.append_nil]⟩)
        rw [hrun]
        exact ⟨t, rfl⟩
      · exact absurd ⟨zs, hzs⟩ hfirst

theorem ite {c : Prop} [Decidable c] {n : EStateM ε Position α} (hm : c → Reads stream eof m R)
    (hn : ¬ c → Reads stream eof n R') :
    Reads stream eof (if c then m else n) (fun a bytes => (c ∧ R a bytes) ∨ (¬ c ∧ R' a bytes)) := by
  by_cases h : c
  · rw [if_pos h]
    exact (hm h).congr fun a bytes => by simp [h]
  · rw [if_neg h]
    exact (hn h).congr fun a bytes => by simp [h]

theorem dite {c : Prop} [Decidable c] {m : c → EStateM ε Position α} {n : ¬ c → EStateM ε Position α}
    {R : c → α → List UInt8 → Prop} {R' : ¬ c → α → List UInt8 → Prop}
    (hm : ∀ h, Reads stream eof (m h) (R h)) (hn : ∀ h, Reads stream eof (n h) (R' h)) :
    Reads stream eof (if h : c then m h else n h)
      (fun a bytes => (∃ h, R h a bytes) ∨ ∃ h, R' h a bytes) := by
  by_cases h : c
  · rw [dif_pos h]
    exact (hm h).congr fun a bytes => by simp [h]
  · rw [dif_neg h]
    exact (hn h).congr fun a bytes => by simp [h]

/-- A check that throws. -/
theorem check {c : Prop} [Decidable c] {e : ε} (hm : ¬ c → Reads stream eof m R) :
    Reads stream eof (if c then MonadExcept.throw e else m) (fun a bytes => ¬ c ∧ R a bytes) :=
  (ite (fun _ => throw e) hm).congr fun a bytes => by simp

theorem readByte : Reads stream eof (stream.readByte eof) (fun b bytes => bytes = [b]) where
  sound := by
    intro pos b pos' hpos h
    have hrest := stream.rest_advance pos 1
    have hlength := stream.length_chunk pos 1
    have hle := stream.count_le_len pos 1
    have hrun : (stream.readByte eof).run pos =
        (match stream.chunk pos 1 with
          | [] => MonadExcept.throw eof
          | b :: _ => Pure.pure b : EStateM ε Position UInt8).run (stream.advance pos 1) := rfl
    rw [hrun] at h
    cases hchunk : stream.chunk pos 1 with
    | nil =>
      rw [hchunk] at h
      cases h
    | cons c more =>
      rw [hchunk] at h hlength
      cases h
      obtain rfl : more = [] := List.length_eq_zero_iff.mp (by
        rw [List.length_cons] at hlength
        omega)
      exact ⟨[b], rfl, hchunk ▸ hrest, hpos.advance 1⟩
  complete := by
    rintro pos b bytes rest hpos rfl h
    have hchunk : stream.chunk pos 1 = [b] := by rw [chunk_one, h]; rfl
    refine ⟨stream.advance pos 1, ?_, ?_⟩
    · show (match stream.chunk pos 1 with
          | [] => MonadExcept.throw eof
          | b :: _ => Pure.pure b : EStateM ε Position UInt8).run (stream.advance pos 1) = _
      rw [hchunk]
      rfl
    · have hrest := stream.rest_advance pos 1
      rw [h, hchunk] at hrest
      exact (List.append_cancel_left hrest).symm
  truncated := by
    rintro pos b bytes hpos rfl hfront hne
    have hnil : stream.rest pos = [] := by
      rcases List.prefix_cons_iff.mp hfront with hnil | ⟨t, ht, hfront'⟩
      · exact hnil
      · rw [List.prefix_nil.mp hfront'] at ht
        exact absurd ht hne
    refine ⟨stream.advance pos 1, ?_⟩
    show (match stream.chunk pos 1 with
        | [] => MonadExcept.throw eof
        | b :: _ => Pure.pure b : EStateM ε Position UInt8).run (stream.advance pos 1) = _
    rw [chunk_one, hnil]
    rfl

/-- A byte, and then the rest. -/
theorem byte_bind {f : UInt8 → EStateM ε Position β} {S : UInt8 → β → List UInt8 → Prop}
    (hf : ∀ b, Reads stream eof (f b) (S b)) :
    Reads stream eof (stream.readByte eof >>= f)
      (fun a bytes => ∃ b more, S b a more ∧ bytes = b :: more) :=
  (readByte.bind hf).congr fun a bytes => by
    constructor
    · rintro ⟨b, xs, more, rfl, hmore, rfl⟩
      exact ⟨b, more, hmore, rfl⟩
    · rintro ⟨b, more, hmore, rfl⟩
      exact ⟨b, [b], more, rfl, hmore, rfl⟩

theorem readFully (n : Nat) :
    Reads stream eof (stream.readFully eof n) (fun got bytes => bytes = got ∧ got.length = n) where
  sound := by
    intro pos got pos' hpos h
    rcases run_fill eof n n [] hpos (by simp) (by simp) with
      ⟨henough, t, ht, hrun, hrest⟩ | ⟨-, t, hrun⟩
    · rw [List.length_nil, Nat.sub_zero] at henough hrest
      rw [List.length_nil, Nat.sub_zero, List.nil_append] at hrun
      obtain ⟨rfl, rfl⟩ : (stream.rest pos).take n = got ∧ t = pos' := by
        have hsame := hrun.symm.trans h
        exact ⟨by injection hsame, by injection hsame⟩
      exact ⟨_, ⟨rfl, List.length_take_of_le henough⟩, by rw [hrest, List.take_append_drop], ht⟩
    · cases hrun.symm.trans h
  complete := by
    rintro pos got bytes rest hpos ⟨rfl, rfl⟩ h
    rcases run_fill eof bytes.length bytes.length [] hpos
        (by simp) (by simp) with ⟨-, t, -, hrun, hrest⟩ | ⟨hshort, -⟩
    · rw [List.length_nil, Nat.sub_zero, h] at hrest
      rw [List.length_nil, Nat.sub_zero, h, List.nil_append, List.take_left] at hrun
      rw [List.drop_left] at hrest
      exact ⟨t, hrun, hrest⟩
    · rw [h, List.length_append, List.length_nil] at hshort
      omega
  truncated := by
    rintro pos got bytes hpos ⟨rfl, rfl⟩ hfront hne
    rcases run_fill eof bytes.length bytes.length [] hpos
        (by simp) (by simp) with ⟨henough, -⟩ | ⟨-, t, hrun⟩
    · rw [List.length_nil, Nat.sub_zero] at henough
      exact absurd (hfront.eq_of_length_le henough) hne
    · exact ⟨t, hrun⟩

end Reads

end BitMesh.Lib
