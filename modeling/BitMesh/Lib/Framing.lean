import Mathlib

/-!
# Framed streams

A receiver cuts a stream into messages. What it makes of the elements it
has may not change when more of them arrive; then it does not matter how
the stream was cut up on the way: feeding it piece by piece is feeding it
at once (`feed_append`).
-/

namespace BitMesh.Lib

/-- What a receiver makes of the elements it has: it needs more, it cannot
go on, or the first `n` of them are a message. -/
inductive Verdict where
  | incomplete
  | malformed
  | complete (n : Nat)
  deriving DecidableEq, Repr

/-- A way to cut a stream into messages that looks at the front of it. -/
structure Framing (α : Type) where
  next : List α → Verdict
  next_nil : next [] = .incomplete
  complete_pos : ∀ {xs n}, next xs = .complete n → 0 < n
  complete_le : ∀ {xs n}, next xs = .complete n → n ≤ xs.length
  complete_append : ∀ {xs n} (ys), next xs = .complete n → next (xs ++ ys) = .complete n
  malformed_append : ∀ {xs} (ys), next xs = .malformed → next (xs ++ ys) = .malformed

namespace Framing

variable {α σ : Type} (F : Framing α) (consume : σ → List α → σ × Bool)

/-- Hands the messages at the front of `xs` to a consumer, one after
another, as long as it says to go on. The second component is what is left
over, and `none` once the stream has failed. -/
def feed (s : σ) (xs : List α) : σ × Option (List α) :=
  match _ : F.next xs with
  | .incomplete => (s, some xs)
  | .malformed => (s, none)
  | .complete n =>
      match consume s (xs.take n) with
      | (t, true) => feed t (xs.drop n)
      | (t, false) => (t, none)
  termination_by xs.length
  decreasing_by
    have := F.complete_pos ‹_›
    have := F.complete_le ‹_›
    rw [List.length_drop]
    omega

variable {F consume} {s t : σ} {xs ys rest : List α} {n : Nat}

theorem feed_incomplete (h : F.next xs = .incomplete) : F.feed consume s xs = (s, some xs) := by
  rw [feed]
  split <;> simp_all

theorem feed_malformed (h : F.next xs = .malformed) : F.feed consume s xs = (s, none) := by
  rw [feed]
  split <;> simp_all

theorem feed_complete (h : F.next xs = .complete n) (hc : consume s (xs.take n) = (t, true)) :
    F.feed consume s xs = F.feed consume t (xs.drop n) := by
  rw [feed]
  split
  · simp_all
  · simp_all
  · next m hm =>
    cases hm.symm.trans h
    rw [hc]

theorem feed_refused (h : F.next xs = .complete n) (hc : consume s (xs.take n) = (t, false)) :
    F.feed consume s xs = (t, none) := by
  rw [feed]
  split
  · simp_all
  · simp_all
  · next m hm =>
    cases hm.symm.trans h
    rw [hc]

@[simp] theorem feed_nil : F.feed consume s [] = (s, some []) := feed_incomplete F.next_nil

/-- Feeding a stream in two parts: what the first part leaves over comes
before the second, and a stream that has failed stays failed. -/
theorem feed_append (s : σ) (xs ys : List α) :
    F.feed consume s (xs ++ ys) =
      match F.feed consume s xs with
      | (t, some rest) => F.feed consume t (rest ++ ys)
      | (t, none) => (t, none) := by
  induction hlen : xs.length using Nat.strong_induction_on generalizing s xs with
  | _ len ih =>
    cases hnext : F.next xs with
    | incomplete => rw [feed_incomplete hnext]
    | malformed => rw [feed_malformed hnext, feed_malformed (F.malformed_append ys hnext)]
    | complete n =>
      have hpos := F.complete_pos hnext
      have hle := F.complete_le hnext
      have htake : (xs ++ ys).take n = xs.take n := List.take_append_of_le_length hle
      obtain ⟨⟨t, _ | _⟩, hc⟩ : ∃ r, consume s (xs.take n) = r := ⟨_, rfl⟩
      · rw [feed_refused hnext hc, feed_refused (F.complete_append ys hnext) (htake ▸ hc)]
      · rw [feed_complete hnext hc, feed_complete (F.complete_append ys hnext) (htake ▸ hc),
          List.drop_append_of_le_length hle]
        exact ih (xs.drop n).length (by rw [List.length_drop]; omega) t (xs.drop n) rfl

/-- The next part of a stream that has not failed. -/
theorem feed_append_of_some (h : F.feed consume s xs = (t, some rest)) (ys : List α) :
    F.feed consume s (xs ++ ys) = F.feed consume t (rest ++ ys) := by
  rw [feed_append, h]

/-- Consumers that do the same to a part `f` of the state, as long as `I`
holds, do the same to it over a whole stream. -/
theorem feed_map {τ : Type} {consume' : τ → List α → τ × Bool} {f : σ → τ} {I : σ → Prop}
    (hI : ∀ s xs, I s → I (consume s xs).1)
    (hf : ∀ s xs, I s → (f (consume s xs).1, (consume s xs).2) = consume' (f s) xs)
    (hs : I s) (xs : List α) :
    I (F.feed consume s xs).1 ∧
      (f (F.feed consume s xs).1, (F.feed consume s xs).2) = F.feed consume' (f s) xs := by
  induction hlen : xs.length using Nat.strong_induction_on generalizing s xs with
  | _ len ih =>
    cases hnext : F.next xs with
    | incomplete =>
      rw [feed_incomplete hnext, feed_incomplete hnext]
      exact ⟨hs, rfl⟩
    | malformed =>
      rw [feed_malformed hnext, feed_malformed hnext]
      exact ⟨hs, rfl⟩
    | complete n =>
      have hpos := F.complete_pos hnext
      have hle := F.complete_le hnext
      have hkept := hI s (xs.take n) hs
      have hsame := hf s (xs.take n) hs
      obtain ⟨⟨t, _ | _⟩, hc⟩ : ∃ r, consume s (xs.take n) = r := ⟨_, rfl⟩
      · rw [hc] at hkept hsame
        rw [feed_refused hnext hc, feed_refused hnext hsame.symm]
        exact ⟨hkept, rfl⟩
      · rw [hc] at hkept hsame
        rw [feed_complete hnext hc, feed_complete hnext hsame.symm]
        exact ih (xs.drop n).length (by rw [List.length_drop]; omega) hkept (xs.drop n) rfl

end Framing

/-! ## Lengths in front -/

/-- The number that big-endian bytes stand for. -/
def bigEndian (bytes : List UInt8) : Nat :=
  Nat.ofDigits 256 (bytes.reverse.map UInt8.toNat)

theorem bigEndian_lt (bytes : List UInt8) : bigEndian bytes < 256 ^ bytes.length := by
  have h := Nat.ofDigits_lt_base_pow_length (b := 256) (l := bytes.reverse.map UInt8.toNat)
    (by decide) (by
      intro d hd
      obtain ⟨b, -, rfl⟩ := List.mem_map.mp hd
      exact b.toNat_lt)
  simpa [bigEndian] using h

/-- Messages with their length in front, in `width` big-endian bytes, and
no longer than `limit`. -/
def lengthPrefixed (width limit : Nat) (hwidth : 0 < width) : Framing UInt8 where
  next bytes :=
    if bytes.length < width then .incomplete
    else if limit < bigEndian (bytes.take width) then .malformed
    else if bytes.length < width + bigEndian (bytes.take width) then .incomplete
    else .complete (width + bigEndian (bytes.take width))
  next_nil := by simp [hwidth]
  complete_pos := by
    intro xs n h
    split_ifs at h
    cases h
    omega
  complete_le := by
    intro xs n h
    split_ifs at h
    cases h
    omega
  complete_append := by
    intro xs n ys h
    split_ifs at h with h₁ h₂ h₃
    rw [List.length_append, List.take_append_of_le_length (by omega), if_neg (by omega), if_neg h₂,
      if_neg (by omega)]
    exact h
  malformed_append := by
    intro xs ys h
    split_ifs at h with h₁ h₂
    rw [List.length_append, List.take_append_of_le_length (by omega), if_neg (by omega), if_pos h₂]

end BitMesh.Lib
