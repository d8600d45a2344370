import BitMesh.Lib.Program

/-!
# Programs run side by side

A program may be started in two states that differ in what it does not
look at. `Lockstep R m` says that it then ends alike: with the same result
or the same exception, in states that `R` relates again. The rules follow
the ways a program is put together, as those of `wp` do.
-/

namespace BitMesh.Lib

variable {ε σ α β : Type} {R : σ → σ → Prop}

/-- `m` in `s` and `m'` in `t` end alike. -/
def Alike (R : σ → σ → Prop) (m m' : EStateM ε σ α) (s t : σ) : Prop :=
  wp m s (fun a u => wp m' t (fun b v => a = b ∧ R u v) (fun _ _ => False))
    (fun e u => wp m' t (fun _ _ => False) (fun f v => e = f ∧ R u v))

/-- Started in related states, `m` ends alike. -/
def Lockstep (R : σ → σ → Prop) (m : EStateM ε σ α) : Prop :=
  ∀ s t, R s t → Alike R m m s t

namespace Alike

variable {m m' : EStateM ε σ α} {s t : σ}

/-- Both programs return the same, or both throw the same. -/
theorem cases (h : Alike R m m' s t) :
    (∃ a u v, m.run s = .ok a u ∧ m'.run t = .ok a v ∧ R u v) ∨
      ∃ e u v, m.run s = .error e u ∧ m'.run t = .error e v ∧ R u v := by
  unfold Alike wp at h
  cases hm : m.run s with
  | ok a u =>
    cases hm' : m'.run t with
    | ok b v =>
      rw [hm, hm'] at h
      obtain ⟨rfl, hR⟩ := h
      exact .inl ⟨a, u, v, rfl, rfl, hR⟩
    | error f v => rw [hm, hm'] at h; exact h.elim
  | error e u =>
    cases hm' : m'.run t with
    | ok b v => rw [hm, hm'] at h; exact h.elim
    | error f v =>
      rw [hm, hm'] at h
      obtain ⟨rfl, hR⟩ := h
      exact .inr ⟨e, u, v, rfl, rfl, hR⟩

theorem of_ok {a : α} {u v : σ} (hm : m.run s = .ok a u) (hm' : m'.run t = .ok a v) (hR : R u v) :
    Alike R m m' s t := by
  unfold Alike wp
  rw [hm, hm']
  exact ⟨rfl, hR⟩

theorem of_error {e : ε} {u v : σ} (hm : m.run s = .error e u) (hm' : m'.run t = .error e v)
    (hR : R u v) : Alike R m m' s t := by
  unfold Alike wp
  rw [hm, hm']
  exact ⟨rfl, hR⟩

/-- The states that are left behind are related. -/
theorem finalState (h : Alike R m m' s t) : R (finalState m s) (finalState m' t) := by
  unfold Lib.finalState
  rcases h.cases with ⟨a, u, v, hm, hm', hR⟩ | ⟨e, u, v, hm, hm', hR⟩
  · rwa [hm, hm']
  · rwa [hm, hm']

theorem bind {f f' : α → EStateM ε σ β} (h : Alike R m m' s t)
    (hf : ∀ a u v, R u v → Alike R (f a) (f' a) u v) : Alike R (m >>= f) (m' >>= f') s t := by
  rcases h.cases with ⟨a, u, v, hm, hm', hR⟩ | ⟨e, u, v, hm, hm', hR⟩
  · have hnext := hf a u v hR
    unfold Alike wp at hnext ⊢
    simpa only [EStateM.run_bind, hm, hm'] using hnext
  · have hrun : (m >>= f).run s = .error e u := by rw [EStateM.run_bind, hm]
    have hrun' : (m' >>= f').run t = .error e v := by rw [EStateM.run_bind, hm']
    exact of_error hrun hrun' hR

end Alike

namespace Lockstep

theorem pure (a : α) : Lockstep R (pure a : EStateM ε σ α) := fun _ _ h => ⟨rfl, h⟩

theorem throw (e : ε) : Lockstep R (throw e : EStateM ε σ α) := fun _ _ h => ⟨rfl, h⟩

theorem bind {m : EStateM ε σ α} {f : α → EStateM ε σ β} (hm : Lockstep R m)
    (hf : ∀ a, Lockstep R (f a)) : Lockstep R (m >>= f) :=
  fun s t h => (hm s t h).bind fun a u v hR => hf a u v hR

/-- What is read may differ; what is done with it must not. -/
theorem get_bind {f : σ → EStateM ε σ α} (h : ∀ s t, R s t → Alike R (f s) (f t) s t) :
    Lockstep R (get >>= f) := fun s t hR => by
  have hf := h s t hR
  unfold Alike at hf ⊢
  simpa only [wp_bind, wp_get] using hf

theorem modify {f : σ → σ} (h : ∀ s t, R s t → R (f s) (f t)) :
    Lockstep R (modify f : EStateM ε σ PUnit) := fun s t hR => ⟨rfl, h s t hR⟩

theorem tryCatch {m : EStateM ε σ α} {k : ε → EStateM ε σ α} (hm : Lockstep R m)
    (hk : ∀ e, Lockstep R (k e)) : Lockstep R (tryCatch m k) := fun s t hR => by
  unfold Alike
  simp only [wp_tryCatch]
  rcases (hm s t hR).cases with ⟨a, u, v, h, h', hR⟩ | ⟨e, u, v, h, h', hR⟩
  · unfold wp
    rw [h, h']
    exact ⟨rfl, hR⟩
  · have hnext := hk e u v hR
    unfold Alike wp at hnext
    unfold wp
    rw [h, h']
    exact hnext

theorem ite {c : Prop} [Decidable c] {m n : EStateM ε σ α} (hm : Lockstep R m)
    (hn : Lockstep R n) : Lockstep R (if c then m else n) := by
  by_cases h : c
  · rwa [if_pos h]
  · rwa [if_neg h]

theorem forM {γ : Type} {f : γ → EStateM ε σ PUnit} (l : List γ) (hf : ∀ x, Lockstep R (f x)) :
    Lockstep R (l.forM f) := by
  induction l with
  | nil => exact .pure _
  | cons x l ih => exact .bind (hf x) fun _ => ih

end Lockstep

end BitMesh.Lib
