import Mathlib

/-!
# Programs with state and exceptions

Reasoning about `EStateM` computations. `wp m s Q E` says how `m` ends
when it is started in `s`: normally with `Q`, by an exception with `E`.
The rules follow the ways such a computation is put together, so that a
method is taken apart by rewriting and a called method enters through its
own specification.
-/

namespace BitMesh.Lib

variable {ε σ α β : Type}

/-- `m`, started in `s`, returns with `Q` or throws with `E`. -/
def wp (m : EStateM ε σ α) (s : σ) (Q : α → σ → Prop) (E : ε → σ → Prop) : Prop :=
  match m.run s with
  | .ok a t => Q a t
  | .error e t => E e t

instance wp.decidable (m : EStateM ε σ α) (s : σ) (Q : α → σ → Prop) (E : ε → σ → Prop)
    [∀ a t, Decidable (Q a t)] [∀ e t, Decidable (E e t)] : Decidable (wp m s Q E) :=
  match h : m.run s with
  | .ok a t => decidable_of_iff (Q a t) (by rw [wp, h])
  | .error e t => decidable_of_iff (E e t) (by rw [wp, h])

/-- The state `m` leaves behind, however it ends. -/
def finalState (m : EStateM ε σ α) (s : σ) : σ :=
  match m.run s with
  | .ok _ t => t
  | .error _ t => t

section Rules

variable {s : σ} {Q : α → σ → Prop} {E : ε → σ → Prop}

@[simp] theorem wp_pure (a : α) : wp (pure a : EStateM ε σ α) s Q E ↔ Q a s := Iff.rfl

@[simp] theorem wp_throw (e : ε) : wp (throw e : EStateM ε σ α) s Q E ↔ E e s := Iff.rfl

@[simp] theorem wp_bind (m : EStateM ε σ β) (f : β → EStateM ε σ α) :
    wp (m >>= f) s Q E ↔ wp m s (fun a t => wp (f a) t Q E) E := by
  simp only [wp, EStateM.run_bind]
  cases m.run s <;> rfl

@[simp] theorem wp_map (f : β → α) (m : EStateM ε σ β) :
    wp (f <$> m) s Q E ↔ wp m s (fun a t => Q (f a) t) E := by
  rw [map_eq_pure_bind, wp_bind]
  rfl

@[simp] theorem wp_get {Q : σ → σ → Prop} :
    wp (get : EStateM ε σ σ) s Q E ↔ Q s s := Iff.rfl

@[simp] theorem wp_set {Q : PUnit → σ → Prop} (t : σ) :
    wp (set t : EStateM ε σ PUnit) s Q E ↔ Q ⟨⟩ t := Iff.rfl

@[simp] theorem wp_modify {Q : PUnit → σ → Prop} (f : σ → σ) :
    wp (modify f : EStateM ε σ PUnit) s Q E ↔ Q ⟨⟩ (f s) := Iff.rfl

@[simp] theorem wp_tryCatch (m : EStateM ε σ α) (h : ε → EStateM ε σ α) :
    wp (tryCatch m h) s Q E ↔ wp m s Q (fun e t => wp (h e) t Q E) := by
  simp only [wp, tryCatch, tryCatchThe, MonadExceptOf.tryCatch, EStateM.run, EStateM.tryCatch]
  cases m s <;> rfl

theorem wp_ite {c : Prop} [Decidable c] (m n : EStateM ε σ α) :
    wp (if c then m else n) s Q E ↔ (c → wp m s Q E) ∧ (¬ c → wp n s Q E) := by
  by_cases h : c <;> simp [h]

/-- The rule of consequence. -/
theorem wp.mono {m : EStateM ε σ α} {Q' : α → σ → Prop} {E' : ε → σ → Prop}
    (h : wp m s Q E) (hQ : ∀ a t, Q a t → Q' a t) (hE : ∀ e t, E e t → E' e t) :
    wp m s Q' E' := by
  unfold wp at h ⊢
  split at h
  · exact hQ _ _ h
  · exact hE _ _ h

theorem wp.and {m : EStateM ε σ α} {Q' : α → σ → Prop} {E' : ε → σ → Prop}
    (h : wp m s Q E) (h' : wp m s Q' E') :
    wp m s (fun a t => Q a t ∧ Q' a t) (fun e t => E e t ∧ E' e t) := by
  unfold wp at h h' ⊢
  split at h <;> simp_all

/-- The outcome itself may be used in the postconditions. -/
theorem wp.run {m : EStateM ε σ α} (h : wp m s Q E) :
    wp m s (fun a t => Q a t ∧ m.run s = .ok a t) (fun e t => E e t ∧ m.run s = .error e t) := by
  unfold wp at h ⊢
  split at h <;> simp_all

/-- What holds of every normal outcome holds of this one. -/
theorem wp.of_run_eq_ok {m : EStateM ε σ α} (h : wp m s Q E) {a : α} {t : σ}
    (hrun : m.run s = .ok a t) : Q a t := by
  unfold wp at h
  rwa [hrun] at h

/-- A program that only returns has an outcome. -/
theorem wp.exists_run_eq_ok {m : EStateM ε σ α} (h : wp m s Q (fun _ _ => False)) :
    ∃ a t, m.run s = .ok a t ∧ Q a t := by
  unfold wp at h
  split at h
  case h_1 a t hrun => exact ⟨a, t, hrun, h⟩
  case h_2 => exact h.elim

theorem wp.trivial (m : EStateM ε σ α) (s : σ) :
    wp m s (fun _ _ => True) (fun _ _ => True) := by
  unfold wp
  split <;> exact True.intro

/-- A program that cannot throw returns. -/
theorem wp.exists_of_no_exception {m : EStateM ε σ α} (h : wp m s Q E)
    (hE : ∀ e t, ¬ E e t) : ∃ a t, Q a t := by
  unfold wp at h
  split at h
  · exact ⟨_, _, h⟩
  · exact absurd h (hE _ _)

/-- The rule for loops: an invariant of the body is one of the loop. -/
theorem wp_forM {γ : Type} {f : γ → EStateM ε σ PUnit} {I : σ → Prop} (l : List γ)
    (hf : ∀ x ∈ l, ∀ t, I t → wp (f x) t (fun _ u => I u) E) (hs : I s) :
    wp (l.forM f) s (fun _ u => I u) E := by
  induction l generalizing s with
  | nil => exact hs
  | cons x l ih =>
    change wp (f x >>= fun _ => l.forM f) s _ _
    rw [wp_bind]
    refine wp.mono (hf x (List.mem_cons_self ..) s hs) (fun _ u hu => ?_) (fun _ _ h => h)
    exact ih (fun y hy t ht => hf y (List.mem_cons_of_mem _ hy) t ht) hu

theorem wp_congr {m m' : EStateM ε σ α} (h : m.run s = m'.run s) :
    wp m s Q E ↔ wp m' s Q E := by
  unfold wp
  rw [h]

/-- Postconditions may be exchanged where they agree on the outcomes. -/
theorem wp.congr_post {m : EStateM ε σ α} {P Q' : α → σ → Prop} {R E' : ε → σ → Prop}
    (h : wp m s P R) (hQ : ∀ a t, P a t → (Q a t ↔ Q' a t))
    (hE : ∀ e t, R e t → (E e t ↔ E' e t)) : wp m s Q E ↔ wp m s Q' E' := by
  unfold wp at h ⊢
  split at h
  · exact hQ _ _ h
  · exact hE _ _ h

/-- Programs that meet the same specifications in `s` run alike in `s`. -/
theorem run_eq_of_wp {m m' : EStateM ε σ α} (h : ∀ Q E, wp m s Q E ↔ wp m' s Q E) :
    m.run s = m'.run s := by
  have hm := (h (fun a t => m.run s = .ok a t) (fun e t => m.run s = .error e t)).mp
    (by unfold wp; split <;> assumption)
  unfold wp at hm
  split at hm <;> simp_all

/-- A specification that does not ask how `m` ended speaks of the state it
left. -/
theorem wp_iff_finalState {m : EStateM ε σ α} {P : σ → Prop} :
    wp m s (fun _ t => P t) (fun _ t => P t) ↔ P (finalState m s) := by
  unfold wp finalState
  split <;> rfl

end Rules

theorem ok_bind (a : α) (f : α → Except ε β) : (Except.ok a >>= f) = f a := rfl

/-- A computation that succeeds has succeeded in its first part. -/
theorem exists_of_bind_eq_ok {x : Except ε α} {f : α → Except ε β} {b : β}
    (h : (x >>= f) = .ok b) : ∃ a, x = .ok a ∧ f a = .ok b := by
  cases x with
  | error e => cases h
  | ok a => exact ⟨a, rfl, h⟩

/-- A fallible loop that fails on no element returns what it made of each. -/
theorem exists_mapM_eq_ok {f : α → Except ε β} {R : α → β → Prop} {l : List α}
    (h : ∀ a ∈ l, ∃ b, f a = .ok b ∧ R a b) : ∃ bs, l.mapM f = .ok bs ∧ List.Forall₂ R l bs := by
  induction l with
  | nil => exact ⟨[], rfl, .nil⟩
  | cons a l ih =>
    obtain ⟨b, hb, hR⟩ := h a (List.mem_cons_self ..)
    obtain ⟨bs, hbs, hall⟩ := ih fun x hx => h x (List.mem_cons_of_mem _ hx)
    exact ⟨b :: bs, by rw [List.mapM_cons, hb, hbs]; rfl, .cons hR hall⟩

theorem isOk_map (x : Except ε α) (f : α → β) : (x.map f).isOk = x.isOk := by
  cases x <;> rfl

/-- A fallible loop whose result is dropped only depends on what fails. -/
theorem mapM_map_unit_congr {f g : α → Except ε β} {l : List α}
    (h : ∀ a ∈ l, (f a).map (fun _ => ()) = (g a).map (fun _ => ())) :
    (l.mapM f).map (fun _ => ()) = (l.mapM g).map (fun _ => ()) := by
  induction l with
  | nil => rfl
  | cons a l ih =>
    have hhead := h a (List.mem_cons_self ..)
    have htail := ih fun b hb => h b (List.mem_cons_of_mem _ hb)
    rw [List.mapM_cons, List.mapM_cons]
    cases hf : f a <;> cases hg : g a <;> cases hfl : l.mapM f <;> cases hgl : l.mapM g <;>
      simp_all [Except.map, bind, Except.bind, pure, Except.pure]

/-- A fallible loop fails on one of its elements. -/
theorem exists_of_mapM_eq_error {f : α → Except ε β} {l : List α} {e : ε}
    (h : l.mapM f = .error e) : ∃ a ∈ l, f a = .error e := by
  induction l with
  | nil => cases h
  | cons a l ih =>
    rw [List.mapM_cons] at h
    cases hf : f a with
    | error e' =>
      rw [hf] at h
      exact ⟨a, List.mem_cons_self .., hf.trans (congrArg _ (Except.error.inj h))⟩
    | ok b =>
      rw [hf, ok_bind] at h
      cases hl : l.mapM f with
      | error e' =>
        rw [hl] at h
        obtain ⟨x, hx, hfx⟩ := ih (hl.trans (congrArg _ (Except.error.inj h)))
        exact ⟨x, List.mem_cons_of_mem _ hx, hfx⟩
      | ok bs =>
        rw [hl] at h
        cases h

/-! ## What a program throws -/

/-- Wherever `m` is started, what it throws meets `P`. -/
def Throws (P : ε → Prop) (m : EStateM ε σ α) : Prop :=
  ∀ s, wp m s (fun _ _ => True) (fun e _ => P e)

namespace Throws

variable {P : ε → Prop}

theorem pure (a : α) : Throws P (pure a : EStateM ε σ α) := fun _ => True.intro

theorem throw {e : ε} (h : P e) : Throws P (throw e : EStateM ε σ α) := fun _ => h

theorem get : Throws P (get : EStateM ε σ σ) := fun _ => True.intro

theorem modify (f : σ → σ) : Throws P (modify f : EStateM ε σ PUnit) := fun _ => True.intro

theorem bind {m : EStateM ε σ α} {f : α → EStateM ε σ β} (hm : Throws P m)
    (hf : ∀ a, Throws P (f a)) : Throws P (m >>= f) := by
  intro s
  rw [wp_bind]
  exact wp.mono (hm s) (fun a t _ => hf a t) (fun _ _ h => h)

theorem ite {c : Prop} [Decidable c] {m n : EStateM ε σ α} (hm : c → Throws P m)
    (hn : ¬ c → Throws P n) : Throws P (if c then m else n) := by
  intro s
  rw [wp_ite]
  exact ⟨fun h => hm h s, fun h => hn h s⟩

/-- Only what the handler throws gets out. -/
theorem tryCatch {Q : ε → Prop} {m : EStateM ε σ α} {k : ε → EStateM ε σ α} (hm : Throws Q m)
    (hk : ∀ e, Q e → Throws P (k e)) : Throws P (tryCatch m k) := by
  intro s
  rw [wp_tryCatch]
  exact wp.mono (hm s) (fun _ _ h => h) (fun e t h => hk e h t)

theorem any (m : EStateM ε σ α) : Throws (fun _ => True) m := fun s => wp.trivial m s

theorem forM {γ : Type} {f : γ → EStateM ε σ PUnit} (l : List γ) (hf : ∀ x, Throws P (f x)) :
    Throws P (l.forM f) := by
  induction l with
  | nil => exact .pure _
  | cons x l ih => exact .bind (hf x) fun _ => ih

end Throws

/-! ## What a program leaves as it is -/

/-- However `m` ends, it left the part `f` of the state as it was. -/
def Keeps {γ : Type} (f : σ → γ) (m : EStateM ε σ α) : Prop :=
  ∀ s, wp m s (fun _ t => f t = f s) (fun _ t => f t = f s)

namespace Keeps

variable {γ : Type} {f : σ → γ} {m n : EStateM ε σ α} {s t : σ}

theorem pure (a : α) : Keeps f (pure a : EStateM ε σ α) := fun _ => rfl

theorem throw (e : ε) : Keeps f (throw e : EStateM ε σ α) := fun _ => rfl

theorem throw_bind (e : ε) (k : β → EStateM ε σ α) :
    Keeps f ((MonadExcept.throw e : EStateM ε σ β) >>= k) := fun _ => rfl

/-- What was left alone before `m` was started is left alone after it. -/
theorem after (h : Keeps f m) (hst : f t = f s) :
    wp m t (fun _ u => f u = f s) (fun _ u => f u = f s) :=
  wp.mono (h t) (fun _ _ hu => hu.trans hst) (fun _ _ hu => hu.trans hst)

theorem bind {k : α → EStateM ε σ β} (hm : Keeps f m) (hk : ∀ a, Keeps f (k a)) :
    Keeps f (m >>= k) := by
  intro s
  rw [wp_bind]
  exact wp.mono (hm s) (fun a _ hu => (hk a).after hu) (fun _ _ hu => hu)

theorem modify_bind {g : σ → σ} {k : PUnit → EStateM ε σ β} (h : ∀ s, f (g s) = f s)
    (hk : Keeps f (k ⟨⟩)) : Keeps f ((modify g : EStateM ε σ PUnit) >>= k) :=
  bind h fun _ => hk

theorem modify {g : σ → σ} (h : ∀ s, f (g s) = f s) : Keeps f (modify g : EStateM ε σ PUnit) := h

/-- The state that was read is the one that `k` starts in. -/
theorem get_bind {k : σ → EStateM ε σ β}
    (h : ∀ s, wp (k s) s (fun _ t => f t = f s) (fun _ t => f t = f s)) :
    Keeps f (get >>= k) := h

theorem read {k : σ → EStateM ε σ β} (h : ∀ s, Keeps f (k s)) : Keeps f (get >>= k) :=
  get_bind fun s => h s s

theorem ite {c : Prop} [Decidable c] (hm : c → Keeps f m) (hn : ¬ c → Keeps f n) :
    Keeps f (if c then m else n) := by
  intro s
  rw [wp_ite]
  exact ⟨fun h => hm h s, fun h => hn h s⟩

theorem tryCatch {k : ε → EStateM ε σ α} (hm : Keeps f m) (hk : ∀ e, Keeps f (k e)) :
    Keeps f (tryCatch m k) := by
  intro s
  rw [wp_tryCatch]
  exact wp.mono (hm s) (fun _ _ hu => hu) (fun e _ hu => (hk e).after hu)

/-- What is read off a part that is left alone is left alone. -/
theorem comp {δ : Type} (h : Keeps f m) (g : γ → δ) : Keeps (fun s => g (f s)) m :=
  fun s => wp.mono (h s) (fun _ _ hu => congrArg g hu) (fun _ _ hu => congrArg g hu)

theorem finalState (h : Keeps f m) (s : σ) : f (finalState m s) = f s :=
  (wp_iff_finalState (P := fun t => f t = f s)).mp (h s)

end Keeps

/-! ## What a program preserves -/

/-- However `m` ends, `I` holds there if it held at the start. -/
def Preserves (I : σ → Prop) (m : EStateM ε σ α) : Prop :=
  ∀ s, I s → wp m s (fun _ t => I t) (fun _ t => I t)

namespace Preserves

variable {I : σ → Prop} {m n : EStateM ε σ α}

theorem pure (a : α) : Preserves I (pure a : EStateM ε σ α) := fun _ h => h

theorem throw (e : ε) : Preserves I (throw e : EStateM ε σ α) := fun _ h => h

/-- A property of a part that is left alone. -/
theorem of_keeps {γ : Type} {f : σ → γ} (P : γ → Prop) (h : Keeps f m) :
    Preserves (fun s => P (f s)) m := by
  intro s hs
  have hsame {t : σ} (ht : f t = f s) : P (f t) := ht.symm ▸ hs
  exact wp.mono (h s) (fun _ _ ht => hsame ht) (fun _ _ ht => hsame ht)

theorem bind {k : α → EStateM ε σ β} (hm : Preserves I m) (hk : ∀ a, Preserves I (k a)) :
    Preserves I (m >>= k) := by
  intro s hs
  rw [wp_bind]
  exact wp.mono (hm s hs) (fun a t ht => hk a t ht) (fun _ _ ht => ht)

/-- What comes after `m` starts where `I` holds again. -/
theorem followed {k : α → EStateM ε σ β} {s : σ} {Q : β → σ → Prop} {E : ε → σ → Prop}
    (hm : Preserves I m) (hs : I s) (hk : ∀ a t, I t → wp (k a) t Q E)
    (hE : ∀ e t, I t → E e t) : wp (m >>= k) s Q E := by
  rw [wp_bind]
  exact wp.mono (hm s hs) hk hE

theorem tryCatch {k : ε → EStateM ε σ α} (hm : Preserves I m) (hk : ∀ e, Preserves I (k e)) :
    Preserves I (tryCatch m k) := by
  intro s hs
  rw [wp_tryCatch]
  exact wp.mono (hm s hs) (fun _ _ ht => ht) (fun e t ht => hk e t ht)

theorem forM {δ : Type} {k : δ → EStateM ε σ PUnit} (l : List δ) (hk : ∀ x, Preserves I (k x)) :
    Preserves I (l.forM k) := by
  induction l with
  | nil => exact .pure _
  | cons x l ih => exact .bind (hk x) fun _ => ih

end Preserves

/-! ## Programs that keep to a relation -/

/-- However `m` ends when started in `s`, it got there by steps of `R`. -/
def Follows (R : σ → σ → Prop) (m : EStateM ε σ α) (s : σ) : Prop :=
  wp m s (fun _ t => Relation.ReflTransGen R s t) (fun _ t => Relation.ReflTransGen R s t)

namespace Follows

variable {R R' : σ → σ → Prop} {m : EStateM ε σ α} {s t : σ}

theorem pure (a : α) : Follows R (pure a : EStateM ε σ α) s := Relation.ReflTransGen.refl

/-- The steps before `m` was started are steps too. -/
theorem after (h : Follows R m t) (hst : Relation.ReflTransGen R s t) :
    wp m t (fun _ u => Relation.ReflTransGen R s u) (fun _ u => Relation.ReflTransGen R s u) :=
  wp.mono h (fun _ _ hu => hst.trans hu) (fun _ _ hu => hst.trans hu)

theorem weaken (h : Follows R m s) (hR : ∀ a b, R a b → R' a b) : Follows R' m s :=
  wp.mono h (fun _ _ hu => hu.lift id hR) (fun _ _ hu => hu.lift id hR)

theorem tryCatch {h : ε → EStateM ε σ α} (hm : Follows R m s)
    (hh : ∀ e u, Relation.ReflTransGen R s u → Follows R (h e) u) :
    Follows R (tryCatch m h) s := by
  rw [Follows, wp_tryCatch]
  exact wp.mono hm (fun _ _ hu => hu) (fun e u hu => (hh e u hu).after hu)

theorem finalState (h : Follows R m s) : Relation.ReflTransGen R s (finalState m s) :=
  wp_iff_finalState.mp h

end Follows

/-! ## Programs on a part of the state -/

/-- Runs `m` on the part of the state that `part` reads and `put` writes. -/
def onPart {τ : Type} (part : σ → τ) (put : σ → τ → σ) (m : EStateM ε τ α) : EStateM ε σ α := fun s =>
  match m (part s) with
  | .ok a t => .ok a (put s t)
  | .error e t => .error e (put s t)

@[simp] theorem wp_onPart {τ : Type} {part : σ → τ} {put : σ → τ → σ} {m : EStateM ε τ α} {s : σ}
    {Q : α → σ → Prop} {E : ε → σ → Prop} :
    wp (onPart part put m) s Q E ↔
      wp m (part s) (fun a t => Q a (put s t)) (fun e t => E e (put s t)) := by
  simp only [wp, EStateM.run, onPart]
  cases m (part s) <;> rfl

end BitMesh.Lib
