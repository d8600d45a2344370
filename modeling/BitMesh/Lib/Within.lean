import BitMesh.Lib.Program

/-!
# Programs that keep to a preorder

`Within R m` says that `R` holds between the states before and after `m`,
however it ends. For a preorder this follows the ways a program is put
together, so that what is to be shown of many programs is shown of their
statements.
-/

namespace BitMesh.Lib

variable {ε σ α β : Type} {R : σ → σ → Prop}

/-- However `m` ends, `R` relates the states before and after it. -/
def Within (R : σ → σ → Prop) (m : EStateM ε σ α) : Prop :=
  ∀ s, wp m s (fun _ t => R s t) (fun _ t => R s t)

namespace Within

variable {m n : EStateM ε σ α}

theorem modify {g : σ → σ} (h : ∀ s, R s (g s)) : Within R (modify g : EStateM ε σ PUnit) := h

theorem mono {R' : σ → σ → Prop} (h : Within R m) (hR : ∀ s t, R s t → R' s t) : Within R' m :=
  fun s => wp.mono (h s) (fun _ t => hR s t) (fun _ t => hR s t)

theorem finalState (h : Within R m) (s : σ) : R s (finalState m s) :=
  (wp_iff_finalState (P := R s)).mp (h s)

theorem read {k : σ → EStateM ε σ β} (h : ∀ s, Within R (k s)) : Within R (get >>= k) :=
  fun s => h s s

theorem ite {c : Prop} [Decidable c] (hm : c → Within R m) (hn : ¬ c → Within R n) :
    Within R (if c then m else n) := by
  intro s
  rw [wp_ite]
  exact ⟨fun h => hm h s, fun h => hn h s⟩

variable [IsPreorder σ R]

theorem pure (a : α) : Within R (pure a : EStateM ε σ α) := fun s => refl_of R s

theorem throw (e : ε) : Within R (throw e : EStateM ε σ α) := fun s => refl_of R s

/-- A program that changes nothing. -/
theorem of_same (h : Keeps id m) : Within R m := by
  intro s
  have hsame {t : σ} (ht : id t = id s) : R s t := by
    obtain rfl : t = s := ht
    exact refl_of R t
  exact wp.mono (h s) (fun _ _ ht => hsame ht) (fun _ _ ht => hsame ht)

/-- What `m` is related to, what came before it is related to. -/
theorem after (h : Within R m) {s t : σ} (hst : R s t) :
    wp m t (fun _ u => R s u) (fun _ u => R s u) :=
  wp.mono (h t) (fun _ _ hu => trans_of R hst hu) (fun _ _ hu => trans_of R hst hu)

theorem bind {k : α → EStateM ε σ β} (hm : Within R m) (hk : ∀ a, Within R (k a)) :
    Within R (m >>= k) := by
  intro s
  rw [wp_bind]
  exact wp.mono (hm s) (fun a _ hu => (hk a).after hu) (fun _ _ hu => hu)

/-- A program that changes nothing comes first. -/
theorem skip {k : α → EStateM ε σ β} (hm : Keeps id m) (hk : ∀ a, Within R (k a)) :
    Within R (m >>= k) :=
  .bind (.of_same hm) hk

theorem tryCatch {k : ε → EStateM ε σ α} (hm : Within R m) (hk : ∀ e, Within R (k e)) :
    Within R (tryCatch m k) := by
  intro s
  rw [wp_tryCatch]
  exact wp.mono (hm s) (fun _ _ hu => hu) (fun e _ hu => (hk e).after hu)

theorem forM {δ : Type} {k : δ → EStateM ε σ PUnit} (l : List δ) (hk : ∀ x, Within R (k x)) :
    Within R (l.forM k) := by
  induction l with
  | nil => exact .pure _
  | cons x l ih => exact .bind (hk x) fun _ => ih

end Within

end BitMesh.Lib
