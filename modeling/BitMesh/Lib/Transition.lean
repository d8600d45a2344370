import Mathlib

/-!
# Runs, and what is visited on the way

A deterministic system takes one input after another. Properties of runs
are proved about smaller effects: when the step on an input is a path of
effects, every world of a run is visited by effects, and an invariant of
the effects holds in all of them.
-/

namespace BitMesh.Lib

variable {σ ι : Type}

/-- The states a run leads to whose steps all meet `ok`. -/
inductive Reaches (next : σ → ι → σ) (ok : σ → ι → Prop) (s₀ : σ) : σ → Prop where
  | start : Reaches next ok s₀ s₀
  | step {s : σ} (i : ι) : Reaches next ok s₀ s → ok s i → Reaches next ok s₀ (next s i)

/-- What holds at the start and is kept by every step holds in every state
reached. -/
theorem Reaches.invariant {next : σ → ι → σ} {ok : σ → ι → Prop} {s₀ : σ} {I : σ → Prop}
    (h₀ : I s₀) (hstep : ∀ s i, ok s i → I s → I (next s i)) {s : σ}
    (h : Reaches next ok s₀ s) : I s := by
  induction h with
  | start => exact h₀
  | step i _ hi ih => exact hstep _ i hi ih

/-- A run of one system is a run of another that takes its inputs too. -/
theorem Reaches.map {κ : Type} {next : σ → ι → σ} {ok : σ → ι → Prop} {next' : σ → κ → σ}
    {ok' : σ → κ → Prop} {s₀ s : σ} (f : ι → κ) (hnext : ∀ s i, next' s (f i) = next s i)
    (hok : ∀ s i, ok s i → ok' s (f i)) (h : Reaches next ok s₀ s) :
    Reaches next' ok' s₀ s := by
  induction h with
  | start => exact .start
  | step i _ hi ih => exact hnext _ i ▸ ih.step (f i) (hok _ i hi)

/-- Every list of inputs is a run. -/
theorem Reaches.foldl {next : σ → ι → σ} {s₀ s : σ} (is : List ι)
    (h : Reaches next (fun _ _ => True) s₀ s) :
    Reaches next (fun _ _ => True) s₀ (is.foldl next s) := by
  induction is generalizing s with
  | nil => exact h
  | cons i is ih => exact ih (h.step i trivial)

/-- The condition `ok` holds along the run of a list of inputs. -/
def Along (next : σ → ι → σ) (ok : σ → ι → Prop) : σ → List ι → Prop
  | _, [] => True
  | s, i :: is => ok s i ∧ Along next ok (next s i) is

instance Along.decidable (next : σ → ι → σ) (ok : σ → ι → Prop) [∀ s i, Decidable (ok s i)] :
    (s : σ) → (is : List ι) → Decidable (Along next ok s is)
  | _, [] => isTrue trivial
  | s, i :: is =>
      haveI := Along.decidable next ok (next s i) is
      inferInstanceAs (Decidable (ok s i ∧ Along next ok (next s i) is))

theorem Reaches.along {next : σ → ι → σ} {ok : σ → ι → Prop} {s₀ s : σ} {is : List ι}
    (h : Reaches next ok s₀ s) (hok : Along next ok s is) :
    Reaches next ok s₀ (is.foldl next s) := by
  induction is generalizing s with
  | nil => exact h
  | cons i is ih => exact ih (h.step i hok.1) hok.2

/-- A weaker condition holds along the same run. -/
theorem Along.mono {next : σ → ι → σ} {ok ok' : σ → ι → Prop} (hok : ∀ s i, ok s i → ok' s i)
    {s : σ} {is : List ι} (h : Along next ok s is) : Along next ok' s is := by
  induction is generalizing s with
  | nil => trivial
  | cons i is ih => exact ⟨hok s i h.1, ih h.2⟩

/-- What holds along a run holds along every part of it. -/
theorem Along.block {next : σ → ι → σ} {ok : σ → ι → Prop} {s : σ} {before block after : List ι}
    (h : Along next ok s (before ++ block ++ after)) :
    Along next ok (before.foldl next s) block := by
  induction before generalizing s with
  | nil =>
    induction block generalizing s with
    | nil => trivial
    | cons i block ih => exact ⟨h.1, ih h.2⟩
  | cons i before ih => exact ih h.2

/-- Two conditions that say the same wherever `ok` leads the run are the
same along it. -/
theorem along_congr {next : σ → ι → σ} {good ok : σ → ι → Prop} {I : σ → Prop} {D : ι → Prop}
    {s : σ} {is : List ι} (hI : I s) (hD : ∀ i ∈ is, D i)
    (hstep : ∀ s i, I s → D i → ok s i → I (next s i))
    (hiff : ∀ s i, I s → D i → (good s i ↔ ok s i)) :
    Along next good s is ↔ Along next ok s is := by
  induction is generalizing s with
  | nil => exact Iff.rfl
  | cons i is ih =>
      obtain ⟨hi, his⟩ := List.forall_mem_cons.mp hD
      have hhead := hiff s i hI hi
      constructor
      · intro h
        have hok := hhead.mp h.1
        exact ⟨hok, (ih (hstep s i hI hi hok) his).mp h.2⟩
      · intro h
        exact ⟨hhead.mpr h.1, (ih (hstep s i hI hi h.1) his).mpr h.2⟩

/-- The states visited by the effects of a run: `effect s i` relates the
states before and after one effect of the input `i` taken in `s`. -/
inductive Visited (effect : σ → ι → σ → σ → Prop) (ok : σ → ι → Prop) (s₀ : σ) :
    σ → Prop where
  | start : Visited effect ok s₀ s₀
  | effect {s t u : σ} (i : ι) : Visited effect ok s₀ s → ok s i →
      Relation.ReflTransGen (effect s i) s t → effect s i t u → Visited effect ok s₀ u

namespace Visited

variable {effect : σ → ι → σ → σ → Prop} {ok : σ → ι → Prop} {s₀ : σ}

theorem path {s t : σ} {i : ι} (hs : Visited effect ok s₀ s) (hi : ok s i)
    (h : Relation.ReflTransGen (effect s i) s t) : Visited effect ok s₀ t := by
  cases h with
  | refl => exact hs
  | tail hpath hstep => exact .effect i hs hi hpath hstep

/-- If steps are paths of effects wherever a run comes by, then a run
visits the states it reaches. -/
theorem of_reaches {next : σ → ι → σ}
    (href : ∀ s i, Visited effect ok s₀ s → Relation.ReflTransGen (effect s i) s (next s i))
    {s : σ} (h : Reaches next ok s₀ s) : Visited effect ok s₀ s := by
  induction h with
  | start => exact .start
  | step i _ hi ih => exact path ih hi (href _ i ih)

/-- What holds at the start and is kept by every effect holds wherever a
run comes by. -/
theorem invariant {I : σ → Prop} (h₀ : I s₀)
    (hstep : ∀ s i t u, Visited effect ok s₀ s → ok s i →
      Relation.ReflTransGen (effect s i) s t → I s → I t → effect s i t u → I u)
    {s : σ} (h : Visited effect ok s₀ s) : I s := by
  induction h with
  | start => exact h₀
  | @effect s t u i hs hi hpath he ihs =>
    -- along the path of one input, by induction on the path
    have ht : I t := by
      clear he
      induction hpath with
      | refl => exact ihs
      | tail hpath he iht => exact hstep _ i _ _ hs hi hpath ihs iht he
    exact hstep _ i _ _ hs hi hpath ihs ht he

/-- A stronger condition allows fewer runs. -/
theorem mono {ok' : σ → ι → Prop} (hok : ∀ s i, ok s i → ok' s i) {s : σ}
    (h : Visited effect ok s₀ s) : Visited effect ok' s₀ s := by
  induction h with
  | start => exact .start
  | effect i _ hi hpath he ihs => exact .effect i ihs (hok _ i hi) hpath he

end Visited

end BitMesh.Lib
