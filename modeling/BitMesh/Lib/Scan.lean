import Mathlib

/-!
# A scan that keeps the best element seen

One pass over a list that replaces the element it holds whenever the next
one beats it. No order is assumed of `beats`: with a relation that is not
transitive the result depends on the order of the list, and the lemmas say
what is known all the same.
-/

namespace BitMesh.Lib

variable {α : Type} (beats : α → α → Bool)

/-- The element held after the scan, starting from `best`. -/
def select (best : α) : List α → α
  | [] => best
  | x :: xs => select (if beats x best then x else best) xs

/-- The scan ends with the element it started from or with one it met. -/
theorem select_mem (best : α) (xs : List α) :
    select beats best xs = best ∨ select beats best xs ∈ xs := by
  induction xs generalizing best with
  | nil => exact .inl rfl
  | cons x xs ih =>
    rcases ih (if beats x best then x else best) with h | h
    · rw [select, h]
      split
      · exact .inr (List.mem_cons_self ..)
      · exact .inl rfl
    · exact .inr (List.mem_cons_of_mem _ h)

/-- An element that nothing else beats is kept. -/
theorem select_kept {best : α} {xs : List α} (h : ∀ x ∈ xs, beats x best = true → x = best) :
    select beats best xs = best := by
  induction xs with
  | nil => rfl
  | cons x xs ih =>
    have hrest := ih fun y hy => h y (List.mem_cons_of_mem _ hy)
    rw [select]
    split
    next hx => rw [h x (List.mem_cons_self ..) hx, hrest]
    next => exact hrest

/-- An element that beats all it can meet, and that no other beats, is
selected wherever it stands in the list. -/
theorem select_eq_top {best top : α} {xs : List α} (hmem : top ∈ xs)
    (hbest : beats top best = true) (hover : ∀ x ∈ xs, beats top x = true)
    (hunder : ∀ x ∈ xs, beats x top = true → x = top) :
    select beats best xs = top := by
  induction xs generalizing best with
  | nil => cases hmem
  | cons x xs ih =>
    have hrest : ∀ y ∈ xs, beats y top = true → y = top :=
      fun y hy => hunder y (List.mem_cons_of_mem _ hy)
    rw [select]
    by_cases hx : x = top
    · rw [hx, if_pos hbest]
      exact select_kept beats hrest
    · have hmem' : top ∈ xs := (List.mem_cons.mp hmem).resolve_left fun h => hx h.symm
      apply ih hmem' _ (fun y hy => hover y (List.mem_cons_of_mem _ hy)) hrest
      split
      · exact hover x (List.mem_cons_self ..)
      · exact hbest

end BitMesh.Lib
