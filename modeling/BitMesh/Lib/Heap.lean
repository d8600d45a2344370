import Mathlib

/-!
# A store of mutable objects

Objects live in cells named by natural numbers, and nothing is freed:
`alloc` hands out the next unused name. Reads are total. A cell that was
never allocated holds the default object, so a read after a write needs
no side condition; freshness is what `next` is for.
-/

namespace BitMesh.Lib

/-- Cells `0, 1, ...` of type `α`, the first `next` of them allocated. -/
structure Heap (α : Type) where
  next : Nat
  cell : Nat → α

namespace Heap

variable {α : Type}

/-- No object allocated. -/
def empty (a : α) : Heap α := ⟨0, fun _ => a⟩

def read (h : Heap α) (i : Nat) : α := h.cell i

def write (h : Heap α) (i : Nat) (a : α) : Heap α :=
  { h with cell := Function.update h.cell i a }

/-- The cells with `f` applied at `i`. It is made irreducible below, so
that unification compares the functions applied. -/
def updateCell (cell : Nat → α) (i : Nat) (f : α → α) : Nat → α :=
  Function.update cell i (f (cell i))

/-- Read-modify-write of one cell. -/
def modify (h : Heap α) (i : Nat) (f : α → α) : Heap α :=
  { h with cell := updateCell h.cell i f }

theorem modify_eq_write (h : Heap α) (i : Nat) (f : α → α) :
    h.modify i f = h.write i (f (h.read i)) := rfl

/-- The heap after `new`, and the name of the object made. -/
def alloc (h : Heap α) (a : α) : Nat × Heap α :=
  (h.next, { next := h.next + 1, cell := Function.update h.cell h.next a })

@[simp] theorem read_write_self (h : Heap α) (i : Nat) (a : α) :
    (h.write i a).read i = a := by
  simp [read, write]

theorem read_write_ne (h : Heap α) {i j : Nat} (a : α) (hne : j ≠ i) :
    (h.write i a).read j = h.read j := by
  simp [read, write, hne]

@[simp] theorem next_write (h : Heap α) (i : Nat) (a : α) :
    (h.write i a).next = h.next := rfl

@[simp] theorem read_modify_self (h : Heap α) (i : Nat) (f : α → α) :
    (h.modify i f).read i = f (h.read i) := by
  simp [modify_eq_write]

theorem read_modify_ne (h : Heap α) {i j : Nat} (f : α → α) (hne : j ≠ i) :
    (h.modify i f).read j = h.read j :=
  read_write_ne h _ hne

theorem read_modify (h : Heap α) (i j : Nat) (f : α → α) :
    (h.modify i f).read j = if j = i then f (h.read j) else h.read j := by
  by_cases hij : j = i
  · subst hij; simp
  · rw [read_modify_ne h f hij, if_neg hij]

/-- What `g` leaves alone in an object is the same in every cell. -/
theorem field_modify {β : Type} (h : Heap α) (i j : Nat) (f : α → β) {g : α → α}
    (hg : ∀ a, f (g a) = f a) : f ((h.modify i g).read j) = f (h.read j) := by
  rw [read_modify]
  split
  · exact hg _
  · rfl

@[simp] theorem next_modify (h : Heap α) (i : Nat) (f : α → α) :
    (h.modify i f).next = h.next := rfl

@[simp] theorem modify_modify (h : Heap α) (i : Nat) (f g : α → α) :
    (h.modify i f).modify i g = h.modify i fun a => g (f a) := by
  simp [modify_eq_write, write, read]

@[simp] theorem alloc_fst (h : Heap α) (a : α) : (h.alloc a).1 = h.next := rfl

@[simp] theorem next_alloc (h : Heap α) (a : α) :
    (h.alloc a).2.next = h.next + 1 := rfl

@[simp] theorem read_alloc_new (h : Heap α) (a : α) :
    (h.alloc a).2.read h.next = a := by
  simp [read, alloc]

@[simp] theorem modify_alloc_new (h : Heap α) (a : α) (f : α → α) :
    (h.alloc a).2.modify h.next f = (h.alloc (f a)).2 := by
  simp [modify_eq_write, write, read, alloc]

theorem read_alloc_ne (h : Heap α) (a : α) {j : Nat} (hne : j ≠ h.next) :
    (h.alloc a).2.read j = h.read j := by
  simp [read, alloc, hne]

theorem read_alloc_old (h : Heap α) (a : α) {j : Nat} (hj : j < h.next) :
    (h.alloc a).2.read j = h.read j :=
  read_alloc_ne h a (Nat.ne_of_lt hj)

attribute [irreducible] updateCell

end Heap

end BitMesh.Lib
