import Mathlib

/-!
# A directory and what is in it

Files and directories below one directory, as a tree: what exists stands in
a directory. `delete` and `FileOutputStream` do what `java.io` documents.
-/

namespace BitMesh.Lib

/-- The names on the way from the top directory. -/
abbrev Path := List String

inductive Node where
  | directory
  | file (bytes : List UInt8)
  deriving DecidableEq

/-- What exists, with the invariant that makes it a tree. -/
structure FileSystem where
  nodes : AList fun _ : Path => Node
  top : nodes.lookup [] = some .directory
  inDirectory : ∀ p, p ≠ [] → p ∈ nodes → nodes.lookup p.dropLast = some .directory

namespace FileSystem

def lookup (fs : FileSystem) (p : Path) : Option Node := fs.nodes.lookup p

/-- Something stands in the directory `p`. -/
def hasChildren (fs : FileSystem) (p : Path) : Bool :=
  fs.nodes.keys.any fun q => q ≠ [] ∧ q.dropLast = p

/-- `p` is a directory that cannot be deleted. -/
def Occupied (fs : FileSystem) (p : Path) : Prop :=
  fs.lookup p = some .directory ∧ fs.hasChildren p = true

theorem hasChildren_iff {fs : FileSystem} {p : Path} :
    fs.hasChildren p = true ↔ ∃ q, q ≠ [] ∧ q.dropLast = p ∧ fs.lookup q ≠ none := by
  simp only [hasChildren, List.any_eq_true, decide_eq_true_eq, ← AList.mem_keys]
  constructor
  · rintro ⟨q, hq, hne, hparent⟩
    exact ⟨q, hne, hparent, fun hnone => AList.lookup_eq_none.mp hnone hq⟩
  · rintro ⟨q, hne, hparent, hsome⟩
    refine ⟨q, ?_, hne, hparent⟩
    by_contra hq
    exact hsome (AList.lookup_eq_none.mpr hq)

theorem lookup_dropLast {fs : FileSystem} {p : Path} (hp : p ≠ []) (h : fs.lookup p ≠ none) :
    fs.lookup p.dropLast = some .directory := by
  apply fs.inDirectory p hp
  by_contra hnone
  exact h (AList.lookup_eq_none.mpr hnone)

/-- What has something in it is a directory. -/
theorem lookup_of_hasChildren {fs : FileSystem} {p : Path} (h : fs.hasChildren p = true) :
    fs.lookup p = some .directory := by
  obtain ⟨q, hq, rfl, hsome⟩ := hasChildren_iff.mp h
  exact lookup_dropLast hq hsome

theorem dropLast_ne_self {p : Path} (hp : p ≠ []) : p.dropLast ≠ p := by
  intro h
  have hlength := congrArg List.length h
  have hpos := List.length_pos_iff.mpr hp
  rw [List.length_dropLast] at hlength
  omega

/-- `delete()`: a directory with something in it stays. -/
def delete (fs : FileSystem) (p : Path) : FileSystem :=
  if h : p ≠ [] ∧ fs.hasChildren p = false then {
    nodes := fs.nodes.erase p
    top := by
      rw [AList.lookup_erase_ne (Ne.symm h.1)]
      exact fs.top
    inDirectory := by
      intro q hq hmem
      obtain ⟨-, hold⟩ := AList.mem_erase.mp hmem
      have hparent : q.dropLast ≠ p := by
        intro heq
        have hchild : fs.hasChildren p = true := hasChildren_iff.mpr ⟨q, hq, heq, by
          intro hnone
          exact AList.lookup_eq_none.mp hnone hold⟩
        rw [h.2] at hchild
        cases hchild
      rw [AList.lookup_erase_ne hparent]
      exact fs.inDirectory q hq hold }
  else fs

/-- `new FileOutputStream(p)` and what is written to it: a file is created
or truncated; `none` stands for an `IOException`. -/
def writeFile (fs : FileSystem) (p : Path) (bytes : List UInt8) : Option FileSystem :=
  if h : p ≠ [] ∧ fs.lookup p ≠ some .directory ∧ fs.lookup p.dropLast = some .directory then
    some {
      nodes := fs.nodes.insert p (.file bytes)
      top := by
        rw [AList.lookup_insert_ne (Ne.symm h.1)]
        exact fs.top
      inDirectory := by
        intro q hq hmem
        have hparent : q.dropLast ≠ p := by
          intro heq
          rcases (AList.mem_insert _).mp hmem with rfl | hold
          · exact dropLast_ne_self hq heq
          · have hdirectory := fs.inDirectory q hq hold
            rw [heq] at hdirectory
            exact h.2.1 hdirectory
        rw [AList.lookup_insert_ne hparent]
        rcases (AList.mem_insert _).mp hmem with rfl | hold
        · exact h.2.2
        · exact fs.inDirectory q hq hold }
  else none

theorem lookup_delete {fs : FileSystem} {p : Path} (hp : p ≠ []) (q : Path) :
    (fs.delete p).lookup q =
      if q = p ∧ fs.hasChildren p = false then none else fs.lookup q := by
  unfold delete
  by_cases h : fs.hasChildren p = false
  · rw [dif_pos ⟨hp, h⟩]
    by_cases hq : q = p
    · rw [if_pos ⟨hq, h⟩, hq]
      exact AList.lookup_erase _ _
    · rw [if_neg (fun hand => hq hand.1)]
      exact AList.lookup_erase_ne hq
  · rw [dif_neg (fun hand => h hand.2), if_neg (fun hand => h hand.2)]

theorem lookup_writeFile {fs fs' : FileSystem} {p : Path} {bytes : List UInt8}
    (h : fs.writeFile p bytes = some fs') (q : Path) :
    fs'.lookup q = if q = p then some (.file bytes) else fs.lookup q := by
  unfold writeFile at h
  split at h
  · cases h
    by_cases hq : q = p
    · rw [if_pos hq, hq]
      exact AList.lookup_insert _
    · rw [if_neg hq]
      exact AList.lookup_insert_ne hq
  · cases h

/-- A file is written where there is a directory for it, and no directory in
its place. -/
theorem writeFile_isSome_iff {fs : FileSystem} {p : Path} {bytes : List UInt8} (hp : p ≠ []) :
    (fs.writeFile p bytes).isSome = true ↔
      fs.lookup p ≠ some .directory ∧ fs.lookup p.dropLast = some .directory := by
  unfold writeFile
  split
  · rename_i h
    simpa using h.2
  · rename_i h
    simp only [Option.isSome_none, Bool.false_eq_true, false_iff]
    exact fun hand => h ⟨hp, hand⟩

end FileSystem

end BitMesh.Lib
