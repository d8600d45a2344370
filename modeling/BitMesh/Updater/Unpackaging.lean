import BitMesh.Lib.FileSystem

/-!
# Unpacking an update

`Unpackager.unZip` opens a file for every entry of the archive. It computes
the directory an entry belongs to and does not create it, and it opens a
file for an entry that is a directory too. The first entry that fails ends
the loop.
-/

namespace BitMesh.Updater

open BitMesh.Lib

/-- An entry of a zip archive: its name, taken apart, and what reading it
yields, a buffer at a time. -/
structure ZipEntry where
  path : Path
  isDirectory : Bool
  chunks : List (List UInt8)

/-- What the loop over the buffers copies. -/
def ZipEntry.content (entry : ZipEntry) : List UInt8 := entry.chunks.foldl (· ++ ·) []

/-- The file that is there already is deleted. -/
def makeWay (fs : FileSystem) (p : Path) : FileSystem :=
  if (fs.lookup p).isSome then fs.delete p else fs

/-- `unZip(d)`, of what is in `d`. -/
def unZip : FileSystem → List ZipEntry → FileSystem
  | fs, [] => fs
  | fs, entry :: rest =>
      let fs := makeWay fs entry.path
      match fs.writeFile entry.path entry.content with
      | some fs => unZip fs rest
      | none => fs

/-- What the installation should have of an entry. -/
def ZipEntry.node (entry : ZipEntry) : Node :=
  if entry.isDirectory then .directory else .file entry.content

/-- The archive is unpacked, and nothing else has changed. -/
structure Unpacked (entries : List ZipEntry) (fs fs' : FileSystem) : Prop where
  present : ∀ entry ∈ entries, fs'.lookup entry.path = some entry.node
  others : ∀ p, (∀ entry ∈ entries, entry.path ≠ p) → fs'.lookup p = fs.lookup p

/-- The entries of an archive: they have names of their own, nothing stands
in a file, and a directory is listed before the files in it. -/
structure WellFormed (entries : List ZipEntry) : Prop where
  named : ∀ entry ∈ entries, entry.path ≠ []
  distinct : (entries.map (·.path)).Nodup
  tree : ∀ e ∈ entries, ∀ e' ∈ entries, e.isDirectory = false → e.path <+: e'.path →
    e.path = e'.path
  listed : entries.Pairwise fun e e' =>
    e.isDirectory = false → e'.isDirectory = true → ¬ e'.path <+: e.path

/-- A file can be written for the entry. -/
def Writable (fs : FileSystem) (entry : ZipEntry) : Prop :=
  fs.lookup entry.path.dropLast = some .directory ∧ ¬ fs.Occupied entry.path

/-- The archive begins with files whose directories are there. What follows
them is as it should be already and begins with a directory, with something
in it, that stops the loop. -/
def Unpackable (fs : FileSystem) (entries : List ZipEntry) : Prop :=
  ∃ files rest, entries = files ++ rest ∧
    (∀ entry ∈ files, entry.isDirectory = false ∧ Writable fs entry) ∧
    (∀ entry ∈ rest, fs.lookup entry.path = some entry.node) ∧
    ∀ entry, rest.head? = some entry → entry.isDirectory = true ∧ fs.Occupied entry.path

/-! ## One entry -/

section
variable {fs fs' : FileSystem} {entry : ZipEntry}

theorem lookup_makeWay {p : Path} (hp : p ≠ []) (q : Path) :
    (makeWay fs p).lookup q = if q = p ∧ fs.hasChildren p = false then none else fs.lookup q := by
  unfold makeWay
  split
  · exact FileSystem.lookup_delete hp q
  · rename_i hnone
    split
    · rename_i hand
      rw [hand.1]
      simpa using hnone
    · rfl

/-- The file is written if, and only if, there is a place for it. -/
theorem writeFile_makeWay (hp : entry.path ≠ []) :
    ((makeWay fs entry.path).writeFile entry.path entry.content).isSome = true ↔
      Writable fs entry := by
  have hparent : (makeWay fs entry.path).lookup entry.path.dropLast =
      fs.lookup entry.path.dropLast := by
    rw [lookup_makeWay hp, if_neg (fun hand => FileSystem.dropLast_ne_self hp hand.1)]
  have hself : (makeWay fs entry.path).lookup entry.path = some .directory ↔
      fs.Occupied entry.path := by
    rw [lookup_makeWay hp, FileSystem.Occupied]
    cases hchildren : fs.hasChildren entry.path with
    | false => simp
    | true => simp
  rw [FileSystem.writeFile_isSome_iff hp, hparent, Ne, hself, and_comm]
  rfl

/-- Where there is none, making way has changed nothing. -/
theorem lookup_makeWay_of_not_writable (hp : entry.path ≠ []) (h : ¬ Writable fs entry)
    (q : Path) : (makeWay fs entry.path).lookup q = fs.lookup q := by
  rw [lookup_makeWay hp]
  split
  · rename_i hand
    obtain ⟨rfl, hchildren⟩ := hand
    by_contra hsome
    apply h
    refine ⟨FileSystem.lookup_dropLast hp (Ne.symm hsome), ?_⟩
    rintro ⟨-, hoccupied⟩
    rw [hchildren] at hoccupied
    cases hoccupied
  · rfl

end

/-! ## The loop -/

/-- The entries that are written before the loop ends. -/
inductive Writes : FileSystem → List ZipEntry → FileSystem → Prop where
  | nil (fs : FileSystem) : Writes fs [] fs
  | cons {fs fs' fs'' : FileSystem} {entry : ZipEntry} {rest : List ZipEntry}
      (hwritable : Writable fs entry)
      (hlookup : ∀ q, fs'.lookup q =
        if q = entry.path then some (.file entry.content) else fs.lookup q)
      (hrest : Writes fs' rest fs'') : Writes fs (entry :: rest) fs''

theorem unZip_cons_of_writable {fs : FileSystem} {entry : ZipEntry} (hp : entry.path ≠ [])
    (h : Writable fs entry) (rest : List ZipEntry) :
    ∃ fs', unZip fs (entry :: rest) = unZip fs' rest ∧ ∀ q, fs'.lookup q =
      if q = entry.path then some (.file entry.content) else fs.lookup q := by
  obtain ⟨fs', hfs'⟩ := Option.isSome_iff_exists.mp ((writeFile_makeWay hp).mpr h)
  refine ⟨fs', by simp only [unZip, hfs'], ?_⟩
  intro q
  rw [FileSystem.lookup_writeFile hfs', lookup_makeWay hp]
  by_cases hq : q = entry.path
  · rw [if_pos hq, if_pos hq]
  · rw [if_neg hq, if_neg hq, if_neg (fun hand => hq hand.1)]

theorem lookup_unZip_cons_of_not_writable {fs : FileSystem} {entry : ZipEntry}
    (hp : entry.path ≠ []) (h : ¬ Writable fs entry) (rest : List ZipEntry) (q : Path) :
    (unZip fs (entry :: rest)).lookup q = fs.lookup q := by
  have hnone : (makeWay fs entry.path).writeFile entry.path entry.content = none := by
    rw [← Option.not_isSome_iff_eq_none, writeFile_makeWay hp]
    exact h
  simp only [unZip, hnone]
  exact lookup_makeWay_of_not_writable hp h q

/-- The loop writes the entries up to one that has no place. -/
theorem exists_writes (fs : FileSystem) {entries : List ZipEntry}
    (hnamed : ∀ entry ∈ entries, entry.path ≠ []) :
    ∃ files rest fs', entries = files ++ rest ∧ Writes fs files fs' ∧
      (∀ q, (unZip fs entries).lookup q = fs'.lookup q) ∧
      ∀ entry, rest.head? = some entry → ¬ Writable fs' entry := by
  induction entries generalizing fs with
  | nil => exact ⟨[], [], fs, rfl, .nil fs, fun _ => rfl, by simp⟩
  | cons entry rest ih =>
      obtain ⟨hp, hnamed⟩ := List.forall_mem_cons.mp hnamed
      by_cases hwritable : Writable fs entry
      · obtain ⟨fs₁, hunzip, hlookup⟩ := unZip_cons_of_writable hp hwritable rest
        obtain ⟨files, left, fs', rfl, hwrites, hsame, hends⟩ := ih fs₁ hnamed
        exact ⟨entry :: files, left, fs', rfl, .cons hwritable hlookup hwrites,
          fun q => by rw [hunzip, hsame], hends⟩
      · refine ⟨[], entry :: rest, fs, rfl, .nil fs, ?_, ?_⟩
        · exact lookup_unZip_cons_of_not_writable hp hwritable rest
        · intro entry' heq
          cases heq
          exact hwritable

/-- What was written, and what was not. -/
theorem Writes.lookup {fs fs' : FileSystem} {files : List ZipEntry} (h : Writes fs files fs')
    (hdistinct : (files.map (·.path)).Nodup) :
    (∀ entry ∈ files, fs'.lookup entry.path = some (.file entry.content)) ∧
      ∀ q, (∀ entry ∈ files, entry.path ≠ q) → fs'.lookup q = fs.lookup q := by
  induction h with
  | nil fs => simp
  | @cons fs fs₁ fs' entry rest _ hlookup _ ih =>
      obtain ⟨hnew, hdistinct⟩ := List.nodup_cons.mp hdistinct
      obtain ⟨hfiles, hothers⟩ := ih hdistinct
      have hfresh : ∀ e ∈ rest, e.path ≠ entry.path := by
        intro e he heq
        exact hnew (List.mem_map.mpr ⟨e, he, heq⟩)
      constructor
      · rw [List.forall_mem_cons]
        refine ⟨?_, hfiles⟩
        rw [hothers _ hfresh, hlookup, if_pos rfl]
      · intro q hq
        obtain ⟨hne, hq⟩ := List.forall_mem_cons.mp hq
        rw [hothers q hq, hlookup, if_neg (Ne.symm hne)]

/-- Nothing that existed is gone. -/
theorem Writes.lookup_ne_none {fs fs' : FileSystem} {files : List ZipEntry}
    (h : Writes fs files fs') {q : Path} (hq : fs.lookup q ≠ none) : fs'.lookup q ≠ none := by
  induction h with
  | nil fs => exact hq
  | cons _ hlookup _ ih =>
      apply ih
      rw [hlookup]
      split
      · simp
      · exact hq

theorem Writes.occupied {fs fs' : FileSystem} {files : List ZipEntry} (h : Writes fs files fs')
    (hdistinct : (files.map (·.path)).Nodup) {p : Path} (hp : ∀ entry ∈ files, entry.path ≠ p)
    (hoccupied : fs.Occupied p) : fs'.Occupied p := by
  obtain ⟨hdirectory, hchildren⟩ := hoccupied
  obtain ⟨q, hq, hparent, hsome⟩ := FileSystem.hasChildren_iff.mp hchildren
  refine ⟨?_, FileSystem.hasChildren_iff.mpr ⟨q, hq, hparent, h.lookup_ne_none hsome⟩⟩
  rw [(h.lookup hdistinct).2 p hp]
  exact hdirectory

/-- What was written had its place from the beginning: a file makes no
place for another one. -/
theorem Writes.writable {fs fs' : FileSystem} {files : List ZipEntry} (h : Writes fs files fs')
    (hdistinct : (files.map (·.path)).Nodup) : ∀ entry ∈ files, Writable fs entry := by
  induction h with
  | nil fs => simp
  | @cons fs fs₁ fs' entry rest hwritable hlookup _ ih =>
      obtain ⟨hnew, hdistinct⟩ := List.nodup_cons.mp hdistinct
      rw [List.forall_mem_cons]
      refine ⟨hwritable, ?_⟩
      intro e he
      obtain ⟨hparent, hfree⟩ := ih hdistinct e he
      have hwrites : Writes fs [entry] fs₁ := .cons hwritable hlookup (.nil fs₁)
      refine ⟨?_, ?_⟩
      · rw [hlookup] at hparent
        split at hparent
        · cases hparent
        · exact hparent
      · intro hoccupied
        apply hfree
        apply hwrites.occupied (List.nodup_singleton _) _ hoccupied
        intro e' he' heq
        rw [List.mem_singleton.mp he'] at heq
        exact hnew (List.mem_map.mpr ⟨e, he, heq.symm⟩)

/-- Files that have their places are written, as none of them stands in the
way of another. -/
theorem exists_writes_files {fs : FileSystem} {files : List ZipEntry}
    (hnamed : ∀ entry ∈ files, entry.path ≠ [])
    (happart : files.Pairwise fun e e' => ¬ e.path <+: e'.path ∧ ¬ e'.path <+: e.path)
    (hwritable : ∀ entry ∈ files, Writable fs entry) (rest : List ZipEntry) :
    ∃ fs', Writes fs files fs' ∧ unZip fs (files ++ rest) = unZip fs' rest := by
  induction files generalizing fs with
  | nil => exact ⟨fs, .nil fs, rfl⟩
  | cons entry files ih =>
      obtain ⟨hp, hnamed⟩ := List.forall_mem_cons.mp hnamed
      obtain ⟨hentry, happart⟩ := List.pairwise_cons.mp happart
      obtain ⟨hhead, hwritable⟩ := List.forall_mem_cons.mp hwritable
      obtain ⟨fs₁, hunzip, hlookup⟩ := unZip_cons_of_writable hp hhead (files ++ rest)
      have hstill : ∀ e ∈ files, Writable fs₁ e := by
        intro e he
        obtain ⟨hbelow, habove⟩ := hentry e he
        obtain ⟨hparent, hfree⟩ := hwritable e he
        constructor
        · rw [hlookup, if_neg]
          · exact hparent
          · intro heq
            exact hbelow (heq ▸ List.dropLast_prefix _)
        · rintro ⟨hdirectory, hchildren⟩
          obtain ⟨q, hq, hqparent, hsome⟩ := FileSystem.hasChildren_iff.mp hchildren
          have hne : q ≠ entry.path := by
            rintro rfl
            exact habove (hqparent ▸ List.dropLast_prefix _)
          rw [hlookup, if_neg hne] at hsome
          have hchildren : fs.hasChildren e.path = true :=
            FileSystem.hasChildren_iff.mpr ⟨q, hq, hqparent, hsome⟩
          exact hfree ⟨FileSystem.lookup_of_hasChildren hchildren, hchildren⟩
      obtain ⟨fs', hwrites, hrest⟩ := ih hnamed happart hstill
      exact ⟨fs', .cons hhead hlookup hwrites, hunzip.trans hrest⟩

theorem ZipEntry.node_eq_directory_iff {entry : ZipEntry} :
    entry.node = .directory ↔ entry.isDirectory = true := by
  cases h : entry.isDirectory <;> simp [ZipEntry.node, h]

theorem ZipEntry.node_eq_file_iff {entry : ZipEntry} :
    entry.node = .file entry.content ↔ entry.isDirectory = false := by
  cases h : entry.isDirectory <;> simp [ZipEntry.node, h]

section
variable {files rest : List ZipEntry} {fs : FileSystem} (hwf : WellFormed (files ++ rest))
include hwf

theorem WellFormed.distinct_files : (files.map (·.path)).Nodup := by
  have hall := hwf.distinct
  rw [List.map_append] at hall
  exact (List.nodup_append.mp hall).1

theorem WellFormed.apart {e f : ZipEntry} (hf : f ∈ files) (he : e ∈ rest) : f.path ≠ e.path := by
  have hall := hwf.distinct
  rw [List.map_append] at hall
  exact (List.nodup_append.mp hall).2.2 _ (List.mem_map_of_mem hf) _ (List.mem_map_of_mem he)

/-- If the loop has unpacked the archive, what it wrote are files, and an
entry that stopped it is a directory that was there. -/
theorem unpackable_of_unpacked {fs' : FileSystem} (hwrites : Writes fs files fs')
    (hpresent : ∀ e ∈ files ++ rest, fs'.lookup e.path = some e.node)
    (hends : ∀ entry, rest.head? = some entry → ¬ Writable fs' entry) :
    Unpackable fs (files ++ rest) := by
  obtain ⟨hwritten, hothers⟩ := hwrites.lookup hwf.distinct_files
  have hfiles : ∀ f ∈ files, f.isDirectory = false := by
    intro f hf
    rw [← ZipEntry.node_eq_file_iff]
    exact Option.some.inj ((hpresent f (List.mem_append_left _ hf)).symm.trans (hwritten f hf))
  refine ⟨files, rest, rfl, ?_, ?_, ?_⟩
  · intro f hf
    exact ⟨hfiles f hf, hwrites.writable hwf.distinct_files f hf⟩
  · intro e he
    rw [← hothers e.path fun f hf => hwf.apart hf he]
    exact hpresent e (List.mem_append_right _ he)
  · intro e hhead
    have he : e ∈ rest := List.mem_of_head? hhead
    have hmem : e ∈ files ++ rest := List.mem_append_right _ he
    have hnode := hpresent e hmem
    -- the entry is there, so it is the directory in its place that stopped the loop
    have hoccupied : fs'.Occupied e.path := by
      by_contra hfree
      apply hends e hhead
      exact ⟨FileSystem.lookup_dropLast (hwf.named e hmem) (by rw [hnode]; simp), hfree⟩
    have hdirectory : e.isDirectory = true := by
      rw [← ZipEntry.node_eq_directory_iff]
      exact Option.some.inj (hnode.symm.trans hoccupied.1)
    refine ⟨hdirectory, ?_⟩
    -- no file was written into it
    obtain ⟨q, hq, hqparent, hsome⟩ := FileSystem.hasChildren_iff.mp hoccupied.2
    have hne : ∀ f ∈ files, f.path ≠ q := by
      rintro f hf rfl
      have hlisted := (List.pairwise_append.mp hwf.listed).2.2 f hf e he
      exact hlisted (hfiles f hf) hdirectory (hqparent ▸ List.dropLast_prefix _)
    rw [hothers q hne] at hsome
    have hchildren := FileSystem.hasChildren_iff.mpr ⟨q, hq, hqparent, hsome⟩
    exact ⟨FileSystem.lookup_of_hasChildren hchildren, hchildren⟩

/-- Files that have their places are unpacked, and what follows them was
there. -/
theorem unpacked_of_unpackable
    (hfiles : ∀ f ∈ files, f.isDirectory = false ∧ Writable fs f)
    (hpresent : ∀ e ∈ rest, fs.lookup e.path = some e.node)
    (hhead : ∀ e, rest.head? = some e → e.isDirectory = true ∧ fs.Occupied e.path) :
    Unpacked (files ++ rest) fs (unZip fs (files ++ rest)) := by
  have hdistinct := hwf.distinct_files
  have happart : files.Pairwise fun e e' => ¬ e.path <+: e'.path ∧ ¬ e'.path <+: e.path := by
    have hne : files.Pairwise fun e e' => e.path ≠ e'.path := List.pairwise_map.mp hdistinct
    refine hne.imp_of_mem ?_
    intro e e' he he' hne
    have hleft := hwf.tree e (List.mem_append_left _ he) e' (List.mem_append_left _ he')
      (hfiles e he).1
    have hright := hwf.tree e' (List.mem_append_left _ he') e (List.mem_append_left _ he)
      (hfiles e' he').1
    exact ⟨fun h => hne (hleft h), fun h => hne (hright h).symm⟩
  obtain ⟨fs', hwrites, hunzip⟩ := exists_writes_files
    (fun e he => hwf.named e (List.mem_append_left _ he)) happart (fun e he => (hfiles e he).2) rest
  obtain ⟨hwritten, hothers⟩ := hwrites.lookup hdistinct
  have hend (q : Path) : (unZip fs (files ++ rest)).lookup q = fs'.lookup q := by
    rw [hunzip]
    cases rest with
    | nil => rfl
    | cons e rest =>
        have hoccupied := (hhead e rfl).2
        apply lookup_unZip_cons_of_not_writable
          (hwf.named e (List.mem_append_right _ List.mem_cons_self))
        rintro ⟨-, hfree⟩
        exact hfree (hwrites.occupied hdistinct (fun f hf => hwf.apart hf List.mem_cons_self)
          hoccupied)
  constructor
  · intro e he
    rw [hend]
    rcases List.mem_append.mp he with he | he
    · rw [hwritten e he, ZipEntry.node_eq_file_iff.mpr (hfiles e he).1]
    · rw [hothers _ fun f hf => hwf.apart hf he]
      exact hpresent e he
  · intro q hq
    rw [hend, hothers q fun f hf => hq f (List.mem_append_left _ hf)]

end

/-- An archive is unpacked faithfully if, and only if, its files have their
directories and the loop is stopped by nothing, or by a directory behind
which nothing is left to do. -/
theorem unpacked_iff {entries : List ZipEntry} (hwf : WellFormed entries) (fs : FileSystem) :
    Unpacked entries fs (unZip fs entries) ↔ Unpackable fs entries := by
  constructor
  · intro h
    obtain ⟨files, rest, fs', rfl, hwrites, hsame, hends⟩ := exists_writes fs hwf.named
    apply unpackable_of_unpacked hwf hwrites _ hends
    intro e he
    rw [← hsame]
    exact h.present e he
  · rintro ⟨files, rest, rfl, hfiles, hpresent, hhead⟩
    exact unpacked_of_unpackable hwf hfiles hpresent hhead

/-- An installation directory with nothing in it. -/
def emptyInstallation : FileSystem where
  nodes := AList.singleton [] .directory
  top := rfl
  inDirectory := by
    intro p hp hmem
    rw [AList.mem_keys, AList.keys_singleton] at hmem
    exact absurd (List.mem_singleton.mp hmem) hp

/-- An archive of one file. -/
def flatArchive : List ZipEntry := [⟨["bitmesh.jar"], false, [[80, 75]]⟩]

/-- An archive of a directory and a file in it. -/
def nestedArchive : List ZipEntry := [⟨["lib"], true, []⟩, ⟨["lib", "core.jar"], false, [[80, 75]]⟩]

/-- An installation with a directory, and a file in it. -/
def olderInstallation : FileSystem where
  nodes := ⟨[⟨[], .directory⟩, ⟨["lib"], .directory⟩, ⟨["lib", "core.jar"], .file [80]⟩], by
      unfold List.NodupKeys
      decide +kernel⟩
  top := by decide +kernel
  inDirectory := by
    intro p hp hmem
    rw [AList.mem_keys] at hmem
    fin_cases hmem
    · exact absurd rfl hp
    · decide +kernel
    · decide +kernel

/-- An archive of files only: one replaces the file in the directory, and one
is new there. -/
def fileArchive : List ZipEntry :=
  [⟨["bitmesh.jar"], false, [[80, 75], [3]]⟩, ⟨["lib", "core.jar"], false, [[80, 75]]⟩,
    ⟨["lib", "web.jar"], false, []⟩]

/-- All three are unpacked into the installation. -/
theorem file_archive_unpacked :
    Unpacked fileArchive olderInstallation (unZip olderInstallation fileArchive) := by
  have hwf : WellFormed fileArchive :=
    ⟨by decide +kernel, by decide +kernel, by decide +kernel, by decide +kernel⟩
  refine (unpacked_iff hwf _).mpr ⟨fileArchive, [], (List.append_nil _).symm, ?_, ?_, ?_⟩
  · have hroom : ∀ entry ∈ fileArchive, entry.isDirectory = false ∧
        olderInstallation.lookup entry.path.dropLast = some .directory ∧
        olderInstallation.lookup entry.path ≠ some .directory := by decide +kernel
    intro entry hentry
    obtain ⟨hfile, hparent, hnot⟩ := hroom entry hentry
    exact ⟨hfile, hparent, fun hoccupied => hnot hoccupied.1⟩
  · intro entry hentry
    cases hentry
  · intro entry hhead
    cases hhead

/-- The directory of the other archive becomes a file, and the file that
belongs into it is not unpacked. -/
theorem nested_archive_lost :
    WellFormed nestedArchive ∧
      ¬ Unpacked nestedArchive emptyInstallation (unZip emptyInstallation nestedArchive) ∧
      (unZip emptyInstallation nestedArchive).lookup ["lib"] = some (.file []) ∧
      (unZip emptyInstallation nestedArchive).lookup ["lib", "core.jar"] = none := by
  have hlost : (unZip emptyInstallation nestedArchive).lookup ["lib", "core.jar"] = none := by
    decide +kernel
  refine ⟨⟨by decide +kernel, by decide +kernel, by decide +kernel, by decide +kernel⟩, ?_,
    by decide +kernel, hlost⟩
  intro h
  have hfile := h.present ⟨["lib", "core.jar"], false, [[80, 75]]⟩ (by simp [nestedArchive])
  rw [hlost] at hfile
  cases hfile

end BitMesh.Updater
