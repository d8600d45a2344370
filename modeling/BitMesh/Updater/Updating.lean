import BitMesh.Lib.Transition
import BitMesh.Releases.Versioning
import BitMesh.Updater.Unpackaging

/-!
# Runs of the updater

`Main` compares the version that the server names with `version.txt`, fetches
the package, checks its signature and unpacks it. The signature is over the
package alone, so the server may name any version with it; and `Main` never
writes `version.txt`, so the comparison is always with the version that was
there first.
-/

namespace BitMesh.Updater

open BitMesh.Lib BitMesh.Releases

/-- What the updater uses of `Crypto` and of `java.util.zip`. -/
structure Library where
  /-- `digestFile`, by the content of the file. -/
  digest : List UInt8 → List Char
  verifyFile : List Char → List Char → Bool
  /-- The entries `ZipInputStream` finds. -/
  entries : List UInt8 → List ZipEntry

/-- An answer of the update server. `package` is what the download wrote,
`none` if it could not be started. -/
structure Answer where
  packageInfo : PackageInfo
  package : Option (List UInt8)

/-- A machine the updater runs on. `version.txt` is in the working
directory, beside the installation directory. Which package was unpacked
last is written down nowhere. -/
structure Machine where
  versionFile : VersionFile
  installation : FileSystem
  installed : List UInt8

/-- `packageLocation`, in the installation directory. -/
def packageLocation (packageInfo : PackageInfo) : Path :=
  [String.ofList packageInfo.getPackageName]

/-- `fetchBitMesh`; `Main` does not look at what it returns. -/
def fetchBitMesh (fs : FileSystem) (answer : Answer) : FileSystem :=
  match answer.package with
  | some bytes => (fs.writeFile (packageLocation answer.packageInfo) bytes).getD fs
  | none => fs

/-- What is read of the fetched file. -/
def fetched (fs : FileSystem) (packageInfo : PackageInfo) : Option (List UInt8) :=
  match fs.lookup (packageLocation packageInfo) with
  | some (.file bytes) => some bytes
  | _ => none

/-- `validateBitmesh`; a file that cannot be read has the digest `""`. -/
def validateBitmesh (lib : Library) (fs : FileSystem) (packageInfo : PackageInfo) : Bool :=
  lib.verifyFile (((fetched fs packageInfo).map lib.digest).getD []) packageInfo.signature

/-- `removeZip`. -/
def removeZip (fs : FileSystem) (packageInfo : PackageInfo) : FileSystem :=
  makeWay fs (packageLocation packageInfo)

/-- `Main.main`. -/
def main (lib : Library) (machine : Machine) (answer : Answer) : Machine :=
  if compareVersions machine.versionFile answer.packageInfo then
    let fs := fetchBitMesh machine.installation answer
    if validateBitmesh lib fs answer.packageInfo then
      match fetched fs answer.packageInfo with
      | some package =>
          { machine with
            installation := removeZip (unZip fs (lib.entries package)) answer.packageInfo
            installed := package }
      | none => { machine with installation := fs }
    else { machine with installation := fs }
  else machine

/-- The package that a run unpacks. -/
def unpacks (lib : Library) (machine : Machine) (answer : Answer) : Option (List UInt8) :=
  let fs := fetchBitMesh machine.installation answer
  if compareVersions machine.versionFile answer.packageInfo &&
      validateBitmesh lib fs answer.packageInfo then
    fetched fs answer.packageInfo
  else none

/-- The packages that are unpacked one after the other. -/
def unpackings (lib : Library) : Machine → List Answer → List (List UInt8)
  | _, [] => []
  | machine, answer :: answers =>
      (unpacks lib machine answer).toList ++ unpackings lib (main lib machine answer) answers

/-! ## What the vendor has published -/

/-- A package that the vendor has signed, with the version it was published
under. -/
structure Published extends Release where
  package : List UInt8

/-- Everything the vendor has ever signed. A package carries its version,
so it is published under one only; and signatures are ideal. -/
structure Vendor (lib : Library) where
  published : List Published
  once : ∀ r ∈ published, ∀ r' ∈ published, r.package = r'.package →
    r.info.version = r'.info.version
  signed : ∀ r ∈ published, lib.verifyFile (lib.digest r.package) r.signature = true
  ideal : ∀ package signature, lib.verifyFile (lib.digest package) signature = true →
    ∃ r ∈ published, r.package = package
  unreadable : ∀ signature, lib.verifyFile [] signature = false

section
variable {lib : Library} (vendor : Vendor lib)

/-- What a run unpacks was published, under a newer version than what was
installed before. -/
def Upgrades (machine : Machine) (answer : Answer) : Prop :=
  ∀ package, unpacks lib machine answer = some package →
    ∃ r ∈ vendor.published, r.package = package ∧
      ∀ r' ∈ vendor.published, r'.package = machine.installed →
        r'.info.version < r.info.version

/-- Every run upgrades, and while the server keeps to one answer, at most
one run unpacks something. -/
structure MovesForward (machine : Machine) (answers : List Answer) : Prop where
  upgrades : Along (main lib) (Upgrades vendor) machine answers
  rests : ∀ before answer n, answer.package.isSome →
    before ++ List.replicate n answer <+: answers →
    (unpackings lib (before.foldl (main lib) machine) (List.replicate n answer)).length ≤ 1

/-- A version that passes for newer than `version.txt` is newer than what is
installed, and no newer than the one that the package was published under. -/
def Honest (machine : Machine) (answer : Answer) : Prop :=
  compareVersions machine.versionFile answer.packageInfo = true →
    (∀ r ∈ vendor.published, r.package = machine.installed →
      r.info.version < answer.packageInfo.version) ∧
    ∀ r ∈ vendor.published,
      fetched (fetchBitMesh machine.installation answer) answer.packageInfo = some r.package →
        answer.packageInfo.version ≤ r.info.version

/-! ## One run -/

variable {vendor} {machine : Machine} {answer : Answer} {package : List UInt8}

theorem unpacks_eq_some :
    unpacks lib machine answer = some package ↔
      compareVersions machine.versionFile answer.packageInfo = true ∧
      validateBitmesh lib (fetchBitMesh machine.installation answer) answer.packageInfo = true ∧
      fetched (fetchBitMesh machine.installation answer) answer.packageInfo = some package := by
  unfold unpacks
  rw [Option.ite_none_right_eq_some, Bool.and_eq_true, and_assoc]

/-- What was unpacked last is what is installed. -/
theorem main_installed (lib : Library) (machine : Machine) (answer : Answer) :
    (main lib machine answer).installed = (unpacks lib machine answer).getD machine.installed := by
  unfold main unpacks
  by_cases hnewer : compareVersions machine.versionFile answer.packageInfo = true
  · by_cases hvalid : validateBitmesh lib (fetchBitMesh machine.installation answer)
        answer.packageInfo = true
    · cases hfetched : fetched (fetchBitMesh machine.installation answer) answer.packageInfo <;>
        simp [hnewer, hvalid, hfetched]
    · simp [hnewer, hvalid]
  · simp [hnewer]

/-- A package that is unpacked bears a signature of the vendor. -/
theorem exists_published (vendor : Vendor lib)
    (h : unpacks lib machine answer = some package) :
    ∃ r ∈ vendor.published, r.package = package := by
  obtain ⟨-, hvalid, hfetched⟩ := unpacks_eq_some.mp h
  rw [validateBitmesh, hfetched] at hvalid
  exact vendor.ideal package _ hvalid

/-- What a download wrote is what is unpacked. -/
theorem eq_of_unpacks {bytes : List UInt8} (hbytes : answer.package = some bytes)
    (h : unpacks lib machine answer = some package) : package = bytes := by
  obtain ⟨-, -, hfetched⟩ := unpacks_eq_some.mp h
  unfold fetched fetchBitMesh at hfetched
  rw [hbytes] at hfetched
  dsimp only at hfetched
  have hpath : packageLocation answer.packageInfo ≠ [] := List.cons_ne_nil _ _
  cases hwrite : machine.installation.writeFile (packageLocation answer.packageInfo) bytes with
  | some fs =>
      rw [hwrite, Option.getD_some, FileSystem.lookup_writeFile hwrite, if_pos rfl] at hfetched
      exact (Option.some.inj hfetched).symm
  | none =>
      -- there is a directory in the way, and it is not read
      have hsome : ¬ (machine.installation.writeFile (packageLocation answer.packageInfo)
          bytes).isSome = true := by simp [hwrite]
      rw [FileSystem.writeFile_isSome_iff hpath] at hsome
      have hdirectory : machine.installation.lookup (packageLocation answer.packageInfo) =
          some .directory := by
        by_contra hother
        exact hsome ⟨hother, machine.installation.top⟩
      rw [hwrite, Option.getD_none, hdirectory] at hfetched
      cases hfetched

/-- With an honest version the comparison with `version.txt` says that the
package is an upgrade. -/
theorem Honest.upgrades (h : Honest vendor machine answer) : Upgrades vendor machine answer := by
  intro package hunpacks
  obtain ⟨hnewer, -, hfetched⟩ := unpacks_eq_some.mp hunpacks
  obtain ⟨r, hr, rfl⟩ := exists_published vendor hunpacks
  obtain ⟨hinstalled, hnamed⟩ := h hnewer
  refine ⟨r, hr, rfl, fun r' hr' hpackage => ?_⟩
  exact (hinstalled r' hr' hpackage).trans_le (hnamed r hr hfetched)

/-! ## Any number of runs -/

/-- All that is unpacked later is newer than what is installed. -/
theorem lt_of_mem_unpackings {answers : List Answer}
    (h : Along (main lib) (Upgrades vendor) machine answers) {r r' : Published}
    (hr : r ∈ vendor.published) (hr' : r' ∈ vendor.published)
    (hinstalled : r'.package = machine.installed)
    (hmem : r.package ∈ unpackings lib machine answers) : r'.info.version < r.info.version := by
  induction answers generalizing machine r' with
  | nil => cases hmem
  | cons answer answers ih =>
      rw [unpackings, List.mem_append, Option.mem_toList] at hmem
      have hnext := main_installed lib machine answer
      cases hunpacks : unpacks lib machine answer with
      | none =>
          rw [hunpacks] at hmem hnext
          exact ih h.2 hr' (hinstalled.trans hnext.symm) (hmem.resolve_left (by simp))
      | some package =>
          obtain ⟨q, hq, rfl, hnewer⟩ := h.1 package hunpacks
          have hlt := hnewer r' hr' hinstalled
          rw [hunpacks] at hmem hnext
          rcases hmem with hhead | htail
          · rw [vendor.once r hr q hq (Option.some.inj hhead).symm]
            exact hlt
          · exact hlt.trans (ih h.2 hq hnext.symm htail)

/-- One answer, over and over, is unpacked once. -/
theorem length_unpackings_replicate {n : Nat} (hpackage : answer.package.isSome)
    (h : Along (main lib) (Upgrades vendor) machine (List.replicate n answer)) :
    (unpackings lib machine (List.replicate n answer)).length ≤ 1 := by
  obtain ⟨bytes, hbytes⟩ := Option.isSome_iff_exists.mp hpackage
  have hsame (n : Nat) (machine : Machine) (package : List UInt8)
      (hmem : package ∈ unpackings lib machine (List.replicate n answer)) : package = bytes := by
    induction n generalizing machine with
    | zero => cases hmem
    | succ n ih =>
        rw [List.replicate_succ, unpackings, List.mem_append, Option.mem_toList] at hmem
        exact hmem.elim (fun hhead => eq_of_unpacks hbytes hhead) fun htail => ih _ htail
  induction n generalizing machine with
  | zero => exact Nat.zero_le 1
  | succ n ih =>
      rw [List.replicate_succ] at h ⊢
      rw [unpackings]
      cases hunpacks : unpacks lib machine answer with
      | none => exact ih h.2
      | some package =>
          -- what is unpacked once more would be newer than itself
          have hnone : unpackings lib (main lib machine answer) (List.replicate n answer) = [] := by
            refine List.eq_nil_iff_forall_not_mem.mpr fun package' hmem => ?_
            obtain ⟨r, hr, hpack, -⟩ := h.1 package hunpacks
            have hnext := main_installed lib machine answer
            rw [hunpacks, Option.getD_some] at hnext
            have hpackage' : package' = r.package := by
              rw [hsame n _ _ hmem, hpack, eq_of_unpacks hbytes hunpacks]
            rw [hpackage'] at hmem
            exact lt_irrefl _ (lt_of_mem_unpackings h.2 hr hr (hpack.trans hnext.symm) hmem)
          simp [hnone]

/-- The updater never rolls back and comes to rest in every sequence of runs
in which the versions named are honest. -/
theorem movesForward_of_honest (machine : Machine) (answers : List Answer)
    (h : Along (main lib) (Honest vendor) machine answers) :
    MovesForward vendor machine answers := by
  have hupgrades : Along (main lib) (Upgrades vendor) machine answers :=
    h.mono fun _ _ hhonest => hhonest.upgrades
  refine ⟨hupgrades, ?_⟩
  rintro before answer n hpackage ⟨after, rfl⟩
  exact length_unpackings_replicate hpackage hupgrades.block

end

/-! ## Two releases -/

/-- A library whose digests tell two packages from the rest. -/
def twoPackages : Library where
  digest package := if package = [0] then ['0'] else if package = [1] then ['1'] else ['x']
  verifyFile hash signature := decide (hash = signature ∧ (hash = ['0'] ∨ hash = ['1']))
  entries _ := flatArchive

/-- Version 1.0.0. -/
def oldRelease : Published := ⟨⟨['0'], 1, 0, 0, by decide, by decide, by decide⟩, [0]⟩

/-- Version 1.1.0. -/
def newRelease : Published := ⟨⟨['1'], 1, 1, 0, by decide, by decide, by decide⟩, [1]⟩

def twoReleases : Vendor twoPackages where
  published := [oldRelease, newRelease]
  once := by decide +kernel
  signed := by decide +kernel
  ideal package signature h := by
    simp only [twoPackages, decide_eq_true_eq] at h
    split_ifs at h with hold hnew
    · exact ⟨oldRelease, by simp, hold.symm⟩
    · exact ⟨newRelease, by simp, hnew.symm⟩
    · simp at h
  unreadable signature := by simp [twoPackages]

/-- A machine that runs a release, as its `version.txt` says. -/
def running (r : Published) : Machine where
  versionFile := writeVersionToFile r.info
  installation := emptyInstallation
  installed := r.package

/-- The server offers a release under its own version. -/
def offer (r : Published) : Answer := ⟨r.info, some r.package⟩

/-- The machine that runs 1.0.0 gets 1.1.0. -/
theorem movesForward_once :
    MovesForward twoReleases (running oldRelease) [offer newRelease] ∧
      unpackings twoPackages (running oldRelease) [offer newRelease] = [newRelease.package] := by
  refine ⟨movesForward_of_honest _ _ ⟨fun _ => ⟨?_, ?_⟩, trivial⟩, by decide +kernel⟩
  · simp only [PackageInfo.version_lt]
    decide +kernel
  · intro r hr hfetched
    have hnew : newRelease.package = r.package := Option.some.inj hfetched
    exact (twoReleases.once newRelease (by simp [twoReleases]) r hr hnew).le

/-- Offered twice, 1.1.0 is unpacked twice, since `version.txt` still names
1.0.0. And with the signature of 1.0.0 and a higher number the server has a
machine that runs 1.1.0 go back to 1.0.0. -/
theorem updater_repeats_and_rolls_back :
    let rollback : Answer := ⟨⟨oldRelease.signature, 2, 0, 0⟩, some oldRelease.package⟩
    ¬ MovesForward twoReleases (running oldRelease) [offer newRelease, offer newRelease] ∧
      unpackings twoPackages (running oldRelease) [offer newRelease, offer newRelease] =
        [newRelease.package, newRelease.package] ∧
      ¬ MovesForward twoReleases (running newRelease) [rollback] ∧
      (main twoPackages (running newRelease) rollback).installed = oldRelease.package := by
  intro rollback
  have htwice : unpackings twoPackages (running oldRelease)
      [offer newRelease, offer newRelease] = [newRelease.package, newRelease.package] := by
    decide +kernel
  have hback : unpacks twoPackages (running newRelease) rollback = some oldRelease.package := by
    decide +kernel
  refine ⟨fun h => ?_, htwice, fun h => ?_, by decide +kernel⟩
  · have hlength := h.rests [] (offer newRelease) 2 rfl (List.prefix_refl _)
    rw [List.foldl_nil, List.replicate_succ, List.replicate_one, htwice] at hlength
    exact absurd hlength (by decide)
  · obtain ⟨r, hr, hpackage, hnewer⟩ := h.upgrades.1 _ hback
    have hlt := hnewer newRelease (by simp [twoReleases]) rfl
    rw [twoReleases.once r hr oldRelease (by simp [twoReleases]) hpackage,
      PackageInfo.version_lt] at hlt
    exact absurd hlt (by decide +kernel)

end BitMesh.Updater
