import BitMesh.Lib.Decimal
import BitMesh.Lib.Scan

/-!
# Which release is the latest

The cloud server scans its release directory for the greatest version and
offers that one; the updater on a vendor's machine decides by its own
comparison whether what is offered is newer than what it runs. The server
compares by one `int`, a weighted sum of the differences of the three
numbers, and the updater compares the numbers one after the other. The two
agree only while the weights keep the numbers apart.

Texts are lists of characters, and a signature is whatever
`Crypto.signHash(Crypto.digestFile(path))` answers for the file.
-/

namespace BitMesh.Releases

open BitMesh.Lib

/-! ## `PackageInfo` -/

/-- The text `bitmesh-`. -/
def stem : List Char := ['b', 'i', 't', 'm', 'e', 's', 'h', '-']

structure PackageInfo where
  signature : List Char
  major : Int
  minor : Int
  release : Int
  deriving DecidableEq

/-- A Java `int`: what is left of an integer in 32 bits. -/
def toInt (n : Int) : Int := n.bmod (2 ^ 32)

theorem toInt_eq {n : Int} (h₁ : -2 ^ 31 ≤ n) (h₂ : n < 2 ^ 31) : toInt n = n := by
  rw [toInt, Int.bmod_def]
  split <;> omega

namespace PackageInfo

/-- `new PackageInfo("", 0, 0, 0)`. -/
def blank : PackageInfo := ⟨[], 0, 0, 0⟩

def compareTo (p o : PackageInfo) : Int :=
  let majorMagnitude := 100
  let minorMagnitude := 10
  let majorDif := toInt (toInt (p.major - o.major) * majorMagnitude)
  let minorDif := toInt (toInt (p.minor - o.minor) * minorMagnitude)
  let releaseDif := toInt (p.release - o.release)
  toInt (toInt (majorDif + minorDif) + releaseDif)

def getPackageName (p : PackageInfo) : List Char :=
  stem ++ ['.'].intercalate [decimal p.major, decimal p.minor, decimal p.release, ['z', 'i', 'p']]

/-- The sum of the three numbers under the weights of `compareTo`. -/
def weight (p : PackageInfo) : Int := 100 * p.major + 10 * p.minor + p.release

/-- The wrapping of the intermediate results does not show: `compareTo` is
the difference of the weights in 32 bits. -/
theorem compareTo_eq (p o : PackageInfo) : p.compareTo o = toInt (p.weight - o.weight) := by
  simp only [compareTo, toInt, Int.bmod_mul_bmod, Int.bmod_add_bmod, Int.add_bmod_bmod]
  congr 1
  simp only [weight]
  ring

/-- Exchanging the arguments changes the sign, except of the one `int`
without an opposite. -/
theorem compareTo_swap {p o : PackageInfo} (h : -2 ^ 31 < p.compareTo o) :
    o.compareTo p = -p.compareTo o := by
  rw [compareTo_eq] at h
  rw [compareTo_eq, compareTo_eq, ← Int.neg_sub p.weight o.weight]
  generalize p.weight - o.weight = d at h
  simp only [toInt, Int.bmod_def] at h ⊢
  split at h <;> split <;> omega

/-- The three numbers, ordered lexicographically. -/
def version (p : PackageInfo) : Int ×ₗ Int ×ₗ Int := toLex (p.major, toLex (p.minor, p.release))

theorem version_lt {p o : PackageInfo} :
    p.version < o.version ↔
      p.major < o.major ∨ p.major = o.major ∧ (p.minor < o.minor ∨
        p.minor = o.minor ∧ p.release < o.release) := by
  simp only [version, Prod.Lex.toLex_lt_toLex]

theorem version_inj {p o : PackageInfo} (h : p.version = o.version) :
    p.major = o.major ∧ p.minor = o.minor ∧ p.release = o.release :=
  ⟨congrArg (fun v => (ofLex v).1) h, congrArg (fun v => (ofLex (ofLex v).2).1) h,
    congrArg (fun v => (ofLex (ofLex v).2).2) h⟩

theorem weight_eq_of_version {p o : PackageInfo} (h : p.version = o.version) :
    p.weight = o.weight := by
  obtain ⟨hmajor, hminor, hrelease⟩ := version_inj h
  rw [weight, weight, hmajor, hminor, hrelease]

end PackageInfo

/-! ## The release directory -/

/-- A file of the release directory. -/
structure File where
  name : List Char
  signature : List Char
  deriving DecidableEq

/-- What the scan of the directory can throw. -/
inductive ScanException where
  | numberFormat (text : List Char)
  | arrayIndexOutOfBounds (index : Nat)
  | nullPointer
  deriving DecidableEq

/-- What `releaseLocation` denotes. -/
inductive Location where
  | missing
  | regularFile
  | directory (listFiles : List File)

/-- `text.split("\\.")`: without a dot the text itself, otherwise the parts
with the empty ones at the end dropped. -/
def splitDots (text : List Char) : List (List Char) :=
  if '.' ∈ text then (text.splitOn '.').rdropWhile (· == []) else [text]

/-- `Integer.valueOf(parts[index])`. -/
def numberAt (parts : List (List Char)) (index : Nat) : Except ScanException Int :=
  match parts[index]? with
  | none => .error (.arrayIndexOutOfBounds index)
  | some text =>
    match parseInt text with
    | none => .error (.numberFormat text)
    | some n => .ok n

/-- `f.getName().startsWith("bitmesh-")`. -/
def File.named (f : File) : Bool := stem.isPrefixOf f.name

/-- The version in a file's name. -/
def File.packageInfo (f : File) : Except ScanException PackageInfo := do
  let versionString := f.name.drop 8
  let versionInfo := splitDots versionString
  let major ← numberAt versionInfo 0
  let minor ← numberAt versionInfo 1
  let release ← numberAt versionInfo 2
  return ⟨f.signature, major, minor, release⟩

/-- `tempPackageInfo.compareTo(latestVersion) >= 0`. -/
def replaces (tempPackageInfo latestVersion : PackageInfo) : Bool :=
  0 ≤ tempPackageInfo.compareTo latestVersion

/-- One turn of the loop over `listFiles()`. -/
def scanFile (latestVersion : PackageInfo) (f : File) : Except ScanException PackageInfo :=
  if f.named then do
    let tempPackageInfo ← f.packageInfo
    return if replaces tempPackageInfo latestVersion then tempPackageInfo else latestVersion
  else
    return latestVersion

/-- `Versioning.latestReleaseInfo`; `none` is `null`. -/
def latestReleaseInfo : Location → Except ScanException (Option PackageInfo)
  | .missing => .ok none
  | .regularFile => .error .nullPointer
  | .directory listFiles => some <$> listFiles.foldlM scanFile PackageInfo.blank

/-! ## `VersionCheck` -/

/-- The lines of the updater's version file; `none` if there is no file. -/
abbrev VersionFile := Option (List (List Char))

/-- Anything that goes wrong leaves the version 0.0.0. -/
def readVersionFromFile (file : VersionFile) : PackageInfo :=
  match file with
  | some (signature :: major :: minor :: release :: _) =>
    match parseInt major, parseInt minor, parseInt release with
    | some major, some minor, some release => ⟨signature, major, minor, release⟩
    | _, _, _ => .blank
  | _ => .blank

/-- A Base64 signature is one line. -/
def writeVersionToFile (p : PackageInfo) : VersionFile :=
  some [p.signature, decimal p.major, decimal p.minor, decimal p.release]

/-- Is `packageInfo` newer than the version in the file? -/
def compareVersions (file : VersionFile) (packageInfo : PackageInfo) : Bool :=
  let currentInfo := readVersionFromFile file
  if currentInfo.major < packageInfo.major then true
  else if currentInfo.major = packageInfo.major then
    if currentInfo.minor < packageInfo.minor then true
    else if currentInfo.minor = packageInfo.minor then
      decide (currentInfo.release < packageInfo.release)
    else false
  else false

/-- The updater's comparison is the lexicographic order. -/
theorem compareVersions_iff (file : VersionFile) (p : PackageInfo) :
    compareVersions file p = true ↔ (readVersionFromFile file).version < p.version := by
  rw [PackageInfo.version_lt]
  simp only [compareVersions]
  split_ifs <;> simp <;> omega

/-! ## Hosted releases -/

/-- A release as it is hosted: three numbers that fit in an `int`. -/
structure Release where
  signature : List Char
  major : Nat
  minor : Nat
  release : Nat
  major_lt : major < 2 ^ 31
  minor_lt : minor < 2 ^ 31
  release_lt : release < 2 ^ 31
  deriving DecidableEq

namespace Release

def info (r : Release) : PackageInfo := ⟨r.signature, r.major, r.minor, r.release⟩

/-- The well-formed release file, under the name the servlet and the updater
give the package. -/
def file (r : Release) : File := ⟨r.info.getPackageName, r.signature⟩

theorem isInt (r : Release) : IsInt r.major ∧ IsInt r.minor ∧ IsInt r.release := by
  have h₁ := r.major_lt
  have h₂ := r.minor_lt
  have h₃ := r.release_lt
  refine ⟨⟨?_, ?_⟩, ⟨?_, ?_⟩, ⟨?_, ?_⟩⟩ <;> omega

theorem file_named (r : Release) : r.file.named = true :=
  List.isPrefixOf_iff_prefix.mpr (List.prefix_append ..)

/-- The text after the dash is the numbers and the extension, with dots
between them. -/
theorem splitDots_name (r : Release) :
    splitDots (r.file.name.drop 8) =
      [decimal r.major, decimal r.minor, decimal r.release, ['z', 'i', 'p']] := by
  have htext : r.file.name.drop 8 =
      ['.'].intercalate [decimal r.major, decimal r.minor, decimal r.release, ['z', 'i', 'p']] :=
    List.drop_left' rfl
  have hdot (n : Int) : '.' ∉ decimal n := not_mem_decimal (by decide) (by decide) n
  have hmem : '.' ∈ r.file.name.drop 8 := by
    rw [htext]
    simp [List.intercalate]
  rw [splitDots, if_pos hmem, htext, List.splitOn_intercalate]
  · simp [List.rdropWhile]
  · intro part hpart
    simp only [List.mem_cons, List.not_mem_nil, or_false] at hpart
    rcases hpart with rfl | rfl | rfl | rfl
    · exact hdot _
    · exact hdot _
    · exact hdot _
    · decide
  · exact List.cons_ne_nil _ _

/-- The scan reads back the version a release was hosted under. -/
theorem file_packageInfo (r : Release) : r.file.packageInfo = .ok r.info := by
  obtain ⟨hmajor, hminor, hrelease⟩ := r.isInt
  simp only [File.packageInfo, splitDots_name, numberAt, List.getElem?_cons_zero,
    List.getElem?_cons_succ, parseInt_decimal hmajor, parseInt_decimal hminor,
    parseInt_decimal hrelease]
  rfl

/-- The updater reads back the version it wrote. -/
theorem readVersionFromFile_write (r : Release) :
    readVersionFromFile (writeVersionToFile r.info) = r.info := by
  obtain ⟨hmajor, hminor, hrelease⟩ := r.isInt
  simp [readVersionFromFile, writeVersionToFile, info, parseInt_decimal hmajor,
    parseInt_decimal hminor, parseInt_decimal hrelease]

theorem compareVersions_write (v w : Release) :
    compareVersions (writeVersionToFile v.info) w.info = true ↔
      v.info.version < w.info.version := by
  rw [compareVersions_iff, readVersionFromFile_write]

end Release

/-- The hosted releases are the files of the listing whose name the scan
looks at, in some order. Other files may lie in between. -/
def Lists (listing : List File) (hosted : List Release) : Prop :=
  ∃ order : List Release, order.Perm hosted ∧ listing.filter File.named = order.map Release.file

/-- The scan is the selection by `replaces`, and it does not throw. -/
theorem foldlM_scanFile {listing : List File} {order : List Release} {best : PackageInfo}
    (h : listing.filter File.named = order.map Release.file) :
    listing.foldlM scanFile best = .ok (select replaces best (order.map Release.info)) := by
  induction listing generalizing order best with
  | nil =>
    cases order with
    | nil => rfl
    | cons r order => cases h
  | cons f listing ih =>
    rw [List.foldlM_cons, scanFile]
    by_cases hf : f.named = true
    · rw [List.filter_cons_of_pos hf] at h
      cases order with
      | nil => cases h
      | cons r order =>
        injection h with hfile hrest
        rw [if_pos hf, hfile, r.file_packageInfo]
        exact ih hrest
    · rw [List.filter_cons_of_neg hf] at h
      rw [if_neg hf]
      exact ih h

theorem latestReleaseInfo_directory {listing : List File} {order : List Release}
    (h : listing.filter File.named = order.map Release.file) :
    latestReleaseInfo (.directory listing) =
      .ok (some (select replaces .blank (order.map Release.info))) := by
  rw [latestReleaseInfo, foldlM_scanFile h]
  rfl

/-! ## One order for both -/

/-- The server offers a hosted release than which the updater, once it runs
it, finds no hosted one newer. -/
def OffersNewest (listing : List File) (hosted : List Release) : Prop :=
  ∃ v ∈ hosted, latestReleaseInfo (.directory listing) = .ok (some v.info) ∧
    ∀ w ∈ hosted, compareVersions (writeVersionToFile v.info) w.info = false

/-- Over the hosted releases `compareTo` is a total preorder, and its strict
part is the lexicographic order, which is the order of `compareVersions`. -/
structure SameOrder (hosted : List Release) : Prop where
  total : ∀ v ∈ hosted, ∀ w ∈ hosted, v.info.compareTo w.info ≤ 0 ∨ w.info.compareTo v.info ≤ 0
  trans : ∀ u ∈ hosted, ∀ v ∈ hosted, ∀ w ∈ hosted, u.info.compareTo v.info ≤ 0 →
    v.info.compareTo w.info ≤ 0 → u.info.compareTo w.info ≤ 0
  strict : ∀ v ∈ hosted, ∀ w ∈ hosted,
    (v.info.compareTo w.info ≤ 0 ∧ ¬ w.info.compareTo v.info ≤ 0) ↔
      v.info.version < w.info.version
  updater : ∀ v ∈ hosted, ∀ w ∈ hosted,
    compareVersions (writeVersionToFile v.info) w.info = true ↔ v.info.version < w.info.version

/-- The weights keep the hosted versions apart: an older release weighs less
than a newer one, as an `int`, and the newest does not weigh less than
0.0.0. -/
structure WellWeighted (hosted : List Release) : Prop where
  apart : ∀ v ∈ hosted, ∀ w ∈ hosted, v.info.version < w.info.version →
    -2 ^ 31 < toInt (v.info.weight - w.info.weight) ∧ toInt (v.info.weight - w.info.weight) < 0
  newest : ∀ v ∈ hosted, (∀ w ∈ hosted, w.info.version ≤ v.info.version) →
    0 ≤ toInt v.info.weight

/-- They do while no minor or point number has two digits. -/
theorem WellWeighted.of_digits {hosted : List Release}
    (h : ∀ r ∈ hosted, r.major < 2 ^ 31 / 100 ∧ r.minor < 10 ∧ r.release < 10) :
    WellWeighted hosted where
  apart v hv w hw hlt := by
    obtain ⟨hv₁, hv₂, hv₃⟩ := h v hv
    obtain ⟨hw₁, hw₂, hw₃⟩ := h w hw
    rw [PackageInfo.version_lt] at hlt
    simp only [PackageInfo.weight, Release.info] at hlt ⊢
    rw [toInt_eq (by omega) (by omega)]
    omega
  newest v hv _ := by
    obtain ⟨hv₁, hv₂, hv₃⟩ := h v hv
    simp only [PackageInfo.weight, Release.info]
    rw [toInt_eq (by omega) (by omega)]
    omega

section
variable {hosted : List Release}

/-- With the versions kept apart, the sign of `compareTo` is the order of the
versions. -/
theorem WellWeighted.compareTo_nonpos (h : WellWeighted hosted) {v w : Release}
    (hv : v ∈ hosted) (hw : w ∈ hosted) :
    v.info.compareTo w.info ≤ 0 ↔ v.info.version ≤ w.info.version := by
  rcases lt_trichotomy v.info.version w.info.version with hlt | heq | hgt
  · have hneg := (h.apart v hv w hw hlt).2
    rw [← PackageInfo.compareTo_eq] at hneg
    exact ⟨fun _ => hlt.le, fun _ => hneg.le⟩
  · have hzero : v.info.compareTo w.info = 0 := by
      rw [PackageInfo.compareTo_eq, PackageInfo.weight_eq_of_version heq, Int.sub_self]
      rfl
    exact ⟨fun _ => heq.le, fun _ => hzero.le⟩
  · obtain ⟨hleast, hneg⟩ := h.apart w hw v hv hgt
    rw [← PackageInfo.compareTo_eq] at hleast hneg
    have hswap := PackageInfo.compareTo_swap hleast
    exact ⟨fun hle => absurd hle (by omega), fun hle => absurd hgt (not_lt.mpr hle)⟩

theorem WellWeighted.sameOrder (h : WellWeighted hosted) : SameOrder hosted where
  total v hv w hw := by
    rw [h.compareTo_nonpos hv hw, h.compareTo_nonpos hw hv]
    exact le_total _ _
  trans u hu v hv w hw := by
    rw [h.compareTo_nonpos hu hv, h.compareTo_nonpos hv hw, h.compareTo_nonpos hu hw]
    exact le_trans
  strict v hv w hw := by
    rw [h.compareTo_nonpos hv hw, h.compareTo_nonpos hw hv]
    exact lt_iff_le_not_ge.symm
  updater v _ w _ := v.compareVersions_write w

/-- The hosted releases have a newest one. -/
theorem exists_newest (hne : hosted ≠ []) :
    ∃ v ∈ hosted, ∀ w ∈ hosted, w.info.version ≤ v.info.version := by
  obtain ⟨v, hv, hmax⟩ := hosted.toFinset.exists_max_image (fun r => r.info.version)
    ((List.toFinset_nonempty_iff _).mpr hne)
  exact ⟨v, List.mem_toFinset.mp hv, fun w hw => hmax w (List.mem_toFinset.mpr hw)⟩

/-- A directory has one file under each name, so one release of each
version. -/
theorem eq_of_version (hnames : (hosted.map fun r => r.file.name).Nodup) {v w : Release}
    (hv : v ∈ hosted) (hw : w ∈ hosted) (h : v.info.version = w.info.version) : v = w := by
  obtain ⟨hmajor, hminor, hrelease⟩ := PackageInfo.version_inj h
  have hname : v.file.name = w.file.name := by
    simp only [Release.file, PackageInfo.getPackageName, hmajor, hminor, hrelease]
  exact List.inj_on_of_nodup_map hnames hv hw hname

/-- With the versions kept apart the scan ends at the newest, wherever it is
listed. -/
theorem WellWeighted.select_newest (h : WellWeighted hosted) {order : List Release}
    (hperm : order.Perm hosted) (hnames : (hosted.map fun r => r.file.name).Nodup) {v : Release}
    (hv : v ∈ hosted) (hmax : ∀ w ∈ hosted, w.info.version ≤ v.info.version) :
    select replaces .blank (order.map Release.info) = v.info := by
  have hover : ∀ w ∈ hosted, replaces v.info w.info = true := by
    intro w hw
    rcases (hmax w hw).lt_or_eq with hlt | heq
    · have hpos := mt (h.compareTo_nonpos hv hw).mp (not_le.mpr hlt)
      exact decide_eq_true (by omega)
    · have hzero := PackageInfo.compareTo_eq v.info w.info
      rw [PackageInfo.weight_eq_of_version heq, Int.sub_self] at hzero
      exact decide_eq_true hzero.ge
  have hblank : replaces v.info .blank = true := by
    apply decide_eq_true
    rw [PackageInfo.compareTo_eq, show PackageInfo.blank.weight = 0 from rfl, Int.sub_zero]
    exact h.newest v hv hmax
  have hunder : ∀ w ∈ hosted, replaces w.info v.info = true → w.info = v.info := by
    intro w hw hbeats
    rcases (hmax w hw).lt_or_eq with hlt | heq
    · -- an older release compares below the newest
      have hneg := (h.apart w hw v hv hlt).2
      rw [← PackageInfo.compareTo_eq] at hneg
      exact absurd (of_decide_eq_true hbeats) (by omega)
    · rw [eq_of_version hnames hw hv heq]
  apply select_eq_top replaces (List.mem_map_of_mem (hperm.mem_iff.mpr hv)) hblank
  · intro x hx
    obtain ⟨w, hw, rfl⟩ := List.mem_map.mp hx
    exact hover w (hperm.mem_iff.mp hw)
  · intro x hx
    obtain ⟨w, hw, rfl⟩ := List.mem_map.mp hx
    exact hunder w (hperm.mem_iff.mp hw)

theorem WellWeighted.offersNewest (h : WellWeighted hosted) (hne : hosted ≠ [])
    (hnames : (hosted.map fun r => r.file.name).Nodup) {listing : List File}
    (hlists : Lists listing hosted) : OffersNewest listing hosted := by
  obtain ⟨order, hperm, hfilter⟩ := hlists
  obtain ⟨v, hv, hmax⟩ := exists_newest hne
  refine ⟨v, hv, ?_, ?_⟩
  · rw [latestReleaseInfo_directory hfilter, h.select_newest hperm hnames hv hmax]
  · intro w hw
    rw [← Bool.not_eq_true, Release.compareVersions_write]
    exact not_lt.mpr (hmax w hw)

theorem SameOrder.apart (h : SameOrder hosted) {v w : Release} (hv : v ∈ hosted) (hw : w ∈ hosted)
    (hlt : v.info.version < w.info.version) :
    -2 ^ 31 < v.info.compareTo w.info ∧ v.info.compareTo w.info < 0 := by
  obtain ⟨_, hpos⟩ := (h.strict v hv w hw).mpr hlt
  have hswap := PackageInfo.compareTo_swap (p := w.info) (o := v.info) (by omega)
  have hbound : w.info.compareTo v.info < 2 ^ 31 := by
    rw [PackageInfo.compareTo_eq]
    exact Int.bmod_lt (by decide)
  omega

/-- Listed first, the newest release is lost for good if it weighs less than
0.0.0. -/
theorem weight_nonneg_of_offers (hnames : (hosted.map fun r => r.file.name).Nodup) {v : Release}
    (hv : v ∈ hosted) (hmax : ∀ w ∈ hosted, w.info.version ≤ v.info.version)
    (hoffers : ∀ listing, Lists listing hosted → OffersNewest listing hosted) :
    0 ≤ toInt v.info.weight := by
  by_contra hneg
  have hperm : (v :: hosted.erase v).Perm hosted := (List.perm_cons_erase hv).symm
  have hfilter : ((v :: hosted.erase v).map Release.file).filter File.named =
      (v :: hosted.erase v).map Release.file := by
    apply List.filter_eq_self.mpr
    intro f hf
    obtain ⟨r, _, rfl⟩ := List.mem_map.mp hf
    exact r.file_named
  obtain ⟨v', hv', hresult, hnone⟩ := hoffers _ ⟨_, hperm, hfilter⟩
  -- what is offered is the newest, so it is `v` itself
  have hsame : v = v' := by
    have hle : ¬ v'.info.version < v.info.version := by
      rw [← Release.compareVersions_write, hnone v hv]
      exact Bool.false_ne_true
    exact eq_of_version hnames hv hv' (le_antisymm (not_lt.mp hle) (hmax v' hv'))
  have hrejected : replaces v.info .blank = false := by
    apply decide_eq_false
    rw [PackageInfo.compareTo_eq, show PackageInfo.blank.weight = 0 from rfl, Int.sub_zero]
    exact hneg
  rw [latestReleaseInfo_directory hfilter, List.map_cons, select, hrejected, ← hsame] at hresult
  have hselect := Option.some.inj (Except.ok.inj hresult)
  rcases select_mem replaces .blank ((hosted.erase v).map Release.info) with h | h
  · apply hneg
    rw [← hselect]
    exact (congrArg (fun p => toInt (PackageInfo.weight p)) h).ge
  · obtain ⟨w, hw, hinfo⟩ := List.mem_map.mp (hselect ▸ h)
    have heq : w = v := eq_of_version hnames (List.mem_of_mem_erase hw) hv (by rw [hinfo])
    exact (hnames.of_map _).not_mem_erase (heq ▸ hw)

end

/-- Server and updater go by one order, and the server offers the newest
release whatever the order of the listing, exactly when the weights keep the
hosted versions apart. -/
theorem server_offers_newest_iff (hosted : List Release) (hne : hosted ≠ [])
    (hnames : (hosted.map fun r => r.file.name).Nodup) :
    ((∀ listing, Lists listing hosted → OffersNewest listing hosted) ∧ SameOrder hosted) ↔
      WellWeighted hosted := by
  constructor
  · intro h
    obtain ⟨hoffers, horder⟩ := h
    constructor
    · intro v hv w hw hlt
      rw [← PackageInfo.compareTo_eq]
      exact horder.apart hv hw hlt
    · intro v hv hmax
      exact weight_nonneg_of_offers hnames hv hmax hoffers
  · intro h
    exact ⟨fun _ hlists => h.offersNewest hne hnames hlists, h.sameOrder⟩

/-- Releases 0.9.0, 1.0.0 and 1.0.2. -/
theorem server_offers_newest_single_digits :
    let hosted : List Release :=
      [⟨[], 0, 9, 0, by decide, by decide, by decide⟩,
        ⟨[], 1, 0, 0, by decide, by decide, by decide⟩,
        ⟨[], 1, 0, 2, by decide, by decide, by decide⟩]
    (∀ listing, Lists listing hosted → OffersNewest listing hosted) ∧ SameOrder hosted :=
  (server_offers_newest_iff _ (by decide) (by decide +kernel)).mpr
    (WellWeighted.of_digits (by decide))

/-- With 0.11.0 and 1.0.0 in the directory the server offers 0.11.0, whatever
the order of the listing, and to the updater that runs it 1.0.0 is newer. -/
theorem server_offers_older_release :
    ∃ old new : Release,
      latestReleaseInfo (.directory [old.file, new.file]) = .ok (some old.info) ∧
      latestReleaseInfo (.directory [new.file, old.file]) = .ok (some old.info) ∧
      compareVersions (writeVersionToFile old.info) new.info = true ∧
      0 < old.info.compareTo new.info :=
  ⟨⟨[], 0, 11, 0, by decide, by decide, by decide⟩, ⟨[], 1, 0, 0, by decide, by decide, by decide⟩,
    by decide +kernel⟩

end BitMesh.Releases
