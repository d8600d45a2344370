import BitMesh.Lib.Transition
import BitMesh.Statistics.Records

/-!
# Sending the statistics

`sendStats` reads the vendor's records, sends them, and on the answer 200
deletes whatever the tables hold by then. It runs on a timer, any number of
runs may overlap, and cash-outs are added by other threads meanwhile. A
cash-out added after a run has read and before it deletes is deleted
without having been sent.

The answer to a payload is any code. Reading is one step: what `toJson`
loads of the lazy sets it loads for that payload alone.
-/

namespace BitMesh.Statistics

open BitMesh.Lib

/-! ## The local database -/

/-- The row of table `VENDOR` with the id 1, without its sets. -/
structure VendorRow where
  MAC : String
  xLocation : Option String
  yLocation : Option String
  deriving DecidableEq

structure LocalDatabase where
  vendor : Option VendorRow
  sells : List Sell
  ips : List IPAddress
  cashOuts : List VendorCashOut
  /-- the next generated id of a cash-out -/
  nextCashOutId : Int
  deriving DecidableEq

namespace LocalDatabase

def empty : LocalDatabase := ⟨none, [], [], [], 1⟩

/-- `PersistenceHelper.getVendor()`; `none` is `null`. -/
def getVendor (db : LocalDatabase) : Option Vendor :=
  db.vendor.map fun row => ⟨1, row.MAC, row.xLocation, row.yLocation, db.sells, db.ips, db.cashOuts⟩

/-- `PersistenceHelper.addVendor(vendor)`: `session.get` answers null for a
row that does not exist, and only if it throws is the vendor saved. -/
def addVendor (db : LocalDatabase) (row : VendorRow) (getThrows : Bool) : LocalDatabase :=
  if getThrows then { db with vendor := db.vendor.or (some row) } else db

/-- The cash-out under its generated id. -/
def numbered (db : LocalDatabase) (cashOut : VendorCashOut) : VendorCashOut :=
  { cashOut with cashOutId := db.nextCashOutId }

/-- `session.save` of a cash-out; without a vendor it throws, because the
column does not take null. -/
def save (db : LocalDatabase) (cashOut : VendorCashOut) : LocalDatabase :=
  { db with
    cashOuts := db.cashOuts ++ [db.numbered cashOut]
    nextCashOutId := db.nextCashOutId + 1 }

end LocalDatabase

/-! ## Runs of `sendStats` -/

/-- Where a run of `sendStats` is. -/
inductive Phase where
  | opened
  | read (payload : Json)
  | accepted (payload : Json)
  | cashOutsDeleted
  | ended

/-- The database, the runs, and what has happened: the cash-outs that were
added and the payloads that were answered with 200. -/
structure State where
  db : LocalDatabase
  runs : List Phase
  added : List VendorCashOut
  acknowledged : List Json

def State.initial : State := ⟨.empty, [], [], []⟩

inductive Input where
  | addVendor (row : VendorRow) (getThrows : Bool)
  | addVendorCashOut (cashOut : VendorCashOut)
  | start
  /-- `getVendor()` and `gson.toJson(vendor)` -/
  | read (run : Nat)
  /-- the payload is sent and answered -/
  | respond (run : Nat) (responseCode : Int)
  /-- the two statements of `deleteEntries` -/
  | deleteCashOuts (run : Nat)
  | deleteSells (run : Nat)
  /-- an exception ends the run -/
  | fail (run : Nat)

section
variable (fmt : DateFormat)

namespace State

def setRun (s : State) (run : Nat) (phase : Phase) : State :=
  { s with runs := s.runs.set run phase }

def addVendorCashOut (s : State) (cashOut : VendorCashOut) : State :=
  match s.db.vendor with
  | none => s
  | some _ =>
    { s with db := s.db.save cashOut, added := s.added ++ [s.db.numbered cashOut] }

def respond (s : State) (run : Nat) (payload : Json) (responseCode : Int) : State :=
  if responseCode = 200 then
    { s.setRun run (.accepted payload) with acknowledged := s.acknowledged ++ [payload] }
  else s.setRun run .ended

/-- One step of one thread; what a run is not ready for leaves the state as
it is. -/
def next (s : State) : Input → State
  | .addVendor row getThrows => { s with db := s.db.addVendor row getThrows }
  | .addVendorCashOut cashOut => s.addVendorCashOut cashOut
  | .start => { s with runs := s.runs ++ [.opened] }
  | .read run =>
    match s.runs[run]? with
    | some .opened => s.setRun run (.read (toJson fmt s.db.getVendor))
    | _ => s
  | .respond run responseCode =>
    match s.runs[run]? with
    | some (.read payload) => s.respond run payload responseCode
    | _ => s
  | .deleteCashOuts run =>
    match s.runs[run]? with
    | some (.accepted _) =>
      { s.setRun run .cashOutsDeleted with db := { s.db with cashOuts := [] } }
    | _ => s
  | .deleteSells run =>
    match s.runs[run]? with
    | some .cashOutsDeleted => { s.setRun run .ended with db := { s.db with sells := [] } }
    | _ => s
  | .fail run => s.setRun run .ended

end State

/-- The payload has the cash-out among its `cashOuts`. -/
def Contains (payload : Json) (cashOut : VendorCashOut) : Prop :=
  ∃ members elements, payload = .obj members ∧ Json.get members "cashOuts" = some (.arr elements) ∧
    .obj (cashOut.members fmt) ∈ elements

/-- Every cash-out ever added is in the database or in a payload that was
answered with 200. -/
def NothingLost (s : State) : Prop :=
  ∀ cashOut ∈ s.added, cashOut ∈ s.db.cashOuts ∨
    ∃ payload ∈ s.acknowledged, Contains fmt payload cashOut

/-- A payload that may still lead to a deletion of the cash-outs. -/
def Phase.pending : Phase → Option Json
  | .read payload => some payload
  | .accepted payload => some payload
  | _ => none

/-- No cash-out is added while a run has read and not yet deleted. -/
def AddsBetweenRuns (s : State) : Input → Prop
  | .addVendorCashOut _ => ∀ phase ∈ s.runs, phase.pending = none
  | _ => True

end

instance AddsBetweenRuns.decidable (s : State) : (i : Input) → Decidable (AddsBetweenRuns s i)
  | .addVendorCashOut _ => inferInstanceAs (Decidable (∀ phase ∈ s.runs, phase.pending = none))
  | .addVendor .. | .start | .read _ | .respond .. | .deleteCashOuts _ | .deleteSells _ | .fail _ =>
    isTrue trivial

/-! ## Runs without an addition in between -/

section
variable {fmt : DateFormat}

/-- A payload contains what was in the tables when it was made. -/
theorem contains_toJson {vendor : Vendor} {cashOut : VendorCashOut}
    (h : cashOut ∈ vendor.cashOuts) : Contains fmt (toJson fmt (some vendor)) cashOut := by
  have hget : Json.get (vendor.members fmt) "cashOuts" =
      some (.arr (vendor.cashOuts.map fun cashOut => .obj (cashOut.members fmt))) := by
    simp [Vendor.members]
  exact ⟨_, _, rfl, hget, List.mem_map.mpr ⟨cashOut, h, rfl⟩⟩

/-- What holds between the steps: every payload that may lead to a deletion
contains all that a deletion would take. -/
structure Covered (fmt : DateFormat) (s : State) : Prop where
  nothingLost : NothingLost fmt s
  vendor : s.db.vendor = none → s.db.cashOuts = []
  pending : ∀ phase ∈ s.runs, ∀ payload, phase.pending = some payload →
    ∀ cashOut ∈ s.db.cashOuts, Contains fmt payload cashOut
  accepted : ∀ payload, Phase.accepted payload ∈ s.runs → payload ∈ s.acknowledged

namespace Covered

theorem initial : Covered fmt .initial where
  nothingLost := by
    intro cashOut h
    cases h
  vendor _ := rfl
  pending := by
    intro phase h
    cases h
  accepted := by
    intro payload h
    cases h

variable {s : State}

/-- A run that moves to a phase without a payload. -/
theorem setRun (h : Covered fmt s) (run : Nat) {phase : Phase} (hphase : phase.pending = none) :
    Covered fmt (s.setRun run phase) where
  nothingLost := h.nothingLost
  vendor := h.vendor
  pending := by
    intro p hp payload hpending
    rcases List.mem_or_eq_of_mem_set hp with hp | rfl
    · exact h.pending p hp payload hpending
    · rw [hphase] at hpending
      cases hpending
  accepted := by
    intro payload hp
    rcases List.mem_or_eq_of_mem_set hp with hp | rfl
    · exact h.accepted payload hp
    · cases hphase

theorem addVendor (h : Covered fmt s) (row : VendorRow) (getThrows : Bool) :
    Covered fmt { s with db := s.db.addVendor row getThrows } := by
  have hcashOuts : (s.db.addVendor row getThrows).cashOuts = s.db.cashOuts := by
    cases getThrows <;> rfl
  constructor
  · intro cashOut hadded
    rw [hcashOuts]
    exact h.nothingLost cashOut hadded
  · intro hnone
    rw [hcashOuts]
    apply h.vendor
    cases getThrows with
    | false => exact hnone
    | true =>
      cases hvendor : s.db.vendor with
      | none => rfl
      | some row' => simp [LocalDatabase.addVendor, hvendor] at hnone
  · intro phase hphase payload hpending cashOut hmem
    rw [hcashOuts] at hmem
    exact h.pending phase hphase payload hpending cashOut hmem
  · exact h.accepted

/-- Where no payload is pending a new cash-out is covered by none. -/
theorem addVendorCashOut (h : Covered fmt s) (cashOut : VendorCashOut)
    (hnone : ∀ phase ∈ s.runs, phase.pending = none) :
    Covered fmt (s.addVendorCashOut cashOut) := by
  unfold State.addVendorCashOut
  split
  · exact h
  next row hvendor =>
    constructor
    · intro c hadded
      rcases List.mem_append.mp hadded with hadded | hnew
      · exact (h.nothingLost c hadded).imp_left fun hc => List.mem_append_left _ hc
      · exact .inl (List.mem_append_right _ hnew)
    · intro hempty
      cases hvendor.symm.trans hempty
    · intro phase hphase payload hpending
      cases (hnone phase hphase).symm.trans hpending
    · exact h.accepted

theorem start (h : Covered fmt s) : Covered fmt { s with runs := s.runs ++ [.opened] } where
  nothingLost := h.nothingLost
  vendor := h.vendor
  pending := by
    intro phase hphase payload hpending
    rcases List.mem_append.mp hphase with hphase | hnew
    · exact h.pending phase hphase payload hpending
    · rw [List.mem_singleton.mp hnew] at hpending
      cases hpending
  accepted := by
    intro payload hphase
    rcases List.mem_append.mp hphase with hphase | hnew
    · exact h.accepted payload hphase
    · cases List.mem_singleton.mp hnew

theorem read (h : Covered fmt s) (run : Nat) :
    Covered fmt (s.setRun run (.read (toJson fmt s.db.getVendor))) where
  nothingLost := h.nothingLost
  vendor := h.vendor
  pending := by
    intro phase hphase payload hpending cashOut hmem
    rcases List.mem_or_eq_of_mem_set hphase with hphase | rfl
    · exact h.pending phase hphase payload hpending cashOut hmem
    · cases hpending
      -- there is a cash-out, so there is a vendor
      cases hvendor : s.db.vendor with
      | none =>
        have hempty : cashOut ∈ s.db.cashOuts := hmem
        rw [h.vendor hvendor] at hempty
        cases hempty
      | some row =>
        rw [LocalDatabase.getVendor, hvendor]
        exact contains_toJson hmem
  accepted := by
    intro payload hphase
    rcases List.mem_or_eq_of_mem_set hphase with hphase | hnew
    · exact h.accepted payload hphase
    · cases hnew

theorem respond (h : Covered fmt s) {run : Nat} {payload : Json}
    (hrun : s.runs[run]? = some (.read payload)) (responseCode : Int) :
    Covered fmt (s.respond run payload responseCode) := by
  unfold State.respond
  split
  · constructor
    · intro cashOut hadded
      rcases h.nothingLost cashOut hadded with hmem | hsent
      · exact .inl hmem
      · obtain ⟨p, hp, hcontains⟩ := hsent
        exact .inr ⟨p, List.mem_append_left _ hp, hcontains⟩
    · exact h.vendor
    · intro phase hphase p hpending
      rcases List.mem_or_eq_of_mem_set hphase with hphase | rfl
      · exact h.pending phase hphase p hpending
      · exact h.pending _ (List.mem_of_getElem? hrun) p hpending
    · intro p hphase
      rcases List.mem_or_eq_of_mem_set hphase with hphase | hnew
      · exact List.mem_append_left _ (h.accepted p hphase)
      · cases hnew
        exact List.mem_append_right _ (List.mem_singleton_self _)
  · exact h.setRun run rfl

/-- What a run deletes it has sent. -/
theorem deleteCashOuts (h : Covered fmt s) {run : Nat} {payload : Json}
    (hrun : s.runs[run]? = some (.accepted payload)) :
    Covered fmt { s.setRun run .cashOutsDeleted with db := { s.db with cashOuts := [] } } := by
  have hmem := List.mem_of_getElem? hrun
  have hset : Covered fmt (s.setRun run .cashOutsDeleted) := h.setRun run rfl
  constructor
  · intro cashOut hadded
    rcases h.nothingLost cashOut hadded with hstored | hsent
    · exact .inr ⟨payload, h.accepted payload hmem, h.pending _ hmem payload rfl cashOut hstored⟩
    · exact .inr hsent
  · intro _
    rfl
  · intro phase _ p _ cashOut hcashOut
    cases hcashOut
  · exact hset.accepted

theorem deleteSells (h : Covered fmt s) (run : Nat) :
    Covered fmt { s.setRun run .ended with db := { s.db with sells := [] } } :=
  have hset : Covered fmt (s.setRun run .ended) := h.setRun run rfl
  ⟨hset.nothingLost, hset.vendor, hset.pending, hset.accepted⟩

theorem next (h : Covered fmt s) (i : Input) (hok : AddsBetweenRuns s i) :
    Covered fmt (s.next fmt i) := by
  cases i with
  | addVendor row getThrows => exact h.addVendor row getThrows
  | addVendorCashOut cashOut => exact h.addVendorCashOut cashOut hok
  | start => exact h.start
  | read run =>
    simp only [State.next]
    split
    · exact h.read run
    · exact h
  | respond run responseCode =>
    simp only [State.next]
    split
    next payload hrun => exact h.respond hrun responseCode
    next => exact h
  | deleteCashOuts run =>
    simp only [State.next]
    split
    next payload hrun => exact h.deleteCashOuts hrun
    next => exact h
  | deleteSells run =>
    simp only [State.next]
    split
    · exact h.deleteSells run
    · exact h
  | fail run => exact h.setRun run rfl

end Covered

end

/-- As long as no cash-out is added while a run has read and not yet deleted,
none is lost. -/
theorem no_statistic_lost (fmt : DateFormat) {s : State}
    (h : Reaches (State.next fmt) AddsBetweenRuns .initial s) : NothingLost fmt s :=
  (h.invariant (I := Covered fmt) .initial fun _ i hok hs => hs.next i hok).nothingLost

/-- One cash-out is added, read, accepted and deleted. -/
theorem no_statistic_lost_after_one_run :
    let fmt : DateFormat := ⟨fun _ => "2015-01-01 00:00:00.000 +0000", fun _ => some 0⟩
    let s := [.addVendor ⟨"00:16:3e:00:00:01", none, none⟩ true,
      .addVendorCashOut ⟨0, some "tx", 5000, some 0, true, none⟩, .start, .read 0, .respond 0 200,
      .deleteCashOuts 0].foldl (State.next fmt) .initial
    s.added ≠ [] ∧ s.db.cashOuts = [] ∧ NothingLost fmt s :=
  ⟨by decide, by decide, no_statistic_lost _ (.along .start (by decide))⟩

/-- A run has read the empty tables and its payload is accepted; a cash-out
is added, and the run deletes it. -/
theorem cash_out_lost :
    let fmt : DateFormat := ⟨fun _ => "2015-01-01 00:00:00.000 +0000", fun _ => some 0⟩
    ∃ s, Reaches (State.next fmt) (fun _ _ => True) .initial s ∧ ¬ NothingLost fmt s := by
  intro fmt
  refine ⟨_, .foldl [.addVendor ⟨"00:16:3e:00:00:01", none, none⟩ true, .start, .read 0,
    .respond 0 200, .addVendorCashOut ⟨0, some "tx", 5000, some 0, true, none⟩,
    .deleteCashOuts 0] .start, ?_⟩
  intro h
  rcases h ⟨1, some "tx", 5000, some 0, true, none⟩ (by decide) with hstored | hsent
  · cases hstored
  · obtain ⟨payload, hmem, members, elements, hpayload, hget, hcashOut⟩ := hsent
    rw [List.mem_singleton.mp hmem] at hpayload
    cases hpayload
    cases hget
    cases hcashOut

end BitMesh.Statistics
