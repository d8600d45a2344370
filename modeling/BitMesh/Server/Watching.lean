import BitMesh.Channels.Closing

/-!
# Watched addresses

`BitmeshServer` keeps two collections: the addresses its wallet watches,
and the `PaymentChannelServer` each of them funds. The wallet's part is a
set here. The channel server's own methods do the same to the map wherever
the wallet can be saved.
-/

namespace BitMesh.Server

open BitMesh.Bitcoin (Address)
open BitMesh.Channels (ConnRef)

/-- What the two methods change. -/
structure Watching where
  watchedAddresses : Finset Address
  addressConnectionMap : AList (fun _ : Address => ConnRef)

namespace Watching

def initial : Watching := ⟨∅, ∅⟩

/-- `wallet.addWatchedAddress`. -/
def addWatchedAddress (s : Watching) (address : Address) : Watching :=
  { s with watchedAddresses := insert address s.watchedAddresses }

/-- `wallet.removeWatchedAddress`. -/
def removeWatchedAddress (s : Watching) (address : Address) : Watching :=
  { s with watchedAddresses := s.watchedAddresses.erase address }

def remove (s : Watching) (address : Address) : Watching :=
  { s with addressConnectionMap := s.addressConnectionMap.erase address }

def put (s : Watching) (address : Address) (channelServer : ConnRef) : Watching :=
  { s with addressConnectionMap := s.addressConnectionMap.insert address channelServer }

/-- `watchAddress`. -/
def watchAddress (s : Watching) (address : Address) (channelServer : ConnRef) : Watching :=
  match s.addressConnectionMap.lookup address with
  | some existing =>
      if existing ≠ channelServer then
        ((s.remove address).put address channelServer).addWatchedAddress address
      else s
  | none => (s.addWatchedAddress address).put address channelServer

/-- `stopWatchingAddress`. -/
def stopWatchingAddress (s : Watching) (address : Address) (channelServer : ConnRef) : Watching :=
  match s.addressConnectionMap.lookup address with
  | some existing =>
      if existing = channelServer then (s.removeWatchedAddress address).remove address
      else s
  | none => s

end Watching

/-- A call of one of the two methods. -/
inductive WatchCall where
  | watch (address : Address) (channelServer : ConnRef)
  | stop (address : Address) (channelServer : ConnRef)
  deriving DecidableEq

namespace Watching

variable {s : Watching} {address a : Address} {channelServer c : ConnRef}

def perform (s : Watching) : WatchCall → Watching
  | .watch address channelServer => s.watchAddress address channelServer
  | .stop address channelServer => s.stopWatchingAddress address channelServer

/-- Both collections after a sequence of calls. -/
def run (calls : List WatchCall) : Watching := calls.foldl perform initial

theorem run_concat (calls : List WatchCall) (call : WatchCall) :
    run (calls ++ [call]) = (run calls).perform call := by
  simp [run]

/-! ## One call -/

theorem lookup_watchAddress :
    (s.watchAddress address channelServer).addressConnectionMap.lookup a =
      if a = address then some channelServer else s.addressConnectionMap.lookup a := by
  unfold watchAddress
  cases hlookup : s.addressConnectionMap.lookup address with
  | none =>
      by_cases ha : a = address
      · subst ha
        simp [put]
      · simp [put, addWatchedAddress, ha]
  | some existing =>
      by_cases ha : a = address
      · subst ha
        by_cases hsame : existing = channelServer
        · simp [hsame, hlookup]
        · simp [hsame, put, addWatchedAddress]
      · by_cases hsame : existing = channelServer
        · simp [hsame, ha]
        · simp [hsame, put, remove, addWatchedAddress, ha]

theorem lookup_stopWatchingAddress :
    (s.stopWatchingAddress address channelServer).addressConnectionMap.lookup a =
      if a = address ∧ s.addressConnectionMap.lookup a = some channelServer then none
      else s.addressConnectionMap.lookup a := by
  unfold stopWatchingAddress
  cases hlookup : s.addressConnectionMap.lookup address with
  | none =>
      by_cases ha : a = address
      · subst ha
        simp [hlookup]
      · simp [ha]
  | some existing =>
      by_cases hsame : existing = channelServer
      · subst hsame
        by_cases ha : a = address
        · subst ha
          simp [remove, removeWatchedAddress, hlookup]
        · simp [remove, removeWatchedAddress, ha]
      · by_cases ha : a = address
        · subst ha
          simp [hsame, hlookup]
        · simp [hsame, ha]

/-- A call by a server that does not hold the address. -/
theorem stopWatchingAddress_of_ne (h : s.addressConnectionMap.lookup address ≠ some channelServer) :
    s.stopWatchingAddress address channelServer = s := by
  unfold stopWatchingAddress
  cases hlookup : s.addressConnectionMap.lookup address with
  | none => rfl
  | some existing =>
      have hne : existing ≠ channelServer := by
        intro hsame
        exact h (hsame ▸ hlookup)
      exact if_neg hne

/-! ## The two collections -/

/-- The wallet watches what the map has. -/
def InStep (s : Watching) : Prop :=
  ∀ address, address ∈ s.watchedAddresses ↔ address ∈ s.addressConnectionMap

theorem InStep.watchAddress (h : s.InStep) (address : Address) (channelServer : ConnRef) :
    (s.watchAddress address channelServer).InStep := by
  intro a
  have ha := h a
  unfold Watching.watchAddress
  cases hlookup : s.addressConnectionMap.lookup address with
  | none => simp [put, addWatchedAddress, ha]
  | some existing =>
      by_cases hsame : existing = channelServer
      · simp [hsame, ha]
      · simp only [ne_eq, hsame, not_false_eq_true, if_true, put, remove, addWatchedAddress,
          Finset.mem_insert, AList.mem_insert, AList.mem_erase, ha]
        tauto

theorem InStep.stopWatchingAddress (h : s.InStep) (address : Address) (channelServer : ConnRef) :
    (s.stopWatchingAddress address channelServer).InStep := by
  intro a
  have ha := h a
  unfold Watching.stopWatchingAddress
  cases hlookup : s.addressConnectionMap.lookup address with
  | none => exact ha
  | some existing =>
      by_cases hsame : existing = channelServer
      · simp [hsame, remove, removeWatchedAddress, ha]
      · simp [hsame, ha]

/-- The server watched the address, nobody did after it, and it has not
stopped. -/
def Holds (calls : List WatchCall) (address : Address) (channelServer : ConnRef) : Prop :=
  ∃ earlier later, calls = earlier ++ .watch address channelServer :: later ∧
    (∀ other, .watch address other ∉ later) ∧ .stop address channelServer ∉ later

section Refinement

open BitMesh.Channels (Method Platform saveNow_spec)
open BitMesh.Lib

variable {p : Platform} {w : Channels.World}

/-- The channel server has the same map, and its wallet can be saved. -/
structure Matches (p : Platform) (s : Watching) (w : Channels.World) : Prop where
  lookup : ∀ a, w.addressConnectionMap.lookup a = s.addressConnectionMap.lookup a
  canSave : w.canSave p = true

theorem Matches.saveNow (h : Matches p s w) :
    wp (Channels.saveNow p) w (fun _ t => t = w) (fun _ _ => False) :=
  wp.mono (saveNow_spec w) (fun _ _ ht => ht) fun _ _ ht => absurd ht.2 (by simp [h.canSave])

theorem Matches.watchAddress (h : Matches p s w) (address : Address) (channelServer : ConnRef) :
    wp (Channels.watchAddress p address channelServer) w
      (fun _ t => Matches p (s.watchAddress address channelServer) t) (fun _ _ => False) := by
  let t : Channels.World := { w with
    addressConnectionMap := w.addressConnectionMap.insert address channelServer
    trace := .watched address channelServer :: w.trace }
  have hput : Matches p (s.watchAddress address channelServer) t := by
    refine ⟨fun a => ?_, h.canSave⟩
    rw [lookup_watchAddress]
    by_cases ha : a = address
    · subst ha
      simp [t]
    · simp [t, ha, h.lookup a]
  have hsaves : wp (Channels.saveNow p) t (fun _ u => u = t) (fun _ _ => False) := hput.saveNow
  unfold Channels.watchAddress
  rw [wp_bind, wp_get]
  cases hlookup : w.addressConnectionMap.lookup address with
  | none =>
      show wp (Channels.saveNow p >>= _) w _ _
      rw [wp_bind]
      refine wp.mono h.saveNow (fun _ u hu => ?_) fun _ _ hfalse => hfalse
      subst hu
      exact hput
  | some existing =>
      show wp (if existing ≠ channelServer then _ else _) w _ _
      rw [wp_ite]
      constructor
      · intro hother
        show wp (Channels.saveNow p) t _ _
        exact wp.mono hsaves (fun _ u hu => hu ▸ hput) fun _ _ hfalse => hfalse
      · intro hsame
        have hunchanged : s.watchAddress address channelServer = s := by
          unfold Watching.watchAddress
          rw [← h.lookup, hlookup]
          exact if_neg hsame
        rw [hunchanged]
        exact h

theorem Matches.stopWatching (h : Matches p s w) (address : Address) (channelServer : ConnRef) :
    wp (Channels.stopWatching p (some address) channelServer) w
      (fun _ t => Matches p (s.stopWatchingAddress address channelServer) t)
      (fun _ _ => False) := by
  show wp (if w.addressConnectionMap.lookup address = some channelServer then _ else _) w _ _
  rw [wp_ite]
  constructor
  · intro hmine
    rw [wp_bind]
    refine wp.mono h.saveNow (fun _ u hu => ?_) fun _ _ hfalse => hfalse
    subst hu
    refine (⟨fun a => ?_, h.canSave⟩ : Matches p _ { u with
      addressConnectionMap := u.addressConnectionMap.erase address
      trace := .unwatched address channelServer :: u.trace })
    rw [lookup_stopWatchingAddress, ← h.lookup]
    by_cases ha : a = address
    · subst ha
      simp [hmine]
    · simp [ha]
  · intro hother
    rw [h.lookup] at hother
    rw [stopWatchingAddress_of_ne hother]
    exact h

/-- A call on the channel server. -/
def onServer (p : Platform) : WatchCall → Method Unit
  | .watch address channelServer => Channels.watchAddress p address channelServer
  | .stop address channelServer => Channels.stopWatching p (some address) channelServer

/-- No call throws while the wallet can be saved, and both sides stay alike. -/
theorem Matches.calls (h : Matches p s w) (calls : List WatchCall) :
    wp (calls.forM (onServer p)) w (fun _ t => Matches p (calls.foldl perform s) t)
      (fun _ _ => False) := by
  induction calls generalizing s w with
  | nil => exact h
  | cons call calls ih =>
      show wp (onServer p call >>= fun _ => calls.forM (onServer p)) w _ _
      rw [wp_bind]
      have hcall : wp (onServer p call) w (fun _ t => Matches p (s.perform call) t)
          (fun _ _ => False) := by
        cases call with
        | watch address channelServer => exact h.watchAddress address channelServer
        | stop address channelServer => exact h.stopWatching address channelServer
      exact wp.mono hcall (fun _ _ ht => ih ht) fun _ _ hfalse => hfalse

end Refinement

end Watching

end BitMesh.Server
