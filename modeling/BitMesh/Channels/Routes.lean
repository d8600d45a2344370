import BitMesh.Channels.Paying

/-!
# Where funding goes

What decides to which connection the wallet's coins are told: the map of
watched addresses, and of each connection what it registers by and whether
it is still open. Most statements leave all of this alone.
-/

namespace BitMesh.Channels

open BitMesh.Bitcoin BitMesh.Lib

/-- What a connection registers its address by. -/
structure Route where
  step : InitStep
  connectionOpen : Bool
  clientVersion : Option ClientVersion
  fundingAddress : Option Address
  myAddress : Address

def PaymentChannelServer.route (sv : PaymentChannelServer) : Route where
  step := sv.step
  connectionOpen := sv.connectionOpen
  clientVersion := sv.clientVersion
  fundingAddress := sv.fundingAddress
  myAddress := sv.myAddress

/-- The connection whose end is noted. -/
def Event.ended : Event → Option ConnRef
  | .connectionClosed c => some c
  | _ => none

/-- The address was registered or taken out. -/
def Event.concerns (a : Address) : Event → Bool
  | .watched a' _ => a' = a
  | .unwatched a' _ => a' = a
  | _ => false

/-- The event is about the end of a connection or about an address. -/
def Event.routes : Event → Bool
  | .connectionClosed _ => true
  | .watched .. => true
  | .unwatched .. => true
  | _ => false

structure Routing where
  routes : ConnRef → Route
  /-- The connections so far are those below it. -/
  next : Nat
  addressConnectionMap : AList (fun _ : Address => ConnRef)
  /-- The connections `connectionClosed` has run for. -/
  ended : List ConnRef
  /-- What was done last to an address. -/
  last : Address → Option Event

def World.routing (w : World) : Routing where
  routes c := (w.servers.read c).route
  next := w.servers.next
  addressConnectionMap := w.addressConnectionMap
  ended := w.trace.filterMap Event.ended
  last a := w.trace.find? (Event.concerns a)

theorem mem_ended {w : World} {c : ConnRef} :
    c ∈ w.routing.ended ↔ .connectionClosed c ∈ w.trace := by
  unfold World.routing
  rw [List.mem_filterMap]
  constructor
  · rintro ⟨e, he, hended⟩
    cases e with
    | connectionClosed c' =>
        obtain rfl := Option.some.inj hended
        exact he
    | _ => cases hended
  · intro he
    exact ⟨_, he, rfl⟩

/-! ## Statements -/

section Statements

variable {α γ : Type} {f : World → γ}

theorem keeps_readServer (c : ConnRef) : Keeps f (readServer c) := fun _ => (wp_readServer c).mpr rfl

theorem keeps_readState (s : StateRef) : Keeps f (readState s) := fun _ => (wp_readState s).mpr rfl

theorem keeps_readChannel (r : ChannelRef) : Keeps f (readChannel r) :=
  fun _ => (wp_readChannel r).mpr rfl

theorem keeps_checkState (b : Bool) : Keeps f (checkState b) := fun _ =>
  (wp_checkState b).mpr ⟨fun _ => rfl, fun _ => rfl⟩

theorem keeps_checkArgument (b : Bool) : Keeps f (checkArgument b) := fun _ =>
  (wp_checkArgument b).mpr ⟨fun _ => rfl, fun _ => rfl⟩

theorem keeps_nonNull (x : Option α) : Keeps f (nonNull x) := fun _ =>
  (wp_nonNull x).mpr ⟨fun _ _ => rfl, fun _ => rfl⟩

theorem keeps_orThrow (x : Except JavaException α) : Keeps f (orThrow x) := fun _ =>
  (wp_orThrow x).mpr ⟨fun _ _ => rfl, fun _ _ => rfl⟩

theorem keeps_getChannel (h : Sha256Hash) : Keeps f (getChannel h) := .read fun _ => .pure _

end Statements

/-- An assignment to fields of a connection that are not part of its route. -/
theorem World.routing_modifyServer_same (w : World) (c : ConnRef)
    {f : PaymentChannelServer → PaymentChannelServer} (hf : ∀ sv, (f sv).route = sv.route) :
    ({ w with servers := w.servers.modify c f } : World).routing = w.routing := by
  have hroutes : (fun c' => ((w.servers.modify c f).read c').route) =
      fun c' => (w.servers.read c').route :=
    funext fun c' => w.servers.field_modify c c' _ hf
  simp only [World.routing, hroutes, Heap.next_modify]

theorem World.routing_note (w : World) {e : Event} (he : e.routes = false) :
    ({ w with trace := e :: w.trace } : World).routing = w.routing := by
  have hended : e.ended = none := by
    cases e <;> first | rfl | cases he
  have hlast (a : Address) : e.concerns a = false := by
    cases e <;> first | rfl | cases he
  simp [World.routing, hended, hlast]

theorem keeps_saveNow {p : Platform} {γ : Type} {f : World → γ} : Keeps f (saveNow p) := fun w =>
  wp.mono (saveNow_spec w) (fun _ _ h => h ▸ rfl) (fun _ _ h => h.1 ▸ rfl)

/-! ## Registering -/

/-- The address that `stopWatchingAddress` stops watching. -/
def Route.ownAddress (route : Route) : Option Address :=
  match route.clientVersion with
  | none => none
  | some version =>
      if version.minor = browserMicropaymentsMinorVersion then route.fundingAddress
      else if version.minor = browserMacropaymentMinorVersion then some route.myAddress
      else none

/-- The steps before a connection has registered. -/
def InitStep.early (step : InitStep) : Prop :=
  step = .waitingOnClientVersion ∨ step = .waitingOnFundingAddress

instance InitStep.decidableEarly (step : InitStep) : Decidable step.early :=
  inferInstanceAs (Decidable (_ ∨ _))

end BitMesh.Channels
