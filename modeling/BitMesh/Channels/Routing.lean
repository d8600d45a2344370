import BitMesh.Channels.Frames
import BitMesh.Channels.Funding

/-!
# Funding for connections that are gone

A connection registers one address, in one of two messages, and
`destroyConnection` takes it out again. `connectionClosed` does not. So a
connection that ends in any other way stays in the map, and what arrives
for its address goes to it. Where each connection is out of the map when
it ends, it never gets back in: a message is only handled while the
connection is open.
-/

namespace BitMesh.Channels

open BitMesh.Bitcoin BitMesh.Lib

/-! ## Routes that fit together -/

namespace Routing

/-- The connection may have the address: it is its own, it does not change
any more, and the connection has not ended. -/
structure Registered (r : Routing) (a : Address) (c : ConnRef) : Prop where
  own : (r.routes c).ownAddress = some a
  late : ¬ (r.routes c).step.early
  lt : c < r.next
  alive : c ∉ r.ended

structure Sound (r : Routing) : Prop where
  registered : ∀ a c, r.addressConnectionMap.lookup a = some c → r.Registered a c
  minor : ∀ c, (r.routes c).step = .waitingOnFundingAddress →
    ∃ version, (r.routes c).clientVersion = some version ∧
      version.minor = browserMicropaymentsMinorVersion
  shut : ∀ c ∈ r.ended, (r.routes c).connectionOpen = false
  lt : ∀ c ∈ r.ended, c < r.next
  /-- The map has what was registered last, unless it was taken out. -/
  history : ∀ a c, r.addressConnectionMap.lookup a = some c ↔ r.last a = some (.watched a c)

/-- The route of one connection is changed. -/
def update (r : Routing) (c : ConnRef) (f : Route → Route) : Routing :=
  { r with routes := Function.update r.routes c (f (r.routes c)) }

variable {r : Routing} {c : ConnRef} {f : Route → Route}

@[simp] theorem routes_update_self : (r.update c f).routes c = f (r.routes c) := by
  simp [update]

theorem routes_update_ne {c' : ConnRef} (h : c' ≠ c) : (r.update c f).routes c' = r.routes c' := by
  simp [update, h]

namespace Sound

/-- A change that fits the addresses the connection has already. -/
theorem update (h : r.Sound)
    (hown : ∀ a, r.addressConnectionMap.lookup a = some c →
      (f (r.routes c)).ownAddress = some a ∧ ¬ (f (r.routes c)).step.early)
    (hminor : (f (r.routes c)).step = .waitingOnFundingAddress →
      ∃ version, (f (r.routes c)).clientVersion = some version ∧
        version.minor = browserMicropaymentsMinorVersion)
    (hshut : c ∈ r.ended → (f (r.routes c)).connectionOpen = false) : (r.update c f).Sound where
  registered a c' hlookup := by
    have hold := h.registered a c' hlookup
    by_cases hc : c' = c
    · subst hc
      obtain ⟨hown, hlate⟩ := hown a hlookup
      exact ⟨by rw [routes_update_self]; exact hown, by rw [routes_update_self]; exact hlate,
        hold.lt, hold.alive⟩
    · exact ⟨by rw [routes_update_ne hc]; exact hold.own,
        by rw [routes_update_ne hc]; exact hold.late, hold.lt, hold.alive⟩
  minor c' := by
    by_cases hc : c' = c
    · subst hc
      rw [routes_update_self]
      exact hminor
    · rw [routes_update_ne hc]
      exact h.minor c'
  shut c' hended := by
    by_cases hc : c' = c
    · subst hc
      rw [routes_update_self]
      exact hshut hended
    · rw [routes_update_ne hc]
      exact h.shut c' hended
  lt := h.lt
  history := h.history

theorem insert (h : r.Sound) {a : Address} (hc : r.Registered a c) :
    Sound { r with
      addressConnectionMap := r.addressConnectionMap.insert a c
      last := Function.update r.last a (some (.watched a c)) } := by
  refine ⟨fun a' c' hlookup => ?_, h.minor, h.shut, h.lt, fun a' c' => ?_⟩
  · by_cases ha : a' = a
    · subst ha
      obtain rfl : c = c' := by simpa using hlookup
      exact ⟨hc.own, hc.late, hc.lt, hc.alive⟩
    · have hold := h.registered a' c' (by simpa [ha] using hlookup)
      exact ⟨hold.own, hold.late, hold.lt, hold.alive⟩
  · by_cases ha : a' = a
    · subst ha
      simp
    · simpa [ha] using h.history a' c'

theorem erase (h : r.Sound) (a : Address) (c : ConnRef) :
    Sound { r with
      addressConnectionMap := r.addressConnectionMap.erase a
      last := Function.update r.last a (some (.unwatched a c)) } := by
  refine ⟨fun a' c' hlookup => ?_, h.minor, h.shut, h.lt, fun a' c' => ?_⟩
  · have ha : a' ≠ a := by
      rintro rfl
      simp at hlookup
    have hold := h.registered a' c' (by simpa [ha] using hlookup)
    exact ⟨hold.own, hold.late, hold.lt, hold.alive⟩
  · by_cases ha : a' = a
    · subst ha
      simp
    · simpa [ha] using h.history a' c'

/-- No address belongs to a connection that has not come so far. -/
theorem unregistered (h : r.Sound) (hearly : (r.routes c).step.early) (a : Address) :
    r.addressConnectionMap.lookup a ≠ some c :=
  fun hlookup => (h.registered a c hlookup).late hearly

/-- An open connection has not ended. -/
theorem alive (h : r.Sound) (hopen : (r.routes c).connectionOpen = true) : c ∉ r.ended := by
  intro hended
  rw [h.shut c hended] at hopen
  exact Bool.noConfusion hopen

end Sound

end Routing

/-- The routes of a world fit together. -/
def World.Routed (w : World) : Prop := w.routing.Sound

theorem World.routing_modifyServer (w : World) (c : ConnRef)
    {f : PaymentChannelServer → PaymentChannelServer} {g : Route → Route}
    (hf : ∀ sv, (f sv).route = g sv.route) :
    ({ w with servers := w.servers.modify c f } : World).routing = w.routing.update c g := by
  have hroutes : (fun c' => ((w.servers.modify c f).read c').route) =
      Function.update (fun c' => (w.servers.read c').route) c (g (w.servers.read c).route) := by
    funext c'
    by_cases hc : c' = c
    · subst hc
      simp [hf]
    · simp [Heap.read_modify_ne _ _ hc, hc]
  simp only [World.routing, Routing.update, hroutes, Heap.next_modify]

/-- What is noted of an address is what was done last to it. -/
theorem World.last_note (w : World) {a : Address} {e : Event}
    (he : ∀ a', e.concerns a' = true ↔ a' = a) :
    (fun a' => (e :: w.trace).find? (Event.concerns a')) =
      Function.update w.routing.last a (some e) := by
  funext a'
  by_cases h : a' = a
  · subst h
    simp [(he a').mpr rfl]
  · simp [h, mt (he a').mp h, World.routing]

/-! ## Methods -/

/-- What happens leaves routes that fit together fitting together. -/
def StaysRouted (w w' : World) : Prop := w.Routed → w'.Routed

theorem StaysRouted.of_same {w w' : World} (h : w'.routing = w.routing) : StaysRouted w w' := by
  intro hw
  unfold World.Routed
  rw [h]
  exact hw

instance StaysRouted.isPreorder : IsPreorder World StaysRouted where
  refl _ := id
  trans _ _ _ h h' := h' ∘ h

instance StaysRouted.frame : Frame StaysRouted where
  rest _ _ h := .of_same (by
    simp only [World.routing, h.servers, h.addressConnectionMap, h.trace])
  noted w _ _ he := .of_same (w.routing_note he)
  served w c _ hf := .of_same (w.routing_modifyServer_same c hf)
  stepped w c step h hw := by
    unfold World.Routed
    rw [w.routing_modifyServer c (g := fun route => { route with step := step }) fun _ => rfl]
    refine hw.update (fun a hlookup => ⟨(hw.registered a c hlookup).own, h⟩) ?_ (hw.shut c)
    intro hstep
    exact absurd (.inr hstep) h
  unwatched w a c hw := by
    have hnew := hw.erase a c
    rw [← w.last_note fun a' => by simp [Event.concerns, eq_comm]] at hnew
    exact hnew
  assigned _ _ _ _ := .of_same rfl
  keyed _ _ _ _ _ := .of_same rfl
  made _ _ _ := .of_same rfl
  offered _ _ _ _ _ := .of_same rfl
  completed _ _ := .of_same rfl
  settled _ _ _ h := .of_same h.routing

instance StaysRouted.reporting : Reporting StaysRouted StaysRouted where
  unreported h := h
  before := trans_of StaysRouted
  after := trans_of StaysRouted
  reported w _ _ _ _ := .of_same (w.routing_note rfl)

section Methods

variable {p : Platform} {env : Env} {w : World} {c : ConnRef}

theorem routed_of_within {α : Type} {m : Method α} (h : Within StaysRouted m) :
    Preserves World.Routed m := fun w hw =>
  wp.mono (h w) (fun _ _ ht => ht hw) fun _ _ ht => ht hw

/-! ## Registering -/

/-- The connection registers its own address. -/
theorem watchAddress_routed {a : Address} (hw : w.Routed) (hc : w.routing.Registered a c) :
    wp (watchAddress p a c) w (fun _ t => t.Routed) (fun _ t => t.Routed) := by
  have hput : wp (putAddress a c) w (fun _ t => t.Routed) (fun _ t => t.Routed) := by
    have hnew := hw.insert hc
    rw [← w.last_note fun a' => by simp [Event.concerns, eq_comm]] at hnew
    exact hnew
  have hsave : Preserves World.Routed (saveNow p) := routed_of_within (.of_same keeps_saveNow)
  unfold watchAddress
  rw [wp_bind, wp_get]
  cases w.addressConnectionMap.lookup a with
  | none =>
      show wp (saveNow p >>= _) w _ _
      rw [wp_bind]
      refine wp.mono (saveNow_spec w) (fun _ t ht => ?_) fun _ t ht => ht.1 ▸ hw
      subst ht
      exact hput
  | some existing =>
      show wp (if existing ≠ c then _ else _) w _ _
      rw [wp_ite]
      refine ⟨fun _ => ?_, fun _ => hw⟩
      rw [wp_bind]
      exact wp.mono hput (fun _ t ht => hsave t ht) fun _ _ ht => ht

/-- A connection whose version has just been noted. -/
structure Routing.Arriving (c : ConnRef) (version : ClientVersion) (r : Routing) : Prop where
  sound : r.Sound
  lt : c < r.next
  isOpen : (r.routes c).connectionOpen = true
  step : (r.routes c).step = .waitingOnClientVersion
  version : (r.routes c).clientVersion = some version

theorem sendToClient_routes (c : ConnRef) (m : ServerMessage) :
    Keeps World.routing (sendToClient p c m) :=
  .bind (keeps_checkState _) fun _ w => w.routing_note rfl

theorem setExpireTime_routes (c : ConnRef) (now timeWindowSecs : Int) :
    Keeps World.routing (setExpireTime c now timeWindowSecs) :=
  .bind (fun w => w.routing_modifyServer_same c fun _ => rfl) fun _ w => w.routing_note rfl

theorem keeps_arriving {α : Type} {m : Method α} {version : ClientVersion}
    (h : Keeps World.routing m) : Preserves (fun w => w.routing.Arriving c version) m :=
  .of_keeps (Routing.Arriving c version) h

/-- A macropayment connection registers its own key's address. -/
theorem offerMacropayments_routed {version : ClientVersion} (h : w.routing.Arriving c version)
    (hminor : version.minor = browserMacropaymentMinorVersion) :
    wp (do setStep c .waitingOnFunding; watchAddress p (w.servers.read c).myAddress c) w
      (fun _ t => t.Routed) (fun _ t => t.Routed) := by
  let t : World := { w with
    servers := w.servers.modify c fun sv => { sv with step := .waitingOnFunding }
    trace := .stepped c .waitingOnFunding :: w.trace }
  show wp (watchAddress p (w.servers.read c).myAddress c) t _ _
  have hroutes : t.routing =
      w.routing.update c fun route => { route with step := .waitingOnFunding } :=
    w.routing_modifyServer c fun _ => rfl
  have hown : ({ w.routing.routes c with step := .waitingOnFunding } : Route).ownAddress =
      some (w.servers.read c).myAddress := by
    show Route.ownAddress ⟨_, _, (w.routing.routes c).clientVersion, _, _⟩ = _
    rw [h.version]
    simp [Route.ownAddress, hminor, browserMacropaymentMinorVersion,
      browserMicropaymentsMinorVersion, World.routing, PaymentChannelServer.route]
  have hlate : ¬ InitStep.early .waitingOnFunding := by
    rintro (h | h) <;> cases h
  apply watchAddress_routed
  · show Routing.Sound _
    rw [hroutes]
    refine h.sound.update (fun a hlookup => ?_) (fun hstep => ?_) (h.sound.shut c)
    · exact absurd hlookup (h.sound.unregistered (.inl h.step) a)
    · cases hstep
  · rw [hroutes]
    refine ⟨?_, ?_, h.lt, h.sound.alive h.isOpen⟩
    · rw [Routing.routes_update_self]
      exact hown
    · rw [Routing.routes_update_self]
      exact hlate

/-- A micropayment connection is asked for its address. -/
theorem offerMicropayments_routed {version : ClientVersion} (h : w.routing.Arriving c version)
    (hminor : version.minor = browserMicropaymentsMinorVersion) :
    wp (setStep c .waitingOnFundingAddress) w (fun _ t => t.Routed) (fun _ t => t.Routed) := by
  have hroutes : ({ w with
      servers := w.servers.modify c fun sv => { sv with step := .waitingOnFundingAddress } } :
      World).routing =
      w.routing.update c fun route => { route with step := .waitingOnFundingAddress } :=
    w.routing_modifyServer c fun _ => rfl
  show Routing.Sound (World.routing
    { w with servers := w.servers.modify c fun sv => { sv with step := .waitingOnFundingAddress } })
  rw [hroutes]
  refine h.sound.update (fun a hlookup => ?_) (fun _ => ⟨version, h.version, hminor⟩)
    (h.sound.shut c)
  exact absurd hlookup (h.sound.unregistered (.inl h.step) a)

theorem offerChannel_routed {version : ClientVersion} (h : w.routing.Arriving c version) :
    wp (offerChannel p env c version) w (fun _ t => t.Routed) (fun _ t => t.Routed) := by
  have hthrown : ∀ e : JavaException, ∀ t : World, t.routing.Arriving c version → t.Routed :=
    fun _ _ ht => ht.sound
  refine (keeps_arriving (setExpireTime_routes c _ _)).followed h (fun _ t ht => ?_) hthrown
  rw [wp_bind, wp_readServer]
  rw [wp_bind, wp_nonNull]
  refine ⟨fun client _ => ?_, fun _ => ht.sound⟩
  rw [wp_bind]
  refine wp.mono (sendToClient_routes c _ t) (fun _ u hu => ?_) fun _ u hu => ?_
  · have hu' : u.routing.Arriving c version := hu.symm ▸ ht
    have haddress : (t.servers.read c).myAddress = (u.servers.read c).myAddress :=
      congrArg (fun r : Routing => (r.routes c).myAddress) hu.symm
    rw [wp_ite]
    constructor
    · intro _
      refine routed_of_within ?_ u hu'.sound
      exact .bind (Frame.modifyServer c fun _ => rfl) fun _ => .skip keeps_saveNow fun _ =>
        .bind (Frame.setExpireTime c _ _) fun _ => Frame.sendInitiate c
    · intro _
      rw [wp_ite]
      refine ⟨fun hminor => offerMicropayments_routed hu' hminor, fun _ => ?_⟩
      rw [wp_ite]
      refine ⟨fun hminor => ?_, fun _ => hu'.sound⟩
      rw [haddress]
      exact offerMacropayments_routed hu' hminor
  · exact hthrown .nullPointer u (hu.symm ▸ ht)

theorem receiveVersionMessage_routed (hw : w.Routed) (hlt : c < w.routing.next)
    (hopen : (w.routing.routes c).connectionOpen = true) (msg : TwoWayChannelMessage) :
    wp (receiveVersionMessage p env c msg) w (fun _ t => t.Routed) (fun _ t => t.Routed) := by
  unfold receiveVersionMessage
  rw [wp_bind, wp_readServer, wp_bind, wp_checkState]
  refine ⟨fun hcheck => ?_, fun _ => hw⟩
  have hstep : (w.routing.routes c).step = .waitingOnClientVersion := (of_decide_eq_true hcheck).1
  rw [wp_bind, wp_nonNull]
  refine ⟨fun version _ => ?_, fun _ => hw⟩
  rw [wp_bind, wp_modifyServer]
  let t : World := { w with
    servers := w.servers.modify c fun sv => { sv with clientVersion := some version } }
  have hroutes : t.routing =
      w.routing.update c fun route => { route with clientVersion := some version } :=
    w.routing_modifyServer c fun _ => rfl
  have ht : t.routing.Arriving c version := by
    rw [hroutes]
    refine ⟨hw.update (fun a hlookup => ?_) (fun hother => ?_) (hw.shut c), hlt, ?_, ?_, ?_⟩
    · exact absurd hlookup (hw.unregistered (.inl hstep) a)
    · exact absurd (hstep.symm.trans hother) (by decide)
    · rw [Routing.routes_update_self]
      exact hopen
    · rw [Routing.routes_update_self]
      exact hstep
    · rw [Routing.routes_update_self]
  show wp (if version.major ≠ serverMajorVersion then _ else _) t _ _
  rw [wp_ite]
  refine ⟨fun _ => routed_of_within (Frame.error c _ _ _) t ht.sound, fun _ => ?_⟩
  refine (keeps_arriving (sendToClient_routes c _)).followed ht (fun _ u hu => ?_)
    fun _ u hu => hu.sound
  rw [wp_bind, wp_get]
  cases resumedChannel u version with
  | none => exact offerChannel_routed hu
  | some resumed => exact routed_of_within (Frame.resumeChannel c _ _) u hu.sound

/-- The address that was sent becomes the connection's own. -/
theorem setFundingAddress_routed {version : ClientVersion} (address : Address) (hw : w.Routed)
    (hlt : c < w.routing.next) (hopen : (w.routing.routes c).connectionOpen = true)
    (hversion : (w.routing.routes c).clientVersion = some version)
    (hminor : version.minor = browserMicropaymentsMinorVersion)
    (hlate : ¬ (w.routing.routes c).step.early)
    (hnone : ∀ a, w.addressConnectionMap.lookup a ≠ some c) :
    let t : World := { w with
      servers := w.servers.modify c fun sv => { sv with fundingAddress := some address } }
    t.Routed ∧ t.routing.Registered address c := by
  intro t
  have hroutes : t.routing =
      w.routing.update c fun route => { route with fundingAddress := some address } :=
    w.routing_modifyServer c fun _ => rfl
  have hown : ({ w.routing.routes c with fundingAddress := some address } : Route).ownAddress =
      some address := by
    show Route.ownAddress ⟨_, _, (w.routing.routes c).clientVersion, some address, _⟩ = _
    rw [hversion]
    simp [Route.ownAddress, hminor]
  constructor
  · show Routing.Sound _
    rw [hroutes]
    refine hw.update (fun a hlookup => absurd hlookup (hnone a)) (fun hstep => ?_) (hw.shut c)
    exact absurd (.inr hstep) hlate
  · rw [hroutes]
    refine ⟨?_, ?_, hlt, hw.alive hopen⟩
    · rw [Routing.routes_update_self]
      exact hown
    · rw [Routing.routes_update_self]
      exact hlate

theorem receiveFundingAddress_routed (hw : w.Routed) (hlt : c < w.routing.next)
    (hopen : (w.routing.routes c).connectionOpen = true) (msg : TwoWayChannelMessage) :
    wp (receiveFundingAddress p env c msg) w (fun _ t => t.Routed) (fun _ t => t.Routed) := by
  unfold receiveFundingAddress
  rw [wp_bind, wp_readServer, wp_bind, wp_nonNull]
  refine ⟨fun client _ => ?_, fun _ => hw⟩
  rw [wp_bind, wp_modifyServer]
  -- the price is negotiated before anything is checked
  let t : World := { w with servers := w.servers.modify c fun sv =>
    { sv with client := some { client with negotiatedPrice := client.maxPrice } } }
  have ht : t.routing = w.routing := w.routing_modifyServer_same c fun _ => rfl
  have hw' : t.Routed := by
    show Routing.Sound _
    rw [ht]
    exact hw
  show wp (checkState _ >>= _) t _ _
  rw [wp_bind, wp_checkState]
  refine ⟨fun hcheck => ?_, fun _ => hw'⟩
  have hstep : (t.routing.routes c).step = .waitingOnFundingAddress := by
    rw [ht]
    exact (of_decide_eq_true hcheck).1
  obtain ⟨version, hversion, hminor⟩ := hw'.minor c hstep
  have hnone := hw'.unregistered (.inr hstep)
  rw [wp_bind, wp_nonNull]
  refine ⟨fun text _ => ?_, fun _ => hw'⟩
  -- whatever becomes of the address, the step has been left
  let u : World := { t with
    servers := t.servers.modify c fun sv => { sv with step := .waitingOnUnsignedRefund }
    trace := .stepped c .waitingOnUnsignedRefund :: t.trace }
  have hlate : ¬ InitStep.early .waitingOnUnsignedRefund := by
    rintro (h | h) <;> cases h
  have hu : u.Routed := routed_of_within (Frame.setStep c hlate) t hw'
  have hroute : u.routing.routes c =
      { w.routing.routes c with step := .waitingOnUnsignedRefund } := by
    have hroutes : u.routing =
        t.routing.update c fun route => { route with step := .waitingOnUnsignedRefund } :=
      t.routing_modifyServer c fun _ => rfl
    rw [hroutes, Routing.routes_update_self, ht]
  cases p.parseAddress text with
  | error message => exact hu
  | ok address =>
      obtain ⟨hset, hregistered⟩ := setFundingAddress_routed address hu hlt
        (by rw [hroute]; exact hopen) (by rw [hroute, ← ht]; exact hversion) hminor
        (by rw [hroute]; exact hlate) hnone
      show wp (watchAddress p address c >>= _) _ _ _
      rw [wp_bind]
      refine wp.mono (watchAddress_routed hset hregistered) (fun _ v hv => ?_) fun _ _ h => h
      refine routed_of_within (.skip (keeps_orThrow _) fun funding => ?_) v hv
      exact .forM funding fun tx => Frame.sendFunding c tx

theorem receiveMessage_routed (hw : w.Routed) (hlt : c < w.routing.next)
    (msg : TwoWayChannelMessage) :
    wp (receiveMessage p env c msg) w (fun _ t => t.Routed) (fun _ t => t.Routed) := by
  have hregister {m : Method Unit} (h : wp m w (fun _ t => t.Routed) (fun _ t => t.Routed)) :
      wp m w (fun _ t => StaysRouted w t) (fun _ t => StaysRouted w t) :=
    wp.mono h (fun _ _ ht _ => ht) fun _ _ ht _ => ht
  have hmessage : wp (receiveMessage p env c msg) w (fun _ t => StaysRouted w t)
      (fun _ t => StaysRouted w t) :=
    Reporting.receiveMessage fun hopen => Reporting.handleMessage
      (hregister (receiveVersionMessage_routed hw hlt hopen msg))
      (hregister (receiveFundingAddress_routed hw hlt hopen msg))
  exact wp.mono hmessage (fun _ _ ht => ht hw) fun _ _ ht => ht hw

/-! ## Connections that come and go -/

theorem newServer_routed (minAcceptedChannelSize : Coin) (window : TimeWindow) :
    Preserves World.Routed (newServer p env minAcceptedChannelSize window) := by
  refine .bind (routed_of_within (.of_same keeps_saveNow)) fun _ => ?_
  intro w hw
  rw [wp_bind, wp_get, wp_bind, wp_set]
  show Routing.Sound _
  -- nothing is known under the new name yet
  have hold {c : ConnRef} (hc : c < w.servers.next) (sv : PaymentChannelServer) :
      ((w.servers.alloc sv).2.read c).route = (w.servers.read c).route :=
    congrArg _ (w.servers.read_alloc_old sv hc)
  refine ⟨fun a c hlookup => ?_, fun c hstep => ?_, fun c hended => ?_, fun c hended => ?_,
    hw.history⟩
  · have hc := hw.registered a c hlookup
    refine ⟨?_, ?_, Nat.lt_succ_of_lt hc.lt, hc.alive⟩
    · exact (congrArg Route.ownAddress (hold hc.lt _)).trans hc.own
    · exact fun hearly => hc.late ((congrArg Route.step (hold hc.lt _)) ▸ hearly)
  · by_cases hc : c = w.servers.next
    · subst hc
      simp [World.routing, PaymentChannelServer.route] at hstep
    · have hroute := congrArg PaymentChannelServer.route (w.servers.read_alloc_ne {
        minAcceptedChannelSize := minAcceptedChannelSize
        window := window
        myKey := ECKey.fromPrivate p.toBitcoinj env.freshKey
        myAddress := p.toAddress (ECKey.fromPrivate p.toBitcoinj env.freshKey).pub } hc)
      obtain ⟨version, hversion, hminor⟩ := hw.minor c ((congrArg Route.step hroute).symm.trans hstep)
      exact ⟨version, (congrArg Route.clientVersion hroute).trans hversion, hminor⟩
  · have hlt := hw.lt c hended
    exact (congrArg Route.connectionOpen (hold hlt _)).trans (hw.shut c hended)
  · exact Nat.lt_succ_of_lt (hw.lt c hended)

end Methods

/-- The connection has registered its address, and since then neither has
`destroyConnection` taken the address out nor another connection registered
it. -/
def World.watching (w : World) (c : ConnRef) : Bool :=
  match (w.servers.read c).route.ownAddress with
  | none => false
  | some a => w.trace.find? (Event.concerns a) == some (.watched a c)

/-- A connection ends when it never registered, or after `destroyConnection`
took its address out or another connection took its place. A socket is
opened once, before it can end. -/
def EndsUnwatched (w : World) (i : Env × Input) : Prop :=
  match i.2 with
  | .connectionOpen c _ => .connectionClosed c ∉ w.trace
  | .connectionClosed c => w.watching c = false
  | _ => True

instance EndsUnwatched.decidable (w : World) (i : Env × Input) : Decidable (EndsUnwatched w i) :=
  match i with
  | (_, .connectionOpen c _) => inferInstanceAs (Decidable (.connectionClosed c ∉ w.trace))
  | (_, .connectionClosed c) => inferInstanceAs (Decidable (w.watching c = false))
  | (_, .newServer ..) | (_, .message ..) | (_, .funding ..) | (_, .broadcastDone ..)
  | (_, .autoClose _) | (_, .serverClose _) | (_, .confidence ..) => isTrue trivial

section Runs

variable {p : Platform} {env : Env} {w : World} {c : ConnRef}

/-- A connection has no address but its own. -/
theorem World.Routed.watching_eq_false (hw : w.Routed) :
    w.watching c = false ↔ ∀ a, w.addressConnectionMap.lookup a ≠ some c := by
  constructor
  · intro hnot a hlookup
    have hown : (w.servers.read c).route.ownAddress = some a := (hw.registered a c hlookup).own
    have hlast : w.trace.find? (Event.concerns a) = some (.watched a c) :=
      (hw.history a c).mp hlookup
    rw [World.watching, hown] at hnot
    simp [hlast] at hnot
  · intro hnone
    unfold World.watching
    split
    · rfl
    · rename_i a _
      have hlast : w.trace.find? (Event.concerns a) ≠ some (.watched a c) :=
        fun hlast => hnone a ((hw.history a c).mpr hlast)
      simpa using hlast

theorem connectionOpen_routed (client : ClientConfig) (hw : w.Routed)
    (hc : .connectionClosed c ∉ w.trace) :
    wp (perform p env (.connectionOpen c client)) w (fun _ t => t.Routed) (fun _ t => t.Routed) := by
  show wp (if _ then _ else _) w _ _
  rw [wp_ite]
  refine ⟨fun _ => ?_, fun _ => hw⟩
  rw [wp_modifyServer]
  show Routing.Sound _
  rw [w.routing_modifyServer c (g := fun route => { route with connectionOpen := true }) fun _ => rfl]
  refine hw.update (fun a hlookup => ?_) (hw.minor c) fun hended => ?_
  · exact ⟨(hw.registered a c hlookup).own, (hw.registered a c hlookup).late⟩
  · exact absurd (mem_ended.mp hended) hc

theorem connectionClosed_routed (hw : w.Routed) (hlt : c < w.routing.next)
    (hc : w.watching c = false) :
    wp (connectionClosed p c) w (fun _ t => t.Routed) (fun _ t => t.Routed) := by
  have hnone := hw.watching_eq_false.mp hc
  let t : World := { w with
    servers := w.servers.modify c fun sv => { sv with connectionOpen := false }
    trace := .connectionClosed c :: w.trace }
  have hshut : (w.routing.update c fun route => { route with connectionOpen := false }).Sound := by
    refine hw.update (fun a hlookup => absurd hlookup (hnone a)) (hw.minor c) fun _ => rfl
  have hroutes : t.routing =
      { w.routing.update c fun route => { route with connectionOpen := false } with
        ended := c :: w.routing.ended } := by
    have hservers := w.routing_modifyServer c
      (f := fun sv => { sv with connectionOpen := false })
      (g := fun route => { route with connectionOpen := false }) fun _ => rfl
    rw [← hservers]
    rfl
  have ht : t.Routed := by
    show Routing.Sound _
    rw [hroutes]
    refine ⟨fun a c' hlookup => ?_, hshut.minor, fun c' hended => ?_, fun c' hended => ?_,
      hshut.history⟩
    · have hold := hshut.registered a c' hlookup
      refine ⟨hold.own, hold.late, hold.lt, fun hended => ?_⟩
      rcases List.mem_cons.mp hended with rfl | hended
      · exact hnone a hlookup
      · exact hold.alive hended
    · rcases List.mem_cons.mp hended with rfl | hended
      · simp [Routing.update]
      · exact hshut.shut c' hended
    · rcases List.mem_cons.mp hended with rfl | hended
      · exact hlt
      · exact hw.lt c' hended
  have hclosed := Frame.connectionClosed (R := StaysRouted) (p := p) (c := c) fun _ => ht
  exact wp.mono hclosed (fun _ _ hu => hu hw) fun _ _ hu => hu hw

theorem next_routed (i : Env × Input) (hi : EndsUnwatched w i) (hw : w.Routed) :
    (w.next p i).Routed := by
  obtain ⟨env, input⟩ := i
  refine (wp_iff_finalState (P := World.Routed)).mp ?_
  have hguard {m : Method Unit} {q : World → Prop} [DecidablePred q]
      (h : q w → wp m w (fun _ t => t.Routed) (fun _ t => t.Routed)) :
      wp (do if q (← get) then m) w (fun _ t => t.Routed) (fun _ t => t.Routed) := by
    rw [wp_bind, wp_get, wp_ite]
    exact ⟨h, fun _ => hw⟩
  cases input with
  | newServer minAcceptedChannelSize window =>
      exact Preserves.bind (newServer_routed _ _) (fun _ => .pure _) w hw
  | connectionOpen c client => exact connectionOpen_routed client hw hi
  | message c msg => exact hguard fun hc => receiveMessage_routed hw hc.1 msg
  | funding c tx => exact hguard fun _ => routed_of_within (Frame.sendFunding c tx) w hw
  | broadcastDone b success => exact routed_of_within (Reporting.broadcastDone b success) w hw
  | autoClose r => exact routed_of_within (Frame.autoClose r) w hw
  | connectionClosed c => exact hguard fun hlt => connectionClosed_routed hw hlt hi
  | serverClose c => exact hguard fun _ => routed_of_within (Frame.serverClose c) w hw
  | confidence h confidence => exact hw

theorem routed_of_reaches {autosave : Bool}
    (h : Reaches (World.next p) EndsUnwatched (World.initial autosave) w) : w.Routed := by
  refine Reaches.invariant (I := World.Routed) ?_ (fun _ i hi hs => next_routed i hi hs) h
  refine ⟨fun a c hlookup => ?_, fun c hstep => ?_, fun c hended => ?_, fun c hended => ?_,
    fun a c => ?_⟩
  · simp [World.routing, World.initial] at hlookup
  · cases hstep
  · cases hended
  · cases hended
  · simp [World.routing, World.initial]

/-! ## Coins that arrive -/

/-- The condition on the end of a connection cannot be done without:
`connectionClosed` itself takes nothing out of the map. -/
theorem ended_connection_gone_iff {autosave : Bool}
    (h : Reaches (World.next p) EndsUnwatched (World.initial autosave) w) :
    (∀ a, (w.next p (env, .connectionClosed c)).addressConnectionMap.lookup a ≠ some c) ↔
      w.watching c = false := by
  have hmap : (w.next p (env, .connectionClosed c)).addressConnectionMap =
      w.addressConnectionMap := by
    refine Keeps.finalState (f := World.addressConnectionMap) ?_ w
    refine .read fun w' => .ite (fun _ => ?_) fun _ => .pure _
    refine .bind (fun _ => rfl) fun _ => .bind (fun _ => rfl) fun _ => ?_
    refine .bind (keeps_readServer c) fun sv => ?_
    cases sv.state with
    | none => exact .pure _
    | some s =>
        refine .bind (keeps_readState s) fun st => ?_
        cases st.multisigContract with
        | none => exact .pure _
        | some contract =>
            refine .read fun u => .ite (fun _ => ?_) fun _ => .pure _
            refine .bind (keeps_getChannel _) fun channel => ?_
            cases channel with
            | none => exact .pure _
            | some r => exact fun _ => rfl
  rw [hmap]
  exact (routed_of_reaches h).watching_eq_false.symm

end Runs

namespace Macropayment

end Macropayment

end BitMesh.Channels
