import BitMesh.Channels.Closing

/-!
# Every step is a path of effects

One lemma a method: started anywhere, it does nothing but effects. The
methods that only keep books or talk to the client are `Silent`.
-/

namespace BitMesh.Channels

open BitMesh.Bitcoin BitMesh.Lib Relation

variable {p : Platform} {env : Env} {act : Action} {start : World}

/-! ## Silent methods -/

theorem Quiet.allocated {w w' : World} (h : Quiet w w') (ha : Allocated w) : Allocated w' :=
  ⟨fun s r hs => by rw [h.statesNext]; exact ha.tied s r (h.stored s ▸ hs),
    fun r s hs => by rw [h.statesNext]; exact ha.state r s (h.channels ▸ hs),
    fun c s hs => by rw [h.statesNext]; exact ha.server c s (h.serverState c ▸ hs)⟩

/-- A method that only keeps books. -/
def Silent {α : Type} (m : Method α) : Prop :=
  ∀ w, wp m w (fun _ t => Quiet w t) (fun _ t => Quiet w t)

namespace Silent

variable {α β : Type} {m : Method α} {f : α → Method β}

theorem pure (x : α) : Silent (pure x : Method α) := fun w => .refl w

theorem throw (e : JavaException) : Silent (throw e : Method α) := fun w => .refl w

theorem bind (hm : Silent m) (hf : ∀ x, Silent (f x)) : Silent (m >>= f) := by
  intro w
  rw [wp_bind]
  refine wp.mono (hm w) (fun x t ht => ?_) (fun _ _ ht => ht)
  exact wp.mono (hf x t) (fun _ _ hu => ht.trans hu) (fun _ _ hu => ht.trans hu)

theorem tryCatch {h : JavaException → Method α} (hm : Silent m) (hh : ∀ e, Silent (h e)) :
    Silent (tryCatch m h) := by
  intro w
  rw [wp_tryCatch]
  refine wp.mono (hm w) (fun _ _ ht => ht) (fun e t ht => ?_)
  exact wp.mono (hh e t) (fun _ _ hu => ht.trans hu) (fun _ _ hu => ht.trans hu)

theorem ite {c : Prop} [Decidable c] {n : Method α} (hm : c → Silent m) (hn : ¬ c → Silent n) :
    Silent (if c then m else n) := by
  by_cases h : c
  · rw [if_pos h]; exact hm h
  · rw [if_neg h]; exact hn h

theorem get : Silent (get : Method World) := fun w => .refl w

theorem readServer (c : ConnRef) : Silent (readServer c) := fun w => (wp_readServer c).mpr (.refl w)

theorem checkState (b : Bool) : Silent (checkState b) := fun w =>
  (wp_checkState b).mpr ⟨fun _ => .refl w, fun _ => .refl w⟩

theorem nonNull (x : Option α) : Silent (nonNull x) := fun w =>
  (wp_nonNull x).mpr ⟨fun _ _ => .refl w, fun _ => .refl w⟩

theorem note {e : Event} (he : e.neutral = true) : Silent (note e) := fun w =>
  (wp_note e).mpr (.note w he)

/-- An assignment to fields no property reads. -/
theorem modify {f : World → World} (hf : ∀ w, Quiet w (f w)) : Silent (modify f : Method Unit) :=
  fun w => hf w

/-- A silent method does effects of any kind that has the quiet ones. -/
theorem follows {R : World → World → Prop} (hm : Silent m) (hR : ∀ w w', Quiet w w' → R w w')
    (w : World) : Follows R m w :=
  wp.mono (hm w) (fun _ t ht => .single (hR w t ht)) (fun _ t ht => .single (hR w t ht))

end Silent

theorem saveNow_silent : Silent (saveNow p) := fun w =>
  wp.mono (saveNow_spec w) (fun _ _ h => h ▸ .refl w) (fun _ _ h => h.1 ▸ .refl w)

theorem addOrGetExistingExtension_silent : Silent (addOrGetExistingExtension p) := by
  refine .bind .get fun w => .ite (fun _ => ?_) fun _ => .pure _
  exact .bind (.modify fun w => .of_eq rfl rfl rfl rfl rfl rfl (fun _ => rfl) rfl)
    fun _ => saveNow_silent

theorem receivePending_silent (tx : Transaction) : Silent (receivePending p env tx) := by
  refine .bind .get fun w => .ite (fun _ => ?_) fun _ => .pure _
  exact .bind (.modify fun w => .of_eq rfl rfl rfl rfl rfl rfl id rfl) fun _ => saveNow_silent

theorem putAddress_silent (address : Address) (c : ConnRef) : Silent (putAddress address c) :=
  .bind (.modify fun _ => .of_eq rfl rfl rfl rfl rfl rfl id rfl) fun _ => .note rfl

theorem removeAddress_silent (address : Address) (c : ConnRef) : Silent (removeAddress address c) :=
  .bind (.modify fun _ => .of_eq rfl rfl rfl rfl rfl rfl id rfl) fun _ => .note rfl

theorem watchAddress_silent (address : Address) (c : ConnRef) :
    Silent (watchAddress p address c) := by
  refine .bind .get fun w => ?_
  cases w.addressConnectionMap.lookup address with
  | none => exact .bind saveNow_silent fun _ => putAddress_silent address c
  | some existing =>
    refine .ite (fun _ => ?_) fun _ => .pure _
    exact .bind (putAddress_silent address c) fun _ => saveNow_silent

theorem stopWatching_silent (address : Option Address) (c : ConnRef) :
    Silent (stopWatching p address c) := by
  cases address with
  | none => exact .pure _
  | some a =>
    refine .bind .get fun w => .ite (fun _ => ?_) fun _ => .pure _
    exact .bind saveNow_silent fun _ => removeAddress_silent a c

theorem sendToClient_silent (c : ConnRef) {m : ServerMessage}
    (hm : (Event.sent c m).neutral = true) : Silent (sendToClient p c m) :=
  .bind (.checkState _) fun _ => .note hm

theorem stopWatchingAddress_silent (c : ConnRef) : Silent (stopWatchingAddress p c) := by
  refine .bind (.readServer c) fun sv => .bind (.nonNull _) fun version => ?_
  exact .ite (fun _ => stopWatching_silent _ c) fun _ =>
    .ite (fun _ => stopWatching_silent _ c) fun _ => .pure _

theorem destroyConnection_silent (c : ConnRef) (reason : CloseReason) :
    Silent (destroyConnection p c reason) :=
  .bind (.note rfl) fun _ => stopWatchingAddress_silent c

theorem callback_silent (which : Callback) : Silent (callback env which) := by
  unfold callback
  cases env.callbackThrows which with
  | none => exact .pure _
  | some e => exact .throw e

theorem paymentIncrease_silent (c : ConnRef) (amount total : Coin) (info : Option Bytes) :
    Silent (paymentIncrease env c amount total info) :=
  .bind (.note rfl) fun _ => callback_silent _

theorem error_silent (c : ConnRef) (message : Option String) (code : ErrorCode)
    (reason : CloseReason) : Silent (error p c message code reason) :=
  .bind (.nonNull _) fun _ => .bind (sendToClient_silent c rfl) fun _ =>
    destroyConnection_silent c reason

theorem serverClose_silent (c : ConnRef) : Silent (serverClose p c) := by
  refine .bind (.readServer c) fun sv => .ite (fun _ => ?_) fun _ => .pure _
  exact .bind (sendToClient_silent c rfl) fun _ => destroyConnection_silent c _

/-! ## Effects of the handlers -/

theorem Effect.quiet {a : Env × Action} {w w' : World} (h : Quiet w w') :
    Effect p start a w w' :=
  .closing (.settling (.quiet h))

/-- The worlds the effects of an action lead to. -/
abbrev Path (p : Platform) (start : World) (a : Env × Action) : World → World → Prop :=
  ReflTransGen (Effect p start a)

/-! ## What every effect keeps -/

/-- The history only grows. -/
theorem Effect.mem_trace {a : Env × Action} {w w' : World} (h : Effect p start a w w') {e : Event}
    (he : e.neutral = false) (hmem : e ∈ w.trace) : e ∈ w'.trace := by
  cases h with
  | closing h => exact h.mem_trace he hmem
  | stored | takenOver => exact List.mem_cons_of_mem _ (List.mem_cons_of_mem _ hmem)
  | accepted | connectionClosed | expirySet | stepped | refundSigned | channelStored | handlerSet
  | resumed | channelOpened | keyNoted | updateApplied | credited | opened =>
    exact List.mem_cons_of_mem _ hmem
  | _ => exact hmem

theorem World.accept_channelState (w : World) (s : StateRef) (h : Sha256Hash) (v : Coin)
    (sig : Bytes) (r : ChannelRef) :
    ((w.accept s h v sig).channels.read r).state = (w.channels.read r).state := by
  unfold World.accept
  dsimp only
  split <;> simp

@[simp] theorem World.disconnect_servers (w : World) (c : ConnRef) :
    (w.disconnect p c).servers =
      w.servers.modify c fun sv => { sv with connectionOpen := false } := rfl

@[simp] theorem World.disconnect_states (w : World) (c : ConnRef) :
    (w.disconnect p c).states = w.states := rfl

@[simp] theorem World.disconnect_mapChannels (w : World) (c : ConnRef) :
    (w.disconnect p c).mapChannels = w.mapChannels := rfl

@[simp] theorem World.disconnect_channels_next (w : World) (c : ConnRef) :
    (w.disconnect p c).channels.next = w.channels.next := by
  unfold World.disconnect
  dsimp only
  split <;> rfl

/-- Disconnecting changes only handlers of the records. -/
theorem World.disconnect_field {α : Type} (w : World) (c : ConnRef) (r : ChannelRef)
    (f : StoredServerChannel → α)
    (hf : ∀ ch : StoredServerChannel, f { ch with connectedHandler := none } = f ch) :
    f ((w.disconnect p c).channels.read r) = f (w.channels.read r) := by
  unfold World.disconnect
  dsimp only
  split
  · rfl
  · exact w.channels.field_modify _ r f hf

theorem Effect.allocated {a : Env × Action} {w w' : World} (h : Effect p start a w w')
    (ha : Allocated w) : Allocated w' := by
  cases h with
  | closing h => exact h.allocated ha
  | accepted s pay =>
    refine ⟨fun s' r hs => ha.tied s' r ?_, fun r s' hr => ha.state r s' ?_, ha.server⟩
    · simpa [World.accept] using hs
    · rwa [World.accept_channelState] at hr
  | serverAdded =>
    refine ⟨ha.tied, ha.state, fun c s hs => ?_⟩
    by_cases heq : c = w.servers.next
    · subst heq; simp at hs
    · exact ha.server c s (by simpa [Heap.read_alloc_ne _ _ heq] using hs)
  | refundStarted c msg =>
    refine ⟨fun s r hs => ?_, fun r s hr => Nat.lt_succ_of_lt (ha.state r s hr),
      fun c' s hs => ?_⟩
    · by_cases heq : s = w.states.next
      · subst heq; simp at hs
      · exact Nat.lt_succ_of_lt (ha.tied s r (by simpa [Heap.read_alloc_ne _ _ heq] using hs))
    · by_cases heq : c' = c
      · subst heq
        have hs : w.states.next = s := by simpa using hs
        exact hs ▸ Nat.lt_succ_self _
      · exact Nat.lt_succ_of_lt (ha.server c' s (by simpa [Heap.read_modify_ne _ _ heq] using hs))
  | stored c s _ _ hstoring =>
    have hc := hstoring.state
    refine ⟨fun s' r hs => ?_, fun r s' hr => ?_, ha.server⟩
    · by_cases heq : s' = s
      · exact heq ▸ ha.server c s hc
      · exact ha.tied s' r (by simpa [World.store, Heap.read_modify_ne _ _ heq] using hs)
    · by_cases heq : r = w.channels.next
      · have hr : s = s' := by simpa [World.store, heq] using hr
        exact hr ▸ ha.server c s hc
      · exact ha.state r s' (by simpa [World.store, Heap.read_alloc_ne _ _ heq] using hr)
  | connectionClosed c =>
    refine ⟨ha.tied, fun r s hr => ha.state r s ?_, fun c' s hs => ha.server c' s ?_⟩
    · rwa [w.disconnect_field c r (·.state) fun _ => rfl] at hr
    · simpa using hs
  | takenOver c _ r s _ _ _ hr =>
    refine ⟨ha.tied, fun r' s' hr' => ha.state r' s' (by simpa using hr'), fun c' s' hs => ?_⟩
    by_cases heq : c' = c
    · subst heq
      have hs : s = s' := by simpa using hs
      exact hs ▸ ha.state r s hr
    · exact ha.server c' s' (by simpa [Heap.read_modify_ne _ _ heq] using hs)
  | resumed c _ r s _ _ hr =>
    refine ⟨ha.tied, ha.state, fun c' s' hs => ?_⟩
    by_cases heq : c' = c
    · subst heq
      have hs : s = s' := by simpa using hs
      exact hs ▸ ha.state r s hr
    · exact ha.server c' s' (by simpa [Heap.read_modify_ne _ _ heq] using hs)
  | _ =>
    exact ⟨fun s r hs => ha.tied s r (by simpa using hs),
      fun r s hr => ha.state r s (by simpa using hr), fun c s hs => ha.server c s (by simpa using hs)⟩

theorem Path.allocated {a : Env × Action} {w t : World} (h : Path p start a w t)
    (ha : Allocated w) : Allocated t := by
  induction h with
  | refl => exact ha
  | tail _ hstep ih => exact hstep.allocated ih

theorem Path.mem_trace {a : Env × Action} {w t : World} (h : Path p start a w t) {e : Event}
    (he : e.neutral = false) (hmem : e ∈ w.trace) : e ∈ t.trace := by
  induction h with
  | refl => exact hmem
  | tail _ hstep ih => exact hstep.mem_trace he ih

theorem Closing.serversNext {w w' : World} (h : Closing p env w w') :
    w'.servers.next = w.servers.next := by
  cases h with
  | settling h =>
    cases h with
    | quiet hq => exact hq.serversNext
    | deducted | settled | closedEarly => rfl
  | _ => rfl

theorem Effect.serversNext_le {a : Env × Action} {w w' : World} (h : Effect p start a w w') :
    w.servers.next ≤ w'.servers.next := by
  cases h with
  | closing h => exact le_of_eq h.serversNext.symm
  | serverAdded => exact Nat.le_succ _
  | _ =>
    exact le_rfl

theorem Path.serversNext_le {a : Env × Action} {w t : World} (h : Path p start a w t) :
    w.servers.next ≤ t.servers.next := by
  induction h with
  | refl => exact le_rfl
  | tail _ hstep ih => exact ih.trans hstep.serversNext_le

section Rules

variable {a : Env × Action} {w t : World} {α : Type} {Q : α → World → Prop}

/-- A silent method on a path stays on it. -/
theorem Silent.wp {m : Method α} (hm : Silent m) (hp : Path p start a w t)
    (hQ : ∀ x u, Quiet t u → Path p start a w u → Q x u) :
    wp m t Q (fun _ u => Path p start a w u) :=
  wp.mono (hm t) (fun x u hu => hQ x u hu (hp.tail (.quiet hu)))
    (fun _ _ hu => hp.tail (.quiet hu))

theorem wp_setStep {c : ConnRef} {st : InitStep} {Q : Unit → World → Prop}
    {E : JavaException → World → Prop} :
    Lib.wp (setStep c st) t Q E ↔ Q () { t with
      servers := t.servers.modify c fun sv => { sv with step := st }
      trace := .stepped c st :: t.trace } := by
  simp only [setStep, wp_bind, wp_modifyServer, wp_note]

theorem wp_setExpireTime {c : ConnRef} {now secs : Int} {Q : Unit → World → Prop}
    {E : JavaException → World → Prop} :
    Lib.wp (setExpireTime c now secs) t Q E ↔ Q () { t with
      servers := t.servers.modify c fun sv =>
        { sv with expireTime := addLong now (sv.window.truncate secs) }
      trace := .expirySet c now :: t.trace } := by
  simp only [setExpireTime, wp_bind, wp_modifyServer, wp_note]

end Rules

theorem sendInitiate_follows {a : Env × Action} (w : World) (c : ConnRef)
    (hst : ∀ u, Quiet w u → Stepping p start a u c .waitingOnUnsignedRefund) :
    Lib.wp (sendInitiate p c) w
      (fun _ t => Path p start a w t ∧ (t.servers.read c).step = .waitingOnUnsignedRefund)
      (fun _ t => Path p start a w t) := by
  simp only [sendInitiate, wp_bind, wp_readServer]
  refine (sendToClient_silent c rfl).wp .refl fun _ u hu hpath => ?_
  rw [wp_setStep]
  exact ⟨hpath.tail (.stepped u c _ (hst u hu)), by simp⟩

theorem acknowledgeFunding_follows (w : World) (c : ConnRef) (tx : Transaction)
    (hc : c < w.servers.next) :
    Lib.wp (acknowledgeFunding p env c (w.servers.read c) tx) w
      (fun _ t => Path p start (env, act) w t ∧ (t.servers.read c).step = (w.servers.read c).step)
      (fun _ t => Path p start (env, act) w t) := by
  simp only [acknowledgeFunding, sendToClient, wp_bind, wp_orThrow, wp_modifyServer, wp_nonNull,
    wp_ite, wp_throw, wp_checkState, wp_note]
  refine ⟨fun amountSpent _ => ?_, fun _ _ => .refl⟩
  have hq : Quiet w { w with servers := w.servers.modify c fun sv =>
      { sv with totalSent := addLong (w.servers.read c).totalSent amountSpent } } :=
    .server w c rfl
  have hpath : Path p start (env, act) w _ := .single (.quiet hq)
  refine ⟨fun client hclient => ⟨fun _ => hpath, fun _ => ⟨fun _ => ?_, fun _ => hpath⟩⟩,
    fun _ => hpath⟩
  have hprice := (hq.maxPrice c).trans (by rw [hclient, Option.map_some])
  have hpath := hpath.tail (.keyNoted _ _ (.acknowledged c client.maxPrice amountSpent hc hprice))
  refine ⟨fun amount _ => ⟨fun total _ => ?_, fun _ _ => hpath⟩, fun _ _ => hpath⟩
  refine (paymentIncrease_silent c _ _ _).wp hpath fun _ t ht hpath => ⟨hpath, ?_⟩
  rw [ht.step c]
  exact hq.step c

theorem sendFunding_follows (w : World) (c : ConnRef) (tx : Transaction)
    (hc : c < w.servers.next)
    (hst : ∀ version, (w.servers.read c).clientVersion = some version →
      version.minor = browserMicropaymentsMinorVersion →
      incInt (w.servers.read c).numFundingSent < 2 →
      ∀ u, Quiet w u → Stepping p start (env, act) u c .waitingOnUnsignedRefund) :
    Lib.wp (sendFunding p env c tx) w
      (fun _ t => Path p start (env, act) w t ∧
        ((t.servers.read c).step = (w.servers.read c).step ∨
          (t.servers.read c).step = .waitingOnUnsignedRefund))
      (fun _ t => Path p start (env, act) w t) := by
  simp only [sendFunding, wp_bind, wp_readServer, wp_nonNull, wp_ite]
  refine ⟨fun version hv => ⟨fun _ => ?_, fun _ => ⟨fun hminor => ?_, fun _ => ⟨.refl, .inl rfl⟩⟩⟩,
    fun _ => .refl⟩
  · exact wp.mono (acknowledgeFunding_follows w c tx hc)
      (fun _ _ h => ⟨h.1, .inl h.2⟩) (fun _ _ h => h)
  · simp only [forwardFunding, wp_bind]
    refine (sendToClient_silent c rfl).wp .refl fun _ u hu hpath => ?_
    simp only [wp_modifyServer, wp_ite, wp_pure]
    have hq := hu.trans (.server u c (f := fun sv =>
      { sv with numFundingSent := incInt (w.servers.read c).numFundingSent }) rfl)
    have hpath : Path p start (env, act) w _ := .single (.quiet hq)
    refine ⟨fun hnum => ?_, fun _ => ⟨hpath, .inl (hq.step c)⟩⟩
    refine wp.mono (sendInitiate_follows _ c fun v hv' =>
        hst version hv hminor hnum v (hq.trans hv')) ?_ ?_
    · exact fun _ v hv' => ⟨hpath.trans hv'.1, .inr hv'.2⟩
    · exact fun _ v hv' => hpath.trans hv'

theorem receiveFundingAddress_follows (w : World) (c : ConnRef) (msg : TwoWayChannelMessage)
    (hc : c < w.servers.next) :
    Follows (Effect p start (env, act)) (receiveFundingAddress p env c msg) w := by
  simp only [Follows, receiveFundingAddress, wp_bind, wp_readServer, wp_nonNull, wp_modifyServer,
    wp_checkState, decide_eq_true_eq]
  refine ⟨fun client hclient => ?_, fun _ => .refl⟩
  have hprice : Quiet w { w with servers := w.servers.modify c fun sv =>
      { sv with client := some { client with negotiatedPrice := client.maxPrice } } } := by
    refine .server w c ?_
    simp [PaymentChannelServer.core, hclient]
  refine ⟨fun hstep => ⟨fun text _ => ?_, fun _ => .single (.quiet hprice)⟩,
    fun _ => .single (.quiet hprice)⟩
  rw [wp_setStep]
  have hpath : Path p start (env, act) w _ := .tail (.single (.quiet hprice))
    (.stepped _ c _ (.fundingAddress ((hprice.step c).trans hstep.1)))
  cases p.parseAddress text with
  | error message => exact hpath
  | ok address =>
    simp only [wp_bind, wp_modifyServer]
    refine (watchAddress_silent address c).wp
      (hpath.tail (.quiet (.server _ c rfl))) fun _ u hu hpath => ?_
    simp only [wp_orThrow]
    refine ⟨fun txs _ => ?_, fun _ _ => hpath⟩
    -- every transaction sent leaves the connection waiting for the refund
    have hloop := wp_forM (s := u) (f := sendFunding p env c) (E := fun _ t =>
        Path p start (env, act) w t)
      (I := fun t => Path p start (env, act) w t ∧
        (t.servers.read c).step = .waitingOnUnsignedRefund) txs ?_ ⟨hpath, ?_⟩
    · exact wp.mono hloop (fun _ _ h => h.1) (fun _ _ h => h)
    · rintro tx - t ⟨ht, hstep'⟩
      refine wp.mono (sendFunding_follows t c tx (lt_of_lt_of_le hc ht.serversNext_le)
        fun _ _ _ _ v hv => .initiateAgain ((hv.step c).trans hstep')) ?_
        (fun _ _ h => ht.trans h)
      rintro _ v ⟨hv, hsame | hinit⟩
      · exact ⟨ht.trans hv, hsame.trans hstep'⟩
      · exact ⟨ht.trans hv, hinit⟩
    · rw [hu.step c]
      simp

/-! ### CLIENT_VERSION -/

theorem offerChannel_follows (w : World) (c : ConnRef) (msg : TwoWayChannelMessage)
    (version : ClientVersion) (ha : act = .input (.message c msg))
    (hv : msg.clientVersion = some version) (hc : c < w.servers.next)
    (hstep : (w.servers.read c).step = .waitingOnClientVersion)
    (hkey : (w.servers.read c).myKey = (start.servers.read c).myKey)
    (happ : version.minor = appMinorVersion → AppVersion start c msg version) :
    Follows (Effect p start (env, act)) (offerChannel p env c version) w := by
  simp only [Follows, offerChannel, sendToClient, wp_bind, wp_setExpireTime, wp_readServer,
    wp_nonNull, wp_checkState, wp_note, wp_ite, wp_modifyServer, wp_setStep, wp_pure]
  have hpath : Path p start (env, act) w _ :=
    .single (.expirySet w c msg version env.now ha hv (.inl rfl) hc)
  refine ⟨fun client hclient => ⟨fun _ => ?_, fun _ => hpath⟩, fun _ => hpath⟩
  have hpath := hpath.tail (.keyNoted _ _ (.announced c client.maxPrice hc (by rw [hclient]; rfl)))
  refine ⟨fun hminor => ?_, fun _ => ⟨fun _ => ?_, fun _ => ⟨fun _ => ?_, fun _ => hpath⟩⟩⟩
  · refine saveNow_silent.wp
      (hpath.tail (.keyChanged _ c msg version ha (happ hminor) (by simpa using hkey)))
      fun _ v hv' hpath => ?_
    have hc : c < v.servers.next := hv'.serversNext ▸ hc
    have hpath := hpath.tail (.expirySet v c msg version env.later ha hv (.inr rfl) hc)
    refine wp.mono (sendInitiate_follows _ c fun x hx =>
        .version _ (by decide) (hx.serversNext ▸ hc) ?_)
      (fun _ _ h => hpath.trans h.1) (fun _ _ h => hpath.trans h)
    rw [hx.step c]
    simp [hv'.step c, hstep]
  · exact hpath.tail (.stepped _ c _ (.version _ (by decide) hc (by simpa using hstep)))
  · refine (watchAddress_silent _ c).wp ?_ fun _ _ _ h => h
    exact hpath.tail (.stepped _ c _ (.version _ (by decide) hc (by simpa using hstep)))

/-- `getOrCreateState` stays on the path. -/
theorem getOrCreateState_path {a : Env × Action} {w t : World} (r : ChannelRef)
    (hp : Path p start a w t) {Q : StateRef → World → Prop}
    (hQ : ∀ s u, Path p start a w u → Q s u) :
    Lib.wp (getOrCreateState p r) t Q (fun _ u => Path p start a w u) := by
  simp only [getOrCreateState, wp_bind, wp_readChannel]
  cases hr : (t.channels.read r).state with
  | some s => exact hQ s t hp
  | none =>
    refine wp.mono (restoreState_spec t r) ?_ (fun _ _ ht => ht ▸ hp)
    rintro s u ⟨rfl, T, hT, rfl⟩
    exact hQ _ _ (hp.tail (.closing (.restored t r T hr hT)))

theorem connChannelOpen_follows {w t : World} (c : ConnRef) (s : StateRef) (h : Sha256Hash)
    (hp : Path p start (env, act) w t)
    (hopen : Opening p start (env, act) t c s h) (hstep : (t.servers.read c).step = .channelOpen)
    {Q : Unit → World → Prop} (hQ : ∀ u, Path p start (env, act) w u → Q () u) :
    Lib.wp (connChannelOpen p env c h) t Q (fun _ u => Path p start (env, act) w u) := by
  simp only [connChannelOpen, wp_bind, wp_note]
  refine (callback_silent _).wp (hp.tail (.channelOpened t c s h hopen hstep)) fun _ u hu hp => ?_
  simp only [getChannel, wp_bind, wp_get, wp_pure]
  cases u.mapChannels.lookup h with
  | none => exact hQ u hp
  | some r =>
    simp only [wp_bind, getRefundTransactionUnlockTime]
    refine getOrCreateState_path r hp fun s v hv => ?_
    simp only [wp_readState, wp_checkState, wp_pure]
    exact ⟨fun _ => hQ v hv, fun _ => hv⟩

/-- The world in which `c` has become the handler of `r`. -/
def World.setHandler (w : World) (c : ConnRef) (r : ChannelRef) : World :=
  { w with
    channels := w.channels.modify r fun ch => { ch with connectedHandler := some c }
    trace := .driven c r :: w.trace }

/-- After bookkeeping, `c` is the handler or becomes it. -/
theorem takeOver_spec (w : World) (c : ConnRef) (r : ChannelRef) :
    Lib.wp (takeOver p c r) w
      (fun _ t => ∃ u, Quiet w u ∧
        ((u.channels.read r).connectedHandler = some c ∧ t = u ∨ t = u.setHandler c r))
      (fun _ t => Quiet w t) := by
  simp only [takeOver, wp_bind]
  cases hr : (w.channels.read r).connectedHandler with
  | none =>
    rw [wp_setConnectedHandler (.inl hr)]
    simp only [wp_pure, ne_eq, not_true_eq_false, if_false]
    exact ⟨w, .refl w, .inr rfl⟩
  | some existing =>
    rw [wp_setConnectedHandler_busy hr]
    simp only [wp_pure, wp_ite, wp_bind, wp_note]
    refine ⟨fun _ => ?_, fun heq => ⟨w, .refl w, .inl ⟨by rw [hr, not_not.mp heq], rfl⟩⟩⟩
    have hnote : Quiet w { w with trace := .superseded existing r :: w.trace } := .note w rfl
    refine wp.mono (serverClose_silent existing _) (fun _ u hu => ?_) (fun _ u hu => hnote.trans hu)
    rw [wp_setConnectedHandler (.inr rfl)]
    exact ⟨u, hnote.trans hu, .inr rfl⟩

/-- What the resumed connection is told. -/
theorem resumed_follows {w v : World} (c : ConnRef) (h : Sha256Hash) (r : ChannelRef)
    (s : StateRef) (hp : Path p start (env, act) w v)
    (hres : Resuming start (env, act) c h r) (hm : v.mapChannels.lookup h = some r)
    (hr : (v.channels.read r).state = some s) (hc : (v.servers.read c).state = some s)
    (hstep : (v.servers.read c).step = .channelOpen) :
    Lib.wp (do
        sendToClient p c .channelOpen
        connChannelOpen p env c h
        let _ ← nonNull (← readServer c).client
        note (.reloadedChannel c)
        callback env .setReloadedChannel) v
      (fun _ t => Path p start (env, act) w t) (fun _ t => Path p start (env, act) w t) := by
  simp only [wp_bind]
  refine (sendToClient_silent c rfl).wp hp fun _ u hu hp => ?_
  refine connChannelOpen_follows c s h hp
    (.resumed h r hres (hu.mapChannels ▸ hm) (hu.channels ▸ hr) ((hu.serverState c).trans hc))
    ((hu.step c).trans hstep) fun x hp => ?_
  simp only [wp_readServer, wp_nonNull, wp_note]
  refine ⟨fun client _ => ?_, fun _ => hp⟩
  exact (callback_silent _).wp (hp.tail (.quiet (.note x rfl))) fun _ _ _ h => h

theorem resumeChannel_follows (w : World) (c : ConnRef) (h : Sha256Hash) (r : ChannelRef)
    (hres : Resuming start (env, act) c h r)
    (hm : w.mapChannels.lookup h = some r) (hch : w.channels = start.channels)
    (hopen : (w.servers.read c).connectionOpen = true)
    (hstep : (w.servers.read c).step = .waitingOnClientVersion) :
    Follows (Effect p start (env, act)) (resumeChannel p env c h r) w := by
  simp only [Follows, resumeChannel, wp_bind]
  refine wp.mono (takeOver_spec w c r) ?_ (fun _ _ ht => .single (.quiet ht))
  rintro _ t ⟨u, hq, ht⟩
  have hpath : Path p start (env, act) w u := .single (.quiet hq)
  have hm := hq.mapChannels ▸ hm
  have hch := hq.channels.trans hch
  have hopen := (hq.connectionOpen c).trans hopen
  have hstep := (hq.step c).trans hstep
  simp only [getOrCreateState, wp_bind, wp_readChannel]
  cases hr : (u.channels.read r).state with
  | some s =>
    have hrt : (t.channels.read r).state = some s := by
      rcases ht with ⟨-, rfl⟩ | rfl
      · exact hr
      · simpa [World.setHandler] using hr
    rw [hrt]
    simp only [wp_pure, wp_modifyServer, wp_setStep, Heap.modify_modify]
    rcases ht with ⟨hhandler, rfl⟩ | rfl
    · have he : Effect p start (env, act) t _ :=
        .resumed t c h r s hres hm hr hhandler hopen hstep
      simpa only [wp_bind] using
        resumed_follows c h r s (hpath.tail he) hres hm hr (by simp) (by simp)
    · have he : Effect p start (env, act) u _ :=
        .takenOver u c h r s hres hm hch hr hopen hstep
      simpa only [wp_bind, World.setHandler] using
        resumed_follows c h r s (hpath.tail he) hres hm hrt (by simp) (by simp)
  | none =>
    -- the state is rebuilt after the handler is set
    obtain ⟨hpt, hmt, hhandler, hservers, hrt⟩ : Path p start (env, act) w t ∧
        t.mapChannels = u.mapChannels ∧ (t.channels.read r).connectedHandler = some c ∧
        t.servers = u.servers ∧ (t.channels.read r).state = none := by
      rcases ht with ⟨hhandler, rfl⟩ | rfl
      · exact ⟨hpath, rfl, hhandler, rfl, hr⟩
      · have he : Effect p start (env, act) u _ := .handlerSet u c h r hres hm hch hr hopen
        exact ⟨hpath.tail he, rfl, by simp [World.setHandler], rfl,
          by simpa [World.setHandler] using hr⟩
    rw [hrt]
    refine wp.mono (restoreState_spec t r) ?_ (fun _ _ ht => ht ▸ hpt)
    rintro s v ⟨rfl, T, hT, rfl⟩
    have he : Effect p start (env, act) t _ := .closing (.restored t r T hrt hT)
    simp only [wp_modifyServer, wp_setStep, Heap.modify_modify]
    have hrv : ((t.restore r T).channels.read r).state = some t.states.next := by
      simp [World.restore]
    have he' : Effect p start (env, act) (t.restore r T) _ :=
      .resumed _ c h r _ hres (hmt ▸ hm) hrv (by simpa [World.restore] using hhandler)
        (hservers ▸ hopen) (hservers ▸ hstep)
    simpa only [wp_bind] using
      resumed_follows c h r _ ((hpt.tail he).tail he') hres (hmt ▸ hm) hrv (by simp) (by simp)

theorem resumedChannel_eq_some {w : World} {version : ClientVersion} {h : Sha256Hash}
    {r : ChannelRef} (hres : resumedChannel w version = some (h, r)) :
    version.previousChannelContractHash = h.bytes ∧ w.mapChannels.lookup h = some r := by
  simp only [resumedChannel] at hres
  split at hres
  · obtain ⟨r', hr', heq⟩ := Option.map_eq_some_iff.mp hres
    cases heq
    exact ⟨rfl, hr'⟩
  · cases hres

theorem Quiet.resumedChannel_eq_none {w w' : World} (h : Quiet w w') {version : ClientVersion}
    (hres : resumedChannel w' version = none) : resumedChannel w version = none := by
  simp only [resumedChannel] at hres ⊢
  by_cases hext : version.previousChannelContractHash.length = 32 ∧ w.extensionInstalled = true
  · rw [if_pos ⟨hext.1, h.installed hext.2⟩, h.mapChannels] at hres
    rw [if_pos hext, hres]
  · rw [if_neg hext]

theorem receiveVersionMessage_follows (w : World) (c : ConnRef) (msg : TwoWayChannelMessage)
    (hstart : w = start) (ha : act = .input (.message c msg))
    (hty : msg.type = .clientVersion) (hc : c < w.servers.next)
    (hopen : (w.servers.read c).connectionOpen = true) :
    Follows (Effect p start (env, act)) (receiveVersionMessage p env c msg) w := by
  simp only [Follows, receiveVersionMessage, wp_bind, wp_readServer, wp_checkState, wp_nonNull,
    wp_modifyServer, wp_ite, decide_eq_true_eq]
  refine ⟨fun hstep => ⟨fun version hv => ?_, fun _ => .refl⟩, fun _ => .refl⟩
  have hq : Quiet w { w with servers := w.servers.modify c fun sv =>
      { sv with clientVersion := some version } } := .server w c rfl
  have hpath : Path p start (env, act) w _ := .single (.quiet hq)
  refine ⟨fun _ => (error_silent c _ _ _).wp hpath fun _ _ _ h => h, fun hmajor => ?_⟩
  refine (sendToClient_silent c rfl).wp hpath fun _ u hu hpath => ?_
  have hq := hq.trans hu
  have hstepu : (u.servers.read c).step = .waitingOnClientVersion := (hq.step c).trans hstep.1
  simp only [wp_get]
  cases hres : resumedChannel u version with
  | none =>
    refine (offerChannel_follows u c msg version ha hv (hq.serversNext ▸ hc) hstepu
      (hstart ▸ hq.myKey c) fun hminor => ?_).after hpath
    exact ⟨hty, hv, not_not.mp hmajor, hminor, hstart ▸ hstep.1,
      hstart ▸ hq.resumedChannel_eq_none hres⟩
  | some hr =>
    obtain ⟨h, r⟩ := hr
    obtain ⟨hbytes, hm⟩ := resumedChannel_eq_some hres
    have hm' : start.mapChannels.lookup h = some r := by rw [← hstart, ← hq.mapChannels, hm]
    refine (resumeChannel_follows u c h r ?_ hm (hstart ▸ hq.channels)
      ((hq.connectionOpen c).trans hopen) hstepu).after hpath
    exact ⟨⟨msg, version, ha, hty, hv, hbytes⟩, hm', hstart ▸ hstep.1, hstart ▸ hopen⟩

/-! ### PROVIDE_REFUND and PROVIDE_CONTRACT -/

/-- A refund that passes the checks is not locked too short. -/
theorem le_lockTime_of_checkRefund {m : Int} {tx : Transaction} {output : TransactionOutput}
    (h : checkRefund p m tx = .ok output) : m ≤ tx.lockTime.toNat := by
  by_contra hlt
  have hlt : (tx.lockTime.toNat : Int) < m := Int.not_le.mp hlt
  revert h
  simp only [checkRefund, bind, Except.bind]
  split
  · intro h; cases h
  · split <;> split <;> simp [hlt]

/-- The output that is kept is the first. -/
theorem output0_of_checkRefund {m : Int} {tx : Transaction} {output : TransactionOutput}
    (h : checkRefund p m tx = .ok output) : tx.output0 = .ok output := by
  revert h
  unfold Transaction.output0
  simp only [checkRefund, bind, Except.bind]
  repeat' split
  all_goals simp_all [pure, Except.pure]

theorem provideRefundTransaction_follows {w t : World} (c : ConnRef) (s : StateRef)
    (tx : Transaction) (pub : Bytes)
    (hs : (t.states.read s).state = .waitingForRefundTransaction)
    (hc : (t.servers.read c).state = some s) (htx : RefundOf p (env, act) c tx)
    (hpub : pub.length ≤ maxMessageSize)
    (hsent : ∀ output, tx.output0 = .ok output → Received p.toBitcoinj output)
    (hp : Path p start (env, act) w t) :
    Lib.wp (provideRefundTransaction p s tx pub) t
      (fun _ u => Path p start (env, act) w u ∧ u.servers = t.servers ∧
        (u.states.read s).state = .waitingForMultisigContract)
      (fun _ u => Path p start (env, act) w u) := by
  simp only [provideRefundTransaction, wp_bind, wp_readState, wp_checkState, wp_orThrow,
    wp_modifyState]
  refine ⟨fun _ => ⟨fun output hout => ?_, fun _ _ => hp⟩, fun _ => hp⟩
  have hp := hp.tail (.unlockSet t c s tx hs htx)
  cases p.pointError pub with
  | some msg => exact hp
  | none =>
    simp only [wp_pure, wp_bind, wp_modifyState, wp_orThrow, wp_get, wp_set, wp_note]
    have hp := hp.tail (.keysSet _ s pub (by simpa using hs) hpub)
    simp only [Heap.read_modify_self] at hp
    refine ⟨fun sig _ => ⟨hp.tail (.refundSigned _ c s tx output ⟨by simpa using hs, htx, hc,
      by simp, ?_, ECKey.fromPublicOnly pub, by simp, by simp⟩
      (hsent output (output0_of_checkRefund hout))), trivial, by simp⟩, fun _ _ => hp⟩
    simpa using le_lockTime_of_checkRefund hout

theorem receiveRefundMessage_follows (w : World) (c : ConnRef) (msg : TwoWayChannelMessage)
    (hstart : w = start) (ha : act = .input (.message c msg)) (hty : msg.type = .provideRefund)
    (hsize : msg.contentSize ≤ maxMessageSize) (hc : c < w.servers.next)
    (hopen : (w.servers.read c).connectionOpen = true) :
    Follows (Effect p start (env, act)) (receiveRefundMessage p c msg) w := by
  simp only [Follows, receiveRefundMessage, newState, wp_bind, wp_checkState, wp_nonNull,
    wp_readServer, wp_get, wp_set, wp_pure, wp_modifyServer, wp_orThrow]
  refine ⟨fun _ => ⟨fun provided hprov => ?_, fun _ => .refl⟩, fun _ => .refl⟩
  have hpath : Path p start (env, act) w _ :=
    .single (.refundStarted w c msg ha hty hc hopen hstart)
  have hshort : provided.multisigKey.length + provided.tx.length ≤ maxMessageSize := by
    simp only [TwoWayChannelMessage.contentSize, hprov, Option.elim] at hsize
    omega
  refine ⟨fun tx htx => ?_, fun _ _ => hpath⟩
  refine wp.mono (provideRefundTransaction_follows c _ tx _ (by simp) (by simp)
    ⟨msg, provided, ha, hty, hprov, htx⟩ (le_of_add_le_left hshort)
    (fun output houtput => ⟨provided.tx, tx, output, le_of_add_le_right hshort, htx, houtput,
      .inl rfl⟩) hpath) ?_ (fun _ _ h => h)
  rintro sig u ⟨hpath, hservers, hs⟩
  simp only [wp_readState, wp_note, wp_setStep]
  have hpath := hpath.tail (.keyNoted u _ (.used c _ (by simp [hservers]) hs))
  refine (sendToClient_silent c rfl).wp (hpath.tail (.stepped _ c _ (.refund msg ha hty ?_ ?_)))
    fun _ _ _ h => h
  · exact hservers ▸ hc
  · simp [hservers, hstart]

theorem provideMultiSigContract_follows {w t : World} (c : ConnRef) (s : StateRef)
    (tx : Transaction) (provided : ProvideContract)
    (hc : (t.servers.read c).state = some s)
    (hstep : (t.servers.read c).step = .waitingOnMultisigAcceptance)
    (htx : ContractOf p (env, act) c provided tx) (hp : Path p start (env, act) w t) :
    Lib.wp (provideMultiSigContract p s tx c provided) t
      (fun _ u => Path p start (env, act) w u) (fun _ u => Path p start (env, act) w u) := by
  simp only [provideMultiSigContract, wp_bind, wp_readState, wp_checkState, wp_orThrow,
    wp_modifyState, decide_eq_true_eq]
  refine ⟨fun hs => ⟨fun _ hverify => ?_, fun _ _ => hp⟩, fun _ => hp⟩
  have hp := hp.tail (.contractGiven t c s provided tx hs hc hstep htx)
  refine ⟨fun output houtput => ?_, fun _ _ => hp⟩
  cases hparse : p.scriptError output.script.program with
  | some msg => exact hp
  | none =>
    simp only [wp_bind, wp_nonNull, wp_note, wp_ite, wp_throw, wp_orThrow, wp_modifyState]
    have hused := hp.tail (.keyNoted _ _ (.used c s hc (by simpa using hs)))
    simp only [Heap.read_modify_self] at hused
    refine ⟨fun clientKey hkey => ⟨fun _ => hused, fun hscript => ⟨fun v hv => ?_,
      fun _ _ => hused⟩⟩, fun _ => hp⟩
    have hp := hused.tail (.totalSet _ s tx output v (by simpa using hs) (by simp) houtput hv)
    refine ⟨fun _ => hp, fun hpos => ?_⟩
    simp only [broadcastTransaction, wp_modify]
    refine hp.tail (.contractBroadcast _ c s provided tx ⟨by simpa using hs, hc, hstep, htx, hverify,
      by simp, output, v, clientKey, houtput, hv, by simp, Int.not_le.mp hpos, hparse, ?_, ?_⟩)
    · simpa using hkey
    · simpa using not_not.mp hscript

theorem receiveContractMessage_follows (w : World) (c : ConnRef) (msg : TwoWayChannelMessage)
    (ha : act = .input (.message c msg)) (hty : msg.type = .provideContract) :
    Follows (Effect p start (env, act)) (receiveContractMessage p c msg) w := by
  simp only [Follows, receiveContractMessage, wp_bind, wp_readServer, wp_checkState, wp_nonNull,
    wp_orThrow, decide_eq_true_eq]
  refine ⟨fun hstep => ⟨fun provided hprov => ⟨fun tx htx => ?_, fun _ _ => .refl⟩,
    fun _ => .refl⟩, fun _ => .refl⟩
  rw [wp_setStep]
  have hpath : Path p start (env, act) w _ := .single (.stepped w c _ (.contract hstep.1))
  refine ⟨fun s hs => ?_, fun _ => hpath⟩
  exact provideMultiSigContract_follows c s tx provided (by simpa using hs) (by simp)
    ⟨msg, ha, hty, hprov, htx⟩ hpath

end BitMesh.Channels
