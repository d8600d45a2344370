import BitMesh.Channels.Paying
import BitMesh.Lib.Transition

/-!
# Every run is a run of effects

The completion of a contract's broadcast, which stores and opens the
channel, and the switch over messages and inputs. At the end, the worlds
a run leads to are visited by effects.
-/

namespace BitMesh.Channels

open BitMesh.Bitcoin BitMesh.Lib Relation

variable {p : Platform} {env : Env} {act : Action} {start : World}

/-! ## The completion of a contract's broadcast -/

/-- `t` is where the completion of the broadcast `b` stores the channel of
the connection's state `s`. -/
structure Propagating (start : World) (a : Env × Action) (c : ConnRef) (s : StateRef)
    (provided : ProvideContract) (b : Nat) (success : Bool) (s' : StateRef) (t : World) : Prop where
  completing : Completing start a b success s' c provided
  connected : (t.servers.read c).connectionOpen = true
  state : (t.servers.read c).state = some s
  startState : (start.servers.read c).state = some s
  startConnected : (start.servers.read c).connectionOpen = true
  stored : (t.states.read s).storedServerChannel = (start.states.read s).storedServerChannel
  contract : (t.states.read s).multisigContract = (start.states.read s).multisigContract
  totalValue : (t.states.read s).totalValue = (start.states.read s).totalValue
  best : (t.states.read s).bestValueToMe = (start.states.read s).bestValueToMe
  history : t.history = start.history

theorem Propagating.quiet {a : Env × Action} {c : ConnRef} {s s' : StateRef}
    {provided : ProvideContract} {b : Nat} {success : Bool} {t u : World}
    (h : Propagating start a c s provided b success s' t) (hq : Quiet t u) :
    Propagating start a c s provided b success s' u where
  completing := h.completing
  connected := (hq.connectionOpen c).trans h.connected
  state := (hq.serverState c).trans h.state
  startState := h.startState
  startConnected := h.startConnected
  stored := (hq.stored s).trans h.stored
  contract := (hq.contract s).trans h.contract
  totalValue := (hq.totalValue s).trans h.totalValue
  best := (hq.best s).trans h.best
  history := hq.history.trans h.history

theorem Propagating.setState {a : Env × Action} {c : ConnRef} {s s' : StateRef}
    {provided : ProvideContract} {b : Nat} {success : Bool} {t : World}
    (h : Propagating start a c s provided b success s' t) (s₂ : StateRef) (st₂ : State) :
    Propagating start a c s provided b success s'
      { t with states := t.states.modify s₂ fun st => { st with state := st₂ } } :=
  { h with
    stored := by simpa using h.stored
    contract := by simpa using h.contract
    totalValue := by simpa using h.totalValue
    best := by simpa using h.best }

theorem schedule_silent (r : ChannelRef) (date : Int) : Silent (schedule r date) := by
  refine .ite (fun _ => .throw _) fun _ => .bind .get fun w => .ite (fun _ => .throw _) fun _ => ?_
  exact .modify fun w => .of_eq rfl rfl rfl rfl rfl rfl id rfl

/-- After the map is written, `putChannel` only keeps books. -/
theorem putChannel_spec (t : World) (r : ChannelRef) (h : Sha256Hash)
    (hh : p.getHash (t.channels.read r).contract = h) :
    Lib.wp (putChannel p env r) t
      (fun _ u => Quiet { t with
        mapChannels := t.mapChannels.insert h r, trace := .stored h r :: t.trace } u)
      (fun _ u => Quiet { t with
        mapChannels := t.mapChannels.insert h r, trace := .stored h r :: t.trace } u) := by
  subst hh
  simp only [putChannel, getChannel, wp_bind, wp_readChannel, wp_tryCatch, wp_get, wp_pure,
    wp_modify, wp_note, wp_checkArgument, wp_ite, wp_throw]
  have hupd : ∀ u, Quiet _ u → Lib.wp (updatedChannel p) u
      (fun _ v => Quiet { t with
        mapChannels := t.mapChannels.insert (p.getHash (t.channels.read r).contract) r
        trace := .stored (p.getHash (t.channels.read r).contract) r :: t.trace } v)
      (fun _ v => Quiet { t with
        mapChannels := t.mapChannels.insert (p.getHash (t.channels.read r).contract) r
        trace := .stored (p.getHash (t.channels.read r).contract) r :: t.trace } v) :=
    fun u hu => wp.mono (updatedChannel_quiet u) (fun _ _ h => hu.trans h) (fun _ _ h => hu.trans h)
  refine ⟨fun _ => ?_, fun _ => ⟨fun _ => hupd _ (.refl _), fun _ => .refl _⟩⟩
  refine wp.mono (schedule_silent r _ _) (fun _ u hu => hupd u hu) (fun e u hu => ?_)
  exact ⟨fun _ => hupd u hu, fun _ => hu⟩

theorem storeChannelInWallet_follows {w t : World} {c : ConnRef} {s s' : StateRef}
    {provided : ProvideContract} {b : Nat} {success : Bool}
    (h : Propagating start (env, act) c s provided b success s' t)
    (hp : Path p start (env, act) w t) :
    Lib.wp (storeChannelInWallet p env s c) t
      (fun _ u => Path p start (env, act) w u ∧ SameServers t u ∧
        (u.states.read s).state = .ready ∧ (u.states.read s).storedServerChannel.isSome ∧
        (u.states.read s).totalValue = (start.states.read s).totalValue ∧
        (u.states.read s).bestValueToMe = (start.states.read s).bestValueToMe)
      (fun _ u => Path p start (env, act) w u) := by
  simp only [storeChannelInWallet, wp_bind, wp_readState, wp_checkState, wp_ite, wp_pure,
    wp_nonNull, decide_eq_true_eq]
  refine ⟨fun hready => ⟨fun hs => ⟨hp, fun _ => rfl, hready, hs, h.totalValue, h.best⟩,
    fun hs => ⟨fun contract hcontract => ?_, fun _ => hp⟩⟩, fun _ => hp⟩
  refine addOrGetExistingExtension_silent.wp hp fun _ u hu hp => ?_
  have hprop := h.quiet hu
  have hfree : (u.states.read s).storedServerChannel = none := by
    rw [hu.stored s]; simpa using hs
  simp only [wp_get, wp_set, wp_modifyState]
  refine ⟨fun o ho => ?_, fun _ => hp⟩
  have hstoring : Storing start (env, act) u c s contract o :=
    { completing := ⟨b, success, s', provided, hprop.completing⟩
      ready := (hu.state_eq s).trans hready
      free := hfree
      contract_eq := (hu.contract s).trans hcontract
      output := (hu.clientOutput s).trans ho
      connected := hprop.connected
      state := hprop.state
      startState := hprop.startState
      startFree := hprop.stored.symm.trans hfree
      startContract := h.contract.symm.trans hcontract
      startConnected := hprop.startConnected
      history := hprop.history }
  have hstored := Effect.stored (p := p) u c s contract o hstoring
  rw [wp_setConnectedHandler (.inl (by simp))]
  simp only [World.store, hu.unlock s, hu.serverKey s, hu.best s, hu.signature s] at hstored
  refine wp.mono (putChannel_spec _ _ (p.getHash contract) (by simp)) ?_ ?_ <;>
    simp only [Heap.modify_alloc_new]
  · intro _ v hv
    refine ⟨(hp.tail hstored).tail (.quiet hv), fun c' => ?_, ?_, ?_, ?_, ?_⟩
    · exact (hv.servers c').trans (hu.servers c')
    · rw [hv.state_eq s]; simpa [hu.state_eq s] using hready
    · rw [hv.stored s]; simp
    · rw [hv.totalValue s]; simpa using hprop.totalValue
    · rw [hv.best s]; simpa using hprop.best
  · exact fun _ v hv => (hp.tail hstored).tail (.quiet hv)

theorem multisigContractPropogated_follows {w t : World} {c : ConnRef} {s' : StateRef}
    {provided : ProvideContract} {b : Nat} {success : Bool} (hat : Allocated w)
    (h : ∀ s, (t.servers.read c).connectionOpen = true → (t.servers.read c).state = some s →
      Propagating start (env, act) c s provided b success s' t)
    (hstep : (t.servers.read c).step = (start.servers.read c).step)
    (hp : Path p start (env, act) w t) :
    Lib.wp (multisigContractPropogated p env c provided
        (p.getHash (start.broadcasts.read b).tx)) t
      (fun _ u => Path p start (env, act) w u) (fun _ u => Path p start (env, act) w u) := by
  simp only [multisigContractPropogated, wp_bind, wp_readServer, wp_ite, wp_pure, wp_nonNull,
    wp_note]
  refine ⟨fun _ => hp, fun hopen => ⟨fun s hs => ?_, fun _ => hp⟩⟩
  have hprop := h s (by simpa using (not_or.mp hopen).1) hs
  refine wp.mono (storeChannelInWallet_follows hprop hp) ?_ (fun _ _ h => h)
  rintro _ u ⟨hp, hsame, hready, hsome, htotal, hbest⟩
  have hp := hp.tail (.channelStored u s hready hsome)
  have hmem : Event.channelStored s ∈ (Event.channelStored s :: u.trace) := List.mem_cons_self ..
  simp only [wp_tryCatch, wp_bind, wp_ite, wp_pure, wp_throw]
  refine wp.mono (receiveUpdatePaymentMessage_follows start act _ c s provided.initialPayment
    (Path.allocated hp hat) ((hsame.state c).trans hprop.state) hbest
    fun v hv => .inr (.inl ?_)) ?_ ?_
  · exact (hv.mem_trace rfl).mpr hmem
  · rintro _ v ⟨hv, hsame', T, value, hash, hT, hvalue, hacc⟩
    have hp := hp.trans hv
    have hmem := Path.mem_trace hv rfl hmem
    have hsame := hsame.trans hsame'
    refine (sendToClient_silent c rfl).wp hp fun _ x hx hp => ?_
    have hcx : (x.servers.read c).state = some s := by
      rw [hx.serverState c, hsame.state c, hprop.state]
    have hmem := (hx.mem_trace rfl).mpr hmem
    simp only [wp_setStep]
    have hp := hp.tail (.opened x c s provided T value
      ⟨⟨b, success, s', hprop.completing⟩, hcx, hprop.startState, hmem, htotal.symm.trans hT,
        ⟨hash, (hx.mem_trace rfl).mpr hacc⟩, hvalue⟩)
    have hopening : ∀ y : World, (y.servers.read c).state = some s → .channelStored s ∈ y.trace →
        Opening p start (env, act) y c s (p.getHash (start.broadcasts.read b).tx) := fun y hy hm =>
      .propagated b success s' provided hprop.completing hy hprop.startState hm
    have hp := hp.tail (.stepped _ c .channelOpen (.opening s _
      (hopening _ hcx (List.mem_cons_of_mem _ hmem)) ?_))
    · exact connChannelOpen_follows c s _ hp
        (hopening _ (by simpa using hcx)
          (List.mem_cons_of_mem _ (List.mem_cons_of_mem _ hmem))) (by simp) fun _ h => h
    · rw [← hstep, hx.step c, hsame.step c]
  · intro e v hv
    have hp := hp.trans hv
    exact ⟨fun _ => (error_silent c _ _ _).wp hp fun _ _ _ h => h, fun _ => hp⟩

theorem contractBroadcastDone_follows (c : ConnRef) (s : StateRef) (provided : ProvideContract)
    (b : Nat) (success : Bool) (hat : Allocated start)
    (hb : Completing start (env, act) b success s c provided) :
    Lib.wp (contractBroadcastDone p env (start.broadcasts.read b).tx s c provided success)
      (start.complete b) (fun _ u => Path p start (env, act) start u)
      (fun _ u => Path p start (env, act) start u) := by
  have hp : Path p start (env, act) start (start.complete b) :=
    .single (.completed start b success hb.input hb.allocated hb.pending rfl)
  -- the listener runs on whatever state the connection has by now
  have hlistener : ∀ t, Quiet (start.complete b) t → Path p start (env, act) start t →
      Lib.wp (multisigContractPropogated p env c provided (p.getHash (start.broadcasts.read b).tx))
        { t with states := t.states.modify s fun st =>
          { st with state := if success then .ready else .error } }
        (fun _ u => Path p start (env, act) start u)
        (fun _ u => Path p start (env, act) start u) := by
    intro t ht hp
    have hp := hp.tail (.contractDone t b success s c provided hb ht)
    have hprop : ∀ s₁, (t.servers.read c).connectionOpen = true →
        (t.servers.read c).state = some s₁ →
        Propagating start (env, act) c s₁ provided b success s t := fun s₁ hopen hs₁ =>
      ⟨hb, hopen, hs₁, (ht.serverState c).symm.trans hs₁, (ht.connectionOpen c).symm.trans hopen,
        ht.stored s₁, ht.contract s₁, ht.totalValue s₁, ht.best s₁, ht.history⟩
    exact multisigContractPropogated_follows hat
      (fun s₁ hopen hs₁ => (hprop s₁ hopen hs₁).setState s _) (ht.step c) hp
  simp only [contractBroadcastDone, swallow, wp_tryCatch, wp_pure]
  cases success with
  | true =>
    simp only [if_true, wp_bind, wp_modifyState] at hlistener ⊢
    exact (receivePending_silent _).wp hp fun _ t ht hp => hlistener t ht hp
  | false =>
    simp only [Bool.false_eq_true, if_false, wp_bind, wp_modifyState] at hlistener ⊢
    exact hlistener _ (.refl _) hp

theorem failClosedFuture_silent (s : StateRef) : Silent (failClosedFuture p s) := by
  intro w
  simp only [failClosedFuture, wp_bind, wp_readState, wp_ite, wp_modifyState, wp_pure]
  refine ⟨fun _ => ?_, fun _ => .refl w⟩
  refine wp_forM (I := fun u => Quiet w u) _ (fun cb _ u hu => ?_) (.state w s rfl)
  refine wp.mono (Silent.tryCatch (destroyConnection_silent cb.1 cb.2) (fun _ => .pure _) u) ?_ ?_
  · exact fun _ _ h => hu.trans h
  · exact fun _ _ h => hu.trans h

theorem setClosedFuture_silent (s : StateRef) (tx : Option Transaction) :
    Silent (setClosedFuture s tx) := fun w => setClosedFuture_quiet w s tx

theorem settlementBroadcastDone_follows (s : StateRef) (b : Nat) (success : Bool)
    (ha : act = .input (.broadcastDone b success)) (hb : b < start.broadcasts.next)
    (hpending : (start.broadcasts.read b).completed = false)
    (hpurpose : (start.broadcasts.read b).purpose = .settlement s) :
    Lib.wp (settlementBroadcastDone p (start.broadcasts.read b).tx s success)
      (start.complete b) (fun _ u => Path p start (env, act) start u)
      (fun _ u => Path p start (env, act) start u) := by
  have hp : Path p start (env, act) start (start.complete b) :=
    .single (.completed start b success ha hb hpending rfl)
  have hp := hp.tail (.settlementDone _ b success s ha hb hpurpose rfl)
  cases success with
  | true =>
    simp only [settlementBroadcastDone, if_true, wp_bind, wp_modifyState]
    exact (setClosedFuture_silent s _).wp hp fun _ _ _ h => h
  | false =>
    simp only [settlementBroadcastDone, Bool.false_eq_true, if_false, wp_bind, wp_modifyState]
    exact (failClosedFuture_silent s).wp hp fun _ _ _ h => h

theorem broadcastDone_follows (b : Nat) (success : Bool) (hat : Allocated start)
    (ha : act = .input (.broadcastDone b success)) :
    Follows (Effect p start (env, act)) (broadcastDone p env b success) start := by
  simp only [Follows, broadcastDone, wp_bind, wp_get, wp_ite, wp_set, wp_pure]
  refine ⟨?_, fun _ => .refl⟩
  rintro ⟨hb, hpending⟩
  have hpending : (start.broadcasts.read b).completed = false := by simpa using hpending
  cases hpurpose : (start.broadcasts.read b).purpose with
  | contract s c provided =>
    exact contractBroadcastDone_follows c s provided b success hat ⟨ha, hb, hpending, hpurpose⟩
  | settlement s => exact settlementBroadcastDone_follows s b success ha hb hpending hpurpose

/-! ## Messages and connections -/

theorem handleMessage_follows (c : ConnRef) (msg : TwoWayChannelMessage) (hat : Allocated start)
    (ha : act = .input (.message c msg)) (hsize : msg.contentSize ≤ maxMessageSize)
    (hc : c < start.servers.next)
    (hopen : (start.servers.read c).connectionOpen = true) :
    Follows (Effect p start (env, act)) (handleMessage p env c msg) start := by
  unfold handleMessage
  cases hty : msg.type with
  | clientVersion => exact receiveVersionMessage_follows start c msg rfl ha hty hc hopen
  | fundingAddress => exact receiveFundingAddress_follows start c msg hc
  | provideRefund => exact receiveRefundMessage_follows start c msg rfl ha hty hsize hc hopen
  | provideContract => exact receiveContractMessage_follows start c msg ha hty
  | close => exact receiveCloseMessage_follows start c hat
  | updatePayment =>
    simp only [Follows, wp_bind, wp_readServer, wp_checkState, wp_nonNull, wp_note,
      decide_eq_true_eq]
    refine ⟨fun hstep => ⟨fun payment _ => ⟨fun s hs => ?_, fun _ => .refl⟩, fun _ => .refl⟩,
      fun _ => .refl⟩
    have hp : Path p start (env, act) start _ := .single (.updateApplied start c s hstep.1 hs)
    refine wp.mono (receiveUpdatePaymentMessage_follows start act _ c s payment
      (Path.allocated hp hat) hs rfl fun u hu => .inl ⟨c, ?_, ?_⟩)
      (fun _ _ h => hp.trans h.1) (fun _ _ h => hp.trans h)
    · exact (hu.step c).trans hstep.1
    · exact (hu.serverState c).trans hs
  | error =>
    refine (Silent.bind (.checkState _) fun _ => destroyConnection_silent c _).follows ?_ start
    exact fun _ _ => .quiet
  | _ =>
    exact (error_silent c _ _ _).follows (fun _ _ => .quiet) start

theorem receiveMessage_follows (c : ConnRef) (msg : TwoWayChannelMessage) (hat : Allocated start)
    (ha : act = .input (.message c msg)) (hsize : msg.contentSize ≤ maxMessageSize)
    (hc : c < start.servers.next) :
    Follows (Effect p start (env, act)) (receiveMessage p env c msg) start := by
  simp only [Follows, receiveMessage, wp_bind, wp_readServer, wp_checkState, wp_ite, wp_pure]
  refine ⟨fun hopen => ⟨fun _ => .refl, fun _ => ?_⟩, fun _ => .refl⟩
  refine (handleMessage_follows c msg hat ha hsize hc hopen).tryCatch fun e u _ => ?_
  cases answerTo e with
  | some code => exact (error_silent c _ _ _).follows (fun _ _ => .quiet) u
  | none => exact .pure _

theorem connectionClosed_follows (c : ConnRef) (ha : act = .input (.connectionClosed c))
    (hc : c < start.servers.next) :
    Follows (Effect p start (env, act)) (connectionClosed p c) start := by
  have hp : Path p start (env, act) start (start.disconnect p c) :=
    .single (.connectionClosed start c ha hc rfl)
  simp only [Follows, connectionClosed, wp_bind, wp_modifyServer, wp_note, wp_readServer]
  simp only [World.disconnect, World.handled] at hp
  simp only [Heap.read_modify_self]
  cases hs : (start.servers.read c).state with
  | none => simpa [hs] using hp
  | some s =>
    simp only [wp_bind, wp_readState]
    cases hcontract : (start.states.read s).multisigContract with
    | none => simpa [hs, hcontract] using hp
    | some contract =>
      simp only [getChannel, wp_bind, wp_get, wp_pure, wp_ite]
      refine ⟨fun hext => ?_, fun hext => by simpa [hs, hcontract, hext] using hp⟩
      cases hm : start.mapChannels.lookup (p.getHash contract) with
      | none => simpa [hs, hcontract, hext, hm] using hp
      | some r =>
        simp only [clearConnectedHandler, wp_modifyChannel]
        simpa [hs, hcontract, hext, hm] using hp

theorem autoClose_follows (r : ChannelRef) (hat : Allocated start) :
    Follows (Effect p start (env, act)) (autoClose p env r) start := by
  simp only [Follows, autoClose, wp_bind, wp_get]
  split
  · rename_i task _ _
    simp only [wp_bind, wp_set, wp_tryCatch, wp_modify]
    have hq : Quiet start { start with timers := start.timers.erase task } :=
      .of_eq rfl rfl rfl rfl rfl rfl id rfl
    have hp : Path p start (env, act) start _ := .single (.quiet hq)
    refine wp.mono (closeChannel_follows _ r (hq.allocated hat)) ?_ ?_
    · exact fun _ u hu => hp.trans (Closing.path_effect hu)
    · exact fun _ u hu => (hp.trans (Closing.path_effect hu)).tail
        (.quiet (.of_eq rfl rfl rfl rfl rfl rfl id rfl))
  · exact .refl

/-! ## Runs -/

/-- Whatever an input runs is a path of effects. -/
theorem perform_follows (i : Input) (hat : Allocated start) :
    Follows (Effect p start (env, .input i)) (perform p env i) start := by
  cases i with
  | newServer size window =>
    simp only [Follows, perform, newServer, wp_bind]
    refine saveNow_silent.wp .refl fun _ u _ hp => ?_
    simp only [wp_get, wp_set, wp_pure]
    exact hp.tail (.serverAdded u size window env.freshKey rfl)
  | connectionOpen c client =>
    simp only [Follows, perform, wp_bind, wp_get, wp_ite, wp_modifyServer, wp_pure]
    refine ⟨?_, fun _ => .refl⟩
    rintro ⟨hc, hnone⟩
    exact .single (.connectionOpened start c client rfl hc (by simpa using hnone))
  | message c msg =>
    simp only [Follows, perform, wp_bind, wp_get, wp_ite, wp_pure]
    exact ⟨fun hc => receiveMessage_follows c msg hat rfl hc.2 hc.1, fun _ => .refl⟩
  | funding c tx =>
    simp only [Follows, perform, wp_bind, wp_get, wp_ite, wp_pure]
    refine ⟨fun hc => ?_, fun _ => .refl⟩
    refine wp.mono (sendFunding_follows start c tx hc fun version hv hminor hnum u hu =>
      .funding tx version rfl hv hminor hnum (hu.serversNext ▸ hc) (hu.step c))
      (fun _ _ h => h.1) (fun _ _ h => h)
  | broadcastDone b success => exact broadcastDone_follows b success hat rfl
  | autoClose r => exact autoClose_follows r hat
  | connectionClosed c =>
    simp only [Follows, perform, wp_bind, wp_get, wp_ite, wp_pure]
    exact ⟨fun hc => connectionClosed_follows c rfl hc, fun _ => .refl⟩
  | serverClose c =>
    simp only [Follows, perform, wp_bind, wp_get, wp_ite, wp_pure]
    exact ⟨fun _ => (serverClose_silent c).wp .refl fun _ _ _ h => h, fun _ => .refl⟩
  | confidence h confidence =>
    exact .single (.quiet (.of_eq rfl rfl rfl rfl rfl rfl id rfl))

/-- Whatever an action runs is a path of effects. -/
theorem Action.perform_follows (a : Action) (hat : Allocated start) :
    Follows (Effect p start (env, a)) (a.perform p env) start := by
  cases a with
  | input i => exact Channels.perform_follows i hat
  | incrementPayment s refundSize sig =>
    simp only [Follows, Action.perform, wp_bind, wp_pure]
    exact wp.mono (incrementPayment_follows s refundSize sig .refl hat fun _ _ =>
      .inr (.inr ⟨refundSize, sig, rfl⟩)) (fun _ _ h => h.1) (fun _ _ h => h)
  | close s =>
    simp only [Follows, Action.perform, wp_bind, wp_pure]
    exact wp.mono (close_spec start s hat) (fun _ _ h => Closing.path_effect h.path)
      (fun _ _ h => Closing.path_effect h.path)
  | closeChannel r => exact (closeChannel_follows start r hat).weaken fun _ _ h => .closing h

/-- The worlds the effects of a run come by whose actions meet `ok`. -/
abbrev Passed (p : Platform) (ok : World → Env × Action → Prop) (autosave : Bool) :
    World → Prop :=
  Visited (Effect p) ok (World.initial autosave)

/-- The worlds a run of inputs that meet `ok` leads to. -/
abbrev Reached (p : Platform) (ok : World → Env × Input → Prop) (autosave : Bool) :
    World → Prop :=
  Reaches (World.next p) ok (World.initial autosave)

/-- A condition on inputs, as one on actions: nothing but inputs occurs. -/
def OnInputs (ok : World → Env × Input → Prop) (w : World) (a : Env × Action) : Prop :=
  ∃ i, a.2 = .input i ∧ ok w (a.1, i)

theorem Allocated.initial (autosave : Bool) : Allocated (World.initial autosave) :=
  ⟨fun _ _ h => (nomatch h), fun _ _ h => (nomatch h), fun _ _ h => (nomatch h)⟩

theorem Passed.allocated {ok : World → Env × Action → Prop} {autosave : Bool} {w : World}
    (h : Passed p ok autosave w) : Allocated w :=
  Visited.invariant (.initial autosave) (fun _ _ _ _ _ _ _ _ ht he => he.allocated ht) h

/-- A run of actions passes through the worlds it reaches. -/
theorem Passed.of_after {ok : World → Env × Action → Prop} {autosave : Bool} {w : World}
    (h : Reaches (World.after p) ok (World.initial autosave) w) : Passed p ok autosave w :=
  Visited.of_reaches (fun _ a hs => (a.2.perform_follows (Passed.allocated hs)).finalState) h

theorem Reached.passed {ok : World → Env × Input → Prop} {autosave : Bool} {w : World}
    (h : Reached p ok autosave w) : Passed p (OnInputs ok) autosave w :=
  .of_after (Reaches.map (fun i : Env × Input => (i.1, .input i.2)) (fun _ _ => rfl)
    (fun _ i hi => ⟨i.2, rfl, hi⟩) h)

end BitMesh.Channels
