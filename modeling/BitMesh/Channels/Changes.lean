import BitMesh.Channels.Steps

/-!
# What an effect changes

For each thing the properties speak of, the effects that change it. The
invariants are proved from these lemmas and look at few effects each.
-/

namespace BitMesh.Channels

open BitMesh.Bitcoin BitMesh.Lib Relation

variable {p : Platform} {env : Env} {start : World} {a : Env × Action} {w w' : World}

/-! ## The terms of a channel

Once the contract is broadcast, nothing changes what was negotiated: the
contract and its value, the keys, the client's output and the time the
refund unlocks. Only the payments and the state of the channel go on. -/

/-- The state is past the messages that set its terms. -/
def Bound (w : World) (s : StateRef) : Prop :=
  State.waitingForMultisigAcceptance.ordinal ≤ (w.states.read s).state.ordinal

theorem Bound.ne_refund {s : StateRef} (h : Bound w s) :
    (w.states.read s).state ≠ .waitingForRefundTransaction := by
  intro heq
  rw [Bound, heq] at h
  exact absurd h (by decide)

theorem Bound.ne_contract {s : StateRef} (h : Bound w s) :
    (w.states.read s).state ≠ .waitingForMultisigContract := by
  intro heq
  rw [Bound, heq] at h
  exact absurd h (by decide)

/-- `s` keeps its terms from `w` to `w'`, and stays bound by them. -/
structure KeepsTerms (w w' : World) (s : StateRef) : Prop where
  bound : Bound w' s
  terms : (w'.states.read s).terms = (w.states.read s).terms

/-- An assignment to `state`, or to fields that are no terms. -/
theorem KeepsTerms.assign {s : StateRef} (s' : StateRef)
    {f : PaymentChannelServerState → PaymentChannelServerState} (hs : Bound w s)
    (hw : w'.states = w.states.modify s' f) (hf : ∀ st, (f st).terms = st.terms)
    (hst : (∀ st, (f st).state = st.state) ∨
      ∃ x : State, State.waitingForMultisigAcceptance.ordinal ≤ x.ordinal ∧
        ∀ st, (f st).state = x) :
    KeepsTerms w w' s := by
  refine ⟨?_, by rw [hw, terms_modify _ _ _ hf]⟩
  rw [Bound, hw]
  by_cases heq : s = s'
  · subst heq
    rw [Heap.read_modify_self]
    rcases hst with h | ⟨x, hx, h⟩
    · rw [h]; exact hs
    · rw [h]; exact hx
  · rw [Heap.read_modify_ne _ _ heq]; exact hs

theorem KeepsTerms.of_read {s : StateRef} (hs : Bound w s)
    (h : w'.states.read s = w.states.read s) : KeepsTerms w w' s :=
  ⟨by rw [Bound, h]; exact hs, by rw [h]⟩

/-- An assignment to another state. -/
theorem KeepsTerms.other {s s' : StateRef}
    {f : PaymentChannelServerState → PaymentChannelServerState} (hs : Bound w s) (hne : s ≠ s')
    (hw : w'.states = w.states.modify s' f) : KeepsTerms w w' s :=
  .of_read hs (by rw [hw, Heap.read_modify_ne _ _ hne])

theorem Settling.keepsTerms (h : Settling p env w w') {s : StateRef} (hs : Bound w s) :
    KeepsTerms w w' s := by
  cases h with
  | quiet hq =>
    exact ⟨by rw [Bound, hq.state_eq s]; exact hs, hq.state_field s (·.terms) fun _ => rfl⟩
  | deducted s' => exact .assign s' hs rfl (fun _ => rfl) (.inl fun _ => rfl)
  | settled s' => exact .assign s' hs rfl (fun _ => rfl) (.inr ⟨.closing, by decide, fun _ => rfl⟩)
  | closedEarly s' =>
    exact .assign s' hs rfl (fun _ => rfl) (.inr ⟨.closed, by decide, fun _ => rfl⟩)

theorem Closing.keepsTerms (h : Closing p env w w') {s : StateRef} (hlt : s < w.states.next)
    (hs : Bound w s) : KeepsTerms w w' s := by
  cases h with
  | settling h => exact h.keepsTerms hs
  | called | removed | forgotten => exact .of_read hs rfl
  | untied s' | untiedRemoved s' => exact .assign s' hs rfl (fun _ => rfl) (.inl fun _ => rfl)
  | restored => exact .of_read hs (Heap.read_alloc_old _ _ hlt)

/-- The terms of a state that is bound do not change. -/
theorem Effect.keepsTerms (h : Effect p start a w w') {s : StateRef} (hlt : s < w.states.next)
    (hs : Bound w s) : KeepsTerms w w' s := by
  cases h with
  | closing h => exact h.keepsTerms hlt hs
  | accepted s' | stored _ s' => exact .assign s' hs rfl (fun _ => rfl) (.inl fun _ => rfl)
  | contractBroadcast _ s' =>
    exact .assign s' hs rfl (fun _ => rfl) (.inr ⟨_, le_rfl, fun _ => rfl⟩)
  | contractDone _ success s' | settlementDone _ success s' =>
    exact .assign s' hs rfl (fun _ => rfl) (.inr ⟨_, by cases success <;> decide, fun _ => rfl⟩)
  | refundStarted => exact .of_read hs (Heap.read_alloc_old _ _ hlt)
  -- the messages that set terms find their states in an earlier state
  | unlockSet _ s' _ hs' | keysSet s' _ hs' =>
    exact .other hs (fun heq => hs.ne_refund (heq ▸ hs')) rfl
  | refundSigned _ s' _ _ hs' => exact .other hs (fun heq => hs.ne_refund (heq ▸ hs'.state_eq)) rfl
  | contractGiven _ s' _ _ hs' | totalSet s' _ _ _ hs' =>
    exact .other hs (fun heq => hs.ne_contract (heq ▸ hs')) rfl
  | _ =>
    exact .of_read hs rfl

/-! ## Client outputs -/

theorem Settling.script (h : Settling p env w w') (o : OutputRef) :
    w'.outputs.next = w.outputs.next ∧
      (w'.outputs.read o).script = (w.outputs.read o).script := by
  cases h with
  | quiet hq => exact ⟨hq.outputsNext, hq.scripts o⟩
  | deducted | settled | closedEarly => exact ⟨rfl, rfl⟩

/-- A client's output keeps its script. -/
theorem Effect.script (h : Effect p start a w w') {o : OutputRef} (ho : o < w.outputs.next) :
    o < w'.outputs.next ∧ (w'.outputs.read o).script = (w.outputs.read o).script := by
  cases h with
  | closing h =>
    cases h with
    | settling h => exact ⟨(h.script o).1 ▸ ho, (h.script o).2⟩
    | _ => exact ⟨ho, rfl⟩
  | refundSigned =>
    exact ⟨Nat.lt_succ_of_lt ho, by rw [Heap.read_alloc_old _ _ ho]⟩
  | _ => exact ⟨ho, rfl⟩

/-! ## Records -/

theorem World.accept_terms (w : World) (s : StateRef) (h : Sha256Hash) (v : Coin) (sig : Bytes)
    (r : ChannelRef) : ((w.accept s h v sig).channels.read r).terms = (w.channels.read r).terms := by
  unfold World.accept
  dsimp only
  split <;> simp [StoredServerChannel.terms]

theorem World.accept_next (w : World) (s : StateRef) (h : Sha256Hash) (v : Coin) (sig : Bytes) :
    (w.accept s h v sig).channels.next = w.channels.next := by
  unfold World.accept
  dsimp only
  split <;> rfl

theorem Closing.channelTerms (h : Closing p env w w') (r : ChannelRef) :
    w'.channels.next = w.channels.next ∧
      (w'.channels.read r).terms = (w.channels.read r).terms := by
  cases h with
  | settling h => rw [h.channels]; exact ⟨rfl, rfl⟩
  | called | untied | untiedRemoved | removed => exact ⟨rfl, rfl⟩
  | restored | forgotten =>
    exact ⟨rfl, by simp [World.restore, StoredServerChannel.terms]⟩

/-- A record keeps what it was made with. -/
theorem Effect.channelTerms (h : Effect p start a w w') {r : ChannelRef}
    (hr : r < w.channels.next) :
    r < w'.channels.next ∧ (w'.channels.read r).terms = (w.channels.read r).terms := by
  cases h with
  | closing h => exact ⟨(h.channelTerms r).1 ▸ hr, (h.channelTerms r).2⟩
  | accepted => exact ⟨by rw [World.accept_next]; exact hr, World.accept_terms ..⟩
  | stored =>
    exact ⟨Nat.lt_succ_of_lt hr, by rw [World.store, Heap.read_alloc_old _ _ hr]⟩
  | connectionClosed c =>
    exact ⟨by simpa using hr, w.disconnect_field c r (·.terms) fun _ => rfl⟩
  | takenOver | handlerSet => exact ⟨hr, by simp [StoredServerChannel.terms]⟩
  | _ =>
    exact ⟨hr, rfl⟩

/-! ## Connections -/

/-- How a connection comes by its state: PROVIDE_REFUND makes one, and a
resumed channel has one. -/
inductive NewState (start : World) (a : Env × Action) (w w' : World) (c : ConnRef) :
    StateRef → Prop where
  | refund (msg : TwoWayChannelMessage) (ha : a.2 = .input (.message c msg))
      (hty : msg.type = .provideRefund) (hc : c < w.servers.next)
      (hopen : (w.servers.read c).connectionOpen = true) (hw : w = start)
      (hstep : (w'.servers.read c).step = (w.servers.read c).step)
      (hnew : w'.states.read w.states.next = {
        state := .waitingForRefundTransaction
        serverKey := (w.servers.read c).myKey
        minExpireTime := (w.servers.read c).expireTime }) :
      NewState start a w w' c w.states.next
  | resumed (h : Sha256Hash) (r : ChannelRef) (s : StateRef) (hres : Resuming start a c h r)
      (hm : w.mapChannels.lookup h = some r) (hr : (w.channels.read r).state = some s)
      (hhandler : (w'.channels.read r).connectedHandler = some c)
      (hopen : (w.servers.read c).connectionOpen = true)
      (hstep : (w.servers.read c).step = .waitingOnClientVersion)
      (hset : (w'.servers.read c).step = .channelOpen)
      (hsame : w'.states = w.states) : NewState start a w w' c s

theorem Settling.servers (h : Settling p env w w') (c : ConnRef) :
    (w'.servers.read c).core = (w.servers.read c).core := by
  cases h with
  | quiet hq => exact hq.servers c
  | deducted | settled | closedEarly => rfl

theorem Closing.servers (h : Closing p env w w') (c : ConnRef) :
    (w'.servers.read c).core = (w.servers.read c).core := by
  cases h with
  | settling h => exact h.servers c
  | _ => rfl

/-- A connection keeps its state until it is given a new one. -/
theorem Effect.serverState_cases (h : Effect p start a w w') (c : ConnRef) :
    (w'.servers.read c).state = (w.servers.read c).state ∨
      c = w.servers.next ∧ (w'.servers.read c).state = none ∨
      ∃ s, (w'.servers.read c).state = some s ∧ NewState start a w w' c s := by
  cases h with
  | closing h => exact .inl (h.serverState c)
  | serverAdded =>
    by_cases heq : c = w.servers.next
    · exact .inr (.inl ⟨heq, by simp [heq]⟩)
    · exact .inl (by simp [Heap.read_alloc_ne _ _ heq])
  | refundStarted c' msg ha hty hc hopen hw =>
    by_cases heq : c = c'
    · subst heq
      exact .inr (.inr ⟨_, by simp, .refund msg ha hty hc hopen hw (by simp) (by simp)⟩)
    · exact .inl (by simp [Heap.read_modify_ne _ _ heq])
  | takenOver c' h r s hres hm hch hr hopen hstep =>
    by_cases heq : c = c'
    · subst heq
      exact .inr (.inr ⟨s, by simp,
        .resumed h r s hres hm hr (by simp) hopen hstep (by simp) rfl⟩)
    · exact .inl (by simp [Heap.read_modify_ne _ _ heq])
  | resumed c' h r s hres hm hr hhandler hopen hstep =>
    by_cases heq : c = c'
    · subst heq
      exact .inr (.inr ⟨s, by simp, .resumed h r s hres hm hr hhandler hopen hstep (by simp) rfl⟩)
    · exact .inl (by simp [Heap.read_modify_ne _ _ heq])
  | accepted | stored => exact .inl rfl
  | _ =>
    exact .inl (by simp)

theorem Effect.serverState (h : Effect p start a w w') {c : ConnRef} {s : StateRef}
    (hs : (w'.servers.read c).state = some s) :
    (w.servers.read c).state = some s ∨ NewState start a w w' c s := by
  rcases h.serverState_cases c with hsame | ⟨-, hnone⟩ | ⟨s', hs', hnew⟩
  · exact .inl (hsame ▸ hs)
  · rw [hnone] at hs; cases hs
  · obtain rfl := Option.some.inj (hs.symm.trans hs')
    exact .inr hnew

/-- The step of a connection changes where `step` is assigned. -/
theorem Effect.step (h : Effect p start a w w') (c : ConnRef) :
    (w'.servers.read c).step = (w.servers.read c).step ∨
      c = w.servers.next ∧ (w'.servers.read c).step = .waitingOnClientVersion ∨
      Stepping p start a w c (w'.servers.read c).step ∧ w'.states = w.states ∧
        (w'.servers.read c).state = (w.servers.read c).state ∨
      (w.servers.read c).step = .waitingOnClientVersion ∧ (w'.servers.read c).step = .channelOpen ∧
        ∃ s, (w'.servers.read c).state = some s ∧ NewState start a w w' c s := by
  cases h with
  | closing h => exact .inl (congrArg (·.step) (h.servers c))
  | serverAdded =>
    by_cases heq : c = w.servers.next
    · exact .inr (.inl ⟨heq, by simp [heq]⟩)
    · exact .inl (by simp [Heap.read_alloc_ne _ _ heq])
  | stepped c' st hst =>
    by_cases heq : c = c'
    · subst heq; exact .inr (.inr (.inl ⟨by simpa using hst, rfl, by simp⟩))
    · exact .inl (by simp [Heap.read_modify_ne _ _ heq])
  | takenOver c' h r s hres hm hch hr hopen hstep =>
    by_cases heq : c = c'
    · subst heq
      exact .inr (.inr (.inr ⟨hstep, by simp, s, by simp,
        .resumed h r s hres hm hr (by simp) hopen hstep (by simp) rfl⟩))
    · exact .inl (by simp [Heap.read_modify_ne _ _ heq])
  | resumed c' h r s hres hm hr hhandler hopen hstep =>
    by_cases heq : c = c'
    · subst heq
      exact .inr (.inr (.inr ⟨hstep, by simp, s, by simp,
        .resumed h r s hres hm hr hhandler hopen hstep (by simp) rfl⟩))
    · exact .inl (by simp [Heap.read_modify_ne _ _ heq])
  | accepted | stored => exact .inl rfl
  | _ => exact .inl (by simp)

/-- A connection keeps its configuration. -/
theorem Effect.config (h : Effect p start a w w') {c : ConnRef}
    (hc : c < w.servers.next ∨ ∀ size window, a.2 ≠ .input (.newServer size window)) :
    (w'.servers.read c).window = (w.servers.read c).window ∧
      (w'.servers.read c).minAcceptedChannelSize = (w.servers.read c).minAcceptedChannelSize := by
  cases h with
  | closing h =>
    exact ⟨congrArg (·.window) (h.servers c), congrArg (·.minAcceptedChannelSize) (h.servers c)⟩
  | serverAdded size window key ha =>
    simp [Heap.read_alloc_old _ _ (hc.resolve_right fun hne => hne size window ha)]
  | accepted | stored => exact ⟨rfl, rfl⟩
  | _ => exact ⟨by simp, by simp⟩

/-- The time a channel expires is set by CLIENT_VERSION. -/
theorem Effect.expireTime (h : Effect p start a w w') {c : ConnRef} (hc : c < w.servers.next) :
    (w'.servers.read c).expireTime = (w.servers.read c).expireTime ∨
      ∃ msg version now, a.2 = .input (.message c msg) ∧ msg.clientVersion = some version ∧
        (now = a.1.now ∨ now = a.1.later) ∧ .expirySet c now ∈ w'.trace ∧
        (w'.servers.read c).expireTime =
          addLong now ((w.servers.read c).window.truncate version.timeWindowSecs) := by
  cases h with
  | closing h => exact .inl (congrArg (·.expireTime) (h.servers c))
  | serverAdded => exact .inl (by simp [Heap.read_alloc_old _ _ hc])
  | expirySet c' msg version now ha hv hnow =>
    by_cases heq : c = c'
    · subst heq
      exact .inr ⟨msg, version, now, ha, hv, hnow, List.mem_cons_self .., by simp⟩
    · exact .inl (by simp [Heap.read_modify_ne _ _ heq])
  | accepted | stored => exact .inl rfl
  | _ => exact .inl (by simp)

/-- A connection is given a key, which CLIENT_VERSION of an app replaces. -/
theorem Effect.myKey (h : Effect p start a w w') (c : ConnRef) :
    ((w'.servers.read c).myKey = (w.servers.read c).myKey ∧
        (c < w'.servers.next → c < w.servers.next)) ∨
      (∃ msg version, a.2 = .input (.message c msg) ∧ AppVersion start c msg version ∧
        (w.servers.read c).myKey = (start.servers.read c).myKey ∧
        (w'.servers.read c).myKey = ECKey.fromPrivate p.toBitcoinj a.1.freshKey) ∨
      c = w.servers.next ∧ ∃ key, (w'.servers.read c).myKey = ECKey.fromPrivate p.toBitcoinj key := by
  cases h with
  | closing h => exact .inl ⟨congrArg (·.myKey) (h.servers c), fun hc => h.serversNext ▸ hc⟩
  | serverAdded _ _ key =>
    by_cases heq : c = w.servers.next
    · exact .inr (.inr ⟨heq, key, by simp [heq]⟩)
    · exact .inl ⟨by simp [Heap.read_alloc_ne _ _ heq],
        fun hc => lt_of_le_of_ne (Nat.le_of_lt_succ hc) heq⟩
  | keyChanged c' msg version ha hv hkey =>
    by_cases heq : c = c'
    · subst heq
      exact .inr (.inl ⟨msg, version, ha, hv, hkey, by simp⟩)
    · exact .inl ⟨by simp [Heap.read_modify_ne _ _ heq], id⟩
  | accepted | stored => exact .inl ⟨rfl, id⟩
  | _ => exact .inl ⟨by simp, id⟩

/-- A connection that is open was, or is opened for the first time. -/
theorem Effect.connectionOpen (h : Effect p start a w w') {c : ConnRef}
    (hc : (w'.servers.read c).connectionOpen = true) :
    (w.servers.read c).connectionOpen = true ∨
      c < w.servers.next ∧ (w.servers.read c).client.isSome = false ∧
        (w'.servers.read c).client.isSome = true := by
  cases h with
  | closing h =>
    have hopen : (w'.servers.read c).connectionOpen = (w.servers.read c).connectionOpen :=
      congrArg (·.connectionOpen) (h.servers c)
    exact .inl (hopen ▸ hc)
  | serverAdded =>
    by_cases heq : c = w.servers.next
    · subst heq; simp at hc
    · exact .inl (by simpa [Heap.read_alloc_ne _ _ heq] using hc)
  | connectionOpened c' client _ hlt hnone =>
    by_cases heq : c = c'
    · subst heq; exact .inr ⟨hlt, hnone, by simp⟩
    · exact .inl (by simpa [Heap.read_modify_ne _ _ heq] using hc)
  | connectionClosed c' =>
    by_cases heq : c = c'
    · subst heq; simp at hc
    · exact .inl (by simpa [Heap.read_modify_ne _ _ heq] using hc)
  | accepted | stored => exact .inl hc
  | _ =>
    exact .inl (by simpa using hc)

/-- A connection stays open until it is closed. -/
theorem Effect.connected_kept (h : Effect p start a w w') {c : ConnRef} (hlt : c < w.servers.next)
    (hc : (w.servers.read c).connectionOpen = true) :
    (w'.servers.read c).connectionOpen = true ∨ w' = w.disconnect p c := by
  cases h with
  | closing h =>
    have hopen : (w'.servers.read c).connectionOpen = (w.servers.read c).connectionOpen :=
      congrArg (·.connectionOpen) (h.servers c)
    exact .inl (hopen.trans hc)
  | serverAdded => exact .inl (by simpa [Heap.read_alloc_old _ _ hlt] using hc)
  | connectionOpened c' =>
    by_cases heq : c = c'
    · subst heq; exact .inl (by simp)
    · exact .inl (by simpa [Heap.read_modify_ne _ _ heq] using hc)
  | connectionClosed c' =>
    by_cases heq : c = c'
    · subst heq; exact .inr rfl
    · exact .inl (by simpa [Heap.read_modify_ne _ _ heq] using hc)
  | accepted | stored => exact .inl hc
  | _ =>
    exact .inl (by simpa using hc)

/-- A connection keeps its client. -/
theorem Effect.client_kept (h : Effect p start a w w') {c : ConnRef} (hlt : c < w.servers.next)
    (hc : (w.servers.read c).client.isSome) : (w'.servers.read c).client.isSome := by
  cases h with
  | closing h =>
    have hcore := congrArg (fun sv : PaymentChannelServer => sv.client.isSome) (h.servers c)
    simp only [PaymentChannelServer.core, Option.isSome_map] at hcore
    rw [hcore]
    exact hc
  | serverAdded => simpa [Heap.read_alloc_old _ _ hlt] using hc
  | connectionOpened c' =>
    by_cases heq : c = c'
    · subst heq; simp
    · simpa [Heap.read_modify_ne _ _ heq] using hc
  | accepted | stored => exact hc
  | _ => simpa using hc

/-- A connection gets its price when it opens, and keeps it. -/
theorem Effect.maxPrice (h : Effect p start a w w') {c : ConnRef} (hlt : c < w'.servers.next) :
    (c < w.servers.next ∧
      (w'.servers.read c).client.map (·.maxPrice) = (w.servers.read c).client.map (·.maxPrice)) ∨
    (c = w.servers.next ∧ (w'.servers.read c).client = none) ∨
      ∃ client, a.2 = .input (.connectionOpen c client) := by
  cases h with
  | closing h =>
    have hcore := congrArg
      (fun sv : PaymentChannelServer => sv.client.map (·.maxPrice)) (h.servers c)
    refine .inl ⟨h.serversNext ▸ hlt, ?_⟩
    simpa [PaymentChannelServer.core, Function.comp_def] using hcore
  | serverAdded =>
    rcases Nat.lt_succ_iff_lt_or_eq.mp hlt with hlt | rfl
    · exact .inl ⟨hlt, by rw [Heap.read_alloc_old _ _ hlt]⟩
    · exact .inr (.inl ⟨rfl, by rw [Heap.read_alloc_new]⟩)
  | connectionOpened c' client ha =>
    by_cases heq : c = c'
    · exact .inr (.inr ⟨client, heq ▸ ha⟩)
    · exact .inl ⟨hlt, by rw [Heap.read_modify_ne _ _ heq]⟩
  | accepted | stored => exact .inl ⟨hlt, rfl⟩
  | _ => exact .inl ⟨hlt, by simp⟩

/-- A connection that started its handshake has started it for good. -/
theorem Effect.step_started (h : Effect p start a w w') {c : ConnRef} (hlt : c < w.servers.next)
    (hc : (w.servers.read c).step ≠ .waitingOnClientVersion) :
    (w'.servers.read c).step ≠ .waitingOnClientVersion := by
  rcases h.step c with hsame | ⟨heq, -⟩ | ⟨hst, -⟩ | ⟨hwait, -⟩
  · rwa [hsame]
  · exact absurd heq (Nat.ne_of_lt hlt)
  · intro hstep
    rw [hstep] at hst
    cases hst with
    | version _ _ _ hwait => exact hc hwait
  · exact absurd hwait hc

theorem Settling.installed (h : Settling p env w w') (hw : w.extensionInstalled = true) :
    w'.extensionInstalled = true := by
  cases h with
  | quiet hq => exact hq.installed hw
  | deducted | settled | closedEarly => exact hw

/-- The extension stays in the wallet. -/
theorem Effect.installed (h : Effect p start a w w') (hw : w.extensionInstalled = true) :
    w'.extensionInstalled = true := by
  cases h with
  | closing h =>
    cases h with
    | settling h => exact h.installed hw
    | _ => exact hw
  | _ => exact hw

/-- How a connection becomes the handler of a record. -/
inductive NewHandler (p : Platform) (start : World) (a : Env × Action) (w w' : World)
    (c : ConnRef) : ChannelRef → Prop where
  | resumed (h : Sha256Hash) (r : ChannelRef) (hres : Resuming start a c h r)
      (hm : w.mapChannels.lookup h = some r) (hch : w.channels = start.channels)
      (hopen : (w.servers.read c).connectionOpen = true)
      (hstate : ∀ s, (w.channels.read r).state = some s →
        (w'.servers.read c).connectionOpen = true ∧ (w'.servers.read c).step = .channelOpen ∧
          (w'.servers.read c).state = some s ∧ w'.states = w.states) :
      NewHandler p start a w w' c r
  | stored (s : StateRef) (contract : Transaction) (o : OutputRef)
      (hs : Storing start a w c s contract o) (hw : w' = w.store p s c contract o) :
      NewHandler p start a w w' c w.channels.next

/-- A record keeps its handler until it gets another, or loses it. -/
theorem Effect.handler (h : Effect p start a w w') {r : ChannelRef} {c : ConnRef}
    (hr : (w'.channels.read r).connectedHandler = some c) :
    (w.channels.read r).connectedHandler = some c ∨ NewHandler p start a w w' c r := by
  cases h with
  | closing h =>
    cases h with
    | settling h => exact .inl (h.channels ▸ hr)
    | called | untied | untiedRemoved | removed => exact .inl hr
    | restored | forgotten => exact .inl (by simpa [World.restore] using hr)
  | accepted s pay =>
    have hsame : ((w.accept s (p.getHash pay.contract) pay.newValueToMe
        pay.signatureBytes).channels.read r).connectedHandler =
          (w.channels.read r).connectedHandler := by
      unfold World.accept
      dsimp only
      split <;> simp
    exact .inl (hsame ▸ hr)
  | stored c' s contract o hs =>
    by_cases heq : r = w.channels.next
    · subst heq
      obtain rfl : c' = c := by simpa [World.store] using hr
      exact .inr (.stored s contract o hs rfl)
    · exact .inl (by simpa [World.store, Heap.read_alloc_ne _ _ heq] using hr)
  | connectionClosed c' =>
    unfold World.disconnect at hr
    dsimp only at hr
    split at hr
    · exact .inl hr
    · next r' _ =>
      by_cases heq : r = r'
      · subst heq; simp at hr
      · exact .inl (by simpa [Heap.read_modify_ne _ _ heq] using hr)
  | takenOver c' h r' s hres hm hch hs hopen =>
    by_cases heq : r = r'
    · subst heq
      obtain rfl : c' = c := by simpa using hr
      refine .inr (.resumed h r hres hm hch hopen fun s' hs' => ?_)
      obtain rfl := Option.some.inj (hs.symm.trans hs')
      exact ⟨by simpa using hopen, by simp, by simp, rfl⟩
    · exact .inl (by simpa [Heap.read_modify_ne _ _ heq] using hr)
  | handlerSet c' h r' hres hm hch hs hopen =>
    by_cases heq : r = r'
    · subst heq
      obtain rfl : c' = c := by simpa using hr
      exact .inr (.resumed h r hres hm hch hopen fun s' hs' => by rw [hs] at hs'; cases hs')
    · exact .inl (by simpa [Heap.read_modify_ne _ _ heq] using hr)
  | _ =>
    exact .inl hr

/-! ## Broadcasts -/

/-- `b` is the broadcast of a contract that `c` provided for the state `s`. -/
def IsOffer (w : World) (b : Nat) (s : StateRef) (c : ConnRef) (provided : ProvideContract) :
    Prop :=
  b < w.broadcasts.next ∧ (w.broadcasts.read b).purpose = .contract s c provided

theorem IsOffer.of_eq {b : Nat} {s : StateRef} {c : ConnRef} {provided : ProvideContract}
    (h : IsOffer w' b s c provided) (hw : w'.broadcasts = w.broadcasts) :
    IsOffer w b s c provided := by
  rwa [IsOffer, hw] at h

theorem Settling.offer (h : Settling p env w w') {b : Nat} {s : StateRef} {c : ConnRef}
    {provided : ProvideContract} (hb : IsOffer w' b s c provided) : IsOffer w b s c provided := by
  cases h with
  | quiet hq => exact hb.of_eq hq.broadcasts
  | deducted | closedEarly => exact hb
  | settled =>
    have hne : b ≠ w.broadcasts.next := by
      rintro rfl
      have := hb.2
      simp at this
    have hlt : b < w.broadcasts.next + 1 := hb.1
    exact ⟨by omega, by simpa [Heap.read_alloc_ne _ _ hne] using hb.2⟩

/-- Contracts are broadcast when they are provided. -/
theorem Effect.offer (h : Effect p start a w w') {b : Nat} {s : StateRef} {c : ConnRef}
    {provided : ProvideContract} (hb : IsOffer w' b s c provided) :
    IsOffer w b s c provided ∨ ∃ tx, Offering p a w c s provided tx ∧
      w' = { w with
        states := w.states.modify s fun st => { st with state := .waitingForMultisigAcceptance }
        broadcasts := (w.broadcasts.alloc { tx := tx, purpose := .contract s c provided }).2 } := by
  cases h with
  | closing h =>
    cases h with
    | settling h => exact .inl (h.offer hb)
    | _ => exact .inl hb
  | contractBroadcast c' s' provided' tx hs =>
    by_cases heq : b = w.broadcasts.next
    · have hpurpose := hb.2
      simp only [heq, Heap.read_alloc_new, Purpose.contract.injEq] at hpurpose
      obtain ⟨rfl, rfl, rfl⟩ := hpurpose
      exact .inr ⟨tx, hs, rfl⟩
    · have hlt : b < w.broadcasts.next + 1 := hb.1
      exact .inl ⟨by omega, by simpa [Heap.read_alloc_ne _ _ heq] using hb.2⟩
  | completed => exact .inl ⟨hb.1, by simpa using hb.2⟩
  | _ => exact .inl hb

/-- A broadcast stays what it was. -/
theorem Effect.broadcast_kept (h : Effect p start a w w') {b : Nat} (hb : b < w.broadcasts.next) :
    b < w'.broadcasts.next ∧ (w'.broadcasts.read b).purpose = (w.broadcasts.read b).purpose ∧
      (w'.broadcasts.read b).tx = (w.broadcasts.read b).tx := by
  cases h with
  | closing h =>
    cases h with
    | settling h =>
      cases h with
      | quiet hq => rw [hq.broadcasts]; exact ⟨hb, rfl, rfl⟩
      | deducted | closedEarly => exact ⟨hb, rfl, rfl⟩
      | settled => exact ⟨Nat.lt_succ_of_lt hb, by simp [Heap.read_alloc_old _ _ hb]⟩
    | _ => exact ⟨hb, rfl, rfl⟩
  | contractBroadcast => exact ⟨Nat.lt_succ_of_lt hb, by simp [Heap.read_alloc_old _ _ hb]⟩
  | completed => exact ⟨hb, by simp⟩
  | _ => exact ⟨hb, rfl, rfl⟩

/-! ## The states -/

theorem Effect.statesNext_le (h : Effect p start a w w') : w.states.next ≤ w'.states.next := by
  cases h with
  | closing h => exact h.statesNext_le
  | refundStarted => exact Nat.le_succ _
  | _ => exact le_rfl

/-- What becomes of a state: the ways it is written to, with what was
checked before. -/
inductive StateChange (p : Platform) (start : World) (a : Env × Action) (w w' : World)
    (s : StateRef) : PaymentChannelServerState → Prop where
  | deducted (b : Coin) (hcalled : .closeCalled s ∈ w.trace)
      (hready : (w.states.read s).state = .ready)
      (hfree : (w.states.read s).storedServerChannel = none)
      (hb : b.value =
        (w.states.read s).bestValueToMe.value - Coin.referenceDefaultMinTxFee.value)
      (why : b.value ≤ Coin.referenceDefaultMinTxFee.value ∨
        ∃ e w', (makeSettlement p a.1 s).run w = .error e w') :
      StateChange p start a w w' s { w.states.read s with bestValueToMe := b }
  | settled (b : Coin) (tx : Transaction) (hcalled : .closeCalled s ∈ w.trace)
      (hready : (w.states.read s).state = .ready)
      (hfree : (w.states.read s).storedServerChannel = none)
      (settlement : Settlement p a.1 w s b tx)
      (hw : w'.broadcasts = (w.broadcasts.alloc { tx := tx, purpose := .settlement s }).2) :
      StateChange p start a w w' s { w.states.read s with bestValueToMe := b, state := .closing }
  | closedEarly (hcalled : .closeCalled s ∈ w.trace)
      (hs : (w.states.read s).state.ordinal < State.ready.ordinal) :
      StateChange p start a w w' s { w.states.read s with state := .closed }
  | untied (r : ChannelRef) (hcalled : .closeCalled s ∈ w.trace)
      (hr : (w.states.read s).storedServerChannel = some r) :
      StateChange p start a w w' s { w.states.read s with storedServerChannel := none }
  | restored (r : ChannelRef) (totalValue : Coin) (hs : s = w.states.next)
      (hr : (w.channels.read r).state = none)
      (ht : ∃ output, (w.channels.read r).contract.output0 = .ok output ∧
        output.getValue = .ok totalValue) :
      StateChange p start a w w' s {
        state := .ready
        serverKey := (w.channels.read r).myKey
        multisigContract := some (w.channels.read r).contract
        totalValue := some totalValue
        bestValueToMe := (w.channels.read r).bestValueToMe
        bestValueSignature := (w.channels.read r).bestValueSignature
        clientOutput := some (w.channels.read r).clientOutput
        refundTransactionUnlockTimeSecs := (w.channels.read r).refundTransactionUnlockTimeSecs
        storedServerChannel := some r }
  | accepted (pay : Payment p w s)
      (hw : w' = w.accept s (p.getHash pay.contract) pay.newValueToMe pay.signatureBytes) :
      StateChange p start a w w' s { w.states.read s with
        bestValueToMe := pay.newValueToMe
        bestValueSignature := some pay.signatureBytes }
  | started (c : ConnRef) (hs : s = w.states.next) (hc : c < w.servers.next) (hw : w = start) :
      StateChange p start a w w' s {
        state := .waitingForRefundTransaction
        serverKey := (w.servers.read c).myKey
        minExpireTime := (w.servers.read c).expireTime }
  | unlockSet (c : ConnRef) (tx : Transaction)
      (hs : (w.states.read s).state = .waitingForRefundTransaction) (htx : RefundOf p a c tx) :
      StateChange p start a w w' s
        { w.states.read s with refundTransactionUnlockTimeSecs := tx.lockTime.toNat }
  | keysSet (pub : Bytes) (hs : (w.states.read s).state = .waitingForRefundTransaction)
      (hpub : pub.length ≤ maxMessageSize) :
      StateChange p start a w w' s { w.states.read s with
        clientKey := some (ECKey.fromPublicOnly pub)
        redeemScript := some (createMultiSigOutputScript (ECKey.fromPublicOnly pub)
          (w.states.read s).serverKey) }
  | refundSigned (c : ConnRef) (tx : Transaction) (hs : Signing p a w c s tx)
      (hw : .refundSigned s tx.lockTime.toNat ∈ w'.trace)
      (hnext : w'.outputs.next = w.outputs.next + 1) :
      StateChange p start a w w' s { w.states.read s with
        clientOutput := some w.outputs.next
        state := .waitingForMultisigContract }
  | contractGiven (c : ConnRef) (provided : ProvideContract) (tx : Transaction)
      (hs : (w.states.read s).state = .waitingForMultisigContract)
      (hc : (w.servers.read c).state = some s)
      (hstep : (w.servers.read c).step = .waitingOnMultisigAcceptance)
      (htx : ContractOf p a c provided tx) :
      StateChange p start a w w' s { w.states.read s with multisigContract := some tx }
  | totalSet (tx : Transaction) (output : TransactionOutput) (v : Coin)
      (hs : (w.states.read s).state = .waitingForMultisigContract)
      (hcontract : (w.states.read s).multisigContract = some tx)
      (houtput : tx.output0 = .ok output) (hv : output.getValue = .ok v) :
      StateChange p start a w w' s { w.states.read s with totalValue := some v }
  | contractBroadcast (c : ConnRef) (provided : ProvideContract) (tx : Transaction)
      (hs : Offering p a w c s provided tx) :
      StateChange p start a w w' s
        { w.states.read s with state := .waitingForMultisigAcceptance }
  | contractDone (b : Nat) (success : Bool) (c : ConnRef) (provided : ProvideContract)
      (hb : Completing start a b success s c provided) (hdone : Quiet (start.complete b) w) :
      StateChange p start a w w' s
        { w.states.read s with state := if success then .ready else .error }
  | settlementDone (b : Nat) (success : Bool) (ha : a.2 = .input (.broadcastDone b success))
      (hb : b < start.broadcasts.next)
      (hpurpose : (start.broadcasts.read b).purpose = .settlement s)
      (hdone : w = start.complete b) :
      StateChange p start a w w' s
        { w.states.read s with state := if success then .closed else .error }
  | stored (c : ConnRef) (contract : Transaction) (o : OutputRef)
      (hs : Storing start a w c s contract o) (hw : w' = w.store p s c contract o) :
      StateChange p start a w w' s
        { w.states.read s with storedServerChannel := some w.channels.next }

section StateChange

variable {s s' : StateRef}

/-- A state is as before, or was written to. -/
def Changes (p : Platform) (start : World) (a : Env × Action) (w w' : World) (s : StateRef) :
    Prop :=
  (w'.states.read s).core = (w.states.read s).core ∨
    ∃ st, w'.states.read s = st ∧ StateChange p start a w w' s st

/-- An assignment to the state `s'`. -/
theorem Changes.modify {f : PaymentChannelServerState → PaymentChannelServerState}
    (hw : w'.states = w.states.modify s' f)
    (h : StateChange p start a w w' s' (f (w.states.read s'))) : Changes p start a w w' s := by
  by_cases heq : s = s'
  · subst heq
    exact .inr ⟨_, by rw [hw, Heap.read_modify_self], h⟩
  · exact .inl (by rw [hw, Heap.read_modify_ne _ _ heq])

/-- A new state. -/
theorem Changes.alloc {st : PaymentChannelServerState} (hw : w'.states = (w.states.alloc st).2)
    (h : StateChange p start a w w' w.states.next st) : Changes p start a w w' s := by
  by_cases heq : s = w.states.next
  · subst heq
    exact .inr ⟨_, by rw [hw, Heap.read_alloc_new], h⟩
  · exact .inl (by rw [hw, Heap.read_alloc_ne _ _ heq])

theorem Closing.changes (h : Closing p a.1 w w') : Changes p start a w w' s := by
  cases h with
  | settling h =>
    cases h with
    | quiet hq => exact .inl (hq.states s)
    | deducted s' b hcalled hready hs hb why =>
      exact .modify rfl (.deducted b hcalled hready hs hb why)
    | settled s' b tx hcalled hready hs hset =>
      exact .modify rfl (.settled b tx hcalled hready hs hset rfl)
    | closedEarly s' hcalled hs => exact .modify rfl (.closedEarly hcalled hs)
  | called | removed | forgotten => exact .inl rfl
  | untied s' r hcalled hr | untiedRemoved s' r hcalled hr =>
    exact .modify rfl (.untied r hcalled hr)
  | restored r T hr ht => exact .alloc rfl (.restored r T rfl hr ht)

/-- Every write to a state is one of these. -/
theorem Effect.changes (h : Effect p start a w w') (s : StateRef) :
    Changes p start a w w' s := by
  cases h with
  | closing h => exact h.changes
  | accepted s' pay => exact .modify rfl (.accepted pay rfl)
  | refundStarted c msg ha hty hc hopen hw => exact .alloc rfl (.started c rfl hc hw)
  | unlockSet c s' tx hs htx => exact .modify rfl (.unlockSet c tx hs htx)
  | keysSet s' pub hs hpub => exact .modify rfl (.keysSet pub hs hpub)
  | refundSigned c s' tx output hs =>
    exact .modify rfl (.refundSigned c tx hs (List.mem_cons_self ..) rfl)
  | contractGiven c s' provided tx hs hc hstep htx =>
    exact .modify rfl (.contractGiven c provided tx hs hc hstep htx)
  | totalSet s' tx output v hs hcontract houtput hv =>
    exact .modify rfl (.totalSet tx output v hs hcontract houtput hv)
  | contractBroadcast c s' provided tx hs =>
    exact .modify rfl (.contractBroadcast c provided tx hs)
  | contractDone b success s' c provided hb hdone =>
    exact .modify rfl (.contractDone b success c provided hb hdone)
  | settlementDone b success s' ha hb hpurpose hdone =>
    exact .modify rfl (.settlementDone b success ha hb hpurpose hdone)
  | stored c s' contract o hs => exact .modify rfl (.stored c contract o hs rfl)
  | _ =>
    exact .inl rfl

/-- What can be read off the core of a state that is as before. -/
theorem core_field {α : Type} {st st' : PaymentChannelServerState} (h : st'.core = st.core)
    (f : PaymentChannelServerState → α) (hf : ∀ st, f st.core = f st) : f st' = f st := by
  rw [← hf, h, hf]

end StateChange

/-- A state keeps the time its refund has to be locked for. -/
theorem Effect.minExpireTime (h : Effect p start a w w') {s : StateRef}
    (hlt : s < w.states.next) :
    (w'.states.read s).minExpireTime = (w.states.read s).minExpireTime := by
  rcases h.changes s with hsame | ⟨st, hst, hch⟩
  · exact core_field hsame (·.minExpireTime) fun _ => rfl
  · rw [hst]
    cases hch with
    | restored _ _ hs | started _ hs => exact absurd hs (Nat.ne_of_lt hlt)
    | _ => rfl

/-- A state keeps the server's key it was made with. -/
theorem Effect.serverKey (h : Effect p start a w w') {s : StateRef} (hlt : s < w.states.next) :
    (w'.states.read s).serverKey = (w.states.read s).serverKey := by
  rcases h.changes s with hsame | ⟨st, hst, hch⟩
  · exact core_field hsame (·.serverKey) fun _ => rfl
  · rw [hst]
    cases hch with
    | restored _ _ hs | started _ hs => exact absurd hs (Nat.ne_of_lt hlt)
    | _ => rfl

/-- A state gets its contract from PROVIDE_CONTRACT on its connection. -/
theorem Effect.contract (h : Effect p start a w w') {s : StateRef} (hlt : s < w.states.next) :
    (w'.states.read s).multisigContract = (w.states.read s).multisigContract ∨
      (w.states.read s).state = .waitingForMultisigContract ∧
        ∃ c, (w.servers.read c).state = some s ∧
          (w.servers.read c).step = .waitingOnMultisigAcceptance := by
  rcases h.changes s with hsame | ⟨st, hst, hch⟩
  · exact .inl (core_field hsame (·.multisigContract) fun _ => rfl)
  · rw [hst]
    cases hch with
    | contractGiven c _ _ hs hc hstep => exact .inr ⟨hs, c, hc, hstep⟩
    | restored _ _ hs | started _ hs => exact absurd hs (Nat.ne_of_lt hlt)
    | _ => exact .inl rfl

/-! ## The map and the states' records -/

theorem lookup_of_erase {m : AList fun _ : Sha256Hash => ChannelRef} {x h : Sha256Hash}
    {r : ChannelRef} (hr : (m.erase x).lookup h = some r) : h ≠ x ∧ m.lookup h = some r := by
  by_cases heq : h = x
  · rw [heq, AList.lookup_erase] at hr; cases hr
  · exact ⟨heq, AList.lookup_erase_ne heq ▸ hr⟩

/-- Closing puts nothing into the map. -/
theorem Closing.lookup (h : Closing p env w w') {x : Sha256Hash} {r : ChannelRef}
    (hr : w'.mapChannels.lookup x = some r) : w.mapChannels.lookup x = some r := by
  cases h with
  | settling h => exact h.mapChannels ▸ hr
  | called | untied | restored | forgotten => exact hr
  | untiedRemoved | removed => exact (lookup_of_erase hr).2

/-- Only storing a channel puts a record into the map. -/
theorem Effect.lookup (he : Effect p start a w w') {h : Sha256Hash} {r : ChannelRef}
    (hr : w'.mapChannels.lookup h = some r) :
    w.mapChannels.lookup h = some r ∨ ∃ c s contract o, Storing start a w c s contract o ∧
      h = p.getHash contract ∧ r = w.channels.next ∧ w' = w.store p s c contract o := by
  cases he with
  | closing hc => exact .inl (hc.lookup hr)
  | stored c s contract o hs =>
    by_cases heq : h = p.getHash contract
    · rw [World.store, heq, AList.lookup_insert] at hr
      exact .inr ⟨c, s, contract, o, hs, heq, (Option.some.inj hr).symm, rfl⟩
    · rw [World.store, AList.lookup_insert_ne heq] at hr
      exact .inl hr
  | _ =>
    exact .inl hr

/-- A channel stays in the map until it is removed, or stored again. -/
theorem Effect.lookup_kept (he : Effect p start a w w') {h : Sha256Hash} {r : ChannelRef}
    (hr : w.mapChannels.lookup h = some r)
    (hnew : ∀ c s contract o, Storing start a w c s contract o → h ≠ p.getHash contract) :
    w'.mapChannels.lookup h = some r ∨ .removed h ∈ w'.trace := by
  have herase : ∀ x, (w.mapChannels.erase x).lookup h = some r ∨
      Event.removed h ∈ Event.removed x :: w.trace := by
    intro x
    by_cases heq : h = x
    · exact .inr (heq ▸ List.mem_cons_self ..)
    · exact .inl (by rw [AList.lookup_erase_ne heq, hr])
  cases he with
  | closing hc =>
    cases hc with
    | settling h => exact .inl (h.mapChannels ▸ hr)
    | called | untied | restored | forgotten => exact .inl hr
    | untiedRemoved | removed => exact herase _
  | stored c s contract o hs =>
    exact .inl (by rw [World.store, AList.lookup_insert_ne (hnew c s contract o hs), hr])
  | _ =>
    exact .inl hr

/-- A state gives up its record only when it is closed, and then the
record is out of the map. -/
theorem Effect.stored_kept (he : Effect p start a w w') {s : StateRef} {r : ChannelRef}
    (hlt : s < w.states.next) (hs : (w.states.read s).storedServerChannel = some r) :
    (w'.states.read s).storedServerChannel = some r ∨ .closeCalled s ∈ w.trace ∧
      w'.mapChannels.lookup (p.getHash (w.channels.read r).contract) = none := by
  cases he with
  | closing h =>
    cases h with
    | settling h => exact .inl ((h.stored s).trans hs)
    | called | removed | forgotten => exact .inl hs
    | untied s' r' hcalled hs' hm =>
      by_cases heq : s = s'
      · subst heq
        obtain rfl := Option.some.inj (hs.symm.trans hs')
        exact .inr ⟨hcalled, hm⟩
      · exact .inl (by simpa [Heap.read_modify_ne _ _ heq] using hs)
    | untiedRemoved s' r' hcalled hs' hm =>
      by_cases heq : s = s'
      · subst heq
        obtain rfl := Option.some.inj (hs.symm.trans hs')
        exact .inr ⟨hcalled, AList.lookup_erase ..⟩
      · exact .inl (by simpa [Heap.read_modify_ne _ _ heq] using hs)
    | restored => exact .inl (by simpa [World.restore, Heap.read_alloc_old _ _ hlt] using hs)
  | accepted => exact .inl (by simpa [World.accept] using hs)
  | stored c s' contract o hst =>
    have hne : s ≠ s' := by
      rintro rfl
      rw [hst.free] at hs; cases hs
    exact .inl (by simpa [World.store, Heap.read_modify_ne _ _ hne] using hs)
  | refundStarted => exact .inl (by simpa [Heap.read_alloc_old _ _ hlt] using hs)
  | _ => exact .inl (by simpa using hs)

/-- A state gets a record when its channel is stored, or when it is made
from one. -/
theorem Effect.stored_some (he : Effect p start a w w') {s : StateRef} {r : ChannelRef}
    (hlt : s < w.states.next) (hs : (w'.states.read s).storedServerChannel = some r) :
    (w.states.read s).storedServerChannel = some r ∨
      r = w.channels.next ∧ ∃ c contract o, Storing start a w c s contract o ∧
        w' = w.store p s c contract o := by
  rcases he.changes s with hsame | ⟨st, hst, hch⟩
  · exact .inl ((core_field hsame (·.storedServerChannel) fun _ => rfl).symm.trans hs)
  · rw [hst] at hs
    cases hch with
    | restored _ _ heq | started _ heq => exact absurd heq (Nat.ne_of_lt hlt)
    | stored c contract o hstoring hw =>
      exact .inr ⟨(Option.some.inj hs).symm, c, contract, o, hstoring, hw⟩
    | untied => cases hs
    | _ => exact .inl hs

/-- A record keeps its state while it is in the map. -/
theorem Effect.recordState (he : Effect p start a w w') {r : ChannelRef} {s : StateRef}
    (hr : r < w.channels.next) (hs : (w.channels.read r).state = some s) :
    (w'.channels.read r).state = some s ∨
      w'.mapChannels.lookup (p.getHash (w.channels.read r).contract) = none := by
  cases he with
  | closing h =>
    cases h with
    | settling h => exact .inl (h.channels ▸ hs)
    | called | untied | untiedRemoved | removed => exact .inl hs
    | restored r' T hnone =>
      have hne : r ≠ r' := by
        rintro rfl
        rw [hnone] at hs; cases hs
      exact .inl (by simpa [World.restore, Heap.read_modify_ne _ _ hne] using hs)
    | forgotten r' hm =>
      by_cases heq : r = r'
      · subst heq; exact .inr hm
      · exact .inl (by simpa [Heap.read_modify_ne _ _ heq] using hs)
  | accepted s' pay => exact .inl (by rw [World.accept_channelState]; exact hs)
  | stored => exact .inl (by rw [World.store, Heap.read_alloc_old _ _ hr]; exact hs)
  | connectionClosed c =>
    exact .inl ((w.disconnect_field c r (·.state) fun _ => rfl).trans hs)
  | takenOver | handlerSet => exact .inl (by simpa using hs)
  | _ =>
    exact .inl hs

/-- A record's value changes with a payment to the state that holds it. -/
theorem Effect.channelBest (he : Effect p start a w w') {r : ChannelRef}
    (hr : r < w.channels.next) :
    (w'.channels.read r).bestValueToMe = (w.channels.read r).bestValueToMe ∨
      ∃ s, ∃ pay : Payment p w s, (w.states.read s).storedServerChannel = some r ∧
        (w'.channels.read r).bestValueToMe = pay.newValueToMe := by
  cases he with
  | closing h =>
    cases h with
    | settling h => rw [h.channels]; exact .inl rfl
    | called | untied | untiedRemoved | removed => exact .inl rfl
    | restored | forgotten => exact .inl (by simp [World.restore])
  | accepted s pay =>
    cases hs : (w.states.read s).storedServerChannel with
    | none => exact .inl (by simp [World.accept, hs])
    | some r' =>
      by_cases heq : r = r'
      · subst heq
        exact .inr ⟨s, pay, hs, by simp [World.accept, hs]⟩
      · exact .inl (by simp [World.accept, hs, Heap.read_modify_ne _ _ heq])
  | stored => exact .inl (by rw [World.store, Heap.read_alloc_old _ _ hr])
  | connectionClosed c => exact .inl (w.disconnect_field c r (·.bestValueToMe) fun _ => rfl)
  | takenOver | handlerSet => exact .inl (by simp)
  | _ =>
    exact .inl rfl

/-- Records are only made when a channel is stored. -/
theorem Effect.newRecord (he : Effect p start a w w') {r : ChannelRef}
    (hr : r < w'.channels.next) :
    r < w.channels.next ∨ ∃ c s contract o, Storing start a w c s contract o ∧
      r = w.channels.next ∧ w' = w.store p s c contract o := by
  cases he with
  | closing h => exact .inl ((h.channelTerms r).1 ▸ hr)
  | accepted => rw [World.accept_next] at hr; exact .inl hr
  | stored c s contract o hs =>
    rcases Nat.lt_or_eq_of_le (Nat.le_of_lt_succ hr) with h | h
    · exact .inl h
    · exact .inr ⟨c, s, contract, o, hs, h, rfl⟩
  | connectionClosed => exact .inl (by simpa using hr)
  | _ => exact .inl hr

/-! ## The history -/

/-- The events an effect adds, and what was the case before it. -/
inductive Emitted (p : Platform) (start : World) (a : Env × Action) (w w' : World) :
    Event → Prop where
  | closeCalled (s : StateRef) : Emitted p start a w w' (.closeCalled s)
  | removed (h : Sha256Hash) (hm : w'.mapChannels.lookup h = none) :
      Emitted p start a w w' (.removed h)
  | accepted (s : StateRef) (pay : Payment p w s) (hpaid : PaidThrough a w s)
      (hw : w' = w.accept s (p.getHash pay.contract) pay.newValueToMe pay.signatureBytes) :
      Emitted p start a w w' (.accepted s (p.getHash pay.contract) pay.newValueToMe)
  | connectionClosed (c : ConnRef) (ha : a.2 = .input (.connectionClosed c)) (hw : w = start)
      (hlt : c < w.servers.next)
      (hopen : (w'.servers.read c).connectionOpen = false) :
      Emitted p start a w w' (.connectionClosed c)
  | expirySet (c : ConnRef) (msg : TwoWayChannelMessage) (version : ClientVersion) (now : Int)
      (ha : a.2 = .input (.message c msg)) (hv : msg.clientVersion = some version)
      (hnow : now = a.1.now ∨ now = a.1.later) (hc : c < w.servers.next)
      (hset : (w'.servers.read c).expireTime =
        addLong now ((w.servers.read c).window.truncate version.timeWindowSecs)) :
      Emitted p start a w w' (.expirySet c now)
  | stepped (c : ConnRef) (st : InitStep) (hst : Stepping p start a w c st)
      (hset : (w'.servers.read c).step = st) : Emitted p start a w w' (.stepped c st)
  | resumed (c : ConnRef) (s : StateRef) (hstep : (w.servers.read c).step = .waitingOnClientVersion)
      (hset : (w'.servers.read c).step = .channelOpen)
      (hc : (w'.servers.read c).state = some s) (hs : NewState start a w w' c s) :
      Emitted p start a w w' (.stepped c .channelOpen)
  | refundSigned (c : ConnRef) (s : StateRef) (tx : Transaction) (hs : Signing p a w c s tx) :
      Emitted p start a w w' (.refundSigned s tx.lockTime.toNat)
  | stored (c : ConnRef) (s : StateRef) (contract : Transaction) (o : OutputRef)
      (hs : Storing start a w c s contract o) (hw : w' = w.store p s c contract o) :
      Emitted p start a w w' (.stored (p.getHash contract) w.channels.next)
  | storedDriven (c : ConnRef) (s : StateRef) (contract : Transaction) (o : OutputRef)
      (hs : Storing start a w c s contract o) (hw : w' = w.store p s c contract o) :
      Emitted p start a w w' (.driven c w.channels.next)
  | channelStored (s : StateRef) (hready : (w.states.read s).state = .ready)
      (hs : (w.states.read s).storedServerChannel.isSome) :
      Emitted p start a w w' (.channelStored s)
  | driven (c : ConnRef) (h : Sha256Hash) (r : ChannelRef) (hres : Resuming start a c h r)
      (hm : w.mapChannels.lookup h = some r) (hch : w.channels = start.channels)
      (hopen : (w.servers.read c).connectionOpen = true)
      (hset : (w'.channels.read r).connectedHandler = some c) :
      Emitted p start a w w' (.driven c r)
  | channelOpen (c : ConnRef) (s : StateRef) (h : Sha256Hash) (hs : Opening p start a w c s h)
      (hstep : (w.servers.read c).step = .channelOpen) : Emitted p start a w w' (.channelOpen c h)
  | announced (c : ConnRef) (price : Int) (hc : c < w.servers.next) (hw : w'.servers = w.servers)
      (hprice : (w.servers.read c).client.map (·.maxPrice) = some price) :
      Emitted p start a w w' (.sent c (.price price (w.servers.read c).myKey.pub))
  | acknowledged (c : ConnRef) (price amountSpent : Int) (hc : c < w.servers.next)
      (hprice : (w.servers.read c).client.map (·.maxPrice) = some price) :
      Emitted p start a w w'
        (.sent c (.paymentAck none (some amountSpent) (some (amountSpent.tdiv price))))
  | keyUsed (c : ConnRef) (s : StateRef) (hc : (w.servers.read c).state = some s)
      (hs : (w.states.read s).state = .waitingForMultisigContract) (hw : w'.servers = w.servers) :
      Emitted p start a w w' (.keyUsed c (w.states.read s).serverKey.pub)
  | updateApplied (c : ConnRef) (s : StateRef) (hstep : (w.servers.read c).step = .channelOpen)
      (hc : (w.servers.read c).state = some s) (hw : w'.servers = w.servers) :
      Emitted p start a w w' (.updateApplied c s)
  | credited (c : ConnRef) (s : StateRef) (amount : Coin) (hs : Crediting start w c s amount)
      (hw : w' = { w with
        trace := .credited c s amount (w.states.read s).bestValueToMe :: w.trace }) :
      Emitted p start a w w' (.credited c s amount (w.states.read s).bestValueToMe)
  | opened (c : ConnRef) (s : StateRef) (provided : ProvideContract) (totalValue v : Coin)
      (hs : Announcing start a w c s provided totalValue v) : Emitted p start a w w' (.opened c s)

theorem World.mem_history {e : Event} (hn : e.neutral = false) : e ∈ w.history ↔ e ∈ w.trace := by
  simp [World.history, hn]

/-- The history grows by events of this effect. -/
def Grows (p : Platform) (start : World) (a : Env × Action) (w w' : World) : Prop :=
  ∃ new, w'.history = new ++ w.history ∧ ∀ e ∈ new, Emitted p start a w w' e

theorem Grows.same (h : w'.history = w.history) : Grows p start a w w' :=
  ⟨[], h, fun _ h => nomatch h⟩

theorem Emitted.grows {e : Event} (he : Emitted p start a w w' e)
    (h : w'.history = e :: w.history) : Grows p start a w w' :=
  ⟨[e], h, fun _ hmem => (List.mem_singleton.mp hmem).symm ▸ he⟩

theorem Closing.grows (h : Closing p a.1 w w') : Grows p start a w w' := by
  cases h with
  | settling h =>
    cases h with
    | quiet hq => exact .same hq.history
    | deducted | settled | closedEarly => exact .same rfl
  | untied | restored | forgotten => exact .same rfl
  | called s => exact Emitted.grows (.closeCalled s) rfl
  | untiedRemoved | removed => exact Emitted.grows (.removed _ (AList.lookup_erase ..)) rfl

theorem Effect.grows (he : Effect p start a w w') : Grows p start a w w' := by
  cases he with
  | closing h => exact h.grows
  | stored c s contract o hs =>
    refine ⟨[_, _], rfl, fun e he => ?_⟩
    rcases List.mem_cons.mp he with rfl | he
    · exact .stored c s contract o hs rfl
    · rw [List.mem_singleton.mp he]
      exact .storedDriven c s contract o hs rfl
  | accepted s pay hpaid => exact Emitted.grows (.accepted s pay hpaid rfl) rfl
  | connectionClosed c ha hlt hw =>
    exact Emitted.grows (.connectionClosed c ha hw hlt (by simp)) rfl
  | expirySet c msg version now ha hv hnow hc =>
    exact Emitted.grows (.expirySet c msg version now ha hv hnow hc (by simp)) rfl
  | stepped c st hst => exact Emitted.grows (.stepped c st hst (by simp)) rfl
  | refundSigned c s tx _ hs => exact Emitted.grows (.refundSigned c s tx hs) rfl
  | channelStored s hready hs => exact Emitted.grows (.channelStored s hready hs) rfl
  | takenOver c h r s hres hm hch hr hopen hstep =>
    refine ⟨[_, _], rfl, fun e he => ?_⟩
    rcases List.mem_cons.mp he with rfl | he
    · exact .resumed c s hstep (by simp) (by simp)
        (.resumed h r s hres hm hr (by simp) hopen hstep (by simp) rfl)
    · rw [List.mem_singleton.mp he]
      exact .driven c h r hres hm hch hopen (by simp)
  | handlerSet c h r hres hm hch _ hopen =>
    exact Emitted.grows (.driven c h r hres hm hch hopen (by simp)) rfl
  | resumed c h r s hres hm hr hhandler hopen hstep =>
    exact Emitted.grows (.resumed c s hstep (by simp) (by simp)
      (.resumed h r s hres hm hr hhandler hopen hstep (by simp) rfl)) rfl
  | channelOpened c s h hs hstep => exact Emitted.grows (.channelOpen c s h hs hstep) rfl
  | keyNoted e he =>
    cases he with
    | announced c price hc hprice => exact Emitted.grows (.announced c price hc rfl hprice) rfl
    | acknowledged c price amountSpent hc hprice =>
      exact Emitted.grows (.acknowledged c price amountSpent hc hprice) rfl
    | used c s hc hs => exact Emitted.grows (.keyUsed c s hc hs rfl) rfl
  | updateApplied c s hstep hc => exact Emitted.grows (.updateApplied c s hstep hc rfl) rfl
  | credited c s amount hs => exact Emitted.grows (.credited c s amount hs rfl) rfl
  | opened c s provided T v hs => exact Emitted.grows (.opened c s provided T v hs) rfl
  | _ =>
    exact .same rfl

/-- An event of the history is an old one, or of this effect. -/
theorem Effect.trace_of (he : Effect p start a w w') {e : Event} (hn : e.neutral = false)
    (hm : e ∈ w'.trace) : e ∈ w.trace ∨ Emitted p start a w w' e := by
  obtain ⟨new, hw, hnew⟩ := he.grows
  rw [← World.mem_history hn, hw, List.mem_append] at hm
  rcases hm with hm | hm
  · exact .inr (hnew e hm)
  · exact .inl ((World.mem_history hn).mp hm)

/-- An element of what was put in front, or of the rest. -/
theorem mem_or_split {α : Type} {new old later earlier : List α} {e : α}
    (h : new ++ old = later ++ e :: earlier) :
    (e ∈ new ∧ old ⊆ earlier ∧ earlier ⊆ new ++ old) ∨
      ∃ later', old = later' ++ e :: earlier := by
  rcases List.append_eq_append_iff.mp h with ⟨later', -, hold⟩ | ⟨rest, hnew, hrest⟩
  · exact .inr ⟨later', hold⟩
  · cases rest with
    | nil => exact .inr ⟨[], hrest.symm⟩
    | cons x rest =>
      obtain ⟨rfl, rfl⟩ := List.cons.inj hrest
      refine .inl ⟨hnew ▸ List.mem_append_right _ (List.mem_cons_self ..),
        List.subset_append_right .., ?_⟩
      rw [h]
      exact List.subset_append_of_subset_right _ (List.subset_cons_self ..)

section Emission

variable {ok : World → Env × Action → Prop} {autosave : Bool}

/-- What effects lead to, whatever inputs they are of. -/
abbrev Later (p : Platform) : World → World → Prop :=
  ReflTransGen fun v v' => ∃ start a, Effect p start a v v'

/-- On the way to `w`, an effect emitted `e` when `earlier` had happened. -/
structure EmittedAfter (p : Platform) (ok : World → Env × Action → Prop) (autosave : Bool)
    (e : Event) (earlier : List Event) (w : World) (start : World) (a : Env × Action)
    (v v' : World) : Prop where
  passed : Passed p ok autosave start
  ok : ok start a
  path : Path p start a start v
  effect : Effect p start a v v'
  emitted : Emitted p start a v v' e
  before : ∀ e', e'.neutral = false → e' ∈ v.trace → e' ∈ earlier
  after : ∀ e', e'.neutral = false → e' ∈ earlier → e' ∈ v'.trace
  later : Later p v' w

theorem EmittedAfter.passed_before {e : Event} {earlier : List Event} {v v' : World}
    (h : EmittedAfter p ok autosave e earlier w start a v v') : Passed p ok autosave v :=
  h.passed.path h.ok h.path

theorem EmittedAfter.later_before {e : Event} {earlier : List Event} {v v' : World}
    (h : EmittedAfter p ok autosave e earlier w start a v v') : Later p v w :=
  .head ⟨start, a, h.effect⟩ h.later

theorem Later.config {v : World} (h : Later p v w) {c : ConnRef} (hc : c < v.servers.next) :
    c < w.servers.next ∧ (w.servers.read c).window = (v.servers.read c).window ∧
      (w.servers.read c).minAcceptedChannelSize = (v.servers.read c).minAcceptedChannelSize := by
  induction h with
  | refl => exact ⟨hc, rfl, rfl⟩
  | tail _ he ih =>
    obtain ⟨start, a, he⟩ := he
    have hconfig := he.config (.inl ih.1)
    exact ⟨lt_of_lt_of_le ih.1 he.serversNext_le, hconfig.1.trans ih.2.1, hconfig.2.trans ih.2.2⟩

theorem Later.keepsTerms {v : World} (h : Later p v w) {s : StateRef} (hs : s < v.states.next)
    (hbound : Bound v s) : s < w.states.next ∧ KeepsTerms v w s := by
  induction h with
  | refl => exact ⟨hs, hbound, rfl⟩
  | tail _ he ih =>
    obtain ⟨start, a, he⟩ := he
    have hkeep := he.keepsTerms ih.1 ih.2.bound
    exact ⟨lt_of_lt_of_le ih.1 he.statesNext_le, hkeep.bound, hkeep.terms.trans ih.2.terms⟩

theorem Later.contract {v : World} (h : Later p v w) {s : StateRef} (hs : s < v.states.next)
    (hbound : Bound v s) :
    (w.states.read s).multisigContract = (v.states.read s).multisigContract :=
  congrArg (·.multisigContract) (h.keepsTerms hs hbound).2.terms

theorem Later.minExpireTime {v : World} (h : Later p v w) {s : StateRef}
    (hs : s < v.states.next) : s < w.states.next ∧
      (w.states.read s).minExpireTime = (v.states.read s).minExpireTime := by
  induction h with
  | refl => exact ⟨hs, rfl⟩
  | tail _ he ih =>
    obtain ⟨start, a, he⟩ := he
    exact ⟨lt_of_lt_of_le ih.1 he.statesNext_le, (he.minExpireTime ih.1).trans ih.2⟩

theorem EmittedAfter.of_history (h : Passed p ok autosave w) :
    ∀ e later earlier, w.history = later ++ e :: earlier →
      ∃ start a v v', EmittedAfter p ok autosave e earlier w start a v v' := by
  refine Visited.invariant (I := fun w => ∀ e later earlier, w.history = later ++ e :: earlier →
      ∃ start a v v', EmittedAfter p ok autosave e earlier w start a v v') ?_ ?_ h
  · exact fun e later earlier h => absurd h (by simp [World.history, World.initial])
  · intro start a v v' hs hok hpath _ ih he e later earlier hsplit
    obtain ⟨new, hw, hnew⟩ := he.grows
    rcases mem_or_split (hw.symm.trans hsplit) with ⟨hmem, hsub, hsup⟩ | ⟨later', hold⟩
    · exact ⟨start, a, v, v', hs, hok, hpath, he, hnew e hmem,
        fun e' hn' hmem' => hsub ((World.mem_history hn').mpr hmem'),
        fun e' hn' hmem' => (World.mem_history hn').mp (hw ▸ hsup hmem'), .refl⟩
    · obtain ⟨start', a', u, u', hu⟩ := ih e later' earlier hold
      exact ⟨start', a', u, u', { hu with later := hu.later.tail ⟨start, a, he⟩ }⟩

/-- Every event of a run was emitted by an effect, and what had happened
before is before it in the history. -/
theorem Passed.emitted (h : Passed p ok autosave w) {later earlier : List Event} {e : Event}
    (hn : e.neutral = false) (hsplit : w.trace = later ++ e :: earlier) :
    ∃ start a v v', EmittedAfter p ok autosave e earlier w start a v v' := by
  have hfilter : w.history = later.filter (fun e => !e.neutral) ++
      e :: earlier.filter (fun e => !e.neutral) := by
    simp [World.history, hsplit, hn]
  obtain ⟨start, a, v, v', hv⟩ := EmittedAfter.of_history h e _ _ hfilter
  exact ⟨start, a, v, v', { hv with
    before := fun e' hn' hmem => (List.mem_filter.mp (hv.before e' hn' hmem)).1
    after := fun e' hn' hmem => hv.after e' hn' (List.mem_filter.mpr ⟨hmem, by simp [hn']⟩) }⟩

end Emission

/-! ## What an input leads to -/

/-- The state and the contract that a completed broadcast would have
stored: those its connection has by then. -/
def World.toStore (w : World) : Input → Option (StateRef × Transaction)
  | .broadcastDone b _ =>
      match (w.broadcasts.read b).purpose with
      | .contract _ c _ =>
          if b < w.broadcasts.next ∧ (w.broadcasts.read b).completed = false ∧
              (w.servers.read c).connectionOpen then do
            let s ← (w.servers.read c).state
            let contract ← (w.states.read s).multisigContract
            if (w.states.read s).storedServerChannel.isNone then some (s, contract) else none
          else none
      | .settlement _ => none
  | _ => none

theorem Storing.toStore {c : ConnRef} {s : StateRef} {contract : Transaction} {o : OutputRef}
    (hs : Storing start a w c s contract o) {i : Input} (hi : a.2 = .input i) :
    start.toStore i = some (s, contract) := by
  obtain ⟨b, success, s', provided, hb⟩ := hs.completing
  obtain rfl : i = .broadcastDone b success := Action.input.inj (hi.symm.trans hb.input)
  simp [World.toStore, hb.purpose, hb.allocated, hb.pending, hs.startConnected, hs.startState,
    hs.startContract, hs.startFree]

end BitMesh.Channels
