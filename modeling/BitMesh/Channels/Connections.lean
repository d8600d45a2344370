import BitMesh.Channels.Invariants

/-!
# Connections and what they offered

A connection is one that was accepted, and once it has offered a contract
its state is one it negotiated itself, not one rebuilt from a record.
-/

namespace BitMesh.Channels

open BitMesh.Bitcoin BitMesh.Lib

variable {p : Platform} {start : World} {a : Env × Action} {w w' : World}

/-! ## Only accepted connections take part -/

/-- The connection an event is about. -/
def Event.connection : Event → Option ConnRef
  | .sent c _ | .channelOpen c _ | .stepped c _ | .expirySet c _ | .keyUsed c _
  | .updateApplied c _ | .credited c _ _ _ | .opened c _ | .driven c _ | .connectionClosed c => some c
  | _ => none

/-- Whatever names a connection names one that was accepted. -/
structure Connections (w : World) : Prop where
  state : ∀ c s, (w.servers.read c).state = some s → c < w.servers.next
  step : ∀ c, (w.servers.read c).step ≠ .waitingOnClientVersion → c < w.servers.next
  connected : ∀ c, (w.servers.read c).connectionOpen = true → c < w.servers.next
  handler : ∀ r c, (w.channels.read r).connectedHandler = some c → c < w.servers.next
  offer : ∀ b s c provided, IsOffer w b s c provided → c < w.servers.next
  event : ∀ e c, e ∈ w.trace → e.neutral = false → e.connection = some c → c < w.servers.next

theorem Connections.initial (autosave : Bool) : Connections (World.initial autosave) where
  state _ _ h := nomatch h
  step _ h := absurd rfl h
  connected _ h := nomatch h
  handler _ _ h := nomatch h
  offer _ _ _ _ h := absurd h.1 (Nat.not_lt_zero _)
  event _ _ h := nomatch h

theorem Connections.opening (hw : Connections w) {c : ConnRef} {s : StateRef} {h : Sha256Hash}
    (ho : Opening p start a w c s h) : c < w.servers.next := by
  cases ho with
  | resumed _ _ _ _ _ hc => exact hw.state c s hc
  | propagated _ _ _ _ _ hc => exact hw.state c s hc

theorem Connections.stepping (hw : Connections w) {c : ConnRef} {st : InitStep}
    (hs : Stepping p start a w c st) : c < w.servers.next := by
  cases hs with
  | version _ _ hc => exact hc
  | funding _ _ _ _ _ _ hc => exact hc
  | refund _ _ _ hc => exact hc
  | fundingAddress h | initiateAgain h | contract h => exact hw.step c (by rw [h]; decide)
  | opening s h ho => exact hw.opening ho

theorem Connections.newState (hw : Connections w) {c : ConnRef} {s : StateRef}
    (hs : NewState start a w w' c s) : c < w.servers.next := by
  cases hs with
  | refund _ _ _ hlt => exact hlt
  | resumed _ _ _ _ _ _ _ hopen => exact hw.connected c hopen

theorem Connections.emitted (hw : Connections w) {e : Event} {c : ConnRef}
    (he : Emitted p start a w w' e) (hc : e.connection = some c) : c < w.servers.next := by
  cases he with
  | closeCalled | removed | accepted | refundSigned | stored | channelStored => cases hc
  | connectionClosed _ _ _ hlt => cases hc; exact hlt
  | expirySet _ _ _ _ _ _ _ hlt => cases hc; exact hlt
  | stepped _ _ hst => cases hc; exact hw.stepping hst
  | resumed _ _ _ _ _ hs => cases hc; exact hw.newState hs
  | storedDriven _ s _ _ hs => cases hc; exact hw.state c s hs.state
  | driven _ _ _ _ _ _ hopen => cases hc; exact hw.connected c hopen
  | channelOpen _ _ _ ho => cases hc; exact hw.opening ho
  | announced _ _ hlt => cases hc; exact hlt
  | acknowledged _ _ _ hlt => cases hc; exact hlt
  | keyUsed _ s hs => cases hc; exact hw.state c s hs
  | updateApplied _ s _ hs => cases hc; exact hw.state c s hs
  | credited _ s _ hs => cases hc; exact hw.state c s hs.state
  | opened _ s _ _ _ hs => cases hc; exact hw.state c s hs.state

theorem Effect.connections (he : Effect p start a w w') (hw : Connections w) :
    Connections w' where
  state c s hc := by
    refine lt_of_lt_of_le ?_ he.serversNext_le
    rcases he.serverState hc with h | h
    · exact hw.state c s h
    · exact hw.newState h
  step c hc := by
    refine lt_of_lt_of_le ?_ he.serversNext_le
    rcases he.step c with h | ⟨-, h⟩ | ⟨h, -⟩ | ⟨-, -, s, -, h⟩
    · exact hw.step c (h ▸ hc)
    · exact absurd h hc
    · exact hw.stepping h
    · exact hw.newState h
  connected c hc := by
    refine lt_of_lt_of_le ?_ he.serversNext_le
    rcases he.connectionOpen hc with h | ⟨h, -⟩
    · exact hw.connected c h
    · exact h
  handler r c hr := by
    refine lt_of_lt_of_le ?_ he.serversNext_le
    rcases he.handler hr with h | h
    · exact hw.handler r c h
    · cases h with
      | resumed _ _ _ _ _ hopen => exact hw.connected c hopen
      | stored s _ _ hs => exact hw.state c s hs.state
  offer b s c provided hb := by
    refine lt_of_lt_of_le ?_ he.serversNext_le
    rcases he.offer hb with h | ⟨tx, h, -⟩
    · exact hw.offer b s c provided h
    · exact hw.state c s h.serverState
  event e c hmem hn hc := by
    refine lt_of_lt_of_le ?_ he.serversNext_le
    rcases he.trace_of hn hmem with h | h
    · exact hw.event e c h hn hc
    · exact hw.emitted h hc

theorem Passed.connections {ok : World → Env × Action → Prop} {autosave : Bool}
    (h : Passed p ok autosave w) : Connections w :=
  Visited.invariant (.initial autosave) (fun _ _ _ _ _ _ _ _ ht he => he.connections ht) h

/-! ## Offers -/

/-- A state rebuilt from its record has the contract but no client key,
and never gets one. -/
def Restored (w : World) (s : StateRef) : Prop :=
  (w.states.read s).clientKey = none ∧ (w.states.read s).multisigContract.isSome

/-- An open channel came from an offer or from a record. -/
def Origin (w : World) (s : StateRef) : Prop := (∃ b, IsContract w b s) ∨ Restored w s

/-- The connections that offered a contract, and the origin of states. -/
structure Offers (w : World) : Prop where
  started : ∀ b s c provided, IsOffer w b s c provided →
    (w.servers.read c).step ≠ .waitingOnClientVersion
  own : ∀ b s' c provided s, IsOffer w b s' c provided → (w.servers.read c).state = some s →
    ¬ Restored w s
  /-- Before the refund is signed there is no contract, and after that
  there is a client key. -/
  bare : ∀ s, (w.states.read s).state = .waitingForRefundTransaction →
    (w.states.read s).multisigContract = none
  keyed : ∀ s, (w.states.read s).state = .waitingForMultisigContract →
    (w.states.read s).clientKey.isSome
  ready : ∀ s, (w.states.read s).state = .ready → Origin w s
  stored : ∀ s, .channelStored s ∈ w.trace → s < w.states.next ∧ Bound w s ∧ Origin w s

theorem Offers.initial (autosave : Bool) : Offers (World.initial autosave) where
  started _ _ _ _ h := absurd h.1 (Nat.not_lt_zero _)
  own _ _ _ _ _ h := absurd h.1 (Nat.not_lt_zero _)
  bare _ h := nomatch h
  keyed _ h := nomatch h
  ready _ h := nomatch h
  stored _ h := nomatch h

theorem IsOffer.isContract {b : Nat} {s : StateRef} {c : ConnRef} {provided : ProvideContract}
    (h : IsOffer w b s c provided) : IsContract w b s :=
  ⟨h.1, c, provided, h.2⟩

theorem IsOffer.step (he : Effect p start a w w') {b : Nat} {s : StateRef} {c : ConnRef}
    {provided : ProvideContract} (h : IsOffer w b s c provided) : IsOffer w' b s c provided := by
  have hkept := he.broadcast_kept h.1
  exact ⟨hkept.1, hkept.2.1.trans h.2⟩

/-- What a broadcast was for when its completion began. -/
theorem Completing.offered {b : Nat} {success : Bool} {s : StateRef} {c : ConnRef}
    {provided : ProvideContract} (hb : Completing start a b success s c provided)
    (hpath : Path p start a start w) : IsOffer w b s c provided := by
  induction hpath with
  | refl => exact ⟨hb.allocated, hb.purpose⟩
  | tail _ he ih => exact ih.step he

/-- A broadcast is the same transaction throughout an action. -/
theorem Path.broadcast_tx (hpath : Path p start a start w) {b : Nat}
    (hb : b < start.broadcasts.next) : (w.broadcasts.read b).tx = (start.broadcasts.read b).tx := by
  have hboth : b < w.broadcasts.next ∧
      (w.broadcasts.read b).tx = (start.broadcasts.read b).tx := by
    induction hpath with
    | refl => exact ⟨hb, rfl⟩
    | tail _ he ih =>
      have hkept := he.broadcast_kept ih.1
      exact ⟨hkept.1, hkept.2.2.trans ih.2⟩
  exact hboth.2

theorem IsContract.step (he : Effect p start a w w') {b : Nat} {s : StateRef}
    (h : IsContract w b s) : IsContract w' b s := by
  obtain ⟨hb, c, provided, hpurpose⟩ := h
  have hkept := he.broadcast_kept hb
  exact ⟨hkept.1, c, provided, hkept.2.1.trans hpurpose⟩

theorem Later.isOffer {v : World} (h : Later p v w) {b : Nat} {s : StateRef} {c : ConnRef}
    {provided : ProvideContract} (hb : IsOffer v b s c provided) : IsOffer w b s c provided := by
  induction h with
  | refl => exact hb
  | tail _ he ih =>
    obtain ⟨start, a, he⟩ := he
    exact ih.step he

/-- The completion of a broadcast makes no new offer. -/
theorem Path.isOffer (hpath : Path p start a start w) {b : Nat} {success : Bool}
    (ha : a.2 = .input (.broadcastDone b success)) {b' : Nat} {s : StateRef} {c : ConnRef}
    {provided : ProvideContract} (h : IsOffer w b' s c provided) :
    IsOffer start b' s c provided := by
  induction hpath with
  | refl => exact h
  | tail _ he ih =>
    rcases he.offer h with hold | ⟨tx, hoff, -⟩
    · exact ih hold
    · obtain ⟨msg, hmsg, -⟩ := hoff.message
      rw [ha] at hmsg
      cases hmsg

theorem Origin.step (he : Effect p start a w w') {s : StateRef} (hlt : s < w.states.next)
    (hs : Bound w s) (ho : Origin w s) : Origin w' s := by
  rcases ho with ⟨b, hb⟩ | ⟨hkey, hcontract⟩
  · exact .inl ⟨b, hb.step he⟩
  · have hterms := (he.keepsTerms hlt hs).terms
    have hkey' := congrArg (·.clientKey) hterms
    have hcontract' := congrArg (·.multisigContract) hterms
    exact .inr ⟨hkey'.trans hkey, hcontract' ▸ hcontract⟩

theorem Offers.not_restored (ho : Offers w) (he : Effect p start a w w') {s : StateRef}
    (hlt : s < w.states.next) (hs : ¬ Restored w s) : ¬ Restored w' s := by
  rintro ⟨hkey, hcontract⟩
  rcases he.changes s with hsame | ⟨st, hst, hch⟩
  · have h₁ := core_field hsame (·.clientKey) fun _ => rfl
    have h₂ := core_field hsame (·.multisigContract) fun _ => rfl
    exact hs ⟨h₁ ▸ hkey, h₂ ▸ hcontract⟩
  · rw [hst] at hkey hcontract
    cases hch with
    | restored _ _ heq | started _ heq => exact absurd heq (Nat.ne_of_lt hlt)
    | keysSet => cases hkey
    | contractGiven _ _ _ hwait =>
      have := ho.keyed s hwait
      rw [hkey] at this
      cases this
    | _ => exact hs ⟨hkey, hcontract⟩

/-- The contract whose broadcast completes is one of the broadcasts. -/
theorem Completing.isOffer {b : Nat} {success : Bool} {s : StateRef} {c : ConnRef}
    {provided : ProvideContract} (hb : Completing start a b success s c provided)
    (hdone : Quiet (start.complete b) w) : IsOffer w b s c provided := by
  refine ⟨?_, ?_⟩
  · rw [hdone.broadcasts]
    exact hb.allocated
  · rw [hdone.broadcasts]
    simpa [World.complete] using hb.purpose

section Step

variable (ho : Offers w) (he : Effect p start a w w')
include ho he

theorem Offers.started_step (hw : Connections w) {b : Nat} {s : StateRef} {c : ConnRef}
    {provided : ProvideContract} (hb : IsOffer w' b s c provided) :
    (w'.servers.read c).step ≠ .waitingOnClientVersion := by
  rcases he.offer hb with hold | ⟨tx, hs, rfl⟩
  · exact he.step_started (hw.offer b s c provided hold) (ho.started b s c provided hold)
  · intro hstep
    have := hs.step.symm.trans hstep
    cases this

theorem Offers.own_step (ha : Allocated w) {b : Nat} {s' s : StateRef} {c : ConnRef}
    {provided : ProvideContract} (hb : IsOffer w' b s' c provided)
    (hc : (w'.servers.read c).state = some s) : ¬ Restored w' s := by
  rcases he.serverState hc with hold | hnew
  · rcases he.offer hb with hb | ⟨tx, hs, rfl⟩
    · exact ho.not_restored he (ha.server c s hold) (ho.own b s' c provided s hb hold)
    · -- the contract just offered has a client key
      obtain rfl := Option.some.inj (hold.symm.trans hs.serverState)
      have hkey := ho.keyed s hs.state_eq
      rintro ⟨hnone, -⟩
      simp only [Heap.read_modify_self] at hnone
      rw [hnone] at hkey
      cases hkey
  · cases hnew with
    | refund _ _ _ _ _ _ _ hfresh =>
      rintro ⟨-, hcontract⟩
      rw [hfresh] at hcontract
      cases hcontract
    | resumed _ _ _ _ _ _ _ _ hstep =>
      rcases he.offer hb with hb | ⟨tx, hs, -⟩
      · exact absurd hstep (ho.started b s' c provided hb)
      · exact absurd (hs.step.symm.trans hstep) (by decide)

theorem Offers.bare_step {s : StateRef}
    (hs : (w'.states.read s).state = .waitingForRefundTransaction) :
    (w'.states.read s).multisigContract = none := by
  rcases he.changes s with hsame | ⟨st, hst, hch⟩
  · have h₁ := core_field hsame (·.state) fun _ => rfl
    have h₂ := core_field hsame (·.multisigContract) fun _ => rfl
    exact h₂.trans (ho.bare s (h₁ ▸ hs))
  · rw [hst] at hs ⊢
    cases hch with
    | started => rfl
    | deducted | untied | accepted | unlockSet | keysSet | stored => exact ho.bare s hs
    | contractGiven _ _ _ hwait | totalSet _ _ _ hwait => exact absurd (hwait.symm.trans hs) (by decide)
    | contractDone _ success | settlementDone _ success => cases success <;> cases hs
    | _ => cases hs

theorem Offers.keyed_step {s : StateRef}
    (hs : (w'.states.read s).state = .waitingForMultisigContract) :
    (w'.states.read s).clientKey.isSome := by
  rcases he.changes s with hsame | ⟨st, hst, hch⟩
  · have h₁ := core_field hsame (·.state) fun _ => rfl
    have h₂ := core_field hsame (·.clientKey) fun _ => rfl
    exact h₂ ▸ ho.keyed s (h₁ ▸ hs)
  · rw [hst] at hs ⊢
    cases hch with
    | keysSet => rfl
    | refundSigned _ _ hsign =>
      obtain ⟨key, hkey, -⟩ := hsign.keys
      exact Option.isSome_iff_exists.mpr ⟨key, hkey⟩
    | deducted | untied | accepted | unlockSet | stored | contractGiven | totalSet =>
      exact ho.keyed s hs
    | contractDone _ success | settlementDone _ success => cases success <;> cases hs
    | _ => cases hs

theorem Offers.ready_step (hbr : Broadcasts w) {s : StateRef}
    (hs : (w'.states.read s).state = .ready) : Origin w' s := by
  have hkeep : (w.states.read s).state = .ready → Origin w' s := fun hready =>
    (ho.ready s hready).step he (hbr.lt_of_ne_error (by rw [hready]; decide))
      (by rw [Bound, hready]; decide)
  rcases he.changes s with hsame | ⟨st, hst, hch⟩
  · exact hkeep ((core_field hsame (·.state) fun _ => rfl).symm.trans hs)
  · have hs' : st.state = .ready := hst ▸ hs
    cases hch with
    | deducted | untied | accepted | stored | unlockSet | keysSet | contractGiven | totalSet =>
      exact hkeep hs'
    | restored r T => exact .inr ⟨by rw [hst], by rw [hst]; rfl⟩
    | contractDone b success c provided hb hdone =>
      exact .inl ⟨b, (hb.isOffer hdone).isContract.step he⟩
    | settlementDone _ success => cases success <;> cases hs'
    | _ => cases hs'

theorem Offers.stored_step (hbr : Broadcasts w) {s : StateRef}
    (hs : .channelStored s ∈ w'.trace) : s < w'.states.next ∧ Bound w' s ∧ Origin w' s := by
  have hold : s < w.states.next ∧ Bound w s ∧ Origin w s := by
    rcases he.trace_of rfl hs with h | h
    · exact ho.stored s h
    · cases h with
      | channelStored _ hready =>
        exact ⟨hbr.lt_of_ne_error (by rw [hready]; decide), by rw [Bound, hready]; decide,
          ho.ready s hready⟩
  exact ⟨lt_of_lt_of_le hold.1 he.statesNext_le, (he.keepsTerms hold.1 hold.2.1).bound,
    hold.2.2.step he hold.1 hold.2.1⟩

end Step

theorem Passed.offers {ok : World → Env × Action → Prop} {autosave : Bool}
    (h : Passed p ok autosave w) : Offers w :=
  Visited.invariant (.initial autosave)
    (fun _ _ _ _ hs hok hpath _ ho he =>
      have ht := hs.path hok hpath
      { started := fun _ _ _ _ hb => ho.started_step he (Passed.connections ht) hb
        own := fun _ _ _ _ _ hb hc => ho.own_step he (Passed.allocated ht) hb hc
        bare := fun _ hs => ho.bare_step he hs
        keyed := fun _ hs => ho.keyed_step he hs
        ready := fun _ hs => ho.ready_step he (Passed.broadcasts ht) hs
        stored := fun _ hs => ho.stored_step he (Passed.broadcasts ht) hs }) h

/-- The state of a connection that offered a contract, once it is stored,
is one whose contract was broadcast. -/
theorem Offers.isContract_of_stored (ho : Offers w) {b : Nat} {s' s : StateRef} {c : ConnRef}
    {provided : ProvideContract} (hb : IsOffer w b s' c provided)
    (hc : (w.servers.read c).state = some s) (hs : .channelStored s ∈ w.trace) :
    ∃ b, IsContract w b s :=
  (ho.stored s hs).2.2.resolve_right (ho.own b s' c provided s hb hc)

end BitMesh.Channels
