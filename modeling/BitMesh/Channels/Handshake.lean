import BitMesh.Channels.Client
import BitMesh.Channels.Connections

/-!
# The order of the handshake

`step` only moves forward, and an open connection pays into the contract
it announced, as long as PROVIDE_REFUND comes before the contract and the
first funding transaction before the refund. `receiveRefundMessage` and
`sendFunding` set `step` without looking at it, and PROVIDE_REFUND also
replaces the state.
-/

namespace BitMesh.Channels

open BitMesh.Bitcoin BitMesh.Lib

variable {p : Platform} {start : World} {a : Env × Action} {w w' : World}

/-! ## The values of `step` -/

/-- The value an event assigns to the `step` of `c`. -/
def Event.assigned (c : ConnRef) : Event → Option InitStep
  | .stepped c' st => if c' = c then some st else none
  | _ => none

/-- The values `step` had on the connection `c`, newest first. -/
def World.steps (w : World) (c : ConnRef) : List InitStep :=
  w.trace.filterMap (Event.assigned c) ++ [.waitingOnClientVersion]

theorem World.steps_eq (w : World) (c : ConnRef) :
    w.steps c = w.history.filterMap (Event.assigned c) ++ [.waitingOnClientVersion] := by
  rw [steps, history, List.filterMap_filter]
  congr 2
  funext e
  cases e <;> simp [Event.neutral, Event.assigned]

theorem World.steps_of_history (h : w'.history = w.history) (c : ConnRef) :
    w'.steps c = w.steps c := by
  rw [steps_eq, steps_eq, h]

/-- What one effect does to the `step` of a connection. -/
theorem Effect.steps (he : Effect p start a w w') (c : ConnRef) :
    (w'.steps c = w.steps c ∧ ((w'.servers.read c).step = (w.servers.read c).step ∨
      c = w.servers.next ∧ (w'.servers.read c).step = .waitingOnClientVersion)) ∨
    ∃ st, (Stepping p start a w c st ∨ (w.servers.read c).step = .waitingOnClientVersion) ∧
      w'.steps c = st :: w.steps c ∧ (w'.servers.read c).step = st := by
  cases he with
  | closing h =>
    have hstep : (w'.servers.read c).step = (w.servers.read c).step :=
      congrArg (·.step) (h.servers c)
    refine .inl ⟨?_, .inl hstep⟩
    cases h with
    | settling h =>
      cases h with
      | quiet hq => exact World.steps_of_history hq.history c
      | deducted | settled | closedEarly => rfl
    | _ => rfl
  | serverAdded =>
    by_cases heq : c = w.servers.next
    · exact .inl ⟨rfl, .inr ⟨heq, by simp [heq]⟩⟩
    · exact .inl ⟨rfl, .inl (by simp [Heap.read_alloc_ne _ _ heq])⟩
  | stepped c' st hst =>
    by_cases heq : c = c'
    · subst heq
      exact .inr ⟨st, .inl hst, by simp [World.steps, Event.assigned], by simp⟩
    · exact .inl ⟨by simp [World.steps, Event.assigned, Ne.symm heq],
        .inl (by simp [Heap.read_modify_ne _ _ heq])⟩
  | takenOver c' _ _ _ _ _ _ _ _ hwait | resumed c' _ _ _ _ _ _ _ _ hwait =>
    by_cases heq : c = c'
    · subst heq
      exact .inr ⟨.channelOpen, .inr hwait,
        by simp [World.steps, Event.assigned, List.filterMap_cons], by simp⟩
    · exact .inl ⟨by simp [World.steps, Event.assigned, List.filterMap_cons, Ne.symm heq],
        .inl (by simp [Heap.read_modify_ne _ _ heq])⟩
  | accepted | stored => exact .inl ⟨rfl, .inl rfl⟩
  | keyNoted e he => exact .inl ⟨by cases he <;> rfl, .inl rfl⟩
  | _ => exact .inl ⟨rfl, .inl (by simp)⟩

/-- Without an event about `c`, its `step` was never assigned. -/
theorem World.steps_of_new (hw : Connections w) {c : ConnRef} (hc : w.servers.next ≤ c) :
    w.steps c = [.waitingOnClientVersion] := by
  have hnone : w.trace.filterMap (Event.assigned c) = [] := by
    refine List.filterMap_eq_nil_iff.mpr fun e he => ?_
    cases e with
    | stepped c' st =>
      have := hw.event _ c' he rfl rfl
      exact if_neg (Nat.ne_of_lt (lt_of_lt_of_le this hc))
    | _ => rfl
  rw [World.steps, hnone]
  rfl

theorem InitStep.eq_channelOpen {st : InitStep} (h : InitStep.channelOpen.ordinal ≤ st.ordinal) :
    st = .channelOpen := by
  cases st with
  | channelOpen => rfl
  | _ => exact absurd h (by decide)

/-! ## The condition -/

/-- PROVIDE_REFUND does not come after the contract, and the funding
transaction that is followed by INITIATE not after the refund. -/
def InOrder (w : World) (i : Env × Input) : Prop :=
  match i.2 with
  | .message c msg => msg.type = .provideRefund →
      (w.servers.read c).step.ordinal ≤ InitStep.waitingOnContract.ordinal
  | .funding c _ => ∀ version ∈ (w.servers.read c).clientVersion,
      version.minor = browserMicropaymentsMinorVersion →
      incInt (w.servers.read c).numFundingSent < 2 →
      (w.servers.read c).step.ordinal ≤ InitStep.waitingOnUnsignedRefund.ordinal
  | _ => True

instance (w : World) (i : Env × Input) : Decidable (InOrder w i) :=
  match i with
  | (_, .message _ _) => inferInstanceAs (Decidable (_ → _))
  | (_, .funding c _) =>
      inferInstanceAs (Decidable (∀ version ∈ (w.servers.read c).clientVersion, _ → _ → _))
  | (_, .newServer _ _) | (_, .connectionOpen _ _) | (_, .broadcastDone _ _) | (_, .autoClose _)
  | (_, .connectionClosed _) | (_, .serverClose _) | (_, .confidence _ _) => isTrue trivial

/-- Under that condition an assignment to `step` does not go back. -/
theorem Stepping.forward (hok : OnInputs InOrder start a) {c : ConnRef} {st : InitStep}
    (hst : Stepping p start a w c st) : (w.servers.read c).step.ordinal ≤ st.ordinal := by
  obtain ⟨i, hi, hok⟩ := hok
  cases hst with
  | version _ _ _ hw => rw [hw]; exact Nat.zero_le _
  | fundingAddress hw | contract hw => rw [hw]; decide
  | initiateAgain hw => rw [hw]
  | funding tx version ha hv hminor hnum _ hw =>
    obtain rfl : i = .funding c tx := Action.input.inj (hi.symm.trans ha)
    rw [hw]
    exact hok version hv hminor hnum
  | refund msg ha hty _ hw =>
    obtain rfl : i = .message c msg := Action.input.inj (hi.symm.trans ha)
    rw [hw]
    exact hok hty
  | opening =>
    cases (w.servers.read c).step <;> decide

/-- What holds when the handshake goes in order. -/
structure Ordered (p : Platform) (w : World) : Prop where
  sorted : ∀ c, (w.steps c).Pairwise fun later earlier => earlier.ordinal ≤ later.ordinal
  current : ∀ c, (w.steps c).head? = some (w.servers.read c).step
  /-- A connection that offered a contract stays with it. -/
  offered : ∀ b s c provided, IsOffer w b s c provided →
    InitStep.waitingOnMultisigAcceptance.ordinal ≤ (w.servers.read c).step.ordinal ∧
      (w.servers.read c).state = some s
  opened : ∀ c h, .channelOpen c h ∈ w.trace → (w.servers.read c).step = .channelOpen ∧
    ∃ s contract, (w.servers.read c).state = some s ∧ s < w.states.next ∧ Bound w s ∧
      (w.states.read s).multisigContract = some contract ∧ p.getHash contract = h

theorem Ordered.initial (autosave : Bool) : Ordered p (World.initial autosave) where
  sorted _ := List.pairwise_singleton ..
  current _ := rfl
  offered _ _ _ _ h := absurd h.1 (Nat.not_lt_zero _)
  opened _ _ h := nomatch h

section Step

variable (he : Effect p start a w w') (hok : OnInputs InOrder start a)
include he hok

/-- A connection that exists does not go back. -/
theorem InOrder.step_le {c : ConnRef} (hc : c < w.servers.next) :
    (w.servers.read c).step.ordinal ≤ (w'.servers.read c).step.ordinal := by
  rcases he.step c with hsame | ⟨heq, -⟩ | ⟨hst, -⟩ | ⟨hwait, -⟩
  · exact le_of_eq (congrArg InitStep.ordinal hsame.symm)
  · exact absurd heq (Nat.ne_of_lt hc)
  · exact hst.forward hok
  · rw [hwait]
    exact Nat.zero_le _

/-- Past the contract, a connection keeps its state. -/
theorem InOrder.state_kept {c : ConnRef} {s : StateRef} (hc : c < w.servers.next)
    (hstep : InitStep.waitingOnMultisigAcceptance.ordinal ≤ (w.servers.read c).step.ordinal)
    (hs : (w.servers.read c).state = some s) : (w'.servers.read c).state = some s := by
  rcases he.serverState_cases c with hsame | ⟨heq, -⟩ | ⟨s', -, hnew⟩
  · exact hsame.trans hs
  · exact absurd heq (Nat.ne_of_lt hc)
  · exfalso
    cases hnew with
    | refund msg hmsg hty _ _ hstart =>
      obtain ⟨i, hi, hok⟩ := hok
      obtain rfl : i = .message c msg := Action.input.inj (hi.symm.trans hmsg)
      have hle := hok hty
      rw [← hstart] at hle
      exact absurd (le_trans hstep hle) (by decide)
    | resumed _ _ _ _ _ _ _ _ hfirst =>
      rw [hfirst] at hstep
      exact absurd hstep (by decide)

variable (hi : Ordered p w) (hw : Connections w)
include hi hw

theorem Ordered.steps_step (c : ConnRef) :
    (w'.steps c).Pairwise (fun later earlier => earlier.ordinal ≤ later.ordinal) ∧
      (w'.steps c).head? = some (w'.servers.read c).step := by
  have hhead := hi.current c
  rcases he.steps c with ⟨hsteps, hsame | ⟨heq, hnew⟩⟩ | ⟨st, hst, hsteps, hset⟩
  · rw [hsteps, hsame]
    exact ⟨hi.sorted c, hhead⟩
  · rw [hsteps, hnew, World.steps_of_new hw (le_of_eq heq.symm)]
    exact ⟨List.pairwise_singleton .., rfl⟩
  · rw [hsteps, hset]
    refine ⟨List.pairwise_cons.mpr ⟨fun x hx => ?_, hi.sorted c⟩, rfl⟩
    -- the newest value before is the greatest of all
    have hle : ∀ y ∈ w.steps c, y.ordinal ≤ (w.servers.read c).step.ordinal := by
      obtain ⟨rest, hrest⟩ := List.head?_eq_some_iff.mp hhead
      have hsorted := hi.sorted c
      rw [hrest] at hsorted ⊢
      intro y hy
      rcases List.mem_cons.mp hy with rfl | hy
      · exact le_rfl
      · exact (List.pairwise_cons.mp hsorted).1 y hy
    refine le_trans (hle x hx) ?_
    rcases hst with hst | hwait
    · exact hst.forward hok
    · rw [hwait]
      exact Nat.zero_le _

theorem Ordered.offered_step {b : Nat} {s : StateRef} {c : ConnRef} {provided : ProvideContract}
    (hb : IsOffer w' b s c provided) :
    InitStep.waitingOnMultisigAcceptance.ordinal ≤ (w'.servers.read c).step.ordinal ∧
      (w'.servers.read c).state = some s := by
  rcases he.offer hb with hold | ⟨tx, hoff, rfl⟩
  · have hc := hw.offer b s c provided hold
    have hbefore := hi.offered b s c provided hold
    exact ⟨le_trans hbefore.1 (InOrder.step_le he hok hc),
      InOrder.state_kept he hok hc hbefore.1 hbefore.2⟩
  · exact ⟨le_of_eq (congrArg InitStep.ordinal hoff.step.symm), hoff.serverState⟩

omit he hok hw in
/-- CHANNEL_OPEN is reported for the contract of the connection's state. -/
theorem Ordered.opening_hash (hr : Records p w) (hb : Broadcasts w)
    (hpath : Path p start a start w) {c : ConnRef} {s : StateRef} {h : Sha256Hash}
    (ho : Opening p start a w c s h) :
    ∃ contract, (w.servers.read c).state = some s ∧ s < w.states.next ∧ Bound w s ∧
      (w.states.read s).multisigContract = some contract ∧ p.getHash contract = h := by
  cases ho with
  | resumed _ r hres hm hst hc =>
    have htied := hr.tied s r (hr.held h r s hm hst)
    exact ⟨_, hc, hb.lt_of_ne_error (by rw [htied.ready]; decide),
      by rw [Bound, htied.ready]; decide, htied.contract, hr.hash h r hm⟩
  | propagated b success s' provided hcompleting hc =>
    have hoffer := hcompleting.offered hpath
    obtain rfl := Option.some.inj (hc.symm.trans (hi.offered b s' c provided hoffer).2)
    have hcontract := hoffer.isContract
    refine ⟨_, hc, hb.allocated b s hcontract, hb.bound b s hcontract,
      hb.contract b s hcontract, ?_⟩
    rw [Path.broadcast_tx hpath hcompleting.allocated]

theorem Ordered.opened_step (hr : Records p w) (hb : Broadcasts w)
    (hpath : Path p start a start w) {c : ConnRef} {h : Sha256Hash}
    (hmem : .channelOpen c h ∈ w'.trace) : (w'.servers.read c).step = .channelOpen ∧
      ∃ s contract, (w'.servers.read c).state = some s ∧ s < w'.states.next ∧ Bound w' s ∧
        (w'.states.read s).multisigContract = some contract ∧ p.getHash contract = h := by
  have hold : (w.servers.read c).step = .channelOpen ∧
      ∃ s contract, (w.servers.read c).state = some s ∧ s < w.states.next ∧ Bound w s ∧
        (w.states.read s).multisigContract = some contract ∧ p.getHash contract = h := by
    rcases he.trace_of rfl hmem with h | h
    · exact hi.opened c _ h
    · cases h with
      | channelOpen _ s _ ho hstep => exact ⟨hstep, s, hi.opening_hash hr hb hpath ho⟩
  obtain ⟨hstep, s, contract, hc, hlt, hbound, hcontract, hhash⟩ := hold
  have hlast : InitStep.channelOpen.ordinal ≤ (w'.servers.read c).step.ordinal :=
    le_trans (le_of_eq (congrArg InitStep.ordinal hstep.symm))
      (InOrder.step_le he hok (hw.state c s hc))
  have hkeep := he.keepsTerms hlt hbound
  refine ⟨InitStep.eq_channelOpen hlast, s, contract,
    InOrder.state_kept he hok (hw.state c s hc) (by rw [hstep]; decide) hc,
    lt_of_lt_of_le hlt he.statesNext_le, hkeep.bound, hkeep.contract.trans hcontract, hhash⟩

end Step

theorem Passed.ordered {autosave : Bool} (h : Passed p (OnInputs InOrder) autosave w) :
    Ordered p w :=
  Visited.invariant (.initial autosave)
    (fun _ _ _ _ hs hok hpath _ hi he =>
      have ht := hs.path hok hpath
      have hw := Passed.connections ht
      { sorted := fun c => (hi.steps_step he hok hw c).1
        current := fun c => (hi.steps_step he hok hw c).2
        offered := fun _ _ _ _ hb => hi.offered_step he hok hw hb
        opened := fun _ _ hmem =>
          hi.opened_step he hok hw (Passed.records ht) (Passed.broadcasts ht) hpath hmem }) h

/-- In a run that keeps the order, the values of `step` never decrease, and
an update after `channelOpen(x)` is applied to a state whose contract has
hash `x`. -/
theorem handshake_moves_forward {autosave : Bool} (h : Reached p InOrder autosave w) :
    (∀ c, (w.steps c).Pairwise (fun later earlier => earlier.ordinal ≤ later.ordinal) ∧
      (w.steps c).head? = some (w.servers.read c).step) ∧
    ∀ later earlier c s x, w.trace = later ++ .updateApplied c s :: earlier →
      .channelOpen c x ∈ earlier →
      ∃ contract, (w.states.read s).multisigContract = some contract ∧
        p.getHash contract = x := by
  have hpassed := Reached.passed h
  have hi := Passed.ordered hpassed
  refine ⟨fun c => ⟨hi.sorted c, hi.current c⟩, fun later earlier c s x hsplit hopen => ?_⟩
  obtain ⟨start, a, v, v', hv⟩ := Passed.emitted hpassed rfl hsplit
  have hv' : Passed p (OnInputs InOrder) autosave v' :=
    .effect a hv.passed hv.ok hv.path hv.effect
  obtain ⟨-, s', contract, hs', hlt, hbound, hcontract, hhash⟩ :=
    (Passed.ordered hv').opened c x (hv.after _ rfl hopen)
  cases hv.emitted with
  | updateApplied _ _ _ hc hservers =>
    obtain rfl := Option.some.inj (hc.symm.trans (hservers ▸ hs'))
    exact ⟨contract, (Later.contract hv.later hlt hbound).trans hcontract, hhash⟩

/-- A channel is opened and paid through in order. -/
theorem handshake_moves_forward_paid :
    let w := Client.run (Client.openChannel 90000 ++ [.message 0 (Client.updatePayment 1 50000)])
    let x := Client.platform.getHash (Reference.contract 1 100000)
    w.steps 0 = [.channelOpen, .waitingOnMultisigAcceptance, .waitingOnContract,
        .waitingOnUnsignedRefund, .waitingOnClientVersion] ∧
      (w.steps 0).Pairwise (fun later earlier => earlier.ordinal ≤ later.ordinal) ∧
      .updateApplied 0 0 ∈ w.trace ∧
      ∃ contract, (w.states.read 0).multisigContract = some contract ∧
        Client.platform.getHash contract = x := by
  intro w x
  have hreached : Reached Client.platform InOrder true w := .along .start (by decide +kernel)
  have hforward := handshake_moves_forward hreached
  have hsplit : w.trace = w.trace.take 4 ++ .updateApplied 0 0 :: w.trace.drop 5 := by
    decide +kernel
  refine ⟨by decide +kernel, (hforward.1 0).1, by decide +kernel,
    hforward.2 _ _ 0 0 x hsplit (by decide +kernel)⟩

/-- PROVIDE_REFUND on an open channel takes `step` back, and after a second
contract the next update is applied to that one's state. -/
theorem handshake_goes_back :
    ∃ w, Reached Client.platform (fun _ _ => True) true w ∧
      (∃ c, ¬ (w.steps c).Pairwise fun later earlier => earlier.ordinal ≤ later.ordinal) ∧
      ∃ later earlier c s x contract, w.trace = later ++ .updateApplied c s :: earlier ∧
        .channelOpen c x ∈ earlier ∧ (w.states.read s).multisigContract = some contract ∧
        Client.platform.getHash contract ≠ x := by
  let w := Client.run (Client.openChannel 90000 ++ Client.negotiate 0 1 [1, 255] 2 100 90000
    ++ [.message 0 (Client.updatePayment 2 50000)])
  refine ⟨w, Reaches.foldl _ .start, ⟨0, by decide +kernel⟩, w.trace.take 4, w.trace.drop 5, 0, 1,
    Client.platform.getHash (Reference.contract 1 100000), Reference.contract 2 100000, ?_⟩
  decide +kernel

end BitMesh.Channels
