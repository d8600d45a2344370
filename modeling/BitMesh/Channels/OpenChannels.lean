import BitMesh.Channels.Settlements

/-!
# Open channels can be settled

`provideMultiSigContract` and `incrementPayment` do not compare a contract
or an initial payment with what `sendInitiate` announces, and `close`
broadcasts nothing for a channel that is worth two fees or less. When the
contract is large enough and the initial payment worth more than that, a
channel can be settled from CHANNEL_OPEN until it is closed, since nothing
but closing takes it out of READY or lowers what it is worth.
-/

namespace BitMesh.Channels

open BitMesh.Bitcoin BitMesh.Lib Relation

variable {p : Platform} {env : Env} {start : World} {a : Env × Action} {w w' : World}
  {s : StateRef}

/-! ## Closing a channel that is worth it -/

/-- The state `s` is open, and the payment it holds is backed and worth
more than two fees. -/
structure Payable (p : Platform) (w : World) (s : StateRef) : Prop where
  ready : (w.states.read s).state = .ready
  worth : 2000 < (w.states.read s).bestValueToMe.value
  backing : Nonempty (Backing p w s)

theorem Payable.congr (h : Payable p w s) (hstate : (w'.states.read s).state = .ready)
    (hterms : (w'.states.read s).terms = (w.states.read s).terms) (ho : w'.outputs = w.outputs)
    (hbest : (w'.states.read s).bestValueToMe = (w.states.read s).bestValueToMe)
    (hsig : (w'.states.read s).bestValueSignature = (w.states.read s).bestValueSignature) :
    Payable p w' s := by
  obtain ⟨hbacking⟩ := h.backing
  have hscripts : KeepsScripts w w' := by
    intro o hlt
    rw [ho]
    exact ⟨hlt, rfl⟩
  exact ⟨hstate, by rw [hbest]; exact h.worth, ⟨hbacking.congr hterms hscripts hbest hsig⟩⟩

/-- A change outside the states and the outputs. -/
theorem Payable.of_states (h : Payable p w s) (hst : w'.states = w.states)
    (ho : w'.outputs = w.outputs) : Payable p w' s :=
  h.congr (by rw [hst]; exact h.ready) (by rw [hst]) ho (by rw [hst]) (by rw [hst])

/-- The record is given up. -/
theorem Payable.untied (h : Payable p w s)
    (hst : w'.states = w.states.modify s fun st => { st with storedServerChannel := none })
    (ho : w'.outputs = w.outputs) : Payable p w' s := by
  have hread : w'.states.read s = { w.states.read s with storedServerChannel := none } := by
    rw [hst, Heap.read_modify_self]
  exact h.congr (by rw [hread]; exact h.ready) (by rw [hread]; rfl) ho (by rw [hread])
    (by rw [hread])

/-- A settlement of `s` was broadcast, and its state has moved on. -/
structure Settles (w : World) (s : StateRef) : Prop where
  settlement : ∃ b, IsSettlement w b s
  closing : State.closing.ordinal ≤ (w.states.read s).state.ordinal

theorem Settles.quiet (h : Settles w s) (hq : Quiet w w') : Settles w' s := by
  obtain ⟨b, hb⟩ := h.settlement
  refine ⟨⟨b, ?_⟩, by rw [hq.state_eq s]; exact h.closing⟩
  rw [IsSettlement, hq.broadcasts]
  exact hb

theorem settle_settles (hp : Ideal p.toBitcoinj) (h : Payable p w s) :
    wp (settle p env s) w (fun _ t => Settles t s) (fun _ _ => False) := by
  obtain ⟨hbacking⟩ := h.backing
  simp only [settle, wp_bind, wp_readState, wp_ite, wp_pure, wp_tryCatch, wp_throw, h.ready]
  refine ⟨fun hearly => absurd hearly (lt_irrefl _), fun _ => ⟨fun hne => absurd rfl hne, ?_⟩⟩
  intro _
  refine wp.mono (hbacking.makeSettlement hp env h.worth) (fun res t hres => ?_) fun _ _ hf => hf
  cases res with
  | none => cases hres
  | some tx =>
    simp only [broadcastTransaction, wp_bind, wp_modifyState, wp_modify, wp_pure]
    exact ⟨⟨t.broadcasts.next, Nat.lt_succ_self _, by simp⟩, by simp⟩

theorem closeWith_settles {cc : ChannelRef → Method Unit} (hp : Ideal p.toBitcoinj)
    (h : Payable p w s) (hfree : (w.states.read s).storedServerChannel = none) :
    wp (closeWith p env cc s) w (fun _ t => Settles t s) (fun _ _ => False) := by
  simp only [closeWith, wp_bind, wp_note, wp_readState, hfree]
  exact settle_settles hp (h.of_states rfl rfl)

/-- The record still has its state, which gave the record up. -/
theorem closeRemoved_settles {cc : ChannelRef → Method Unit} {r : ChannelRef}
    (hp : Ideal p.toBitcoinj) (h : Payable p w s)
    (hfree : (w.states.read s).storedServerChannel = none)
    (hr : (w.channels.read r).state = some s) :
    wp (closeRemoved p (closeWith p env cc) r) w (fun _ t => Settles t s)
      (fun _ t => Settles t s) := by
  simp only [closeRemoved, wp_bind, wp_tryCatch, getOrCreateState, wp_readChannel, hr, wp_pure]
  refine wp.mono (closeWith_settles hp h hfree) (fun _ t ht => ?_) fun _ _ hf => hf.elim
  simp only [wp_modifyChannel]
  have hdropped : Settles { t with
      channels := t.channels.modify r fun ch => { ch with state := none } } s :=
    ⟨ht.settlement, ht.closing⟩
  exact wp.mono (updatedChannel_quiet _) (fun _ _ hq => hdropped.quiet hq)
    fun _ _ hq => hdropped.quiet hq

theorem closeChannelN_settles (n : Nat) {r : ChannelRef} (hp : Ideal p.toBitcoinj)
    (h : Payable p w s) (hfree : (w.states.read s).storedServerChannel = none)
    (hr : (w.channels.read r).state = some s) :
    wp (closeChannelN p env n r) w (fun _ t => Settles t s ∨ t = w) (fun _ t => Settles t s) := by
  cases n with
  | zero => exact .inr rfl
  | succ n =>
    simp only [closeChannelN, closeChannelWith, wp_bind, wp_get, wp_ite, wp_modify, wp_note,
      wp_pure]
    refine ⟨fun _ => ?_, fun _ => .inr trivial⟩
    exact wp.mono (closeRemoved_settles hp (h.of_states rfl rfl) hfree hr) (fun _ _ ht => .inl ht)
      fun _ _ ht => ht

/-- Closing an open channel that is worth it broadcasts a settlement,
whether its record is still in the map or not. -/
theorem close_settles (hp : Ideal p.toBitcoinj) (hi : Records p w) (h : Payable p w s) :
    wp (close p env s) w (fun _ t => Settles t s) (fun _ t => Settles t s) := by
  cases hs : (w.states.read s).storedServerChannel with
  | none => exact wp.mono (closeWith_settles hp h hs) (fun _ _ ht => ht) fun _ _ hf => hf.elim
  | some r =>
    simp only [close, closeWith, closeChannel, wp_bind, wp_note, wp_readState, hs, wp_modifyState,
      wp_get]
    refine wp.mono (closeChannelN_settles _ (s := s) hp (h.untied rfl rfl) (by simp)
      (hi.tied s r hs).state) (fun _ t ht => ?_) fun _ _ ht => ht
    simp only [wp_ite, wp_pure]
    refine ⟨fun hclosing => ?_, fun hopen => ?_⟩
    · rcases ht with ht | rfl
      · exact ht
      · -- nothing was done, so the state is still open
        simp [h.ready] at hclosing
        exact absurd hclosing (by decide)
    · rcases ht with ht | rfl
      · exact absurd ht.closing hopen
      · exact wp.mono (settle_settles hp (h.untied rfl rfl)) (fun _ _ ht => ht)
          fun _ _ hf => hf.elim

/-! ## Channels that nobody has closed -/

/-- What is left of a channel as long as `close` was not called for it. -/
structure Unclosed (w : World) : Prop where
  ready : ∀ s, .channelStored s ∈ w.trace → .closeCalled s ∉ w.trace →
    (w.states.read s).state = .ready
  allocated : ∀ s h v, .accepted s h v ∈ w.trace → s < w.states.next
  paid : ∀ s h v, .accepted s h v ∈ w.trace → .closeCalled s ∉ w.trace →
    v.value ≤ (w.states.read s).bestValueToMe.value

theorem Unclosed.initial (autosave : Bool) : Unclosed (World.initial autosave) where
  ready _ h := nomatch h
  allocated _ _ _ h := nomatch h
  paid _ _ _ h := nomatch h

/-- An open channel leaves READY by being closed. -/
theorem Effect.ready_kept (he : Effect p start a w w') (hstart : Broadcasts start)
    (hb : Broadcasts w) (hready : (w.states.read s).state = .ready)
    (hopen : .closeCalled s ∉ w.trace) : (w'.states.read s).state = .ready := by
  rcases he.changes s with hsame | ⟨st, hst, hch⟩
  · rw [core_field hsame (·.state) fun _ => rfl]
    exact hready
  · rw [hst]
    cases hch with
    | settled _ _ hcalled | closedEarly hcalled => exact absurd hcalled hopen
    | restored => rfl
    | started _ heq =>
      exact absurd heq (Nat.ne_of_lt (hb.lt_of_ne_error (by rw [hready]; decide)))
    | refundSigned _ _ hs => exact absurd (hs.state_eq.symm.trans hready) (by decide)
    | contractBroadcast _ _ _ hs => exact absurd (hs.state_eq.symm.trans hready) (by decide)
    | contractDone b success c provided hcompleting hdone =>
      -- the broadcast was pending, so the channel was not open yet
      have hwas : (start.states.read s).state = .ready := (hdone.state_eq s).symm.trans hready
      have hpending := hstart.pending b s ⟨hcompleting.allocated, c, provided, hcompleting.purpose⟩
        hcompleting.pending
      rw [hwas] at hpending
      rcases hpending with h | h <;> cases h
    | settlementDone b success _ hlt hpurpose hdone =>
      have hwas : (start.states.read s).state = .ready := by
        rw [hdone] at hready
        exact hready
      exact absurd (hstart.settled b s ⟨hlt, hpurpose⟩).2 (by rw [hwas]; decide)
    | _ =>
      exact hready

/-- What a channel is worth is lowered by closing it only. -/
theorem Effect.best_le (he : Effect p start a w w') (hlt : s < w.states.next)
    (hopen : .closeCalled s ∉ w.trace) :
    (w.states.read s).bestValueToMe.value ≤ (w'.states.read s).bestValueToMe.value := by
  rcases he.changes s with hsame | ⟨st, hst, hch⟩
  · rw [core_field hsame (·.bestValueToMe) fun _ => rfl]
  · rw [hst]
    cases hch with
    | deducted _ hcalled | settled _ _ hcalled => exact absurd hcalled hopen
    | restored _ _ heq | started _ heq => exact absurd heq (Nat.ne_of_lt hlt)
    | accepted pay => exact pay.increase
    | _ => exact le_rfl

section Step

variable (hi : Unclosed w) (he : Effect p start a w w')
include hi he

theorem Unclosed.ready_step (hstart : Broadcasts start) (hb : Broadcasts w)
    (hs : .channelStored s ∈ w'.trace) (hopen : .closeCalled s ∉ w'.trace) :
    (w'.states.read s).state = .ready := by
  have hopen : .closeCalled s ∉ w.trace := fun hmem => hopen (he.mem_trace rfl hmem)
  apply he.ready_kept hstart hb ?_ hopen
  rcases he.trace_of rfl hs with h | h
  · exact hi.ready s h hopen
  · cases h with
    | channelStored _ hready => exact hready

theorem Unclosed.allocated_step (hb : Broadcasts w) {h : Sha256Hash} {v : Coin}
    (hs : .accepted s h v ∈ w'.trace) :
    s < w'.states.next := by
  apply lt_of_lt_of_le ?_ he.statesNext_le
  rcases he.trace_of rfl hs with hold | hnew
  · exact hi.allocated s h v hold
  · cases hnew with
    | accepted _ pay => exact hb.lt_of_ne_error (by rw [pay.ready]; decide)

theorem Unclosed.paid_step {h : Sha256Hash} {v : Coin} (hs : .accepted s h v ∈ w'.trace)
    (hopen : .closeCalled s ∉ w'.trace) : v.value ≤ (w'.states.read s).bestValueToMe.value := by
  rcases he.trace_of rfl hs with hold | hnew
  · have hopen : .closeCalled s ∉ w.trace := fun hmem => hopen (he.mem_trace rfl hmem)
    exact le_trans (hi.paid s h v hold hopen) (he.best_le (hi.allocated s h v hold) hopen)
  · cases hnew with
    | accepted _ pay _ hw =>
      subst hw
      simp [World.accept]

end Step

theorem Passed.unclosed {ok : World → Env × Action → Prop} {autosave : Bool}
    (h : Passed p ok autosave w) : Unclosed w :=
  Visited.invariant (.initial autosave)
    (fun _ _ _ _ hs hok hpath _ hi he =>
      have hb := Passed.broadcasts (hs.path hok hpath)
      { ready := fun _ hmem hopen =>
          hi.ready_step he (Passed.broadcasts hs) hb hmem hopen
        allocated := fun _ _ _ hmem => hi.allocated_step he hb hmem
        paid := fun _ _ _ hmem hopen => hi.paid_step he hmem hopen }) h

/-- A channel that was stored and paid more than two fees can be settled
until it is closed. -/
theorem Passed.payable (hp : Ideal p.toBitcoinj) {ok : World → Env × Action → Prop}
    {autosave : Bool} (hw : Passed p ok autosave w) {b : Nat} (hs : IsContract w b s)
    (hstored : .channelStored s ∈ w.trace) {h : Sha256Hash} {v : Coin}
    (hpaid : .accepted s h v ∈ w.trace) (hworth : 2000 < v.value)
    (hopen : .closeCalled s ∉ w.trace) : Payable p w s := by
  have hi := Passed.unclosed hw
  have hready := hi.ready s hstored hopen
  have hbest := lt_of_lt_of_le hworth (hi.paid s h v hpaid hopen)
  have hnone : ∀ b', ¬ IsSettlement w b' s := fun b' =>
    (Passed.broadcasts hw).not_settled (by rw [hready]; decide)
  rcases (Passed.balanced hp hw).unsettled b s hs hnone with hlow | ⟨-, hbacking⟩
  · omega
  · exact ⟨hready, hbest, hbacking⟩

/-! ## The condition -/

/-- When a contract's broadcast completes, the contract of the connection's
state has the size that INITIATE announces, and the initial payment is
worth more than two fees. -/
def Viable (w : World) (i : Env × Input) : Prop :=
  match i.2 with
  | .broadcastDone b _ =>
      match (w.broadcasts.read b).purpose with
      | .contract _ c provided =>
          ∀ s ∈ (w.servers.read c).state, ∀ totalValue ∈ (w.states.read s).totalValue,
            (w.servers.read c).minAcceptedChannelSize.value ≤ totalValue.value ∧
              2 * Coin.referenceDefaultMinTxFee.value <
                totalValue.value - provided.initialPayment.clientChangeValue
      | .settlement _ => True
  | _ => True

instance Viable.decidable (w : World) (i : Env × Input) : Decidable (Viable w i) :=
  match i with
  | (_, .broadcastDone b _) =>
      match h : (w.broadcasts.read b).purpose with
      | .contract _ c provided =>
          decidable_of_iff (∀ s ∈ (w.servers.read c).state,
            ∀ totalValue ∈ (w.states.read s).totalValue,
              (w.servers.read c).minAcceptedChannelSize.value ≤ totalValue.value ∧
                2 * Coin.referenceDefaultMinTxFee.value <
                  totalValue.value - provided.initialPayment.clientChangeValue)
            (by simp only [Viable, h])
      | .settlement _ => isTrue (by simp only [Viable, h])
  | (_, .newServer _ _) | (_, .connectionOpen _ _) | (_, .message _ _) | (_, .funding _ _)
  | (_, .autoClose _) | (_, .connectionClosed _) | (_, .serverClose _) | (_, .confidence _ _) =>
      isTrue trivial

/-- The contract of a state for which CHANNEL_OPEN is sent was broadcast
before. -/
theorem Announcing.offered {ok : World → Env × Action → Prop} {autosave : Bool}
    (hstart : Passed p ok autosave start) (hok : ok start a) (hpath : Path p start a start w)
    {c : ConnRef} {provided : ProvideContract} {T v : Coin}
    (hs : Announcing start a w c s provided T v) :
    ∃ b c' provided', IsOffer start b s c' provided' := by
  obtain ⟨b, success, s', hb⟩ := hs.completing
  obtain ⟨b', hlt, c', provided', hpurpose⟩ :=
    (Passed.offers (hstart.path hok hpath)).isContract_of_stored (hb.offered hpath) hs.state
      hs.stored
  exact ⟨b', c', provided', Path.isOffer hpath hb.input ⟨hlt, hpurpose⟩⟩

/-- In a run that meets the condition, a channel for which CHANNEL_OPEN is
sent has at least the size that INITIATE announces, the initial payment of
its PROVIDE_CONTRACT was accepted before and is at least the minimum that
INITIATE announces, and the first call of `close` broadcasts a settlement. -/
theorem opened_channel_can_be_settled (hp : Ideal p.toBitcoinj) {autosave : Bool}
    (h : Reached p Viable autosave w) {later earlier : List Event} {c : ConnRef}
    (hsplit : w.trace = later ++ .opened c s :: earlier) :
    ∃ (agreed : Agreement p w s) (b : Nat) (s' : StateRef) (provided : ProvideContract) (v : Coin),
      (w.servers.read c).minAcceptedChannelSize.value ≤ agreed.output.value ∧
      IsOffer w b s' c provided ∧ (∃ hash, .accepted s hash v ∈ earlier) ∧
      v.value = agreed.output.value - provided.initialPayment.clientChangeValue ∧
      Coin.referenceDefaultMinTxFee.value ≤ v.value ∧
      (.closeCalled s ∉ w.trace → (∀ b, ¬ IsSettlement w b s) ∧
        ∀ env, ∃ b, IsSettlement (finalState (close p env s) w) b s) := by
  have hw := Reached.passed h
  obtain ⟨start, a, v, v', hv⟩ := Passed.emitted hw rfl hsplit
  cases hv.emitted with
  | opened _ _ provided T x hs =>
    obtain ⟨b, success, s', hb⟩ := hs.completing
    obtain ⟨i, hinput, hok⟩ := hv.ok
    obtain rfl : i = .broadcastDone b success := Action.input.inj (hinput.symm.trans hb.input)
    simp only [Viable, hb.purpose] at hok
    obtain ⟨hsize, hworth⟩ := hok s hs.startState T hs.total
    rw [← hs.value, Coin.referenceDefaultMinTxFee_value] at hworth
    -- what was negotiated is still the same in `w`
    have hlater : Later p start w :=
      (hv.path.lift id fun _ _ he => ⟨start, a, he⟩).trans hv.later_before
    obtain ⟨b', c', provided', hoffer⟩ := hs.offered hv.passed hv.ok hv.path
    have hstart := Passed.broadcasts hv.passed
    have hkeep := (Later.keepsTerms hlater (hstart.allocated b' s hoffer.isContract)
      (hstart.bound b' s hoffer.isContract)).2
    have hconfig := Later.config hlater ((Passed.connections hv.passed).state c s hs.startState)
    have hcontract := (Later.isOffer hlater hoffer).isContract
    obtain ⟨agreed⟩ := (Passed.agreed hw).agreement b' s hcontract
    have htotal : agreed.output.value = T.value := by
      have hT := (terms_field hkeep.terms (·.totalValue) fun _ => rfl).trans hs.total
      rw [← Option.some.inj (agreed.totalValue_eq.symm.trans hT)]
      exact (TransactionOutput.value_of_getValue agreed.value_eq).symm
    obtain ⟨hash, hpaid⟩ := hs.paid
    have hpaid := hv.before _ rfl hpaid
    refine ⟨agreed, b, s', provided, x, ?_, ?_, ⟨hash, hpaid⟩, ?_, ?_, fun hopen => ?_⟩
    · rw [hconfig.2.2, htotal]
      exact hsize
    · exact Later.isOffer hlater ⟨hb.allocated, hb.purpose⟩
    · rw [htotal]
      exact hs.value
    · rw [Coin.referenceDefaultMinTxFee_value]
      omega
    · have hstored := hv.before _ rfl hs.stored
      have hpayable := Passed.payable hp hw hcontract (h := hash) (v := x)
        (by simp [hsplit, hstored]) (by simp [hsplit, hpaid]) (by omega) hopen
      refine ⟨fun b => (Passed.broadcasts hw).not_settled (by rw [hpayable.ready]; decide),
        fun env => ?_⟩
      exact (wp_iff_finalState.mp (close_settles hp (Passed.records hw) hpayable)).settlement

/-- A contract of 100000 with an initial payment of 10000. -/
theorem opened_channel_can_be_settled_100000 :
    let w := Client.run (Client.openChannel 90000)
    .opened 0 0 ∈ w.trace ∧ .closeCalled 0 ∉ w.trace ∧
      ∃ b, IsSettlement (finalState (close Client.platform Client.env 0) w) b 0 := by
  intro w
  have hreached : Reached Client.platform Viable true w := .along .start (by decide +kernel)
  have hopened : .opened 0 0 ∈ w.trace := by decide +kernel
  have hnone : .closeCalled 0 ∉ w.trace := by decide +kernel
  obtain ⟨later, earlier, hsplit⟩ := List.append_of_mem hopened
  obtain ⟨_, _, _, _, _, _, _, _, _, _, hsettle⟩ :=
    opened_channel_can_be_settled reference_ideal hreached hsplit
  exact ⟨hopened, hnone, (hsettle hnone).2 Client.env⟩

/-- CHANNEL_OPEN is sent for a contract of 1000 although 1546 was announced,
after an initial payment of 400 instead of 1000, and closing the channel
broadcasts no settlement. -/
theorem opened_channel_not_settled :
    ∃ w, Reached Client.platform (fun _ _ => True) true w ∧
      .sent 0 (.initiate 1295940 1546 1000) ∈ w.trace ∧ .opened 0 0 ∈ w.trace ∧
      (w.states.read 0).totalValue = some ⟨1000, by decide⟩ ∧
      (w.states.read 0).bestValueToMe = ⟨400, by decide⟩ ∧ .closeCalled 0 ∉ w.trace ∧
      ∀ b, ¬ IsSettlement (finalState (close Client.platform Client.env 0) w) b 0 := by
  let w := Client.run
    (Client.connect 0 ++ [.message 0 Client.version] ++ Client.negotiate 0 0 [1, 255] 1 1 600)
  refine ⟨w, Reaches.foldl _ .start, by decide +kernel, by decide +kernel, by decide +kernel,
    by decide +kernel, by decide +kernel, ?_⟩
  -- the only broadcast is the contract's
  let u := finalState (close Client.platform Client.env 0) w
  have hnext : u.broadcasts.next = 1 := by decide +kernel
  have hpurpose : (u.broadcasts.read 0).purpose ≠ .settlement 0 := by decide +kernel
  intro b hb
  have hlt : b < 1 := hnext ▸ hb.1
  obtain rfl : b = 0 := by omega
  exact hpurpose hb.2

end BitMesh.Channels
