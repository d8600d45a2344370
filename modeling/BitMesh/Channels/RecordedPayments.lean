import BitMesh.Channels.Client
import BitMesh.Channels.Invariants

/-!
# Recorded payments

Once a payment is accepted, the record in the map holds at least that
payment, as long as every contract is stored only once. Nothing in the
code sees to that: PROVIDE_REFUND is answered at any step, so a client
can go through the handshake again with the contract of its open channel,
and `putChannel` replaces the record before it finds that there was one.
-/

namespace BitMesh.Channels

open BitMesh.Bitcoin BitMesh.Lib

variable {p : Platform} {start : World} {a : Env × Action} {w w' : World}

/-- Whether a channel with this contract was ever stored. -/
def World.wasStored (w : World) (h : Sha256Hash) : Bool :=
  w.trace.any fun
    | .stored h' _ => h' = h
    | _ => false

theorem World.not_wasStored {h : Sha256Hash} (hw : w.wasStored h = false) (r : ChannelRef) :
    .stored h r ∉ w.trace := by
  intro hmem
  rw [wasStored, List.any_eq_false] at hw
  exact absurd (hw _ hmem) (by simp)

/-- The input does not have a contract stored for the second time. -/
def StoresOnce (p : Platform) (w : World) (i : Env × Input) : Prop :=
  ∀ x ∈ w.toStore i.2, w.wasStored (p.getHash x.2) = false

instance (w : World) (i : Env × Input) : Decidable (StoresOnce p w i) :=
  inferInstanceAs (Decidable (∀ x ∈ w.toStore i.2, w.wasStored (p.getHash x.2) = false))

/-- What is stored under that condition is stored for the first time. -/
theorem Storing.first {c : ConnRef} {s : StateRef} {contract : Transaction} {o : OutputRef}
    (hok : OnInputs (StoresOnce p) start a) (hs : Storing start a w c s contract o)
    (r : ChannelRef) : .stored (p.getHash contract) r ∉ w.trace := by
  obtain ⟨i, hi, hok⟩ := hok
  have hnot := World.not_wasStored (hok _ (hs.toStore hi)) r
  intro hmem
  have hw : .stored (p.getHash contract) r ∈ w.history := List.mem_filter.mpr ⟨hmem, rfl⟩
  rw [hs.history] at hw
  exact hnot (List.mem_filter.mp hw).1

/-- The contract of `s` was stored, in a record that `s` still holds or
that is out of the map for good. -/
structure Settled (p : Platform) (w : World) (s : StateRef) (contract : Transaction)
    (r : ChannelRef) : Prop where
  allocated : s < w.states.next
  bound : Bound w s
  contract_eq : (w.states.read s).multisigContract = some contract
  stored : .stored (p.getHash contract) r ∈ w.trace
  held : (w.states.read s).storedServerChannel = some r ∨
    w.mapChannels.lookup (p.getHash contract) = none

theorem Emitted.stored_next {h : Sha256Hash} {r : ChannelRef}
    (he : Emitted p start a w w' (.stored h r)) : r = w.channels.next := by
  cases he
  rfl

/-- What holds when every contract is stored once. -/
structure Kept (p : Platform) (w : World) : Prop where
  recorded : ∀ r, r < w.channels.next → .stored (p.getHash (w.channels.read r).contract) r ∈ w.trace
  unique : ∀ h r r', .stored h r ∈ w.trace → .stored h r' ∈ w.trace → r = r'
  present : ∀ h r, .stored h r ∈ w.trace → w.mapChannels.lookup h = some r ∨ .removed h ∈ w.trace
  channelStored : ∀ s, .channelStored s ∈ w.trace → ∃ contract r, Settled p w s contract r
  channelOpen : ∀ c s, (w.servers.read c).step = .channelOpen →
    (w.servers.read c).state = some s →
    (w.states.read s).multisigContract = none ∨ ∃ contract r, Settled p w s contract r
  paid : ∀ s h v, .accepted s h v ∈ w.trace → ∃ r, .stored h r ∈ w.trace ∧
    (w.mapChannels.lookup h = some r → v.value ≤ (w.channels.read r).bestValueToMe.value)

theorem Kept.initial (autosave : Bool) : Kept p (World.initial autosave) where
  recorded _ h := absurd h (Nat.not_lt_zero _)
  unique _ _ _ h := nomatch h
  present _ _ h := nomatch h
  channelStored _ h := nomatch h
  channelOpen _ _ h := nomatch h
  paid _ _ _ h := nomatch h

/-- A record in the map is the one that was stored for its contract. -/
theorem Kept.stored_of_lookup (hk : Kept p w) (hi : Records p w) {h : Sha256Hash}
    {r : ChannelRef} (hr : w.mapChannels.lookup h = some r) : .stored h r ∈ w.trace :=
  hi.hash h r hr ▸ hk.recorded r (hi.stored h r hr)

/-- A state that holds a record is settled. -/
theorem Kept.settled (hk : Kept p w) (hi : Records p w) (ha : Allocated w) {s : StateRef}
    {r : ChannelRef} (hs : (w.states.read s).storedServerChannel = some r) :
    ∃ contract r, Settled p w s contract r := by
  have htied := hi.tied s r hs
  exact ⟨_, r, ha.tied s r hs, by rw [Bound, htied.ready]; decide, htied.contract,
    hk.recorded r htied.allocated, .inl hs⟩

theorem Settled.step (he : Effect p start a w w') (hok : OnInputs (StoresOnce p) start a)
    (hi : Records p w) {s : StateRef} {contract : Transaction} {r : ChannelRef}
    (hs : Settled p w s contract r) : Settled p w' s contract r := by
  have hkeep := he.keepsTerms hs.allocated hs.bound
  refine ⟨lt_of_lt_of_le hs.allocated he.statesNext_le, hkeep.bound,
    hkeep.contract.trans hs.contract_eq, he.mem_trace rfl hs.stored, ?_⟩
  rcases hs.held with hheld | hgone
  · rcases he.stored_kept hs.allocated hheld with h | ⟨-, h⟩
    · exact .inl h
    · have hcontract := Option.some.inj (hs.contract_eq.symm.trans (hi.tied s r hheld).contract)
      exact .inr (hcontract ▸ h)
  · refine .inr (Option.eq_none_iff_forall_ne_some.mpr fun r' hr' => ?_)
    rcases he.lookup hr' with h | ⟨c, s', contract', o, hst, hhash, -⟩
    · rw [hgone] at h; cases h
    · exact hst.first hok r (hhash ▸ hs.stored)

/-- Where a payment is accepted, the contract was stored. -/
theorem Kept.settled_of_paid (hk : Kept p w) (hok : OnInputs (StoresOnce p) start a)
    {s : StateRef} (pay : Payment p w s) (hpaid : PaidThrough a w s) :
    ∃ r, Settled p w s pay.contract r := by
  have hthis : ∃ contract r, Settled p w s contract r := by
    rcases hpaid with ⟨c, hstep, hc⟩ | hstored | ⟨_, _, hdirect⟩
    · rcases hk.channelOpen c s hstep hc with hnone | h
      · rw [pay.contract_eq] at hnone; cases hnone
      · exact h
    · exact hk.channelStored s hstored
    · obtain ⟨i, hinput, -⟩ := hok
      rw [hdirect] at hinput; cases hinput
  obtain ⟨contract, r, hs⟩ := hthis
  obtain rfl := Option.some.inj (hs.contract_eq.symm.trans pay.contract_eq)
  exact ⟨r, hs⟩

theorem Kept.recorded_step (hk : Kept p w) (he : Effect p start a w w') {r : ChannelRef}
    (hr : r < w'.channels.next) :
    .stored (p.getHash (w'.channels.read r).contract) r ∈ w'.trace := by
  rcases he.newRecord hr with hold | ⟨c, s, contract, o, -, rfl, rfl⟩
  · have hterms := congrArg (·.contract) (he.channelTerms hold).2
    have hcontract : (w'.channels.read r).contract = (w.channels.read r).contract := hterms
    rw [hcontract]
    exact he.mem_trace rfl (hk.recorded r hold)
  · simp [World.store]

section Step

variable (hk : Kept p w) (he : Effect p start a w w') (hok : OnInputs (StoresOnce p) start a)
include hk he hok

theorem Kept.unique_step {h : Sha256Hash} {r r' : ChannelRef} (hr : .stored h r ∈ w'.trace)
    (hr' : .stored h r' ∈ w'.trace) : r = r' := by
  rcases he.trace_of rfl hr with hold | hnew <;> rcases he.trace_of rfl hr' with hold' | hnew'
  · exact hk.unique h r r' hold hold'
  · cases hnew' with
    | stored c s contract o hs => exact absurd hold (hs.first hok r)
  · cases hnew with
    | stored c s contract o hs => exact absurd hold' (hs.first hok r')
  · exact hnew.stored_next.trans hnew'.stored_next.symm

theorem Kept.paid_step (hi : Records p w) {s : StateRef} {h : Sha256Hash} {v : Coin}
    (hv : .accepted s h v ∈ w'.trace) : ∃ r, .stored h r ∈ w'.trace ∧
      (w'.mapChannels.lookup h = some r →
        v.value ≤ (w'.channels.read r).bestValueToMe.value) := by
  rcases he.trace_of rfl hv with hold | hnew
  · obtain ⟨r, hstored, hbest⟩ := hk.paid s h v hold
    refine ⟨r, he.mem_trace rfl hstored, fun hr => ?_⟩
    rcases he.lookup hr with hr | ⟨c, s', contract, o, hst, rfl, -⟩
    · -- the record only changes with a payment that is no smaller
      rcases he.channelBest (hi.stored h r hr) with hsame | ⟨s', pay, hs', hnew⟩
      · rw [hsame]
        exact hbest hr
      · rw [hnew]
        have htied := (hi.tied s' r hs').best
        exact le_trans (hbest hr) (htied ▸ pay.increase)
    · exact absurd hstored (hst.first hok r)
  · cases hnew with
    | accepted _ pay hpaid hw =>
      obtain ⟨r, hs⟩ := hk.settled_of_paid hok pay hpaid
      refine ⟨r, he.mem_trace rfl hs.stored, fun hr => ?_⟩
      subst hw
      rcases hs.held with hheld | hgone
      · simp [World.accept, hheld]
      · have hr : w.mapChannels.lookup (p.getHash pay.contract) = some r := hr
        rw [hgone] at hr; cases hr

theorem Kept.channelOpen_step (ha : Allocated w) (hi : Records p w) (ho : Owned w) {c : ConnRef}
    {s : StateRef} (hstep : (w'.servers.read c).step = .channelOpen)
    (hc : (w'.servers.read c).state = some s) :
    (w'.states.read s).multisigContract = none ∨ ∃ contract r, Settled p w' s contract r := by
  have hkeep : ∀ {s}, (∃ contract r, Settled p w s contract r) →
      ∃ contract r, Settled p w' s contract r := fun ⟨contract, r, hs⟩ =>
    ⟨contract, r, hs.step he hok hi⟩
  -- a new state has no contract, and that of a record is settled
  have hstate : ∀ s, NewState start a w w' c s → (w'.states.read s).multisigContract = none ∨
      ∃ contract r, Settled p w' s contract r := by
    intro s hnew
    cases hnew with
    | refund msg _ _ _ _ _ _ hfresh => exact .inl (by rw [hfresh])
    | resumed h r _ hres hm hr => exact .inr (hkeep (hk.settled hi ha (hi.held h r s hm hr)))
  rcases he.serverState hc with hold | hnew
  · rcases he.step c with hsame | ⟨-, hfirst⟩ | ⟨hstepping, -⟩ | ⟨-, -, s', hs', hnew⟩
    · rcases hk.channelOpen c s (hsame ▸ hstep) hold with hnone | hs
      · rcases he.contract (ha.server c s hold) with h | ⟨hwait, c', hc', hstep'⟩
        · exact .inl (h.trans hnone)
        · -- the contract of an open connection is not negotiated by another
          have hbound : ¬ Bound w s := fun h => h.ne_contract hwait
          obtain rfl := ho c c' s hold hc' hbound
          rw [← hsame, hstep] at hstep'
          cases hstep'
      · exact .inr (hkeep hs)
    · rw [hfirst] at hstep; cases hstep
    · rw [hstep] at hstepping
      refine .inr (hkeep ?_)
      cases hstepping with
      | version _ hst => exact absurd rfl hst
      | opening s' h hopen =>
        cases hopen with
        | resumed h r hres hm hr hc' =>
          obtain rfl := Option.some.inj (hold.symm.trans hc')
          exact hk.settled hi ha (hi.held h r s hm hr)
        | propagated b success _ provided hb hc' hstart hstored =>
          obtain rfl := Option.some.inj (hold.symm.trans hc')
          exact hk.channelStored s hstored
    · obtain rfl := Option.some.inj (hc.symm.trans hs')
      exact hstate s hnew
  · exact hstate s hnew

theorem Kept.step (ha : Allocated w) (hi : Records p w) (ho : Owned w) : Kept p w' where
  recorded r hr := hk.recorded_step he hr
  unique h r r' hr hr' := hk.unique_step he hok hr hr'
  present h r hr := by
    rcases he.trace_of rfl hr with hold | hnew
    · rcases hk.present h r hold with hlookup | hremoved
      · exact he.lookup_kept hlookup (fun c s contract o hst hh => hst.first hok r (hh ▸ hold))
      · exact .inr (he.mem_trace rfl hremoved)
    · cases hnew with
      | stored c s contract o hs hw => subst hw; exact .inl (AList.lookup_insert ..)
  channelStored s hs := by
    have hsettled : ∃ contract r, Settled p w s contract r := by
      rcases he.trace_of rfl hs with hold | hnew
      · exact hk.channelStored s hold
      · cases hnew with
        | channelStored _ hready hsome =>
          obtain ⟨r, hr⟩ := Option.isSome_iff_exists.mp hsome
          exact hk.settled hi ha hr
    obtain ⟨contract, r, hsettled⟩ := hsettled
    exact ⟨contract, r, hsettled.step he hok hi⟩
  channelOpen c s hstep hc := hk.channelOpen_step he hok ha hi ho hstep hc
  paid s h v hv := hk.paid_step he hok hi hv

end Step

theorem Passed.kept {autosave : Bool} (h : Passed p (OnInputs (StoresOnce p)) autosave w) :
    Kept p w :=
  Visited.invariant (.initial autosave)
    (fun _ _ _ _ hs hok hpath _ hk he =>
      have ht := hs.path hok hpath
      hk.step he hok (Passed.allocated ht) (Passed.records ht) (Passed.owned ht)) h

/-- In a run that stores no contract twice, an accepted payment is never
lost: the record of its contract holds at least as much, and it is in the
map until it is removed. -/
theorem accepted_payment_is_kept {autosave : Bool} (h : Reached p (StoresOnce p) autosave w)
    {s : StateRef} {x : Sha256Hash} {v : Coin} (hv : .accepted s x v ∈ w.trace) :
    (∀ r, w.mapChannels.lookup x = some r →
      v.value ≤ (w.channels.read r).bestValueToMe.value) ∧
    (.removed x ∉ w.trace → ∃ r, w.mapChannels.lookup x = some r) := by
  have hk := Passed.kept (Reached.passed h)
  have hi := Passed.records (Reached.passed h)
  obtain ⟨r, hstored, hbest⟩ := hk.paid s x v hv
  refine ⟨fun r' hr' => ?_, fun hnot => ⟨r, (hk.present x r hstored).resolve_right hnot⟩⟩
  obtain rfl := hk.unique x r r' hstored (hk.stored_of_lookup hi hr')
  exact hbest hr'

/-- A channel is opened with 10000 satoshis and paid up to 50000. -/
theorem accepted_payment_is_kept_50000 :
    let w := Client.run (Client.openChannel 90000 ++ [.message 0 (Client.updatePayment 1 50000)])
    let x := Client.platform.getHash (Reference.contract 1 100000)
    .accepted 0 x ⟨50000, by decide⟩ ∈ w.trace ∧ .removed x ∉ w.trace ∧
      (∀ r, w.mapChannels.lookup x = some r → 50000 ≤ (w.channels.read r).bestValueToMe.value) ∧
      ∃ r, w.mapChannels.lookup x = some r := by
  intro w x
  have hmem : .accepted 0 x ⟨50000, by decide⟩ ∈ w.trace := by decide +kernel
  have hnot : .removed x ∉ w.trace := by decide +kernel
  have hreached : Reached Client.platform (StoresOnce Client.platform) true w :=
    .along .start (by decide +kernel)
  have hkept := accepted_payment_is_kept hreached hmem
  exact ⟨hmem, hnot, hkept.1, hkept.2 hnot⟩

/-- The client of an open channel goes through the handshake again with the
same contract. Its payment of 50000 satoshis was accepted; the record that
takes the old one's place says 0. -/
theorem replayed_handshake_loses_payment :
    ∃ w, Reached Client.platform (fun _ _ => True) true w ∧
      ∃ s x v r, .accepted s x v ∈ w.trace ∧ .removed x ∉ w.trace ∧
        w.mapChannels.lookup x = some r ∧ (w.channels.read r).bestValueToMe.value < v.value := by
  refine ⟨Client.run (Client.openChannel 90000 ++ [.message 0 (Client.updatePayment 1 50000)]
    ++ Client.negotiate 0 1 [1, 255] 1 100 90000), Reaches.foldl _ .start, 0,
    Client.platform.getHash (Reference.contract 1 100000), ⟨50000, by decide⟩, 1, ?_⟩
  decide +kernel

end BitMesh.Channels
