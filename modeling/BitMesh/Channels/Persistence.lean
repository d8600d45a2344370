import BitMesh.Channels.Agreement
import BitMesh.Channels.RefundTimes
import BitMesh.Channels.SavedChannels

/-!
# Every channel of a run can be saved

`serializeWalletExtension` throws on records that are negative, unlock at
the epoch or hold all coins, and `putChannel` throws on timers before the
epoch. A run makes no such record, if refunds are provided in time and no
channel is stored after `close` was called on it. Whenever the server
stops in such a run, its channels come back as they were.
-/

namespace BitMesh.Channels

open BitMesh.Bitcoin BitMesh.Lib

variable {p : Platform} {start : World} {a : Env × Action} {w w' : World}

/-! ## The condition -/

/-- The contract is worth less than all coins. -/
def Affordable (contract : Transaction) : Prop :=
  ∀ output ∈ contract.outputs.head?, output.value < Coin.maxMoney.value

instance decidableAffordable (contract : Transaction) : Decidable (Affordable contract) :=
  inferInstanceAs (Decidable (∀ output ∈ contract.outputs.head?,
    output.value < Coin.maxMoney.value))

theorem Affordable.value_lt {contract : Transaction} (h : Affordable contract)
    {output : TransactionOutput} (houtput : contract.output0 = .ok output) {v : Coin}
    (hv : output.getValue = .ok v) : v.value < Coin.maxMoney.value := by
  rw [TransactionOutput.value_of_getValue hv]
  cases hs : contract.outputs with
  | nil =>
    rw [Transaction.output0, hs] at houtput
    cases houtput
  | cons o rest =>
    rw [Transaction.output0, hs] at houtput
    obtain rfl : o = output := Except.ok.inj houtput
    exact h o (by rw [hs]; rfl)

/-- Whether `close` was called on the state. -/
def World.wasClosed (w : World) (s : StateRef) : Bool :=
  w.trace.any fun
    | .closeCalled s' => s' = s
    | _ => false

theorem World.not_wasClosed {s : StateRef} (hw : w.wasClosed s = false) :
    .closeCalled s ∉ w.trace := by
  intro hmem
  rw [wasClosed, List.any_eq_false] at hw
  exact absurd (hw _ hmem) (by simp)

/-- Refunds are provided in time, the clock is past the epoch, and what is
stored was not closed before and is not worth all coins. -/
structure StoresOpen (w : World) (i : Env × Input) : Prop where
  inTime : RefundsInTime w i
  now : 0 < i.1.now
  later : 0 < i.1.later
  stored : ∀ x ∈ w.toStore i.2, w.wasClosed x.1 = false ∧ Affordable x.2

instance decidableStoresOpen (w : World) (i : Env × Input) : Decidable (StoresOpen w i) :=
  decidable_of_iff (RefundsInTime w i ∧ 0 < i.1.now ∧ 0 < i.1.later ∧
      ∀ x ∈ w.toStore i.2, w.wasClosed x.1 = false ∧ Affordable x.2)
    ⟨fun h => ⟨h.1, h.2.1, h.2.2.1, h.2.2.2⟩, fun h => ⟨h.inTime, h.now, h.later, h.stored⟩⟩

theorem OnInputs.refundsInTime (h : OnInputs StoresOpen start a) :
    OnInputs RefundsInTime start a := by
  obtain ⟨i, hi, hok⟩ := h
  exact ⟨i, hi, hok.inTime⟩

/-- What is stored under the condition. -/
theorem Storing.stillOpen {c : ConnRef} {s : StateRef} {contract : Transaction} {o : OutputRef}
    (hok : OnInputs StoresOpen start a) (hs : Storing start a w c s contract o) :
    .closeCalled s ∉ w.trace ∧ Affordable contract := by
  obtain ⟨i, hi, hok⟩ := hok
  obtain ⟨hopen, hvalue⟩ := hok.stored _ (hs.toStore hi)
  refine ⟨fun hmem => ?_, hvalue⟩
  have hw : .closeCalled s ∈ w.history := List.mem_filter.mpr ⟨hmem, rfl⟩
  rw [hs.history] at hw
  exact World.not_wasClosed hopen (List.mem_filter.mp hw).1

/-! ## What is kept -/

/-- The contract of an open channel and what it is worth. -/
def Valued (st : PaymentChannelServerState) : Prop :=
  ∃ contract output total, st.multisigContract = some contract ∧
    contract.output0 = .ok output ∧ output.getValue = .ok total ∧ st.totalValue = some total

/-- The channel was negotiated for a contract that is worth all coins. -/
structure Unaffordable (w : World) (s : StateRef) : Prop where
  allocated : s < w.states.next
  bound : Bound w s
  contract : ∃ contract, (w.states.read s).multisigContract = some contract ∧ ¬ Affordable contract

theorem Unaffordable.step (he : Effect p start a w w') {s : StateRef} (h : Unaffordable w s) :
    Unaffordable w' s := by
  obtain ⟨contract, hcontract, hvalue⟩ := h.contract
  have hkeep := he.keepsTerms h.allocated h.bound
  exact ⟨lt_of_lt_of_le h.allocated he.statesNext_le, hkeep.bound, contract,
    (terms_field hkeep.terms (·.multisigContract) fun _ => rfl).trans hcontract, hvalue⟩

theorem Affordable.not_unaffordable {contract : Transaction} (h : Affordable contract)
    {s : StateRef} (hs : (w.states.read s).multisigContract = some contract) :
    ¬ Unaffordable w s := by
  intro hnot
  obtain ⟨contract', hcontract, hvalue⟩ := hnot.contract
  obtain rfl := Option.some.inj (hs.symm.trans hcontract)
  exact hvalue h

/-- The refund of the state is locked for long enough. -/
def RefundLocked (st : PaymentChannelServerState) : Prop :=
  st.minExpireTime ≤ st.refundTransactionUnlockTimeSecs ∧
    st.refundTransactionUnlockTimeSecs < 2 ^ 32

/-- What was paid can be saved, unless the contract is worth all coins. -/
def PaidWithin (w : World) (s : StateRef) : Prop :=
  0 ≤ (w.states.read s).bestValueToMe.value ∧
    ((w.states.read s).bestValueToMe.value < Coin.maxMoney.value ∨ Unaffordable w s)

/-- What makes the records of a run fit to be saved. -/
structure Fit (p : Platform) (w : World) : Prop where
  expiry : ∀ c t, .expirySet c t ∈ w.trace → 0 < t
  unlock : ∀ s, ((w.states.read s).state = .waitingForMultisigContract ∨ ∃ b, IsContract w b s) →
    RefundLocked (w.states.read s)
  valued : ∀ s, (w.states.read s).state = .ready → Valued (w.states.read s)
  best : ∀ s, .closeCalled s ∉ w.trace → PaidWithin w s
  records : ∀ r, r < w.channels.next →
    Sound p (w.channels.read r) ∧ Affordable (w.channels.read r).contract

theorem Fit.initial (autosave : Bool) : Fit p (World.initial autosave) where
  expiry _ _ h := nomatch h
  unlock _ h := by
    rcases h with h | ⟨b, h⟩
    · cases h
    · exact absurd h.1 (Nat.not_lt_zero _)
  valued _ h := nomatch h
  best _ _ := ⟨le_rfl, .inl (show (0 : Int) < Coin.maxMoney.value by decide)⟩
  records _ h := absurd h (Nat.not_lt_zero _)

/-- A payment leaves the client no less than nothing. -/
theorem Payment.le_totalValue {s : StateRef} (pay : Payment p w s) :
    pay.newValueToMe.value ≤ pay.totalValue.value := by
  have hrefund : 0 ≤ pay.refundSize.value := by
    rcases pay.notDust with hzero | hdust
    · rw [hzero]
      exact le_rfl
    · exact ((TransactionOutput.getMinNonDustValue_pos _).trans_le hdust).le
  have := pay.value
  omega

/-- A payment on a contract that is not worth all coins. -/
theorem Payment.lt_maxMoney {s : StateRef} (pay : Payment p w s) (hw : Valued (w.states.read s))
    (hvalue : Affordable pay.contract) : pay.newValueToMe.value < Coin.maxMoney.value := by
  obtain ⟨contract, output, total, hcontract, houtput, hv, htotal⟩ := hw
  obtain rfl := Option.some.inj (pay.contract_eq.symm.trans hcontract)
  obtain rfl := Option.some.inj (pay.totalValue_eq.symm.trans htotal)
  exact lt_of_le_of_lt pay.le_totalValue (hvalue.value_lt houtput hv)

/-- The time a refund unlocks is set before it is signed. -/
theorem Effect.unlock_kept (he : Effect p start a w w') {s : StateRef} (hs : s < w.states.next)
    (hsigned : (w.states.read s).state ≠ .waitingForRefundTransaction) :
    (w'.states.read s).refundTransactionUnlockTimeSecs =
      (w.states.read s).refundTransactionUnlockTimeSecs := by
  rcases he.changes s with hsame | ⟨st, hst, hch⟩
  · exact core_field hsame (·.refundTransactionUnlockTimeSecs) fun _ => rfl
  · rw [hst]
    cases hch with
    | unlockSet _ _ hwait => exact absurd hwait hsigned
    | restored _ _ hnew => exact absurd hnew (Nat.ne_of_lt hs)
    | started _ hnew => exact absurd hnew (Nat.ne_of_lt hs)
    | _ => rfl

/-! ## One effect -/

section Step

variable (hi : Fit p w) (he : Effect p start a w w')
include hi he

theorem Fit.expiry_step (hok : OnInputs StoresOpen start a) {c : ConnRef} {t : Int}
    (ht : .expirySet c t ∈ w'.trace) : 0 < t := by
  rcases he.trace_of rfl ht with hold | hnew
  · exact hi.expiry c t hold
  · obtain ⟨i, -, hok⟩ := hok
    cases hnew with
    | expirySet _ msg version now hmsg hv hnow =>
      rcases hnow with rfl | rfl
      · exact hok.now
      · exact hok.later

theorem Fit.unlock_step (hb : Broadcasts w) {s : StateRef}
    (hs : (w'.states.read s).state = .waitingForMultisigContract ∨ ∃ b, IsContract w' b s) :
    RefundLocked (w'.states.read s) := by
  have hwaiting : (w.states.read s).state = .waitingForMultisigContract →
      s < w.states.next ∧ (w.states.read s).state ≠ .waitingForRefundTransaction := fun h =>
    ⟨hb.lt_of_ne_error (by rw [h]; decide), by rw [h]; decide⟩
  -- the refund was signed before
  have hkeep : ((w.states.read s).state = .waitingForMultisigContract ∨ ∃ b, IsContract w b s) →
      RefundLocked (w'.states.read s) := by
    intro h
    have hexists : s < w.states.next ∧
        (w.states.read s).state ≠ .waitingForRefundTransaction := by
      rcases h with h | ⟨b, h⟩
      · exact hwaiting h
      · exact ⟨hb.allocated b s h, (hb.bound b s h).ne_refund⟩
    rw [RefundLocked, he.minExpireTime hexists.1, he.unlock_kept hexists.1 hexists.2]
    exact hi.unlock s h
  rcases hs with hwait | ⟨b, hlt, c, provided, hpurpose⟩
  · rcases he.changes s with hsame | ⟨st, hst, hch⟩
    · exact hkeep (.inl ((core_field hsame (·.state) fun _ => rfl).symm.trans hwait))
    · have hwait : st.state = .waitingForMultisigContract := hst ▸ hwait
      cases hch with
      | refundSigned c tx hsign =>
        rw [hst]
        refine ⟨hsign.minExpire.trans hsign.unlock.ge, ?_⟩
        show (w.states.read s).refundTransactionUnlockTimeSecs < 2 ^ 32
        rw [hsign.unlock]
        have := tx.lockTime.toNat_lt
        omega
      | deducted | untied | accepted | unlockSet | keysSet | contractGiven | totalSet | stored =>
        exact hkeep (.inl hwait)
      | contractDone _ success | settlementDone _ success => cases success <;> cases hwait
      | _ => cases hwait
  · rcases he.offer ⟨hlt, hpurpose⟩ with hold | ⟨tx, hoff, -⟩
    · exact hkeep (.inr ⟨b, hold.isContract⟩)
    · exact hkeep (.inl hoff.state_eq)

theorem Fit.valued_step (hagreed : Agreed p w) {s : StateRef}
    (hs : (w'.states.read s).state = .ready) : Valued (w'.states.read s) := by
  rcases he.changes s with hsame | ⟨st, hst, hch⟩
  · have hstate := core_field hsame (·.state) fun _ => rfl
    have hold : Valued (w.states.read s).core := hi.valued s (hstate ▸ hs)
    rw [← hsame] at hold
    exact hold
  · rw [hst] at hs ⊢
    cases hch with
    | deducted | untied | accepted | unlockSet | keysSet | stored => exact hi.valued s hs
    | contractGiven _ _ _ hwait | totalSet _ _ _ hwait =>
      exact absurd (hwait.symm.trans hs) (by decide)
    | restored r total _ _ hvalue =>
      obtain ⟨output, houtput, hv⟩ := hvalue
      exact ⟨_, output, total, rfl, houtput, hv, rfl⟩
    | contractDone b success c provided hb hdone =>
      obtain ⟨h⟩ := hagreed.agreement b s (hb.isOffer hdone).isContract
      exact ⟨h.contract, h.output, h.totalValue, h.contract_eq, h.output_eq, h.value_eq,
        h.totalValue_eq⟩
    | settlementDone _ success => cases success <;> cases hs
    | _ => cases hs

theorem Fit.best_step (hr : Records p w) (hb : Broadcasts w) {s : StateRef}
    (hs : .closeCalled s ∉ w'.trace) : PaidWithin w' s := by
  have hopen : .closeCalled s ∉ w.trace := fun hmem => hs (he.mem_trace rfl hmem)
  have hkeep : (w'.states.read s).bestValueToMe = (w.states.read s).bestValueToMe →
      PaidWithin w' s := by
    intro hsame
    rw [PaidWithin, hsame]
    exact (hi.best s hopen).imp_right (Or.imp_right fun h => h.step he)
  rcases he.changes s with hsame | ⟨st, hst, hch⟩
  · exact hkeep (core_field hsame (·.bestValueToMe) fun _ => rfl)
  · unfold PaidWithin at hkeep ⊢
    rw [hst] at hkeep ⊢
    cases hch with
    | deducted _ hcalled | settled _ _ hcalled | closedEarly hcalled | untied _ hcalled =>
      exact absurd hcalled hopen
    | accepted pay =>
      refine ⟨pay.nonneg, ?_⟩
      by_cases hvalue : Affordable pay.contract
      · exact .inl (pay.lt_maxMoney (hi.valued s pay.ready) hvalue)
      · have hlt : s < w.states.next := hb.lt_of_ne_error (by rw [pay.ready]; decide)
        have hbound : Bound w s := by rw [Bound, pay.ready]; decide
        have hw : Unaffordable w s := ⟨hlt, hbound, pay.contract, pay.contract_eq, hvalue⟩
        exact .inr (hw.step he)
    | restored r total _ _ hvalue =>
      -- the record exists, since its contract has an output
      have hlt : r < w.channels.next := by
        by_contra hnot
        obtain ⟨output, houtput, -⟩ := hvalue
        rw [Transaction.output0, hr.blank r (Nat.le_of_not_lt hnot)] at houtput
        cases houtput
      have hsound := (hi.records r hlt).1
      exact ⟨hsound.nonneg, .inl hsound.below⟩
    | started => exact ⟨le_rfl, .inl (show (0 : Int) < Coin.maxMoney.value by decide)⟩
    | _ => exact hkeep rfl

/-- A record that exists keeps being fit. -/
theorem Fit.record_kept (hr : Records p w) {r : ChannelRef} (hlt : r < w.channels.next) :
    Sound p (w'.channels.read r) ∧ Affordable (w'.channels.read r).contract := by
  obtain ⟨hsound, hvalue⟩ := hi.records r hlt
  have hterms := (he.channelTerms hlt).2
  have hcontract : (w'.channels.read r).contract = (w.channels.read r).contract :=
    congrArg (·.contract) hterms
  have hunlock : (w'.channels.read r).refundTransactionUnlockTimeSecs =
      (w.channels.read r).refundTransactionUnlockTimeSecs :=
    congrArg (·.refundTransactionUnlockTimeSecs) hterms
  have hkey : (w'.channels.read r).myKey = (w.channels.read r).myKey :=
    congrArg (·.myKey) hterms
  have hbest : 0 ≤ (w'.channels.read r).bestValueToMe.value ∧
      (w'.channels.read r).bestValueToMe.value < Coin.maxMoney.value := by
    rcases he.channelBest hlt with hsame | ⟨s, pay, hs, hpay⟩
    · rw [hsame]
      exact ⟨hsound.nonneg, hsound.below⟩
    · -- the payment spends the contract of the record
      have htied := (hr.tied s r hs).contract
      obtain heq := Option.some.inj (pay.contract_eq.symm.trans htied)
      rw [hpay]
      exact ⟨pay.nonneg, pay.lt_maxMoney (hi.valued s pay.ready) (heq ▸ hvalue)⟩
  refine ⟨⟨hbest.1, hbest.2, ?_, ?_, ?_⟩, hcontract ▸ hvalue⟩
  · rw [hunlock]
    exact hsound.unlock
  · rw [hunlock]
    exact hsound.unlock_lt
  · rw [hkey]
    exact hsound.key

end Step

/-- What a state says when it is stored makes a record that can be saved. -/
theorem Storing.sound {c : ConnRef} {s : StateRef} {contract : Transaction} {o : OutputRef}
    (hs : Storing start a w c s contract o) (hok : OnInputs StoresOpen start a)
    (hpath : Path p start a start w) (hi : Fit p w) (ht : Timely w) (hagreed : Agreed p w)
    (ho : Offers w) :
    Sound p ((w.store p s c contract o).channels.read w.channels.next) ∧
      Affordable ((w.store p s c contract o).channels.read w.channels.next).contract := by
  obtain ⟨hopen, hvalue⟩ := hs.stillOpen hok
  -- the connection offered a contract, so its state is not one of a record
  obtain ⟨b, success, s', provided, hb⟩ := hs.completing
  have hoffer := hb.offered hpath
  obtain ⟨b', hcontract⟩ :=
    (ho.ready s hs.ready).resolve_right (ho.own b s' c provided s hoffer hs.state)
  obtain ⟨hnonneg, hbelow⟩ := hi.best s hopen
  obtain ⟨hmin, hunlock⟩ := hi.unlock s (.inr ⟨b', hcontract⟩)
  obtain ⟨t, hexpiry, hle⟩ := ht.negotiated c s hs.state (.inr ⟨b, s', provided, hoffer⟩)
  obtain ⟨h⟩ := hagreed.agreement b' s hcontract
  have hpos := hi.expiry c t hexpiry
  have hwindow := (w.servers.read c).window.hardMin
  rw [World.store, Heap.read_alloc_new]
  refine ⟨⟨hnonneg, hbelow.resolve_right (hvalue.not_unaffordable hs.contract_eq), ?_, hunlock,
    h.serverPriv, h.serverKey_eq⟩, hvalue⟩
  show hardMinTimeWindow < (w.states.read s).refundTransactionUnlockTimeSecs
  omega

/-! ## Runs -/

section Runs

variable {autosave : Bool}

theorem Passed.fit (h : Passed p (OnInputs StoresOpen) autosave w) : Fit p w :=
  Visited.invariant (.initial autosave)
    (fun _ _ _ _ hs hok hpath _ hi he =>
      have ht := hs.path hok hpath
      { expiry := fun _ _ h => hi.expiry_step he hok h
        unlock := fun _ h => hi.unlock_step he (Passed.broadcasts ht) h
        valued := fun _ h => hi.valued_step he (Passed.agreed ht) h
        best := fun _ h => hi.best_step he (Passed.records ht) (Passed.broadcasts ht) h
        records := fun r h => by
          rcases he.newRecord h with hlt | ⟨c, s, contract, o, hstoring, rfl, rfl⟩
          · exact hi.record_kept he (Passed.records ht) hlt
          · exact hstoring.sound hok hpath hi
              (Passed.timely (Visited.mono (fun _ _ h => h.refundsInTime) ht))
              (Passed.agreed ht) (Passed.offers ht) }) h

/-- Whenever a run that meets the condition stops, its channels are saved,
and loading them into an empty wallet gives the same channels. -/
theorem channels_survive (hp : Lossless p.toBitcoinj) (h : Reached p StoresOpen autosave w) :
    ∃ saved, serializeWalletExtension p w = .ok saved ∧ ∀ env : Env, env.OnTime → ∀ t : World,
      t.mapChannels = ∅ → wp (deserializeWalletExtension p env saved) t
        (fun _ u => SameChannels w u) (fun _ _ => False) := by
  have hpassed := Reached.passed h
  have hr := Passed.records hpassed
  have hsavable : Savable p w := by
    intro x r hm
    have hlt := hr.stored x r hm
    obtain ⟨hparsed, houtput⟩ := (Passed.sent hpassed).records r hlt
    exact ⟨((Passed.fit hpassed).records r hlt).1, hparsed, (Passed.sent hpassed).outputs _ houtput⟩
  exact hsavable.roundTrip hp hr.hash

end Runs

/-- A client opens a channel with a payment of 10000 satoshis and makes it
20000; both the channel and the payment are there after a restart. -/
theorem channels_survive_20000 :
    let w := Client.run (Client.openChannel 90000 ++ [.message 0 (Client.updatePayment 1 80000)])
    Reached Client.platform StoresOpen true w ∧
      (∃ h, (w.mapChannels.lookup h).map (fun r => (w.channels.read r).bestValueToMe.value) =
        some 20000) ∧
      ∃ saved, serializeWalletExtension Client.platform w = .ok saved ∧
        ∀ env : Env, env.OnTime → ∀ t : World, t.mapChannels = ∅ →
          wp (deserializeWalletExtension Client.platform env saved) t
            (fun _ u => SameChannels w u) (fun _ _ => False) := by
  intro w
  have hreached : Reached Client.platform StoresOpen true w := .along .start (by decide +kernel)
  refine ⟨hreached, ⟨Client.platform.getHash (Reference.contract 1 100000), ?_⟩,
    channels_survive reference_lossless hreached⟩
  decide +kernel

end BitMesh.Channels
