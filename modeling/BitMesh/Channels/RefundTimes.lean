import BitMesh.Channels.Client
import BitMesh.Channels.Connections

/-!
# When refunds unlock

A channel opens with a refund that stays locked for the time CLIENT_VERSION
asked for, as long as PROVIDE_REFUND comes after a CLIENT_VERSION that was
answered with an offer. The server does not check that: without one, or
after a resumed channel, `expireTime` is still 0, and a refund that
unlocks at any time is signed.
-/

namespace BitMesh.Channels

open BitMesh.Bitcoin BitMesh.Lib

variable {p : Platform} {start : World} {a : Env × Action} {w w' : World}

theorem TimeWindow.le_truncate (window : TimeWindow) (secs : Int) :
    window.minTimeWindow ≤ window.truncate secs := by
  have := window.ordered
  unfold truncate
  split
  · exact le_rfl
  · split
    · exact this
    · omega

/-- Whether CLIENT_VERSION has set when a channel of `c` expires. -/
def World.hasExpiry (w : World) (c : ConnRef) : Bool :=
  w.trace.any fun
    | .expirySet c' _ => c' = c
    | _ => false

theorem World.exists_expirySet {c : ConnRef} (h : w.hasExpiry c = true) :
    ∃ t, .expirySet c t ∈ w.trace := by
  obtain ⟨e, hmem, he⟩ := List.any_eq_true.mp h
  cases e with
  | expirySet c' t =>
    obtain rfl : c' = c := by simpa using he
    exact ⟨t, hmem⟩
  | _ => cases he

/-- The sum of a clock reading and the time a client asks for is a `long`. -/
def FitsLong (window : TimeWindow) (version : ClientVersion) (now : Int) : Prop :=
  -2 ^ 63 ≤ now + window.truncate version.timeWindowSecs ∧
    now + window.truncate version.timeWindowSecs < 2 ^ 63

instance (window : TimeWindow) (version : ClientVersion) (now : Int) :
    Decidable (FitsLong window version now) :=
  inferInstanceAs (Decidable (_ ∧ _))

/-- PROVIDE_REFUND comes after the expiry was set, and CLIENT_VERSION does
not overflow the clock. -/
def RefundsInTime (w : World) (i : Env × Input) : Prop :=
  match i.2 with
  | .message c msg =>
      (msg.type = .provideRefund → w.hasExpiry c = true) ∧
        ∀ version ∈ msg.clientVersion,
          FitsLong (w.servers.read c).window version i.1.now ∧
            FitsLong (w.servers.read c).window version i.1.later
  | _ => True

instance (w : World) (i : Env × Input) : Decidable (RefundsInTime w i) :=
  match i with
  | (_, .message _ _) => inferInstanceAs (Decidable (_ ∧ _))
  | (_, .newServer _ _) | (_, .connectionOpen _ _) | (_, .funding _ _) | (_, .broadcastDone _ _)
  | (_, .autoClose _) | (_, .connectionClosed _) | (_, .serverClose _) | (_, .confidence _ _) =>
      isTrue trivial

/-- A time the expiry of `c` was set at leaves `m` at least the smallest
window. -/
def Covers (w : World) (c : ConnRef) (m : Int) : Prop :=
  ∃ t, .expirySet c t ∈ w.trace ∧ t + (w.servers.read c).window.minTimeWindow ≤ m

theorem Covers.step {c : ConnRef} {m : Int} (h : Covers w c m) (he : Effect p start a w w')
    (hw : Connections w) : Covers w' c m := by
  obtain ⟨t, ht, hle⟩ := h
  have hc := hw.event _ c ht rfl rfl
  exact ⟨t, he.mem_trace rfl ht, by rw [(he.config (.inl hc)).1]; exact hle⟩

/-- The times of channels that are negotiated. -/
structure Timely (w : World) : Prop where
  expiry : ∀ c t, .expirySet c t ∈ w.trace → Covers w c (w.servers.read c).expireTime
  /-- A state that is being negotiated, or that its connection offered. -/
  negotiated : ∀ c s, (w.servers.read c).state = some s →
    (¬ Bound w s ∨ ∃ b s' provided, IsOffer w b s' c provided) →
    Covers w c (w.states.read s).minExpireTime
  signed : ∀ s, ((w.states.read s).state = .waitingForMultisigContract ∨ ∃ b, IsContract w b s) →
    ∃ lockTime, .refundSigned s lockTime ∈ w.trace
  locked : ∀ s lockTime, .refundSigned s lockTime ∈ w.trace →
    s < w.states.next ∧ (w.states.read s).minExpireTime ≤ lockTime

theorem Timely.initial (autosave : Bool) : Timely (World.initial autosave) where
  expiry _ _ h := nomatch h
  negotiated _ _ h := nomatch h
  signed _ h := by
    rcases h with h | ⟨b, h⟩
    · cases h
    · exact absurd h.1 (Nat.not_lt_zero _)
  locked _ _ h := nomatch h

/-- The configuration of a connection while one of its messages is handled. -/
theorem Path.window (hpath : Path p start a start w) {c : ConnRef} {msg : TwoWayChannelMessage}
    (ha : a.2 = .input (.message c msg)) :
    (w.servers.read c).window = (start.servers.read c).window := by
  have hne : ∀ size window, a.2 ≠ .input (.newServer size window) := by
    intro size window heq
    rw [ha] at heq
    cases heq
  induction hpath with
  | refl => rfl
  | tail _ he ih => rw [(he.config (.inr hne)).1, ih]

/-- CLIENT_VERSION sets an expiry that covers its window. -/
theorem covers_expireTime (hok : OnInputs RefundsInTime start a)
    (hpath : Path p start a start w) (he : Effect p start a w w') {c : ConnRef}
    {msg : TwoWayChannelMessage} {version : ClientVersion} {now : Int}
    (hmsg : a.2 = .input (.message c msg)) (hv : msg.clientVersion = some version)
    (hnow : now = a.1.now ∨ now = a.1.later) (hc : c < w.servers.next)
    (hmem : .expirySet c now ∈ w'.trace) (hset : (w'.servers.read c).expireTime =
      addLong now ((w.servers.read c).window.truncate version.timeWindowSecs)) :
    Covers w' c (w'.servers.read c).expireTime := by
  obtain ⟨i, hi, hok⟩ := hok
  obtain rfl : i = .message c msg := Action.input.inj (hi.symm.trans hmsg)
  have hfits : FitsLong (w.servers.read c).window version now := by
    rw [Path.window hpath hmsg]
    have hboth := hok.2 version hv
    rcases hnow with rfl | rfl
    · exact hboth.1
    · exact hboth.2
  refine ⟨now, hmem, ?_⟩
  rw [hset, addLong_eq hfits.1 hfits.2, (he.config (.inl hc)).1]
  exact Int.add_le_add_left ((w.servers.read c).window.le_truncate version.timeWindowSecs) now

section Step

variable (hi : Timely w) (he : Effect p start a w w')
include hi he

theorem Timely.expiry_step (hok : OnInputs RefundsInTime start a)
    (hpath : Path p start a start w) (hw : Connections w) {c : ConnRef} {t : Int}
    (ht : .expirySet c t ∈ w'.trace) : Covers w' c (w'.servers.read c).expireTime := by
  rcases he.trace_of rfl ht with h | h
  · have hc := hw.event _ c h rfl rfl
    rcases he.expireTime hc with hsame | ⟨msg, version, now, hmsg, hv, hnow, hmem, hset⟩
    · rw [hsame]
      exact (hi.expiry c t h).step he hw
    · exact covers_expireTime hok hpath he hmsg hv hnow hc hmem hset
  · cases h with
    | expirySet _ msg version now hmsg hv hnow hc hset =>
      exact covers_expireTime hok hpath he hmsg hv hnow hc ht hset

theorem Timely.negotiated_step (hok : OnInputs RefundsInTime start a) (ha : Allocated w)
    (hr : Records p w) (hw : Connections w) (ho : Offers w) {c : ConnRef} {s : StateRef}
    (hc : (w'.servers.read c).state = some s)
    (hs : ¬ Bound w' s ∨ ∃ b s' provided, IsOffer w' b s' c provided) :
    Covers w' c (w'.states.read s).minExpireTime := by
  rcases he.serverState hc with hold | hnew
  · have hlt := ha.server c s hold
    have hwas : ¬ Bound w s ∨ ∃ b s' provided, IsOffer w b s' c provided := by
      rcases hs with hfree | ⟨b, s', provided, hb⟩
      · exact .inl fun hbound => hfree (he.keepsTerms hlt hbound).bound
      · rcases he.offer hb with hb | ⟨tx, hoff, -⟩
        · exact .inr ⟨b, s', provided, hb⟩
        · obtain rfl := Option.some.inj (hold.symm.trans hoff.serverState)
          exact .inl fun hbound => hbound.ne_contract hoff.state_eq
    rw [he.minExpireTime hlt]
    exact (hi.negotiated c s hold hwas).step he hw
  · cases hnew with
    | refund msg hmsg hty _ _ hstart _ hfresh =>
      -- the condition says that the expiry was set before
      obtain ⟨i, hinput, hok⟩ := hok
      obtain rfl : i = .message c msg := Action.input.inj (hinput.symm.trans hmsg)
      obtain ⟨t, ht⟩ := World.exists_expirySet (hok.1 hty)
      rw [hfresh]
      exact (hi.expiry c t (hstart ▸ ht)).step he hw
    | resumed h r _ hres hm hst _ _ hstep _ hsame =>
      -- a resumed channel is open, and its connection has offered nothing
      exfalso
      rcases hs with hfree | ⟨b, s', provided, hb⟩
      · have htied := hr.tied s r (hr.held h r s hm hst)
        refine hfree ?_
        rw [Bound, hsame, htied.ready]
        decide
      · rcases he.offer hb with hb | ⟨tx, hoff, -⟩
        · exact ho.started b s' c provided hb hstep
        · exact absurd (hoff.step.symm.trans hstep) (by decide)

theorem Timely.signed_step {s : StateRef}
    (hs : (w'.states.read s).state = .waitingForMultisigContract ∨ ∃ b, IsContract w' b s) :
    ∃ lockTime, .refundSigned s lockTime ∈ w'.trace := by
  have hkeep : ((w.states.read s).state = .waitingForMultisigContract ∨ ∃ b, IsContract w b s) →
      ∃ lockTime, .refundSigned s lockTime ∈ w'.trace := by
    intro h
    obtain ⟨lockTime, hmem⟩ := hi.signed s h
    exact ⟨lockTime, he.mem_trace rfl hmem⟩
  rcases hs with hwait | ⟨b, hb, c, provided, hpurpose⟩
  · rcases he.changes s with hsame | ⟨st, hst, hch⟩
    · exact hkeep (.inl ((core_field hsame (·.state) fun _ => rfl).symm.trans hwait))
    · have hwait : st.state = .waitingForMultisigContract := hst ▸ hwait
      cases hch with
      | refundSigned c tx hsign hmem => exact ⟨_, hmem⟩
      | deducted | untied | accepted | unlockSet | keysSet | contractGiven | totalSet | stored =>
        exact hkeep (.inl hwait)
      | contractDone _ success | settlementDone _ success => cases success <;> cases hwait
      | _ => cases hwait
  · rcases he.offer ⟨hb, hpurpose⟩ with hold | ⟨tx, hoff, -⟩
    · exact hkeep (.inr ⟨b, hold.isContract⟩)
    · exact hkeep (.inl hoff.state_eq)

theorem Timely.locked_step (hb : Broadcasts w) {s : StateRef} {lockTime : Int}
    (hs : .refundSigned s lockTime ∈ w'.trace) :
    s < w'.states.next ∧ (w'.states.read s).minExpireTime ≤ lockTime := by
  have hold : s < w.states.next ∧ (w.states.read s).minExpireTime ≤ lockTime := by
    rcases he.trace_of rfl hs with h | h
    · exact hi.locked s lockTime h
    · cases h with
      | refundSigned c _ tx hsign =>
        exact ⟨hb.lt_of_ne_error (by rw [hsign.state_eq]; decide), hsign.minExpire⟩
  exact ⟨lt_of_lt_of_le hold.1 he.statesNext_le, by rw [he.minExpireTime hold.1]; exact hold.2⟩

end Step

theorem Passed.timely {autosave : Bool} (h : Passed p (OnInputs RefundsInTime) autosave w) :
    Timely w :=
  Visited.invariant (.initial autosave)
    (fun _ _ _ _ hs hok hpath _ hi he =>
      have ht := hs.path hok hpath
      { expiry := fun _ _ h => hi.expiry_step he hok hpath (Passed.connections ht) h
        negotiated := fun _ _ hc hs => hi.negotiated_step he hok (Passed.allocated ht)
          (Passed.records ht) (Passed.connections ht) (Passed.offers ht) hc hs
        signed := fun _ hs => hi.signed_step he hs
        locked := fun _ _ hs => hi.locked_step he (Passed.broadcasts ht) hs }) h

/-- In a run that meets the condition, CHANNEL_OPEN is only sent for a new
channel after CLIENT_VERSION was handled at some time `t`, and the refund
signed for the channel is locked until `minTimeWindow` after that. -/
theorem opened_after_locked_refund {autosave : Bool} (h : Reached p RefundsInTime autosave w)
    {later earlier : List Event} {c : ConnRef} {s : StateRef}
    (hsplit : w.trace = later ++ .opened c s :: earlier) :
    ∃ t, .expirySet c t ∈ earlier ∧ (∃ lockTime, .refundSigned s lockTime ∈ earlier) ∧
      ∀ lockTime, .refundSigned s lockTime ∈ earlier →
        t + (w.servers.read c).window.minTimeWindow ≤ lockTime := by
  obtain ⟨start, a, v, v', hv⟩ := Passed.emitted (Reached.passed h) rfl hsplit
  have hpassed := hv.passed_before
  have hi := Passed.timely hpassed
  cases hv.emitted with
  | opened _ _ provided T x hs =>
    obtain ⟨b, success, s', hb⟩ := hs.completing
    have hoffer := hb.offered hv.path
    obtain ⟨b', hcontract⟩ := (Passed.offers hpassed).isContract_of_stored hoffer hs.state hs.stored
    obtain ⟨t, ht, hle⟩ := hi.negotiated c s hs.state (.inr ⟨b, s', provided, hoffer⟩)
    obtain ⟨lockTime, hsigned⟩ := hi.signed s (.inr ⟨b', hcontract⟩)
    refine ⟨t, hv.before _ rfl ht, ⟨lockTime, hv.before _ rfl hsigned⟩, fun lockTime' hmem => ?_⟩
    -- what was negotiated is still the same in `w`
    have hlater := hv.later_before
    have hc := (Passed.connections hpassed).state c s hs.state
    have hwindow := (Later.config hlater hc).2.1
    have hmin := (Later.minExpireTime hlater (hi.locked s lockTime hsigned).1).2
    have hlocked := (Passed.timely (Reached.passed h)).locked s lockTime' (by simp [hsplit, hmem])
    rw [hwindow]
    exact le_trans hle (hmin ▸ hlocked.2)

/-- A client asks for a channel and opens it with a refund that is locked
for long enough. -/
theorem opened_after_locked_refund_25500000 :
    let w := Client.run (Client.openChannel 90000)
    ∃ later earlier, w.trace = later ++ .opened 0 0 :: earlier ∧
      ∃ t, .expirySet 0 t ∈ earlier ∧ (∃ lockTime, .refundSigned 0 lockTime ∈ earlier) ∧
        ∀ lockTime, .refundSigned 0 lockTime ∈ earlier →
          t + (w.servers.read 0).window.minTimeWindow ≤ lockTime := by
  intro w
  have hreached : Reached Client.platform RefundsInTime true w := .along .start (by decide +kernel)
  obtain ⟨later, earlier, hsplit⟩ :=
    List.append_of_mem (show .opened 0 0 ∈ w.trace by decide +kernel)
  exact ⟨_, _, hsplit, opened_after_locked_refund hreached hsplit⟩

/-- A client that never sends CLIENT_VERSION opens a channel with a refund
that could be redeemed two weeks ago. -/
theorem opened_without_clientVersion :
    ∃ w, Reached Client.platform (fun _ _ => True) true w ∧
      ∃ c s, .opened c s ∈ w.trace ∧ .refundSigned s 100000 ∈ w.trace ∧
        ∀ t, .expirySet c t ∉ w.trace := by
  let w := Client.run (Client.connect 0 ++ Client.negotiate 0 0 [1, 1] 1 100 90000)
  have hnone : w.hasExpiry 0 = false := by decide +kernel
  refine ⟨w, Reaches.foldl _ .start, 0, 0, by decide +kernel, by decide +kernel, fun t hmem => ?_⟩
  rw [World.hasExpiry, List.any_eq_false] at hnone
  exact absurd (hnone _ hmem) (by simp)

end BitMesh.Channels
