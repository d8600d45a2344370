import BitMesh.Sentry.Changes

/-!
# The grace budget

A client is graced for five seconds over its whole life: each tick that
finds it GRACED charges the time since it was last graced. A payment ends
the grace period as well, and charges nothing, so what has passed since
the last tick is free. When no payment falls between the ticks of a
GRACED client, the time it was GRACED is the time it was charged, and the
budget is exceeded by at most one tick.
-/

namespace BitMesh.Sentry

open BitMesh.Lib

/-! ## The account of one client -/

/-- What a GRACED client was charged, and what it is yet to be charged. It
was GRACED for `millis`, and the last tick was at `tick`. -/
structure Graced (d now millis tick : Int) (ticking : Option Bool) (logic : SentryTimeLogic) :
    Prop where
  charged : millis ≤
    initialGracePeriod - logic.gracePeriodRemaining + (now - logic.lastTimeGraced)
  lastTick : tick = logic.lastTimeGraced
  since : logic.lastTimeGraced ≤ now
  within : now ≤ logic.lastTimeGraced + d
  still : ticking ≠ none → now = logic.lastTimeGraced
  left : 0 < logic.gracePeriodRemaining ∨ ticking = some false
  unfunded : logic.timePurchased < logic.timeSpent
  checked : logic.lastTimeChecked ≤ now

/-- The account of the time a client was GRACED. -/
structure Budget (d now millis tick : Int) (c : ConnectedClient) (logic : SentryTimeLogic) :
    Prop where
  floor : -d ≤ logic.gracePeriodRemaining
  spent : c.getPaymentState ≠ .graced →
    millis ≤ initialGracePeriod - logic.gracePeriodRemaining
  graced : c.getPaymentState = .graced → Graced d now millis tick c.ticking logic

namespace Budget

variable {d now millis tick : Int} {c : ConnectedClient} {logic : SentryTimeLogic}

/-- At most one tick more than the budget. -/
theorem bound (h : Budget d now millis tick c logic) : millis ≤ initialGracePeriod + d := by
  have hfloor := h.floor
  by_cases hstate : c.getPaymentState = .graced
  · obtain ⟨hcharged, -, -, hwithin, hstill, hleft, -, -⟩ := h.graced hstate
    rcases hleft with hleft | hticking
    · omega
    · have hnow := hstill (by simp [hticking])
      omega
  · have hspent := h.spent hstate
    omega

/-- The meter is the same, and so are the state and the tick. -/
theorem congr {c' : ConnectedClient} (h : Budget d now millis tick c logic)
    (hpayment : c'.getPaymentState = c.getPaymentState) (hticking : c'.ticking = c.ticking) :
    Budget d now millis tick c' logic where
  floor := h.floor
  spent hstate := h.spent (hpayment ▸ hstate)
  graced hstate := hticking ▸ h.graced (hpayment ▸ hstate)

theorem setReloadedChannel (h : Budget d now millis tick c logic) (reloaded : Bool) :
    Budget d now millis tick c (logic.setReloadedChannel reloaded) where
  floor := h.floor
  spent := h.spent
  graced hstate := { h.graced hstate with }

/-- Time passes: not during a tick, and to the next tick at most. -/
theorem elapse {n : Int} (h : Budget d now millis tick c logic) (hn : 0 ≤ n)
    (hticks : c.getPaymentState = .graced → now + n ≤ tick + d ∧ (c.ticking ≠ none → n = 0)) :
    Budget d (now + n) (millis + if c.getPaymentState = .graced then n else 0) tick c logic where
  floor := h.floor
  spent hstate := by
    rw [if_neg hstate, add_zero]
    exact h.spent hstate
  graced hstate := by
    obtain ⟨hwithin, hinstant⟩ := hticks hstate
    have hg := h.graced hstate
    have htick := hg.lastTick
    have hcharged := hg.charged
    have hsince := hg.since
    have hchecked := hg.checked
    rw [if_pos hstate]
    exact
      { hg with
        charged := by omega
        since := by omega
        within := by omega
        still := fun hticking => by
          have hnow := hg.still hticking
          have hzero := hinstant hticking
          omega
        checked := by omega }

/-- A payment that finds the client GRACED comes with the last tick. -/
theorem paymentIncrease (h : Budget d now millis tick c logic)
    (hlogic : c.sentryLogic = .time logic) (total : Int)
    (hpaid : c.getPaymentState = .graced → now = tick) :
    Budget d now millis tick (c.paymentIncrease now total)
      (logic.paymentIncreased c.getPaymentState now total).1 := by
  obtain ⟨-, hpayment⟩ := c.paymentIncrease_of_time now total hlogic
  by_cases hprice : logic.config.getCoinWidth = 0
  · rw [if_pos hprice] at hpayment
    have hmeter : (logic.paymentIncreased c.getPaymentState now total).1 =
        logic.startPaying c.getPaymentState now := by
      simp [SentryTimeLogic.paymentIncreased, hprice]
    rw [hmeter]
    refine congr ⟨by simpa using h.floor, by simpa using h.spent, fun hstate => ?_⟩ hpayment
      (c.paymentIncrease_ticking now total)
    have hg := h.graced hstate
    refine ⟨by simpa using hg.charged, by simpa using hg.lastTick, by simpa using hg.since,
      by simpa using hg.within, by simpa using hg.still, by simpa using hg.left,
      by simpa using hg.unfunded, ?_⟩
    unfold SentryTimeLogic.startPaying
    split
    · exact le_rfl
    · exact hg.checked
  · rw [if_neg hprice] at hpayment
    rw [SentryTimeLogic.paymentIncreased_of_price _ now total hprice]
    have hleave : (c.paymentIncrease now total).getPaymentState ≠ .graced := by
      rw [hpayment]
      cases c.getPaymentState <;> decide
    refine ⟨?_, fun _ => ?_, fun hstate => absurd hstate hleave⟩
    · simpa [SentryTimeLogic.purchase] using h.floor
    · have hspent : millis ≤ initialGracePeriod - logic.gracePeriodRemaining := by
        by_cases hstate : c.getPaymentState = .graced
        · have hcharged := (h.graced hstate).charged
          have htick := (h.graced hstate).lastTick
          have hnow := hpaid hstate
          omega
        · exact h.spent hstate
      simpa [SentryTimeLogic.purchase] using hspent

/-- The rest of a tick. -/
theorem act (h : Budget d now millis tick c logic) : Budget d now millis tick c.act logic := by
  unfold ConnectedClient.act
  dsimp only
  split
  · rename_i hticking
    refine ⟨h.floor, fun _ => ?_, fun hstate => ?_⟩
    · by_cases hstate : c.getPaymentState = .graced
      · have hcharged := (h.graced hstate).charged
        have hnow := (h.graced hstate).still (by simp [hticking])
        omega
      · exact h.spent hstate
    · rw [ConnectedClient.setPaymentState_payment] at hstate
      cases hstate
  · rename_i hticking
    refine ⟨h.floor, h.spent, fun hstate => ?_⟩
    have hg := h.graced hstate
    exact { hg with
      still := fun hnone => absurd rfl hnone
      left := .inl (hg.left.resolve_right hticking) }

/-- A client that is GRACED is not funded at the next tick either. -/
theorem unfunded_at_tick (h : Budget d now millis tick c logic)
    (hfunded : (logic.spend now).timeSpent ≤ (logic.spend now).timePurchased) :
    c.getPaymentState ≠ .graced := by
  intro hstate
  have hunfunded := (h.graced hstate).unfunded
  have hchecked := (h.graced hstate).checked
  have hquotient : 0 ≤ (now - logic.lastTimeChecked).tdiv 1000 :=
    Int.tdiv_nonneg (by omega) (by decide)
  simp only [SentryTimeLogic.spend] at hfunded
  split at hfunded <;> omega

/-- The first step of a tick. -/
theorem check (hd : 0 ≤ d) (h : Budget d now millis tick c logic)
    (hlogic : c.sentryLogic = .time logic) (hticking : c.ticking = none) :
    Budget d now millis now (c.check now now)
      (logic.accountFunded c.getPaymentState now now).logic := by
  simp only [ConnectedClient.check, hlogic]
  by_cases hfunded : (logic.spend now).timeSpent ≤ (logic.spend now).timePurchased
  · have hstate := h.unfunded_at_tick hfunded
    rw [SentryTimeLogic.accountFunded_of_funded _ now hfunded]
    exact ⟨h.floor, h.spent, fun hgraced => absurd hgraced hstate⟩
  · by_cases hleft : 0 < logic.gracePeriodRemaining
    · rw [SentryTimeLogic.accountFunded_of_graceable _ now hfunded hleft]
      dsimp only
      -- GRACED from here on, if it was not already
      have hcharge : -d ≤ ((logic.spend now).charge c.getPaymentState now).gracePeriodRemaining ∧
          millis ≤ initialGracePeriod -
            ((logic.spend now).charge c.getPaymentState now).gracePeriodRemaining := by
        have hfloor := h.floor
        simp only [SentryTimeLogic.charge, SentryTimeLogic.spend]
        by_cases hstate : c.getPaymentState = .graced
        · have hcharged := (h.graced hstate).charged
          have hwithin := (h.graced hstate).within
          rw [if_neg (not_not.mpr hstate)]
          omega
        · have hspent := h.spent hstate
          rw [if_pos hstate]
          omega
      refine ⟨hcharge.1, fun hstate => ?_, fun _ => ?_⟩
      · exact hcharge.2
      · refine ⟨?_, rfl, le_rfl, ?_, fun _ => rfl, ?_, not_le.mp hfunded, le_rfl⟩
        · have hmillis := hcharge.2
          simp only [SentryTimeLogic.charge] at hmillis ⊢
          omega
        · exact le_add_of_nonneg_right hd
        · by_cases hmore :
              0 < ((logic.spend now).charge c.getPaymentState now).gracePeriodRemaining
          · exact .inl hmore
          · exact .inr (congrArg some (decide_eq_false hmore))
    · rw [SentryTimeLogic.accountFunded_of_exhausted _ now hfunded hleft]
      have hstate : c.getPaymentState ≠ .graced := fun hgraced => by
        rcases (h.graced hgraced).left with hmore | hfound
        · exact hleft hmore
        · cases hticking.symm.trans hfound
      exact ⟨h.floor, h.spent, fun hgraced => absurd hgraced hstate⟩

end Budget

/-- The account of any client. One that buys data is never GRACED, and one
that is not made yet has no timer. -/
structure Account (d now millis tick : Int) (unborn : Prop) (c : ConnectedClient) : Prop where
  time : ∀ logic, c.sentryLogic = .time logic → Budget d now millis tick c logic
  data : ∀ logic, c.sentryLogic = .data logic → c.getPaymentState ≠ .graced ∧ millis = 0
  idle : unborn → c.getPaymentState = .new ∧ c.sentryHandler = false ∧ c.ticking = none ∧
    millis = 0

namespace Account

variable {d now millis tick : Int} {unborn : Prop} {c c' : ConnectedClient}

theorem bound (hd : 0 ≤ d) (h : Account d now millis tick unborn c) :
    millis ≤ initialGracePeriod + d := by
  cases hlogic : c.sentryLogic with
  | time logic => exact (h.time logic hlogic).bound
  | data logic =>
    rw [(h.data logic hlogic).2, initialGracePeriod]
    omega

theorem init (hd : 0 ≤ d) (ip : IpAddress) (config : BitmeshConfiguration) (start : Int) :
    Account d now 0 tick unborn (.init ip config start) where
  time logic hlogic := by
    have hinit : SentryLogic.init config = .time logic := hlogic
    rw [SentryLogic.init] at hinit
    split at hinit
    · cases hinit
      refine ⟨?_, fun _ => le_rfl, nofun⟩
      simp only [SentryTimeLogic.init, initialGracePeriod]
      omega
    · cases hinit
  data _ _ := ⟨nofun, rfl⟩
  idle _ := ⟨rfl, rfl, rfl, rfl⟩

/-- What the account is about is the same. -/
theorem congr (h : Account d now millis tick unborn c) (hlogic : c'.sentryLogic = c.sentryLogic)
    (hpayment : c'.getPaymentState = c.getPaymentState) (hticking : c'.ticking = c.ticking)
    (hhandler : c'.sentryHandler = c.sentryHandler) : Account d now millis tick unborn c' where
  time logic hlogic' := (h.time logic (hlogic ▸ hlogic')).congr hpayment hticking
  data logic hlogic' := hpayment ▸ h.data logic (hlogic ▸ hlogic')
  idle hunborn := by
    rw [hpayment, hticking, hhandler]
    exact h.idle hunborn

theorem same (h : Account d now millis tick unborn c) (hsame : c.Same c') :
    Account d now millis tick unborn c' := by
  obtain ⟨_, _, _, _, rfl⟩ := hsame
  exact h.congr rfl rfl rfl rfl

theorem elapse {n : Int} (h : Account d now millis tick unborn c) (hn : 0 ≤ n)
    (hticks : c.getPaymentState = .graced → now + n ≤ tick + d ∧ (c.ticking ≠ none → n = 0)) :
    Account d (now + n) (millis + if c.getPaymentState = .graced then n else 0) tick unborn c where
  time logic hlogic := (h.time logic hlogic).elapse hn hticks
  data logic hlogic := by
    obtain ⟨hstate, hmillis⟩ := h.data logic hlogic
    exact ⟨hstate, by rw [if_neg hstate, hmillis, add_zero]⟩
  idle hunborn := by
    obtain ⟨hstate, hhandler, hticking, hmillis⟩ := h.idle hunborn
    refine ⟨hstate, hhandler, hticking, ?_⟩
    rw [if_neg (by rw [hstate]; decide), hmillis, add_zero]

theorem setReloadedChannel (h : Account d now millis tick unborn c) :
    Account d now millis tick unborn (c.setReloadedChannel true) := by
  unfold ConnectedClient.setReloadedChannel
  split
  · rename_i logic hlogic
    refine ⟨fun logic' hlogic' => ?_, nofun, h.idle⟩
    cases hlogic'
    exact ((h.time logic hlogic).setReloadedChannel true).congr rfl rfl
  · exact h

theorem paymentIncrease (h : Account d now millis tick unborn c) (hborn : ¬ unborn) (total : Int)
    (hpaid : c.getPaymentState = .graced → now = tick) :
    Account d now millis tick unborn (c.paymentIncrease now total) := by
  cases hlogic : c.sentryLogic with
  | time logic =>
    have hmeter := (c.paymentIncrease_of_time now total hlogic).1
    refine ⟨fun logic' hlogic' => ?_, fun data hdata => ?_, fun hun => absurd hun hborn⟩
    · rw [hmeter] at hlogic'
      cases hlogic'
      exact (h.time logic hlogic).paymentIncrease hlogic total hpaid
    · cases hmeter.symm.trans hdata
  | data logic =>
    obtain ⟨data, hmeter, hstate⟩ := c.paymentIncrease_of_data now total hlogic
    refine ⟨fun logic' hlogic' => ?_, fun _ _ => ?_, fun hun => absurd hun hborn⟩
    · cases hmeter.symm.trans hlogic'
    · obtain ⟨hbefore, hmillis⟩ := h.data logic hlogic
      exact ⟨hstate hbefore, hmillis⟩

theorem check (hd : 0 ≤ d) (h : Account d now millis tick unborn c)
    (hhandler : c.sentryHandler = true) (hticking : c.ticking = none) :
    Account d now millis now unborn (c.check now now) := by
  have hborn : ¬ unborn := fun hun => absurd (hhandler.symm.trans (h.idle hun).2.1) (by decide)
  cases hlogic : c.sentryLogic with
  | time logic =>
    have hmeter := (c.check_act now now hlogic).1
    refine ⟨fun logic' hlogic' => ?_, fun data hdata => ?_, fun hun => absurd hun hborn⟩
    · rw [hmeter] at hlogic'
      cases hlogic'
      exact (h.time logic hlogic).check hd hlogic hticking
    · cases hmeter.symm.trans hdata
  | data logic =>
    have hcheck : c.check now now = { c with ticking := some true } := by
      simp only [ConnectedClient.check, hlogic]
    rw [hcheck]
    refine ⟨fun logic' hlogic' => ?_, h.data, fun hun => absurd hun hborn⟩
    cases hlogic.symm.trans hlogic'

theorem act (h : Account d now millis tick unborn c) (hticking : c.ticking.isSome = true) :
    Account d now millis tick unborn c.act := by
  have hborn : ¬ unborn := fun hun => by
    rw [(h.idle hun).2.2.1] at hticking
    cases hticking
  have hlogic : c.act.sentryLogic = c.sentryLogic := by
    unfold ConnectedClient.act
    dsimp only
    split
    · exact ConnectedClient.setPaymentState_sentryLogic _ _
    · rfl
  refine ⟨fun logic hlogic' => (h.time logic (hlogic ▸ hlogic')).act, fun data hdata => ?_,
    fun hun => absurd hun hborn⟩
  obtain ⟨hstate, hmillis⟩ := h.data data (hlogic ▸ hdata)
  refine ⟨?_, hmillis⟩
  unfold ConnectedClient.act
  dsimp only
  split
  · rw [ConnectedClient.setPaymentState_payment]
    decide
  · exact hstate

end Account

/-! ## Runs -/

/-- The account of client `r` in a world. -/
def World.Accounts (w : World) (d : Nat) (r : ClientRef) : Prop :=
  Account d w.now (w.observed r).gracedMillis (w.observed r).lastTick (w.clients.next ≤ r)
    (w.clients.read r)

/-- Ticks of client `r` take no time and are at most `d` milliseconds apart
while it is GRACED. -/
def TicksWithin (d : Nat) (r : ClientRef) (w : World) : Event → Prop
  | .elapse millis => (w.clients.read r).getPaymentState = .graced →
      w.now + millis ≤ (w.observed r).lastTick + d ∧
        ((w.clients.read r).ticking ≠ none → millis = 0)
  | _ => True

/-- No payment finds client `r` GRACED between two ticks. -/
def PaysAtTicks (r : ClientRef) (w : World) : Event → Prop
  | .paymentIncrease s _ _ => (w.sockets.read s).client = r →
      (w.clients.read r).getPaymentState = .graced → w.now = (w.observed r).lastTick
  | _ => True

instance decidableTicksWithin (d : Nat) (r : ClientRef) (w : World) : (e : Event) →
    Decidable (TicksWithin d r w e)
  | .elapse _ => inferInstanceAs (Decidable (_ → _ ∧ _))
  | .paymentIncrease _ _ _ | .save _ | .handshake _ | .closed _ | .ioException _ | .close _
  | .request _ _ _ | .channelOpen _ | .reloaded _ | .check _ | .act _ | .gapExpired _
  | .reset _ => isTrue trivial

instance decidablePaysAtTicks (r : ClientRef) (w : World) : (e : Event) →
    Decidable (PaysAtTicks r w e)
  | .paymentIncrease _ _ _ => inferInstanceAs (Decidable (_ → _ → _))
  | .elapse _ | .save _ | .handshake _ | .closed _ | .ioException _ | .close _
  | .request _ _ _ | .channelOpen _ | .reloaded _ | .check _ | .act _ | .gapExpired _
  | .reset _ => isTrue trivial

namespace World.Accounts

variable {d : Nat} {r : ClientRef} {w : World} {e : Event}

/-- Time passes as the ticks allow. -/
theorem elapse (h : w.Accounts d r) (hwithin : TicksWithin d r w e) :
    Account d (w.now + e.millis) ((w.observed r).gracedMillis +
      if (w.clients.read r).getPaymentState = .graced then e.millis else 0)
      (w.observed r).lastTick (w.clients.next ≤ r) (w.clients.read r) := by
  by_cases hzero : e.millis = 0
  · rw [hzero, add_zero, ite_self, add_zero]
    exact h
  · cases e with
    | elapse millis =>
      refine Account.elapse h (Int.natCast_nonneg millis) fun hstate => ?_
      obtain ⟨hnext, hinstant⟩ := hwithin hstate
      exact ⟨hnext, fun hticking => congrArg Nat.cast (hinstant hticking)⟩
    | _ => exact absurd rfl hzero

/-- An event that is not a tick leaves the account of what becomes of the
client in order. -/
theorem change (h : w.Accounts d r) (hw : w.Allocated) (hwithin : TicksWithin d r w e)
    (hpays : PaysAtTicks r w e) (hticks : ¬ w.Ticks r e) {c : ConnectedClient} (hchange : Change w r e c) :
    Account d (w.now + e.millis) ((w.observed r).gracedMillis +
      if (w.clients.read r).getPaymentState = .graced then e.millis else 0)
      (w.observed r).lastTick (w.clients.next ≤ r) c := by
  have hlater := h.elapse hwithin
  have hlinked : ∀ {c}, w.Linked r c → Account d (w.now + e.millis) ((w.observed r).gracedMillis +
      if (w.clients.read r).getPaymentState = .graced then e.millis else 0)
      (w.observed r).lastTick (w.clients.next ≤ r) c := by
    rintro c (hsame | ⟨hfresh, ip, hsame⟩)
    · exact hlater.same hsame
    · rw [(hlater.idle hfresh).2.2.2]
      exact (Account.init (Int.natCast_nonneg d) ip w.config w.now).same hsame
  cases hchange with
  | linked hlink => exact hlinked hlink
  | opened _ hlink => exact (hlinked hlink).congr rfl rfl rfl rfl
  | gapExpired => exact hlater.congr rfl rfl rfl rfl
  | reset _ hsame => exact (hlater.same hsame).congr rfl rfl rfl rfl
  | reloaded => exact hlater.setReloadedChannel
  | paid s increase total hs howner =>
    subst howner
    have hnow : w.now + (Event.paymentIncrease s increase total).millis = w.now := add_zero _
    rw [hnow] at hlater ⊢
    exact hlater.paymentIncrease (hw.socket s hs).not_ge total (hpays rfl)
  | checked hhandler hticking => exact absurd ⟨rfl, hhandler, hticking⟩ hticks
  | acted hticking hsame => exact (hlater.act hticking).same hsame

theorem after (h : w.Accounts d r) (hw : w.Allocated) (hwithin : TicksWithin d r w e)
    (hpays : PaysAtTicks r w e) : (w.after e).Accounts d r := by
  have hobs := World.after_observes hw e r
  have hext := World.after_extends hw e
  have hborn : ∀ {now millis tick : Int} {c : ConnectedClient},
      Account d now millis tick (w.clients.next ≤ r) c →
      Account d now millis tick ((w.after e).clients.next ≤ r) c := fun hc =>
    ⟨hc.time, hc.data, fun hunborn => hc.idle (hext.clientsNext.trans hunborn)⟩
  unfold World.Accounts
  by_cases hticks : w.Ticks r e
  · obtain rfl := hticks.1
    obtain ⟨hclient, htick⟩ := World.after_tick hticks
    have hlater := h.elapse hwithin
    have hnow : w.now + (Event.check r).millis = w.now := add_zero _
    rw [hnow] at hlater
    rw [hobs.now, hnow, hobs.gracedMillis, hclient, htick]
    exact hborn (hlater.check (Int.natCast_nonneg d) hticks.2.1 hticks.2.2)
  · rw [hobs.now, hobs.gracedMillis, hobs.lastTick hticks]
    exact hborn (h.change hw hwithin hpays hticks (World.after_change hw e r))

end World.Accounts

section

variable (now : Int) (config : BitmeshConfiguration) (inFace outFace : InterfaceName)

/-- In every run whose ticks are at most `d` milliseconds apart, and in
which no payment finds the client GRACED between two ticks, it is GRACED
for at most the grace period and one tick, over its whole life. -/
theorem graced_within_budget (d : Nat) (r : ClientRef) {w : World}
    (hrun : Reaches World.after (fun w e => TicksWithin d r w e ∧ PaysAtTicks r w e)
      (.initial now config inFace outFace) w) :
    (w.observed r).gracedMillis ≤ initialGracePeriod + d := by
  have hall : w.Allocated ∧ w.Accounts d r := by
    refine run_invariant (I := fun w => w.Accounts d r) ?_ ?_ hrun
    · exact Account.init (Int.natCast_nonneg d) _ _ _
    · exact fun w e hw hok h => h.after hw hok.1 hok.2
  exact hall.2.bound (Int.natCast_nonneg d)

end

/-- A client that is out of time, graced for two ticks, and pays with the
second one. -/
theorem graced_within_budget_two_ticks :
    (([Event.handshake clientAddress, .paymentIncrease 0 100 100, .elapse 3000, .check 0, .act 0,
      .elapse 1000, .check 0, .paymentIncrease 0 2000 2100, .act 0].foldl
        World.after accessPoint).observed 0).gracedMillis ≤ initialGracePeriod + (1000 : Nat) :=
  graced_within_budget 0 SentryTimeLogic.defaultConfiguration eth0 wlan0 1000 0
    (.along .start (by decide +kernel))

/-- Out of time, the client pays one satoshi a millisecond before every
tick: it is graced almost all the time, and never charged for it. -/
theorem graced_for_a_satoshi :
    ∃ w, Reaches World.after (TicksWithin 1000 0) accessPoint w ∧
      initialGracePeriod + (1000 : Nat) < (w.observed 0).gracedMillis :=
  ⟨([Event.handshake clientAddress, .paymentIncrease 0 100 100, .elapse 2000, .check 0, .act 0] ++
      (List.range 7).flatMap fun k =>
        [Event.elapse 999, .paymentIncrease 0 1 (101 + k), .elapse 1, .check 0, .act 0]).foldl
      World.after accessPoint,
    .along .start (by decide +kernel), by decide +kernel⟩

end BitMesh.Sentry
