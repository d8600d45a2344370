import BitMesh.Sentry.Changes

/-!
# Every payment buys service

The timer decides and acts in two steps. A payment that arrives in
between is counted, and then undone: the timer disconnects the client it
found unfunded. The next payment finds the client DISCONNECTED, and that
branch of `paymentIncrease` does nothing.
-/

namespace BitMesh.Sentry

open BitMesh.Lib

/-! ## Nothing is sold without a price -/

namespace SentryTimeLogic

/-- A meter with a price of zero sells nothing: every payment divides by
zero before the time is bought. -/
def Unsold (logic : SentryTimeLogic) (now : Int) : Prop :=
  logic.config.getCoinWidth = 0 →
    logic.timePurchased = 0 ∧ 0 ≤ logic.timeSpent ∧
      (logic.currentlyPaying = true → logic.lastTimeChecked ≤ now)

variable {logic : SentryTimeLogic} {now : Int}

theorem Unsold.later {now' : Int} (h : logic.Unsold now) (hnow : now ≤ now') :
    logic.Unsold now' := by
  intro hprice
  obtain ⟨hpurchased, hspent, hchecked⟩ := h hprice
  exact ⟨hpurchased, hspent, fun hpaying => (hchecked hpaying).trans hnow⟩

theorem init_unsold (config : BitmeshConfiguration) : (init config).Unsold now :=
  fun _ => ⟨rfl, le_rfl, nofun⟩

theorem Unsold.startPaying (h : logic.Unsold now) (paymentState : PaymentState) :
    (logic.startPaying paymentState now).Unsold now := by
  intro hprice
  rw [startPaying_config] at hprice
  obtain ⟨hpurchased, hspent, hchecked⟩ := h hprice
  refine ⟨by simpa using hpurchased, by simpa using hspent, fun _ => ?_⟩
  unfold SentryTimeLogic.startPaying
  split
  · exact le_rfl
  · rename_i hpaying
    exact hchecked (by simp_all)

theorem Unsold.paymentIncreased (h : logic.Unsold now) (paymentState : PaymentState)
    (total : Int) : (logic.paymentIncreased paymentState now total).1.Unsold now := by
  unfold SentryTimeLogic.paymentIncreased
  dsimp only
  split
  · exact h.startPaying paymentState
  · rename_i hprice
    exact fun hzero => absurd hzero hprice

theorem Unsold.spend (h : logic.Unsold now) : (logic.spend now).Unsold now := by
  intro hprice
  obtain ⟨hpurchased, hspent, hchecked⟩ := h hprice
  refine ⟨hpurchased, ?_, fun _ => le_rfl⟩
  simp only [SentryTimeLogic.spend]
  split
  · rename_i hpaying
    have hquotient : 0 ≤ (now - logic.lastTimeChecked).tdiv 1000 :=
      Int.tdiv_nonneg (by have := hchecked hpaying; omega) (by decide)
    omega
  · exact hspent

theorem Unsold.accountFunded (h : logic.Unsold now) (paymentState : PaymentState) :
    (logic.accountFunded paymentState now now).logic.Unsold now := by
  have hspend := h.spend
  by_cases hfunded : (logic.spend now).timeSpent ≤ (logic.spend now).timePurchased
  · rw [accountFunded_of_funded paymentState now hfunded]
    exact fun hprice => ⟨(hspend hprice).1, (hspend hprice).2.1, fun _ => le_rfl⟩
  · obtain ⟨hconfig, -, hpurchased, hspent, hchecked, -, -⟩ :=
      accountFunded_of_unfunded paymentState now hfunded
    intro hprice
    rw [hconfig] at hprice
    rw [hpurchased, hspent, hchecked]
    exact ⟨(hspend hprice).1, (hspend hprice).2.1, fun _ => le_rfl⟩

end SentryTimeLogic

namespace ConnectedClient

/-- `Unsold` of the meter of a client, if it sells time. -/
def Unsold (client : ConnectedClient) (now : Int) : Prop :=
  ∀ logic, client.sentryLogic = .time logic → logic.Unsold now

variable {client : ConnectedClient} {now : Int}

theorem Unsold.same {c : ConnectedClient} (h : client.Unsold now) (hsame : client.Same c) :
    c.Unsold now := by
  obtain ⟨_, _, _, _, rfl⟩ := hsame
  exact h

theorem init_sentryLogic (ip : IpAddress) (config : BitmeshConfiguration) :
    (init ip config now).sentryLogic = .init config := rfl

theorem init_unsold (ip : IpAddress) (config : BitmeshConfiguration) :
    (init ip config now).Unsold now := by
  intro logic hlogic
  rw [init_sentryLogic, SentryLogic.init] at hlogic
  split at hlogic
  · cases hlogic
    exact SentryTimeLogic.init_unsold config
  · cases hlogic

theorem Unsold.paymentIncrease (h : client.Unsold now) (total : Int) :
    (client.paymentIncrease now total).Unsold now := by
  cases hlogic : client.sentryLogic with
  | time logic =>
    intro logic' hlogic'
    rw [(client.paymentIncrease_of_time now total hlogic).1] at hlogic'
    cases hlogic'
    exact (h logic hlogic).paymentIncreased _ total
  | data logic =>
    intro logic' hlogic'
    obtain ⟨data, hdata, -⟩ := client.paymentIncrease_of_data now total hlogic
    cases hdata.symm.trans hlogic'

theorem Unsold.check (h : client.Unsold now) : (client.check now now).Unsold now := by
  intro logic' hlogic'
  unfold ConnectedClient.check at hlogic'
  split at hlogic'
  · rename_i logic hlogic
    cases hlogic'
    exact (h logic hlogic).accountFunded _
  · rename_i logic hlogic
    cases hlogic.symm.trans hlogic'

theorem Unsold.act (h : client.Unsold now) : client.act.Unsold now := by
  unfold ConnectedClient.act
  dsimp only
  split
  · exact h
  · exact h

theorem Unsold.setReloadedChannel (h : client.Unsold now) :
    (client.setReloadedChannel true).Unsold now := by
  unfold ConnectedClient.setReloadedChannel
  split
  · rename_i logic hlogic
    intro logic' hlogic'
    cases hlogic'
    exact h logic hlogic
  · exact h

end ConnectedClient

theorem World.Linked.unsold {w : World} {r : ClientRef} {c : ConnectedClient}
    (h : w.Linked r c) (hr : (w.clients.read r).Unsold w.now) : c.Unsold w.now := by
  rcases h with hsame | ⟨-, ip, hsame⟩
  · exact hr.same hsame
  · exact (ConnectedClient.init_unsold ip w.config).same hsame

theorem Change.unsold {w : World} {r : ClientRef} {e : Event} {c : ConnectedClient}
    (h : Change w r e c) (hr : (w.clients.read r).Unsold w.now) : c.Unsold w.now := by
  cases h with
  | linked hlinked => exact hlinked.unsold hr
  | opened _ hlinked => exact hlinked.unsold hr
  | gapExpired => exact hr
  | reset _ hsame => exact fun logic hlogic => hr.same hsame logic hlogic
  | reloaded => exact hr.setReloadedChannel
  | paid s increase total _ _ => exact hr.paymentIncrease total
  | checked => exact hr.check
  | acted _ hsame => exact hr.act.same hsame

/-! ## Payments and ticks -/

section Interleaving

variable {w : World} {r : ClientRef}

/-- The timer's second step, whatever the first one found. -/
theorem World.after_act_payment (hr : r < w.clients.next) :
    ((w.after (.act r)).clients.read r).getPaymentState =
      if (w.clients.read r).ticking = some false then .disconnected
      else (w.clients.read r).getPaymentState := by
  simp only [after, actTimer]
  split
  · rename_i hticking
    simp [hticking]
  · rename_i hticking
    rw [onClient_clients, Heap.read_modify_self]
    simp [ConnectedClient.act, hticking, ConnectedClient.getPaymentState]
  · rename_i hticking
    rcases (w.disconnect_quiet r).client r with hsame | ⟨hfresh, -⟩
    · rw [onClient_clients, Heap.read_modify_self] at hsame
      obtain ⟨_, _, _, _, hsame⟩ := hsame
      rw [hsame, if_pos hticking]
      simp only [ConnectedClient.act, if_pos hticking]
      rfl
    · rw [onClient_clients, Heap.next_modify] at hfresh
      exact absurd hr hfresh.not_gt

/-- Until the timer goes on, a payment that was taken stands, and so does
the decision of the timer. -/
theorem Change.between {e : Event} {c : ConnectedClient} (h : Change w r e c)
    (hr : r < w.clients.next) (hcheck : e ≠ .check r) (hact : e ≠ .act r) :
    c.ticking = (w.clients.read r).ticking ∧
    ((w.clients.read r).getPaymentState = .payed → c.getPaymentState = .payed) ∧
    ((w.clients.read r).getPaymentState = .disconnected → c.getPaymentState = .disconnected) := by
  have hlink : ∀ {c}, w.Linked r c → c.ticking = (w.clients.read r).ticking ∧
      c.getPaymentState = (w.clients.read r).getPaymentState := by
    rintro c (⟨_, _, _, _, rfl⟩ | ⟨hfresh, -⟩)
    · exact ⟨rfl, rfl⟩
    · exact absurd hr hfresh.not_gt
  cases h with
  | linked hlinked =>
    obtain ⟨hticking, hpayment⟩ := hlink hlinked
    exact ⟨hticking, hpayment.trans, hpayment.trans⟩
  | opened _ hlinked =>
    obtain ⟨hticking, hpayment⟩ := hlink hlinked
    exact ⟨hticking, hpayment.trans, hpayment.trans⟩
  | gapExpired => exact ⟨rfl, id, id⟩
  | reset _ hsame =>
    obtain ⟨_, _, _, _, rfl⟩ := hsame
    exact ⟨rfl, id, id⟩
  | reloaded =>
    unfold ConnectedClient.setReloadedChannel
    split
    · exact ⟨rfl, id, id⟩
    · exact ⟨rfl, id, id⟩
  | paid s increase total _ _ =>
    unfold ConnectedClient.paymentIncrease
    split
    · exact ⟨rfl, id, id⟩
    · refine ⟨ConnectedClient.payed_ticking _, fun hpayed => ?_, fun hdisconnected => ?_⟩
      · exact (ConnectedClient.payed_payment _).trans (congrArg ConnectedClient.afterPayment hpayed)
      · exact (ConnectedClient.payed_payment _).trans (congrArg ConnectedClient.afterPayment hdisconnected)
  | checked => exact absurd rfl hcheck
  | acted => exact absurd rfl hact

/-- The same after any events the timer has no part in. -/
theorem World.run_between (hw : w.Allocated) (hr : r < w.clients.next) (events : List Event)
    (hevents : ∀ e ∈ events, e ≠ .check r ∧ e ≠ .act r) :
    let c := (events.foldl World.after w).clients.read r
    r < (events.foldl World.after w).clients.next ∧
    c.ticking = (w.clients.read r).ticking ∧
    ((w.clients.read r).getPaymentState = .payed → c.getPaymentState = .payed) ∧
    ((w.clients.read r).getPaymentState = .disconnected → c.getPaymentState = .disconnected) := by
  induction events generalizing w with
  | nil => exact ⟨hr, rfl, id, id⟩
  | cons e events ih =>
    have hext := after_extends hw e
    obtain ⟨hcheck, hact⟩ := hevents e (by simp)
    obtain ⟨hticking, hpayed, hdisconnected⟩ := (after_change hw e r).between hr hcheck hact
    obtain ⟨hr', hticking', hpayed', hdisconnected'⟩ :=
      ih (hext.allocated hw) (hr.trans_le hext.clientsNext)
        fun e' he' => hevents e' (List.mem_cons_of_mem e he')
    exact ⟨hr', hticking'.trans hticking, fun h => hpayed' (hpayed h),
      fun h => hdisconnected' (hdisconnected h)⟩

end Interleaving

/-- The client has bought more time than it has spent. -/
def Covered (client : ConnectedClient) : Prop :=
  match client.sentryLogic with
  | .time logic => logic.timeSpent < logic.timePurchased
  | .data _ => False

instance (client : ConnectedClient) : Decidable (Covered client) :=
  match h : client.sentryLogic with
  | .time logic => decidable_of_iff (logic.timeSpent < logic.timePurchased) (by rw [Covered, h])
  | .data _ => .isFalse (by rw [Covered, h]; exact id)

/-- A payment after which the client is covered was taken by its machine. -/
theorem ConnectedClient.paymentIncrease_covered {client : ConnectedClient} {now total : Int}
    (hunsold : client.Unsold now) (hcovered : Covered (client.paymentIncrease now total)) :
    (client.paymentIncrease now total).getPaymentState = afterPayment client.getPaymentState := by
  cases hlogic : client.sentryLogic with
  | time logic =>
    obtain ⟨hmeter, hpayment⟩ := client.paymentIncrease_of_time now total hlogic
    rw [hpayment]
    split
    · -- nothing is bought at a price of zero
      rename_i hprice
      have hnothing := (hunsold logic hlogic).paymentIncreased client.getPaymentState total
      obtain ⟨hpurchased, hspent, -⟩ := hnothing (by
        simp [SentryTimeLogic.paymentIncreased, hprice])
      rw [Covered, hmeter] at hcovered
      dsimp only at hcovered
      omega
    · rfl
  | data logic =>
    obtain ⟨data, hdata, -⟩ := client.paymentIncrease_of_data now total hlogic
    rw [Covered, hdata] at hcovered
    exact hcovered.elim

section

variable (now : Int) (config : BitmeshConfiguration) (inFace outFace : InterfaceName)

theorem unsold_of_run {w : World}
    (hrun : Reaches World.after (fun _ _ => True) (.initial now config inFace outFace) w) :
    w.Allocated ∧ ∀ r, (w.clients.read r).Unsold w.now := by
  refine run_invariant (I := fun w => ∀ r, (w.clients.read r).Unsold w.now) ?_ ?_ hrun
  · exact fun r => ConnectedClient.init_unsold _ _
  · intro w e hw _ ih r logic hlogic
    refine ((World.after_change hw e r).unsold (ih r) logic hlogic).later ?_
    have hnow := (World.after_observes hw e r).now
    have hmillis := e.millis_nonneg
    omega

/-- A payment in any reachable state that leaves the client covered, then
whatever happens until the timer goes on, then the rest of the tick that
was in progress, if there was one: the client is PAYED exactly if it was
not DISCONNECTED and the tick had not found it unfunded before the
payment. -/
theorem payment_buys_service_iff {w : World}
    (hrun : Reaches World.after (fun _ _ => True) (.initial now config inFace outFace) w)
    {s : SocketRef} (hs : s < w.sockets.next) (increase total : Int)
    (hcovered : Covered ((w.after (.paymentIncrease s increase total)).clients.read
      (w.sockets.read s).client))
    (events : List Event)
    (hevents : ∀ e ∈ events,
      e ≠ .check (w.sockets.read s).client ∧ e ≠ .act (w.sockets.read s).client) :
    let r := (w.sockets.read s).client
    let paid := w.after (.paymentIncrease s increase total)
    let finished := (events.foldl World.after paid).after (.act r)
    (finished.clients.read r).getPaymentState = .payed ↔
      (w.clients.read r).getPaymentState ≠ .disconnected ∧
        (w.clients.read r).ticking ≠ some false := by
  intro r paid finished
  obtain ⟨hw, hunsold⟩ := unsold_of_run now config inFace outFace hrun
  have hext := World.after_extends hw (.paymentIncrease s increase total)
  have hclient : paid.clients.read r = (w.clients.read r).paymentIncrease w.now total := by
    simp only [paid, World.after, if_pos hs, World.onClient_clients]
    exact Heap.read_modify_self _ _ _
  have hpaid : (paid.clients.read r).getPaymentState =
      ConnectedClient.afterPayment (w.clients.read r).getPaymentState := by
    have hcovered' : Covered (paid.clients.read r) := hcovered
    rw [hclient] at hcovered' ⊢
    exact ConnectedClient.paymentIncrease_covered (hunsold r) hcovered'
  obtain ⟨hr, hticking, hpayed, hdisconnected⟩ :=
    World.run_between (hext.allocated hw) ((hw.socket s hs).trans_le hext.clientsNext)
      events hevents
  rw [hclient, ConnectedClient.paymentIncrease_ticking] at hticking
  rw [World.after_act_payment hr, hticking]
  by_cases hfound : (w.clients.read r).ticking = some false
  · simp [hfound]
  · by_cases hstate : (w.clients.read r).getPaymentState = .disconnected
    · rw [if_neg hfound, hdisconnected (by rw [hpaid, hstate]; rfl)]
      simp [hstate]
    · have hafter : (paid.clients.read r).getPaymentState = .payed := by
        rw [hpaid]
        cases h : (w.clients.read r).getPaymentState <;> first | rfl | exact absurd h hstate
      rw [if_neg hfound, hpayed hafter]
      simp [hstate, hfound]

end

/-- A payment during a tick that found the client funded. -/
theorem payment_buys_service_in_time :
    let w := [Event.handshake clientAddress, .paymentIncrease 0 1000 1000, .elapse 1000,
      .check 0].foldl World.after accessPoint
    let r := (w.sockets.read 0).client
    let paid := w.after (.paymentIncrease 0 1000 2000)
    (((paid.after (.elapse 10)).after (.act r)).clients.read r).getPaymentState = .payed := by
  intro w r paid
  have hrun : Reaches World.after (fun _ _ => True) accessPoint w := .foldl _ .start
  exact (payment_buys_service_iff 0 SentryTimeLogic.defaultConfiguration eth0 wlan0 hrun
    (s := 0) (by decide +kernel) 1000 2000 (by decide +kernel) [.elapse 10]
    (by decide +kernel)).mpr (by decide +kernel)

/-- The client pays for one second and is graced. The tick after five
more finds the grace period used up, the client pays for twenty more
seconds, and the tick disconnects it. -/
theorem payment_during_tick_is_lost :
    ∃ w, Reaches World.after (fun _ _ => True) accessPoint w ∧
      Covered ((w.after (.paymentIncrease 0 2000 2100)).clients.read 0) ∧
      (((w.after (.paymentIncrease 0 2000 2100)).after (.act 0)).clients.read
        0).getPaymentState ≠ .payed :=
  ⟨_, .foldl [.handshake clientAddress, .paymentIncrease 0 100 100, .elapse 3000, .check 0,
      .act 0, .elapse 5000, .check 0] .start,
    by decide +kernel, by decide +kernel⟩

end BitMesh.Sentry
