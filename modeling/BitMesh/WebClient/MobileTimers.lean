import BitMesh.WebClient.Mobile

/-!
# The payment timer of the mobile page

Every acknowledgement starts an interval timer and writes its handle over
the one before. CLOSE and ERROR stop the timer whose handle is still known.
A second acknowledgement before them leaves a timer that nothing stops any
more.
-/

namespace BitMesh.WebClient.Mobile

/-- The counters of the page, the timers the browser runs for it and the one
handle it remembers. A handle is a positive number. -/
structure Page where
  counters : Counters := {}
  timeSpent : ℚ := 0
  totalTimeSpent : ℚ := 0
  lastPaymentUpdateTime : ℚ := 0
  paymentUpdateTimer : Option Nat := none
  liveTimers : List Nat := []
  nextHandle : Nat := 1

/-- What reaches the page: a message of the seller, or a tick of a timer.
Acknowledgements and ticks come with the time of the page's clock. -/
inductive Event where
  | paymentAck (paymentAck : PaymentAck) (now : ℚ)
  | close
  | error
  | tick (handle : Nat) (now : ℚ)

namespace Event

def isAck : Event → Bool
  | paymentAck .. => true
  | _ => false

/-- CLOSE and ERROR end the payments. -/
def ends : Event → Bool
  | close | error => true
  | _ => false

end Event

namespace Page

/-- `setInterval(update_payment, 100)`, its handle kept in
`payment_update_timer`. -/
def startTimer (page : Page) : Page :=
  { page with
    paymentUpdateTimer := some page.nextHandle
    liveTimers := page.nextHandle :: page.liveTimers
    nextHandle := page.nextHandle + 1 }

/-- `receive_payment_ack`. -/
def receivePaymentAck (page : Page) (paymentAck : PaymentAck) (now : ℚ) : Page :=
  { page with
    counters := Mobile.receivePaymentAck page.counters paymentAck
    lastPaymentUpdateTime := now }.startTimer

/-- `cancel_payments`. -/
def cancelPayments (page : Page) : Page :=
  match page.paymentUpdateTimer with
  | some handle =>
      { page with
        liveTimers := page.liveTimers.filter (· ≠ handle)
        paymentUpdateTimer := none }
  | none => page

/-- `update_payment`. -/
def updatePayment (page : Page) (now : ℚ) : Page :=
  let delta := now - page.lastPaymentUpdateTime
  { page with
    lastPaymentUpdateTime := now
    timeSpent := page.timeSpent + delta
    totalTimeSpent := page.totalTimeSpent + delta }

/-- `websocket.onmessage`, and the browser's timers. The transitions of
`receive_close` and `receive_error` are allowed in every channel state, so
both of them come to `cancel_payments`. -/
def handle (page : Page) : Event → Page
  | .paymentAck paymentAck now => page.receivePaymentAck paymentAck now
  | .close => page.cancelPayments
  | .error => page.cancelPayments
  | .tick handle now => if handle ∈ page.liveTimers then page.updatePayment now else page

/-- The page after a sequence of events. -/
def after (events : List Event) : Page := events.foldl handle {}

theorem after_concat (events : List Event) (event : Event) :
    after (events ++ [event]) = (after events).handle event := by
  simp [after]

end Page

/-- The events since the last CLOSE or ERROR. -/
def sinceEnd (events : List Event) : List Event := events.rtakeWhile fun event => !event.ends

/-- The acknowledgements since the last CLOSE or ERROR. -/
def acksSinceEnd (events : List Event) : Nat := (sinceEnd events).countP Event.isAck

theorem acksSinceEnd_concat (events : List Event) (event : Event) :
    acksSinceEnd (events ++ [event]) =
      if event.ends then 0 else acksSinceEnd events + if event.isAck then 1 else 0 := by
  unfold acksSinceEnd sinceEnd
  by_cases h : event.ends = true
  · rw [List.rtakeWhile_concat_neg _ _ _ (by simp [h]), if_pos h]
    rfl
  · rw [List.rtakeWhile_concat_pos _ _ _ (by simpa using h), if_neg h]
    simp [List.countP_append, List.countP_singleton]

/-- One timer at most runs at any time, and none runs before the
acknowledgement that follows a CLOSE or ERROR. -/
def OneTimer (events : List Event) : Prop :=
  ∀ earlier, earlier <+: events →
    (Page.after earlier).liveTimers.length ≤ 1 ∧
      (acksSinceEnd earlier = 0 → (Page.after earlier).liveTimers = [])

/-- The timers that run are the one whose handle is known, and there is one
if an acknowledgement came since the payments last ended. -/
structure InStep (page : Page) (events : List Event) : Prop where
  known : page.liveTimers = page.paymentUpdateTimer.toList
  counted : page.liveTimers.length = acksSinceEnd events

theorem Page.cancelPayments_liveTimers {page : Page}
    (h : page.liveTimers = page.paymentUpdateTimer.toList) :
    page.cancelPayments.liveTimers = [] ∧ page.cancelPayments.paymentUpdateTimer = none := by
  unfold Page.cancelPayments
  cases htimer : page.paymentUpdateTimer with
  | none => simp [h, htimer]
  | some handle => simp [h, htimer]

/-- The first acknowledgement since the payments ended, and everything that
is no acknowledgement, keeps the page in step. -/
theorem InStep.handle {page : Page} {events : List Event} (h : InStep page events)
    (event : Event) (hack : event.isAck = true → acksSinceEnd events = 0) :
    InStep (page.handle event) (events ++ [event]) := by
  have hends (hend : event.ends = true) :
      InStep page.cancelPayments (events ++ [event]) := by
    obtain ⟨hlive, htimer⟩ := Page.cancelPayments_liveTimers h.known
    refine ⟨by rw [hlive, htimer]; rfl, ?_⟩
    rw [hlive, acksSinceEnd_concat, if_pos hend]
    rfl
  cases event with
  | paymentAck paymentAck now =>
      -- nothing was acknowledged, so nothing runs
      have hnone : page.liveTimers = [] := by
        rw [← List.length_eq_zero_iff, h.counted]
        exact hack rfl
      constructor
      · show page.nextHandle :: page.liveTimers = [page.nextHandle]
        rw [hnone]
      · show (page.nextHandle :: page.liveTimers).length = _
        rw [hnone, acksSinceEnd_concat, hack rfl]
        rfl
  | close => exact hends rfl
  | error => exact hends rfl
  | tick handle now =>
      -- `update_payment` touches no timer
      have hacks : acksSinceEnd (events ++ [.tick handle now]) = acksSinceEnd events := by
        rw [acksSinceEnd_concat]
        rfl
      by_cases hlive : handle ∈ page.liveTimers
      · simp only [Page.handle, if_pos hlive]
        exact ⟨h.known, h.counted.trans hacks.symm⟩
      · simp only [Page.handle, if_neg hlive]
        exact ⟨h.known, h.counted.trans hacks.symm⟩

/-- The page stays in step as long as no acknowledgement comes on top of
another. -/
theorem inStep_after {events : List Event}
    (h : ∀ earlier event, earlier ++ [event] <+: events → event.isAck = true →
      InStep (Page.after earlier) earlier → acksSinceEnd earlier = 0) :
    InStep (Page.after events) events := by
  induction events using List.reverseRecOn with
  | nil => exact ⟨rfl, rfl⟩
  | append_singleton events event ih =>
      have hstep : InStep (Page.after events) events := by
        apply ih
        intro earlier event' hearlier
        exact h earlier event' (hearlier.trans (List.prefix_append _ _))
      rw [Page.after_concat]
      apply hstep.handle
      intro hack
      exact h events event (List.prefix_refl _) hack hstep

/-- The page runs one timer at most if, and only if, no second
acknowledgement comes before the payments end. -/
theorem one_timer_iff (events : List Event) :
    OneTimer events ↔ ∀ earlier, earlier <+: events → acksSinceEnd earlier ≤ 1 := by
  constructor
  · intro h earlier hearlier
    have hstep : InStep (Page.after earlier) earlier := by
      apply inStep_after
      intro before event hbefore hack hin
      -- the acknowledgement starts one more timer than there were
      have hlength := (h (before ++ [event]) (hbefore.trans hearlier)).1
      rw [Page.after_concat] at hlength
      cases event with
      | paymentAck paymentAck now =>
          have hmore : (Page.after before).liveTimers.length + 1 ≤ 1 := hlength
          have hcounted := hin.counted
          omega
      | close => cases hack
      | error => cases hack
      | tick handle now => cases hack
    rw [← hstep.counted]
    exact (h earlier hearlier).1
  · intro h earlier hearlier
    have hstep : InStep (Page.after earlier) earlier := by
      apply inStep_after
      intro before event hbefore hack _
      have hle := h (before ++ [event]) (hbefore.trans hearlier)
      rw [acksSinceEnd_concat, if_pos hack] at hle
      cases event with
      | paymentAck paymentAck now =>
          have hmore : acksSinceEnd before + 1 ≤ 1 := hle
          omega
      | close => cases hack
      | error => cases hack
      | tick handle now => cases hack
    refine ⟨hstep.counted ▸ h earlier hearlier, ?_⟩
    intro hnone
    rw [← List.length_eq_zero_iff, hstep.counted, hnone]

/-- Two acknowledgements run two timers, and the CLOSE that follows leaves
the first of them running. -/
theorem second_ack_leaks_timer :
    let ack : Event := .paymentAck ⟨10, 1000⟩ 0
    ¬ OneTimer [ack, ack, .close] ∧
      (Page.after [ack, ack]).liveTimers = [2, 1] ∧
      (Page.after [ack, ack, .close]).liveTimers = [1] := by
  refine ⟨?_, by decide +kernel, by decide +kernel⟩
  intro h
  have hlength := (h _ (List.prefix_refl _)).2 (by decide +kernel)
  exact absurd hlength (by decide +kernel)

end BitMesh.WebClient.Mobile
