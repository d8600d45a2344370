import BitMesh.Sentry.TimeLogic

/-!
# What the meter adds up

Two sums the meter is meant to keep. The time spent should be the whole
seconds since the client started to pay; each tick truncates its own
interval, so the meter loses a second whenever the parts it cut off add
up to one. The time bought should be what all payments together buy; the
meter is told the total of one channel, so it forgets what was paid on
the others.
-/

namespace BitMesh.Sentry

namespace SentryTimeLogic

/-- What happens to the meter of a client that stays PAYED. -/
inductive MeterEvent where
  | paymentIncreased (now increasedTo : Int)
  | accountFunded (now : Int)
  deriving DecidableEq, Repr

def meter (logic : SentryTimeLogic) : MeterEvent → SentryTimeLogic
  | .paymentIncreased now increasedTo => (logic.paymentIncreased .payed now increasedTo).1
  | .accountFunded now => (logic.accountFunded .payed now now).logic

/-- The times of the ticks. -/
def ticks (events : List MeterEvent) : List Int :=
  events.filterMap fun
    | .accountFunded now => some now
    | .paymentIncreased _ _ => none

/-- Every tick finds the time spent paid for. -/
def Funded : SentryTimeLogic → List MeterEvent → Prop
  | _, [] => True
  | logic, .paymentIncreased now increasedTo :: events =>
      Funded (logic.meter (.paymentIncreased now increasedTo)) events
  | logic, .accountFunded now :: events =>
      (logic.spend now).timeSpent ≤ (logic.spend now).timePurchased ∧
        Funded (logic.meter (.accountFunded now)) events

/-- The milliseconds beyond whole seconds of the intervals between the
ticks, added up. -/
def remainders : Int → List Int → Int
  | _, [] => 0
  | last, now :: rest => (now - last) % 1000 + remainders now rest

theorem remainders_nonneg (last : Int) (times : List Int) : 0 ≤ remainders last times := by
  induction times generalizing last with
  | nil => simp [remainders]
  | cons now rest ih =>
    have := ih now
    simp only [remainders]
    omega

/-- A payment of a client that is already paying leaves the clock of the
meter alone, and one on a channel that was not reloaded the time spent. -/
theorem meter_paymentIncreased {logic : SentryTimeLogic} (now increasedTo : Int)
    (hpaying : logic.currentlyPaying = true) (hfresh : logic.reloadedChannel = false) :
    (logic.meter (.paymentIncreased now increasedTo)).timeSpent = logic.timeSpent ∧
    (logic.meter (.paymentIncreased now increasedTo)).lastTimeChecked = logic.lastTimeChecked ∧
    (logic.meter (.paymentIncreased now increasedTo)).currentlyPaying = true ∧
    (logic.meter (.paymentIncreased now increasedTo)).reloadedChannel = false := by
  have hstart : logic.startPaying .payed now = logic := by simp [startPaying, hpaying]
  simp only [meter, paymentIncreased, hstart]
  split <;> simp [purchase, hpaying, hfresh]

/-- A tick that finds the time paid for charges the whole seconds since
the last one. -/
theorem meter_accountFunded {logic : SentryTimeLogic} {now : Int}
    (hpaying : logic.currentlyPaying = true)
    (hfunded : (logic.spend now).timeSpent ≤ (logic.spend now).timePurchased) :
    (logic.meter (.accountFunded now)).timeSpent =
      logic.timeSpent + (now - logic.lastTimeChecked).tdiv 1000 ∧
    (logic.meter (.accountFunded now)).lastTimeChecked = now ∧
    (logic.meter (.accountFunded now)).currentlyPaying = true ∧
    (logic.meter (.accountFunded now)).reloadedChannel = logic.reloadedChannel := by
  simp only [meter, accountFunded, if_pos hfunded]
  simp [spend, hpaying]

/-- The milliseconds since the start are the seconds charged and what the
ticks cut off. -/
theorem foldl_meter_timeSpent {logic : SentryTimeLogic} {events : List MeterEvent}
    (hpaying : logic.currentlyPaying = true) (hfresh : logic.reloadedChannel = false)
    (hsorted : ∀ t ∈ ticks events, logic.lastTimeChecked ≤ t)
    (hmono : (ticks events).Pairwise (· ≤ ·)) (hfunded : Funded logic events) :
    1000 * (events.foldl meter logic).timeSpent +
        remainders logic.lastTimeChecked (ticks events) =
      1000 * logic.timeSpent +
        ((ticks events).getLastD logic.lastTimeChecked - logic.lastTimeChecked) := by
  induction events generalizing logic with
  | nil => simp [ticks, remainders]
  | cons event events ih =>
    cases event with
    | paymentIncreased now increasedTo =>
      obtain ⟨hspent, hlast, hpaying', hfresh'⟩ :=
        meter_paymentIncreased now increasedTo hpaying hfresh
      have hticks : ticks (.paymentIncreased now increasedTo :: events) = ticks events := rfl
      rw [hticks] at hsorted hmono ⊢
      rw [List.foldl_cons, ← hspent, ← hlast]
      exact ih hpaying' hfresh' (by rwa [hlast]) hmono hfunded
    | accountFunded now =>
      obtain ⟨hnow, hrest⟩ := hfunded
      obtain ⟨hspent, hlast, hpaying', hfresh'⟩ := meter_accountFunded hpaying hnow
      have hticks : ticks (.accountFunded now :: events) = now :: ticks events := rfl
      rw [hticks] at hsorted hmono ⊢
      obtain ⟨hfirst, hmono⟩ := List.pairwise_cons.mp hmono
      have hstep := ih hpaying' (hfresh' ▸ hfresh) (by rwa [hlast]) hmono hrest
      rw [hspent, hlast] at hstep
      have hge : logic.lastTimeChecked ≤ now := hsorted now (by simp)
      -- the interval is the seconds charged and the rest of it
      have hsplit := Int.mul_tdiv_add_tmod (now - logic.lastTimeChecked) 1000
      have hmod : (now - logic.lastTimeChecked).tmod 1000 =
          (now - logic.lastTimeChecked) % 1000 := Int.tmod_eq_emod_of_nonneg (by omega)
      rw [List.foldl_cons, remainders, List.getLastD_cons]
      omega

/-- The whole seconds since the first payment are charged exactly when
the parts of seconds cut off stay below a second. -/
theorem timeSpent_eq_iff (config : BitmeshConfiguration) (start first : Int)
    (events : List MeterEvent) (hmono : (start :: ticks events).Pairwise (· ≤ ·))
    (hfunded : Funded ((init config).paymentIncreased .new start first).1 events) :
    (events.foldl meter ((init config).paymentIncreased .new start first).1).timeSpent =
        ((ticks events).getLastD start - start) / 1000 ↔
      remainders start (ticks events) < 1000 := by
  obtain ⟨hge, hmono⟩ := List.pairwise_cons.mp hmono
  have hpaid : ((init config).paymentIncreased .new start first).1.currentlyPaying = true ∧
      ((init config).paymentIncreased .new start first).1.reloadedChannel = false ∧
      ((init config).paymentIncreased .new start first).1.lastTimeChecked = start ∧
      ((init config).paymentIncreased .new start first).1.timeSpent = 0 := by
    simp only [paymentIncreased]
    split <;> simp [purchase, startPaying, init]
  obtain ⟨hpaying, hfresh, hlast, hspent⟩ := hpaid
  have hsum := foldl_meter_timeSpent hpaying hfresh (by rwa [hlast]) hmono hfunded
  rw [hlast, hspent] at hsum
  have hnonneg := remainders_nonneg start (ticks events)
  omega

/-- The default configuration: 100 satoshis a second. -/
def defaultConfiguration : BitmeshConfiguration where
  purchaseUnit := .timeUnit
  minPrice := 100
  maxPrice := 100
  negotiatedPrice := 100

theorem timeSpent_eq_iff_on_time :
    ([.accountFunded 1000, .paymentIncreased 1500 20000, .accountFunded 2700].foldl meter
      ((init defaultConfiguration).paymentIncreased .new 0 10000).1).timeSpent = 2700 / 1000 :=
  (timeSpent_eq_iff defaultConfiguration 0 10000
    [.accountFunded 1000, .paymentIncreased 1500 20000, .accountFunded 2700] (by decide)
    ⟨by decide, by decide, trivial⟩).mpr (by decide)

/-- A tick that is a millisecond late, and one on time: two seconds go
by and one is charged. -/
theorem late_tick_loses_second :
    Funded ((init defaultConfiguration).paymentIncreased .new 0 10000).1
      [.accountFunded 1001, .accountFunded 2000] ∧
    ([.accountFunded 1001, .accountFunded 2000].foldl meter
      ((init defaultConfiguration).paymentIncreased .new 0 10000).1).timeSpent ≠
        (2000 - 0) / 1000 :=
  ⟨⟨by decide, by decide, trivial⟩, by decide⟩

/-! ## Payments on several channels -/

/-- A payment increase, on the channel it comes from. -/
structure Increase where
  channel : Nat
  by_ : Int
  deriving DecidableEq, Repr

/-- What was paid on all channels. -/
def paid (increases : List Increase) : Int := (increases.map (·.by_)).sum

/-- What was paid on one channel: the total that is reported. -/
def paidOn (channel : Nat) (increases : List Increase) : Int :=
  paid (increases.filter (·.channel = channel))

/-- A report to the meter, a tick, or a channel that is resumed. -/
inductive Activity where
  | report (increase : Increase) (paymentState : PaymentState) (now : Int)
  | tick (paymentState : PaymentState) (now later : Int)
  | resume
  deriving DecidableEq, Repr

/-- The meter and the increases reported so far, newest first. -/
structure Account where
  logic : SentryTimeLogic
  increases : List Increase

def Account.next (account : Account) : Activity → Account
  | .report increase paymentState now =>
      { logic := (account.logic.paymentIncreased paymentState now
          (paidOn increase.channel (increase :: account.increases))).1
        increases := increase :: account.increases }
  | .tick paymentState now later =>
      { account with logic := (account.logic.accountFunded paymentState now later).logic }
  | .resume => { account with logic := account.logic.setReloadedChannel true }

/-- After every report, the time bought did not go down and is what all
payments together buy. -/
def Accumulates : Account → List Activity → Prop
  | _, [] => True
  | account, activity :: rest =>
      (account.logic.timePurchased ≤ (account.next activity).logic.timePurchased ∧
        (account.next activity).logic.timePurchased =
          paid (account.next activity).increases / account.logic.config.getCoinWidth) ∧
      Accumulates (account.next activity) rest

/-- At every report, what was paid on the other channels does not complete
a second begun on this one. -/
def OthersBelowSecond : Account → List Activity → Prop
  | _, [] => True
  | account, .report increase paymentState now :: rest =>
      let increases := increase :: account.increases
      paidOn increase.channel increases % account.logic.config.getCoinWidth +
          (paid increases - paidOn increase.channel increases) <
        account.logic.config.getCoinWidth ∧
      OthersBelowSecond (account.next (.report increase paymentState now)) rest
  | account, .tick paymentState now later :: rest =>
      OthersBelowSecond (account.next (.tick paymentState now later)) rest
  | account, .resume :: rest => OthersBelowSecond (account.next .resume) rest

/-- No increase is negative. -/
def Activity.Increases : Activity → Prop
  | .report increase _ _ => 0 ≤ increase.by_
  | .tick _ _ _ => True
  | .resume => True

theorem paid_cons (increase : Increase) (increases : List Increase) :
    paid (increase :: increases) = increase.by_ + paid increases := by
  simp [paid]

theorem paid_nonneg {increases : List Increase} (h : ∀ i ∈ increases, 0 ≤ i.by_) :
    0 ≤ paid increases := by
  induction increases with
  | nil => simp [paid]
  | cons i increases ih =>
    have hi := h i (by simp)
    have hrest := ih fun j hj => h j (by simp [hj])
    rw [paid_cons]
    omega

theorem paidOn_le_paid (channel : Nat) {increases : List Increase}
    (h : ∀ i ∈ increases, 0 ≤ i.by_) : paidOn channel increases ≤ paid increases := by
  induction increases with
  | nil => simp [paidOn, paid]
  | cons i increases ih =>
    have hi := h i (by simp)
    have hrest := ih fun j hj => h j (by simp [hj])
    simp only [paidOn, List.filter_cons] at hrest ⊢
    split
    · rw [paid_cons, paid_cons]
      omega
    · rw [paid_cons]
      omega

/-- Adding `y` does not change the quotient of `x` exactly when it stays
within the remainder's second. -/
theorem add_ediv_eq_iff (x : Int) {y c : Int} (hc : 0 < c) (hy : 0 ≤ y) :
    x / c = (x + y) / c ↔ x % c + y < c := by
  have hx : x + y = (x % c + y) + c * (x / c) := by
    have := Int.emod_add_mul_ediv x c
    omega
  have hmod := Int.emod_nonneg x (by omega : c ≠ 0)
  rw [hx, Int.add_mul_ediv_left _ _ (by omega : c ≠ 0)]
  constructor
  · intro h
    by_contra hge
    have : 1 ≤ (x % c + y) / c := (Int.le_ediv_iff_mul_le hc).mpr (by omega)
    omega
  · intro h
    have : (x % c + y) / c = 0 := Int.ediv_eq_zero_of_lt (by omega) h
    omega

theorem Account.next_config (account : Account) (activity : Activity) :
    (account.next activity).logic.config = account.logic.config := by
  cases activity with
  | report increase paymentState now =>
    simp only [next, paymentIncreased]
    split <;> simp [purchase]
  | tick paymentState now later =>
    simp only [next, accountFunded, maybeGrace]
    split
    · rfl
    · split <;> rfl
  | resume => rfl

theorem Account.next_tick (account : Account) (paymentState : PaymentState) (now later : Int) :
    (account.next (.tick paymentState now later)).logic.timePurchased =
      account.logic.timePurchased := by
  simp only [next, accountFunded, maybeGrace]
  split
  · rfl
  · split <;> rfl

theorem Account.next_report (account : Account) (increase : Increase)
    (paymentState : PaymentState) (now : Int) (hc : 0 < account.logic.config.getCoinWidth)
    (hpaid : 0 ≤ paidOn increase.channel (increase :: account.increases)) :
    (account.next (.report increase paymentState now)).logic.timePurchased =
      paidOn increase.channel (increase :: account.increases) /
        account.logic.config.getCoinWidth := by
  simp [next, paymentIncreased_of_price _ _ _ hc.ne', purchase, BitmeshConfiguration.getPurchaseWidth,
    Int.tdiv_eq_ediv_of_nonneg hpaid]

/-- From an account that is right so far, by induction on what happens to
it. -/
theorem accumulates_iff_of_paid (account : Account) {activities : List Activity}
    (hc : 0 < account.logic.config.getCoinWidth)
    (hpaid : account.logic.timePurchased =
      paid account.increases / account.logic.config.getCoinWidth)
    (hincreases : ∀ i ∈ account.increases, 0 ≤ i.by_)
    (hactivities : ∀ a ∈ activities, a.Increases) :
    Accumulates account activities ↔ OthersBelowSecond account activities := by
  induction activities generalizing account with
  | nil => simp [Accumulates, OthersBelowSecond]
  | cons activity rest ih =>
    have hconfig := account.next_config activity
    have hrest : ∀ a ∈ rest, a.Increases := fun a ha => hactivities a (by simp [ha])
    cases activity with
    | report increase paymentState now =>
      have hby : 0 ≤ increase.by_ := hactivities (.report increase paymentState now) (by simp)
      have hall : ∀ i ∈ increase :: account.increases, 0 ≤ i.by_ := by
        intro i hi
        rcases List.mem_cons.mp hi with rfl | hi
        · exact hby
        · exact hincreases i hi
      have hon : 0 ≤ paidOn increase.channel (increase :: account.increases) :=
        paid_nonneg fun i hi => hall i (List.mem_of_mem_filter hi)
      have hle := paidOn_le_paid increase.channel hall
      have hnext := account.next_report increase paymentState now hc hon
      -- the total of one channel buys what all payments buy
      have hiff := add_ediv_eq_iff (paidOn increase.channel (increase :: account.increases)) hc
        (sub_nonneg.mpr hle)
      rw [add_sub_cancel] at hiff
      simp only [Accumulates, OthersBelowSecond]
      constructor
      · rintro ⟨⟨_, heq⟩, hacc⟩
        refine ⟨hiff.mp (hnext ▸ heq), (ih _ ?_ ?_ hall hrest).mp hacc⟩
        · rwa [hconfig]
        · rwa [hconfig]
      · rintro ⟨hbelow, hothers⟩
        have heq := hnext.trans (hiff.mpr hbelow)
        refine ⟨⟨?_, heq⟩, (ih _ ?_ ?_ hall hrest).mpr hothers⟩
        · rw [heq, hpaid, paid_cons]
          exact Int.ediv_le_ediv hc (by omega)
        · rwa [hconfig]
        · rwa [hconfig]
    | tick paymentState now later =>
      have hnext := account.next_tick paymentState now later
      have hih := ih (account.next (.tick paymentState now later))
        (by rwa [hconfig]) (by rwa [hconfig, hnext]) hincreases hrest
      simp only [Accumulates, OthersBelowSecond, hnext, hih]
      exact and_iff_right ⟨le_rfl, hpaid⟩
    | resume =>
      have hih := ih (account.next .resume) hc hpaid hincreases hrest
      simp only [Accumulates, OthersBelowSecond, hih]
      exact and_iff_right ⟨le_rfl, hpaid⟩

/-- The credit adds up over the channels exactly while the payments on the
other channels stay below the price of a second. -/
theorem credit_accumulates_iff (config : BitmeshConfiguration) (activities : List Activity)
    (hprice : 0 < config.getCoinWidth) (hincreases : ∀ a ∈ activities, a.Increases) :
    Accumulates ⟨init config, []⟩ activities ↔
      OthersBelowSecond ⟨init config, []⟩ activities :=
  accumulates_iff_of_paid _ hprice (by simp [init, paid]) (by simp) hincreases

/-- One channel, paid in two steps. -/
theorem credit_accumulates_one_channel :
    Accumulates ⟨init defaultConfiguration, []⟩
      [.report ⟨0, 1000⟩ .new 0, .tick .payed 1000 1000, .report ⟨0, 250⟩ .payed 1500] :=
  (credit_accumulates_iff defaultConfiguration
    [.report ⟨0, 1000⟩ .new 0, .tick .payed 1000 1000, .report ⟨0, 250⟩ .payed 1500]
    (by decide) (by simp [Activity.Increases])).mpr ⟨by decide, by decide, trivial⟩

/-- Ten seconds paid on one channel and one on the next: ten are
forgotten. -/
theorem next_channel_forgets_credit :
    ¬ Accumulates ⟨init defaultConfiguration, []⟩
      [.report ⟨0, 1000⟩ .new 0, .report ⟨1, 100⟩ .payed 2000] := by
  intro h
  exact absurd h.2.1.1 (by decide)

end SentryTimeLogic

end BitMesh.Sentry
