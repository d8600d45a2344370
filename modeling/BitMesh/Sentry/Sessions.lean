import BitMesh.Sentry.Client
import BitMesh.Sentry.Metering

/-!
# Sessions on one channel

A client that stopped paying is forgotten with its meter. When it comes
back and resumes its channel it gets a new meter, which knows nothing of
the seconds already used: `paymentIncreased` takes the first payment
after a reload to have ten seconds left. Within one session the seconds
the meter finds funded are bounded by the seconds bought minus those it
started from; over all sessions the ten seconds come on top, unless each
session begins by buying nearly as many.
-/

namespace BitMesh.Sentry

/-- `accountFunded` finds the time spent paid for. -/
def ConnectedClient.isFunded (client : ConnectedClient) : Bool :=
  match client.sentryLogic with
  | .time logic => logic.timeSpent ≤ logic.timePurchased
  | .data _ => true

/-- An update within a second: how many milliseconds into it, and the
total it brings the channel to. -/
structure Update where
  offset : Int
  total : Int
  deriving DecidableEq, Repr

/-- A session: the client, the time and the total of its first update,
and the later updates second by second. Each second ends with a tick. -/
structure Session where
  ipAddress : IpAddress
  start : Int
  first : Int
  seconds : List (List Update)
  deriving DecidableEq

/-- The updates of a second that begins at `now`. -/
def receive (client : ConnectedClient) (now : Int) (updates : List Update) : ConnectedClient :=
  updates.foldl (fun client update => client.paymentIncrease (now + update.offset) update.total)
    client

/-- A second: the client after its tick, and one if the tick finds the
time spent paid for. -/
def second (client : ConnectedClient) (now : Int) (updates : List Update) :
    ConnectedClient × Int :=
  let client := receive client now updates
  if client.sentryHandler then
    let client := client.check (now + 1000) (now + 1000)
    (client.act, if client.isFunded then 1 else 0)
  else (client, 0)

/-- Second after second: the client in the end, and the seconds the meter
kept it funded. -/
def play (client : ConnectedClient) (now : Int) : List (List Update) → ConnectedClient × Int
  | [] => (client, 0)
  | updates :: rest =>
      let (client, one) := second client now updates
      let (client, more) := play client (now + 1000) rest
      (client, one + more)

namespace Session

/-- The client when the first update of the session has been processed. -/
def begin (session : Session) (config : BitmeshConfiguration) (reloaded : Bool) :
    ConnectedClient :=
  let client := ConnectedClient.init session.ipAddress config session.start
  let client := if reloaded then client.setReloadedChannel true else client
  client.paymentIncrease session.start session.first

def run (session : Session) (config : BitmeshConfiguration) (reloaded : Bool) :
    ConnectedClient × Int :=
  play (session.begin config reloaded) session.start session.seconds

/-- The totals the channel is brought to. -/
def totals (session : Session) : List Int :=
  session.first :: session.seconds.flatten.map (·.total)

/-- The total at the end of the session. -/
def last (session : Session) : Int := (session.seconds.flatten.map (·.total)).getLastD session.first

/-- Updates happen within their second. -/
def Timed (session : Session) : Prop :=
  ∀ updates ∈ session.seconds, ∀ update ∈ updates, 0 ≤ update.offset ∧ update.offset ≤ 1000

end Session

/-! ## Within a session -/

section
variable (config : BitmeshConfiguration) (now base count total : Int)

/-- Where the meter stands at the start of a second, `count` funded
seconds after it stood at `base`. A client that was graced has been
charged one second more, which the second after its next payment is not
charged. -/
inductive Standing (logic : SentryTimeLogic) : PaymentState → Prop where
  | payed (hpaying : logic.currentlyPaying = true) (hafter : now ≤ logic.lastTimeChecked)
      (hbefore : logic.lastTimeChecked ≤ now + 1000)
      (hcount : logic.lastTimeChecked = now ∧ base + count ≤ logic.timeSpent ∨
        base + count + 1 ≤ logic.timeSpent) : Standing logic .payed
  | graced (hpaying : logic.currentlyPaying = true) (hlast : logic.lastTimeChecked = now)
      (hcount : base + count + 1 ≤ logic.timeSpent)
      (harrears : logic.timePurchased < logic.timeSpent) : Standing logic .graced
  | disconnected : Standing logic .disconnected

/-- A client whose channel was brought to `total`. -/
structure Metered (logic : SentryTimeLogic) (client : ConnectedClient) : Prop where
  time : client.sentryLogic = .time logic
  config_eq : logic.config = config
  later : logic.firstIncrease = false
  bought : logic.timePurchased = total / config.getCoinWidth
  bound : base + count ≤ logic.timePurchased
  standing : Standing now base count logic client.getPaymentState
  timer : client.sentryHandler = true ↔ client.getPaymentState ≠ .disconnected

end

section
variable {config : BitmeshConfiguration} {now base count total : Int}
variable {logic : SentryTimeLogic} {client : ConnectedClient}

/-- What a payment does to a meter with a price. -/
theorem ConnectedClient.paymentIncrease_time (t total : Int)
    (htime : client.sentryLogic = .time logic) (hprice : logic.config.getCoinWidth ≠ 0) :
    client.paymentIncrease t total =
      { client with
        sentryLogic :=
          .time ((logic.startPaying client.getPaymentState t).purchase total) }.payed := by
  simp only [paymentIncrease, SentryLogic.paymentIncreased, htime,
    SentryTimeLogic.paymentIncreased_of_price _ _ _ hprice]

theorem SentryTimeLogic.purchase_timePurchased {logic : SentryTimeLogic} {total : Int}
    (h : 0 ≤ total) :
    (logic.purchase total).timePurchased = total / logic.config.getCoinWidth := by
  simp [purchase, BitmeshConfiguration.getPurchaseWidth, Int.tdiv_eq_ediv_of_nonneg h]

/-- An update within the second, to a total that did not go down. -/
theorem Metered.paymentIncrease (hc : 0 < config.getCoinWidth)
    (h : Metered config now base count total logic client) {t total' : Int}
    (hle : total ≤ total') (hnonneg : 0 ≤ total') (hafter : now ≤ t) (hbefore : t ≤ now + 1000) :
    ∃ logic', Metered config now base count total' logic' (client.paymentIncrease t total') := by
  have hprice : logic.config.getCoinWidth ≠ 0 := by rw [h.config_eq]; exact hc.ne'
  rw [ConnectedClient.paymentIncrease_time t total' h.time hprice]
  have hmore : logic.timePurchased ≤ total' / config.getCoinWidth :=
    h.bought ▸ Int.ediv_le_ediv hc hle
  have hlater : ((logic.startPaying client.getPaymentState t).firstIncrease) = false := by
    unfold SentryTimeLogic.startPaying
    split <;> exact h.later
  -- whatever the state, the new meter differs in the time bought and perhaps in its clock
  refine ⟨(logic.startPaying client.getPaymentState t).purchase total', ?_, ?_, ?_, ?_, ?_, ?_, ?_⟩
  · simp
  · simp [SentryTimeLogic.purchase, h.config_eq]
  · rfl
  · rw [SentryTimeLogic.purchase_timePurchased hnonneg]
    simp [h.config_eq]
  · have := h.bound
    rw [SentryTimeLogic.purchase_timePurchased hnonneg]
    simp only [SentryTimeLogic.startPaying_config, h.config_eq]
    omega
  · rw [ConnectedClient.payed_payment]
    change Standing now base count _ (ConnectedClient.afterPayment client.getPaymentState)
    have hstanding := h.standing
    cases hstate : client.getPaymentState with
    | new => rw [hstate] at hstanding; cases hstanding
    | payed =>
      rw [hstate] at hstanding
      obtain ⟨hpaying, hlast, hlast', hcount⟩ := hstanding
      have hstart : logic.startPaying .payed t = logic := by
        simp [SentryTimeLogic.startPaying, hpaying]
      rw [hstart]
      refine .payed hpaying hlast hlast' ?_
      simpa [SentryTimeLogic.purchase, h.later] using hcount
    | graced =>
      rw [hstate] at hstanding
      cases hstanding with | graced _ _ hcount _ =>
      -- the clock of the meter starts anew
      refine .payed ?_ ?_ ?_ (.inr ?_)
      · simp [SentryTimeLogic.purchase, SentryTimeLogic.startPaying]
      · simpa [SentryTimeLogic.purchase, SentryTimeLogic.startPaying] using hafter
      · simpa [SentryTimeLogic.purchase, SentryTimeLogic.startPaying] using hbefore
      · simpa [SentryTimeLogic.purchase, SentryTimeLogic.startPaying, h.later] using hcount
    | disconnected => exact .disconnected
  · refine ConnectedClient.payed_sentryHandler _ ?_
    have hnew : client.getPaymentState ≠ .new := by
      intro hnew
      have := h.standing
      rw [hnew] at this
      cases this
    exact h.timer.trans (and_iff_right hnew).symm

/-- What a tick finds in a client that is not disconnected: at least the
seconds the funded ones before it count for. -/
theorem Standing.spend {state : PaymentState} (h : Standing now base count logic state)
    (hstate : state ≠ .disconnected) :
    base + count + 1 ≤ (logic.spend (now + 1000)).timeSpent ∧
      (state = .graced →
        (logic.spend (now + 1000)).timePurchased < (logic.spend (now + 1000)).timeSpent) := by
  cases h with
  | payed hpaying hafter hbefore hcount =>
    have hcharged : 0 ≤ (now + 1000 - logic.lastTimeChecked).tdiv 1000 :=
      Int.tdiv_nonneg (by omega) (by decide)
    refine ⟨?_, by simp⟩
    simp only [SentryTimeLogic.spend, hpaying, if_true]
    rcases hcount with ⟨hlast, hcount⟩ | hcount
    · have : (now + 1000 - logic.lastTimeChecked).tdiv 1000 = 1 := by
        rw [hlast, add_sub_cancel_left]; rfl
      omega
    · omega
  | graced hpaying hlast hcount harrears =>
    have : (now + 1000 - logic.lastTimeChecked).tdiv 1000 = 1 := by
      rw [hlast, add_sub_cancel_left]; rfl
    simp only [SentryTimeLogic.spend, hpaying, if_true]
    exact ⟨by omega, fun _ => by omega⟩
  | disconnected => exact absurd rfl hstate

/-- A tick, and whether it counts. -/
theorem Metered.tick (h : Metered config now base count total logic client)
    (hstate : client.getPaymentState ≠ .disconnected) :
    ∃ logic', Metered config (now + 1000) base
      (count + if (client.check (now + 1000) (now + 1000)).isFunded then 1 else 0) total logic'
      (client.check (now + 1000) (now + 1000)).act := by
  obtain ⟨hcharged, harrears⟩ := h.standing.spend hstate
  obtain ⟨hcheck, hact, hstate', htimer⟩ := client.check_act (now + 1000) (now + 1000) h.time
  by_cases hfunded :
      (logic.spend (now + 1000)).timeSpent ≤ (logic.spend (now + 1000)).timePurchased
  · rw [SentryTimeLogic.accountFunded_of_funded _ _ hfunded] at hcheck hact hstate' htimer
    have hcounts : (client.check (now + 1000) (now + 1000)).isFunded = true := by
      rw [ConnectedClient.isFunded, hcheck]
      exact decide_eq_true hfunded
    have hpayed : client.getPaymentState = .payed := by
      have hstanding := h.standing
      cases hp : client.getPaymentState with
      | new => rw [hp] at hstanding; cases hstanding
      | payed => rfl
      | graced => exact absurd hfunded (not_le.mpr (harrears hp))
      | disconnected => exact absurd hp hstate
    have hbound : base + (count + 1) ≤ (logic.spend (now + 1000)).timePurchased := by omega
    simp only [hcounts, if_true]
    refine ⟨_, hact, h.config_eq, h.later, h.bought, hbound, ?_, ?_⟩
    · rw [hstate', hpayed]
      exact .payed rfl le_rfl (by simp [SentryTimeLogic.spend])
        (.inl ⟨rfl, by dsimp only; omega⟩)
    · rw [htimer, hstate']
      simpa using h.timer
  · obtain ⟨hconfig, hfirst, hpurchased, hspent, hlast, hpaying, hgraced⟩ :=
      SentryTimeLogic.accountFunded_of_unfunded client.getPaymentState (now + 1000) hfunded
    have hcounts : (client.check (now + 1000) (now + 1000)).isFunded = false := by
      rw [ConnectedClient.isFunded, hcheck]
      simp only [hspent, hpurchased]
      exact decide_eq_false hfunded
    simp only [hcounts, Bool.false_eq_true, if_false, add_zero]
    refine ⟨_, hact, hconfig.trans h.config_eq, hfirst.trans h.later,
      hpurchased.trans h.bought, hpurchased ▸ h.bound, ?_, ?_⟩
    · rw [hstate']
      split
      · -- kept, so graced
        rename_i hkept
        have hgrace : (if (logic.accountFunded client.getPaymentState (now + 1000)
            (now + 1000)).graces = true then PaymentState.graced
            else client.getPaymentState) = .graced := by
          rcases hgraced hkept with hg | hg <;> simp [hg]
        rw [hgrace]
        refine .graced (hpaying.trans hkept) hlast (hspent ▸ hcharged) ?_
        rw [hspent, hpurchased]
        exact not_le.mp hfunded
      · exact .disconnected
    · rw [htimer, hstate']
      split
      · rename_i hkept
        simp only [hkept, Bool.true_and, h.timer]
        refine iff_of_true hstate ?_
        split
        · decide
        · exact hstate
      · rename_i hended
        simp [hended]

/-- The updates of a second, by induction on them. -/
theorem Metered.receive (hc : 0 < config.getCoinWidth)
    (h : Metered config now base count total logic client) (hnonneg : 0 ≤ total)
    {updates : List Update} (htimed : ∀ u ∈ updates, 0 ≤ u.offset ∧ u.offset ≤ 1000)
    (hmono : (total :: updates.map (·.total)).Pairwise (· ≤ ·)) :
    ∃ logic', Metered config now base count ((updates.map (·.total)).getLastD total) logic'
      (receive client now updates) := by
  induction updates generalizing client logic total with
  | nil => exact ⟨logic, h⟩
  | cons update updates ih =>
    obtain ⟨hge, hmono⟩ := List.pairwise_cons.mp hmono
    have hle : total ≤ update.total := hge _ (by simp)
    obtain ⟨hafter, hbefore⟩ := htimed update (by simp)
    obtain ⟨logic', h'⟩ := h.paymentIncrease hc hle (by omega)
      (show now ≤ now + update.offset by omega) (by omega)
    rw [List.map_cons, List.getLastD_cons]
    exact ih h' (by omega) (fun u hu => htimed u (by simp [hu])) hmono

theorem getLastD_append (l l' : List Int) (a : Int) :
    (l ++ l').getLastD a = l'.getLastD (l.getLastD a) := by
  induction l generalizing a with
  | nil => rfl
  | cons b l ih => rw [List.cons_append, List.getLastD_cons, List.getLastD_cons, ih]

/-- The last of a list that goes up is below what follows. -/
theorem pairwise_getLastD {l l' : List Int} {a : Int}
    (h : (a :: (l ++ l')).Pairwise (· ≤ ·)) :
    (a :: l).Pairwise (· ≤ ·) ∧ (l.getLastD a :: l').Pairwise (· ≤ ·) := by
  rw [← List.cons_append, List.pairwise_append] at h
  obtain ⟨hl, hl', hle⟩ := h
  exact ⟨hl, List.pairwise_cons.mpr ⟨hle _ List.getLastD_mem_cons, hl'⟩⟩

/-- The rest of a session, second by second. -/
theorem Metered.play_le (hc : 0 < config.getCoinWidth)
    (h : Metered config now base count total logic client) (hnonneg : 0 ≤ total)
    {seconds : List (List Update)}
    (htimed : ∀ updates ∈ seconds, ∀ u ∈ updates, 0 ≤ u.offset ∧ u.offset ≤ 1000)
    (hmono : (total :: seconds.flatten.map (·.total)).Pairwise (· ≤ ·)) :
    base + (count + (play client now seconds).2) ≤
      (seconds.flatten.map (·.total)).getLastD total / config.getCoinWidth := by
  induction seconds generalizing client logic now count total with
  | nil =>
    have := h.bound
    have := h.bought
    simp only [play, List.flatten_nil, List.map_nil, List.getLastD_nil]
    omega
  | cons updates rest ih =>
    rw [List.flatten_cons, List.map_append] at hmono ⊢
    obtain ⟨hfirst, hrest⟩ := pairwise_getLastD hmono
    obtain ⟨logic', h'⟩ := h.receive hc hnonneg (htimed updates (by simp)) hfirst
    have hnonneg' : 0 ≤ (updates.map (·.total)).getLastD total := by
      rcases List.mem_cons.mp (List.getLastD_mem_cons (l := updates.map (·.total)))
        with heq | hmem
      · rwa [heq]
      · exact hnonneg.trans ((List.pairwise_cons.mp hfirst).1 _ hmem)
    have htimed' : ∀ updates ∈ rest, ∀ u ∈ updates, 0 ≤ u.offset ∧ u.offset ≤ 1000 :=
      fun us hus => htimed us (by simp [hus])
    rw [getLastD_append]
    simp only [play, second]
    split
    · rename_i htimer
      obtain ⟨logic'', h''⟩ := h'.tick (h'.timer.mp htimer)
      have := ih h'' hnonneg' htimed' hrest
      dsimp only
      omega
    · -- disconnected: no more ticks
      rename_i htimer
      have hended : (BitMesh.Sentry.receive client now updates).getPaymentState =
          .disconnected := by
        by_contra hne
        exact htimer (h'.timer.mpr hne)
      have hstanding : Standing (now + 1000) base count logic'
          (BitMesh.Sentry.receive client now updates).getPaymentState := by
        rw [hended]
        exact .disconnected
      have := ih { h' with standing := hstanding } hnonneg' htimed' hrest
      dsimp only
      omega

end

section
variable {config : BitmeshConfiguration}

/-- The seconds a meter starts from. -/
def Session.base (session : Session) (config : BitmeshConfiguration) (reloaded : Bool) : Int :=
  if reloaded then session.first / config.getCoinWidth - 10 else 0

theorem Session.begin_metered (hunit : config.purchaseUnit = .timeUnit)
    (hc : 0 < config.getCoinWidth) (session : Session) (reloaded : Bool)
    (hfirst : 0 ≤ session.first) :
    ∃ logic, Metered config session.start (session.base config reloaded) 0 session.first logic
      (session.begin config reloaded) := by
  have hfresh : ∃ client : ConnectedClient, ∃ logic : SentryTimeLogic,
      session.begin config reloaded = client.paymentIncrease session.start session.first ∧
      client.sentryLogic = .time logic ∧ client.getPaymentState = .new ∧
      client.sentryHandler = false ∧
      logic = (SentryTimeLogic.init config).setReloadedChannel reloaded := by
    have hinit : (ConnectedClient.init session.ipAddress config session.start).sentryLogic =
        .time (.init config) := by
      simp [ConnectedClient.init, SentryLogic.init, hunit]
    cases reloaded with
    | false => exact ⟨_, _, rfl, hinit, rfl, rfl, rfl⟩
    | true =>
      refine ⟨_, _, rfl, ?_, ?_, ?_, rfl⟩ <;>
        simp only [if_true, ConnectedClient.setReloadedChannel, hinit] <;> rfl
  obtain ⟨client, logic, hbegin, htime, hnew, hoff, hlogic⟩ := hfresh
  have hconfig : logic.config = config := by rw [hlogic]; rfl
  have hbought := Int.ediv_nonneg hfirst hc.le
  rw [hbegin, ConnectedClient.paymentIncrease_time _ _ htime (by rw [hconfig]; exact hc.ne')]
  refine ⟨(logic.startPaying .new session.start).purchase session.first, ?_, ?_, rfl, ?_, ?_, ?_,
    ?_⟩
  · simp [hnew]
  · simp [SentryTimeLogic.purchase, hconfig]
  · rw [SentryTimeLogic.purchase_timePurchased hfirst]
    simp [hconfig]
  · rw [SentryTimeLogic.purchase_timePurchased hfirst]
    simp only [SentryTimeLogic.startPaying_config, hconfig, Session.base]
    split <;> omega
  · rw [ConnectedClient.payed_payment]
    change Standing _ _ _ _ (ConnectedClient.afterPayment client.getPaymentState)
    rw [hnew]
    have hclock : ((logic.startPaying .new session.start).purchase session.first).lastTimeChecked =
        session.start := by
      simp [hlogic, SentryTimeLogic.purchase, SentryTimeLogic.startPaying,
        SentryTimeLogic.setReloadedChannel, SentryTimeLogic.init]
    have hspent : ((logic.startPaying .new session.start).purchase session.first).timeSpent =
        session.base config reloaded := by
      cases reloaded <;>
        simp [hlogic, SentryTimeLogic.purchase, SentryTimeLogic.startPaying, Session.base,
          SentryTimeLogic.setReloadedChannel, SentryTimeLogic.init,
          BitmeshConfiguration.getPurchaseWidth, Int.tdiv_eq_ediv_of_nonneg hfirst]
    refine .payed (by simp [SentryTimeLogic.purchase]) hclock.ge (by omega)
      (.inl ⟨hclock, by omega⟩)
  · refine ConnectedClient.payed_sentryHandler _ ?_
    change client.sentryHandler = true ↔ client.getPaymentState ≠ .new ∧ _
    simp [hoff, hnew]

/-- A session keeps the client funded for at most the seconds bought,
beyond those the meter starts from. -/
theorem Session.run_le (hunit : config.purchaseUnit = .timeUnit)
    (hc : 0 < config.getCoinWidth) (session : Session) (reloaded : Bool)
    (htimed : session.Timed) (hfirst : 0 ≤ session.first)
    (hmono : session.totals.Pairwise (· ≤ ·)) :
    (session.run config reloaded).2 ≤
      session.last / config.getCoinWidth - session.base config reloaded := by
  obtain ⟨logic, h⟩ := session.begin_metered hunit hc reloaded hfirst
  have := h.play_le hc hfirst htimed hmono
  simp only [Session.run, Session.last]
  omega

end

/-! ## All sessions of a channel -/

/-- The seconds a channel keeps its clients funded: the first session opens
it, the others resume it. -/
def fundedSeconds (config : BitmeshConfiguration) : Bool → List Session → Int
  | _, [] => 0
  | reloaded, session :: rest =>
      (session.run config reloaded).2 + fundedSeconds config true rest

/-- What the channel was brought to in the end. -/
def finalTotal (sessions : List Session) (before : Int) : Int :=
  (sessions.flatMap Session.totals).getLastD before

/-- Each resumed session begins by buying nine seconds more than were
bought before. -/
def BuysNine (config : BitmeshConfiguration) (sessions : List Session) : Prop :=
  sessions.IsChain fun session next =>
    session.last / config.getCoinWidth + 9 ≤ next.first / config.getCoinWidth

section
variable {config : BitmeshConfiguration}

/-- The resumed sessions: each adds what it buys and one second, so over
all of them the seconds bought since `before` telescope. -/
theorem resumed_le (hunit : config.purchaseUnit = .timeUnit) (hc : 0 < config.getCoinWidth)
    {sessions : List Session} {before : Int} (hbefore : 0 ≤ before)
    (htimed : ∀ session ∈ sessions, session.Timed)
    (hmono : (before :: sessions.flatMap Session.totals).Pairwise (· ≤ ·))
    (hbuys : BuysNine config sessions)
    (hfirst : ∀ session ∈ sessions.head?,
      before / config.getCoinWidth + 9 ≤ session.first / config.getCoinWidth) :
    fundedSeconds config true sessions ≤
      finalTotal sessions before / config.getCoinWidth - before / config.getCoinWidth +
        sessions.length := by
  induction sessions generalizing before with
  | nil => simp [fundedSeconds, finalTotal]
  | cons session rest ih =>
    rw [List.flatMap_cons] at hmono
    obtain ⟨hsession, hrest⟩ := pairwise_getLastD hmono
    obtain ⟨hge, hsession⟩ := List.pairwise_cons.mp hsession
    have hle : before ≤ session.first := hge _ (by simp [Session.totals])
    have hlast : session.totals.getLastD before = session.last := by
      rw [Session.totals, List.getLastD_cons, Session.last]
    rw [hlast] at hrest
    have hrun := session.run_le hunit hc true (htimed session (by simp)) (by omega) hsession
    have hstart := hfirst session (by simp)
    have hlast' : 0 ≤ session.last := hbefore.trans
      (hlast ▸ (List.pairwise_cons.mp (pairwise_getLastD hmono).1).1 _ (by
        rw [hlast, Session.last, Session.totals]
        exact List.getLastD_mem_cons))
    have hchain : ∀ next ∈ rest.head?,
        session.last / config.getCoinWidth + 9 ≤ next.first / config.getCoinWidth := by
      intro next hnext
      exact List.IsChain.rel_head? hbuys hnext
    have hmore := ih hlast' (fun s hs => htimed s (by simp [hs])) hrest hbuys.tail hchain
    have hfinal : finalTotal (session :: rest) before = finalTotal rest session.last := by
      rw [finalTotal, List.flatMap_cons, getLastD_append, hlast, finalTotal]
    simp only [fundedSeconds, Session.base, if_true, hfinal, List.length_cons] at hrun ⊢
    push_cast
    omega

/-- Over all sessions of a channel, the clients are funded for the seconds
the channel paid for and at most one more for each session. -/
theorem reopening_gives_no_free_time (config : BitmeshConfiguration) (sessions : List Session)
    (hunit : config.purchaseUnit = .timeUnit) (hprice : 0 < config.getCoinWidth)
    (htimed : ∀ session ∈ sessions, session.Timed)
    (hmono : (0 :: sessions.flatMap Session.totals).Pairwise (· ≤ ·))
    (hbuys : BuysNine config sessions) :
    fundedSeconds config false sessions ≤
      finalTotal sessions 0 / config.getCoinWidth + sessions.length := by
  cases sessions with
  | nil => simp [fundedSeconds, finalTotal]
  | cons session rest =>
    rw [List.flatMap_cons] at hmono
    obtain ⟨hsession, hrest⟩ := pairwise_getLastD hmono
    have hlast : session.totals.getLastD 0 = session.last := by
      rw [Session.totals, List.getLastD_cons, Session.last]
    obtain ⟨hge, hsession⟩ := List.pairwise_cons.mp hsession
    have hfirst : 0 ≤ session.first := hge _ (by simp [Session.totals])
    have hlast' : 0 ≤ session.last := hge _ (by
      rw [Session.last, Session.totals]
      exact List.getLastD_mem_cons)
    have hrun := session.run_le hunit hprice false (htimed session (by simp)) hfirst hsession
    have hchain : BuysNine config rest := hbuys.tail
    have hmore := resumed_le hunit hprice hlast' (fun s hs => htimed s (by simp [hs]))
      (hlast ▸ hrest) hchain fun next hnext => List.IsChain.rel_head? hbuys hnext
    have hfinal : finalTotal (session :: rest) 0 = finalTotal rest session.last := by
      rw [finalTotal, List.flatMap_cons, getLastD_append, hlast, finalTotal]
    simp only [fundedSeconds, Session.base, Bool.false_eq_true, if_false, hfinal,
      List.length_cons] at hrun ⊢
    push_cast
    omega

end

/-- A session that pays once and is disconnected. -/
def singlePayment (start first : Int) (seconds : Nat) : Session where
  ipAddress := clientAddress
  start := start
  first := first
  seconds := List.replicate seconds []

/-- A session of one second, and one that begins with nine more. -/
theorem reopening_gives_no_free_time_nine :
    fundedSeconds SentryTimeLogic.defaultConfiguration false
      [singlePayment 0 100 8, singlePayment 100000 1000 17] ≤ 1000 / 100 + 2 :=
  reopening_gives_no_free_time SentryTimeLogic.defaultConfiguration
    [singlePayment 0 100 8, singlePayment 100000 1000 17] rfl (by decide)
    (by simp [Session.Timed, singlePayment]) (by decide)
    (by simp [BuysNine, singlePayment, Session.last]; decide)

/-- A second is paid for and used, and the channel is resumed with one
satoshi more: ten seconds for free. -/
theorem resumed_session_gets_ten_seconds :
    let sessions := [singlePayment 0 100 8, singlePayment 100000 101 17]
    ((singlePayment 0 100 8).run SentryTimeLogic.defaultConfiguration false).1.getPaymentState =
      .disconnected ∧
    ((singlePayment 100000 101 17).run SentryTimeLogic.defaultConfiguration true).1.getPaymentState =
      .disconnected ∧
    fundedSeconds SentryTimeLogic.defaultConfiguration false sessions = 11 ∧
    ¬ fundedSeconds SentryTimeLogic.defaultConfiguration false sessions ≤
      finalTotal sessions 0 / 100 + sessions.length := by
  decide +kernel

end BitMesh.Sentry
