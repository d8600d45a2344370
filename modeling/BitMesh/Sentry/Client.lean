import BitMesh.Sentry.Firewall
import BitMesh.Sentry.TimeLogic

/-!
# A connected client

`ConnectedClient` with the methods that stay within the object: its
payment and connectivity machines, its meter, and the two steps of
`SentryTimerRunnable.run`. What reaches beyond it (the firewall, the
table of clients, its websocket) is in `World`. A step of the timer can
be preempted between `accountFunded` and the `setPaymentState` that
follows, so the answer of `accountFunded` is kept in between.
-/

namespace BitMesh.Sentry

abbrev ClientRef := Nat

abbrev SequenceRef := Nat

abbrev SocketRef := Nat

/-- `SentryDataLogic`, whose `accountFunded` always answers true. -/
structure SentryDataLogic where
  config : BitmeshConfiguration
  bytesPurchased : Int
  deriving DecidableEq, Repr

inductive SentryLogic where
  | time (logic : SentryTimeLogic)
  | data (logic : SentryDataLogic)
  deriving DecidableEq, Repr

namespace SentryLogic

def init (config : BitmeshConfiguration) : SentryLogic :=
  match config.purchaseUnit with
  | .timeUnit => .time (.init config)
  | .dataUnit => .data { config := config, bytesPurchased := 0 }

def paymentIncreased (paymentState : PaymentState) (now increasedTo : Int) :
    SentryLogic → SentryLogic × Option JavaException
  | .time logic =>
      let (logic, thrown) := logic.paymentIncreased paymentState now increasedTo
      (.time logic, thrown)
  | .data logic =>
      if logic.config.getCoinWidth = 0 then
        (.data logic, some ⟨.arithmetic, some "/ by zero"⟩)
      else
        (.data { logic with
          bytesPurchased :=
            increasedTo.tdiv logic.config.getCoinWidth * logic.config.getPurchaseWidth }, none)

end SentryLogic

structure ConnectedClient where
  ipAddress : IpAddress
  sentryLogic : SentryLogic
  /-- The `PaymentChannelServer`, named by its websocket. -/
  manager : Option SocketRef
  paymentStateMachine : StateMachine PaymentState
  connectivityStateMachine : StateMachine ConnectivityState
  wisprSequence : Option SequenceRef
  channelOpen : Bool
  /-- The timer of `SentryTimerRunnable` was scheduled and not cancelled. -/
  sentryHandler : Bool
  /-- A run of `SentryTimerRunnable` that is not over: what
  `accountFunded` answered. -/
  ticking : Option Bool
  /-- When `WISPrResetRunnable` runs next; `none` when cancelled. -/
  resetHandler : Option Int
  deriving DecidableEq

/-- `RESET_FREQUENCY_SECONDS`, in milliseconds. -/
def resetFrequency : Int := 10000

namespace ConnectedClient

def getPaymentState (client : ConnectedClient) : PaymentState :=
  client.paymentStateMachine.currentState

def getConnectivityState (client : ConnectedClient) : ConnectivityState :=
  client.connectivityStateMachine.currentState

/-- `setConnectivityState`, without the script it runs. -/
def setConnectivityState (client : ConnectedClient) (state : ConnectivityState) :
    ConnectedClient :=
  { client with
    connectivityStateMachine :=
      client.connectivityStateMachine.setState ConnectivityState.transitionIsValid state }

/-- The connectivity `PaymentStateMachine.setState` asks for. -/
def connectivityOf : PaymentState → ConnectivityState
  | .new => .redirectToLocalhost
  | .payed => .open
  | .graced => .open
  | .disconnected => .redirectToCaptivePortal

/-- `setPaymentState`, as far as it stays within the client. A client that
is disconnected has its timer cancelled. -/
def setPaymentState (client : ConnectedClient) (state : PaymentState) : ConnectedClient :=
  let client := { client with
    paymentStateMachine :=
      client.paymentStateMachine.setState PaymentState.transitionIsValid state }
  let client := client.setConnectivityState (connectivityOf state)
  match state with
  | .disconnected => { client with sentryHandler := false }
  | _ => client

/-- The constructor. -/
def init (ipAddress : IpAddress) (config : BitmeshConfiguration) (now : Int) : ConnectedClient :=
  setPaymentState
    { ipAddress := ipAddress
      sentryLogic := .init config
      manager := none
      paymentStateMachine := .init .new
      connectivityStateMachine := .init .redirectToLocalhost
      wisprSequence := none
      channelOpen := false
      sentryHandler := false
      ticking := none
      resetHandler := some (now + resetFrequency) }
    .new

/-- The `switch` of `paymentIncrease`. -/
def payed (client : ConnectedClient) : ConnectedClient :=
  match client.getPaymentState with
  | .new => { client.setPaymentState .payed with sentryHandler := true }
  | .payed => client
  | .graced => client.setPaymentState .payed
  | .disconnected => client

/-- `paymentIncrease`. What the meter throws ends it. -/
def paymentIncrease (client : ConnectedClient) (now total : Int) : ConnectedClient :=
  match client.sentryLogic.paymentIncreased client.getPaymentState now total with
  | (logic, some _) => { client with sentryLogic := logic }
  | (logic, none) => { client with sentryLogic := logic }.payed

/-- The first step of `SentryTimerRunnable.run`: `accountFunded`. -/
def check (client : ConnectedClient) (now later : Int) : ConnectedClient :=
  match client.sentryLogic with
  | .time logic =>
      let verdict := logic.accountFunded client.getPaymentState now later
      let client := if verdict.graces then client.setPaymentState .graced else client
      { client with sentryLogic := .time verdict.logic, ticking := some verdict.funded }
  | .data _ => { client with ticking := some true }

/-- The second step of it: a client that is not funded is disconnected. -/
def act (client : ConnectedClient) : ConnectedClient :=
  let ended := { client with ticking := none }
  if client.ticking = some false then ended.setPaymentState .disconnected else ended

/-- `setReloadedChannel`; the cast fails when the server sells data. -/
def setReloadedChannel (client : ConnectedClient) (reloaded : Bool) : ConnectedClient :=
  match client.sentryLogic with
  | .time logic => { client with sentryLogic := .time (logic.setReloadedChannel reloaded) }
  | .data _ => client

/-! ## Fields after each method -/

variable (client : ConnectedClient)

@[simp] theorem setPaymentState_payment (state : PaymentState) :
    (client.setPaymentState state).getPaymentState = state := by
  cases state <;> rfl

@[simp] theorem setPaymentState_connectivity (state : PaymentState) :
    (client.setPaymentState state).getConnectivityState = connectivityOf state := by
  cases state <;> rfl

@[simp] theorem setPaymentState_sentryLogic (state : PaymentState) :
    (client.setPaymentState state).sentryLogic = client.sentryLogic := by
  cases state <;> rfl

@[simp] theorem setPaymentState_sentryHandler {state : PaymentState} (h : state ≠ .disconnected) :
    (client.setPaymentState state).sentryHandler = client.sentryHandler := by
  cases state <;> first | rfl | exact absurd rfl h

/-- The state a payment leads to. -/
def afterPayment : PaymentState → PaymentState
  | .disconnected => .disconnected
  | _ => .payed

@[simp] theorem payed_payment :
    client.payed.getPaymentState = afterPayment client.getPaymentState := by
  unfold payed
  cases h : client.getPaymentState with
  | new => rfl
  | payed => exact h
  | graced => rfl
  | disconnected => exact h

/-- The timer runs for a client that has paid and is not disconnected. -/
theorem payed_sentryHandler
    (h : client.sentryHandler = true ↔
      client.getPaymentState ≠ .new ∧ client.getPaymentState ≠ .disconnected) :
    client.payed.sentryHandler = true ↔ client.payed.getPaymentState ≠ .disconnected := by
  rw [payed_payment]
  unfold payed
  cases hp : client.getPaymentState with
  | new => simp [afterPayment]
  | payed => simp [h, hp, afterPayment]
  | graced => simp [h, hp, afterPayment]
  | disconnected => simp [h, hp, afterPayment]

@[simp] theorem payed_sentryLogic : client.payed.sentryLogic = client.sentryLogic := by
  unfold payed
  cases client.getPaymentState <;> simp

@[simp] theorem payed_ticking : client.payed.ticking = client.ticking := by
  unfold payed
  cases client.getPaymentState <;> rfl

/-- A payment for time: the meter, and whether the state machine moves. -/
theorem paymentIncrease_of_time {logic : SentryTimeLogic} (now total : Int)
    (htime : client.sentryLogic = .time logic) :
    (client.paymentIncrease now total).sentryLogic =
      .time (logic.paymentIncreased client.getPaymentState now total).1 ∧
    (client.paymentIncrease now total).getPaymentState =
      (if logic.config.getCoinWidth = 0 then client.getPaymentState
      else afterPayment client.getPaymentState) := by
  simp only [paymentIncrease, htime, SentryLogic.paymentIncreased,
    SentryTimeLogic.paymentIncreased, SentryTimeLogic.startPaying_config]
  by_cases hprice : logic.config.getCoinWidth = 0
  · simp only [if_pos hprice]
    exact ⟨trivial, rfl⟩
  · simp only [if_neg hprice, payed_sentryLogic, payed_payment]
    exact ⟨trivial, rfl⟩

/-- A client that buys data goes on buying data. -/
theorem paymentIncrease_of_data {logic : SentryDataLogic} (now total : Int)
    (hdata : client.sentryLogic = .data logic) :
    ∃ logic', (client.paymentIncrease now total).sentryLogic = .data logic' ∧
      (client.getPaymentState ≠ .graced →
        (client.paymentIncrease now total).getPaymentState ≠ .graced) := by
  simp only [paymentIncrease, hdata, SentryLogic.paymentIncreased]
  by_cases hprice : logic.config.getCoinWidth = 0
  · simp only [if_pos hprice]
    exact ⟨_, rfl, id⟩
  · simp only [if_neg hprice, payed_sentryLogic, payed_payment]
    refine ⟨_, rfl, fun _ => ?_⟩
    unfold afterPayment
    split <;> decide

@[simp] theorem paymentIncrease_ticking (now total : Int) :
    (client.paymentIncrease now total).ticking = client.ticking := by
  unfold paymentIncrease
  split
  · rfl
  · exact payed_ticking _

/-- A whole run of the timer, from what `accountFunded` answers. -/
theorem check_act {logic : SentryTimeLogic} (now later : Int)
    (htime : client.sentryLogic = .time logic) :
    let verdict := logic.accountFunded client.getPaymentState now later
    (client.check now later).sentryLogic = .time verdict.logic ∧
    (client.check now later).act.sentryLogic = .time verdict.logic ∧
    (client.check now later).act.getPaymentState =
      (if verdict.funded = true then
        if verdict.graces = true then .graced else client.getPaymentState
      else .disconnected) ∧
    (client.check now later).act.sentryHandler =
      (verdict.funded && client.sentryHandler) := by
  simp only [check, htime, act]
  obtain ⟨logic', graces, funded⟩ := logic.accountFunded client.getPaymentState now later
  cases funded <;> cases graces <;> exact ⟨trivial, rfl, rfl, rfl⟩

end ConnectedClient

end BitMesh.Sentry
