import BitMesh.Java
import BitMesh.Sentry.StateMachines

/-!
# The meter of a client

`SentryTimeLogic` sells time: it counts the seconds a client bought and
the seconds it spent, and gives a client that runs out a grace period.
Times are milliseconds of the system clock, far from the ends of a
`long`; a quotient of `long`s is truncated.
-/

namespace BitMesh.Sentry

/-- What the server sells. -/
inductive PurchaseUnit where
  | timeUnit
  | dataUnit
  deriving DecidableEq, Repr

/-- The part of `BitmeshConfiguration` that prices are made of. -/
structure BitmeshConfiguration where
  purchaseUnit : PurchaseUnit
  minPrice : Int
  maxPrice : Int
  negotiatedPrice : Int
  deriving DecidableEq, Repr

namespace BitmeshConfiguration

/-- The constructor, with the maximum before the minimum. -/
def new (purchaseUnit : PurchaseUnit) (maxPrice minPrice : Int) : BitmeshConfiguration where
  purchaseUnit := purchaseUnit
  minPrice := minPrice
  maxPrice := maxPrice
  negotiatedPrice := minPrice

/-- `makeCopy`, which hands the constructor the minimum first. -/
def makeCopy (config : BitmeshConfiguration) : BitmeshConfiguration :=
  new config.purchaseUnit config.minPrice config.maxPrice

def setNegotiatedPrice (config : BitmeshConfiguration) (price : Int) : BitmeshConfiguration :=
  { config with negotiatedPrice := price }

def getCoinWidth (config : BitmeshConfiguration) : Int := config.negotiatedPrice

def getPurchaseWidth (_ : BitmeshConfiguration) : Int := 1

end BitmeshConfiguration

/-- `BitmeshConstants.INITIAL_GRACE_PERIOD`, in milliseconds. -/
def initialGracePeriod : Int := 5000

structure SentryTimeLogic where
  config : BitmeshConfiguration
  /-- In seconds, like `timeSpent`. -/
  timePurchased : Int
  lastTimeChecked : Int
  timeSpent : Int
  currentlyPaying : Bool
  gracePeriodRemaining : Int
  lastTimeGraced : Int
  reloadedChannel : Bool
  firstIncrease : Bool
  deriving DecidableEq, Repr

namespace SentryTimeLogic

/-- The constructor. -/
def init (config : BitmeshConfiguration) : SentryTimeLogic where
  config := config
  timePurchased := 0
  lastTimeChecked := 0
  timeSpent := 0
  currentlyPaying := false
  gracePeriodRemaining := initialGracePeriod
  lastTimeGraced := 0
  reloadedChannel := false
  firstIncrease := true

def setReloadedChannel (logic : SentryTimeLogic) (reloaded : Bool) : SentryTimeLogic :=
  { logic with reloadedChannel := reloaded }

/-- The first statement of `paymentIncreased`: the client pays from now on. -/
def startPaying (logic : SentryTimeLogic) (paymentState : PaymentState) (now : Int) :
    SentryTimeLogic :=
  if !logic.currentlyPaying || paymentState = .graced then
    { logic with currentlyPaying := true, lastTimeChecked := now }
  else logic

/-- The rest of it: the time bought, and the time a reloaded channel is
taken to have spent. -/
def purchase (logic : SentryTimeLogic) (increasedTo : Int) : SentryTimeLogic :=
  let timePurchased :=
    increasedTo.tdiv logic.config.getCoinWidth * logic.config.getPurchaseWidth
  { logic with
    timePurchased := timePurchased
    firstIncrease := false
    timeSpent :=
      if logic.firstIncrease && logic.reloadedChannel then timePurchased - 10
      else logic.timeSpent }

/-- `paymentIncreased`. A price of zero divides by zero after the first
statement. -/
def paymentIncreased (logic : SentryTimeLogic) (paymentState : PaymentState)
    (now increasedTo : Int) : SentryTimeLogic × Option JavaException :=
  let logic := logic.startPaying paymentState now
  if logic.config.getCoinWidth = 0 then (logic, some ⟨.arithmetic, some "/ by zero"⟩)
  else (logic.purchase increasedTo, none)

/-- The grace period after `maybeGrace`: charged since the last time the
client was graced. -/
def charge (logic : SentryTimeLogic) (paymentState : PaymentState) (now : Int) :
    SentryTimeLogic :=
  let lastTimeGraced := if paymentState ≠ .graced then now else logic.lastTimeGraced
  { logic with
    gracePeriodRemaining := logic.gracePeriodRemaining - (now - lastTimeGraced)
    lastTimeGraced := now }

/-- `maybeGrace`, and whether it called `setPaymentState(GRACED)`. What it
answers is whether there is any grace period left. -/
def maybeGrace (logic : SentryTimeLogic) (paymentState : PaymentState) (now : Int) :
    SentryTimeLogic × Bool :=
  if 0 < logic.gracePeriodRemaining then
    (logic.charge paymentState now, paymentState ≠ .graced)
  else (logic, false)

/-- The time charged at the start of `accountFunded`. -/
def spend (logic : SentryTimeLogic) (now : Int) : SentryTimeLogic :=
  { logic with
    timeSpent :=
      if logic.currentlyPaying then logic.timeSpent + (now - logic.lastTimeChecked).tdiv 1000
      else logic.timeSpent
    lastTimeChecked := now }

/-- What `accountFunded` leaves behind and answers. -/
structure Verdict where
  logic : SentryTimeLogic
  /-- It called `setPaymentState(GRACED)`. -/
  graces : Bool
  funded : Bool
  deriving DecidableEq, Repr

/-- `accountFunded`; `maybeGrace` reads the clock once more. -/
def accountFunded (logic : SentryTimeLogic) (paymentState : PaymentState) (now later : Int) :
    Verdict :=
  let logic := logic.spend now
  if logic.timeSpent ≤ logic.timePurchased then
    { logic := { logic with currentlyPaying := true }, graces := false, funded := true }
  else
    let (logic, graces) := logic.maybeGrace paymentState later
    let funded := decide (0 < logic.gracePeriodRemaining)
    { logic := { logic with currentlyPaying := funded }, graces := graces, funded := funded }

/-! ## What the methods leave alone -/

variable (logic : SentryTimeLogic) (paymentState : PaymentState)

@[simp] theorem startPaying_config (now : Int) :
    (logic.startPaying paymentState now).config = logic.config := by
  unfold startPaying; split <;> rfl

@[simp] theorem startPaying_timePurchased (now : Int) :
    (logic.startPaying paymentState now).timePurchased = logic.timePurchased := by
  unfold startPaying; split <;> rfl

@[simp] theorem startPaying_timeSpent (now : Int) :
    (logic.startPaying paymentState now).timeSpent = logic.timeSpent := by
  unfold startPaying; split <;> rfl

@[simp] theorem startPaying_gracePeriodRemaining (now : Int) :
    (logic.startPaying paymentState now).gracePeriodRemaining = logic.gracePeriodRemaining := by
  unfold startPaying; split <;> rfl

@[simp] theorem startPaying_lastTimeGraced (now : Int) :
    (logic.startPaying paymentState now).lastTimeGraced = logic.lastTimeGraced := by
  unfold startPaying; split <;> rfl

@[simp] theorem startPaying_currentlyPaying (now : Int) :
    (logic.startPaying paymentState now).currentlyPaying = true := by
  unfold startPaying; split <;> simp_all

theorem accountFunded_of_funded {logic : SentryTimeLogic} {now : Int} (later : Int)
    (h : (logic.spend now).timeSpent ≤ (logic.spend now).timePurchased) :
    logic.accountFunded paymentState now later =
      ⟨{ logic.spend now with currentlyPaying := true }, false, true⟩ := by
  rw [accountFunded, if_pos h]

/-- What `accountFunded` leaves of a meter whose time is used up: the time
spent is charged, and the client is graced if it is kept. -/
theorem accountFunded_of_unfunded {logic : SentryTimeLogic} {now : Int} (later : Int)
    (h : ¬ (logic.spend now).timeSpent ≤ (logic.spend now).timePurchased) :
    let verdict := logic.accountFunded paymentState now later
    verdict.logic.config = logic.config ∧
    verdict.logic.firstIncrease = logic.firstIncrease ∧
    verdict.logic.timePurchased = logic.timePurchased ∧
    verdict.logic.timeSpent = (logic.spend now).timeSpent ∧
    verdict.logic.lastTimeChecked = now ∧
    verdict.logic.currentlyPaying = verdict.funded ∧
    (verdict.funded = true → verdict.graces = true ∨ paymentState = .graced) := by
  simp only [accountFunded, if_neg h, maybeGrace]
  split
  · refine ⟨rfl, rfl, rfl, rfl, rfl, trivial, fun _ => ?_⟩
    by_cases hstate : paymentState = .graced
    · exact .inr hstate
    · exact .inl (by simpa using hstate)
  · rename_i hleft
    refine ⟨rfl, rfl, rfl, rfl, rfl, trivial, fun hfunded => ?_⟩
    exact absurd (of_decide_eq_true hfunded) hleft

/-- With some of the grace period left, the client is charged and GRACED. -/
theorem accountFunded_of_graceable {logic : SentryTimeLogic} {now : Int} (later : Int)
    (h : ¬ (logic.spend now).timeSpent ≤ (logic.spend now).timePurchased)
    (hleft : 0 < logic.gracePeriodRemaining) :
    let charged := (logic.spend now).charge paymentState later
    let funded := decide (0 < charged.gracePeriodRemaining)
    logic.accountFunded paymentState now later =
      ⟨{ charged with currentlyPaying := funded }, decide (paymentState ≠ .graced), funded⟩ := by
  have hleft' : 0 < (logic.spend now).gracePeriodRemaining := hleft
  simp only [accountFunded, if_neg h, maybeGrace, if_pos hleft']

/-- With none of it left, nothing is charged. -/
theorem accountFunded_of_exhausted {logic : SentryTimeLogic} {now : Int} (later : Int)
    (h : ¬ (logic.spend now).timeSpent ≤ (logic.spend now).timePurchased)
    (hleft : ¬ 0 < logic.gracePeriodRemaining) :
    logic.accountFunded paymentState now later =
      ⟨{ logic.spend now with currentlyPaying := false }, false, false⟩ := by
  have hleft' : ¬ 0 < (logic.spend now).gracePeriodRemaining := hleft
  simp only [accountFunded, if_neg h, maybeGrace, if_neg hleft', decide_eq_false hleft']

/-- With a price, a payment is never refused. -/
theorem paymentIncreased_of_price {logic : SentryTimeLogic} (now increasedTo : Int)
    (hprice : logic.config.getCoinWidth ≠ 0) :
    logic.paymentIncreased paymentState now increasedTo =
      ((logic.startPaying paymentState now).purchase increasedTo, none) := by
  simp [paymentIncreased, hprice]

end SentryTimeLogic

end BitMesh.Sentry
