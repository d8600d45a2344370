import BitMesh.Bitcoin.Transaction

/-!
# Broadcasting locked transactions

`LockedTransactionBroadcasterTimer` broadcasts a transaction at once, or
leaves it to a timer until half a minute after its lock time. The delay it
asks for is what is left until then, and `Timer.schedule` takes no negative
one: a transaction whose lock time has passed, or is the height of a block,
is not broadcast at all.
-/

namespace BitMesh.CloudServer

open BitMesh.Bitcoin

inductive NetworkParameters where
  | mainNet
  | testNet3
  deriving DecidableEq

/-- A transaction and its `getParams()`. -/
structure NetworkTransaction where
  params : NetworkParameters
  transaction : Transaction
  deriving DecidableEq

/-- `TransactionInput.hasSequence`. -/
def hasSequence (input : TransactionInput) : Bool := input.sequence ≠ 0xFFFFFFFF

/-- `Transaction.isTimeLocked`. -/
def isTimeLocked (tx : Transaction) : Bool := tx.lockTime ≠ 0 && tx.inputs.any hasSequence

/-- `Transaction.LOCKTIME_THRESHOLD`: lock times from here on are seconds. -/
def locktimeThreshold : Nat := 500000000

/-- A call of `broadcastTransaction`, made or due, and its time in
milliseconds. -/
structure Broadcast where
  time : Int
  tx : NetworkTransaction
  deriving DecidableEq

/-- The tasks the timer still has to run, and what was broadcast. -/
structure BroadcasterTimer where
  tasks : List Broadcast := []
  broadcasts : List Broadcast := []
  deriving DecidableEq

namespace BroadcasterTimer

def broadcastTransaction (timer : BroadcasterTimer) (now : Nat) (tx : NetworkTransaction) :
    BroadcasterTimer :=
  { timer with broadcasts := timer.broadcasts ++ [⟨now, tx⟩] }

/-- `Timer.schedule(new BroadcastTxTask(transaction), delay)`. -/
def schedule (timer : BroadcasterTimer) (now : Nat) (tx : NetworkTransaction) (delay : Int) :
    Except JavaException BroadcasterTimer :=
  if delay < 0 then .error (.illegalArgument (some "Negative delay."))
  else .ok { timer with tasks := timer.tasks ++ [⟨now + delay, tx⟩] }

/-- `scheduleTransactionBroadcast`; the clock is in milliseconds. -/
def scheduleTransactionBroadcast (timer : BroadcasterTimer) (millis : Nat)
    (tx : NetworkTransaction) : Except JavaException BroadcasterTimer :=
  let locktime : Int := tx.transaction.lockTime.toNat
  let now : Int := millis / 1000
  if ¬ isTimeLocked tx.transaction then
    .ok (timer.broadcastTransaction millis tx)
  else
    timer.schedule millis tx ((locktime - now + 30) * 1000)

/-- The timer has run its tasks, each of them once and so much after its
time. -/
def elapse (timer : BroadcasterTimer) (late : Broadcast → Nat) : BroadcasterTimer where
  tasks := []
  broadcasts := timer.broadcasts ++
    timer.tasks.map fun task => { task with time := task.time + late task }

end BroadcasterTimer

/-- The transaction is broadcast once, and not before it is final. -/
def BroadcastOnce (timer : BroadcasterTimer) (millis : Nat) (tx : NetworkTransaction) : Prop :=
  ∃ timer', timer.scheduleTransactionBroadcast millis tx = .ok timer' ∧
    ∀ late, ∃ time : Int,
      (timer'.elapse late).broadcasts.Perm (⟨time, tx⟩ :: (timer.elapse late).broadcasts) ∧
        (isTimeLocked tx.transaction = true →
          locktimeThreshold ≤ tx.transaction.lockTime.toNat →
            (tx.transaction.lockTime.toNat * 1000 : Int) ≤ time)

/-- There is something left to wait for, or nothing to wait for at all. -/
def Schedulable (millis : Nat) (tx : Transaction) : Prop :=
  isTimeLocked tx = true → millis / 1000 ≤ tx.lockTime.toNat + 30

theorem BroadcasterTimer.schedule_eq_ok_iff {timer timer' : BroadcasterTimer} {now : Nat}
    {tx : NetworkTransaction} {delay : Int} :
    timer.schedule now tx delay = .ok timer' ↔
      0 ≤ delay ∧ timer' = { timer with tasks := timer.tasks ++ [⟨now + delay, tx⟩] } := by
  unfold BroadcasterTimer.schedule
  split
  · rename_i hdelay
    constructor
    · intro h
      cases h
    · intro h
      omega
  · rename_i hdelay
    constructor
    · intro h
      cases h
      exact ⟨by omega, rfl⟩
    · rintro ⟨-, rfl⟩
      rfl

/-- Nothing is scheduled just when the delay would be negative. -/
theorem exists_scheduled_iff (timer : BroadcasterTimer) (millis : Nat) (tx : NetworkTransaction) :
    (∃ timer', timer.scheduleTransactionBroadcast millis tx = .ok timer') ↔
      Schedulable millis tx.transaction := by
  unfold BroadcasterTimer.scheduleTransactionBroadcast Schedulable
  by_cases hlocked : isTimeLocked tx.transaction = true
  · simp only [hlocked, not_true_eq_false, if_false, true_implies,
      BroadcasterTimer.schedule_eq_ok_iff, exists_and_left, exists_eq, and_true]
    omega
  · simp [hlocked]

/-- A transaction is broadcast once and in time if, and only if, it is not
locked or its lock time was not longer ago than half a minute. -/
theorem broadcast_once_iff (timer : BroadcasterTimer) (millis : Nat) (tx : NetworkTransaction) :
    BroadcastOnce timer millis tx ↔ Schedulable millis tx.transaction := by
  rw [← exists_scheduled_iff timer]
  constructor
  · rintro ⟨timer', hscheduled, -⟩
    exact ⟨timer', hscheduled⟩
  · rintro ⟨timer', hscheduled⟩
    refine ⟨timer', hscheduled, ?_⟩
    intro late
    unfold BroadcasterTimer.scheduleTransactionBroadcast at hscheduled
    by_cases hlocked : isTimeLocked tx.transaction = true
    · -- the task that was added runs after the others
      rw [if_neg (not_not.mpr hlocked), BroadcasterTimer.schedule_eq_ok_iff] at hscheduled
      obtain ⟨hdelay, rfl⟩ := hscheduled
      generalize htask : Broadcast.mk _ tx = task
      refine ⟨task.time + late task, ?_, ?_⟩
      · simp only [BroadcasterTimer.elapse, List.map_append, List.map_cons, List.map_nil,
          ← List.append_assoc, ← htask]
        exact List.perm_append_singleton _ _
      · intro _ _
        have htime : task.time = millis +
            (tx.transaction.lockTime.toNat - millis / 1000 + 30) * 1000 := by rw [← htask]
        omega
    · -- it is broadcast before the tasks that were there
      rw [if_pos hlocked] at hscheduled
      cases hscheduled
      refine ⟨millis, ?_, fun h => absurd h hlocked⟩
      simp only [BroadcasterTimer.elapse, BroadcasterTimer.broadcastTransaction, List.append_assoc]
      exact List.perm_middle

/-- A refund whose lock time is the height of a block is not broadcast. -/
theorem block_height_not_broadcast :
    let input : TransactionInput := ⟨⟨.zero, 0⟩, ⟨[]⟩, 0⟩
    let refund : NetworkTransaction := ⟨.mainNet, ⟨1, [input], [], 350000⟩⟩
    ¬ BroadcastOnce {} 1430000000000 refund ∧
      ({} : BroadcasterTimer).scheduleTransactionBroadcast 1430000000000 refund =
        .error (.illegalArgument (some "Negative delay.")) := by
  refine ⟨?_, by decide +kernel⟩
  rintro ⟨timer', hscheduled, -⟩
  cases hscheduled

end BitMesh.CloudServer
