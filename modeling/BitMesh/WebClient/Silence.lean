import BitMesh.WebClient.Books

/-!
# A server that does not answer

`update_payment` gives up once `num_unacked_payment_updates` is above
`max_unacked_payment_updates`. The count is set to 0 in one place and read in
another, and nothing advances it: it is 0 in every run, and without an
acknowledgement the timer does nothing at all.
-/

namespace BitMesh.WebClient

open BitMesh.Bitcoin (Bytes)
open BitMesh.Lib

namespace Browser

/-! ## What the handlers know of acknowledgements -/

theorem createPaymentChannel_pending (page : Page) : Keeps pending (createPaymentChannel page) := by
  apply Keeps.get_bind
  intro b
  cases hkey : b.serverKey with
  | none => exact rfl
  | some serverKey =>
      show wp (if _ then _ else _) (create page serverKey b).1 _ _
      rw [wp_ite]
      exact ⟨fun _ => rfl, fun _ => rfl⟩

theorem initiate_pending (page : Page) (signing : Signing) : Keeps pending (initiate page signing) := by
  refine .modify_bind (fun _ => rfl) ?_
  apply Keeps.get_bind
  intro b
  rw [wp_ite]
  refine ⟨fun _ => rfl, fun _ => ?_⟩
  rw [wp_bind, wp_set]
  apply Keeps.after _ rfl
  exact (createPaymentChannel_pending page).bind fun _ =>
    (keeps_pending (setChannelState_keeps _)).bind fun _ =>
      keeps_pending (sendRefund_keeps page signing)

theorem receivePrice_pending (page : Page) (signing : Signing) (proposedPrice : Int)
    (multisigKey : Option Bytes) :
    Keeps pending (receivePrice page signing proposedPrice multisigKey) := by
  refine .modify_bind (fun _ => rfl) ?_
  refine .ite (fun _ => keeps_pending exitWithErrorCode_keeps) fun _ => ?_
  refine (keeps_pending (defined_keeps _)).bind fun serverKey => ?_
  refine .modify_bind (fun _ => rfl) ?_
  refine (keeps_pending (setChannelState_keeps _)).bind fun _ => .read fun b => ?_
  exact .ite (fun _ => initiate_pending page signing) fun _ => keeps_pending sendFundingAddress_keeps

theorem processOutputs_pending (page : Page) (txId : Bytes) (j : Nat)
    (outputs : List FundingTxOutput) : Keeps pending (processOutputs page txId j outputs) := by
  induction outputs generalizing j with
  | nil => exact .pure _
  | cons output outputs ih =>
      refine (keeps_pending (defined_keeps _)).bind fun address => ?_
      refine .ite (fun _ => ?_) fun _ => ih (j + 1)
      exact .modify_bind (fun _ => rfl) ((ih (j + 1)).bind fun _ => .pure _)

theorem receiveFunding_pending (page : Page) (signing : Signing) (transaction : Option FundingTx) :
    Keeps pending (receiveFunding page signing transaction) := by
  refine (keeps_pending (defined_keeps _)).bind fun tx => ?_
  refine .modify_bind (fun _ => rfl) ?_
  refine .read fun b => .ite (fun _ => .pure _) fun _ => ?_
  refine (keeps_pending (defined_keeps _)).bind fun found => ?_
  cases found with
  | none => exact keeps_pending exitWithErrorCode_keeps
  | some script =>
      refine (keeps_pending (defined_keeps _)).bind fun refundAddress => ?_
      refine .modify_bind (fun _ => rfl) ?_
      refine (processOutputs_pending page tx.id 0 tx.outputs).bind fun fundingAmount => ?_
      refine .ite (fun _ => keeps_pending exitWithErrorCode_keeps) fun _ => ?_
      refine .modify_bind (fun _ => rfl) ?_
      refine (keeps_pending (setChannelState_keeps _)).bind fun _ => .read fun b => ?_
      exact .ite (fun _ => initiate_pending page signing) fun _ => .modify fun _ => rfl

theorem receiveInitiate_pending (page : Page) (signing : Signing)
    (minAcceptedChannelSize minPayment : Int) :
    Keeps pending (receiveInitiate page signing minAcceptedChannelSize minPayment) := by
  refine .modify_bind (fun _ => rfl) ?_
  exact .read fun b => .ite (fun _ => initiate_pending page signing) fun _ => .pure _

theorem receiveClose_pending : Keeps pending receiveClose := by
  have hrest : Keeps pending (do setChannelState .receivedClose; startPaymentChannel) :=
    keeps_pending ((setChannelState_keeps _).bind fun _ => startPaymentChannel_keeps)
  apply Keeps.get_bind
  intro b
  rw [wp_ite]
  refine ⟨fun _ => ?_, fun _ => ?_⟩
  · rw [wp_bind, wp_set]
    exact hrest.after rfl
  · rw [wp_bind, wp_set]
    exact hrest.after rfl

end Browser

/-- Every event but a PAYMENT_ACK. -/
def PageEvent.Silent : PageEvent → Prop
  | .receives .paymentAck _ => False
  | _ => True

namespace Browser

variable {page : Page} {b : Browser}

theorem onMessage_pending (page : Page) (signing : Signing) {message : FromServer}
    (h : (PageEvent.receives message signing).Silent) :
    Keeps pending (onMessage page signing message) := by
  cases message with
  | serverVersion major minor => exact keeps_pending (receiveVersion_keeps major minor)
  | price proposedPrice multisigKey =>
      exact receivePrice_pending page signing proposedPrice multisigKey
  | funding transaction => exact receiveFunding_pending page signing transaction
  | initiate minAcceptedChannelSize minPayment =>
      exact receiveInitiate_pending page signing minAcceptedChannelSize minPayment
  | returnRefund number => exact keeps_pending (receiveRefund_keeps page signing number)
  | channelOpen => exact keeps_pending receiveChannelOpen_keeps
  | paymentAck => exact h.elim
  | close => exact receiveClose_pending
  | error => exact keeps_pending receiveError_keeps

/-- Only the timer and a PAYMENT_ACK touch what is known of acknowledgements. -/
theorem next_pending {event : PageEvent} (hsilent : event.Silent) (htick : ∀ due, event ≠ .ticks due) :
    (b.next page event).pending = b.pending := by
  have hidle : Keeps pending (pure () : Handler Unit) := .pure ()
  refine (wp_iff_finalState (P := fun b' : Browser => b'.pending = b.pending)).mp ?_
  unfold handle
  rw [wp_bind, wp_get]
  cases event with
  | opens => exact Keeps.ite (fun _ => keeps_pending onOpen_keeps) (fun _ => hidle) b
  | closes policyViolation =>
      exact Keeps.ite (fun _ => keeps_pending (onClose_keeps policyViolation)) (fun _ => hidle) b
  | restarts =>
      show wp (if _ then _ else _) b _ _
      rw [wp_ite]
      exact ⟨fun _ => rfl, fun _ => rfl⟩
  | receives message signing =>
      exact Keeps.ite (fun _ => onMessage_pending page signing hsilent) (fun _ => hidle) b
  | ticks due => exact absurd rfl (htick due)
  | disconnects => exact keeps_pending userDisconnect_keeps b
  | reconnects => exact keeps_pending userReconnect_keeps b
  | unloads => exact keeps_pending closeChannel_keeps b

/-! ## The count -/

/-- `update_payment` leaves a count of 0. -/
theorem updatePayment_count (due : Bool) (h : b.numUnackedPaymentUpdates = 0) :
    wp (updatePayment due) b (fun _ b' => b'.numUnackedPaymentUpdates = 0)
      (fun _ b' => b'.numUnackedPaymentUpdates = 0) := by
  have hincrement : Keeps numUnackedPaymentUpdates incrementPayment :=
    incrementPayment_keeps.comp Prod.snd
  show wp (if due then _ else _) b _ _
  rw [wp_ite]
  refine ⟨fun _ => ?_, fun _ => h⟩
  rw [wp_ite]
  constructor
  · intro hack
    rw [wp_bind, wp_set]
    exact Keeps.after (.ite (fun _ => hincrement) fun _ => .pure _) rfl
  · intro hack
    -- the branch that gives up is not taken
    rw [wp_ite]
    refine ⟨fun habove => ?_, fun _ => h⟩
    rw [h] at habove
    exact absurd habove (by decide)

/-- Nothing ever advances the count. -/
theorem numUnackedPaymentUpdates_eq_zero (h : Runs page b) : b.numUnackedPaymentUpdates = 0 := by
  refine Reaches.invariant (I := fun b => b.numUnackedPaymentUpdates = 0) rfl ?_ h
  intro b event _ hb
  have hother (hsilent : event.Silent) (htick : ∀ due, event ≠ .ticks due) :
      (b.next page event).numUnackedPaymentUpdates = 0 :=
    (congrArg Prod.fst (next_pending hsilent htick)).trans hb
  cases event with
  | ticks due =>
      refine (wp_iff_finalState (P := fun b' : Browser => b'.numUnackedPaymentUpdates = 0)).mp ?_
      show wp (if b.paymentUpdateTimer then _ else _) b _ _
      rw [wp_ite]
      exact ⟨fun _ => updatePayment_count due hb, fun _ => hb⟩
  | receives message signing =>
      cases message with
      | paymentAck =>
          refine (wp_iff_finalState (P := fun b' : Browser => b'.numUnackedPaymentUpdates = 0)).mp ?_
          show wp (if b.socket = .opened then _ else _) b _ _
          rw [wp_ite]
          exact ⟨fun _ => hb, fun _ => hb⟩
      | _ => exact hother trivial (by simp)
  | _ => exact hother trivial (by simp)

/-- Without an acknowledgement the timer does nothing. -/
theorem next_ticks (hcount : b.numUnackedPaymentUpdates = 0) (hack : b.receivedAck = false)
    (due : Bool) : b.next page (.ticks due) = b := by
  refine (wp_iff_finalState (P := fun b' : Browser => b' = b)).mp ?_
  show wp (if b.paymentUpdateTimer then updatePayment due else _) b _ _
  rw [wp_ite]
  refine ⟨fun _ => ?_, fun _ => rfl⟩
  show wp (if due then _ else _) b _ _
  rw [wp_ite]
  refine ⟨fun _ => ?_, fun _ => rfl⟩
  rw [hack, hcount]
  exact rfl

/-! ## Runs without an acknowledgement -/

theorem receivedAck_next (h : Runs page b) (hack : b.receivedAck = false) {event : PageEvent}
    (hsilent : event.Silent) : (b.next page event).receivedAck = false := by
  by_cases htick : ∃ due, event = .ticks due
  · obtain ⟨due, rfl⟩ := htick
    rw [next_ticks (numUnackedPaymentUpdates_eq_zero h) hack]
    exact hack
  · have hpending : (b.next page event).pending = b.pending :=
      next_pending hsilent fun due hdue => htick ⟨due, hdue⟩
    exact (congrArg Prod.snd hpending).trans hack

theorem receivedAck_foldl (h : Runs page b) (hack : b.receivedAck = false)
    {events : List PageEvent} (hsilent : ∀ event ∈ events, event.Silent) :
    (events.foldl (next page) b).receivedAck = false := by
  induction events generalizing b with
  | nil => exact hack
  | cons event events ih =>
      have hfirst := receivedAck_next h hack (hsilent event List.mem_cons_self)
      apply ih (h.step (i := event) trivial) hfirst
      intro event' hmem
      exact hsilent event' (List.mem_cons_of_mem _ hmem)

/-- An execution of `update_payment` that finds less than five seconds left
and the internet reachable. -/
def Executes (b : Browser) (event : PageEvent) : Prop :=
  event = .ticks true ∧ b.paymentUpdateTimer = true

instance Executes.decidable (b : Browser) (event : PageEvent) : Decidable (b.Executes event) :=
  inferInstanceAs (Decidable (_ ∧ _))

/-- How many there are in a run. -/
def executions (page : Page) : Browser → List PageEvent → Nat
  | _, [] => 0
  | b, event :: events =>
      (if b.Executes event then 1 else 0) + executions page (b.next page event) events

theorem executions_append (page : Page) (b : Browser) (events events' : List PageEvent) :
    executions page b (events ++ events') =
      executions page b events + executions page (events.foldl (next page) b) events' := by
  induction events generalizing b with
  | nil => simp [executions]
  | cons event events ih => simp [executions, ih, Nat.add_assoc]

/-- The execution that comes after the first `k`. -/
theorem exists_execution {k : Nat} {events : List PageEvent} (h : k < executions page b events) :
    ∃ earlier event later, events = earlier ++ event :: later ∧
      (earlier.foldl (next page) b).Executes event ∧ executions page b earlier = k := by
  induction events generalizing b k with
  | nil => exact absurd h (Nat.not_lt_zero k)
  | cons event events ih =>
      by_cases hfirst : k = 0 ∧ b.Executes event
      · exact ⟨[], event, events, rfl, hfirst.2, hfirst.1.symm⟩
      · -- the execution is among the events after the first
        let counted := if b.Executes event then 1 else 0
        have hle : counted ≤ k := by
          by_cases hexec : b.Executes event
          · have hk : k ≠ 0 := fun hk => hfirst ⟨hk, hexec⟩
            simp only [counted, if_pos hexec]
            omega
          · simp [counted, if_neg hexec]
        have hrest : k - counted < executions page (b.next page event) events := by
          have htotal : k < counted + executions page (b.next page event) events := h
          omega
        obtain ⟨earlier, event', later, hsplit, hexec, hcount⟩ := ih hrest
        refine ⟨event :: earlier, event', later, by rw [hsplit]; rfl, hexec, ?_⟩
        show counted + executions page (b.next page event) earlier = k
        omega

/-- After `max_unacked_payment_updates + 1` executions, the next one cancels
the timer and sends an ERROR, and there is none after it. -/
def Detects (page : Page) (b : Browser) (events : List PageEvent) : Prop :=
  (∀ earlier event later, events = earlier ++ event :: later →
    let b₁ := earlier.foldl (next page) b
    b₁.Executes event → executions page b earlier = maxUnackedPaymentUpdates + 1 →
      (b₁.next page event).paymentUpdateTimer = false ∧
        FromClient.error ∈ (b₁.next page event).sent.drop b₁.sent.length) ∧
  executions page b events ≤ maxUnackedPaymentUpdates + 2

/-- Only a silence that is too short to be noticed is as it should be: the
execution that should end a longer one does nothing. -/
theorem silence_detected_iff (h : Runs page b) (hack : b.receivedAck = false)
    {events : List PageEvent} (hsilent : ∀ event ∈ events, event.Silent) :
    Detects page b events ↔ executions page b events ≤ maxUnackedPaymentUpdates + 1 := by
  constructor
  · rintro ⟨hnext, -⟩
    by_contra hmore
    obtain ⟨earlier, event, later, hsplit, hexec, hcount⟩ :=
      exists_execution (Nat.lt_of_not_le hmore)
    let b₁ := earlier.foldl (next page) b
    have hquiet : b₁.receivedAck = false := by
      apply receivedAck_foldl h hack
      intro event' hmem
      apply hsilent
      rw [hsplit]
      exact List.mem_append_left _ hmem
    have hsame : b₁.next page event = b₁ := by
      rw [hexec.1]
      exact next_ticks (numUnackedPaymentUpdates_eq_zero (h.foldl earlier)) hquiet true
    have hoff := (hnext earlier event later hsplit hexec hcount).1
    rw [hsame, hexec.2] at hoff
    exact Bool.noConfusion hoff
  · intro hfew
    refine ⟨fun earlier event later hsplit hexec hcount => ?_, Nat.le_succ_of_le hfew⟩
    rw [hsplit, executions_append, hcount, executions, if_pos hexec] at hfew
    omega

/-- The channel is open and a payment was made. -/
theorem silence_detected_iff_sample :
    let b := Sample.run (Sample.opened ++ [.ticks true])
    let events := List.replicate (maxUnackedPaymentUpdates + 2) (PageEvent.ticks true)
    b.paymentUpdateTimer = true ∧ b.receivedAck = false ∧
      (Detects Sample.page b events ↔
        executions Sample.page b events ≤ maxUnackedPaymentUpdates + 1) :=
  ⟨by decide +kernel, by decide +kernel,
    silence_detected_iff (Sample.runs _) (by decide +kernel) fun _ hmem =>
      (List.eq_of_mem_replicate hmem).symm ▸ trivial⟩

/-- Seven times nothing comes, and the page goes on waiting. -/
theorem silence_not_detected :
    ¬ Detects Sample.page (Sample.run (Sample.opened ++ [.ticks true]))
      (List.replicate (maxUnackedPaymentUpdates + 2) (.ticks true)) := by
  rintro ⟨hnext, -⟩
  have hoff := (hnext (List.replicate (maxUnackedPaymentUpdates + 1) (.ticks true)) (.ticks true) []
    rfl (by decide +kernel) (by decide +kernel)).1
  revert hoff
  decide +kernel

/-- Nothing ends a silence: the timer can run out any number of times. -/
theorem executions_replicate (h : Runs page b) (hopen : b.paymentUpdateTimer = true)
    (hack : b.receivedAck = false) (n : Nat) :
    executions page b (List.replicate n (.ticks true)) = n := by
  have hsame : b.next page (.ticks true) = b :=
    next_ticks (numUnackedPaymentUpdates_eq_zero h) hack true
  induction n with
  | zero => rfl
  | succ n ih =>
      rw [List.replicate_succ, executions, if_pos ⟨rfl, hopen⟩, hsame, ih]
      omega

end Browser

end BitMesh.WebClient
