import BitMesh.Channels.Client
import BitMesh.Channels.Frames
import BitMesh.Channels.Invariants

/-!
# What a client is credited

The increase that is reported is the difference of two totals that another
object keeps. Counted over whole runs, the increases reported for a channel
never add up to more than the payment it can be settled for, as long as
`close` has not been called on it: a `close` that gives up has taken the fee
out of the total and leaves the channel open.
-/

namespace BitMesh.Channels

open BitMesh.Bitcoin BitMesh.Lib

/-- The increases reported so far, newest first. -/
def World.credits (w : World) : List (StateRef × Coin) := w.trace.filterMap Event.credit

/-- The sum of the increases reported for the state `s`. -/
def World.creditTo (w : World) (s : StateRef) : Int :=
  ((w.credits.filter (·.1 = s)).map (·.2.value)).sum

variable {p : Platform} {env : Env} {start : World} {a : Env × Action} {w w' : World}

/-! ## Who reports -/

def SameCredits (w t : World) : Prop := t.credits = w.credits

/-- At most one increase is reported between `w` and `t`. -/
def CreditedOnce (w t : World) : Prop :=
  t.credits = w.credits ∨ ∃ credit, t.credits = credit :: w.credits

theorem SameCredits.of_trace (h : w'.trace = w.trace) : SameCredits w w' := by
  unfold SameCredits World.credits
  rw [h]

instance SameCredits.isPreorder : IsPreorder World SameCredits where
  refl _ := rfl
  trans _ _ _ h h' := h'.trans h

instance SameCredits.frame : FullFrame SameCredits where
  others _ _ _ _ h := by
    rcases h with h | ⟨e, he, h⟩
    · exact .of_trace h
    · unfold SameCredits World.credits
      rw [h, List.filterMap_cons_none he]
  assigned _ _ _ _ := rfl
  keyed _ _ _ _ _ := rfl
  made _ _ _ := rfl
  offered _ _ _ _ _ := rfl
  completed _ _ := rfl
  settled _ _ _ h := .of_trace h.trace

instance CreditedOnce.reporting : Reporting SameCredits CreditedOnce where
  unreported h := .inl h
  before h h' := by
    unfold CreditedOnce at h' ⊢
    rwa [show _ = _ from h] at h'
  after h h' := by
    unfold CreditedOnce at h ⊢
    rwa [show _ = _ from h']
  reported _ _ s amount _ := .inr ⟨(s, amount), rfl⟩

theorem World.credits_eq_history (w : World) : w.credits = w.history.filterMap Event.credit := by
  unfold World.credits World.history
  rw [List.filterMap_filter]
  congr 1
  funext e
  cases e <;> simp [Event.credit, Event.neutral]

theorem Quiet.credits (h : Quiet w w') : w'.credits = w.credits := by
  rw [w'.credits_eq_history, w.credits_eq_history, h.history]

theorem World.creditTo_congr (h : w'.credits = w.credits) (s : StateRef) :
    w'.creditTo s = w.creditTo s := by
  unfold World.creditTo
  rw [h]

/-- An increase counts for its own state only. -/
theorem World.creditTo_cons {s' : StateRef} {amount : Coin}
    (h : w'.credits = (s', amount) :: w.credits) (s : StateRef) :
    w'.creditTo s = (if s' = s then amount.value else 0) + w.creditTo s := by
  unfold World.creditTo
  rw [h, List.filter_cons]
  by_cases hs : s' = s <;> simp [hs]

theorem Closing.credits (h : Closing p env w w') : w'.credits = w.credits := by
  cases h with
  | settling h =>
    cases h with
    | quiet hq => exact hq.credits
    | deducted | settled | closedEarly => rfl
  | _ => rfl

/-- One effect reports, and it is the one that has the difference. -/
theorem Effect.credits (he : Effect p start a w w') :
    w'.credits = w.credits ∨ ∃ c s amount, Crediting start w c s amount ∧
      w'.states = w.states ∧ w'.credits = (s, amount) :: w.credits := by
  cases he with
  | closing h => exact .inl h.credits
  | credited c s amount hs => exact .inr ⟨c, s, amount, hs, rfl, rfl⟩
  | keyNoted e he => cases he <;> exact .inl rfl
  | _ => exact .inl rfl

/-! ## States that were negotiated

A state made from a record starts with what the record says. The others
start with nothing paid. -/

/-- The state `s` is yet to be made, or a connection made it. -/
def Unrestored (w : World) (s : StateRef) : Prop :=
  w.states.next ≤ s ∨ (w.states.read s).state = .waitingForRefundTransaction ∨
    ∃ lockTime, .refundSigned s lockTime ∈ w.trace

theorem Effect.unrestored (he : Effect p start a w w') {s : StateRef} (h : Unrestored w' s) :
    Unrestored w s := by
  rcases h with hnext | hwaiting | ⟨lockTime, hsigned⟩
  · exact .inl (he.statesNext_le.trans hnext)
  · rcases he.changes s with hsame | ⟨st, hst, hch⟩
    · exact .inr (.inl (core_field hsame (·.state) (fun _ => rfl) ▸ hwaiting))
    · rw [hst] at hwaiting
      cases hch with
      | started _ hs => exact .inl hs.ge
      | unlockSet _ _ hs | keysSet _ hs => exact .inr (.inl hs)
      | deducted | untied | accepted | contractGiven | totalSet | stored =>
        exact .inr (.inl hwaiting)
      | settled | closedEarly | restored | refundSigned | contractBroadcast => cases hwaiting
      | contractDone _ success | settlementDone _ success => cases success <;> cases hwaiting
  · rcases he.trace_of rfl hsigned with hold | hnew
    · exact .inr (.inr ⟨lockTime, hold⟩)
    · cases hnew with
      | refundSigned c _ tx hs => exact .inr (.inl hs.state_eq)

/-- States that do not exist. -/
structure Blank (w : World) : Prop where
  best : ∀ s, w.states.next ≤ s → (w.states.read s).bestValueToMe = Coin.zero
  credit : ∀ x ∈ w.credits, x.1 < w.states.next
  signed : ∀ s lockTime, .refundSigned s lockTime ∈ w.trace → s < w.states.next

theorem Blank.initial (autosave : Bool) : Blank (World.initial autosave) :=
  ⟨fun _ _ => rfl, fun _ h => (nomatch h), fun _ _ h => (nomatch h)⟩

theorem Effect.blank (he : Effect p start a w w') (h : Blank w) (hat : Allocated w)
    (hb : Broadcasts w) (hb' : Broadcasts w') : Blank w' where
  best s hs := by
    have hle := he.statesNext_le.trans hs
    have hlt {st : State} (hst : (w.states.read s).state = st) (hne : st ≠ .error) : False :=
      absurd (hb.lt_of_ne_error (hst ▸ hne)) (Nat.not_lt.mpr hle)
    have herror := hb'.blank s hs
    rcases he.changes s with hsame | ⟨st, hst, hch⟩
    · rw [core_field hsame (·.bestValueToMe) fun _ => rfl]
      exact h.best s hle
    · rw [hst] at herror ⊢
      cases hch with
      | deducted _ _ hready | settled _ _ _ hready => exact (hlt hready (by decide)).elim
      | accepted pay => exact (hlt pay.ready (by decide)).elim
      | restored | started => cases herror
      | _ => exact h.best s hle
  credit x hx := by
    rcases he.credits with hsame | ⟨c, s, amount, hs, hstates, hnew⟩
    · exact lt_of_lt_of_le (h.credit x (hsame ▸ hx)) he.statesNext_le
    · rw [hstates]
      rcases List.mem_cons.mp (hnew ▸ hx) with rfl | hold
      · exact hat.server c s hs.state
      · exact h.credit x hold
  signed s lockTime hs := by
    refine lt_of_lt_of_le ?_ he.statesNext_le
    rcases he.trace_of rfl hs with hold | hnew
    · exact h.signed s lockTime hold
    · cases hnew with
      | refundSigned c _ tx hsign => exact hat.server c s hsign.serverState

/-- What is paid to a negotiated state changes by a payment only, until it
is closed. -/
theorem Effect.paid (he : Effect p start a w w') (h : Blank w) (hb : Broadcasts w)
    (hb' : Broadcasts w') {s : StateRef} (hs : Unrestored w' s)
    (hopen : .closeCalled s ∉ w'.trace) :
    (w'.states.read s).bestValueToMe = (w.states.read s).bestValueToMe ∨
      ∃ pay : Payment p w s, (w'.states.read s).bestValueToMe = pay.newValueToMe := by
  rcases he.changes s with hsame | ⟨st, hst, hch⟩
  · exact .inl (core_field hsame (·.bestValueToMe) fun _ => rfl)
  · unfold Unrestored at hs
    rw [hst] at hs ⊢
    cases hch with
    | deducted _ hcalled | settled _ _ hcalled => exact absurd (he.mem_trace rfl hcalled) hopen
    | accepted pay => exact .inr ⟨pay, rfl⟩
    | started _ hnew => exact .inl (h.best s hnew.ge).symm
    | restored r T hnew =>
      -- a state made from a record is not one of them
      rcases hs with hnext | hwaiting | ⟨lockTime, hsigned⟩
      · have herror := hb'.blank s hnext
        rw [hst] at herror
        cases herror
      · cases hwaiting
      · rcases he.trace_of rfl hsigned with hold | hemitted
        · exact absurd hnew (Nat.ne_of_lt (h.signed s lockTime hold))
        · cases hemitted with
          | refundSigned c _ tx hsign =>
            have herror := (hb.blank s hnew.ge).symm.trans hsign.state_eq
            cases herror
    | _ => exact .inl rfl

/-! ## Runs -/

section Runs

variable {ok : World → Env × Action → Prop} {autosave : Bool}

theorem Passed.blank (h : Passed p ok autosave w) : Blank w :=
  Visited.invariant (.initial autosave) (fun _ _ _ _ hs hok hpath _ hi he =>
    have ht := hs.path hok hpath
    he.blank hi (Passed.allocated ht) (Passed.broadcasts ht)
      (Passed.broadcasts (.effect _ hs hok hpath he))) h

theorem Path.unrestored (hpath : Path p start a start w) {s : StateRef} (hs : Unrestored w s) :
    Unrestored start s := by
  induction hpath with
  | refl => exact hs
  | tail _ he ih => exact ih (he.unrestored hs)

variable (h : Passed p ok autosave start) (hok : ok start a)
include h hok

theorem Passed.paid (hpath : Path p start a start w) (he : Effect p start a w w') {s : StateRef}
    (hs : Unrestored w' s) (hopen : .closeCalled s ∉ w'.trace) :
    (w'.states.read s).bestValueToMe = (w.states.read s).bestValueToMe ∨
      ∃ pay : Payment p w s, (w'.states.read s).bestValueToMe = pay.newValueToMe :=
  have hw := h.path hok hpath
  he.paid (Passed.blank hw) (Passed.broadcasts hw)
    (Passed.broadcasts (.effect _ h hok hpath he)) hs hopen

theorem Passed.best_le (hpath : Path p start a start w) (he : Effect p start a w w')
    {s : StateRef} (hs : Unrestored w' s) (hopen : .closeCalled s ∉ w'.trace) :
    (w.states.read s).bestValueToMe.value ≤ (w'.states.read s).bestValueToMe.value := by
  rcases Passed.paid h hok hpath he hs hopen with hsame | ⟨pay, hpay⟩
  · rw [hsame]
  · rw [hpay]
    exact pay.increase

/-- What one action does to the payment of a negotiated state. -/
theorem Path.best_le (hpath : Path p start a start w) {s : StateRef} (hs : Unrestored w s)
    (hopen : .closeCalled s ∉ w.trace) :
    (start.states.read s).bestValueToMe.value ≤ (w.states.read s).bestValueToMe.value := by
  induction hpath with
  | refl => exact le_rfl
  | tail hpath he ih =>
    exact (ih (he.unrestored hs) fun hmem => hopen (he.mem_trace rfl hmem)).trans
      (Passed.best_le h hok hpath he hs hopen)

/-- The one increase an action reports was paid since it began. -/
theorem Path.credit_le (hpath : Path p start a start w) {s : StateRef} {amount : Coin}
    (hcredit : w.credits = (s, amount) :: start.credits) (hs : Unrestored w s)
    (hopen : .closeCalled s ∉ w.trace) :
    amount.value + (start.states.read s).bestValueToMe.value ≤
      (w.states.read s).bestValueToMe.value := by
  induction hpath with
  | refl => exact absurd hcredit.symm (List.cons_ne_self _ _)
  | tail hpath he ih =>
    rcases he.credits with hsame | ⟨c, s', amount', hcrediting, hstates, hnew⟩
    · exact (ih (hsame ▸ hcredit) (he.unrestored hs) fun hmem =>
        hopen (he.mem_trace rfl hmem)).trans (Passed.best_le h hok hpath he hs hopen)
    · obtain ⟨⟨rfl, rfl⟩, -⟩ : (s' = s ∧ amount' = amount) ∧ _ := by
        simpa using hnew.symm.trans hcredit
      rw [hstates, hcrediting.amount_value]
      omega

end Runs

/-- The increases reported for a state were paid to it. -/
def CreditPaid (w : World) : Prop :=
  ∀ s, Unrestored w s → .closeCalled s ∉ w.trace →
    w.creditTo s ≤ (w.states.read s).bestValueToMe.value

/-- One input reports at most one increase, and that much was paid. -/
theorem CreditPaid.next {ok : World → Env × Input → Prop} {autosave : Bool} {i : Env × Input}
    (hw : Reached p ok autosave w) (hok : ok w i) (h : CreditPaid w) :
    CreditPaid (w.next p i) := by
  intro s hs hopen
  have hpassed := Reached.passed hw
  have hok' : OnInputs ok w (i.1, .input i.2) := ⟨i.2, rfl, hok⟩
  have hpath : Path p w (i.1, .input i.2) w (w.next p i) :=
    (perform_follows i.2 (Passed.allocated hpassed)).finalState
  have hbefore := h s (Path.unrestored hpath hs) fun hmem => hopen (Path.mem_trace hpath rfl hmem)
  have honce : CreditedOnce w (w.next p i) :=
    (Reporting.perform i.2).finalState w
  rcases honce with hsame | ⟨⟨s', amount⟩, hnew⟩
  · rw [World.creditTo_congr hsame]
    exact hbefore.trans (Path.best_le hpassed hok' hpath hs hopen)
  · rw [World.creditTo_cons hnew]
    by_cases heq : s' = s
    · subst heq
      have hpaid := Path.credit_le hpassed hok' hpath hnew hs hopen
      rw [if_pos rfl]
      omega
    · have hbest := Path.best_le hpassed hok' hpath hs hopen
      rw [if_neg heq]
      omega

theorem Reached.creditPaid {ok : World → Env × Input → Prop} {autosave : Bool}
    (h : Reached p ok autosave w) : CreditPaid w := by
  induction h with
  | start => exact fun _ _ _ => le_rfl
  | step i hw hok ih => exact ih.next hw hok

/-- The best payment of a negotiated state is none, or one that the client
signed. -/
def Backed (p : Platform) (ok : World → Env × Action → Prop) (autosave : Bool) (w : World) : Prop :=
  ∀ s, Unrestored w s → .closeCalled s ∉ w.trace →
    (w.states.read s).bestValueToMe = Coin.zero ∨
      ∃ v, ∃ pay : Payment p v s, Passed p ok autosave v ∧
        (w.states.read s).bestValueToMe = pay.newValueToMe

theorem Passed.backed {ok : World → Env × Action → Prop} {autosave : Bool}
    (h : Passed p ok autosave w) : Backed p ok autosave w := by
  refine Visited.invariant (fun _ _ _ => .inl rfl) ?_ h
  intro start a t u hstart hok hpath _ hi he s hs hopen
  rcases Passed.paid hstart hok hpath he hs hopen with hsame | ⟨pay, hpay⟩
  · rw [hsame]
    exact hi s (he.unrestored hs) fun hmem => hopen (he.mem_trace rfl hmem)
  · exact .inr ⟨t, pay, hstart.path hok hpath, hpay⟩

theorem Passed.credit_pos {ok : World → Env × Action → Prop} {autosave : Bool}
    (h : Passed p ok autosave w) : ∀ credit ∈ w.credits, 0 < credit.2.value := by
  refine Visited.invariant (I := fun w : World => ∀ credit ∈ w.credits, 0 < credit.2.value)
    (fun _ h => absurd h List.not_mem_nil) ?_ h
  intro start a t u _ _ _ _ hi he credit hmem
  rcases he.credits with hsame | ⟨c, s, amount, hs, -, hnew⟩
  · exact hi credit (hsame ▸ hmem)
  · rcases List.mem_cons.mp (hnew ▸ hmem) with rfl | hold
    · exact hs.positive
    · exact hi credit hold

/-- In every run, the increases reported for a channel are positive and add
up to no more than its best payment, which a client signed, as long as
`close` has not been called on it. -/
theorem credit_within_payment {ok : World → Env × Input → Prop} {autosave : Bool}
    (h : Reached p ok autosave w) {s : StateRef} {lockTime : Int}
    (hs : .refundSigned s lockTime ∈ w.trace) (hopen : .closeCalled s ∉ w.trace) :
    (∀ credit ∈ w.credits, 0 < credit.2.value) ∧
      w.creditTo s ≤ (w.states.read s).bestValueToMe.value ∧
      ((w.states.read s).bestValueToMe = Coin.zero ∨
        ∃ v, ∃ pay : Payment p v s, Passed p (OnInputs ok) autosave v ∧
          (w.states.read s).bestValueToMe = pay.newValueToMe) := by
  have hnegotiated : Unrestored w s := .inr (.inr ⟨lockTime, hs⟩)
  exact ⟨Passed.credit_pos (Reached.passed h), h.creditPaid s hnegotiated hopen,
    Passed.backed (Reached.passed h) s hnegotiated hopen⟩

/-- A client opens a channel with a payment of 10000 satoshis and makes it
20000: both increases are reported. -/
theorem credit_within_payment_20000 :
    let w := Client.run (Client.openChannel 90000 ++ [.message 0 (Client.updatePayment 1 80000)])
    w.creditTo 0 = 20000 ∧ w.credits.length = 2 ∧
      (∀ credit ∈ w.credits, 0 < credit.2.value) ∧
      w.creditTo 0 ≤ (w.states.read 0).bestValueToMe.value ∧
      ((w.states.read 0).bestValueToMe = Coin.zero ∨
        ∃ v, ∃ pay : Payment Client.platform v 0,
          Passed Client.platform (OnInputs fun _ _ => True) true v ∧
            (w.states.read 0).bestValueToMe = pay.newValueToMe) := by
  intro w
  have hreached : Reached Client.platform (fun _ _ => True) true w := Reaches.foldl _ .start
  have hsigned : .refundSigned 0 25500000 ∈ w.trace := by decide +kernel
  have hopen : .closeCalled 0 ∉ w.trace := by decide +kernel
  exact ⟨by decide +kernel, by decide +kernel, credit_within_payment hreached hsigned hopen⟩

end BitMesh.Channels
