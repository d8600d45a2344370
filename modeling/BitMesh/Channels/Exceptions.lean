import BitMesh.Channels.Closing

/-!
# What closing throws

`closeChannel` catches two classes of exceptions, and `incrementPayment`
reports a payment that is out of range by a third one. None of the three
comes out of `close`: what goes wrong with a settlement is wrapped, and
saving throws other exceptions.
-/

namespace BitMesh.Channels

open BitMesh.Bitcoin BitMesh.Lib

variable {p : Platform} {env : Env}

/-- An exception that is not about a payment. -/
structure Uncaught (e : JavaException) : Prop where
  insufficientMoney : e.cls ≠ .insufficientMoney
  verification : e.cls ≠ .verification
  valueOutOfRange : e.cls ≠ .valueOutOfRange

namespace Uncaught

variable {e : JavaException}

/-- The handler of `closeChannel` throws it on. -/
theorem not_caught (h : Uncaught e) : ¬ (e.cls = .insufficientMoney ∨ e.cls = .verification) :=
  not_or.mpr ⟨h.insufficientMoney, h.verification⟩

theorem wrap (e : JavaException) : Uncaught (.wrap e) :=
  ⟨by simp [JavaException.wrap], by simp [JavaException.wrap], by simp [JavaException.wrap]⟩

theorem illegalState : Uncaught .illegalState := ⟨by decide, by decide, by decide⟩

theorem nullPointer : Uncaught .nullPointer := ⟨by decide, by decide, by decide⟩

end Uncaught

theorem serializeChannel_uncaught {channel : StoredServerChannel} {output : TransactionOutput}
    {e : JavaException} (h : serializeChannel p channel output = .error e) : Uncaught e := by
  unfold serializeChannel at h
  by_cases hbest : 0 ≤ channel.bestValueToMe.value ∧
      channel.bestValueToMe.value < Coin.maxMoney.value
  · rw [if_neg (not_not.mpr hbest)] at h
    by_cases hunlock : 0 < channel.refundTransactionUnlockTimeSecs
    · rw [if_neg (not_not.mpr hunlock)] at h
      cases hpriv : channel.myKey.priv with
      | none =>
        rw [hpriv] at h
        exact Except.error.inj h ▸ ⟨by decide, by decide, by decide⟩
      | some priv =>
        rw [hpriv] at h
        cases h
    · rw [if_pos hunlock] at h
      exact Except.error.inj h ▸ .illegalState
  · rw [if_pos hbest] at h
    exact Except.error.inj h ▸ .illegalState

theorem orThrow_throws {σ α : Type} {P : JavaException → Prop} {x : Except JavaException α}
    (h : ∀ e, x = .error e → P e) : Throws P (orThrow x : EStateM JavaException σ α) := by
  intro s
  rw [wp_orThrow]
  exact ⟨fun _ _ => trivial, h⟩

theorem updatedChannel_throws : Throws Uncaught (updatedChannel p) := by
  unfold updatedChannel saveNow
  refine .bind (.modify _) fun _ => .bind .get fun w => .ite (fun _ => ?_) (fun _ => .pure _)
  refine .bind (orThrow_throws fun e he => ?_) fun _ => .pure _
  obtain ⟨_, _, hchannel⟩ := exists_of_mapM_eq_error he
  exact serializeChannel_uncaught hchannel

theorem settle_throws (s : StateRef) : Throws Uncaught (settle p env s) := by
  unfold settle
  refine .bind (.bind .get fun _ => .pure _) fun st =>
    .ite (fun _ => ?_) (fun _ => .ite (fun _ => .pure _) (fun _ => ?_))
  · refine .bind (.modify _) fun _ => .bind ?_ fun _ => .pure _
    unfold setClosedFuture
    refine .bind (.bind .get fun _ => .pure _) fun st => .ite (fun _ => ?_) (fun _ => .pure _)
    exact .bind (.modify _) fun _ => .forM _ fun cb => .modify _
  · refine .bind (.tryCatch (.any _) fun e _ => .throw (.wrap e)) fun settlement => ?_
    cases settlement with
    | none => exact .pure _
    | some tx => exact .bind (.modify _) fun _ => .bind (.modify _) fun _ => .pure _

/-- A record that cannot be restored is reported by other exceptions than a
payment. -/
theorem getOrCreateState_throws (r : ChannelRef) :
    Throws (fun e => e.cls ≠ .valueOutOfRange) (getOrCreateState p r) := by
  unfold getOrCreateState
  refine .bind (.bind .get fun _ => .pure _) fun ch => ?_
  cases ch.state with
  | some s => exact .pure s
  | none =>
    unfold restoreState
    refine .bind (.bind .get fun _ => .pure _) fun ch => ?_
    refine .bind (orThrow_throws fun e he => ?_) fun output => ?_
    · unfold Transaction.output0 at he
      split at he <;> cases he
      decide
    have hrest : Throws (fun e : JavaException => e.cls ≠ .valueOutOfRange) (do
        let totalValue ← orThrow output.getValue
        checkArgument (ch.bestValueToMe = Coin.zero || ch.bestValueSignature.isSome)
        let w ← get
        let s := w.states.next
        set { w with states := (w.states.alloc {
          state := .ready
          serverKey := ch.myKey
          multisigContract := some ch.contract
          totalValue := some totalValue
          bestValueToMe := ch.bestValueToMe
          bestValueSignature := ch.bestValueSignature
          clientOutput := some ch.clientOutput
          refundTransactionUnlockTimeSecs := ch.refundTransactionUnlockTimeSecs
          storedServerChannel := some r }).2 }
        modifyChannel r fun ch => { ch with state := some s }
        return s : Method StateRef) := by
      refine .bind (orThrow_throws fun e he => ?_) fun totalValue => ?_
      · unfold TransactionOutput.getValue at he
        split at he <;> cases he
        simp
      · refine .bind (.ite (fun _ => .pure _) fun _ => .throw (by decide)) fun _ => ?_
        exact .bind .get fun w => .bind (fun _ => trivial) fun _ => .bind (.modify _) fun _ => .pure _
    cases p.scriptError output.script.program with
    | some msg => exact .bind (.throw (by simp [JavaException.verification])) fun _ => hrest
    | none => exact hrest

theorem closeRemoved_throws {close : StateRef → Method CloseResult}
    (hclose : ∀ s, Throws Uncaught (close s)) (r : ChannelRef) :
    Throws Uncaught (closeRemoved p close r) := by
  unfold closeRemoved
  refine .bind (.tryCatch (Q := fun e => e.cls ≠ .valueOutOfRange) ?_ fun e he => ?_) fun _ => ?_
  · refine .bind (getOrCreateState_throws r) fun s => .bind ?_ fun _ => .pure _
    exact fun w => wp.mono (hclose s w) (fun _ _ h => h) (fun _ _ h => h.valueOutOfRange)
  · refine .ite (fun _ => .pure _) fun hnot => .throw ?_
    exact ⟨(not_or.mp hnot).1, (not_or.mp hnot).2, he⟩
  · exact .bind (.modify _) fun _ => updatedChannel_throws

theorem closeWith_throws {closeChannel : ChannelRef → Method Unit}
    (hclose : ∀ r, Throws Uncaught (closeChannel r)) (s : StateRef) :
    Throws Uncaught (closeWith p env closeChannel s) := by
  unfold closeWith
  refine .bind (.modify _) fun _ => .bind (.bind .get fun _ => .pure _) fun st => ?_
  cases st.storedServerChannel with
  | none => exact settle_throws s
  | some temp =>
    refine .bind (.modify _) fun _ => .bind (hclose temp) fun _ => ?_
    refine .bind (.bind .get fun _ => .pure _) fun st => ?_
    exact .ite (fun _ => .pure _) fun _ => settle_throws s

theorem closeChannelN_throws (n : Nat) (r : ChannelRef) :
    Throws Uncaught (closeChannelN p env n r) := by
  induction n generalizing r with
  | zero => exact .pure _
  | succ n ih =>
    refine .bind .get fun _ => .ite (fun _ => ?_) fun _ => .pure _
    refine .bind (.modify _) fun _ => .bind (.modify _) fun _ => ?_
    exact closeRemoved_throws (fun s => closeWith_throws ih s) r

theorem closeChannel_throws (r : ChannelRef) : Throws Uncaught (closeChannel p env r) :=
  .bind .get fun _ => closeChannelN_throws _ r

theorem close_throws (s : StateRef) : Throws Uncaught (close p env s) :=
  closeWith_throws closeChannel_throws s

end BitMesh.Channels
