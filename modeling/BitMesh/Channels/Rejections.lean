import BitMesh.Channels.Client
import BitMesh.Channels.Paying
import BitMesh.Lib.Lockstep
import BitMesh.Lib.Transition

/-!
# Rejected updates

`incrementPayment` rewrites the client's output before it has checked the
signature, and records a payment before the wallet is saved. The first
does no harm: no method looks at an amount of that output without having
set it, so a channel closes the same way whatever was rejected before. The
second does: when saving throws, the payment it threw for is kept.
-/

namespace BitMesh.Channels

open BitMesh.Bitcoin BitMesh.Lib

variable {p : Platform} {env : Env} {w w' : World}

/-! ## Closing does not look at the amounts -/

theorem orThrow_lockstep {α : Type} (x : Except JavaException α) :
    Lockstep Rewritten (orThrow x : Method α) := by
  cases x with
  | error e => exact .throw e
  | ok a => exact .pure a

theorem nonNull_lockstep {α : Type} (x : Option α) :
    Lockstep Rewritten (nonNull x : Method α) := by
  cases x with
  | none => exact .throw _
  | some a => exact .pure a

theorem readState_lockstep (s : StateRef) : Lockstep Rewritten (readState s) := by
  rintro w _ ⟨outputs, rfl, hnext, hscripts⟩
  exact ⟨rfl, outputs, rfl, hnext, hscripts⟩

theorem readChannel_lockstep (r : ChannelRef) : Lockstep Rewritten (readChannel r) := by
  rintro w _ ⟨outputs, rfl, hnext, hscripts⟩
  exact ⟨rfl, outputs, rfl, hnext, hscripts⟩

/-- A change that leaves the outputs alone can be made on both sides. -/
theorem modify_lockstep {f : World → World}
    (hout : ∀ w, (f w).outputs = w.outputs)
    (h : ∀ w outputs, f { w with outputs := outputs } = { f w with outputs := outputs }) :
    Lockstep Rewritten (modify f : Method Unit) := by
  apply Lockstep.modify
  rintro w _ ⟨outputs, rfl, hnext, hset⟩
  refine ⟨outputs, h w outputs, ?_, fun o => ?_⟩
  · rw [hout, hnext]
  · rw [hout]
    exact hset o

theorem modifyState_lockstep (s : StateRef) (f) : Lockstep Rewritten (modifyState s f) :=
  modify_lockstep (fun _ => rfl) fun _ _ => rfl

theorem modifyChannel_lockstep (r : ChannelRef) (f) : Lockstep Rewritten (modifyChannel r f) :=
  modify_lockstep (fun _ => rfl) fun _ _ => rfl

theorem modifyServer_lockstep (c : ConnRef) (f) : Lockstep Rewritten (modifyServer c f) :=
  modify_lockstep (fun _ => rfl) fun _ _ => rfl

theorem note_lockstep (e : Event) : Lockstep Rewritten (note e) :=
  modify_lockstep (fun _ => rfl) fun _ _ => rfl

/-- The client's output is read right after its amount is set. -/
theorem setValue_lockstep (o : OutputRef) (change : Coin) :
    Lockstep Rewritten (do
      modifyOutput o (·.setValue change)
      let output ← readOutput o
      pure [output]) := by
  rintro w _ ⟨outputs, rfl, hnext, hset⟩
  refine Alike.of_ok (a := [⟨change.value, (w.outputs.read o).script⟩])
    (u := { w with outputs := w.outputs.modify o (·.setValue change) })
    (v := { w with outputs := outputs.modify o (·.setValue change) }) ?_ ?_ ?_
  · simp [modifyOutput, readOutput, TransactionOutput.setValue]
  · simp [modifyOutput, readOutput, TransactionOutput.setValue, (hset o).script]
  · refine ⟨_, rfl, hnext, fun o' => ?_⟩
    show ((w.outputs.modify o _).read o').Revalued ((outputs.modify o _).read o')
    by_cases heq : o' = o
    · subst heq
      rw [Heap.read_modify_self, Heap.read_modify_self]
      exact .inl (by simp only [TransactionOutput.setValue, (hset o').script])
    · rw [Heap.read_modify_ne _ _ heq, Heap.read_modify_ne _ _ heq]
      exact hset o'

theorem makeUnsignedChannelContract_lockstep (s : StateRef) (v : Coin) :
    Lockstep Rewritten (makeUnsignedChannelContract p s v) := by
  unfold makeUnsignedChannelContract
  refine .bind (readState_lockstep s) fun st => ?_
  refine .bind (nonNull_lockstep _) fun totalValue => ?_
  refine .bind (orThrow_lockstep _) fun change => ?_
  have hrest : ∀ outputs, Lockstep Rewritten (do
      let contract ← nonNull st.multisigContract
      return {
        version := 1
        inputs := [TransactionInput.spending (p.getHash contract) 0]
        outputs := outputs
        lockTime := 0 } : Method Transaction) :=
    fun outputs => .bind (nonNull_lockstep _) fun contract => .pure _
  refine .ite (hrest []) (.bind (nonNull_lockstep _) fun o => ?_)
  have hset := (setValue_lockstep o change).bind hrest
  simpa only [bind_assoc] using hset

theorem signMultisigInput_lockstep (s : StateRef) (tx : Transaction) (hashType : SigHash)
    (anyoneCanPay : Bool) :
    Lockstep Rewritten (signMultisigInput p s tx hashType anyoneCanPay) := by
  unfold signMultisigInput
  refine .bind (readState_lockstep s) fun st => ?_
  refine .bind (nonNull_lockstep _) fun redeemScript => ?_
  refine .bind (orThrow_lockstep _) fun signature => ?_
  refine .bind (nonNull_lockstep _) fun bestValueSignature => ?_
  exact .bind (orThrow_lockstep _) fun bestValueSig => .pure _

theorem signSettlement_lockstep (s : StateRef) (tx : Transaction) (b : Coin) :
    Lockstep Rewritten (signSettlement p env s tx b) := by
  unfold signSettlement
  refine .bind (orThrow_lockstep _) fun output => ?_
  refine .bind (signMultisigInput_lockstep s _ _ _) fun tx => ?_
  refine .bind (orThrow_lockstep _) fun _ => ?_
  refine .bind (readState_lockstep s) fun st => ?_
  refine .bind (nonNull_lockstep _) fun contract => ?_
  exact .bind (orThrow_lockstep _) fun _ => .pure _

theorem makeSettlement_lockstep (s : StateRef) :
    Lockstep Rewritten (makeSettlement p env s) := by
  unfold makeSettlement
  refine .bind (readState_lockstep s) fun st => ?_
  refine .bind (makeUnsignedChannelContract_lockstep s _) fun tx => ?_
  refine .bind (orThrow_lockstep _) fun b => ?_
  refine .bind (modifyState_lockstep s _) fun _ => ?_
  exact .ite (.pure _) (.bind (signSettlement_lockstep s tx b) fun _ => .pure _)

theorem setClosedFuture_lockstep (s : StateRef) (tx : Option Transaction) :
    Lockstep Rewritten (setClosedFuture s tx) := by
  unfold setClosedFuture
  refine .bind (readState_lockstep s) fun st => .ite ?_ (.pure _)
  refine .bind (modifyState_lockstep s _) fun _ => ?_
  exact .forM _ fun cb => modifyServer_lockstep cb.1 _

theorem settle_lockstep (s : StateRef) : Lockstep Rewritten (settle p env s) := by
  unfold settle
  refine .bind (readState_lockstep s) fun st => .ite ?_ (.ite (.pure _) ?_)
  · refine .bind (modifyState_lockstep s _) fun _ => ?_
    exact .bind (setClosedFuture_lockstep s none) fun _ => .pure _
  · refine .bind (.tryCatch (makeSettlement_lockstep s) fun e => .throw _) fun settlement => ?_
    cases settlement with
    | none => exact .pure _
    | some tx =>
      refine .bind (modifyState_lockstep s _) fun _ => ?_
      exact .bind (modify_lockstep (fun _ => rfl) fun _ _ => rfl) fun _ => .pure _

theorem updatedChannel_lockstep : Lockstep Rewritten (updatedChannel p) := by
  unfold updatedChannel saveNow
  refine .bind (modify_lockstep (fun _ => rfl) fun _ _ => rfl) fun _ => ?_
  refine .get_bind fun w u h => ?_
  have hsame := h.serializeWalletExtension (p := p)
  obtain ⟨outputs, rfl, hnext, hscripts⟩ := id h
  show Alike Rewritten (if (w.autosave && w.extensionInstalled) = true then _ else _)
    (if (w.autosave && w.extensionInstalled) = true then _ else _) _ _
  by_cases hsaving : (w.autosave && w.extensionInstalled) = true
  · rw [if_pos hsaving, if_pos hsaving]
    cases hw : serializeWalletExtension p w <;>
      cases hu : serializeWalletExtension p { w with outputs := outputs } <;>
      rw [hw, hu] at hsame
    · obtain rfl := Except.error.inj hsame
      exact .of_error rfl rfl h
    · cases hsame
    · cases hsame
    · exact .of_ok rfl rfl h
  · rw [if_neg hsaving, if_neg hsaving]
    exact .of_ok rfl rfl h

theorem restoreState_lockstep (r : ChannelRef) : Lockstep Rewritten (restoreState p r) := by
  unfold restoreState
  refine .bind (readChannel_lockstep r) fun ch => ?_
  refine .bind (orThrow_lockstep _) fun output => ?_
  have hrest : Lockstep Rewritten (do
      let totalValue ← orThrow output.getValue
      checkArgument (ch.bestValueToMe = Coin.zero || ch.bestValueSignature.isSome)
      let w ← get
      let s := w.states.next
      set { w with states := (w.states.alloc {
        state := .ready
        serverKey := ch.myKey
        multisigContract := some ch.contract
        totalValue := some totalValue
        bestValueToMe := ch.bestValueToMe
        bestValueSignature := ch.bestValueSignature
        clientOutput := some ch.clientOutput
        refundTransactionUnlockTimeSecs := ch.refundTransactionUnlockTimeSecs
        storedServerChannel := some r }).2 }
      modifyChannel r fun ch => { ch with state := some s }
      return s : Method StateRef) := by
    refine .bind (orThrow_lockstep _) fun totalValue => ?_
    refine .bind (.ite (.pure _) (.throw _)) fun _ => ?_
    refine .get_bind fun w u h => ?_
    obtain ⟨outputs, rfl, hnext, hscripts⟩ := h
    exact .of_ok rfl rfl ⟨outputs, rfl, hnext, hscripts⟩
  cases p.scriptError output.script.program with
  | some msg => exact .bind (.throw _) fun _ => hrest
  | none => exact hrest

theorem getOrCreateState_lockstep (r : ChannelRef) :
    Lockstep Rewritten (getOrCreateState p r) := by
  unfold getOrCreateState
  refine .bind (readChannel_lockstep r) fun ch => ?_
  cases ch.state with
  | some s => exact .pure s
  | none => exact restoreState_lockstep r

theorem closeRemoved_lockstep {close : StateRef → Method CloseResult}
    (hclose : ∀ s, Lockstep Rewritten (close s)) (r : ChannelRef) :
    Lockstep Rewritten (closeRemoved p close r) := by
  unfold closeRemoved
  refine .bind (.tryCatch ?_ fun e => .ite (.pure _) (.throw _)) fun _ => ?_
  · exact .bind (getOrCreateState_lockstep r) fun s => .bind (hclose s) fun _ => .pure _
  · exact .bind (modifyChannel_lockstep r _) fun _ => updatedChannel_lockstep

theorem closeChannelWith_lockstep {close : StateRef → Method CloseResult}
    (hclose : ∀ s, Lockstep Rewritten (close s)) (r : ChannelRef) :
    Lockstep Rewritten (closeChannelWith p close r) := by
  unfold closeChannelWith
  refine .get_bind fun w u h => ?_
  have hrest : Lockstep Rewritten (do
      modify fun w' => { w' with
        mapChannels := w'.mapChannels.erase (p.getHash (w.channels.read r).contract) }
      note (.removed (p.getHash (w.channels.read r).contract))
      closeRemoved p close r : Method Unit) := by
    refine .bind (modify_lockstep (fun _ => rfl) fun _ _ => rfl) fun _ => ?_
    exact .bind (note_lockstep _) fun _ => closeRemoved_lockstep hclose r
  obtain ⟨outputs, rfl, hnext, hscripts⟩ := id h
  exact Lockstep.ite hrest (.pure _) _ _ h

theorem closeWith_lockstep {closeChannel : ChannelRef → Method Unit}
    (hclose : ∀ r, Lockstep Rewritten (closeChannel r)) (s : StateRef) :
    Lockstep Rewritten (closeWith p env closeChannel s) := by
  unfold closeWith
  refine .bind (note_lockstep _) fun _ => ?_
  refine .bind (readState_lockstep s) fun st => ?_
  cases st.storedServerChannel with
  | none => exact settle_lockstep s
  | some temp =>
    refine .bind (modifyState_lockstep s _) fun _ => ?_
    refine .bind (hclose temp) fun _ => ?_
    exact .bind (readState_lockstep s) fun st => .ite (.pure _) (settle_lockstep s)

theorem closeChannelN_lockstep (n : Nat) (r : ChannelRef) :
    Lockstep Rewritten (closeChannelN p env n r) := by
  induction n generalizing r with
  | zero => exact .pure _
  | succ n ih => exact closeChannelWith_lockstep (fun s => closeWith_lockstep ih s) r

theorem closeChannel_lockstep (r : ChannelRef) : Lockstep Rewritten (closeChannel p env r) := by
  refine .get_bind fun w u h => ?_
  obtain ⟨outputs, rfl, hnext, hscripts⟩ := id h
  exact closeChannelN_lockstep _ r _ _ h

/-- A channel closes the same way whatever the client's output was last
set to. -/
theorem close_lockstep (s : StateRef) : Lockstep Rewritten (close p env s) :=
  closeWith_lockstep closeChannel_lockstep s

/-! ## Updates -/

/-- A state that has just been negotiated: ready, over a contract of `T`
that nobody double-spent, and nothing paid. -/
structure Negotiated (p : Platform) (w : World) (s : StateRef) (T : Coin) : Prop where
  ready : (w.states.read s).state = .ready
  totalValue : (w.states.read s).totalValue = some T
  positive : 0 < T.value
  best : (w.states.read s).bestValueToMe = Coin.zero
  signature : (w.states.read s).bestValueSignature = none
  alive : ¬ w.DoubleSpent p s

/-- A call of `incrementPayment`, with the `long` that came off the wire. -/
structure Update where
  env : Env
  refundSize : Int
  signature : Bytes

/-- The call. A number that is no `Coin` does not reach the channel. -/
def Update.perform (p : Platform) (s : StateRef) (call : Update) : Method Bool := do
  let refundSize ← orThrow (Coin.valueOf call.refundSize)
  incrementPayment p call.env s refundSize call.signature

/-- The world after the call, however it ended. -/
def updated (p : Platform) (s : StateRef) (w : World) (call : Update) : World :=
  finalState (call.perform p s) w

/-- The wallet can be saved with the payment that the call is about. -/
def Update.saves (p : Platform) (s : StateRef) (w : World) (call : Update) : Bool :=
  match Coin.valueOf call.refundSize with
  | .ok refundSize => savesPayment p w s refundSize call.signature
  | .error _ => true

/-- The channel is as it was: what is to be had from it, its record, and
what closing it would broadcast. -/
structure Unaffected (p : Platform) (s : StateRef) (w u : World) : Prop where
  best : (u.states.read s).bestValueToMe = (w.states.read s).bestValueToMe
  signature : (u.states.read s).bestValueSignature = (w.states.read s).bestValueSignature
  stored : (u.states.read s).storedServerChannel = (w.states.read s).storedServerChannel
  record : ∀ r, (w.states.read s).storedServerChannel = some r →
    (u.channels.read r).bestValueToMe = (w.channels.read r).bestValueToMe ∧
      (u.channels.read r).bestValueSignature = (w.channels.read r).bestValueSignature
  settlement : ∀ env, (finalState (close p env s) u).broadcasts =
    (finalState (close p env s) w).broadcasts

theorem Rewritten.unaffected {u : World} (h : Rewritten w u) (s : StateRef) :
    Unaffected p s w u := by
  have hclose : ∀ env, Rewritten (finalState (close p env s) w) (finalState (close p env s) u) :=
    fun env => (close_lockstep s w u h).finalState
  obtain ⟨outputs, rfl, -, -⟩ := h
  refine ⟨rfl, rfl, rfl, fun _ _ => ⟨rfl, rfl⟩, fun env => ?_⟩
  obtain ⟨_, heq, -, -⟩ := hclose env
  rw [heq]

/-- A channel that takes payments, of which the last left `best`. -/
structure Taking (p : Platform) (s : StateRef) (T : Coin) (w : World) : Prop where
  ready : (w.states.read s).state = .ready
  totalValue : (w.states.read s).totalValue = some T
  nonneg : 0 ≤ (w.states.read s).bestValueToMe.value
  le : (w.states.read s).bestValueToMe.value ≤ T.value
  alive : ¬ w.DoubleSpent p s

section Updates

variable {s : StateRef} {T : Coin}

theorem Negotiated.taking (h : Negotiated p w s T) : Taking p s T w where
  ready := h.ready
  totalValue := h.totalValue
  nonneg := by rw [h.best]; exact le_rfl
  le := by rw [h.best]; exact h.positive.le
  alive := h.alive

theorem Taking.rewritten {u : World} (h : Taking p s T w) (hu : Rewritten w u) :
    Taking p s T u := by
  obtain ⟨outputs, rfl, -, -⟩ := hu
  exact ⟨h.ready, h.totalValue, h.nonneg, h.le, h.alive⟩

/-- An accepted payment raises what is to be had, up to all there is. -/
theorem Taking.paidBy {u : World} {refundSize : Coin} (h : Taking p s T w)
    (hu : PaidBy p w s refundSize u) :
    Taking p s T u ∧
      (w.states.read s).bestValueToMe.value ≤ (u.states.read s).bestValueToMe.value := by
  obtain ⟨htotal, hvalue⟩ := hu.value h.totalValue
  obtain ⟨_, pay, ⟨outputs, rfl, -, -⟩, rfl, hu⟩ := hu
  have hstates : u.states = w.states.modify s fun st =>
      { st with bestValueToMe := pay.newValueToMe
                bestValueSignature := some pay.signatureBytes } := by
    rcases hu with rfl | rfl <;> rfl
  have htransactions : u.transactions = w.transactions := by
    rcases hu with rfl | rfl <;> rfl
  have hrefund : 0 ≤ pay.refundSize.value := by
    rcases pay.notDust with hzero | hdust
    · rw [hzero]
      exact le_rfl
    · exact (TransactionOutput.getMinNonDustValue_pos _).le.trans hdust
  have hbest : (u.states.read s).bestValueToMe = pay.newValueToMe := by
    rw [hstates, Heap.read_modify_self]
  refine ⟨⟨?_, htotal, ?_, by omega, ?_⟩, ?_⟩
  · rw [hstates, Heap.read_modify_self]
    exact h.ready
  · rw [hbest]
    exact pay.nonneg
  · rintro ⟨contract, hcontract, hdead⟩
    rw [hstates, Heap.read_modify_self] at hcontract
    rw [htransactions] at hdead
    exact h.alive ⟨contract, hcontract, hdead⟩
  · rw [hbest]
    exact pay.increase

/-- A call is accepted, or has no effect, or is accepted and not saved. -/
theorem Update.perform_spec (call : Update) (h : Taking p s T w) :
    wp (call.perform p s) w (fun _ u => ∃ refundSize, PaidBy p w s refundSize u)
      (fun _ u => Rewritten w u ∨
        (∃ refundSize, PaidBy p w s refundSize u) ∧ call.saves p s w = false) := by
  simp only [Update.perform, wp_bind, wp_orThrow]
  refine ⟨fun refundSize hsize => ?_, fun _ _ => .inl (.refl w)⟩
  refine wp.mono (incrementPayment_spec s refundSize call.signature
    (fun u hu => .inl hu) (fun u hu hnot => .inr ⟨⟨refundSize, hu⟩, ?_⟩)
    (fun hdead => absurd hdead h.alive)) (fun _ u hu => ⟨refundSize, hu⟩) (fun _ _ hu => hu)
  rw [Update.saves, hsize]
  exact hnot

theorem Taking.updated (h : Taking p s T w) (call : Update) :
    Taking p s T (updated p s w call) ∧ (w.states.read s).bestValueToMe.value ≤
      ((updated p s w call).states.read s).bestValueToMe.value := by
  refine wp_iff_finalState (P := fun u => Taking p s T u ∧
    (w.states.read s).bestValueToMe.value ≤ (u.states.read s).bestValueToMe.value).mp
    (wp.mono (call.perform_spec h) ?_ ?_)
  · rintro _ u ⟨refundSize, hu⟩
    exact h.paidBy hu
  · rintro _ u (hu | ⟨⟨refundSize, hu⟩, -⟩)
    · exact ⟨h.rewritten hu, le_of_eq (congrArg _ (hu.unaffected (p := p) s).best.symm)⟩
    · exact h.paidBy hu

/-- Updates of a channel only raise what is to be had from it, within the
contract's value, and a call that throws leaves the channel as it was,
provided that the wallet can be saved with the payment it is about. -/
theorem rejected_update_no_effect {w₀ : World} (hw₀ : Negotiated p w₀ s T)
    (hw : Reaches (updated p s) (fun _ _ => True) w₀ w) (call : Update) :
    (0 ≤ (w.states.read s).bestValueToMe.value ∧
      (w.states.read s).bestValueToMe.value ≤ T.value) ∧
    (w.states.read s).bestValueToMe.value ≤
      ((updated p s w call).states.read s).bestValueToMe.value ∧
    (call.saves p s w = true → ∀ e u, (call.perform p s).run w = .error e u → Unaffected p s w u) := by
  have htaking : Taking p s T w :=
    hw.invariant hw₀.taking fun t call _ ht => (ht.updated call).1
  refine ⟨⟨htaking.nonneg, htaking.le⟩, (htaking.updated call).2, fun hsaves e u hrun => ?_⟩
  have hspec := call.perform_spec htaking
  unfold wp at hspec
  rw [hrun] at hspec
  rcases hspec with hu | ⟨-, hnot⟩
  · exact hu.unaffected s
  · rw [hsaves] at hnot
    cases hnot

end Updates

/-! ## Two channels of the reference client -/

/-- The call that leaves the client `change` of contract 1. -/
def Client.update (change : Int) : Update :=
  ⟨Client.env, change, (Client.payment 1 change).signature⟩

/-- What is checked of a world to see that its first state was just
negotiated over contract 1 of 100000 satoshis. -/
theorem Client.negotiated {w : World} (hready : (w.states.read 0).state = .ready)
    (htotal : (w.states.read 0).totalValue = some ⟨100000, by decide⟩)
    (hbest : (w.states.read 0).bestValueToMe = Coin.zero)
    (hsignature : (w.states.read 0).bestValueSignature = none)
    (hcontract : (w.states.read 0).multisigContract = some (Reference.contract 1 100000))
    (halive : w.transactions (Client.platform.getHash (Reference.contract 1 100000)) =
      some .alive) :
    Negotiated Client.platform w 0 ⟨100000, by decide⟩ := by
  refine ⟨hready, htotal, by decide, hbest, hsignature, ?_⟩
  rintro ⟨contract, hsome, hdead⟩
  obtain rfl := Option.some.inj (hcontract.symm.trans hsome)
  rw [halive] at hdead
  cases hdead

/-- A channel whose initial payment was refused as dust. After a payment of
10000, one of 5000 is turned away. -/
theorem rejected_update_no_effect_100000 :
    let w := updated Client.platform 0 (Client.run (Client.connect 0 ++
      [.message 0 Client.version] ++ Client.negotiate 0 0 [1, 255] 1 100 100)) (Client.update 90000)
    (w.states.read 0).bestValueToMe.value = 10000 ∧
      ∃ e u, ((Client.update 95000).perform Client.platform 0).run w = .error e u ∧
        Unaffected Client.platform 0 w u := by
  intro w
  have hfresh := Client.negotiated (w := Client.run (Client.connect 0 ++
    [.message 0 Client.version] ++ Client.negotiate 0 0 [1, 255] 1 100 100))
    (by decide +kernel) (by decide +kernel) (by decide +kernel) (by decide +kernel)
    (by decide +kernel) (by decide +kernel)
  have hreached : Reaches (updated Client.platform 0) (fun _ _ => True) _ w :=
    Reaches.step (Client.update 90000) .start trivial
  have hsaves : (Client.update 95000).saves Client.platform 0 w = true := by decide +kernel
  have hthrows : wp ((Client.update 95000).perform Client.platform 0) w (fun _ _ => False)
      (fun _ _ => True) := by decide +kernel
  refine ⟨by decide +kernel, ?_⟩
  unfold wp at hthrows
  cases hrun : ((Client.update 95000).perform Client.platform 0).run w with
  | ok a u =>
    rw [hrun] at hthrows
    exact hthrows.elim
  | error e u =>
    exact ⟨e, u, rfl, (rejected_update_no_effect hfresh hreached _).2.2 hsaves e u hrun⟩

/-- A refund that is locked until second 0 cannot be saved, so the channel
it belongs to cannot either: the payment is refused and kept. -/
theorem refused_update_is_kept :
    let w := Client.run (Client.connect 0 ++ Client.negotiate 0 0 [2, 0] 1 100 90000)
    Negotiated Client.platform w 0 ⟨100000, by decide⟩ ∧
      wp ((Client.update 90000).perform Client.platform 0) w (fun _ _ => False) (fun _ u =>
        (w.states.read 0).bestValueToMe.value = 0 ∧
        (u.states.read 0).bestValueToMe.value = 10000 ∧
        (w.channels.read 0).bestValueToMe.value = 0 ∧
        (u.channels.read 0).bestValueToMe.value = 10000) := by
  refine ⟨Client.negotiated ?_ ?_ ?_ ?_ ?_ ?_, ?_⟩ <;> decide +kernel

end BitMesh.Channels
