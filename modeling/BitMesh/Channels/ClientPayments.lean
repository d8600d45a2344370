import BitMesh.Channels.ClientState
import BitMesh.Channels.Exceptions
import BitMesh.Channels.Paying

/-!
# Payments of the Java client

`incrementPaymentBy` never leaves itself change that would be dust, and
the server's `incrementPayment` refuses change that is dust, more than the
contract, or more than it was told before. Both sides draw the line at the
same amount, so the server's checks pass for whatever the client sends.
-/

namespace BitMesh.Channels.PaymentChannelClientState

open BitMesh.Bitcoin BitMesh.Lib

variable {p : Platform} {env : Env} {T : Coin}

/-! ## The client -/

/-- Nothing, or no dust and not more than there was. -/
def Payable (T v : Coin) : Prop :=
  v.value = 0 ∨ (minNondustOutput ≤ v.value ∧ v.value ≤ T.value)

theorem Payable.paid {valueToMe size amount left : Coin} (h : Payable T valueToMe)
    (hpaid : paid valueToMe size = .ok (amount, left)) :
    Payable T left ∧ left.value ≤ valueToMe.value ∧
      amount.value = valueToMe.value - left.value := by
  obtain ⟨hnonneg, hamount⟩ := paid_nonneg hpaid
  unfold PaymentChannelClientState.paid at hpaid
  split at hpaid
  case isTrue => cases hpaid
  case isFalse hsize =>
    obtain ⟨v, hv, hpaid⟩ := exists_of_bind_eq_ok hpaid
    have hvalue := Coin.value_of_subtract hv
    unfold Payable at h ⊢
    by_cases hdust : v.value < minNondustOutput ∧ 0 < v.value
    · rw [if_pos hdust] at hpaid
      cases hpaid
      have hzero := Coin.zero_value
      have hmin : (0 : Int) ≤ minNondustOutput := by decide
      omega
    · rw [if_neg hdust] at hpaid
      dsimp only at hpaid
      split at hpaid
      · cases hpaid
      · cases hpaid
        omega

/-- A call of `incrementPaymentBy`: the number of satoshis asked for, and
the clock and the wallet it finds. -/
structure Call where
  wallet : ClientWallet
  now : Int
  size : Int

/-- The call. A number that is no `Coin` does not reach the channel. -/
def Call.perform (p : Platform) (call : Call) : ClientMethod IncrementedPayment := do
  let size ← orThrow (Coin.valueOf call.size)
  incrementPaymentBy p call.wallet call.now size

/-- The channel is not stored, or the wallet can be saved. -/
def Call.saves (st : PaymentChannelClientState) (call : Call) : Bool :=
  st.storedChannel.isNone || call.wallet.addOrUpdateExtension.isOk

/-- What saving leaves, and when it throws. -/
theorem updateChannelInWallet_valueToMe {wallet : ClientWallet} (st : PaymentChannelClientState) :
    Lib.wp (updateChannelInWallet wallet) st (fun _ st' => st'.valueToMe = st.valueToMe)
      (fun _ st' => st'.valueToMe = st.valueToMe ∧
        (st.storedChannel.isNone || wallet.addOrUpdateExtension.isOk) = false) := by
  simp only [updateChannelInWallet, wp_bind, wp_get]
  cases hstored : st.storedChannel with
  | none => rfl
  | some stored =>
    cases hsave : wallet.addOrUpdateExtension with
    | ok => simp
    | error e => simp [Except.isOk, Except.toBool]

/-- What a call that throws leaves: no change that could not be sent, and
the change as it was, unless the wallet could not be saved. -/
structure Refused (T : Coin) (call : Call) (st st' : PaymentChannelClientState) : Prop where
  payable : Payable T st'.valueToMe
  le : st'.valueToMe.value ≤ st.valueToMe.value
  unchanged : call.saves st = true → st'.valueToMe = st.valueToMe

/-- What a call that returns `payment` leaves. -/
structure Paid (T : Coin) (payment : IncrementedPayment) (st st' : PaymentChannelClientState) :
    Prop where
  payable : Payable T st'.valueToMe
  le : st'.valueToMe.value ≤ st.valueToMe.value
  amount : payment.amount.value = st.valueToMe.value - st'.valueToMe.value
  mode : payment.signature.sigHashMode = paymentMode st'.valueToMe
  anyoneCanPay : payment.signature.anyoneCanPay = true

theorem flags_of_calculateSignature {lib : Bitcoinj} {tx : Transaction} {key : ECKey}
    {script : Script} {mode : SigHash} {sig : TransactionSignature}
    (h : tx.calculateSignature lib 0 key script mode true = .ok sig) :
    sig.sigHashMode = mode ∧ sig.anyoneCanPay = true := by
  unfold Transaction.calculateSignature at h
  split at h
  · cases h
  · cases h
    exact ⟨TransactionSignature.sigHashMode_calcSigHashValue _ _ _,
      TransactionSignature.anyoneCanPay_calcSigHashValue _ _ _⟩

theorem Call.perform_spec (call : Call) (st : PaymentChannelClientState)
    (h : Payable T st.valueToMe) :
    Lib.wp (call.perform p) st (fun payment st' => Paid T payment st st')
      (fun _ st' => Refused T call st st') := by
  have hrefused : ∀ st', st'.valueToMe = st.valueToMe → Refused T call st st' := by
    intro st' hst'
    exact ⟨hst' ▸ h, by rw [hst'], fun _ => hst'⟩
  have hsame := hrefused st rfl
  simp only [Call.perform, incrementPaymentBy, checkNotExpired, makeUnsignedChannelContract,
    wp_bind, wp_get, wp_checkState, wp_ite, wp_throw, wp_modify, wp_pure, wp_orThrow, wp_nonNull]
  refine ⟨fun size _ => ⟨fun _ => ⟨fun _ => hrefused _ rfl, fun _ => ⟨?_, fun _ _ => hsame⟩⟩,
    fun _ => hsame⟩, fun _ _ => hsame⟩
  rintro ⟨amount, left⟩ hpaid
  refine ⟨fun contract _ => ⟨fun output _ => ⟨fun script _ => ⟨fun sig hsig => ?_,
    fun _ _ => hsame⟩, fun _ => hsame⟩, fun _ _ => hsame⟩, fun _ => hsame⟩
  obtain ⟨hleft, hle, hamount⟩ := h.paid hpaid
  obtain ⟨hmode, hanyone⟩ := flags_of_calculateSignature hsig
  refine wp.mono (updateChannelInWallet_valueToMe _) ?_ ?_
  · intro _ st' hst'
    obtain rfl : left = st'.valueToMe := hst'.symm
    exact ⟨hleft, hle, hamount, hmode, hanyone⟩
  · rintro _ st' ⟨hst', hnot⟩
    obtain rfl : left = st'.valueToMe := hst'.symm
    refine ⟨hleft, hle, fun hsaves => ?_⟩
    unfold Call.saves at hsaves
    rw [hsaves] at hnot
    cases hnot

/-- Whether a call throws or returns, its change can be sent and is no more
than before. -/
theorem Call.finalState_le (call : Call) {st : PaymentChannelClientState}
    (h : Payable T st.valueToMe) :
    Payable T (Lib.finalState (call.perform p) st).valueToMe ∧
      (Lib.finalState (call.perform p) st).valueToMe.value ≤ st.valueToMe.value :=
  Lib.wp_iff_finalState
    (P := fun st' => Payable T st'.valueToMe ∧ st'.valueToMe.value ≤ st.valueToMe.value).mp
    (wp.mono (call.perform_spec st h) (fun _ _ hpaid => ⟨hpaid.payable, hpaid.le⟩)
      (fun _ _ hrefused => ⟨hrefused.payable, hrefused.le⟩))

/-! ## The server -/

/-- A server's state that takes payments for a contract of `T` and was told
of no change below `v`; the client's output pays to a public key hash. -/
structure Serves (T v : Coin) (s : StateRef) (w : World) : Prop where
  ready : (w.states.read s).state = .ready
  totalValue : (w.states.read s).totalValue = some T
  best : (w.states.read s).bestValueToMe.value ≤ T.value - v.value
  clientOutput : ∃ o address, (w.states.read s).clientOutput = some o ∧
    address.hash160.length = 20 ∧ (w.outputs.read o).script = createOutputScript address

/-- What `incrementPayment` throws when a check of the amount, of its
direction or of the hash type fails. -/
def CheckFailed (e : JavaException) : Prop :=
  e.cls = .valueOutOfRange ∨
    e = .verification "New payment signature was not signed with the right SIGHASH flags."

theorem not_checkFailed_of_uncaught {e : JavaException} (h : Uncaught e) :
    ¬ CheckFailed e := by
  rintro (hcls | rfl)
  · exact h.valueOutOfRange hcls
  · exact h.verification rfl

theorem not_checkFailed_of_valueOf {n : Int} {e : JavaException}
    (h : Coin.valueOf n = .error e) : ¬ CheckFailed e := by
  unfold Coin.valueOf at h
  split at h
  · cases h
  · cases h
    simp [CheckFailed, JavaException.illegalArgument, JavaException.verification]

theorem not_checkFailed_doubleSpent :
    ¬ CheckFailed (.verification "Multisig contract was double-spent") := by
  simp [CheckFailed, JavaException.verification]

/-- The text of a signature that does not verify starts differently. -/
theorem not_checkFailed_signature (text : String) :
    ¬ CheckFailed (.verification ("Signature does not verify on tx\n" ++ text)) := by
  rintro (hcls | hmessage)
  · cases hcls
  · have htext := Option.some.inj (congrArg JavaException.message hmessage)
    have hfirst := congrArg (fun s => s.toList.head?) htext
    have hleft : ("Signature does not verify on tx\n" ++ text).toList.head? = some 'S' := by
      rw [String.toList_append, List.head?_append]
      rfl
    rw [hleft] at hfirst
    exact absurd hfirst (by decide)

theorem makeUnsignedChannelContract_throws (s : StateRef) (v : Coin) :
    Throws (fun e => ¬ CheckFailed e) (Channels.makeUnsignedChannelContract p s v) := by
  have hnull : ¬ CheckFailed .nullPointer := not_checkFailed_of_uncaught .nullPointer
  intro w
  simp only [Channels.makeUnsignedChannelContract, wp_bind, wp_readState, wp_nonNull, wp_orThrow,
    wp_ite, wp_pure, wp_modifyOutput, wp_readOutput]
  refine ⟨fun T _ => ⟨fun change _ => ⟨fun _ => ⟨fun _ _ => trivial, fun _ => hnull⟩,
    fun _ => ⟨fun o _ => ⟨fun _ _ => trivial, fun _ => hnull⟩, fun _ => hnull⟩⟩,
    fun e he => not_checkFailed_of_valueOf he⟩, fun _ => hnull⟩

theorem updateChannelInWallet_throws (s : StateRef) :
    Throws (fun e => ¬ CheckFailed e) (Channels.updateChannelInWallet p s) := by
  intro w
  simp only [Channels.updateChannelInWallet, wp_bind, wp_readState]
  cases (w.states.read s).storedServerChannel with
  | none => exact trivial
  | some r =>
    simp only [updateValueToMe, wp_bind, wp_modifyChannel]
    exact wp.mono (updatedChannel_throws _) (fun _ _ h => h)
      (fun _ _ h => not_checkFailed_of_uncaught h)

theorem getMinNonDustValue_of_publicKeyHash {output : TransactionOutput} {address : Address}
    (hlength : address.hash160.length = 20) (h : output.script = createOutputScript address) :
    output.getMinNonDustValue = minNondustOutput := by
  have hprogram : output.script.program.length = 25 := by
    rw [h, createOutputScript, pushData, if_pos (by rw [hlength]; decide)]
    simp [hlength]
  rw [TransactionOutput.getMinNonDustValue, hprogram]
  rfl

variable {s : StateRef} {w : World} {v left : Coin}

/-- The checks pass for change that the client can be left with. -/
theorem Serves.checks (h : Serves T v s w) (hT : minNondustOutput ≤ T.value)
    (hpayable : Payable T left)
    (hle : left.value ≤ v.value) {bytes : Bytes} {sig : TransactionSignature}
    (hsig : p.decodeFromBitcoin bytes = .ok sig) (hmode : sig.sigHashMode = paymentMode left)
    (hanyone : sig.anyoneCanPay = true) :
    Lib.wp (incrementPayment p env s left bytes) w (fun _ _ => True)
      (fun e _ => ¬ CheckFailed e) := by
  obtain ⟨o, address, ho, hlength, hscript⟩ := h.clientOutput
  have hdust := getMinNonDustValue_of_publicKeyHash hlength hscript
  have hnull : ¬ CheckFailed .nullPointer := not_checkFailed_of_uncaught .nullPointer
  have hzero : left.value = 0 → left = Coin.zero := fun h0 => Coin.ext h0
  simp only [incrementPayment, wp_bind, wp_readState, wp_checkState, wp_orThrow, wp_nonNull,
    wp_readOutput, wp_ite, wp_throw, wp_get, decide_eq_true_eq, h.ready, ho, h.totalValue, hsig,
    Option.some.injEq, Except.ok.injEq, forall_eq', reduceCtorEq, false_implies, implies_true,
    and_true, true_implies, decide_true, Bool.true_eq_false]
  refine ⟨fun hfail => ?_, fun _ => ⟨fun change hchange => ⟨fun hneg => ?_, fun _ =>
    ⟨fun hback => ?_, fun _ => ⟨fun contract _ => ⟨fun confidence _ => ⟨fun _ => ?_, fun _ =>
    ⟨fun hflags => ?_, fun _ => ?_⟩⟩, fun _ => hnull⟩, fun _ => hnull⟩⟩⟩,
    fun e he => not_checkFailed_of_valueOf he⟩⟩
  · rcases hpayable with h0 | ⟨hmin, -⟩
    · exact absurd (hzero h0) hfail.2
    · rw [hdust] at hfail
      omega
  · have hvalue := Coin.value_of_subtract hchange
    have hmin : (0 : Int) ≤ minNondustOutput := by decide
    rcases hpayable with h0 | ⟨-, hmax⟩ <;> omega
  · have hvalue := Coin.value_of_subtract hchange
    have hbest := h.best
    omega
  · exact wp.mono (close_throws s w) (fun _ _ _ => not_checkFailed_doubleSpent)
      (fun _ _ he => not_checkFailed_of_uncaught he)
  · rw [hmode, hanyone, paymentMode] at hflags
    simp at hflags
  · refine wp.mono (makeUnsignedChannelContract_throws s change w) (fun tx t _ => ?_)
      (fun _ _ he => he)
    simp only [wp_modifyState, wp_note]
    refine ⟨fun key _ => ⟨fun _ => not_checkFailed_signature _, fun _ => ?_⟩, fun _ => hnull⟩
    exact wp.mono (updateChannelInWallet_throws s _) (fun _ _ _ => trivial) (fun _ _ he => he)

/-- A payment that is accepted leaves the server with the rest. -/
theorem Serves.accepted (h : Serves T v s w) {u : World} (hu : PaidBy p w s left u) :
    Serves T left s u ∧ (u.states.read s).bestValueToMe.value = T.value - left.value := by
  obtain ⟨htotal, hbest⟩ := hu.value h.totalValue
  obtain ⟨o, address, ho, hlength, hscript⟩ := h.clientOutput
  obtain ⟨t, pay, hbefore, -, hafter⟩ := hu.quiet
  have hscript' : (u.outputs.read o).script = createOutputScript address := by
    rw [hafter.scripts o]
    exact (hbefore.scripts o).trans hscript
  refine ⟨⟨?_, htotal, le_of_eq hbest, o, address, ?_, hlength, hscript'⟩, hbest⟩
  · rw [hafter.state_eq s]
    simp [World.accept, hbefore.state_eq s, h.ready]
  · rw [hafter.clientOutput s]
    simp [World.accept, hbefore.clientOutput s, ho]

/-! ## Both -/

/-- The client's calls. One that returns may be accepted by the server, or
its update is lost or refused like that of a call that throws; in between
the server may do anything that is not about this channel. -/
inductive Pays (p : Platform) (s : StateRef) (first : PaymentChannelClientState × World) :
    PaymentChannelClientState × World → Prop
  | start : Pays p s first first
  | called {st : PaymentChannelClientState} {w : World} (call : Call)
      (before : Pays p s first (st, w)) :
      Pays p s first (Lib.finalState (call.perform p) st, w)
  | accepted {st st' : PaymentChannelClientState} {w w' : World} (call : Call)
      {payment : IncrementedPayment} {env : Env} {bytes : Bytes} {usable : Bool}
      (before : Pays p s first (st, w)) (returns : (call.perform p).run st = .ok payment st')
      (decodes : p.decodeFromBitcoin bytes = .ok payment.signature)
      (accepts : (incrementPayment p env s st'.valueToMe bytes).run w = .ok usable w') :
      Pays p s first (st', w')
  | other {st : PaymentChannelClientState} {w w' : World} (before : Pays p s first (st, w))
      (state : w'.states.read s = w.states.read s)
      (scripts : ∀ o, (w'.outputs.read o).script = (w.outputs.read o).script) :
      Pays p s first (st, w')

/-- Whatever was paid, the client holds change it can send, and the server
was told of no less. -/
theorem Pays.serves {first last : PaymentChannelClientState × World} (h : Pays p s first last)
    (hpayable : Payable T first.1.valueToMe) (hserves : Serves T first.1.valueToMe s first.2) :
    Payable T last.1.valueToMe ∧ Serves T last.1.valueToMe s last.2 := by
  induction h with
  | start => exact ⟨hpayable, hserves⟩
  | @called st w call _ ih =>
    obtain ⟨hpayable, hle⟩ := @Call.finalState_le p T call st ih.1
    have hbest : (w.states.read s).bestValueToMe.value ≤ T.value - st.valueToMe.value := ih.2.best
    exact ⟨hpayable, ih.2.ready, ih.2.totalValue, by dsimp only; omega, ih.2.clientOutput⟩
  | @accepted st st' w w' call payment env bytes usable _ returns decodes accepts ih =>
    have hpaid := (call.perform_spec (p := p) st ih.1).of_run_eq_ok returns
    have hspec := incrementPayment_spec (E := fun _ => True) s st'.valueToMe bytes
      (fun _ _ => trivial) (fun _ _ _ => trivial) (fun _ => wp.trivial (close p env s) w)
    exact ⟨hpaid.payable, (ih.2.accepted (hspec.of_run_eq_ok accepts)).1⟩
  | other _ state scripts ih =>
    obtain ⟨o, address, ho, hlength, hscript⟩ := ih.2.clientOutput
    refine ⟨ih.1, ?_, ?_, ?_, o, address, ?_, hlength, (scripts o).trans hscript⟩ <;> rw [state]
    · exact ih.2.ready
    · exact ih.2.totalValue
    · exact ih.2.best
    · exact ho

/-- From a channel of which nothing was paid, whatever calls were made and
whichever of them were accepted: the client's change is nothing or no dust, no call
raises it, a call that throws leaves it as it was provided that the wallet
can be saved, and what a call returns passes the server's checks. -/
theorem client_payments_acceptable {first last : PaymentChannelClientState × World}
    (hT : minNondustOutput ≤ first.1.totalValue.value)
    (hvalue : first.1.valueToMe = first.1.totalValue)
    (hserves : Serves first.1.totalValue first.1.totalValue s first.2)
    (h : Pays p s first last) (call : Call) :
    (last.1.valueToMe.value = 0 ∨ (546 ≤ last.1.valueToMe.value ∧
      last.1.valueToMe.value ≤ first.1.totalValue.value)) ∧
    (Lib.finalState (call.perform p) last.1).valueToMe.value ≤ last.1.valueToMe.value ∧
    (call.saves last.1 = true → ∀ e st', (call.perform p).run last.1 = .error e st' →
      st'.valueToMe = last.1.valueToMe) ∧
    ∀ payment st', (call.perform p).run last.1 = .ok payment st' →
      payment.amount.value = last.1.valueToMe.value - st'.valueToMe.value ∧
      payment.signature.sigHashMode =
        (if st'.valueToMe.value = 0 then .none else .single) ∧
      payment.signature.anyoneCanPay = true ∧
      ∀ env bytes, p.decodeFromBitcoin bytes = .ok payment.signature →
        Lib.wp (incrementPayment p env s st'.valueToMe bytes) last.2
          (fun _ u => (u.states.read s).bestValueToMe.value =
            first.1.totalValue.value - st'.valueToMe.value)
          (fun e _ => ¬ CheckFailed e) := by
  have hpayable : Payable first.1.totalValue first.1.valueToMe :=
    .inr ⟨by rw [hvalue]; exact hT, by rw [hvalue]⟩
  have hserves' : Serves first.1.totalValue first.1.valueToMe s first.2 := by
    rw [hvalue]
    exact hserves
  obtain ⟨hlast, hserves⟩ := h.serves hpayable hserves'
  have hspec := call.perform_spec (p := p) last.1 hlast
  refine ⟨hlast, (call.finalState_le hlast).2, fun hsaves e st' hrun => ?_,
    fun payment st' hrun => ?_⟩
  · unfold Lib.wp at hspec
    rw [hrun] at hspec
    exact hspec.unchanged hsaves
  · have hpaid := hspec.of_run_eq_ok hrun
    refine ⟨hpaid.amount, ?_, hpaid.anyoneCanPay, fun env bytes hdecodes => ?_⟩
    · rw [hpaid.mode, paymentMode]
      have hzero : st'.valueToMe = Coin.zero ↔ st'.valueToMe.value = 0 :=
        ⟨fun h0 => congrArg Coin.value h0, fun h0 => Coin.ext h0⟩
      simp only [hzero]
    · have hchecks : Lib.wp (incrementPayment p env s st'.valueToMe bytes) last.2
          (fun _ _ => True) (fun e _ => ¬ CheckFailed e) :=
        hserves.checks hT hpaid.payable hpaid.le hdecodes hpaid.mode hpaid.anyoneCanPay
      have haccepted := incrementPayment_spec (E := fun _ => True) s st'.valueToMe bytes
        (fun _ _ => trivial) (fun _ _ _ => trivial)
        (fun _ => wp.trivial (close p env s) last.2)
      refine wp.mono (hchecks.and haccepted) (fun _ u hu => ?_) (fun _ _ he => he.1)
      exact (hserves.accepted hu.2).2

namespace Sample

/-- The client once its channel is open. -/
def ready : PaymentChannelClientState := { client with
  state := .ready
  multisigContract := some (Reference.contract 1 100000)
  multisigScript := some Reference.redeemScript }

/-- The server once the channel is open. -/
def serving : World := { World.initial false with
  states := ((World.initial false).states.alloc {
    state := .ready
    serverKey := ⟨Reference.serverKey, some Reference.serverKey⟩
    totalValue := some ready.totalValue
    clientOutput := some 0 }).2
  outputs := ((World.initial false).outputs.alloc
    ⟨99000, createOutputScript ⟨0, List.replicate 20 0⟩⟩).2 }

theorem serves : Serves ready.totalValue ready.totalValue 0 serving where
  ready := by decide +kernel
  totalValue := by decide +kernel
  best := by decide +kernel
  clientOutput := ⟨0, ⟨0, List.replicate 20 0⟩, by decide +kernel, by decide, by decide +kernel⟩

/-- Ten thousand satoshis, from a wallet that cannot be saved any more. -/
def unsaved : Call := ⟨{ wallet with addOrUpdateExtension := .error .nullPointer }, 0, 10000⟩

end Sample

theorem client_payments_acceptable_10000 :
    ∃ payment st', ((⟨Sample.wallet, 0, 10000⟩ : Call).perform Sample.platform).run Sample.ready =
        .ok payment st' ∧ payment.amount.value = 10000 ∧ st'.valueToMe.value = 90000 ∧
      Lib.wp (incrementPayment Sample.platform Client.env 0 st'.valueToMe
          (Sample.platform.encodeToBitcoin payment.signature)) Sample.serving
        (fun _ u => (u.states.read 0).bestValueToMe.value = 10000)
        (fun e _ => ¬ CheckFailed e) := by
  have hreturns : Lib.wp ((⟨Sample.wallet, 0, 10000⟩ : Call).perform Sample.platform) Sample.ready
      (fun payment st' => st'.valueToMe.value = 90000 ∧ Sample.platform.decodeFromBitcoin
        (Sample.platform.encodeToBitcoin payment.signature) = .ok payment.signature)
      (fun _ _ => False) := by
    decide +kernel
  obtain ⟨payment, st', hrun, hleft, hdecodes⟩ := hreturns.exists_run_eq_ok
  have hstart : Pays Sample.platform 0 (Sample.ready, Sample.serving)
      (Sample.ready, Sample.serving) := .start
  obtain ⟨-, -, -, hpays⟩ := client_payments_acceptable (by decide) rfl Sample.serves hstart
    ⟨Sample.wallet, 0, 10000⟩
  obtain ⟨hamount, -, -, hserver⟩ := hpays payment st' hrun
  have hvalue : Sample.ready.valueToMe.value = 100000 := rfl
  have htotal : Sample.ready.totalValue.value = 100000 := rfl
  refine ⟨payment, st', hrun, ?_, hleft, wp.mono (hserver Client.env _ hdecodes) ?_ ?_⟩
  · rw [hamount, hleft, hvalue]
    rfl
  · intro _ u hu
    rw [hu, hleft, htotal]
    rfl
  · exact fun _ _ he => he

/-- A stored channel of 100000 satoshis whose wallet cannot be saved any
more: the payment of 10000 is refused, and is off the change. -/
theorem unsaved_payment_is_kept :
    Accepts Sample.platform Sample.wallet Sample.client 0 Sample.world (fun client _ =>
      Lib.wp (storeChannelInWallet Sample.platform Sample.wallet ⟨[0]⟩) client (fun _ stored =>
        Lib.wp getMultisigContract stored (fun _ ready =>
          ready.state = .ready ∧ ready.valueToMe.value = 100000 ∧
          Lib.wp (Sample.unsaved.perform Sample.platform) ready (fun _ _ => False)
            (fun _ st' => st'.valueToMe.value = 90000)) (fun _ _ => False)) (fun _ _ => False)) := by
  decide +kernel

end BitMesh.Channels.PaymentChannelClientState
