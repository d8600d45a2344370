import BitMesh.Channels.Refines

/-!
# Payments keep to their effects

`incrementPayment` is where a payment is accepted; it is reached from an
open connection, from the completion of a contract's broadcast and
directly. Closing a channel that is used up goes the same ways.
-/

namespace BitMesh.Channels

open BitMesh.Bitcoin BitMesh.Lib Relation

variable {p : Platform} {env : Env} {act : Action} {start : World}

/-! ## Accepting a payment -/

/-- `u` is what an accepted payment of `refundSize` leaves behind in `t`:
the client's output was rewritten, the payment recorded and the wallet
told of it. -/
def PaidBy (p : Platform) (t : World) (s : StateRef) (refundSize : Coin) (u : World) : Prop :=
  ∃ t', ∃ pay : Payment p t' s, Rewritten t t' ∧ pay.refundSize = refundSize ∧
    (u = t'.accept s (p.getHash pay.contract) pay.newValueToMe pay.signatureBytes ∨
      u = (t'.accept s (p.getHash pay.contract) pay.newValueToMe pay.signatureBytes).installed)

/-- Around the payment there is only bookkeeping. -/
theorem PaidBy.quiet {t u : World} {s : StateRef} {refundSize : Coin}
    (h : PaidBy p t s refundSize u) :
    ∃ t', ∃ pay : Payment p t' s, Quiet t t' ∧ pay.refundSize = refundSize ∧
      Quiet (t'.accept s (p.getHash pay.contract) pay.newValueToMe pay.signatureBytes) u := by
  obtain ⟨t', pay, hrewritten, hsize, hu⟩ := h
  refine ⟨t', pay, hrewritten.quiet, hsize, ?_⟩
  rcases hu with rfl | rfl
  · exact .refl _
  · exact .installed_right _

theorem Closing.path_effect {w t : World} (h : ReflTransGen (Closing p env) w t) :
    Path p start (env, act) w t :=
  h.lift id fun _ _ hstep => .closing hstep

/-- Without change the client's script does not matter. -/
theorem channelTx_congr {contract : Transaction} {change : Coin} {a b : Script}
    (h : change ≠ Coin.zero → a = b) :
    channelTx p contract change a = channelTx p contract change b := by
  unfold channelTx
  split
  · rfl
  · rw [h ‹_›]

/-- The unsigned transaction that a payment's signature is checked on. -/
theorem Unsigned.channelTx_eq {t : World} {s : StateRef} {T v refundSize : Coin}
    {contract : Transaction} {o : OutputRef} (u : Unsigned t s v)
    (hT : (t.states.read s).totalValue = some T)
    (hcontract : (t.states.read s).multisigContract = some contract)
    (ho : (t.states.read s).clientOutput = some o)
    (hv : v.value = T.value - refundSize.value) :
    u.change = refundSize ∧ channelTx p u.contract u.change u.clientScript =
      channelTx p contract refundSize (t.outputs.read o).script := by
  obtain rfl : u.totalValue = T := Option.some.inj (u.totalValue_eq.symm.trans hT)
  obtain rfl : u.contract = contract := Option.some.inj (u.contract_eq.symm.trans hcontract)
  have hchange : u.change = refundSize := by
    apply Coin.ext
    rw [u.change_value, hv]
    omega
  refine ⟨hchange, ?_⟩
  rw [← hchange]
  refine channelTx_congr fun hne => ?_
  obtain ⟨o', ho', hscript⟩ := u.script_eq hne
  rw [hscript, Option.some.inj (ho'.symm.trans ho)]

/-- The record follows the state. -/
theorem updateChannelInWallet_spec (w : World) (s : StateRef) {h : Sha256Hash} {v : Coin}
    {sig : Bytes} :
    Lib.wp (updateChannelInWallet p s)
      { w with
        states := w.states.modify s fun st =>
          { st with bestValueToMe := v, bestValueSignature := some sig }
        trace := .accepted s h v :: w.trace }
      (fun _ u => u = w.accept s h v sig ∨ u = (w.accept s h v sig).installed)
      (fun _ u => u = (w.accept s h v sig).installed ∧
        (w.states.read s).storedServerChannel.isSome ∧ (w.accept s h v sig).canSave p = false) := by
  simp only [updateChannelInWallet, wp_bind, wp_readState, Heap.read_modify_self]
  unfold World.accept
  cases (w.states.read s).storedServerChannel with
  | none => exact .inl rfl
  | some r =>
    simp only [updateValueToMe, wp_bind, wp_modifyChannel]
    exact wp.mono (updatedChannel_spec _) (fun _ _ h => .inr h) (fun _ _ h => ⟨h.1, rfl, h.2⟩)

/-- A payment leaves the client outputs as they are. -/
theorem Rewritten.accept {w w' : World} (h : Rewritten w w') (s : StateRef) (x : Sha256Hash)
    (v : Coin) (sig : Bytes) : Rewritten (w.accept s x v sig) (w'.accept s x v sig) := by
  obtain ⟨outputs, rfl, hnext, hscripts⟩ := h
  exact ⟨outputs, rfl, hnext, hscripts⟩

/-- If the channel is stored, the wallet can be saved with the payment that
leaves `refundSize`. -/
def savesPayment (p : Platform) (w : World) (s : StateRef) (refundSize : Coin) (sig : Bytes) :
    Bool :=
  match (w.states.read s).storedServerChannel, (w.states.read s).totalValue with
  | some r, some totalValue =>
      match totalValue.subtract refundSize with
      | .ok newValueToMe => World.canSave p { w with channels := w.channels.modify r fun ch =>
          { ch with bestValueToMe := newValueToMe, bestValueSignature := some sig } }
      | .error _ => true
  | _, _ => true

theorem canSave_accept {w : World} {s : StateRef} {refundSize T v : Coin} {sig : Bytes}
    (h : savesPayment p w s refundSize sig = true)
    (hstored : (w.states.read s).storedServerChannel.isSome)
    (hT : (w.states.read s).totalValue = some T) (hv : T.subtract refundSize = .ok v)
    (x : Sha256Hash) : (w.accept s x v sig).canSave p = true := by
  obtain ⟨r, hr⟩ := Option.isSome_iff_exists.mp hstored
  simp only [savesPayment, hr, hT, hv] at h
  unfold World.accept
  rw [hr]
  exact h

/-- The wallet knows that the contract was double-spent. -/
def World.DoubleSpent (p : Platform) (w : World) (s : StateRef) : Prop :=
  ∃ contract, (w.states.read s).multisigContract = some contract ∧
    w.transactions (p.getHash contract) = some .dead

/-- `incrementPayment` accepts, or keeps to what `E` allows: bookkeeping, a
payment that cannot be saved, or the closing of a channel whose contract
was double-spent. -/
theorem incrementPayment_spec {t : World} (s : StateRef) (refundSize : Coin) (sig : Bytes)
    {E : World → Prop} (hquiet : ∀ u, Rewritten t u → E u)
    (hpaid : ∀ u, PaidBy p t s refundSize u → savesPayment p t s refundSize sig = false → E u)
    (hclose : t.DoubleSpent p s → Lib.wp (close p env s) t (fun _ u => E u) (fun _ u => E u)) :
    Lib.wp (incrementPayment p env s refundSize sig) t
      (fun _ u => PaidBy p t s refundSize u) (fun _ u => E u) := by
  have hsame := hquiet t (Rewritten.refl t)
  simp only [incrementPayment, wp_bind, wp_readState, wp_checkState, wp_orThrow, wp_nonNull,
    wp_readOutput, wp_ite, wp_throw, wp_get, decide_eq_true_eq]
  refine ⟨fun hready => ⟨fun signature hsig => ⟨fun o ho => ⟨fun _ => hsame, fun hdust =>
    ⟨fun T hT => ⟨fun v hv => ⟨fun _ => hsame, fun hneg => ⟨fun _ => hsame, fun hback =>
    ⟨fun contract hcontract => ⟨fun confidence hconf => ⟨fun hdead =>
      hclose ⟨contract, hcontract, hdead ▸ hconf⟩, fun _ => ⟨fun _ => hsame,
      fun hmode => ?_⟩⟩, fun _ => hsame⟩, fun _ => hsame⟩⟩⟩, fun _ _ => hsame⟩, fun _ => hsame⟩⟩,
      fun _ => hsame⟩, fun _ _ => hsame⟩, fun _ => hsame⟩
  refine wp.mono (makeUnsignedChannelContract_spec t s v) ?_ (fun _ u h => hquiet u h)
  rintro tx t' ⟨u, rfl, rfl⟩
  have hrewritten := Rewritten.setChange t s u.change
  have hq := hrewritten.quiet
  simp only [wp_modifyState, wp_note]
  refine ⟨fun clientKey hkey => ⟨fun _ => hquiet _ hrewritten, fun hverify => ?_⟩,
    fun _ => hquiet _ hrewritten⟩
  have hvalue := Coin.value_of_subtract hv
  obtain ⟨-, htx⟩ := u.channelTx_eq (p := p) hT hcontract ho hvalue
  rw [htx] at hverify
  have hstates := t.setChange_states s u.change
  have hdust' : refundSize = Coin.zero ∨
      (t.outputs.read o).getMinNonDustValue ≤ refundSize.value := by
    by_cases h0 : refundSize = Coin.zero
    · exact .inl h0
    · exact .inr (Int.not_lt.mp fun hlt => hdust ⟨hlt, h0⟩)
  let pay : Payment p (t.setChange s u.change) s :=
    { contract := contract, totalValue := T, clientOutput := o, clientKey := clientKey
      refundSize := refundSize, newValueToMe := v, signatureBytes := sig, signature := signature
      ready := by rw [hstates]; exact hready
      contract_eq := by rw [hstates]; exact hcontract
      totalValue_eq := by rw [hstates]; exact hT
      clientOutput_eq := by rw [hstates]; exact ho
      clientKey_eq := by rw [hstates]; exact hkey
      value := hvalue
      notDust := by
        simpa only [TransactionOutput.getMinNonDustValue, hq.scripts o] using hdust'
      nonneg := Int.not_lt.mp hneg
      increase := by rw [hstates]; exact Int.not_lt.mp hback
      decodes := hsig
      mode := by
        simpa only [not_not, paymentMode, decide_eq_true_eq] using (not_or.mp hmode).1
      anyoneCanPay := not_not.mp (not_or.mp hmode).2
      verifies := by
        rw [hstates, hq.scripts o]
        simpa only [not_not, paymentMode, decide_eq_true_eq] using hverify }
  refine wp.mono (updateChannelInWallet_spec (t.setChange s u.change) s)
    (fun _ v hv => ⟨_, pay, hrewritten, rfl, hv⟩) ?_
  rintro _ v' ⟨hv', hstored, hnot⟩
  refine hpaid v' ⟨_, pay, hrewritten, rfl, .inr hv'⟩ (Bool.eq_false_iff.mpr fun hsaves => ?_)
  rw [hstates] at hstored
  rw [(hrewritten.accept s (p.getHash contract) v sig).canSave,
    canSave_accept hsaves hstored hT hv] at hnot
  cases hnot

theorem incrementPayment_follows {w t : World} (s : StateRef) (refundSize : Coin) (sig : Bytes)
    (hp : Path p start (env, act) w t) (hat : Allocated t)
    (hpaid : ∀ u, Quiet t u → PaidThrough (env, act) u s) :
    Lib.wp (incrementPayment p env s refundSize sig) t
      (fun _ u => Path p start (env, act) w u ∧ PaidBy p t s refundSize u)
      (fun _ u => Path p start (env, act) w u) := by
  have hpath : ∀ u, PaidBy p t s refundSize u → Path p start (env, act) w u := by
    intro u hu
    obtain ⟨t', pay, hq, -, hu⟩ := hu.quiet
    exact ((hp.tail (.quiet hq)).tail (.accepted _ s pay (hpaid _ hq))).tail (.quiet hu)
  refine wp.mono (incrementPayment_spec s refundSize sig
    (fun u hu => hp.tail (.quiet hu.quiet)) (fun u hu _ => hpath u hu) fun _ => ?_) (fun _ u hu => ⟨hpath u hu, hu⟩) (fun _ _ h => h)
  exact wp.mono (close_spec t s hat) (fun _ _ h => hp.trans (Closing.path_effect h.path))
    (fun _ _ h => hp.trans (Closing.path_effect h.path))

/-! ## Messages about payments -/

/-- The connections are where they were. -/
def SameServers (w t : World) : Prop :=
  ∀ c, (t.servers.read c).core = (w.servers.read c).core

namespace SameServers

variable {w t u : World}

theorem trans (h : SameServers w t) (h' : SameServers t u) : SameServers w u :=
  fun c => (h' c).trans (h c)

theorem state (h : SameServers w t) (c : ConnRef) :
    (t.servers.read c).state = (w.servers.read c).state :=
  congrArg (·.state) (h c)

theorem step (h : SameServers w t) (c : ConnRef) :
    (t.servers.read c).step = (w.servers.read c).step :=
  congrArg (·.step) (h c)

theorem closing (h : ReflTransGen (Closing p env) w t) : SameServers w t := by
  induction h with
  | refl => exact fun _ => rfl
  | tail _ hstep ih =>
    refine ih.trans ?_
    cases hstep with
    | settling hs =>
      cases hs with
      | quiet hq => exact hq.servers
      | deducted | settled | closedEarly => exact fun _ => rfl
    | _ => exact fun _ => rfl

end SameServers

theorem settlePayment_follows (t : World) (c : ConnRef) (reason : CloseReason)
    (hat : Allocated t) :
    Lib.wp (settlePayment p env c reason) t
      (fun _ u => Path p start (env, act) t u ∧ SameServers t u)
      (fun _ u => Path p start (env, act) t u) := by
  simp only [settlePayment, wp_bind, wp_modifyServer, wp_readServer, wp_nonNull]
  have hq : Quiet t { t with servers := t.servers.modify c fun sv =>
      { sv with channelSettling := true } } := .server t c rfl
  have hpath : Path p start (env, act) t _ := .single (.quiet hq)
  refine ⟨fun s _ => ?_, fun _ => hpath⟩
  refine wp.mono (close_spec _ s (hq.allocated hat)) ?_
    (fun _ u hu => hpath.trans (Closing.path_effect hu.path))
  intro result u hu
  have hsame : SameServers t u := SameServers.trans hq.servers (.closing hu.path)
  have hpath := hpath.trans (Closing.path_effect hu.path)
  cases result with
  | abandoned => exact ⟨hpath, hsame⟩
  | closedFuture =>
    simp only [wp_bind, wp_readState]
    cases (u.states.read s).closedFuture with
    | pending =>
      rw [wp_modifyState]
      exact ⟨hpath.tail (.quiet (.state u s rfl)), hsame⟩
    | set result =>
      rw [wp_modifyServer]
      have hset : Quiet u _ := .server u c (f := fun sv => { sv with finalTransaction := result }) rfl
      exact ⟨hpath.tail (.quiet hset), hsame.trans hset.servers⟩
    | failed =>
      refine (Silent.tryCatch (destroyConnection_silent c reason) fun _ => .pure _).wp hpath ?_
      exact fun _ v hv hpath => ⟨hpath, hsame.trans hv.servers⟩

/-- The payment `payment` to the state `s` was accepted on the way from `t`
to `u`. -/
def Recorded (t : World) (s : StateRef) (payment : UpdatePayment) (u : World) : Prop :=
  ∃ T v h, (t.states.read s).totalValue = some T ∧
    v.value = T.value - payment.clientChangeValue ∧ .accepted s h v ∈ u.trace

theorem PaidBy.recorded {t u : World} {s : StateRef} {refundSize : Coin} {payment : UpdatePayment}
    (h : PaidBy p t s refundSize u)
    (hsize : Coin.valueOf payment.clientChangeValue = .ok refundSize) :
    Recorded t s payment u := by
  obtain ⟨t', pay, hq, rfl, hu⟩ := h.quiet
  refine ⟨pay.totalValue, pay.newValueToMe, p.getHash pay.contract, ?_, ?_, ?_⟩
  · rw [← hq.totalValue s, pay.totalValue_eq]
  · rw [pay.value, Coin.value_of_valueOf hsize]
  · exact (hu.mem_trace rfl).mpr (List.mem_cons_self ..)

theorem PaidBy.best {t u : World} {s : StateRef} {refundSize : Coin}
    (h : PaidBy p t s refundSize u) :
    ∃ x, .accepted s x (u.states.read s).bestValueToMe ∈ u.trace := by
  obtain ⟨t', pay, -, -, hu⟩ := h.quiet
  refine ⟨p.getHash pay.contract, (hu.mem_trace rfl).mpr ?_⟩
  rw [hu.best s]
  simp [World.accept]

/-- The server's part is what the client's change leaves of the contract. -/
theorem PaidBy.value {t u : World} {s : StateRef} {refundSize T : Coin}
    (h : PaidBy p t s refundSize u) (hT : (t.states.read s).totalValue = some T) :
    (u.states.read s).totalValue = some T ∧
      (u.states.read s).bestValueToMe.value = T.value - refundSize.value := by
  obtain ⟨t', pay, hq, rfl, hu⟩ := h.quiet
  have hpay : pay.totalValue = T :=
    Option.some.inj (pay.totalValue_eq.symm.trans ((hq.totalValue s).trans hT))
  constructor
  · rw [hu.totalValue s]
    simp [World.accept, hq.totalValue s, hT]
  · rw [hu.best s]
    simp [World.accept, pay.value, hpay]

theorem PaidBy.sameServers {t u : World} {s : StateRef} {refundSize : Coin}
    (h : PaidBy p t s refundSize u) : SameServers t u := by
  obtain ⟨t', pay, hq, -, hu⟩ := h.quiet
  exact SameServers.trans hq.servers hu.servers

theorem Recorded.mono {t u v : World} {s : StateRef} {payment : UpdatePayment}
    (h : Recorded t s payment u)
    (hmem : ∀ e : Event, e.neutral = false → e ∈ u.trace → e ∈ v.trace) :
    Recorded t s payment v := by
  obtain ⟨T, value, h, hT, hval, hacc⟩ := h
  exact ⟨T, value, h, hT, hval, hmem _ rfl hacc⟩

theorem receiveUpdatePaymentMessage_follows (start : World) (act : Action) (t : World)
    (c : ConnRef) (s : StateRef) (payment : UpdatePayment) (hat : Allocated t)
    (hc : (t.servers.read c).state = some s)
    (hbest : (t.states.read s).bestValueToMe = (start.states.read s).bestValueToMe)
    (hpaid : ∀ u, Quiet t u → PaidThrough (env, act) u s) :
    Lib.wp (receiveUpdatePaymentMessage p env c payment) t
      (fun _ u => Path p start (env, act) t u ∧ SameServers t u ∧ Recorded t s payment u)
      (fun _ u => Path p start (env, act) t u) := by
  simp only [receiveUpdatePaymentMessage, wp_bind, wp_readServer, wp_nonNull, wp_readState,
    wp_orThrow, wp_ite, wp_pure, hc, Option.some.injEq, forall_eq', reduceCtorEq, false_implies,
    and_true]
  refine ⟨fun refundSize hsize => ?_, fun _ _ => .refl⟩
  refine wp.mono (incrementPayment_follows s refundSize _ .refl hat hpaid) ?_ (fun _ _ h => h)
  rintro usable u ⟨hpath, hpay⟩
  -- from the acknowledgement on, the payment stays recorded
  have hrest : ∀ v, Path p start (env, act) t v → SameServers t v → Recorded t s payment v →
      Lib.wp (do
        sendToClient p c (.paymentAck none none none)
        if ¬ usable = true then settlePayment p env c .channelExhausted) v
        (fun _ x => Path p start (env, act) t x ∧ SameServers t x ∧ Recorded t s payment x)
        (fun _ x => Path p start (env, act) t x) := by
    intro v hpath hsame hrec
    rw [wp_bind]
    refine (sendToClient_silent c rfl).wp hpath fun _ x hx hpath => ?_
    have hsame := hsame.trans hx.servers
    have hrec := hrec.mono fun _ he => (hx.mem_trace he).mpr
    rw [wp_ite]
    refine ⟨fun _ => ?_, fun _ => ⟨hpath, hsame, hrec⟩⟩
    refine wp.mono (settlePayment_follows x c _ (Path.allocated hpath hat)) ?_
      (fun _ _ h => hpath.trans h)
    rintro _ y ⟨hy, hsame'⟩
    exact ⟨hpath.trans hy, hsame.trans hsame', hrec.mono fun _ he => Path.mem_trace hy he⟩
  have hsame := hpay.sameServers
  have hrec := hpay.recorded hsize
  refine ⟨fun change hchange => ⟨fun hpos => ?_, fun _ => ?_⟩, fun _ _ => hpath⟩
  · have hcredit : Crediting start u c s change :=
      { state := (hsame.state c).trans hc
        amount_value := hbest ▸ Coin.value_of_subtract hchange
        positive := hpos
        accepted := hpay.best }
    rw [wp_note]
    refine (paymentIncrease_silent c _ _ _).wp (hpath.tail (.credited u c s change hcredit))
      fun _ v hv hpath => ?_
    simpa only [wp_bind, wp_ite, wp_pure] using hrest v hpath (hsame.trans hv.servers)
      (hrec.mono fun _ he hmem => (hv.mem_trace he).mpr (List.mem_cons_of_mem _ hmem))
  · simpa only [wp_bind, wp_ite, wp_pure] using hrest u hpath hsame hrec

theorem receiveCloseMessage_follows (t : World) (c : ConnRef) (hat : Allocated t) :
    Follows (Effect p start (env, act)) (receiveCloseMessage p env c) t := by
  simp only [Follows, receiveCloseMessage, wp_bind, wp_readServer, wp_ite]
  refine ⟨fun _ => ?_, fun _ => (destroyConnection_silent c _).wp .refl fun _ _ _ h => h⟩
  exact wp.mono (settlePayment_follows t c _ hat) (fun _ _ h => h.1) (fun _ _ h => h)

end BitMesh.Channels
