import BitMesh.Channels.Routes
import BitMesh.Channels.Steps
import BitMesh.Lib.Within

/-!
# Relations that every method keeps

Some relations between the worlds before and after a call need not be
followed through the methods one by one. If such a relation is kept by the
few kinds of statements that methods are made of, then every method keeps
it. The statements by which a connection comes, registers and goes are set
apart: a relation that looks at the states, the broadcasts and the history
only is kept by these too, and by whatever reaches the server.
-/

namespace BitMesh.Channels

open BitMesh.Bitcoin BitMesh.Lib

/-- The state an increase is reported for, and the increase. -/
def Event.credit : Event → Option (StateRef × Coin)
  | .credited _ s amount _ => some (s, amount)
  | _ => none

/-! ## What `settle` writes -/

/-- From `w` to `t` no event is noted and no route, script or broadcast
written. -/
structure Assigned (w t : World) : Prop where
  routing : t.routing = w.routing
  trace : t.trace = w.trace
  next : t.states.next = w.states.next
  scripts : ∀ s, (t.states.read s).redeemScript = (w.states.read s).redeemScript
  broadcasts : t.broadcasts = w.broadcasts

instance Assigned.isPreorder : IsPreorder World Assigned where
  refl _ := ⟨rfl, rfl, rfl, fun _ => rfl, rfl⟩
  trans _ _ _ h h' := ⟨h'.routing.trans h.routing, h'.trace.trans h.trace, h'.next.trans h.next,
    fun s => (h'.scripts s).trans (h.scripts s), h'.broadcasts.trans h.broadcasts⟩

theorem Assigned.state (w : World) (s : StateRef)
    {f : PaymentChannelServerState → PaymentChannelServerState}
    (hf : ∀ st, (f st).redeemScript = st.redeemScript) :
    Assigned w { w with states := w.states.modify s f } :=
  ⟨rfl, rfl, Heap.next_modify .., fun s' => w.states.field_modify s s' (·.redeemScript) hf, rfl⟩

theorem Rewritten.assigned {w t : World} (h : Rewritten w t) : Assigned w t := by
  obtain ⟨outputs, rfl, -, -⟩ := h
  exact ⟨rfl, rfl, rfl, fun _ => rfl, rfl⟩

/-- From `w` to `t` the state `s` is settled, which takes its script. -/
structure SettlementTried (w t : World) (s : StateRef) : Prop where
  routing : t.routing = w.routing
  trace : t.trace = w.trace
  next : t.states.next = w.states.next
  scripts : ∀ s', (t.states.read s').redeemScript = (w.states.read s').redeemScript
  broadcasts : t.broadcasts = w.broadcasts ∨ (w.states.read s).redeemScript ≠ none ∧
    ∃ tx, t.broadcasts = (w.broadcasts.alloc { tx, purpose := .settlement s }).2

theorem Assigned.settled {w t : World} (h : Assigned w t) (s : StateRef) : SettlementTried w t s :=
  ⟨h.routing, h.trace, h.next, h.scripts, .inl h.broadcasts⟩

section Settle

variable {p : Platform} {env : Env}

theorem signSettlement_script (w : World) (s : StateRef) (tx : Transaction) (b : Coin) :
    wp (signSettlement p env s tx b) w
      (fun _ t => t = w ∧ (w.states.read s).redeemScript ≠ none) (fun _ t => t = w) := by
  simp only [signSettlement, signMultisigInput, wp_bind, wp_orThrow, wp_readState, wp_nonNull,
    wp_pure]
  refine ⟨fun _ _ => ⟨fun script hscript => ?_, fun _ => trivial⟩, fun _ _ => trivial⟩
  have hsome : (w.states.read s).redeemScript ≠ none := by rw [hscript]; exact Option.some_ne_none _
  refine ⟨fun _ _ => ⟨fun _ _ => ⟨fun _ _ => ⟨fun _ _ => ⟨fun _ _ => ⟨fun _ _ => ?_, ?_⟩, ?_⟩, ?_⟩,
    ?_⟩, ?_⟩, ?_⟩
  · exact ⟨trivial, hsome⟩
  all_goals intros; trivial

theorem makeSettlement_script (w : World) (s : StateRef) :
    wp (makeSettlement p env s) w
      (fun result t => Assigned w t ∧ (result ≠ none → (w.states.read s).redeemScript ≠ none))
      (fun _ t => Assigned w t) := by
  simp only [makeSettlement, wp_bind, wp_readState]
  refine wp.mono (makeUnsignedChannelContract_spec w s _) ?_ (fun _ _ h => h.assigned)
  rintro tx t ⟨u, -, rfl⟩
  have hchange := (Rewritten.setChange w s u.change).assigned
  simp only [wp_orThrow, wp_modifyState, wp_ite, wp_pure, wp_bind]
  refine ⟨fun b _ => ?_, fun _ _ => hchange⟩
  have hdeducted := trans_of Assigned hchange
    (.state (f := fun st => { st with bestValueToMe := b }) _ s fun _ => rfl)
  refine ⟨fun _ => ⟨hdeducted, fun h => absurd rfl h⟩, fun _ => ?_⟩
  refine wp.mono (signSettlement_script _ s _ b) ?_ ?_
  · rintro tx' t ⟨rfl, hscript⟩
    exact ⟨hdeducted, fun _ => hdeducted.scripts s ▸ hscript⟩
  · rintro e t rfl
    exact hdeducted

theorem settle_settled (w : World) (s : StateRef) :
    wp (settle p env s) w (fun _ t => SettlementTried w t s) (fun _ t => SettlementTried w t s) := by
  simp only [settle, wp_bind, wp_readState, wp_ite, wp_modifyState, wp_pure, wp_tryCatch, wp_throw]
  refine ⟨fun _ => ?_, fun _ => ⟨fun _ => (refl_of Assigned w).settled s, fun _ => ?_⟩⟩
  · have hclosed : Assigned w _ := .state (f := fun st => { st with state := .closed }) w s fun _ => rfl
    have hset : Within Assigned (setClosedFuture s none) := by
      refine .skip (keeps_readState s) fun st => .ite (fun _ => ?_) fun _ => .pure _
      refine .bind (.modify fun w => .state w s fun _ => rfl) fun _ => .forM _ fun cb => ?_
      exact .modify fun w =>
        ⟨w.routing_modifyServer_same cb.1 fun _ => rfl, rfl, rfl, fun _ => rfl, rfl⟩
    exact wp.mono (hset.after hclosed) (fun _ _ h => h.settled s) (fun _ _ h => h.settled s)
  · refine wp.mono (makeSettlement_script w s) ?_ (fun _ _ h => h.settled s)
    rintro result t ⟨ht, hscript⟩
    cases result with
    | none => exact ht.settled s
    | some tx =>
      have hclosing := trans_of Assigned ht
        (.state (f := fun st => { st with state := .closing }) t s fun _ => rfl)
      simp only [broadcastTransaction, wp_bind, wp_modifyState, wp_modify, wp_pure]
      refine ⟨hclosing.routing, hclosing.trace, hclosing.next, hclosing.scripts,
        .inr ⟨hscript (by simp), tx, ?_⟩⟩
      rw [ht.broadcasts]

end Settle

/-! ## Frames -/

/-- No connection, registration, state, broadcast or event is written. -/
structure Elsewhere (w w' : World) : Prop where
  servers : w'.servers = w.servers
  addressConnectionMap : w'.addressConnectionMap = w.addressConnectionMap
  states : w'.states = w.states
  broadcasts : w'.broadcasts = w.broadcasts
  trace : w'.trace = w.trace

/-- `R` is kept by the statements of the methods, but for those by which a
connection comes, registers and goes. The report of an increase is left
out. -/
class Frame (R : World → World → Prop) : Prop extends IsPreorder World R where
  rest : ∀ w w' : World, Elsewhere w w' → R w w'
  noted : ∀ (w : World) (e : Event), e.credit = none → e.routes = false →
    R w { w with trace := e :: w.trace }
  /-- An assignment to a connection that leaves its route alone. -/
  served : ∀ (w : World) (c : ConnRef) (f : PaymentChannelServer → PaymentChannelServer),
    (∀ sv, (f sv).route = sv.route) → R w { w with servers := w.servers.modify c f }
  /-- A step after those in which a connection registers. -/
  stepped : ∀ (w : World) (c : ConnRef) (step : InitStep), ¬ step.early →
    R w { w with servers := w.servers.modify c fun sv => { sv with step := step } }
  unwatched : ∀ (w : World) (a : Address) (c : ConnRef), R w { w with
    addressConnectionMap := w.addressConnectionMap.erase a
    trace := .unwatched a c :: w.trace }
  /-- An assignment to a state that leaves its script alone. -/
  assigned : ∀ (w : World) (s : StateRef)
    (f : PaymentChannelServerState → PaymentChannelServerState),
    (∀ st, (f st).redeemScript = st.redeemScript) → R w { w with states := w.states.modify s f }
  /-- The script of a state that exists is set. -/
  keyed : ∀ (w : World) (s : StateRef)
    (f : PaymentChannelServerState → PaymentChannelServerState),
    s < w.states.next → (∀ st, (f st).redeemScript ≠ none) →
      R w { w with states := w.states.modify s f }
  /-- A new state has no script. -/
  made : ∀ (w : World) (st : PaymentChannelServerState), st.redeemScript = none →
    R w { w with states := (w.states.alloc st).2 }
  offered : ∀ (w : World) (tx : Transaction) (s : StateRef) (c : ConnRef)
    (provided : ProvideContract),
    R w { w with broadcasts := (w.broadcasts.alloc { tx, purpose := .contract s c provided }).2 }
  completed : ∀ (w : World) (b : Nat), R w (w.complete b)
  settled : ∀ (w t : World) (s : StateRef), SettlementTried w t s → R w t

namespace Frame

variable {p : Platform} {env : Env} {R : World → World → Prop} [hR : Frame R]

/-! ## Statements -/

theorem rested {g : World → World} (h : ∀ w, Elsewhere w (g w)) :
    Within R (modify g : Method Unit) :=
  .modify fun w => hR.rest w (g w) (h w)

theorem note {e : Event} (he : e.credit = none) (hroutes : e.routes = false) : Within R (note e) :=
  .modify fun w => hR.noted w e he hroutes

theorem modifyServer (c : ConnRef) {f : PaymentChannelServer → PaymentChannelServer}
    (hf : ∀ sv, (f sv).route = sv.route) : Within R (modifyServer c f) :=
  .modify fun w => hR.served w c f hf

theorem modifyChannel (r : ChannelRef) (f : StoredServerChannel → StoredServerChannel) :
    Within R (modifyChannel r f) :=
  rested fun _ => ⟨rfl, rfl, rfl, rfl, rfl⟩

theorem modifyState (s : StateRef) {f : PaymentChannelServerState → PaymentChannelServerState}
    (hf : ∀ st, (f st).redeemScript = st.redeemScript) : Within R (modifyState s f) :=
  .modify fun w => hR.assigned w s f hf

theorem setStep (c : ConnRef) {step : InitStep} (h : ¬ step.early) : Within R (setStep c step) :=
  .bind (.modify fun w => hR.stepped w c step h) fun _ => note rfl rfl

theorem setExpireTime (c : ConnRef) (now timeWindowSecs : Int) :
    Within R (setExpireTime c now timeWindowSecs) :=
  .bind (modifyServer c fun _ => rfl) fun _ => note rfl rfl

theorem sendToClient (c : ConnRef) (m : ServerMessage) : Within R (sendToClient p c m) :=
  .skip (keeps_checkState _) fun _ => note rfl rfl

theorem callback (which : Callback) : Within R (callback env which) := by
  unfold Channels.callback
  cases env.callbackThrows which with
  | none => exact .pure _
  | some e => exact .throw e

theorem updatedChannel : Within R (updatedChannel p) :=
  .bind (rested fun _ => ⟨rfl, rfl, rfl, rfl, rfl⟩) fun _ => .of_same keeps_saveNow

/-! ## The stored channels -/

theorem setConnectedHandler (r : ChannelRef) (c : ConnRef) (override : Bool) :
    Within R (setConnectedHandler r c override) := by
  refine .skip (keeps_readChannel r) fun ch => ?_
  split
  · exact .pure _
  · exact .bind (modifyChannel r _) fun _ => .bind (note rfl rfl) fun _ => .pure _

theorem getOrCreateState (r : ChannelRef) : Within R (getOrCreateState p r) := by
  refine .skip (keeps_readChannel r) fun ch => ?_
  cases ch.state with
  | some s => exact .pure s
  | none =>
    refine .skip (keeps_readChannel r) fun ch => ?_
    refine .skip (keeps_orThrow _) fun output => ?_
    split
    · exact .throw _
    · refine .skip (keeps_orThrow _) fun totalValue => ?_
      refine .skip (keeps_checkArgument _) fun _ w => ?_
      rw [wp_bind, wp_get, wp_bind, wp_set]
      exact Within.after (.bind (modifyChannel r _) fun _ => .pure _) (hR.made w _ rfl)

theorem putChannel (r : ChannelRef) : Within R (putChannel p env r) := by
  refine .skip (keeps_readChannel r) fun ch => .bind (.tryCatch ?_ fun e => ?_) fun _ =>
    updatedChannel
  · refine .skip (keeps_getChannel _) fun old => ?_
    refine .bind (rested fun _ => ⟨rfl, rfl, rfl, rfl, rfl⟩) fun _ => ?_
    refine .bind (note rfl rfl) fun _ => .skip (keeps_checkArgument _) fun _ => ?_
    refine .ite (fun _ => .throw _) fun _ => .read fun w => .ite (fun _ => .throw _) fun _ => ?_
    exact rested fun _ => ⟨rfl, rfl, rfl, rfl, rfl⟩
  · exact .ite (fun _ => .pure _) fun _ => .throw _

theorem storeChannelInWallet (s : StateRef) (c : ConnRef) :
    Within R (storeChannelInWallet p env s c) := by
  refine .skip (keeps_readState s) fun st => .skip (keeps_checkState _) fun _ => ?_
  refine .ite (fun _ => .pure _) fun _ => .skip (keeps_nonNull _) fun contract => ?_
  refine .bind ?_ fun _ => .skip (keeps_nonNull _) fun clientOutput w => ?_
  · refine .read fun w => .ite (fun _ => ?_) fun _ => .pure _
    exact .bind (rested fun _ => ⟨rfl, rfl, rfl, rfl, rfl⟩) fun _ =>
      .of_same keeps_saveNow
  · rw [wp_bind, wp_get, wp_bind, wp_set]
    refine Within.after ?_ (hR.rest w _ ⟨rfl, rfl, rfl, rfl, rfl⟩)
    exact .bind (modifyState s fun _ => rfl) fun _ =>
      .bind (setConnectedHandler _ c false) fun _ => putChannel _

/-! ## The state of a channel -/

theorem provideMultiSigContract (s : StateRef) (multisigContract : Transaction) (c : ConnRef)
    (provided : ProvideContract) :
    Within R (provideMultiSigContract p s multisigContract c provided) := by
  refine .skip (keeps_readState s) fun st => .skip (keeps_checkState _) fun _ => ?_
  refine .skip (keeps_orThrow _) fun _ => .bind (modifyState s fun _ => rfl) fun _ => ?_
  refine .skip (keeps_orThrow _) fun output => ?_
  split
  · exact .throw _
  · refine .skip (keeps_nonNull _) fun clientKey => .bind (note rfl rfl) fun _ => ?_
    refine .ite (fun _ => .throw _) fun _ => .skip (keeps_orThrow _) fun totalValue => ?_
    refine .bind (modifyState s fun _ => rfl) fun _ => .ite (fun _ => .throw _) fun _ => ?_
    exact .bind (modifyState s fun _ => rfl) fun _ =>
      .modify fun w => hR.offered w multisigContract s c provided

theorem settle (s : StateRef) : Within R (settle p env s) := fun w =>
  wp.mono (settle_settled w s) (fun _ t h => hR.settled w t s h) (fun _ t h => hR.settled w t s h)

/-- `close`, if the `closeChannel` it calls keeps to `R`. -/
theorem closeWith {closeChannel : ChannelRef → Method Unit}
    (h : ∀ r, Within R (closeChannel r)) (s : StateRef) :
    Within R (closeWith p env closeChannel s) := by
  refine .bind (note rfl rfl) fun _ => .skip (keeps_readState s) fun st => ?_
  cases st.storedServerChannel with
  | none => exact settle s
  | some temp =>
    refine .bind (modifyState s fun _ => rfl) fun _ => .bind (h temp) fun _ => ?_
    exact .skip (keeps_readState s) fun _ =>
      .ite (fun _ => .pure _) fun _ => settle s

theorem closeChannelWith {close : StateRef → Method CloseResult}
    (h : ∀ s, Within R (close s)) (r : ChannelRef) : Within R (closeChannelWith p close r) := by
  refine .read fun w => .ite (fun _ => ?_) fun _ => .pure _
  refine .bind (rested fun _ => ⟨rfl, rfl, rfl, rfl, rfl⟩) fun _ => ?_
  refine .bind (note rfl rfl) fun _ => .bind (.tryCatch ?_ fun e => ?_) fun _ => ?_
  · exact .bind (getOrCreateState r) fun s => .bind (h s) fun _ => .pure _
  · exact .ite (fun _ => .pure _) fun _ => .throw _
  · exact .bind (modifyChannel r _) fun _ => updatedChannel

theorem closeChannel (r : ChannelRef) : Within R (closeChannel p env r) := by
  have hN : ∀ (n : Nat) (r : ChannelRef), Within R (closeChannelN p env n r) := by
    intro n
    induction n with
    | zero => exact fun _ => .pure _
    | succ n ih => exact closeChannelWith (closeWith ih)
  exact .read fun _ => hN _ r

theorem close (s : StateRef) : Within R (close p env s) := closeWith (closeChannel) s

theorem incrementPayment (s : StateRef) (refundSize : Coin) (signatureBytes : Bytes) :
    Within R (incrementPayment p env s refundSize signatureBytes) := by
  intro w
  have hrewritten {t : World} (h : Rewritten w t) : R w t := by
    obtain ⟨outputs, rfl, -, -⟩ := h
    exact hR.rest w _ ⟨rfl, rfl, rfl, rfl, rfl⟩
  have hpaid {u : World} (h : PaidBy p w s refundSize u) : R w u := by
    obtain ⟨t, pay, ht, -, hu⟩ := h
    -- the state is assigned to and the event is noted; the rest is the record
    let v : World := { t with states := t.states.modify s fun st => { st with
      bestValueToMe := pay.newValueToMe, bestValueSignature := some pay.signatureBytes } }
    have hassigned : R t v := hR.assigned t s _ fun _ => rfl
    have hnoted := hR.noted v (.accepted s (p.getHash pay.contract) pay.newValueToMe) rfl rfl
    refine trans_of R (hrewritten ht) (trans_of R (trans_of R hassigned hnoted) ?_)
    rcases hu with rfl | rfl
    · exact hR.rest _ _ ⟨rfl, rfl, rfl, rfl, rfl⟩
    · exact hR.rest _ _ ⟨rfl, rfl, rfl, rfl, rfl⟩
  exact wp.mono (incrementPayment_spec s refundSize signatureBytes (E := R w)
    (fun _ h => hrewritten h) (fun _ h _ => hpaid h) fun _ => close s w)
    (fun _ _ => hpaid) (fun _ _ h => h)

/-! ## Connections -/

theorem stopWatchingAddress (c : ConnRef) : Within R (stopWatchingAddress p c) := by
  have hstop (address : Option Address) : Within R (stopWatching p address c) := by
    cases address with
    | none => exact .pure _
    | some a =>
      refine .read fun w => .ite (fun _ => .skip keeps_saveNow fun _ => ?_) fun _ => .pure _
      exact fun w => hR.unwatched w a c
  refine .skip (keeps_readServer c) fun sv => .skip (keeps_nonNull _) fun _ => ?_
  exact .ite (fun _ => hstop _) fun _ => .ite (fun _ => hstop _) fun _ => .pure _

theorem destroyConnection (c : ConnRef) (reason : CloseReason) :
    Within R (destroyConnection p c reason) :=
  .bind (note rfl rfl) fun _ => stopWatchingAddress c

theorem error (c : ConnRef) (message : Option String) (errorCode : ErrorCode)
    (reason : CloseReason) : Within R (error p c message errorCode reason) :=
  .skip (keeps_nonNull _) fun _ => .bind (sendToClient c _) fun _ =>
    destroyConnection c reason

theorem serverClose (c : ConnRef) : Within R (serverClose p c) :=
  .skip (keeps_readServer c) fun _ => .ite
    (fun _ => .bind (sendToClient c _) fun _ => destroyConnection c _) fun _ => .pure _

theorem paymentIncrease (c : ConnRef) (amount total : Coin) (info : Option Bytes) :
    Within R (paymentIncrease env c amount total info) :=
  .bind (note rfl rfl) fun _ => callback _

theorem connChannelOpen (c : ConnRef) (contractHash : Sha256Hash) :
    Within R (connChannelOpen p env c contractHash) := by
  refine .bind (note rfl rfl) fun _ => .bind (callback _) fun _ => ?_
  refine .skip (keeps_getChannel _) fun channel => ?_
  cases channel with
  | none => exact .pure _
  | some r =>
    refine .bind (getOrCreateState r) fun s => .bind ?_ fun _ => .pure _
    exact .skip (keeps_readState s) fun st =>
      .skip (keeps_checkState _) fun _ => .pure _

theorem sendInitiate (c : ConnRef) : Within R (sendInitiate p c) :=
  .skip (keeps_readServer c) fun _ => .bind (sendToClient c _) fun _ =>
    setStep c (by decide)

theorem resumeChannel (c : ConnRef) (contractHash : Sha256Hash) (r : ChannelRef) :
    Within R (resumeChannel p env c contractHash r) := by
  refine .bind ?_ fun _ => .bind (getOrCreateState r) fun s => ?_
  · refine .bind (setConnectedHandler r c false) fun existing => .ite (fun _ => ?_) fun _ =>
      .pure _
    exact .bind (note rfl rfl) fun _ => .bind (serverClose existing) fun _ =>
      .bind (setConnectedHandler r c true) fun _ => .pure _
  · refine .bind (modifyServer c fun _ => rfl) fun _ => .bind (setStep c (by decide)) fun _ => ?_
    refine .bind (sendToClient c _) fun _ => .bind (connChannelOpen c contractHash) fun _ => ?_
    exact .skip (keeps_readServer c) fun sv => .skip (keeps_nonNull _) fun _ =>
      .bind (note rfl rfl) fun _ => callback _

theorem sendFunding (c : ConnRef) (tx : Transaction) : Within R (sendFunding p env c tx) := by
  refine .skip (keeps_readServer c) fun sv => .skip (keeps_nonNull _) fun version => ?_
  refine .ite (fun _ => ?_) fun _ => .ite (fun _ => ?_) fun _ => .pure _
  · refine .skip (keeps_orThrow _) fun amountSpent => ?_
    refine .bind (modifyServer c fun _ => rfl) fun _ => .skip (keeps_nonNull _) fun client => ?_
    have hrest (amount : Int) : Within R (do
        Channels.sendToClient p c (.paymentAck none (some amountSpent) (some amount))
        let amount ← orThrow (Coin.valueOf amountSpent)
        let total ← orThrow (Coin.valueOf (addLong sv.totalSent amountSpent))
        Channels.paymentIncrease env c amount total none) :=
      .bind (sendToClient c _) fun _ => .skip (keeps_orThrow _) fun _ =>
        .skip (keeps_orThrow _) fun _ => paymentIncrease c _ _ _
    exact .ite (fun _ => .bind (.throw _) fun _ => hrest _) fun _ => hrest _
  · refine .bind (sendToClient c _) fun _ => .bind (modifyServer c fun _ => rfl) fun _ => ?_
    exact .ite (fun _ => sendInitiate c) fun _ => .pure _

theorem provideRefundTransaction {w : World} {s : StateRef} (hs : s < w.states.next)
    (refundTx : Transaction) (key : Bytes) :
    wp (provideRefundTransaction p s refundTx key) w (fun _ t => R w t) (fun _ t => R w t) := by
  simp only [Channels.provideRefundTransaction, wp_bind, wp_readState, wp_checkState, wp_orThrow,
    wp_modifyState]
  refine ⟨fun _ => ⟨fun output _ => ?_, fun _ _ => refl_of R w⟩, fun _ => refl_of R w⟩
  have hunlock : R w _ := hR.assigned w s (fun st =>
    { st with refundTransactionUnlockTimeSecs := refundTx.lockTime.toNat }) fun _ => rfl
  split
  · exact hunlock
  · simp only [wp_bind, wp_pure, wp_modifyState, wp_orThrow, wp_get, wp_set, wp_note]
    have hkeys := trans_of R hunlock (hR.keyed _ s (fun st => { st with
      clientKey := some (ECKey.fromPublicOnly key)
      redeemScript := some (createMultiSigOutputScript (ECKey.fromPublicOnly key)
        (w.states.read s).serverKey) }) hs fun _ => Option.some_ne_none _)
    refine ⟨fun sig _ => ?_, fun _ _ => hkeys⟩
    have hstate := trans_of R hkeys (hR.assigned _ s (fun st => { st with
      clientOutput := some w.outputs.next, state := .waitingForMultisigContract }) fun _ => rfl)
    have hnoted := trans_of R hstate (hR.noted _ (.refundSigned s refundTx.lockTime.toNat) rfl rfl)
    refine trans_of R hnoted ?_
    exact hR.rest _ _ ⟨rfl, rfl, rfl, rfl, rfl⟩

theorem receiveRefundMessage (c : ConnRef) (msg : TwoWayChannelMessage) :
    Within R (receiveRefundMessage p c msg) := by
  refine .skip (keeps_checkState _) fun _ => ?_
  refine .skip (keeps_nonNull _) fun provided => ?_
  refine .skip (keeps_readServer c) fun sv w => ?_
  simp only [newState, wp_bind, wp_get, wp_set, wp_pure, wp_modifyServer, wp_orThrow]
  have hmade := trans_of R (hR.made w {
    state := .waitingForRefundTransaction
    serverKey := sv.myKey
    minExpireTime := sv.expireTime } rfl)
    (hR.served _ c (fun sv => { sv with state := some w.states.next }) fun _ => rfl)
  refine ⟨fun refundTx _ => ?_, fun _ _ => hmade⟩
  refine wp.mono (provideRefundTransaction (R := R) (Nat.lt_succ_self w.states.next) refundTx _)
    (fun signature t ht => ?_) fun _ t ht => trans_of R hmade ht
  have hrest : Within R (do
      Channels.note (.keyUsed c (← readState w.states.next).serverKey.pub)
      Channels.setStep c .waitingOnContract
      Channels.sendToClient p c (.returnRefund signature)) :=
    .skip (keeps_readState _) fun _ => .bind (note rfl rfl) fun _ =>
      .bind (setStep c (by decide)) fun _ => sendToClient c _
  simpa only [wp_bind] using hrest.after (trans_of R hmade ht)

theorem receiveContractMessage (c : ConnRef) (msg : TwoWayChannelMessage) :
    Within R (receiveContractMessage p c msg) := by
  refine .skip (keeps_readServer c) fun sv => .skip (keeps_checkState _) fun _ => ?_
  refine .skip (keeps_nonNull _) fun provided => .skip (keeps_orThrow _) fun _ => ?_
  exact .bind (setStep c (by decide)) fun _ => .skip (keeps_nonNull _) fun s =>
    provideMultiSigContract s _ c _

theorem settlePayment (c : ConnRef) (reason : CloseReason) :
    Within R (settlePayment p env c reason) := by
  refine .bind (modifyServer c fun _ => rfl) fun _ => .skip (keeps_readServer c) fun sv => ?_
  refine .skip (keeps_nonNull _) fun s => .bind (close s) fun result => ?_
  cases result with
  | abandoned => exact .pure _
  | closedFuture =>
    refine .skip (keeps_readState s) fun st => ?_
    split
    · exact modifyState s fun _ => rfl
    · exact modifyServer c fun _ => rfl
    · exact .tryCatch (destroyConnection c _) fun _ => .pure _

/-- `connectionClosed`, if `R` is kept when the end is noted. -/
theorem connectionClosed {w : World} {c : ConnRef} (h : R w { w with
      servers := w.servers.modify c fun sv => { sv with connectionOpen := false }
      trace := .connectionClosed c :: w.trace }) :
    wp (connectionClosed p c) w (fun _ t => R w t) (fun _ t => R w t) := by
  unfold Channels.connectionClosed
  rw [wp_bind, wp_modifyServer, wp_bind, wp_note]
  refine Within.after ?_ h
  refine .skip (keeps_readServer c) fun sv => ?_
  split
  · exact .pure _
  · refine .skip (keeps_readState _) fun st => ?_
    split
    · exact .pure _
    · refine .read fun w => .ite (fun _ => ?_) fun _ => .pure _
      refine .skip (keeps_getChannel _) fun channel => ?_
      cases channel with
      | none => exact .pure _
      | some r => exact modifyChannel r _

theorem settlementBroadcastDone (tx : Transaction) (s : StateRef) (success : Bool) :
    Within R (settlementBroadcastDone p tx s success) := by
  refine .ite (fun _ => .bind (modifyState s fun _ => rfl) fun _ => ?_) fun _ =>
    .bind (modifyState s fun _ => rfl) fun _ => ?_
  · refine .skip (keeps_readState s) fun st => .ite (fun _ => ?_) fun _ => .pure _
    exact .bind (modifyState s fun _ => rfl) fun _ => .forM _ fun cb =>
      modifyServer cb.1 fun _ => rfl
  · refine .skip (keeps_readState s) fun st => .ite (fun _ => ?_) fun _ => .pure _
    exact .bind (modifyState s fun _ => rfl) fun _ => .forM _ fun cb =>
      .tryCatch (destroyConnection cb.1 cb.2) fun _ => .pure _

theorem autoClose (r : ChannelRef) : Within R (autoClose p env r) := by
  intro w
  simp only [Channels.autoClose, wp_bind, wp_get]
  split
  · rw [wp_bind, wp_set]
    refine Within.after (.tryCatch (closeChannel r) fun _ => ?_)
      (hR.rest w _ ⟨rfl, rfl, rfl, rfl, rfl⟩)
    exact rested fun _ => ⟨rfl, rfl, rfl, rfl, rfl⟩
  · exact refl_of R w

end Frame

/-! ## Connections that come and go -/

/-- `R` looks at the states, the broadcasts and the history only. -/
class FullFrame (R : World → World → Prop) : Prop extends Frame R where
  others : ∀ w w' : World, w'.states = w.states → w'.broadcasts = w.broadcasts →
    (w'.trace = w.trace ∨ ∃ e : Event, e.credit = none ∧ w'.trace = e :: w.trace) → R w w'
  rest w w' h := others w w' h.states h.broadcasts (.inl h.trace)
  noted w e he _ := others w _ rfl rfl (.inr ⟨e, he, rfl⟩)
  served w _ _ _ := others w _ rfl rfl (.inl rfl)
  stepped w _ _ _ := others w _ rfl rfl (.inl rfl)
  unwatched w a c := others w _ rfl rfl (.inr ⟨.unwatched a c, rfl, rfl⟩)

namespace FullFrame

variable {p : Platform} {env : Env} {R : World → World → Prop} [hR : FullFrame R]

theorem modifyServer (c : ConnRef) (f : PaymentChannelServer → PaymentChannelServer) :
    Within R (modifyServer c f) :=
  .modify fun w => hR.others w _ rfl rfl (.inl rfl)

theorem setStep (c : ConnRef) (step : InitStep) : Within R (setStep c step) :=
  .bind (modifyServer c _) fun _ => Frame.note rfl rfl

theorem watchAddress (address : Address) (c : ConnRef) : Within R (watchAddress p address c) := by
  refine .read fun w => ?_
  have hput : Within R (putAddress address c) :=
    fun w => hR.others w _ rfl rfl (.inr ⟨.watched address c, rfl, rfl⟩)
  split
  · exact .ite (fun _ => .bind hput fun _ => .of_same keeps_saveNow) fun _ => .pure _
  · exact .skip keeps_saveNow fun _ => hput

theorem offerChannel (c : ConnRef) (version : ClientVersion) :
    Within R (offerChannel p env c version) := by
  refine .bind (Frame.setExpireTime c _ _) fun _ => .skip (keeps_readServer c) fun sv => ?_
  refine .skip (keeps_nonNull _) fun client => .bind (Frame.sendToClient c _) fun _ => ?_
  refine .ite (fun _ => ?_) fun _ => .ite (fun _ => setStep c _) fun _ =>
    .ite (fun _ => ?_) fun _ => .pure _
  · exact .bind (modifyServer c _) fun _ => .skip keeps_saveNow fun _ =>
      .bind (Frame.setExpireTime c _ _) fun _ => Frame.sendInitiate c
  · exact .bind (setStep c _) fun _ => watchAddress _ c

theorem receiveVersionMessage (c : ConnRef) (msg : TwoWayChannelMessage) :
    Within R (receiveVersionMessage p env c msg) := by
  refine .skip (keeps_readServer c) fun sv => .skip (keeps_checkState _) fun _ => ?_
  refine .skip (keeps_nonNull _) fun version => .bind (modifyServer c _) fun _ => ?_
  refine .ite (fun _ => Frame.error c _ _ _) fun _ => .bind (Frame.sendToClient c _) fun _ => ?_
  refine .read fun w => ?_
  split
  · exact Frame.resumeChannel c _ _
  · exact offerChannel c version

theorem receiveFundingAddress (c : ConnRef) (msg : TwoWayChannelMessage) :
    Within R (receiveFundingAddress p env c msg) := by
  refine .skip (keeps_readServer c) fun sv => .skip (keeps_nonNull _) fun client => ?_
  refine .bind (modifyServer c _) fun _ => .skip (keeps_checkState _) fun _ => ?_
  refine .skip (keeps_nonNull _) fun text => .bind (setStep c _) fun _ => ?_
  split
  · exact .throw _
  · refine .bind (modifyServer c _) fun _ => .bind (watchAddress _ c) fun _ => ?_
    exact .skip (keeps_orThrow _) fun funding => .forM _ fun tx => Frame.sendFunding c tx

end FullFrame

/-! ## Reports

Increases are reported by `receiveUpdatePaymentMessage`, which runs at most
once for whatever reaches the server. -/

/-- `S` is `R`, or one report with `R` before and after. -/
class Reporting (R : outParam (World → World → Prop)) (S : World → World → Prop) : Prop
    extends Frame R where
  unreported : ∀ {w t : World}, R w t → S w t
  before : ∀ {u w t : World}, R u w → S w t → S u t
  after : ∀ {u w t : World}, S u w → R w t → S u t
  reported : ∀ (w : World) (c : ConnRef) (s : StateRef) (amount total : Coin),
    S w { w with trace := .credited c s amount total :: w.trace }

namespace Reporting

variable {p : Platform} {env : Env} {R S : World → World → Prop} [hS : Reporting R S]

section Rules

variable {α β : Type} {m n : Method α} {k : α → Method β}

theorem of_frame (h : Within R m) : Within S m := h.mono fun _ _ => hS.unreported

theorem bind (hm : Within R m) (hk : ∀ a, Within S (k a)) : Within S (m >>= k) := by
  intro w
  rw [wp_bind]
  refine wp.mono (hm w) (fun a v hv => ?_) (fun _ _ hv => hS.unreported hv)
  exact wp.mono (hk a v) (fun _ _ ht => hS.before hv ht) (fun _ _ ht => hS.before hv ht)

theorem bind_frame (hm : Within S m) (hk : ∀ a, Within R (k a)) : Within S (m >>= k) := by
  intro w
  rw [wp_bind]
  refine wp.mono (hm w) (fun a v hv => ?_) (fun _ _ hv => hv)
  exact wp.mono (hk a v) (fun _ _ ht => hS.after hv ht) (fun _ _ ht => hS.after hv ht)

theorem tryCatch {handler : JavaException → Method α} (hm : Within S m)
    (hh : ∀ e, Within R (handler e)) : Within S (tryCatch m handler) := by
  intro w
  rw [wp_tryCatch]
  refine wp.mono (hm w) (fun _ _ hv => hv) (fun e v hv => ?_)
  exact wp.mono (hh e v) (fun _ _ ht => hS.after hv ht) (fun _ _ ht => hS.after hv ht)

end Rules

include hS

theorem skip {α β : Type} {m : Method α} {k : α → Method β} (hm : Keeps id m)
    (hk : ∀ a, Within S (k a)) : Within S (m >>= k) :=
  bind (.of_same hm) hk

theorem receiveUpdatePaymentMessage (c : ConnRef) (msg : UpdatePayment) :
    Within S (receiveUpdatePaymentMessage p env c msg) := by
  refine skip (keeps_readServer c) fun sv => ?_
  refine skip (keeps_nonNull _) fun s => ?_
  refine skip (keeps_readState s) fun st => ?_
  refine skip (keeps_orThrow _) fun refundSize => ?_
  refine bind (Frame.incrementPayment s _ _) fun stillUsable => ?_
  refine skip (keeps_readState s) fun st' => ?_
  refine skip (keeps_orThrow _) fun change => ?_
  have hrest : Within R (do
      sendToClient p c (.paymentAck none none none)
      if ¬ stillUsable then settlePayment p env c .channelExhausted) :=
    .bind (Frame.sendToClient c _) fun _ =>
      .ite (fun _ => Frame.settlePayment c _) fun _ => .pure _
  refine .ite (fun _ => ?_) fun _ => of_frame hrest
  refine bind_frame (fun w => (wp_note _).mpr (hS.reported w c s _ _)) fun _ => ?_
  exact .bind (Frame.paymentIncrease c _ _ _) fun _ => hrest

theorem multisigContractPropogated (c : ConnRef) (provided : ProvideContract) (h : Sha256Hash) :
    Within S (multisigContractPropogated p env c provided h) := by
  refine skip (keeps_readServer c) fun sv => ?_
  refine .ite (fun _ => of_frame (.pure _)) fun _ => ?_
  refine skip (keeps_nonNull _) fun s => ?_
  refine bind (Frame.storeChannelInWallet s c) fun _ => ?_
  refine bind (Frame.note rfl rfl) fun _ => ?_
  refine bind_frame (tryCatch ?_ fun e => ?_) fun failure => ?_
  · exact bind_frame (receiveUpdatePaymentMessage c _) fun _ => .pure _
  · exact .ite (fun _ => .pure _) fun _ => .throw _
  · cases failure with
    | some e => exact Frame.error c _ _ _
    | none =>
      exact .bind (Frame.sendToClient c _) fun _ => .bind (Frame.note rfl rfl) fun _ =>
        .bind (Frame.setStep c (by decide)) fun _ => Frame.connChannelOpen c h

theorem contractBroadcastDone (tx : Transaction) (s : StateRef) (c : ConnRef)
    (provided : ProvideContract) (success : Bool) :
    Within S (contractBroadcastDone p env tx s c provided success) := by
  refine tryCatch ?_ fun _ => .pure _
  have hdone (st : State) : Within S (do
      modifyState s fun x => { x with state := st }
      Channels.multisigContractPropogated p env c provided (p.getHash tx)) :=
    bind (Frame.modifyState s fun _ => rfl) fun _ => multisigContractPropogated c provided _
  refine .ite (fun _ => bind ?_ fun _ => hdone .ready) fun _ => hdone .error
  refine .read fun w => .ite (fun _ => ?_) fun _ => .pure _
  exact .bind (Frame.rested fun _ => ⟨rfl, rfl, rfl, rfl, rfl⟩) fun _ =>
    .of_same keeps_saveNow

theorem broadcastDone (b : Nat) (success : Bool) : Within S (broadcastDone p env b success) := by
  intro w
  simp only [Channels.broadcastDone, wp_bind, wp_get, wp_ite, wp_set, wp_pure]
  refine ⟨fun _ => ?_, fun _ => hS.unreported (refl_of R w)⟩
  have hdone {m : Method Unit} (hm : Within S m) :
      wp m (w.complete b) (fun _ t => S w t) (fun _ t => S w t) :=
    wp.mono (hm _) (fun _ _ => hS.before (hS.completed w b)) fun _ _ => hS.before (hS.completed w b)
  cases (w.broadcasts.read b).purpose with
  | contract s c provided => exact hdone (contractBroadcastDone _ s c provided success)
  | settlement s => exact hdone (of_frame (Frame.settlementBroadcastDone _ s success))

/-- The messages by which a connection registers are left to the caller. -/
theorem handleMessage {w : World} {c : ConnRef} {msg : TwoWayChannelMessage}
    (hversion : wp (receiveVersionMessage p env c msg) w (fun _ t => S w t) (fun _ t => S w t))
    (hfunding : wp (receiveFundingAddress p env c msg) w (fun _ t => S w t) (fun _ t => S w t)) :
    wp (handleMessage p env c msg) w (fun _ t => S w t) (fun _ t => S w t) := by
  unfold Channels.handleMessage
  cases msg.type with
  | clientVersion => exact hversion
  | fundingAddress => exact hfunding
  | provideRefund => exact of_frame (Frame.receiveRefundMessage c msg) w
  | provideContract => exact of_frame (Frame.receiveContractMessage c msg) w
  | updatePayment =>
    refine (?_ : Within S _) w
    refine skip (keeps_readServer c) fun sv => ?_
    refine skip (keeps_checkState _) fun _ => ?_
    refine skip (keeps_nonNull _) fun payment => ?_
    refine skip (keeps_nonNull _) fun s => ?_
    exact bind (Frame.note rfl rfl) fun _ => receiveUpdatePaymentMessage c payment
  | close =>
    refine of_frame (.skip (keeps_readServer c) fun sv => .ite (fun _ => ?_) fun _ => ?_) w
    · exact Frame.settlePayment c _
    · exact Frame.destroyConnection c _
  | error =>
    exact of_frame (.skip (keeps_checkState _) fun _ => Frame.destroyConnection c _) w
  | _ =>
    exact of_frame (Frame.error c _ _ _) w

theorem receiveMessage {w : World} {c : ConnRef} {msg : TwoWayChannelMessage}
    (h : (w.servers.read c).connectionOpen = true →
      wp (Channels.handleMessage p env c msg) w (fun _ t => S w t) (fun _ t => S w t)) :
    wp (receiveMessage p env c msg) w (fun _ t => S w t) (fun _ t => S w t) := by
  have hsame : S w w := hS.unreported (refl_of R w)
  unfold Channels.receiveMessage
  rw [wp_bind, wp_readServer, wp_bind, wp_checkState]
  refine ⟨fun hopen => ?_, fun _ => hsame⟩
  rw [wp_ite]
  refine ⟨fun _ => hsame, fun _ => ?_⟩
  rw [wp_tryCatch]
  refine wp.mono (h hopen) (fun _ _ ht => ht) fun e t ht => ?_
  cases answerTo e with
  | some code =>
    exact wp.mono (Frame.error c _ _ _ t) (fun _ _ hu => hS.after ht hu) fun _ _ hu => hS.after ht hu
  | none => exact ht

/-- Whatever reaches the server keeps to `S`. -/
theorem perform [hR : FullFrame R] (i : Input) : Within S (perform p env i) := by
  cases i with
  | newServer size window =>
    refine of_frame (.bind (.skip keeps_saveNow fun _ w => ?_) fun _ => .pure _)
    exact hR.others w _ rfl rfl (.inl rfl)
  | connectionOpen c client =>
    exact of_frame (.read fun w => .ite (fun _ => FullFrame.modifyServer c _) fun _ => .pure _)
  | message c msg =>
    refine .read fun w => .ite (fun _ w => receiveMessage fun _ => ?_) fun _ => of_frame (.pure _)
    exact handleMessage (of_frame (FullFrame.receiveVersionMessage c msg) w)
      (of_frame (FullFrame.receiveFundingAddress c msg) w)
  | funding c tx =>
    exact of_frame (.read fun w => .ite (fun _ => Frame.sendFunding c tx) fun _ => .pure _)
  | broadcastDone b success => exact broadcastDone b success
  | autoClose r => exact of_frame (Frame.autoClose r)
  | connectionClosed c =>
    refine of_frame (.read fun w => .ite (fun _ w => ?_) fun _ => .pure _)
    exact Frame.connectionClosed (hR.others w _ rfl rfl (.inr ⟨.connectionClosed c, rfl, rfl⟩))
  | serverClose c =>
    exact of_frame (.read fun w => .ite (fun _ => Frame.serverClose c) fun _ => .pure _)
  | confidence h confidence =>
    exact of_frame (Frame.rested fun _ => ⟨rfl, rfl, rfl, rfl, rfl⟩)

end Reporting

end BitMesh.Channels
