import BitMesh.Bitcoin.Ideal
import BitMesh.Channels.Fields

/-!
# What the code can do to the world

Every method is a path of small effects. An effect changes what the
properties speak of in one place and carries the facts that were checked
before the change; everything else the code writes is `Quiet`. The
methods are shown to keep to these effects once, and invariants are then
proved effect by effect.
-/

namespace BitMesh.Channels

open BitMesh.Bitcoin BitMesh.Lib

/-! ## Bookkeeping -/

/-- Calls on the connection and its client, which no channel depends on.
PRICE is not one of them: it announces a key and a price. Neither is the
acknowledgement of a macropayment, which is made at that price. -/
def Event.neutral : Event → Bool
  | .sent _ (.price _ _) => false
  | .sent _ (.paymentAck _ (some _) _) => false
  | .sent .. => true
  | .destroyed .. => true
  | .paymentIncrease .. => true
  | .reloadedChannel .. => true
  | .superseded .. => true
  | .watched .. => true
  | .unwatched .. => true
  | _ => false

/-- The events that are not neutral, newest first. -/
def World.history (w : World) : List Event := w.trace.filter fun e => !e.neutral

/-- What matters of a connection's server. -/
def PaymentChannelServer.core (sv : PaymentChannelServer) : PaymentChannelServer :=
  { sv with
    channelSettling := false
    fundingAddress := none
    client := sv.client.map fun config => { config with negotiatedPrice := 0 }
    finalTransaction := none
    numFundingSent := 0
    clientVersion := none
    totalSent := 0 }

/-- What matters of a channel's state: all but the future of its closing. -/
def PaymentChannelServerState.core (st : PaymentChannelServerState) :
    PaymentChannelServerState :=
  { st with closedFuture := .pending, closeCallbacks := [] }

/-- Bookkeeping: the channels, their states and the handshakes are as
before, and nothing but amounts of client outputs was set. -/
structure Quiet (w w' : World) : Prop where
  serversNext : w'.servers.next = w.servers.next
  servers : ∀ c, (w'.servers.read c).core = (w.servers.read c).core
  statesNext : w'.states.next = w.states.next
  states : ∀ s, (w'.states.read s).core = (w.states.read s).core
  channels : w'.channels = w.channels
  outputsNext : w'.outputs.next = w.outputs.next
  outputs : ∀ o, (w.outputs.read o).Revalued (w'.outputs.read o)
  broadcasts : w'.broadcasts = w.broadcasts
  mapChannels : w'.mapChannels = w.mapChannels
  installed : w.extensionInstalled = true → w'.extensionInstalled = true
  history : w'.history = w.history

namespace Quiet

theorem refl (w : World) : Quiet w w :=
  ⟨rfl, fun _ => rfl, rfl, fun _ => rfl, rfl, rfl, fun _ => .inl rfl, rfl, rfl, id, rfl⟩

theorem trans {w₁ w₂ w₃ : World} (h : Quiet w₁ w₂) (h' : Quiet w₂ w₃) : Quiet w₁ w₃ where
  serversNext := h'.serversNext.trans h.serversNext
  servers c := (h'.servers c).trans (h.servers c)
  statesNext := h'.statesNext.trans h.statesNext
  states s := (h'.states s).trans (h.states s)
  channels := h'.channels.trans h.channels
  outputsNext := h'.outputsNext.trans h.outputsNext
  outputs o := (h.outputs o).trans (h'.outputs o)
  broadcasts := h'.broadcasts.trans h.broadcasts
  mapChannels := h'.mapChannels.trans h.mapChannels
  installed := h'.installed ∘ h.installed
  history := h'.history.trans h.history

/-- A change to fields of the world that hold no channel. -/
theorem of_eq {w w' : World} (hsv : w'.servers = w.servers) (hst : w'.states = w.states)
    (hch : w'.channels = w.channels) (ho : w'.outputs = w.outputs)
    (hb : w'.broadcasts = w.broadcasts) (hm : w'.mapChannels = w.mapChannels)
    (hext : w.extensionInstalled = true → w'.extensionInstalled = true)
    (ht : w'.trace = w.trace) : Quiet w w' := by
  refine ⟨by rw [hsv], fun _ => by rw [hsv], by rw [hst], fun _ => by rw [hst], hch,
    by rw [ho], fun _ => .inl (by rw [ho]), hb, hm, hext, ?_⟩
  unfold World.history
  rw [ht]

theorem note (w : World) {e : Event} (he : e.neutral = true) :
    Quiet w { w with trace := e :: w.trace } := by
  refine { refl w with history := ?_ }
  simp [World.history, he]

theorem server (w : World) (c : ConnRef) {f : PaymentChannelServer → PaymentChannelServer}
    (hf : (f (w.servers.read c)).core = (w.servers.read c).core) :
    Quiet w { w with servers := w.servers.modify c f } := by
  refine { refl w with serversNext := Heap.next_modify .., servers := fun c' => ?_ }
  by_cases h : c' = c
  · subst h; simpa using hf
  · simp [Heap.read_modify_ne _ _ h]

theorem state (w : World) (s : StateRef)
    {f : PaymentChannelServerState → PaymentChannelServerState}
    (hf : (f (w.states.read s)).core = (w.states.read s).core) :
    Quiet w { w with states := w.states.modify s f } := by
  refine { refl w with statesNext := Heap.next_modify .., states := fun s' => ?_ }
  by_cases h : s' = s
  · subst h; simpa using hf
  · simp [Heap.read_modify_ne _ _ h]

section Fields

variable {w w' : World} (h : Quiet w w')
include h

/-- What can be read off the core of a server is as before. -/
theorem server_field {α : Type} (c : ConnRef) (f : PaymentChannelServer → α)
    (hf : ∀ sv, f sv.core = f sv) : f (w'.servers.read c) = f (w.servers.read c) := by
  rw [← hf, h.servers c, hf]

/-- What can be read off the core of a state is as before. -/
theorem state_field {α : Type} (s : StateRef) (f : PaymentChannelServerState → α)
    (hf : ∀ st, f st.core = f st) : f (w'.states.read s) = f (w.states.read s) := by
  rw [← hf, h.states s, hf]

theorem scripts (o : OutputRef) : (w'.outputs.read o).script = (w.outputs.read o).script :=
  (h.outputs o).script

theorem step (c : ConnRef) : (w'.servers.read c).step = (w.servers.read c).step :=
  h.server_field c (·.step) fun _ => rfl

theorem serverState (c : ConnRef) : (w'.servers.read c).state = (w.servers.read c).state :=
  h.server_field c (·.state) fun _ => rfl

theorem connectionOpen (c : ConnRef) :
    (w'.servers.read c).connectionOpen = (w.servers.read c).connectionOpen :=
  h.server_field c (·.connectionOpen) fun _ => rfl

theorem myKey (c : ConnRef) : (w'.servers.read c).myKey = (w.servers.read c).myKey :=
  h.server_field c (·.myKey) fun _ => rfl

theorem maxPrice (c : ConnRef) : (w'.servers.read c).client.map (·.maxPrice) =
    (w.servers.read c).client.map (·.maxPrice) :=
  h.server_field c (·.client.map (·.maxPrice)) fun sv => by
    simp [PaymentChannelServer.core, Function.comp_def]

theorem state_eq (s : StateRef) : (w'.states.read s).state = (w.states.read s).state :=
  h.state_field s (·.state) fun _ => rfl

theorem stored (s : StateRef) :
    (w'.states.read s).storedServerChannel = (w.states.read s).storedServerChannel :=
  h.state_field s (·.storedServerChannel) fun _ => rfl

theorem best (s : StateRef) :
    (w'.states.read s).bestValueToMe = (w.states.read s).bestValueToMe :=
  h.state_field s (·.bestValueToMe) fun _ => rfl

theorem signature (s : StateRef) :
    (w'.states.read s).bestValueSignature = (w.states.read s).bestValueSignature :=
  h.state_field s (·.bestValueSignature) fun _ => rfl

theorem contract (s : StateRef) :
    (w'.states.read s).multisigContract = (w.states.read s).multisigContract :=
  h.state_field s (·.multisigContract) fun _ => rfl

theorem totalValue (s : StateRef) :
    (w'.states.read s).totalValue = (w.states.read s).totalValue :=
  h.state_field s (·.totalValue) fun _ => rfl

theorem clientOutput (s : StateRef) :
    (w'.states.read s).clientOutput = (w.states.read s).clientOutput :=
  h.state_field s (·.clientOutput) fun _ => rfl

theorem serverKey (s : StateRef) :
    (w'.states.read s).serverKey = (w.states.read s).serverKey :=
  h.state_field s (·.serverKey) fun _ => rfl

theorem unlock (s : StateRef) : (w'.states.read s).refundTransactionUnlockTimeSecs =
    (w.states.read s).refundTransactionUnlockTimeSecs :=
  h.state_field s (·.refundTransactionUnlockTimeSecs) fun _ => rfl

end Fields

/-- An event that matters is in the history before and after. -/
theorem mem_trace {w w' : World} (h : Quiet w w') {e : Event} (he : e.neutral = false) :
    e ∈ w'.trace ↔ e ∈ w.trace := by
  have hh : e ∈ w'.history ↔ e ∈ w.history := by rw [h.history]
  simpa [World.history, he] using hh

end Quiet

/-! ## Payments and settlements -/

/-- The unsigned transaction of `makeUnsignedChannelContract`: it returns
`change` to the client's script, or nothing when there is none left. -/
def channelTx (p : Platform) (contract : Transaction) (change : Coin) (clientScript : Script) :
    Transaction where
  version := 1
  inputs := [TransactionInput.spending (p.getHash contract) 0]
  outputs := if change = Coin.zero then [] else [⟨change.value, clientScript⟩]
  lockTime := 0

/-- The hash type a client signs a payment with. -/
def paymentMode (change : Coin) : SigHash :=
  if change = Coin.zero then .none else .single

/-- What `incrementPayment` has checked when it accepts. -/
structure Payment (p : Platform) (w : World) (s : StateRef) where
  contract : Transaction
  totalValue : Coin
  clientOutput : OutputRef
  clientKey : ECKey
  refundSize : Coin
  newValueToMe : Coin
  signatureBytes : Bytes
  signature : TransactionSignature
  ready : (w.states.read s).state = .ready
  contract_eq : (w.states.read s).multisigContract = some contract
  totalValue_eq : (w.states.read s).totalValue = some totalValue
  clientOutput_eq : (w.states.read s).clientOutput = some clientOutput
  clientKey_eq : (w.states.read s).clientKey = some clientKey
  value : newValueToMe.value = totalValue.value - refundSize.value
  notDust : refundSize = Coin.zero ∨
    (w.outputs.read clientOutput).getMinNonDustValue ≤ refundSize.value
  nonneg : 0 ≤ newValueToMe.value
  increase : (w.states.read s).bestValueToMe.value ≤ newValueToMe.value
  decodes : p.decodeFromBitcoin signatureBytes = .ok signature
  mode : signature.sigHashMode = paymentMode refundSize
  anyoneCanPay : signature.anyoneCanPay = true
  verifies : p.verify clientKey.pub
    ((channelTx p contract refundSize (w.outputs.read clientOutput).script).hashForSignature
      p.toBitcoinj 0 (createMultiSigOutputScript clientKey (w.states.read s).serverKey)
      (paymentMode refundSize) true) signature.rs = true

/-- The world once a payment is accepted: the state and its record. -/
def World.accept (w : World) (s : StateRef) (h : Sha256Hash) (v : Coin) (sig : Bytes) :
    World :=
  { w with
    states := w.states.modify s fun st =>
      { st with bestValueToMe := v, bestValueSignature := some sig }
    channels := match (w.states.read s).storedServerChannel with
      | none => w.channels
      | some r => w.channels.modify r fun ch =>
          { ch with bestValueToMe := v, bestValueSignature := some sig }
    trace := .accepted s h v :: w.trace }

/-- The settlement of a state: its input spends the contract, the client
gets the change and the server what is left after the fee. -/
structure Settlement (p : Platform) (env : Env) (w : World) (s : StateRef) (b : Coin)
    (tx : Transaction) where
  contract : Transaction
  totalValue : Coin
  change : Coin
  contract_eq : (w.states.read s).multisigContract = some contract
  totalValue_eq : (w.states.read s).totalValue = some totalValue
  change_value : change.value =
    totalValue.value - (w.states.read s).bestValueToMe.value
  b_value : b.value =
    (w.states.read s).bestValueToMe.value - Coin.referenceDefaultMinTxFee.value
  worth : Coin.referenceDefaultMinTxFee.value < b.value
  input : ∃ scriptSig, tx.inputs =
    [{ TransactionInput.spending (p.getHash contract) 0 with scriptSig := scriptSig }]
  outputs : ∃ clientScript,
    (change ≠ Coin.zero → ∃ o, (w.states.read s).clientOutput = some o ∧
      clientScript = (w.outputs.read o).script) ∧
    tx.outputs = (channelTx p contract change clientScript).outputs
      ++ [⟨b.value, env.changeScript⟩]

/-- The world with a state made from the record `r`. -/
def World.restore (w : World) (r : ChannelRef) (totalValue : Coin) : World :=
  { w with
    states := (w.states.alloc {
      state := .ready
      serverKey := (w.channels.read r).myKey
      multisigContract := some (w.channels.read r).contract
      totalValue := some totalValue
      bestValueToMe := (w.channels.read r).bestValueToMe
      bestValueSignature := (w.channels.read r).bestValueSignature
      clientOutput := some (w.channels.read r).clientOutput
      refundTransactionUnlockTimeSecs := (w.channels.read r).refundTransactionUnlockTimeSecs
      storedServerChannel := some r }).2
    channels := w.channels.modify r fun ch => { ch with state := some w.states.next } }

/-! ## Closing -/

/-- What `settle` does. -/
inductive Settling (p : Platform) (env : Env) : World → World → Prop where
  | quiet {w w' : World} (h : Quiet w w') : Settling p env w w'
  /-- The fee is deducted and it stops there, because too little is left
  or because an exception came in between. -/
  | deducted (w : World) (s : StateRef) (b : Coin)
      (hcalled : .closeCalled s ∈ w.trace)
      (hready : (w.states.read s).state = .ready)
      (hs : (w.states.read s).storedServerChannel = none)
      (hb : b.value =
        (w.states.read s).bestValueToMe.value - Coin.referenceDefaultMinTxFee.value)
      (why : b.value ≤ Coin.referenceDefaultMinTxFee.value ∨
        ∃ e w', (makeSettlement p env s).run w = .error e w') :
      Settling p env w
        { w with states := w.states.modify s fun st => { st with bestValueToMe := b } }
  /-- The settlement is broadcast. -/
  | settled (w : World) (s : StateRef) (b : Coin) (tx : Transaction)
      (hcalled : .closeCalled s ∈ w.trace)
      (hready : (w.states.read s).state = .ready)
      (hs : (w.states.read s).storedServerChannel = none)
      (settlement : Settlement p env w s b tx) :
      Settling p env w
        { w with
          states := w.states.modify s fun st =>
            { st with bestValueToMe := b, state := .closing }
          broadcasts := (w.broadcasts.alloc { tx := tx, purpose := .settlement s }).2 }
  /-- The channel was not open yet. -/
  | closedEarly (w : World) (s : StateRef)
      (hcalled : .closeCalled s ∈ w.trace)
      (hs : (w.states.read s).state.ordinal < State.ready.ordinal) :
      Settling p env w
        { w with states := w.states.modify s fun st => { st with state := .closed } }

/-- What `close` and `closeChannel` do. -/
inductive Closing (p : Platform) (env : Env) : World → World → Prop where
  | settling {w w' : World} (h : Settling p env w w') : Closing p env w w'
  /-- `close` is entered. -/
  | called (w : World) (s : StateRef) :
      Closing p env w { w with trace := .closeCalled s :: w.trace }
  /-- `close` gives up the record, which is no longer in the map. -/
  | untied (w : World) (s : StateRef) (r : ChannelRef)
      (hcalled : .closeCalled s ∈ w.trace)
      (hs : (w.states.read s).storedServerChannel = some r)
      (hm : w.mapChannels.lookup (p.getHash (w.channels.read r).contract) = none) :
      Closing p env w
        { w with states := w.states.modify s fun st => { st with storedServerChannel := none } }
  /-- `close` gives up the record and takes its contract out of the map. -/
  | untiedRemoved (w : World) (s : StateRef) (r : ChannelRef)
      (hcalled : .closeCalled s ∈ w.trace)
      (hs : (w.states.read s).storedServerChannel = some r)
      (hm : (w.mapChannels.lookup (p.getHash (w.channels.read r).contract)).isSome) :
      Closing p env w
        { w with
          states := w.states.modify s fun st => { st with storedServerChannel := none }
          mapChannels := w.mapChannels.erase (p.getHash (w.channels.read r).contract)
          trace := .removed (p.getHash (w.channels.read r).contract) :: w.trace }
  /-- `closeChannel` takes a contract out of the map. -/
  | removed (w : World) (r : ChannelRef)
      (hm : (w.mapChannels.lookup (p.getHash (w.channels.read r).contract)).isSome) :
      Closing p env w
        { w with
          mapChannels := w.mapChannels.erase (p.getHash (w.channels.read r).contract)
          trace := .removed (p.getHash (w.channels.read r).contract) :: w.trace }
  /-- A state is made from a record that had none. -/
  | restored (w : World) (r : ChannelRef) (totalValue : Coin)
      (hr : (w.channels.read r).state = none)
      (ht : ∃ output, (w.channels.read r).contract.output0 = .ok output ∧
        output.getValue = .ok totalValue) :
      Closing p env w (w.restore r totalValue)
  /-- `closeChannel` drops the state of a record that no state holds. -/
  | forgotten (w : World) (r : ChannelRef)
      (hm : w.mapChannels.lookup (p.getHash (w.channels.read r).contract) = none)
      (hr : ∀ s, (w.channels.read r).state = some s →
        (w.states.read s).storedServerChannel = none) :
      Closing p env w
        { w with channels := w.channels.modify r fun ch => { ch with state := none } }

/-! ## Everything else

The effects of an action depend on the action and on the world it started
in, so that a condition on a step can be carried to the effects it has. -/

/-- The completion of the contract broadcast `b` of the connection `c` is
what is going on. -/
structure Completing (start : World) (a : Env × Action) (b : Nat) (success : Bool)
    (s : StateRef) (c : ConnRef) (provided : ProvideContract) : Prop where
  input : a.2 = .input (.broadcastDone b success)
  allocated : b < start.broadcasts.next
  pending : (start.broadcasts.read b).completed = false
  purpose : (start.broadcasts.read b).purpose = .contract s c provided

/-- `c` resumes the stored channel `r` with contract hash `h`. -/
structure Resuming (start : World) (a : Env × Action) (c : ConnRef) (h : Sha256Hash)
    (r : ChannelRef) : Prop where
  input : ∃ msg version, a.2 = .input (.message c msg) ∧ msg.type = .clientVersion ∧
    msg.clientVersion = some version ∧ version.previousChannelContractHash = h.bytes
  lookup : start.mapChannels.lookup h = some r
  step : (start.servers.read c).step = .waitingOnClientVersion
  connected : (start.servers.read c).connectionOpen = true

/-- The record that `connectionClosed` finds for the contract of the
connection's state, whoever handles it. -/
def World.handled (p : Platform) (w : World) (c : ConnRef) : Option ChannelRef := do
  let s ← (w.servers.read c).state
  let contract ← (w.states.read s).multisigContract
  if w.extensionInstalled then w.mapChannels.lookup (p.getHash contract) else none

/-- The world after `connectionClosed`. -/
def World.disconnect (p : Platform) (w : World) (c : ConnRef) : World :=
  { w with
    servers := w.servers.modify c fun sv => { sv with connectionOpen := false }
    channels := match w.handled p c with
      | none => w.channels
      | some r => w.channels.modify r fun ch => { ch with connectedHandler := none }
    trace := .connectionClosed c :: w.trace }

/-- The ways a connection gets to CHANNEL_OPEN with the state `s`, and the
hash it reports. -/
inductive Opening (p : Platform) (start : World) (a : Env × Action) (w : World) (c : ConnRef)
    (s : StateRef) : Sha256Hash → Prop where
  | resumed (h : Sha256Hash) (r : ChannelRef) (hres : Resuming start a c h r)
      (hm : w.mapChannels.lookup h = some r) (hr : (w.channels.read r).state = some s)
      (hc : (w.servers.read c).state = some s) : Opening p start a w c s h
  | propagated (b : Nat) (success : Bool) (s' : StateRef) (provided : ProvideContract)
      (hb : Completing start a b success s' c provided)
      (hc : (w.servers.read c).state = some s) (hstart : (start.servers.read c).state = some s)
      (hs : .channelStored s ∈ w.trace) :
      Opening p start a w c s (p.getHash (start.broadcasts.read b).tx)

/-- The assignments to `step`. -/
inductive Stepping (p : Platform) (start : World) (a : Env × Action) (w : World)
    (c : ConnRef) : InitStep → Prop where
  | version (st : InitStep) (hst : st ≠ .channelOpen) (hc : c < w.servers.next)
      (hw : (w.servers.read c).step = .waitingOnClientVersion) : Stepping p start a w c st
  | fundingAddress (hw : (w.servers.read c).step = .waitingOnFundingAddress) :
      Stepping p start a w c .waitingOnUnsignedRefund
  | initiateAgain (hw : (w.servers.read c).step = .waitingOnUnsignedRefund) :
      Stepping p start a w c .waitingOnUnsignedRefund
  | funding (tx : Transaction) (version : ClientVersion) (ha : a.2 = .input (.funding c tx))
      (hv : (start.servers.read c).clientVersion = some version)
      (hminor : version.minor = browserMicropaymentsMinorVersion)
      (hnum : incInt (start.servers.read c).numFundingSent < 2) (hc : c < w.servers.next)
      (hw : (w.servers.read c).step = (start.servers.read c).step) :
      Stepping p start a w c .waitingOnUnsignedRefund
  | refund (msg : TwoWayChannelMessage) (ha : a.2 = .input (.message c msg))
      (hty : msg.type = .provideRefund) (hc : c < w.servers.next)
      (hw : (w.servers.read c).step = (start.servers.read c).step) :
      Stepping p start a w c .waitingOnContract
  | contract (hw : (w.servers.read c).step = .waitingOnContract) :
      Stepping p start a w c .waitingOnMultisigAcceptance
  | opening (s : StateRef) (h : Sha256Hash) (hs : Opening p start a w c s h)
      (hw : (w.servers.read c).step = (start.servers.read c).step) :
      Stepping p start a w c .channelOpen

/-- `msg` makes the server negotiate a new channel with an app. -/
structure AppVersion (w : World) (c : ConnRef) (msg : TwoWayChannelMessage)
    (version : ClientVersion) : Prop where
  type : msg.type = .clientVersion
  version_eq : msg.clientVersion = some version
  major : version.major = serverMajorVersion
  minor : version.minor = appMinorVersion
  step : (w.servers.read c).step = .waitingOnClientVersion
  unknown : resumedChannel w version = none

/-- The events that name a key of the server or its price. -/
inductive Keying (w : World) : Event → Prop where
  | announced (c : ConnRef) (price : Int) (hc : c < w.servers.next)
      (hprice : (w.servers.read c).client.map (·.maxPrice) = some price) :
      Keying w (.sent c (.price price (w.servers.read c).myKey.pub))
  | acknowledged (c : ConnRef) (price amountSpent : Int) (hc : c < w.servers.next)
      (hprice : (w.servers.read c).client.map (·.maxPrice) = some price) :
      Keying w (.sent c (.paymentAck none (some amountSpent) (some (amountSpent.tdiv price))))
  | used (c : ConnRef) (s : StateRef) (hc : (w.servers.read c).state = some s)
      (hs : (w.states.read s).state = .waitingForMultisigContract) :
      Keying w (.keyUsed c (w.states.read s).serverKey.pub)

/-- The refund transaction of the message that `c` is handling. -/
def RefundOf (p : Platform) (a : Env × Action) (c : ConnRef) (tx : Transaction) : Prop :=
  ∃ msg provided, a.2 = .input (.message c msg) ∧ msg.type = .provideRefund ∧
    msg.provideRefund = some provided ∧ p.parseTransaction provided.tx = .ok tx

/-- The contract of the message that `c` is handling. -/
def ContractOf (p : Platform) (a : Env × Action) (c : ConnRef) (provided : ProvideContract)
    (tx : Transaction) : Prop :=
  ∃ msg, a.2 = .input (.message c msg) ∧ msg.type = .provideContract ∧
    msg.provideContract = some provided ∧ p.parseTransaction provided.tx = .ok tx

/-- The refund of the state `s` passed its checks and is signed. -/
structure Signing (p : Platform) (a : Env × Action) (w : World) (c : ConnRef) (s : StateRef)
    (tx : Transaction) : Prop where
  state_eq : (w.states.read s).state = .waitingForRefundTransaction
  message : RefundOf p a c tx
  serverState : (w.servers.read c).state = some s
  unlock : (w.states.read s).refundTransactionUnlockTimeSecs = tx.lockTime.toNat
  minExpire : (w.states.read s).minExpireTime ≤ tx.lockTime.toNat
  keys : ∃ clientKey, (w.states.read s).clientKey = some clientKey ∧
    (w.states.read s).redeemScript =
      some (createMultiSigOutputScript clientKey (w.states.read s).serverKey)

/-- The contract of the state `s` passed its checks and is broadcast. -/
structure Offering (p : Platform) (a : Env × Action) (w : World) (c : ConnRef) (s : StateRef)
    (provided : ProvideContract) (tx : Transaction) : Prop where
  state_eq : (w.states.read s).state = .waitingForMultisigContract
  serverState : (w.servers.read c).state = some s
  step : (w.servers.read c).step = .waitingOnMultisigAcceptance
  message : ContractOf p a c provided tx
  verified : tx.verify p.toBitcoinj = .ok ()
  contract_eq : (w.states.read s).multisigContract = some tx
  locked : ∃ output v clientKey, tx.output0 = .ok output ∧ output.getValue = .ok v ∧
    (w.states.read s).totalValue = some v ∧ 0 < v.value ∧
    p.scriptError output.script.program = none ∧
    (w.states.read s).clientKey = some clientKey ∧
    output.script = createP2SHOutputScript p.toBitcoinj
      (createMultiSigOutputScript clientKey (w.states.read s).serverKey)

/-- How a payment reaches a state: through an open channel's connection,
as the initial payment of a channel just stored, or by a direct call. -/
def PaidThrough (a : Env × Action) (w : World) (s : StateRef) : Prop :=
  (∃ c, (w.servers.read c).step = .channelOpen ∧ (w.servers.read c).state = some s) ∨
    .channelStored s ∈ w.trace ∨
    ∃ refundSize signature, a.2 = .incrementPayment s refundSize signature

/-- The completion of a contract's broadcast stores the channel of the
state `s`, which need not be the one whose contract was broadcast. -/
structure Storing (start : World) (a : Env × Action) (w : World) (c : ConnRef) (s : StateRef)
    (contract : Transaction) (clientOutput : OutputRef) : Prop where
  completing : ∃ b success s' provided, Completing start a b success s' c provided
  ready : (w.states.read s).state = .ready
  free : (w.states.read s).storedServerChannel = none
  contract_eq : (w.states.read s).multisigContract = some contract
  output : (w.states.read s).clientOutput = some clientOutput
  connected : (w.servers.read c).connectionOpen = true
  state : (w.servers.read c).state = some s
  startState : (start.servers.read c).state = some s
  startFree : (start.states.read s).storedServerChannel = none
  startContract : (start.states.read s).multisigContract = some contract
  startConnected : (start.servers.read c).connectionOpen = true
  history : w.history = start.history

/-- The world with a record made for the state `s` and put into the map. -/
def World.store (p : Platform) (w : World) (s : StateRef) (c : ConnRef) (contract : Transaction)
    (clientOutput : OutputRef) : World :=
  { w with
    channels := (w.channels.alloc {
      contract := contract
      clientOutput := clientOutput
      refundTransactionUnlockTimeSecs := (w.states.read s).refundTransactionUnlockTimeSecs
      myKey := (w.states.read s).serverKey
      bestValueToMe := (w.states.read s).bestValueToMe
      bestValueSignature := (w.states.read s).bestValueSignature
      state := some s
      connectedHandler := some c }).2
    states := w.states.modify s fun st =>
      { st with storedServerChannel := some w.channels.next }
    mapChannels := w.mapChannels.insert (p.getHash contract) w.channels.next
    trace := .stored (p.getHash contract) w.channels.next :: .driven c w.channels.next :: w.trace }

/-- The completion of a contract's broadcast sends CHANNEL_OPEN for the
state `s`, after the initial payment of `v`. -/
structure Announcing (start : World) (a : Env × Action) (w : World) (c : ConnRef) (s : StateRef)
    (provided : ProvideContract) (totalValue v : Coin) : Prop where
  completing : ∃ b success s', Completing start a b success s' c provided
  state : (w.servers.read c).state = some s
  startState : (start.servers.read c).state = some s
  stored : .channelStored s ∈ w.trace
  total : (start.states.read s).totalValue = some totalValue
  paid : ∃ h, .accepted s h v ∈ w.trace
  value : v.value = totalValue.value - provided.initialPayment.clientChangeValue

/-- The state of the connection accepted a payment of more than it had. -/
structure Crediting (start w : World) (c : ConnRef) (s : StateRef) (amount : Coin) : Prop where
  state : (w.servers.read c).state = some s
  amount_value : amount.value =
    (w.states.read s).bestValueToMe.value - (start.states.read s).bestValueToMe.value
  positive : 0 < amount.value
  accepted : ∃ h, .accepted s h (w.states.read s).bestValueToMe ∈ w.trace

/-- The world in which the callbacks of a completed broadcast run. -/
def World.complete (w : World) (b : Nat) : World :=
  { w with broadcasts := w.broadcasts.modify b ({ · with completed := true }) }

/-- What a step of the system does. -/
inductive Effect (p : Platform) (start : World) (a : Env × Action) : World → World → Prop where
  | closing {w w' : World} (h : Closing p a.1 w w') : Effect p start a w w'
  | accepted (w : World) (s : StateRef) (pay : Payment p w s) (hpaid : PaidThrough a w s) :
      Effect p start a w
        (w.accept s (p.getHash pay.contract) pay.newValueToMe pay.signatureBytes)
  /-- A connection gets its server. -/
  | serverAdded (w : World) (minAcceptedChannelSize : Coin) (window : TimeWindow) (key : Bytes)
      (ha : a.2 = .input (.newServer minAcceptedChannelSize window)) :
      Effect p start a w
        { w with servers := (w.servers.alloc {
            minAcceptedChannelSize := minAcceptedChannelSize
            window := window
            myKey := ECKey.fromPrivate p.toBitcoinj key
            myAddress := p.toAddress (ECKey.fromPrivate p.toBitcoinj key).pub }).2 }
  | connectionOpened (w : World) (c : ConnRef) (client : ClientConfig)
      (ha : a.2 = .input (.connectionOpen c client)) (hlt : c < w.servers.next)
      (hc : (w.servers.read c).client.isSome = false) :
      Effect p start a w
        { w with servers := w.servers.modify c fun sv =>
            { sv with client := some client, connectionOpen := true } }
  | connectionClosed (w : World) (c : ConnRef) (ha : a.2 = .input (.connectionClosed c))
      (hlt : c < w.servers.next) (hw : w = start) :
      Effect p start a w (w.disconnect p c)
  | keyChanged (w : World) (c : ConnRef) (msg : TwoWayChannelMessage) (version : ClientVersion)
      (ha : a.2 = .input (.message c msg)) (hv : AppVersion start c msg version)
      (hkey : (w.servers.read c).myKey = (start.servers.read c).myKey) :
      Effect p start a w
        { w with servers := w.servers.modify c fun sv =>
            { sv with myKey := ECKey.fromPrivate p.toBitcoinj a.1.freshKey } }
  | keyNoted (w : World) (e : Event) (he : Keying w e) :
      Effect p start a w { w with trace := e :: w.trace }
  | expirySet (w : World) (c : ConnRef) (msg : TwoWayChannelMessage) (version : ClientVersion)
      (now : Int) (ha : a.2 = .input (.message c msg)) (hv : msg.clientVersion = some version)
      (hnow : now = a.1.now ∨ now = a.1.later) (hc : c < w.servers.next) :
      Effect p start a w
        { w with
          servers := w.servers.modify c fun sv =>
            { sv with expireTime := addLong now (sv.window.truncate version.timeWindowSecs) }
          trace := .expirySet c now :: w.trace }
  | stepped (w : World) (c : ConnRef) (st : InitStep) (hst : Stepping p start a w c st) :
      Effect p start a w
        { w with
          servers := w.servers.modify c fun sv => { sv with step := st }
          trace := .stepped c st :: w.trace }
  /-- `receiveRefundMessage` makes a new state, whatever the step. -/
  | refundStarted (w : World) (c : ConnRef) (msg : TwoWayChannelMessage)
      (ha : a.2 = .input (.message c msg)) (hty : msg.type = .provideRefund)
      (hc : c < w.servers.next) (hopen : (w.servers.read c).connectionOpen = true)
      (hw : w = start) :
      Effect p start a w
        { w with
          states := (w.states.alloc {
            state := .waitingForRefundTransaction
            serverKey := (w.servers.read c).myKey
            minExpireTime := (w.servers.read c).expireTime }).2
          servers := w.servers.modify c fun sv => { sv with state := some w.states.next } }
  | unlockSet (w : World) (c : ConnRef) (s : StateRef) (tx : Transaction)
      (hs : (w.states.read s).state = .waitingForRefundTransaction) (htx : RefundOf p a c tx) :
      Effect p start a w
        { w with states := w.states.modify s fun st =>
            { st with refundTransactionUnlockTimeSecs := tx.lockTime.toNat } }
  | keysSet (w : World) (s : StateRef) (pub : Bytes)
      (hs : (w.states.read s).state = .waitingForRefundTransaction)
      (hpub : pub.length ≤ maxMessageSize) :
      Effect p start a w
        { w with states := w.states.modify s fun st =>
            { st with
              clientKey := some (ECKey.fromPublicOnly pub)
              redeemScript := some (createMultiSigOutputScript (ECKey.fromPublicOnly pub)
                (w.states.read s).serverKey) } }
  | refundSigned (w : World) (c : ConnRef) (s : StateRef) (tx : Transaction)
      (output : TransactionOutput) (hs : Signing p a w c s tx)
      (houtput : Received p.toBitcoinj output) :
      Effect p start a w
        { w with
          outputs := (w.outputs.alloc output).2
          states := w.states.modify s fun st =>
            { st with
              clientOutput := some w.outputs.next
              state := .waitingForMultisigContract }
          trace := .refundSigned s tx.lockTime.toNat :: w.trace }
  | contractGiven (w : World) (c : ConnRef) (s : StateRef) (provided : ProvideContract)
      (tx : Transaction) (hs : (w.states.read s).state = .waitingForMultisigContract)
      (hc : (w.servers.read c).state = some s)
      (hstep : (w.servers.read c).step = .waitingOnMultisigAcceptance)
      (htx : ContractOf p a c provided tx) :
      Effect p start a w
        { w with states := w.states.modify s fun st => { st with multisigContract := some tx } }
  | totalSet (w : World) (s : StateRef) (tx : Transaction) (output : TransactionOutput) (v : Coin)
      (hs : (w.states.read s).state = .waitingForMultisigContract)
      (hcontract : (w.states.read s).multisigContract = some tx)
      (houtput : tx.output0 = .ok output) (hv : output.getValue = .ok v) :
      Effect p start a w
        { w with states := w.states.modify s fun st => { st with totalValue := some v } }
  | contractBroadcast (w : World) (c : ConnRef) (s : StateRef) (provided : ProvideContract)
      (tx : Transaction) (hs : Offering p a w c s provided tx) :
      Effect p start a w
        { w with
          states := w.states.modify s fun st => { st with state := .waitingForMultisigAcceptance }
          broadcasts := (w.broadcasts.alloc { tx := tx, purpose := .contract s c provided }).2 }
  | completed (w : World) (b : Nat) (success : Bool) (ha : a.2 = .input (.broadcastDone b success))
      (hb : b < w.broadcasts.next) (hpending : (w.broadcasts.read b).completed = false)
      (hw : w = start) :
      Effect p start a w
        { w with broadcasts := w.broadcasts.modify b ({ · with completed := true }) }
  /-- The state of a contract that was broadcast, whatever it is by now. -/
  | contractDone (w : World) (b : Nat) (success : Bool) (s : StateRef) (c : ConnRef)
      (provided : ProvideContract) (hb : Completing start a b success s c provided)
      (hdone : Quiet (start.complete b) w) :
      Effect p start a w
        { w with states := w.states.modify s fun st =>
            { st with state := if success then .ready else .error } }
  | settlementDone (w : World) (b : Nat) (success : Bool) (s : StateRef)
      (ha : a.2 = .input (.broadcastDone b success)) (hb : b < start.broadcasts.next)
      (hpurpose : (start.broadcasts.read b).purpose = .settlement s)
      (hdone : w = start.complete b) :
      Effect p start a w
        { w with states := w.states.modify s fun st =>
            { st with state := if success then .closed else .error } }
  | stored (w : World) (c : ConnRef) (s : StateRef) (contract : Transaction)
      (clientOutput : OutputRef) (hs : Storing start a w c s contract clientOutput) :
      Effect p start a w (w.store p s c contract clientOutput)
  | channelStored (w : World) (s : StateRef) (hready : (w.states.read s).state = .ready)
      (hs : (w.states.read s).storedServerChannel.isSome) :
      Effect p start a w { w with trace := .channelStored s :: w.trace }
  /-- A resuming connection takes over the channel and its state. -/
  | takenOver (w : World) (c : ConnRef) (h : Sha256Hash) (r : ChannelRef) (s : StateRef)
      (hres : Resuming start a c h r) (hm : w.mapChannels.lookup h = some r)
      (hch : w.channels = start.channels) (hr : (w.channels.read r).state = some s)
      (hopen : (w.servers.read c).connectionOpen = true)
      (hstep : (w.servers.read c).step = .waitingOnClientVersion) :
      Effect p start a w
        { w with
          servers := w.servers.modify c fun sv =>
            { sv with state := some s, step := .channelOpen }
          channels := w.channels.modify r fun ch => { ch with connectedHandler := some c }
          trace := .stepped c .channelOpen :: .driven c r :: w.trace }
  /-- It takes over a channel whose state has yet to be rebuilt. -/
  | handlerSet (w : World) (c : ConnRef) (h : Sha256Hash) (r : ChannelRef)
      (hres : Resuming start a c h r) (hm : w.mapChannels.lookup h = some r)
      (hch : w.channels = start.channels) (hr : (w.channels.read r).state = none)
      (hopen : (w.servers.read c).connectionOpen = true) :
      Effect p start a w
        { w with
          channels := w.channels.modify r fun ch => { ch with connectedHandler := some c }
          trace := .driven c r :: w.trace }
  /-- It gets the state of a channel it handles already. -/
  | resumed (w : World) (c : ConnRef) (h : Sha256Hash) (r : ChannelRef) (s : StateRef)
      (hres : Resuming start a c h r) (hm : w.mapChannels.lookup h = some r)
      (hr : (w.channels.read r).state = some s)
      (hhandler : (w.channels.read r).connectedHandler = some c)
      (hopen : (w.servers.read c).connectionOpen = true)
      (hstep : (w.servers.read c).step = .waitingOnClientVersion) :
      Effect p start a w
        { w with
          servers := w.servers.modify c fun sv =>
            { sv with state := some s, step := .channelOpen }
          trace := .stepped c .channelOpen :: w.trace }
  | channelOpened (w : World) (c : ConnRef) (s : StateRef) (h : Sha256Hash)
      (hs : Opening p start a w c s h) (hstep : (w.servers.read c).step = .channelOpen) :
      Effect p start a w { w with trace := .channelOpen c h :: w.trace }
  | updateApplied (w : World) (c : ConnRef) (s : StateRef)
      (hstep : (w.servers.read c).step = .channelOpen)
      (hc : (w.servers.read c).state = some s) :
      Effect p start a w { w with trace := .updateApplied c s :: w.trace }
  /-- The increase that an accepted payment made is reported. -/
  | credited (w : World) (c : ConnRef) (s : StateRef) (amount : Coin)
      (hs : Crediting start w c s amount) :
      Effect p start a w
        { w with trace := .credited c s amount (w.states.read s).bestValueToMe :: w.trace }
  /-- The initial payment was accepted and CHANNEL_OPEN sent. -/
  | opened (w : World) (c : ConnRef) (s : StateRef) (provided : ProvideContract)
      (totalValue v : Coin) (hs : Announcing start a w c s provided totalValue v) :
      Effect p start a w { w with trace := .opened c s :: w.trace }

end BitMesh.Channels
