import BitMesh.Channels.System

/-!
# Assignments and the fields they leave alone

An assignment to one field of an object changes no other field of it, and
nothing of any other object. These are the rules by which `simp` reads a
field of a heap that was written elsewhere.
-/

namespace BitMesh.Channels

open BitMesh.Bitcoin BitMesh.Lib

section Servers

variable (h : Heap PaymentChannelServer) (c c' : ConnRef)
  {f : PaymentChannelServer → PaymentChannelServer}

@[simp] theorem step_modify (hf : ∀ a, (f a).step = a.step) :
    ((h.modify c f).read c').step = (h.read c').step :=
  h.field_modify c c' (·.step) hf

@[simp] theorem serverState_modify (hf : ∀ a, (f a).state = a.state) :
    ((h.modify c f).read c').state = (h.read c').state :=
  h.field_modify c c' (·.state) hf

@[simp] theorem connectionOpen_modify (hf : ∀ a, (f a).connectionOpen = a.connectionOpen) :
    ((h.modify c f).read c').connectionOpen = (h.read c').connectionOpen :=
  h.field_modify c c' (·.connectionOpen) hf

@[simp] theorem expireTime_modify (hf : ∀ a, (f a).expireTime = a.expireTime) :
    ((h.modify c f).read c').expireTime = (h.read c').expireTime :=
  h.field_modify c c' (·.expireTime) hf

@[simp] theorem window_modify (hf : ∀ a, (f a).window = a.window) :
    ((h.modify c f).read c').window = (h.read c').window :=
  h.field_modify c c' (·.window) hf

@[simp] theorem myKey_modify (hf : ∀ a, (f a).myKey = a.myKey) :
    ((h.modify c f).read c').myKey = (h.read c').myKey :=
  h.field_modify c c' (·.myKey) hf

@[simp] theorem client_modify (hf : ∀ a, (f a).client = a.client) :
    ((h.modify c f).read c').client = (h.read c').client :=
  h.field_modify c c' (·.client) hf

@[simp] theorem minAcceptedChannelSize_modify
    (hf : ∀ a, (f a).minAcceptedChannelSize = a.minAcceptedChannelSize) :
    ((h.modify c f).read c').minAcceptedChannelSize = (h.read c').minAcceptedChannelSize :=
  h.field_modify c c' (·.minAcceptedChannelSize) hf

end Servers

/-- The terms of a channel: what is negotiated before its contract is
broadcast. -/
def PaymentChannelServerState.terms (st : PaymentChannelServerState) :
    PaymentChannelServerState :=
  { st with
    state := .ready
    bestValueToMe := Coin.zero
    bestValueSignature := none
    storedServerChannel := none
    closedFuture := .pending
    closeCallbacks := [] }

section States

variable (h : Heap PaymentChannelServerState) (s s' : StateRef)
  {f : PaymentChannelServerState → PaymentChannelServerState}

@[simp] theorem state_modify (hf : ∀ a, (f a).state = a.state) :
    ((h.modify s f).read s').state = (h.read s').state :=
  h.field_modify s s' (·.state) hf

@[simp] theorem stored_modify (hf : ∀ a, (f a).storedServerChannel = a.storedServerChannel) :
    ((h.modify s f).read s').storedServerChannel = (h.read s').storedServerChannel :=
  h.field_modify s s' (·.storedServerChannel) hf

@[simp] theorem best_modify (hf : ∀ a, (f a).bestValueToMe = a.bestValueToMe) :
    ((h.modify s f).read s').bestValueToMe = (h.read s').bestValueToMe :=
  h.field_modify s s' (·.bestValueToMe) hf

@[simp] theorem contract_modify (hf : ∀ a, (f a).multisigContract = a.multisigContract) :
    ((h.modify s f).read s').multisigContract = (h.read s').multisigContract :=
  h.field_modify s s' (·.multisigContract) hf

@[simp] theorem totalValue_modify (hf : ∀ a, (f a).totalValue = a.totalValue) :
    ((h.modify s f).read s').totalValue = (h.read s').totalValue :=
  h.field_modify s s' (·.totalValue) hf

@[simp] theorem terms_modify (hf : ∀ a, (f a).terms = a.terms) :
    ((h.modify s f).read s').terms = (h.read s').terms :=
  h.field_modify s s' (·.terms) hf

end States

/-- What a record was made with; the rest follows the channel's state. -/
def StoredServerChannel.terms (ch : StoredServerChannel) : StoredServerChannel :=
  { ch with
    bestValueToMe := Coin.zero
    bestValueSignature := none
    state := none
    connectedHandler := none }

section Channels

variable (h : Heap StoredServerChannel) (r r' : ChannelRef)
  {f : StoredServerChannel → StoredServerChannel}

@[simp] theorem channelContract_modify (hf : ∀ a, (f a).contract = a.contract) :
    ((h.modify r f).read r').contract = (h.read r').contract :=
  h.field_modify r r' (·.contract) hf

@[simp] theorem channelOutput_modify (hf : ∀ a, (f a).clientOutput = a.clientOutput) :
    ((h.modify r f).read r').clientOutput = (h.read r').clientOutput :=
  h.field_modify r r' (·.clientOutput) hf

@[simp] theorem channelUnlock_modify (hf : ∀ a,
      (f a).refundTransactionUnlockTimeSecs = a.refundTransactionUnlockTimeSecs) :
    ((h.modify r f).read r').refundTransactionUnlockTimeSecs =
      (h.read r').refundTransactionUnlockTimeSecs :=
  h.field_modify r r' (·.refundTransactionUnlockTimeSecs) hf

@[simp] theorem channelKey_modify (hf : ∀ a, (f a).myKey = a.myKey) :
    ((h.modify r f).read r').myKey = (h.read r').myKey :=
  h.field_modify r r' (·.myKey) hf

@[simp] theorem channelBest_modify (hf : ∀ a, (f a).bestValueToMe = a.bestValueToMe) :
    ((h.modify r f).read r').bestValueToMe = (h.read r').bestValueToMe :=
  h.field_modify r r' (·.bestValueToMe) hf

@[simp] theorem channelState_modify (hf : ∀ a, (f a).state = a.state) :
    ((h.modify r f).read r').state = (h.read r').state :=
  h.field_modify r r' (·.state) hf

@[simp] theorem connectedHandler_modify (hf : ∀ a, (f a).connectedHandler = a.connectedHandler) :
    ((h.modify r f).read r').connectedHandler = (h.read r').connectedHandler :=
  h.field_modify r r' (·.connectedHandler) hf

end Channels

section Broadcasts

variable (h : Heap Broadcast) (b b' : Nat) {f : Broadcast → Broadcast}

@[simp] theorem purpose_modify (hf : ∀ a, (f a).purpose = a.purpose) :
    ((h.modify b f).read b').purpose = (h.read b').purpose :=
  h.field_modify b b' (·.purpose) hf

@[simp] theorem tx_modify (hf : ∀ a, (f a).tx = a.tx) :
    ((h.modify b f).read b').tx = (h.read b').tx :=
  h.field_modify b b' (·.tx) hf

end Broadcasts

end BitMesh.Channels
