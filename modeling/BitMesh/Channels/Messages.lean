import BitMesh.Bitcoin.Transaction

/-!
# The channel protocol's messages

The client's messages as `paymentchannel.proto` defines them: a type tag
and one optional field for each kind, so that a tag without its field, or
with another's, can be sent. The server's side is what
`PaymentChannelServer` builds.
-/

namespace BitMesh.Channels

open BitMesh.Bitcoin

/-- `TwoWayChannelMessage.MessageType`. -/
inductive MessageType where
  | clientVersion
  | serverVersion
  | initiate
  | price
  | fundingAddress
  | funding
  | provideRefund
  | returnRefund
  | provideContract
  | channelOpen
  | updatePayment
  | paymentAck
  | close
  | error
  deriving DecidableEq, Repr

/-- An absent hash reads as no bytes, an absent window as the default;
`time_window_secs` is a `uint64` that Java reads as a `long`. -/
structure ClientVersion where
  major : Int
  minor : Int := 0
  previousChannelContractHash : Bytes := []
  timeWindowSecs : Int := 86340
  deriving DecidableEq, Repr

structure ProvideRefund where
  multisigKey : Bytes
  tx : Bytes
  deriving DecidableEq, Repr

structure UpdatePayment where
  clientChangeValue : Int
  signature : Bytes
  info : Option Bytes := none
  deriving DecidableEq, Repr

structure ProvideContract where
  tx : Bytes
  initialPayment : UpdatePayment
  deriving DecidableEq, Repr

/-- A message from the client; each field is what `hasX()` and `getX()`
answer. -/
structure TwoWayChannelMessage where
  type : MessageType
  clientVersion : Option ClientVersion := none
  fundingAddress : Option String := none
  provideRefund : Option ProvideRefund := none
  provideContract : Option ProvideContract := none
  updatePayment : Option UpdatePayment := none
  hasError : Bool := false
  deriving DecidableEq, Repr

/-- How many bytes there are in the strings of a message, which its
encoding has more of. -/
def TwoWayChannelMessage.contentSize (msg : TwoWayChannelMessage) : Nat :=
  (msg.clientVersion.elim 0 (·.previousChannelContractHash.length)) +
    (msg.fundingAddress.elim 0 String.utf8ByteSize) +
    (msg.provideRefund.elim 0 fun refund => refund.multisigKey.length + refund.tx.length) +
    (msg.provideContract.elim 0 fun contract =>
      contract.tx.length + contract.initialPayment.signature.length) +
    (msg.updatePayment.elim 0 (·.signature.length))

/-- The codes of `Error.ErrorCode` the server sends. -/
inductive ErrorCode where
  | syntaxError
  | noAcceptableVersion
  | invalidAddress
  | badTransaction
  | other
  deriving DecidableEq, Repr

/-- The reasons of `PaymentChannelCloseException.CloseReason` the server
closes for. -/
inductive CloseReason where
  | noAcceptableVersion
  | channelExhausted
  | clientRequestedClose
  | serverRequestedClose
  | remoteSentError
  | remoteSentInvalidMessage
  | updatePaymentFailed
  deriving DecidableEq, Repr

/-- A message to the client. -/
inductive ServerMessage where
  | serverVersion (major minor : Int)
  | price (proposedPrice : Int) (multisigKey : Bytes)
  | initiate (expireTimeSecs minAcceptedChannelSize minPayment : Int)
  | funding (transaction : Bytes)
  | returnRefund (signature : Bytes)
  | channelOpen
  | paymentAck (info : Option Bytes) (amountSpent amountPurchased : Option Int)
  | close (settlement : Option Bytes)
  | error (code : ErrorCode) (explanation : String)
  deriving DecidableEq, Repr

/-- `PaymentChannelServer.InitStep`, in declaration order. -/
inductive InitStep where
  | waitingOnClientVersion
  | waitingOnFundingAddress
  | waitingOnFunding
  | waitingOnUnsignedRefund
  | waitingOnContract
  | waitingOnMultisigAcceptance
  | channelOpen
  deriving DecidableEq, Repr

def InitStep.ordinal : InitStep → Nat
  | .waitingOnClientVersion => 0
  | .waitingOnFundingAddress => 1
  | .waitingOnFunding => 2
  | .waitingOnUnsignedRefund => 3
  | .waitingOnContract => 4
  | .waitingOnMultisigAcceptance => 5
  | .channelOpen => 6

/-- `PaymentChannelServerState.State`, in declaration order. -/
inductive State where
  | waitingForRefundTransaction
  | waitingForMultisigContract
  | waitingForMultisigAcceptance
  | ready
  | closing
  | closed
  | error
  deriving DecidableEq, Repr

def State.ordinal : State → Nat
  | .waitingForRefundTransaction => 0
  | .waitingForMultisigContract => 1
  | .waitingForMultisigAcceptance => 2
  | .ready => 3
  | .closing => 4
  | .closed => 5
  | .error => 6

end BitMesh.Channels
