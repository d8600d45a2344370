import BitMesh.Bitcoin.Ideal
import BitMesh.Channels.System

/-!
# A client of the reference library

The messages of a client that follows the protocol over `reference`, with
the refund and the contract it offers as parameters. Runs that show what
the server does with particular messages are made of these.
-/

namespace BitMesh.Channels.Client

open BitMesh.Bitcoin BitMesh.Lib Reference

/-- The reference library, with messages of any content fitting a frame. -/
def platform : Platform := { reference with encodedSize := fun _ => 0 }

/-- Two weeks after the epoch, on a wallet that keeps nothing out. -/
def env : Env where
  now := 1209600
  later := 1209600
  clockOffset := 0
  freshKey := serverKey
  changeScript := ⟨[2]⟩
  changeScript_length := by decide
  watchedOutputs := []
  risky := false
  callbackThrows _ := none

/-- CLIENT_VERSION for a new channel. -/
def version : TwoWayChannelMessage where
  type := .clientVersion
  clientVersion := some { major := serverMajorVersion }

/-- CLIENT_VERSION for the contract with number `n`. -/
def resume (n : UInt8) : TwoWayChannelMessage where
  type := .clientVersion
  clientVersion := some {
    major := serverMajorVersion
    previousChannelContractHash := n :: List.replicate 31 0 }

/-- PROVIDE_REFUND for the refund that `tx` names. -/
def provideRefund (tx : Bytes) : TwoWayChannelMessage where
  type := .provideRefund
  provideRefund := some ⟨clientKey, tx⟩

/-- The transaction a client signs to leave itself `change` of contract `n`. -/
def paymentTx (n : UInt8) (change : Int) : Transaction where
  version := 1
  inputs := [TransactionInput.spending (platform.getHash (contract n 0)) 0]
  outputs := if change = 0 then [] else [⟨change, ⟨[1]⟩⟩]
  lockTime := 0

def paymentMode (change : Int) : SigHash := if change = 0 then .none else .single

def paymentDigest (n : UInt8) (change : Int) : Sha256Hash :=
  (paymentTx n change).hashForSignature reference 0 redeemScript (paymentMode change) true

/-- The payment that leaves `change` of contract `n`, signed. -/
def payment (n : UInt8) (change : Int) : UpdatePayment where
  clientChangeValue := change
  signature := calcSigHashValue (paymentMode change) true ::
    clientKey ++ (paymentDigest n change).bytes

/-- PROVIDE_CONTRACT for contract `n` of `value` thousand satoshis. -/
def provideContract (n value : UInt8) (change : Int) : TwoWayChannelMessage where
  type := .provideContract
  provideContract := some ⟨[3, n, value], payment n change⟩

/-- UPDATE_PAYMENT. -/
def updatePayment (n : UInt8) (change : Int) : TwoWayChannelMessage where
  type := .updatePayment
  updatePayment := some (payment n change)

/-- A connection is accepted and opened; it is the one with number `c`. -/
def connect (c : ConnRef) : List Input :=
  [.newServer ⟨1546, by decide⟩ TimeWindow.default, .connectionOpen c ⟨100, 0⟩]

/-- The refund and the contract, with the completion of the broadcast `b`. -/
def negotiate (c : ConnRef) (b : Nat) (refundTx : Bytes) (n value : UInt8) (change : Int) :
    List Input :=
  [.message c (provideRefund refundTx), .message c (provideContract n value change),
    .broadcastDone b true]

/-- The world after these inputs. -/
def run (inputs : List Input) : World :=
  (World.initial true).run platform (inputs.map (env, ·))

/-- The world after these actions. -/
def act (actions : List Action) : World :=
  (actions.map (env, ·)).foldl (World.after platform) (World.initial true)

/-- Everything the first connection does to open contract 1 of 100000
satoshis, leaving itself `change`. -/
def openChannel (change : Int) : List Input :=
  connect 0 ++ [.message 0 version] ++ negotiate 0 0 [1, 255] 1 100 change

end BitMesh.Channels.Client
