import BitMesh.Lib.Transition
import BitMesh.WebClient.Consumer
import BitMesh.WebClient.Scripts

/-!
# The page

`bitmesh.js`: a state machine whose states have entry actions, and the
handlers of messages, of the socket, of the payment timer and of the
buttons that move it. A handler that throws keeps what it did before.
Display, counters and the clock are left out; whether a payment is due is
an input.
-/

namespace BitMesh.WebClient

open BitMesh.Bitcoin (Bytes Script)
open BitMesh.Lib (wp finalState)

/-- `CHANNEL_STATES`. -/
inductive ChannelState where
  | begin
  | sentVersion
  | receivedVersion
  | receivedPrice
  | sentFundingAddress
  | receivedFunding
  | initiated
  | sentRefund
  | receivedRefund
  | sentContract
  | receivedChannelOpen
  | receivedError
  | sentError
  | receivedClose
  | sentClose
  | websocketClosed
  deriving DecidableEq, Repr

/-- `OUTPUT_STATES`. -/
inductive OutputState where
  | unprocessed
  | attached
  | depleted
  deriving DecidableEq, Repr

/-- An element of `funding_outputs`, whose state is set after it was pushed. -/
structure FundingOutput where
  utxo : UnspentOutput
  outputState : Option OutputState
  deriving DecidableEq, Repr

structure FundingTxOutput where
  script : Bytes
  satoshis : Nat
  deriving DecidableEq, Repr

/-- What `receive_funding` reads of a transaction. -/
structure FundingTx where
  id : Bytes
  /-- The scripts of the inputs. -/
  inputs : List Bytes
  outputs : List FundingTxOutput
  deriving DecidableEq, Repr

/-- A message from the server. What does not parse is `none`, and a refund
is returned for the consumer it was provided for. -/
inductive FromServer where
  | serverVersion (major minor : Int)
  | price (proposedPrice : Int) (multisigKey : Option Bytes)
  | funding (transaction : Option FundingTx)
  | initiate (minAcceptedChannelSize minPayment : Int)
  | returnRefund (number : Nat)
  | channelOpen
  | paymentAck
  | close
  | error
  deriving DecidableEq, Repr

/-- `SIGHASH_SINGLE` or `SIGHASH_NONE`, with `SIGHASH_ANYONECANPAY`. -/
inductive Sigtype where
  | single
  | none
  deriving DecidableEq, Repr

/-- A message to the server, with the number of the consumer it is about. -/
inductive FromClient where
  | clientVersion (previousChannelContractHash : Option Bytes)
  | fundingAddress
  | provideRefund (number : Nat)
  | provideContract (number : Nat) (clientChangeValue : ℚ) (sigtype : Sigtype)
  | updatePayment (number : Nat) (clientChangeValue : ℚ) (sigtype : Sigtype)
  | close
  | error
  deriving DecidableEq, Repr

/-- Where the one socket of the page is: it was refused if the server
closed it with POLICY_VIOLATION, and is closed if it will be restarted. -/
inductive Socket where
  | connecting
  | opened
  | closed
  | refused
  deriving DecidableEq, Repr

/-- An object with the number of its consumer. -/
structure Numbered (α : Type) where
  number : Nat
  value : α

/-- A run of `create_payment_channel`: the consumer it made, what
`escrow_amount` was, and the outputs that it attached. It did not finish if
there was one that it could not attach. -/
structure Channel where
  number : Nat
  escrowAmount : ℚ
  outputs : List UnspentOutput
  finished : Bool
  deriving DecidableEq, Repr

/-- The variables of the page. -/
structure Browser where
  channelState : Option ChannelState := none
  socket : Socket := .connecting
  waitingToInitiate : Bool := false
  openChannel : Bool := true
  attemptReopenChannel : Bool := false
  previousContractHash : Option Bytes := none
  minEscrow : ℚ := 1000
  minInitialPayment : ℚ := 1000
  pricePerSecond : ℚ := 1
  serverKey : Option Bytes := none
  refundAddress : Option Address := none
  refundTx : Option (Numbered Transaction) := none
  consumer : Option (Numbered Consumer) := none
  numFundingOutputs : Nat := 0
  fundingOutputsUsed : Nat := 0
  fundingOutputs : List FundingOutput := []
  fundingTxHashes : List Bytes := []
  escrowAmount : ℚ := 0
  coinWidth : ℚ := 0
  fullyUsedUp : Bool := false
  paymentUpdateTimer : Bool := false
  lastIncrement : ℚ := 0
  receivedAck : Bool := false
  numUnackedPaymentUpdates : Nat := 0
  /-- The transactions of the FUNDING messages, oldest first. -/
  received : List FundingTx := []
  /-- What `create_payment_channel` did, oldest first. -/
  created : List Channel := []
  /-- What was sent, oldest first. -/
  sent : List FromClient := []
  /-- Whether `set_channel_state` ever took its illegal branch. -/
  illegal : Bool := false

inductive Thrown where
  | illegalTransition
  | error
  deriving DecidableEq, Repr

/-- A function of the page. -/
abbrev Handler := EStateM Thrown Browser

/-- What a page is given: its keys, and what bitcore makes of transactions. -/
structure Page where
  lib : Bitcore
  /-- `funding_key.toPublicKey()`. -/
  fundingKey : Bytes
  /-- `client_key.toPublicKey()`. -/
  clientKey : Bytes
  /-- The address of a fresh key, where nobody is known to refund. -/
  ownAddress : Address
  id : Transaction → Bytes

namespace Page

variable (page : Page)

/-- `funding_key.toPublicKey().toAddress()`. -/
def fundingAddress : Address :=
  ⟨.payToPublicKeyHash, page.lib.sha256ripemd160 page.fundingKey⟩

/-- `commitmentTx.outscript`. -/
def outscript (serverKey : Bytes) : ScriptHashOut where
  script := buildScriptHashOut
    (page.lib.sha256ripemd160 (buildMultisigOut [page.clientKey, serverKey] 2).program)
  length_eq := by
    have hlength := page.lib.length_sha256ripemd160
      (buildMultisigOut [page.clientKey, serverKey] 2).program
    have hpush := length_addBuffer (hlength.trans_lt (by decide : 20 < 0x4c))
    simp [buildScriptHashOut, hpush, hlength]

end Page

/-- What signing leaves open in one step. -/
structure Signing where
  contractSigned : Bool
  /-- Whether the server's signature parses. -/
  refundRead : Bool
  refundSigned : Bool
  refundVerified : Bool
  deriving DecidableEq, Repr

namespace Browser

/-- `channel_transition_is_valid`. -/
def channelTransitionIsValid (channelState : Option ChannelState) (newState : ChannelState) :
    Bool :=
  (channelState = none ∧ newState = .begin) ∨
  (channelState = some .begin ∧ newState = .sentVersion) ∨
  (channelState = some .websocketClosed ∧ newState = .sentVersion) ∨
  (channelState = some .sentVersion ∧ newState = .sentVersion) ∨
  (channelState = some .sentVersion ∧ newState = .receivedVersion) ∨
  (channelState = some .receivedVersion ∧ newState = .receivedPrice) ∨
  (channelState = some .receivedVersion ∧ newState = .receivedChannelOpen) ∨
  (channelState = some .receivedPrice ∧ newState = .sentFundingAddress) ∨
  (channelState = some .receivedPrice ∧ newState = .initiated) ∨
  (channelState = some .sentFundingAddress ∧ newState = .receivedFunding) ∨
  (channelState = some .receivedFunding ∧ newState = .initiated) ∨
  (channelState = some .initiated ∧ newState = .sentRefund) ∨
  (channelState = some .sentRefund ∧ newState = .receivedRefund) ∨
  (channelState = some .receivedRefund ∧ newState = .sentContract) ∨
  (channelState = some .sentContract ∧ newState = .receivedChannelOpen) ∨
  (channelState = some .receivedChannelOpen ∧ newState = .receivedClose) ∨
  (channelState = some .receivedClose ∧ newState = .sentVersion) ∨
  (channelState = some .sentClose ∧ newState = .sentVersion) ∨
  (channelState = some .sentError ∧ newState = .sentVersion) ∨
  newState = .receivedClose ∨
  newState = .receivedError ∨
  newState = .sentError ∨
  newState = .sentClose ∨
  newState = .websocketClosed ∨
  newState = .receivedFunding

/-- `set_channel_state` up to the entry action, which the callers perform. -/
def setChannelState (newState : ChannelState) : Handler Unit := do
  let b ← get
  if channelTransitionIsValid b.channelState newState then
    set { b with channelState := some newState }
  else
    set { b with illegal := true }
    throw .illegalTransition

/-- An object that must be there. -/
def defined {α : Type} (x : Option α) : Handler α :=
  match x with
  | some a => pure a
  | none => throw .error

/-- `send_message`. -/
def sendMessage (message : FromClient) : Handler Unit :=
  modify fun b => if b.socket = .opened then { b with sent := b.sent ++ [message] } else b

/-- `cancel_payments`. -/
def cancelPayments : Handler Unit :=
  modify fun b => { b with paymentUpdateTimer := false }

/-- `send_version`. -/
def sendVersion : Handler Unit := do
  let b ← get
  sendMessage (.clientVersion (if b.attemptReopenChannel then b.previousContractHash else none))
  setChannelState .sentVersion

/-- `start_payment_channel`. -/
def startPaymentChannel : Handler Unit := do
  cancelPayments
  sendVersion

/-- `exit_with_error_code`. -/
def exitWithErrorCode : Handler Unit := do
  sendMessage .error
  modify fun b => { b with attemptReopenChannel := true }
  setChannelState .sentError

/-! ## The handshake -/

/-- `receive_version`. -/
def receiveVersion (major minor : Int) : Handler Unit := do
  if major ≠ 1 ∨ minor < 1 then
    exitWithErrorCode
  else
    setChannelState .receivedVersion

/-- `send_funding_address`. -/
def sendFundingAddress : Handler Unit := do
  sendMessage .fundingAddress
  setChannelState .sentFundingAddress

/-- `fee`. -/
def fee : ℚ := 1000

/-- `update_escrow_amount`. -/
def updateEscrowAmount (b : Browser) : Browser :=
  let unused := b.fundingOutputs.filter fun output => output.outputState ≠ some .depleted
  let total := (unused.map fun output => (output.utxo.satoshis : ℚ)).sum
  let escrowAmount := total - fee
  let coinWidth := escrowAmount / 100
  { b with
    escrowAmount := escrowAmount
    coinWidth := if coinWidth < b.pricePerSecond then b.pricePerSecond else coinWidth }

/-- The outputs that `create_payment_channel` goes through. -/
def window (b : Browser) : List FundingOutput :=
  (b.fundingOutputs.take b.numFundingOutputs).drop b.fundingOutputsUsed

/-- `output_state = ATTACHED`. -/
def attach (output : FundingOutput) : FundingOutput :=
  { output with outputState := some .attached }

/-- What `create_payment_channel` does for a server key. An output of
another kind becomes an input whose signatures cannot be cleared: the loop
ends there with an exception. -/
def create (page : Page) (serverKey : Bytes) (b : Browser) : Browser × Bool :=
  let window := b.window
  let kept := window.takeWhile fun output => output.utxo.isPublicKeyHashOut
  let utxos := kept.map FundingOutput.utxo
  let consumer := Consumer.new (page.outscript serverKey)
    (b.refundAddress.getD page.ownAddress).script
  let consumer := consumer.processAll utxos
  let finished : Bool := kept.length = window.length
  ({ b with
      consumer := some ⟨b.created.length, consumer⟩
      created := b.created ++ [⟨b.created.length, b.escrowAmount, utxos, finished⟩]
      fundingOutputs := b.fundingOutputs.take b.fundingOutputsUsed ++ kept.map attach ++
        b.fundingOutputs.drop (b.fundingOutputsUsed + kept.length)
      fundingOutputsUsed := if finished then b.numFundingOutputs else b.fundingOutputsUsed },
    finished)

variable (page : Page) (signing : Signing)

/-- `create_payment_channel`. -/
def createPaymentChannel : Handler Unit := do
  let b ← get
  let serverKey ← defined b.serverKey
  let (b', finished) := create page serverKey b
  set b'
  if ¬ finished then
    throw .error

/-- `send_refund`, the entry action of INITIATED. -/
def sendRefund : Handler Unit := do
  let numbered ← defined (← get).consumer
  match numbered.value.setupRefund page.id signing.contractSigned with
  | .error _ => throw .error
  | .ok (consumer, refundTx) =>
      modify fun b => { b with
        consumer := some { numbered with value := consumer }
        refundTx := some ⟨numbered.number, refundTx⟩ }
      sendMessage (.provideRefund numbered.number)
      setChannelState .sentRefund

/-- `initiate`. -/
def initiate : Handler Unit := do
  modify updateEscrowAmount
  let b ← get
  if b.escrowAmount < b.minEscrow then
    set { b with waitingToInitiate := true }
  else
    set { b with waitingToInitiate := false, attemptReopenChannel := true }
    createPaymentChannel page
    setChannelState .initiated
    sendRefund page signing

/-- `receive_price`, with the entry action of RECEIVED_PRICE. -/
def receivePrice (proposedPrice : Int) (multisigKey : Option Bytes) : Handler Unit := do
  modify fun b => { b with pricePerSecond := proposedPrice }
  if proposedPrice < 0 then
    exitWithErrorCode
  else
    let serverKey ← defined multisigKey
    modify fun b => { b with serverKey := some serverKey }
    setChannelState .receivedPrice
    let b ← get
    if b.fundingOutputsUsed < b.numFundingOutputs then
      initiate page signing
    else
      sendFundingAddress

/-- The first input whose script passes. -/
def findInput (passes : Bytes → List Chunk → Bool) : List Bytes → Option (Option Bytes)
  | [] => some none
  | script :: scripts =>
      match fromBuffer script with
      | none => none
      | some chunks => if passes script chunks then some (some script) else findInput passes scripts

/-- `refund_input`: the first that spends from a public key hash, or else
the first that spends from a script hash. -/
def refundInput (lib : Bitcore) (tx : FundingTx) : Option (Option Bytes) :=
  match findInput (fun _ chunks => (publicKeyHashIn lib chunks).isSome) tx.inputs with
  | some none => findInput (fun script chunks => isScriptHashIn lib script.length chunks) tx.inputs
  | found => found

/-- `output_state = UNPROCESSED`. -/
def unprocess (output : FundingOutput) : FundingOutput :=
  { output with outputState := some .unprocessed }

/-- An output is pushed, and its state is set at the index that
`num_funding_outputs` says. -/
def register (utxo : UnspentOutput) (b : Browser) : Browser :=
  let pushed : FundingOutput := ⟨utxo, none⟩
  { b with
    fundingOutputs := (b.fundingOutputs ++ [pushed]).modify b.numFundingOutputs unprocess
    fundingTxHashes := b.fundingTxHashes ++ [utxo.txId]
    numFundingOutputs := b.numFundingOutputs + 1 }

/-- The output of a transaction as something to spend. -/
def FundingTxOutput.utxo (txId : Bytes) (outputIndex : Nat) (output : FundingTxOutput) :
    UnspentOutput :=
  ⟨txId, outputIndex, output.satoshis, ((fromBuffer output.script).bind publicKeyHashOut).isSome⟩

/-- The loop over the outputs of a transaction, from the `j`-th on. It
returns what it adds to `funding_amount`. -/
def processOutputs (txId : Bytes) : Nat → List FundingTxOutput → Handler Nat
  | _, [] => pure 0
  | j, output :: outputs => do
      let address ← defined (toAddress page.lib output.script)
      if address = some page.fundingAddress then
        modify (register (FundingTxOutput.utxo txId j output))
        let rest ← processOutputs txId (j + 1) outputs
        return output.satoshis + rest
      else
        processOutputs txId (j + 1) outputs

/-- `receive_funding`, with the entry action of RECEIVED_FUNDING. -/
def receiveFunding (transaction : Option FundingTx) : Handler Unit := do
  let tx ← defined transaction
  modify fun b => { b with received := b.received ++ [tx] }
  if tx.id ∈ (← get).fundingTxHashes then
    return
  match ← defined (refundInput page.lib tx) with
  | none => exitWithErrorCode
  | some script =>
      let refundAddress ← defined (toAddress page.lib script)
      modify fun b => { b with refundAddress := refundAddress }
      let fundingAmount ← processOutputs page tx.id 0 tx.outputs
      if fundingAmount = 0 then
        exitWithErrorCode
      else
        modify updateEscrowAmount
        setChannelState .receivedFunding
        if (← get).waitingToInitiate then
          initiate page signing
        else
          modify fun b => { b with waitingToInitiate := true }

/-- `receive_initiate`. -/
def receiveInitiate (minAcceptedChannelSize minPayment : Int) : Handler Unit := do
  modify fun b => { b with minEscrow := minAcceptedChannelSize, minInitialPayment := minPayment }
  if (← get).waitingToInitiate then
    initiate page signing

/-- `incrementPaymentBy`: the payment is changed and then signed. What is
signed with SIGHASH_SINGLE contains the output, and the hexadecimal digits
of an amount below zero are none that `new Buffer` accepts. -/
def incrementPaymentBy (numbered : Numbered Consumer) (payment : Payment) (increment : ℚ)
    (sigtype : Sigtype) : Handler Payment := do
  let payment := payment.updateValue increment
  modify fun b => { b with
    consumer := some { numbered with value := { numbered.value with paymentTx := some payment } } }
  if sigtype = .single ∧ payment.refundAmount < 0 then
    throw .error
  else
    return payment

/-- `send_contract`, the entry action of RECEIVED_REFUND. The change is read
off the first output, which must be there. -/
def sendContract : Handler Unit := do
  let numbered ← defined (← get).consumer
  modify fun b => { b with
    previousContractHash := some (page.id numbered.value.commitmentTx) }
  let payment ← defined numbered.value.paymentTx
  let increment := (← get).minInitialPayment
  let payment ← incrementPaymentBy numbered payment increment .single
  modify fun b => { b with lastIncrement := increment }
  let output ← defined payment.outputs.head?
  sendMessage (.provideContract numbered.number output.satoshis .single)
  setChannelState .sentContract

/-- The `try` of `receive_refund`. A signature only verifies on the refund
it was made for. -/
def validated (number : Nat) (refundTx : Option (Numbered Transaction)) (consumer : Consumer) :
    Except InvalidState Consumer :=
  match refundTx with
  | none => .error ⟨"undefined is not an object"⟩
  | some refund => consumer.validateRefund refund.value signing.refundSigned
      (signing.refundVerified ∧ number = refund.number)

/-- `receive_refund`. -/
def receiveRefund (number : Nat) : Handler Unit := do
  let b ← get
  let numbered ← defined b.consumer
  if signing.refundRead then
    match validated signing number b.refundTx numbered.value with
    | .error _ => exitWithErrorCode
    | .ok consumer =>
        modify fun b => { b with consumer := some { numbered with value := consumer } }
        setChannelState .receivedRefund
        sendContract page
  else
    throw .error

/-- `receive_channel_open`. -/
def receiveChannelOpen : Handler Unit := do
  modify fun b => { b with fullyUsedUp := false, paymentUpdateTimer := true }
  setChannelState .receivedChannelOpen

/-! ## Payments -/

/-- `increment_payment`. -/
def incrementPayment : Handler Unit := do
  let b ← get
  let numbered ← defined b.consumer
  let payment ← defined numbered.value.paymentTx
  let remainder := payment.amount - payment.paid - b.coinWidth
  let last := remainder < b.minInitialPayment
  let increment := if last then payment.amount - payment.paid else b.coinWidth
  let fullyUsedUp := b.fullyUsedUp || last
  set { b with fullyUsedUp := fullyUsedUp }
  if increment < 0 then
    exitWithErrorCode
  else
    modify fun b => { b with lastIncrement := increment }
    let sigtype := if fullyUsedUp then Sigtype.none else Sigtype.single
    let payment ← incrementPaymentBy numbered payment increment sigtype
    sendMessage (.updatePayment numbered.number payment.refundAmount sigtype)
    modify fun b => { b with receivedAck := false }

/-- `max_unacked_payment_updates`. -/
def maxUnackedPaymentUpdates : Nat := 5

/-- `update_payment`; if `due`, less than five seconds are left and the
internet is reachable. -/
def updatePayment (due : Bool) : Handler Unit := do
  let b ← get
  if due then
    if b.receivedAck then
      set { b with numUnackedPaymentUpdates := 0 }
      if ¬ b.fullyUsedUp then
        incrementPayment
    else if maxUnackedPaymentUpdates < b.numUnackedPaymentUpdates then
      cancelPayments
      exitWithErrorCode

/-- `receive_payment_ack`. -/
def receivePaymentAck : Handler Unit :=
  modify fun b => { b with receivedAck := true }

/-! ## The end of a channel -/

/-- An output of a channel that is used up. -/
def deplete (output : FundingOutput) : FundingOutput :=
  if output.outputState = some .attached then
    { output with outputState := some .depleted }
  else output

/-- `receive_close`, with the entry action of RECEIVED_CLOSE. -/
def receiveClose : Handler Unit := do
  let b ← get
  if b.fullyUsedUp then
    set { b with
      fundingOutputs := b.fundingOutputs.map deplete
      attemptReopenChannel := false
      openChannel := true }
  else
    set { b with attemptReopenChannel := true, openChannel := true }
  setChannelState .receivedClose
  startPaymentChannel

/-- `receive_error`, with the entry action of RECEIVED_ERROR. -/
def receiveError : Handler Unit := do
  modify fun b => { b with attemptReopenChannel := true }
  setChannelState .receivedError
  startPaymentChannel

/-- `close_channel`, with the entry action of SENT_CLOSE. -/
def closeChannel : Handler Unit := do
  sendMessage .close
  modify fun b => { b with attemptReopenChannel := false }
  setChannelState .sentClose
  startPaymentChannel

/-- `user_disconnect`. -/
def userDisconnect : Handler Unit := do
  let b ← get
  let numbered ← defined b.consumer
  let payment ← defined numbered.value.paymentTx
  if b.minInitialPayment < payment.amount - payment.paid then
    sendMessage .error
    cancelPayments
    modify fun b => { b with openChannel := false }
    setChannelState .sentError

/-- `user_reconnect`. -/
def userReconnect : Handler Unit := do
  modify fun b => { b with attemptReopenChannel := true, fullyUsedUp := false, openChannel := true }
  sendVersion

/-! ## The socket -/

/-- The `switch` of `onmessage`. -/
def onMessage (message : FromServer) : Handler Unit :=
  match message with
  | .serverVersion major minor => receiveVersion major minor
  | .price proposedPrice multisigKey => receivePrice page signing proposedPrice multisigKey
  | .funding transaction => receiveFunding page signing transaction
  | .initiate minAcceptedChannelSize minPayment =>
      receiveInitiate page signing minAcceptedChannelSize minPayment
  | .returnRefund number => receiveRefund page signing number
  | .channelOpen => receiveChannelOpen
  | .paymentAck => receivePaymentAck
  | .close => receiveClose
  | .error => receiveError

/-- `onopen`. -/
def onOpen : Handler Unit := do
  modify fun b => { b with socket := .opened, waitingToInitiate := true }
  if (← get).openChannel then
    startPaymentChannel

/-- `onclose`, with the code POLICY_VIOLATION or another. -/
def onClose (policyViolation : Bool) : Handler Unit := do
  if policyViolation then
    modify fun b => { b with socket := .refused }
  else
    modify fun b => { b with socket := .closed }
    cancelPayments
    setChannelState .websocketClosed

end Browser

/-- What can happen to the page. -/
inductive PageEvent where
  | opens
  | closes (policyViolation : Bool)
  /-- The timeout after which `start_websockets` is called again. -/
  | restarts
  | receives (message : FromServer) (signing : Signing)
  /-- The payment timer. -/
  | ticks (due : Bool)
  | disconnects
  | reconnects
  /-- `window.onunload`. -/
  | unloads
  deriving DecidableEq, Repr

namespace Browser

/-- The handler of an event, where the event can happen. -/
def handle (page : Page) (event : PageEvent) : Handler Unit := do
  let b ← get
  match event with
  | .opens => if b.socket = .connecting then onOpen
  | .closes policyViolation =>
      if b.socket = .connecting ∨ b.socket = .opened then onClose policyViolation
  | .restarts => if b.socket = .closed then set { b with socket := .connecting }
  | .receives message signing => if b.socket = .opened then onMessage page signing message
  | .ticks due => if b.paymentUpdateTimer then updatePayment due
  | .disconnects => userDisconnect
  | .reconnects => userReconnect
  | .unloads => closeChannel

/-- Whatever a handler throws is logged. -/
def next (page : Page) (b : Browser) (event : PageEvent) : Browser :=
  finalState (handle page event) b

/-- The document is ready: BEGIN, whose entry action starts the socket. -/
def ready : Browser := { channelState := some .begin }

/-- Every run of the page. -/
def Runs (page : Page) : Browser → Prop := Lib.Reaches (next page) (fun _ _ => True) ready

end Browser

/-! ## A page to run -/

namespace Sample

def lib : Bitcore where
  isValidPublicKey := fun key => key.length = 33
  sha256ripemd160 := fun bytes => (bytes ++ List.replicate 20 0).take 20
  length_sha256ripemd160 := by simp

def page : Page where
  lib := lib
  fundingKey := 2 :: List.replicate 32 1
  clientKey := 2 :: List.replicate 32 2
  ownAddress := ⟨.payToPublicKeyHash, List.replicate 20 0⟩
  id := fun _ => []

def serverKey : Bytes := 3 :: List.replicate 32 3

/-- The script of an input that spends from a public key hash. -/
def inputScript : Bytes := 0x47 :: List.replicate 71 0 ++ 0x21 :: 2 :: List.replicate 32 4

/-- A transaction that pays to the page. -/
def pays (id : UInt8) (satoshis : Nat) : FundingTx where
  id := [id]
  inputs := [inputScript]
  outputs := [⟨(buildPublicKeyHashOut page.fundingAddress.hashBuffer).program, satoshis⟩]

def receives (message : FromServer) : PageEvent := .receives message ⟨true, true, true, true⟩

/-- The page and the server agree on a version and on a price. -/
def priced : List PageEvent := [receives (.serverVersion 1 1), receives (.price 1 (some serverKey))]

/-- A channel of 100000 satoshis less the fee is open. -/
def opened : List PageEvent :=
  .opens :: priced ++ [receives (.funding (some (pays 1 100000))), receives (.returnRefund 0),
    receives .paymentAck, receives .channelOpen]

def run (events : List PageEvent) : Browser := events.foldl (Browser.next page) Browser.ready

theorem runs (events : List PageEvent) : Browser.Runs page (run events) :=
  Lib.Reaches.start.foldl events

end Sample

end BitMesh.WebClient
