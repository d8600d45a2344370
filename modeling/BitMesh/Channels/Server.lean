import BitMesh.Channels.ServerState

/-!
# `PaymentChannelServer`

One object per connection. It speaks the protocol with the client, checks
the order of messages with `step` (as far as the checks are there), and
drives the `PaymentChannelServerState` of the channel. The connection is
the one `PaymentChannelWebsocketServerListener` builds, the client behind
it a `ConnectedClient`.
-/

namespace BitMesh.Channels

open BitMesh.Bitcoin BitMesh.Lib

variable (p : Platform) (env : Env)

def serverMajorVersion : Int := 1

def serverMinorVersion : Int := 2

def appMinorVersion : Int := 0

def browserMicropaymentsMinorVersion : Int := 1

def browserMacropaymentMinorVersion : Int := 2

/-! ## `BitmeshServer` -/

/-- `addressConnectionMap.put`. -/
def putAddress (address : Address) (c : ConnRef) : Method Unit := do
  modify fun w => { w with addressConnectionMap := w.addressConnectionMap.insert address c }
  note (.watched address c)

/-- `addressConnectionMap.remove`. -/
def removeAddress (address : Address) (c : ConnRef) : Method Unit := do
  modify fun w => { w with addressConnectionMap := w.addressConnectionMap.erase address }
  note (.unwatched address c)

/-- `BitmeshServer.watchAddress`; the wallet saves itself when it gets a
new address to watch. -/
def watchAddress (address : Address) (c : ConnRef) : Method Unit := do
  match (← get).addressConnectionMap.lookup address with
  | some existing =>
      if existing ≠ c then
        putAddress address c
        saveNow p
  | none =>
      saveNow p
      putAddress address c

/-- `BitmeshServer.stopWatchingAddress`; there may be no address yet. -/
def stopWatching (address : Option Address) (c : ConnRef) : Method Unit := do
  match address with
  | none => return
  | some a =>
      if (← get).addressConnectionMap.lookup a = some c then
        saveNow p
        removeAddress a c

/-- `BitmeshServer.getFundingTransactionsForAddress`: a set by hash. An
output that is not paid to a key hash has no address and throws. -/
def getFundingTransactionsForAddress (address : Address) :
    List (TransactionOutput × Transaction) → Except JavaException (List Transaction)
  | [] => .ok []
  | (output, tx) :: rest =>
      match p.addressFromP2PKHScript output.script with
      | none => .error .nullPointer
      | some a => do
          let txs ← getFundingTransactionsForAddress address rest
          if a = address ∧ ¬ txs.any (fun t => p.getHash t = p.getHash tx) then
            return tx :: txs
          else
            return txs

/-! ## The connection -/

/-- `Short.MAX_VALUE`, the largest message the socket handler reads and
writes. -/
def maxMessageSize : Nat := 32767

/-- `conn.sendToClient`. -/
def sendToClient (c : ConnRef) (m : ServerMessage) : Method Unit := do
  checkState (p.encodedSize m ≤ maxMessageSize)
  note (.sent c m)

/-- `PaymentChannelServer.stopWatchingAddress`. -/
def stopWatchingAddress (c : ConnRef) : Method Unit := do
  let sv ← readServer c
  let version ← nonNull sv.clientVersion
  if version.minor = browserMicropaymentsMinorVersion then
    stopWatching p sv.fundingAddress c
  else if version.minor = browserMacropaymentMinorVersion then
    stopWatching p (some sv.myAddress) c

/-- `conn.destroyConnection`. The socket is closed later, by the thread
that owns it; `stopWatchingAddress` is called at once. -/
def destroyConnection (c : ConnRef) (reason : CloseReason) : Method Unit := do
  note (.destroyed c reason)
  stopWatchingAddress p c

/-- A call of the `ConnectedClient`, which may throw. -/
def callback (which : Callback) : Method Unit :=
  match env.callbackThrows which with
  | some e => throw e
  | none => pure ()

/-- `getRefundTransactionUnlockTime`, which `ConnectedClient.channelOpen`
logs. -/
def getRefundTransactionUnlockTime (s : StateRef) : Method Int := do
  let st ← readState s
  checkState (State.waitingForMultisigContract.ordinal < st.state.ordinal
    ∧ st.state ≠ .error)
  return st.refundTransactionUnlockTimeSecs

/-- `conn.channelOpen`: the client looks the channel up and reads its
state. -/
def connChannelOpen (c : ConnRef) (contractHash : Sha256Hash) : Method Unit := do
  note (.channelOpen c contractHash)
  callback env .channelOpen
  match ← getChannel contractHash with
  | none => return
  | some r =>
      let s ← getOrCreateState p r
      let _ ← getRefundTransactionUnlockTime s

/-- `conn.paymentIncrease`. `ConnectedClient` answers `null`, so the
acknowledgement never waits for more. -/
def paymentIncrease (c : ConnRef) (amount total : Coin) (info : Option Bytes) :
    Method Unit := do
  note (.paymentIncrease c amount total info)
  callback env .paymentIncrease

/-- An assignment to `step`. -/
def setStep (c : ConnRef) (step : InitStep) : Method Unit := do
  modifyServer c fun sv => { sv with step := step }
  note (.stepped c step)

/-- `error`. Without a message the builder of the ERROR throws. -/
def error (c : ConnRef) (message : Option String) (errorCode : ErrorCode)
    (closeReason : CloseReason) : Method Unit := do
  let explanation ← nonNull message
  sendToClient p c (.error errorCode explanation)
  destroyConnection p c closeReason

/-- `PaymentChannelServer.close`. -/
def serverClose (c : ConnRef) : Method Unit := do
  let sv ← readServer c
  if sv.connectionOpen then
    sendToClient p c (.close (sv.finalTransaction.map p.serializeTransaction))
    destroyConnection p c .serverRequestedClose

/-! ## The handshake -/

/-- `sendInitiate`. -/
def sendInitiate (c : ConnRef) : Method Unit := do
  let sv ← readServer c
  sendToClient p c (.initiate sv.expireTime sv.minAcceptedChannelSize.value
    Coin.referenceDefaultMinTxFee.value)
  setStep c .waitingOnUnsignedRefund

/-- `truncateTimeWindow`. -/
def TimeWindow.truncate (window : TimeWindow) (timeWindow : Int) : Int :=
  if timeWindow < window.minTimeWindow then window.minTimeWindow
  else if window.maxTimeWindow < timeWindow then window.maxTimeWindow
  else timeWindow

/-- `expireTime = Utils.currentTimeSeconds() + truncateTimeWindow(...)`. -/
def setExpireTime (c : ConnRef) (now timeWindowSecs : Int) : Method Unit := do
  modifyServer c fun sv =>
    { sv with expireTime := addLong now (sv.window.truncate timeWindowSecs) }
  note (.expirySet c now)

/-- A resuming connection becomes the channel's handler; one that was
there before is told to close. -/
def takeOver (c : ConnRef) (r : ChannelRef) : Method Unit := do
  let existingHandler ← setConnectedHandler r c false
  if existingHandler ≠ c then
    note (.superseded existingHandler r)
    serverClose p existingHandler
    let _ ← setConnectedHandler r c true

/-- The branch of `receiveVersionMessage` that resumes a stored channel. -/
def resumeChannel (c : ConnRef) (contractHash : Sha256Hash) (r : ChannelRef) :
    Method Unit := do
  takeOver p c r
  let s ← getOrCreateState p r
  modifyServer c fun sv => { sv with state := some s }
  setStep c .channelOpen
  sendToClient p c .channelOpen
  connChannelOpen p env c contractHash
  let _ ← nonNull (← readServer c).client
  note (.reloadedChannel c)
  callback env .setReloadedChannel

/-- The rest of `receiveVersionMessage`: a new channel is negotiated. -/
def offerChannel (c : ConnRef) (version : ClientVersion) : Method Unit := do
  setExpireTime c env.now version.timeWindowSecs
  let sv ← readServer c
  let client ← nonNull sv.client
  sendToClient p c (.price client.maxPrice sv.myKey.pub)
  if version.minor = appMinorVersion then
    modifyServer c fun sv =>
      { sv with myKey := ECKey.fromPrivate p.toBitcoinj env.freshKey }
    saveNow p
    setExpireTime c env.later version.timeWindowSecs
    sendInitiate p c
  else if version.minor = browserMicropaymentsMinorVersion then
    setStep c .waitingOnFundingAddress
  else if version.minor = browserMacropaymentMinorVersion then
    setStep c .waitingOnFunding
    watchAddress p sv.myAddress c

/-- The contract a client asks to resume, if it is stored. Only a hash of
32 bytes is looked at. -/
def resumedChannel (w : World) (version : ClientVersion) : Option (Sha256Hash × ChannelRef) :=
  let contractHash : Sha256Hash := ⟨version.previousChannelContractHash⟩
  if version.previousChannelContractHash.length = 32 ∧ w.extensionInstalled then
    (w.mapChannels.lookup contractHash).map fun r => (contractHash, r)
  else none

/-- `receiveVersionMessage`. -/
def receiveVersionMessage (c : ConnRef) (msg : TwoWayChannelMessage) : Method Unit := do
  let sv ← readServer c
  checkState (sv.step = .waitingOnClientVersion ∧ msg.clientVersion.isSome)
  let version ← nonNull msg.clientVersion
  modifyServer c fun sv => { sv with clientVersion := some version }
  if version.major ≠ serverMajorVersion then
    error p c
      (some ("This server needs protocol version " ++ toString serverMajorVersion
        ++ " , client offered " ++ toString version.major))
      .noAcceptableVersion .noAcceptableVersion
  else
    sendToClient p c (.serverVersion serverMajorVersion serverMinorVersion)
    match resumedChannel (← get) version with
    | some (contractHash, r) => resumeChannel p env c contractHash r
    | none => offerChannel p env c version

/-- `getAmountSentToAddress`. -/
def getAmountSentToAddress (address : Address) :
    List TransactionOutput → Except JavaException Int
  | [] => .ok 0
  | output :: rest =>
      match p.addressFromP2PKHScript output.script with
      | none => .error .nullPointer
      | some a =>
          if a = address then do
            let value ← output.getValue
            let sum ← getAmountSentToAddress address rest
            return addLong value.value sum
          else getAmountSentToAddress address rest

/-- `sendFunding` for a macropayment browser: the coins are the payment. -/
def acknowledgeFunding (c : ConnRef) (sv : PaymentChannelServer) (tx : Transaction) :
    Method Unit := do
  let amountSpent ← orThrow (getAmountSentToAddress p sv.myAddress tx.outputs)
  let totalSent := addLong sv.totalSent amountSpent
  modifyServer c fun sv => { sv with totalSent := totalSent }
  let client ← nonNull sv.client
  if client.maxPrice = 0 then
    throw ⟨.arithmetic, some "/ by zero"⟩
  sendToClient p c
    (.paymentAck none (some amountSpent) (some (amountSpent.tdiv client.maxPrice)))
  let amount ← orThrow (Coin.valueOf amountSpent)
  let total ← orThrow (Coin.valueOf totalSent)
  paymentIncrease env c amount total none

/-- `sendFunding` for a micropayment browser: the first transaction is
followed by INITIATE. -/
def forwardFunding (c : ConnRef) (sv : PaymentChannelServer) (tx : Transaction) :
    Method Unit := do
  sendToClient p c (.funding (p.serializeTransaction tx))
  let numFundingSent := incInt sv.numFundingSent
  modifyServer c fun sv => { sv with numFundingSent := numFundingSent }
  if numFundingSent < 2 then
    sendInitiate p c

/-- `sendFunding`, which also runs from the wallet's listener. -/
def sendFunding (c : ConnRef) (tx : Transaction) : Method Unit := do
  let sv ← readServer c
  let version ← nonNull sv.clientVersion
  if version.minor = browserMacropaymentMinorVersion then
    acknowledgeFunding p env c sv tx
  else if version.minor = browserMicropaymentsMinorVersion then
    forwardFunding p c sv tx

/-- `receiveFundingAddress`. -/
def receiveFundingAddress (c : ConnRef) (msg : TwoWayChannelMessage) : Method Unit := do
  let sv ← readServer c
  let client ← nonNull sv.client
  modifyServer c fun sv =>
    { sv with client := some { client with negotiatedPrice := client.maxPrice } }
  checkState (sv.step = .waitingOnFundingAddress ∧ msg.fundingAddress.isSome)
  let text ← nonNull msg.fundingAddress
  setStep c .waitingOnUnsignedRefund
  match p.parseAddress text with
  | .error message => throw ⟨.addressFormat, some message⟩
  | .ok address =>
      modifyServer c fun sv => { sv with fundingAddress := some address }
      watchAddress p address c
      let funding ← orThrow
        (getFundingTransactionsForAddress p address env.watchedOutputs)
      funding.forM (sendFunding p env c)

/-- `receiveRefundMessage`. The check of `step` is commented out. -/
def receiveRefundMessage (c : ConnRef) (msg : TwoWayChannelMessage) : Method Unit := do
  checkState msg.provideRefund.isSome
  let providedRefund ← nonNull msg.provideRefund
  let sv ← readServer c
  let s ← newState sv.myKey sv.expireTime
  modifyServer c fun sv => { sv with state := some s }
  let refundTx ← orThrow (p.parseTransaction providedRefund.tx)
  let signature ← provideRefundTransaction p s refundTx providedRefund.multisigKey
  note (.keyUsed c (← readState s).serverKey.pub)
  setStep c .waitingOnContract
  sendToClient p c (.returnRefund signature)

/-- `receiveContractMessage`. -/
def receiveContractMessage (c : ConnRef) (msg : TwoWayChannelMessage) : Method Unit := do
  let sv ← readServer c
  checkState (sv.step = .waitingOnContract ∧ msg.provideContract.isSome)
  let providedContract ← nonNull msg.provideContract
  let multisigContract ← orThrow (p.parseTransaction providedContract.tx)
  setStep c .waitingOnMultisigAcceptance
  let s ← nonNull sv.state
  provideMultiSigContract p s multisigContract c providedContract

/-! ## Payments -/

/-- `settlePayment`. A future that is already done runs its callback at
once. -/
def settlePayment (c : ConnRef) (reason : CloseReason) : Method Unit := do
  modifyServer c fun sv => { sv with channelSettling := true }
  let s ← nonNull (← readServer c).state
  match ← close p env s with
  | .abandoned => return
  | .closedFuture =>
      match (← readState s).closedFuture with
      | .pending =>
          modifyState s fun st =>
            { st with closeCallbacks := st.closeCallbacks ++ [(c, reason)] }
      | .set result => modifyServer c fun sv => { sv with finalTransaction := result }
      | .failed =>
          -- what the callback throws is logged by the future
          tryCatch (destroyConnection p c reason) fun _ => pure ()

/-- `receiveUpdatePaymentMessage`; both callers ask for an acknowledgement. -/
def receiveUpdatePaymentMessage (c : ConnRef) (msg : UpdatePayment) : Method Unit := do
  let s ← nonNull (← readServer c).state
  let lastBestPayment := (← readState s).bestValueToMe
  let refundSize ← orThrow (Coin.valueOf msg.clientChangeValue)
  let stillUsable ← incrementPayment p env s refundSize msg.signature
  let bestValueToMe := (← readState s).bestValueToMe
  let bestPaymentChange ← orThrow (bestValueToMe.subtract lastBestPayment)
  if 0 < bestPaymentChange.value then
    note (.credited c s bestPaymentChange bestValueToMe)
    paymentIncrease env c bestPaymentChange bestValueToMe msg.info
  sendToClient p c (.paymentAck none none none)
  if ¬ stillUsable then
    settlePayment p env c .channelExhausted

/-- `receiveCloseMessage`. -/
def receiveCloseMessage (c : ConnRef) : Method Unit := do
  if (← readServer c).state.isSome then
    settlePayment p env c .clientRequestedClose
  else
    destroyConnection p c .clientRequestedClose

/-- What `multisigContractPropogated` catches of the initial payment. -/
def isPaymentFailure (e : JavaException) : Bool :=
  e.cls = .verification ∨ e.cls = .valueOutOfRange ∨ e.cls = .insufficientMoney

/-- `multisigContractPropogated`. It works on the state the connection
has now, which need not be the one whose contract was broadcast. -/
def multisigContractPropogated (c : ConnRef) (providedContract : ProvideContract)
    (contractHash : Sha256Hash) : Method Unit := do
  let sv ← readServer c
  if ¬ sv.connectionOpen ∨ sv.channelSettling then
    return
  let s ← nonNull sv.state
  storeChannelInWallet p env s c
  note (.channelStored s)
  let failure ← tryCatch
    (do receiveUpdatePaymentMessage p env c providedContract.initialPayment
        return none)
    fun e => if isPaymentFailure e then pure (some e) else throw e
  match failure with
  | some e => error p c e.message .badTransaction .remoteSentInvalidMessage
  | none =>
      sendToClient p c .channelOpen
      note (.opened c s)
      setStep c .channelOpen
      connChannelOpen p env c contractHash

/-! ## Messages -/

/-- The `switch` of `receiveMessage`. -/
def handleMessage (c : ConnRef) (msg : TwoWayChannelMessage) : Method Unit := do
  match msg.type with
  | .clientVersion => receiveVersionMessage p env c msg
  | .fundingAddress => receiveFundingAddress p env c msg
  | .provideRefund => receiveRefundMessage p c msg
  | .provideContract => receiveContractMessage p c msg
  | .updatePayment =>
      let sv ← readServer c
      checkState (sv.step = .channelOpen ∧ msg.updatePayment.isSome)
      let payment ← nonNull msg.updatePayment
      let s ← nonNull sv.state
      note (.updateApplied c s)
      receiveUpdatePaymentMessage p env c payment
  | .close => receiveCloseMessage p env c
  | .error =>
      checkState msg.hasError
      destroyConnection p c .remoteSentError
  | _ =>
      error p c (some "Got unknown message type or type that doesn't apply to servers.")
        .syntaxError .remoteSentInvalidMessage

/-- The error code `receiveMessage` answers an exception with; what it
catches last it only prints. -/
def answerTo (e : JavaException) : Option ErrorCode :=
  match e.cls with
  | .verification => some .badTransaction
  | .addressFormat => some .invalidAddress
  | .valueOutOfRange => some .badTransaction
  | .insufficientMoney => some .badTransaction
  | .illegalState => some .syntaxError
  | _ => none

/-- `receiveMessage`. -/
def receiveMessage (c : ConnRef) (msg : TwoWayChannelMessage) : Method Unit := do
  let sv ← readServer c
  checkState sv.connectionOpen
  if sv.channelSettling then
    return
  tryCatch (handleMessage p env c msg) fun e =>
    match answerTo e with
    | some errorCode => error p c e.message errorCode .remoteSentInvalidMessage
    | none => pure ()

/-! ## Connections -/

/-- `connectionClosed`. -/
def connectionClosed (c : ConnRef) : Method Unit := do
  modifyServer c fun sv => { sv with connectionOpen := false }
  note (.connectionClosed c)
  match (← readServer c).state with
  | none => return
  | some s =>
      -- `getMultisigContract` throws without a contract, which is caught
      match (← readState s).multisigContract with
      | none => return
      | some contract =>
          if (← get).extensionInstalled then
            match ← getChannel (p.getHash contract) with
            | none => return
            | some r => clearConnectedHandler r

/-- The constructor of `PaymentChannelServer`. -/
def newServer (minAcceptedChannelSize : Coin) (window : TimeWindow) : Method ConnRef := do
  let myKey := ECKey.fromPrivate p.toBitcoinj env.freshKey
  saveNow p
  let w ← get
  set { w with servers := (w.servers.alloc {
    minAcceptedChannelSize := minAcceptedChannelSize
    window := window
    myKey := myKey
    myAddress := p.toAddress myKey.pub }).2 }
  return w.servers.next

end BitMesh.Channels
