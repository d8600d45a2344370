import BitMesh.CloudServer.Broadcasting

/-!
# Posting a transaction

`TransactionServlet.doPost` reads the body as a MainNet transaction and, if
that throws, as a TestNet one. The first statement of the first attempt
logs the hash of a transaction that is not there yet, which throws: no body
is ever read as a MainNet transaction.
-/

namespace BitMesh.CloudServer

open BitMesh.Bitcoin BitMesh.Lib

/-- A request whose body has been received. -/
structure PostRequest where
  body : Bytes
  /-- the header `x-forwarded-for` -/
  forwardedFor : Option String
  remoteAddr : String

def PostRequest.getIP (req : PostRequest) : String := req.forwardedFor.getD req.remoteAddr

/-- A row of table `REFUNDTX`; the times are in milliseconds. -/
structure RefundPost where
  txId : String
  lockTime : Option Nat
  dateSubmitted : Nat
  amountSatoshi : Int
  isMainNet : Bool
  succeeded : Bool
  ip : String
  deriving DecidableEq

/-- What is not part of the servlet: parsing and verifying a body, the
texts it prints, and `ServerConfig.BITMESH_TEST`. -/
structure PostingLibrary where
  parse : NetworkParameters → Bytes → Except JavaException Transaction
  verify : NetworkParameters → Bytes → Except JavaException Unit
  getHashAsString : Transaction → String
  getStackTrace : JavaException → String
  dateText : Nat → String
  bitmeshTest : Bool

/-- The server and the response to the request. -/
structure PostingState where
  timer : BroadcasterTimer := {}
  refunds : List RefundPost := []
  status : Option Nat := none
  out : List String := []

namespace PostingLibrary

variable (lib : PostingLibrary)

/-- `new Transaction(params, body)` and `verify()`. -/
def read (params : NetworkParameters) (body : Bytes) : Except JavaException NetworkTransaction := do
  let transaction ← lib.parse params body
  lib.verify params body
  return ⟨params, transaction⟩

/-- `new RefundPost(trans, ip, isMainNet)`, which reads the first output. -/
def refundPost (millis : Nat) (trans : Transaction) (ip : String) (isMainNet : Bool) :
    Except JavaException RefundPost := do
  let output ← trans.output0
  let amount ← output.getValue
  return {
    txId := lib.getHashAsString trans
    lockTime := if trans.lockTime ≠ 0 then some (trans.lockTime.toNat * 1000) else none
    dateSubmitted := millis
    amountSatoshi := amount.value
    isMainNet := isMainNet
    succeeded := false
    ip := ip }

/-- The answer to a body that is no transaction. -/
def failure (e : JavaException) : String :=
  if lib.bitmeshTest then
    "<html><body><p>Failed to parse transaction: " ++ lib.getStackTrace e ++ "</p></body></html>"
  else "<html><body><p>Failed to parse transaction.</p></body></html>"

/-- The two attempts; nothing comes out of them after a failure was
answered. -/
def readBody (req : PostRequest) :
    EStateM JavaException PostingState (Option (NetworkTransaction × Bool)) := do
  let trans : Option NetworkTransaction := none
  tryCatch
    (do
      -- the log line
      let _ ← nonNull trans
      let trans ← orThrow (lib.read .mainNet req.body)
      return some (trans, true))
    fun e =>
      tryCatch
        (do
          let trans ← orThrow (lib.read .testNet3 req.body)
          return some (trans, false))
        fun _ => do
          modify fun s => { s with status := some 400, out := s.out ++ [lib.failure e] }
          return none

/-- `doPost`, after the body was received. -/
def doPost (millis : Nat) (req : PostRequest) : EStateM JavaException PostingState Unit := do
  match ← lib.readBody req with
  | none => return
  | some (transaction, isMainNet) =>
      let server ← get
      let timer ← orThrow (server.timer.scheduleTransactionBroadcast millis transaction)
      modify fun s => { s with
        timer := timer
        status := some 200
        out := s.out ++ ["Transaction will be posted at: " ++
          lib.dateText (transaction.transaction.lockTime.toNat * 1000)] }
      let refundPost ← orThrow
        (lib.refundPost millis transaction.transaction req.getIP isMainNet)
      modify fun s => { s with refunds := s.refunds ++ [refundPost] }

end PostingLibrary

/-- The transaction is left to the timer and recorded for its network. -/
def Recorded (lib : PostingLibrary) (millis : Nat) (req : PostRequest) (s : PostingState)
    (trans : NetworkTransaction) (isMainNet : Bool) : Prop :=
  wp (lib.doPost millis req) s
    (fun _ s' => s.timer.scheduleTransactionBroadcast millis trans = .ok s'.timer ∧
      ∃ post, s'.refunds = s.refunds ++ [post] ∧
        post.txId = lib.getHashAsString trans.transaction ∧ post.isMainNet = isMainNet)
    fun _ _ => False

/-- The request is refused, and nothing else happens. -/
def Refused (lib : PostingLibrary) (millis : Nat) (req : PostRequest) (s : PostingState) : Prop :=
  wp (lib.doPost millis req) s
    (fun _ s' => s'.status = some 400 ∧ s'.timer = s.timer ∧ s'.refunds = s.refunds)
    fun _ _ => False

/-- MainNet is tried before TestNet, and what is neither is refused. -/
structure RightNetwork (lib : PostingLibrary) (millis : Nat) (req : PostRequest)
    (s : PostingState) : Prop where
  mainNet : ∀ transaction, lib.read .mainNet req.body = .ok transaction →
    Recorded lib millis req s transaction true
  testNet : ∀ e transaction, lib.read .mainNet req.body = .error e →
    lib.read .testNet3 req.body = .ok transaction →
      Recorded lib millis req s transaction false
  neither : ∀ e e', lib.read .mainNet req.body = .error e →
    lib.read .testNet3 req.body = .error e' → Refused lib millis req s

/-- The timer takes the transaction, and its first output has an amount. -/
def Recordable (millis : Nat) (tx : Transaction) : Prop :=
  Schedulable millis tx ∧ ∃ output amount, tx.output0 = .ok output ∧ output.getValue = .ok amount

/-! ## What the servlet does -/

section
variable {lib : PostingLibrary} {millis : Nat} {req : PostRequest} {s : PostingState}

/-- The second attempt is the only one that can succeed. -/
theorem wp_readBody {Q : Option (NetworkTransaction × Bool) → PostingState → Prop}
    {E : JavaException → PostingState → Prop} :
    wp (lib.readBody req) s Q E ↔
      (∀ transaction, lib.read .testNet3 req.body = .ok transaction →
        Q (some (transaction, false)) s) ∧
      ∀ e, lib.read .testNet3 req.body = .error e →
        Q none { s with status := some 400, out := s.out ++ [lib.failure .nullPointer] } := by
  simp [PostingLibrary.readBody]

theorem wp_doPost_error {Q : Unit → PostingState → Prop}
    {E : JavaException → PostingState → Prop} {e : JavaException}
    (h : lib.read .testNet3 req.body = .error e) :
    wp (lib.doPost millis req) s Q E ↔
      Q () { s with status := some 400, out := s.out ++ [lib.failure .nullPointer] } := by
  simp [PostingLibrary.doPost, wp_readBody, h]

theorem wp_doPost_ok {Q : Unit → PostingState → Prop} {E : JavaException → PostingState → Prop}
    {transaction : NetworkTransaction} (h : lib.read .testNet3 req.body = .ok transaction) :
    wp (lib.doPost millis req) s Q E ↔
      (∀ timer, s.timer.scheduleTransactionBroadcast millis transaction = .ok timer →
        let out := s.out ++ ["Transaction will be posted at: " ++
          lib.dateText (transaction.transaction.lockTime.toNat * 1000)]
        (∀ post, lib.refundPost millis transaction.transaction req.getIP false = .ok post →
          Q () ⟨timer, s.refunds ++ [post], some 200, out⟩) ∧
        ∀ e, lib.refundPost millis transaction.transaction req.getIP false = .error e →
          E e ⟨timer, s.refunds, some 200, out⟩) ∧
      ∀ e, s.timer.scheduleTransactionBroadcast millis transaction = .error e → E e s := by
  simp [PostingLibrary.doPost, wp_readBody, h]

theorem refundPost_eq_ok {tx : Transaction} {ip : String} {isMainNet : Bool} {post : RefundPost}
    (h : lib.refundPost millis tx ip isMainNet = .ok post) :
    (∃ output amount, tx.output0 = .ok output ∧ output.getValue = .ok amount) ∧
      post.txId = lib.getHashAsString tx ∧ post.isMainNet = isMainNet := by
  obtain ⟨output, houtput, h⟩ := exists_of_bind_eq_ok h
  obtain ⟨amount, hamount, h⟩ := exists_of_bind_eq_ok h
  cases h
  exact ⟨⟨output, amount, houtput, hamount⟩, rfl, rfl⟩

theorem exists_refundPost (lib : PostingLibrary) (millis : Nat) {tx : Transaction}
    {output : TransactionOutput} {amount : Coin} (houtput : tx.output0 = .ok output) (hamount : output.getValue = .ok amount) (ip : String)
    (isMainNet : Bool) : ∃ post, lib.refundPost millis tx ip isMainNet = .ok post := by
  unfold PostingLibrary.refundPost
  rw [houtput, ok_bind, hamount, ok_bind]
  exact ⟨_, rfl⟩

/-- No post is recorded for MainNet. -/
theorem not_recorded_mainNet (transaction : NetworkTransaction) :
    ¬ Recorded lib millis req s transaction true := by
  intro h
  unfold Recorded at h
  cases hread : lib.read .testNet3 req.body with
  | error e =>
      obtain ⟨-, post, hrefunds, -⟩ := (wp_doPost_error hread).mp h
      simp at hrefunds
  | ok testTransaction =>
      obtain ⟨hscheduled, hfailed⟩ := (wp_doPost_ok hread).mp h
      cases htimer : s.timer.scheduleTransactionBroadcast millis testTransaction with
      | error e => exact hfailed e htimer
      | ok timer =>
          obtain ⟨hposted, hnone⟩ := hscheduled timer htimer
          cases hpost :
              lib.refundPost millis testTransaction.transaction req.getIP false with
          | error e => exact hnone e hpost
          | ok post =>
              -- the post that was recorded is one for TestNet
              obtain ⟨-, post', hrefunds, -, hmain⟩ := hposted post hpost
              have hpost' : post = post' := by simpa using hrefunds
              rw [← hpost', (refundPost_eq_ok hpost).2.2] at hmain
              cases hmain

theorem recorded_testNet_iff {transaction : NetworkTransaction}
    (h : lib.read .testNet3 req.body = .ok transaction) :
    Recorded lib millis req s transaction false ↔ Recordable millis transaction.transaction := by
  unfold Recorded Recordable
  rw [wp_doPost_ok h, ← exists_scheduled_iff s.timer]
  constructor
  · rintro ⟨hscheduled, hfailed⟩
    cases htimer : s.timer.scheduleTransactionBroadcast millis transaction with
    | error e => exact absurd htimer (hfailed e)
    | ok timer =>
        refine ⟨⟨timer, rfl⟩, ?_⟩
        cases hpost : lib.refundPost millis transaction.transaction req.getIP false with
        | error e => exact absurd hpost ((hscheduled timer htimer).2 e)
        | ok post => exact (refundPost_eq_ok hpost).1
  · rintro ⟨⟨timer, htimer⟩, output, amount, houtput, hamount⟩
    obtain ⟨post, hpost⟩ :=
      exists_refundPost lib millis houtput hamount req.getIP false
    refine ⟨?_, ?_⟩
    · intro timer' htimer'
      refine ⟨?_, ?_⟩
      · intro post' hpost'
        exact ⟨htimer', post', rfl, (refundPost_eq_ok hpost').2⟩
      · intro e he
        rw [hpost] at he
        cases he
    · intro e he
      rw [htimer] at he
      cases he

end

/-- The network is the right one if, and only if, the body is no MainNet
transaction and, if it is a TestNet one, it can be scheduled and recorded. -/
theorem right_network_iff (lib : PostingLibrary) (millis : Nat) (req : PostRequest)
    (s : PostingState) :
    RightNetwork lib millis req s ↔
      (∃ e, lib.read .mainNet req.body = .error e) ∧
        ∀ transaction, lib.read .testNet3 req.body = .ok transaction →
          Recordable millis transaction.transaction := by
  constructor
  · intro h
    cases hmain : lib.read .mainNet req.body with
    | ok transaction => exact absurd (h.mainNet transaction hmain) (not_recorded_mainNet _)
    | error e =>
        refine ⟨⟨e, rfl⟩, ?_⟩
        intro transaction htest
        exact (recorded_testNet_iff htest).mp (h.testNet e transaction hmain htest)
  · rintro ⟨⟨e, hmain⟩, hrecordable⟩
    constructor
    · intro transaction hok
      rw [hmain] at hok
      cases hok
    · intro _ transaction _ htest
      exact (recorded_testNet_iff htest).mpr (hrecordable transaction htest)
    · intro _ _ _ hneither
      exact (wp_doPost_error hneither).mpr ⟨rfl, rfl, rfl⟩

/-- A body that both networks take for a transaction without locks, with
one output. -/
def payment : PostingLibrary where
  parse _ _ := .ok ⟨1, [⟨⟨.zero, 0⟩, ⟨[]⟩, 0xFFFFFFFF⟩], [⟨10000, ⟨[]⟩⟩], 0⟩
  verify _ _ := .ok ()
  getHashAsString _ := "payment"
  getStackTrace _ := ""
  dateText _ := ""
  bitmeshTest := false

/-- What MainNet takes is broadcast on TestNet. -/
theorem mainNet_taken_for_testNet :
    let req : PostRequest := ⟨[1], none, "10.0.0.2"⟩
    ¬ RightNetwork payment 0 req {} ∧
      wp (payment.doPost 0 req) {}
        (fun _ s => s.status = some 200 ∧ s.refunds.map (·.isMainNet) = [false] ∧
          s.timer.broadcasts.map (·.tx.params) = [.testNet3])
        fun _ _ => False := by
  refine ⟨?_, by decide +kernel⟩
  intro h
  exact not_recorded_mainNet _ (h.mainNet _ rfl)

end BitMesh.CloudServer
