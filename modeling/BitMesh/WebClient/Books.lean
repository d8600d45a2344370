import BitMesh.WebClient.Browser

/-!
# The books of the page

`Books` is what the page remembers of its funding outputs. Of all handlers
only those that receive a transaction, create a channel or see one used up
write to them, and an event makes at most one entry of each kind.
-/

namespace BitMesh.WebClient

open BitMesh.Bitcoin (Bytes)
open BitMesh.Lib

/-- The variables about funding outputs, with what was received and created. -/
structure Books where
  numFundingOutputs : Nat
  fundingOutputsUsed : Nat
  fundingOutputs : List FundingOutput
  fundingTxHashes : List Bytes
  received : List FundingTx
  created : List Channel

/-- What some outputs are worth. -/
def satoshis (outputs : List FundingOutput) : ℚ :=
  (outputs.map fun output => (output.utxo.satoshis : ℚ)).sum

/-! ## Entries -/

/-- The outputs that the loop over a transaction comes to. -/
def scanned (outputs : List FundingTxOutput) : List FundingTxOutput :=
  outputs.takeWhile fun output => (fromBuffer output.script).isSome

/-- Those that it registers, from the `j`-th on. -/
def claimed (page : Page) (txId : Bytes) (j : Nat) (outputs : List FundingTxOutput) :
    List UnspentOutput :=
  (((scanned outputs).zipIdx j).filter fun output =>
    toAddress page.lib output.1.script = some (some page.fundingAddress)).map fun output =>
      Browser.FundingTxOutput.utxo txId output.2 output.1

namespace Books

variable (k : Books)

/-- The sum in `update_escrow_amount`. -/
def total : ℚ :=
  satoshis (k.fundingOutputs.filter fun output => output.outputState ≠ some .depleted)

def window : List FundingOutput := (k.fundingOutputs.take k.numFundingOutputs).drop
  k.fundingOutputsUsed

/-- The part of the window that can be attached. -/
def kept : List FundingOutput := k.window.takeWhile fun output => output.utxo.isPublicKeyHashOut

/-- A run of `create_payment_channel` that `initiate` starts. -/
def channel : Channel where
  number := k.created.length
  escrowAmount := k.total - Browser.fee
  outputs := k.kept.map FundingOutput.utxo
  finished := k.kept.length = k.window.length

def create : Books :=
  { k with
    created := k.created ++ [k.channel]
    fundingOutputs := k.fundingOutputs.take k.fundingOutputsUsed ++ k.kept.map Browser.attach ++
      k.fundingOutputs.drop (k.fundingOutputsUsed + k.kept.length)
    fundingOutputsUsed := if k.channel.finished then k.numFundingOutputs
      else k.fundingOutputsUsed }

def deplete : Books := { k with fundingOutputs := k.fundingOutputs.map Browser.deplete }

def register (utxo : UnspentOutput) : Books :=
  let pushed : FundingOutput := ⟨utxo, none⟩
  { k with
    fundingOutputs := (k.fundingOutputs ++ [pushed]).modify k.numFundingOutputs Browser.unprocess
    fundingTxHashes := k.fundingTxHashes ++ [utxo.txId]
    numFundingOutputs := k.numFundingOutputs + 1 }

/-- What a transaction adds. -/
def incoming (page : Page) (tx : FundingTx) : List UnspentOutput :=
  if k.fundingTxHashes.contains tx.id then []
  else (Browser.refundInput page.lib tx).join.elim [] fun _ => claimed page tx.id 0 tx.outputs

def receive (page : Page) (tx : FundingTx) : Books :=
  (k.incoming page tx).foldl register { k with received := k.received ++ [tx] }

end Books

/-- The transaction that an event delivers. -/
def PageEvent.transaction : PageEvent → Option FundingTx
  | .receives (.funding transaction) _ => transaction
  | _ => none

/-- What an event does to the books. -/
inductive Entry (page : Page) (event : PageEvent) (k : Books) : Books → Prop where
  | kept : Entry page event k k
  | deplete : Entry page event k k.deplete
  | create : Entry page event k k.create
  | receive {tx : FundingTx} (h : event.transaction = some tx) :
      Entry page event k (k.receive page tx)
  | receiveCreate {tx : FundingTx} (h : event.transaction = some tx) :
      Entry page event k (k.receive page tx).create

namespace Browser

def books (b : Browser) : Books where
  numFundingOutputs := b.numFundingOutputs
  fundingOutputsUsed := b.fundingOutputsUsed
  fundingOutputs := b.fundingOutputs
  fundingTxHashes := b.fundingTxHashes
  received := b.received
  created := b.created

/-- What the page knows of the acknowledgements. -/
def pending (b : Browser) : Nat × Bool := (b.numUnackedPaymentUpdates, b.receivedAck)

/-- What most handlers leave alone. -/
def ledger (b : Browser) : Books × Nat × Bool := (b.books, b.pending)

theorem keeps_books {α : Type} {m : Handler α} (h : Keeps ledger m) : Keeps books m :=
  h.comp Prod.fst

theorem keeps_pending {α : Type} {m : Handler α} (h : Keeps ledger m) : Keeps pending m :=
  h.comp Prod.snd

/-! ## Handlers that make none -/

theorem setChannelState_keeps (newState : ChannelState) :
    Keeps ledger (setChannelState newState) := by
  apply Keeps.get_bind
  intro b
  rw [wp_ite]
  exact ⟨fun _ => rfl, fun _ => rfl⟩

theorem defined_keeps {α : Type} (x : Option α) : Keeps ledger (defined x) := by
  cases x with
  | none => exact .throw _
  | some a => exact .pure a

theorem sendMessage_keeps (message : FromClient) : Keeps ledger (sendMessage message) := by
  apply Keeps.modify
  intro b
  split <;> rfl

theorem cancelPayments_keeps : Keeps ledger cancelPayments := .modify fun _ => rfl

theorem sendVersion_keeps : Keeps ledger sendVersion :=
  .read fun _ => (sendMessage_keeps _).bind fun _ => setChannelState_keeps _

theorem startPaymentChannel_keeps : Keeps ledger startPaymentChannel :=
  cancelPayments_keeps.bind fun _ => sendVersion_keeps

theorem exitWithErrorCode_keeps : Keeps ledger exitWithErrorCode :=
  (sendMessage_keeps _).bind fun _ => .modify_bind (fun _ => rfl) (setChannelState_keeps _)

theorem receiveVersion_keeps (major minor : Int) : Keeps ledger (receiveVersion major minor) :=
  .ite (fun _ => exitWithErrorCode_keeps) fun _ => setChannelState_keeps _

theorem sendFundingAddress_keeps : Keeps ledger sendFundingAddress :=
  (sendMessage_keeps _).bind fun _ => setChannelState_keeps _

theorem sendRefund_keeps (page : Page) (signing : Signing) :
    Keeps ledger (sendRefund page signing) := by
  refine .read fun b => (defined_keeps _).bind fun numbered => ?_
  split
  · exact .throw _
  · exact .modify_bind (fun _ => rfl) ((sendMessage_keeps _).bind fun _ =>
      setChannelState_keeps _)

theorem incrementPaymentBy_keeps (numbered : Numbered Consumer) (payment : Payment) (increment : ℚ)
    (sigtype : Sigtype) : Keeps ledger (incrementPaymentBy numbered payment increment sigtype) :=
  .modify_bind (fun _ => rfl) (.ite (fun _ => .throw _) fun _ => .pure _)

theorem sendContract_keeps (page : Page) : Keeps ledger (sendContract page) := by
  refine .read fun b => (defined_keeps _).bind fun numbered => ?_
  refine .modify_bind (fun _ => rfl) ((defined_keeps _).bind fun payment => ?_)
  refine .read fun b => (incrementPaymentBy_keeps _ _ _ _).bind fun payment => ?_
  refine .modify_bind (fun _ => rfl) ((defined_keeps _).bind fun _ => ?_)
  exact (sendMessage_keeps _).bind fun _ => setChannelState_keeps _

theorem receiveRefund_keeps (page : Page) (signing : Signing) (number : Nat) :
    Keeps ledger (receiveRefund page signing number) := by
  refine .read fun b => (defined_keeps _).bind fun numbered => ?_
  refine .ite (fun _ => ?_) fun _ => .throw _
  split
  · exact exitWithErrorCode_keeps
  · exact .modify_bind (fun _ => rfl) ((setChannelState_keeps _).bind fun _ =>
      sendContract_keeps page)

theorem receiveChannelOpen_keeps : Keeps ledger receiveChannelOpen :=
  .modify_bind (fun _ => rfl) (setChannelState_keeps _)

/-- A payment is not acknowledged when it is made. -/
theorem incrementPayment_keeps :
    Keeps (fun b => (b.books, b.numUnackedPaymentUpdates)) incrementPayment := by
  have hcount {α : Type} {m : Handler α} (h : Keeps ledger m) :
      Keeps (fun b => (b.books, b.numUnackedPaymentUpdates)) m := h.comp fun l => (l.1, l.2.1)
  apply Keeps.get_bind
  intro b
  refine wp_bind _ _ |>.mpr
    (wp.mono (hcount (defined_keeps _) b) (fun numbered t ht => ?_) fun _ _ h => h)
  refine wp_bind _ _ |>.mpr
    (wp.mono (hcount (defined_keeps _) t) (fun payment u hu => ?_) fun _ _ h => h.trans ht)
  rw [wp_bind, wp_set, wp_ite]
  refine ⟨fun _ => (hcount exitWithErrorCode_keeps).after rfl, fun _ => ?_⟩
  refine Keeps.after ?_ (rfl : (fun b => (b.books, b.numUnackedPaymentUpdates))
    { b with fullyUsedUp := _ } = _)
  refine .modify_bind (fun _ => rfl) ((hcount (incrementPaymentBy_keeps _ _ _ _)).bind fun _ => ?_)
  exact (hcount (sendMessage_keeps _)).bind fun _ => .modify fun _ => rfl

theorem updatePayment_books (due : Bool) : Keeps books (updatePayment due) := by
  apply Keeps.get_bind
  intro b
  rw [wp_ite]
  refine ⟨fun _ => ?_, fun _ => rfl⟩
  rw [wp_ite]
  refine ⟨fun _ => ?_, fun _ => ?_⟩
  · rw [wp_bind, wp_set]
    exact Keeps.after (.ite (fun _ => incrementPayment_keeps.comp Prod.fst) fun _ => .pure _) rfl
  · have hstops := cancelPayments_keeps.bind fun _ => exitWithErrorCode_keeps
    exact Keeps.ite (fun _ => keeps_books hstops) (fun _ => .pure _) b

theorem receiveError_keeps : Keeps ledger receiveError :=
  .modify_bind (fun _ => rfl) ((setChannelState_keeps _).bind fun _ => startPaymentChannel_keeps)

theorem closeChannel_keeps : Keeps ledger closeChannel :=
  (sendMessage_keeps _).bind fun _ => .modify_bind (fun _ => rfl)
    ((setChannelState_keeps _).bind fun _ => startPaymentChannel_keeps)

theorem userDisconnect_keeps : Keeps ledger userDisconnect := by
  refine .read fun b => (defined_keeps _).bind fun numbered => ?_
  refine (defined_keeps _).bind fun payment => .ite (fun _ => ?_) fun _ => .pure _
  exact (sendMessage_keeps _).bind fun _ => cancelPayments_keeps.bind fun _ =>
    .modify_bind (fun _ => rfl) (setChannelState_keeps _)

theorem userReconnect_keeps : Keeps ledger userReconnect :=
  .modify_bind (fun _ => rfl) sendVersion_keeps

theorem onOpen_keeps : Keeps ledger onOpen := by
  refine .modify_bind (fun _ => rfl) (.read fun b => ?_)
  exact .ite (fun _ => startPaymentChannel_keeps) fun _ => .pure _

theorem onClose_keeps (policyViolation : Bool) : Keeps ledger (onClose policyViolation) :=
  .ite (fun _ => .modify fun _ => rfl) fun _ => .modify_bind (fun _ => rfl)
    (cancelPayments_keeps.bind fun _ => setChannelState_keeps _)

/-! ## Handlers that make one -/

/-- A channel is created, or nothing happens to the books. -/
def Created (k : Books) (b : Browser) : Prop := b.books = k ∨ b.books = k.create

theorem Created.keeps {α : Type} {m : Handler α} {k : Books} {b : Browser} (h : Keeps ledger m)
    (hb : Created k b) : wp m b (fun _ b' => Created k b') (fun _ b' => Created k b') := by
  have hkeeps := keeps_books h b
  rcases hb with hb | hb
  · exact wp.mono hkeeps (fun _ _ hu => .inl (hu.trans hb)) (fun _ _ hu => .inl (hu.trans hb))
  · exact wp.mono hkeeps (fun _ _ hu => .inr (hu.trans hb)) (fun _ _ hu => .inr (hu.trans hb))

theorem createPaymentChannel_created (page : Page) {b : Browser}
    (hescrow : b.escrowAmount = b.books.total - fee) :
    wp (createPaymentChannel page) b (fun _ b' => Created b.books b')
      (fun _ b' => Created b.books b') := by
  show wp (defined b.serverKey >>= _) b _ _
  cases hkey : b.serverKey with
  | none => exact .inl rfl
  | some serverKey =>
      have hbooks : (create page serverKey b).1.books = b.books.create := by
        unfold create
        rw [hescrow]
        rfl
      show wp (if _ then _ else _) (create page serverKey b).1 _ _
      rw [wp_ite]
      exact ⟨fun _ => .inr hbooks, fun _ => .inr hbooks⟩

theorem initiate_created (page : Page) (signing : Signing) (b : Browser) :
    wp (initiate page signing) b (fun _ b' => Created b.books b')
      (fun _ b' => Created b.books b') := by
  show wp (if _ then _ else _) b.updateEscrowAmount _ _
  rw [wp_ite]
  refine ⟨fun _ => .inl rfl, fun _ => ?_⟩
  rw [wp_bind, wp_set, wp_bind]
  refine wp.mono (createPaymentChannel_created page rfl) (fun _ t ht => ?_) (fun _ _ h => h)
  exact Created.keeps ((setChannelState_keeps _).bind fun _ => sendRefund_keeps page signing) ht

theorem receivePrice_created (page : Page) (signing : Signing) (proposedPrice : Int)
    (multisigKey : Option Bytes) (b : Browser) :
    wp (receivePrice page signing proposedPrice multisigKey) b (fun _ b' => Created b.books b')
      (fun _ b' => Created b.books b') := by
  show wp (if _ then _ else _) { b with pricePerSecond := proposedPrice } _ _
  rw [wp_ite]
  refine ⟨fun _ => Created.keeps exitWithErrorCode_keeps (.inl rfl), fun _ => ?_⟩
  rw [wp_bind]
  refine wp.mono (Keeps.after (keeps_books (defined_keeps multisigKey)) rfl) (fun serverKey t ht => ?_)
    (fun _ _ h => .inl h)
  rw [wp_bind, wp_modify, wp_bind]
  refine wp.mono ((keeps_books (setChannelState_keeps _)).after ht) (fun _ u hu => ?_)
    (fun _ _ h => .inl h)
  rw [wp_bind, wp_get, wp_ite]
  refine ⟨fun _ => ?_, fun _ => Created.keeps sendFundingAddress_keeps (.inl hu)⟩
  exact hu ▸ initiate_created page signing u

theorem receiveInitiate_created (page : Page) (signing : Signing)
    (minAcceptedChannelSize minPayment : Int) (b : Browser) :
    wp (receiveInitiate page signing minAcceptedChannelSize minPayment) b
      (fun _ b' => Created b.books b') (fun _ b' => Created b.books b') := by
  show wp (if _ then _ else _) { b with minEscrow := _, minInitialPayment := _ } _ _
  rw [wp_ite]
  exact ⟨fun _ => initiate_created page signing _, fun _ => .inl rfl⟩

theorem processOutputs_books (page : Page) (txId : Bytes) (j : Nat)
    (outputs : List FundingTxOutput) (b : Browser) :
    wp (processOutputs page txId j outputs) b
      (fun _ b' => b'.books = (claimed page txId j outputs).foldl Books.register b.books)
      (fun _ b' => b'.books = (claimed page txId j outputs).foldl Books.register b.books) := by
  -- one output at a time; the loop stops at one whose script does not parse
  induction outputs generalizing j b with
  | nil => rfl
  | cons output outputs ih =>
      unfold processOutputs
      cases hparse : fromBuffer output.script with
      | none =>
          have hnone : claimed page txId j (output :: outputs) = [] := by
            simp [claimed, scanned, hparse]
          rw [hnone, toAddress, hparse]
          rfl
      | some chunks =>
          have haddress : toAddress page.lib output.script =
              some (getAddressInfo page.lib output.script chunks) := by
            rw [toAddress, hparse]
            rfl
          have hclaimed : claimed page txId j (output :: outputs) =
              (if getAddressInfo page.lib output.script chunks = some page.fundingAddress then
                [FundingTxOutput.utxo txId j output] else []) ++
              claimed page txId (j + 1) outputs := by
            simp only [claimed, scanned, hparse, Option.isSome_some, List.takeWhile_cons_of_pos,
              List.zipIdx_cons, List.filter_cons, haddress, Option.some.injEq, decide_eq_true_eq]
            split <;> rfl
          rw [hclaimed, haddress]
          show wp (if _ then _ else _) b _ _
          rw [wp_ite]
          constructor
          · intro hours
            rw [if_pos hours, List.singleton_append, List.foldl_cons, wp_bind, wp_modify, wp_bind]
            exact ih (j + 1) (register (FundingTxOutput.utxo txId j output) b)
          · intro hother
            rw [if_neg hother]
            exact ih (j + 1) b

theorem fromBuffer_of_findInput {passes : Bytes → List Chunk → Bool} {scripts : List Bytes}
    {script : Bytes} (h : findInput passes scripts = some (some script)) :
    ∃ chunks, fromBuffer script = some chunks := by
  induction scripts with
  | nil => cases h
  | cons first scripts ih =>
      unfold findInput at h
      split at h
      · cases h
      · rename_i chunks hchunks
        split at h
        · cases h
          exact ⟨chunks, hchunks⟩
        · exact ih h

theorem toAddress_of_refundInput {lib : Bitcore} {tx : FundingTx} {script : Bytes}
    (h : refundInput lib tx = some (some script)) : ∃ address, toAddress lib script = some address := by
  have hfound : ∃ passes, findInput passes tx.inputs = some (some script) := by
    unfold refundInput at h
    split at h
    · exact ⟨_, h⟩
    · exact ⟨_, h⟩
  obtain ⟨passes, hfound⟩ := hfound
  obtain ⟨chunks, hchunks⟩ := fromBuffer_of_findInput hfound
  exact ⟨_, by rw [toAddress, hchunks]; rfl⟩

/-- A transaction is entered, and perhaps a channel is created from it. -/
theorem receiveFunding_created (page : Page) (signing : Signing) (tx : FundingTx) (b : Browser) :
    wp (receiveFunding page signing (some tx)) b (fun _ b' => Created (b.books.receive page tx) b')
      (fun _ b' => Created (b.books.receive page tx) b') := by
  let b₁ : Browser := { b with received := b.received ++ [tx] }
  have hnothing : b.books.incoming page tx = [] → b.books.receive page tx = b₁.books := by
    intro hnil
    rw [Books.receive, hnil]
    rfl
  show wp (if tx.id ∈ b.fundingTxHashes then _ else _) b₁ _ _
  rw [wp_ite]
  constructor
  · intro hseen
    exact .inl (hnothing (if_pos (List.contains_iff_mem.mpr hseen))).symm
  · intro hnew
    have hincoming : b.books.incoming page tx = (refundInput page.lib tx).join.elim [] fun _ =>
        claimed page tx.id 0 tx.outputs :=
      if_neg fun hseen => hnew (List.contains_iff_mem.mp hseen)
    rw [wp_bind]
    cases hinput : refundInput page.lib tx with
    | none =>
        rw [hinput] at hincoming
        exact .inl (hnothing hincoming).symm
    | some found =>
        rw [hinput] at hincoming
        cases found with
        | none => exact Created.keeps exitWithErrorCode_keeps (.inl (hnothing hincoming).symm)
        | some script =>
            obtain ⟨address, haddress⟩ := toAddress_of_refundInput hinput
            show wp (defined (toAddress page.lib script) >>= _) b₁ _ _
            rw [haddress]
            let b₂ : Browser := { b₁ with refundAddress := address }
            have hreceive : b.books.receive page tx =
                (claimed page tx.id 0 tx.outputs).foldl Books.register b₂.books := by
              rw [Books.receive, hincoming]
              rfl
            rw [hreceive]
            show wp (processOutputs page tx.id 0 tx.outputs >>= _) b₂ _ _
            rw [wp_bind]
            refine wp.mono (processOutputs_books page tx.id 0 tx.outputs b₂) ?_
              (fun _ _ h => .inl h)
            intro fundingAmount t ht
            rw [wp_ite]
            refine ⟨fun _ => Created.keeps exitWithErrorCode_keeps (.inl ht), fun _ => ?_⟩
            rw [wp_bind, wp_modify, wp_bind]
            refine wp.mono (keeps_books (setChannelState_keeps _) t.updateEscrowAmount)
              (fun _ u hu => ?_) (fun _ _ h => .inl (h.trans ht))
            have hbooks : u.books =
                (claimed page tx.id 0 tx.outputs).foldl Books.register b₂.books := hu.trans ht
            rw [wp_bind, wp_get, wp_ite]
            refine ⟨fun _ => ?_, fun _ => .inl hbooks⟩
            exact hbooks ▸ initiate_created page signing u

theorem receiveClose_books (b : Browser) :
    wp receiveClose b (fun _ b' => b'.books = b.books ∨ b'.books = b.books.deplete)
      (fun _ b' => b'.books = b.books ∨ b'.books = b.books.deplete) := by
  have hrest : Keeps books (do setChannelState .receivedClose; startPaymentChannel) :=
    keeps_books ((setChannelState_keeps _).bind fun _ => startPaymentChannel_keeps)
  show wp (if b.fullyUsedUp then _ else _) b _ _
  rw [wp_ite]
  refine ⟨fun _ => ?_, fun _ => ?_⟩
  · rw [wp_bind, wp_set]
    exact wp.mono (hrest _) (fun _ _ h => .inr h) (fun _ _ h => .inr h)
  · rw [wp_bind, wp_set]
    exact wp.mono (hrest _) (fun _ _ h => .inl h) (fun _ _ h => .inl h)

/-! ## One event -/

variable {page : Page} {event : PageEvent}

theorem Entry.of_books {m : Handler Unit} (h : Keeps books m) (b : Browser) :
    wp m b (fun _ b' => Entry page event b.books b'.books)
      (fun _ b' => Entry page event b.books b'.books) :=
  wp.mono (h b) (fun _ _ hu => hu ▸ .kept) (fun _ _ hu => hu ▸ .kept)

theorem Entry.of_keeps {m : Handler Unit} (h : Keeps ledger m) (b : Browser) :
    wp m b (fun _ b' => Entry page event b.books b'.books)
      (fun _ b' => Entry page event b.books b'.books) :=
  Entry.of_books (keeps_books h) b

theorem Entry.of_created {b b' : Browser} (h : Created b.books b') :
    Entry page event b.books b'.books := by
  rcases h with h | h
  · exact h ▸ .kept
  · exact h ▸ .create

theorem onMessage_entry (page : Page) (signing : Signing) (message : FromServer) (b : Browser) :
    wp (onMessage page signing message) b
      (fun _ b' => Entry page (.receives message signing) b.books b'.books)
      (fun _ b' => Entry page (.receives message signing) b.books b'.books) := by
  cases message with
  | serverVersion major minor => exact Entry.of_keeps (receiveVersion_keeps major minor) b
  | price proposedPrice multisigKey =>
      exact wp.mono (receivePrice_created page signing proposedPrice multisigKey b)
        (fun _ _ h => Entry.of_created h) (fun _ _ h => Entry.of_created h)
  | funding transaction =>
      cases transaction with
      | none => exact .kept
      | some tx =>
          have hentry : ∀ b', Created (b.books.receive page tx) b' →
              Entry page (.receives (.funding (some tx)) signing) b.books b'.books := by
            rintro b' (h | h)
            · exact h ▸ .receive rfl
            · exact h ▸ .receiveCreate rfl
          exact wp.mono (receiveFunding_created page signing tx b) (fun _ => hentry)
            (fun _ => hentry)
  | initiate minAcceptedChannelSize minPayment =>
      exact wp.mono (receiveInitiate_created page signing minAcceptedChannelSize minPayment b)
        (fun _ _ h => Entry.of_created h) (fun _ _ h => Entry.of_created h)
  | returnRefund number => exact Entry.of_keeps (receiveRefund_keeps page signing number) b
  | channelOpen => exact Entry.of_keeps receiveChannelOpen_keeps b
  | paymentAck => exact .kept
  | close =>
      have hentry : ∀ b' : Browser, b'.books = b.books ∨ b'.books = b.books.deplete →
          Entry page (.receives .close signing) b.books b'.books := by
        rintro b' (h | h)
        · exact h ▸ .kept
        · exact h ▸ .deplete
      exact wp.mono (receiveClose_books b) (fun _ => hentry) (fun _ => hentry)
  | error => exact Entry.of_keeps receiveError_keeps b

/-- An event makes at most one entry. -/
theorem next_entry (page : Page) (b : Browser) (event : PageEvent) :
    Entry page event b.books (b.next page event).books := by
  refine (wp_iff_finalState (P := fun b' : Browser => Entry page event b.books b'.books)).mp ?_
  unfold handle
  rw [wp_bind, wp_get]
  have hidle : Keeps ledger (pure () : Handler Unit) := .pure ()
  cases event with
  | opens => exact Entry.of_keeps (.ite (fun _ => onOpen_keeps) fun _ => hidle) b
  | closes policyViolation =>
      exact Entry.of_keeps (.ite (fun _ => onClose_keeps policyViolation) fun _ => hidle) b
  | restarts =>
      show wp (if _ then _ else _) b _ _
      rw [wp_ite]
      exact ⟨fun _ => .kept, fun _ => .kept⟩
  | receives message signing =>
      show wp (if _ then _ else _) b _ _
      rw [wp_ite]
      exact ⟨fun _ => onMessage_entry page signing message b, fun _ => .kept⟩
  | ticks due =>
      exact Entry.of_books (.ite (fun _ => updatePayment_books due) fun _ => keeps_books hidle) b
  | disconnects => exact Entry.of_keeps userDisconnect_keeps b
  | reconnects => exact Entry.of_keeps userReconnect_keeps b
  | unloads => exact Entry.of_keeps closeChannel_keeps b

end Browser

end BitMesh.WebClient
