import BitMesh.WebClient.Bookkeeping

/-!
# What becomes of a funding output

Three properties of `funding_outputs` over whole runs: that the escrow
amount is what the channel is made of, that an output is there for the next
channel until its contract was sent, and that it is registered once and
attached to one channel.
-/

namespace BitMesh.WebClient

open BitMesh.Bitcoin (Bytes)
open BitMesh.Lib

/-! ## The escrow amount -/

namespace Books

/-- What the outputs of channels that were never used up are worth. -/
def carried (k : Books) : ℚ :=
  satoshis (k.fundingOutputs.filter fun output => output.outputState = some .attached)

variable {k : Books}

theorem satoshis_append (outputs outputs' : List FundingOutput) :
    satoshis (outputs ++ outputs') = satoshis outputs + satoshis outputs' := by
  simp [satoshis]

theorem Sound.escrowAmount (h : k.Sound) (hfinished : k.channel.finished = true) :
    k.channel.escrowAmount + Browser.fee = k.carried + satoshis k.window := by
  have hwhole := Sound.kept_eq_window hfinished
  have hfresh : ∀ output ∈ k.window, output.outputState = some .unprocessed := by
    refine h.waiting fun output hmem => ?_
    exact Sound.isPublicKeyHashOut_of_mem_kept (hwhole ▸ hmem)
  have hnotDepleted : k.window.filter (fun output => output.outputState ≠ some .depleted) =
      k.window := by
    refine List.filter_eq_self.mpr fun output hmem => ?_
    rw [hfresh output hmem]
    rfl
  have hnotAttached : k.window.filter (fun output => output.outputState = some .attached) = [] := by
    refine List.filter_eq_nil_iff.mpr fun output hmem => ?_
    rw [hfresh output hmem]
    decide
  have htaken : k.taken.filter (fun output => output.outputState ≠ some .depleted) =
      k.taken.filter fun output => output.outputState = some .attached := by
    refine List.filter_congr fun output hmem => ?_
    rcases h.states output hmem with hstate | hstate <;> rw [hstate] <;> decide
  have htotal : k.total = k.carried + satoshis k.window := by
    unfold total carried
    rw [← taken_append_window h.num, List.filter_append, List.filter_append, hnotDepleted,
      hnotAttached, htaken, List.append_nil, satoshis_append]
  show k.total - Browser.fee + Browser.fee = _
  rw [sub_add_cancel, htotal]

/-- What a channel is made of is what `update_escrow_amount` counted, if it
counted nothing else. -/
theorem Sound.escrowAmount_iff (h : k.Sound) (hfinished : k.channel.finished = true) :
    k.channel.escrowAmount + Browser.fee =
        (k.channel.outputs.map fun utxo => (utxo.satoshis : ℚ)).sum ↔ k.carried = 0 := by
  have hworth : (k.channel.outputs.map fun utxo => (utxo.satoshis : ℚ)).sum =
      satoshis k.window := by
    rw [← Sound.kept_eq_window hfinished, satoshis]
    show ((k.kept.map FundingOutput.utxo).map _).sum = _
    rw [List.map_map]
    rfl
  rw [h.escrowAmount hfinished, hworth]
  exact add_eq_right

theorem Sound.receive_eq (h : k.Sound) (page : Page) (tx : FundingTx) :
    (k.receive page tx).created = k.created ∧
      (k.receive page tx).received = k.received ++ [tx] ∧
      (k.receive page tx).fundingOutputs =
        k.fundingOutputs ++ (k.incoming page tx).map fresh := by
  rw [Books.receive, Sound.registered _ (k := { k with received := k.received ++ [tx] }) h.num]
  exact ⟨rfl, rfl, rfl⟩

theorem Sound.carried_receive (h : k.Sound) (page : Page) (tx : FundingTx) :
    (k.receive page tx).carried = k.carried := by
  have hnone : ((k.incoming page tx).map fresh).filter
      (fun output => output.outputState = some .attached) = [] := by
    refine List.filter_eq_nil_iff.mpr fun output hmem => ?_
    obtain ⟨utxo, -, rfl⟩ := List.mem_map.mp hmem
    simp [fresh]
  rw [carried, (h.receive_eq page tx).2.2, List.filter_append, hnone, List.append_nil]
  rfl

end Books

namespace Browser

variable {page : Page} {b : Browser}

/-- In every run, a channel is made of what the escrow amount says exactly
if no earlier channel left outputs of value ATTACHED. -/
theorem escrow_matches_channel_iff (h : Runs page b) (event : PageEvent) {channel : Channel}
    (hcreated : (b.next page event).created = b.created ++ [channel])
    (hfinished : channel.finished = true) :
    channel.escrowAmount + fee = (channel.outputs.map fun utxo => (utxo.satoshis : ℚ)).sum ↔
      satoshis (b.fundingOutputs.filter fun output => output.outputState = some .attached) = 0 := by
  have hsound := h.sound
  have hlonger : ∀ {channels : List Channel}, channels = b.created →
      channels ≠ b.created ++ [channel] := by
    rintro _ rfl hsame
    simpa using congrArg List.length hsame
  show _ ↔ b.books.carried = 0
  -- only the entries that create a channel make the list longer
  have hentry := next_entry page b event
  change (b.next page event).books.created = _ at hcreated
  revert hcreated
  generalize (b.next page event).books = k' at hentry
  intro hcreated
  cases hentry with
  | kept => exact absurd hcreated (hlonger rfl)
  | deplete => exact absurd hcreated (hlonger rfl)
  | create =>
      obtain rfl : b.books.channel = channel :=
        List.singleton_injective (List.append_cancel_left hcreated)
      exact hsound.escrowAmount_iff hfinished
  | @receive tx => exact absurd hcreated (hlonger (hsound.receive_eq page tx).1)
  | @receiveCreate tx =>
      change (b.books.receive page tx).created ++ [_] = _ at hcreated
      rw [(hsound.receive_eq page tx).1] at hcreated
      obtain rfl : (b.books.receive page tx).channel = channel :=
        List.singleton_injective (List.append_cancel_left hcreated)
      rw [(hsound.receive page tx).escrowAmount_iff hfinished, hsound.carried_receive page tx]

theorem escrow_matches_channel_first : (99000 : ℚ) + fee =
    ([Browser.FundingTxOutput.utxo [1] 0 ⟨(buildPublicKeyHashOut
      Sample.page.fundingAddress.hashBuffer).program, 100000⟩].map fun utxo =>
        (utxo.satoshis : ℚ)).sum :=
  (@escrow_matches_channel_iff _ _ (Sample.runs (.opens :: Sample.priced))
    (Sample.receives (.funding (some (Sample.pays 1 100000)))) ⟨0, 99000, _, true⟩
    (by decide +kernel) rfl).mpr (by decide +kernel)

/-- A channel of 100000 satoshis is closed while there is money in it, and
one of 50000 is created. -/
theorem escrow_counts_closed_channel :
    (Sample.run (Sample.opened ++ Sample.receives .close :: Sample.priced ++
      [Sample.receives (.funding (some (Sample.pays 2 50000))),
        Sample.receives (.initiate 1000 1000)])).created.map (fun channel =>
          (channel.escrowAmount + fee, (channel.outputs.map UnspentOutput.satoshis).sum)) =
      [(100000, 100000), (150000, 50000)] := by
  decide +kernel

/-! ## Outputs that wait for a channel -/

/-- The contract of this consumer was sent in PROVIDE_CONTRACT. -/
def contractSent (b : Browser) (number : Nat) : Bool :=
  b.sent.any fun
    | .provideContract n _ _ => n = number
    | _ => false

/-- A contract that spends the output was sent. -/
def committed (b : Browser) (utxo : UnspentOutput) : Bool :=
  b.created.any fun channel => utxo ∈ channel.outputs ∧ b.contractSent channel.number

/-- Every output is there for the next channel until its contract was sent. -/
def Available (b : Browser) : Prop :=
  ∀ i output, b.fundingOutputs[i]? = some output → b.committed output.utxo = false →
    b.fundingOutputsUsed ≤ i

theorem available_iff :
    b.Available ↔ ∀ output ∈ b.books.taken, b.committed output.utxo = true := by
  constructor
  · intro h output hmem
    obtain ⟨i, hi, hget⟩ := List.mem_take_iff_getElem.mp hmem
    cases hcommitted : b.committed output.utxo with
    | true => rfl
    | false =>
        have hle := h i output (by rw [← hget]; exact List.getElem?_eq_getElem _) hcommitted
        exact absurd (Nat.lt_of_lt_of_le hi (Nat.min_le_left _ _)) (Nat.not_lt.mpr hle)
  · intro h i output hget hcommitted
    by_contra hlt
    obtain ⟨hi, houtput⟩ := List.getElem?_eq_some_iff.mp hget
    have hmem : output ∈ b.books.taken :=
      List.mem_take_iff_getElem.mpr ⟨i, Nat.lt_min.mpr ⟨Nat.not_le.mp hlt, hi⟩, houtput⟩
    rw [h output hmem] at hcommitted
    cases hcommitted

instance Available.decidable (b : Browser) : Decidable b.Available :=
  decidable_of_iff _ available_iff.symm

end Browser

namespace Books.Sound

variable {k : Books}

theorem nodup_utxos (h : k.Sound) : (k.fundingOutputs.map FundingOutput.utxo).Nodup := by
  have houtpoints : ((k.fundingOutputs.map FundingOutput.utxo).map
      UnspentOutput.outpoint).Nodup := by
    rw [List.map_map]
    exact h.outpoints
  exact houtpoints.of_map _

/-- No output of a channel is one of another channel that finished. -/
theorem eq_of_mem (h : k.Sound) {channel channel' : Channel} {utxo : UnspentOutput}
    (hchannel : channel ∈ k.created) (hchannel' : channel' ∈ k.created)
    (hfinished : channel.finished = true) (hmem : utxo ∈ channel.outputs)
    (hmem' : utxo ∈ channel'.outputs) : channel = channel' := by
  have hnodup := h.nodup_utxos
  rw [← taken_append_window h.num, List.map_append, List.nodup_append'] at hnodup
  obtain ⟨htaken, -, hdisjoint⟩ := hnodup
  have hin : channel ∈ k.created.filter Channel.finished :=
    List.mem_filter.mpr ⟨hchannel, hfinished⟩
  have hattached : utxo ∈ k.taken.map FundingOutput.utxo := by
    rw [← h.attached]
    exact List.mem_flatMap.mpr ⟨channel, hin, hmem⟩
  cases hfinished' : channel'.finished with
  | false => exact absurd ((h.stuck channel' hchannel' hfinished').2 utxo hmem') (hdisjoint hattached)
  | true =>
      have hin' : channel' ∈ k.created.filter Channel.finished :=
        List.mem_filter.mpr ⟨hchannel', hfinished'⟩
      rw [← h.attached, Books.attached, List.nodup_flatMap] at htaken
      by_contra hne
      have hsymm : Std.Symm (Function.onFun List.Disjoint Channel.outputs) :=
        ⟨fun _ _ hapart => List.Disjoint.symm hapart⟩
      exact htaken.2.forall hin hin' hne hmem hmem'

end Books.Sound

namespace Browser

variable {page : Page} {b : Browser}

/-- In every run, outputs are there until their contract was sent exactly
if every channel that took outputs has had its contract sent. -/
theorem funding_available_iff (h : Runs page b) :
    b.Available ↔ ∀ channel ∈ b.created, channel.finished = true → channel.outputs ≠ [] →
      b.contractSent channel.number = true := by
  have hsound := h.sound
  rw [available_iff]
  constructor
  · intro havailable channel hchannel hfinished hne
    obtain ⟨utxo, hmem⟩ := List.exists_mem_of_ne_nil _ hne
    have hattached : utxo ∈ b.books.attached :=
      List.mem_flatMap.mpr ⟨channel, List.mem_filter.mpr ⟨hchannel, hfinished⟩, hmem⟩
    rw [hsound.attached] at hattached
    obtain ⟨output, houtput, rfl⟩ := List.mem_map.mp hattached
    obtain ⟨channel', hchannel', hspends⟩ := List.any_eq_true.mp (havailable output houtput)
    obtain ⟨hmem', hsent⟩ := of_decide_eq_true hspends
    rw [hsound.eq_of_mem hchannel hchannel' hfinished hmem hmem']
    exact hsent
  · intro hsent output hmem
    have hattached : output.utxo ∈ b.books.attached := by
      rw [hsound.attached]
      exact List.mem_map_of_mem hmem
    obtain ⟨channel, hchannel, hspends⟩ := List.mem_flatMap.mp hattached
    obtain ⟨hcreated, hfinished⟩ := List.mem_filter.mp hchannel
    refine List.any_eq_true.mpr ⟨channel, hcreated, decide_eq_true ⟨hspends, ?_⟩⟩
    exact hsent channel hcreated hfinished (List.ne_nil_of_mem hspends)

theorem funding_available_opened : (Sample.run Sample.opened).Available :=
  (funding_available_iff (Sample.runs Sample.opened)).mpr (by decide +kernel)

/-- The server's signature on the refund does not verify. The next channel
is made of the next transaction only, and no contract was ever sent. -/
theorem funding_stranded :
    ∃ events, ¬ (Sample.run events).Available ∧
      (Sample.run events).created.map (fun channel => channel.outputs.map UnspentOutput.txId) =
        [[[1]], [[2]]] ∧
      (Sample.run events).contractSent 0 = false := by
  refine ⟨.opens :: Sample.priced ++ [Sample.receives (.funding (some (Sample.pays 1 100000))),
    .receives (.returnRefund 0) ⟨true, true, true, false⟩, .closes false, .restarts, .opens] ++
    Sample.priced ++ [Sample.receives (.funding (some (Sample.pays 2 50000)))], ?_⟩
  decide +kernel

end Browser

/-! ## Transactions that are registered -/

/-- The outputs of a transaction that pay to the funding address. -/
def payments (page : Page) (tx : FundingTx) : List UnspentOutput :=
  (tx.outputs.zipIdx.filter fun output =>
    PaysTo page.fundingAddress.hashBuffer output.1.script).map fun output =>
      Browser.FundingTxOutput.utxo tx.id output.2 output.1

/-- Some input spends from a public key hash or from a script hash. -/
def Refundable (page : Page) (tx : FundingTx) : Prop :=
  ∃ script ∈ tx.inputs, ∃ chunks ∈ fromBuffer script,
    (publicKeyHashIn page.lib chunks).isSome ∨ isScriptHashIn page.lib script.length chunks

instance Refundable.decidable (page : Page) (tx : FundingTx) : Decidable (Refundable page tx) :=
  inferInstanceAs (Decidable (∃ script ∈ _, _))

/-- Every script parses, and no output has the script of an input that
spends from the funding address. -/
def Readable (page : Page) (tx : FundingTx) : Prop :=
  (∀ script ∈ tx.inputs, (fromBuffer script).isSome) ∧
    ∀ output ∈ tx.outputs, (fromBuffer output.script).isSome ∧
      ¬ SpendsFrom page.lib page.fundingAddress.hashBuffer output.script

instance Readable.decidable (page : Page) (tx : FundingTx) : Decidable (Readable page tx) :=
  inferInstanceAs (Decidable (_ ∧ _))

theorem Refundable.refundInput {page : Page} {tx : FundingTx} (h : Refundable page tx)
    (hreadable : Readable page tx) :
    ∃ script, Browser.refundInput page.lib tx = some (some script) := by
  -- with scripts that all parse, the search fails on none and finds the first that passes
  have hfind : ∀ (passes : Bytes → List Chunk → Bool) (scripts : List Bytes),
      (∀ script ∈ scripts, (fromBuffer script).isSome) →
      (∃ script, Browser.findInput passes scripts = some (some script)) ∨
        (Browser.findInput passes scripts = some none ∧
          ∀ script ∈ scripts, ∀ chunks ∈ fromBuffer script, passes script chunks = false) := by
    intro passes scripts hparse
    induction scripts with
    | nil => exact .inr ⟨rfl, fun script hmem => by cases hmem⟩
    | cons script scripts ih =>
        obtain ⟨chunks, hchunks⟩ := Option.isSome_iff_exists.mp (hparse script List.mem_cons_self)
        cases hpasses : passes script chunks with
        | true =>
            refine .inl ⟨script, ?_⟩
            simp only [Browser.findInput, hchunks, hpasses, if_true]
        | false =>
            have hskip : Browser.findInput passes (script :: scripts) =
                Browser.findInput passes scripts := by
              simp [Browser.findInput, hchunks, hpasses]
            rw [hskip]
            refine (ih fun s hs => hparse s (List.mem_cons_of_mem _ hs)).imp_right ?_
            rintro ⟨hnone, hall⟩
            refine ⟨hnone, fun s hs => ?_⟩
            rcases List.mem_cons.mp hs with rfl | hs
            · intro chunks' hchunks'
              cases hchunks.symm.trans hchunks'
              exact hpasses
            · exact hall s hs
  unfold Browser.refundInput
  rcases hfind (fun _ chunks => (publicKeyHashIn page.lib chunks).isSome) tx.inputs hreadable.1
    with ⟨script, hfound⟩ | ⟨hnone, hkeys⟩
  · rw [hfound]
    exact ⟨script, rfl⟩
  · rw [hnone]
    rcases hfind (fun script chunks => isScriptHashIn page.lib script.length chunks) tx.inputs
      hreadable.1 with hfound | ⟨-, hscripts⟩
    · exact hfound
    · obtain ⟨script, hmem, chunks, hchunks, hkind⟩ := h
      rcases hkind with hkey | hscript
      · rw [hkeys script hmem chunks hchunks] at hkey
        cases hkey
      · rw [hscripts script hmem chunks hchunks] at hscript
        cases hscript

theorem Readable.claimed_eq {page : Page} {tx : FundingTx} (h : Readable page tx) :
    claimed page tx.id 0 tx.outputs = payments page tx := by
  have hscanned : scanned tx.outputs = tx.outputs :=
    List.takeWhile_eq_self_iff.mpr fun output hmem => (h.2 output hmem).1
  rw [claimed, payments, hscanned]
  congr 1
  refine List.filter_congr fun output hmem => ?_
  have hin : output.1 ∈ tx.outputs := List.fst_mem_of_mem_zipIdx hmem
  obtain ⟨hparse, hspends⟩ := h.2 output.1 hin
  obtain ⟨chunks, hchunks⟩ := Option.isSome_iff_exists.mp hparse
  rw [decide_eq_decide, toAddress, hchunks, Option.map_some, Option.some.injEq]
  exact getAddressInfo_eq_iff hchunks hspends

theorem isPublicKeyHashOut_of_mem_payments {page : Page} {tx : FundingTx} {utxo : UnspentOutput}
    (h : utxo ∈ payments page tx) : utxo.isPublicKeyHashOut = true := by
  obtain ⟨output, hmem, rfl⟩ := List.mem_map.mp h
  have hpays : PaysTo page.fundingAddress.hashBuffer output.1.script :=
    of_decide_eq_true (List.mem_filter.mp hmem).2
  show ((fromBuffer output.1.script).bind publicKeyHashOut).isSome = true
  rw [show (fromBuffer output.1.script).bind publicKeyHashOut = some _ from hpays]
  rfl

/-- Transactions with one id are one transaction. -/
def Identified (received : List FundingTx) : Prop :=
  ∀ tx ∈ received, ∀ tx' ∈ received, tx.id = tx'.id → tx = tx'

instance Identified.decidable (received : List FundingTx) : Decidable (Identified received) :=
  inferInstanceAs (Decidable (∀ tx ∈ _, _))

namespace Books

/-- The outputs are those that pay to the funding address. -/
structure Lists (page : Page) (k : Books) : Prop where
  kinds : ∀ output ∈ k.fundingOutputs, output.utxo.isPublicKeyHashOut = true
  payments : Identified k.received → ∀ utxo, utxo ∈ k.fundingOutputs.map FundingOutput.utxo ↔
    ∃ tx ∈ k.received, utxo ∈ payments page tx
  finished : ∀ channel ∈ k.created, channel.finished = true

variable {page : Page} {k : Books}

theorem Lists.receive (h : k.Lists page) (hsound : k.Sound) {tx : FundingTx}
    (hrefundable : Refundable page tx) (hreadable : Readable page tx) :
    (k.receive page tx).Lists page := by
  obtain ⟨hcreated, hreceived, houtputs⟩ := hsound.receive_eq page tx
  obtain ⟨script, hinput⟩ := hrefundable.refundInput hreadable
  have hincoming : k.incoming page tx =
      if tx.id ∈ k.fundingTxHashes then [] else WebClient.payments page tx := by
    unfold incoming
    rw [hinput, hreadable.claimed_eq]
    simp only [List.contains_iff_mem]
    rfl
  constructor
  · rw [houtputs, hincoming]
    intro output hmem
    rcases List.mem_append.mp hmem with hold | hin
    · exact h.kinds output hold
    · obtain ⟨utxo, hutxo, rfl⟩ := List.mem_map.mp hin
      split at hutxo
      · cases hutxo
      · exact isPublicKeyHashOut_of_mem_payments hutxo
  · rw [hreceived, houtputs, hincoming]
    intro hids utxo
    have hold := h.payments (fun a ha b hb => hids a (List.mem_append_left _ ha) b
      (List.mem_append_left _ hb))
    have hfresh : ∀ utxos : List UnspentOutput,
        (utxos.map fresh).map FundingOutput.utxo = utxos := by
      intro utxos
      rw [List.map_map]
      exact List.map_id _
    rw [List.map_append, List.mem_append, hold utxo, hfresh]
    by_cases hseen : tx.id ∈ k.fundingTxHashes
    · -- the transaction is one that was received before
      rw [if_pos hseen]
      rw [hsound.hashes] at hseen
      obtain ⟨output, houtput, hid⟩ := List.mem_map.mp hseen
      obtain ⟨before, hbefore, hpays⟩ := (hold output.utxo).mp (List.mem_map_of_mem houtput)
      have hsame : before = tx := by
        refine hids before (List.mem_append_left _ hbefore) tx
          (List.mem_append_right _ (List.mem_singleton_self tx)) ?_
        obtain ⟨_, -, heq⟩ := List.mem_map.mp hpays
        rw [← hid, ← heq]
        rfl
      rw [hsame] at hbefore
      simp only [List.not_mem_nil, or_false, List.mem_append, List.mem_singleton]
      constructor
      · rintro ⟨other, hother, hin⟩
        exact ⟨other, .inl hother, hin⟩
      · rintro ⟨other, hother | rfl, hin⟩
        · exact ⟨other, hother, hin⟩
        · exact ⟨other, hbefore, hin⟩
    · rw [if_neg hseen]
      simp only [List.mem_append, List.mem_singleton]
      constructor
      · rintro (⟨other, hother, hin⟩ | hin)
        · exact ⟨other, .inl hother, hin⟩
        · exact ⟨tx, .inr rfl, hin⟩
      · rintro ⟨other, hother | rfl, hin⟩
        · exact .inl ⟨other, hother, hin⟩
        · exact .inr hin
  · rw [hcreated]
    exact h.finished

theorem Lists.create (h : k.Lists page) (hsound : k.Sound) : k.create.Lists page := by
  have hkinds : ∀ utxo ∈ k.create.fundingOutputs.map FundingOutput.utxo,
      utxo.isPublicKeyHashOut = true := by
    rw [show k.create.fundingOutputs.map FundingOutput.utxo = _ from hsound.map_create id]
    intro utxo hmem
    obtain ⟨output, houtput, rfl⟩ := List.mem_map.mp hmem
    exact h.kinds output houtput
  constructor
  · intro output hmem
    exact hkinds _ (List.mem_map_of_mem hmem)
  · rw [show k.create.fundingOutputs.map FundingOutput.utxo = _ from hsound.map_create id]
    exact h.payments
  · intro channel hmem
    rcases List.mem_append.mp hmem with hold | hin
    · exact h.finished channel hold
    · rw [List.mem_singleton.mp hin]
      cases hfinished : k.channel.finished with
      | true => rfl
      | false =>
          obtain ⟨output, hwindow, hkind⟩ := Sound.exists_of_unfinished hfinished
          rw [h.kinds output] at hkind
          · cases hkind
          · rw [window_eq hsound.num] at hwindow
            exact List.mem_of_mem_drop hwindow

theorem Lists.deplete (h : k.Lists page) : k.deplete.Lists page := by
  have hsame : k.deplete.fundingOutputs.map FundingOutput.utxo =
      k.fundingOutputs.map FundingOutput.utxo := by
    show (k.fundingOutputs.map Browser.deplete).map _ = _
    rw [List.map_map]
    exact List.map_congr_left fun output _ => Sound.utxo_deplete output
  constructor
  · intro output hmem
    obtain ⟨before, hbefore, rfl⟩ := List.mem_map.mp hmem
    rw [Sound.utxo_deplete]
    exact h.kinds before hbefore
  · rw [hsame]
    exact h.payments
  · exact h.finished

end Books

namespace Browser

variable {page : Page} {b : Browser}

/-- The FUNDING messages of a run deliver transactions like this. -/
def Delivers (page : Page) (_ : Browser) (event : PageEvent) : Prop :=
  ∀ tx ∈ event.transaction, Refundable page tx ∧ Readable page tx

instance Delivers.decidable (page : Page) (b : Browser) (event : PageEvent) :
    Decidable (Delivers page b event) :=
  inferInstanceAs (Decidable (∀ tx ∈ _, _))

theorem lists_of_delivers (h : Reaches (next page) (Delivers page) ready b) :
    b.books.Sound ∧ b.books.Lists page := by
  refine Reaches.invariant (I := fun b : Browser => b.books.Sound ∧ b.books.Lists page) ?_ ?_ h
  · refine ⟨Books.Sound.empty, ?_, ?_, ?_⟩
    · intro output hmem
      cases hmem
    · intro _ utxo
      constructor
      · intro hmem
        cases hmem
      · rintro ⟨tx, hmem, -⟩
        cases hmem
    · intro channel hmem
      cases hmem
  · rintro b event hdelivers ⟨hsound, hlists⟩
    have hentry := next_entry page b event
    refine ⟨hsound.entry hentry, ?_⟩
    generalize (b.next page event).books = k' at hentry
    cases hentry with
    | kept => exact hlists
    | deplete => exact hlists.deplete
    | create => exact hlists.create hsound
    | @receive tx htx =>
        obtain ⟨hrefundable, hreadable⟩ := hdelivers tx htx
        exact hlists.receive hsound hrefundable hreadable
    | @receiveCreate tx htx =>
        obtain ⟨hrefundable, hreadable⟩ := hdelivers tx htx
        exact (hlists.receive hsound hrefundable hreadable).create (hsound.receive page tx)

/-- In every run whose transactions can be read, the funding outputs are
the payments of the transactions received, once each, and no output is
spent by the contracts of two consumers. -/
theorem funding_registered_once (h : Reaches (next page) (Delivers page) ready b)
    (hids : Identified b.received) :
    (∀ utxo, utxo ∈ b.fundingOutputs.map FundingOutput.utxo ↔
      ∃ tx ∈ b.received, utxo ∈ payments page tx) ∧
    (b.fundingOutputs.map fun output => output.utxo.outpoint).Nodup ∧
    b.numFundingOutputs = b.fundingOutputs.length ∧
    b.fundingOutputsUsed ≤ b.numFundingOutputs ∧
    ∀ channel ∈ b.created, ∀ channel' ∈ b.created, channel.number ≠ channel'.number →
      b.contractSent channel.number = true → b.contractSent channel'.number = true →
        ∀ utxo ∈ channel.outputs, utxo ∉ channel'.outputs := by
  obtain ⟨hsound, hlists⟩ := lists_of_delivers h
  refine ⟨hlists.payments hids, hsound.outpoints, hsound.num, ?_, ?_⟩
  · show b.books.fundingOutputsUsed ≤ b.books.numFundingOutputs
    rw [hsound.num]
    exact hsound.used
  · intro channel hchannel channel' hchannel' hne _ _ utxo hmem hmem'
    have hsame := hsound.eq_of_mem hchannel hchannel' (hlists.finished channel hchannel) hmem hmem'
    exact hne (congrArg Channel.number hsame)

/-- A transaction comes again while the channel that it funds is open, and
another one after it. -/
theorem funding_registered_once_repeated :
    let b := Sample.run (Sample.opened ++ [Sample.receives (.funding (some (Sample.pays 1 100000))),
      Sample.receives (.funding (some (Sample.pays 2 50000)))])
    b.received.length = 3 ∧ b.fundingOutputs.length = 2 ∧
      (b.fundingOutputs.map fun output => output.utxo.outpoint).Nodup ∧
      ∀ utxo ∈ payments Sample.page (Sample.pays 2 50000),
        utxo ∈ b.fundingOutputs.map FundingOutput.utxo := by
  intro b
  have hrun : Reaches (next Sample.page) (Delivers Sample.page) ready b :=
    Reaches.start.along (by decide +kernel)
  obtain ⟨hlisted, hnodup, -⟩ := funding_registered_once hrun (by decide +kernel)
  refine ⟨by decide +kernel, by decide +kernel, hnodup, fun utxo hmem => ?_⟩
  exact (hlisted utxo).mpr ⟨Sample.pays 2 50000, by decide +kernel, hmem⟩

/-- A transaction whose first output has a script that ends in the middle
of OP_PUSHDATA1, and whose second one pays to the page. -/
def unreadable : FundingTx :=
  { Sample.pays 1 100000 with outputs := ⟨[0x4c], 0⟩ :: (Sample.pays 1 100000).outputs }

/-- It has an input to refund to, and is never registered. -/
theorem unreadable_not_registered :
    Refundable Sample.page unreadable ∧
    (payments Sample.page unreadable).map UnspentOutput.satoshis = [100000] ∧
    (Sample.run (.opens :: Sample.priced ++
      [Sample.receives (.funding (some unreadable))])).received = [unreadable] ∧
    (Sample.run (.opens :: Sample.priced ++
      [Sample.receives (.funding (some unreadable))])).fundingOutputs = [] := by
  decide +kernel

end Browser

end BitMesh.WebClient
