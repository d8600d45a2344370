import BitMesh.WebClient.Books

/-!
# Funding outputs over whole runs

`funding_outputs_used` cuts the funding outputs in two: those before it
were attached to a channel, each to one, and those from it on wait for the
next channel. The escrow amount is a sum over output states instead, and
the index is moved when a consumer is made, not when its contract is sent.
-/

namespace BitMesh.WebClient

open BitMesh.Bitcoin (Bytes)
open BitMesh.Lib

/-! ## Entries, once the books are in order -/

namespace Books

/-- The outputs that an earlier channel took. -/
def taken (k : Books) : List FundingOutput := k.fundingOutputs.take k.fundingOutputsUsed

/-- An output as it waits to be attached. -/
def fresh (utxo : UnspentOutput) : FundingOutput := ⟨utxo, some .unprocessed⟩

/-- The outputs that channels took, by channel. -/
def attached (k : Books) : List UnspentOutput :=
  (k.created.filter Channel.finished).flatMap Channel.outputs

/-- What the variables have to do with each other. A channel that did not
finish leaves the window as it is, with an output in it that no channel can
finish with. -/
structure Sound (k : Books) : Prop where
  num : k.numFundingOutputs = k.fundingOutputs.length
  used : k.fundingOutputsUsed ≤ k.fundingOutputs.length
  hashes : k.fundingTxHashes = k.fundingOutputs.map fun output => output.utxo.txId
  outpoints : (k.fundingOutputs.map fun output => output.utxo.outpoint).Nodup
  waiting : (∀ output ∈ k.window, output.utxo.isPublicKeyHashOut = true) →
    ∀ output ∈ k.window, output.outputState = some .unprocessed
  states : ∀ output ∈ k.taken,
    output.outputState = some .attached ∨ output.outputState = some .depleted
  attached : k.attached = k.taken.map FundingOutput.utxo
  stuck : ∀ channel ∈ k.created, channel.finished = false →
    (∃ output ∈ k.window, output.utxo.isPublicKeyHashOut = false) ∧
      ∀ utxo ∈ channel.outputs, utxo ∈ k.window.map FundingOutput.utxo

variable {k : Books}

theorem window_eq (hnum : k.numFundingOutputs = k.fundingOutputs.length) :
    k.window = k.fundingOutputs.drop k.fundingOutputsUsed := by
  rw [window, hnum, List.take_length]

theorem taken_append_window (hnum : k.numFundingOutputs = k.fundingOutputs.length) :
    k.taken ++ k.window = k.fundingOutputs := by
  rw [window_eq hnum, taken, List.take_append_drop]

/-- Books with these outputs before and in the window. -/
theorem taken_window_of_append (taken window : List FundingOutput)
    (houtputs : k.fundingOutputs = taken ++ window)
    (hnum : k.numFundingOutputs = k.fundingOutputs.length)
    (hused : k.fundingOutputsUsed = taken.length) : k.taken = taken ∧ k.window = window := by
  rw [window_eq hnum, Books.taken, houtputs, hused]
  exact ⟨List.take_left, List.drop_left⟩

namespace Sound

theorem length_taken (h : k.Sound) : k.taken.length = k.fundingOutputsUsed := by
  rw [taken, List.length_take, Nat.min_eq_left h.used]

theorem empty : Books.Sound ⟨0, 0, [], [], [], []⟩ where
  num := rfl
  used := Nat.le_refl 0
  hashes := rfl
  outpoints := List.nodup_nil
  waiting := fun _ output hmem => by cases hmem
  states := fun output hmem => by cases hmem
  attached := rfl
  stuck := fun channel hmem => by cases hmem

/-! ### A transaction -/

theorem modify_length_append {α : Type} (f : α → α) (l : List α) (a : α) :
    (l ++ [a]).modify l.length f = l ++ [f a] := by
  induction l with
  | nil => rfl
  | cons x l ih => exact congrArg (x :: ·) ih

theorem registered (utxos : List UnspentOutput) {k : Books}
    (hnum : k.numFundingOutputs = k.fundingOutputs.length) :
    utxos.foldl register k = { k with
      fundingOutputs := k.fundingOutputs ++ utxos.map fresh
      fundingTxHashes := k.fundingTxHashes ++ utxos.map UnspentOutput.txId
      numFundingOutputs := k.numFundingOutputs + utxos.length } := by
  induction utxos generalizing k with
  | nil => simp
  | cons utxo utxos ih =>
      have houtputs : (k.register utxo).fundingOutputs = k.fundingOutputs ++ [fresh utxo] := by
        show List.modify _ _ _ = _
        rw [hnum]
        exact modify_length_append _ _ _
      have hnum' : (k.register utxo).numFundingOutputs =
          (k.register utxo).fundingOutputs.length := by
        rw [houtputs, List.length_append, ← hnum]
        rfl
      rw [List.foldl_cons, ih hnum', houtputs]
      simp only [register, List.map_cons, List.length_cons, List.append_assoc,
        List.singleton_append, Books.mk.injEq, and_true]
      omega

theorem register (h : k.Sound) (received : List FundingTx) {utxos : List UnspentOutput}
    (hnodup : (utxos.map UnspentOutput.outpoint).Nodup)
    (hnew : ∀ utxo ∈ utxos, utxo.txId ∉ k.fundingTxHashes) :
    (utxos.foldl Books.register { k with received := received }).Sound := by
  have heq := registered utxos (k := { k with received := received }) h.num
  have hnum' : k.numFundingOutputs + utxos.length =
      (k.fundingOutputs ++ utxos.map fresh).length := by
    rw [List.length_append, List.length_map, h.num]
  obtain ⟨htaken, hwindow⟩ := taken_window_of_append
    (k := utxos.foldl Books.register { k with received := received })
    k.taken (k.window ++ utxos.map fresh)
    (by rw [heq, ← List.append_assoc, taken_append_window h.num])
    (by rw [heq]; exact hnum') (by rw [heq, h.length_taken])
  have hcreated : (utxos.foldl Books.register { k with received := received }).created =
      k.created := by rw [heq]
  constructor
  · rw [heq]
    exact hnum'
  · rw [heq]
    exact h.used.trans (by simp)
  · rw [heq]
    simp [h.hashes, fresh]
  · rw [heq]
    have hmap : (k.fundingOutputs ++ utxos.map fresh).map (fun output => output.utxo.outpoint) =
        k.fundingOutputs.map (fun output => output.utxo.outpoint) ++
          utxos.map UnspentOutput.outpoint := by
      simp [fresh]
    show (List.map _ (k.fundingOutputs ++ utxos.map fresh)).Nodup
    rw [hmap, List.nodup_append']
    refine ⟨h.outpoints, hnodup, ?_⟩
    -- a shared outpoint would have its transaction among the hashes
    intro outpoint hold hin
    obtain ⟨output, houtput, rfl⟩ := List.mem_map.mp hold
    obtain ⟨utxo, hutxo, hsame⟩ := List.mem_map.mp hin
    apply hnew utxo hutxo
    rw [h.hashes, List.mem_map]
    exact ⟨output, houtput, (congrArg Prod.fst hsame).symm⟩
  · rw [hwindow]
    intro hall output hmem
    rcases List.mem_append.mp hmem with hold | hin
    · exact h.waiting (fun o ho => hall o (List.mem_append_left _ ho)) output hold
    · obtain ⟨utxo, -, rfl⟩ := List.mem_map.mp hin
      rfl
  · rw [htaken]
    exact h.states
  · rw [htaken, Books.attached, hcreated]
    exact h.attached
  · rw [hcreated, hwindow]
    intro channel hmem hunfinished
    obtain ⟨⟨output, hin, hkind⟩, houtputs⟩ := h.stuck channel hmem hunfinished
    refine ⟨⟨output, List.mem_append_left _ hin, hkind⟩, fun utxo hutxo => ?_⟩
    rw [List.map_append]
    exact List.mem_append_left _ (houtputs utxo hutxo)

end Sound

end Books

theorem txId_of_mem_claimed {page : Page} {txId : Bytes} {j : Nat}
    {outputs : List FundingTxOutput} {utxo : UnspentOutput}
    (h : utxo ∈ claimed page txId j outputs) : utxo.txId = txId := by
  obtain ⟨output, -, rfl⟩ := List.mem_map.mp h
  rfl

theorem nodup_claimed (page : Page) (txId : Bytes) (j : Nat) (outputs : List FundingTxOutput) :
    ((claimed page txId j outputs).map UnspentOutput.outpoint).Nodup := by
  have hindices : (((scanned outputs).zipIdx j).map Prod.snd).Nodup := by
    rw [List.zipIdx_map_snd]
    exact List.nodup_range'
  have hall : (((scanned outputs).zipIdx j).map fun output => (txId, output.2)).Nodup := by
    have hpairs := hindices.map (f := fun index => (txId, index)) fun a b hab => (Prod.mk.inj hab).2
    rw [List.map_map] at hpairs
    exact hpairs
  rw [claimed, List.map_map]
  exact hall.sublist (List.filter_sublist.map _)

namespace Books.Sound

variable {k : Books}

theorem receive (h : k.Sound) (page : Page) (tx : FundingTx) : (k.receive page tx).Sound := by
  have hincoming : k.incoming page tx = [] ∨
      (tx.id ∉ k.fundingTxHashes ∧ k.incoming page tx = claimed page tx.id 0 tx.outputs) := by
    unfold incoming
    split
    · exact .inl rfl
    · rename_i hcontains
      have hnew : tx.id ∉ k.fundingTxHashes := fun hseen =>
        hcontains (List.contains_iff_mem.mpr hseen)
      cases (Browser.refundInput page.lib tx).join with
      | none => exact .inl rfl
      | some script => exact .inr ⟨hnew, rfl⟩
  rw [Books.receive]
  rcases hincoming with hnil | ⟨hnew, hclaimed⟩
  · rw [hnil]
    exact h.register _ List.nodup_nil fun utxo hmem => by cases hmem
  · rw [hclaimed]
    refine h.register _ (nodup_claimed page tx.id 0 tx.outputs) fun utxo hmem => ?_
    rw [txId_of_mem_claimed hmem]
    exact hnew

/-! ### A channel that is used up -/

theorem utxo_deplete (output : FundingOutput) : (Browser.deplete output).utxo = output.utxo := by
  unfold Browser.deplete
  split <;> rfl

theorem deplete (h : k.Sound) : k.deplete.Sound := by
  have hutxos : ∀ {γ : Type} (f : UnspentOutput → γ) (outputs : List FundingOutput),
      (outputs.map Browser.deplete).map (fun output => f output.utxo) =
        outputs.map fun output => f output.utxo := by
    intro γ f outputs
    rw [List.map_map]
    exact List.map_congr_left fun output _ => congrArg f (utxo_deplete output)
  have hnum : k.deplete.numFundingOutputs = k.deplete.fundingOutputs.length := by
    show k.numFundingOutputs = (k.fundingOutputs.map Browser.deplete).length
    rw [List.length_map, h.num]
  obtain ⟨htaken, hwindow⟩ := taken_window_of_append (k := k.deplete)
    (k.taken.map Browser.deplete) (k.window.map Browser.deplete)
    (by
      rw [← List.map_append, taken_append_window h.num]
      rfl) hnum (by rw [List.length_map, h.length_taken]; rfl)
  constructor
  · exact hnum
  · show k.fundingOutputsUsed ≤ (k.fundingOutputs.map Browser.deplete).length
    rw [List.length_map]
    exact h.used
  · show k.fundingTxHashes = (k.fundingOutputs.map Browser.deplete).map fun o => o.utxo.txId
    rw [hutxos UnspentOutput.txId, h.hashes]
  · show ((k.fundingOutputs.map Browser.deplete).map fun o => o.utxo.outpoint).Nodup
    rw [hutxos UnspentOutput.outpoint]
    exact h.outpoints
  · rw [hwindow]
    intro hall output hmem
    obtain ⟨before, hbefore, rfl⟩ := List.mem_map.mp hmem
    have hkinds : ∀ o ∈ k.window, o.utxo.isPublicKeyHashOut = true := by
      intro o ho
      rw [← utxo_deplete]
      exact hall _ (List.mem_map_of_mem ho)
    have hstate := h.waiting hkinds before hbefore
    rw [Browser.deplete, hstate, if_neg (by decide)]
    exact hstate
  · rw [htaken]
    intro output hmem
    obtain ⟨before, hbefore, rfl⟩ := List.mem_map.mp hmem
    rcases h.states before hbefore with hstate | hstate
    · rw [Browser.deplete, if_pos hstate]
      exact .inr rfl
    · rw [Browser.deplete, hstate, if_neg (by decide)]
      exact .inr hstate
  · rw [htaken]
    exact h.attached.trans (hutxos id _).symm
  · rw [hwindow]
    intro channel hmem hunfinished
    obtain ⟨⟨output, hin, hkind⟩, houtputs⟩ := h.stuck channel hmem hunfinished
    refine ⟨⟨_, List.mem_map_of_mem hin, by rw [utxo_deplete]; exact hkind⟩, fun utxo hutxo => ?_⟩
    rw [show (k.window.map Browser.deplete).map FundingOutput.utxo = k.window.map FundingOutput.utxo
      from hutxos id _]
    exact houtputs utxo hutxo

/-! ### A channel -/

theorem kept_append_dropWhile :
    k.kept ++ k.window.dropWhile (fun output => output.utxo.isPublicKeyHashOut) = k.window :=
  List.takeWhile_append_dropWhile

/-- A channel finishes with the whole window. -/
theorem kept_eq_window (hfinished : k.channel.finished = true) : k.kept = k.window := by
  have hlength : k.kept.length = k.window.length := of_decide_eq_true hfinished
  have hsplit := kept_append_dropWhile (k := k)
  have hnil : k.window.dropWhile (fun output => output.utxo.isPublicKeyHashOut) = [] := by
    apply List.eq_nil_of_length_eq_zero
    have hsum := congrArg List.length hsplit
    rw [List.length_append] at hsum
    omega
  rw [hnil, List.append_nil] at hsplit
  exact hsplit

theorem isPublicKeyHashOut_of_mem_kept {output : FundingOutput} (h : output ∈ k.kept) :
    output.utxo.isPublicKeyHashOut = true := by
  have hpasses := List.mem_takeWhile_imp (p := fun o : FundingOutput => o.utxo.isPublicKeyHashOut) h
  exact hpasses

/-- A channel that does not finish has met an output of another kind. -/
theorem exists_of_unfinished (hunfinished : k.channel.finished = false) :
    ∃ output ∈ k.window, output.utxo.isPublicKeyHashOut = false := by
  by_contra hnone
  have hall : ∀ output ∈ k.window, output.utxo.isPublicKeyHashOut = true := by
    intro output hmem
    by_contra hkind
    exact hnone ⟨output, hmem, Bool.eq_false_of_not_eq_true hkind⟩
  have hkept : k.kept = k.window := List.takeWhile_eq_self_iff.mpr hall
  have hfinished : k.channel.finished = true := decide_eq_true (congrArg List.length hkept)
  rw [hfinished] at hunfinished
  cases hunfinished

/-- All of the outputs after a channel was created. -/
theorem outputs_create (h : k.Sound) : k.create.fundingOutputs = k.taken ++ (k.kept.map Browser.attach ++
    k.window.dropWhile fun output => output.utxo.isPublicKeyHashOut) := by
  have hrest : k.fundingOutputs.drop (k.fundingOutputsUsed + k.kept.length) =
      k.window.dropWhile fun output => output.utxo.isPublicKeyHashOut := by
    rw [← List.drop_drop, ← window_eq h.num]
    conv_lhs => rw [← kept_append_dropWhile (k := k)]
    exact List.drop_left
  show k.taken ++ k.kept.map Browser.attach ++ k.fundingOutputs.drop _ = _
  rw [hrest, List.append_assoc]

theorem map_create (h : k.Sound) {γ : Type} (f : UnspentOutput → γ) :
    k.create.fundingOutputs.map (fun output => f output.utxo) =
      k.fundingOutputs.map fun output => f output.utxo := by
  have hsame : (k.kept.map Browser.attach).map (fun output => f output.utxo) =
      k.kept.map fun output => f output.utxo := by
    rw [List.map_map]
    rfl
  rw [outputs_create h, List.map_append, List.map_append, hsame, ← List.map_append,
    kept_append_dropWhile, ← List.map_append, taken_append_window h.num]

theorem create (h : k.Sound) : k.create.Sound := by
  have hlength : k.create.fundingOutputs.length = k.fundingOutputs.length := by
    have hmap := congrArg List.length (map_create h id)
    rwa [List.length_map, List.length_map] at hmap
  have hnum : k.create.numFundingOutputs = k.create.fundingOutputs.length := by
    rw [hlength]
    exact h.num
  have hhashes : k.create.fundingTxHashes = k.create.fundingOutputs.map fun o => o.utxo.txId := by
    rw [map_create h UnspentOutput.txId]
    exact h.hashes
  have houtpoints : (k.create.fundingOutputs.map fun o => o.utxo.outpoint).Nodup := by
    rw [map_create h UnspentOutput.outpoint]
    exact h.outpoints
  cases hfinished : k.channel.finished with
  | true =>
      have hwhole := kept_eq_window hfinished
      have hnil : k.window.dropWhile (fun output => output.utxo.isPublicKeyHashOut) = [] := by
        have hsplit := kept_append_dropWhile (k := k)
        rw [hwhole] at hsplit
        exact List.append_right_eq_self.mp hsplit
      have hused : k.create.fundingOutputsUsed = k.fundingOutputs.length := by
        show (if k.channel.finished then _ else _) = _
        rw [if_pos hfinished, h.num]
      have houtputs : k.create.fundingOutputs = (k.taken ++ k.window.map Browser.attach) ++ [] := by
        rw [outputs_create h, hwhole, hnil, List.append_nil, List.append_nil]
      obtain ⟨htaken, hwindow⟩ := taken_window_of_append _ _ houtputs hnum (by
        rw [hused, ← hlength, houtputs, List.append_nil])
      refine ⟨hnum, by rw [hused, hlength], hhashes, houtpoints, ?_, ?_, ?_, ?_⟩
      · rw [hwindow]
        intro _ output hmem
        cases hmem
      · rw [htaken]
        intro output hmem
        rcases List.mem_append.mp hmem with hold | hin
        · exact h.states output hold
        · obtain ⟨before, -, rfl⟩ := List.mem_map.mp hin
          exact .inl rfl
      · have hsame : (k.window.map Browser.attach).map FundingOutput.utxo =
            k.window.map FundingOutput.utxo := by
          rw [List.map_map]
          rfl
        have hchannel : k.channel.outputs = k.window.map FundingOutput.utxo := by
          rw [← hwhole]
          rfl
        rw [htaken, List.map_append, hsame, Books.attached]
        show ((k.created ++ [k.channel]).filter Channel.finished).flatMap Channel.outputs = _
        rw [List.filter_append, List.filter_singleton, hfinished, List.flatMap_append]
        rw [show (k.created.filter Channel.finished).flatMap Channel.outputs = _ from h.attached]
        simp [hchannel]
      · rw [hwindow]
        intro channel hmem hunfinished
        rcases List.mem_append.mp hmem with hold | hin
        · -- an earlier one would have left an output that this one cannot finish with
          obtain ⟨⟨output, hin, hkind⟩, -⟩ := h.stuck channel hold hunfinished
          rw [isPublicKeyHashOut_of_mem_kept (hwhole ▸ hin)] at hkind
          cases hkind
        · rw [List.mem_singleton.mp hin, hfinished] at hunfinished
          cases hunfinished
  | false =>
      have hused : k.create.fundingOutputsUsed = k.fundingOutputsUsed := by
        show (if k.channel.finished then _ else _) = _
        rw [hfinished]
        rfl
      obtain ⟨htaken, hwindow⟩ := taken_window_of_append _ _ (outputs_create h) hnum (by
        rw [hused, h.length_taken])
      have hutxos : k.create.window.map FundingOutput.utxo = k.window.map FundingOutput.utxo := by
        have hsame : (k.kept.map Browser.attach).map FundingOutput.utxo =
            k.kept.map FundingOutput.utxo := by
          rw [List.map_map]
          rfl
        rw [hwindow, List.map_append, hsame, ← List.map_append, kept_append_dropWhile]
      obtain ⟨other, hother, hkind⟩ := exists_of_unfinished hfinished
      have hstuck : ∃ output ∈ k.create.window, output.utxo.isPublicKeyHashOut = false := by
        have hin : other.utxo ∈ k.create.window.map FundingOutput.utxo := by
          rw [hutxos]
          exact List.mem_map_of_mem hother
        obtain ⟨output, hmem, hsame⟩ := List.mem_map.mp hin
        exact ⟨output, hmem, by rw [hsame]; exact hkind⟩
      refine ⟨hnum, by rw [hused, hlength]; exact h.used, hhashes, houtpoints, ?_, ?_, ?_, ?_⟩
      · intro hall
        obtain ⟨output, hmem, hother⟩ := hstuck
        rw [hall output hmem] at hother
        cases hother
      · rw [htaken]
        exact h.states
      · rw [htaken, Books.attached]
        show ((k.created ++ [k.channel]).filter Channel.finished).flatMap Channel.outputs = _
        rw [List.filter_append, List.filter_singleton, hfinished, ← h.attached]
        simp [Books.attached]
      · rw [hutxos]
        intro channel hmem hunfinished
        refine ⟨hstuck, ?_⟩
        rcases List.mem_append.mp hmem with hold | hin
        · exact (h.stuck channel hold hunfinished).2
        · rw [List.mem_singleton.mp hin]
          intro utxo hutxo
          obtain ⟨output, houtput, rfl⟩ := List.mem_map.mp hutxo
          exact List.mem_map_of_mem (List.takeWhile_sublist _ |>.subset houtput)

theorem entry {page : Page} {event : PageEvent} {k' : Books} (h : k.Sound)
    (hentry : Entry page event k k') : k'.Sound := by
  cases hentry with
  | kept => exact h
  | deplete => exact h.deplete
  | create => exact h.create
  | receive => exact h.receive page _
  | receiveCreate => exact (h.receive page _).create

end Books.Sound

namespace Browser

variable {page : Page} {b : Browser}

theorem Runs.sound (h : Runs page b) : b.books.Sound := by
  have hready : ready.books.Sound := Books.Sound.empty
  refine Reaches.invariant (I := fun b : Browser => b.books.Sound) hready ?_ h
  intro b event _ hsound
  exact hsound.entry (next_entry page b event)

end Browser

end BitMesh.WebClient
