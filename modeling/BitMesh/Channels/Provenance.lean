import BitMesh.Channels.Invariants

/-!
# What came in messages

The keys, outputs and contracts the server works with were sent to it, in
messages of at most `Short.MAX_VALUE` bytes. bitcoinj can be expected to
write what it has read, and to make settlements of it that are no larger
than a block; of other transactions nothing is assumed.
-/

namespace BitMesh.Channels

open BitMesh.Bitcoin BitMesh.Lib

variable {p : Platform} {start : World} {a : Env × Action} {w w' : World}

/-- The transaction was read. -/
def Parsed (p : Platform) (tx : Transaction) : Prop := ∃ bytes, p.parseTransaction bytes = .ok tx

/-- The record `r` was made of what came in messages. -/
def RecordSent (p : Platform) (w : World) (r : ChannelRef) : Prop :=
  Parsed p (w.channels.read r).contract ∧ (w.channels.read r).clientOutput < w.outputs.next

/-- What the server holds of its clients came in messages. -/
structure Sent (p : Platform) (w : World) : Prop where
  outputs : ∀ o, o < w.outputs.next → Received p.toBitcoinj (w.outputs.read o)
  keys : ∀ s key, (w.states.read s).clientKey = some key → key.pub.length ≤ maxMessageSize
  contracts : ∀ s tx, (w.states.read s).multisigContract = some tx → Parsed p tx
  clientOutputs : ∀ s o, (w.states.read s).clientOutput = some o → o < w.outputs.next
  records : ∀ r, r < w.channels.next → RecordSent p w r

theorem Sent.initial (autosave : Bool) : Sent p (World.initial autosave) where
  outputs _ h := absurd h (Nat.not_lt_zero _)
  keys _ _ h := nomatch h
  contracts _ _ h := nomatch h
  clientOutputs _ _ h := nomatch h
  records _ h := absurd h (Nat.not_lt_zero _)

theorem Settling.outputs {env : Env} (h : Settling p env w w') (o : OutputRef) :
    (w.outputs.read o).Revalued (w'.outputs.read o) := by
  cases h with
  | quiet hq => exact hq.outputs o
  | deducted | settled | closedEarly => exact .inl rfl

/-- An output is kept but for its amount, and a new one was received. -/
theorem Effect.outputs (he : Effect p start a w w') {o : OutputRef} (ho : o < w'.outputs.next) :
    o < w.outputs.next ∧ (w.outputs.read o).Revalued (w'.outputs.read o) ∨
      Received p.toBitcoinj (w'.outputs.read o) := by
  cases he with
  | closing h =>
    cases h with
    | settling h => exact .inl ⟨(h.script o).1 ▸ ho, h.outputs o⟩
    | _ => exact .inl ⟨ho, .inl rfl⟩
  | refundSigned c s tx output _ houtput =>
    by_cases heq : o = w.outputs.next
    · subst heq
      exact .inr (by simpa using houtput)
    · have hlt : o < w.outputs.next := lt_of_le_of_ne (Nat.le_of_lt_succ ho) heq
      exact .inl ⟨hlt, .inl (Heap.read_alloc_old _ _ hlt)⟩
  | _ => exact .inl ⟨ho, .inl rfl⟩

/-- A record that a state is made from exists, since its contract has an
output. -/
theorem Sent.restored (hi : Sent p w) (hr : Records p w) {r : ChannelRef} {output : TransactionOutput}
    (houtput : (w.channels.read r).contract.output0 = .ok output) : RecordSent p w r := by
  refine hi.records r ?_
  by_contra hnot
  rw [Transaction.output0, hr.blank r (Nat.le_of_not_lt hnot)] at houtput
  cases houtput

section Step

variable (hi : Sent p w) (he : Effect p start a w w')
include hi he

theorem Sent.outputs_step {o : OutputRef} (ho : o < w'.outputs.next) :
    Received p.toBitcoinj (w'.outputs.read o) := by
  rcases he.outputs ho with ⟨hlt, hset⟩ | hnew
  · exact (hi.outputs o hlt).revalued hset
  · exact hnew

theorem Sent.keys_step {s : StateRef} {key : ECKey}
    (hs : (w'.states.read s).clientKey = some key) : key.pub.length ≤ maxMessageSize := by
  rcases he.changes s with hsame | ⟨st, hst, hch⟩
  · rw [core_field hsame (·.clientKey) fun _ => rfl] at hs
    exact hi.keys s key hs
  · rw [hst] at hs
    cases hch with
    | keysSet pub _ hpub =>
      cases hs
      exact hpub
    | restored | started => cases hs
    | _ =>
      exact hi.keys s key hs

theorem Sent.contracts_step (hr : Records p w) {s : StateRef} {tx : Transaction}
    (hs : (w'.states.read s).multisigContract = some tx) : Parsed p tx := by
  rcases he.changes s with hsame | ⟨st, hst, hch⟩
  · rw [core_field hsame (·.multisigContract) fun _ => rfl] at hs
    exact hi.contracts s tx hs
  · rw [hst] at hs
    cases hch with
    | contractGiven c provided tx' _ _ _ htx =>
      obtain ⟨msg, -, -, -, hparse⟩ := htx
      cases hs
      exact ⟨_, hparse⟩
    | restored r _ _ _ hvalue =>
      obtain ⟨output, houtput, -⟩ := hvalue
      cases hs
      exact (hi.restored hr houtput).1
    | started => cases hs
    | _ =>
      exact hi.contracts s tx hs

theorem Sent.clientOutputs_step (hr : Records p w) {s : StateRef} {o : OutputRef}
    (hs : (w'.states.read s).clientOutput = some o) : o < w'.outputs.next := by
  rcases he.changes s with hsame | ⟨st, hst, hch⟩
  · rw [core_field hsame (·.clientOutput) fun _ => rfl] at hs
    exact (he.script (hi.clientOutputs s o hs)).1
  · rw [hst] at hs
    cases hch with
    | refundSigned _ _ _ _ hnext =>
      cases hs
      exact lt_of_lt_of_eq (Nat.lt_succ_self _) hnext.symm
    | restored r _ _ _ hvalue =>
      obtain ⟨output, houtput, -⟩ := hvalue
      cases hs
      exact (he.script (hi.restored hr houtput).2).1
    | started => cases hs
    | _ =>
      exact (he.script (hi.clientOutputs s o hs)).1

theorem Sent.records_step {r : ChannelRef} (hr : r < w'.channels.next) : RecordSent p w' r := by
  rcases he.newRecord hr with hlt | ⟨c, s, contract, o, hstoring, rfl, rfl⟩
  · obtain ⟨hparsed, houtput⟩ := hi.records r hlt
    have hterms := (he.channelTerms hlt).2
    have hcontract : (w'.channels.read r).contract = (w.channels.read r).contract :=
      congrArg (·.contract) hterms
    have hclient : (w'.channels.read r).clientOutput = (w.channels.read r).clientOutput :=
      congrArg (·.clientOutput) hterms
    rw [RecordSent, hcontract, hclient]
    exact ⟨hparsed, (he.script houtput).1⟩
  · rw [RecordSent, World.store, Heap.read_alloc_new]
    exact ⟨hi.contracts s contract hstoring.contract_eq, hi.clientOutputs s o hstoring.output⟩

end Step

theorem Passed.sent {ok : World → Env × Action → Prop} {autosave : Bool}
    (h : Passed p ok autosave w) : Sent p w :=
  Visited.invariant (.initial autosave)
    (fun _ _ _ _ hs hok hpath _ hi he =>
      have hr := Passed.records (hs.path hok hpath)
      { outputs := fun _ ho => hi.outputs_step he ho
        keys := fun _ _ hs => hi.keys_step he hs
        contracts := fun _ _ hs => hi.contracts_step he hr hs
        clientOutputs := fun _ _ hs => hi.clientOutputs_step he hr hs
        records := fun _ hr => hi.records_step he hr }) h

end BitMesh.Channels
