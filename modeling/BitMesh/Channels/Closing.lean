import BitMesh.Channels.Effects

/-!
# Closing keeps to its effects

`makeSettlement`, `settle`, `close` and `closeChannel` do nothing but
`Closing`. Along the way a state that holds no record gets none, which is
what lets `closeChannel` drop the state of the record it closed.
-/

namespace BitMesh.Channels

open BitMesh.Bitcoin BitMesh.Lib Relation

variable {p : Platform} {env : Env}

/-! ## The unsigned transaction -/

/-- What `makeUnsignedChannelContract` does to the client's output. -/
def World.setChange (w : World) (s : StateRef) (change : Coin) : World :=
  match (w.states.read s).clientOutput with
  | none => w
  | some o =>
      if change = Coin.zero then w
      else { w with outputs := w.outputs.modify o (·.setValue change) }

theorem World.setChange_states (w : World) (s : StateRef) (change : Coin) :
    (w.setChange s change).states = w.states := by
  unfold World.setChange
  split
  · rfl
  · split <;> rfl

theorem revalued_setValue (outputs : Heap TransactionOutput) (o : OutputRef) (v : Coin)
    (o' : OutputRef) :
    (outputs.read o').Revalued ((outputs.modify o (·.setValue v)).read o') := by
  by_cases heq : o' = o
  · subst heq
    exact .inr ⟨v, Heap.read_modify_self ..⟩
  · exact .inl (Heap.read_modify_ne _ _ heq)

/-- Nothing but amounts of client outputs was written. -/
def Rewritten (w w' : World) : Prop :=
  ∃ outputs, w' = { w with outputs := outputs } ∧ outputs.next = w.outputs.next ∧
    ∀ o, (w.outputs.read o).Revalued (outputs.read o)

namespace Rewritten

theorem refl (w : World) : Rewritten w w := ⟨w.outputs, rfl, rfl, fun _ => .inl rfl⟩

theorem output (w : World) (o : OutputRef) (v : Coin) :
    Rewritten w { w with outputs := w.outputs.modify o (·.setValue v) } :=
  ⟨_, rfl, rfl, revalued_setValue w.outputs o v⟩

theorem quiet {w w' : World} (h : Rewritten w w') : Quiet w w' := by
  obtain ⟨outputs, rfl, hnext, hset⟩ := h
  exact { Quiet.refl w with outputsNext := hnext, outputs := hset }

theorem setChange (w : World) (s : StateRef) (change : Coin) :
    Rewritten w (w.setChange s change) := by
  unfold World.setChange
  split
  · exact .refl w
  · split
    · exact .refl w
    · exact .output w _ change

end Rewritten

theorem Quiet.setChange (w : World) (s : StateRef) (change : Coin) :
    Quiet w (w.setChange s change) :=
  (Rewritten.setChange w s change).quiet

/-- What `makeUnsignedChannelContract` builds its transaction from. -/
structure Unsigned (w : World) (s : StateRef) (v : Coin) where
  contract : Transaction
  totalValue : Coin
  change : Coin
  clientScript : Script
  contract_eq : (w.states.read s).multisigContract = some contract
  totalValue_eq : (w.states.read s).totalValue = some totalValue
  change_value : change.value = totalValue.value - v.value
  script_eq : change ≠ Coin.zero → ∃ o, (w.states.read s).clientOutput = some o ∧
    clientScript = (w.outputs.read o).script

/-- `makeUnsignedChannelContract` makes the channel's transaction, or
throws when it has touched nothing but the client's output. -/
theorem makeUnsignedChannelContract_spec (w : World) (s : StateRef) (v : Coin) :
    wp (makeUnsignedChannelContract p s v) w
      (fun tx t => ∃ u : Unsigned w s v,
        tx = channelTx p u.contract u.change u.clientScript ∧ t = w.setChange s u.change)
      (fun _ t => Rewritten w t) := by
  simp only [makeUnsignedChannelContract, wp_bind, wp_readState, wp_nonNull, wp_orThrow, wp_ite,
    wp_pure, wp_modifyOutput, wp_readOutput]
  refine ⟨fun T hT => ⟨fun change hc => ⟨fun h0 => ⟨fun tx htx => ?_, fun _ => .refl w⟩,
    fun h0 => ⟨fun o ho => ⟨fun tx htx => ?_, fun _ => .output w o change⟩, fun _ => .refl w⟩⟩,
    fun _ _ => .refl w⟩, fun _ => .refl w⟩
  · refine ⟨⟨tx, T, change, ⟨[]⟩, htx, hT, Coin.value_of_subtract hc, fun h => absurd h0 h⟩, ?_, ?_⟩
    · simp [channelTx, h0]
    · simp only [World.setChange, h0, if_true]
      split <;> rfl
  · refine ⟨⟨tx, T, change, (w.outputs.read o).script, htx, hT, Coin.value_of_subtract hc,
      fun _ => ⟨o, ho, rfl⟩⟩, ?_, ?_⟩
    · simp [channelTx, h0, TransactionOutput.setValue]
    · simp [World.setChange, ho, h0]

/-! ## The settlement -/

/-- The fee taken off what the channel is worth to the server. -/
def World.deduct (w : World) (s : StateRef) (b : Coin) : World :=
  { w with states := w.states.modify s fun st => { st with bestValueToMe := b } }

theorem World.deduct_setChange (w : World) (s : StateRef) (b change : Coin) :
    (w.setChange s change).deduct s b = (w.deduct s b).setChange s change := by
  simp only [World.deduct, World.setChange, Heap.read_modify_self]
  split
  · rfl
  · split <;> rfl

theorem signMultisigInput_spec (w : World) (s : StateRef) (tx : Transaction) (m : SigHash)
    (a : Bool) :
    wp (signMultisigInput p s tx m a) w
      (fun tx' t => t = w ∧ ∃ scriptSig, tx' = tx.setScriptSig scriptSig)
      (fun _ t => t = w) := by
  simp only [signMultisigInput, wp_bind, wp_readState, wp_nonNull, wp_orThrow, wp_pure]
  refine ⟨fun _ _ => ⟨fun _ _ => ⟨fun _ _ => ⟨fun _ _ => ⟨trivial, _, rfl⟩, ?_⟩, ?_⟩, ?_⟩, ?_⟩ <;>
    intros <;> trivial

theorem signSettlement_spec (w : World) (s : StateRef) (tx : Transaction) (b : Coin) :
    wp (signSettlement p env s tx b) w
      (fun tx' t => t = w ∧ ∃ scriptSig,
        tx' = (tx.addOutput ⟨b.value, env.changeScript⟩).setScriptSig scriptSig)
      (fun _ t => t = w) := by
  simp only [signSettlement, wp_bind, wp_orThrow]
  refine ⟨fun output ho => ?_, fun _ _ => trivial⟩
  obtain rfl := TransactionOutput.eq_of_new ho
  refine wp.mono (signMultisigInput_spec w s _ _ _) ?_ (fun _ _ h => h)
  rintro tx' t ⟨rfl, scriptSig, rfl⟩
  simp only [wp_readState, wp_nonNull, wp_pure]
  refine ⟨fun _ _ => ⟨fun _ _ => ⟨fun _ _ => ⟨trivial, scriptSig, rfl⟩, ?_⟩, ?_⟩, ?_⟩ <;>
    intros <;> trivial

/-- What `makeSettlement` leaves behind: the fee is deducted, unless an
exception comes before that. -/
theorem makeSettlement_spec (w : World) (s : StateRef) :
    wp (makeSettlement p env s) w
      (fun res t => ∃ b change, b.value =
          (w.states.read s).bestValueToMe.value - Coin.referenceDefaultMinTxFee.value ∧
        t = (w.deduct s b).setChange s change ∧
        match res with
        | none => b.value ≤ Coin.referenceDefaultMinTxFee.value
        | some tx => Nonempty (Settlement p env w s b tx))
      (fun _ t => Quiet w t ∨ ∃ b change, b.value =
          (w.states.read s).bestValueToMe.value - Coin.referenceDefaultMinTxFee.value ∧
        t = (w.deduct s b).setChange s change) := by
  simp only [makeSettlement, wp_bind, wp_readState]
  refine wp.mono (makeUnsignedChannelContract_spec w s _) ?_ (fun _ _ h => .inl h.quiet)
  rintro tx t ⟨u, rfl, rfl⟩
  simp only [wp_orThrow, wp_modifyState]
  refine ⟨fun b hb => ?_, fun _ _ => .inl (.setChange w s _)⟩
  have hbv := Coin.value_of_subtract hb
  change wp _ ((w.setChange s u.change).deduct s b) _ _
  rw [World.deduct_setChange, wp_ite]
  refine ⟨fun hle => ⟨b, u.change, hbv, rfl, hle⟩, fun hgt => ?_⟩
  rw [wp_bind]
  refine wp.mono (signSettlement_spec _ s _ b) ?_ ?_
  · rintro tx' t ⟨rfl, scriptSig, rfl⟩
    exact ⟨b, u.change, hbv, rfl, ⟨u.contract, u.totalValue, u.change, u.contract_eq,
      u.totalValue_eq, u.change_value, hbv, Int.not_le.mp hgt, ⟨scriptSig, rfl⟩,
      ⟨u.clientScript, u.script_eq, rfl⟩⟩⟩
  · rintro e t rfl
    exact .inr ⟨b, u.change, hbv, rfl⟩

/-! ## Saving -/

/-- Saving does not throw: the wallet is not saved on every change, or all
its records can be serialised. -/
def World.canSave (p : Platform) (w : World) : Bool :=
  !w.autosave || (serializeWalletExtension p w).isOk

/-- Whether a record can be saved, and what is thrown if not, does not
depend on the client's output. -/
theorem serializeChannel_output (channel : StoredServerChannel) (a b : TransactionOutput) :
    (serializeChannel p channel a).map (fun _ => ()) =
      (serializeChannel p channel b).map (fun _ => ()) := by
  unfold serializeChannel
  by_cases hbest : 0 ≤ channel.bestValueToMe.value ∧
      channel.bestValueToMe.value < Coin.maxMoney.value
  · rw [if_neg (not_not.mpr hbest), if_neg (not_not.mpr hbest)]
    by_cases hunlock : 0 < channel.refundTransactionUnlockTimeSecs
    · rw [if_neg (not_not.mpr hunlock), if_neg (not_not.mpr hunlock)]
      cases channel.myKey.priv <;> rfl
    · rw [if_pos hunlock, if_pos hunlock]
      rfl
  · rw [if_pos hbest, if_pos hbest]
    rfl

theorem Rewritten.serializeWalletExtension {w w' : World} (h : Rewritten w w') :
    (serializeWalletExtension p w').map (fun _ => ()) =
      (serializeWalletExtension p w).map (fun _ => ()) := by
  obtain ⟨outputs, rfl, -, -⟩ := h
  exact mapM_map_unit_congr fun e _ => serializeChannel_output _ _ _

theorem saveNow_spec (w : World) :
    wp (saveNow p) w (fun _ t => t = w) (fun _ t => t = w ∧ w.canSave p = false) := by
  simp only [saveNow, wp_bind, wp_get, wp_ite, wp_orThrow, wp_pure, implies_true, true_and, and_true]
  intro hsaving e he
  rw [World.canSave, (Bool.and_eq_true_iff.mp hsaving).1, he]
  rfl

/-- The amounts of the client outputs are of no concern to saving. -/
theorem Rewritten.canSave {w w' : World} (h : Rewritten w w') : w'.canSave p = w.canSave p := by
  have hsame := h.serializeWalletExtension (p := p)
  obtain ⟨outputs, rfl, -, -⟩ := h
  unfold World.canSave
  rw [← isOk_map _ fun _ => (), hsame, isOk_map]

/-- Saving marks the extension as installed. -/
def World.installed (w : World) : World := { w with extensionInstalled := true }

theorem Quiet.installed_right (w : World) : Quiet w w.installed :=
  .of_eq rfl rfl rfl rfl rfl rfl (fun _ => rfl) rfl

theorem updatedChannel_spec (w : World) :
    wp (updatedChannel p) w (fun _ t => t = w.installed)
      (fun _ t => t = w.installed ∧ w.canSave p = false) := by
  simp only [updatedChannel, wp_bind, wp_modify]
  exact saveNow_spec w.installed

theorem updatedChannel_quiet (w : World) :
    wp (updatedChannel p) w (fun _ t => Quiet w t) (fun _ t => Quiet w t) := by
  have hquiet := Quiet.installed_right w
  exact wp.mono (updatedChannel_spec w) (fun _ _ h => h ▸ hquiet) (fun _ _ h => h.1 ▸ hquiet)

theorem setClosedFuture_quiet (w : World) (s : StateRef) (tx : Option Transaction) :
    wp (setClosedFuture s tx) w (fun _ t => Quiet w t) (fun _ t => Quiet w t) := by
  simp only [setClosedFuture, wp_bind, wp_readState, wp_ite, wp_modifyState, wp_pure]
  refine ⟨fun _ => ?_, fun _ => .refl w⟩
  refine wp_forM _ (fun cb _ u hu => ?_) (.state w s rfl)
  simp only [wp_modifyServer]
  exact hu.trans (.server u cb.1 rfl)

/-! ## `settle` -/

theorem settle_follows (w : World) (s : StateRef) (hcalled : .closeCalled s ∈ w.trace)
    (hs : (w.states.read s).storedServerChannel = none) :
    Follows (Settling p env) (settle p env s) w := by
  unfold settle Follows
  simp only [wp_bind, wp_readState, wp_ite, wp_modifyState, wp_pure, wp_tryCatch, wp_throw]
  refine ⟨fun hearly => ?_, fun _ => ⟨fun _ => .refl, fun hready => ?_⟩⟩
  · have hclosed : ReflTransGen (Settling p env) w _ := .single (.closedEarly w s hcalled hearly)
    exact wp.mono (setClosedFuture_quiet _ s none) (fun _ _ h => hclosed.tail (.quiet h))
      (fun _ _ h => hclosed.tail (.quiet h))
  · have hready : (w.states.read s).state = .ready := not_not.mp hready
    refine wp.mono (makeSettlement_spec w s).run ?_ ?_
    · rintro res t ⟨⟨b, change, hb, rfl, hres⟩, -⟩
      cases res with
      | none =>
        refine .tail (.single (.deducted w s b hcalled hready hs hb (.inl hres))) ?_
        exact .quiet (.setChange _ s change)
      | some tx =>
        obtain ⟨settlement⟩ := hres
        simp only [broadcastTransaction, wp_bind, wp_modifyState, wp_modify, wp_pure]
        refine .tail (.single (.settled w s b tx hcalled hready hs settlement)) (.quiet ?_)
        -- the change was written to the client's output before the deduction
        have heq := Quiet.setChange { w with
          states := w.states.modify s fun st => { st with bestValueToMe := b, state := .closing }
          broadcasts := (w.broadcasts.alloc { tx := tx, purpose := .settlement s }).2 } s change
        convert heq using 1
        simp only [World.deduct, World.setChange, Heap.read_modify_self]
        split
        · simp
        · split <;> simp
    · rintro e t ⟨hq | ⟨b, change, hb, rfl⟩, hrun⟩
      · exact .single (.quiet hq)
      · refine .tail (.single (.deducted w s b hcalled hready hs hb (.inr ⟨e, _, hrun⟩))) ?_
        exact .quiet (.setChange _ s change)

/-! ## What closing leaves alone -/

theorem Settling.channels {w w' : World} (h : Settling p env w w') :
    w'.channels = w.channels := by
  cases h with
  | quiet hq => exact hq.channels
  | deducted | settled | closedEarly => rfl

theorem Settling.mapChannels {w w' : World} (h : Settling p env w w') :
    w'.mapChannels = w.mapChannels := by
  cases h with
  | quiet hq => exact hq.mapChannels
  | deducted | settled | closedEarly => rfl

theorem Settling.stored {w w' : World} (h : Settling p env w w') (s : StateRef) :
    (w'.states.read s).storedServerChannel = (w.states.read s).storedServerChannel := by
  cases h with
  | quiet hq => exact hq.stored s
  | deducted s' | settled s' | closedEarly s' =>
    by_cases hs : s = s'
    · subst hs; simp
    · simp [Heap.read_modify_ne _ _ hs]

theorem Settling.statesNext {w w' : World} (h : Settling p env w w') :
    w'.states.next = w.states.next := by
  cases h with
  | quiet hq => exact hq.statesNext
  | deducted | settled | closedEarly => exact Heap.next_modify ..

theorem Settling.serverState {w w' : World} (h : Settling p env w w') (c : ConnRef) :
    (w'.servers.read c).state = (w.servers.read c).state := by
  cases h with
  | quiet hq => exact hq.serverState c
  | deducted | settled | closedEarly => rfl

theorem Settling.mem_trace {w w' : World} (h : Settling p env w w') {e : Event}
    (he : e.neutral = false) (hmem : e ∈ w.trace) : e ∈ w'.trace := by
  cases h with
  | quiet hq => exact (hq.mem_trace he).mpr hmem
  | deducted | settled | closedEarly => exact hmem

theorem Closing.mem_trace {w w' : World} (h : Closing p env w w') {e : Event}
    (he : e.neutral = false) (hmem : e ∈ w.trace) : e ∈ w'.trace := by
  cases h with
  | settling h => exact h.mem_trace he hmem
  | untied | restored | forgotten => exact hmem
  | called | untiedRemoved | removed => exact List.mem_cons_of_mem _ hmem

/-- The states that hold a record, and those that a record or a connection
holds, exist. -/
structure Allocated (w : World) : Prop where
  tied : ∀ s r, (w.states.read s).storedServerChannel = some r → s < w.states.next
  state : ∀ r s, (w.channels.read r).state = some s → s < w.states.next
  server : ∀ c s, (w.servers.read c).state = some s → s < w.states.next

theorem Settling.allocated {w w' : World} (h : Settling p env w w') (ha : Allocated w) :
    Allocated w' := by
  refine ⟨fun s r hs => ?_, fun r s hs => ?_, fun c s hs => ?_⟩
  · rw [h.statesNext]; exact ha.tied s r (h.stored s ▸ hs)
  · rw [h.statesNext]; exact ha.state r s (h.channels ▸ hs)
  · rw [h.statesNext]; exact ha.server c s (h.serverState c ▸ hs)

theorem Closing.statesNext_le {w w' : World} (h : Closing p env w w') :
    w.states.next ≤ w'.states.next := by
  cases h with
  | settling h => exact le_of_eq h.statesNext.symm
  | called | removed | forgotten => exact le_rfl
  | untied | untiedRemoved => exact le_of_eq (Heap.next_modify ..).symm
  | restored => exact Nat.le_succ _

/-- Closing takes records away from states. The only state that gets one
is new. -/
theorem Closing.stored {w w' : World} (h : Closing p env w w') {s : StateRef} {r : ChannelRef}
    (hs : (w'.states.read s).storedServerChannel = some r) :
    (w.states.read s).storedServerChannel = some r ∨
      s = w.states.next ∧ w'.states.next = w.states.next + 1 := by
  cases h with
  | settling h => exact .inl (h.stored s ▸ hs)
  | called | removed | forgotten => exact .inl hs
  | untied s' | untiedRemoved s' =>
    by_cases heq : s = s'
    · subst heq; simp at hs
    · exact .inl (by simpa [Heap.read_modify_ne _ _ heq] using hs)
  | restored r' =>
    by_cases heq : s = w.states.next
    · exact .inr ⟨heq, rfl⟩
    · exact .inl (by simpa [World.restore, Heap.read_alloc_ne _ _ heq] using hs)

theorem Closing.serverState {w w' : World} (h : Closing p env w w') (c : ConnRef) :
    (w'.servers.read c).state = (w.servers.read c).state := by
  cases h with
  | settling h => exact h.serverState c
  | _ => rfl

theorem Closing.allocated {w w' : World} (h : Closing p env w w') (ha : Allocated w) :
    Allocated w' := by
  refine ⟨fun s r hs => ?_, fun r s hs => ?_, fun c s hs =>
    lt_of_lt_of_le (ha.server c s (h.serverState c ▸ hs)) h.statesNext_le⟩
  · rcases h.stored hs with hs | ⟨rfl, hnext⟩
    · exact lt_of_lt_of_le (ha.tied s r hs) h.statesNext_le
    · omega
  · cases h with
    | settling h => exact (h.allocated ha).state r s hs
    | called | untied | untiedRemoved | removed => exact ha.state r s hs
    | restored r' =>
      simp only [World.restore, Heap.next_alloc] at hs ⊢
      by_cases heq : r = r'
      · subst heq
        simp only [Heap.read_modify_self, Option.some.injEq] at hs
        exact hs ▸ Nat.lt_succ_self _
      · rw [Heap.read_modify_ne _ _ heq] at hs
        exact Nat.lt_succ_of_lt (ha.state r s hs)
    | forgotten r' =>
      by_cases heq : r = r'
      · subst heq; simp at hs
      · exact ha.state r s (by simpa [Heap.read_modify_ne _ _ heq] using hs)

/-- A state that holds no record. -/
def Untied (w : World) (s : StateRef) : Prop :=
  s < w.states.next ∧ (w.states.read s).storedServerChannel = none

theorem Untied.closing {w w' : World} {s : StateRef} (hu : Untied w s)
    (h : Closing p env w w') : Untied w' s := by
  refine ⟨lt_of_lt_of_le hu.1 h.statesNext_le, ?_⟩
  cases hs : (w'.states.read s).storedServerChannel with
  | none => rfl
  | some r =>
    rcases h.stored hs with h' | ⟨rfl, -⟩
    · rw [hu.2] at h'; cases h'
    · exact absurd hu.1 (lt_irrefl _)

theorem Untied.path {w w' : World} {s : StateRef} (hu : Untied w s)
    (h : ReflTransGen (Closing p env) w w') : Untied w' s := by
  induction h with
  | refl => exact hu
  | tail _ hstep ih => exact ih.closing hstep

theorem Allocated.path {w w' : World} (ha : Allocated w)
    (h : ReflTransGen (Closing p env) w w') : Allocated w' := by
  induction h with
  | refl => exact ha
  | tail _ hstep ih => exact hstep.allocated ih

/-- Closing channels of the map leaves the records of other contracts
alone, and puts nothing into the map. -/
structure Spares (p : Platform) (w w' : World) : Prop where
  contract : ∀ r, (w'.channels.read r).contract = (w.channels.read r).contract
  lookup : ∀ h, w.mapChannels.lookup h = none → w'.mapChannels.lookup h = none
  state : ∀ r, w.mapChannels.lookup (p.getHash (w.channels.read r).contract) = none →
    (w'.channels.read r).state = (w.channels.read r).state

theorem Spares.of_eq {w w' : World} (hc : w'.channels = w.channels)
    (hm : w'.mapChannels = w.mapChannels) : Spares p w w' :=
  ⟨fun _ => by rw [hc], fun _ h => by rw [hm]; exact h, fun _ _ => by rw [hc]⟩

theorem Spares.trans {w₁ w₂ w₃ : World} (h : Spares p w₁ w₂) (h' : Spares p w₂ w₃) :
    Spares p w₁ w₃ := by
  refine ⟨fun r => (h'.contract r).trans (h.contract r), fun x hx => h'.lookup x (h.lookup x hx),
    fun r hr => (h'.state r ?_).trans (h.state r hr)⟩
  rw [h.contract]
  exact h.lookup _ hr

theorem Spares.settling {w w' : World} (h : ReflTransGen (Settling p env) w w') :
    Spares p w w' := by
  induction h with
  | refl => exact .of_eq rfl rfl
  | tail _ hstep ih => exact ih.trans (.of_eq hstep.channels hstep.mapChannels)

/-! ## `getOrCreateState` -/

theorem restoreState_spec (w : World) (r : ChannelRef) :
    wp (restoreState p r) w
      (fun s t => s = w.states.next ∧ ∃ totalValue,
        (∃ output, (w.channels.read r).contract.output0 = .ok output ∧
          output.getValue = .ok totalValue) ∧ t = w.restore r totalValue)
      (fun _ t => t = w) := by
  simp only [restoreState, wp_bind, wp_readChannel, wp_orThrow]
  refine ⟨fun output ho => ?_, fun _ _ => trivial⟩
  cases p.scriptError output.script.program with
  | some msg => trivial
  | none =>
    simp only [wp_bind, wp_pure, wp_orThrow, wp_checkArgument, wp_get, wp_set, wp_modifyChannel]
    exact ⟨fun T hT => ⟨fun _ => ⟨trivial, T, ⟨output, ho, hT⟩, rfl⟩, fun _ => trivial⟩,
      fun _ _ => trivial⟩

/-- `getOrCreateState` answers the state the record holds afterwards. -/
theorem getOrCreateState_spec (env : Env) (w : World) (r : ChannelRef) (ha : Allocated w) :
    wp (getOrCreateState p r) w
      (fun s t => ReflGen (Closing p env) w t ∧ (t.channels.read r).state = some s ∧
        t.mapChannels = w.mapChannels ∧
        (∀ r', (t.channels.read r').contract = (w.channels.read r').contract) ∧
        (∀ r', r' ≠ r → t.channels.read r' = w.channels.read r') ∧ s < t.states.next)
      (fun _ t => t = w ∧ (w.channels.read r).state = none) := by
  simp only [getOrCreateState, wp_bind, wp_readChannel]
  cases hr : (w.channels.read r).state with
  | some s =>
    exact ⟨.refl, hr, rfl, fun _ => rfl, fun _ _ => rfl, ha.state r s hr⟩
  | none =>
    refine wp.mono (restoreState_spec w r) ?_ (fun _ _ ht => ⟨ht, rfl⟩)
    rintro s t ⟨rfl, T, hT, rfl⟩
    refine ⟨.single (.restored w r T hr hT), by simp [World.restore], rfl, fun r' => ?_,
      fun r' hne => by simp [World.restore, Heap.read_modify_ne _ _ hne], Nat.lt_succ_self _⟩
    by_cases heq : r' = r
    · subst heq; simp [World.restore]
    · simp [World.restore, Heap.read_modify_ne _ _ heq]

/-! ## `close` and `closeChannel` -/

/-- How `close` on the state `s` leads from `w` to `t`. -/
structure ClosesTo (p : Platform) (env : Env) (s : StateRef) (w t : World) : Prop where
  path : ReflTransGen (Closing p env) w t
  spares : Spares p w t
  untied : s < w.states.next → Untied t s
  called : .closeCalled s ∈ t.trace

/-- How `closeChannel` on the record `r`, which is out of the map already,
leads from `w` to `t`. -/
structure DropsTo (p : Platform) (env : Env) (r : ChannelRef) (w t : World) : Prop where
  path : ReflTransGen (Closing p env) w t
  contract : ∀ r', (t.channels.read r').contract = (w.channels.read r').contract
  lookup : ∀ h, w.mapChannels.lookup h = none → t.mapChannels.lookup h = none
  state : ∀ r', r' ≠ r → w.mapChannels.lookup (p.getHash (w.channels.read r').contract) = none →
    (t.channels.read r').state = (w.channels.read r').state

theorem Closing.path_mem_trace {w t : World} (h : ReflTransGen (Closing p env) w t) {e : Event}
    (he : e.neutral = false) (hmem : e ∈ w.trace) : e ∈ t.trace := by
  induction h with
  | refl => exact hmem
  | tail _ hstep ih => exact hstep.mem_trace he ih

theorem settle_closesTo {w t u : World} {s : StateRef} (h : ClosesTo p env s w t)
    (hu : ReflTransGen (Settling p env) t u) : ClosesTo p env s w u :=
  have hpath : ReflTransGen (Closing p env) t u := hu.lift id fun _ _ => .settling
  ⟨h.path.trans hpath, h.spares.trans (.settling hu), fun hs => (h.untied hs).path hpath,
    Closing.path_mem_trace hpath rfl h.called⟩

/-- The record has a state that gave it up, or none. -/
theorem closeRemoved_spec {close : StateRef → Method CloseResult} {n : Nat}
    (hclose : ∀ w s, Allocated w → w.mapChannels.keys.length ≤ n →
      wp (close s) w (fun _ t => ClosesTo p env s w t) (fun _ t => ClosesTo p env s w t))
    (w : World) (r : ChannelRef) (ha : Allocated w) (hn : w.mapChannels.keys.length ≤ n)
    (hr : w.mapChannels.lookup (p.getHash (w.channels.read r).contract) = none) :
    wp (closeRemoved p close r) w (fun _ t => DropsTo p env r w t)
      (fun _ t => DropsTo p env r w t) := by
  -- the state may be dropped on every way out of the `try`
  have hdrop : ∀ t, DropsTo p env r w t →
      (∀ s, (t.channels.read r).state = some s → (t.states.read s).storedServerChannel = none) →
      wp (do modifyChannel r fun ch => { ch with state := none }
             updatedChannel p) t
        (fun _ t => DropsTo p env r w t) (fun _ t => DropsTo p env r w t) := by
    intro t ht hfree
    have hdropped : ∀ u, Quiet { t with
        channels := t.channels.modify r fun ch => { ch with state := none } } u →
        DropsTo p env r w u := by
      intro u hq
      refine ⟨(ht.path.tail (.forgotten t r (ht.contract r ▸ ht.lookup _ hr) hfree)).tail (.settling (.quiet hq)), fun r' => ?_,
        fun x hx => hq.mapChannels ▸ ht.lookup x hx, fun r' hne hr' => ?_⟩
      · rw [hq.channels, ← ht.contract r']
        by_cases heq : r' = r
        · subst heq; simp
        · simp [Heap.read_modify_ne _ _ heq]
      · rw [hq.channels, ← ht.state r' hne hr']
        simp [Heap.read_modify_ne _ _ hne]
    simp only [wp_bind, wp_modifyChannel]
    exact wp.mono (updatedChannel_quiet _) (fun _ u => hdropped u) (fun _ u => hdropped u)
  simp only [closeRemoved, wp_bind, wp_tryCatch, wp_pure]
  refine wp.mono (getOrCreateState_spec env w r ha) ?_ ?_
  · rintro s t ⟨hpath, hstate, hmap, hcontract, hother, hs⟩
    have hpath := hpath.to_reflTransGen
    have hclosed : ∀ u, ClosesTo p env s t u → DropsTo p env r w u ∧
        ∀ s', (u.channels.read r).state = some s' →
          (u.states.read s').storedServerChannel = none := by
      intro u hu
      refine ⟨⟨hpath.trans hu.path, fun r' => (hu.spares.contract r').trans (hcontract r'),
        fun x hx => hu.spares.lookup x (hmap ▸ hx), fun r' hne hr' => ?_⟩, fun s' hs' => ?_⟩
      · rw [hu.spares.state r' (by rw [hmap, hcontract]; exact hr'), hother r' hne]
      · rw [hu.spares.state r (by rw [hmap, hcontract]; exact hr), hstate] at hs'
        cases hs'
        exact (hu.untied hs).2
    refine wp.mono (hclose t s (ha.path hpath) (hmap ▸ hn)) ?_ ?_
    · intro _ u hu
      exact hdrop u (hclosed u hu).1 (hclosed u hu).2
    · intro e u hu
      simp only [wp_ite, wp_pure, wp_throw]
      exact ⟨fun _ => hdrop u (hclosed u hu).1 (hclosed u hu).2, fun _ => (hclosed u hu).1⟩
  · rintro e t ⟨rfl, hnone⟩
    have hsame : DropsTo p env r t t := ⟨.refl, fun _ => rfl, fun _ hx => hx, fun _ _ _ => rfl⟩
    simp only [wp_ite, wp_pure, wp_throw]
    refine ⟨fun _ => hdrop t hsame fun s hs => ?_, fun _ => hsame⟩
    rw [hnone] at hs; cases hs

theorem keys_length_erase {w : World} {h : Sha256Hash} {n : Nat}
    (hm : (w.mapChannels.lookup h).isSome) (hn : w.mapChannels.keys.length ≤ n + 1) :
    (w.mapChannels.erase h).keys.length ≤ n := by
  have hmem : h ∈ w.mapChannels.keys := AList.mem_keys.mp (AList.lookup_isSome.mp hm)
  rw [AList.keys_erase, List.length_erase_of_mem hmem]
  omega

/-- `close`, if the `closeChannel` it calls does what it should once the
record has been given up. -/
theorem closeWith_of {closeChannel : ChannelRef → Method Unit} (w : World) (s : StateRef)
    (ha : Allocated w)
    (hcc : ∀ r, (w.states.read s).storedServerChannel = some r →
      wp (closeChannel r)
        { w with
          states := w.states.modify s fun st => { st with storedServerChannel := none }
          trace := .closeCalled s :: w.trace }
        (fun _ t => ClosesTo p env s w t) (fun _ t => ClosesTo p env s w t)) :
    wp (closeWith p env closeChannel s) w
      (fun _ t => ClosesTo p env s w t) (fun _ t => ClosesTo p env s w t) := by
  have hcalled : Closing p env w { w with trace := .closeCalled s :: w.trace } := .called w s
  simp only [closeWith, wp_bind, wp_note, wp_readState]
  cases hs : (w.states.read s).storedServerChannel with
  | none =>
    have hw : ClosesTo p env s w { w with trace := .closeCalled s :: w.trace } :=
      ⟨.single hcalled, .of_eq rfl rfl, fun hlt => ⟨hlt, hs⟩, List.mem_cons_self ..⟩
    exact wp.mono (settle_follows _ s hw.called hs) (fun _ _ h => settle_closesTo hw h)
      (fun _ _ h => settle_closesTo hw h)
  | some r =>
    simp only [wp_bind, wp_modifyState]
    refine wp.mono (hcc r hs) (fun _ t ht => ?_) (fun _ _ ht => ht)
    simp only [wp_readState, wp_ite, wp_pure]
    refine ⟨fun _ => ht, fun _ => ?_⟩
    have hfree := (ht.untied (ha.tied s r hs)).2
    exact wp.mono (settle_follows t s ht.called hfree) (fun _ _ h => settle_closesTo ht h)
      (fun _ _ h => settle_closesTo ht h)

/-- The record is given up and was not in the map. -/
theorem closesTo_untied {w : World} {s : StateRef} {r : ChannelRef}
    (hs : (w.states.read s).storedServerChannel = some r)
    (hm : w.mapChannels.lookup (p.getHash (w.channels.read r).contract) = none) :
    ClosesTo p env s w
      { w with
        states := w.states.modify s fun st => { st with storedServerChannel := none }
        trace := .closeCalled s :: w.trace } :=
  ⟨.tail (.single (.called w s)) (.untied _ s r (List.mem_cons_self ..) hs hm), .of_eq rfl rfl,
    fun hlt => ⟨hlt, by simp⟩, List.mem_cons_self ..⟩

/-- `close`, when at most `n` channels are stored. -/
theorem closeWith_spec (n : Nat) (w : World) (s : StateRef) (ha : Allocated w)
    (hn : w.mapChannels.keys.length ≤ n) :
    wp (closeWith p env (closeChannelN p env n) s) w
      (fun _ t => ClosesTo p env s w t) (fun _ t => ClosesTo p env s w t) := by
  induction n generalizing w s with
  | zero =>
    refine closeWith_of w s ha fun r hs => ?_
    refine closesTo_untied hs (AList.lookup_eq_none.mpr fun hmem => ?_)
    have hpos := List.length_pos_of_mem (AList.mem_keys.mp hmem)
    omega
  | succ n ih =>
    refine closeWith_of w s ha fun r hs => ?_
    simp only [closeChannelN, closeChannelWith, wp_bind, wp_get, wp_ite, wp_modify, wp_note, wp_pure]
    refine ⟨fun hm => ?_, fun hm => closesTo_untied hs (by simpa using hm)⟩
    -- the contract leaves the map together with the record
    have hstep : ReflTransGen (Closing p env) w _ :=
      .tail (.single (.called w s)) (.untiedRemoved _ s r (List.mem_cons_self ..) hs hm)
    have hother : ∀ x, w.mapChannels.lookup x = none →
        (w.mapChannels.erase (p.getHash (w.channels.read r).contract)).lookup x = none := by
      intro x hx
      by_cases heq : x = p.getHash (w.channels.read r).contract
      · rw [heq, AList.lookup_erase]
      · rw [AList.lookup_erase_ne heq, hx]
    have hdrops : ∀ t, DropsTo p env r _ t → ClosesTo p env s w t := fun t ht =>
      ⟨hstep.trans ht.path,
        ⟨ht.contract, fun x hx => ht.lookup x (hother x hx), fun r' hr' => by
          have hne : r' ≠ r := by
            rintro rfl
            rw [hr'] at hm; cases hm
          exact ht.state r' hne (hother _ hr')⟩,
        fun hlt => by
          refine Untied.path ?_ ht.path
          exact ⟨hlt, by simp⟩,
        Closing.path_mem_trace ht.path rfl (by simp)⟩
    exact wp.mono (closeRemoved_spec ih _ r (ha.path hstep) (keys_length_erase hm hn)
      (AList.lookup_erase ..)) (fun _ t ht => hdrops t ht) (fun _ t ht => hdrops t ht)

theorem closeChannelN_follows (n : Nat) (w : World) (r : ChannelRef) (ha : Allocated w)
    (hn : w.mapChannels.keys.length ≤ n) :
    Follows (Closing p env) (closeChannelN p env n r) w := by
  cases n with
  | zero => exact .pure _
  | succ n =>
    simp only [Follows, closeChannelN, closeChannelWith, wp_bind, wp_get, wp_ite, wp_modify, wp_note,
      wp_pure]
    refine ⟨fun hm => ?_, fun _ => .refl⟩
    have hstep : ReflTransGen (Closing p env) w _ := .single (.removed w r hm)
    exact wp.mono (closeRemoved_spec (closeWith_spec n) _ r (ha.path hstep)
      (keys_length_erase hm hn) (AList.lookup_erase ..)) (fun _ _ ht => hstep.trans ht.path)
      (fun _ _ ht => hstep.trans ht.path)

theorem closeChannel_follows (w : World) (r : ChannelRef) (ha : Allocated w) :
    Follows (Closing p env) (closeChannel p env r) w := by
  simp only [Follows, closeChannel, wp_bind, wp_get]
  exact closeChannelN_follows _ w r ha le_rfl

/-! ## The bound on the recursion is enough -/

theorem getOrCreateState_mapChannels (w : World) (r : ChannelRef) :
    wp (getOrCreateState p r) w (fun _ t => t.mapChannels = w.mapChannels)
      (fun _ t => t.mapChannels = w.mapChannels) := by
  simp only [getOrCreateState, wp_bind, wp_readChannel]
  cases (w.channels.read r).state with
  | some s => rfl
  | none =>
    refine wp.mono (restoreState_spec w r) ?_ (fun _ _ ht => by rw [ht])
    rintro s t ⟨-, T, -, rfl⟩
    rfl

theorem closeWith_congr {cc cc' : ChannelRef → Method Unit} (w : World) (s : StateRef)
    (h : ∀ w' r, w'.mapChannels = w.mapChannels → (cc r).run w' = (cc' r).run w') :
    (closeWith p env cc s).run w = (closeWith p env cc' s).run w := by
  refine run_eq_of_wp fun Q E => ?_
  simp only [closeWith, wp_bind, wp_note, wp_readState]
  cases (w.states.read s).storedServerChannel with
  | none => rfl
  | some r =>
    simp only [wp_bind, wp_modifyState]
    exact wp_congr (h _ r rfl)

theorem closeRemoved_congr {close close' : StateRef → Method CloseResult} (w : World)
    (r : ChannelRef)
    (h : ∀ w' s, w'.mapChannels = w.mapChannels → (close s).run w' = (close' s).run w') :
    (closeRemoved p close r).run w = (closeRemoved p close' r).run w := by
  refine run_eq_of_wp fun Q E => ?_
  simp only [closeRemoved, wp_bind, wp_tryCatch]
  exact (getOrCreateState_mapChannels w r).congr_post (fun s t ht => wp_congr (h t s ht))
    (fun _ _ _ => Iff.rfl)

theorem closeChannelWith_congr {close close' : StateRef → Method CloseResult} {n : Nat} (w : World)
    (r : ChannelRef) (hn : w.mapChannels.keys.length ≤ n + 1)
    (h : ∀ w' s, w'.mapChannels.keys.length ≤ n → (close s).run w' = (close' s).run w') :
    (closeChannelWith p close r).run w = (closeChannelWith p close' r).run w := by
  refine run_eq_of_wp fun Q E => ?_
  simp only [closeChannelWith, wp_bind, wp_get, wp_ite, wp_modify, wp_note]
  refine and_congr (imp_congr_right fun hm => wp_congr (closeRemoved_congr _ r fun w' s hw' => ?_))
    Iff.rfl
  exact h w' s (hw' ▸ keys_length_erase hm hn)

/-- With nothing stored, `closeChannel` returns at once. -/
theorem closeChannelWith_empty {close : StateRef → Method CloseResult} (w : World) (r : ChannelRef)
    (hn : w.mapChannels.keys.length ≤ 0) :
    (closeChannelWith p close r).run w = (pure () : Method Unit).run w := by
  have hnone : w.mapChannels.lookup (p.getHash (w.channels.read r).contract) = none := by
    refine AList.lookup_eq_none.mpr fun hmem => ?_
    have hpos := List.length_pos_of_mem (AList.mem_keys.mp hmem)
    omega
  refine run_eq_of_wp fun Q E => ?_
  simp [closeChannelWith, hnone]

/-- Fuel beyond the number of stored channels changes nothing. -/
theorem closeChannelN_fuel (n m : Nat) (w : World) (r : ChannelRef)
    (hn : w.mapChannels.keys.length ≤ n) (hm : w.mapChannels.keys.length ≤ m) :
    (closeChannelN p env n r).run w = (closeChannelN p env m r).run w := by
  induction n generalizing m w r with
  | zero =>
    cases m with
    | zero => rfl
    | succ m => exact (closeChannelWith_empty w r hn).symm
  | succ n ih =>
    cases m with
    | zero => exact closeChannelWith_empty w r hm
    | succ m =>
      refine closeChannelWith_congr (n := min n m) w r (by omega) fun w' s hw' => ?_
      refine closeWith_congr w' s fun w'' r' hw'' => ?_
      rw [← hw''] at hw'
      exact ih m w'' r' (by omega) (by omega)

/-- `closeChannel` is the recursion of the source: it calls `close`, which
calls `closeChannel`. -/
theorem closeChannel_eq (w : World) (r : ChannelRef) :
    (closeChannel p env r).run w = (closeChannelWith p (close p env) r).run w := by
  have hrun : (closeChannel p env r).run w =
      (closeChannelN p env (w.mapChannels.keys.length + 1) r).run w := by
    rw [← closeChannelN_fuel _ _ w r le_rfl (Nat.le_succ _)]
    rfl
  rw [hrun]
  refine closeChannelWith_congr w r (Nat.le_succ _) fun w' s hw' => ?_
  refine closeWith_congr w' s fun w'' r' hw'' => ?_
  rw [← hw''] at hw'
  exact closeChannelN_fuel _ _ w'' r' hw' le_rfl

/-- `close` keeps to its effects. -/
theorem close_spec (w : World) (s : StateRef) (ha : Allocated w) :
    wp (close p env s) w (fun _ t => ClosesTo p env s w t) (fun _ t => ClosesTo p env s w t) := by
  have hrun : (close p env s).run w =
      (closeWith p env (closeChannelN p env w.mapChannels.keys.length) s).run w := by
    refine closeWith_congr w s fun w' r hw' => ?_
    rw [← hw']
    rfl
  rw [wp_congr hrun]
  exact closeWith_spec _ w s ha le_rfl

end BitMesh.Channels
