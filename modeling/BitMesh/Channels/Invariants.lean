import BitMesh.Channels.Changes

/-!
# What holds of the stored channels

The map, the records, the states and the broadcasts fit together in every
world a run comes by, whatever the clients send.
-/

namespace BitMesh.Channels

open BitMesh.Bitcoin BitMesh.Lib Relation

variable {p : Platform} {env : Env} {start : World} {a : Env × Action} {w w' : World}

/-- The state `s` holds the record `r`, and they agree. -/
structure Tied (w : World) (s : StateRef) (r : ChannelRef) : Prop where
  allocated : r < w.channels.next
  state : (w.channels.read r).state = some s
  ready : (w.states.read s).state = .ready
  contract : (w.states.read s).multisigContract = some (w.channels.read r).contract
  best : (w.channels.read r).bestValueToMe = (w.states.read s).bestValueToMe
  signature : (w.channels.read r).bestValueSignature = (w.states.read s).bestValueSignature

/-- The records of the map. -/
structure Records (p : Platform) (w : World) : Prop where
  /-- A record is stored under the hash of its contract. -/
  hash : ∀ h r, w.mapChannels.lookup h = some r → p.getHash (w.channels.read r).contract = h
  stored : ∀ h r, w.mapChannels.lookup h = some r → r < w.channels.next
  tied : ∀ s r, (w.states.read s).storedServerChannel = some r → Tied w s r
  /-- The state of a stored record holds it. -/
  held : ∀ h r s, w.mapChannels.lookup h = some r → (w.channels.read r).state = some s →
    (w.states.read s).storedServerChannel = some r
  /-- A record that does not exist cannot be restored from. -/
  blank : ∀ r, w.channels.next ≤ r → (w.channels.read r).contract.outputs = []

theorem Tied.unique {s s' : StateRef} {r : ChannelRef} (h : Tied w s r) (h' : Tied w s' r) :
    s = s' :=
  Option.some.inj (h.state.symm.trans h'.state)

/-- Only the fields that are compared matter. -/
theorem Tied.congr {s : StateRef} {r : ChannelRef} (h : Tied w s r)
    (hnext : w.channels.next ≤ w'.channels.next)
    (hr : w'.channels.read r = w.channels.read r)
    (hs : w'.states.read s = w.states.read s) : Tied w' s r where
  allocated := lt_of_lt_of_le h.allocated hnext
  state := by rw [hr]; exact h.state
  ready := by rw [hs]; exact h.ready
  contract := by rw [hr, hs]; exact h.contract
  best := by rw [hr, hs]; exact h.best
  signature := by rw [hr, hs]; exact h.signature

theorem Tied.quiet {s : StateRef} {r : ChannelRef} (h : Tied w s r) (hq : Quiet w w') :
    Tied w' s r where
  allocated := by rw [hq.channels]; exact h.allocated
  state := by rw [hq.channels]; exact h.state
  ready := by rw [hq.state_eq s]; exact h.ready
  contract := by rw [hq.channels, hq.contract s]; exact h.contract
  best := by rw [hq.channels, hq.best s]; exact h.best
  signature := by rw [hq.channels, hq.signature s]; exact h.signature

theorem Records.initial (autosave : Bool) : Records p (World.initial autosave) where
  hash _ _ h := nomatch h
  stored _ _ h := nomatch h
  tied _ _ h := nomatch h
  held _ _ _ h := nomatch h
  blank _ _ := rfl

/-- Only an open channel holds a record. -/
theorem Records.free (h : Records p w) {s : StateRef} (hs : (w.states.read s).state ≠ .ready) :
    (w.states.read s).storedServerChannel = none := by
  cases hr : (w.states.read s).storedServerChannel with
  | none => rfl
  | some r => exact absurd (h.tied s r hr).ready hs

/-- An assignment to a state that holds no record. -/
theorem Records.state (h : Records p w) {s' : StateRef}
    {f : PaymentChannelServerState → PaymentChannelServerState}
    (hw : w'.states = w.states.modify s' f) (hch : w'.channels = w.channels)
    (hm : w'.mapChannels = w.mapChannels)
    (hfree : (w.states.read s').storedServerChannel = none)
    (hf : (f (w.states.read s')).storedServerChannel = none) : Records p w' := by
  have hread : ∀ s, s ≠ s' → w'.states.read s = w.states.read s := fun s hne => by
    rw [hw, Heap.read_modify_ne _ _ hne]
  have hstored : ∀ s, (w'.states.read s).storedServerChannel =
      (w.states.read s).storedServerChannel := by
    intro s
    by_cases heq : s = s'
    · rw [heq, hw, Heap.read_modify_self, hf, hfree]
    · rw [hread s heq]
  refine ⟨by rw [hm, hch]; exact h.hash, by rw [hm, hch]; exact h.stored, fun s r hs => ?_,
    fun x r s => by rw [hm, hch, hstored]; exact h.held x r s, by rw [hch]; exact h.blank⟩
  rw [hstored] at hs
  have hne : s ≠ s' := by
    rintro rfl
    rw [hfree] at hs; cases hs
  exact (h.tied s r hs).congr (le_of_eq (by rw [hch])) (by rw [hch]) (hread s hne)

theorem Settling.records (h : Settling p env w w') (hi : Records p w) : Records p w' := by
  cases h with
  | quiet hq =>
    refine ⟨?_, ?_, fun s r hs => (hi.tied s r (hq.stored s ▸ hs)).quiet hq, fun x r s hx hr => ?_, ?_⟩
    · rw [hq.mapChannels, hq.channels]; exact hi.hash
    · rw [hq.mapChannels, hq.channels]; exact hi.stored
    · rw [hq.stored s]; exact hi.held x r s (hq.mapChannels ▸ hx) (hq.channels ▸ hr)
    · rw [hq.channels]; exact hi.blank
  | deducted _ _ _ _ hs | settled _ _ _ _ _ hs => exact hi.state rfl rfl rfl hs hs
  | closedEarly s _ hs =>
    have hfree := hi.free fun heq => absurd (heq ▸ hs) (by decide)
    exact hi.state rfl rfl rfl hfree hfree

/-- Contracts leave the map. -/
theorem Records.remove (hi : Records p w) (hst : w'.states = w.states)
    (hch : w'.channels = w.channels)
    (hm : ∀ h r, w'.mapChannels.lookup h = some r → w.mapChannels.lookup h = some r) :
    Records p w' where
  hash h r hr := by rw [hch]; exact hi.hash h r (hm h r hr)
  stored h r hr := by rw [hch]; exact hi.stored h r (hm h r hr)
  tied s r hs := (hi.tied s r (hst ▸ hs)).congr (by rw [hch]) (by rw [hch]) (by rw [hst])
  held h r s hr hs := by rw [hst]; exact hi.held h r s (hm h r hr) (hch ▸ hs)
  blank := by rw [hch]; exact hi.blank

/-- A state gives up its record, whose contract is not in the map. -/
theorem Records.untie (hi : Records p w) {s : StateRef} {r : ChannelRef}
    (hs : (w.states.read s).storedServerChannel = some r)
    (hst : w'.states = w.states.modify s fun st => { st with storedServerChannel := none })
    (hch : w'.channels = w.channels)
    (hm : ∀ h r, w'.mapChannels.lookup h = some r → w.mapChannels.lookup h = some r)
    (hgone : w'.mapChannels.lookup (p.getHash (w.channels.read r).contract) = none) :
    Records p w' := by
  have hread : ∀ s', s' ≠ s → w'.states.read s' = w.states.read s' := fun s' hne => by
    rw [hst, Heap.read_modify_ne _ _ hne]
  refine ⟨fun h r' hr => by rw [hch]; exact hi.hash h r' (hm h r' hr),
    fun h r' hr => by rw [hch]; exact hi.stored h r' (hm h r' hr), fun s' r' hs' => ?_,
    fun h r' s' hr hs' => ?_, by rw [hch]; exact hi.blank⟩
  · have hne : s' ≠ s := by
      rintro rfl
      rw [hst, Heap.read_modify_self] at hs'
      cases hs'
    exact (hi.tied s' r' (hread s' hne ▸ hs')).congr (by rw [hch]) (by rw [hch]) (hread s' hne)
  · have hold := hi.held h r' s' (hm h r' hr) (hch ▸ hs')
    have hne : s' ≠ s := by
      rintro rfl
      rw [hs] at hold
      cases hold
      rw [hi.hash h r (hm h r hr), hr] at hgone
      cases hgone
    rw [hread s' hne]
    exact hold

theorem Closing.records (h : Closing p env w w') (ha : Allocated w) (hi : Records p w) :
    Records p w' := by
  cases h with
  | settling h => exact h.records hi
  | called => exact hi.remove rfl rfl fun _ _ hr => hr
  | untied s r _ hs hm => exact hi.untie hs rfl rfl (fun _ _ hr => hr) hm
  | untiedRemoved s r _ hs hm =>
    exact hi.untie hs rfl rfl (fun _ _ hr => (lookup_of_erase hr).2) (AList.lookup_erase ..)
  | removed r hm => exact hi.remove rfl rfl fun _ _ hr => (lookup_of_erase hr).2
  | restored r T hr ht =>
    -- a record that can be restored from exists, and no state holds it
    have hlt : r < w.channels.next := by
      refine Nat.lt_of_not_le fun hle => ?_
      obtain ⟨output, hout, -⟩ := ht
      rw [Transaction.output0, hi.blank r hle] at hout
      cases hout
    refine ⟨fun h r' hm => ?_, hi.stored, fun s r' hs => ?_, fun h r' s hm hs => ?_, fun r' hle => ?_⟩
    · simpa [World.restore] using hi.hash h r' hm
    · by_cases heq : s = w.states.next
      · subst heq
        obtain rfl : r = r' := by simpa [World.restore] using hs
        exact ⟨hlt, by simp [World.restore], by simp [World.restore], by simp [World.restore],
          by simp [World.restore], by simp [World.restore]⟩
      · have hold : (w.states.read s).storedServerChannel = some r' := by
          simpa [World.restore, Heap.read_alloc_ne _ _ heq] using hs
        have htied := hi.tied s r' hold
        have hne : r' ≠ r := by
          rintro rfl
          rw [htied.state] at hr; cases hr
        exact htied.congr le_rfl (Heap.read_modify_ne _ _ hne) (Heap.read_alloc_ne _ _ heq)
    · by_cases heq : r' = r
      · subst heq
        obtain rfl : w.states.next = s := by simpa [World.restore] using hs
        simp [World.restore]
      · have hs' : (w.channels.read r').state = some s := by
          simpa [World.restore, Heap.read_modify_ne _ _ heq] using hs
        have hlt := ha.state r' s hs'
        simpa [World.restore, Heap.read_alloc_old _ _ hlt] using hi.held h r' s hm hs'
    · simpa [World.restore] using hi.blank r' hle
  | forgotten r _ hr =>
    refine ⟨fun h r' hm => by simpa using hi.hash h r' hm, hi.stored, fun s r' hs => ?_,
      fun h r' s hm hs => ?_, fun r' hle => by simpa using hi.blank r' hle⟩
    · have htied := hi.tied s r' hs
      have hne : r' ≠ r := by
        rintro rfl
        rw [hr s htied.state] at hs; cases hs
      exact htied.congr le_rfl (Heap.read_modify_ne _ _ hne) rfl
    · have hne : r' ≠ r := by
        rintro rfl
        rw [Heap.read_modify_self] at hs; cases hs
      rw [Heap.read_modify_ne _ _ hne] at hs
      exact hi.held h r' s hm hs

/-! ## Broadcasts -/

/-- `b` is the broadcast of the contract `tx` of the state `s`. -/
def IsContract (w : World) (b : Nat) (s : StateRef) : Prop :=
  b < w.broadcasts.next ∧ ∃ c provided, (w.broadcasts.read b).purpose = .contract s c provided

/-- `b` is the broadcast of a settlement of the state `s`. -/
def IsSettlement (w : World) (b : Nat) (s : StateRef) : Prop :=
  b < w.broadcasts.next ∧ (w.broadcasts.read b).purpose = .settlement s

/-- The states whose contract or settlement was broadcast. -/
structure Broadcasts (w : World) : Prop where
  allocated : ∀ b s, IsContract w b s → s < w.states.next
  bound : ∀ b s, IsContract w b s → Bound w s
  contract : ∀ b s, IsContract w b s →
    (w.states.read s).multisigContract = some (w.broadcasts.read b).tx
  /-- Until its broadcast completes, a contract can only be given up. -/
  pending : ∀ b s, IsContract w b s → (w.broadcasts.read b).completed = false →
    (w.states.read s).state = .waitingForMultisigAcceptance ∨ (w.states.read s).state = .closed
  unique : ∀ b b' s, IsContract w b s → IsContract w b' s → b = b'
  settled : ∀ b s, IsSettlement w b s →
    s < w.states.next ∧ State.closing.ordinal ≤ (w.states.read s).state.ordinal
  completed : ∀ b b' s, IsSettlement w b s → IsContract w b' s →
    (w.broadcasts.read b').completed = true
  settledOnce : ∀ b b' s, IsSettlement w b s → IsSettlement w b' s → b = b'
  /-- A state that does not exist is not open. -/
  blank : ∀ s, w.states.next ≤ s → (w.states.read s).state = .error

theorem Broadcasts.initial (autosave : Bool) : Broadcasts (World.initial autosave) where
  allocated _ _ h := absurd h.1 (Nat.not_lt_zero _)
  bound _ _ h := absurd h.1 (Nat.not_lt_zero _)
  contract _ _ h := absurd h.1 (Nat.not_lt_zero _)
  pending _ _ h := absurd h.1 (Nat.not_lt_zero _)
  unique _ _ _ h := absurd h.1 (Nat.not_lt_zero _)
  settled _ _ h := absurd h.1 (Nat.not_lt_zero _)
  completed _ _ _ h := absurd h.1 (Nat.not_lt_zero _)
  settledOnce _ _ _ h := absurd h.1 (Nat.not_lt_zero _)
  blank _ _ := rfl

/-- A contract whose broadcast is pending is not stored. -/
theorem Broadcasts.free (hb : Broadcasts w) (hi : Records p w) {b : Nat} {s : StateRef}
    (h : IsContract w b s) (hp : (w.broadcasts.read b).completed = false) :
    (w.states.read s).storedServerChannel = none := by
  refine hi.free fun hready => ?_
  rcases hb.pending b s h hp with hst | hst <;> rw [hready] at hst <;> cases hst

theorem Broadcasts.free_settled (hb : Broadcasts w) (hi : Records p w) {b : Nat} {s : StateRef}
    (h : IsSettlement w b s) : (w.states.read s).storedServerChannel = none :=
  hi.free fun hready => absurd (hready ▸ (hb.settled b s h).2) (by decide)

theorem KeepsTerms.contract {s : StateRef} (h : KeepsTerms w w' s) :
    (w'.states.read s).multisigContract = (w.states.read s).multisigContract :=
  congrArg (·.multisigContract) h.terms

/-- Broadcasts stay in order when the states they concern do. -/
theorem Broadcasts.of_states (hb : Broadcasts w) (he : Effect p start a w w')
    (hw : w'.broadcasts = w.broadcasts) (hnext : w.states.next ≤ w'.states.next)
    (hpend : ∀ b s, IsContract w b s → (w.broadcasts.read b).completed = false →
      (w'.states.read s).state = .waitingForMultisigAcceptance ∨
        (w'.states.read s).state = .closed)
    (hset : ∀ b s, IsSettlement w b s →
      State.closing.ordinal ≤ (w'.states.read s).state.ordinal)
    (hblank : ∀ s, w'.states.next ≤ s → (w'.states.read s).state = .error) : Broadcasts w' := by
  have hc : ∀ b s, IsContract w' b s → IsContract w b s := fun b s h => by
    simpa only [IsContract, hw] using h
  have hs : ∀ b s, IsSettlement w' b s → IsSettlement w b s := fun b s h => by
    simpa only [IsSettlement, hw] using h
  have hkeep : ∀ b s, IsContract w b s → KeepsTerms w w' s := fun b s h =>
    he.keepsTerms (hb.allocated b s h) (hb.bound b s h)
  refine ⟨fun b s h => lt_of_lt_of_le (hb.allocated b s (hc b s h)) hnext,
    fun b s h => (hkeep b s (hc b s h)).bound, fun b s h => ?_, fun b s h => ?_,
    fun b b' s h h' => hb.unique b b' s (hc b s h) (hc b' s h'), fun b s h => ?_,
    fun b b' s h h' => ?_, fun b b' s h h' => hb.settledOnce b b' s (hs b s h) (hs b' s h'), hblank⟩
  · rw [(hkeep b s (hc b s h)).contract, hw]
    exact hb.contract b s (hc b s h)
  · rw [hw]
    exact hpend b s (hc b s h)
  · exact ⟨lt_of_lt_of_le (hb.settled b s (hs b s h)).1 hnext, hset b s (hs b s h)⟩
  · rw [hw]
    exact hb.completed b b' s (hs b s h) (hc b' s h')

/-- What leaves every state as it is keeps the broadcasts in order. -/
theorem Broadcasts.same (hb : Broadcasts w) (he : Effect p start a w w')
    (hw : w'.broadcasts = w.broadcasts) (hnext : w.states.next ≤ w'.states.next)
    (hst : ∀ s, s < w.states.next ∨ w'.states.next ≤ s →
      (w'.states.read s).state = (w.states.read s).state) : Broadcasts w' := by
  refine hb.of_states he hw hnext (fun b s h => ?_) (fun b s h => ?_) fun s h => ?_
  · rw [hst s (.inl (hb.allocated b s h))]
    exact hb.pending b s h
  · rw [hst s (.inl (hb.settled b s h).1)]
    exact (hb.settled b s h).2
  · rw [hst s (.inr h)]
    exact hb.blank s (le_trans hnext h)

/-- The state `s'` moves to `x`. -/
theorem Broadcasts.move (hb : Broadcasts w) (he : Effect p start a w w')
    (hw : w'.broadcasts = w.broadcasts) {s' : StateRef}
    {f : PaymentChannelServerState → PaymentChannelServerState}
    (hst : w'.states = w.states.modify s' f) (hlt : s' < w.states.next)
    (hpend : ∀ b, IsContract w b s' → (w.broadcasts.read b).completed = false →
      (f (w.states.read s')).state = .closed)
    (hset : ∀ b, IsSettlement w b s' →
      State.closing.ordinal ≤ (f (w.states.read s')).state.ordinal) : Broadcasts w' := by
  have hother : ∀ s, s ≠ s' → (w'.states.read s).state = (w.states.read s).state := fun s hne => by
    rw [hst, Heap.read_modify_ne _ _ hne]
  have hself : (w'.states.read s').state = (f (w.states.read s')).state := by
    rw [hst, Heap.read_modify_self]
  have hnext : w'.states.next = w.states.next := by rw [hst]; exact Heap.next_modify ..
  refine hb.of_states he hw (le_of_eq hnext.symm) (fun b s h => ?_) (fun b s h => ?_) fun s h => ?_
  · by_cases heq : s = s'
    · subst heq
      rw [hself]
      exact fun hp => .inr (hpend b h hp)
    · rw [hother s heq]
      exact hb.pending b s h
  · by_cases heq : s = s'
    · subst heq
      rw [hself]
      exact hset b h
    · rw [hother s heq]
      exact (hb.settled b s h).2
  · rw [hnext] at h
    rw [hother s (Nat.ne_of_gt (lt_of_lt_of_le hlt h))]
    exact hb.blank s h

theorem Broadcasts.lt_of_ne_error (hb : Broadcasts w) {s : StateRef}
    (hs : (w.states.read s).state ≠ .error) : s < w.states.next :=
  Nat.lt_of_not_le fun hle => hs (hb.blank s hle)

theorem Broadcasts.not_settled (hb : Broadcasts w) {b : Nat} {s : StateRef}
    (hs : (w.states.read s).state.ordinal < State.closing.ordinal) : ¬ IsSettlement w b s :=
  fun h => absurd (hb.settled b s h).2 (Nat.not_le_of_lt hs)

section Added

variable {x : Broadcast} (hw : w'.broadcasts = (w.broadcasts.alloc x).2)
include hw

theorem IsContract.of_alloc {b : Nat} {s : StateRef} (h : IsContract w' b s) :
    (IsContract w b s ∧ w'.broadcasts.read b = w.broadcasts.read b) ∨
      (b = w.broadcasts.next ∧ ∃ c provided, x.purpose = .contract s c provided) := by
  obtain ⟨hlt, c, provided, hpurpose⟩ := h
  by_cases heq : b = w.broadcasts.next
  · refine .inr ⟨heq, c, provided, ?_⟩
    rwa [heq, hw, Heap.read_alloc_new] at hpurpose
  · have hread : w'.broadcasts.read b = w.broadcasts.read b := by
      rw [hw, Heap.read_alloc_ne _ _ heq]
    rw [hw, Heap.next_alloc] at hlt
    exact .inl ⟨⟨by omega, c, provided, hread ▸ hpurpose⟩, hread⟩

theorem IsSettlement.of_alloc {b : Nat} {s : StateRef} (h : IsSettlement w' b s) :
    IsSettlement w b s ∨ (b = w.broadcasts.next ∧ x.purpose = .settlement s) := by
  obtain ⟨hlt, hpurpose⟩ := h
  by_cases heq : b = w.broadcasts.next
  · refine .inr ⟨heq, ?_⟩
    rwa [heq, hw, Heap.read_alloc_new] at hpurpose
  · rw [hw, Heap.read_alloc_ne _ _ heq] at hpurpose
    rw [hw, Heap.next_alloc] at hlt
    exact .inl ⟨by omega, hpurpose⟩

end Added

/-- An open channel is settled. -/
theorem Broadcasts.settle (hb : Broadcasts w) (he : Effect p start a w w') {s : StateRef}
    {tx : Transaction} {f : PaymentChannelServerState → PaymentChannelServerState}
    (hst : w'.states = w.states.modify s f)
    (hw : w'.broadcasts = (w.broadcasts.alloc { tx := tx, purpose := .settlement s }).2)
    (hready : (w.states.read s).state = .ready)
    (hf : (f (w.states.read s)).state = .closing) : Broadcasts w' := by
  have hlt : s < w.states.next := hb.lt_of_ne_error (by rw [hready]; decide)
  have hnone : ∀ b, ¬ IsSettlement w b s := fun b => hb.not_settled (by rw [hready]; decide)
  have hdone : ∀ b, IsContract w b s → (w.broadcasts.read b).completed = true := by
    intro b h
    cases hp : (w.broadcasts.read b).completed with
    | true => rfl
    | false => rcases hb.pending b s h hp with hst | hst <;> rw [hready] at hst <;> cases hst
  have hother : ∀ s', s' ≠ s → (w'.states.read s').state = (w.states.read s').state :=
    fun s' hne => by rw [hst, Heap.read_modify_ne _ _ hne]
  have hself : (w'.states.read s).state = .closing := by rw [hst, Heap.read_modify_self, hf]
  have hnext : w'.states.next = w.states.next := by rw [hst]; rfl
  have hold : ∀ b s', IsContract w' b s' →
      IsContract w b s' ∧ w'.broadcasts.read b = w.broadcasts.read b := by
    intro b s' h
    rcases h.of_alloc hw with h | ⟨-, c, provided, hpurpose⟩
    · exact h
    · cases hpurpose
  have hkeep : ∀ b s', IsContract w b s' → KeepsTerms w w' s' := fun b s' h =>
    he.keepsTerms (hb.allocated b s' h) (hb.bound b s' h)
  refine ⟨fun b s' h => hnext ▸ hb.allocated b s' (hold b s' h).1,
    fun b s' h => (hkeep b s' (hold b s' h).1).bound, fun b s' h => ?_, fun b s' h hp => ?_,
    fun b b' s' h h' => hb.unique b b' s' (hold b s' h).1 (hold b' s' h').1, fun b s' h => ?_,
    fun b b' s' h h' => ?_, fun b b' s' h h' => ?_, fun s' h => ?_⟩
  · rw [(hkeep b s' (hold b s' h).1).contract, (hold b s' h).2]
    exact hb.contract b s' (hold b s' h).1
  · rw [(hold b s' h).2] at hp
    have hne : s' ≠ s := by
      rintro rfl
      rw [hdone b (hold b s' h).1] at hp; cases hp
    rw [hother s' hne]
    exact hb.pending b s' (hold b s' h).1 hp
  · rw [hnext]
    rcases h.of_alloc hw with h | ⟨-, hpurpose⟩
    · have hne : s' ≠ s := fun heq => hnone b (heq ▸ h)
      rw [hother s' hne]
      exact hb.settled b s' h
    · cases hpurpose
      exact ⟨hlt, by rw [hself]⟩
  · rw [(hold b' s' h').2]
    rcases h.of_alloc hw with h | ⟨-, hpurpose⟩
    · exact hb.completed b b' s' h (hold b' s' h').1
    · cases hpurpose
      exact hdone b' (hold b' s h').1
  · rcases h.of_alloc hw with h | ⟨rfl, hpurpose⟩ <;>
      rcases h'.of_alloc hw with h' | ⟨rfl, hpurpose'⟩
    · exact hb.settledOnce b b' s' h h'
    · cases hpurpose'
      exact absurd h (hnone b)
    · cases hpurpose
      exact absurd h' (hnone b')
    · rfl
  · rw [hnext] at h
    rw [hother s' (Nat.ne_of_gt (lt_of_lt_of_le hlt h))]
    exact hb.blank s' h

/-- A contract is broadcast for the first time. -/
theorem Broadcasts.offer (hb : Broadcasts w) (he : Effect p start a w w') {s : StateRef}
    {c : ConnRef} {provided : ProvideContract} {tx : Transaction}
    (hst : w'.states = w.states.modify s
      fun st => { st with state := .waitingForMultisigAcceptance })
    (hw : w'.broadcasts = (w.broadcasts.alloc { tx := tx, purpose := .contract s c provided }).2)
    (hs : (w.states.read s).state = .waitingForMultisigContract)
    (htx : (w.states.read s).multisigContract = some tx) : Broadcasts w' := by
  have hlt : s < w.states.next := hb.lt_of_ne_error (by rw [hs]; decide)
  have hnone : ∀ b, ¬ IsSettlement w b s := fun b => hb.not_settled (by rw [hs]; decide)
  have hfirst : ∀ b, ¬ IsContract w b s := fun b h => (hb.bound b s h).ne_contract hs
  have hother : ∀ s', s' ≠ s → (w'.states.read s').state = (w.states.read s').state :=
    fun s' hne => by rw [hst, Heap.read_modify_ne _ _ hne]
  have hself : (w'.states.read s).state = .waitingForMultisigAcceptance := by
    rw [hst, Heap.read_modify_self]
  have hnext : w'.states.next = w.states.next := by rw [hst]; rfl
  have hnew : ∀ b s', b = w.broadcasts.next →
      (∃ c' provided', Purpose.contract s c provided = .contract s' c' provided') →
      s' = s ∧ w'.broadcasts.read b = { tx := tx, purpose := .contract s c provided } := by
    rintro b s' rfl ⟨c', provided', hpurpose⟩
    cases hpurpose
    exact ⟨rfl, by rw [hw, Heap.read_alloc_new]⟩
  have hkeep : ∀ b s', IsContract w b s' → KeepsTerms w w' s' := fun b s' h =>
    he.keepsTerms (hb.allocated b s' h) (hb.bound b s' h)
  have hold : ∀ b s', IsSettlement w' b s' → IsSettlement w b s' := by
    intro b s' h
    rcases h.of_alloc hw with h | ⟨-, hpurpose⟩
    · exact h
    · cases hpurpose
  refine ⟨fun b s' h => ?_, fun b s' h => ?_, fun b s' h => ?_, fun b s' h hp => ?_,
    fun b b' s' h h' => ?_, fun b s' h => ?_, fun b b' s' h h' => ?_,
    fun b b' s' h h' => hb.settledOnce b b' s' (hold b s' h) (hold b' s' h'), fun s' h => ?_⟩
  · rw [hnext]
    rcases h.of_alloc hw with ⟨h, -⟩ | ⟨hb', hpurpose⟩
    · exact hb.allocated b s' h
    · exact (hnew b s' hb' hpurpose).1 ▸ hlt
  · rcases h.of_alloc hw with ⟨h, -⟩ | ⟨hb', hpurpose⟩
    · exact (hkeep b s' h).bound
    · rw [(hnew b s' hb' hpurpose).1, Bound, hself]
  · rcases h.of_alloc hw with ⟨h, hread⟩ | ⟨hb', hpurpose⟩
    · rw [(hkeep b s' h).contract, hread]
      exact hb.contract b s' h
    · obtain ⟨rfl, hread⟩ := hnew b s' hb' hpurpose
      rw [hread, hst, Heap.read_modify_self]
      exact htx
  · rcases h.of_alloc hw with ⟨h, hread⟩ | ⟨hb', hpurpose⟩
    · rw [hother s' fun heq => hfirst b (heq ▸ h)]
      exact hb.pending b s' h (hread ▸ hp)
    · exact .inl ((hnew b s' hb' hpurpose).1 ▸ hself)
  · rcases h.of_alloc hw with ⟨h, -⟩ | ⟨rfl, hpurpose⟩ <;>
      rcases h'.of_alloc hw with ⟨h', -⟩ | ⟨rfl, hpurpose'⟩
    · exact hb.unique b b' s' h h'
    · exact absurd ((hnew _ s' rfl hpurpose').1 ▸ h) (hfirst b)
    · exact absurd ((hnew _ s' rfl hpurpose).1 ▸ h') (hfirst b')
    · rfl
  · have h := hold b s' h
    rw [hnext, hother s' fun heq => hnone b (heq ▸ h)]
    exact hb.settled b s' h
  · have h := hold b s' h
    rcases h'.of_alloc hw with ⟨h', hread⟩ | ⟨hb', hpurpose⟩
    · rw [hread]
      exact hb.completed b b' s' h h'
    · exact absurd ((hnew b' s' hb' hpurpose).1 ▸ h) (hnone b)
  · rw [hnext] at h
    rw [hother s' (Nat.ne_of_gt (lt_of_lt_of_le hlt h))]
    exact hb.blank s' h

/-- A broadcast completes. -/
theorem Broadcasts.complete (hb : Broadcasts w) (b₀ : Nat) : Broadcasts (w.complete b₀) := by
  have hc : ∀ b s, IsContract (w.complete b₀) b s → IsContract w b s := fun b s h => by
    simpa [IsContract, World.complete] using h
  have hs : ∀ b s, IsSettlement (w.complete b₀) b s → IsSettlement w b s := fun b s h => by
    simpa [IsSettlement, World.complete] using h
  have hmono : ∀ b, (w.broadcasts.read b).completed = true →
      ((w.complete b₀).broadcasts.read b).completed = true := by
    intro b h
    by_cases heq : b = b₀
    · subst heq; simp [World.complete]
    · simpa [World.complete, Heap.read_modify_ne _ _ heq] using h
  refine ⟨fun b s h => hb.allocated b s (hc b s h), fun b s h => hb.bound b s (hc b s h),
    fun b s h => ?_, fun b s h hp => hb.pending b s (hc b s h) ?_,
    fun b b' s h h' => hb.unique b b' s (hc b s h) (hc b' s h'),
    fun b s h => hb.settled b s (hs b s h),
    fun b b' s h h' => hmono b' (hb.completed b b' s (hs b s h) (hc b' s h')),
    fun b b' s h h' => hb.settledOnce b b' s (hs b s h) (hs b' s h'), hb.blank⟩
  · simpa [World.complete] using hb.contract b s (hc b s h)
  · cases hd : (w.broadcasts.read b).completed with
    | false => rfl
    | true => rw [hmono b hd] at hp; cases hp

theorem alloc_state (h : Heap PaymentChannelServerState) (st : PaymentChannelServerState)
    {s : StateRef} (hs : s < h.next ∨ h.next + 1 ≤ s) :
    ((h.alloc st).2.read s).state = (h.read s).state := by
  rw [Heap.read_alloc_ne]
  rcases hs with hs | hs
  · exact Nat.ne_of_lt hs
  · exact Nat.ne_of_gt hs

theorem Effect.broadcasts (he : Effect p start a w w') (hb : Broadcasts w)
    (hstart : Broadcasts start) : Broadcasts w' := by
  have he' := he
  cases he with
  | closing h =>
    cases h with
    | settling h =>
      cases h with
      | quiet hq =>
        exact hb.same he' hq.broadcasts (le_of_eq hq.statesNext.symm) fun s _ => hq.state_eq s
      | deducted => exact hb.same he' rfl le_rfl fun s _ => by simp
      | settled s b tx _ hready => exact hb.settle he' rfl rfl hready rfl
      | closedEarly s _ hs =>
        refine hb.move he' rfl rfl (hb.lt_of_ne_error fun heq => ?_) (fun _ _ _ => rfl) fun _ _ => ?_
        · rw [heq] at hs; exact absurd hs (by decide)
        · exact Nat.le_succ 4
    | called | removed | forgotten => exact hb.same he' rfl le_rfl fun s _ => rfl
    | untied | untiedRemoved => exact hb.same he' rfl le_rfl fun s _ => by simp
    | restored => exact hb.same he' rfl (Nat.le_succ _) fun s hs => alloc_state _ _ hs
  | accepted => exact hb.same he' rfl le_rfl fun s _ => by simp [World.accept]
  | refundStarted => exact hb.same he' rfl (Nat.le_succ _) fun s hs => alloc_state _ _ hs
  | refundSigned c s tx _ hs =>
    have hs := hs.state_eq
    refine hb.move he' rfl rfl (hb.lt_of_ne_error (by rw [hs]; decide)) (fun b h => ?_) fun b h => ?_
    · exact absurd hs (hb.bound b s h).ne_refund
    · exact absurd h (hb.not_settled (by rw [hs]; decide))
  | contractBroadcast c s _ _ hs => exact hb.offer he' rfl rfl hs.state_eq hs.contract_eq
  | completed b => exact hb.complete b
  | contractDone b success s c provided hc hdone =>
    -- the broadcast is no longer pending, and nothing was settled before
    have hpurpose : ∀ b', (w.broadcasts.read b').purpose = (start.broadcasts.read b').purpose :=
      fun b' => by rw [hdone.broadcasts]; simp [World.complete]
    have hnext : w.broadcasts.next = start.broadcasts.next := by rw [hdone.broadcasts]; rfl
    have hthis : IsContract w b s := ⟨hnext ▸ hc.allocated, c, provided, hpurpose b ▸ hc.purpose⟩
    refine hb.move he' rfl rfl (hb.allocated b s hthis) (fun b' h hp => ?_) fun b' h => ?_
    · rw [← hb.unique b b' s hthis h, hdone.broadcasts] at hp
      simp [World.complete] at hp
    · have hsettled : IsSettlement start b' s := ⟨hnext ▸ h.1, hpurpose b' ▸ h.2⟩
      have := hstart.completed b' b s hsettled ⟨hc.allocated, c, provided, hc.purpose⟩
      rw [hc.pending] at this; cases this
  | settlementDone b success s _ hlt hpurpose hdone =>
    have hthis : IsSettlement w b s := by
      rw [hdone]; exact ⟨hlt, by simpa [World.complete] using hpurpose⟩
    refine hb.move he' rfl rfl (hb.settled b s hthis).1 (fun b' h hp => ?_) fun b' h => ?_
    · rw [hb.completed b b' s hthis h] at hp; cases hp
    · cases success <;> exact Nat.le_of_ble_eq_true rfl
  | stored | unlockSet | keysSet | contractGiven | totalSet =>
    exact hb.same he' rfl le_rfl fun s _ => by simp [World.store]
  | _ =>
    exact hb.same he' rfl le_rfl fun s _ => rfl

/-! ## Every effect keeps the records -/

/-- What does not touch the fields that records and states share. -/
theorem Records.congr (hi : Records p w)
    (hst : ∀ s, (w'.states.read s).storedServerChannel = (w.states.read s).storedServerChannel)
    (htied : ∀ s r, (w.states.read s).storedServerChannel = some r → Tied w s r → Tied w' s r)
    (hch : ∀ r, (w'.channels.read r).state = (w.channels.read r).state ∧
      (w'.channels.read r).contract = (w.channels.read r).contract)
    (hnext : w'.channels.next = w.channels.next) (hm : w'.mapChannels = w.mapChannels) :
    Records p w' where
  hash h r hr := by rw [(hch r).2]; exact hi.hash h r (hm ▸ hr)
  stored h r hr := by rw [hnext]; exact hi.stored h r (hm ▸ hr)
  tied s r hs := htied s r (hst s ▸ hs) (hi.tied s r (hst s ▸ hs))
  held h r s hr hs := by rw [hst]; exact hi.held h r s (hm ▸ hr) ((hch r).1 ▸ hs)
  blank r hr := by rw [(hch r).2]; exact hi.blank r (hnext ▸ hr)

/-- A record but for its handler. -/
def StoredServerChannel.unhandled (ch : StoredServerChannel) : StoredServerChannel :=
  { ch with connectedHandler := none }

/-- Handlers come and go. -/
theorem Records.handlers (hi : Records p w) (hst : w'.states = w.states)
    (hch : ∀ r, (w'.channels.read r).unhandled = (w.channels.read r).unhandled)
    (hnext : w'.channels.next = w.channels.next) (hm : w'.mapChannels = w.mapChannels) :
    Records p w' := by
  have hfield : ∀ {α : Type} (r : ChannelRef) (f : StoredServerChannel → α),
      (∀ ch : StoredServerChannel, f ch.unhandled = f ch) →
        f (w'.channels.read r) = f (w.channels.read r) := fun r f hf => by
    rw [← hf, hch r, hf]
  refine hi.congr (fun s => by rw [hst]) (fun s r _ h => ?_)
    (fun r => ⟨hfield r (·.state) fun _ => rfl, hfield r (·.contract) fun _ => rfl⟩) hnext hm
  exact
    { allocated := hnext ▸ h.allocated
      state := (hfield r (·.state) fun _ => rfl).trans h.state
      ready := hst ▸ h.ready
      contract := by rw [hst, hfield r (·.contract) fun _ => rfl]; exact h.contract
      best := by rw [hst, hfield r (·.bestValueToMe) fun _ => rfl]; exact h.best
      signature := by rw [hst, hfield r (·.bestValueSignature) fun _ => rfl]; exact h.signature }

theorem Records.accept (hi : Records p w) (s : StateRef) (h : Sha256Hash) (v : Coin)
    (sig : Bytes) : Records p (w.accept s h v sig) := by
  have hch : ∀ r, ((w.accept s h v sig).channels.read r).state = (w.channels.read r).state ∧
      ((w.accept s h v sig).channels.read r).contract = (w.channels.read r).contract := by
    intro r
    unfold World.accept
    dsimp only
    split <;> simp
  have hnext : (w.accept s h v sig).channels.next = w.channels.next := by
    unfold World.accept
    dsimp only
    split <;> rfl
  refine hi.congr (fun s' => by simp [World.accept]) (fun s' r hs htied => ?_) hch hnext rfl
  have hbest : ((w.accept s h v sig).channels.read r).bestValueToMe =
        ((w.accept s h v sig).states.read s').bestValueToMe ∧
      ((w.accept s h v sig).channels.read r).bestValueSignature =
        ((w.accept s h v sig).states.read s').bestValueSignature := by
    by_cases heq : s' = s
    · subst heq
      simp [World.accept, hs]
    · -- the record that is written is another one
      have hread : (w.accept s h v sig).channels.read r = w.channels.read r := by
        unfold World.accept
        dsimp only
        split
        · rfl
        · rename_i r₀ hr₀
          refine Heap.read_modify_ne _ _ fun hr => heq ?_
          exact htied.unique (hi.tied s r (hr ▸ hr₀))
      rw [hread]
      simp [World.accept, Heap.read_modify_ne _ _ heq, htied.best, htied.signature]
  exact ⟨hnext ▸ htied.allocated, (hch r).1 ▸ htied.state, by simpa [World.accept] using htied.ready,
    by rw [(hch r).2]; simpa [World.accept] using htied.contract, hbest.1, hbest.2⟩

/-- A new record for a state that had none. -/
theorem Records.store (hi : Records p w) {s : StateRef} {c : ConnRef}
    {contract : Transaction} {o : OutputRef} (hready : (w.states.read s).state = .ready)
    (hfree : (w.states.read s).storedServerChannel = none)
    (hcontract : (w.states.read s).multisigContract = some contract) :
    Records p (w.store p s c contract o) := by
  have hold : ∀ r, r < w.channels.next →
      (w.store p s c contract o).channels.read r = w.channels.read r := fun r hr =>
    Heap.read_alloc_old _ _ hr
  have hmap : ∀ h r, (w.store p s c contract o).mapChannels.lookup h = some r →
      (h = p.getHash contract ∧ r = w.channels.next) ∨ w.mapChannels.lookup h = some r := by
    intro h r hr
    by_cases heq : h = p.getHash contract
    · subst heq
      simp only [World.store, AList.lookup_insert, Option.some.injEq] at hr
      exact .inl ⟨rfl, hr.symm⟩
    · simp only [World.store, AList.lookup_insert_ne heq] at hr
      exact .inr hr
  refine ⟨fun h r hr => ?_, fun h r hr => ?_, fun s' r hs => ?_, fun h r s' hr hs => ?_,
    fun r hr => ?_⟩
  · rcases hmap h r hr with ⟨rfl, rfl⟩ | hr
    · simp [World.store]
    · rw [hold r (hi.stored h r hr)]
      exact hi.hash h r hr
  · rcases hmap h r hr with ⟨rfl, rfl⟩ | hr
    · exact Nat.lt_succ_self _
    · exact Nat.lt_succ_of_lt (hi.stored h r hr)
  · by_cases heq : s' = s
    · subst heq
      obtain rfl : w.channels.next = r := by simpa [World.store] using hs
      exact ⟨Nat.lt_succ_self _, by simp [World.store], by simpa [World.store] using hready,
        by simpa [World.store] using hcontract, by simp [World.store], by simp [World.store]⟩
    · have hs : (w.states.read s').storedServerChannel = some r := by
        simpa [World.store, Heap.read_modify_ne _ _ heq] using hs
      have htied := hi.tied s' r hs
      exact htied.congr (Nat.le_succ _) (hold r htied.allocated) (Heap.read_modify_ne _ _ heq)
  · rcases hmap h r hr with ⟨rfl, rfl⟩ | hr
    · obtain rfl : s = s' := by simpa [World.store] using hs
      simp [World.store]
    · rw [hold r (hi.stored h r hr)] at hs
      have hs' := hi.held h r s' hr hs
      have hne : s' ≠ s := by
        rintro rfl
        rw [hfree] at hs'; cases hs'
      simpa [World.store, Heap.read_modify_ne _ _ hne] using hs'
  · have hr : w.channels.next + 1 ≤ r := hr
    rw [World.store, Heap.read_alloc_ne _ _ (Nat.ne_of_gt hr)]
    exact hi.blank r (Nat.le_of_succ_le hr)

theorem Effect.records (he : Effect p start a w w') (ha : Allocated w) (hi : Records p w)
    (hs : Records p start) (hb : Broadcasts start) : Records p w' := by
  cases he with
  | closing h => exact h.records ha hi
  | accepted s pay => exact hi.accept s _ _ _
  | stored c s contract o hstoring => exact hi.store hstoring.ready hstoring.free hstoring.contract_eq
  | contractDone b success s c provided hc hdone =>
    have hfree : (w.states.read s).storedServerChannel = none := by
      rw [hdone.stored s]
      exact hb.free hs ⟨hc.allocated, c, provided, hc.purpose⟩ hc.pending
    exact hi.state rfl rfl rfl hfree hfree
  | settlementDone b success s _ hlt hpurpose hdone =>
    have hfree : (w.states.read s).storedServerChannel = none := by
      rw [hdone]
      exact hb.free_settled hs ⟨hlt, hpurpose⟩
    exact hi.state rfl rfl rfl hfree hfree
  | refundStarted =>
    have hfresh : (w.states.read w.states.next).storedServerChannel = none := by
      cases hr : (w.states.read w.states.next).storedServerChannel with
      | none => rfl
      | some r => exact absurd (ha.tied _ r hr) (Nat.lt_irrefl _)
    refine hi.congr (fun s => ?_) (fun s r hs h => ?_) (fun _ => ⟨rfl, rfl⟩) rfl rfl
    · by_cases heq : s = w.states.next
      · subst heq; simp [hfresh]
      · simp [Heap.read_alloc_ne _ _ heq]
    · exact h.congr le_rfl rfl (Heap.read_alloc_old _ _ (ha.tied s r hs))
  | unlockSet _ s _ hs' | keysSet s _ hs' | contractGiven _ s _ _ hs' | totalSet s _ _ _ hs' =>
    have hfree := hi.free (by rw [hs']; decide)
    exact hi.state rfl rfl rfl hfree hfree
  | refundSigned _ s _ _ hs' | contractBroadcast _ s _ _ hs' =>
    have hfree := hi.free (by rw [hs'.state_eq]; decide)
    exact hi.state rfl rfl rfl hfree hfree
  | connectionClosed c =>
    exact hi.handlers rfl (fun r => w.disconnect_field c r (·.unhandled) fun _ => rfl) (by simp) rfl
  | takenOver | handlerSet =>
    exact hi.handlers rfl (fun r => w.channels.field_modify _ r (·.unhandled) fun _ => rfl) rfl rfl
  | _ =>
    exact hi.remove rfl rfl fun _ _ hr => hr

/-! ## Owners -/

/-- Until its contract is broadcast, a state belongs to one connection. -/
def Owned (w : World) : Prop :=
  ∀ c c' s, (w.servers.read c).state = some s → (w.servers.read c').state = some s →
    ¬ Bound w s → c = c'

theorem Effect.owned (he : Effect p start a w w') (ha : Allocated w) (hi : Records p w)
    (ho : Owned w) : Owned w' := by
  -- a state that is new to a connection is fresh, or bound already
  have hnew : ∀ c c' s, NewState start a w w' c s → (w'.servers.read c').state = some s →
      ¬ Bound w' s → c' = c := by
    intro c c' s hs hc' hb
    cases hs with
    | refund msg hmsg hty hc hw =>
      rcases he.serverState hc' with hold | hs'
      · exact absurd (ha.server c' _ hold) (Nat.lt_irrefl _)
      · cases hs' with
        | refund msg' hmsg' =>
          rw [hmsg] at hmsg'
          cases hmsg'
          rfl
        | resumed h r s hres hm hr => exact absurd (ha.state r _ hr) (Nat.lt_irrefl _)
    | resumed h r s hres hm hr =>
      have htied := hi.tied s r (hi.held h r s hm hr)
      have hbound : Bound w s := by rw [Bound, htied.ready]; decide
      exact absurd (he.keepsTerms (ha.state r s hr) hbound).bound hb
  intro c c' s hc hc' hb
  rcases he.serverState hc with h | h
  · rcases he.serverState hc' with h' | h'
    · exact ho c c' s h h' fun hbound => hb (he.keepsTerms (ha.server c s h) hbound).bound
    · exact hnew c' c s h' hc hb
  · exact (hnew c c' s h hc' hb).symm

section Runs

variable {ok : World → Env × Action → Prop} {autosave : Bool}

theorem Passed.broadcasts (h : Passed p ok autosave w) : Broadcasts w :=
  Visited.invariant (.initial autosave) (fun _ _ _ _ _ _ _ hs ht he => he.broadcasts ht hs) h

/-- In every world a run comes by, records and states fit together. -/
theorem Passed.records (h : Passed p ok autosave w) : Records p w :=
  Visited.invariant (.initial autosave)
    (fun _ _ _ _ hs hok hpath his hit he =>
      he.records (Passed.allocated (hs.path hok hpath)) hit his (Passed.broadcasts hs)) h

theorem Passed.owned (h : Passed p ok autosave w) : Owned w :=
  Visited.invariant (fun _ _ _ hc => (nomatch hc))
    (fun _ _ _ _ hs hok hpath _ hit he =>
      have ht := hs.path hok hpath
      he.owned (Passed.allocated ht) (Passed.records ht) hit) h

end Runs

end BitMesh.Channels
