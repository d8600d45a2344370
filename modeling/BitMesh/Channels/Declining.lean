import BitMesh.Channels.Client
import BitMesh.Channels.Exceptions
import BitMesh.Channels.Steps

/-!
# Declining to close

`close` takes the fee off what the channel is worth before it finds that
the fee is not covered, and before that it has given up the record and had
it removed from the map. So a call that declines leaves a channel that is
worth less than before and is no longer stored; and since `closeChannel`
comes back to `close`, the fee is taken off twice.
-/

namespace BitMesh.Channels

open BitMesh.Bitcoin BitMesh.Lib Relation

variable {p : Platform} {env : Env} {w : World} {s : StateRef}

/-! ## What a declined call leaves -/

/-- The channel is open and worth at most `v` to the server. -/
structure WorthAtMost (v : Int) (s : StateRef) (w : World) : Prop where
  allocated : s < w.states.next
  ready : (w.states.read s).state = .ready
  best : (w.states.read s).bestValueToMe.value ≤ v

/-- Other calls of `close` and `closeChannel` on the way neither settle a
channel that the fee is not covered of, nor make it worth more. -/
theorem WorthAtMost.closing {v : Int} {w' : World} (h : WorthAtMost v s w)
    (hv : v ≤ 2 * Coin.referenceDefaultMinTxFee.value) (hstep : Closing p env w w') :
    WorthAtMost v s w' := by
  have hlt := lt_of_lt_of_le h.allocated hstep.statesNext_le
  have hfee := Coin.referenceDefaultMinTxFee_value
  cases hstep with
  | settling hstep =>
    cases hstep with
    | quiet hq => exact ⟨hlt, (hq.state_eq s).trans h.ready, by rw [hq.best s]; exact h.best⟩
    | deducted s' b _ _ _ hb =>
      by_cases heq : s = s'
      · subst heq
        have hbest := h.best
        exact ⟨hlt, by simpa using h.ready, by simp only [Heap.read_modify_self]; omega⟩
      · refine ⟨hlt, ?_, ?_⟩ <;> simp only [Heap.read_modify_ne _ _ heq]
        · exact h.ready
        · exact h.best
    | settled s' b tx _ _ _ settlement =>
      by_cases heq : s = s'
      · subst heq
        have hworth := settlement.worth
        have hb := settlement.b_value
        have hbest := h.best
        omega
      · refine ⟨hlt, ?_, ?_⟩ <;> simp only [Heap.read_modify_ne _ _ heq]
        · exact h.ready
        · exact h.best
    | closedEarly s' _ hearly =>
      by_cases heq : s = s'
      · subst heq
        rw [h.ready] at hearly
        exact absurd hearly (lt_irrefl _)
      · refine ⟨hlt, ?_, ?_⟩ <;> simp only [Heap.read_modify_ne _ _ heq]
        · exact h.ready
        · exact h.best
  | called | removed | forgotten => exact ⟨hlt, h.ready, h.best⟩
  | untied s' | untiedRemoved s' =>
    by_cases heq : s = s'
    · subst heq
      exact ⟨hlt, by simpa using h.ready, by simpa using h.best⟩
    · refine ⟨hlt, ?_, ?_⟩ <;> simp only [Heap.read_modify_ne _ _ heq]
      · exact h.ready
      · exact h.best
  | restored r =>
    have hne : s ≠ w.states.next := ne_of_lt h.allocated
    refine ⟨hlt, ?_, ?_⟩ <;> simp only [World.restore, Heap.read_alloc_ne _ _ hne]
    · exact h.ready
    · exact h.best

theorem WorthAtMost.path {v : Int} {w' : World} (h : WorthAtMost v s w)
    (hv : v ≤ 2 * Coin.referenceDefaultMinTxFee.value)
    (hpath : ReflTransGen (Closing p env) w w') : WorthAtMost v s w' := by
  induction hpath with
  | refl => exact h
  | tail _ hstep ih => exact ih.closing hv hstep

/-- Settling takes the fee off, and finds that it is not covered. -/
theorem WorthAtMost.settle {v : Int} (h : WorthAtMost v s w)
    (hv : v ≤ 2 * Coin.referenceDefaultMinTxFee.value) :
    wp (settle p env s) w
      (fun _ t => WorthAtMost (v - Coin.referenceDefaultMinTxFee.value) s t)
      (fun e _ => Uncaught e) := by
  simp only [Channels.settle, wp_bind, wp_readState, wp_ite, wp_tryCatch, wp_throw, h.ready,
    ne_eq, not_true, false_implies, not_false_eq_true, true_implies, lt_irrefl, true_and]
  refine wp.mono (makeSettlement_spec w s) ?_ (fun e _ _ => Uncaught.wrap e)
  rintro res t ⟨b, change, hb, rfl, hres⟩
  have hbest := h.best
  have hfee := Coin.referenceDefaultMinTxFee_value
  cases res with
  | none =>
    rw [wp_pure]
    refine ⟨?_, ?_, ?_⟩ <;> rw [World.setChange_states]
    · exact h.allocated
    · simpa [World.deduct] using h.ready
    · simp only [World.deduct, Heap.read_modify_self]
      omega
  | some tx =>
    obtain ⟨settlement⟩ := hres
    have hworth := settlement.worth
    omega

/-- So does closing, whatever is done about the record first. -/
theorem WorthAtMost.close {v : Int} (h : WorthAtMost v s w) (ha : Allocated w)
    (hv : v ≤ 2 * Coin.referenceDefaultMinTxFee.value) :
    wp (close p env s) w
      (fun _ t => WorthAtMost (v - Coin.referenceDefaultMinTxFee.value) s t)
      (fun e _ => Uncaught e) := by
  simp only [Channels.close, closeWith, wp_bind, wp_note, wp_readState]
  cases hs : (w.states.read s).storedServerChannel with
  | none =>
    have hcalled : WorthAtMost v s { w with trace := .closeCalled s :: w.trace } :=
      ⟨h.allocated, h.ready, h.best⟩
    exact hcalled.settle hv
  | some r =>
    simp only [wp_bind, wp_modifyState]
    have hgiven : WorthAtMost v s { w with
        states := w.states.modify s fun st => { st with storedServerChannel := none }
        trace := .closeCalled s :: w.trace } :=
      ⟨h.allocated, by simpa using h.ready, by simpa using h.best⟩
    have hallocated : Allocated { w with
        states := w.states.modify s fun st => { st with storedServerChannel := none }
        trace := .closeCalled s :: w.trace } := by
      refine ⟨fun s' r' hs' => ?_, ha.state, ha.server⟩
      by_cases heq : s' = s
      · subst heq
        exact h.allocated
      · exact ha.tied s' r' (by simpa [Heap.read_modify_ne _ _ heq] using hs')
    refine wp.mono ((closeChannel_follows _ r hallocated).and (closeChannel_throws r _)) ?_
      (fun _ _ he => he.2)
    rintro _ t ⟨hpath, -⟩
    have ht := hgiven.path hv hpath
    simp only [wp_readState, wp_ite, wp_pure, ht.ready]
    exact ⟨fun hle => absurd hle (by decide), fun _ => ht.settle hv⟩

/-- And so does `closeChannel` on its record. -/
theorem WorthAtMost.closeChannel {v : Int} {r : ChannelRef} (h : WorthAtMost v s w)
    (ha : Allocated w) (hv : v ≤ 2 * Coin.referenceDefaultMinTxFee.value)
    (hm : (w.mapChannels.lookup (p.getHash (w.channels.read r).contract)).isSome)
    (hr : (w.channels.read r).state = some s) :
    wp (closeChannel p env r) w
      (fun _ t => WorthAtMost (v - Coin.referenceDefaultMinTxFee.value) s t)
      (fun _ _ => True) := by
  have hremoved : WorthAtMost v s { w with
      mapChannels := w.mapChannels.erase (p.getHash (w.channels.read r).contract)
      trace := .removed (p.getHash (w.channels.read r).contract) :: w.trace } :=
    ⟨h.allocated, h.ready, h.best⟩
  rw [wp_congr (closeChannel_eq w r)]
  simp only [closeChannelWith, closeRemoved, getOrCreateState, wp_bind, wp_get, wp_ite, wp_modify,
    wp_note, wp_pure, wp_tryCatch, wp_readChannel, hr]
  refine ⟨fun _ => ?_, fun hnot => absurd hm hnot⟩
  refine wp.mono (hremoved.close ⟨ha.tied, ha.state, ha.server⟩ hv) ?_ ?_
  · intro _ t ht
    rw [wp_modifyChannel]
    refine wp.mono (updatedChannel_spec _) (fun _ u hu => ?_) (fun _ _ _ => trivial)
    rw [hu]
    exact ⟨ht.allocated, ht.ready, ht.best⟩
  · intro e t he
    exact ⟨fun hcaught => he.not_caught hcaught |>.elim, fun _ => trivial⟩

/-! ## Declining disturbs the channel -/

/-- `incrementPayment` takes the update. -/
def AcceptsUpdate (p : Platform) (env : Env) (s : StateRef) (refundSize : Coin) (sig : Bytes)
    (w : World) : Prop :=
  wp (incrementPayment p env s refundSize sig) w (fun _ _ => True) (fun _ _ => False)

instance AcceptsUpdate.decidable (env : Env) (s : StateRef) (refundSize : Coin) (sig : Bytes)
    (w : World) : Decidable (AcceptsUpdate p env s refundSize sig w) :=
  inferInstanceAs (Decidable (wp _ _ _ _))

/-- Between `w` and `u` nothing happened to the channel: it is worth what
it was, its record is where it was, and it takes the same updates. -/
structure Undisturbed (p : Platform) (s : StateRef) (w u : World) : Prop where
  best : (u.states.read s).bestValueToMe = (w.states.read s).bestValueToMe
  signature : (u.states.read s).bestValueSignature = (w.states.read s).bestValueSignature
  state : (u.states.read s).state = (w.states.read s).state
  stored : (u.states.read s).storedServerChannel = (w.states.read s).storedServerChannel
  record : ∀ contract, (w.states.read s).multisigContract = some contract →
    u.mapChannels.lookup (p.getHash contract) = w.mapChannels.lookup (p.getHash contract)
  updates : ∀ env refundSize sig,
    AcceptsUpdate p env s refundSize sig u ↔ AcceptsUpdate p env s refundSize sig w

theorem WorthAtMost.disturbed {u : World}
    (h : WorthAtMost ((w.states.read s).bestValueToMe.value -
      Coin.referenceDefaultMinTxFee.value) s u) : ¬ Undisturbed p s w u := by
  intro hsame
  have hbest := h.best
  have hfee := Coin.referenceDefaultMinTxFee_value
  rw [hsame.best] at hbest
  omega

/-- A call of `close` on an open channel, or of `closeChannel` on its
record, that returns although the fee is not covered has taken the fee off
the channel's worth. -/
theorem declined_close_disturbs (ha : Allocated w) (hs : s < w.states.next)
    (hready : (w.states.read s).state = .ready)
    (hfee : (w.states.read s).bestValueToMe.value ≤ 2 * Coin.referenceDefaultMinTxFee.value) :
    (∀ result u, (close p env s).run w = .ok result u →
      (u.states.read s).bestValueToMe.value ≤
        (w.states.read s).bestValueToMe.value - Coin.referenceDefaultMinTxFee.value ∧
      ¬ Undisturbed p s w u) ∧
    ∀ r u, (w.mapChannels.lookup (p.getHash (w.channels.read r).contract)).isSome →
      (w.channels.read r).state = some s → (closeChannel p env r).run w = .ok () u →
      (u.states.read s).bestValueToMe.value ≤
        (w.states.read s).bestValueToMe.value - Coin.referenceDefaultMinTxFee.value ∧
      ¬ Undisturbed p s w u := by
  have hworth : WorthAtMost (w.states.read s).bestValueToMe.value s w := ⟨hs, hready, le_rfl⟩
  constructor
  · intro result u hrun
    have hu := (hworth.close ha hfee).of_run_eq_ok hrun
    exact ⟨hu.best, hu.disturbed⟩
  · intro r u hm hr hrun
    have hu := (hworth.closeChannel ha hfee hm hr).of_run_eq_ok hrun
    exact ⟨hu.best, hu.disturbed⟩

/-- A channel of which 1000 satoshis were paid, closed both ways. -/
theorem declined_close_disturbs_1000 :
    let w := Client.run (Client.openChannel 99000)
    ∃ u u', (close Client.platform Client.env 0).run w = .ok .abandoned u ∧
      (u.states.read 0).bestValueToMe.value ≤ 0 ∧ ¬ Undisturbed Client.platform 0 w u ∧
      (closeChannel Client.platform Client.env 0).run w = .ok () u' ∧
      (u'.states.read 0).bestValueToMe.value ≤ 0 ∧ ¬ Undisturbed Client.platform 0 w u' := by
  intro w
  have hreached : Reached Client.platform (fun _ _ => True) true w := Reaches.foldl _ .start
  have hbest : (w.states.read 0).bestValueToMe.value = 1000 := by decide +kernel
  have hdeclined := @declined_close_disturbs Client.platform Client.env w 0
    hreached.passed.allocated (by decide +kernel) (by decide +kernel) (by rw [hbest]; decide)
  have hclose : wp (close Client.platform Client.env 0) w (fun result _ => result = .abandoned)
      (fun _ _ => False) := by decide +kernel
  have hcloseChannel : wp (closeChannel Client.platform Client.env 0) w (fun _ _ => True)
      (fun _ _ => False) := by decide +kernel
  obtain ⟨_, u, hrun, rfl⟩ := hclose.exists_run_eq_ok
  obtain ⟨_, u', hrun', -⟩ := hcloseChannel.exists_run_eq_ok
  have hu := hdeclined.1 _ u hrun
  have hu' := hdeclined.2 0 u' (by decide +kernel) (by decide +kernel) hrun'
  rw [hbest] at hu hu'
  exact ⟨u, u', hrun, hu.1, hu.2, hrun', hu'.1, hu'.2⟩

/-- Closing it declines and leaves it at -1000, out of the map and ready to
take a payment that it refused before. -/
theorem close_declined_at_1000 :
    let w := Client.run (Client.openChannel 99000)
    let contract := Client.platform.getHash (Reference.contract 1 100000)
    let update := AcceptsUpdate Client.platform Client.env 0 ⟨99400, by decide⟩
      (Client.payment 1 99400).signature
    (w.states.read 0).state = .ready ∧ (w.states.read 0).bestValueToMe.value = 1000 ∧
      w.mapChannels.lookup contract = some 0 ∧ ¬ update w ∧
      wp (close Client.platform Client.env 0) w
        (fun result u => result = .abandoned ∧ (u.states.read 0).state = .ready ∧
          (u.states.read 0).bestValueToMe.value = -1000 ∧
          u.mapChannels.lookup contract = none ∧ update u) (fun _ _ => False) := by
  decide +kernel

end BitMesh.Channels
