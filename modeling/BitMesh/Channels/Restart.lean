import BitMesh.Channels.Frames
import BitMesh.Channels.SavedChannels
import BitMesh.Channels.Settlements

/-!
# After a restart

`deserializeWalletExtension` puts the saved channels back into the map, and
the state of such a channel is made from its record when it is first asked
for. The record has no key of the client and no redeem script, and neither
has the state. So whatever happens after a restart, payments are accepted
and settlements broadcast only for channels whose refund was signed since.
-/

namespace BitMesh.Channels

open BitMesh.Bitcoin BitMesh.Lib

variable {p : Platform} {env : Env} {start : World} {a : Env × Action} {w w' : World}

/-- A server that has just been started, with what its wallet had saved. -/
def World.restarted (p : Platform) (env : Env) (autosave : Bool)
    (saved : List StoredServerPaymentChannel) : World :=
  finalState (deserializeWalletExtension p env saved) (World.initial autosave)

/-! ## Scripts and settlements -/

/-- A state that does not exist has no script. -/
def World.Unscripted (w : World) : Prop :=
  ∀ s, w.states.next ≤ s → (w.states.read s).redeemScript = none

/-- From `w` to `t` no script is lost, and only states with a script are
settled. -/
structure Redeeming (w t : World) : Prop where
  unscripted : w.Unscripted → t.Unscripted
  scripts : w.Unscripted → ∀ s, (w.states.read s).redeemScript ≠ none →
    (t.states.read s).redeemScript ≠ none
  settled : w.Unscripted → ∀ b s, IsSettlement t b s →
    IsSettlement w b s ∨ (t.states.read s).redeemScript ≠ none

namespace Redeeming

theorem of_scripts (hnext : w'.states.next = w.states.next)
    (hscripts : ∀ s, (w'.states.read s).redeemScript = (w.states.read s).redeemScript)
    (hsettled : ∀ b s, IsSettlement w' b s →
      IsSettlement w b s ∨ (w'.states.read s).redeemScript ≠ none) : Redeeming w w' where
  unscripted h s hs := by
    rw [hscripts s]
    exact h s (hnext ▸ hs)
  scripts _ s hs := by rwa [hscripts s]
  settled _ := hsettled

/-- Neither the states nor the broadcasts are written to. -/
theorem of_eq (hstates : w'.states = w.states) (hbroadcasts : w'.broadcasts = w.broadcasts) :
    Redeeming w w' := by
  refine .of_scripts (by rw [hstates]) (fun s => by rw [hstates]) fun b s hs => .inl ?_
  rwa [IsSettlement, hbroadcasts] at hs

instance isPreorder : IsPreorder World Redeeming where
  refl _ := .of_eq rfl rfl
  trans _ _ _ h h' := {
    unscripted := fun hu => h'.unscripted (h.unscripted hu)
    scripts := fun hu s hs => h'.scripts (h.unscripted hu) s (h.scripts hu s hs)
    settled := by
      intro hu b s hs
      rcases h'.settled (h.unscripted hu) b s hs with hs | hs
      · exact (h.settled hu b s hs).imp_right (h'.scripts (h.unscripted hu) s)
      · exact .inr hs }

instance frame : FullFrame Redeeming where
  others _ _ hstates hbroadcasts _ := .of_eq hstates hbroadcasts
  assigned w s f hf := .of_scripts (Heap.next_modify ..)
    (fun s' => w.states.field_modify s s' (·.redeemScript) hf) fun _ _ => .inl
  keyed w s f hs hf := by
    have hread (s' : StateRef) (hne : s' ≠ s) :
        ((w.states.modify s f).read s').redeemScript = (w.states.read s').redeemScript := by
      rw [Heap.read_modify_ne _ _ hne]
    refine ⟨fun hu s' hs' => ?_, fun _ s' hs' => ?_, fun _ _ _ => .inl⟩
    · have hle : w.states.next ≤ s' := hs'
      exact (hread s' (Nat.ne_of_gt (lt_of_lt_of_le hs hle))).trans (hu s' hle)
    · by_cases heq : s' = s
      · subst heq
        rw [Heap.read_modify_self]
        exact hf _
      · rwa [hread s' heq]
  made w st hst := by
    refine ⟨fun hu s' hs' => ?_, fun hu s' hs' => ?_, fun _ _ _ => .inl⟩
    · have hle : w.states.next + 1 ≤ s' := hs'
      rw [Heap.read_alloc_ne _ _ (by omega)]
      exact hu s' (by omega)
    · have hne : s' ≠ w.states.next := fun heq => hs' (hu s' heq.ge)
      rwa [Heap.read_alloc_ne _ _ hne]
  offered w tx s c provided := by
    refine .of_scripts rfl (fun _ => rfl) fun b s' hs' => ?_
    rcases hs'.of_alloc rfl with hold | ⟨-, hpurpose⟩
    · exact .inl hold
    · cases hpurpose
  completed w b := .of_scripts rfl (fun _ => rfl) fun b' s hs =>
    .inl ⟨hs.1, by simpa [World.complete] using hs.2⟩
  settled w t s h := by
    refine .of_scripts h.next h.scripts fun b s' hs' => ?_
    rcases h.broadcasts with hsame | ⟨hscript, tx, hnew⟩
    · rw [IsSettlement, hsame] at hs'
      exact .inl hs'
    · rcases hs'.of_alloc hnew with hold | ⟨-, hpurpose⟩
      · exact .inl hold
      · cases hpurpose
        exact .inr (h.scripts s ▸ hscript)

instance reporting : Reporting Redeeming Redeeming where
  unreported h := h
  before := trans_of Redeeming
  after := trans_of Redeeming
  reported _ _ _ _ _ := .of_eq rfl rfl

end Redeeming

/-! ## Keys -/

/-- The refund of the state `s` was signed. -/
def Signed (w : World) (s : StateRef) : Prop := ∃ lockTime, .refundSigned s lockTime ∈ w.trace

theorem Signed.effect {s : StateRef} (h : Signed w s) (he : Effect p start a w w') :
    Signed w' s := by
  obtain ⟨lockTime, hmem⟩ := h
  exact ⟨lockTime, he.mem_trace rfl hmem⟩

/-- A state gets its keys with its refund. -/
structure Keyed (w : World) : Prop where
  keys : ∀ s, (w.states.read s).clientKey ≠ none ∨ (w.states.read s).redeemScript ≠ none →
    Signed w s ∨ (w.states.read s).state = .waitingForRefundTransaction ∨
      State.closing.ordinal ≤ (w.states.read s).state.ordinal
  offered : ∀ b s, IsContract w b s → Signed w s
  waiting : ∀ s, (w.states.read s).state = .waitingForMultisigContract → Signed w s
  /-- Nothing here says that a state that is settled has a script. -/
  settled : ∀ b s, IsSettlement w b s → Signed w s ∨
    ((w.states.read s).redeemScript = none ∧
      (w.states.read s).state ≠ .waitingForRefundTransaction)

/-- An open channel with a key was negotiated. -/
theorem Keyed.signed (h : Keyed w) {s : StateRef} (hready : (w.states.read s).state = .ready)
    (hkeys : (w.states.read s).clientKey ≠ none ∨ (w.states.read s).redeemScript ≠ none) :
    Signed w s := by
  rcases h.keys s hkeys with hs | hs | hs
  · exact hs
  · rw [hready] at hs
    cases hs
  · rw [hready] at hs
    exact absurd hs (by decide)

section Effect

variable (he : Effect p start a w w') (h : Keyed w) (hstart : Keyed start)
include he h

theorem Keyed.waiting_step {s : StateRef}
    (hs : (w'.states.read s).state = .waitingForMultisigContract) : Signed w' s := by
  rcases he.changes s with hsame | ⟨st, hst, hch⟩
  · rw [core_field hsame (·.state) fun _ => rfl] at hs
    exact (h.waiting s hs).effect he
  · rw [hst] at hs
    cases hch with
    | refundSigned c tx hsign hw => exact ⟨_, hw⟩
    | deducted | untied | accepted | unlockSet | keysSet | contractGiven | totalSet | stored =>
      exact (h.waiting s hs).effect he
    | settled | closedEarly | restored | started | contractBroadcast => cases hs
    | contractDone _ success | settlementDone _ success => cases success <;> cases hs

theorem Keyed.settled_step (hb : Broadcasts w) {b : Nat} {s : StateRef}
    (hs : IsSettlement w' b s) : Signed w' s ∨ ((w'.states.read s).redeemScript = none ∧
      (w'.states.read s).state ≠ .waitingForRefundTransaction) := by
  have hw : Signed w s ∨ (s < w.states.next ∧ (w.states.read s).redeemScript = none ∧
      (w.states.read s).state ≠ .waitingForRefundTransaction) := by
    rcases he.settlement hs with hold | ⟨v, hready, -⟩
    · exact (h.settled b s hold).imp_right fun hnone => ⟨(hb.settled b s hold).1, hnone⟩
    · by_cases hscript : (w.states.read s).redeemScript = none
      · exact .inr ⟨hb.lt_of_ne_error (by rw [hready]; decide), hscript, by rw [hready]; decide⟩
      · exact .inl (h.signed hready (.inr hscript))
  rcases hw with hsigned | ⟨hlt, hscript, hne⟩
  · exact .inl (hsigned.effect he)
  · refine .inr ?_
    rcases he.changes s with hsame | ⟨st, hst, hch⟩
    · rw [core_field hsame (·.state) fun _ => rfl, core_field hsame (·.redeemScript) fun _ => rfl]
      exact ⟨hscript, hne⟩
    · rw [hst]
      cases hch with
      | keysSet _ hwaiting => exact absurd hwaiting hne
      | restored _ _ hnew | started _ hnew => exact absurd hnew (Nat.ne_of_lt hlt)
      | deducted | untied | accepted | unlockSet | contractGiven | totalSet | stored =>
        exact ⟨hscript, hne⟩
      | settled | closedEarly | refundSigned | contractBroadcast => exact ⟨hscript, by simp⟩
      | contractDone _ success | settlementDone _ success => cases success <;> exact ⟨hscript, by simp⟩

include hstart

theorem Keyed.keys_step {s : StateRef}
    (hs : (w'.states.read s).clientKey ≠ none ∨ (w'.states.read s).redeemScript ≠ none) :
    Signed w' s ∨ (w'.states.read s).state = .waitingForRefundTransaction ∨
      State.closing.ordinal ≤ (w'.states.read s).state.ordinal := by
  rcases he.changes s with hsame | ⟨st, hst, hch⟩
  · rw [core_field hsame (·.clientKey) fun _ => rfl,
      core_field hsame (·.redeemScript) fun _ => rfl] at hs
    rw [core_field hsame (·.state) fun _ => rfl]
    exact (h.keys s hs).imp_left (·.effect he)
  · rw [hst] at hs ⊢
    cases hch with
    | restored | started => exact absurd hs (by simp)
    | keysSet pub hwaiting => exact .inr (.inl hwaiting)
    | refundSigned c tx hsign hw => exact .inl ⟨_, hw⟩
    | contractBroadcast c provided tx hoffering => exact .inl ((h.waiting s hoffering.state_eq).effect he)
    | contractDone b success c provided hb hdone =>
      -- the contract was broadcast, so its refund had been signed
      obtain ⟨lockTime, hsigned⟩ := hstart.offered b s ⟨hb.allocated, c, provided, hb.purpose⟩
      exact .inl (Signed.effect ⟨lockTime, (hdone.mem_trace rfl).mpr hsigned⟩ he)
    | deducted | untied | accepted | unlockSet | contractGiven | totalSet | stored =>
      exact (h.keys s hs).imp_left (·.effect he)
    | settled | closedEarly => exact .inr (.inr (by simp [State.ordinal]))
    | settlementDone b success => cases success <;> exact .inr (.inr (by simp [State.ordinal]))

theorem Effect.keyed (hb : Broadcasts w) : Keyed w' where
  keys _ hs := h.keys_step he hstart hs
  offered b s hs := by
    obtain ⟨hlt, c, provided, hpurpose⟩ := hs
    rcases he.offer ⟨hlt, hpurpose⟩ with hold | ⟨tx, hoffering, -⟩
    · exact (h.offered b s ⟨hold.1, c, provided, hold.2⟩).effect he
    · exact (h.waiting s hoffering.state_eq).effect he
  waiting _ hs := h.waiting_step he hs
  settled _ _ hs := h.settled_step he hb hs

end Effect

/-- The state of a record that was there before is the old one, or was made
from the record. -/
theorem Effect.recordState_of (he : Effect p start a w w') {r : ChannelRef} {s : StateRef}
    (hr : r < w.channels.next) (hs : (w'.channels.read r).state = some s) :
    (w.channels.read r).state = some s ∨
      s = w.states.next ∧ (w'.states.read s).state = .ready ∧ w'.states.next = s + 1 ∧
        w'.trace = w.trace := by
  cases he with
  | closing h =>
    cases h with
    | settling h => exact .inl (h.channels ▸ hs)
    | called | untied | untiedRemoved | removed => exact .inl hs
    | restored r' T hnone =>
      by_cases heq : r = r'
      · subst heq
        obtain rfl : w.states.next = s := by simpa [World.restore] using hs
        exact .inr ⟨rfl, by simp [World.restore], rfl, rfl⟩
      · exact .inl (by simpa [World.restore, Heap.read_modify_ne _ _ heq] using hs)
    | forgotten r' hm =>
      by_cases heq : r = r'
      · subst heq
        simp at hs
      · exact .inl (by simpa [Heap.read_modify_ne _ _ heq] using hs)
  | accepted s' pay => exact .inl (by rwa [World.accept_channelState] at hs)
  | stored => exact .inl (by rwa [World.store, Heap.read_alloc_old _ _ hr] at hs)
  | connectionClosed c => exact .inl ((w.disconnect_field c r (·.state) fun _ => rfl).symm.trans hs)
  | takenOver | handlerSet => exact .inl (by simpa using hs)
  | _ =>
    exact .inl hs

/-- The refund of the state `s` was not signed and will not be. -/
structure Disowned (w : World) (s : StateRef) : Prop where
  allocated : s < w.states.next
  unsigned : ¬ Signed w s
  notWaiting : (w.states.read s).state ≠ .waitingForRefundTransaction

theorem Effect.disowned (he : Effect p start a w w') {s : StateRef} (h : Disowned w s) :
    Disowned w' s where
  allocated := lt_of_lt_of_le h.allocated he.statesNext_le
  unsigned := by
    rintro ⟨lockTime, hmem⟩
    rcases he.trace_of rfl hmem with hmem | hnew
    · exact h.unsigned ⟨lockTime, hmem⟩
    · cases hnew with
      | refundSigned c _ tx hsign => exact h.notWaiting hsign.state_eq
  notWaiting := by
    rcases he.changes s with hsame | ⟨st, hst, hch⟩
    · rw [core_field hsame (·.state) fun _ => rfl]
      exact h.notWaiting
    · rw [hst]
      cases hch with
      | restored _ _ hnew | started _ hnew => exact absurd hnew (Nat.ne_of_lt h.allocated)
      | deducted | untied | accepted | unlockSet | keysSet | contractGiven | totalSet
      | stored => exact h.notWaiting
      | settled | closedEarly | refundSigned | contractBroadcast => simp
      | contractDone _ success | settlementDone _ success => cases success <;> simp

theorem Later.disowned {v : World} (h : Later p v w) {s : StateRef} (hs : Disowned v s) :
    Disowned w s := by
  induction h with
  | refl => exact hs
  | tail _ he ih =>
    obtain ⟨_, _, he⟩ := he
    exact he.disowned ih

/-- The first `n` records have states that were never negotiated. -/
structure Loaded (n : Nat) (w : World) : Prop where
  present : n ≤ w.channels.next
  signed : ∀ s, Signed w s → s < w.states.next
  states : ∀ r s, r < n → (w.channels.read r).state = some s → Disowned w s

theorem Effect.loaded {n : Nat} (he : Effect p start a w w') (h : Loaded n w) (hat : Allocated w) :
    Loaded n w' where
  present := by
    by_contra hlt
    have hlast := lt_of_lt_of_le (Nat.lt_of_not_le hlt) h.present
    exact Nat.lt_irrefl _ (he.channelTerms hlast).1
  signed s hs := by
    obtain ⟨lockTime, hmem⟩ := hs
    refine lt_of_lt_of_le ?_ he.statesNext_le
    rcases he.trace_of rfl hmem with hold | hnew
    · exact h.signed s ⟨lockTime, hold⟩
    · cases hnew with
      | refundSigned c _ tx hsign => exact hat.server c s hsign.serverState
  states r s hr hs := by
    rcases he.recordState_of (lt_of_lt_of_le hr h.present) hs with hold | ⟨rfl, hready, hnext, htrace⟩
    · exact he.disowned (h.states r s hr hold)
    · refine ⟨hnext ▸ Nat.lt_succ_self _, ?_, by rw [hready]; simp⟩
      rintro ⟨lockTime, hmem⟩
      exact absurd (h.signed _ ⟨lockTime, htrace ▸ hmem⟩) (Nat.lt_irrefl _)

theorem Later.loaded {n : Nat} {v : World} (h : Later p v w) (hv : Loaded n v) (hat : Allocated v) :
    Loaded n w ∧ Allocated w := by
  induction h with
  | refl => exact ⟨hv, hat⟩
  | tail _ he ih =>
    obtain ⟨_, _, he⟩ := he
    exact ⟨he.loaded ih.1 ih.2, he.allocated ih.2⟩

/-! ## Loading -/

/-- What loading leaves alone, and what it notes. -/
structure Loading (w t : World) : Prop where
  states : t.states = w.states
  broadcasts : t.broadcasts = w.broadcasts
  servers : t.servers = w.servers
  trace : ∀ e ∈ t.trace, e ∈ w.trace ∨ ∃ h r, e = .stored h r
  records : (∀ r, (w.channels.read r).state = none) → ∀ r, (t.channels.read r).state = none

instance Loading.isPreorder : IsPreorder World Loading where
  refl _ := ⟨rfl, rfl, rfl, fun _ => .inl, id⟩
  trans _ _ _ h h' := {
    states := h'.states.trans h.states
    broadcasts := h'.broadcasts.trans h.broadcasts
    servers := h'.servers.trans h.servers
    trace := fun e he => (h'.trace e he).elim (h.trace e) .inr
    records := h'.records ∘ h.records }

theorem putChannel_loading (r : ChannelRef) : Within Loading (putChannel p env r) := by
  have hset {g : World → World} (hg : ∀ w, (g w).states = w.states ∧
      (g w).broadcasts = w.broadcasts ∧ (g w).servers = w.servers ∧ (g w).trace = w.trace ∧
      (g w).channels = w.channels) : Within Loading (modify g : Method Unit) := by
    refine .modify fun w => ?_
    obtain ⟨hst, hb, hsv, ht, hch⟩ := hg w
    exact ⟨hst, hb, hsv, fun e he => .inl (ht ▸ he), fun h r => by rw [hch]; exact h r⟩
  have hsame (w : World) : w.states = w.states ∧ w.broadcasts = w.broadcasts ∧
      w.servers = w.servers ∧ w.trace = w.trace ∧ w.channels = w.channels := ⟨rfl, rfl, rfl, rfl, rfl⟩
  refine .skip (keeps_readChannel r) fun ch => .bind (.tryCatch ?_ fun e => ?_) fun _ => ?_
  · refine .skip (keeps_getChannel _) fun old => .bind (hset hsame) fun _ => ?_
    refine .bind (.modify fun w => ⟨rfl, rfl, rfl, fun e he => ?_, id⟩) fun _ => ?_
    · exact (List.mem_cons.mp he).elim (fun heq => .inr ⟨_, _, heq⟩) .inl
    · refine .skip (keeps_checkArgument _) fun _ => .ite (fun _ => .throw _) fun _ => ?_
      exact .read fun w => .ite (fun _ => .throw _) fun _ => hset hsame
  · exact .ite (fun _ => .pure _) fun _ => .throw _
  · exact .bind (hset hsame) fun _ => .of_same keeps_saveNow

theorem deserializeWalletExtension_loading (saved : List StoredServerPaymentChannel) :
    Within Loading (deserializeWalletExtension p env saved) := by
  refine .forM saved fun x => .skip (keeps_orThrow _) fun contract => ?_
  refine .skip (keeps_orThrow _) fun output => .skip (keeps_orThrow _) fun best => ?_
  intro w
  rw [wp_bind, wp_get, wp_bind, wp_set]
  refine (putChannel_loading _).after ⟨rfl, rfl, rfl, fun _ => .inl, fun h r => ?_⟩
  by_cases hr : r = w.channels.next
  · rw [hr, Heap.read_alloc_new]
  · rw [Heap.read_alloc_ne _ _ hr]
    exact h r

theorem World.restarted_loading (autosave : Bool) (saved : List StoredServerPaymentChannel) :
    Loading (World.initial autosave) (World.restarted p env autosave saved) :=
  (deserializeWalletExtension_loading saved).finalState _

section Loading

variable {autosave : Bool} (h : Loading (World.initial autosave) w)
include h

theorem Loading.no_broadcast (b : Nat) : ¬ b < w.broadcasts.next := by
  rw [h.broadcasts]
  exact Nat.not_lt_zero b

theorem Loading.allocated : Allocated w where
  tied s r hs := by rw [h.states] at hs; cases hs
  state r s hs := by rw [h.records (fun _ => rfl) r] at hs; cases hs
  server c s hs := by rw [h.servers] at hs; cases hs

theorem Loading.broadcastsFit : Broadcasts w where
  allocated b _ hb := absurd hb.1 (h.no_broadcast b)
  bound b _ hb := absurd hb.1 (h.no_broadcast b)
  contract b _ hb := absurd hb.1 (h.no_broadcast b)
  pending b _ hb := absurd hb.1 (h.no_broadcast b)
  unique b _ _ hb := absurd hb.1 (h.no_broadcast b)
  settled b _ hb := absurd hb.1 (h.no_broadcast b)
  completed b _ _ hb := absurd hb.1 (h.no_broadcast b)
  settledOnce b _ _ hb := absurd hb.1 (h.no_broadcast b)
  blank _ _ := by rw [h.states]; rfl

theorem Loading.not_mem {e : Event} (he : ∀ x r, e ≠ .stored x r) : e ∉ w.trace := by
  intro hmem
  rcases h.trace e hmem with hmem | ⟨x, r, heq⟩
  · cases hmem
  · exact he x r heq

theorem Loading.keyed : Keyed w where
  keys s hs := by
    rw [h.states] at hs
    exact absurd hs (by simp [World.initial, Heap.empty, Heap.read])
  offered b _ hb := absurd hb.1 (h.no_broadcast b)
  waiting s hs := by rw [h.states] at hs; cases hs
  settled b _ hb := absurd hb.1 (h.no_broadcast b)

theorem Loading.loaded : Loaded w.channels.next w where
  present := le_rfl
  signed s hs := by
    obtain ⟨lockTime, hmem⟩ := hs
    exact absurd hmem (h.not_mem fun _ _ => Event.noConfusion)
  states r s _ hs := by rw [h.records (fun _ => rfl) r] at hs; cases hs

end Loading

/-! ## Runs -/

/-- A run goes through effects only. -/
theorem Reaches.later {ok : World → Env × Input → Prop} {v : World} (hat : Allocated v)
    (h : Reaches (World.next p) ok v w) : Later p v w ∧ Allocated w := by
  induction h with
  | start => exact ⟨.refl, hat⟩
  | @step w i _ _ ih =>
    have hpath : Path p w (i.1, .input i.2) w (w.next p i) :=
      (perform_follows i.2 ih.2).finalState
    have hlater : Later p w (w.next p i) :=
      Relation.ReflTransGen.mono (fun _ _ he => ⟨w, _, he⟩) _ _ hpath
    exact ⟨ih.1.trans hlater, hpath.allocated ih.2⟩

/-- What holds of the worlds a run comes by after a restart. -/
structure SinceRestart (w : World) : Prop where
  allocated : Allocated w
  broadcasts : Broadcasts w
  keyed : Keyed w
  accepted : ∀ s h v, .accepted s h v ∈ w.trace → Signed w s

theorem Effect.sinceRestart (he : Effect p start a w w') (hstart : SinceRestart start)
    (h : SinceRestart w) : SinceRestart w' where
  allocated := he.allocated h.allocated
  broadcasts := he.broadcasts h.broadcasts hstart.broadcasts
  keyed := he.keyed h.keyed hstart.keyed h.broadcasts
  accepted s hash v hmem := by
    rcases he.trace_of rfl hmem with hold | hnew
    · exact (h.accepted s hash v hold).effect he
    · cases hnew with
      | accepted _ pay =>
        have hkey : (w.states.read s).clientKey ≠ none := by
          rw [pay.clientKey_eq]
          exact Option.some_ne_none _
        exact (h.keyed.signed pay.ready (.inl hkey)).effect he

section Runs

variable {ok : World → Env × Input → Prop} {autosave : Bool}
  {saved : List StoredServerPaymentChannel}

theorem SinceRestart.restarted : SinceRestart (World.restarted p env autosave saved) :=
  have h := World.restarted_loading autosave saved
  ⟨h.allocated, h.broadcastsFit, h.keyed, fun _ _ _ hmem =>
    absurd hmem (h.not_mem fun _ _ => Event.noConfusion)⟩

/-- The states that the saved channels had at any point are disowned. -/
theorem Later.disowned_of_saved {v : World} {r : ChannelRef} {s : StateRef}
    (hv : Later p (World.restarted p env autosave saved) v) (hw : Later p v w)
    (hr : r < (World.restarted p env autosave saved).channels.next)
    (hs : (v.channels.read r).state = some s) : Disowned w s :=
  have h := World.restarted_loading autosave saved
  hw.disowned ((hv.loaded h.loaded h.allocated).1.states r s hr hs)

variable (h : Reaches (World.next p) ok (World.restarted p env autosave saved) w)
include h

theorem Reaches.sinceRestart : SinceRestart w := by
  induction h with
  | start => exact .restarted
  | @step w i _ _ ih =>
    have hpath : Path p w (i.1, .input i.2) w (w.next p i) :=
      (perform_follows i.2 ih.allocated).finalState
    -- along the path of one input, by induction on the path
    suffices ∀ t, Path p w (i.1, .input i.2) w t → SinceRestart t from this _ hpath
    intro t hpath
    induction hpath with
    | refl => exact ih
    | tail _ he iht => exact he.sinceRestart ih iht

/-- Every state that is settled has a script. -/
theorem Reaches.scripted :
    w.Unscripted ∧ ∀ b s, IsSettlement w b s → (w.states.read s).redeemScript ≠ none := by
  induction h with
  | start =>
    have h := @World.restarted_loading p env autosave saved
    refine ⟨fun s _ => ?_, fun b s hs => absurd hs.1 (h.no_broadcast b)⟩
    rw [h.states]
    rfl
  | @step w i _ _ ih =>
    have hstep : Redeeming w (w.next p i) := (Reporting.perform i.2).finalState w
    refine ⟨hstep.unscripted ih.1, fun b s hs => ?_⟩
    rcases hstep.settled ih.1 b s hs with hold | hscript
    · exact hstep.scripts ih.1 s (ih.2 b s hold)
    · exact hscript

end Runs

/-- Whatever reaches the server after a restart, it accepts payments and
broadcasts settlements only for states whose refund was signed since. A
state that a saved channel has at any point of the run is not among them
then or later, also once `closeChannel` has taken it from the channel. -/
theorem nothing_paid_or_settled_of_saved {ok : World → Env × Input → Prop} {autosave : Bool}
    {saved : List StoredServerPaymentChannel}
    (h : Reaches (World.next p) ok (World.restarted p env autosave saved) w) :
    (∀ s hash v, .accepted s hash v ∈ w.trace → ∃ lockTime, .refundSigned s lockTime ∈ w.trace) ∧
      (∀ b s, IsSettlement w b s → ∃ lockTime, .refundSigned s lockTime ∈ w.trace) ∧
      Later p (World.restarted p env autosave saved) w ∧
      ∀ v r s, Later p (World.restarted p env autosave saved) v → Later p v w →
        r < (World.restarted p env autosave saved).channels.next →
        (v.channels.read r).state = some s → ∀ lockTime, .refundSigned s lockTime ∉ w.trace := by
  have hw := Reaches.sinceRestart h
  have hlater := (Reaches.later (World.restarted_loading autosave saved).allocated h).1
  refine ⟨hw.accepted, fun b s hs => ?_, hlater, fun v r s hv hvw hr hs lockTime hmem => ?_⟩
  · rcases hw.keyed.settled b s hs with hsigned | ⟨hnone, -⟩
    · exact hsigned
    · exact absurd hnone ((Reaches.scripted h).2 b s hs)
  · exact (Later.disowned_of_saved hv hvw hr hs).unsigned ⟨lockTime, hmem⟩

/-- Two contracts of 100000 satoshis as they are saved, with 10000 paid to
the first. -/
def Client.saved : List StoredServerPaymentChannel :=
  [{  bestValueToMe := 10000
      refundTransactionUnlockTimeSecs := 25500000
      contractTransaction := [3, 1, 100]
      clientOutput := [0]
      myKey := Reference.serverKey
      bestValueSignature := some (Client.payment 1 90000).signature },
    { bestValueToMe := 0
      refundTransactionUnlockTimeSecs := 25500000
      contractTransaction := [3, 2, 100]
      clientOutput := [0]
      myKey := Reference.serverKey
      bestValueSignature := none }]

/-- After a restart both channels are resumed and paid 10000 more, and then
closed automatically. They were opened and are gone, the second without
its state, and nothing was accepted or settled. -/
theorem nothing_paid_or_settled_of_saved_10000 :
    let w₀ := World.restarted Client.platform Client.env true Client.saved
    let resumed : List Input := Client.connect 0 ++ [.message 0 (Client.resume 1)] ++
      Client.connect 1 ++ [.message 1 (Client.resume 2)]
    let closed : List Input := [.message 0 (Client.updatePayment 1 80000),
      .message 1 (Client.updatePayment 2 90000), .autoClose 1, .autoClose 0]
    let v := w₀.run Client.platform (resumed.map (Client.env, ·))
    let w := v.run Client.platform (closed.map (Client.env, ·))
    .sent 0 .channelOpen ∈ w.trace ∧ .sent 1 .channelOpen ∈ w.trace ∧
      .closeCalled 0 ∈ w.trace ∧ .closeCalled 1 ∈ w.trace ∧ w.mapChannels.keys = [] ∧
      (v.channels.read 1).state = some 1 ∧ (w.channels.read 1).state = none ∧
      ∀ s < 2, (∀ hash v, .accepted s hash v ∉ w.trace) ∧ ∀ b, ¬ IsSettlement w b s := by
  intro w₀ resumed closed v w
  have hv : Reaches (World.next Client.platform) (fun _ _ => True) w₀ v := Reaches.foldl _ .start
  have hvw : Reaches (World.next Client.platform) (fun _ _ => True) v w := Reaches.foldl _ .start
  have hw : Reaches (World.next Client.platform) (fun _ _ => True) w₀ w := Reaches.foldl _ hv
  obtain ⟨haccepted, hsettled, -, hsaved⟩ := nothing_paid_or_settled_of_saved hw
  obtain ⟨hlater, hat⟩ := Reaches.later (World.restarted_loading true Client.saved).allocated hv
  have hstates : ∀ s < 2, s < w₀.channels.next ∧ (v.channels.read s).state = some s := by
    decide +kernel
  refine ⟨by decide +kernel, by decide +kernel, by decide +kernel, by decide +kernel,
    by decide +kernel, (hstates 1 (by decide)).2, by decide +kernel, fun s hs => ?_⟩
  obtain ⟨hr, hstate⟩ := hstates s hs
  have hnone := hsaved v s s hlater (Reaches.later hat hvw).1 hr hstate
  refine ⟨fun hash x hmem => ?_, fun b hb => ?_⟩
  · obtain ⟨lockTime, hsigned⟩ := haccepted s hash x hmem
    exact hnone lockTime hsigned
  · obtain ⟨lockTime, hsigned⟩ := hsettled b s hb
    exact hnone lockTime hsigned

end BitMesh.Channels
