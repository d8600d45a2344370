import BitMesh.Bitcoin.Ideal
import BitMesh.Channels.StoredChannels

/-!
# Saving and loading

What `serializeWalletExtension` writes, `deserializeWalletExtension` reads
back, if every record passes the checks of the first and unlocks late
enough for the timer of the second.
-/

namespace BitMesh.Channels

open BitMesh.Bitcoin BitMesh.Lib

variable {p : Platform} {env : Env} {w t u : World}

/-! ## One record -/

/-- A record that can be saved, and that is closed automatically at a date
after the epoch. -/
structure Sound (p : Platform) (ch : StoredServerChannel) : Prop where
  nonneg : 0 ≤ ch.bestValueToMe.value
  below : ch.bestValueToMe.value < Coin.maxMoney.value
  unlock : hardMinTimeWindow < ch.refundTransactionUnlockTimeSecs
  unlock_lt : ch.refundTransactionUnlockTimeSecs < 2 ^ 32
  key : ∃ priv, ch.myKey = ECKey.fromPrivate p.toBitcoinj priv

/-- The contract of a record and the client's output came in messages. -/
structure Provided (p : Platform) (ch : StoredServerChannel) (output : TransactionOutput) :
    Prop where
  contract : ∃ bytes, p.parseTransaction bytes = .ok ch.contract
  output : Received p.toBitcoinj output

/-- `saved` is read as the record `ch` with the client's output `output`. -/
structure Saves (p : Platform) (ch : StoredServerChannel) (output : TransactionOutput)
    (saved : StoredServerPaymentChannel) : Prop where
  contract : p.parseTransaction saved.contractTransaction = .ok ch.contract
  output : p.parseOutput saved.clientOutput = .ok output
  best : Coin.valueOf saved.bestValueToMe = .ok ch.bestValueToMe
  unlock : saved.refundTransactionUnlockTimeSecs = ch.refundTransactionUnlockTimeSecs
  key : ECKey.fromPrivate p.toBitcoinj saved.myKey = ch.myKey
  signature : saved.bestValueSignature = ch.bestValueSignature

theorem Sound.serialize (hp : Lossless p.toBitcoinj) {ch : StoredServerChannel}
    {output : TransactionOutput} (h : Sound p ch) (hprovided : Provided p ch output) :
    ∃ saved, serializeChannel p ch output = .ok saved ∧ Saves p ch output saved := by
  obtain ⟨priv, hkey⟩ := h.key
  have hunlock : 0 < ch.refundTransactionUnlockTimeSecs := lt_trans (by decide) h.unlock
  have hbelow : ¬ maxSatoshis ≤ ch.bestValueToMe.value := Int.not_le.mpr h.below
  have hpriv : ch.myKey.priv = some priv := by rw [hkey]; rfl
  refine ⟨_, by simp [serializeChannel, h.nonneg, hbelow, hunlock, hpriv]; rfl, ?_⟩
  obtain ⟨bytes, hbytes⟩ := hprovided.contract
  exact ⟨hp.transaction bytes _ hbytes, hp.output _ hprovided.output, Coin.valueOf_value _, rfl, hkey.symm, rfl⟩

/-- Every record of the map can be saved. -/
def Savable (p : Platform) (w : World) : Prop :=
  ∀ h r, w.mapChannels.lookup h = some r → Sound p (w.channels.read r) ∧
    Provided p (w.channels.read r) (w.outputs.read (w.channels.read r).clientOutput)

/-- The records of `w` and what they are saved as. -/
def SavesAll (p : Platform) (w : World) (entries : List (Sigma fun _ : Sha256Hash => ChannelRef))
    (saved : List StoredServerPaymentChannel) : Prop :=
  List.Forall₂ (fun e => Saves p (w.channels.read e.2)
    (w.outputs.read (w.channels.read e.2).clientOutput)) entries saved

theorem Savable.serialize (hp : Lossless p.toBitcoinj) (h : Savable p w) :
    ∃ saved, serializeWalletExtension p w = .ok saved ∧
      SavesAll p w w.mapChannels.entries saved := by
  refine exists_mapM_eq_ok fun e he => ?_
  obtain ⟨hsound, hprovided⟩ := h e.1 e.2 (AList.mem_lookup_iff.mpr he)
  exact hsound.serialize hp hprovided

theorem Savable.wp_saveNow (hp : Lossless p.toBitcoinj) (h : Savable p w) {Q : Unit → World → Prop}
    {E : JavaException → World → Prop} : wp (saveNow p) w Q E ↔ Q () w := by
  obtain ⟨saved, hsaved, -⟩ := h.serialize hp
  simp only [saveNow, wp_bind, wp_get, wp_ite, wp_orThrow_ok hsaved, wp_pure]
  by_cases hauto : (w.autosave && w.extensionInstalled) = true <;> simp [hauto]

/-! ## Loading -/

/-- The clock of the system is less than a second behind the one that
tests can set. -/
def Env.OnTime (env : Env) : Prop := -1000 < env.clockOffset ∧ env.clockOffset < 2 ^ 62

theorem autocloseTime_nonneg (henv : env.OnTime) {unlock : Int} (h : hardMinTimeWindow < unlock)
    (hlt : unlock < 2 ^ 32) : 0 ≤ autocloseTime unlock env.clockOffset := by
  obtain ⟨hlow, hhigh⟩ := henv
  have hwindow : hardMinTimeWindow = 7200 := rfl
  rw [hwindow] at h
  rw [autocloseTime, hwindow, addLong_eq (a := unlock) (by omega) (by omega),
    mulLong_eq (by omega) (by omega), addLong_eq (by omega) (by omega)]
  omega

/-- The world `t` with the record `ch` and its output loaded. -/
structure Loads (p : Platform) (ch : StoredServerChannel) (output : TransactionOutput)
    (t u : World) : Prop where
  outputs : u.outputs = (t.outputs.alloc output).2
  channels : u.channels = (t.channels.alloc
    { ch with clientOutput := t.outputs.next, state := none, connectedHandler := none }).2
  mapChannels : u.mapChannels = t.mapChannels.insert (p.getHash ch.contract) t.channels.next

/-- The records of the map and their outputs exist. -/
def Present (w : World) : Prop :=
  ∀ h r, w.mapChannels.lookup h = some r →
    r < w.channels.next ∧ (w.channels.read r).clientOutput < w.outputs.next

section Loads

variable {ch : StoredServerChannel} {output : TransactionOutput} (h : Loads p ch output t u)
include h

theorem Loads.savable (hsound : Sound p ch) (hprovided : Provided p ch output) (hkept : Present t)
    (ht : Savable p t) : Savable p u := by
  intro x r hr
  rw [h.mapChannels] at hr
  by_cases heq : x = p.getHash ch.contract
  · rw [heq, AList.lookup_insert] at hr
    obtain rfl := Option.some.inj hr
    rw [h.channels, h.outputs, Heap.read_alloc_new, Heap.read_alloc_new]
    exact ⟨{ hsound with }, { hprovided with }⟩
  · rw [AList.lookup_insert_ne heq] at hr
    obtain ⟨hlt, houtput⟩ := hkept x r hr
    rw [h.channels, h.outputs, Heap.read_alloc_old _ _ hlt, Heap.read_alloc_old _ _ houtput]
    exact ht x r hr

theorem Loads.kept (hkept : Present t) : Present u := by
  intro x r hr
  rw [h.mapChannels] at hr
  rw [h.channels, h.outputs]
  by_cases heq : x = p.getHash ch.contract
  · rw [heq, AList.lookup_insert] at hr
    obtain rfl := Option.some.inj hr
    rw [Heap.read_alloc_new]
    exact ⟨Nat.lt_succ_self _, Nat.lt_succ_self _⟩
  · rw [AList.lookup_insert_ne heq] at hr
    obtain ⟨hlt, houtput⟩ := hkept x r hr
    rw [Heap.read_alloc_old _ _ hlt]
    exact ⟨Nat.lt_succ_of_lt hlt, Nat.lt_succ_of_lt houtput⟩

end Loads

/-- The record was made; it is put into the map and everything is saved. -/
theorem putChannel_loads (hp : Lossless p.toBitcoinj) (henv : env.OnTime)
    {ch : StoredServerChannel} {output : TransactionOutput} (hsound : Sound p ch)
    (hprovided : Provided p ch output) (hkept : Present t) (ht : Savable p t)
    (hnew : t.mapChannels.lookup (p.getHash ch.contract) = none) :
    wp (putChannel p env t.channels.next)
      { t with
        outputs := (t.outputs.alloc output).2
        channels := (t.channels.alloc
          { ch with clientOutput := t.outputs.next, state := none, connectedHandler := none }).2 }
      (fun _ u => Loads p ch output t u) (fun _ _ => False) := by
  have hdate := autocloseTime_nonneg henv hsound.unlock hsound.unlock_lt
  -- every record of the map can be saved
  have hsave : ∀ x, Loads p ch output t x →
      wp (updatedChannel p) x (fun _ u => Loads p ch output t u) (fun _ _ => False) := by
    intro x hx
    have hx : Loads p ch output t { x with extensionInstalled := true } :=
      ⟨hx.outputs, hx.channels, hx.mapChannels⟩
    simp only [updatedChannel, wp_bind, wp_modify]
    exact ((hx.savable hsound hprovided hkept ht).wp_saveNow hp).mpr hx
  simp only [putChannel, getChannel, schedule, wp_bind, wp_readChannel, Heap.read_alloc_new,
    wp_tryCatch, wp_get, wp_pure, wp_modify, wp_note, wp_checkArgument, wp_ite, wp_throw]
  refine ⟨fun _ => ⟨fun hneg => absurd hneg (by omega), fun _ => ⟨fun _ => ?_, fun _ => ?_⟩⟩,
    fun hsome => by rw [Heap.read_alloc_new, hnew] at hsome; cases hsome⟩
  -- a timer that was cancelled is ignored
  · exact ⟨fun _ => hsave _ ⟨rfl, rfl, rfl⟩, fun hne => absurd trivial hne⟩
  · exact hsave _ ⟨rfl, rfl, rfl⟩

theorem deserializeChannel_loads (hp : Lossless p.toBitcoinj) (henv : env.OnTime)
    {ch : StoredServerChannel} {output : TransactionOutput} {saved : StoredServerPaymentChannel}
    (hsound : Sound p ch) (hprovided : Provided p ch output) (hs : Saves p ch output saved)
    (hkept : Present t) (ht : Savable p t)
    (hnew : t.mapChannels.lookup (p.getHash ch.contract) = none) :
    wp (deserializeChannel p env saved) t (fun _ u => Loads p ch output t u)
      (fun _ _ => False) := by
  simp only [deserializeChannel, wp_bind, wp_orThrow_ok hs.contract, wp_orThrow_ok hs.output,
    wp_orThrow_ok hs.best, wp_get, wp_set, hs.unlock, hs.key, hs.signature]
  exact putChannel_loads hp henv hsound hprovided hkept ht hnew

/-! ## All records -/

/-- The record `r'` of `t` says the same about its channel as the record
`r` of `w`. -/
structure Copies (w : World) (r : ChannelRef) (t : World) (r' : ChannelRef) : Prop where
  contract : (t.channels.read r').contract = (w.channels.read r).contract
  clientOutput : t.outputs.read (t.channels.read r').clientOutput =
    w.outputs.read (w.channels.read r).clientOutput
  unlock : (t.channels.read r').refundTransactionUnlockTimeSecs =
    (w.channels.read r).refundTransactionUnlockTimeSecs
  myKey : (t.channels.read r').myKey = (w.channels.read r).myKey
  best : (t.channels.read r').bestValueToMe = (w.channels.read r).bestValueToMe
  signature : (t.channels.read r').bestValueSignature = (w.channels.read r).bestValueSignature

/-- Loading `entries` of `w` leads from `t` to `u`. -/
structure LoadsAll (w : World) (entries : List (Sigma fun _ : Sha256Hash => ChannelRef))
    (t u : World) : Prop where
  copies : ∀ e ∈ entries, ∃ r, u.mapChannels.lookup e.1 = some r ∧ Copies w e.2 u r
  lookup : ∀ h, (∀ e ∈ entries, h ≠ e.1) → u.mapChannels.lookup h = t.mapChannels.lookup h
  outputs : ∀ o, o < t.outputs.next → u.outputs.read o = t.outputs.read o
  channels : ∀ r, r < t.channels.next → u.channels.read r = t.channels.read r

theorem Loads.copies {w : World} {r : ChannelRef} {v : World}
    (h : Loads p (w.channels.read r) (w.outputs.read (w.channels.read r).clientOutput) t u)
    (houtput : v.outputs.read t.outputs.next = u.outputs.read t.outputs.next)
    (hchannel : v.channels.read t.channels.next = u.channels.read t.channels.next) :
    Copies w r v t.channels.next := by
  rw [h.channels, Heap.read_alloc_new] at hchannel
  rw [h.outputs, Heap.read_alloc_new] at houtput
  exact ⟨by rw [hchannel], by rw [hchannel, houtput], by rw [hchannel], by rw [hchannel],
    by rw [hchannel], by rw [hchannel]⟩

theorem deserializeWalletExtension_loads (hp : Lossless p.toBitcoinj) (henv : env.OnTime)
    {entries : List (Sigma fun _ : Sha256Hash => ChannelRef)}
    {saved : List StoredServerPaymentChannel} (hs : SavesAll p w entries saved)
    (hsound : ∀ e ∈ entries, Sound p (w.channels.read e.2) ∧
      Provided p (w.channels.read e.2) (w.outputs.read (w.channels.read e.2).clientOutput))
    (hhash : ∀ e ∈ entries, p.getHash (w.channels.read e.2).contract = e.1)
    (hnodup : entries.NodupKeys) (hkept : Present t) (ht : Savable p t)
    (hnew : ∀ e ∈ entries, t.mapChannels.lookup e.1 = none) :
    wp (deserializeWalletExtension p env saved) t (fun _ u => LoadsAll w entries t u)
      (fun _ _ => False) := by
  induction hs generalizing t with
  | nil =>
    show LoadsAll w [] t t
    exact ⟨fun _ h => (nomatch h), fun _ _ => rfl, fun _ _ => rfl, fun _ _ => rfl⟩
  | @cons e x entries saved he hs ih =>
    obtain ⟨hfresh, hnodup⟩ := List.nodupKeys_cons.mp hnodup
    have hhead := hhash e (List.mem_cons_self ..)
    show wp (do deserializeChannel p env x; deserializeWalletExtension p env saved) t _ _
    rw [wp_bind]
    obtain ⟨hsound', hprovided⟩ := hsound e (List.mem_cons_self ..)
    refine wp.mono (deserializeChannel_loads hp henv hsound' hprovided he hkept ht
      (hhead ▸ hnew e (List.mem_cons_self ..))) (fun _ u hu => ?_) fun _ _ hf => hf
    have hmap := hu.mapChannels
    rw [hhead] at hmap
    have hne : ∀ e' ∈ entries, e'.1 ≠ e.1 := fun e' he' heq =>
      hfresh (heq ▸ List.mem_keys_of_mem he')
    refine wp.mono (ih (fun e' he' => hsound e' (List.mem_cons_of_mem _ he'))
      (fun e' he' => hhash e' (List.mem_cons_of_mem _ he')) hnodup (hu.kept hkept)
      (hu.savable hsound' hprovided hkept ht) fun e' he' => ?_)
      (fun _ v hv => ?_) fun _ _ hf => hf
    · rw [hmap, AList.lookup_insert_ne (hne e' he')]
      exact hnew e' (List.mem_cons_of_mem _ he')
    · refine ⟨fun e' he' => ?_, fun h hh => ?_, fun o ho => ?_, fun r hr => ?_⟩
      · rcases List.mem_cons.mp he' with rfl | he'
        · refine ⟨t.channels.next, ?_, hu.copies (hv.outputs _ ?_) (hv.channels _ ?_)⟩
          · rw [hv.lookup e'.1 fun x hx heq => hne x hx heq.symm, hmap, AList.lookup_insert]
          · rw [hu.outputs]
            exact Nat.lt_succ_self _
          · rw [hu.channels]
            exact Nat.lt_succ_self _
        · exact hv.copies e' he'
      · rw [hv.lookup h fun x hx => hh x (List.mem_cons_of_mem _ hx), hmap,
          AList.lookup_insert_ne (hh e (List.mem_cons_self ..))]
      · rw [hv.outputs o (by rw [hu.outputs]; exact Nat.lt_succ_of_lt ho), hu.outputs,
          Heap.read_alloc_old _ _ ho]
      · rw [hv.channels r (by rw [hu.channels]; exact Nat.lt_succ_of_lt hr), hu.channels,
          Heap.read_alloc_old _ _ hr]

/-- `t` stores the same channels as `w`. -/
structure SameChannels (w t : World) : Prop where
  stored : ∀ h r, w.mapChannels.lookup h = some r →
    ∃ r', t.mapChannels.lookup h = some r' ∧ Copies w r t r'
  only : ∀ h r', t.mapChannels.lookup h = some r' → ∃ r, w.mapChannels.lookup h = some r

/-- What is saved is loaded into a wallet without channels. -/
theorem Savable.roundTrip (hp : Lossless p.toBitcoinj) (h : Savable p w)
    (hhash : ∀ h r, w.mapChannels.lookup h = some r → p.getHash (w.channels.read r).contract = h) :
    ∃ saved, serializeWalletExtension p w = .ok saved ∧ ∀ env : Env, env.OnTime → ∀ t : World,
      t.mapChannels = ∅ → wp (deserializeWalletExtension p env saved) t
        (fun _ u => SameChannels w u) (fun _ _ => False) := by
  obtain ⟨saved, hsaved, hall⟩ := h.serialize hp
  refine ⟨saved, hsaved, fun env henv t hempty => ?_⟩
  have hnone : ∀ x, t.mapChannels.lookup x = none := fun x => by
    rw [hempty]
    exact AList.lookup_empty x
  refine wp.mono (deserializeWalletExtension_loads hp henv hall
    (fun e he => h e.1 e.2 (AList.mem_lookup_iff.mpr he))
    (fun e he => hhash e.1 e.2 (AList.mem_lookup_iff.mpr he)) w.mapChannels.nodupKeys
    (fun x r hr => by rw [hnone x] at hr; cases hr)
    (fun x r hr => by rw [hnone x] at hr; cases hr) fun e _ => hnone e.1)
    (fun _ u hu => ?_) fun _ _ hf => hf
  refine ⟨fun x r hr => hu.copies ⟨x, r⟩ (AList.mem_lookup_iff.mp hr), fun x r' hr' => ?_⟩
  by_contra hnot
  rw [hu.lookup x fun e he heq => hnot ⟨e.2, heq ▸ AList.mem_lookup_iff.mpr he⟩, hnone x] at hr'
  cases hr'

end BitMesh.Channels
