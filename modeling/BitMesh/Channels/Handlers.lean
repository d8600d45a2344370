import BitMesh.Channels.Connections
import BitMesh.Channels.RecordedPayments

/-!
# The connection that drives a channel

The `connectedHandler` of a stored channel is the connection that last
opened or resumed it, as long as a channel is only resumed when nobody
handles it and a connection that closes clears no handler but its own.
The code sees to neither: a resuming connection takes the channel over
from one that is merely asked to close, and when that one does close, it
clears the handler whoever that is by then.
-/

namespace BitMesh.Channels

open BitMesh.Bitcoin BitMesh.Lib

variable {p : Platform} {start : World} {a : Env × Action} {w w' : World}

/-! ## Drivers, by the history -/

/-- What an event makes of the driver of `r`. -/
def Event.drive (r : ChannelRef) (e : Event) (driver : Option ConnRef) : Option ConnRef :=
  match e with
  | .driven c r' => if r' = r then some c else driver
  | .connectionClosed c => if driver = some c then none else driver
  | _ => driver

/-- The connection that last opened or resumed the channel `r`, unless its
`connectionClosed` has run since. -/
def World.driver (w : World) (r : ChannelRef) : Option ConnRef :=
  w.trace.foldr (Event.drive r) none

theorem World.driver_eq (w : World) (r : ChannelRef) :
    w.driver r = w.history.foldr (Event.drive r) none := by
  rw [driver, history, List.foldr_filter]
  congr 1
  funext e driver
  cases e <;> simp [Event.neutral, Event.drive]

theorem World.driver_of_history (h : w'.history = w.history) (r : ChannelRef) :
    w'.driver r = w.driver r := by
  rw [driver_eq, driver_eq, h]

theorem World.driver_disconnect (w : World) (c : ConnRef) (r : ChannelRef) :
    (w.disconnect p c).driver r = if w.driver r = some c then none else w.driver r := rfl

theorem World.handler_disconnect (w : World) (c : ConnRef) (r : ChannelRef) :
    ((w.disconnect p c).channels.read r).connectedHandler =
      if w.handled p c = some r then none else (w.channels.read r).connectedHandler := by
  unfold World.disconnect
  dsimp only
  split
  · next hnone => rw [if_neg (by simp [hnone])]
  · next r' hsome =>
    rw [hsome]
    by_cases heq : r = r'
    · subst heq; simp
    · rw [Heap.read_modify_ne _ _ heq, if_neg fun h => heq (Option.some.inj h).symm]

/-- What an effect does to the handler and the driver of a record. -/
inductive Driver (p : Platform) (start : World) (a : Env × Action) (w w' : World)
    (r : ChannelRef) : Prop where
  | same (hh : (w'.channels.read r).connectedHandler = (w.channels.read r).connectedHandler)
      (hd : w'.driver r = w.driver r)
  | closed (c : ConnRef) (ha : a.2 = .input (.connectionClosed c)) (hw : w = start)
      (hw' : w' = w.disconnect p c)
  | taken (c : ConnRef) (h : Sha256Hash) (hres : Resuming start a c h r)
      (hch : w.channels = start.channels)
      (hh : (w'.channels.read r).connectedHandler = some c) (hd : w'.driver r = some c)

theorem Closing.driver {env : Env} (h : Closing p env w w') (r : ChannelRef) :
    (w'.channels.read r).connectedHandler = (w.channels.read r).connectedHandler ∧
      w'.driver r = w.driver r := by
  cases h with
  | settling h =>
    refine ⟨by rw [h.channels], ?_⟩
    cases h with
    | quiet hq => exact World.driver_of_history hq.history r
    | deducted | settled | closedEarly => rfl
  | called | untied | untiedRemoved | removed => exact ⟨rfl, rfl⟩
  | restored | forgotten => exact ⟨by simp [World.restore], rfl⟩

theorem Effect.driver (he : Effect p start a w w') {r : ChannelRef} (hr : r < w.channels.next) :
    Driver p start a w w' r := by
  cases he with
  | closing h => exact .same (h.driver r).1 (h.driver r).2
  | accepted s pay =>
    refine .same ?_ rfl
    unfold World.accept
    dsimp only
    split <;> simp
  | stored c s contract o =>
    refine .same (by rw [World.store, Heap.read_alloc_old _ _ hr]) ?_
    simp [World.driver, World.store, Event.drive, Nat.ne_of_gt hr]
  | connectionClosed c ha hlt hw => exact .closed c ha hw rfl
  | takenOver c h r' s hres hm hch =>
    by_cases heq : r = r'
    · subst heq
      exact .taken c h hres hch (by simp) (by simp [World.driver, Event.drive])
    · exact .same (by simp [Heap.read_modify_ne _ _ heq])
        (by simp [World.driver, Event.drive, Ne.symm heq])
  | handlerSet c h r' hres hm hch =>
    by_cases heq : r = r'
    · subst heq
      exact .taken c h hres hch (by simp) (by simp [World.driver, Event.drive])
    · exact .same (by simp [Heap.read_modify_ne _ _ heq])
        (by simp [World.driver, Event.drive, Ne.symm heq])
  | keyNoted e he => exact .same rfl (by cases he <;> rfl)
  | _ =>
    exact .same rfl rfl

/-! ## The condition -/

/-- A stored channel is resumed only when it has no handler, PROVIDE_REFUND
does not come from a connection that handles one, and a connection that
closes finds no handler but itself. No contract is stored twice. -/
def Exclusive (p : Platform) (w : World) (i : Env × Input) : Prop :=
  StoresOnce p w i ∧
  match i.2 with
  | .message c msg =>
      (msg.type = .clientVersion → (w.servers.read c).step = .waitingOnClientVersion →
        ∀ version ∈ msg.clientVersion,
          ∀ r ∈ w.mapChannels.lookup ⟨version.previousChannelContractHash⟩,
            (w.channels.read r).connectedHandler = none) ∧
      (msg.type = .provideRefund → ∀ e ∈ w.mapChannels.entries,
        (w.channels.read e.2).connectedHandler ≠ some c)
  | .connectionClosed c => ∀ r ∈ w.handled p c,
      (w.channels.read r).connectedHandler = none ∨
        (w.channels.read r).connectedHandler = some c
  | _ => True

instance (w : World) (i : Env × Input) : Decidable (Exclusive p w i) :=
  @instDecidableAnd _ _ inferInstance <|
    match i with
    | (_, .message _ _) => inferInstanceAs (Decidable (_ ∧ _))
    | (_, .connectionClosed c) => inferInstanceAs (Decidable (∀ r ∈ w.handled p c, _ ∨ _))
    | (_, .newServer _ _) | (_, .connectionOpen _ _) | (_, .funding _ _)
    | (_, .broadcastDone _ _) | (_, .autoClose _) | (_, .serverClose _)
    | (_, .confidence _ _) => isTrue trivial

theorem Exclusive.resumed (hok : OnInputs (Exclusive p) start a) {c : ConnRef} {h : Sha256Hash}
    {r : ChannelRef} (hres : Resuming start a c h r) :
    (start.channels.read r).connectedHandler = none := by
  obtain ⟨i, hi, -, hok⟩ := hok
  obtain ⟨msg, version, hmsg, hty, hv, hbytes⟩ := hres.input
  obtain rfl : i = .message c msg := Action.input.inj (hi.symm.trans hmsg)
  refine hok.1 hty hres.step version hv r ?_
  rw [hbytes]
  exact hres.lookup

theorem Exclusive.refund (hok : OnInputs (Exclusive p) start a) {c : ConnRef}
    {msg : TwoWayChannelMessage} (hmsg : a.2 = .input (.message c msg))
    (hty : msg.type = .provideRefund) {h : Sha256Hash} {r : ChannelRef}
    (hr : start.mapChannels.lookup h = some r) :
    (start.channels.read r).connectedHandler ≠ some c := by
  obtain ⟨i, hi, -, hok⟩ := hok
  obtain rfl : i = .message c msg := Action.input.inj (hi.symm.trans hmsg)
  exact hok.2 hty ⟨h, r⟩ (AList.mem_lookup_iff.mp hr)

theorem Exclusive.closed (hok : OnInputs (Exclusive p) start a) {c : ConnRef}
    (hmsg : a.2 = .input (.connectionClosed c)) {r : ChannelRef}
    (hr : start.handled p c = some r) :
    (start.channels.read r).connectedHandler = none ∨
      (start.channels.read r).connectedHandler = some c := by
  obtain ⟨i, hi, -, hok⟩ := hok
  obtain rfl : i = .connectionClosed c := Action.input.inj (hi.symm.trans hmsg)
  exact hok r hr

theorem Exclusive.storesOnce (hok : OnInputs (Exclusive p) start a) :
    OnInputs (StoresOnce p) start a := by
  obtain ⟨i, hi, hok⟩ := hok
  exact ⟨i, hi, hok.1⟩

/-! ## What holds then -/

/-- `c` is open, past CLIENT_VERSION, and has the state of the record `r`. -/
structure Drives (w : World) (c : ConnRef) (r : ChannelRef) : Prop where
  connected : (w.servers.read c).connectionOpen = true
  started : (w.servers.read c).step ≠ .waitingOnClientVersion
  tied : ∃ s, (w.servers.read c).state = some s ∧
    (w.states.read s).storedServerChannel = some r

/-- The records of the map and the connections that drive them. -/
structure Driving (w : World) : Prop where
  installed : w.extensionInstalled = true
  connected : ∀ c, (w.servers.read c).connectionOpen = true → (w.servers.read c).client.isSome
  client : ∀ c s, (w.servers.read c).state = some s → (w.servers.read c).client.isSome
  state : ∀ h r, w.mapChannels.lookup h = some r → ∃ s, (w.channels.read r).state = some s
  driver : ∀ h r, w.mapChannels.lookup h = some r →
    (w.channels.read r).connectedHandler = w.driver r
  drives : ∀ h r c, w.mapChannels.lookup h = some r →
    (w.channels.read r).connectedHandler = some c → Drives w c r
  /-- Whoever is open with the state of a stored channel handles it. -/
  driven : ∀ h r c s, w.mapChannels.lookup h = some r →
    (w.servers.read c).connectionOpen = true → (w.servers.read c).state = some s →
    (w.states.read s).storedServerChannel = some r →
    (w.channels.read r).connectedHandler = some c
  apart : ∀ c c' s, (w.servers.read c).connectionOpen = true →
    (w.servers.read c').connectionOpen = true → (w.servers.read c).state = some s →
    (w.servers.read c').state = some s → c = c'

theorem Driving.initial (autosave : Bool) : Driving (World.initial autosave) where
  installed := rfl
  connected _ h := nomatch h
  client _ _ h := nomatch h
  state _ _ h := nomatch h
  driver _ _ h := nomatch h
  drives _ _ _ h := nomatch h
  driven _ _ _ _ h := nomatch h
  apart _ _ _ h := nomatch h

/-- `connectionClosed` finds the record that the connection drives. -/
theorem Drives.handled (hr : Records p w) (hext : w.extensionInstalled = true) {h : Sha256Hash}
    {c : ConnRef} {r : ChannelRef} (hm : w.mapChannels.lookup h = some r) (hd : Drives w c r) :
    w.handled p c = some r := by
  obtain ⟨s, hs, hstored⟩ := hd.tied
  simp only [World.handled, hs, (hr.tied s r hstored).contract, hext, if_true,
    Option.bind_eq_bind, Option.bind_some]
  rw [hr.hash h r hm]
  exact hm

/-- A connection gets a state while it is open. -/
theorem NewState.connected {c : ConnRef} {s : StateRef} (h : NewState start a w w' c s) :
    (w.servers.read c).connectionOpen = true := by
  cases h with
  | refund _ _ _ _ hopen => exact hopen
  | resumed _ _ _ _ _ _ _ hopen => exact hopen

/-- Two connections do not get states by the same effect. -/
theorem NewState.unique (ha : Allocated w) {c c' : ConnRef} {s : StateRef}
    (h : NewState start a w w' c s) (h' : NewState start a w w' c' s) : c = c' := by
  cases h with
  | refund _ hmsg =>
    cases h' with
    | refund _ hmsg' => rw [hmsg] at hmsg'; cases hmsg'; rfl
    | resumed _ r _ _ _ hr => exact absurd (ha.state r _ hr) (Nat.lt_irrefl _)
  | resumed _ r _ hres _ hr =>
    cases h' with
    | refund => exact absurd (ha.state r _ hr) (Nat.lt_irrefl _)
    | resumed _ _ _ hres' =>
      obtain ⟨_, _, hmsg, -⟩ := hres.input
      obtain ⟨_, _, hmsg', -⟩ := hres'.input
      rw [hmsg] at hmsg'; cases hmsg'; rfl

section Step

variable (hi : Driving w) (he : Effect p start a w w') (hw : Connections w)
include hi he hw

theorem Driving.connected_step {c : ConnRef} (hc : (w'.servers.read c).connectionOpen = true) :
    (w'.servers.read c).client.isSome := by
  rcases he.connectionOpen hc with hold | ⟨-, -, hnew⟩
  · exact he.client_kept (hw.connected c hold) (hi.connected c hold)
  · exact hnew

theorem Driving.client_step {c : ConnRef} {s : StateRef}
    (hc : (w'.servers.read c).state = some s) : (w'.servers.read c).client.isSome := by
  rcases he.serverState hc with hold | hnew
  · exact he.client_kept (hw.state c s hold) (hi.client c s hold)
  · exact he.client_kept (hw.newState hnew) (hi.connected c hnew.connected)

omit hw in
/-- An open connection that has a state was open before. -/
theorem Driving.connected_before {c : ConnRef} {s : StateRef}
    (hc : (w'.servers.read c).connectionOpen = true) (hs : (w'.servers.read c).state = some s) :
    (w.servers.read c).connectionOpen = true := by
  rcases he.serverState hs with hold | hnew
  · rcases he.connectionOpen hc with h | ⟨-, hnone, -⟩
    · exact h
    · have := hi.client c s hold
      rw [hnone] at this; cases this
  · exact hnew.connected

variable (hok : OnInputs (Exclusive p) start a) (hr : Records p w)
include hok hr

theorem Drives.step {h : Sha256Hash} {r : ChannelRef} {c : ConnRef} (hd : Drives w c r)
    (ha : Allocated w) (hm : w.mapChannels.lookup h = some r)
    (hm' : w'.mapChannels.lookup h = some r)
    (hh : (w.channels.read r).connectedHandler = some c)
    (hh' : (w'.channels.read r).connectedHandler = some c) : Drives w' c r := by
  have hlt := hw.handler r c hh
  refine ⟨?_, he.step_started hlt hd.started, ?_⟩
  · rcases he.connected_kept hlt hd.connected with h | rfl
    · exact h
    · rw [World.handler_disconnect, if_pos (hd.handled hr hi.installed hm)] at hh'
      cases hh'
  · obtain ⟨s, hs, hstored⟩ := hd.tied
    refine ⟨s, ?_, ?_⟩
    · rcases he.serverState_cases c with hsame | ⟨heq, -⟩ | ⟨s', -, hnew⟩
      · exact hsame.trans hs
      · exact absurd heq (Nat.ne_of_lt hlt)
      · cases hnew with
        | refund msg hmsg hty _ _ hstart =>
          subst hstart
          exact absurd hh (Exclusive.refund hok hmsg hty hm)
        | resumed _ _ _ _ _ _ _ _ hstep => exact absurd hstep hd.started
    · rcases he.stored_kept (ha.server c s hs) hstored with h | ⟨-, hgone⟩
      · exact h
      · rw [hr.hash h r hm, hm'] at hgone; cases hgone

theorem Driving.drives_step (ha : Allocated w) (ho : Offers w) (hpath : Path p start a start w)
    {h : Sha256Hash} {r : ChannelRef} {c : ConnRef} (hm' : w'.mapChannels.lookup h = some r)
    (hh' : (w'.channels.read r).connectedHandler = some c) : Drives w' c r := by
  rcases he.lookup hm' with hm | ⟨c', s, contract, o, hs, -, rfl, rfl⟩
  · rcases he.handler hh' with hh | hnew
    · exact Drives.step hi he hw hok hr (hi.drives h r c hm hh) ha hm hm' hh hh'
    · cases hnew with
      | resumed _ _ hres _ _ _ hstate =>
        obtain ⟨s, hs⟩ := hi.state h r hm
        obtain ⟨hopen, hstep, hc, hsame⟩ := hstate s hs
        refine ⟨hopen, by rw [hstep]; decide, s, hc, ?_⟩
        rw [hsame]
        exact hr.held h r s hm hs
      | stored => exact absurd (hr.stored h _ hm) (Nat.lt_irrefl _)
  · obtain rfl : c' = c := by simpa [World.store] using hh'
    obtain ⟨b, success, s', provided, hb⟩ := hs.completing
    exact ⟨hs.connected, ho.started b s' c' provided (hb.offered hpath), s, hs.state,
      by simp [World.store]⟩

omit hw hok in
theorem Driving.state_step {h : Sha256Hash} {r : ChannelRef}
    (hm' : w'.mapChannels.lookup h = some r) : ∃ s, (w'.channels.read r).state = some s := by
  rcases he.lookup hm' with hm | ⟨c, s, contract, o, -, -, rfl, rfl⟩
  · obtain ⟨s, hs⟩ := hi.state h r hm
    rcases he.recordState (hr.stored h r hm) hs with h' | hgone
    · exact ⟨s, h'⟩
    · rw [hr.hash h r hm, hm'] at hgone; cases hgone
  · exact ⟨s, by simp [World.store]⟩

omit hw in
theorem Driving.driver_step {h : Sha256Hash} {r : ChannelRef}
    (hm' : w'.mapChannels.lookup h = some r) :
    (w'.channels.read r).connectedHandler = w'.driver r := by
  rcases he.lookup hm' with hm | ⟨c, s, contract, o, -, -, rfl, rfl⟩
  · have hsame := hi.driver h r hm
    cases he.driver (hr.stored h r hm) with
    | same hh hd => rw [hh, hd, hsame]
    | taken c x hres hch hh hd => rw [hh, hd]
    | closed c ha hstart hw' =>
      subst hw'
      rw [World.handler_disconnect, World.driver_disconnect, ← hsame]
      by_cases hc : (w.channels.read r).connectedHandler = some c
      · rw [if_pos hc, if_pos ((hi.drives h r c hm hc).handled hr hi.installed hm)]
      · rw [if_neg hc]
        split
        · next hhandled =>
          subst hstart
          exact ((Exclusive.closed hok ha hhandled).resolve_right hc).symm
        · rfl
  · simp [World.store, World.driver, Event.drive]

omit hi hw in
/-- Whoever handles a stored channel does so until it closes. -/
theorem Exclusive.handler_kept {h : Sha256Hash} {r : ChannelRef} {c : ConnRef}
    (hm : w.mapChannels.lookup h = some r)
    (hh : (w.channels.read r).connectedHandler = some c)
    (hc : (w'.servers.read c).connectionOpen = true) :
    (w'.channels.read r).connectedHandler = some c := by
  cases he.driver (hr.stored h r hm) with
  | same hsame => rw [hsame, hh]
  | taken c' x hres hch =>
    rw [hch, Exclusive.resumed hok hres] at hh; cases hh
  | closed c' hmsg hstart hw' =>
    subst hw'
    rw [World.handler_disconnect]
    split
    · next hhandled =>
      exfalso
      subst hstart
      rcases Exclusive.closed hok hmsg hhandled with hnone | hsome
      · rw [hh] at hnone; cases hnone
      · obtain rfl := Option.some.inj (hh.symm.trans hsome)
        simp at hc
    · exact hh

omit hw in
theorem Driving.driven_step (ha : Allocated w) {h : Sha256Hash} {r : ChannelRef} {c : ConnRef}
    {s : StateRef} (hm' : w'.mapChannels.lookup h = some r)
    (hc : (w'.servers.read c).connectionOpen = true) (hs : (w'.servers.read c).state = some s)
    (hstored : (w'.states.read s).storedServerChannel = some r) :
    (w'.channels.read r).connectedHandler = some c := by
  have hbefore := hi.connected_before he hc hs
  rcases he.serverState hs with hold | hnew
  · rcases he.stored_some (ha.server c s hold) hstored with hstored | ⟨rfl, c', contract, o, hst, rfl⟩
    · rcases he.lookup hm' with hm | ⟨_, _, _, _, _, _, rfl, -⟩
      · exact Exclusive.handler_kept he hok hr hm (hi.driven h r c s hm hbefore hold hstored) hc
      · exact absurd (hr.tied s _ hstored).allocated (Nat.lt_irrefl _)
    · obtain rfl := hi.apart c c' s hbefore hst.connected hold hst.state
      simp [World.store]
  · cases hnew with
    | refund _ _ _ _ _ _ _ hfresh => rw [hfresh] at hstored; cases hstored
    | resumed x r' _ _ hm hr' hhandler _ _ _ hsame =>
      rw [hsame, hr.held x r' s hm hr'] at hstored
      obtain rfl := Option.some.inj hstored
      exact hhandler

omit hw in
theorem Driving.apart_step (ha : Allocated w) {c c' : ConnRef} {s : StateRef}
    (hc : (w'.servers.read c).connectionOpen = true)
    (hc' : (w'.servers.read c').connectionOpen = true)
    (hs : (w'.servers.read c).state = some s) (hs' : (w'.servers.read c').state = some s) :
    c = c' := by
  -- a state that is new to one of them is fresh, or of a record the other handles
  have hnew : ∀ c c', NewState start a w w' c s → (w.servers.read c').state = some s →
      (w.servers.read c').connectionOpen = true →
      (w'.servers.read c').connectionOpen = true → c = c' := by
    intro c c' hnew hold hopen hopen'
    cases hnew with
    | refund => exact absurd (ha.server c' _ hold) (Nat.lt_irrefl _)
    | resumed x r _ _ hm hr' hhandler =>
      have hh := hi.driven x r c' s hm hopen hold (hr.held x r s hm hr')
      exact Option.some.inj (hhandler.symm.trans (Exclusive.handler_kept he hok hr hm hh hopen'))
  have hopen := hi.connected_before he hc hs
  have hopen' := hi.connected_before he hc' hs'
  rcases he.serverState hs with hold | h <;> rcases he.serverState hs' with hold' | h'
  · exact hi.apart c c' s hopen hopen' hold hold'
  · exact (hnew c' c h' hold hopen hc).symm
  · exact hnew c c' h hold' hopen' hc'
  · exact h.unique ha h'

theorem Driving.step (ha : Allocated w) (ho : Offers w) (hpath : Path p start a start w) :
    Driving w' where
  installed := he.installed hi.installed
  connected _ hc := hi.connected_step he hw hc
  client _ _ hs := hi.client_step he hw hs
  state _ _ hm := hi.state_step he hr hm
  driver _ _ hm := hi.driver_step he hok hr hm
  drives _ _ _ hm hh := hi.drives_step he hw hok hr ha ho hpath hm hh
  driven _ _ _ _ hm hc hs hst := hi.driven_step he hok hr ha hm hc hs hst
  apart _ _ _ hc hc' hs hs' := hi.apart_step he hok hr ha hc hc' hs hs'

end Step

theorem Passed.driving {autosave : Bool} (h : Passed p (OnInputs (Exclusive p)) autosave w) :
    Driving w :=
  Visited.invariant (.initial autosave)
    (fun _ _ _ _ hs hok hpath _ hi he =>
      have ht := hs.path hok hpath
      hi.step he (Passed.connections ht) hok (Passed.records ht) (Passed.allocated ht)
        (Passed.offers ht) hpath) h

/-- Two connections are on one channel: they share its state, or the
contracts of their states are stored in one record. -/
def SameChannel (p : Platform) (w : World) (c c' : ConnRef) : Prop :=
  (∃ s, (w.servers.read c).state = some s ∧ (w.servers.read c').state = some s) ∨
    ∃ r, w.handled p c = some r ∧ w.handled p c' = some r

/-- The state of a connection at CHANNEL_OPEN holds the record of its
contract. -/
theorem Kept.holds_handled (hk : Kept p w) (hr : Records p w) {c : ConnRef} {r : ChannelRef}
    (hc : (w.servers.read c).step = .channelOpen) (hhandled : w.handled p c = some r) :
    ∃ h s, w.mapChannels.lookup h = some r ∧ (w.servers.read c).state = some s ∧
      (w.states.read s).storedServerChannel = some r := by
  simp only [World.handled, Option.bind_eq_bind, Option.bind_eq_some_iff] at hhandled
  obtain ⟨s, hs, contract, hcontract, hm⟩ := hhandled
  split at hm
  · refine ⟨_, s, hm, hs, ?_⟩
    rcases hk.channelOpen c s hc hs with hnone | ⟨contract', r', hsettled⟩
    · rw [hcontract] at hnone; cases hnone
    · obtain rfl := Option.some.inj (hcontract.symm.trans hsettled.contract_eq)
      rcases hsettled.held with hheld | hgone
      · rw [hheld, hk.unique _ r' r hsettled.stored (hk.stored_of_lookup hr hm)]
      · rw [hgone] at hm; cases hm
  · cases hm

/-- In a run that meets the condition, the handler of a stored channel is
the connection that drives it by the history, and no two open connections
are at CHANNEL_OPEN on one channel. -/
theorem handler_drives_alone {autosave : Bool} (h : Reached p (Exclusive p) autosave w) :
    (∀ x r, w.mapChannels.lookup x = some r →
      (w.channels.read r).connectedHandler = w.driver r) ∧
    ∀ c c', (w.servers.read c).connectionOpen = true →
      (w.servers.read c').connectionOpen = true →
      (w.servers.read c).step = .channelOpen → (w.servers.read c').step = .channelOpen →
      SameChannel p w c c' → c = c' := by
  have hpassed := Reached.passed h
  have hi := Passed.driving hpassed
  have hr := Passed.records hpassed
  have hk : Kept p w := Passed.kept (Visited.mono (fun _ _ => Exclusive.storesOnce) hpassed)
  refine ⟨fun x r hm => hi.driver x r hm, fun c c' hc hc' hstep hstep' hsame => ?_⟩
  rcases hsame with ⟨s, hs, hs'⟩ | ⟨r, hhandled, hhandled'⟩
  · exact hi.apart c c' s hc hc' hs hs'
  · obtain ⟨x, s, hm, hs, hstored⟩ := hk.holds_handled hr hstep hhandled
    obtain ⟨x', s', hm', hs', hstored'⟩ := hk.holds_handled hr hstep' hhandled'
    exact Option.some.inj ((hi.driven x r c s hm hc hs hstored).symm.trans
      (hi.driven x' r c' s' hm' hc' hs' hstored'))

/-- A channel is opened on one connection, which closes, and is resumed on
another. -/
theorem handler_drives_alone_resumed :
    let w := Client.run (Client.openChannel 90000 ++ [.connectionClosed 0] ++ Client.connect 1
      ++ [.message 1 (Client.resume 1)])
    let x := Client.platform.getHash (Reference.contract 1 100000)
    w.mapChannels.lookup x = some 0 ∧ (w.servers.read 1).step = .channelOpen ∧
      w.driver 0 = some 1 ∧ (w.channels.read 0).connectedHandler = w.driver 0 := by
  intro w x
  have hreached : Reached Client.platform (Exclusive Client.platform) true w :=
    .along .start (by decide +kernel)
  have hm : w.mapChannels.lookup x = some 0 := by decide +kernel
  exact ⟨hm, by decide +kernel, by decide +kernel, (handler_drives_alone hreached).1 x 0 hm⟩

/-- Connection 1 resumes the channel of connection 0, which is told to
close. Both are at CHANNEL_OPEN on it, and once connection 0 has closed
the channel has no handler although connection 1 drives it. -/
theorem superseded_connection_clears_handler :
    let inputs := Client.openChannel 90000 ++ Client.connect 1 ++ [.message 1 (Client.resume 1)]
    (∃ w, Reached Client.platform (fun _ _ => True) true w ∧ w = Client.run inputs ∧
      .superseded 0 0 ∈ w.trace ∧ .destroyed 0 .serverRequestedClose ∈ w.trace ∧
      (∀ c < 2, (w.servers.read c).connectionOpen = true ∧
        (w.servers.read c).step = .channelOpen) ∧
      SameChannel Client.platform w 0 1) ∧
    ∃ w, Reached Client.platform (fun _ _ => True) true w ∧
      w = Client.run (inputs ++ [.connectionClosed 0]) ∧
      w.mapChannels.lookup (Client.platform.getHash (Reference.contract 1 100000)) = some 0 ∧
      (w.channels.read 0).connectedHandler = none ∧ w.driver 0 = some 1 := by
  intro inputs
  refine ⟨⟨_, Reaches.foldl _ .start, rfl, ?_, ?_, ?_, .inl ⟨0, ?_⟩⟩,
    _, Reaches.foldl _ .start, rfl, ?_⟩ <;> decide +kernel

end BitMesh.Channels
