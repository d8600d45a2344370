import BitMesh.Sentry.Changes

/-!
# One websocket per client

`connectedIps` is the list of addresses that have a websocket. A second
socket from the same address is meant to be harmless: it is marked
ephemeral and closed after a moment. Before that is decided it has become
the client's manager, and when reading from it fails it takes the address
off the list. Closing a socket that is closed already does the same.
-/

namespace BitMesh.Sentry

open BitMesh.Lib

namespace World

/-- Socket `s` from `ip` is open and not a second one. -/
def Holds (w : World) (ip : IpAddress) (s : SocketRef) : Prop :=
  s < w.sockets.next ∧ (w.sockets.read s).remoteAddress = ip ∧
    (w.sockets.read s).ephemeral = false ∧ (w.sockets.read s).state ≠ .closed

instance (w : World) (ip : IpAddress) (s : SocketRef) : Decidable (w.Holds ip s) :=
  inferInstanceAs (Decidable (_ ∧ _ ∧ _ ∧ _))

/-- The list is right about `ip`, there is one socket at most, and the
client registered for `ip` is managed through it. -/
structure OneSocket (w : World) (ip : IpAddress) : Prop where
  listed : ip ∈ w.connectedIps ↔ ∃ s, w.Holds ip s
  unique : ∀ s s', w.Holds ip s → w.Holds ip s' → s = s'
  manager : ∀ s, w.Holds ip s →
    ∃ r, w.ipList.lookup ip = some r ∧ (w.clients.read r).manager = some s

/-- The table of clients and the sockets as far as `OneSocket` needs them. -/
structure SocketTable (w : World) : Prop where
  allocated : w.Allocated
  registered : ∀ ip ip' r, w.ipList.lookup ip = some r → w.ipList.lookup ip' = some r → ip = ip'
  primary : ∀ s < w.sockets.next, (w.sockets.read s).ephemeral = false
  unborn : ∀ s, w.sockets.next ≤ s → (w.sockets.read s).state = .closed
  one : ∀ ip, w.OneSocket ip

end World

/-! ## Closing -/

theorem World.connectionClosed_connectedIps (w : World) (s : SocketRef) :
    (w.connectionClosed s).connectedIps = w.connectedIps := by
  simp only [connectionClosed, setWisprComplete]
  split <;> rfl

/-- Socket `s` is in `state` afterwards, and nothing else has changed that
`SocketTable` is about, the list of addresses apart. -/
structure Touches (w : World) (s : SocketRef) (state : SocketState) (w' : World) : Prop where
  quiet : Quiet w w'
  next : w'.sockets.next = w.sockets.next
  remoteAddress : ∀ s', (w'.sockets.read s').remoteAddress = (w.sockets.read s').remoteAddress
  ephemeral : ∀ s', (w'.sockets.read s').ephemeral = (w.sockets.read s').ephemeral
  state : ∀ s', (w'.sockets.read s').state = if s' = s then state else (w.sockets.read s').state
  ipList : w'.ipList = w.ipList
  manager : ∀ r, (w'.clients.read r).manager = (w.clients.read r).manager

namespace Touches

variable {w w' w'' : World} {s : SocketRef} {state state' : SocketState}

theorem trans (h : Touches w s state w') (h' : Touches w' s state' w'') :
    Touches w s state' w'' where
  quiet := h.quiet.trans h'.quiet
  next := h'.next.trans h.next
  remoteAddress s' := (h'.remoteAddress s').trans (h.remoteAddress s')
  ephemeral s' := (h'.ephemeral s').trans (h.ephemeral s')
  state s' := by
    rw [h'.state, h.state]
    split <;> rfl
  ipList := h'.ipList.trans h.ipList
  manager r := (h'.manager r).trans (h.manager r)

/-- The socket itself is touched. -/
theorem ofSocket (w : World) {s : SocketRef} (f : MicropaymentWebsocket → MicropaymentWebsocket)
    (hclient : ∀ ws, (f ws).client = ws.client)
    (hremote : ∀ ws, (f ws).remoteAddress = ws.remoteAddress)
    (hephemeral : ∀ ws, (f ws).ephemeral = ws.ephemeral)
    (hstate : (f (w.sockets.read s)).state = state) :
    Touches w s state { w with sockets := w.sockets.modify s f } where
  quiet := .ofSocket s f hclient
  next := rfl
  remoteAddress _ := Heap.field_modify _ _ _ MicropaymentWebsocket.remoteAddress hremote
  ephemeral _ := Heap.field_modify _ _ _ MicropaymentWebsocket.ephemeral hephemeral
  state s' := by
    change ((w.sockets.modify s f).read s').state = _
    rw [Heap.read_modify]
    split
    · rename_i heq
      rw [heq, hstate]
    · rfl
  ipList := rfl
  manager _ := rfl

/-- Something else is. -/
theorem of_eq (hquiet : Quiet w w') (hsockets : w'.sockets = w.sockets)
    (hipList : w'.ipList = w.ipList)
    (hmanager : ∀ r, (w'.clients.read r).manager = (w.clients.read r).manager)
    (hstate : (w.sockets.read s).state = state) : Touches w s state w' where
  quiet := hquiet
  next := by rw [hsockets]
  remoteAddress _ := by rw [hsockets]
  ephemeral _ := by rw [hsockets]
  state s' := by
    rw [hsockets]
    split
    · rename_i heq
      rw [heq, hstate]
    · rfl
  ipList := hipList
  manager := hmanager

theorem self (h : Touches w s state w') : (w'.sockets.read s).state = state := by
  rw [h.state, if_pos rfl]

theorem setSocketState (w : World) (s : SocketRef) (state : SocketState) :
    Touches w s state (w.setSocketState s state) :=
  ofSocket w _ (fun _ => rfl) (fun _ => rfl) (fun _ => rfl) rfl

theorem stopReading (w : World) {s : SocketRef} (hstate : (w.sockets.read s).state = state) :
    Touches w s state (w.stopReading s) :=
  ofSocket w _ (fun _ => rfl) (fun _ => rfl) (fun _ => rfl) hstate

theorem removeWebsocket (w : World) {s : SocketRef} (ip : IpAddress)
    (hstate : (w.sockets.read s).state = state) : Touches w s state (w.removeWebsocket ip) :=
  of_eq (.removeWebsocket w ip) rfl rfl (fun _ => rfl) hstate

theorem setWisprComplete (w : World) {s : SocketRef} (r : ClientRef) (complete : Bool)
    (hstate : (w.sockets.read s).state = state) :
    Touches w s state (w.setWisprComplete r complete) := by
  have hquiet := Quiet.setWisprComplete w r complete
  unfold World.setWisprComplete at hquiet ⊢
  split at hquiet
  · exact of_eq hquiet rfl rfl (fun _ => rfl) hstate
  · exact of_eq hquiet rfl rfl (fun _ => rfl) hstate

theorem connectionClosed (w : World) {s : SocketRef}
    (hstate : (w.sockets.read s).state = state) : Touches w s state (w.connectionClosed s) := by
  have hsocket : Touches w s state { w with
      sockets := w.sockets.modify s fun ws => { ws with connectionOpen := false } } :=
    ofSocket w _ (fun _ => rfl) (fun _ => rfl) (fun _ => rfl) hstate
  have hlink := Quiet.link (w := { w with
      sockets := w.sockets.modify s fun ws => { ws with connectionOpen := false } })
    (w.sockets.read s).client (fun client => { client with channelOpen := false })
    (fun _ => ⟨_, _, _, _, rfl⟩) fun _ => rfl
  have hclient : Touches _ s state _ := of_eq hlink rfl rfl
    (fun _ => Heap.field_modify _ _ _ ConnectedClient.manager fun _ => rfl) hsocket.self
  exact (hsocket.trans hclient).trans (setWisprComplete _ _ _ (hsocket.trans hclient).self)

/-- Closing a socket that is not closed takes its address off the list. -/
theorem doClose (w : World) {s : SocketRef} (hprimary : (w.sockets.read s).ephemeral = false)
    (halive : (w.sockets.read s).state ≠ .closed) :
    Touches w s .closed (w.doClose s) ∧
      (w.doClose s).connectedIps =
        w.connectedIps.erase (w.sockets.read s).remoteAddress := by
  have hset := setSocketState w s .closed
  have hephemeral : ((w.setSocketState s .closed).sockets.read s).ephemeral = false :=
    (hset.ephemeral s).trans hprimary
  unfold World.doClose World.onClose
  rw [if_neg halive, if_neg (by simp [hephemeral])]
  have hclosed := hset.trans (connectionClosed _ hset.self)
  refine ⟨hclosed.trans (removeWebsocket _ _ hclosed.self), ?_⟩
  change ((w.setSocketState s .closed).connectionClosed s).connectedIps.erase _ = _
  rw [World.connectionClosed_connectedIps, hset.remoteAddress]
  rfl

end Touches

namespace World

namespace SocketTable

variable {w w' : World} {s : SocketRef} {state : SocketState}

/-- What does not depend on the list of addresses. -/
theorem touched (h : w.SocketTable) (ht : Touches w s state w')
    (hs : w.sockets.next ≤ s → state = .closed) (hone : ∀ ip, w'.OneSocket ip) : w'.SocketTable where
  allocated := ht.quiet.allocated h.allocated
  registered := by
    rw [ht.ipList]
    exact h.registered
  primary s' hs' := (ht.ephemeral s').trans (h.primary s' (ht.next ▸ hs'))
  unborn s' hs' := by
    rw [ht.next] at hs'
    rw [ht.state]
    split
    · rename_i heq
      exact hs (heq ▸ hs')
    · exact h.unborn s' hs'
  one := hone

/-- A socket that is as open as before. -/
theorem alive (h : w.SocketTable) (ht : Touches w s state w')
    (hstate : state = .closed ↔ (w.sockets.read s).state = .closed)
    (hlist : w'.connectedIps = w.connectedIps) : w'.SocketTable := by
  have hholds : ∀ ip s', w'.Holds ip s' ↔ w.Holds ip s' := by
    intro ip s'
    unfold Holds
    rw [ht.next, ht.remoteAddress, ht.ephemeral, ht.state]
    split
    · rename_i heq
      rw [heq, Ne, hstate]
    · rfl
  refine h.touched ht (fun hs => hstate.mpr (h.unborn s hs)) fun ip => ⟨?_, ?_, ?_⟩
  · simpa only [hlist, hholds] using (h.one ip).listed
  · simpa only [hholds] using (h.one ip).unique
  · simpa only [hholds, ht.ipList, ht.manager] using (h.one ip).manager

/-- A socket that was open is closed, and its address off the list. -/
theorem closed (h : w.SocketTable) (ht : Touches w s .closed w')
    (halive : (w.sockets.read s).state ≠ .closed)
    (hlist : w'.connectedIps = w.connectedIps.erase (w.sockets.read s).remoteAddress) :
    w'.SocketTable := by
  have hs : s < w.sockets.next := by
    by_contra hs
    exact halive (h.unborn s (not_lt.mp hs))
  have hholds : ∀ ip s', w'.Holds ip s' ↔ w.Holds ip s' ∧ s' ≠ s := by
    intro ip s'
    unfold Holds
    rw [ht.next, ht.remoteAddress, ht.ephemeral, ht.state]
    by_cases heq : s' = s
    · simp [heq]
    · simp [heq]
  have hself : w.Holds (w.sockets.read s).remoteAddress s := ⟨hs, rfl, h.primary s hs, halive⟩
  refine h.touched ht (fun _ => rfl) fun ip => ⟨?_, ?_, ?_⟩
  · rw [hlist, Finset.mem_erase, (h.one ip).listed]
    constructor
    · rintro ⟨hip, s', hs'⟩
      refine ⟨s', (hholds ip s').mpr ⟨hs', ?_⟩⟩
      rintro rfl
      exact hip hs'.2.1.symm
    · rintro ⟨s', hs'⟩
      obtain ⟨hold, hne⟩ := (hholds ip s').mp hs'
      refine ⟨?_, s', hold⟩
      rintro rfl
      exact hne ((h.one _).unique s' s hold hself)
  · intro s₁ s₂ h₁ h₂
    exact (h.one ip).unique s₁ s₂ ((hholds ip s₁).mp h₁).1 ((hholds ip s₂).mp h₂).1
  · intro s' hs'
    rw [ht.ipList]
    simp only [ht.manager]
    exact (h.one ip).manager s' ((hholds ip s').mp hs').1

end SocketTable

end World

/-! ## Handshakes -/

namespace World

/-- The client of a socket found for an address, or made. -/
theorem lookupClient_cases (w : World) (ip : IpAddress) :
    (∃ r, w.ipList.lookup ip = some r ∧ w.lookupClient ip = (w, r)) ∨
    (w.ipList.lookup ip = none ∧ w.lookupClient ip =
      ({ w with
        clients := (w.clients.alloc (.init ip w.config w.now)).2
        ipList := w.ipList.insert ip w.clients.next }, w.clients.next)) := by
  unfold lookupClient
  split
  · rename_i r hr
    exact .inl ⟨r, hr, rfl⟩
  · rename_i hnone
    exact .inr ⟨hnone, rfl⟩

/-- What a handshake leaves: a new socket of client `r`. -/
structure Opens (w : World) (ip : IpAddress) (r : ClientRef) (w' : World) : Prop where
  client : w.ipList.lookup ip = some r ∨ w.ipList.lookup ip = none ∧ r = w.clients.next
  sockets : w'.sockets = (w.sockets.alloc
    { remoteAddress := ip
      client := r
      ephemeral := decide (ip ∈ w.connectedIps)
      state := .open
      reading := true
      connectionOpen := true }).2
  connectedIps : w'.connectedIps =
    if ip ∈ w.connectedIps then w.connectedIps else insert ip w.connectedIps
  lookup : ∀ ip', w'.ipList.lookup ip' = if ip' = ip then some r else w.ipList.lookup ip'
  manager : ∀ r', r' = r ∨ r' < w.clients.next → (w'.clients.read r').manager =
    if r' = r then some w.sockets.next else (w.clients.read r').manager

theorem openWebSocket_opens (w : World) (ip : IpAddress) :
    ∃ r, w.Opens ip r (w.openWebSocket ip) := by
  unfold openWebSocket getSocketClient
  rcases w.lookupClient_cases ip with ⟨r, hr, heq⟩ | ⟨hnone, heq⟩
  · rw [heq]
    refine ⟨r, .inl hr, rfl, ?_, fun ip' => ?_, fun r' _ => ?_⟩
    · by_cases hmem : ip ∈ w.connectedIps <;> simp [acceptSocket, setWisprSequence, hmem]
    · change w.ipList.lookup ip' = _
      split
      · rename_i hip
        rw [hip, hr]
      · rfl
    · simp only [acceptSocket, setWisprSequence, Heap.modify_modify, Heap.read_modify]
      split <;> rfl
  · rw [heq]
    refine ⟨w.clients.next, .inr ⟨hnone, rfl⟩, rfl, ?_, fun ip' => ?_, fun r' hr' => ?_⟩
    · by_cases hmem : ip ∈ w.connectedIps <;> simp [acceptSocket, setWisprSequence, hmem]
    · change (w.ipList.insert ip w.clients.next).lookup ip' = _
      split
      · rename_i hip
        rw [hip, AList.lookup_insert]
      · rename_i hip
        rw [AList.lookup_insert_ne hip]
    · simp only [acceptSocket, setWisprSequence, Heap.modify_modify, Heap.read_modify]
      split
      · rfl
      · rename_i hne
        rw [Heap.read_alloc_old _ _ (hr'.resolve_left hne)]

namespace Opens

variable {w w' : World} {ip : IpAddress} {r : ClientRef}

theorem next (h : w.Opens ip r w') : w'.sockets.next = w.sockets.next + 1 := by
  rw [h.sockets]
  rfl

theorem read_old (h : w.Opens ip r w') {s : SocketRef} (hs : s ≠ w.sockets.next) :
    w'.sockets.read s = w.sockets.read s := by
  rw [h.sockets]
  exact Heap.read_alloc_ne _ _ hs

theorem read_new (h : w.Opens ip r w') (hfree : ip ∉ w.connectedIps) :
    w'.sockets.read w.sockets.next = ⟨ip, r, false, .open, true, true⟩ := by
  rw [h.sockets, Heap.read_alloc_new, decide_eq_false hfree]

theorem lt_iff (h : w.Opens ip r w') {s : SocketRef} (hs : s ≠ w.sockets.next) :
    s < w'.sockets.next ↔ s < w.sockets.next := by
  rw [h.next]
  exact ⟨fun hlt => lt_of_le_of_ne (Nat.lt_succ_iff.mp hlt) hs, fun hlt => Nat.lt_succ_of_lt hlt⟩

/-- The new socket is open, and the others as before. -/
theorem holds_iff (h : w.Opens ip r w') (hfree : ip ∉ w.connectedIps) (ip' : IpAddress)
    (s : SocketRef) : w'.Holds ip' s ↔ w.Holds ip' s ∨ s = w.sockets.next ∧ ip = ip' := by
  unfold Holds
  by_cases hs : s = w.sockets.next
  · subst hs
    simp [h.read_new hfree, h.next]
  · rw [h.read_old hs, h.lt_iff hs]
    simp [hs]

/-- No other address is registered for the client. -/
theorem lookup_ne (h : w.Opens ip r w') (hw : w.SocketTable) {ip' : IpAddress} (hne : ip' ≠ ip) :
    w.ipList.lookup ip' ≠ some r := by
  intro hr
  rcases h.client with hreg | ⟨-, rfl⟩
  · exact hne (hw.registered ip' ip r hr hreg)
  · exact lt_irrefl _ (hw.allocated.registered ip' _ hr)

theorem registered (h : w.Opens ip r w') (hw : w.SocketTable) {ip₁ ip₂ : IpAddress}
    {r' : ClientRef} (h₁ : w'.ipList.lookup ip₁ = some r') (h₂ : w'.ipList.lookup ip₂ = some r') :
    ip₁ = ip₂ := by
  rw [h.lookup] at h₁ h₂
  split at h₁
  · rename_i hip₁
    split at h₂
    · rename_i hip₂
      rw [hip₁, hip₂]
    · rename_i hip₂
      exact absurd (h₂.trans h₁.symm) (h.lookup_ne hw hip₂)
  · rename_i hip₁
    split at h₂
    · exact absurd (h₁.trans h₂.symm) (h.lookup_ne hw hip₁)
    · exact hw.registered ip₁ ip₂ r' h₁ h₂

/-- The address of the handshake has the new socket. -/
theorem oneSocket_self (h : w.Opens ip r w') (hw : w.SocketTable) (hfree : ip ∉ w.connectedIps) :
    w'.OneSocket ip := by
  have hholds : ∀ s, w'.Holds ip s ↔ s = w.sockets.next := fun s => by
    rw [h.holds_iff hfree]
    constructor
    · rintro (hs | ⟨hs, -⟩)
      · exact absurd ((hw.one ip).listed.mpr ⟨s, hs⟩) hfree
      · exact hs
    · exact fun hs => .inr ⟨hs, rfl⟩
  refine ⟨?_, fun s s' hs hs' => ?_, fun s hs => ⟨r, ?_, ?_⟩⟩
  · rw [h.connectedIps, if_neg hfree]
    exact ⟨fun _ => ⟨w.sockets.next, (hholds _).mpr rfl⟩, fun _ => Finset.mem_insert_self _ _⟩
  · rw [(hholds s).mp hs, (hholds s').mp hs']
  · rw [h.lookup, if_pos rfl]
  · rw [h.manager r (.inl rfl), if_pos rfl, (hholds s).mp hs]

/-- Every other address has the socket it had. -/
theorem oneSocket_other (h : w.Opens ip r w') (hw : w.SocketTable) (hfree : ip ∉ w.connectedIps)
    {ip' : IpAddress} (hne : ip' ≠ ip) : w'.OneSocket ip' := by
  have hholds : ∀ s, w'.Holds ip' s ↔ w.Holds ip' s := fun s => by
    rw [h.holds_iff hfree]
    simp [hne.symm]
  refine ⟨?_, fun s s' hs hs' => ?_, fun s hs => ?_⟩
  · rw [h.connectedIps, if_neg hfree, Finset.mem_insert, (hw.one ip').listed]
    simp [hne, hholds]
  · exact (hw.one ip').unique s s' ((hholds s).mp hs) ((hholds s').mp hs')
  · obtain ⟨r', hr', hmanager⟩ := (hw.one ip').manager s ((hholds s).mp hs)
    have hother : r' ≠ r := fun heq => h.lookup_ne hw hne (heq ▸ hr')
    refine ⟨r', ?_, ?_⟩
    · rw [h.lookup, if_neg hne, hr']
    · rw [h.manager r' (.inr (hw.allocated.registered ip' r' hr')), if_neg hother, hmanager]

end Opens

/-- A handshake from an address that has no socket. -/
theorem SocketTable.opened {w w' : World} {ip : IpAddress} {r : ClientRef} (h : w.SocketTable)
    (ho : w.Opens ip r w') (hw : w'.Allocated) (hfree : ip ∉ w.connectedIps) :
    w'.SocketTable where
  allocated := hw
  registered _ _ _ := ho.registered h
  primary s hs := by
    by_cases hnew : s = w.sockets.next
    · rw [hnew, ho.read_new hfree]
    · rw [ho.read_old hnew]
      exact h.primary s ((ho.lt_iff hnew).mp hs)
  unborn s hs := by
    rw [ho.next] at hs
    rw [ho.read_old (Nat.ne_of_gt hs)]
    exact h.unborn s (Nat.le_of_succ_le hs)
  one ip' := by
    by_cases hip : ip' = ip
    · rw [hip]
      exact ho.oneSocket_self h hfree
    · exact ho.oneSocket_other h hfree hip

end World

/-! ## Runs -/

/-- Only websockets come and go. -/
def OnSockets : Event → Prop
  | .handshake _ | .closed _ | .ioException _ | .close _ => True
  | _ => False

/-- A handshake comes from an address without a socket, and a socket fails
or is closed by the server only while it is not closed. -/
def Orderly (w : World) : Event → Prop
  | .handshake ip => ip ∉ w.connectedIps
  | .ioException s => (w.sockets.read s).state ≠ .closed
  | .close s => (w.sockets.read s).state ≠ .closed
  | _ => True

instance decidableOnSockets : (e : Event) → Decidable (OnSockets e)
  | .handshake _ | .closed _ | .ioException _ | .close _ => isTrue trivial
  | .elapse _ | .paymentIncrease _ _ _ | .save _ | .request _ _ _ | .channelOpen _ | .reloaded _
  | .check _ | .act _ | .gapExpired _ | .reset _ => isFalse id

instance decidableOrderly (w : World) : (e : Event) → Decidable (Orderly w e)
  | .handshake _ => inferInstanceAs (Decidable (_ ∉ _))
  | .ioException _ => inferInstanceAs (Decidable (_ ≠ _))
  | .close _ => inferInstanceAs (Decidable (_ ≠ _))
  | .closed _ | .elapse _ | .paymentIncrease _ _ _ | .save _ | .request _ _ _ | .channelOpen _
  | .reloaded _ | .check _ | .act _ | .gapExpired _ | .reset _ => isTrue trivial

namespace World.SocketTable

variable {w : World}

theorem lt_next (h : w.SocketTable) {s : SocketRef} (hs : (w.sockets.read s).state ≠ .closed) :
    s < w.sockets.next := by
  by_contra hge
  exact hs (h.unborn s (not_lt.mp hge))

theorem doClose (h : w.SocketTable) (s : SocketRef) : (w.doClose s).SocketTable := by
  by_cases hstate : (w.sockets.read s).state = .closed
  · unfold World.doClose
    rw [if_pos hstate]
    exact h
  · obtain ⟨htouches, hlist⟩ := Touches.doClose w (h.primary s (h.lt_next hstate)) hstate
    exact h.closed htouches hstate hlist

theorem stopReading (h : w.SocketTable) (s : SocketRef) : (w.stopReading s).SocketTable :=
  h.alive (Touches.stopReading w rfl) Iff.rfl rfl

theorem ioException (h : w.SocketTable) {s : SocketRef}
    (hstate : (w.sockets.read s).state ≠ .closed) :
    ((w.removeWebsocket (w.sockets.read s).remoteAddress).doClose s).SocketTable := by
  have hremove := Touches.removeWebsocket (s := s) w (w.sockets.read s).remoteAddress rfl
  obtain ⟨htouches, hlist⟩ := Touches.doClose
    (w.removeWebsocket (w.sockets.read s).remoteAddress) (h.primary s (h.lt_next hstate)) hstate
  refine h.closed (hremove.trans htouches) hstate ?_
  rw [hlist]
  exact Finset.erase_idem

theorem close (h : w.SocketTable) {s : SocketRef}
    (hstate : (w.sockets.read s).state ≠ .closed) : (w.close s).SocketTable := by
  have hset : (w.setSocketState s .closing).SocketTable :=
    h.alive (Touches.setSocketState w s .closing) (by simp [hstate]) rfl
  unfold World.close
  split
  · exact hset
  · exact hset.doClose s

theorem after (h : w.SocketTable) {e : Event} (he : OnSockets e) (horderly : Orderly w e) :
    (w.after e).SocketTable := by
  cases e with
  | handshake ip =>
    obtain ⟨r, hopens⟩ := w.openWebSocket_opens ip
    exact h.opened hopens ((Quiet.openWebSocket w h.allocated ip).allocated h.allocated) horderly
  | closed s =>
    simp only [World.after]
    split
    · exact (h.doClose s).stopReading s
    · exact h
  | ioException s =>
    simp only [World.after]
    split
    · exact (h.ioException horderly).stopReading s
    · exact h
  | close s => exact h.close horderly
  | _ => exact he.elim

end World.SocketTable

section

variable (now : Int) (config : BitmeshConfiguration) (inFace outFace : InterfaceName)

theorem World.initial_socketTable : (World.initial now config inFace outFace).SocketTable where
  allocated := initial_allocated now config inFace outFace
  registered _ _ _ h := by cases h
  primary _ hs := absurd hs (Nat.not_lt_zero _)
  unborn _ _ := rfl
  one ip := by
    have hnone : ∀ s, ¬ (World.initial now config inFace outFace).Holds ip s :=
      fun s hs => Nat.not_lt_zero _ hs.1
    exact ⟨⟨nofun, fun ⟨s, hs⟩ => absurd hs (hnone s)⟩, fun s _ hs => absurd hs (hnone s),
      fun s hs => absurd hs (hnone s)⟩

/-- In every orderly run of handshakes, closes and failures, an address is
on the list exactly while a socket of it is open, that socket is the only
one, and its client is managed through it. -/
theorem one_socket_per_address {w : World}
    (hrun : Reaches World.after (fun w e => OnSockets e ∧ Orderly w e)
      (.initial now config inFace outFace) w) (ip : IpAddress) :
    w.OneSocket ip := by
  have htable : w.SocketTable :=
    hrun.invariant (World.initial_socketTable now config inFace outFace)
      fun w e hok h => h.after hok.1 hok.2
  exact htable.one ip

end

/-- A socket that is closed, and another one after it. -/
theorem one_socket_per_address_reconnect :
    ([Event.handshake clientAddress, .close 0, .closed 0, .handshake clientAddress].foldl
      World.after accessPoint).OneSocket clientAddress :=
  one_socket_per_address 0 SentryTimeLogic.defaultConfiguration eth0 wlan0
    (.along .start (by decide +kernel)) clientAddress

/-- A second handshake: the first socket stays open, and the client is
managed through the second. -/
theorem second_handshake_takes_over :
    ∃ w, Reaches World.after (fun _ e => OnSockets e) accessPoint w ∧
      ¬ w.OneSocket clientAddress := by
  refine ⟨[Event.handshake clientAddress, .handshake clientAddress].foldl World.after accessPoint,
    .along .start (by decide +kernel), fun h => ?_⟩
  obtain ⟨r, hr, hmanager⟩ := h.manager 0 (by decide +kernel)
  obtain rfl : 0 = r := Option.some.inj ((show _ = some 0 by decide +kernel).symm.trans hr)
  exact absurd hmanager (by decide +kernel)

end BitMesh.Sentry
