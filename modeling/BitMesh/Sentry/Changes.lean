import BitMesh.Lib.Transition
import BitMesh.Sentry.World

/-!
# What an event does to a client

The machines and the meter of a client are written by few events, and
most of what happens leaves them alone: websockets come and go, sequences
are replaced, clients are made. `Quiet` says so of an operation, and
`Change` lists what an event can do to one client. The invariants of the
later modules are proved from `Change`.
-/

namespace BitMesh.Sentry

open BitMesh.Lib

/-- The client with other links and another portal timer: the machines,
the meter and its timer are the same. -/
def ConnectedClient.Same (c c' : ConnectedClient) : Prop :=
  ∃ manager sequence channelOpen reset, c' = { c with
    manager := manager
    wisprSequence := sequence
    channelOpen := channelOpen
    resetHandler := reset }

theorem ConnectedClient.Same.refl (c : ConnectedClient) : c.Same c := ⟨_, _, _, _, rfl⟩

theorem ConnectedClient.Same.trans {c c' c'' : ConnectedClient} (h : c.Same c')
    (h' : c'.Same c'') : c.Same c'' := by
  obtain ⟨_, _, _, _, rfl⟩ := h
  obtain ⟨m, q, o, t, rfl⟩ := h'
  exact ⟨m, q, o, t, rfl⟩

namespace World

/-- What becomes of a client when its machines and its meter are left
alone: it is the same, or it is made on the way. -/
def Linked (w : World) (r : ClientRef) (c : ConnectedClient) : Prop :=
  (w.clients.read r).Same c ∨
    w.clients.next ≤ r ∧ ∃ ip, (ConnectedClient.init ip w.config w.now).Same c

/-- The objects named by others exist. -/
structure Allocated (w : World) : Prop where
  sequence : ∀ r q, (w.clients.read r).wisprSequence = some q → q < w.sequences.next
  gap : ∀ g ∈ w.gaps, g.sequence < w.sequences.next
  socket : ∀ s < w.sockets.next, (w.sockets.read s).client < w.clients.next
  registered : ∀ ip r, w.ipList.lookup ip = some r → r < w.clients.next

end World

/-- No machine, meter or timer of a client is touched. -/
structure Quiet (w w' : World) : Prop where
  now : w'.now = w.now
  config : w'.config = w.config
  gaps : w'.gaps = w.gaps
  observed : w'.observed = w.observed
  clientsNext : w.clients.next ≤ w'.clients.next
  sequencesNext : w.sequences.next ≤ w'.sequences.next
  owner : ∀ q, q < w.sequences.next → (w'.sequences.read q).client = (w.sequences.read q).client
  client : ∀ r, w.Linked r (w'.clients.read r)
  sequence : ∀ r q, (w'.clients.read r).wisprSequence = some q →
    (w.clients.read r).wisprSequence = some q ∨ q < w'.sequences.next
  socket : ∀ s < w'.sockets.next,
    (s < w.sockets.next ∧ (w'.sockets.read s).client = (w.sockets.read s).client) ∨
      (w'.sockets.read s).client < w'.clients.next
  registered : ∀ ip r, w'.ipList.lookup ip = some r →
    w.ipList.lookup ip = some r ∨ r < w'.clients.next

namespace Quiet

variable {w w' w'' : World}

theorem refl (w : World) : Quiet w w :=
  ⟨rfl, rfl, rfl, rfl, le_rfl, le_rfl, fun _ _ => rfl, fun _ => .inl (.refl _),
    fun _ _ => .inl, fun _ hs => .inl ⟨hs, rfl⟩, fun _ _ => .inl⟩

theorem trans (h : Quiet w w') (h' : Quiet w' w'') : Quiet w w'' where
  now := h'.now.trans h.now
  config := h'.config.trans h.config
  gaps := h'.gaps.trans h.gaps
  observed := h'.observed.trans h.observed
  clientsNext := h.clientsNext.trans h'.clientsNext
  sequencesNext := h.sequencesNext.trans h'.sequencesNext
  owner q hq := (h'.owner q (hq.trans_le h.sequencesNext)).trans (h.owner q hq)
  client r := by
    rcases h'.client r with hs | ⟨hr, ip, hs⟩
    · rcases h.client r with hs₀ | ⟨hr, ip, hs₀⟩
      · exact .inl (hs₀.trans hs)
      · exact .inr ⟨hr, ip, hs₀.trans hs⟩
    · exact .inr ⟨h.clientsNext.trans hr, ip, h.config ▸ h.now ▸ hs⟩
  sequence r q hq := by
    rcases h'.sequence r q hq with hq' | hlt
    · exact (h.sequence r q hq').imp_right (·.trans_le h'.sequencesNext)
    · exact .inr hlt
  socket s hs := by
    rcases h'.socket s hs with ⟨hs', heq⟩ | hlt
    · rw [heq]
      exact (h.socket s hs').imp_right (·.trans_le h'.clientsNext)
    · exact .inr hlt
  registered ip r hr := by
    rcases h'.registered ip r hr with hr' | hlt
    · exact (h.registered ip r hr').imp_right (·.trans_le h'.clientsNext)
    · exact .inr hlt

theorem allocated (h : Quiet w w') (hw : w.Allocated) : w'.Allocated where
  sequence r q hq := by
    rcases h.sequence r q hq with hq₀ | hlt
    · exact (hw.sequence r q hq₀).trans_le h.sequencesNext
    · exact hlt
  gap g hg := (hw.gap g (h.gaps ▸ hg)).trans_le h.sequencesNext
  socket s hs := by
    rcases h.socket s hs with ⟨hs₀, heq⟩ | hlt
    · exact heq ▸ (hw.socket s hs₀).trans_le h.clientsNext
    · exact hlt
  registered ip r hr := by
    rcases h.registered ip r hr with hr₀ | hlt
    · exact (hw.registered ip r hr₀).trans_le h.clientsNext
    · exact hlt

/-- A link of one client is set. -/
theorem link (r : ClientRef) (f : ConnectedClient → ConnectedClient)
    (hf : ∀ c : ConnectedClient, c.Same (f c))
    (hq : ∀ c, (f c).wisprSequence = c.wisprSequence) :
    Quiet w { w with clients := w.clients.modify r f } :=
  { refl w with
    client := fun r' => .inl (by
      change (w.clients.read r').Same ((w.clients.modify r f).read r')
      rw [Heap.read_modify]
      split
      · exact hf _
      · exact .refl _)
    sequence := fun r' _ hr => .inl ((Heap.field_modify w.clients r r' _ hq).symm.trans hr) }

/-- A sequence keeps its client. -/
theorem ofSequence (q : SequenceRef) {f : WISPrSequence → WISPrSequence}
    (hf : ∀ s, (f s).client = s.client) :
    Quiet w { w with sequences := w.sequences.modify q f } :=
  { refl w with owner := fun _ _ => Heap.field_modify _ _ _ WISPrSequence.client hf }

/-- A socket keeps its client. -/
theorem ofSocket (s : SocketRef) (f : MicropaymentWebsocket → MicropaymentWebsocket)
    (hf : ∀ ws, (f ws).client = ws.client) :
    Quiet w { w with sockets := w.sockets.modify s f } :=
  { refl w with
    socket := fun _ hs =>
      .inl ⟨hs, Heap.field_modify _ _ _ MicropaymentWebsocket.client hf⟩ }

variable (w)

theorem setMachine (q : SequenceRef) (machine : WISPrMachine) : Quiet w (w.setMachine q machine) :=
  ofSequence q fun _ => rfl

theorem setWisprComplete (r : ClientRef) (complete : Bool) :
    Quiet w (w.setWisprComplete r complete) := by
  unfold World.setWisprComplete
  split
  · exact ofSequence _ fun _ => rfl
  · exact .refl w

theorem setWisprSequence (r : ClientRef) (s : WISPrSequence) :
    Quiet w (w.setWisprSequence r s) :=
  { refl w with
    sequencesNext := Nat.le_succ _
    owner := fun q hq => congrArg _ (Heap.read_alloc_old _ _ hq)
    client := fun r' => .inl (by
      change (w.clients.read r').Same ((w.clients.modify r _).read r')
      rw [Heap.read_modify]
      split
      · exact ⟨_, _, _, _, rfl⟩
      · exact .refl _)
    sequence := fun r' q hq => by
      change ((w.clients.modify r _).read r').wisprSequence = some q at hq
      rw [Heap.read_modify] at hq
      split at hq
      · obtain rfl : w.sequences.next = q := Option.some.inj hq
        exact .inr (Nat.lt_succ_self _)
      · exact .inl hq }

theorem removeConnectedClient (ip : IpAddress) : Quiet w (w.removeConnectedClient ip) :=
  { refl w with
    registered := fun ip' r hr => .inl (by
      change (w.ipList.erase ip).lookup ip' = some r at hr
      by_cases heq : ip' = ip
      · subst heq
        rw [AList.lookup_erase] at hr
        cases hr
      · rwa [AList.lookup_erase_ne heq] at hr) }

theorem removeWebsocket (ip : IpAddress) : Quiet w (w.removeWebsocket ip) :=
  { refl w with }

theorem setSocketState (s : SocketRef) (state : SocketState) :
    Quiet w (w.setSocketState s state) := ofSocket s _ fun _ => rfl

theorem stopReading (s : SocketRef) : Quiet w (w.stopReading s) := ofSocket s _ fun _ => rfl

theorem lookupClient (ip : IpAddress) : Quiet w (w.lookupClient ip).1 := by
  unfold World.lookupClient
  split
  · exact .refl w
  · -- either the cell is the new one, or it is as before
    have hread : ∀ r,
        (r = w.clients.next ∧ ((w.clients.alloc (.init ip w.config w.now)).2.read r) =
          .init ip w.config w.now) ∨
        (w.clients.alloc (.init ip w.config w.now)).2.read r = w.clients.read r := by
      intro r
      by_cases hr : r = w.clients.next
      · subst hr
        exact .inl ⟨rfl, Heap.read_alloc_new _ _⟩
      · exact .inr (Heap.read_alloc_ne _ _ hr)
    exact
      { refl w with
        clientsNext := Nat.le_succ _
        client := fun r => by
          change w.Linked r ((w.clients.alloc (.init ip w.config w.now)).2.read r)
          rcases hread r with ⟨hr, heq⟩ | heq
          · rw [heq]
            exact .inr ⟨hr.ge, ip, .refl _⟩
          · rw [heq]
            exact .inl (.refl _)
        sequence := fun r q hq => by
          change ((w.clients.alloc (.init ip w.config w.now)).2.read r).wisprSequence = _ at hq
          rcases hread r with ⟨-, heq⟩ | heq
          · rw [heq] at hq
            cases hq
          · exact .inl (heq ▸ hq)
        socket := fun _ hs => .inl ⟨hs, rfl⟩
        registered := fun ip' r hr => by
          change (w.ipList.insert ip w.clients.next).lookup ip' = some r at hr
          by_cases heq : ip' = ip
          · subst heq
            rw [AList.lookup_insert] at hr
            exact .inr (Option.some.inj hr ▸ Nat.lt_succ_self _)
          · rw [AList.lookup_insert_ne heq] at hr
            exact .inl hr }

/-- The client found or made exists. -/
theorem lookupClient_lt {w : World} (hw : w.Allocated) (ip : IpAddress) :
    (w.lookupClient ip).2 < (w.lookupClient ip).1.clients.next := by
  unfold World.lookupClient
  split
  · rename_i r hr
    exact hw.registered ip r hr
  · exact Nat.lt_succ_self _

theorem connectionClosed (s : SocketRef) : Quiet w (w.connectionClosed s) :=
  (ofSocket s (fun ws => { ws with connectionOpen := false }) fun _ => rfl).trans
    ((link _ (fun client => { client with channelOpen := false })
      (fun _ => ⟨_, _, _, _, rfl⟩) fun _ => rfl).trans (setWisprComplete _ _ _))

theorem onClose (s : SocketRef) : Quiet w (w.onClose s) := by
  unfold World.onClose
  split
  · exact .refl w
  · exact (connectionClosed w s).trans (removeWebsocket _ _)

theorem doClose (s : SocketRef) : Quiet w (w.doClose s) := by
  unfold World.doClose
  split
  · exact .refl w
  · exact (setSocketState w s _).trans (onClose _ s)

theorem close (s : SocketRef) : Quiet w (w.close s) := by
  unfold World.close
  split
  · exact setSocketState w s _
  · exact (setSocketState w s _).trans (doClose _ s)

theorem closed (s : SocketRef) : Quiet w (w.after (.closed s)) := by
  simp only [World.after]
  split
  · exact (doClose w s).trans (stopReading _ s)
  · exact .refl w

theorem ioException (s : SocketRef) : Quiet w (w.after (.ioException s)) := by
  simp only [World.after]
  split
  · exact ((removeWebsocket w _).trans (doClose _ s)).trans (stopReading _ s)
  · exact .refl w

theorem channelOpen (s : SocketRef) : Quiet w (w.after (.channelOpen s)) := by
  simp only [World.after]
  split
  · exact setWisprComplete w _ true
  · exact .refl w

theorem getSocketClient (ip : IpAddress) : Quiet w (w.getSocketClient ip).1 :=
  (lookupClient w ip).trans ((setWisprSequence _ _ _).trans
    (link _ (fun client => { client with channelOpen := true })
      (fun _ => ⟨_, _, _, _, rfl⟩) fun _ => rfl))

theorem acceptSocket (ip : IpAddress) {r : ClientRef} (hr : r < w.clients.next) :
    Quiet w (w.acceptSocket ip r) :=
  { link (w := w) r (fun client => { client with manager := some w.sockets.next })
      (fun _ => ⟨_, _, _, _, rfl⟩) fun _ => rfl with
    socket := fun s hs => by
      change (_ ∧ ((w.sockets.alloc _).2.read s).client = _) ∨
        ((w.sockets.alloc _).2.read s).client < _
      rcases Nat.lt_succ_iff_lt_or_eq.mp hs with hlt | rfl
      · rw [Heap.read_alloc_old _ _ hlt]
        exact .inl ⟨hlt, rfl⟩
      · rw [Heap.read_alloc_new]
        exact .inr hr }

theorem openWebSocket (hw : w.Allocated) (ip : IpAddress) : Quiet w (w.openWebSocket ip) :=
  (getSocketClient w ip).trans (acceptSocket _ ip (lookupClient_lt hw ip))

theorem getHttpClient (ip : IpAddress) (userAgent : Option String) :
    Quiet w (w.getHttpClient ip userAgent).1 := by
  unfold World.getHttpClient
  refine (lookupClient w ip).trans ?_
  dsimp only
  split
  · split
    · exact setWisprSequence _ _ _
    · exact .refl _
  · exact .refl _

end Quiet

/-! ## Methods of one client -/

namespace World

section onClient

variable (w : World) (r : ClientRef) (f : ConnectedClient → ConnectedClient)

theorem onClient_eq : w.onClient r f =
    { w with clients := w.clients.modify r f, scriptArgs := (w.onClient r f).scriptArgs } := by
  unfold onClient
  dsimp only
  split <;> rfl

@[simp] theorem onClient_clients : (w.onClient r f).clients = w.clients.modify r f := by
  rw [onClient_eq]

@[simp] theorem onClient_now : (w.onClient r f).now = w.now := by
  rw [onClient_eq]

@[simp] theorem onClient_config : (w.onClient r f).config = w.config := by
  rw [onClient_eq]

@[simp] theorem onClient_sequences : (w.onClient r f).sequences = w.sequences := by
  rw [onClient_eq]

@[simp] theorem onClient_gaps : (w.onClient r f).gaps = w.gaps := by
  rw [onClient_eq]

@[simp] theorem onClient_observed : (w.onClient r f).observed = w.observed := by
  rw [onClient_eq]

end onClient

/-- The sequence is an Apple one that waits for the form to be submitted. -/
def awaitsSubmit : WISPrMachine → Bool
  | .apple machine => machine.currentState = .wisprServed
  | _ => false

/-- The client for which a request opens a gap. -/
def opensGap (w : World) (ipAddress : IpAddress) (uri : String) (userAgent : Option String) :
    Option ClientRef :=
  if servedDirectly uri then none
  else
    let (w, r) := w.getHttpClient ipAddress userAgent
    match (w.clients.read r).wisprSequence with
    | some q =>
        if awaitsSubmit (w.sequences.read q).machine then some (w.sequences.read q).client
        else none
    | none => none

theorem serveSequence_cases (w : World) (q : SequenceRef) (uri : String) :
    (awaitsSubmit (w.sequences.read q).machine = true ∧
      ∃ machine, (w.serveSequence q uri).1 = w.openGap q machine) ∨
    (awaitsSubmit (w.sequences.read q).machine = false ∧
      Quiet w (w.serveSequence q uri).1) := by
  unfold serveSequence
  cases (w.sequences.read q).machine with
  | none => exact .inr ⟨rfl, .refl w⟩
  | apple machine =>
    dsimp only
    split
    · rename_i hstage
      exact .inl ⟨by simp [awaitsSubmit, hstage], machine, rfl⟩
    · rename_i hstage
      exact .inr ⟨by simpa [awaitsSubmit] using hstage, .setMachine w q _⟩
  | android machine =>
    refine .inr ⟨rfl, ?_⟩
    dsimp only
    split
    · exact .setMachine w q _
    · exact .setMachine w q _
    · exact .refl w
  | windows7 machine => exact .inr ⟨rfl, .setMachine w q _⟩
  | windows8 machine =>
    refine .inr ⟨rfl, ?_⟩
    dsimp only
    split
    · exact .setMachine w q _
    · split
      · exact .setMachine w q _
      · exact .setMachine w q _
      · exact .refl w
      · exact .setMachine w q _

/-- A request opens a gap after quiet operations, or it is quiet. -/
theorem serve_cases (w : World) (ip : IpAddress) (uri : String) (agent : Option String) :
    (∃ w₁ r₁ q machine, Quiet w w₁ ∧ (w₁.clients.read r₁).wisprSequence = some q ∧
      w.opensGap ip uri agent = some (w₁.sequences.read q).client ∧
      w.serve ip uri agent = w₁.openGap q machine) ∨
    (w.opensGap ip uri agent = none ∧ Quiet w (w.serve ip uri agent)) := by
  unfold serve opensGap
  split
  · exact .inr ⟨rfl, .refl w⟩
  · have hquiet := Quiet.getHttpClient w ip agent
    generalize w.getHttpClient ip agent = found at hquiet
    obtain ⟨w₁, r₁⟩ := found
    dsimp only at hquiet ⊢
    cases hq : (w₁.clients.read r₁).wisprSequence with
    | none => exact .inr ⟨rfl, hquiet⟩
    | some q =>
      rcases serveSequence_cases w₁ q uri with ⟨hawaits, machine, heq⟩ | ⟨hawaits, hserve⟩
      · exact .inl ⟨w₁, r₁, q, machine, hquiet, hq, if_pos hawaits, heq⟩
      · exact .inr ⟨if_neg (by simp [hawaits]), hquiet.trans hserve⟩

end World

/-! ## What an event can do to one client -/

/-- What an event leaves of a client `r`. -/
inductive Change (w : World) (r : ClientRef) : Event → ConnectedClient → Prop where
  | linked {e : Event} {c : ConnectedClient} : w.Linked r c → Change w r e c
  | opened {ip : IpAddress} {uri : String} {agent : Option String} {c : ConnectedClient} :
      w.opensGap ip uri agent = some r → w.Linked r c →
      Change w r (.request ip uri agent) (c.setConnectivityState .open)
  | gapExpired (gap : Gap) : gap ∈ w.gaps → gap.due ≤ w.now →
      (w.sequences.read gap.sequence).client = r →
      Change w r (.gapExpired gap)
        ((w.clients.read r).setConnectivityState .redirectToCaptivePortal)
  | reset {c : ConnectedClient} : (w.clients.read r).channelOpen = false →
      (w.clients.read r).Same c →
      Change w r (.reset r) (c.setConnectivityState .redirectToLocalhost)
  | reloaded (s : SocketRef) : s < w.sockets.next → (w.sockets.read s).client = r →
      Change w r (.reloaded s) ((w.clients.read r).setReloadedChannel true)
  | paid (s : SocketRef) (increase total : Int) : s < w.sockets.next →
      (w.sockets.read s).client = r →
      Change w r (.paymentIncrease s increase total)
        ((w.clients.read r).paymentIncrease w.now total)
  | checked : (w.clients.read r).sentryHandler = true → (w.clients.read r).ticking = none →
      Change w r (.check r) ((w.clients.read r).check w.now w.now)
  | acted {c : ConnectedClient} : (w.clients.read r).ticking.isSome = true →
      (w.clients.read r).act.Same c → Change w r (.act r) c

namespace Change

variable {w : World} {r : ClientRef}

theorem of_quiet {w' : World} {e : Event} (h : Quiet w w') :
    Change w r e (w'.clients.read r) := .linked (h.client r)

theorem of_eq {w' : World} {e : Event} (h : w'.clients = w.clients) :
    Change w r e (w'.clients.read r) := .linked (.inl (h ▸ .refl _))

/-- A method of one client leaves the others alone. -/
theorem of_modify {e : Event} (r₁ : ClientRef) {f : ConnectedClient → ConnectedClient}
    (h : r₁ = r → Change w r e (f (w.clients.read r))) :
    Change w r e ((w.clients.modify r₁ f).read r) := by
  rw [Heap.read_modify]
  split
  · rename_i heq
    exact h heq.symm
  · exact .linked (.inl (.refl _))

end Change

/-- What follows a method of a client leaves it alone. -/
theorem World.onClient_linked {w w' : World} {r₁ r : ClientRef}
    {f : ConnectedClient → ConnectedClient} (h : Quiet (w.onClient r₁ f) w') :
    (r₁ = r ∧ (f (w.clients.read r)).Same (w'.clients.read r)) ∨
      w.Linked r (w'.clients.read r) := by
  rcases h.client r with hsame | hfresh
  · rw [onClient_clients, Heap.read_modify] at hsame
    split at hsame
    · rename_i heq
      exact .inl ⟨heq.symm, hsame⟩
    · exact .inr (.inl hsame)
  · simp only [onClient_clients, onClient_config, onClient_now, Heap.next_modify] at hfresh
    exact .inr (.inr hfresh)

/-- `disconnect` is quiet after the client's own method. -/
theorem World.disconnect_quiet (w : World) (r : ClientRef) :
    Quiet (w.onClient r ConnectedClient.act) (w.disconnect r) := by
  unfold World.disconnect
  dsimp only
  have hremove := Quiet.removeConnectedClient (w.onClient r ConnectedClient.act)
    (w.clients.read r).ipAddress
  split
  · split
    · exact hremove.trans (.close _ _)
    · exact hremove
  · exact hremove

theorem World.actTimer_change (w : World) (r₁ r : ClientRef) :
    Change w r (.act r₁) ((w.actTimer r₁).clients.read r) := by
  unfold World.actTimer
  split
  · exact .of_eq rfl
  · rename_i hticking
    rw [onClient_clients]
    refine .of_modify r₁ ?_
    rintro rfl
    exact .acted (by simp [hticking]) (.refl _)
  · rename_i hticking
    rcases onClient_linked (r := r) (w.disconnect_quiet r₁) with ⟨rfl, hsame⟩ | hlinked
    · exact .acted (by simp [hticking]) hsame
    · exact .linked hlinked

theorem World.checkTimer_change (w : World) (r₁ r : ClientRef) :
    Change w r (.check r₁) ((w.checkTimer r₁).clients.read r) := by
  unfold World.checkTimer
  dsimp only
  split
  · rename_i hruns
    rw [onClient_clients]
    refine .of_modify r₁ ?_
    rintro rfl
    exact .checked hruns.1 hruns.2
  · exact .of_eq rfl

theorem World.gapExpired_change (w : World) (gap : Gap) (r : ClientRef) :
    Change w r (.gapExpired gap) ((w.gapExpired gap).clients.read r) := by
  unfold World.gapExpired
  split
  · rename_i hdue
    dsimp only
    rw [onClient_clients]
    refine .of_modify _ ?_
    intro howner
    exact .gapExpired gap hdue.1 hdue.2 howner
  · exact .of_eq rfl

theorem World.reset_change (w : World) (r₁ r : ClientRef) :
    Change w r (.reset r₁) ((w.reset r₁).clients.read r) := by
  unfold World.reset
  dsimp only
  split
  · exact .of_eq rfl
  · split
    · split
      · refine .of_modify r₁ ?_
        rintro rfl
        exact .linked (.inl ⟨_, _, _, _, rfl⟩)
      · rename_i hclosed
        split
        · rw [onClient_clients, Heap.modify_modify]
          refine .of_modify r₁ ?_
          rintro rfl
          exact .reset (by simpa using hclosed) ⟨_, _, _, _, rfl⟩
        · refine .of_modify r₁ ?_
          rintro rfl
          exact .linked (.inl ⟨_, _, _, _, rfl⟩)
    · exact .of_eq rfl

theorem World.serve_change (w : World) (ip : IpAddress) (uri : String) (agent : Option String)
    (r : ClientRef) :
    Change w r (.request ip uri agent) ((w.serve ip uri agent).clients.read r) := by
  rcases w.serve_cases ip uri agent with ⟨w₁, r₁, q, machine, hquiet, -, hopens, heq⟩ | ⟨-, hquiet⟩
  · rw [heq]
    change Change w r _ ((World.onClient _ _ _).clients.read r)
    rw [onClient_clients]
    change Change w r _ ((w₁.clients.modify _ _).read r)
    rw [Heap.read_modify]
    split
    · rename_i howner
      subst howner
      exact .opened hopens (hquiet.client _)
    · exact .linked (hquiet.client r)
  · exact .of_quiet hquiet

/-- Every event is one of the changes of `Change` to every client. -/
theorem World.after_change {w : World} (hw : w.Allocated) (e : Event) (r : ClientRef) :
    Change w r e ((w.after e).clients.read r) := by
  cases e with
  | elapse millis => exact .of_eq rfl
  | save config => exact .of_eq rfl
  | handshake ip => exact .of_quiet (.openWebSocket w hw ip)
  | closed s => exact .of_quiet (.closed w s)
  | ioException s => exact .of_quiet (.ioException w s)
  | close s => exact .of_quiet (.close w s)
  | request ip uri agent => exact w.serve_change ip uri agent r
  | channelOpen s => exact .of_quiet (.channelOpen w s)
  | reloaded s =>
    simp only [after]
    split
    · rename_i hs
      rw [onClient_clients]
      exact .of_modify _ fun heq => .reloaded s hs heq
    · exact .of_eq rfl
  | paymentIncrease s increase total =>
    simp only [after]
    split
    · rename_i hs
      rw [onClient_clients]
      exact .of_modify _ fun heq => .paid s increase total hs heq
    · exact .of_eq rfl
  | check r₁ => exact w.checkTimer_change r₁ r
  | act r₁ => exact w.actTimer_change r₁ r
  | gapExpired gap => exact w.gapExpired_change gap r
  | reset r₁ => exact w.reset_change r₁ r

/-! ## What an event keeps -/

namespace ConnectedClient

variable (client : ConnectedClient)

@[simp] theorem setPaymentState_wisprSequence (state : PaymentState) :
    (client.setPaymentState state).wisprSequence = client.wisprSequence := by
  cases state <;> rfl

theorem paymentIncrease_wisprSequence (now total : Int) :
    (client.paymentIncrease now total).wisprSequence = client.wisprSequence := by
  unfold paymentIncrease
  split
  · rfl
  · unfold payed
    split <;> simp

theorem check_wisprSequence (now later : Int) :
    (client.check now later).wisprSequence = client.wisprSequence := by
  unfold check
  split
  · dsimp only
    split <;> simp
  · rfl

theorem act_wisprSequence : client.act.wisprSequence = client.wisprSequence := by
  unfold act
  dsimp only
  split <;> simp

theorem setReloadedChannel_wisprSequence (reloaded : Bool) :
    (client.setReloadedChannel reloaded).wisprSequence = client.wisprSequence := by
  unfold setReloadedChannel
  split <;> rfl

end ConnectedClient

/-- Objects stay, and sequences keep their client. -/
structure Extends (w w' : World) : Prop where
  clientsNext : w.clients.next ≤ w'.clients.next
  sequencesNext : w.sequences.next ≤ w'.sequences.next
  owner : ∀ q, q < w.sequences.next → (w'.sequences.read q).client = (w.sequences.read q).client
  allocated : w.Allocated → w'.Allocated

namespace Extends

variable {w w' w'' : World}

theorem of_quiet (h : Quiet w w') : Extends w w' :=
  ⟨h.clientsNext, h.sequencesNext, h.owner, h.allocated⟩

theorem trans (h : Extends w w') (h' : Extends w' w'') : Extends w w'' where
  clientsNext := h.clientsNext.trans h'.clientsNext
  sequencesNext := h.sequencesNext.trans h'.sequencesNext
  owner q hq := (h'.owner q (hq.trans_le h.sequencesNext)).trans (h.owner q hq)
  allocated hw := h'.allocated (h.allocated hw)

/-- A method of a client that keeps its sequence. -/
theorem modify (w : World) (r : ClientRef) {f : ConnectedClient → ConnectedClient}
    (hf : ∀ c, (f c).wisprSequence = c.wisprSequence) :
    Extends w { w with clients := w.clients.modify r f } where
  clientsNext := le_rfl
  sequencesNext := le_rfl
  owner _ _ := rfl
  allocated hw :=
    { hw with
      sequence := fun r' q hq =>
        hw.sequence r' q ((Heap.field_modify w.clients r r' _ hf).symm.trans hq) }

theorem onClient (w : World) (r : ClientRef) {f : ConnectedClient → ConnectedClient}
    (hf : ∀ c, (f c).wisprSequence = c.wisprSequence) : Extends w (w.onClient r f) := by
  rw [World.onClient_eq]
  have h := modify w r hf
  exact ⟨h.clientsNext, h.sequencesNext, h.owner, fun hw => { h.allocated hw with }⟩

theorem openGap (w : World) {q : SequenceRef} (machine : StateMachine AppleStage)
    (hq : q < w.sequences.next) : Extends w (w.openGap q machine) := by
  have h := (of_quiet (.setMachine w q
    (.apple (machine.setState AppleStage.transitionIsValid .wisprSubmitted)))).trans
    (onClient _ (w.sequences.read q).client
      (f := fun client => client.setConnectivityState .open) fun _ => rfl)
  refine ⟨h.clientsNext, h.sequencesNext, h.owner, fun hw => ?_⟩
  refine { h.allocated hw with gap := fun g hg => ?_ }
  rcases List.mem_cons.mp hg with rfl | hg
  · exact hq.trans_le h.sequencesNext
  · exact (h.allocated hw).gap g hg

theorem gapExpired (w : World) (gap : Gap) : Extends w (w.gapExpired gap) := by
  unfold World.gapExpired
  split
  · have herase : Extends w { w with gaps := w.gaps.erase gap } :=
      ⟨le_rfl, le_rfl, fun _ _ => rfl, fun hw =>
        { hw with gap := fun g hg => hw.gap g (List.mem_of_mem_erase hg) }⟩
    have hportal := onClient { w with gaps := w.gaps.erase gap }
      (w.sequences.read gap.sequence).client
      (f := fun client => client.setConnectivityState .redirectToCaptivePortal) fun _ => rfl
    exact (herase.trans hportal).trans (of_quiet (.ofSequence gap.sequence fun _ => rfl))
  · exact of_quiet (.refl w)

theorem actTimer (w : World) (r : ClientRef) : Extends w (w.actTimer r) := by
  unfold World.actTimer
  split
  · exact of_quiet (.refl w)
  · exact onClient w r ConnectedClient.act_wisprSequence
  · exact (onClient w r ConnectedClient.act_wisprSequence).trans
      (of_quiet (w.disconnect_quiet r))

theorem checkTimer (w : World) (r : ClientRef) : Extends w (w.checkTimer r) := by
  unfold World.checkTimer
  dsimp only
  split
  · have h := onClient w r fun c => ConnectedClient.check_wisprSequence c w.now w.now
    exact ⟨h.clientsNext, h.sequencesNext, h.owner, fun hw => { h.allocated hw with }⟩
  · exact of_quiet (.refl w)

theorem reset (w : World) (r : ClientRef) : Extends w (w.reset r) := by
  unfold World.reset
  dsimp only
  split
  · exact of_quiet (.refl w)
  · split
    · split
      · exact modify w r fun _ => rfl
      · rename_i due _ _ _
        have hnext := modify w r (f := fun client =>
          { client with resetHandler := some (due + resetFrequency) }) fun _ => rfl
        split
        · exact hnext.trans (onClient _ r fun _ => rfl)
        · exact hnext
    · exact of_quiet (.refl w)

end Extends

theorem World.after_extends {w : World} (hw : w.Allocated) (e : Event) :
    Extends w (w.after e) := by
  cases e with
  | elapse millis => exact ⟨le_rfl, le_rfl, fun _ _ => rfl, fun hw => { hw with }⟩
  | save config => exact ⟨le_rfl, le_rfl, fun _ _ => rfl, fun hw => { hw with }⟩
  | handshake ip => exact .of_quiet (.openWebSocket w hw ip)
  | closed s => exact .of_quiet (.closed w s)
  | ioException s => exact .of_quiet (.ioException w s)
  | close s => exact .of_quiet (.close w s)
  | request ip uri agent =>
    rcases w.serve_cases ip uri agent with ⟨w₁, r₁, q, machine, hquiet, hq, -, heq⟩ | ⟨-, hquiet⟩
    · simp only [after, heq]
      exact (Extends.of_quiet hquiet).trans
        (.openGap w₁ machine ((hquiet.allocated hw).sequence r₁ q hq))
    · exact .of_quiet hquiet
  | channelOpen s => exact .of_quiet (.channelOpen w s)
  | reloaded s =>
    simp only [after]
    split
    · exact .onClient w _ fun c => ConnectedClient.setReloadedChannel_wisprSequence c true
    · exact .of_quiet (.refl w)
  | paymentIncrease s increase total =>
    simp only [after]
    split
    · exact .onClient w _ fun c => ConnectedClient.paymentIncrease_wisprSequence c w.now total
    · exact .of_quiet (.refl w)
  | check r => exact .checkTimer w r
  | act r => exact .actTimer w r
  | gapExpired gap => exact .gapExpired w gap
  | reset r => exact .reset w r

theorem World.initial_allocated (now : Int) (config : BitmeshConfiguration)
    (inFace outFace : InterfaceName) : (World.initial now config inFace outFace).Allocated where
  sequence _ _ hq := by cases hq
  gap _ hg := by cases hg
  socket _ hs := absurd hs (Nat.not_lt_zero _)
  registered _ _ hr := by cases hr

/-- The invariant rule for runs of the access point: what an event keeps
is proved of worlds whose objects exist. -/
theorem run_invariant {ok : World → Event → Prop} {now : Int} {config : BitmeshConfiguration}
    {inFace outFace : InterfaceName} {I : World → Prop}
    (h₀ : I (.initial now config inFace outFace))
    (hstep : ∀ w e, w.Allocated → ok w e → I w → I (w.after e)) {w : World}
    (hrun : Reaches World.after ok (.initial now config inFace outFace) w) :
    w.Allocated ∧ I w := by
  refine hrun.invariant (I := fun w => w.Allocated ∧ I w)
    ⟨World.initial_allocated now config inFace outFace, h₀⟩ ?_
  rintro w e hok ⟨hw, hI⟩
  exact ⟨(World.after_extends hw e).allocated hw, hstep w e hw hok hI⟩

/-! ## What is observed -/

/-- The time an event takes. -/
def Event.millis : Event → Int
  | .elapse millis => millis
  | _ => 0

theorem Event.millis_nonneg (e : Event) : 0 ≤ e.millis := by
  cases e <;> simp [Event.millis]

/-- The event is a tick of client `r`. -/
def World.Ticks (w : World) (r : ClientRef) (e : Event) : Prop :=
  e = .check r ∧ (w.clients.read r).sentryHandler = true ∧ (w.clients.read r).ticking = none

/-- What an event adds to the times observed of a client. -/
structure Observes (w : World) (r : ClientRef) (e : Event) (w' : World) : Prop where
  now : w'.now = w.now + e.millis
  openMillis : (w'.observed r).openMillis = (w.observed r).openMillis +
    (if (w.clients.read r).getConnectivityState = .open then e.millis else 0)
  gracedMillis : (w'.observed r).gracedMillis = (w.observed r).gracedMillis +
    (if (w.clients.read r).getPaymentState = .graced then e.millis else 0)
  lastTick : ¬ w.Ticks r e → (w'.observed r).lastTick = (w.observed r).lastTick
  gaps : (w.observed r).gaps ≤ (w'.observed r).gaps

namespace Observes

variable {w w' : World} {r : ClientRef} {e : Event}

theorem of_eq (hmillis : e.millis = 0) (hnow : w'.now = w.now)
    (hobserved : w'.observed r = w.observed r) : Observes w r e w' where
  now := by rw [hnow, hmillis, add_zero]
  openMillis := by rw [hobserved, hmillis, ite_self, add_zero]
  gracedMillis := by rw [hobserved, hmillis, ite_self, add_zero]
  lastTick _ := by rw [hobserved]
  gaps := by rw [hobserved]

theorem of_quiet (hmillis : e.millis = 0) (h : Quiet w w') : Observes w r e w' :=
  of_eq hmillis h.now (by rw [h.observed])

theorem after_quiet {w'' : World} (hmillis : e.millis = 0) (hcheck : e ≠ .check r)
    (h : Quiet w w') (h' : Observes w' r e w'') : Observes w r e w'' where
  now := by rw [h'.now, h.now]
  openMillis := by rw [h'.openMillis, h.observed, hmillis, ite_self, ite_self]
  gracedMillis := by rw [h'.gracedMillis, h.observed, hmillis, ite_self, ite_self]
  lastTick _ := by
    rw [h'.lastTick fun hticks => hcheck hticks.1, h.observed]
  gaps := by
    have hgaps := h'.gaps
    rwa [h.observed] at hgaps

end Observes

theorem World.checkTimer_observes (w : World) (r₁ r : ClientRef) :
    Observes w r (.check r₁) (w.checkTimer r₁) := by
  unfold World.checkTimer
  dsimp only
  split
  · rename_i hruns
    by_cases hr : r = r₁
    · subst hr
      exact
        { now := by simp [Event.millis]
          openMillis := by simp [Event.millis]
          gracedMillis := by simp [Event.millis]
          lastTick := fun hticks => absurd ⟨rfl, hruns⟩ hticks
          gaps := by simp }
    · exact .of_eq rfl (by simp) (by simp [hr])
  · exact .of_eq rfl rfl rfl

/-- The first step of a tick. -/
theorem World.after_tick {w : World} {r : ClientRef} (h : w.Ticks r (.check r)) :
    (w.after (.check r)).clients.read r = (w.clients.read r).check w.now w.now ∧
      ((w.after (.check r)).observed r).lastTick = w.now := by
  simp [after, checkTimer, h.2]

theorem World.openGap_observes (w : World) (q : SequenceRef) (machine : StateMachine AppleStage)
    {e : Event} (hmillis : e.millis = 0) (r : ClientRef) :
    Observes w r e (w.openGap q machine) := by
  by_cases hr : r = (w.sequences.read q).client
  · subst hr
    exact
      { now := by simp [openGap, setMachine, hmillis]
        openMillis := by simp [openGap, setMachine, hmillis]
        gracedMillis := by simp [openGap, setMachine, hmillis]
        lastTick := fun _ => by simp [openGap, setMachine]
        gaps := by simp [openGap, setMachine] }
  · exact .of_eq hmillis (by simp [openGap, setMachine]) (by simp [openGap, setMachine, hr])

/-- Only the passing of time adds to what is observed. -/
theorem World.after_observes {w : World} (hw : w.Allocated) (e : Event) (r : ClientRef) :
    Observes w r e (w.after e) := by
  cases e with
  | elapse millis =>
    exact ⟨rfl, rfl, rfl, fun _ => rfl, le_rfl⟩
  | save config => exact .of_eq rfl rfl rfl
  | handshake ip => exact .of_quiet rfl (.openWebSocket w hw ip)
  | closed s => exact .of_quiet rfl (.closed w s)
  | ioException s => exact .of_quiet rfl (.ioException w s)
  | close s => exact .of_quiet rfl (.close w s)
  | request ip uri agent =>
    rcases w.serve_cases ip uri agent with ⟨w₁, r₁, q, machine, hquiet, -, -, heq⟩ | ⟨-, hquiet⟩
    · simp only [after, heq]
      exact .after_quiet rfl nofun hquiet (w₁.openGap_observes q machine rfl r)
    · exact .of_quiet rfl hquiet
  | channelOpen s => exact .of_quiet rfl (.channelOpen w s)
  | reloaded s =>
    simp only [after]
    split
    · exact .of_eq rfl (by simp) (by simp)
    · exact .of_eq rfl rfl rfl
  | paymentIncrease s increase total =>
    simp only [after]
    split
    · exact .of_eq rfl (by simp) (by simp)
    · exact .of_eq rfl rfl rfl
  | check r₁ => exact w.checkTimer_observes r₁ r
  | act r₁ =>
    simp only [after, actTimer]
    split
    · exact .of_eq rfl rfl rfl
    · exact .of_eq rfl (by simp) (by simp)
    · have hquiet := w.disconnect_quiet r₁
      exact .of_eq rfl (by simp [hquiet.now]) (by simp [hquiet.observed])
  | gapExpired gap =>
    simp only [after, gapExpired]
    split
    · exact .of_eq rfl (by simp) (by simp)
    · exact .of_eq rfl rfl rfl
  | reset r₁ =>
    simp only [after, reset]
    split
    · exact .of_eq rfl rfl rfl
    · split
      · split
        · exact .of_eq rfl rfl rfl
        · split
          · exact .of_eq rfl (by simp) (by simp)
          · exact .of_eq rfl rfl rfl
      · exact .of_eq rfl rfl rfl

end BitMesh.Sentry
