import BitMesh.Channels.Client
import BitMesh.Channels.Connections

/-!
# The key that PRICE announces

PRICE tells the client which key of the server goes into the redeem
script. A state signs with the key its connection has when PROVIDE_REFUND
arrives. The two are the same as long as the connection keeps its key, but
`receiveVersionMessage` replaces it right after it has announced it, for
every app that negotiates a new channel.
-/

namespace BitMesh.Channels

open BitMesh.Bitcoin BitMesh.Lib

variable {p : Platform} {start : World} {a : Env × Action} {w w' : World}

/-! ## The condition -/

instance (w : World) (c : ConnRef) (msg : TwoWayChannelMessage) (version : ClientVersion) :
    Decidable (AppVersion w c msg version) :=
  decidable_of_iff
    (msg.type = .clientVersion ∧ msg.clientVersion = some version ∧
      version.major = serverMajorVersion ∧ version.minor = appMinorVersion ∧
      (w.servers.read c).step = .waitingOnClientVersion ∧ resumedChannel w version = none)
    ⟨fun h => ⟨h.1, h.2.1, h.2.2.1, h.2.2.2.1, h.2.2.2.2.1, h.2.2.2.2.2⟩,
      fun h => ⟨h.type, h.version_eq, h.major, h.minor, h.step, h.unknown⟩⟩

/-- An app that negotiates a new channel gets a key that is the one the
connection had. -/
def KeepsKey (p : Platform) (w : World) (i : Env × Input) : Prop :=
  match i.2 with
  | .message c msg => ∀ version ∈ msg.clientVersion, AppVersion w c msg version →
      (ECKey.fromPrivate p.toBitcoinj i.1.freshKey).pub = (w.servers.read c).myKey.pub
  | _ => True

instance (w : World) (i : Env × Input) : Decidable (KeepsKey p w i) :=
  match i with
  | (_, .message _ msg) =>
      inferInstanceAs (Decidable (∀ version ∈ msg.clientVersion, AppVersion _ _ _ version → _))
  | (_, .newServer _ _) | (_, .connectionOpen _ _) | (_, .funding _ _) | (_, .broadcastDone _ _)
  | (_, .autoClose _) | (_, .connectionClosed _) | (_, .serverClose _)
  | (_, .confidence _ _) => isTrue trivial

/-- Under that condition a connection keeps its public key. -/
theorem KeepsKey.pub_kept (hok : OnInputs (KeepsKey p) start a) (he : Effect p start a w w')
    {c : ConnRef} (hc : c < w.servers.next) :
    (w'.servers.read c).myKey.pub = (w.servers.read c).myKey.pub := by
  rcases he.myKey c with ⟨hsame, -⟩ | ⟨msg, version, ha, hv, hold, hnew⟩ | ⟨heq, -⟩
  · rw [hsame]
  · obtain ⟨i, hi, hok⟩ := hok
    obtain rfl : i = .message c msg := Action.input.inj (hi.symm.trans ha)
    rw [hnew, hold]
    exact hok version hv.version_eq hv
  · exact absurd heq (Nat.ne_of_lt hc)

/-! ## Announced and captured keys -/

/-- A connection has the key it announced, and the state it is negotiating
has the key of its connection. -/
structure SameKey (w : World) : Prop where
  announced : ∀ c price key, .sent c (.price price key) ∈ w.trace →
    (w.servers.read c).myKey.pub = key
  captured : ∀ c s, (w.servers.read c).state = some s → ¬ Bound w s →
    (w.states.read s).serverKey.pub = (w.servers.read c).myKey.pub

theorem SameKey.initial (autosave : Bool) : SameKey (World.initial autosave) where
  announced _ _ _ h := nomatch h
  captured _ _ h := nomatch h

section Step

variable (hi : SameKey w) (he : Effect p start a w w') (hok : OnInputs (KeepsKey p) start a)
  (hw : Connections w)
include hi he hok hw

theorem SameKey.announced_step {c : ConnRef} {price : Int} {key : Bytes}
    (hmem : .sent c (.price price key) ∈ w'.trace) : (w'.servers.read c).myKey.pub = key := by
  rcases he.trace_of rfl hmem with hold | hnew
  · rw [KeepsKey.pub_kept hok he (hw.event _ c hold rfl rfl)]
    exact hi.announced c price key hold
  · cases hnew with
    | announced _ _ _ hservers _ => rw [hservers]

theorem SameKey.captured_step (ha : Allocated w) (hr : Records p w) {c : ConnRef} {s : StateRef}
    (hc : (w'.servers.read c).state = some s) (hs : ¬ Bound w' s) :
    (w'.states.read s).serverKey.pub = (w'.servers.read c).myKey.pub := by
  rcases he.serverState hc with hold | hnew
  · have hlt := ha.server c s hold
    have hbefore : ¬ Bound w s := fun hbound => hs (he.keepsTerms hlt hbound).bound
    rw [he.serverKey hlt, KeepsKey.pub_kept hok he (hw.state c s hold)]
    exact hi.captured c s hold hbefore
  · cases hnew with
    | refund _ _ _ hlt _ _ _ hnew =>
      -- the new state is made with the key of the connection
      rw [hnew, KeepsKey.pub_kept hok he hlt]
    | resumed h r _ _ hm hst _ _ _ _ hsame =>
      -- a stored channel is open
      have hready := (hr.tied s r (hr.held h r s hm hst)).ready
      refine absurd ?_ hs
      rw [Bound, hsame, hready]
      decide

end Step

theorem Passed.sameKey {autosave : Bool} (h : Passed p (OnInputs (KeepsKey p)) autosave w) :
    SameKey w :=
  Visited.invariant (.initial autosave)
    (fun _ _ _ _ hs hok hpath _ hi he =>
      have ht := hs.path hok hpath
      have hw := Passed.connections ht
      { announced := fun _ _ _ hmem => hi.announced_step he hok hw hmem
        captured := fun _ _ hc hs =>
          hi.captured_step he hok hw (Passed.allocated ht) (Passed.records ht) hc hs }) h

/-- In a run in which no app gets another key, the redeem script that is
signed for or compared has the key that PRICE announced. -/
theorem announced_key_is_used {autosave : Bool} (h : Reached p (KeepsKey p) autosave w)
    (later earlier : List Event) (c : ConnRef) (price : Int) (key used : Bytes)
    (hused : w.trace = later ++ .keyUsed c used :: earlier)
    (hprice : .sent c (.price price key) ∈ earlier) : used = key := by
  obtain ⟨start, a, v, v', hv⟩ := Passed.emitted (Reached.passed h) rfl hused
  have hv' : Passed p (OnInputs (KeepsKey p)) autosave v' :=
    .effect a hv.passed hv.ok hv.path hv.effect
  have hannounced := (Passed.sameKey hv').announced c price key (hv.after _ rfl hprice)
  cases hv.emitted with
  | keyUsed _ s hc hs hservers =>
    have hfree : ¬ Bound v s := fun hbound => hbound.ne_contract hs
    rw [hservers] at hannounced
    rw [(Passed.sameKey hv.passed_before).captured c s hc hfree]
    exact hannounced

/-- CLIENT_VERSION of a micropayment browser. -/
def Client.browserVersion : TwoWayChannelMessage where
  type := .clientVersion
  clientVersion := some {
    major := serverMajorVersion
    minor := browserMicropaymentsMinorVersion }

/-- A browser's refund is signed with the key it was told. -/
theorem announced_key_is_used_browser :
    let w := Client.run (Client.connect 0 ++
      [.message 0 Client.browserVersion, .message 0 (Client.provideRefund [1, 255])])
    ∃ later earlier used, w.trace = later ++ .keyUsed 0 used :: earlier ∧
      .sent 0 (.price 100 Reference.serverKey) ∈ earlier ∧ used = Reference.serverKey := by
  intro w
  have hreached : Reached Client.platform (KeepsKey Client.platform) true w :=
    .along .start (by decide +kernel)
  have hused : w.trace = w.trace.take 2 ++ .keyUsed 0 Reference.serverKey :: w.trace.drop 3 := by
    decide +kernel
  have hprice : .sent 0 (.price 100 Reference.serverKey) ∈ w.trace.drop 3 := by decide +kernel
  exact ⟨_, _, _, hused, hprice,
    announced_key_is_used hreached _ _ 0 100 Reference.serverKey _ hused hprice⟩

/-- An app is told one key and gets its refund signed with another. -/
theorem app_is_announced_another_key :
    ∃ w, Reached Client.platform (fun _ _ => True) true w ∧
      ∃ later earlier c price key used, w.trace = later ++ .keyUsed c used :: earlier ∧
        .sent c (.price price key) ∈ earlier ∧ used ≠ key := by
  let inputs := (Client.connect 0).map (Client.env, ·) ++
    [({ Client.env with freshKey := [11] }, .message 0 Client.version),
      (Client.env, .message 0 (Client.provideRefund [1, 255]))]
  let w := (World.initial true).run Client.platform inputs
  refine ⟨w, Reaches.foldl _ .start, w.trace.take 2, w.trace.drop 3, 0, 100,
    Reference.serverKey, [11], ?_⟩
  decide +kernel

end BitMesh.Channels
