import BitMesh.Channels.Client
import BitMesh.Channels.Quotes
import BitMesh.Sentry.Client

/-!
# What a client is charged

A `ConnectedClient` knows two configurations. PRICE and the
acknowledgements of macropayments read the copy it made when it was
created; its meter reads the object the server had at that time.
`makeCopy` exchanges the two prices, the copy is asked for the maximum
and the meter for the negotiated price, and `/save` puts another object in
the server's place. Configurations are objects on a heap here, because it
matters which of them are the same.
-/

namespace BitMesh.Server

open BitMesh.Lib BitMesh.Sentry BitMesh.Channels

/-! ## Configurations and clients -/

abbrev ConfigRef := Nat

/-- What sort of meter a client has, and the configuration it reads. -/
inductive Meter where
  | time (config : ConfigRef)
  | data (config : ConfigRef)
  deriving DecidableEq, Repr

def Meter.config : Meter → ConfigRef
  | .time config | .data config => config

/-- The constructor's choice of a meter. -/
def Meter.new (purchaseUnit : PurchaseUnit) (config : ConfigRef) : Meter :=
  match purchaseUnit with
  | .timeUnit => .time config
  | .dataUnit => .data config

/-- A `ConnectedClient`, as far as prices go. -/
structure PricedClient where
  ipAddress : IpAddress
  config : ConfigRef
  sentryLogic : Meter

/-- The server with its dashboard and its payment channels. -/
structure World where
  configs : Heap BitmeshConfiguration
  /-- `server.getConfig()`. -/
  config : ConfigRef
  clients : Heap PricedClient
  ipList : AList fun _ : IpAddress => ClientRef
  channels : Channels.World
  /-- `PaymentChannelServer.client`. -/
  client : ConnRef → Option ClientRef

namespace World

/-- The server after its start, with what `getConfigFromPreferences` found. -/
def initial (autosave : Bool) (purchaseUnit : PurchaseUnit) (maxPrice minPrice : Int) :
    World where
  configs := ((Heap.empty (.new .timeUnit 0 0)).alloc (.new purchaseUnit maxPrice minPrice)).2
  config := 0
  clients := .empty ⟨clientAddress, 0, .time 0⟩
  ipList := ∅
  channels := Channels.World.initial autosave
  client _ := none

variable (w : World)

/-- `/save`. The unit it is sent is ignored. -/
def save (minPrice maxPrice : Int) : World :=
  { w with
    configs := (w.configs.alloc (.new .timeUnit maxPrice minPrice)).2
    config := w.configs.next }

/-- `new ConnectedClient(ipAddress, server.getConfig())`, put into the table. -/
def addClient (ipAddress : IpAddress) : World :=
  let config := w.configs.read w.config
  { w with
    configs := (w.configs.alloc config.makeCopy).2
    clients := (w.clients.alloc {
      ipAddress := ipAddress
      config := w.configs.next
      sentryLogic := .new config.purchaseUnit w.config }).2
    ipList := w.ipList.insert ipAddress w.clients.next }

/-- `ConnectivitySentry.getClient`. -/
def getClient (ipAddress : IpAddress) : World × ClientRef :=
  match w.ipList.lookup ipAddress with
  | some r => (w, r)
  | none => (w.addClient ipAddress, w.clients.next)

variable (p : Platform)

/-- `connectionOpen` of a websocket's listener, for a connection that is
not open yet. -/
def connectionOpen (env : Env) (c : ConnRef) (ipAddress : IpAddress) : World :=
  let (w, r) := w.getClient ipAddress
  if c < w.channels.servers.next ∧ (w.channels.servers.read c).client.isNone then
    let copy := w.configs.read (w.clients.read r).config
    { w with
      channels := w.channels.next p
        (env, .connectionOpen c ⟨copy.maxPrice, copy.negotiatedPrice⟩)
      client := Function.update w.client c (some r) }
  else w

/-- The configurations once a message was handled: `receiveFundingAddress`
sets the negotiated price of the client's copy. -/
def negotiated (channels : Channels.World) : Channels.Input → Heap BitmeshConfiguration
  | .message c _ =>
      match w.client c, (channels.servers.read c).client with
      | some r, some config =>
          if (w.channels.servers.read c).client.map (·.negotiatedPrice)
              = some config.negotiatedPrice then
            w.configs
          else
            w.configs.modify (w.clients.read r).config
              (·.setNegotiatedPrice config.negotiatedPrice)
      | _, _ => w.configs
  | _ => w.configs

/-- The payment channels take an input. -/
def drive (env : Env) (i : Channels.Input) : World :=
  let channels := w.channels.next p (env, i)
  { w with channels := channels, configs := w.negotiated channels i }

end World

/-! ## Runs -/

inductive Input where
  | save (minPrice maxPrice : Int)
  /-- An HTTP request that comes to the portal. -/
  | request (ipAddress : IpAddress)
  | connectionOpen (env : Env) (c : ConnRef) (ipAddress : IpAddress)
  /-- A client that stopped paying is taken out of the table. -/
  | removeConnectedClient (ipAddress : IpAddress)
  /-- Anything else that reaches the payment channels. -/
  | channels (env : Env) (i : Channels.Input)

def World.next (p : Platform) (w : World) : Input → World
  | .save minPrice maxPrice => w.save minPrice maxPrice
  | .request ipAddress => (w.getClient ipAddress).1
  | .connectionOpen env c ipAddress => w.connectionOpen p env c ipAddress
  | .removeConnectedClient ipAddress => { w with ipList := w.ipList.erase ipAddress }
  | .channels _ (.connectionOpen _ _) => w
  | .channels env i => w.drive p env i

def World.run (p : Platform) (w : World) (is : List Input) : World :=
  is.foldl (World.next p) w

/-! ## Prices -/

/-- The price in the copy of a client, which it is quoted. -/
def World.quote (w : World) (r : ClientRef) : Int :=
  (w.configs.read (w.clients.read r).config).maxPrice

/-- The `coinWidth` of a client's meter. -/
def World.coinWidth (w : World) (r : ClientRef) : Int :=
  (w.configs.read (w.clients.read r).sentryLogic.config).getCoinWidth

/-- The configuration is or was the server's own: a meter may read it. -/
def World.Original (w : World) (ref : ConfigRef) : Prop :=
  ref = w.config ∨ ∃ r < w.clients.next, (w.clients.read r).sentryLogic.config = ref

/-- No meter reads a copy, the server's own configurations have the
minimum as their negotiated price, and a copy's maximum is that minimum. -/
structure Configured (w : World) : Prop where
  allocated : ∀ ref, w.Original ref → ref < w.configs.next
  negotiated : ∀ ref, w.Original ref →
    (w.configs.read ref).negotiatedPrice = (w.configs.read ref).minPrice
  copyAllocated : ∀ r < w.clients.next, (w.clients.read r).config < w.configs.next
  apart : ∀ r < w.clients.next, ¬ w.Original (w.clients.read r).config
  copied : ∀ r < w.clients.next,
    w.quote r = (w.configs.read (w.clients.read r).sentryLogic.config).minPrice
  registered : ∀ ip r, w.ipList.lookup ip = some r → r < w.clients.next

theorem Configured.quote_eq {w : World} (h : Configured w) {r : ClientRef}
    (hr : r < w.clients.next) : w.quote r = w.coinWidth r := by
  have horiginal : w.Original (w.clients.read r).sentryLogic.config := .inr ⟨r, hr, rfl⟩
  rw [h.copied r hr, ← h.negotiated _ horiginal]
  rfl

/-- `w'` has the clients of `w`, at the same prices. -/
structure KeepsPrices (w w' : World) : Prop where
  next : w.clients.next ≤ w'.clients.next
  client : ∀ r < w.clients.next, w'.clients.read r = w.clients.read r
  quote : ∀ r < w.clients.next, w'.quote r = w.quote r
  coinWidth : ∀ r < w.clients.next, w'.coinWidth r = w.coinWidth r

namespace KeepsPrices

theorem refl (w : World) : KeepsPrices w w :=
  ⟨le_rfl, fun _ _ => rfl, fun _ _ => rfl, fun _ _ => rfl⟩

theorem trans {w₁ w₂ w₃ : World} (h : KeepsPrices w₁ w₂) (h' : KeepsPrices w₂ w₃) :
    KeepsPrices w₁ w₃ where
  next := h.next.trans h'.next
  client r hr := (h'.client r (lt_of_lt_of_le hr h.next)).trans (h.client r hr)
  quote r hr := (h'.quote r (lt_of_lt_of_le hr h.next)).trans (h.quote r hr)
  coinWidth r hr := (h'.coinWidth r (lt_of_lt_of_le hr h.next)).trans (h.coinWidth r hr)

/-- Configurations keep their maximum, and the server's own keep their
negotiated price. -/
theorem of_configs {w w' : World} (h : Configured w) (hnext : w.clients.next ≤ w'.clients.next)
    (hclient : ∀ r < w.clients.next, w'.clients.read r = w.clients.read r)
    (hmax : ∀ ref < w.configs.next,
      (w'.configs.read ref).maxPrice = (w.configs.read ref).maxPrice)
    (hnegotiated : ∀ ref, w.Original ref →
      (w'.configs.read ref).negotiatedPrice = (w.configs.read ref).negotiatedPrice) :
    KeepsPrices w w' where
  next := hnext
  client := hclient
  quote r hr := by
    rw [World.quote, hclient r hr, hmax _ (h.copyAllocated r hr)]
    rfl
  coinWidth r hr := by
    rw [World.coinWidth, hclient r hr]
    exact hnegotiated _ (.inr ⟨r, hr, rfl⟩)

end KeepsPrices

theorem Configured.initial (autosave : Bool) (purchaseUnit : PurchaseUnit)
    (maxPrice minPrice : Int) :
    Configured (World.initial autosave purchaseUnit maxPrice minPrice) := by
  have hnone : ∀ r, ¬ r < (World.initial autosave purchaseUnit maxPrice minPrice).clients.next :=
    fun r => Nat.not_lt_zero r
  constructor
  · rintro ref (rfl | ⟨r, hr, -⟩)
    · exact Nat.zero_lt_one
    · exact absurd hr (hnone r)
  · rintro ref (rfl | ⟨r, hr, -⟩)
    · rfl
    · exact absurd hr (hnone r)
  · exact fun r hr => absurd hr (hnone r)
  · exact fun r hr => absurd hr (hnone r)
  · exact fun r hr => absurd hr (hnone r)
  · intro ip r h
    rw [World.initial, AList.lookup_empty] at h
    cases h

section Changes

variable {w : World} (h : Configured w)
include h

theorem KeepsPrices.save (minPrice maxPrice : Int) : KeepsPrices w (w.save minPrice maxPrice) := by
  refine KeepsPrices.of_configs h le_rfl (fun _ _ => rfl) ?_ ?_
  · exact fun ref hlt => by rw [World.save, Heap.read_alloc_old _ _ hlt]
  · exact fun ref href => by rw [World.save, Heap.read_alloc_old _ _ (h.allocated ref href)]

theorem Configured.save (minPrice maxPrice : Int) : Configured (w.save minPrice maxPrice) := by
  -- the old objects are where they were, and the new one is the server's
  have hread : ∀ ref < w.configs.next,
      (w.save minPrice maxPrice).configs.read ref = w.configs.read ref :=
    fun ref hlt => Heap.read_alloc_old _ _ hlt
  have hcases : ∀ ref, (w.save minPrice maxPrice).Original ref →
      ref = w.configs.next ∨ w.Original ref := by
    rintro ref (rfl | hmeter)
    · exact .inl rfl
    · exact .inr (.inr hmeter)
  constructor
  · intro ref href
    rcases hcases ref href with rfl | hold
    · exact Nat.lt_succ_self _
    · exact Nat.lt_succ_of_lt (h.allocated ref hold)
  · intro ref href
    rcases hcases ref href with rfl | hold
    · rw [World.save, Heap.read_alloc_new]
      rfl
    · rw [hread ref (h.allocated ref hold)]
      exact h.negotiated ref hold
  · exact fun r hr => Nat.lt_succ_of_lt (h.copyAllocated r hr)
  · intro r hr href
    rcases hcases _ href with heq | hold
    · exact absurd heq (Nat.ne_of_lt (h.copyAllocated r hr))
    · exact h.apart r hr hold
  · intro r hr
    have hmeter := hread _ (h.allocated _ (.inr ⟨r, hr, rfl⟩))
    rw [(KeepsPrices.save h minPrice maxPrice).quote r hr, h.copied r hr]
    exact congrArg (·.minPrice) hmeter.symm
  · exact h.registered

theorem KeepsPrices.addClient (ipAddress : IpAddress) :
    KeepsPrices w (w.addClient ipAddress) := by
  apply KeepsPrices.of_configs h (Nat.le_succ _)
  · exact fun r hr => Heap.read_alloc_old _ _ hr
  · exact fun ref hlt => by rw [World.addClient, Heap.read_alloc_old _ _ hlt]
  · exact fun ref href => by rw [World.addClient, Heap.read_alloc_old _ _ (h.allocated ref href)]

theorem Configured.addClient (ipAddress : IpAddress) : Configured (w.addClient ipAddress) := by
  have hconfig : ∀ ref < w.configs.next,
      (w.addClient ipAddress).configs.read ref = w.configs.read ref :=
    fun ref hlt => Heap.read_alloc_old _ _ hlt
  have hnew : (w.addClient ipAddress).clients.read w.clients.next =
      ⟨ipAddress, w.configs.next, .new (w.configs.read w.config).purchaseUnit w.config⟩ :=
    Heap.read_alloc_new ..
  have hold : ∀ r < w.clients.next,
      (w.addClient ipAddress).clients.read r = w.clients.read r :=
    fun r hr => Heap.read_alloc_old _ _ hr
  have hmeter : (Meter.new (w.configs.read w.config).purchaseUnit w.config).config = w.config := by
    unfold Meter.new
    split <;> rfl
  -- the meter of the new client reads the server's configuration
  have horiginal : ∀ ref, (w.addClient ipAddress).Original ref → w.Original ref := by
    rintro ref (rfl | ⟨r, hr, rfl⟩)
    · exact .inl rfl
    · rcases Nat.lt_succ_iff_lt_or_eq.mp hr with hr | rfl
      · rw [hold r hr]
        exact .inr ⟨r, hr, rfl⟩
      · rw [hnew]
        exact .inl hmeter
  constructor
  · exact fun ref href => Nat.lt_succ_of_lt (h.allocated ref (horiginal ref href))
  · intro ref href
    rw [hconfig ref (h.allocated ref (horiginal ref href))]
    exact h.negotiated ref (horiginal ref href)
  · intro r hr
    rcases Nat.lt_succ_iff_lt_or_eq.mp hr with hr | rfl
    · rw [hold r hr]
      exact Nat.lt_succ_of_lt (h.copyAllocated r hr)
    · rw [hnew]
      exact Nat.lt_succ_self _
  · intro r hr href
    rcases Nat.lt_succ_iff_lt_or_eq.mp hr with hr | rfl
    · rw [hold r hr] at href
      exact h.apart r hr (horiginal _ href)
    · rw [hnew] at href
      exact absurd (h.allocated _ (horiginal _ href)) (lt_irrefl _)
  · intro r hr
    rcases Nat.lt_succ_iff_lt_or_eq.mp hr with hr | rfl
    · rw [(KeepsPrices.addClient h ipAddress).quote r hr, hold r hr,
        hconfig _ (h.allocated _ (.inr ⟨r, hr, rfl⟩))]
      exact h.copied r hr
    · rw [World.quote, hnew]
      show ((w.addClient ipAddress).configs.read w.configs.next).maxPrice =
        ((w.addClient ipAddress).configs.read (Meter.new _ _).config).minPrice
      rw [hmeter, hconfig _ (h.allocated _ (.inl rfl)), World.addClient, Heap.read_alloc_new]
      rfl
  · intro ip r hr
    by_cases heq : ip = ipAddress
    · rw [heq, World.addClient, AList.lookup_insert] at hr
      exact Option.some.inj hr ▸ Nat.lt_succ_self _
    · rw [World.addClient, AList.lookup_insert_ne heq] at hr
      exact Nat.lt_succ_of_lt (h.registered ip r hr)

/-- The negotiated price of a copy is not what its client is charged. -/
theorem KeepsPrices.negotiate {r : ClientRef} (hr : r < w.clients.next) (price : Int)
    (channels : Channels.World) :
    KeepsPrices w { w with
      channels := channels
      configs := w.configs.modify (w.clients.read r).config (·.setNegotiatedPrice price) } := by
  refine KeepsPrices.of_configs h le_rfl (fun _ _ => rfl) ?_ ?_
  · exact fun ref _ => Heap.field_modify _ _ _ BitmeshConfiguration.maxPrice fun _ => rfl
  · intro ref href
    have hne : ref ≠ (w.clients.read r).config := fun heq => h.apart r hr (heq ▸ href)
    rw [Heap.read_modify_ne _ _ hne]

theorem Configured.negotiate {r : ClientRef} (hr : r < w.clients.next) (price : Int)
    (channels : Channels.World) :
    Configured { w with
      channels := channels
      configs := w.configs.modify (w.clients.read r).config (·.setNegotiatedPrice price) } where
  allocated := h.allocated
  negotiated ref href := by
    have hne : ref ≠ (w.clients.read r).config := fun heq => h.apart r hr (heq ▸ href)
    rw [Heap.read_modify_ne _ _ hne]
    exact h.negotiated ref href
  copyAllocated := h.copyAllocated
  apart := h.apart
  copied r' hr' := by
    rw [(KeepsPrices.negotiate h hr price channels).quote r' hr', h.copied r' hr']
    exact (Heap.field_modify w.configs _ _ BitmeshConfiguration.minPrice
      (g := (·.setNegotiatedPrice price)) fun _ => rfl).symm
  registered := h.registered

end Changes

theorem World.negotiated_cases (w : World) (channels : Channels.World) (i : Channels.Input) :
    w.negotiated channels i = w.configs ∨ ∃ c r price, w.client c = some r ∧
      w.negotiated channels i =
        w.configs.modify (w.clients.read r).config (·.setNegotiatedPrice price) := by
  cases i with
  | message c msg =>
    simp only [World.negotiated]
    split
    · split
      · exact .inl rfl
      · exact .inr ⟨c, _, _, ‹_›, rfl⟩
    · exact .inl rfl
  | _ => exact .inl rfl

/-! ## Whole runs -/

/-- Everything a connection was told about its price is the price in the
copy of its client. -/
structure Priced (p : Platform) (autosave : Bool) (w : World) : Prop where
  configured : Configured w
  reached : Channels.Reached p (fun _ _ => True) autosave w.channels
  clients : ∀ c r, w.client c = some r → r < w.clients.next
  quoted : QuotedAt (fun c => (w.client c).map w.quote) w.channels

namespace Priced

variable {p : Platform} {autosave : Bool} {w w' : World}

theorem initial (purchaseUnit : PurchaseUnit) (maxPrice minPrice : Int) :
    Priced p autosave (World.initial autosave purchaseUnit maxPrice minPrice) where
  configured := .initial ..
  reached := .start
  clients _ _ h := nomatch h
  quoted := .initial autosave

/-- A change of configurations and clients that keeps the prices. -/
theorem keep (h : Priced p autosave w) (hconfigured : Configured w') (hkeeps : KeepsPrices w w')
    (hchannels : w'.channels = w.channels) (hclient : w'.client = w.client) :
    Priced p autosave w' where
  configured := hconfigured
  reached := hchannels ▸ h.reached
  clients c r hc := lt_of_lt_of_le (h.clients c r (hclient ▸ hc)) hkeeps.next
  quoted := by
    have hquote : (fun c => (w'.client c).map w'.quote) = fun c => (w.client c).map w.quote := by
      funext c
      rw [hclient]
      cases hc : w.client c with
      | none => rfl
      | some r => exact congrArg some (hkeeps.quote r (h.clients c r hc))
    rw [hquote, hchannels]
    exact h.quoted

theorem getClient (h : Priced p autosave w) (ipAddress : IpAddress) :
    Priced p autosave (w.getClient ipAddress).1 ∧ KeepsPrices w (w.getClient ipAddress).1 ∧
      (w.getClient ipAddress).2 < (w.getClient ipAddress).1.clients.next := by
  unfold World.getClient
  cases hr : w.ipList.lookup ipAddress with
  | some r => exact ⟨h, .refl w, h.configured.registered ipAddress r hr⟩
  | none =>
    have hkeeps := KeepsPrices.addClient h.configured ipAddress
    exact ⟨h.keep (h.configured.addClient ipAddress) hkeeps rfl rfl, hkeeps, Nat.lt_succ_self _⟩

theorem connectionOpen (h : Priced p autosave w) (env : Env) (c : ConnRef)
    (ipAddress : IpAddress) :
    Priced p autosave (w.connectionOpen p env c ipAddress) ∧
      KeepsPrices w (w.connectionOpen p env c ipAddress) := by
  obtain ⟨hget, hkeeps, hr⟩ := h.getClient ipAddress
  unfold World.connectionOpen
  generalize w.getClient ipAddress = found at hget hkeeps hr
  obtain ⟨w', r⟩ := found
  dsimp only at hget hkeeps hr ⊢
  split
  · rename_i hopen
    refine ⟨⟨⟨hget.configured.allocated, hget.configured.negotiated,
      hget.configured.copyAllocated, hget.configured.apart, hget.configured.copied,
      hget.configured.registered⟩, hget.reached.step _ trivial, ?_, ?_⟩,
      ⟨hkeeps.next, hkeeps.client, hkeeps.quote, hkeeps.coinWidth⟩⟩
    · intro c' r' hc'
      by_cases heq : c' = c
      · rw [heq] at hc'
        simp only [Function.update_self, Option.some.injEq] at hc'
        exact hc' ▸ hr
      · simp only [Function.update_of_ne heq] at hc'
        exact hget.clients c' r' hc'
    · have hquoted := hget.quoted.connectionOpen (p := p) env
        ⟨(w'.configs.read (w'.clients.read r).config).maxPrice,
          (w'.configs.read (w'.clients.read r).config).negotiatedPrice⟩ hopen.1 hopen.2
      convert hquoted using 1
      funext c'
      by_cases heq : c' = c
      · subst heq
        simp [World.quote]
      · simp only [Function.update_of_ne heq]
        rfl
  · exact ⟨hget, hkeeps⟩

theorem drive (h : Priced p autosave w) (env : Env) {i : Channels.Input}
    (hi : ∀ c client, i ≠ .connectionOpen c client) :
    Priced p autosave (w.drive p env i) ∧ KeepsPrices w (w.drive p env i) := by
  have hallocated := Passed.allocated (Reached.passed h.reached)
  have hquoted := h.quoted.next (p := p) hallocated env hi
  have hreached := h.reached.step (env, i) trivial
  -- the channels move on with the prices as they are
  have hmoved : Priced p autosave { w with channels := w.channels.next p (env, i) } :=
    ⟨⟨h.configured.allocated, h.configured.negotiated, h.configured.copyAllocated,
      h.configured.apart, h.configured.copied, h.configured.registered⟩, hreached, h.clients,
      hquoted⟩
  unfold World.drive
  rcases w.negotiated_cases (w.channels.next p (env, i)) i with hsame | ⟨c, r, price, hc, hset⟩
  · simp only [hsame]
    exact ⟨hmoved, ⟨le_rfl, fun _ _ => rfl, fun _ _ => rfl, fun _ _ => rfl⟩⟩
  · simp only [hset]
    have hr := h.clients c r hc
    have hkeeps := KeepsPrices.negotiate hmoved.configured hr price (w.channels.next p (env, i))
    exact ⟨hmoved.keep (hmoved.configured.negotiate hr price _) hkeeps rfl rfl,
      KeepsPrices.negotiate h.configured hr price _⟩

theorem next (h : Priced p autosave w) (i : Input) :
    Priced p autosave (w.next p i) ∧ KeepsPrices w (w.next p i) := by
  cases i with
  | save minPrice maxPrice =>
    have hkeeps := KeepsPrices.save h.configured minPrice maxPrice
    exact ⟨h.keep (h.configured.save minPrice maxPrice) hkeeps rfl rfl, hkeeps⟩
  | request ipAddress =>
    obtain ⟨hget, hkeeps, -⟩ := h.getClient ipAddress
    exact ⟨hget, hkeeps⟩
  | connectionOpen env c ipAddress => exact h.connectionOpen env c ipAddress
  | removeConnectedClient ipAddress =>
    have hkeeps : KeepsPrices w { w with ipList := w.ipList.erase ipAddress } :=
      ⟨le_rfl, fun _ _ => rfl, fun _ _ => rfl, fun _ _ => rfl⟩
    refine ⟨h.keep ⟨h.configured.allocated, h.configured.negotiated, h.configured.copyAllocated,
      h.configured.apart, h.configured.copied, fun ip r hr => ?_⟩ hkeeps rfl rfl, hkeeps⟩
    change (w.ipList.erase ipAddress).lookup ip = some r at hr
    by_cases heq : ip = ipAddress
    · rw [heq, AList.lookup_erase] at hr
      cases hr
    · rw [AList.lookup_erase_ne heq] at hr
      exact h.configured.registered ip r hr
  | channels env i =>
    cases i with
    | connectionOpen => exact ⟨h, .refl w⟩
    | _ => exact h.drive env fun _ _ heq => nomatch heq

theorem run (h : Priced p autosave w) (is : List Input) :
    Priced p autosave (w.run p is) ∧ KeepsPrices w (w.run p is) := by
  induction is generalizing w with
  | nil => exact ⟨h, .refl w⟩
  | cons i is ih =>
    obtain ⟨hnext, hkeeps⟩ := h.next i
    obtain ⟨hrun, hkeeps'⟩ := ih hnext
    exact ⟨hrun, hkeeps.trans hkeeps'⟩

end Priced

/-- A client with a time meter is metered at the price it is quoted, from
its creation on: whatever is saved meanwhile, PRICE proposes that price,
macropayments are divided by it, and so are payments by the meter. -/
theorem metered_at_quoted_price {p : Platform} (autosave : Bool) (purchaseUnit : PurchaseUnit)
    (maxPrice minPrice : Int) (before after : List Input) {r : ClientRef} {config : ConfigRef} :
    let w := (World.initial autosave purchaseUnit maxPrice minPrice).run p before
    let w' := w.run p after
    r < w.clients.next → (w.clients.read r).sentryLogic = .time config →
    (w'.clients.read r).sentryLogic = .time config ∧
    (w'.configs.read config).getCoinWidth = (w.configs.read config).getCoinWidth ∧
    ∀ c, w'.client c = some r →
      (∀ proposedPrice key, .sent c (.price proposedPrice key) ∈ w'.channels.trace →
        proposedPrice = (w.configs.read config).getCoinWidth) ∧
      ∀ info amountSpent amountPurchased,
        .sent c (.paymentAck info (some amountSpent) (some amountPurchased)) ∈ w'.channels.trace →
        amountPurchased = amountSpent.tdiv (w.configs.read config).getCoinWidth := by
  intro w w' hr hmeter
  have hw : Priced p autosave w := ((Priced.initial purchaseUnit maxPrice minPrice).run before).1
  obtain ⟨hw', hkeeps⟩ := hw.run after
  have hwidth : w.coinWidth r = (w.configs.read config).getCoinWidth := by
    rw [World.coinWidth, hmeter]
    rfl
  have hmeter' : (w'.clients.read r).sentryLogic = .time config := by
    rw [hkeeps.client r hr, hmeter]
  have hquote : w'.quote r = (w.configs.read config).getCoinWidth := by
    rw [hkeeps.quote r hr, hw.configured.quote_eq hr, hwidth]
  refine ⟨hmeter', ?_, fun c hc => ⟨?_, ?_⟩⟩
  · rw [← hwidth, ← hkeeps.coinWidth r hr, World.coinWidth, hmeter']
    rfl
  · intro proposedPrice key hsent
    have hpriced : (w'.client c).map w'.quote = some proposedPrice := hw'.quoted.events _ hsent
    rw [hc, Option.map_some, hquote] at hpriced
    exact (Option.some.inj hpriced).symm
  · intro info amountSpent amountPurchased hsent
    obtain ⟨price, hpriced, hpurchased⟩ := hw'.quoted.events _ hsent
    have hprice : (w'.client c).map w'.quote = some price := hpriced
    rw [hc, Option.map_some, hquote] at hprice
    rw [Option.some.inj hpurchased, Option.some.inj hprice]

/-- A client that came when the minimum was 150 is quoted 150 after another
configuration was saved. -/
theorem metered_at_quoted_price_saved :
    let w := (World.initial true .timeUnit 200 150).run Client.platform
      [.channels Client.env (.newServer ⟨1546, by decide⟩ TimeWindow.default),
        .connectionOpen Client.env 0 clientAddress]
    let w' := w.run Client.platform [.save 5 7, .channels Client.env (.message 0 Client.version)]
    (w.clients.read 0).sentryLogic = .time 0 ∧ (w'.configs.read 0).getCoinWidth = 150 ∧
      ∃ proposedPrice,
        .sent 0 (.price proposedPrice Bitcoin.Reference.serverKey) ∈ w'.channels.trace ∧
        proposedPrice = 150 := by
  intro w w'
  have hmeter : (w.clients.read 0).sentryLogic = .time 0 := by decide +kernel
  have hwidth : (w.configs.read 0).getCoinWidth = 150 := by decide +kernel
  have hclient : w'.client 0 = some 0 := by decide +kernel
  have hsent : .sent 0 (.price 150 Bitcoin.Reference.serverKey) ∈ w'.channels.trace := by
    decide +kernel
  obtain ⟨-, hkept, hquoted⟩ := metered_at_quoted_price true .timeUnit 200 150
    [.channels Client.env (.newServer ⟨1546, by decide⟩ TimeWindow.default),
      .connectionOpen Client.env 0 clientAddress]
    [.save 5 7, .channels Client.env (.message 0 Client.version)]
    (p := Client.platform) (by decide +kernel) hmeter
  exact ⟨hmeter, hkept.trans hwidth, 150, hsent, ((hquoted 0 hclient).1 150 _ hsent).trans hwidth⟩

end BitMesh.Server
