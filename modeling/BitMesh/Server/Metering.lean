import BitMesh.Channels.Funding
import BitMesh.Server.Dashboard
import BitMesh.Server.Prices

/-!
# Dividing by a price that was saved

`/save` takes any two `long`s. A client that comes afterwards has a meter
that divides payments by the minimum, and its copy of the configuration has
the minimum where macropayments look for the maximum, so both divisions
have the same divisor: the minimum, whatever it is.
-/

namespace BitMesh.Server

open BitMesh.Bitcoin BitMesh.Lib BitMesh.Sentry BitMesh.Channels

/-! ## The two divisions -/

/-- A payment can be divided by the price, and the quotient is something a
client can have bought. -/
theorem quotient_nonneg_iff {payment price : Int} (hpayment : 0 ≤ payment) :
    price ≠ 0 ∧ 0 ≤ payment.tdiv price ↔ 0 < price ∨ payment < -price := by
  rcases lt_trichotomy price 0 with hneg | rfl | hpos
  · -- the quotient is the opposite of a quotient of natural numbers
    have hquotient : payment.tdiv price = -(payment / -price) := by
      rw [← Int.tdiv_eq_ediv_of_nonneg hpayment, Int.tdiv_neg, neg_neg]
    have hnonneg : 0 ≤ payment / -price := Int.ediv_nonneg hpayment (by omega)
    have hsmall : payment / -price < 1 ↔ payment < 1 * -price :=
      Int.ediv_lt_iff_lt_mul (by omega)
    rw [hquotient]
    omega
  · omega
  · have hnonneg := Int.tdiv_nonneg hpayment hpos.le
    omega

/-- A payment reaches the meter: nothing is thrown, and the time bought is
not negative. -/
def Metered (logic : SentryTimeLogic) (paymentState : PaymentState) (now payment : Int) : Prop :=
  (logic.paymentIncreased paymentState now payment).2 = none ∧
    0 ≤ (logic.paymentIncreased paymentState now payment).1.timePurchased

/-- The meter throws exactly if the price is zero. -/
theorem paymentIncreased_thrown (logic : SentryTimeLogic) (paymentState : PaymentState)
    (now payment : Int) :
    (logic.paymentIncreased paymentState now payment).2 = none ↔
      logic.config.getCoinWidth ≠ 0 := by
  unfold SentryTimeLogic.paymentIncreased
  dsimp only
  rw [SentryTimeLogic.startPaying_config]
  split <;> simp [*]

theorem metered_iff (logic : SentryTimeLogic) (paymentState : PaymentState) (now : Int)
    {payment : Int} (hpayment : 0 ≤ payment) :
    Metered logic paymentState now payment ↔
      0 < logic.config.getCoinWidth ∨ payment < -logic.config.getCoinWidth := by
  rw [Metered, paymentIncreased_thrown, ← quotient_nonneg_iff hpayment]
  apply and_congr_right
  intro hprice
  unfold SentryTimeLogic.paymentIncreased SentryTimeLogic.purchase
  dsimp only
  rw [SentryTimeLogic.startPaying_config, if_neg hprice]
  dsimp only [BitmeshConfiguration.getPurchaseWidth]
  rw [mul_one]

/-- From one trace to the next no PAYMENT_ACK with a negative purchase went
to the connection. -/
def AcksNonneg (c : ConnRef) (before after : List Channels.Event) : Prop :=
  ∃ sent, after = sent ++ before ∧
    ∀ info amountSpent amountPurchased,
      .sent c (.paymentAck info (some amountSpent) (some amountPurchased)) ∈ sent →
      0 ≤ amountPurchased

/-- A transaction reaches `sendFunding`: there is no arithmetic exception,
and what is acknowledged is not negative. -/
def Acknowledged (p : Platform) (env : Env) (c : ConnRef) (tx : Transaction)
    (w : Channels.World) : Prop :=
  wp (sendFunding p env c tx) w (fun _ u => AcksNonneg c w.trace u.trace)
    fun e u => e.cls ≠ .arithmetic ∧ AcksNonneg c w.trace u.trace

namespace AcksNonneg

variable {c : ConnRef} {before after : List Channels.Event}

theorem refl (c : ConnRef) (before : List Channels.Event) : AcksNonneg c before before :=
  ⟨[], rfl, fun _ _ _ hsent => nomatch hsent⟩

/-- A PAYMENT_ACK is sent. -/
theorem ack (h : AcksNonneg c before after) (info : Option Bytes) (spent : Int)
    {purchased : Int} (hnonneg : 0 ≤ purchased) :
    AcksNonneg c before
      (.sent c (.paymentAck info (some spent) (some purchased)) :: after) := by
  obtain ⟨sent, rfl, hsent⟩ := h
  refine ⟨_ :: sent, rfl, ?_⟩
  intro info' spent' purchased' hmem
  rcases List.mem_cons.mp hmem with heq | hmem
  · cases heq
    exact hnonneg
  · exact hsent info' spent' purchased' hmem

/-- The client is told. -/
theorem told (h : AcksNonneg c before after) (amount total : Coin) :
    AcksNonneg c before (.paymentIncrease c amount total none :: after) := by
  obtain ⟨sent, rfl, hsent⟩ := h
  refine ⟨_ :: sent, rfl, ?_⟩
  intro info spent purchased hmem
  rcases List.mem_cons.mp hmem with heq | hmem
  · cases heq
  · exact hsent info spent purchased hmem

end AcksNonneg

section Acknowledging

variable {p : Platform} {env : Env} {w : Channels.World} {c : ConnRef} {tx : Transaction}
variable {client : ClientConfig} {payment : Int}

/-- A macropayment is divided by the price of the connection's client. -/
theorem acknowledged_of_price {version : ClientVersion}
    (hversion : (w.servers.read c).clientVersion = some version)
    (hminor : version.minor = browserMacropaymentMinorVersion)
    (hclient : (w.servers.read c).client = some client)
    (hamount : getAmountSentToAddress p (w.servers.read c).myAddress tx.outputs = .ok payment)
    (hprice : client.maxPrice ≠ 0) (hnonneg : 0 ≤ payment.tdiv client.maxPrice)
    (hcallback : ∀ e, env.callbackThrows .paymentIncrease = some e → e.cls ≠ .arithmetic) :
    Acknowledged p env c tx w := by
  have hrefused {n : Int} {e : JavaException} (he : Coin.valueOf n = .error e) :
      e.cls ≠ .arithmetic := by
    rw [Coin.cls_of_valueOf he]
    decide
  unfold Acknowledged sendFunding
  rw [wp_bind, wp_readServer, wp_bind, wp_nonNull_some hversion, if_pos hminor]
  unfold acknowledgeFunding
  rw [wp_bind, hamount, wp_orThrow_ok rfl, wp_bind, wp_modifyServer, wp_bind,
    wp_nonNull_some hclient, if_neg hprice]
  simp only [wp_bind, wp_orThrow, sendToClient, wp_checkState, wp_note, paymentIncrease]
  have hack := (AcksNonneg.refl c w.trace).ack none payment hnonneg
  refine ⟨fun _ => ⟨?_, ?_⟩, fun _ => ⟨by decide, .refl ..⟩⟩
  · intro amount _
    refine ⟨?_, fun e he => ⟨hrefused he, hack⟩⟩
    intro total _
    have htold := hack.told amount total
    unfold callback
    cases hthrown : env.callbackThrows .paymentIncrease with
    | none => exact htold
    | some e => exact ⟨hcallback e hthrown, htold⟩
  · exact fun e he => ⟨hrefused he, hack⟩

end Acknowledging

/-! ## The clients of a saved configuration -/

/-- What `/save` puts on the heap is what the dashboard's handler makes of
its request. -/
theorem save_prices {validAddress : String → Bool} (validEmail : String → Bool)
    (server : Configuration.TransactionServer validAddress) (w : World)
    (minPrice maxPrice refundThreshold : Int64) (identifier : String) :
    let w' := w.save minPrice.toInt maxPrice.toInt
    w'.configs.read w'.config =
      (server.serveDashboard validEmail
        (.save minPrice maxPrice refundThreshold identifier)).1.config.prices :=
  Heap.read_alloc_new ..

/-- The server has the configuration that was saved, and every client from
the number `first` on has a meter that reads it. -/
structure Serves (config : ConfigRef) (first : ClientRef) (minPrice maxPrice : Int)
    (w : World) : Prop where
  current : w.config = config
  saved : w.configs.read config = .new .timeUnit maxPrice minPrice
  metered : ∀ r, first ≤ r → r < w.clients.next →
    (w.clients.read r).sentryLogic = .time config

namespace Serves

variable {config : ConfigRef} {first : ClientRef} {minPrice maxPrice : Int} {w : World}

theorem save (w : World) (minPrice maxPrice : Int) :
    Serves w.configs.next w.clients.next minPrice maxPrice (w.save minPrice maxPrice) where
  current := rfl
  saved := Heap.read_alloc_new ..
  metered _ hfirst hlast := absurd hlast (Nat.not_lt.mpr hfirst)

theorem coinWidth (h : Serves config first minPrice maxPrice w) {r : ClientRef}
    (hfirst : first ≤ r) (hr : r < w.clients.next) : w.coinWidth r = minPrice := by
  rw [World.coinWidth, h.metered r hfirst hr]
  show (w.configs.read config).getCoinWidth = minPrice
  rw [h.saved]
  rfl

theorem addClient (h : Serves config first minPrice maxPrice w) (hw : Configured w)
    (ipAddress : IpAddress) : Serves config first minPrice maxPrice (w.addClient ipAddress) where
  current := h.current
  saved := by
    have hlt : config < w.configs.next := h.current ▸ hw.allocated w.config (.inl rfl)
    rw [World.addClient, Heap.read_alloc_old _ _ hlt]
    exact h.saved
  metered r hfirst hr := by
    rcases Nat.lt_succ_iff_lt_or_eq.mp hr with hr | rfl
    · rw [World.addClient, Heap.read_alloc_old _ _ hr]
      exact h.metered r hfirst hr
    · -- the new client's meter is of the sort that the configuration sells
      rw [World.addClient, Heap.read_alloc_new, h.current, h.saved]
      rfl

theorem getClient (h : Serves config first minPrice maxPrice w) (hw : Configured w)
    (ipAddress : IpAddress) :
    Serves config first minPrice maxPrice (w.getClient ipAddress).1 := by
  unfold World.getClient
  split
  · exact h
  · exact h.addClient hw ipAddress

theorem connectionOpen (h : Serves config first minPrice maxPrice w) (hw : Configured w)
    (p : Platform) (env : Env) (c : ConnRef) (ipAddress : IpAddress) :
    Serves config first minPrice maxPrice (w.connectionOpen p env c ipAddress) := by
  have hget := h.getClient hw ipAddress
  unfold World.connectionOpen
  dsimp only
  split
  · exact ⟨hget.current, hget.saved, hget.metered⟩
  · exact hget

theorem drive {p : Platform} {autosave : Bool} (h : Serves config first minPrice maxPrice w)
    (hw : Priced p autosave w) (env : Env) (i : Channels.Input) :
    Serves config first minPrice maxPrice (w.drive p env i) := by
  unfold World.drive
  refine ⟨h.current, ?_, h.metered⟩
  dsimp only
  rcases w.negotiated_cases (w.channels.next p (env, i)) i with hsame | ⟨c, r, price, hc, hset⟩
  · rw [hsame]
    exact h.saved
  · -- a price is negotiated in a client's copy, never in the server's object
    have hr := hw.clients c r hc
    have hne : config ≠ (w.clients.read r).config := by
      intro heq
      exact hw.configured.apart r hr (.inl (heq.symm.trans h.current.symm))
    rw [hset, Heap.read_modify_ne _ _ hne]
    exact h.saved

theorem next {p : Platform} {autosave : Bool} (h : Serves config first minPrice maxPrice w)
    (hw : Priced p autosave w) {i : Input} (hi : ∀ minPrice maxPrice, i ≠ .save minPrice maxPrice) :
    Serves config first minPrice maxPrice (w.next p i) := by
  cases i with
  | save minPrice maxPrice => exact absurd rfl (hi minPrice maxPrice)
  | request ipAddress => exact h.getClient hw.configured ipAddress
  | connectionOpen env c ipAddress => exact h.connectionOpen hw.configured p env c ipAddress
  | removeConnectedClient => exact ⟨h.current, h.saved, h.metered⟩
  | channels env i =>
    cases i with
    | connectionOpen => exact h
    | _ => exact h.drive hw env _

theorem run {p : Platform} {autosave : Bool} (h : Serves config first minPrice maxPrice w)
    (hw : Priced p autosave w) {is : List Input}
    (his : ∀ i ∈ is, ∀ minPrice maxPrice, i ≠ .save minPrice maxPrice) :
    Serves config first minPrice maxPrice (w.run p is) := by
  induction is generalizing w with
  | nil => exact h
  | cons i is ih =>
    have hnext := h.next hw (his i (by simp))
    exact ih hnext (hw.next i).1 fun j hj => his j (by simp [hj])

end Serves

/-- A connection of a client divides by the price in the client's copy. -/
theorem Priced.maxPrice {p : Platform} {autosave : Bool} {w : World} (h : Priced p autosave w)
    {c : ConnRef} {r : ClientRef} (hc : w.client c = some r) :
    ∃ client, (w.channels.servers.read c).client = some client ∧
      client.maxPrice = w.quote r := by
  have hquote : (w.client c).map w.quote = some (w.quote r) := by rw [hc, Option.map_some]
  have hallocated : c < w.channels.servers.next := by
    by_contra hlt
    have hnone := h.quoted.fresh c (Nat.le_of_not_lt hlt)
    cases hnone.symm.trans hquote
  have hclient := (h.quoted.client c hallocated).trans hquote
  exact Option.map_eq_some_iff.mp hclient

/-- Prices are saved, a client comes under them, and anything may happen
afterwards: a payment is metered and acknowledged as a purchase exactly if
the minimum is positive, or else so far below zero that the payment is
worth nothing. -/
theorem metering_sound_iff {p : Platform} (autosave : Bool) (purchaseUnit : PurchaseUnit)
    (maxPrice₀ minPrice₀ minPrice maxPrice : Int) (before between after : List Input)
    (hbetween : ∀ i ∈ between, ∀ minPrice maxPrice, i ≠ .save minPrice maxPrice)
    {r : ClientRef} {payment : Int} (hpayment : 0 ≤ payment)
    (logic : SentryTimeLogic) (paymentState : PaymentState) (now : Int) :
    let w₀ := (World.initial autosave purchaseUnit maxPrice₀ minPrice₀).run p before
    let w₁ := (w₀.save minPrice maxPrice).run p between
    let w := w₁.run p after
    w₀.clients.next ≤ r → r < w₁.clients.next →
    logic.config = w.configs.read (w.clients.read r).sentryLogic.config →
    ((Metered logic paymentState now payment ∧
      ∀ env c tx version, w.client c = some r →
        (w.channels.servers.read c).clientVersion = some version →
        version.minor = browserMacropaymentMinorVersion →
        getAmountSentToAddress p (w.channels.servers.read c).myAddress tx.outputs
          = .ok payment →
        (∀ e, env.callbackThrows .paymentIncrease = some e → e.cls = .arithmetic →
          ∃ total, (logic.paymentIncreased paymentState now total).2 = some e) →
        Acknowledged p env c tx w.channels) ↔
      0 < minPrice ∨ payment < -minPrice) := by
  intro w₀ w₁ w hfirst hr hconfig
  have hw₀ : Priced p autosave w₀ :=
    ((Priced.initial purchaseUnit maxPrice₀ minPrice₀).run before).1
  have hsaved : Priced p autosave (w₀.save minPrice maxPrice) :=
    (hw₀.next (.save minPrice maxPrice)).1
  have hw₁ : Priced p autosave w₁ := (hsaved.run between).1
  obtain ⟨hw, hkeeps⟩ := hw₁.run after
  have hserves := (Serves.save w₀ minPrice maxPrice).run hsaved hbetween
  have hwidth : w₁.coinWidth r = minPrice := hserves.coinWidth hfirst hr
  have hmeter : logic.config.getCoinWidth = minPrice := by
    rw [hconfig, ← hwidth, ← hkeeps.coinWidth r hr]
    rfl
  have hquote : w.quote r = minPrice := by
    rw [hkeeps.quote r hr, hw₁.configured.quote_eq hr, hwidth]
  rw [metered_iff logic paymentState now hpayment, hmeter]
  constructor
  · intro h
    exact h.1
  · intro hsound
    refine ⟨hsound, fun env c tx version hc hversion hminor hamount hcallback => ?_⟩
    obtain ⟨hprice, hnonneg⟩ := (quotient_nonneg_iff hpayment).mpr hsound
    obtain ⟨client, hclient, hmax⟩ := hw.maxPrice hc
    rw [hquote] at hmax
    apply acknowledged_of_price hversion hminor hclient hamount
    · rwa [hmax]
    · rwa [hmax]
    · intro e he hcls
      -- the meter would have to throw, and its divisor is the same
      obtain ⟨total, hthrown⟩ := hcallback e he hcls
      have hnone := (paymentIncreased_thrown logic paymentState now total).mpr (hmeter ▸ hprice)
      cases hnone.symm.trans hthrown

/-- A macropayment browser connects under the prices that were saved. -/
def Macropayment.connect : List Input :=
  [.channels Client.env (.newServer .referenceDefaultMinTxFee TimeWindow.default),
    .connectionOpen Client.env 0 clientAddress,
    .channels Client.env (.message 0 Channels.Macropayment.version)]

open Channels.Macropayment in
/-- A minimum of 0 is saved, a client comes, and its first payment is
divided by zero; with a minimum of -1 it buys -1000 seconds. -/
theorem saved_price_breaks_metering :
    let w := ((World.initial true .timeUnit 100 100).save 0 100).run platform
      Macropayment.connect
    let w' := ((World.initial true .timeUnit 100 100).save (-1) 100).run platform
      Macropayment.connect
    (((SentryTimeLogic.init (w.configs.read (w.clients.read 0).sentryLogic.config)).paymentIncreased
      .new 0 1000).2.map (·.cls) = some .arithmetic ∧
      ¬ Acknowledged platform Client.env 0 (paying [output 1000]) w.channels) ∧
    ((SentryTimeLogic.init (w'.configs.read (w'.clients.read 0).sentryLogic.config)).paymentIncreased
      .new 0 1000).1.timePurchased = -1000 := by
  intro w w'
  refine ⟨⟨by decide +kernel, ?_⟩, by decide +kernel⟩
  intro hack
  have hthrown : wp (sendFunding platform Client.env 0 (paying [output 1000])) w.channels
      (fun _ _ => False) (fun e _ => e.cls = .arithmetic) := by decide +kernel
  have hneither : wp (sendFunding platform Client.env 0 (paying [output 1000])) w.channels
      (fun _ _ => False) (fun _ _ => False) :=
    (hack.and hthrown).mono (fun _ _ h => h.2) fun _ _ h => h.1.1 h.2
  obtain ⟨-, -, -, hfalse⟩ := hneither.exists_run_eq_ok
  exact hfalse

open Channels.Macropayment in
/-- With a minimum of 50 the browser's 1000 satoshis are metered and
acknowledged. -/
theorem metering_sound_saved_50 :
    let w := ((World.initial true .timeUnit 100 100).save 50 100).run platform
      Macropayment.connect
    Metered (.init (w.configs.read (w.clients.read 0).sentryLogic.config)) .new 0 1000 ∧
      Acknowledged platform Client.env 0 (paying [output 1000]) w.channels := by
  intro w
  have hpayment : (0 : Int) ≤ 1000 := by decide
  have hsound := (metering_sound_iff (p := platform) true .timeUnit 100 100 50 100 []
    Macropayment.connect [] (r := 0) (by simp [Macropayment.connect]) hpayment
      (.init (w.configs.read (w.clients.read 0).sentryLogic.config)) .new 0
    (by decide) (by decide +kernel) rfl).mpr (.inl (by decide))
  have hclient : w.client 0 = some 0 := by decide +kernel
  have hversion : (w.channels.servers.read 0).clientVersion = version.clientVersion := by
    decide +kernel
  have hamount : getAmountSentToAddress platform (w.channels.servers.read 0).myAddress
      (paying [output 1000]).outputs = .ok 1000 := by decide +kernel
  refine ⟨hsound.1, hsound.2 Client.env 0 (paying [output 1000]) _ hclient hversion rfl hamount ?_⟩
  intro e he
  cases he

end BitMesh.Server
