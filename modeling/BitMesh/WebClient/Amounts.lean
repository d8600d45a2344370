import BitMesh.WebClient.Browser

/-!
# The amounts that the page sends

`send_contract` pays a fixed amount, and every `increment_payment` after it
pays a hundredth of the escrow, or the price of a second if that is more,
until so little is left that it pays the rest. The change has to be a whole
number that is no dust, also after the first payment. A number in a message
is read in two ways: as the page gives it, and as the field of type `uint64`
holds it.
-/

namespace BitMesh.WebClient

open BitMesh.Lib

namespace Browser

/-- Signing works on both sides. -/
def honest : Signing := ⟨true, true, true, true⟩

/-- From `initiate` to an open channel, with a server that signs the refund
of this consumer. -/
def opening (page : Page) (number : Nat) : Handler Unit := do
  initiate page honest
  receiveRefund page honest number
  receiveChannelOpen

/-- So many calls of `increment_payment`. -/
def increments : Nat → Handler Unit
  | 0 => pure ()
  | n + 1 => do
      increments n
      incrementPayment

/-- The page may call `initiate` for these outputs at this price. -/
structure Offers (b : Browser) (utxos : List UnspentOutput) (price : Int) : Prop where
  socket : b.socket = .opened
  channelState : b.channelState = some .receivedPrice ∨ b.channelState = some .receivedFunding
  serverKey : b.serverKey.isSome
  fundingOutputs : b.fundingOutputs = utxos.map fun utxo => ⟨utxo, some .unprocessed⟩
  numFundingOutputs : b.numFundingOutputs = utxos.length
  fundingOutputsUsed : b.fundingOutputsUsed = 0
  pricePerSecond : b.pricePerSecond = price
  price_pos : 0 < price
  minInitialPayment : b.minInitialPayment = 1000
  minEscrow_nonneg : 0 ≤ b.minEscrow
  minEscrow_le : b.minEscrow ≤ worth utxos - fee

/-- The page's payment transaction. -/
def payment (b : Browser) : Option Payment := b.consumer.bind fun numbered => numbered.value.paymentTx

end Browser

/-! ## Numbers in messages -/

/-- `Long.fromNumber(value, true)`, which ProtoBuf puts into a field of type
`uint64`. -/
def unsignedLong (value : ℚ) : Int :=
  if value < 0 then -(magnitude (-value)) % 2 ^ 64 else magnitude value
where
  magnitude (value : ℚ) : Int := if 2 ^ 64 ≤ value then 2 ^ 64 - 1 else ⌊value⌋

/-- A reading of numbers that leaves alone what decides whether an amount is
acceptable. -/
structure Reads (read : ℚ → ℚ) : Prop where
  zero : read 0 = 0
  large {value : ℚ} (h : 1000 ≤ value) : 1000 ≤ read value
  dust {n : Int} (hpos : 0 < n) (hless : n < 1000) : read n = n

theorem Reads.id : Reads id := ⟨rfl, fun h => h, fun _ _ => rfl⟩

theorem unsignedLong_of_nonneg {value : ℚ} (h : 0 ≤ value) :
    unsignedLong value = if 2 ^ 64 ≤ value then 2 ^ 64 - 1 else ⌊value⌋ :=
  if_neg (not_lt.mpr h)

theorem Reads.unsignedLong : Reads fun value => unsignedLong value where
  zero := by
    rw [unsignedLong_of_nonneg le_rfl]
    norm_num
  large := by
    intro value h
    have hfloor : (1000 : Int) ≤ ⌊value⌋ := Int.le_floor.mpr h
    have hlong : (1000 : Int) ≤ WebClient.unsignedLong value := by
      rw [unsignedLong_of_nonneg (by linarith)]
      split
      · norm_num
      · exact hfloor
    exact_mod_cast hlong
  dust := by
    intro n hpos hless
    have hsmall : (n : ℚ) < 2 ^ 64 := by
      have hcast : (n : ℚ) < 1000 := by exact_mod_cast hless
      linarith
    have hlong : WebClient.unsignedLong n = n := by
      rw [unsignedLong_of_nonneg (by exact_mod_cast hpos.le), if_neg (not_le.mpr hsmall),
        Int.floor_intCast]
    exact_mod_cast hlong

/-- The change in a message, so read, is an amount that the server accepts. -/
def FromClient.Acceptable (read : ℚ → ℚ) : FromClient → Prop
  | .provideContract _ value sigtype | .updatePayment _ value sigtype =>
      IsWhole (read value) ∧ (read value = 0 ∨ 1000 ≤ read value) ∧
        (sigtype = .none ↔ read value = 0)
  | _ => True

/-- `paymentTx.amount` for a list of outputs. -/
def contractAmount (utxos : List UnspentOutput) : Int :=
  worth (distinct utxos) -
    kilobytes (contractSize (distinct utxos).length + 32 + changeOutputMaxSize) * feePerKb

/-- `coin_width` for a list of outputs and a price. -/
def coinWidthOf (utxos : List UnspentOutput) (price : Int) : ℚ :=
  let width := ((worth utxos : ℚ) - Browser.fee) / 100
  if width < price then price else width

theorem le_coinWidthOf (utxos : List UnspentOutput) (price : Int) :
    (price : ℚ) ≤ coinWidthOf utxos price := by
  unfold coinWidthOf
  dsimp only
  split
  · exact le_refl _
  · exact not_lt.mp ‹_›

/-! ## What is paid after so many increments -/

/-- What is paid after a call of `increment_payment`. -/
def paidAfter (amount width paid : ℚ) : ℚ :=
  if amount - paid - width < 1000 then amount else paid + width

/-- What is paid after `send_contract` and so many increments. -/
def paidAt (amount width : ℚ) : Nat → ℚ
  | 0 => 1000
  | n + 1 => paidAfter amount width (paidAt amount width n)

section Schedule

variable {amount width : ℚ}

theorem paidAfter_cases (amount width paid : ℚ) :
    paidAfter amount width paid = amount ∨
      (paidAfter amount width paid = paid + width ∧ 1000 ≤ amount - (paid + width)) := by
  unfold paidAfter
  split
  · exact .inl rfl
  · have hrest : 1000 ≤ amount - paid - width := not_lt.mp ‹_›
    exact .inr ⟨rfl, by linarith⟩

/-- Nothing is left, or no dust. -/
theorem paidAt_eq_or (hamount : 2000 ≤ amount) (n : Nat) :
    paidAt amount width n = amount ∨ 1000 ≤ amount - paidAt amount width n := by
  cases n with
  | zero =>
      right
      show 1000 ≤ amount - 1000
      linarith
  | succ n =>
      rcases paidAfter_cases amount width (paidAt amount width n) with hall | ⟨hsome, hrest⟩
      · exact .inl hall
      · right
        show 1000 ≤ amount - paidAfter amount width _
        rw [hsome]
        exact hrest

theorem paidAt_le (hamount : 2000 ≤ amount) (n : Nat) : paidAt amount width n ≤ amount := by
  rcases paidAt_eq_or hamount n with hall | hrest
  · exact hall.le
  · linarith

theorem paidAt_le_succ (hamount : 2000 ≤ amount) (hwidth : 0 < width) (n : Nat) :
    paidAt amount width n ≤ paidAt amount width (n + 1) := by
  show _ ≤ paidAfter amount width _
  rcases paidAfter_cases amount width (paidAt amount width n) with hall | ⟨hsome, -⟩
  · rw [hall]
    exact paidAt_le hamount n
  · rw [hsome]
    linarith

/-- Until all is paid every increment pays the width. -/
theorem paidAt_lower (hwidth : 0 < width) (n : Nat) :
    paidAt amount width n = amount ∨ 1000 + n * width ≤ paidAt amount width n := by
  induction n with
  | zero =>
      right
      show 1000 + ((0 : Nat) : ℚ) * width ≤ 1000
      simp
  | succ n ih =>
      show paidAfter amount width _ = amount ∨ _ ≤ paidAfter amount width _
      rcases paidAfter_cases amount width (paidAt amount width n) with hall | ⟨hsome, hrest⟩
      · exact .inl hall
      · right
        rw [hsome]
        rcases ih with hall | hlower
        · -- nothing was left for an increment
          rw [hall] at hrest
          linarith
        · push_cast
          linarith

theorem exists_paidAt_eq (hamount : 2000 ≤ amount) (hwidth : 0 < width) :
    ∃ n, paidAt amount width n = amount := by
  obtain ⟨n, hn⟩ := exists_nat_gt (amount / width)
  have hmany : amount < n * width := (div_lt_iff₀ hwidth).mp hn
  refine ⟨n, (paidAt_lower hwidth n).resolve_right ?_⟩
  intro hlower
  have hle : paidAt amount width n ≤ amount := paidAt_le hamount n
  linarith

theorem IsWhole.sub {x y : ℚ} (hx : IsWhole x) (hy : IsWhole y) : IsWhole (x - y) := by
  obtain ⟨m, rfl⟩ := hx
  obtain ⟨n, rfl⟩ := hy
  exact ⟨m - n, by push_cast; rfl⟩

theorem isWhole_thousand : IsWhole 1000 := ⟨1000, by norm_num⟩

/-- All changes are whole exactly if the width is, or the first increment is
the last. -/
theorem forall_isWhole_iff (hwhole : IsWhole amount) (hwidth : 0 < width) :
    (∀ n, IsWhole (amount - paidAt amount width n)) ↔ IsWhole width ∨ amount - 2000 < width := by
  constructor
  · intro h
    have hfirst : IsWhole (amount - paidAfter amount width 1000) := h 1
    unfold paidAfter at hfirst
    split at hfirst
    · right
      linarith
    · left
      have heq : width = amount - 1000 - (amount - (1000 + width)) := by ring
      rw [heq]
      exact (hwhole.sub isWhole_thousand).sub hfirst
  · intro h n
    refine hwhole.sub ?_
    induction n with
    | zero => exact isWhole_thousand
    | succ n ih =>
        show IsWhole (paidAfter amount width _)
        rcases paidAfter_cases amount width (paidAt amount width n) with hall | ⟨hsome, hrest⟩
        · rw [hall]
          exact hwhole
        · rw [hsome]
          rcases h with hwholeWidth | hlast
          · have heq : paidAt amount width n + width = paidAt amount width n - (0 - width) := by ring
            rw [heq]
            exact ih.sub (IsWhole.sub ⟨0, by norm_num⟩ hwholeWidth)
          · -- less than the minimum would have been left
            rcases paidAt_lower hwidth n with hall | hlower
            · rw [hall] at hrest
              linarith
            · have hnonneg : 0 ≤ (n : ℚ) * width := by positivity
              linarith

end Schedule

namespace Browser

/-- Every message that was sent since then is acceptable. -/
def Emits (read : ℚ → ℚ) (before after : Browser) : Prop :=
  ∀ message ∈ after.sent.drop before.sent.length, message.Acceptable read

/-- The channel opens; whatever the number of increments, each message is
acceptable and what is paid grows up to the amount; and some number of
increments uses the channel up. -/
structure PaysAcceptably (read : ℚ → ℚ) (page : Page) (b b₀ : Browser) : Prop where
  opens : (opening page b.created.length).run b = .ok () b₀
  first : Emits read b b₀ ∧ ∃ p, b₀.payment = some p ∧ 0 ≤ p.paid ∧ p.paid ≤ p.amount
  each : ∀ n, ∃ b₁ b₂ p₁ p₂, (increments n).run b₀ = .ok () b₁ ∧
    incrementPayment.run b₁ = .ok () b₂ ∧ Emits read b b₂ ∧ b₁.payment = some p₁ ∧
    b₂.payment = some p₂ ∧ p₁.paid ≤ p₂.paid ∧ p₂.paid ≤ p₂.amount
  last : ∃ n b₁ p, (increments n).run b₀ = .ok () b₁ ∧ b₁.payment = some p ∧
    p.refundAmount = 0 ∧ b₁.fullyUsedUp = true

/-! ## One payment after another -/

/-- A channel of the page with so much paid, and the messages about it. -/
structure Pays (b : Browser) (number : Nat) (amount width paid : ℚ) (sent : List FromClient) :
    Prop where
  socket : b.socket = .opened
  consumer : ∃ consumer p, b.consumer = some ⟨number, consumer⟩ ∧ consumer.paymentTx = some p ∧
    p.amount = amount ∧ p.paid = paid ∧ p.refundAmount = amount - paid
  coinWidth : b.coinWidth = width
  minInitialPayment : b.minInitialPayment = 1000
  fullyUsedUp : b.fullyUsedUp = decide (paid = amount)
  sent : b.sent = sent

/-- The update that leaves so much paid. -/
def updateTo (number : Nat) (amount paid : ℚ) : FromClient :=
  .updatePayment number (amount - paid) (if paid = amount then .none else .single)

variable {page : Page} {b : Browser} {number : Nat} {amount width paid : ℚ}
  {sent : List FromClient}

theorem Pays.payment (h : Pays b number amount width paid sent) :
    ∃ p, b.payment = some p ∧ p.amount = amount ∧ p.paid = paid ∧
      p.refundAmount = amount - paid := by
  obtain ⟨consumer, p, hconsumer, hp, hrest⟩ := h.consumer
  exact ⟨p, by rw [Browser.payment, hconsumer, Option.bind_some, hp], hrest⟩

theorem wp_defined {α : Type} {a : α} {Q : α → Browser → Prop} {E : Thrown → Browser → Prop} :
    wp (defined (some a)) b Q E ↔ Q a b := Iff.rfl

theorem wp_sendMessage {message : FromClient} (h : b.socket = .opened)
    {Q : Unit → Browser → Prop} {E : Thrown → Browser → Prop} :
    wp (sendMessage message) b Q E ↔ Q () { b with sent := b.sent ++ [message] } := by
  show Q () (if b.socket = .opened then _ else _) ↔ _
  rw [if_pos h]

theorem wp_setChannelState {newState : ChannelState}
    (h : channelTransitionIsValid b.channelState newState = true) {Q : Unit → Browser → Prop}
    {E : Thrown → Browser → Prop} :
    wp (setChannelState newState) b Q E ↔ Q () { b with channelState := some newState } := by
  show wp (if channelTransitionIsValid b.channelState newState then _ else _) b Q E ↔ _
  rw [if_pos h]
  rfl

/-- A payment that leaves no negative amount can be signed. -/
theorem wp_incrementPaymentBy {numbered : Numbered Consumer} {payment : Payment} {increment : ℚ}
    {sigtype : Sigtype} (h : 0 ≤ (payment.updateValue increment).refundAmount)
    {Q : Payment → Browser → Prop} {E : Thrown → Browser → Prop} :
    wp (incrementPaymentBy numbered payment increment sigtype) b Q E ↔
      Q (payment.updateValue increment) { b with
        consumer := some { numbered with
          value := { numbered.value with paymentTx := some (payment.updateValue increment) } } } := by
  unfold incrementPaymentBy
  rw [wp_bind, wp_modify, if_neg fun hneg => absurd hneg.2 (not_lt.mpr h), wp_pure]

/-- The channel is used up after an increment exactly if it was before or
this was the last one. -/
theorem usedUp_eq (hwidth : 0 < width) :
    (decide (paid = amount) || decide (amount - paid - width < 1000)) =
      decide (paidAfter amount width paid = amount) := by
  rw [Bool.eq_iff_iff, Bool.or_eq_true_iff, decide_eq_true_iff, decide_eq_true_iff,
    decide_eq_true_iff]
  unfold paidAfter
  split
  case isTrue hlast => simp [hlast]
  case isFalse hmore =>
    have hrest : 1000 ≤ amount - paid - width := not_lt.mp hmore
    constructor
    · rintro (hpaid | hlast)
      · linarith
      · exact absurd hlast hmore
    · intro hpaid
      linarith

/-- One call pays the width, or the rest if less than the minimum would be
left. -/
theorem incrementPayment_pays (h : Pays b number amount width paid sent) (hwidth : 0 < width)
    (hpaid : paid ≤ amount) :
    wp incrementPayment b (fun _ b' =>
      Pays b' number amount width (paidAfter amount width paid)
        (sent ++ [updateTo number amount (paidAfter amount width paid)]))
      (fun _ _ => False) := by
  obtain ⟨consumer, p, hconsumer, hp, rfl, rfl, -⟩ := h.consumer
  -- the increment is what `paidAfter` adds
  let increment := if p.amount - p.paid - width < 1000 then p.amount - p.paid else width
  have hincrement : 0 ≤ increment := by
    show 0 ≤ ite _ _ _
    split
    · exact sub_nonneg.mpr hpaid
    · exact hwidth.le
  have hafter : p.paid + increment = paidAfter p.amount width p.paid := by
    show p.paid + ite _ _ _ = ite _ _ _
    split
    · exact add_sub_cancel _ _
    · rfl
  have hrefund : (p.updateValue increment).refundAmount =
      p.amount - paidAfter p.amount width p.paid := by
    rw [Payment.updateValue_refundAmount, hafter]
  have hleft : 0 ≤ p.amount - paidAfter p.amount width p.paid := by
    rcases paidAfter_cases p.amount width p.paid with hall | ⟨hsome, hrest⟩
    · rw [hall, sub_self]
    · rw [hsome]
      linarith
  unfold incrementPayment
  rw [wp_bind, wp_get, hconsumer, wp_bind, wp_defined, wp_bind, hp, wp_defined]
  dsimp only
  rw [wp_bind, wp_set, h.coinWidth, h.minInitialPayment, h.fullyUsedUp, wp_ite]
  refine ⟨fun hneg => absurd hneg (not_lt.mpr hincrement), fun _ => ?_⟩
  rw [wp_bind, wp_modify, wp_bind, wp_incrementPaymentBy (hrefund ▸ hleft), wp_bind,
    usedUp_eq hwidth]
  apply (wp_sendMessage (by exact h.socket)).mpr
  refine ⟨h.socket, ⟨_, p.updateValue increment, rfl, rfl, rfl, hafter, hrefund⟩, rfl, rfl, rfl, ?_⟩
  show b.sent ++ [.updatePayment number (p.updateValue increment).refundAmount _] = _
  rw [h.sent, updateTo, hrefund]
  simp only [decide_eq_true_eq]

/-- The messages of so many increments. -/
def updates (number : Nat) (amount width : ℚ) (n : Nat) : List FromClient :=
  (List.range n).map fun i => updateTo number amount (paidAt amount width (i + 1))

theorem increments_pays (h : Pays b number amount width 1000 sent) (hamount : 2000 ≤ amount)
    (hwidth : 0 < width) (n : Nat) :
    wp (increments n) b (fun _ b' =>
      Pays b' number amount width (paidAt amount width n) (sent ++ updates number amount width n))
      (fun _ _ => False) := by
  induction n with
  | zero =>
      show Pays b number amount width 1000 (sent ++ [])
      rw [List.append_nil]
      exact h
  | succ n ih =>
      unfold increments
      rw [wp_bind]
      refine ih.mono ?_ fun _ _ hfalse => hfalse
      intro _ b' hb'
      have hstep := incrementPayment_pays hb' hwidth (paidAt_le hamount n)
      rw [updates, List.range_succ, List.map_append, ← List.append_assoc]
      exact hstep

/-! ## From `initiate` to an open channel -/

variable {utxos : List UnspentOutput} {price : Int}

theorem Offers.ne_nil (h : Offers b utxos price) : utxos ≠ [] := by
  rintro rfl
  have hle : b.minEscrow ≤ ((0 : Int) : ℚ) - 1000 := h.minEscrow_le
  have hnonneg : 0 ≤ b.minEscrow := h.minEscrow_nonneg
  norm_num at hle
  linarith

theorem Offers.coinWidthOf_pos (h : Offers b utxos price) : 0 < coinWidthOf utxos price := by
  have hpos : (0 : ℚ) < price := by exact_mod_cast h.price_pos
  exact hpos.trans_le (le_coinWidthOf utxos price)

/-- All outputs count, for none is depleted. -/
theorem Offers.updateEscrowAmount (h : Offers b utxos price) :
    b.updateEscrowAmount =
      { b with escrowAmount := worth utxos - fee, coinWidth := coinWidthOf utxos price } := by
  have hall : b.fundingOutputs.filter (fun output => output.outputState ≠ some .depleted) =
      b.fundingOutputs := by
    apply List.filter_eq_self.mpr
    intro output hmem
    rw [h.fundingOutputs] at hmem
    obtain ⟨utxo, -, rfl⟩ := List.mem_map.mp hmem
    rfl
  have htotal : (b.fundingOutputs.map fun output => (output.utxo.satoshis : ℚ)).sum =
      worth utxos := by
    rw [h.fundingOutputs, List.map_map, worth, Int.cast_list_sum, List.map_map]
    rfl
  unfold Browser.updateEscrowAmount
  dsimp only
  rw [hall, htotal, h.pricePerSecond]
  rfl

/-- The loop of `create_payment_channel` ends where all outputs are of the
right kind. -/
theorem create_eq (page : Page) (serverKey : BitMesh.Bitcoin.Bytes)
    {outputState : Option OutputState}
    (hwindow : b.window = utxos.map fun utxo => ⟨utxo, outputState⟩) :
    ((create page serverKey b).2 = true ↔ ∀ utxo ∈ utxos, utxo.isPublicKeyHashOut) ∧
      ((∀ utxo ∈ utxos, utxo.isPublicKeyHashOut) →
        (create page serverKey b).1.consumer = some ⟨b.created.length,
          (Consumer.new (page.outscript serverKey)
            (b.refundAddress.getD page.ownAddress).script).processAll utxos⟩) := by
  have hkept : b.window.takeWhile (fun output => output.utxo.isPublicKeyHashOut) =
      (utxos.takeWhile fun utxo => utxo.isPublicKeyHashOut).map fun utxo =>
        ⟨utxo, outputState⟩ := by
    rw [hwindow, List.takeWhile_map]
    rfl
  constructor
  · show decide (List.length _ = List.length _) = true ↔ _
    rw [hkept, hwindow, decide_eq_true_iff, List.length_map, List.length_map,
      ← List.takeWhile_eq_self_iff]
    constructor
    · intro hlength
      exact (List.takeWhile_prefix _).eq_of_length hlength
    · intro hself
      rw [hself]
  · intro hall
    show some (Numbered.mk _ (Consumer.processAll _ (List.map FundingOutput.utxo _))) = _
    rw [hkept, List.takeWhile_eq_self_iff.mpr hall, List.map_map]
    congr
    exact List.map_id utxos

theorem createPaymentChannel_spec (page : Page) {serverKey : BitMesh.Bitcoin.Bytes}
    {outputState : Option OutputState} (hkey : b.serverKey = some serverKey)
    (hwindow : b.window = utxos.map fun utxo => ⟨utxo, outputState⟩) :
    wp (createPaymentChannel page) b
      (fun _ b' => b' = (create page serverKey b).1 ∧ ∀ utxo ∈ utxos, utxo.isPublicKeyHashOut)
      (fun _ _ => ¬ ∀ utxo ∈ utxos, utxo.isPublicKeyHashOut) := by
  obtain ⟨hfinished, -⟩ := create_eq page serverKey hwindow
  unfold createPaymentChannel
  rw [wp_bind, wp_get, hkey, wp_bind, wp_defined]
  dsimp only
  rw [wp_bind, wp_set, wp_ite]
  constructor
  · intro hnot hall
    exact hnot (hfinished.mpr hall)
  · intro hdone
    exact ⟨rfl, hfinished.mp (not_not.mp hdone)⟩

theorem sendRefund_spec {before between : Consumer} {refund : Transaction}
    (hconsumer : b.consumer = some ⟨number, before⟩)
    (hsetup : before.setupRefund page.id true = .ok (between, refund))
    (hsocket : b.socket = .opened) (hstate : b.channelState = some .initiated) :
    wp (sendRefund page honest) b
      (fun _ b' => b' = { b with
        consumer := some ⟨number, between⟩
        refundTx := some ⟨number, refund⟩
        sent := b.sent ++ [.provideRefund number]
        channelState := some .sentRefund })
      (fun _ _ => False) := by
  unfold sendRefund
  rw [wp_bind, wp_get, hconsumer, wp_bind, wp_defined]
  dsimp only [honest]
  rw [hsetup]
  dsimp only
  rw [wp_bind, wp_modify, wp_bind]
  apply (wp_sendMessage (by exact hsocket)).mpr
  apply (wp_setChannelState (by rw [hstate]; rfl)).mpr
  rfl

/-- The refund was sent for a consumer of these outputs, which the server's
signature on it will satisfy. -/
structure Initiated (page : Page) (b : Browser) (utxos : List UnspentOutput) (width : ℚ)
    (b' : Browser) : Prop where
  socket : b'.socket = .opened
  channelState : b'.channelState = some .sentRefund
  consumer : ∃ outscript refundAddress between refund,
    ((Consumer.new outscript refundAddress).processAll utxos).setupRefund page.id true =
      .ok (between, refund) ∧
    b'.consumer = some ⟨b.created.length, between⟩ ∧
    b'.refundTx = some ⟨b.created.length, refund⟩ ∧
    ∃ after, between.validateRefund refund true true = .ok after
  coinWidth : b'.coinWidth = width
  minInitialPayment : b'.minInitialPayment = 1000
  sent : b'.sent = b.sent ++ [.provideRefund b.created.length]

theorem initiate_spec (h : Offers b utxos price) :
    wp (initiate page honest) b
      (fun _ b' => Initiated page b utxos (coinWidthOf utxos price) b' ∧
        ∀ utxo ∈ utxos, utxo.isPublicKeyHashOut)
      (fun _ _ => ¬ ∀ utxo ∈ utxos, utxo.isPublicKeyHashOut) := by
  obtain ⟨serverKey, hkey⟩ := Option.isSome_iff_exists.mp h.serverKey
  unfold initiate
  rw [wp_bind, wp_modify, h.updateEscrowAmount, wp_bind, wp_get, wp_ite]
  refine ⟨fun hless => absurd hless (not_lt.mpr h.minEscrow_le), fun _ => ?_⟩
  rw [wp_bind, wp_set]
  -- the state that `create_payment_channel` starts from
  generalize hb₁ : ({ b with
    escrowAmount := worth utxos - fee
    coinWidth := coinWidthOf utxos price
    waitingToInitiate := false
    attemptReopenChannel := true } : Browser) = b₁
  have hwindow : b₁.window = utxos.map fun utxo => ⟨utxo, some .unprocessed⟩ := by
    subst hb₁
    show (b.fundingOutputs.take b.numFundingOutputs).drop b.fundingOutputsUsed = _
    rw [h.fundingOutputs, h.numFundingOutputs, h.fundingOutputsUsed, List.drop_zero,
      ← List.length_map, List.take_length]
  have hcreate := createPaymentChannel_spec page (by subst hb₁; exact hkey) hwindow
  rw [wp_bind]
  refine hcreate.mono ?_ fun _ _ hnot => hnot
  rintro _ b₂ ⟨hb₂, hkinds⟩
  have hconsumer := (create_eq page serverKey hwindow).2 hkinds
  rw [← hb₂] at hconsumer
  obtain ⟨between, refund, after, hsetup, hvalidate⟩ := Consumer.validateRefund_setupRefund page.id
    ((Consumer.new (page.outscript serverKey)
      (b₁.refundAddress.getD page.ownAddress).script).processAll utxos)
  have hstate : channelTransitionIsValid b₂.channelState .initiated = true := by
    subst hb₂ hb₁
    show channelTransitionIsValid b.channelState .initiated = true
    rcases h.channelState with hstate | hstate
    · rw [hstate]
      rfl
    · rw [hstate]
      rfl
  rw [wp_bind, wp_setChannelState hstate]
  have hsocket : b₂.socket = .opened := by
    subst hb₂ hb₁
    exact h.socket
  refine (sendRefund_spec (b := { b₂ with channelState := some .initiated }) hconsumer hsetup
    hsocket rfl).mono ?_ fun _ _ hfalse => hfalse.elim
  rintro _ b₃ rfl
  subst hb₂ hb₁
  exact ⟨⟨h.socket, rfl, ⟨_, _, between, refund, hsetup, rfl, rfl, after, hvalidate⟩, rfl,
    h.minInitialPayment, rfl⟩, hkinds⟩

/-- The first payment is sent if it leaves something. -/
theorem sendContract_spec {consumer : Consumer} {changeAddress : BitMesh.Bitcoin.Script} {A : Int}
    (hconsumer : b.consumer = some ⟨number, consumer⟩)
    (hpayment : consumer.paymentTx = some (.new A changeAddress)) (hsocket : b.socket = .opened)
    (hstate : b.channelState = some .receivedRefund) (hwidth : b.coinWidth = width)
    (hmin : b.minInitialPayment = 1000) :
    wp (sendContract page) b
      (fun _ b' => 1000 < A ∧ b'.channelState = some .sentContract ∧
        Pays { b' with fullyUsedUp := false } number A width 1000
          (b.sent ++ [.provideContract number (A - 1000) .single]))
      (fun _ _ => A ≤ 1000) := by
  have hoffer : (A : ℚ) - (0 + 1000) = A - 1000 := by ring
  have hrefund : ((Payment.new A changeAddress).updateValue 1000).refundAmount = A - 1000 := by
    rw [Payment.updateValue_refundAmount]
    exact hoffer
  have hhead : ((Payment.new A changeAddress).updateValue 1000).outputs.head? =
      if A = 1000 then none else some ⟨changeAddress, A - 1000⟩ := by
    show (if (A : ℚ) - (0 + 1000) ≠ 0 then [_] else []).head? = _
    have hzero : (A : ℚ) - (0 + 1000) = 0 ↔ A = 1000 := by
      rw [hoffer, sub_eq_zero]
      norm_cast
    by_cases hall : A = 1000
    · rw [if_pos hall, if_neg (not_not.mpr (hzero.mpr hall))]
      rfl
    · rw [if_neg hall, if_pos fun h => hall (hzero.mp h), ← hoffer]
      rfl
  unfold sendContract
  rw [wp_bind, wp_get, hconsumer, wp_bind, wp_defined, wp_bind, wp_modify, wp_bind]
  dsimp only
  rw [hpayment, wp_defined, wp_bind, wp_get]
  dsimp only
  rw [hmin, wp_bind]
  by_cases hneg : A < 1000
  · -- the negative output cannot be signed
    have hthrows : ((Payment.new A changeAddress).updateValue 1000).refundAmount < 0 := by
      rw [hrefund, sub_neg]
      exact_mod_cast hneg
    show wp (incrementPaymentBy _ _ _ _) _ _ _
    unfold incrementPaymentBy
    rw [wp_bind, wp_modify, if_pos ⟨rfl, hthrows⟩]
    exact hneg.le
  have hleft : 0 ≤ ((Payment.new A changeAddress).updateValue 1000).refundAmount := by
    rw [hrefund, sub_nonneg]
    exact_mod_cast not_lt.mp hneg
  apply (wp_incrementPaymentBy hleft).mpr
  rw [wp_bind, wp_modify, wp_bind, hhead]
  by_cases hall : A = 1000
  · rw [if_pos hall]
    exact hall.le
  · rw [if_neg hall, wp_defined, wp_bind]
    apply (wp_sendMessage (by exact hsocket)).mpr
    apply (wp_setChannelState (by rw [hstate]; rfl)).mpr
    have hmore : (1000 : ℚ) ≠ A := by exact_mod_cast Ne.symm hall
    refine ⟨lt_of_le_of_ne (not_lt.mp hneg) (Ne.symm hall), rfl, hsocket, ⟨_, _, rfl, rfl, rfl, ?_, hrefund⟩, hwidth, rfl, ?_, rfl⟩
    · exact zero_add _
    · exact (decide_eq_false hmore).symm

theorem opening_spec (page : Page) (h : Offers b utxos price) :
    wp (opening page b.created.length) b
      (fun _ b' => ((∀ utxo ∈ utxos, utxo.isPublicKeyHashOut) ∧ 1000 < contractAmount utxos) ∧
        Pays b' b.created.length (contractAmount utxos) (coinWidthOf utxos price) 1000
          (b.sent ++ [.provideRefund b.created.length,
            .provideContract b.created.length (contractAmount utxos - 1000) .single]))
      (fun _ _ => ¬ ((∀ utxo ∈ utxos, utxo.isPublicKeyHashOut) ∧ 1000 < contractAmount utxos)) := by
  unfold opening
  rw [wp_bind]
  refine (initiate_spec h).mono ?_ fun _ _ hnot hboth => hnot hboth.1
  rintro _ b₁ ⟨hb₁, hkinds⟩
  obtain ⟨outscript, refundAddress, between, refund, hsetup, hconsumer, hrefundTx, after,
    hvalidate⟩ := hb₁.consumer
  have hholds : ((Consumer.new outscript refundAddress).processAll utxos).Holds (distinct utxos) :=
    (Consumer.Holds.new outscript refundAddress).processAll utxos hkinds
  have hpayment : after.paymentTx = some (.new (contractAmount utxos) between.refundAddress) :=
    hholds.validated_paymentTx (distinct_ne_nil h.ne_nil) hsetup hvalidate
  have hvalidated : validated honest b.created.length b₁.refundTx between = .ok after := by
    rw [hrefundTx]
    simp [validated, honest, hvalidate]
  rw [wp_bind, receiveRefund, wp_bind, wp_get, hconsumer, wp_bind, wp_defined]
  dsimp only
  rw [wp_ite]
  refine ⟨fun _ => ?_, fun hnot => absurd rfl hnot⟩
  rw [hvalidated]
  dsimp only
  rw [wp_bind, wp_modify, wp_bind]
  apply (wp_setChannelState (by rw [hb₁.channelState]; rfl)).mpr
  refine (sendContract_spec (b := { b₁ with
    consumer := some ⟨b.created.length, after⟩, channelState := some .receivedRefund }) rfl
    hpayment hb₁.socket rfl hb₁.coinWidth hb₁.minInitialPayment).mono ?_ ?_
  · rintro _ b₂ ⟨hmore, hstate, hpays⟩
    unfold receiveChannelOpen
    rw [wp_bind, wp_modify]
    apply (wp_setChannelState (by rw [hstate]; rfl)).mpr
    refine ⟨⟨hkinds, hmore⟩, ?_⟩
    have hsent : b.sent ++ [FromClient.provideRefund b.created.length,
        .provideContract b.created.length (contractAmount utxos - 1000) .single] =
        b₁.sent ++ [.provideContract b.created.length (contractAmount utxos - 1000) .single] := by
      rw [hb₁.sent, List.append_assoc]
      rfl
    rw [hsent]
    exact ⟨hpays.socket, hpays.consumer, hpays.coinWidth, hpays.minInitialPayment,
      hpays.fullyUsedUp, hpays.sent⟩
  · intro _ _ hall hboth
    exact absurd hboth.2 (not_lt.mpr hall)

/-! ## All amounts -/

theorem acceptable_updateTo {read : ℚ → ℚ} (hread : Reads read)
    (hrest : paid = amount ∨ 1000 ≤ amount - paid) (hwhole : IsWhole (read (amount - paid))) :
    (updateTo number amount paid).Acceptable read := by
  rcases hrest with rfl | hlarge
  · have hzero : read (paid - paid) = 0 := by rw [sub_self, hread.zero]
    exact ⟨hwhole, .inl hzero, by simp [hread.zero]⟩
  · have hleft : 1000 ≤ read (amount - paid) := hread.large hlarge
    have hmore : paid ≠ amount := by
      rintro rfl
      norm_num at hlarge
    have hne : read (amount - paid) ≠ 0 := by linarith
    refine ⟨hwhole, .inr hleft, ?_⟩
    rw [if_neg hmore]
    simp [hne]

theorem acceptable_provideContract {read : ℚ → ℚ} (hread : Reads read)
    (hlarge : 1000 ≤ amount - 1000) (hwhole : IsWhole (read (amount - 1000))) :
    (FromClient.provideContract number (amount - 1000) .single).Acceptable read := by
  have hleft : 1000 ≤ read (amount - 1000) := hread.large hlarge
  have hne : read (amount - 1000) ≠ 0 := by linarith
  refine ⟨hwhole, .inr hleft, ?_⟩
  simp [hne]

/-- What was sent since `b`, where it is known. -/
theorem Pays.emits_iff {read : ℚ → ℚ} {b₀ : Browser} {messages : List FromClient}
    (h : Pays b₀ number amount width paid (b.sent ++ messages)) :
    Emits read b b₀ ↔ ∀ message ∈ messages, message.Acceptable read := by
  unfold Emits
  rw [h.sent, List.drop_left]

/-- The channel opens and every amount is acceptable exactly if the outputs
can be attached, the first payment leaves no dust, and every change, so
read, is whole. -/
theorem paysAcceptably_iff {read : ℚ → ℚ} (hread : Reads read) (h : Offers b utxos price) :
    (∃ b₀, PaysAcceptably read page b b₀) ↔
      (∀ utxo ∈ utxos, utxo.isPublicKeyHashOut) ∧ 2000 ≤ contractAmount utxos ∧
        ∀ n, IsWhole (read (contractAmount utxos -
          paidAt (contractAmount utxos) (coinWidthOf utxos price) n)) := by
  have hwidth : 0 < coinWidthOf utxos price := h.coinWidthOf_pos
  constructor
  · rintro ⟨b₀, hb₀⟩
    obtain ⟨⟨hkinds, hmore⟩, hpays⟩ := (opening_spec page h).of_run_eq_ok hb₀.opens
    obtain ⟨hemits, -⟩ := hb₀.first
    have hfirst := (hpays.emits_iff.mp hemits) _ (List.mem_cons_of_mem _ List.mem_cons_self)
    obtain ⟨hwhole, hsize, -⟩ := hfirst
    have hlarge : 2000 ≤ contractAmount utxos := by
      by_contra hless
      -- the first change is dust
      have hdust : read ((contractAmount utxos - 1000 : Int) : ℚ) =
          ((contractAmount utxos - 1000 : Int) : ℚ) := hread.dust (by omega) (by omega)
      push_cast at hdust
      rw [hdust] at hsize
      rcases hsize with hzero | hbig
      · have hall : (contractAmount utxos : ℚ) = 1000 := by linarith
        exact absurd (by exact_mod_cast hall) hmore.ne'
      · have hbig' : (2000 : ℚ) ≤ contractAmount utxos := by linarith
        exact hless (by exact_mod_cast hbig')
    refine ⟨hkinds, hlarge, ?_⟩
    have hamount : (2000 : ℚ) ≤ contractAmount utxos := by exact_mod_cast hlarge
    intro n
    cases n with
    | zero => exact hwhole
    | succ n =>
        obtain ⟨b₁, b₂, -, -, hrun₁, hrun₂, hemits, -⟩ := hb₀.each n
        have hpays₁ := (increments_pays hpays hamount hwidth n).of_run_eq_ok hrun₁
        have hpays₂ := (incrementPayment_pays hpays₁ hwidth
          (paidAt_le hamount n)).of_run_eq_ok hrun₂
        rw [List.append_assoc, List.append_assoc] at hpays₂
        have hlast := (hpays₂.emits_iff.mp hemits) _
          (List.mem_append_right _ (List.mem_append_right _ List.mem_cons_self))
        exact hlast.1
  · rintro ⟨hkinds, hlarge, hwhole⟩
    have hamount : (2000 : ℚ) ≤ contractAmount utxos := by exact_mod_cast hlarge
    have hmore : 1000 < contractAmount utxos := by omega
    obtain ⟨_, b₀, hopen, -, hpays⟩ := ((opening_spec page h).mono (fun _ _ hq => hq)
      fun _ _ hnot => hnot ⟨hkinds, hmore⟩).exists_run_eq_ok
    have hcontract : (FromClient.provideContract b.created.length (contractAmount utxos - 1000)
        .single).Acceptable read :=
      acceptable_provideContract hread (by linarith) (hwhole 0)
    have hprefix : ∀ message ∈ [FromClient.provideRefund b.created.length,
        .provideContract b.created.length (contractAmount utxos - 1000) .single],
        message.Acceptable read := by
      intro message hmem
      rcases List.mem_cons.mp hmem with rfl | hmem
      · trivial
      · cases List.mem_singleton.mp hmem
        exact hcontract
    have hupdates : ∀ n, ∀ message ∈ updates b.created.length (contractAmount utxos)
        (coinWidthOf utxos price) n, message.Acceptable read := by
      intro n message hmem
      obtain ⟨i, -, rfl⟩ := List.mem_map.mp hmem
      exact acceptable_updateTo hread (paidAt_eq_or hamount _) (hwhole _)
    refine ⟨b₀, hopen, ⟨hpays.emits_iff.mpr hprefix, ?_⟩, ?_, ?_⟩
    · obtain ⟨p, hp, hpamount, hpaid, -⟩ := hpays.payment
      refine ⟨p, hp, ?_, ?_⟩
      · rw [hpaid]
        norm_num
      · rw [hpaid, hpamount]
        linarith
    · intro n
      obtain ⟨_, b₁, hrun₁, hpays₁⟩ := (increments_pays hpays hamount hwidth n).exists_run_eq_ok
      obtain ⟨_, b₂, hrun₂, hpays₂⟩ :=
        (incrementPayment_pays hpays₁ hwidth (paidAt_le hamount n)).exists_run_eq_ok
      obtain ⟨p₁, hp₁, -, hpaid₁, -⟩ := hpays₁.payment
      obtain ⟨p₂, hp₂, hamount₂, hpaid₂, -⟩ := hpays₂.payment
      refine ⟨b₁, b₂, p₁, p₂, hrun₁, hrun₂, ?_, hp₁, hp₂, ?_, ?_⟩
      · rw [List.append_assoc, List.append_assoc] at hpays₂
        refine hpays₂.emits_iff.mpr fun message hmem => ?_
        rcases List.mem_append.mp hmem with hmem | hmem
        · exact hprefix message hmem
        · rcases List.mem_append.mp hmem with hmem | hmem
          · exact hupdates n message hmem
          · cases List.mem_singleton.mp hmem
            exact acceptable_updateTo hread (paidAt_eq_or hamount (n + 1)) (hwhole (n + 1))
      · rw [hpaid₁, hpaid₂]
        exact paidAt_le_succ hamount hwidth n
      · rw [hpaid₂, hamount₂]
        exact paidAt_le hamount (n + 1)
    · obtain ⟨n, hn⟩ := exists_paidAt_eq hamount hwidth
      obtain ⟨_, b₁, hrun, hpays₁⟩ := (increments_pays hpays hamount hwidth n).exists_run_eq_ok
      obtain ⟨p, hp, -, -, hrefund⟩ := hpays₁.payment
      refine ⟨n, b₁, p, hrun, hp, ?_, ?_⟩
      · rw [hrefund, hn, sub_self]
      · rw [hpays₁.fullyUsedUp, decide_eq_true hn]

/-- For the numbers that the page gives to its messages the width has to be
a whole number, unless the first increment is the last. As the messages
hold them, all numbers are whole. -/
theorem amounts_acceptable_iff (page : Page) (h : Offers b utxos price) :
    ((∃ b₀, PaysAcceptably id page b b₀) ↔
      (∀ utxo ∈ utxos, utxo.isPublicKeyHashOut) ∧ 2000 ≤ contractAmount utxos ∧
        (IsWhole (coinWidthOf utxos price) ∨
          contractAmount utxos - 2000 < coinWidthOf utxos price)) ∧
    ((∃ b₀, PaysAcceptably (fun value => unsignedLong value) page b b₀) ↔
      (∀ utxo ∈ utxos, utxo.isPublicKeyHashOut) ∧ 2000 ≤ contractAmount utxos) := by
  constructor
  · rw [paysAcceptably_iff Reads.id h]
    have hwhole : IsWhole (contractAmount utxos) := ⟨_, rfl⟩
    exact and_congr_right fun _ => and_congr_right fun _ =>
      forall_isWhole_iff hwhole h.coinWidthOf_pos
  · rw [paysAcceptably_iff Reads.unsignedLong h]
    refine and_congr_right fun _ => and_iff_left fun n => ⟨_, rfl⟩

end Browser

namespace Sample

/-- The page with one output, at one satoshi per second. -/
def offering (satoshis : Nat) : Browser where
  channelState := some .receivedPrice
  socket := .opened
  serverKey := some serverKey
  numFundingOutputs := 1
  fundingOutputs := [⟨⟨[1], 0, satoshis, true⟩, some .unprocessed⟩]

theorem offers {satoshis : Nat} (h : 2000 ≤ satoshis) :
    Browser.Offers (offering satoshis) [⟨[1], 0, satoshis, true⟩] 1 where
  socket := rfl
  channelState := .inl rfl
  serverKey := rfl
  fundingOutputs := rfl
  numFundingOutputs := rfl
  fundingOutputsUsed := rfl
  pricePerSecond := by
    show (1 : ℚ) = ((1 : Int) : ℚ)
    norm_num
  price_pos := by decide
  minInitialPayment := rfl
  minEscrow_nonneg := by
    show (0 : ℚ) ≤ 1000
    norm_num
  minEscrow_le := by
    have hcast : (2000 : ℚ) ≤ satoshis := by exact_mod_cast h
    show (1000 : ℚ) ≤ ((satoshis + 0 : Int) : ℚ) - 1000
    push_cast
    linarith

end Sample

namespace Browser

theorem amounts_acceptable_101000 :
    Offers (Sample.offering 101000) [⟨[1], 0, 101000, true⟩] 1 ∧
      (∃ b₀, PaysAcceptably id Sample.page (Sample.offering 101000) b₀) ∧
      ∃ b₀, PaysAcceptably (fun value => unsignedLong value) Sample.page
        (Sample.offering 101000) b₀ := by
  have hoffers : Offers (Sample.offering 101000) [⟨[1], 0, 101000, true⟩] 1 :=
    Sample.offers (by decide)
  have hiff := amounts_acceptable_iff Sample.page hoffers
  refine ⟨hoffers, hiff.1.mpr ⟨by decide, by decide, .inl ⟨1000, ?_⟩⟩,
    hiff.2.mpr ⟨by decide, by decide⟩⟩
  decide +kernel

/-- Of 1500 satoshis the first payment leaves 500, and of 99050 the second
leaves half a satoshi. -/
theorem amounts_not_acceptable :
    wp (opening Sample.page 0) (Sample.offering 2500)
      (fun _ b₀ => b₀.sent = [.provideRefund 0, .provideContract 0 500 .single])
      (fun _ _ => False) ∧
    unsignedLong 500 = 500 ∧
    wp (opening Sample.page 0 >>= fun _ => incrementPayment) (Sample.offering 100050)
      (fun _ b₁ => b₁.sent = [.provideRefund 0, .provideContract 0 98050 .single,
        .updatePayment 0 (97059 + 1 / 2) .single])
      (fun _ _ => False) := by
  decide +kernel

end Browser

end BitMesh.WebClient
