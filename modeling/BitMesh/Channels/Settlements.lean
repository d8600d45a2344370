import BitMesh.Channels.Agreement
import BitMesh.Channels.Client

/-!
# Settlements

What `close` broadcasts is what the last accepted payment agreed on. The
fee is deducted from the state before it is known whether the settlement
goes out, so the value in the state can be off; but a state that was
deducted and not settled is worth too little for any settlement until the
next payment is accepted.
-/

namespace BitMesh.Channels

open BitMesh.Bitcoin BitMesh.Lib

variable {p : Platform} {env : Env} {start : World} {a : Env × Action} {w w' : World}
  {s : StateRef}

/-! ## A payment that is backed by a signature -/

/-- The signature behind what the server has been paid. -/
structure Backing (p : Platform) (w : World) (s : StateRef) extends Agreement p w s where
  refundSize : Coin
  signatureBytes : Bytes
  signature : TransactionSignature
  value : (w.states.read s).bestValueToMe.value = totalValue.value - refundSize.value
  nonneg : 0 ≤ (w.states.read s).bestValueToMe.value
  notDust : refundSize = Coin.zero ∨
    (w.outputs.read clientOutput).getMinNonDustValue ≤ refundSize.value
  signature_eq : (w.states.read s).bestValueSignature = some signatureBytes
  decodes : p.decodeFromBitcoin signatureBytes = .ok signature
  mode : signature.sigHashMode = paymentMode refundSize
  anyoneCanPay : signature.anyoneCanPay = true
  verifies : p.verify clientKey.pub
    ((channelTx p contract refundSize (w.outputs.read clientOutput).script).hashForSignature
      p.toBitcoinj 0 (createMultiSigOutputScript clientKey (w.states.read s).serverKey)
      (paymentMode refundSize) true) signature.rs = true

/-- A payment stays backed until the next one. -/
def Backing.congr (h : Backing p w s)
    (hterms : (w'.states.read s).terms = (w.states.read s).terms) (hscripts : KeepsScripts w w')
    (hbest : (w'.states.read s).bestValueToMe = (w.states.read s).bestValueToMe)
    (hsig : (w'.states.read s).bestValueSignature = (w.states.read s).bestValueSignature) :
    Backing p w' s :=
  have hscript := (hscripts h.clientOutput h.allocated).2
  { h.toAgreement.congr hterms hscripts with
    refundSize := h.refundSize
    signatureBytes := h.signatureBytes
    signature := h.signature
    value := by rw [hbest]; exact h.value
    nonneg := by rw [hbest]; exact h.nonneg
    notDust := by
      have := h.notDust
      rwa [TransactionOutput.getMinNonDustValue, ← hscript] at this
    signature_eq := hsig.trans h.signature_eq
    decodes := h.decodes
    mode := h.mode
    anyoneCanPay := h.anyoneCanPay
    verifies := by
      have := h.verifies
      rwa [← hscript, ← terms_field hterms (·.serverKey) fun _ => rfl] at this }

/-- A payment that is accepted is backed by its signature. -/
def Payment.backing (pay : Payment p w s) (h : Agreement p w s) :
    Backing p (w.accept s (p.getHash pay.contract) pay.newValueToMe pay.signatureBytes) s :=
  have hcontract : pay.contract = h.contract :=
    Option.some.inj (pay.contract_eq.symm.trans h.contract_eq)
  have htotal : pay.totalValue = h.totalValue :=
    Option.some.inj (pay.totalValue_eq.symm.trans h.totalValue_eq)
  have houtput : pay.clientOutput = h.clientOutput :=
    Option.some.inj (pay.clientOutput_eq.symm.trans h.clientOutput_eq)
  have hkey : pay.clientKey = h.clientKey :=
    Option.some.inj (pay.clientKey_eq.symm.trans h.clientKey_eq)
  { h with
    contract_eq := by simpa [World.accept] using h.contract_eq
    totalValue_eq := by simpa [World.accept] using h.totalValue_eq
    clientKey_eq := by simpa [World.accept] using h.clientKey_eq
    serverKey_eq := by simpa [World.accept] using h.serverKey_eq
    redeemScript_eq := by simpa [World.accept] using h.redeemScript_eq
    script_eq := by simpa [World.accept] using h.script_eq
    clientOutput_eq := by simpa [World.accept] using h.clientOutput_eq
    scriptSent := h.scriptSent
    refundSize := pay.refundSize
    signatureBytes := pay.signatureBytes
    signature := pay.signature
    value := by simpa [World.accept, htotal] using pay.value
    nonneg := by simpa [World.accept] using pay.nonneg
    notDust := by simpa [World.accept, houtput] using pay.notDust
    signature_eq := by simp [World.accept]
    decodes := pay.decodes
    mode := pay.mode
    anyoneCanPay := pay.anyoneCanPay
    verifies := by simpa [World.accept, hcontract, houtput, hkey] using pay.verifies }

theorem Backing.refundSize_nonneg (h : Backing p w s) : 0 ≤ h.refundSize.value := by
  rcases h.notDust with hzero | hdust
  · rw [hzero]
    exact le_rfl
  · exact le_trans (le_of_lt (TransactionOutput.getMinNonDustValue_pos _)) hdust

/-! ## The server completes the transaction -/

/-- What the server adds to the transaction the client has signed. -/
def settlementTx (p : Platform) (contract : Transaction) (change : Coin) (clientScript : Script)
    (serverOutput : TransactionOutput) : Transaction :=
  (channelTx p contract change clientScript).addOutput serverOutput

/-- The client's signature covers the completed transaction too. -/
theorem hashForSignature_settlementTx (contract : Transaction) (change : Coin)
    (clientScript redeemScript : Script) (serverOutput : TransactionOutput) :
    (settlementTx p contract change clientScript serverOutput).hashForSignature p.toBitcoinj 0
        redeemScript (paymentMode change) true =
      (channelTx p contract change clientScript).hashForSignature p.toBitcoinj 0 redeemScript
        (paymentMode change) true := by
  unfold paymentMode settlementTx
  split
  · exact Transaction.hashForSignature_addOutput_none ..
  · rename_i hne
    exact Transaction.hashForSignature_addOutput_single _ _ _ _ _ (by simp [channelTx, hne])

theorem makeUnsignedChannelContract_ok {contract : Transaction} {T v change : Coin}
    {o : OutputRef} (hcontract : (w.states.read s).multisigContract = some contract)
    (hT : (w.states.read s).totalValue = some T) (ho : (w.states.read s).clientOutput = some o)
    (hchange : T.subtract v = .ok change) {Q : Transaction → World → Prop}
    {E : JavaException → World → Prop}
    (hQ : Q (channelTx p contract change (w.outputs.read o).script) (w.setChange s change)) :
    wp (makeUnsignedChannelContract p s v) w Q E := by
  simp only [makeUnsignedChannelContract, wp_bind, wp_readState, wp_nonNull_some hT,
    wp_orThrow_ok hchange, wp_ite, wp_pure, wp_nonNull_some ho, wp_modifyOutput, wp_readOutput,
    wp_nonNull_some hcontract]
  simp only [World.setChange, ho] at hQ
  refine ⟨fun hzero => ?_, fun hne => ?_⟩
  · simpa [channelTx, hzero] using hQ
  · simpa [channelTx, hne, TransactionOutput.setValue] using hQ

/-- Both signatures together spend the contract. -/
theorem Backing.spends (hp : Ideal p.toBitcoinj) (h : Backing p w s) (clientScript : Script)
    (hscript : clientScript = (w.outputs.read h.clientOutput).script)
    (serverOutput : TransactionOutput) {redeemScript : Script} {serverSig : TransactionSignature}
    (hredeem : redeemScript = createMultiSigOutputScript h.clientKey (w.states.read s).serverKey)
    (hsig : (settlementTx p h.contract h.refundSize clientScript serverOutput).calculateSignature
      p.toBitcoinj 0 (w.states.read s).serverKey redeemScript .all false = .ok serverSig) :
    p.correctlySpends
      ((settlementTx p h.contract h.refundSize clientScript serverOutput).setScriptSig
        (createP2SHMultiSigInputScript p.toBitcoinj h.signature serverSig redeemScript)) 0
      h.output.script = true := by
  subst hscript hredeem
  rw [h.script_eq]
  refine hp.spends _ (TransactionInput.spending (p.getHash h.contract) 0) h.clientKey _ _ _ rfl
    ?_ ?_
  · rw [TransactionSignature.digest, h.mode, h.anyoneCanPay,
      Transaction.hashForSignature_setScriptSig, hashForSignature_settlementTx]
    exact h.verifies
  · rw [h.serverKey_eq] at hsig ⊢
    cases hsig
    simpa [TransactionSignature.digest, ECKey.fromPrivate] using hp.signs _ _

/-- What `close` builds has the form of a settlement. -/
theorem Backing.form (h : Backing p w s) {serverOutput : TransactionOutput}
    (hserver : serverOutput.script.program.length ≤ 25) {redeemScript : Script}
    (hredeem : redeemScript = createMultiSigOutputScript h.clientKey (w.states.read s).serverKey)
    {serverSig : TransactionSignature} {digest : Sha256Hash}
    (hsig : serverSig.rs = p.sign h.serverPriv digest) :
    SettlementForm p.toBitcoinj
      ((settlementTx p h.contract h.refundSize (w.outputs.read h.clientOutput).script
        serverOutput).setScriptSig
          (createP2SHMultiSigInputScript p.toBitcoinj h.signature serverSig redeemScript)) where
  input := ⟨TransactionInput.spending (p.getHash h.contract) 0, _, _, _, h.clientKey, _, _, _,
    h.decodes, hsig, h.keySent, h.serverKey_eq, by rw [hredeem]; rfl⟩
  outputs := by
    simp only [settlementTx, channelTx, Transaction.setScriptSig, Transaction.addOutput]
    split <;> simp
  scripts o ho := by
    simp only [settlementTx, channelTx, Transaction.setScriptSig, Transaction.addOutput,
      List.mem_append, List.mem_singleton] at ho
    rcases ho with ho | rfl
    · split at ho
      · cases ho
      · obtain rfl := List.mem_singleton.mp ho
        obtain ⟨output, hsent, hscript⟩ := h.scriptSent
        exact .inl (hsent.revalued (.inr ⟨h.refundSize, by rw [← hscript]; rfl⟩))
    · exact .inr hserver

/-- Amounts within the supply make a transaction that verifies. -/
theorem settlementTx_verifies (hp : Ideal p.toBitcoinj) {contract : Transaction} {change : Coin}
    {clientScript scriptSig : Script} {serverOutput : TransactionOutput}
    (hform : SettlementForm p.toBitcoinj
      ((settlementTx p contract change clientScript serverOutput).setScriptSig scriptSig))
    (hchange : 0 ≤ change.value) (hserver : 0 ≤ serverOutput.value)
    (hsum : change.value + serverOutput.value ≤ maxSatoshis) :
    ((settlementTx p contract change clientScript serverOutput).setScriptSig scriptSig).verify
      p.toBitcoinj = .ok () := by
  have hoff : ∀ hash : Sha256Hash, (TransactionInput.spending hash 0).isCoinBase = false := by
    intro hash
    simp [TransactionInput.isCoinBase, TransactionInput.spending]
  by_cases hzero : change = Coin.zero
  · refine Transaction.verify_eq_ok _ rfl (hoff _) ?_ (hp.size _ hform) ?_ ?_
    all_goals simp [settlementTx, channelTx, Transaction.setScriptSig, Transaction.addOutput, hzero]
    · exact hserver
    · omega
  · refine Transaction.verify_eq_ok _ rfl (hoff _) ?_ (hp.size _ hform) ?_ ?_
    all_goals simp [settlementTx, channelTx, Transaction.setScriptSig, Transaction.addOutput, hzero]
    · exact ⟨hchange, hserver⟩
    · omega

/-- Signing the completed transaction does not fail. -/
theorem Backing.signSettlement (hp : Ideal p.toBitcoinj) (h : Backing p w s) {t : World} {b : Coin}
    (ht : t.states.read s = { w.states.read s with bestValueToMe := b }) (hpos : 0 ≤ b.value)
    (hsum : h.refundSize.value + b.value < maxSatoshis) :
    wp (signSettlement p env s
        (channelTx p h.contract h.refundSize (w.outputs.read h.clientOutput).script) b) t
      (fun _ _ => True) (fun _ _ => False) := by
  have hnonneg := h.refundSize_nonneg
  have hnew : TransactionOutput.new b env.changeScript = .ok ⟨b.value, env.changeScript⟩ := by
    rw [TransactionOutput.new, if_neg (by omega), if_neg (by omega)]
  let redeemScript := createMultiSigOutputScript h.clientKey (w.states.read s).serverKey
  let tx := settlementTx p h.contract h.refundSize (w.outputs.read h.clientOutput).script
    ⟨b.value, env.changeScript⟩
  obtain ⟨serverSig, hsig, digest, hrs⟩ : ∃ sig, tx.calculateSignature p.toBitcoinj 0
      (w.states.read s).serverKey redeemScript .all false = .ok sig ∧
      ∃ digest, sig.rs = p.sign h.serverPriv digest := by
    rw [h.serverKey_eq]
    exact ⟨_, rfl, _, rfl⟩
  let signed := tx.setScriptSig
    (createP2SHMultiSigInputScript p.toBitcoinj h.signature serverSig redeemScript)
  have hverifies : signed.verify p.toBitcoinj = .ok () :=
    settlementTx_verifies hp (h.form env.changeScript_length rfl hrs) hnonneg hpos (le_of_lt hsum)
  have hspends : verifyInputs p signed h.contract = .ok () := by
    have := h.spends hp _ rfl _ rfl hsig
    simp only [verifyInputs, h.output_eq, bind, Except.bind, signed, tx, redeemScript, this]
    rfl
  simp only [Channels.signSettlement, signMultisigInput, wp_bind, wp_orThrow_ok hnew, wp_readState,
    ht, wp_nonNull_some h.redeemScript_eq]
  refine (wp_orThrow_ok hsig).mpr ((wp_nonNull_some h.signature_eq).mpr ?_)
  refine (wp_orThrow_ok h.decodes).mpr ((wp_orThrow_ok hverifies).mpr ?_)
  simp only [ht, wp_nonNull_some h.contract_eq]
  exact (wp_orThrow_ok hspends).mpr trivial

/-- A payment that is backed and worth more than two fees is settled. -/
theorem Backing.makeSettlement (hp : Ideal p.toBitcoinj) (h : Backing p w s) (env : Env)
    (hworth : 2000 < (w.states.read s).bestValueToMe.value) :
    wp (makeSettlement p env s) w (fun res _ => res.isSome) (fun _ _ => False) := by
  have hrange := (w.states.read s).bestValueToMe.inRange
  have htotal := h.totalValue.inRange
  have hnonneg := h.refundSize_nonneg
  have hvalue := h.value
  have hchange : h.totalValue.subtract (w.states.read s).bestValueToMe = .ok h.refundSize := by
    have heq : h.totalValue.value - (w.states.read s).bestValueToMe.value = h.refundSize.value := by
      omega
    rw [Coin.subtract, heq, Coin.valueOf_value]
  obtain ⟨b, hb⟩ : ∃ b, (w.states.read s).bestValueToMe.subtract Coin.referenceDefaultMinTxFee =
      .ok b :=
    ⟨_, Coin.subtract_eq_ok (by simp; omega) (by simp; omega)⟩
  have hbv := Coin.value_of_subtract hb
  rw [Coin.referenceDefaultMinTxFee_value] at hbv
  simp only [Channels.makeSettlement, wp_bind, wp_readState]
  refine makeUnsignedChannelContract_ok h.contract_eq h.totalValue_eq h.clientOutput_eq hchange ?_
  simp only [wp_orThrow_ok hb, wp_modifyState, wp_ite, wp_pure, wp_bind]
  refine ⟨fun hle => absurd hle (by simp; omega), fun _ => ?_⟩
  refine wp.mono (h.signSettlement hp ?_ (by omega) (by omega)) (fun _ _ _ => rfl) fun _ _ h => h
  have hstates : (w.setChange s h.refundSize).states = w.states := by
    unfold World.setChange
    split
    · rfl
    · split <;> rfl
  simp [hstates]

/-! ## The last accepted payment -/

/-- What an event leaves to the server of the state `s`, if it accepts a
payment. -/
def Event.acceptedBy (s : StateRef) : Event → Option Coin
  | .accepted s' _ v => if s' = s then some v else none
  | _ => none

/-- What the payment to `s` that was accepted last left to the server. -/
def World.lastAccepted (w : World) (s : StateRef) : Option Coin :=
  w.trace.findSome? (Event.acceptedBy s)

theorem Event.acceptedBy_neutral {e : Event} (h : e.neutral = true) : e.acceptedBy s = none := by
  cases e with
  | accepted => cases h
  | _ => rfl

theorem World.lastAccepted_eq (w : World) (s : StateRef) :
    w.lastAccepted s = w.history.findSome? (Event.acceptedBy s) := by
  rw [lastAccepted, history]
  induction w.trace with
  | nil => rfl
  | cons e rest ih =>
    cases hn : e.neutral with
    | true => simp [hn, Event.acceptedBy_neutral hn, ih]
    | false => simp [hn, List.findSome?_cons, ih]

/-- A payment is accepted by `incrementPayment` and nothing else. -/
theorem Effect.lastAccepted (he : Effect p start a w w') (s : StateRef) :
    w'.lastAccepted s = w.lastAccepted s ∨ ∃ pay : Payment p w s,
      w' = w.accept s (p.getHash pay.contract) pay.newValueToMe pay.signatureBytes := by
  obtain ⟨new, hw, hnew⟩ := he.grows
  rw [World.lastAccepted_eq, World.lastAccepted_eq, hw, List.findSome?_append]
  cases hfind : new.findSome? (Event.acceptedBy s) with
  | none => exact .inl rfl
  | some v =>
    obtain ⟨e, hmem, hv⟩ := List.exists_of_findSome?_eq_some hfind
    cases hnew e hmem with
    | accepted s' pay _ hw' =>
      obtain rfl : s' = s := by
        by_contra hne
        simp [Event.acceptedBy, hne] at hv
      exact .inr ⟨pay, hw'⟩
    | _ => cases hv

theorem World.lastAccepted_accept (w : World) (s : StateRef) (h : Sha256Hash) (v : Coin)
    (sig : Bytes) : (w.accept s h v sig).lastAccepted s = some v := by
  simp [World.lastAccepted, World.accept, Event.acceptedBy]

/-- A settlement is broadcast by an open channel. -/
theorem Effect.settlement (he : Effect p start a w w') {b : Nat} (hb : IsSettlement w' b s) :
    IsSettlement w b s ∨ ∃ v, (w.states.read s).state = .ready ∧
      Nonempty (Settlement p a.1 w s v (w'.broadcasts.read b).tx) := by
  cases he with
  | closing h =>
    cases h with
    | settling h =>
      cases h with
      | quiet hq =>
        rw [IsSettlement, hq.broadcasts] at hb
        exact .inl hb
      | deducted | closedEarly => exact .inl hb
      | settled s' v tx _ hready _ hset =>
        rcases hb.of_alloc rfl with hold | ⟨rfl, hpurpose⟩
        · exact .inl hold
        · cases hpurpose
          exact .inr ⟨v, hready, by simpa using ⟨hset⟩⟩
    | _ => exact .inl hb
  | contractBroadcast =>
    rcases hb.of_alloc rfl with hold | ⟨-, hpurpose⟩
    · exact .inl hold
    · cases hpurpose
  | completed => exact .inl ⟨hb.1, by simpa using hb.2⟩
  | _ => exact .inl hb

/-! ## What a settlement pays -/

/-- `tx` spends output 0 of the contract with hash `contractHash` and
value `total`: `refund` goes to the client's script, the fee is 1000 and
the rest goes to the server's. -/
structure PaysOut (contractHash : Sha256Hash) (total refund : Int)
    (clientScript serverScript : Script) (tx : Transaction) : Prop where
  input : ∃ scriptSig, tx.inputs =
    [{ TransactionInput.spending contractHash 0 with scriptSig := scriptSig }]
  outputs : tx.outputs =
    (if 0 < refund then [⟨refund, clientScript⟩] else []) ++ [⟨total - refund - 1000, serverScript⟩]
  nonneg : 0 ≤ refund
  notDust : 0 < refund →
    (⟨refund, clientScript⟩ : TransactionOutput).getMinNonDustValue ≤ refund
  worth : 1000 < total - refund - 1000
  balance : (tx.outputs.map (·.value)).sum + 1000 = total

/-- A settlement of a backed payment pays what was agreed on. -/
theorem Settlement.paysOut {v : Coin} {tx : Transaction} (hset : Settlement p env w s v tx)
    (h : Backing p w s) : PaysOut (p.getHash h.contract) h.totalValue.value
      (h.totalValue.value - (w.states.read s).bestValueToMe.value)
      (w.outputs.read h.clientOutput).script env.changeScript tx := by
  have hcontract : hset.contract = h.contract :=
    Option.some.inj (hset.contract_eq.symm.trans h.contract_eq)
  have htotal : hset.totalValue = h.totalValue :=
    Option.some.inj (hset.totalValue_eq.symm.trans h.totalValue_eq)
  have hvalue := h.value
  have hrefund : h.totalValue.value - (w.states.read s).bestValueToMe.value =
      h.refundSize.value := by omega
  have hchange : hset.change = h.refundSize := by
    apply Coin.ext
    rw [hset.change_value, htotal, hrefund]
  have hnonneg := h.refundSize_nonneg
  have hb := hset.b_value
  have hworth := hset.worth
  rw [Coin.referenceDefaultMinTxFee_value] at hb hworth
  rw [hrefund]
  obtain ⟨clientScript, hscript, houtputs⟩ := hset.outputs
  have houtputs : tx.outputs =
      (if 0 < h.refundSize.value then
        [⟨h.refundSize.value, (w.outputs.read h.clientOutput).script⟩] else []) ++
        [⟨h.totalValue.value - h.refundSize.value - 1000, env.changeScript⟩] := by
    have hvalue : v.value = h.totalValue.value - h.refundSize.value - 1000 := by omega
    rw [houtputs, hchange, hvalue]
    rw [hchange] at hscript
    by_cases hzero : h.refundSize = Coin.zero
    · simp [channelTx, hzero]
    · have hpos : 0 < h.refundSize.value :=
        lt_of_le_of_ne hnonneg fun heq => hzero (Coin.ext heq.symm)
      obtain ⟨o, ho, rfl⟩ := hscript hzero
      obtain rfl := Option.some.inj (ho.symm.trans h.clientOutput_eq)
      simp [channelTx, hzero, hpos]
  have hsum : (tx.outputs.map (·.value)).sum + 1000 = h.totalValue.value := by
    rw [houtputs]
    split
    · simp
      omega
    · have hzero : h.refundSize.value = 0 := by omega
      simp [hzero]
  refine ⟨?_, houtputs, hnonneg, fun hpos => ?_, by omega, hsum⟩
  · rw [← hcontract]
    exact hset.input
  · rcases h.notDust with hzero | hdust
    · rw [hzero] at hpos
      exact absurd hpos (by decide)
    · exact hdust

/-! ## Balances -/

/-- The state `s` is worth too little to be settled, or as much as its
last payment says. -/
def Worth (p : Platform) (w : World) (s : StateRef) : Prop :=
  (w.states.read s).bestValueToMe.value ≤ 1000 ∨
    w.lastAccepted s = some (w.states.read s).bestValueToMe ∧ Nonempty (Backing p w s)

/-- What does not touch the payment of `s` leaves its worth. -/
theorem Worth.keep (h : Worth p w s) (he : Effect p start a w w') (hkeep : KeepsTerms w w' s)
    (hlast : w'.lastAccepted s = w.lastAccepted s)
    (hbest : (w'.states.read s).bestValueToMe = (w.states.read s).bestValueToMe)
    (hsig : (w'.states.read s).bestValueSignature = (w.states.read s).bestValueSignature) :
    Worth p w' s := by
  rw [Worth, hbest, hlast]
  rcases h with hlow | ⟨hpaid, ⟨hbacking⟩⟩
  · exact .inl hlow
  · exact .inr ⟨hpaid, ⟨hbacking.congr hkeep.terms he.keepsScripts hbest hsig⟩⟩

theorem Worth.accept (pay : Payment p w s) (h : Agreement p w s) :
    Worth p (w.accept s (p.getHash pay.contract) pay.newValueToMe pay.signatureBytes) s :=
  .inr ⟨by rw [World.lastAccepted_accept]; simp [World.accept], ⟨pay.backing h⟩⟩

/-- A deduction that no settlement follows leaves too little: a state that
is worth more is settled. -/
theorem Worth.deduct (hp : Ideal p.toBitcoinj) (h : Worth p w s) {v : Coin}
    (hv : v.value =
      (w.states.read s).bestValueToMe.value - Coin.referenceDefaultMinTxFee.value)
    (why : v.value ≤ Coin.referenceDefaultMinTxFee.value ∨
      ∃ e t, (makeSettlement p env s).run w = .error e t) : v.value ≤ 1000 := by
  rw [Coin.referenceDefaultMinTxFee_value] at hv why
  by_contra hgt
  rcases h with hlow | ⟨-, ⟨hbacking⟩⟩
  · omega
  · rcases why with hle | ⟨e, t, hrun⟩
    · exact hgt hle
    · have hwp := hbacking.makeSettlement hp env (by omega)
      rw [wp, hrun] at hwp
      exact hwp

/-- `tx` settles the channel of `s` by its last accepted payment, which the
server gets to `serverScript`. -/
def PaysLastAgreed (p : Platform) (w : World) (s : StateRef) (serverScript : Script)
    (tx : Transaction) : Prop :=
  ∃ (h : Agreement p w s) (v : Coin), w.lastAccepted s = some v ∧
    PaysOut (p.getHash h.contract) h.totalValue.value (h.totalValue.value - v.value)
      (w.outputs.read h.clientOutput).script serverScript tx

/-- The server's script is that of the last output. -/
theorem PaysLastAgreed.script {serverScript : Script} {tx : Transaction}
    (h : PaysLastAgreed p w s serverScript tx) :
    tx.outputs.getLast?.map (·.script) = some serverScript := by
  obtain ⟨_, _, -, hpays⟩ := h
  simp [hpays.outputs]

/-- The worth of channels, before and after their settlement. -/
structure Balanced (p : Platform) (w : World) : Prop where
  unpaid : ∀ s, ¬ Bound w s → (w.states.read s).bestValueToMe.value ≤ 1000
  unsettled : ∀ b s, IsContract w b s → (∀ b', ¬ IsSettlement w b' s) → Worth p w s
  settled : ∀ b b' s, IsContract w b s → IsSettlement w b' s →
    ∃ serverScript, PaysLastAgreed p w s serverScript (w.broadcasts.read b').tx

theorem Balanced.initial (autosave : Bool) : Balanced p (World.initial autosave) where
  unpaid _ _ := (by decide : Coin.zero.value ≤ 1000)
  unsettled _ _ h := absurd h.1 (Nat.not_lt_zero _)
  settled _ _ _ h := absurd h.1 (Nat.not_lt_zero _)

section Step

variable (hi : Balanced p w) (he : Effect p start a w w')
include hi he

theorem Balanced.unpaid_step (hs : ¬ Bound w' s) :
    (w'.states.read s).bestValueToMe.value ≤ 1000 := by
  rcases he.changes s with hsame | ⟨st, hst, hch⟩
  · have hstate := core_field hsame (·.state) fun _ => rfl
    rw [core_field hsame (·.bestValueToMe) fun _ => rfl]
    rw [Bound, hstate] at hs
    exact hi.unpaid s hs
  · rw [Bound, hst] at hs
    rw [hst]
    cases hch with
    | started => exact (by decide : Coin.zero.value ≤ 1000)
    | refundSigned _ _ hsign => exact hi.unpaid s fun hbound => hbound.ne_refund hsign.state_eq
    | deducted _ _ hready =>
      refine absurd ?_ hs
      rw [hready]
      decide
    | accepted pay =>
      refine absurd ?_ hs
      show _ ≤ (w.states.read s).state.ordinal
      rw [pay.ready]
      decide
    | untied | unlockSet | keysSet | contractGiven | totalSet | stored => exact hi.unpaid s hs
    | settled | closedEarly | restored | contractBroadcast =>
      exact absurd (Nat.le_of_ble_eq_true rfl) hs
    | contractDone _ success | settlementDone _ success =>
      cases success <;> exact absurd (Nat.le_of_ble_eq_true rfl) hs

theorem Balanced.unsettled_step (hp : Ideal p.toBitcoinj) (hb : Broadcasts w) (ha : Agreed p w)
    {b : Nat} (hs : IsContract w' b s) (hnone : ∀ b', ¬ IsSettlement w' b' s) : Worth p w' s := by
  obtain ⟨hlt, c, provided, hpurpose⟩ := hs
  rcases he.offer ⟨hlt, hpurpose⟩ with hold | ⟨tx, hoff, rfl⟩
  · have hcontract := hold.isContract
    have hkeep := he.keepsTerms (hb.allocated b s hcontract) (hb.bound b s hcontract)
    have hworth := hi.unsettled b s hcontract fun b' hb' =>
      have hkept := he.broadcast_kept hb'.1
      hnone b' ⟨hkept.1, hkept.2.1.trans hb'.2⟩
    obtain ⟨h⟩ := ha.agreement b s hcontract
    rcases he.lastAccepted s with hlast | ⟨pay, rfl⟩
    · rcases he.changes s with hsame | ⟨st, hst, hch⟩
      · exact hworth.keep he hkeep hlast (core_field hsame (·.bestValueToMe) fun _ => rfl)
          (core_field hsame (·.bestValueSignature) fun _ => rfl)
      · cases hch with
        | deducted v hcalled hready hfree hv why =>
          refine .inl ?_
          rw [hst]
          exact hworth.deduct hp hv why
        | settled v tx _ _ _ _ hbroadcasts =>
          refine absurd ?_ (hnone w.broadcasts.next)
          rw [IsSettlement, hbroadcasts]
          exact ⟨Nat.lt_succ_self _, by simp⟩
        | accepted pay hw =>
          subst hw
          exact .accept pay h
        | restored _ _ heq | started _ heq =>
          exact absurd heq (Nat.ne_of_lt (hb.allocated b s hcontract))
        | _ =>
          exact hworth.keep he hkeep hlast (by rw [hst]) (by rw [hst])
    · exact .accept pay h
  · have hfree : ¬ Bound w s := fun hbound => hbound.ne_contract hoff.state_eq
    exact .inl (by simpa using hi.unpaid s hfree)

theorem Balanced.settled_step (hb : Broadcasts w) {b b' : Nat} (hs : IsContract w' b s)
    (hset : IsSettlement w' b' s) :
    ∃ serverScript, PaysLastAgreed p w' s serverScript (w'.broadcasts.read b').tx := by
  -- a contract that is broadcast now is not settled yet
  have hcontract : IsContract w b s := by
    obtain ⟨hlt, c, provided, hpurpose⟩ := hs
    rcases he.offer ⟨hlt, hpurpose⟩ with hold | ⟨tx, hoff, -⟩
    · exact hold.isContract
    · exfalso
      rcases he.settlement hset with hold | ⟨v, hready, -⟩
      · exact hb.not_settled (by rw [hoff.state_eq]; decide) hold
      · exact absurd (hoff.state_eq.symm.trans hready) (by decide)
  have hkeep := he.keepsTerms (hb.allocated b s hcontract) (hb.bound b s hcontract)
  rcases he.settlement hset with hold | ⟨v, hready, ⟨hsettlement⟩⟩
  · obtain ⟨serverScript, h, v, hlast, hpays⟩ := hi.settled b b' s hcontract hold
    refine ⟨serverScript, h.congr hkeep.terms he.keepsScripts, v, ?_, ?_⟩
    · rcases he.lastAccepted s with hsame | ⟨pay, -⟩
      · rw [hsame, hlast]
      · exact absurd hold (hb.not_settled (by rw [pay.ready]; decide))
    · rw [(he.broadcast_kept hold.1).2.2]
      show PaysOut _ _ _ (w'.outputs.read h.clientOutput).script _ _
      rw [(he.script h.allocated).2]
      exact hpays
  · have hnone : ∀ b', ¬ IsSettlement w b' s := fun b' =>
      hb.not_settled (by rw [hready]; decide)
    rcases hi.unsettled b s hcontract hnone with hlow | ⟨hlast, ⟨hbacking⟩⟩
    · have hv := hsettlement.b_value
      have hworth := hsettlement.worth
      rw [Coin.referenceDefaultMinTxFee_value] at hv hworth
      omega
    · refine ⟨a.1.changeScript, hbacking.toAgreement.congr hkeep.terms he.keepsScripts,
        (w.states.read s).bestValueToMe, ?_, ?_⟩
      · rcases he.lastAccepted s with hsame | ⟨pay, rfl⟩
        · rw [hsame, hlast]
        · exact absurd hset (hnone b')
      · show PaysOut _ _ _ (w'.outputs.read hbacking.clientOutput).script _ _
        rw [(he.script hbacking.allocated).2]
        exact hsettlement.paysOut hbacking

end Step

theorem Passed.balanced (hp : Ideal p.toBitcoinj) {ok : World → Env × Action → Prop}
    {autosave : Bool} (h : Passed p ok autosave w) : Balanced p w :=
  Visited.invariant (.initial autosave)
    (fun _ _ _ _ hs hok hpath _ hi he =>
      have ht := hs.path hok hpath
      have hb := Passed.broadcasts ht
      { unpaid := fun _ hs => hi.unpaid_step he hs
        unsettled := fun _ _ hs hnone =>
          hi.unsettled_step he hp hb (Passed.agreed ht) hs hnone
        settled := fun _ _ _ hs hset => hi.settled_step he hb hs hset }) h

/-- A settlement that an action broadcasts pays the server to the change
address the wallet has for the action. -/
theorem Path.settlement_script {t : World} (hpath : Path p start a start t) {b : Nat}
    (hnone : ¬ IsSettlement start b s) (hset : IsSettlement t b s) :
    (t.broadcasts.read b).tx.outputs.getLast?.map (·.script) = some a.1.changeScript := by
  induction hpath with
  | refl => exact absurd hset hnone
  | tail _ he ih =>
    rcases he.settlement hset with hold | ⟨v, -, ⟨hsettlement⟩⟩
    · rw [(he.broadcast_kept hold.1).2.2]
      exact ih hold
    · obtain ⟨_, -, houtputs⟩ := hsettlement.outputs
      simp [houtputs]

/-- A settlement was broadcast in one of the calls of the run, and pays the
server to what `wallet.getChangeAddress()` was in that call. -/
theorem Reaches.settlement {autosave : Bool}
    (h : Reaches (World.after p) (fun _ _ => True) (World.initial autosave) w) {b : Nat}
    (hset : IsSettlement w b s) : ∃ v a,
      Reaches (World.after p) (fun _ _ => True) (World.initial autosave) v ∧
      Reaches (World.after p) (fun _ _ => True) (v.after p a) w ∧
      ¬ IsSettlement v b s ∧ IsSettlement (v.after p a) b s ∧
      (w.broadcasts.read b).tx.outputs.getLast?.map (·.script) = some a.1.changeScript := by
  induction h with
  | start => exact absurd hset.1 (Nat.not_lt_zero _)
  | @step v a h _ ih =>
    have hpath : Path p v a v (v.after p a) :=
      (a.2.perform_follows (Passed.allocated (Passed.of_after h))).finalState
    by_cases hold : IsSettlement v b s
    · obtain ⟨v', a', hv, hrest, hnone, hnew, hscript⟩ := ih hold
      rw [← hpath.broadcast_tx hold.1] at hscript
      exact ⟨v', a', hv, hrest.step a trivial, hnone, hnew, hscript⟩
    · exact ⟨v, a, h, .start, hold, hset, hpath.settlement_script hold hset⟩

/-- However `incrementPayment`, `close` and `closeChannel` are called, at
most one settlement is broadcast for a negotiated channel, and it pays what
the last accepted payment agreed on, to the client and to what
`wallet.getChangeAddress()` is in the call that broadcasts it. -/
theorem settlement_pays_last_agreed (hp : Ideal p.toBitcoinj) {autosave : Bool}
    (h : Reaches (World.after p) (fun _ _ => True) (World.initial autosave) w) {b : Nat}
    (hs : IsContract w b s) :
    (∀ b₁ b₂, IsSettlement w b₁ s → IsSettlement w b₂ s → b₁ = b₂) ∧
      ∀ b', IsSettlement w b' s → ∃ v a,
        Reaches (World.after p) (fun _ _ => True) (World.initial autosave) v ∧
        Reaches (World.after p) (fun _ _ => True) (v.after p a) w ∧
        ¬ IsSettlement v b' s ∧ IsSettlement (v.after p a) b' s ∧
        PaysLastAgreed p w s a.1.changeScript (w.broadcasts.read b').tx := by
  have hpassed := Passed.of_after h
  refine ⟨fun b₁ b₂ => (Passed.broadcasts hpassed).settledOnce b₁ b₂ s, fun b' hset => ?_⟩
  obtain ⟨serverScript, hpays⟩ := (Passed.balanced hp hpassed).settled b b' s hs hset
  obtain ⟨v, a, hv, hrest, hnone, hnew, hscript⟩ := Reaches.settlement h hset
  obtain rfl : serverScript = a.1.changeScript :=
    Option.some.inj (hpays.script.symm.trans hscript)
  exact ⟨v, a, hv, hrest, hnone, hnew, hpays⟩

/-- After a payment of 50000 and an attempt to take some of it back, the
channel is closed twice. The client gets 50000 and the server 49000, at
the change address of its wallet. -/
theorem settlement_pays_last_agreed_50000 :
    let w := Client.act ((Client.openChannel 90000).map .input ++
      [.input (.message 0 (Client.updatePayment 1 50000)),
        .input (.message 0 (Client.updatePayment 1 60000)), .close 0, .close 0])
    (∀ b, IsSettlement w b 0 → b = 1) ∧ w.lastAccepted 0 = some ⟨50000, by decide⟩ ∧
      (w.broadcasts.read 1).tx.outputs =
        [⟨50000, (w.outputs.read 0).script⟩, ⟨49000, Client.env.changeScript⟩] ∧
      PaysLastAgreed Client.platform w 0 Client.env.changeScript (w.broadcasts.read 1).tx := by
  intro w
  have hcontract : IsContract w 0 0 :=
    ⟨by decide +kernel, 0, ⟨[3, 1, 100], Client.payment 1 90000⟩, by decide +kernel⟩
  have hset : IsSettlement w 1 0 := ⟨by decide +kernel, by decide +kernel⟩
  have houtputs : (w.broadcasts.read 1).tx.outputs =
      [⟨50000, (w.outputs.read 0).script⟩, ⟨49000, Client.env.changeScript⟩] := by decide +kernel
  have hreached : Reaches (World.after Client.platform) (fun _ _ => True) (World.initial true) w :=
    Reaches.foldl _ .start
  obtain ⟨honce, hpays⟩ := settlement_pays_last_agreed reference_ideal hreached hcontract
  obtain ⟨v, a, -, -, -, -, hpays⟩ := hpays 1 hset
  have hscript : a.1.changeScript = Client.env.changeScript := by
    have hlast := hpays.script
    rw [houtputs] at hlast
    exact (Option.some.inj hlast).symm
  exact ⟨fun b hb => honce b 1 hb hset, by decide +kernel, houtputs, hscript ▸ hpays⟩

end BitMesh.Channels
