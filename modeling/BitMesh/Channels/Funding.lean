import BitMesh.Channels.Client
import BitMesh.Lib.Transition

/-!
# Coins that arrive

`FundingListener.onCoinsReceived` runs through the outputs of a transaction
that concern the wallet, and tells the connection that watches an output's
address of the whole transaction. A macropayment connection then adds up all
the outputs of the transaction that pay its address. So the sum is credited
once for every such output, and an output of any other kind than
pay-to-pubkey-hash, which has no address, throws out of both loops.

Only the crediting loop is embedded here; the cash-out after it does not
touch the connections.
-/

namespace BitMesh.Channels

open BitMesh.Bitcoin BitMesh.Lib

section
variable (p : Platform) (env : Env)

/-- The body of the crediting loop. No connection is registered under the
null address. -/
def creditOutput (tx : Transaction) (output : TransactionOutput) : Method Unit := do
  match p.addressFromP2PKHScript output.script with
  | none => return
  | some address =>
      match (← get).addressConnectionMap.lookup address with
      | none => return
      | some connection => sendFunding p env connection tx

/-- The crediting loop of `onCoinsReceived`, over
`tx.getWalletOutputs(wallet)`. -/
def onCoinsReceived (walletOutputs : List TransactionOutput) (tx : Transaction) : Method Unit :=
  walletOutputs.forM (creditOutput p env tx)

/-- The output is paid to the address. -/
def pays (address : Address) (output : TransactionOutput) : Bool :=
  p.addressFromP2PKHScript output.script == some address

/-- What the outputs pay to an address. -/
def paidTo (address : Address) (outputs : List TransactionOutput) : Int :=
  ((outputs.filter (pays p address)).map (·.value)).sum

/-- `getAmountSentToAddress` throws on none of the outputs: each has an
address, and those paid to `address` have a value. -/
def Readable (address : Address) (outputs : List TransactionOutput) : Prop :=
  ∀ output ∈ outputs, (p.addressFromP2PKHScript output.script).isSome = true ∧
    (pays p address output = true → Coin.InRange output.value)

/-- A macropayment connection takes the transaction: it can be read, both
amounts are coins, the price is not zero and the client does not throw. -/
structure Takes (sv : PaymentChannelServer) (tx : Transaction) : Prop where
  readable : Readable p sv.myAddress tx.outputs
  amount : Coin.InRange ((paidTo p sv.myAddress tx.outputs).bmod (2 ^ 64))
  total : Coin.InRange (addLong sv.totalSent ((paidTo p sv.myAddress tx.outputs).bmod (2 ^ 64)))
  price : ∀ client, sv.client = some client → client.maxPrice ≠ 0
  callback : env.callbackThrows .paymentIncrease = none

/-- The watched addresses are those of macropayment connections. -/
structure Watching (w : World) : Prop where
  version : ∀ a c, w.addressConnectionMap.lookup a = some c →
    ∃ version, (w.servers.read c).clientVersion = some version ∧
      version.minor = browserMacropaymentMinorVersion
  client : ∀ a c, w.addressConnectionMap.lookup a = some c → (w.servers.read c).client.isSome = true
  address : ∀ a c, w.addressConnectionMap.lookup a = some c → (w.servers.read c).myAddress = a
  /-- `totalSent` is a `long` -/
  long : ∀ a c, w.addressConnectionMap.lookup a = some c →
    -2 ^ 63 ≤ (w.servers.read c).totalSent ∧ (w.servers.read c).totalSent < 2 ^ 63

end

/-! ## The inner loop -/

section
variable {p : Platform} {env : Env}

theorem paidTo_cons_pos {a : Address} {output : TransactionOutput} {rest : List TransactionOutput}
    (h : pays p a output = true) : paidTo p a (output :: rest) = output.value + paidTo p a rest := by
  simp [paidTo, h]

theorem paidTo_cons_neg {a : Address} {output : TransactionOutput} {rest : List TransactionOutput}
    (h : pays p a output = false) : paidTo p a (output :: rest) = paidTo p a rest := by
  simp [paidTo, h]

theorem paidTo_of_countP {a : Address} {outputs : List TransactionOutput}
    (h : outputs.countP (pays p a) = 0) : paidTo p a outputs = 0 := by
  have hnone : outputs.filter (pays p a) = [] := by
    rw [← List.length_eq_zero_iff, ← List.countP_eq_length_filter]
    exact h
  rw [paidTo, hnone]
  rfl

theorem exists_getValue_iff {output : TransactionOutput} :
    (∃ c, output.getValue = .ok c) ↔ Coin.InRange output.value := by
  rw [← Coin.exists_valueOf_iff]
  unfold TransactionOutput.getValue
  cases Coin.valueOf output.value <;> simp

theorem readable_cons {a : Address} {output : TransactionOutput} {rest : List TransactionOutput} :
    Readable p a (output :: rest) ↔
      ((p.addressFromP2PKHScript output.script).isSome = true ∧
        (pays p a output = true → Coin.InRange output.value)) ∧ Readable p a rest :=
  List.forall_mem_cons

/-- The sum wraps like any sum of `long`s. -/
theorem Readable.getAmountSentToAddress {a : Address} {outputs : List TransactionOutput}
    (h : Readable p a outputs) :
    getAmountSentToAddress p a outputs = .ok ((paidTo p a outputs).bmod (2 ^ 64)) := by
  induction outputs with
  | nil => rfl
  | cons output rest ih =>
    obtain ⟨⟨haddress, hvalue⟩, hrest⟩ := readable_cons.mp h
    have hrest := ih hrest
    obtain ⟨b, hb⟩ := Option.isSome_iff_exists.mp haddress
    simp only [Channels.getAmountSentToAddress, hb, hrest]
    by_cases hpays : b = a
    · have hp : pays p a output = true := by rw [pays, hb, hpays, beq_self_eq_true]
      obtain ⟨c, hc⟩ := exists_getValue_iff.mpr (hvalue hp)
      rw [if_pos hpays, hc, paidTo_cons_pos hp]
      simp only [bind, Except.bind, pure, Except.pure, addLong, Int.add_bmod_bmod,
        TransactionOutput.value_of_getValue hc]
    · have hp : pays p a output = false := by simp [pays, hb, hpays]
      rw [if_neg hpays, paidTo_cons_neg hp]

/-- An output without an address, or without a value, throws. -/
theorem readable_of_getAmountSentToAddress {a : Address} {outputs : List TransactionOutput} {n : Int}
    (h : getAmountSentToAddress p a outputs = .ok n) : Readable p a outputs := by
  induction outputs generalizing n with
  | nil =>
    intro output ho
    cases ho
  | cons output rest ih =>
    rw [Channels.getAmountSentToAddress] at h
    cases hb : p.addressFromP2PKHScript output.script with
    | none =>
      rw [hb] at h
      cases h
    | some b =>
      simp only [hb] at h
      by_cases hpays : b = a
      · rw [if_pos hpays] at h
        cases hc : output.getValue with
        | error e =>
          rw [hc] at h
          cases h
        | ok c =>
          cases hsum : getAmountSentToAddress p a rest with
          | error e =>
            rw [hc, hsum] at h
            cases h
          | ok sum =>
            apply readable_cons.mpr
            refine ⟨⟨by rw [hb]; rfl, ?_⟩, ih hsum⟩
            intro _
            exact exists_getValue_iff.mp ⟨c, hc⟩
      · rw [if_neg hpays] at h
        apply readable_cons.mpr
        refine ⟨⟨by rw [hb]; rfl, ?_⟩, ih h⟩
        intro hp
        exact absurd (Option.some.inj (hb.symm.trans (eq_of_beq hp))) hpays

/-! ## One call of `sendFunding` -/

/-- All that changed is the total of one connection, and the history. -/
structure Credited (w u : World) (c : ConnRef) (total : Int) : Prop where
  map : u.addressConnectionMap = w.addressConnectionMap
  servers : u.servers = w.servers.modify c fun sv => { sv with totalSent := total }

/-- A PAYMENT_ACK of two numbers fits in a frame. -/
def AckFits (p : Platform) : Prop :=
  ∀ spent purchased, p.encodedSize (.paymentAck none (some spent) (some purchased)) ≤ maxMessageSize

/-- A macropayment connection credits the transaction if it takes it, and
throws if not. -/
theorem wp_sendFunding {w : World} {c : ConnRef} {tx : Transaction} (hfits : AckFits p)
    (hversion : ∃ version, (w.servers.read c).clientVersion = some version ∧
      version.minor = browserMacropaymentMinorVersion)
    (hclient : (w.servers.read c).client.isSome = true) :
    wp (sendFunding p env c tx) w
      (fun _ u => Takes p env (w.servers.read c) tx ∧
        Credited w u c (addLong (w.servers.read c).totalSent
          ((paidTo p (w.servers.read c).myAddress tx.outputs).bmod (2 ^ 64))))
      (fun _ _ => ¬ Takes p env (w.servers.read c) tx) := by
  obtain ⟨version, hversion, hminor⟩ := hversion
  obtain ⟨client, hclient⟩ := Option.isSome_iff_exists.mp hclient
  unfold sendFunding
  rw [wp_bind, wp_readServer, wp_bind, wp_nonNull_some hversion, if_pos hminor]
  unfold acknowledgeFunding
  cases hamount : getAmountSentToAddress p (w.servers.read c).myAddress tx.outputs with
  | error e =>
    intro h
    cases hamount.symm.trans h.readable.getAmountSentToAddress
  | ok n =>
    have hreadable := readable_of_getAmountSentToAddress hamount
    have hn := Except.ok.inj (hamount.symm.trans hreadable.getAmountSentToAddress)
    simp only [wp_bind, wp_orThrow, wp_modifyServer, wp_nonNull_some hclient, wp_ite, wp_throw,
      sendToClient, wp_checkState, wp_note, paymentIncrease, decide_eq_true_eq]
    constructor
    case right =>
      intro e h
      cases h
    intro _ heq
    cases heq
    refine ⟨fun hprice h => h.price client hclient hprice, fun hprice => ⟨fun _ => ⟨?_, ?_⟩, ?_⟩⟩
    · intro amount hamount
      refine ⟨?_, ?_⟩
      · intro total htotal
        cases hcallback : env.callbackThrows .paymentIncrease with
        | some e =>
          rw [callback, hcallback]
          intro h
          cases hcallback.symm.trans h.callback
        | none =>
          rw [callback, hcallback]
          refine ⟨⟨hreadable, ?_, ?_, ?_, hcallback⟩, rfl, by rw [hn]⟩
          · exact hn ▸ Coin.exists_valueOf_iff.mp ⟨_, hamount⟩
          · exact hn ▸ Coin.exists_valueOf_iff.mp ⟨_, htotal⟩
          · intro client' hclient'
            cases hclient.symm.trans hclient'
            exact hprice
      · intro e he h
        obtain ⟨total, htotal⟩ := Coin.exists_valueOf_iff.mpr (hn ▸ h.total)
        cases he.symm.trans htotal
    · intro e he h
      obtain ⟨amount, hamount⟩ := Coin.exists_valueOf_iff.mpr (hn ▸ h.amount)
      cases he.symm.trans hamount
    · intro hsize
      exact absurd (hfits _ _) (of_decide_eq_false hsize)

/-! ## The outer loop -/

/-- The amount one call credits. -/
def credit (p : Platform) (a : Address) (tx : Transaction) : Int :=
  (paidTo p a tx.outputs).bmod (2 ^ 64)

/-- What the loop over `outputs` has done when it comes to its end: it has
credited the sum once for every output that pays a watched address. -/
structure Credits (p : Platform) (env : Env) (tx : Transaction) (outputs : List TransactionOutput)
    (w u : World) : Prop where
  map : u.addressConnectionMap = w.addressConnectionMap
  frame : ∀ c, u.servers.read c =
    { w.servers.read c with totalSent := (u.servers.read c).totalSent }
  total : ∀ a c, w.addressConnectionMap.lookup a = some c → (u.servers.read c).totalSent =
    (w.servers.read c).totalSent + outputs.countP (pays p a) * credit p a tx
  taken : ∀ a c, w.addressConnectionMap.lookup a = some c → outputs.countP (pays p a) ≠ 0 →
    Takes p env (w.servers.read c) tx ∧ Coin.InRange (u.servers.read c).totalSent

namespace Credits

variable {tx : Transaction} {w u v : World}

theorem refl {outputs : List TransactionOutput}
    (h : ∀ a c, w.addressConnectionMap.lookup a = some c → outputs.countP (pays p a) = 0) :
    Credits p env tx outputs w w where
  map := rfl
  frame _ := rfl
  total a c hc := by
    rw [h a c hc]
    simp
  taken a c hc hcount := absurd (h a c hc) hcount

/-- A loop that is done with some outputs goes on with the others. -/
theorem trans {before after : List TransactionOutput} (h : Credits p env tx before w u)
    (h' : Credits p env tx after u v) : Credits p env tx (before ++ after) w v where
  map := h'.map.trans h.map
  frame c := by
    rw [h'.frame c, h.frame c]
  total a c hc := by
    have hu := h.total a c hc
    have hv := h'.total a c (h.map ▸ hc)
    rw [List.countP_append, hv, hu]
    push_cast
    ring
  taken a c hc hcount := by
    have hu : u.addressConnectionMap.lookup a = some c := h.map ▸ hc
    have hv := h'.total a c hu
    by_cases hafter : after.countP (pays p a) = 0
    · -- nothing more was credited
      rw [List.countP_append, hafter] at hcount
      rw [hafter] at hv
      obtain ⟨htakes, hrange⟩ := h.taken a c hc hcount
      refine ⟨htakes, ?_⟩
      rw [hv]
      simpa using hrange
    · obtain ⟨htakes, hrange⟩ := h'.taken a c hu hafter
      refine ⟨?_, hrange⟩
      by_cases hbefore : before.countP (pays p a) = 0
      · have hsame : u.servers.read c = w.servers.read c := by
          have htotal := h.total a c hc
          rw [hbefore] at htotal
          rw [h.frame c, htotal]
          simp
        exact hsame ▸ htakes
      · exact (h.taken a c hc hbefore).1

/-- The connections stay macropayment connections. -/
theorem watching {outputs : List TransactionOutput} (h : Credits p env tx outputs w u)
    (hw : Watching w) : Watching u where
  version a c hc := by
    rw [h.frame c]
    exact hw.version a c (h.map ▸ hc)
  client a c hc := by
    rw [h.frame c]
    exact hw.client a c (h.map ▸ hc)
  address a c hc := by
    rw [h.frame c]
    exact hw.address a c (h.map ▸ hc)
  long a c hc := by
    have hc : w.addressConnectionMap.lookup a = some c := h.map ▸ hc
    by_cases hcount : outputs.countP (pays p a) = 0
    · have htotal := h.total a c hc
      rw [hcount] at htotal
      have hlong := hw.long a c hc
      rw [htotal]
      simpa using hlong
    · obtain ⟨hlow, hhigh⟩ := (h.taken a c hc hcount).2
      simp only [maxSatoshis] at hlow hhigh
      constructor <;> omega

end Credits

section
variable {tx : Transaction} {w : World}

/-- A sum of coins does not wrap. -/
theorem addLong_of_inRange {t n : Int} (ht : -2 ^ 63 ≤ t ∧ t < 2 ^ 63) (hn : Coin.InRange n)
    (h : Coin.InRange (addLong t n)) : addLong t n = t + n := by
  obtain ⟨hn₁, hn₂⟩ := hn
  obtain ⟨h₁, h₂⟩ := h
  simp only [addLong, maxSatoshis, Int.bmod_def] at *
  split at h₁ <;> split <;> omega

/-- Totals that are coins before and after leave no room for a sum that
wraps. -/
theorem bmod_of_inRange {t n : Int} (ht : -2 ^ 63 ≤ t ∧ t < 2 ^ 63)
    (hn : Coin.InRange (n.bmod (2 ^ 64))) (h : Coin.InRange (addLong t (n.bmod (2 ^ 64))))
    (hsum : Coin.InRange (t + n)) : n.bmod (2 ^ 64) = n := by
  have hadd := addLong_of_inRange ht hn h
  rw [hadd] at h
  obtain ⟨hn₁, hn₂⟩ := hn
  obtain ⟨h₁, h₂⟩ := h
  obtain ⟨hsum₁, hsum₂⟩ := hsum
  simp only [maxSatoshis] at *
  rw [Int.bmod_def]
  split <;> omega

/-- One output: either the sum is credited to the connection that watches
its address, or nothing happens. -/
theorem wp_creditOutput (hfits : AckFits p) (hw : Watching w) (output : TransactionOutput) :
    wp (creditOutput p env tx output) w (fun _ u => Credits p env tx [output] w u)
      (fun _ _ => ∃ a c, pays p a output = true ∧ w.addressConnectionMap.lookup a = some c ∧
        ¬ Takes p env (w.servers.read c) tx) := by
  unfold creditOutput
  cases haddress : p.addressFromP2PKHScript output.script with
  | none =>
    apply Credits.refl
    intro a c _
    simp [pays, haddress]
  | some address =>
    rw [wp_bind, wp_get]
    cases hlookup : w.addressConnectionMap.lookup address with
    | none =>
      apply Credits.refl
      intro a c hc
      have hne : address ≠ a := by
        rintro rfl
        cases hlookup.symm.trans hc
      simp [pays, haddress, hne]
    | some connection =>
      have hpays : pays p address output = true := by simp [pays, haddress]
      apply (wp_sendFunding hfits (hw.version _ _ hlookup) (hw.client _ _ hlookup)).mono
      · intro _ u hu
        obtain ⟨htakes, hcredited⟩ := hu
        have hmy := hw.address _ _ hlookup
        have hsum : addLong (w.servers.read connection).totalSent (credit p address tx) =
            (w.servers.read connection).totalSent + credit p address tx :=
          addLong_of_inRange (hw.long _ _ hlookup) (by simpa [credit, hmy] using htakes.amount)
            (by simpa [credit, hmy] using htakes.total)
        have hread (c : ConnRef) : u.servers.read c =
            if c = connection then { w.servers.read c with
              totalSent := (w.servers.read connection).totalSent + credit p address tx }
            else w.servers.read c := by
          rw [hcredited.servers, Heap.read_modify, ← hsum, credit, hmy]
        constructor
        · exact hcredited.map
        · intro c
          rw [hread c]
          split <;> rfl
        · intro a c hc
          rw [hread c]
          by_cases hca : c = connection
          · -- a connection has one address
            obtain rfl : a = address := by
              rw [← hw.address a c hc, hca, hmy]
            rw [if_pos hca, hca]
            simp [hpays]
          · have hne : address ≠ a := by
              rintro rfl
              exact hca (Option.some.inj (hc.symm.trans hlookup))
            rw [if_neg hca]
            simp [pays, haddress, hne]
        · intro a c hc hcount
          obtain rfl : address = a := by
            by_contra hne
            simp [pays, haddress, hne] at hcount
          obtain rfl : connection = c := Option.some.inj (hlookup.symm.trans hc)
          refine ⟨htakes, ?_⟩
          have htotal := htakes.total
          rw [hmy] at htotal
          rw [hread, if_pos rfl, ← hsum]
          exact htotal
      · intro _ _ h
        exact ⟨address, connection, hpays, hlookup, h⟩

/-- If the loop comes to its end, it has credited. -/
theorem wp_onCoinsReceived (hfits : AckFits p) (hw : Watching w)
    (outputs : List TransactionOutput) :
    wp (onCoinsReceived p env outputs tx) w (fun _ u => Credits p env tx outputs w u)
      (fun _ _ => True) := by
  induction outputs generalizing w with
  | nil =>
    apply Credits.refl
    intro a c _
    rfl
  | cons output rest ih =>
    show wp (do creditOutput p env tx output; onCoinsReceived p env rest tx) w _ _
    rw [wp_bind]
    apply (wp_creditOutput hfits hw output).mono
    · intro _ u hu
      apply (ih (hu.watching hw)).mono
      · intro _ v hv
        exact hu.trans hv
      · intro _ _ _
        trivial
    · intro _ _ _
      trivial

/-- What a connection needs of the outputs still to come, so that they are
credited once: one of them pays it, or together they pay it nothing. -/
structure PaidOnce (p : Platform) (env : Env) (tx : Transaction) (a : Address)
    (sv : PaymentChannelServer) (count : Nat) : Prop where
  readable : Readable p a tx.outputs
  once : count = 1 ∨ paidTo p a tx.outputs = 0
  amount : Coin.InRange (paidTo p a tx.outputs)
  total : Coin.InRange (sv.totalSent + paidTo p a tx.outputs)
  price : ∀ client, sv.client = some client → client.maxPrice ≠ 0
  callback : env.callbackThrows .paymentIncrease = none

theorem PaidOnce.credit_eq {a : Address} {sv : PaymentChannelServer} {count : Nat}
    (h : PaidOnce p env tx a sv count) : credit p a tx = paidTo p a tx.outputs := by
  obtain ⟨h₁, h₂⟩ := h.amount
  simp only [maxSatoshis] at h₁ h₂
  rw [credit, Int.bmod_def]
  split <;> omega

theorem PaidOnce.takes {a : Address} {sv : PaymentChannelServer} {count : Nat}
    (h : PaidOnce p env tx a sv count) (haddress : sv.myAddress = a) : Takes p env sv tx where
  readable := haddress ▸ h.readable
  amount := by
    have hrange := h.amount
    rw [← h.credit_eq] at hrange
    exact haddress ▸ hrange
  total := by
    have hrange := h.total
    rw [haddress, show (paidTo p a tx.outputs).bmod (2 ^ 64) = _ from h.credit_eq, addLong_eq]
    · exact hrange
    · have := hrange.1
      simp only [maxSatoshis] at this
      omega
    · have := hrange.2
      simp only [maxSatoshis] at this
      omega
  price := h.price
  callback := h.callback

/-- The loop comes to its end if every connection is paid once. -/
theorem onCoinsReceived_completes (hfits : AckFits p) (hw : Watching w)
    {outputs : List TransactionOutput}
    (h : ∀ a c, w.addressConnectionMap.lookup a = some c → outputs.countP (pays p a) ≠ 0 →
      PaidOnce p env tx a (w.servers.read c) (outputs.countP (pays p a))) :
    wp (onCoinsReceived p env outputs tx) w (fun _ _ => True) (fun _ _ => False) := by
  induction outputs generalizing w with
  | nil => trivial
  | cons output rest ih =>
    show wp (do creditOutput p env tx output; onCoinsReceived p env rest tx) w _ _
    rw [wp_bind]
    apply (wp_creditOutput hfits hw output).mono
    · intro _ u hu
      apply ih (hu.watching hw)
      intro a c hc hcount
      have hc : w.addressConnectionMap.lookup a = some c := hu.map ▸ hc
      have hcons : (output :: rest).countP (pays p a) =
          [output].countP (pays p a) + rest.countP (pays p a) :=
        (List.countP_append : ([output] ++ rest).countP (pays p a) = _)
      have hpaid := h a c hc (by omega)
      have htotal := hu.total a c hc
      -- a second output to the same address means that they pay nothing
      have hsame : ([output].countP (pays p a) : Int) * credit p a tx = 0 := by
        rw [hpaid.credit_eq]
        rcases hpaid.once with hone | hzero
        · have hfirst : [output].countP (pays p a) = 0 := by omega
          rw [hfirst]
          simp
        · rw [hzero, Int.mul_zero]
      rw [hsame, Int.add_zero] at htotal
      have hserver : u.servers.read c = w.servers.read c := by rw [hu.frame c, htotal]
      rw [hserver]
      refine { hpaid with once := ?_ }
      rcases hpaid.once with hone | hzero
      · left
        omega
      · exact .inr hzero
    · intro _ _ hthrows
      obtain ⟨a, c, hpays, hc, hnot⟩ := hthrows
      apply hnot
      apply (h a c hc _).takes (hw.address a c hc)
      rw [List.countP_cons_of_pos hpays]
      omega

end

end

/-- The loop credits every macropayment connection exactly what the
transaction pays it, exactly if the transaction pays each of them in one
output only (or nothing at all), every output of a transaction that pays one
is pay-to-pubkey-hash, the amounts are coins, no price is zero and no client
throws. -/
theorem transaction_credited_once_iff (p : Platform) (env : Env) (w : World) (tx : Transaction)
    (mine : TransactionOutput → Bool) (hfits : AckFits p) (hw : Watching w)
    (hmine : ∀ output ∈ tx.outputs, ∀ a c, pays p a output = true →
      w.addressConnectionMap.lookup a = some c → mine output = true) :
    wp (onCoinsReceived p env (tx.outputs.filter mine) tx) w
        (fun _ u => ∀ a c, w.addressConnectionMap.lookup a = some c →
          (u.servers.read c).totalSent =
            (w.servers.read c).totalSent + paidTo p a tx.outputs)
        (fun _ _ => False) ↔
      ∀ a c, w.addressConnectionMap.lookup a = some c →
        (∃ output ∈ tx.outputs, pays p a output = true) →
        PaidOnce p env tx a (w.servers.read c) (tx.outputs.countP (pays p a)) := by
  have hcount (a : Address) (c : ConnRef) (hc : w.addressConnectionMap.lookup a = some c) :
      (tx.outputs.filter mine).countP (pays p a) = tx.outputs.countP (pays p a) := by
    rw [List.countP_filter]
    apply List.countP_congr
    intro output houtput
    rw [Bool.and_eq_true]
    exact ⟨fun h => h.1, fun h => ⟨h, hmine output houtput a c h hc⟩⟩
  have hcredits : wp (onCoinsReceived p env (tx.outputs.filter mine) tx) w
      (fun _ u => Credits p env tx (tx.outputs.filter mine) w u) (fun _ _ => True) :=
    wp_onCoinsReceived hfits hw _
  constructor
  · intro h a c hc hpaid
    obtain ⟨_, u, htotal, hcredits⟩ :=
      (h.and hcredits).exists_of_no_exception fun _ _ hthrows => hthrows.1
    have hne : (tx.outputs.filter mine).countP (pays p a) ≠ 0 := by
      rw [hcount a c hc]
      exact (List.countP_pos_iff.mpr hpaid).ne'
    obtain ⟨htakes, hrange⟩ := hcredits.taken a c hc hne
    have hsum := (hcredits.total a c hc).symm.trans (htotal a c hc)
    rw [htotal a c hc] at hrange
    have haddress := hw.address a c hc
    have hcredit : credit p a tx = paidTo p a tx.outputs :=
      bmod_of_inRange (hw.long a c hc) (haddress ▸ htakes.amount) (haddress ▸ htakes.total) hrange
    have hamount : Coin.InRange (credit p a tx) := haddress ▸ htakes.amount
    rw [hcredit] at hamount hsum
    refine ⟨haddress ▸ htakes.readable, ?_, hamount, hrange, htakes.price, htakes.callback⟩
    -- the sum times the number of outputs is the sum
    rw [hcount a c hc] at hsum
    have hproduct : ((tx.outputs.countP (pays p a) : Int) - 1) * paidTo p a tx.outputs = 0 := by
      rw [Int.sub_mul]
      omega
    rcases Int.mul_eq_zero.mp hproduct with hone | hzero
    · left
      omega
    · exact .inr hzero
  · intro h
    have hcompletes : wp (onCoinsReceived p env (tx.outputs.filter mine) tx) w
        (fun _ _ => True) (fun _ _ => False) := by
      apply onCoinsReceived_completes hfits hw
      intro a c hc hne
      rw [hcount a c hc] at hne ⊢
      exact h a c hc (List.countP_pos_iff.mp (Nat.pos_of_ne_zero hne))
    apply (hcompletes.and hcredits).mono
    · intro _ u hu a c hc
      rw [hu.2.total a c hc, hcount a c hc]
      congr 1
      by_cases hzero : tx.outputs.countP (pays p a) = 0
      · rw [hzero, paidTo_of_countP hzero]
        simp
      · have hpaid := h a c hc (List.countP_pos_iff.mp (Nat.pos_of_ne_zero hzero))
        rw [hpaid.credit_eq]
        rcases hpaid.once with hone | hnothing
        · rw [hone]
          simp
        · rw [hnothing, Int.mul_zero]
    · intro _ _ hthrows
      exact hthrows.1

/-! ## A macropayment browser -/

namespace Macropayment

/-- The reference library with addresses: a script that starts with OP_DUP
pays to what follows. -/
def platform : Platform :=
  { Client.platform with
    addressFromP2PKHScript := fun script =>
      match script.program with
      | 0x76 :: hash160 => some ⟨0, hash160⟩
      | _ => none }

/-- CLIENT_VERSION of a macropayment browser. -/
def version : TwoWayChannelMessage where
  type := .clientVersion
  clientVersion := some { major := serverMajorVersion, minor := browserMacropaymentMinorVersion }

/-- A server with one macropayment connection, which watches its address. -/
def world : World :=
  (World.initial false).run platform
    ((Client.connect 0 ++ [Input.message 0 version]).map (Client.env, ·))

def address : Address := ⟨0, Reference.serverKey⟩

def output (value : Int) : TransactionOutput := ⟨value, ⟨0x76 :: Reference.serverKey⟩⟩

def paying (outputs : List TransactionOutput) : Transaction := ⟨1, [], outputs, 0⟩

theorem lookup_eq {a : Address} {c : ConnRef} (h : world.addressConnectionMap.lookup a = some c) :
    a = address ∧ c = 0 := by
  have hmap : world.addressConnectionMap = AList.insert address 0 ∅ := by
    apply AList.ext
    decide +kernel
  rw [hmap] at h
  by_cases ha : a = address
  · rw [ha, AList.lookup_insert] at h
    exact ⟨ha, (Option.some.inj h).symm⟩
  · rw [AList.lookup_insert_ne ha] at h
    cases h

theorem watching : Watching world where
  version a c h := by
    rw [(lookup_eq h).2]
    have hversion : (world.servers.read 0).clientVersion = version.clientVersion := by
      decide +kernel
    exact ⟨_, hversion, rfl⟩
  client a c h := by
    rw [(lookup_eq h).2]
    decide +kernel
  address a c h := by
    rw [(lookup_eq h).1, (lookup_eq h).2]
    decide +kernel
  long a c h := by
    rw [(lookup_eq h).2]
    decide +kernel

end Macropayment

open Macropayment in
/-- One output to the connection's address, and one to somebody else's. -/
theorem transaction_credited_once_5000 :
    wp (onCoinsReceived platform Client.env [output 5000]
        (paying [output 5000, ⟨700, ⟨[0x76, 1]⟩⟩])) world
      (fun _ u => ∀ a c, world.addressConnectionMap.lookup a = some c →
        (u.servers.read c).totalSent = (world.servers.read c).totalSent +
          paidTo platform a [output 5000, ⟨700, ⟨[0x76, 1]⟩⟩])
      (fun _ _ => False) := by
  refine (transaction_credited_once_iff platform Client.env world
    (paying [output 5000, ⟨700, ⟨[0x76, 1]⟩⟩]) (fun o => o = output 5000)
    (fun _ _ => Nat.zero_le _) watching ?_).mpr ?_
  · intro o ho a c hpays hc
    obtain ⟨rfl, rfl⟩ := lookup_eq hc
    revert o
    decide
  · intro a c hc _
    obtain ⟨rfl, rfl⟩ := lookup_eq hc
    refine ⟨?_, .inl (by decide), by decide, by decide +kernel, ?_, rfl⟩
    · unfold Readable
      decide
    · intro client hclient
      have hprice : (world.servers.read 0).client.map (·.maxPrice) = some 100 := by decide +kernel
      rw [hclient] at hprice
      have hprice : client.maxPrice = 100 := Option.some.inj hprice
      omega

open Macropayment in
/-- Two outputs of 5000 to one address credit it with 20000, and an output of
another kind throws before anything is credited. -/
theorem transaction_credited_twice :
    Reaches (World.next platform) (fun _ _ => True) (.initial false) world ∧ Watching world ∧
      paidTo platform address [output 5000, output 5000] = 10000 ∧
      (world.servers.read 0).totalSent = 0 ∧
      ((finalState (onCoinsReceived platform Client.env [output 5000, output 5000]
        (paying [output 5000, output 5000])) world).servers.read 0).totalSent = 20000 ∧
      wp (onCoinsReceived platform Client.env [output 5000] (paying [output 5000, ⟨700, ⟨[0xa9]⟩⟩]))
        world (fun _ _ => False) (fun e u => e = .nullPointer ∧ (u.servers.read 0).totalSent = 0) := by
  refine ⟨Reaches.foldl _ .start, watching, by decide, by decide +kernel, by decide +kernel, ?_⟩
  decide +kernel

end BitMesh.Channels
