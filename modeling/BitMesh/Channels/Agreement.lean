import BitMesh.Bitcoin.Signatures
import BitMesh.Channels.Connections
import BitMesh.Channels.Provenance

/-!
# What the parties of a channel agreed on

By the time its contract is broadcast, a channel has the keys of both
parties, a redeem script made of them, a contract that pays to that script
and an output for the client's change. None of it changes afterwards, so
the signature of the last payment still spends the contract when the
server completes the transaction and adds its own.
-/

namespace BitMesh.Channels

open BitMesh.Bitcoin BitMesh.Lib

variable {p : Platform} {env : Env} {start : World} {a : Env × Action} {w w' : World}

/-! ## The agreement -/

/-- The terms of a channel whose contract is broadcast. -/
structure Agreement (p : Platform) (w : World) (s : StateRef) where
  contract : Transaction
  output : TransactionOutput
  totalValue : Coin
  clientKey : ECKey
  serverPriv : Bytes
  clientOutput : OutputRef
  contract_eq : (w.states.read s).multisigContract = some contract
  output_eq : contract.output0 = .ok output
  value_eq : output.getValue = .ok totalValue
  totalValue_eq : (w.states.read s).totalValue = some totalValue
  clientKey_eq : (w.states.read s).clientKey = some clientKey
  serverKey_eq : (w.states.read s).serverKey = ECKey.fromPrivate p.toBitcoinj serverPriv
  redeemScript_eq : (w.states.read s).redeemScript =
    some (createMultiSigOutputScript clientKey (w.states.read s).serverKey)
  script_eq : output.script = createP2SHOutputScript p.toBitcoinj
    (createMultiSigOutputScript clientKey (w.states.read s).serverKey)
  clientOutput_eq : (w.states.read s).clientOutput = some clientOutput
  allocated : clientOutput < w.outputs.next
  keySent : clientKey.pub.length ≤ maxMessageSize
  scriptSent : ∃ o, Received p.toBitcoinj o ∧ o.script = (w.outputs.read clientOutput).script

theorem terms_field {α : Type} {st st' : PaymentChannelServerState} (h : st'.terms = st.terms)
    (f : PaymentChannelServerState → α) (hf : ∀ st, f st.terms = f st) : f st' = f st := by
  rw [← hf, h, hf]

/-- Client outputs keep their scripts from `w` to `w'`. -/
def KeepsScripts (w w' : World) : Prop :=
  ∀ o, o < w.outputs.next →
    o < w'.outputs.next ∧ (w'.outputs.read o).script = (w.outputs.read o).script

/-- An agreement depends on the terms of its state only. -/
def Agreement.congr {s : StateRef} (h : Agreement p w s)
    (hterms : (w'.states.read s).terms = (w.states.read s).terms) (hscripts : KeepsScripts w w') :
    Agreement p w' s :=
  have hkey := terms_field hterms (·.serverKey) fun _ => rfl
  { h with
    contract_eq := (terms_field hterms (·.multisigContract) fun _ => rfl).trans h.contract_eq
    totalValue_eq := (terms_field hterms (·.totalValue) fun _ => rfl).trans h.totalValue_eq
    clientKey_eq := (terms_field hterms (·.clientKey) fun _ => rfl).trans h.clientKey_eq
    serverKey_eq := hkey.trans h.serverKey_eq
    redeemScript_eq := by
      rw [hkey]
      exact (terms_field hterms (·.redeemScript) fun _ => rfl).trans h.redeemScript_eq
    script_eq := by rw [hkey]; exact h.script_eq
    clientOutput_eq := (terms_field hterms (·.clientOutput) fun _ => rfl).trans h.clientOutput_eq
    allocated := (hscripts h.clientOutput h.allocated).1
    scriptSent := by rw [(hscripts h.clientOutput h.allocated).2]; exact h.scriptSent }

theorem Effect.keepsScripts (he : Effect p start a w w') : KeepsScripts w w' :=
  fun _ ho => he.script ho

/-- The refund of a state is signed: the client's key and output are known. -/
def HasRefund (w : World) (st : PaymentChannelServerState) : Prop :=
  ∃ clientKey o, st.clientKey = some clientKey ∧
    st.redeemScript = some (createMultiSigOutputScript clientKey st.serverKey) ∧
    st.clientOutput = some o ∧ o < w.outputs.next

theorem HasRefund.step {st : PaymentChannelServerState} (h : HasRefund w st)
    (he : Effect p start a w w') : HasRefund w' st := by
  obtain ⟨clientKey, o, hkey, hscript, ho, hlt⟩ := h
  exact ⟨clientKey, o, hkey, hscript, ho, (he.script hlt).1⟩

/-- The keys of connections and states, and the agreements of channels. -/
structure Agreed (p : Platform) (w : World) : Prop where
  serverKey : ∀ c, c < w.servers.next →
    ∃ key, (w.servers.read c).myKey = ECKey.fromPrivate p.toBitcoinj key
  stateKey : ∀ s, ¬ Bound w s →
    ∃ key, (w.states.read s).serverKey = ECKey.fromPrivate p.toBitcoinj key
  signed : ∀ s, (w.states.read s).state = .waitingForMultisigContract →
    HasRefund w (w.states.read s)
  agreement : ∀ b s, IsContract w b s → Nonempty (Agreement p w s)

theorem Agreed.initial (autosave : Bool) : Agreed p (World.initial autosave) where
  serverKey _ h := absurd h (Nat.not_lt_zero _)
  stateKey _ h := absurd (by decide : State.waitingForMultisigAcceptance.ordinal ≤
    State.error.ordinal) h
  signed _ h := nomatch h
  agreement _ _ h := absurd h.1 (Nat.not_lt_zero _)

section Step

variable (hi : Agreed p w) (he : Effect p start a w w')
include hi he

theorem Agreed.serverKey_step {c : ConnRef} (hc : c < w'.servers.next) :
    ∃ key, (w'.servers.read c).myKey = ECKey.fromPrivate p.toBitcoinj key := by
  rcases he.myKey c with ⟨hsame, hold⟩ | ⟨_, _, _, _, _, hnew⟩ | ⟨-, hnew⟩
  · rw [hsame]
    exact hi.serverKey c (hold hc)
  · exact ⟨_, hnew⟩
  · exact hnew

theorem Agreed.stateKey_step {s : StateRef} (hs : ¬ Bound w' s) :
    ∃ key, (w'.states.read s).serverKey = ECKey.fromPrivate p.toBitcoinj key := by
  rcases he.changes s with hsame | ⟨st, hst, hch⟩
  · have hstate := core_field hsame (·.state) fun _ => rfl
    rw [core_field hsame (·.serverKey) fun _ => rfl]
    rw [Bound, hstate] at hs
    exact hi.stateKey s hs
  · rw [Bound, hst] at hs
    rw [hst]
    cases hch with
    | started c _ hc => exact hi.serverKey c hc
    | refundSigned _ _ hsign =>
      exact hi.stateKey s fun hbound => hbound.ne_refund hsign.state_eq
    | deducted | untied | accepted | unlockSet | keysSet | contractGiven | totalSet | stored =>
      exact hi.stateKey s hs
    | settled | closedEarly | restored | contractBroadcast =>
      exact absurd (Nat.le_of_ble_eq_true rfl) hs
    | contractDone _ success | settlementDone _ success =>
      cases success <;> exact absurd (Nat.le_of_ble_eq_true rfl) hs

theorem Agreed.signed_step {s : StateRef}
    (hs : (w'.states.read s).state = .waitingForMultisigContract) :
    HasRefund w' (w'.states.read s) := by
  rcases he.changes s with hsame | ⟨st, hst, hch⟩
  · have hstate := core_field hsame (·.state) fun _ => rfl
    have hold : HasRefund w' (w.states.read s).core := (hi.signed s (hstate ▸ hs)).step he
    rw [← hsame] at hold
    exact hold
  · rw [hst] at hs ⊢
    cases hch with
    | refundSigned c tx hsign _ hnext =>
      obtain ⟨clientKey, hkey, hscript⟩ := hsign.keys
      exact ⟨clientKey, w.outputs.next, hkey, hscript, rfl,
        lt_of_lt_of_eq (Nat.lt_succ_self _) hnext.symm⟩
    | keysSet _ hwait => exact absurd (hwait.symm.trans hs) (by decide)
    | deducted | untied | accepted | unlockSet | contractGiven | totalSet | stored =>
      exact (hi.signed s hs).step he
    | contractDone _ success | settlementDone _ success => cases success <;> cases hs
    | _ => cases hs

theorem Agreed.agreement_step (hb : Broadcasts w) (hsent : Sent p w) {b : Nat} {s : StateRef}
    (hs : IsContract w' b s) : Nonempty (Agreement p w' s) := by
  obtain ⟨hlt, c, provided, hpurpose⟩ := hs
  rcases he.offer ⟨hlt, hpurpose⟩ with hold | ⟨tx, hoff, rfl⟩
  · have hcontract := hold.isContract
    obtain ⟨h⟩ := hi.agreement b s hcontract
    have hkeep := he.keepsTerms (hb.allocated b s hcontract) (hb.bound b s hcontract)
    exact ⟨h.congr hkeep.terms he.keepsScripts⟩
  · -- the contract is broadcast after its script and its value were checked
    obtain ⟨output, v, clientKey, houtput, hv, htotal, -, -, hkey, hscript⟩ := hoff.locked
    obtain ⟨clientKey', o, hkey', hredeem, ho, hlt⟩ := hi.signed s hoff.state_eq
    obtain rfl := Option.some.inj (hkey.symm.trans hkey')
    obtain ⟨priv, hpriv⟩ := hi.stateKey s fun hbound => hbound.ne_contract hoff.state_eq
    exact ⟨⟨tx, output, v, clientKey, priv, o, by simpa using hoff.contract_eq, houtput, hv,
      by simpa using htotal, by simpa using hkey, by simpa using hpriv, by simpa using hredeem,
      by simpa using hscript, by simpa using ho, hlt, hsent.keys s _ hkey, _,
      hsent.outputs o hlt, rfl⟩⟩

end Step

theorem Passed.agreed {ok : World → Env × Action → Prop} {autosave : Bool}
    (h : Passed p ok autosave w) : Agreed p w :=
  Visited.invariant (.initial autosave)
    (fun _ _ _ _ hs hok hpath _ hi he =>
      have ht := hs.path hok hpath
      { serverKey := fun _ hc => hi.serverKey_step he hc
        stateKey := fun _ hs => hi.stateKey_step he hs
        signed := fun _ hs => hi.signed_step he hs
        agreement := fun _ _ hs =>
          hi.agreement_step he (Passed.broadcasts ht) (Passed.sent ht) hs }) h

end BitMesh.Channels
