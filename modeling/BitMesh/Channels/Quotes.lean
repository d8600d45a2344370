import BitMesh.Channels.Changes

/-!
# The price a connection is quoted

PRICE and the acknowledgement of a macropayment read the maximum price of
the client behind the connection. The channel classes never change it, so
every message a connection is sent is made at the price it opened with.
-/

namespace BitMesh.Channels

open BitMesh.Lib

variable {p : Platform} {start : World} {a : Env × Action} {w w' : World}
  {quote quote' : ConnRef → Option Int}

/-- A message that depends on the price is made at the price of its
connection. -/
def PricedAt (quote : ConnRef → Option Int) : Event → Prop
  | .sent c (.price proposedPrice _) => quote c = some proposedPrice
  | .sent c (.paymentAck _ (some amountSpent) amountPurchased) =>
      ∃ price, quote c = some price ∧ amountPurchased = some (amountSpent.tdiv price)
  | _ => True

theorem PricedAt.neutral {e : Event} (he : e.neutral = true) : PricedAt quote e := by
  cases e with
  | sent c m =>
    cases m with
    | price => cases he
    | paymentAck info amountSpent amountPurchased =>
      cases amountSpent with
      | none => trivial
      | some _ => cases he
    | _ => trivial
  | _ => trivial

theorem PricedAt.mono {e : Event} (h : PricedAt quote e)
    (hquote : ∀ c price, quote c = some price → quote' c = some price) : PricedAt quote' e := by
  unfold PricedAt at h ⊢
  split at h
  · exact hquote _ _ h
  · obtain ⟨price, hprice, hpurchased⟩ := h
    exact ⟨price, hquote _ _ hprice, hpurchased⟩
  · trivial

/-- Connections that opened have the price `quote`, and so has what they
were sent. -/
structure QuotedAt (quote : ConnRef → Option Int) (w : World) : Prop where
  client : ∀ c < w.servers.next, (w.servers.read c).client.map (·.maxPrice) = quote c
  fresh : ∀ c, w.servers.next ≤ c → quote c = none
  events : ∀ e ∈ w.trace, PricedAt quote e

namespace QuotedAt

theorem initial (autosave : Bool) : QuotedAt (fun _ => none) (World.initial autosave) where
  client _ h := absurd h (Nat.not_lt_zero _)
  fresh _ _ := rfl
  events _ h := nomatch h

theorem step (h : QuotedAt quote w) (he : Effect p start a w w')
    (ha : ∀ c client, a.2 ≠ .input (.connectionOpen c client)) : QuotedAt quote w' where
  client c hc := by
    rcases he.maxPrice hc with ⟨hlt, hsame⟩ | ⟨rfl, hnone⟩ | ⟨client, hopen⟩
    · rw [hsame, h.client c hlt]
    · rw [hnone, h.fresh _ le_rfl]
      rfl
    · exact absurd hopen (ha c client)
  fresh c hc := h.fresh c (he.serversNext_le.trans hc)
  events e hmem := by
    cases hn : e.neutral with
    | true => exact .neutral hn
    | false =>
      rcases he.trace_of hn hmem with hold | hnew
      · exact h.events e hold
      · cases hnew with
        | announced c price hc _ hprice => exact (h.client c hc).symm.trans hprice
        | acknowledged c price amountSpent hc hprice =>
          exact ⟨price, (h.client c hc).symm.trans hprice, rfl⟩
        | _ => trivial

theorem path (h : QuotedAt quote w) {t : World} (hpath : Path p start a w t)
    (ha : ∀ c client, a.2 ≠ .input (.connectionOpen c client)) : QuotedAt quote t := by
  induction hpath with
  | refl => exact h
  | tail _ he ih => exact ih.step he ha

/-- An input other than the opening of a connection leaves the prices. -/
theorem next (h : QuotedAt quote w) (hw : Allocated w) (env : Env) {i : Input}
    (hi : ∀ c client, i ≠ .connectionOpen c client) : QuotedAt quote (w.next p (env, i)) :=
  h.path (perform_follows i hw).finalState fun c client ha =>
    hi c client (Action.input.inj ha)

/-- A connection opens with the price of its client. -/
theorem connectionOpen (h : QuotedAt quote w) (env : Env) {c : ConnRef} (client : ClientConfig)
    (hc : c < w.servers.next) (hnone : (w.servers.read c).client.isNone) :
    QuotedAt (Function.update quote c (some client.maxPrice))
      (w.next p (env, .connectionOpen c client)) := by
  have hnext : w.next p (env, .connectionOpen c client) = { w with
      servers := w.servers.modify c fun sv =>
        { sv with client := some client, connectionOpen := true } } := by
    apply (wp_iff_finalState (P := (· = _))).mp
    simp only [perform, wp_bind, wp_get, wp_ite, wp_modifyServer, wp_pure]
    exact ⟨fun _ => trivial, fun h => absurd ⟨hc, hnone⟩ h⟩
  have hquote : quote c = none := by
    rw [← h.client c hc, Option.isNone_iff_eq_none.mp hnone]
    rfl
  rw [hnext]
  constructor
  · intro c' hc'
    by_cases heq : c' = c
    · subst heq
      simp
    · rw [Heap.read_modify_ne _ _ heq, Function.update_of_ne heq]
      exact h.client c' hc'
  · intro c' hc'
    rw [Function.update_of_ne (Nat.ne_of_gt (lt_of_lt_of_le hc hc'))]
    exact h.fresh c' hc'
  · intro e he
    apply (h.events e he).mono
    intro c' price hprice
    -- nothing was sent at a price before
    have hne : c' ≠ c := by
      rintro rfl
      rw [hquote] at hprice
      cases hprice
    rwa [Function.update_of_ne hne]

end QuotedAt

end BitMesh.Channels
