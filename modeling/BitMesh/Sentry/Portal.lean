import BitMesh.Sentry.Changes

/-!
# The free seconds of the portal

An Apple device is let through for twenty seconds when it submits the
form, so that it takes the network to be a working one. The machine of
the sequence is meant to do this once. It serves the form again from any
state, logs the transition as illegal and takes it, and the next request
opens another gap. With one gap, a client that does not pay is online for
twenty seconds at most.
-/

namespace BitMesh.Sentry

open BitMesh.Lib

/-! ## Gaps -/

/-- A gap is pending until it expires. -/
theorem World.after_gaps {w : World} (hw : w.Allocated) (e : Event) {g : Gap}
    (hg : g ∈ w.gaps) : g ∈ (w.after e).gaps ∨ e = .gapExpired g ∧ g.due ≤ w.now := by
  have hquiet : ∀ {w' : World}, Quiet w w' → g ∈ w'.gaps := fun h => h.gaps ▸ hg
  cases e with
  | elapse millis => exact .inl hg
  | save config => exact .inl hg
  | handshake ip => exact .inl (hquiet (.openWebSocket w hw ip))
  | closed s => exact .inl (hquiet (.closed w s))
  | ioException s => exact .inl (hquiet (.ioException w s))
  | close s => exact .inl (hquiet (.close w s))
  | request ip uri agent =>
    refine .inl ?_
    rcases w.serve_cases ip uri agent with ⟨w₁, r₁, q, machine, h, -, -, heq⟩ | ⟨-, h⟩
    · simp only [after, heq, openGap, onClient_gaps]
      exact List.mem_cons_of_mem _ (hquiet (h.trans (.setMachine w₁ q _)))
    · exact hquiet h
  | channelOpen s => exact .inl (hquiet (.channelOpen w s))
  | reloaded s =>
    simp only [after]
    split
    · exact .inl (by simpa using hg)
    · exact .inl hg
  | paymentIncrease s increase total =>
    simp only [after]
    split
    · exact .inl (by simpa using hg)
    · exact .inl hg
  | check r =>
    simp only [after, checkTimer]
    split
    · exact .inl (by simpa using hg)
    · exact .inl hg
  | act r =>
    simp only [after, actTimer]
    split
    · exact .inl hg
    · exact .inl (by simpa using hg)
    · refine .inl ?_
      rw [(w.disconnect_quiet r).gaps]
      simpa using hg
  | gapExpired gap =>
    simp only [after, gapExpired]
    split
    · rename_i hdue
      by_cases heq : g = gap
      · exact .inr ⟨by rw [heq], heq ▸ hdue.2⟩
      · refine .inl ?_
        simp only [onClient_gaps]
        exact (List.mem_erase_of_ne heq).mpr hg
    · exact .inl hg
  | reset r =>
    simp only [after, reset]
    split
    · exact .inl hg
    · split
      · split
        · exact .inl hg
        · split
          · exact .inl (by simpa using hg)
          · exact .inl hg
      · exact .inl hg

/-- A gap that expires takes its client to the captive portal. -/
theorem World.after_gapExpired {w : World} {g : Gap} (hg : g ∈ w.gaps) (hdue : g.due ≤ w.now) :
    ((w.after (.gapExpired g)).clients.read
      (w.sequences.read g.sequence).client).getConnectivityState = .redirectToCaptivePortal := by
  simp only [after, gapExpired, if_pos (And.intro hg hdue), onClient_clients]
  rw [Heap.read_modify_self]
  rfl

/-- A request that opens a gap: it is due in twenty seconds. -/
theorem World.after_opens {w : World} {ip : IpAddress} {uri : String} {agent : Option String}
    {r : ClientRef} (hopens : w.opensGap ip uri agent = some r) :
    let w' := w.after (.request ip uri agent)
    (w'.observed r).gaps = (w.observed r).gaps + 1 ∧
    ∃ q, ⟨q, w.now + wisprGap⟩ ∈ w'.gaps ∧ (w'.sequences.read q).client = r := by
  rcases w.serve_cases ip uri agent with ⟨w₁, r₁, q, machine, hquiet, -, howner, heq⟩ | ⟨hnone, -⟩
  · rw [hopens] at howner
    obtain rfl := Option.some.inj howner
    simp only [after, heq, openGap, setMachine, onClient_observed, onClient_gaps, onClient_now,
      onClient_sequences]
    refine ⟨by simp [hquiet.observed], q, ?_, ?_⟩
    · rw [hquiet.now]
      exact List.mem_cons_self
    · exact Heap.field_modify _ _ _ WISPrSequence.client fun _ => rfl
  · cases hopens.symm.trans hnone

/-! ## A client that does not pay -/

/-- No payment is reported for client `r`, and time does not pass a timer
of it that is due. -/
def Unpaid (r : ClientRef) (w : World) : Event → Prop
  | .paymentIncrease s _ _ => (w.sockets.read s).client ≠ r
  | .elapse millis => ∀ g ∈ w.gaps, (w.sequences.read g.sequence).client = r →
      w.now + millis ≤ g.due
  | _ => True

/-- A request opens a gap for client `r` only if none was opened before. -/
def OneGap (r : ClientRef) (w : World) : Event → Prop
  | .request ip uri agent => w.opensGap ip uri agent = some r → (w.observed r).gaps = 0
  | _ => True

instance decidableUnpaid (r : ClientRef) (w : World) : (e : Event) → Decidable (Unpaid r w e)
  | .paymentIncrease _ _ _ => inferInstanceAs (Decidable (_ ≠ _))
  | .elapse _ => inferInstanceAs (Decidable (∀ g ∈ w.gaps, _))
  | .save _ | .handshake _ | .closed _ | .ioException _ | .close _
  | .request _ _ _ | .channelOpen _ | .reloaded _ | .check _ | .act _ | .gapExpired _
  | .reset _ => isTrue trivial

instance decidableOneGap (r : ClientRef) (w : World) : (e : Event) → Decidable (OneGap r w e)
  | .request _ _ _ => inferInstanceAs (Decidable (_ → _))
  | .elapse _ | .paymentIncrease _ _ _ | .save _ | .handshake _ | .closed _ | .ioException _
  | .close _ | .channelOpen _ | .reloaded _ | .check _ | .act _ | .gapExpired _
  | .reset _ => isTrue trivial

namespace ConnectedClient

/-- The client never paid: it is NEW, and its timer was never started. -/
def Idle (client : ConnectedClient) : Prop :=
  client.getPaymentState = .new ∧ client.sentryHandler = false ∧ client.ticking = none

theorem Same.idle {client c : ConnectedClient} (hsame : client.Same c) (h : client.Idle) :
    c.Idle := by
  obtain ⟨_, _, _, _, rfl⟩ := hsame
  exact h

theorem init_idle (ip : IpAddress) (config : BitmeshConfiguration) (now : Int) :
    (init ip config now).Idle := ⟨rfl, rfl, rfl⟩

end ConnectedClient

/-- A client that does not pay stays NEW, and comes online by a gap only. -/
theorem Change.unpaid {w : World} {r : ClientRef} {e : Event} {c : ConnectedClient}
    (h : Change w r e c) (hunpaid : Unpaid r w e) (hidle : (w.clients.read r).Idle) :
    c.Idle ∧ (c.getConnectivityState = .open →
      (w.clients.read r).getConnectivityState = .open ∨
        ∃ ip uri agent, e = .request ip uri agent ∧ w.opensGap ip uri agent = some r) := by
  have hlinked : ∀ {c}, w.Linked r c → c.Idle ∧ (c.getConnectivityState = .open →
      (w.clients.read r).getConnectivityState = .open) := by
    rintro c (hsame | ⟨-, ip, hsame⟩)
    · refine ⟨hsame.idle hidle, ?_⟩
      obtain ⟨_, _, _, _, rfl⟩ := hsame
      exact id
    · refine ⟨hsame.idle (ConnectedClient.init_idle ip _ _), ?_⟩
      obtain ⟨_, _, _, _, rfl⟩ := hsame
      exact nofun
  cases h with
  | linked hlink => exact ⟨(hlinked hlink).1, fun hopen => .inl ((hlinked hlink).2 hopen)⟩
  | opened hopens hlink => exact ⟨(hlinked hlink).1, fun _ => .inr ⟨_, _, _, rfl, hopens⟩⟩
  | gapExpired => exact ⟨hidle, nofun⟩
  | reset _ hsame => exact ⟨hsame.idle hidle, nofun⟩
  | reloaded =>
    unfold ConnectedClient.setReloadedChannel
    split
    · exact ⟨hidle, .inl⟩
    · exact ⟨hidle, .inl⟩
  | paid s increase total _ howner => exact absurd howner hunpaid
  | checked hhandler _ => exact absurd (hidle.2.1.symm.trans hhandler) (by decide)
  | acted hticking _ =>
    rw [hidle.2.2] at hticking
    cases hticking

/-- The account of a client that does not pay: while it is online a gap is
pending, and the time to its end is still free. -/
structure FreeTime (r : ClientRef) (w : World) : Prop where
  idle : (w.clients.read r).Idle
  total : (w.observed r).openMillis ≤ wisprGap
  pending : (w.clients.read r).getConnectivityState = .open →
    ∃ g ∈ w.gaps, (w.sequences.read g.sequence).client = r ∧ w.now ≤ g.due ∧
      (w.observed r).openMillis + (g.due - w.now) ≤ wisprGap
  first : (w.observed r).gaps = 0 →
    (w.observed r).openMillis = 0 ∧ (w.clients.read r).getConnectivityState ≠ .open

namespace FreeTime

variable {r : ClientRef} {w : World} {e : Event}

/-- The time online after `e`. -/
theorem total_after (h : FreeTime r w) (hw : w.Allocated) (hunpaid : Unpaid r w e) :
    ((w.after e).observed r).openMillis ≤ wisprGap ∧
    ((w.clients.read r).getConnectivityState = .open →
      ∃ g ∈ w.gaps, (w.sequences.read g.sequence).client = r ∧ (w.after e).now ≤ g.due ∧
        ((w.after e).observed r).openMillis + (g.due - (w.after e).now) ≤ wisprGap) := by
  have hobs := World.after_observes hw e r
  rw [hobs.now, hobs.openMillis]
  by_cases hopen : (w.clients.read r).getConnectivityState = .open
  · obtain ⟨g, hg, howner, hdue, hfree⟩ := h.pending hopen
    have hnext : w.now + e.millis ≤ g.due := by
      cases e with
      | elapse millis => exact hunpaid g hg howner
      | _ => exact (add_zero w.now).trans_le hdue
    rw [if_pos hopen]
    exact ⟨by omega, fun _ => ⟨g, hg, howner, hnext, by omega⟩⟩
  · rw [if_neg hopen, add_zero]
    exact ⟨h.total, fun hopen' => absurd hopen' hopen⟩

theorem after (h : FreeTime r w) (hw : w.Allocated) (hunpaid : Unpaid r w e)
    (hone : OneGap r w e) : FreeTime r (w.after e) := by
  have hobs := World.after_observes hw e r
  have hext := World.after_extends hw e
  obtain ⟨hidle, hopens⟩ := (World.after_change hw e r).unpaid hunpaid h.idle
  obtain ⟨htotal, hpending⟩ := h.total_after hw hunpaid
  have hmillis : (w.observed r).gaps = 0 → ((w.after e).observed r).openMillis = 0 := by
    intro hnone
    obtain ⟨hzero, hoffline⟩ := h.first hnone
    rw [hobs.openMillis, if_neg hoffline, hzero, add_zero]
  by_cases hrequest : ∃ ip uri agent, e = .request ip uri agent ∧ w.opensGap ip uri agent = some r
  · obtain ⟨ip, uri, agent, rfl, hopen⟩ := hrequest
    obtain ⟨hcount, q, hg, howner⟩ := World.after_opens hopen
    have hnow : (w.after (.request ip uri agent)).now = w.now := hobs.now.trans (add_zero _)
    have hzero := hmillis (hone hopen)
    refine ⟨hidle, htotal, fun _ => ⟨_, hg, howner, ?_, ?_⟩, fun hnone => ?_⟩
    · rw [hnow]
      exact le_add_of_nonneg_right (by decide)
    · rw [hzero, hnow]
      dsimp only
      omega
    · rw [hcount] at hnone
      cases hnone
  · have hkept : ((w.after e).clients.read r).getConnectivityState = .open →
        (w.clients.read r).getConnectivityState = .open :=
      fun hopen => (hopens hopen).resolve_right hrequest
    refine ⟨hidle, htotal, fun hopen => ?_, fun hnone => ?_⟩
    · obtain ⟨g, hg, howner, hdue, hfree⟩ := hpending (hkept hopen)
      rcases World.after_gaps hw e hg with hg' | ⟨rfl, hexpired⟩
      · exact ⟨g, hg', (hext.owner _ (hw.gap g hg)).trans howner, hdue, hfree⟩
      · have hportal := World.after_gapExpired hg hexpired
        rw [howner, hopen] at hportal
        cases hportal
    · have hnone' : (w.observed r).gaps = 0 := Nat.le_zero.mp (hnone ▸ hobs.gaps)
      exact ⟨hmillis hnone', fun hopen => (h.first hnone').2 (hkept hopen)⟩

end FreeTime

section

variable (now : Int) (config : BitmeshConfiguration) (inFace outFace : InterfaceName)

/-- In every run without a payment of client `r` in which at most one gap
is opened for it, it is online for at most twenty seconds. -/
theorem unpaid_online_within_gap (r : ClientRef) {w : World}
    (hrun : Reaches World.after (fun w e => Unpaid r w e ∧ OneGap r w e)
      (.initial now config inFace outFace) w) :
    (w.observed r).openMillis ≤ wisprGap := by
  have hall : w.Allocated ∧ FreeTime r w := by
    refine run_invariant (I := FreeTime r) ?_ ?_ hrun
    · have hgap : (0 : Int) ≤ wisprGap := by decide
      exact ⟨ConnectedClient.init_idle _ _ _, hgap, nofun, fun _ => ⟨rfl, nofun⟩⟩
    · exact fun w e hw hok h => h.after hw hok.1 hok.2
  exact hall.2.total

end

/-- An Apple device that asks for two pages and waits. -/
theorem unpaid_online_within_gap_apple :
    (([Event.request clientAddress "/" (some "CaptiveNetworkSupport"),
      .request clientAddress "/" (some "CaptiveNetworkSupport"), .elapse 20000,
      .gapExpired ⟨0, 20000⟩, .elapse 5000].foldl World.after accessPoint).observed 0).openMillis ≤
      wisprGap :=
  unpaid_online_within_gap 0 SentryTimeLogic.defaultConfiguration eth0 wlan0 0
    (.along .start (by decide +kernel))

/-- The device asks for two more pages when the gap is over, and is online
for another twenty seconds. -/
theorem second_gap_for_two_requests :
    ∃ w, Reaches World.after (Unpaid 0) accessPoint w ∧ wisprGap < (w.observed 0).openMillis :=
  ⟨[Event.request clientAddress "/" (some "CaptiveNetworkSupport"),
      .request clientAddress "/" (some "CaptiveNetworkSupport"), .elapse 20000,
      .gapExpired ⟨0, 20000⟩, .request clientAddress "/" (some "CaptiveNetworkSupport"),
      .request clientAddress "/" (some "CaptiveNetworkSupport"), .elapse 20000].foldl
      World.after accessPoint,
    .along .start (by decide +kernel), by decide +kernel⟩

end BitMesh.Sentry
