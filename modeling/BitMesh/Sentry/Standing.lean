import BitMesh.Sentry.Changes

/-!
# A client in good standing is online

A client that has paid, or is graced, is let through by the firewall.
The payment machine sets the connectivity state whenever it moves, but the
portal's timers set it as well: a WISPr gap opened before the payment
still expires, and the reset timer runs on while the channel is closed.
Neither looks at the payment state.
-/

namespace BitMesh.Sentry

open BitMesh.Lib

namespace ConnectedClient

/-- The payment state is PAYED or GRACED. -/
def Standing (client : ConnectedClient) : Prop :=
  client.getPaymentState = .payed ∨ client.getPaymentState = .graced

instance (client : ConnectedClient) : Decidable client.Standing :=
  inferInstanceAs (Decidable (_ ∨ _))

/-- In good standing only if online. -/
def Online (client : ConnectedClient) : Prop :=
  client.Standing → client.getConnectivityState = .open

variable {client : ConnectedClient}

theorem Same.online {c : ConnectedClient} (h : client.Same c) (hc : client.Online) : c.Online := by
  obtain ⟨_, _, _, _, rfl⟩ := h
  exact hc

theorem init_online (ip : IpAddress) (config : BitmeshConfiguration) (now : Int) :
    (init ip config now).Online := by
  rintro (h | h) <;> cases h

/-- Every move of the payment machine sets the connectivity state. -/
theorem setPaymentState_online (state : PaymentState) : (client.setPaymentState state).Online := by
  intro h
  rw [setPaymentState_connectivity]
  unfold Standing at h
  rw [setPaymentState_payment] at h
  rcases h with rfl | rfl <;> rfl

theorem payed_online (h : client.Online) : client.payed.Online := by
  unfold payed
  split
  · exact client.setPaymentState_online .payed
  · exact h
  · exact client.setPaymentState_online .payed
  · exact h

theorem paymentIncrease_online (now total : Int) (h : client.Online) :
    (client.paymentIncrease now total).Online := by
  unfold paymentIncrease
  split
  · exact h
  · exact payed_online h

theorem check_online (now later : Int) (h : client.Online) : (client.check now later).Online := by
  unfold check
  split
  · dsimp only
    split
    · exact client.setPaymentState_online .graced
    · exact h
  · exact h

theorem act_online (h : client.Online) : client.act.Online := by
  unfold act
  dsimp only
  split
  · exact ConnectedClient.setPaymentState_online .disconnected
  · exact h

theorem setReloadedChannel_online (h : client.Online) :
    (client.setReloadedChannel true).Online := by
  unfold setReloadedChannel
  split
  · exact h
  · exact h

end ConnectedClient

theorem World.Linked.online {w : World} {r : ClientRef} {c : ConnectedClient}
    (h : w.Linked r c) (hr : (w.clients.read r).Online) : c.Online := by
  rcases h with hsame | ⟨-, ip, hsame⟩
  · exact hsame.online hr
  · exact hsame.online (ConnectedClient.init_online ip w.config w.now)

/-- The portal's timers spare a client in good standing: no gap of it
expires, and its reset timer runs only while its channel is open. -/
def TimersSpareStanding (w : World) : Event → Prop
  | .gapExpired gap => ¬ (w.clients.read (w.sequences.read gap.sequence).client).Standing
  | .reset r => (w.clients.read r).channelOpen = true ∨ ¬ (w.clients.read r).Standing
  | _ => True

instance decidableTimersSpareStanding (w : World) : (e : Event) →
    Decidable (TimersSpareStanding w e)
  | .gapExpired _ => inferInstanceAs (Decidable (¬ _))
  | .reset _ => inferInstanceAs (Decidable (_ ∨ _))
  | .elapse _ | .save _ | .handshake _ | .closed _ | .ioException _ | .close _ | .request _ _ _
  | .channelOpen _ | .reloaded _ | .paymentIncrease _ _ _ | .check _ | .act _ =>
      isTrue trivial

/-- What a client becomes is online when it was, unless a timer of the
portal takes it off. -/
theorem Change.online {w : World} {r : ClientRef} {e : Event} {c : ConnectedClient}
    (h : Change w r e c) (hok : TimersSpareStanding w e) (hr : (w.clients.read r).Online) :
    c.Online := by
  cases h with
  | linked hlinked => exact hlinked.online hr
  | opened _ _ => exact fun _ => rfl
  | gapExpired gap _ _ howner =>
    subst howner
    exact fun hstanding => absurd hstanding hok
  | reset hclosed hsame =>
    obtain ⟨_, _, _, _, rfl⟩ := hsame
    intro hstanding
    rcases hok with hopen | hnot
    · exact absurd (hclosed.symm.trans hopen) (by decide)
    · exact absurd hstanding hnot
  | reloaded s _ _ => exact ConnectedClient.setReloadedChannel_online hr
  | paid s increase total _ _ => exact ConnectedClient.paymentIncrease_online _ _ hr
  | checked _ _ => exact ConnectedClient.check_online _ _ hr
  | acted _ hsame => exact hsame.online (ConnectedClient.act_online hr)

section

variable (now : Int) (config : BitmeshConfiguration) (inFace outFace : InterfaceName)

/-- In every run whose timers spare clients in good standing, a client
that has paid or is graced is online. -/
theorem standing_is_online {w : World}
    (hrun : Reaches World.after TimersSpareStanding (.initial now config inFace outFace) w)
    (r : ClientRef) (hstanding : (w.clients.read r).Standing) :
    (w.clients.read r).getConnectivityState = .open := by
  have hall : w.Allocated ∧ ∀ r, (w.clients.read r).Online := by
    refine run_invariant (I := fun w => ∀ r, (w.clients.read r).Online) ?_ ?_ hrun
    · exact fun r => ConnectedClient.init_online _ _ _
    · exact fun w e hw hok ih r => (World.after_change hw e r).online hok (ih r)
  exact hall.2 r hstanding

end

/-- A client that opens a websocket and pays for ten seconds. -/
theorem standing_is_online_paid :
    let w := [Event.handshake clientAddress, .paymentIncrease 0 1000 1000, .elapse 1000,
      .check 0, .act 0, .reset 0].foldl World.after accessPoint
    (w.clients.read 0).Standing ∧ (w.clients.read 0).getConnectivityState = .open :=
  ⟨by decide +kernel, standing_is_online 0 SentryTimeLogic.defaultConfiguration eth0 wlan0
    (.along .start (by decide +kernel)) 0 (by decide +kernel)⟩

/-- The client opens a WISPr gap, pays while it lasts, and is offline when
it is over. -/
theorem gap_expiry_takes_payer_off :
    ∃ w, Reaches World.after (fun _ _ => True) accessPoint w ∧
      (w.clients.read 0).Standing ∧ (w.clients.read 0).getConnectivityState ≠ .open :=
  ⟨_, .foldl [.request clientAddress "/" (some "CaptiveNetworkSupport"),
      .request clientAddress "/" (some "CaptiveNetworkSupport"), .handshake clientAddress,
      .paymentIncrease 0 10000 10000, .elapse 20000, .gapExpired ⟨0, 20000⟩] .start,
    by decide +kernel, by decide +kernel⟩

end BitMesh.Sentry
