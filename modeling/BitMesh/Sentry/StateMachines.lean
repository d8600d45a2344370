import Mathlib

/-!
# The state machines of a connected client

`StateMachine` logs a transition it does not know and takes it all the
same: `throwsOnIllegalBadTransition` is false in every machine. The
machines of a client are its payment state and its connectivity state,
which is what the firewall is built from.
-/

namespace BitMesh.Sentry

/-- `StateMachine`. The transitions logged as illegal are kept, newest
first. -/
structure StateMachine (σ : Type) where
  currentState : σ
  illegal : List (σ × σ)
  deriving DecidableEq, Repr

namespace StateMachine

variable {σ : Type}

def init (initial : σ) : StateMachine σ := ⟨initial, []⟩

def setState (transitionIsValid : σ → σ → Bool) (machine : StateMachine σ) (newState : σ) :
    StateMachine σ where
  currentState := newState
  illegal :=
    if transitionIsValid machine.currentState newState then machine.illegal
    else (machine.currentState, newState) :: machine.illegal

end StateMachine

inductive PaymentState where
  /-- Redirected to localhost to start the WISPr sequence. -/
  | new
  /-- The account is not in arrears. -/
  | payed
  /-- Out of time, but within the grace period. -/
  | graced
  | disconnected
  deriving DecidableEq, Repr

/-- `PaymentStateMachine.transitionIsValid`; the state is never null. -/
def PaymentState.transitionIsValid : PaymentState → PaymentState → Bool
  | _, .disconnected => true
  | .disconnected, .new => true
  | .new, .payed => true
  | .payed, .graced => true
  | .graced, .payed => true
  | _, _ => false

inductive ConnectivityState where
  | redirectToLocalhost
  | redirectToCaptivePortal
  | open
  deriving DecidableEq, Repr

/-- `ConnectivityStateMachine.transitionIsValid`. -/
def ConnectivityState.transitionIsValid (_ _ : ConnectivityState) : Bool := true

end BitMesh.Sentry
