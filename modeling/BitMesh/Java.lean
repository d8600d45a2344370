import BitMesh.Lib.Program

/-!
# The Java side conditions

Exceptions, the Guava precondition helpers and the arithmetic of `long`
that the channel classes use. A method that can throw is an `EStateM`
computation: what it wrote before the throw stays written, as in Java.
-/

namespace BitMesh

/-- The exception classes the channel code throws, catches or lets
through. `VerificationException` is unchecked in the vendored bitcoinj. -/
inductive ExceptionClass where
  | verification
  | valueOutOfRange
  | insufficientMoney
  | addressFormat
  | illegalState
  | illegalArgument
  | nullPointer
  | arithmetic
  | classCast
  | runtime
  deriving DecidableEq, Repr

/-- An exception and what `getMessage()` answers; `none` is `null`. -/
structure JavaException where
  cls : ExceptionClass
  message : Option String
  deriving DecidableEq, Repr

namespace JavaException

def verification (msg : String) : JavaException := ⟨.verification, some msg⟩

def valueOutOfRange (msg : String) : JavaException := ⟨.valueOutOfRange, some msg⟩

def illegalArgument (msg : Option String) : JavaException := ⟨.illegalArgument, msg⟩

def illegalState : JavaException := ⟨.illegalState, none⟩

def nullPointer : JavaException := ⟨.nullPointer, none⟩

/-- `new RuntimeException(cause)`, whose message is the cause's text. -/
def wrap (cause : JavaException) : JavaException := ⟨.runtime, cause.message⟩

end JavaException

section
variable {σ α : Type}

/-- `Preconditions.checkState(b)`: without a message argument the
exception carries none. -/
def checkState (b : Bool) : EStateM JavaException σ Unit :=
  if b then pure () else throw .illegalState

/-- `Preconditions.checkArgument(b)`. -/
def checkArgument (b : Bool) : EStateM JavaException σ Unit :=
  if b then pure () else throw (.illegalArgument none)

/-- A dereference, or `checkNotNull`. -/
def nonNull (x : Option α) : EStateM JavaException σ α :=
  match x with
  | some a => pure a
  | none => throw .nullPointer

/-- A computation that touches no object but may throw. -/
def orThrow (x : Except JavaException α) : EStateM JavaException σ α :=
  match x with
  | .ok a => pure a
  | .error e => throw e

@[simp] theorem wp_checkState {s : σ} {Q : Unit → σ → Prop} {E : JavaException → σ → Prop}
    (b : Bool) :
    Lib.wp (checkState b) s Q E ↔ (b = true → Q () s) ∧ (b = false → E .illegalState s) := by
  cases b <;> simp [checkState]

@[simp] theorem wp_checkArgument {s : σ} {Q : Unit → σ → Prop}
    {E : JavaException → σ → Prop} (b : Bool) :
    Lib.wp (checkArgument b) s Q E ↔
      (b = true → Q () s) ∧ (b = false → E (.illegalArgument none) s) := by
  cases b <;> simp [checkArgument]

@[simp] theorem wp_nonNull {s : σ} {Q : α → σ → Prop} {E : JavaException → σ → Prop}
    (x : Option α) :
    Lib.wp (nonNull x) s Q E ↔ (∀ a, x = some a → Q a s) ∧ (x = none → E .nullPointer s) := by
  cases x <;> simp [nonNull]

@[simp] theorem wp_orThrow {s : σ} {Q : α → σ → Prop} {E : JavaException → σ → Prop}
    (x : Except JavaException α) :
    Lib.wp (orThrow x) s Q E ↔ (∀ a, x = .ok a → Q a s) ∧ (∀ e, x = .error e → E e s) := by
  cases x <;> simp [orThrow]

theorem wp_nonNull_some {s : σ} {Q : α → σ → Prop} {E : JavaException → σ → Prop} {x : Option α}
    {a : α} (h : x = some a) : Lib.wp (nonNull x) s Q E ↔ Q a s := by
  rw [h]
  rfl

theorem wp_orThrow_ok {s : σ} {Q : α → σ → Prop} {E : JavaException → σ → Prop}
    {x : Except JavaException α} {a : α} (h : x = .ok a) : Lib.wp (orThrow x) s Q E ↔ Q a s := by
  rw [h]
  rfl

end

/-- Addition of Java `long`s: the sum wraps at 64 bits. -/
def addLong (a b : Int) : Int := (a + b).bmod (2 ^ 64)

/-- Multiplication of Java `long`s. -/
def mulLong (a b : Int) : Int := (a * b).bmod (2 ^ 64)

/-- `n++` on a Java `int`. -/
def incInt (n : Int) : Int := (n + 1).bmod (2 ^ 32)

/-- Without overflow, `long` multiplication is multiplication. -/
theorem mulLong_eq {a b : Int} (h₁ : -2 ^ 63 ≤ a * b) (h₂ : a * b < 2 ^ 63) :
    mulLong a b = a * b := by
  rw [mulLong, Int.bmod_def]
  split <;> omega

/-- Without overflow, `long` addition is addition. -/
theorem addLong_eq {a b : Int} (h₁ : -2 ^ 63 ≤ a + b) (h₂ : a + b < 2 ^ 63) :
    addLong a b = a + b := by
  rw [addLong, Int.bmod_def]
  split <;> omega

end BitMesh
