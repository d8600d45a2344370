import Mathlib

/-!
# Authentication tokens

A token is a random pepper followed by a hash of a secret and a salt. The
secret is an array of characters. `authenticate` makes a text of it with
`String.valueOf`; `generateAuthenticationToken` concatenates the array with
the salt, and Java then takes what `Object.toString` answers for the array,
its class and its identity, in place of the secret.
-/

namespace BitMesh.Utilities

def pepperLength : Nat := 12

def secret : List Char :=
  ['m', '6', 'd', 'G', 'u', 'n', 'Y', 'O', 'b', 'O', '8', 'T', 'g', 'Q', 'b', 's', 'O', '4', 'p',
    '9']

def base64Chars : List Char :=
  ['A', 'B', 'C', 'D', 'E', 'F', 'G', 'H', 'I', 'J', 'K', 'L', 'M', 'N', 'O', 'P', 'Q', 'R', 'S',
    'T', 'U', 'V', 'W', 'X', 'Y', 'Z', 'a', 'b', 'c', 'd', 'e', 'f', 'g', 'h', 'i', 'j', 'k', 'l',
    'm', 'n', 'o', 'p', 'q', 'r', 's', 't', 'u', 'v', 'w', 'x', 'y', 'z', '0', '1', '2', '3', '4',
    '5', '6', '7', '8', '9', '-', '_']

/-- What the Java machine decides about the one `Crypto` object. -/
structure Crypto where
  /-- The base64 text of the SHA-512 digest of a text in UTF-8, if the
  provider has the algorithm. -/
  encodedDigest : Option (List Char → List Char)
  /-- `secret.hashCode()`, which arrays have from `Object`. -/
  identityHash : Nat

/-- Different texts have different digests, and these different encodings. -/
def Crypto.Injective (crypto : Crypto) : Prop :=
  ∀ digest ∈ crypto.encodedDigest, Function.Injective digest

/-- `randomBase64String(length)`, for the numbers that `nextInt` answers. -/
def randomBase64String (length : Nat) (nextInt : Nat → Fin base64Chars.length) : List Char :=
  (List.range length).map fun i => base64Chars.get (nextInt i)

/-- `Object.toString` of an array of characters. -/
def arrayToString (identityHash : Nat) : List Char :=
  '[' :: 'C' :: '@' :: Nat.toDigits 16 identityHash

namespace Crypto

variable (crypto : Crypto)

def authenticate (salt : List Char) (token : Option (List Char)) : Bool :=
  match token with
  | none => false
  | some token =>
      if token.length ≤ pepperLength then false
      else
        let tokenWithoutPepper := token.drop pepperLength
        let concatenated := secret ++ salt
        -- without the algorithm `encoded` is null, which no text equals
        (crypto.encodedDigest.map fun digest => digest concatenated) = some tokenWithoutPepper

def generateAuthenticationToken (salt : List Char) (nextInt : Nat → Fin base64Chars.length) :
    List Char :=
  let pepper := randomBase64String pepperLength nextInt
  let concatenated := arrayToString crypto.identityHash ++ salt
  -- without the algorithm `encoded` stays empty
  pepper ++ (crypto.encodedDigest.map fun digest => digest concatenated).getD []

/-- The token of a salt is accepted for that salt and for no other. -/
def RoundTrips (salt : List Char) (nextInt : Nat → Fin base64Chars.length) : Prop :=
  crypto.authenticate salt (some (crypto.generateAuthenticationToken salt nextInt)) = true ∧
    ∀ other, other ≠ salt →
      crypto.authenticate other (some (crypto.generateAuthenticationToken salt nextInt)) = false

end Crypto

theorem length_randomBase64String (length : Nat) (nextInt : Nat → Fin base64Chars.length) :
    (randomBase64String length nextInt).length = length := by
  simp [randomBase64String]

/-- The two concatenations differ in their first character. -/
theorem secret_append_ne (identityHash : Nat) (salt salt' : List Char) :
    secret ++ salt ≠ arrayToString identityHash ++ salt' := by
  intro heq
  have hhead := congrArg List.head? heq
  simp [secret, arrayToString] at hhead

/-- What `authenticate` compares once the pepper is off. -/
theorem Crypto.authenticate_generateAuthenticationToken (crypto : Crypto)
    (salt other : List Char) (nextInt : Nat → Fin base64Chars.length)
    (h : crypto.authenticate other (some (crypto.generateAuthenticationToken salt nextInt)) = true) :
    ∃ digest ∈ crypto.encodedDigest,
      digest (secret ++ other) = digest (arrayToString crypto.identityHash ++ salt) := by
  have hpepper := length_randomBase64String pepperLength nextInt
  have hdrop : (crypto.generateAuthenticationToken salt nextInt).drop pepperLength =
      (crypto.encodedDigest.map fun digest =>
        digest (arrayToString crypto.identityHash ++ salt)).getD [] :=
    List.drop_left' hpepper
  simp only [authenticate] at h
  split at h
  · contradiction
  · have hsome := of_decide_eq_true h
    rw [hdrop] at hsome
    cases hdigest : crypto.encodedDigest with
    | none =>
        rw [hdigest] at hsome
        cases hsome
    | some digest =>
        rw [hdigest] at hsome
        exact ⟨digest, rfl, Option.some.inj hsome⟩

/-- No token is accepted, for whichever salt. -/
theorem Crypto.authenticate_eq_false {crypto : Crypto} (h : crypto.Injective)
    (salt other : List Char) (nextInt : Nat → Fin base64Chars.length) :
    crypto.authenticate other (some (crypto.generateAuthenticationToken salt nextInt)) = false := by
  apply Bool.eq_false_iff.mpr
  intro haccepted
  obtain ⟨digest, hdigest, hsame⟩ :=
    crypto.authenticate_generateAuthenticationToken salt other nextInt haccepted
  exact secret_append_ne _ _ _ (h digest hdigest hsame)

/-- A token is never accepted for its own salt, whatever the salt and the
pepper; that no other salt accepts it holds all the same. -/
theorem token_never_round_trips {crypto : Crypto} (h : crypto.Injective) (salt : List Char)
    (nextInt : Nat → Fin base64Chars.length) :
    ¬ crypto.RoundTrips salt nextInt ∧
      ∀ other, other ≠ salt →
        crypto.authenticate other (some (crypto.generateAuthenticationToken salt nextInt)) =
          false := by
  constructor
  · intro hround
    have hrejected := Crypto.authenticate_eq_false h salt salt nextInt
    rw [hround.1] at hrejected
    contradiction
  · intro other _
    exact Crypto.authenticate_eq_false h salt other nextInt

/-- A machine whose digest is the text itself. -/
def Crypto.plain : Crypto where
  encodedDigest := some fun text => text
  identityHash := 0x1b6d3586

theorem Crypto.plain_injective : Crypto.plain.Injective := by
  intro digest hdigest s t hsame
  cases hdigest
  exact hsame

theorem token_never_round_trips_plain :
    Crypto.plain.Injective ∧ ¬ Crypto.plain.RoundTrips ['s'] (fun _ => ⟨0, by decide⟩) :=
  ⟨Crypto.plain_injective,
    (token_never_round_trips Crypto.plain_injective ['s'] fun _ => ⟨0, by decide⟩).1⟩

theorem own_token_rejected :
    Crypto.plain.authenticate ['s'] (some (Crypto.plain.generateAuthenticationToken ['s']
      fun _ => ⟨0, by decide⟩)) = false := by
  decide +kernel

end BitMesh.Utilities
