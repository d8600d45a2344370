import BitMesh.Lib.Decimal
import BitMesh.Lib.Program

/-!
# JSON as Gson sees it

Values, objects written field by field, and the readers of `JsonElement`.
An object leaves out the fields that are null. Reading a name that is
absent gives null, and it is the call on that null that throws. Numbers are
whole: nothing here writes another kind.
-/

namespace BitMesh.Lib

inductive Json where
  | null
  | bool (b : Bool)
  | num (n : Int)
  | str (s : String)
  | arr (elements : List Json)
  | obj (members : List (String × Json))

/-- What the readers throw. -/
inductive JsonException where
  | nullPointer
  | unsupportedOperation
  | illegalState
  | numberFormat
  | classCast
  deriving DecidableEq, Repr

namespace Json

/-- The members of an object, in the order of its class's fields. -/
abbrev Members := List (String × Json)

/-- The members written for the fields of an object: null fields are left
out. -/
def members (fields : List (String × Option Json)) : Members :=
  fields.filterMap fun field => field.2.map fun value => (field.1, value)

/-- `object.get(name)`; `none` is `null`. -/
def get (object : Members) (name : String) : Option Json := object.lookup name

@[simp] theorem get_members_nil (name : String) : get (members []) name = none := rfl

@[simp] theorem get_members_cons (name field : String) (value : Option Json)
    (fields : List (String × Option Json)) :
    get (members ((field, value) :: fields)) name =
      if name = field then value.or (get (members fields) name) else get (members fields) name := by
  cases value with
  | none => simp [members, get]
  | some value =>
    by_cases h : name = field
    · simp [members, get, h]
    · simp [members, get, List.lookup_cons, beq_false_of_ne h, h]

/-- A call on what `get` answered. -/
def deref (value : Option Json) : Except JsonException Json :=
  match value with
  | some json => .ok json
  | none => .error .nullPointer

/-- An array of one element stands for that element. -/
def getAsString : Json → Except JsonException String
  | .str s => .ok s
  | .num n => .ok (String.ofList (decimal n))
  | .bool b => .ok (if b then "true" else "false")
  | .arr [element] => getAsString element
  | .arr _ => .error .illegalState
  | .null => .error .unsupportedOperation
  | .obj _ => .error .unsupportedOperation

/-- `Long.parseLong(text)`. -/
def parseLong (text : String) : Except JsonException Int :=
  match parseSigned text.toList with
  | some n => if -2 ^ 63 ≤ n ∧ n < 2 ^ 63 then .ok n else .error .numberFormat
  | none => .error .numberFormat

def getAsLong : Json → Except JsonException Int
  | .num n => .ok n
  | .str s => parseLong s
  | .bool b => parseLong (if b then "true" else "false")
  | .arr [element] => getAsLong element
  | .arr _ => .error .illegalState
  | .null => .error .unsupportedOperation
  | .obj _ => .error .unsupportedOperation

/-- A text other than `true` is false, whatever the case of its letters. -/
def getAsBoolean : Json → Except JsonException Bool
  | .bool b => .ok b
  | .str s => .ok (s.toLower == "true")
  | .num _ => .ok false
  | .arr [element] => getAsBoolean element
  | .arr _ => .error .illegalState
  | .null => .error .unsupportedOperation
  | .obj _ => .error .unsupportedOperation

def getAsJsonObject : Json → Except JsonException Members
  | .obj object => .ok object
  | _ => .error .illegalState

/-- `object.get(name).getAsString()`. -/
def stringAt (object : Members) (name : String) : Except JsonException String := do
  (← deref (get object name)).getAsString

/-- `object.get(name).getAsLong()`. -/
def longAt (object : Members) (name : String) : Except JsonException Int := do
  (← deref (get object name)).getAsLong

/-- `object.get(name).getAsBoolean()`. -/
def booleanAt (object : Members) (name : String) : Except JsonException Bool := do
  (← deref (get object name)).getAsBoolean

section
variable {object : Members} {name : String}

theorem stringAt_some {s : String} (h : get object name = some (.str s)) :
    stringAt object name = .ok s := by
  rw [stringAt, h]
  rfl

theorem stringAt_none (h : get object name = none) :
    stringAt object name = .error .nullPointer := by
  rw [stringAt, h]
  rfl

/-- What is read was there. -/
theorem get_isSome_of_stringAt {s : String} (h : stringAt object name = .ok s) :
    (get object name).isSome = true := by
  cases hget : get object name with
  | none => cases (stringAt_none hget).symm.trans h
  | some json => rfl

theorem longAt_some {n : Int} (h : get object name = some (.num n)) :
    longAt object name = .ok n := by
  rw [longAt, h]
  rfl

end

/-- The elements a loop over `object.getAsJsonArray(name)` runs through: the
cast lets null pass, and the loop throws on it. -/
def elementsOf (object : Members) (name : String) : Except JsonException (List Json) :=
  match get object name with
  | some (.arr elements) => .ok elements
  | some _ => .error .classCast
  | none => .error .nullPointer

section
variable {α β : Type}

/-- The objects of an array, decoded one after the other; what is not an
object is passed over. -/
def decodeObjects (decode : Members → Except JsonException α) :
    List Json → Except JsonException (List α)
  | [] => .ok []
  | .obj object :: rest => do
    let first ← decode object
    let others ← decodeObjects decode rest
    return first :: others
  | _ :: rest => decodeObjects decode rest

/-- An array of encoded values is decoded if each of them is. -/
theorem exists_decodeObjects {decode : Members → Except JsonException α} {encode : β → Members}
    {xs : List β} (h : ∀ x ∈ xs, ∃ a, decode (encode x) = .ok a) :
    ∃ as, decodeObjects decode (xs.map fun x => .obj (encode x)) = .ok as := by
  induction xs with
  | nil => exact ⟨[], rfl⟩
  | cons x xs ih =>
    obtain ⟨a, hx⟩ := h x (List.mem_cons_self ..)
    obtain ⟨as, hrest⟩ := ih fun y hy => h y (List.mem_cons_of_mem _ hy)
    simp only [List.map_cons, decodeObjects, hx, hrest]
    exact ⟨a :: as, rfl⟩

/-- And only then: one element that throws ends the loop. -/
theorem decode_of_decodeObjects {decode : Members → Except JsonException α}
    {encode : β → Members} {xs : List β} {as : List α}
    (h : decodeObjects decode (xs.map fun x => .obj (encode x)) = .ok as) {x : β} (hx : x ∈ xs) :
    ∃ a, decode (encode x) = .ok a := by
  induction xs generalizing as with
  | nil => cases hx
  | cons y ys ih =>
    obtain ⟨a, hy, h⟩ := exists_of_bind_eq_ok h
    obtain ⟨others, hrest, _⟩ := exists_of_bind_eq_ok h
    rcases List.mem_cons.mp hx with rfl | hx
    · exact ⟨a, hy⟩
    · exact ih hrest hx

end

end Json

end BitMesh.Lib
