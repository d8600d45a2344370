import BitMesh.Bitcoin.Transaction

/-!
# Scripts as bitcore reads them

`Script.fromBuffer` cuts a script into chunks, and `toAddress` looks for
one of four shapes. A push that runs past the end of the script is cut
short, where its end is kept to 32 bits; a length that does is an exception.
-/

namespace BitMesh.WebClient

open BitMesh.Bitcoin (Bytes Script)

/-- The part of bitcore that is not embedded. -/
structure Bitcore where
  /-- `PublicKey.isValid`. -/
  isValidPublicKey : Bytes → Bool
  /-- `Hash.sha256ripemd160`. -/
  sha256ripemd160 : Bytes → Bytes
  length_sha256ripemd160 : ∀ bytes, (sha256ripemd160 bytes).length = 20

/-- What an opcode pushes, if it pushes. -/
structure Chunk where
  opcodenum : UInt8
  buf : Option Bytes
  deriving DecidableEq, Repr

/-- How many bytes the opcode pushes, and what follows the length. -/
def readLength (opcodenum : UInt8) (rest : Bytes) : Option (Option Nat × Bytes) :=
  if 0 < opcodenum ∧ opcodenum < 0x4c then some (some opcodenum.toNat, rest)
  else if opcodenum = 0x4c then
    match rest with
    | a :: rest => some (some a.toNat, rest)
    | _ => none
  else if opcodenum = 0x4d then
    match rest with
    | a :: b :: rest => some (some (a.toNat + 256 * b.toNat), rest)
    | _ => none
  else if opcodenum = 0x4e then
    match rest with
    | a :: b :: c :: d :: rest =>
        some (some (a.toNat + 256 * (b.toNat + 256 * (c.toNat + 256 * d.toNat))), rest)
    | _ => none
  else some (none, rest)

/-- `read(len)` at the beginning of `rest`, the end of a buffer of `size`
bytes. `Buffer.slice` makes the end a signed integer of 32 bits and counts a
negative one from the end of the buffer. -/
def BufferReader.read (size : Nat) (rest : Bytes) (len : Nat) : Bytes :=
  let start : Int := size - rest.length
  let stop : Int := (start + len).bmod (2 ^ 32)
  rest.take ((if stop < 0 then max (stop + size) 0 else stop) - start).toNat

/-- The loop of `Script.fromBuffer`, for a script of `size` bytes. Every
round reads an opcode. -/
def readChunks (size : Nat) : Nat → Bytes → Option (List Chunk)
  | 0, _ => some []
  | _ + 1, [] => some []
  | fuel + 1, opcodenum :: rest =>
      match readLength opcodenum rest with
      | none => none
      | some (none, rest) => (readChunks size fuel rest).map (⟨opcodenum, none⟩ :: ·)
      | some (some len, rest) =>
          (readChunks size fuel (rest.drop len)).map
            (⟨opcodenum, some (BufferReader.read size rest len)⟩ :: ·)

/-- `Script.fromBuffer`, with none for InvalidBuffer. -/
def fromBuffer (script : Bytes) : Option (List Chunk) :=
  readChunks script.length script.length script

/-! ## Kinds of scripts -/

/-- `isPublicKeyHashOut`, and the hash. -/
def publicKeyHashOut (chunks : List Chunk) : Option Bytes :=
  match chunks with
  | [⟨0x76, _⟩, ⟨0xa9, _⟩, ⟨_, some hash⟩, ⟨0x88, _⟩, ⟨0xac, _⟩] =>
      if hash.length = 20 then some hash else none
  | _ => none

/-- `isScriptHashOut`, and the hash. -/
def scriptHashOut (script : Bytes) : Option Bytes :=
  if script.length = 23 ∧ script[0]? = some 0xa9 ∧ script[1]? = some 0x14 ∧
      script[22]? = some 0x87 then
    some ((script.drop 2).take 20)
  else none

/-- `isSmallIntOp`. -/
def isSmallIntOp (opcodenum : UInt8) : Bool :=
  opcodenum = 0 ∨ (0x51 ≤ opcodenum ∧ opcodenum ≤ 0x60)

def isMultisigOut (chunks : List Chunk) : Bool :=
  match chunks, chunks.reverse with
  | first :: middle, last :: second :: _ =>
      3 < chunks.length ∧ isSmallIntOp first.opcodenum ∧
        ((middle.take (chunks.length - 3)).all fun chunk => chunk.buf.isSome) ∧
        isSmallIntOp second.opcodenum ∧ last.opcodenum = 0xae
  | _, _ => false

def isMultisigIn (chunks : List Chunk) : Bool :=
  match chunks with
  | first :: second :: rest =>
      first.opcodenum = 0 ∧
        (second :: rest).all fun chunk => chunk.buf.any fun buf => buf.length = 0x47
  | _ => false

def isDataOut (chunks : List Chunk) : Bool :=
  match chunks with
  | [⟨0x6a, _⟩] => true
  | [⟨0x6a, _⟩, ⟨_, some buf⟩] => buf.length ≤ 80
  | _ => false

/-- `isPublicKeyIn`. -/
def isPublicKeyIn (chunks : List Chunk) : Bool :=
  match chunks with
  | [⟨_, some buf⟩] => buf.length = 0x47
  | _ => false

inductive AddressType where
  | payToPublicKeyHash
  | payToScriptHash
  deriving DecidableEq, Repr

/-- An `Address` of the page's network. -/
structure Address where
  type : AddressType
  hashBuffer : Bytes
  deriving DecidableEq, Repr

section

variable (lib : Bitcore)

/-- `isPublicKeyHashIn`, and the key. -/
def publicKeyHashIn (chunks : List Chunk) : Option Bytes :=
  match chunks with
  | [⟨_, some signature⟩, ⟨_, some key⟩] =>
      if 0x47 ≤ signature.length ∧ signature.length ≤ 0x49 ∧ lib.isValidPublicKey key then
        some key
      else none
  | _ => none

/-- `isPublicKeyOut`. -/
def isPublicKeyOut (chunks : List Chunk) : Bool :=
  match chunks with
  | [⟨_, some key⟩, ⟨0xac, _⟩] => lib.isValidPublicKey key
  | _ => false

/-- `isScriptHashIn`: the last push is a script of a known kind, perhaps of
this one. Every one is shorter than the one that pushes it. -/
def isScriptHashIn : Nat → List Chunk → Bool
  | 0, _ => false
  | fuel + 1, chunks =>
      match chunks.getLast?.bind Chunk.buf with
      | none => false
      | some redeem =>
          match fromBuffer redeem with
          | none => false
          | some inner =>
              isPublicKeyOut lib inner ∨ isPublicKeyIn inner ∨ (publicKeyHashOut inner).isSome ∨
                (publicKeyHashIn lib inner).isSome ∨ isMultisigOut inner ∨ isMultisigIn inner ∨
                (scriptHashOut redeem).isSome ∨ isScriptHashIn fuel inner ∨ isDataOut inner

/-- The script that the last push is. -/
def redeemScript (chunks : List Chunk) : Bytes := (chunks.getLast?.bind Chunk.buf).getD []

/-- `getAddressInfo` of a script with these chunks. -/
def getAddressInfo (script : Bytes) (chunks : List Chunk) : Option Address :=
  match scriptHashOut script with
  | some hash => some ⟨.payToScriptHash, hash⟩
  | none =>
      match publicKeyHashOut chunks with
      | some hash => some ⟨.payToPublicKeyHash, hash⟩
      | none =>
          match publicKeyHashIn lib chunks with
          | some key => some ⟨.payToPublicKeyHash, lib.sha256ripemd160 key⟩
          | none =>
              if isScriptHashIn lib script.length chunks then
                some ⟨.payToScriptHash, lib.sha256ripemd160 (redeemScript chunks)⟩
              else none

/-- `script.toAddress`: the outer none is an exception, the inner one is
`false`. -/
def toAddress (script : Bytes) : Option (Option Address) :=
  (fromBuffer script).map (getAddressInfo lib script)

end

/-! ## Building scripts -/

/-- `_addBuffer`, written out. -/
def addBuffer (buf : Bytes) : Bytes :=
  if buf.length < 0x4c then UInt8.ofNat buf.length :: buf
  else if buf.length < 256 then 0x4c :: UInt8.ofNat buf.length :: buf
  else if buf.length < 65536 then
    0x4d :: UInt8.ofNat buf.length :: UInt8.ofNat (buf.length / 256) :: buf
  else
    0x4e :: UInt8.ofNat buf.length :: UInt8.ofNat (buf.length / 256) ::
      UInt8.ofNat (buf.length / 65536) :: UInt8.ofNat (buf.length / 16777216) :: buf

/-- `Opcode.smallInt`. -/
def smallInt (n : Nat) : UInt8 := if n = 0 then 0 else 0x50 + UInt8.ofNat n

/-- `Script.buildMultisigOut` without sorting. -/
def buildMultisigOut (publicKeys : List Bytes) (threshold : Nat) : Script :=
  ⟨smallInt threshold :: publicKeys.flatMap addBuffer ++ [smallInt publicKeys.length, 0xae]⟩

/-- `Script.buildScriptHashOut` of a script's hash. -/
def buildScriptHashOut (hash : Bytes) : Script := ⟨0xa9 :: addBuffer hash ++ [0x87]⟩

/-- `Script.buildPublicKeyHashOut`. -/
def buildPublicKeyHashOut (hash : Bytes) : Script :=
  ⟨0x76 :: 0xa9 :: addBuffer hash ++ [0x88, 0xac]⟩

/-- `Script.fromAddress`. -/
def Address.script (address : Address) : Script :=
  match address.type with
  | .payToScriptHash => buildScriptHashOut address.hashBuffer
  | .payToPublicKeyHash => buildPublicKeyHashOut address.hashBuffer

theorem length_addBuffer {buf : Bytes} (h : buf.length < 0x4c) :
    (addBuffer buf).length = buf.length + 1 := by
  rw [addBuffer, if_pos h, List.length_cons]

/-! ## Whom a script pays -/

/-- The script pays to the hash of a public key. -/
def PaysTo (hash script : Bytes) : Prop := (fromBuffer script).bind publicKeyHashOut = some hash

instance PaysTo.decidable (hash script : Bytes) : Decidable (PaysTo hash script) :=
  inferInstanceAs (Decidable (_ = _))

/-- The script is that of an input which spends from the hash. -/
def SpendsFrom (lib : Bitcore) (hash script : Bytes) : Prop :=
  ∃ key ∈ (fromBuffer script).bind (publicKeyHashIn lib), lib.sha256ripemd160 key = hash

instance SpendsFrom.decidable (lib : Bitcore) (hash script : Bytes) :
    Decidable (SpendsFrom lib hash script) :=
  inferInstanceAs (Decidable (∃ key ∈ _, _))

section

variable {lib : Bitcore} {script : Bytes} {chunks : List Chunk} {hash : Bytes}

theorem opcodenum_of_fromBuffer {opcodenum : UInt8} {buf : Option Bytes} {rest : List Chunk}
    (h : fromBuffer script = some (⟨opcodenum, buf⟩ :: rest)) : script[0]? = some opcodenum := by
  cases script with
  | nil => simp [fromBuffer, readChunks] at h
  | cons first bytes =>
      simp only [fromBuffer, List.length_cons, readChunks] at h
      split at h
      · contradiction
      · obtain ⟨_, -, heq⟩ := Option.map_eq_some_iff.mp h
        cases heq
        rfl
      · obtain ⟨_, -, heq⟩ := Option.map_eq_some_iff.mp h
        cases heq
        rfl

theorem scriptHashOut_eq_none (h : fromBuffer script = some chunks)
    (hout : publicKeyHashOut chunks = some hash) : scriptHashOut script = none := by
  unfold publicKeyHashOut at hout
  split at hout
  · have hfirst := opcodenum_of_fromBuffer h
    unfold scriptHashOut
    rw [if_neg]
    rintro ⟨-, hzero, -⟩
    rw [hfirst] at hzero
    cases hzero
  · cases hout

/-- Apart from the scripts of inputs, the address of a key hash is read off
the scripts that pay to it and no others. -/
theorem getAddressInfo_eq_iff (h : fromBuffer script = some chunks)
    (hin : ¬ SpendsFrom lib hash script) :
    getAddressInfo lib script chunks = some ⟨.payToPublicKeyHash, hash⟩ ↔ PaysTo hash script := by
  have hpays : PaysTo hash script ↔ publicKeyHashOut chunks = some hash := by
    rw [PaysTo, h, Option.bind_some]
  rw [hpays]
  constructor
  · intro haddress
    unfold getAddressInfo at haddress
    split at haddress
    · cases haddress
    · split at haddress
      · cases haddress
        assumption
      · split at haddress
        · rename_i key hkey
          cases haddress
          refine absurd ⟨key, ?_, rfl⟩ hin
          rw [h, Option.bind_some, hkey]
          rfl
        · split at haddress <;> cases haddress
  · intro hout
    rw [getAddressInfo, scriptHashOut_eq_none h hout, hout]

end

end BitMesh.WebClient
