import BitMesh.Lib.CString
import BitMesh.Lib.Transition

/-!
# The clients whose data is counted

`BitMeshDataCollection.c` keeps the clients in an array and rebuilds the
packet filter whenever the array changes. The filter is built from what the
array holds, after the change, and the result of building it is what
`add_client` and `forget_client` return.
-/

namespace BitMesh.DataCollection

open BitMesh.Lib

def maxConnections : Nat := 10

def maxAddrLength : Nat := 64

/-- `MAX_ADDR_LENGTH + sizeof("host or ")`. -/
def maxFilterLength : Nat := maxAddrLength + 9

/-- The size of `packet_filter_expression`. -/
def expressionSize : Nat := maxConnections * maxFilterLength

/-- `struct client_data_count`. -/
structure ClientDataCount where
  client : CharArray maxAddrLength
  up : UInt64 := 0
  down : UInt64 := 0
  delta : UInt64 := 0

/-- The bytes of an `unsigned long`, the least significant one first. -/
def longBytes (n : UInt64) : List UInt8 := (List.range 8).map fun i => (n >>> (8 * i).toUInt64).toUInt8

def ClientDataCount.bytes (c : ClientDataCount) : List UInt8 :=
  c.client.bytes ++ longBytes c.up ++ longBytes c.down ++ longBytes c.delta

/-- The array `client_data`, `num_clients` and `packet_filter_expression`. -/
structure Table where
  clientData : List ClientDataCount
  numClients : Nat
  expression : Buffer
  size : clientData.length = maxConnections
  numClients_le : numClients ≤ maxConnections

/-- What a call meets: the memory behind `client_data`, whether pcap has
been opened, and what it says of the filter. -/
structure Surroundings where
  beyond : List UInt8 := []
  handle : Bool := true
  compiles : Bool := true
  installs : Bool := true

namespace Table

/-- The clients in the table. -/
def clients (t : Table) : List ClientDataCount := t.clientData.take t.numClients

/-- The static variables, before anything was called. -/
def empty : Table where
  clientData := List.replicate maxConnections { client := strncpy maxAddrLength ⟨[], by simp⟩ }
  numClients := 0
  expression := ⟨fun _ => 0, []⟩
  size := List.length_replicate
  numClients_le := Nat.zero_le _

/-! ## The filter -/

/-- What `%s` finds at `client_data[i].client`: memory up to a NUL. -/
def nameRead (t : Table) (env : Surroundings) (i : Nat) : List UInt8 :=
  beforeNul ((t.clientData.drop i).flatMap ClientDataCount.bytes ++ env.beyond)

/-- `"host %s "` for the first client and `"or host %s "` for the others. -/
def piece (i : Nat) (name : List UInt8) : List UInt8 :=
  (if i = 0 then [104, 111, 115, 116, 32] else [111, 114, 32, 104, 111, 115, 116, 32]) ++ name ++ [32]

/-- One piece is printed at `index`, which moves on by its whole length. -/
def addPiece (names : Nat → List UInt8) (built : Buffer × Nat) (i : Nat) : Buffer × Nat :=
  let output := piece i (names i)
  (built.1.snprintf built.2 maxFilterLength output, built.2 + output.length)

/-- The first part of `create_bpf`: the buffer with what this call writes to
it, and `index`. -/
def buildExpression (t : Table) (env : Surroundings) : Buffer × Nat :=
  let built := (List.range t.numClients).foldl (addPiece (t.nameRead env))
    (⟨t.expression.memory, []⟩, 0)
  (built.1.put built.2 0, built.2)

/-- `create_bpf`. -/
def createBpf (t : Table) (env : Surroundings) : Int × Table :=
  let built := t.buildExpression env
  let t := { t with expression := built.1 }
  if built.2 > maxFilterLength * maxConnections then (1, t)
  else if ¬ env.handle then (2, t)
  else if ¬ env.compiles then (3, t)
  else if ¬ env.installs then (4, t)
  else (0, t)

/-! ## The clients -/

/-- The first client whose name agrees with `client` in 64 characters. -/
def find (t : Table) (client : CString) : Option Nat :=
  t.clients.findIdx? fun c => strncmp maxAddrLength client.chars c.client.bytes

/-- `add_client` before the filter: a new entry behind the clients, unless
they are too many or the client is among them. -/
def added (t : Table) (client : CString) : Option Table :=
  if h : t.numClients = maxConnections then none
  else
    match t.find client with
    | some _ => none
    | none => some {
        clientData := t.clientData.set t.numClients { client := strncpy maxAddrLength client }
        numClients := t.numClients + 1
        expression := t.expression
        size := by rw [List.length_set, t.size]
        numClients_le := Nat.lt_of_le_of_ne t.numClients_le h }

/-- `memmove` of the entries behind the `i`-th. -/
def remove (t : Table) (i : Nat) (h : i < t.numClients) : Table where
  clientData := t.clientData.take i ++ (t.clientData.drop (i + 1)).take (t.numClients - i - 1) ++
    t.clientData.drop (t.numClients - 1)
  numClients := t.numClients - 1
  expression := t.expression
  size := by
    have hsize := t.size
    have hle := t.numClients_le
    simp only [List.length_append, List.length_take, List.length_drop]
    omega
  numClients_le := by
    have hle := t.numClients_le
    omega

/-- `forget_client` before the filter. -/
def forgotten (t : Table) (client : CString) : Option Table :=
  match t.find client with
  | some i => if h : i < t.numClients then some (t.remove i h) else none
  | none => none

/-- The table is changed, and the filter built from it; or nothing happens. -/
def rebuild (t : Table) (changed : Option Table) (env : Surroundings) : Int × Table :=
  match changed with
  | some changed => changed.createBpf env
  | none => (-1, t)

/-- `add_client`. -/
def addClient (t : Table) (client : CString) (env : Surroundings) : Int × Table :=
  t.rebuild (t.added client) env

/-- `forget_client`. -/
def forgetClient (t : Table) (client : CString) (env : Surroundings) : Int × Table :=
  t.rebuild (t.forgotten client) env

/-- The counters have changed in between. -/
def recount (t : Table) (counters : Nat → UInt64 × UInt64 × UInt64) : Table :=
  { t with
    clientData := t.clientData.mapIdx fun i c =>
      { c with up := (counters i).1, down := (counters i).2.1, delta := (counters i).2.2 }
    size := by rw [List.length_mapIdx, t.size] }

end Table

/-- A call, or packets that were counted. -/
inductive Event where
  | addClient (client : CString) (env : Surroundings)
  | forgetClient (client : CString) (env : Surroundings)
  | counted (counters : Nat → UInt64 × UInt64 × UInt64)

namespace Table

def after (t : Table) : Event → Table
  | .addClient client env => (t.addClient client env).2
  | .forgetClient client env => (t.forgetClient client env).2
  | .counted counters => t.recount counters

/-- The table the filter is built from, if the event has it built. -/
def changed (t : Table) : Event → Option (Table × Surroundings)
  | .addClient client env => (t.added client).map (·, env)
  | .forgetClient client env => (t.forgotten client).map (·, env)
  | .counted _ => none

/-! ## What the array does -/

section
variable {t t' : Table}

theorem length_clients (t : Table) : t.clients.length = t.numClients := by
  have hsize := t.size
  have hle := t.numClients_le
  rw [clients, List.length_take]
  omega

@[simp] theorem clients_createBpf (env : Surroundings) : (t.createBpf env).2.clients = t.clients := by
  unfold createBpf
  dsimp only
  repeat' split
  all_goals rfl

theorem find_eq_none_iff {client : CString} :
    t.find client = none ↔
      ∀ c ∈ t.clients, c.client.text ≠ client.chars.take maxAddrLength := by
  unfold find
  rw [List.findIdx?_eq_none_iff]
  refine forall₂_congr fun c _ => ?_
  rw [← Bool.not_eq_true, strncmp_text_iff]

theorem find_eq_some {client : CString} {i : Nat} (h : t.find client = some i) :
    ∃ c, t.clients[i]? = some c ∧ c.client.text = client.chars.take maxAddrLength := by
  obtain ⟨hi, hc, -⟩ := List.findIdx?_eq_some_iff_getElem.mp h
  exact ⟨_, List.getElem?_eq_getElem hi, (strncmp_text_iff _ _).mp hc⟩

/-- The new client stands behind the others. -/
theorem added_eq_some_iff {client : CString} :
    (∃ t', t.added client = some t') ↔
      t.numClients < maxConnections ∧
        ∀ c ∈ t.clients, c.client.text ≠ client.chars.take maxAddrLength := by
  rw [← find_eq_none_iff]
  have hle := t.numClients_le
  unfold added
  split
  · rename_i hfull
    simp [hfull]
  · rename_i hroom
    cases t.find client with
    | none => simpa using Nat.lt_of_le_of_ne hle hroom
    | some i => simp

theorem clients_added {client : CString} (h : t.added client = some t') :
    t'.clients = t.clients ++ [{ client := strncpy maxAddrLength client }] := by
  unfold added at h
  split at h
  · cases h
  · rename_i hroom
    cases hfind : t.find client with
    | some i =>
        rw [hfind] at h
        cases h
    | none =>
        rw [hfind] at h
        cases h
        have hle := t.numClients_le
        have hsize := t.size
        show (t.clientData.set t.numClients _).take (t.numClients + 1) = t.clientData.take _ ++ _
        rw [List.take_succ_eq_append_getElem (by rw [List.length_set]; omega),
          List.getElem_set_self, List.take_set_of_le (Nat.le_refl _)]

/-- The clients behind the one that is forgotten move up. -/
theorem clients_remove {i : Nat} (h : i < t.numClients) :
    (t.remove i h).clients = t.clients.eraseIdx i := by
  have hle := t.numClients_le
  have hsize := t.size
  show (t.clientData.take i ++ (t.clientData.drop (i + 1)).take (t.numClients - i - 1) ++
    t.clientData.drop (t.numClients - 1)).take (t.numClients - 1) = (t.clientData.take _).eraseIdx i
  have hlength : (t.clientData.take i ++
      (t.clientData.drop (i + 1)).take (t.numClients - i - 1)).length = t.numClients - 1 := by
    simp only [List.length_append, List.length_take, List.length_drop]
    omega
  rw [List.take_left' hlength, List.eraseIdx_eq_take_drop_succ, List.take_take, List.drop_take,
    Nat.min_eq_left (Nat.le_of_lt h), Nat.sub_sub]

theorem forgotten_eq_some {client : CString} (h : t.forgotten client = some t') :
    ∃ i c, t.clients[i]? = some c ∧ c.client.text = client.chars.take maxAddrLength ∧
      t'.clients = t.clients.eraseIdx i := by
  unfold forgotten at h
  cases hfind : t.find client with
  | none =>
      rw [hfind] at h
      cases h
  | some i =>
      obtain ⟨c, hc, hname⟩ := find_eq_some hfind
      have hi : i < t.numClients := by
        rw [← t.length_clients]
        exact (List.getElem?_eq_some_iff.mp hc).1
      simp only [hfind, dif_pos hi] at h
      cases h
      exact ⟨i, c, hc, hname, clients_remove hi⟩

/-- Counting leaves the names. -/
theorem map_client_recount (t : Table) (counters : Nat → UInt64 × UInt64 × UInt64) :
    (t.recount counters).clients.map (·.client) = t.clients.map (·.client) := by
  show ((t.clientData.mapIdx _).take t.numClients).map _ = (t.clientData.take t.numClients).map _
  rw [List.map_take, List.map_take]
  congr 1
  apply List.ext_getElem?
  intro i
  rw [List.getElem?_map, List.getElem?_mapIdx, Option.map_map, List.getElem?_map]
  rfl

/-- Where the clients of a table come from. -/
theorem mem_clients_after {event : Event} {c : ClientDataCount} (h : c ∈ (t.after event).clients) :
    (∃ c' ∈ t.clients, c'.client = c.client) ∨
      ∃ client env, event = .addClient client env ∧ (∃ t', t.added client = some t') ∧
        c.client = strncpy maxAddrLength client := by
  cases event with
  | addClient client env =>
      cases hadded : t.added client with
      | none =>
          simp only [after, addClient, rebuild, hadded] at h
          exact .inl ⟨c, h, rfl⟩
      | some t' =>
          simp only [after, addClient, rebuild, hadded, clients_createBpf, clients_added hadded,
            List.mem_append, List.mem_singleton] at h
          rcases h with h | rfl
          · exact .inl ⟨c, h, rfl⟩
          · exact .inr ⟨client, env, rfl, ⟨t', hadded⟩, rfl⟩
  | forgetClient client env =>
      cases hforgotten : t.forgotten client with
      | none =>
          simp only [after, forgetClient, rebuild, hforgotten] at h
          exact .inl ⟨c, h, rfl⟩
      | some t' =>
          obtain ⟨i, -, -, -, hclients⟩ := forgotten_eq_some hforgotten
          simp only [after, forgetClient, rebuild, hforgotten, clients_createBpf, hclients] at h
          exact .inl ⟨c, List.mem_of_mem_eraseIdx h, rfl⟩
  | counted counters =>
      have hmem : c.client ∈ (t.recount counters).clients.map (·.client) :=
        List.mem_map_of_mem h
      rw [map_client_recount] at hmem
      exact .inl (List.mem_map.mp hmem)

end

end Table

end BitMesh.DataCollection
