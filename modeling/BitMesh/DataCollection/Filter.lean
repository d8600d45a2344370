import BitMesh.DataCollection.Clients

/-!
# Building the packet filter

`create_bpf` prints one piece after another into a buffer with room for ten
of them. Each piece fits as long as the names it prints end within their
arrays. `strncpy` leaves a name of 64 characters or more without an end, and
printing it goes on into the counters behind it.
-/

namespace BitMesh.DataCollection

open BitMesh.Lib

/-- `host c1 or host c2 ... or host cn ` for the names. -/
def hostExpression : List (List UInt8) → List UInt8
  | [] => []
  | name :: rest =>
      [104, 111, 115, 116, 32] ++ name ++ [32] ++
        rest.flatMap fun name => [111, 114, 32, 104, 111, 115, 116, 32] ++ name ++ [32]

namespace Table

/-- The names in the table. -/
def names (t : Table) : List (List UInt8) := t.clients.map (·.client.text)

/-- `create_bpf` stays within its arrays and builds the expression. -/
structure BuildsFilter (t : Table) (env : Surroundings) : Prop where
  /-- what is written lies in `packet_filter_expression` -/
  writes : ∀ offset ∈ (t.buildExpression env).1.written, offset < expressionSize
  /-- a name and its terminator lie in the client's array -/
  reads : ∀ i, i < t.numClients → (t.nameRead env i).length < maxAddrLength
  expression : (t.buildExpression env).1.text expressionSize = hostExpression t.names

/-- Every name has a terminator. -/
def Terminated (t : Table) : Prop := ∀ c ∈ t.clients, c.client.Terminated

end Table

/-! ## The expression -/

theorem hostExpression_concat (names : List (List UInt8)) (name : List UInt8) :
    hostExpression (names ++ [name]) =
      hostExpression names ++ Table.piece names.length name := by
  cases names with
  | nil => simp [hostExpression, Table.piece]
  | cons first rest => simp [hostExpression, Table.piece, List.flatMap_append]

theorem length_piece_le {i : Nat} {name : List UInt8} (h : name.length < maxAddrLength) :
    (Table.piece i name).length < maxFilterLength := by
  unfold maxAddrLength at h
  unfold Table.piece maxFilterLength maxAddrLength
  split <;> simp <;> omega

theorem noNul_piece {i : Nat} {name : List UInt8} (h : ∀ c ∈ name, c ≠ 0) :
    ∀ c ∈ Table.piece i name, c ≠ 0 := by
  intro c hc
  unfold Table.piece at hc
  rw [List.mem_append, List.mem_append] at hc
  rcases hc with (hc | hc) | hc
  · rintro rfl
    revert hc
    split <;> decide
  · exact h c hc
  · rw [List.mem_singleton.mp hc]
    decide

/-- What the pieces for the first names have made of the buffer. -/
structure Printed (names : List (List UInt8)) (built : Buffer × Nat) : Prop where
  begins : built.1.Begins (hostExpression names)
  index : built.2 = (hostExpression names).length
  short : built.2 ≤ (maxFilterLength - 1) * names.length
  written : ∀ offset ∈ built.1.written, offset ≤ built.2
  noNul : ∀ c ∈ hostExpression names, c ≠ 0

/-- One more piece. -/
theorem Printed.addPiece {names : List (List UInt8)} {built : Buffer × Nat}
    (h : Printed names built) (read : Nat → List UInt8) (name : List UInt8)
    (hread : read names.length = name) (hshort : name.length < maxAddrLength)
    (hnoNul : ∀ c ∈ name, c ≠ 0) :
    Printed (names ++ [name]) (Table.addPiece read built names.length) := by
  have hlength := length_piece_le (i := names.length) hshort
  have hindex := h.index
  have hold := h.short
  have hpiece : Table.addPiece read built names.length =
      (built.1.snprintf built.2 maxFilterLength (Table.piece names.length name),
        built.2 + (Table.piece names.length name).length) := by
    rw [Table.addPiece, hread]
  rw [hpiece]
  constructor
  · rw [hostExpression_concat, hindex]
    exact h.begins.snprintf hlength
  · rw [hostExpression_concat, List.length_append, hindex]
  · rw [List.length_append, List.length_singleton, Nat.mul_succ]
    show built.2 + _ ≤ _
    omega
  · intro offset hoffset
    rw [Buffer.snprintf, Buffer.written_write, List.take_of_length_le (by omega),
      List.mem_append] at hoffset
    show offset ≤ built.2 + _
    rcases hoffset with hoffset | hoffset
    · have := h.written offset hoffset
      omega
    · obtain ⟨k, hk, rfl⟩ := List.mem_range'.mp hoffset
      rw [List.length_append, List.length_singleton] at hk
      omega
  · intro c hc
    rw [hostExpression_concat, List.mem_append] at hc
    rcases hc with hc | hc
    · exact h.noNul c hc
    · exact noNul_piece hnoNul c hc

namespace Table

variable {t : Table}

theorem length_names (t : Table) : t.names.length = t.numClients := by
  rw [names, List.length_map, t.length_clients]

/-- The memory from a client's array on. -/
theorem nameRead_eq (env : Surroundings) {i : Nat} {c : ClientDataCount} (h : t.clients[i]? = some c) :
    ∃ rest, t.nameRead env i = beforeNul (c.client.bytes ++ rest) := by
  have hdata : t.clientData[i]? = some c := by
    obtain ⟨hi, hc⟩ := List.getElem?_eq_some_iff.mp h
    rw [clients, List.getElem?_take] at h
    split at h
    · exact h
    · cases h
  obtain ⟨hi, hc⟩ := List.getElem?_eq_some_iff.mp hdata
  unfold nameRead
  rw [List.drop_eq_getElem_cons hi, hc, List.flatMap_cons]
  exact ⟨longBytes c.up ++ longBytes c.down ++ longBytes c.delta ++
    ((t.clientData.drop (i + 1)).flatMap ClientDataCount.bytes ++ env.beyond),
    by simp [ClientDataCount.bytes]⟩

/-- A name that ends in its array is read as it stands. -/
theorem nameRead_of_terminated (env : Surroundings) {i : Nat} {c : ClientDataCount} (h : t.clients[i]? = some c)
    (hc : c.client.Terminated) : t.nameRead env i = c.client.text := by
  obtain ⟨rest, hread⟩ := nameRead_eq env h
  rw [hread, CharArray.beforeNul_bytes_append hc]

/-- The pieces of the first `k` clients are printed as they should be. -/
theorem Terminated.printed (h : t.Terminated) (env : Surroundings) {k : Nat} (hk : k ≤ t.numClients) :
    Printed (t.names.take k) ((List.range k).foldl (Table.addPiece (t.nameRead env))
      (⟨t.expression.memory, []⟩, 0)) := by
  induction k with
  | zero =>
      refine ⟨Buffer.begins_nil _, rfl, Nat.zero_le _, ?_, ?_⟩
      · intro offset hoffset
        cases hoffset
      · intro c hc
        cases hc
  | succ k ih =>
      have hlt : k < t.clients.length := by
        rw [t.length_clients]
        omega
      have hget : t.clients[k]? = some t.clients[k] := List.getElem?_eq_getElem hlt
      have hterminated := h _ (List.getElem_mem hlt)
      have hname : t.names.take (k + 1) = t.names.take k ++ [t.clients[k].client.text] := by
        rw [List.take_succ_eq_append_getElem (by rw [names, List.length_map]; exact hlt)]
        simp [names]
      have hlength : (t.names.take k).length = k := by
        rw [List.length_take, t.length_names]
        omega
      rw [List.range_succ, List.foldl_append, hname]
      have hstep := (ih (by omega)).addPiece (t.nameRead env)
        t.clients[k].client.text (by rw [hlength, nameRead_of_terminated env hget hterminated])
        hterminated (fun c hc => noNul_beforeNul hc)
      rwa [hlength] at hstep

theorem Terminated.printed_all (h : t.Terminated) (env : Surroundings) :
    Printed t.names ((List.range t.numClients).foldl (Table.addPiece (t.nameRead env))
      (⟨t.expression.memory, []⟩, 0)) := by
  have hprinted := h.printed env (Nat.le_refl t.numClients)
  rwa [List.take_of_length_le (Nat.le_of_eq t.length_names)] at hprinted

/-- The index leaves room for a terminator. -/
theorem Terminated.index_lt (h : t.Terminated) (env : Surroundings) :
    (t.buildExpression env).2 < expressionSize := by
  have hprinted := h.printed_all env
  have hle := t.numClients_le
  have hshort : (t.buildExpression env).2 ≤ _ := hprinted.short
  rw [t.length_names] at hshort
  unfold expressionSize maxFilterLength maxAddrLength maxConnections at *
  omega

/-- The filter is built within its bounds if, and only if, every name has a
terminator. -/
theorem buildsFilter_iff {env : Surroundings} : t.BuildsFilter env ↔ t.Terminated := by
  constructor
  · intro h c hc
    obtain ⟨i, hi, rfl⟩ := List.getElem_of_mem hc
    obtain ⟨rest, hread⟩ := nameRead_eq env (List.getElem?_eq_getElem hi)
    have hreads := h.reads i (by rw [← t.length_clients]; exact hi)
    rw [hread] at hreads
    exact CharArray.terminated_of_beforeNul hreads
  · intro h
    have hprinted := h.printed_all env
    have hindex := h.index_lt env
    constructor
    · intro offset hoffset
      have hoffset : offset ∈ _ ++ [_] := hoffset
      have hle : offset ≤ (t.buildExpression env).2 := by
        rcases List.mem_append.mp hoffset with hoffset | hoffset
        · exact hprinted.written offset hoffset
        · exact Nat.le_of_eq (List.mem_singleton.mp hoffset)
      omega
    · intro i hi
      have hlt : i < t.clients.length := by
        rw [t.length_clients]
        exact hi
      rw [nameRead_of_terminated env (List.getElem?_eq_getElem hlt) (h _ (List.getElem_mem hlt))]
      exact h _ (List.getElem_mem hlt)
    · -- the terminator stands behind what was printed
      apply Buffer.Begins.text _ hprinted.noNul
      · rw [← hprinted.index]
        exact hindex
      · show (Buffer.put _ _ 0).Begins _
        rw [hprinted.index]
        exact hprinted.begins.write [0]

/-! ## Every filter of a run -/

/-- A filter that the event has built is built within its bounds. -/
def Safe (t : Table) (event : Event) : Prop :=
  ∀ t' env, t.changed event = some (t', env) → t'.BuildsFilter env

/-- A name that `add_client` takes has fewer than 64 characters. -/
def TakesShort (t : Table) : Event → Prop
  | .addClient client _ => (t.added client).isSome = true → client.chars.length < maxAddrLength
  | _ => True

theorem Terminated.added {t' : Table} {client : CString} (h : t.Terminated)
    (hadded : t.added client = some t') :
    t'.Terminated ↔ client.chars.length < maxAddrLength := by
  unfold Terminated
  rw [clients_added hadded, List.forall_mem_append, List.forall_mem_singleton,
    terminated_strncpy_iff]
  exact and_iff_right h

theorem Terminated.forgotten {t' : Table} {client : CString} (h : t.Terminated)
    (hforgotten : t.forgotten client = some t') : t'.Terminated := by
  obtain ⟨i, -, -, -, hclients⟩ := forgotten_eq_some hforgotten
  intro c hc
  rw [hclients] at hc
  exact h c (List.mem_of_mem_eraseIdx hc)

theorem Terminated.after {event : Event} (h : t.Terminated) (hshort : t.TakesShort event) :
    (t.after event).Terminated := by
  intro c hc
  rcases mem_clients_after hc with ⟨c', hc', heq⟩ | ⟨client, env, rfl, ⟨t', hadded⟩, heq⟩
  · rw [← heq]
    exact h c' hc'
  · rw [heq, terminated_strncpy_iff]
    apply hshort
    rw [hadded]
    rfl

theorem Terminated.safe_iff {event : Event} (h : t.Terminated) :
    t.Safe event ↔ t.TakesShort event := by
  cases event with
  | addClient client env =>
      cases hadded : t.added client with
      | none => simp [Safe, changed, TakesShort, hadded]
      | some t' => simp [Safe, changed, TakesShort, hadded, buildsFilter_iff, h.added hadded]
  | forgetClient client env =>
      cases hforgotten : t.forgotten client with
      | none => simp [Safe, changed, TakesShort, hforgotten]
      | some t' =>
          simp [Safe, changed, TakesShort, hforgotten, buildsFilter_iff, h.forgotten hforgotten]
  | counted counters => simp [Safe, changed, TakesShort]

/-- Every filter of a run is built within its bounds if, and only if, every
name that is taken has fewer than 64 characters. -/
theorem filters_safe_iff (events : List Event) :
    Along after Safe empty events ↔ Along after TakesShort empty events := by
  apply along_congr (I := Terminated) (D := fun _ => True)
  · intro c hc
    cases hc
  · intro event _
    trivial
  · intro t event h _ hshort
    exact h.after hshort
  · intro t event h _
    exact h.safe_iff

/-- A name of 64 characters. -/
def longName : CString where
  chars := List.replicate 64 97
  noNul := by
    intro c hc
    rw [List.eq_of_mem_replicate hc]
    decide

/-- The terminator of a name of 64 characters is found in the counters. -/
theorem long_name_overruns :
    ¬ Along after Safe empty [.addClient longName {}] ∧
      ((empty.addClient longName {}).2.nameRead {} 0).length = maxAddrLength := by
  refine ⟨?_, by decide +kernel⟩
  rintro ⟨hsafe, -⟩
  obtain ⟨t', hadded⟩ : ∃ t', empty.added longName = some t' := ⟨_, rfl⟩
  have hbuilds := hsafe t' {} (by simp only [changed, hadded]; rfl)
  have hempty : empty.Terminated := by
    intro c hc
    cases hc
  exact absurd ((hempty.added hadded).mp (buildsFilter_iff.mp hbuilds)) (by decide +kernel)

end Table

end BitMesh.DataCollection
