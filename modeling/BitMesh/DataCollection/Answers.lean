import BitMesh.DataCollection.Filter

/-!
# What adding and forgetting answer

The table is a set of at most ten clients. `add_client` and `forget_client`
answer 0 if the filter was built and installed; if that fails the client has
been added, or forgotten, all the same.
-/

namespace BitMesh.DataCollection

open BitMesh.Lib

/-- pcap is open, and a filter compiles and is installed. -/
def Surroundings.Takes (env : Surroundings) : Prop :=
  env.handle = true ∧ env.compiles = true ∧ env.installs = true

namespace Table

/-- What a call returns. -/
def answer (t : Table) : Event → Int
  | .addClient client env => (t.addClient client env).1
  | .forgetClient client env => (t.forgetClient client env).1
  | .counted _ => 0

/-- The table is a set, and a call does what it answers. -/
structure KeepsSet (t : Table) (event : Event) : Prop where
  distinct : (t.after event).names.Nodup
  bounded : (t.after event).clients.length ≤ maxConnections
  added : ∀ client env, event = .addClient client env → t.answer event = 0 →
    client.chars ∉ t.names ∧ ∃ c, (t.after event).clients = t.clients ++ [c] ∧
      c.client.text = client.chars ∧ c.up = 0 ∧ c.down = 0 ∧ c.delta = 0
  forgotten : ∀ client env, event = .forgetClient client env → t.answer event = 0 →
    client.chars ∈ t.names ∧
      (t.after event).clients = t.clients.filter (·.client.text ≠ client.chars)
  refused : t.answer event ≠ 0 → (t.after event).clients = t.clients

/-- The filter of a changed table is taken. -/
def FilterTaken (t : Table) : Event → Prop
  | .addClient client env => (t.added client).isSome = true → env.Takes
  | .forgetClient client env => (t.forgotten client).isSome = true → env.Takes
  | .counted _ => True

/-- The names are shorter than the arrays for them. -/
def ShortName : Event → Prop
  | .addClient client _ => client.chars.length < maxAddrLength
  | .forgetClient client _ => client.chars.length < maxAddrLength
  | .counted _ => True

/-! ## One call -/

section
variable {t t' : Table}

theorem answer_createBpf_eq_zero_iff (env : Surroundings) (h : t.Terminated) :
    (t.createBpf env).1 = 0 ↔ env.Takes := by
  have hindex : ¬ (t.buildExpression env).2 > maxFilterLength * maxConnections := by
    have := h.index_lt env
    unfold expressionSize at this
    rw [Nat.mul_comm] at this
    omega
  unfold createBpf Surroundings.Takes
  dsimp only
  rw [if_neg hindex]
  cases env.handle <;> cases env.compiles <;> cases env.installs <;> simp

theorem bounded (t : Table) : t.clients.length ≤ maxConnections := by
  rw [t.length_clients]
  exact t.numClients_le

theorem mem_names_iff {name : List UInt8} :
    name ∈ t.names ↔ ∃ c ∈ t.clients, c.client.text = name := List.mem_map

theorem names_added {client : CString} (hshort : client.chars.length < maxAddrLength)
    (h : t.added client = some t') :
    client.chars ∉ t.names ∧ t'.names = t.names ++ [client.chars] := by
  have htake : client.chars.take maxAddrLength = client.chars :=
    List.take_of_length_le (Nat.le_of_lt hshort)
  constructor
  · intro hmem
    obtain ⟨c, hc, hname⟩ := mem_names_iff.mp hmem
    have hnone := (added_eq_some_iff.mp ⟨t', h⟩).2 c hc
    rw [htake] at hnone
    exact hnone hname
  · rw [names, clients_added h, List.map_append, List.map_singleton, text_strncpy, htake]
    rfl

/-- Where the names differ, what is at an index is what has its name. -/
theorem eraseIdx_eq_filter {clients : List ClientDataCount} {i : Nat} {c : ClientDataCount}
    (hnodup : (clients.map (·.client.text)).Nodup) (hi : clients[i]? = some c) :
    clients.eraseIdx i = clients.filter (·.client.text ≠ c.client.text) := by
  induction clients generalizing i with
  | nil => simp at hi
  | cons first rest ih =>
      obtain ⟨hfirst, hrest⟩ := List.nodup_cons.mp hnodup
      cases i with
      | zero =>
          obtain rfl : first = c := by simpa using hi
          have hothers : rest.filter (·.client.text ≠ first.client.text) = rest := by
            apply List.filter_eq_self.mpr
            intro d hd
            have hne : d.client.text ≠ first.client.text := by
              intro heq
              exact hfirst (List.mem_map.mpr ⟨d, hd, heq⟩)
            simpa using hne
          rw [List.eraseIdx_zero, List.tail_cons, List.filter_cons_of_neg (by simp), hothers]
      | succ i =>
          have hi : rest[i]? = some c := by simpa using hi
          have hne : first.client.text ≠ c.client.text := by
            intro heq
            exact hfirst (List.mem_map.mpr ⟨c, List.mem_of_getElem? hi, heq.symm⟩)
          rw [List.eraseIdx_cons_succ, ih hrest hi, List.filter_cons_of_pos (by simpa using hne)]

theorem clients_forgotten {client : CString} (hnodup : t.names.Nodup)
    (hshort : client.chars.length < maxAddrLength) (h : t.forgotten client = some t') :
    client.chars ∈ t.names ∧
      t'.clients = t.clients.filter (·.client.text ≠ client.chars) ∧
      t'.clients.length < t.clients.length := by
  obtain ⟨i, c, hc, hname, hclients⟩ := forgotten_eq_some h
  rw [List.take_of_length_le (Nat.le_of_lt hshort)] at hname
  have hlt := (List.getElem?_eq_some_iff.mp hc).1
  refine ⟨mem_names_iff.mpr ⟨c, List.mem_of_getElem? hc, hname⟩, ?_, ?_⟩
  · rw [hclients, eraseIdx_eq_filter hnodup hc, hname]
  · rw [hclients, List.length_eraseIdx_of_lt hlt]
    omega

theorem nodup_names_after {event : Event} (hnodup : t.names.Nodup) (hshort : ShortName event) :
    (t.after event).names.Nodup := by
  cases event with
  | addClient client env =>
      cases hadded : t.added client with
      | none => simpa only [after, addClient, rebuild, hadded] using hnodup
      | some t' =>
          obtain ⟨hnew, hnames⟩ := names_added hshort hadded
          simp only [after, addClient, rebuild, hadded, names, clients_createBpf]
          show t'.names.Nodup
          rw [hnames]
          exact List.nodup_append.mpr ⟨hnodup, List.nodup_singleton _, by
            intro name hname name' hname' heq
            rw [List.mem_singleton.mp hname'] at heq
            exact hnew (heq ▸ hname)⟩
  | forgetClient client env =>
      cases hforgotten : t.forgotten client with
      | none => simpa only [after, forgetClient, rebuild, hforgotten] using hnodup
      | some t' =>
          simp only [after, forgetClient, rebuild, hforgotten, names, clients_createBpf]
          rw [(clients_forgotten hnodup hshort hforgotten).2.1]
          exact hnodup.sublist (List.filter_sublist.map _)
  | counted counters =>
      have hsame : (t.recount counters).names = t.names := by
        have hmap := congrArg (List.map CharArray.text) (t.map_client_recount counters)
        rwa [List.map_map, List.map_map] at hmap
      show (t.recount counters).names.Nodup
      rw [hsame]
      exact hnodup

theorem Terminated.after_short {event : Event} (h : t.Terminated) (hshort : ShortName event) :
    (t.after event).Terminated := by
  apply h.after
  cases event with
  | addClient client env => exact fun _ => hshort
  | forgetClient client env => trivial
  | counted counters => trivial

/-- A call that refuses does nothing. -/
theorem keepsSet_refused {event : Event} (hnodup : t.names.Nodup) (hanswer : t.answer event = -1)
    (hafter : t.after event = t) : t.KeepsSet event where
  distinct := by rwa [hafter]
  bounded := (t.after event).bounded
  added _ _ _ hzero := by
    rw [hanswer] at hzero
    cases hzero
  forgotten _ _ _ hzero := by
    rw [hanswer] at hzero
    cases hzero
  refused _ := by rw [hafter]

/-- A call keeps the set if, and only if, the filter is taken when the table
has changed. -/
theorem keepsSet_iff {event : Event} (hterminated : t.Terminated) (hnodup : t.names.Nodup)
    (hshort : ShortName event) : t.KeepsSet event ↔ t.FilterTaken event := by
  have hdistinct := nodup_names_after hnodup hshort
  cases event with
  | addClient client env =>
      cases hadded : t.added client with
      | none =>
          apply iff_of_true
          · apply keepsSet_refused hnodup
            · simp only [answer, addClient, rebuild, hadded]
            · simp only [after, addClient, rebuild, hadded]
          · simp [FilterTaken, hadded]
      | some t' =>
          have hanswer : t.answer (.addClient client env) = (t'.createBpf env).1 := by
            simp only [answer, addClient, rebuild, hadded]
          have hclients : (t.after (.addClient client env)).clients =
              t.clients ++ [{ client := strncpy maxAddrLength client }] := by
            simp only [after, addClient, rebuild, hadded, clients_createBpf, clients_added hadded]
          have hzero := answer_createBpf_eq_zero_iff env
            ((hterminated.added hadded).mpr hshort)
          have htaken : t.FilterTaken (.addClient client env) ↔ (t'.createBpf env).1 = 0 := by
            simp [FilterTaken, hadded, hzero]
          rw [htaken, ← hanswer]
          constructor
          · intro h
            by_contra hne
            -- the new client is there
            have hsame := congrArg List.length (h.refused hne)
            rw [hclients] at hsame
            simp at hsame
          · intro hanswered
            refine ⟨hdistinct, bounded _, ?_, ?_, fun hne => absurd hanswered hne⟩
            · intro client' env' heq _
              cases heq
              refine ⟨(names_added hshort hadded).1, _, hclients, ?_, rfl, rfl, rfl⟩
              rw [text_strncpy, List.take_of_length_le (Nat.le_of_lt hshort)]
            · intro client' env' heq
              cases heq
  | forgetClient client env =>
      cases hforgotten : t.forgotten client with
      | none =>
          apply iff_of_true
          · apply keepsSet_refused hnodup
            · simp only [answer, forgetClient, rebuild, hforgotten]
            · simp only [after, forgetClient, rebuild, hforgotten]
          · simp [FilterTaken, hforgotten]
      | some t' =>
          obtain ⟨hmem, hfilter, hless⟩ := clients_forgotten hnodup hshort hforgotten
          have hanswer : t.answer (.forgetClient client env) = (t'.createBpf env).1 := by
            simp only [answer, forgetClient, rebuild, hforgotten]
          have hclients : (t.after (.forgetClient client env)).clients = t'.clients := by
            simp only [after, forgetClient, rebuild, hforgotten, clients_createBpf]
          have hzero := answer_createBpf_eq_zero_iff env
            (hterminated.forgotten hforgotten)
          have htaken : t.FilterTaken (.forgetClient client env) ↔ (t'.createBpf env).1 = 0 := by
            simp [FilterTaken, hforgotten, hzero]
          rw [htaken, ← hanswer]
          constructor
          · intro h
            by_contra hne
            have hsame := congrArg List.length (h.refused hne)
            rw [hclients] at hsame
            omega
          · intro hanswered
            refine ⟨hdistinct, bounded _, ?_, ?_, fun hne => absurd hanswered hne⟩
            · intro client' env' heq
              cases heq
            · intro client' env' heq _
              cases heq
              exact ⟨hmem, hclients.trans hfilter⟩
  | counted counters =>
      apply iff_of_true
      · refine ⟨hdistinct, bounded _, ?_, ?_, fun hne => absurd rfl hne⟩
        · intro client env heq
          cases heq
        · intro client env heq
          cases heq
      · trivial

end

/-- The table is a set all along, and calls do what they answer, if and only
if every changed table gets its filter. -/
theorem keeps_set_iff {events : List Event} (hshort : ∀ event ∈ events, ShortName event) :
    Along after KeepsSet empty events ↔ Along after FilterTaken empty events := by
  apply along_congr (I := fun t => t.Terminated ∧ t.names.Nodup) _ hshort
  · rintro t event ⟨hterminated, hnodup⟩ hevent -
    exact ⟨hterminated.after_short hevent, nodup_names_after hnodup hevent⟩
  · rintro t event ⟨hterminated, hnodup⟩ hevent
    exact keepsSet_iff hterminated hnodup hevent
  · refine ⟨?_, List.nodup_nil⟩
    intro c hc
    cases hc

/-- The text `10`. -/
def tenName : CString where
  chars := [49, 48]
  noNul := by simp

/-- Adding and forgetting a client with pcap at hand. -/
theorem keeps_set_add_forget :
    Along after KeepsSet empty [.addClient tenName {}, .forgetClient tenName {}] :=
  (keeps_set_iff (by
    intro event hevent
    simp only [List.mem_cons, List.not_mem_nil, or_false] at hevent
    rcases hevent with rfl | rfl
    · show (2 : Nat) < 64
      decide
    · show (2 : Nat) < 64
      decide)).mpr
    ⟨fun _ => ⟨rfl, rfl, rfl⟩, fun _ => ⟨rfl, rfl, rfl⟩, trivial⟩

/-- A client whose filter does not compile is counted all the same. -/
theorem added_without_filter :
    let event : Event := .addClient tenName { compiles := false }
    ¬ Along after KeepsSet empty [event] ∧ empty.answer event = 3 ∧
      (empty.after event).clients.length = 1 := by
  refine ⟨?_, by decide +kernel, by decide +kernel⟩
  rintro ⟨h, -⟩
  have hsame := congrArg List.length (h.refused (by decide +kernel))
  revert hsame
  decide +kernel

end Table

end BitMesh.DataCollection
