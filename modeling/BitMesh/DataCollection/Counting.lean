import BitMesh.DataCollection.Clients

/-!
# Counting packets

`handle_data_count` adds what it takes for the payload of a packet to a
counter of the first client the packet comes from or goes to. The payload is
what the lengths of the IP and the TCP header leave of the packet; for a
packet that is not TCP the second one is read from whatever is there, and
can be larger than what is left. The difference is negative then, and the
unsigned counter wraps.
-/

namespace BitMesh.DataCollection

open BitMesh.Lib

/-- The memory from the first byte of a captured packet on; its Ethernet
header has 14 bytes. -/
abbrev Packet := Nat → UInt8

namespace Packet

variable (packet : Packet)

/-- `ntohs(ip->ip_len)`. -/
def ipLen : Nat := (packet 16).toNat * 256 + (packet 17).toNat

/-- `IP_HL(ip)*4`. -/
def sizeIp : Nat := (packet 14 &&& 0x0f).toNat * 4

/-- `TH_OFF(tcp)*4`, of what follows the IP header. -/
def sizeTcp : Nat := ((packet (14 + packet.sizeIp + 12) &&& 0xf0) >>> 4).toNat * 4

def payloadSize : Int := packet.ipLen - (packet.sizeIp + packet.sizeTcp)

def ipSrc : List UInt8 := [packet 26, packet 27, packet 28, packet 29]

def ipDst : List UInt8 := [packet 30, packet 31, packet 32, packet 33]

end Packet

/-- `inet_ntop(AF_INET, ...)`: the bytes in decimal, with dots. -/
def inetNtop (addr : List UInt8) : List UInt8 :=
  [46].intercalate (addr.map fun byte => (Nat.toDigits 10 byte.toNat).map (·.toNat.toUInt8))

/-- The loop of `ip_matches_string`. -/
def sameText : Nat → List UInt8 → List UInt8 → Bool
  | 0, _, _ => true
  | n + 1, a, b =>
      if a.headD 0 = 0 ∧ b.headD 0 = 0 then true
      else if a.headD 0 ≠ b.headD 0 then false
      else sameText n a.tail b.tail

def ipMatchesString (addr : List UInt8) (string : CharArray maxAddrLength) : Bool :=
  sameText maxAddrLength (inetNtop addr) string.bytes

/-- Which counter a packet is for. -/
inductive Direction where
  | down
  | up

section
variable (localhost : CharArray maxAddrLength) (packet : Packet)

/-- The two tests of the loop. -/
def direction (c : ClientDataCount) : Option Direction :=
  if ipMatchesString packet.ipSrc c.client && ipMatchesString packet.ipDst localhost then some .down
  else if ipMatchesString packet.ipDst c.client && ipMatchesString packet.ipSrc localhost then
    some .up
  else none

end

namespace ClientDataCount

def counter (c : ClientDataCount) : Direction → UInt64
  | .down => c.down
  | .up => c.up

/-- `payload_size` is an `int`, and becomes an `unsigned long`. -/
def count (c : ClientDataCount) (payloadSize : Int) : Direction → ClientDataCount
  | .down => { c with down := c.down + UInt64.ofInt payloadSize, delta := UInt64.ofInt payloadSize }
  | .up => { c with up := c.up + UInt64.ofInt payloadSize, delta := UInt64.ofInt payloadSize }

end ClientDataCount

/-- The loop over the clients, which ends with the first one that has a
part in the packet. -/
def countFirst (localhost : CharArray maxAddrLength) (packet : Packet) :
    List ClientDataCount → List ClientDataCount
  | [] => []
  | c :: rest =>
      match direction localhost packet c with
      | some d => c.count packet.payloadSize d :: rest
      | none => c :: countFirst localhost packet rest

theorem length_countFirst (localhost : CharArray maxAddrLength) (packet : Packet)
    (clients : List ClientDataCount) :
    (countFirst localhost packet clients).length = clients.length := by
  induction clients with
  | nil => rfl
  | cons c rest ih =>
      unfold countFirst
      split
      · rfl
      · simp [ih]

/-- `handle_data_count`. -/
def Table.handleDataCount (localhost : CharArray maxAddrLength) (t : Table) (packet : Packet) :
    Table :=
  { t with
    clientData := countFirst localhost packet t.clients ++ t.clientData.drop t.numClients
    size := by
      have hsize := t.size
      have hle := t.numClients_le
      rw [List.length_append, length_countFirst, List.length_drop, t.length_clients]
      omega }

/-- One of a client's counters grows by `v`. -/
def Grown (v : Nat) (c c' : ClientDataCount) : Prop :=
  (c'.up.toNat = c.up.toNat + v ∧ c'.down = c.down) ∨
    (c'.down.toNat = c.down.toNat + v ∧ c'.up = c.up)

/-- The counters of one client at most change, and of them one grows by no
more than `ipLen`. -/
def GrowsOne (ipLen : Nat) (clients clients' : List ClientDataCount) : Prop :=
  ∃ i v, v ≤ ipLen ∧ ∀ (j : Nat) (c c' : ClientDataCount),
    clients[j]? = some c → clients'[j]? = some c' →
      (j ≠ i → c'.up = c.up ∧ c'.down = c.down) ∧ (j = i → Grown v c c')

namespace Table

/-- What a packet does to the counters. -/
def Grows (localhost : CharArray maxAddrLength) (t : Table) (packet : Packet) : Prop :=
  GrowsOne packet.ipLen t.clients (t.handleDataCount localhost packet).clients

/-- Every packet counts forward, so that no counter ever decreases. -/
structure CountsForward (localhost : CharArray maxAddrLength) (t : Table) (packets : List Packet) :
    Prop where
  grows : Along (handleDataCount localhost) (Grows localhost) t packets
  mono : ∀ earlier, earlier <+: packets → ∀ (j : Nat) (c c' : ClientDataCount),
    t.clients[j]? = some c →
      (earlier.foldl (handleDataCount localhost) t).clients[j]? = some c' →
        c.up ≤ c'.up ∧ c.down ≤ c'.down

/-- The headers of a packet that is counted fit into it, and the counter has
room for the rest. -/
def Fits (localhost : CharArray maxAddrLength) (t : Table) (packet : Packet) : Prop :=
  ∀ c d, t.clients.find? (fun c => (direction localhost packet c).isSome) = some c →
    direction localhost packet c = some d →
      packet.sizeIp + packet.sizeTcp ≤ packet.ipLen ∧
        (c.counter d).toNat + packet.payloadSize < 2 ^ 64

/-! ## One packet -/

section
variable {localhost : CharArray maxAddrLength} {t : Table} {packet : Packet}

theorem clients_handleDataCount :
    (t.handleDataCount localhost packet).clients = countFirst localhost packet t.clients := by
  show (countFirst localhost packet t.clients ++ _).take t.numClients = _
  apply List.take_left'
  rw [length_countFirst, t.length_clients]

theorem countFirst_append {before after : List ClientDataCount} {c : ClientDataCount} {d : Direction}
    (hbefore : ∀ b ∈ before, direction localhost packet b = none)
    (hc : direction localhost packet c = some d) :
    countFirst localhost packet (before ++ c :: after) =
      before ++ c.count packet.payloadSize d :: after := by
  induction before with
  | nil => simp [countFirst, hc]
  | cons b before ih =>
      obtain ⟨hb, hbefore⟩ := List.forall_mem_cons.mp hbefore
      simp [countFirst, hb, ih hbefore]

theorem countFirst_of_none {clients : List ClientDataCount}
    (h : ∀ c ∈ clients, direction localhost packet c = none) :
    countFirst localhost packet clients = clients := by
  induction clients with
  | nil => rfl
  | cons c rest ih =>
      obtain ⟨hc, hrest⟩ := List.forall_mem_cons.mp h
      simp [countFirst, hc, ih hrest]

theorem toNat_add_ofInt (n : UInt64) (k : Int) :
    ((n + UInt64.ofInt k).toNat : Int) = (n.toNat + k) % 2 ^ 64 := by
  rw [UInt64.toNat_add]
  simp only [UInt64.ofInt, UInt64.toNat_ofNat']
  omega

/-- The lengths have few bits. -/
theorem payloadSize_bounds (packet : Packet) :
    -2 ^ 17 < packet.payloadSize ∧ packet.payloadSize ≤ packet.ipLen ∧ packet.ipLen < 2 ^ 16 := by
  have hhigh := (packet 16).toNat_lt
  have hlow := (packet 17).toNat_lt
  have hip := (packet 14 &&& 0x0f).toNat_lt
  have htcp := ((packet (14 + packet.sizeIp + 12) &&& 0xf0) >>> 4).toNat_lt
  unfold Packet.payloadSize Packet.sizeTcp Packet.ipLen
  unfold Packet.sizeIp at htcp ⊢
  omega

theorem grown_count {c : ClientDataCount} {d : Direction} {k : Int} (hk : 0 ≤ k)
    (hroom : (c.counter d).toNat + k < 2 ^ 64) : Grown k.toNat c (c.count k d) := by
  cases d with
  | down =>
      right
      refine ⟨?_, rfl⟩
      have hsum := toNat_add_ofInt c.down k
      have hroom : (c.down.toNat : Int) + k < 2 ^ 64 := hroom
      show (c.down + UInt64.ofInt k).toNat = _
      omega
  | up =>
      left
      refine ⟨?_, rfl⟩
      have hsum := toNat_add_ofInt c.up k
      have hroom : (c.up.toNat : Int) + k < 2 ^ 64 := hroom
      show (c.up + UInt64.ofInt k).toNat = _
      omega

/-- A sum that does not look like one has wrapped. -/
theorem room_of_grown {n : UInt64} {k : Int} {v : Nat} (hk : -2 ^ 17 < k ∧ k < 2 ^ 16)
    (hv : v < 2 ^ 16) (h : (n + UInt64.ofInt k).toNat = n.toNat + v) :
    0 ≤ k ∧ (n.toNat : Int) + k < 2 ^ 64 := by
  have hsum := toNat_add_ofInt n k
  have hlt := (n + UInt64.ofInt k).toNat_lt
  omega

theorem room_of_grown_count {c : ClientDataCount} {d : Direction} {k : Int} {v : Nat}
    (hk : -2 ^ 17 < k ∧ k < 2 ^ 16) (hv : v < 2 ^ 16) (h : Grown v c (c.count k d)) :
    0 ≤ k ∧ ((c.counter d).toNat : Int) + k < 2 ^ 64 := by
  have hsame {n : UInt64} (hn : n + UInt64.ofInt k = n) : 0 ≤ k ∧ (n.toNat : Int) + k < 2 ^ 64 :=
    room_of_grown (v := 0) hk (by decide) (by rw [hn]; rfl)
  cases d with
  | down =>
      rcases h with ⟨-, h⟩ | ⟨h, -⟩
      · exact hsame h
      · exact room_of_grown hk hv h
  | up =>
      rcases h with ⟨h, -⟩ | ⟨-, h⟩
      · exact room_of_grown hk hv h
      · exact hsame h

/-- What a packet does is right if, and only if, its headers fit into it and
the counter has room. -/
theorem grows_iff_fits : t.Grows localhost packet ↔ t.Fits localhost packet := by
  obtain ⟨hlow, hhigh, hlen⟩ := payloadSize_bounds packet
  have hsizes : packet.sizeIp + packet.sizeTcp ≤ packet.ipLen ↔ 0 ≤ packet.payloadSize := by
    unfold Packet.payloadSize
    omega
  unfold Grows Fits
  rw [clients_handleDataCount]
  cases hfind : t.clients.find? fun c => (direction localhost packet c).isSome with
  | none =>
      have hnone : ∀ c ∈ t.clients, direction localhost packet c = none := by
        simpa using hfind
      rw [countFirst_of_none hnone]
      apply iff_of_true
      · refine ⟨0, 0, Nat.zero_le _, ?_⟩
        intro j c c' hc hc'
        obtain rfl : c = c' := Option.some.inj (hc.symm.trans hc')
        exact ⟨fun _ => ⟨rfl, rfl⟩, fun _ => .inl ⟨rfl, rfl⟩⟩
      · intro c d hc
        cases hc
  | some first =>
      obtain ⟨hsome, before, after, hclients, hbefore⟩ := List.find?_eq_some_iff_append.mp hfind
      obtain ⟨d, hd⟩ := Option.isSome_iff_exists.mp hsome
      have hbefore : ∀ b ∈ before, direction localhost packet b = none := by
        simpa using hbefore
      have hcounted : countFirst localhost packet t.clients =
          before ++ first.count packet.payloadSize d :: after := by
        rw [hclients, countFirst_append hbefore hd]
      have hfirst : t.clients[before.length]? = some first := by
        rw [hclients]
        simp
      have hfirst' : (countFirst localhost packet t.clients)[before.length]? =
          some (first.count packet.payloadSize d) := by
        rw [hcounted]
        simp
      constructor
      · rintro ⟨i, v, hv, hall⟩
        obtain ⟨hother, hsame⟩ := hall _ _ _ hfirst hfirst'
        have hgrown : ∃ v, v < 2 ^ 16 ∧ Grown v first (first.count packet.payloadSize d) := by
          by_cases hi : before.length = i
          · exact ⟨v, by omega, hsame hi⟩
          · obtain ⟨hup, hdown⟩ := hother hi
            exact ⟨0, by decide, .inl ⟨by rw [hup]; rfl, hdown⟩⟩
        obtain ⟨v, hv, hgrown⟩ := hgrown
        have hroom := room_of_grown_count ⟨hlow, by omega⟩ hv hgrown
        intro c d' hc hd'
        cases hc
        obtain rfl : d' = d := Option.some.inj (hd'.symm.trans hd)
        exact ⟨hsizes.mpr hroom.1, hroom.2⟩
      · intro hfits
        obtain ⟨hsize, hroom⟩ := hfits first d rfl hd
        refine ⟨before.length, packet.payloadSize.toNat, by omega, ?_⟩
        intro j c c' hc hc'
        constructor
        · intro hj
          -- the others stand where they stood
          rw [hclients, List.getElem?_append] at hc
          rw [hcounted, List.getElem?_append] at hc'
          split at hc
          · rename_i hlt
            rw [if_pos hlt] at hc'
            cases hc.symm.trans hc'
            exact ⟨rfl, rfl⟩
          · rename_i hge
            obtain ⟨k, hk⟩ : ∃ k, j - before.length = k + 1 := ⟨j - before.length - 1, by omega⟩
            rw [hk, List.getElem?_cons_succ] at hc
            rw [if_neg hge, hk, List.getElem?_cons_succ] at hc'
            cases hc.symm.trans hc'
            exact ⟨rfl, rfl⟩
        · rintro rfl
          rw [hfirst] at hc
          rw [hfirst'] at hc'
          cases hc
          cases hc'
          exact grown_count (hsizes.mp hsize) hroom

theorem Grows.mono (h : t.Grows localhost packet) {j : Nat} {c c' : ClientDataCount}
    (hc : t.clients[j]? = some c)
    (hc' : (t.handleDataCount localhost packet).clients[j]? = some c') :
    c.up ≤ c'.up ∧ c.down ≤ c'.down := by
  obtain ⟨i, v, -, hall⟩ := h
  obtain ⟨hother, hsame⟩ := hall j c c' hc hc'
  rw [UInt64.le_iff_toNat_le, UInt64.le_iff_toNat_le]
  by_cases hj : j = i
  · rcases hsame hj with ⟨hup, hdown⟩ | ⟨hdown, hup⟩
    · rw [hup, hdown]
      omega
    · rw [hup, hdown]
      omega
  · obtain ⟨hup, hdown⟩ := hother hj
    rw [hup, hdown]
    omega

end

/-! ## A sequence of packets -/

/-- Counters that count forward never decrease. -/
theorem mono_of_grows {localhost : CharArray maxAddrLength} {t : Table} {packets : List Packet}
    (h : Along (handleDataCount localhost) (Grows localhost) t packets) {earlier : List Packet}
    (hearlier : earlier <+: packets) {j : Nat} {c c' : ClientDataCount}
    (hc : t.clients[j]? = some c)
    (hc' : (earlier.foldl (handleDataCount localhost) t).clients[j]? = some c') :
    c.up ≤ c'.up ∧ c.down ≤ c'.down := by
  induction packets generalizing t earlier c with
  | nil =>
      rw [List.prefix_nil.mp hearlier] at hc'
      cases hc.symm.trans hc'
      exact ⟨UInt64.le_refl _, UInt64.le_refl _⟩
  | cons packet rest ih =>
      rcases List.prefix_cons_iff.mp hearlier with rfl | ⟨earlier, rfl, hrest⟩
      · cases hc.symm.trans hc'
        exact ⟨UInt64.le_refl _, UInt64.le_refl _⟩
      · -- through the table after the first packet
        have hlt : j < (t.handleDataCount localhost packet).clients.length := by
          rw [clients_handleDataCount, length_countFirst]
          exact (List.getElem?_eq_some_iff.mp hc).1
        have hmid := List.getElem?_eq_getElem hlt
        have hfirst := h.1.mono hc hmid
        have hlater := ih h.2 hrest hmid hc'
        exact ⟨UInt64.le_trans hfirst.1 hlater.1, UInt64.le_trans hfirst.2 hlater.2⟩

/-- The counters count forward if, and only if, the headers of every packet
that is counted fit into it and the counter has room for the rest. -/
theorem counts_forward_iff (localhost : CharArray maxAddrLength) (t : Table)
    (packets : List Packet) :
    CountsForward localhost t packets ↔
      Along (handleDataCount localhost) (Fits localhost) t packets := by
  have hsteps : Along (handleDataCount localhost) (Grows localhost) t packets ↔
      Along (handleDataCount localhost) (Fits localhost) t packets := by
    apply along_congr (I := fun _ => True) (D := fun _ => True) trivial
    · intro packet _
      trivial
    · intro t packet _ _ _
      trivial
    · intro t packet _ _
      exact grows_iff_fits
  rw [← hsteps]
  constructor
  · intro h
    exact h.grows
  · intro h
    exact ⟨h, fun earlier hearlier j c c' hc hc' => mono_of_grows h hearlier hc hc'⟩

/-- `10.0.0.2`. -/
def clientAddress : CString where
  chars := inetNtop [10, 0, 0, 2]
  noNul := by decide +kernel

/-- `10.0.0.1`. -/
def hostAddress : CString where
  chars := inetNtop [10, 0, 0, 1]
  noNul := by decide +kernel

/-- A UDP packet from the client to the host. Its 28 bytes end before the
byte that is taken for the length of a TCP header. -/
def udpPacket : Packet := fun i =>
  ([0, 0, 0, 0, 0, 0, 0, 0, 0, 0, 0, 0, 8, 0,
    0x45, 0, 0, 28, 0, 0, 0, 0, 64, 17, 0, 0, 10, 0, 0, 2, 10, 0, 0, 1,
    0, 53, 0, 53, 0, 8, 0, 0, 0, 0, 0, 0, 255] : List UInt8).getD i 0

/-- The packet takes 52 bytes off the counter. -/
theorem udp_packet_wraps :
    let t := (empty.addClient clientAddress {}).2
    let localhost := strncpy maxAddrLength hostAddress
    ¬ CountsForward localhost t [udpPacket] ∧ udpPacket.payloadSize = -52 ∧
      (t.handleDataCount localhost udpPacket).clients.map (·.down) = [18446744073709551564] := by
  refine ⟨?_, by decide +kernel, by decide +kernel⟩
  intro h
  have hcounted : (List.find? (fun c => (direction (strncpy maxAddrLength hostAddress) udpPacket
      c).isSome) (empty.addClient clientAddress {}).2.clients).isSome = true := by decide +kernel
  obtain ⟨c, hc⟩ := Option.isSome_iff_exists.mp hcounted
  have hsome := List.find?_some hc
  obtain ⟨d, hd⟩ := Option.isSome_iff_exists.mp hsome
  have hfits := (grows_iff_fits.mp h.grows.1 c d hc hd).1
  revert hfits
  decide +kernel

end Table

end BitMesh.DataCollection
