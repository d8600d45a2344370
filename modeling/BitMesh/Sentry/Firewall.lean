import BitMesh.Lib.Getopts
import BitMesh.Sentry.StateMachines

/-!
# The connectivity table and the firewall

`ConnectivitySentry.updatePeers` turns the table of clients into the
argument vector of `iptablesrouting.sh`, and the script turns its
arguments into `iptables` commands. The interface names come first in
the vector. `getopts` starts at the first argument and stops at the first
one that is not an option, so it stops at the interface name and never
sees a client. The loop itself is right: over the clients' arguments
alone it appends exactly the rules of the table.
-/

namespace BitMesh.Sentry

open BitMesh.Lib

/-! ## Addresses -/

/-- One group of `IP_ADDRESS_PATTERN_STRING`: `[01]?\d\d?|2[0-4]\d|25[0-5]`. -/
def isOctet : Word → Bool
  | [a] => a.isDigit
  | [a, b] => a.isDigit && b.isDigit
  | [a, b, c] =>
      ((a == '0' || a == '1') && b.isDigit && c.isDigit) ||
      (a == '2' && (b.isDigit && b ≤ '4') && c.isDigit) ||
      (a == '2' && b == '5' && (c.isDigit && c ≤ '5'))
  | _ => false

/-- A group of an address, with the proof that it matches the pattern. -/
structure Octet where
  digits : Word
  valid : isOctet digits = true
  deriving DecidableEq

/-- An address that `ipAddressPattern` matches. -/
structure IpAddress where
  first : Octet
  second : Octet
  third : Octet
  fourth : Octet
  deriving DecidableEq

def IpAddress.text (ip : IpAddress) : Word :=
  ip.first.digits ++ '.' :: ip.second.digits ++ '.' :: ip.third.digits ++ '.' :: ip.fourth.digits

theorem Octet.isDigit (o : Octet) : ∀ c ∈ o.digits, c.isDigit = true := by
  obtain ⟨digits, valid⟩ := o
  match digits, valid with
  | [a], valid => simpa [isOctet] using valid
  | [a, b], valid => simpa [isOctet] using valid
  | [a, b, c], valid =>
    intro x hx
    simp only [isOctet, Bool.or_eq_true, Bool.and_eq_true, beq_iff_eq] at valid
    have hab : a.isDigit = true ∧ b.isDigit = true ∧ c.isDigit = true := by
      rcases valid with (⟨⟨rfl | rfl, hb⟩, hc⟩ | ⟨⟨rfl, hb, _⟩, hc⟩) | ⟨⟨rfl, rfl⟩, hc, _⟩
      · exact ⟨by decide, hb, hc⟩
      · exact ⟨by decide, hb, hc⟩
      · exact ⟨by decide, hb, hc⟩
      · exact ⟨by decide, by decide, hc⟩
    simp only [List.mem_cons, List.not_mem_nil, or_false] at hx
    rcases hx with rfl | rfl | rfl
    · exact hab.1
    · exact hab.2.1
    · exact hab.2.2

theorem not_isBlank_of_isDigit {c : Char} (h : c.isDigit = true) : isBlank c = false := by
  by_contra hblank
  simp only [isBlank, Bool.not_eq_false, Bool.or_eq_true, beq_iff_eq] at hblank
  rcases hblank with (rfl | rfl) | rfl <;> exact absurd h (by decide)

theorem IpAddress.text_ne_nil (ip : IpAddress) : ip.text ≠ [] := by simp [text]

theorem IpAddress.not_isBlank (ip : IpAddress) : ∀ c ∈ ip.text, isBlank c = false := by
  have hoctet (o : Octet) : ∀ c ∈ o.digits, isBlank c = false :=
    fun c hc => not_isBlank_of_isDigit (o.isDigit c hc)
  have hdot : isBlank '.' = false := by decide
  intro c hc
  simp only [text, List.mem_append, List.mem_cons] at hc
  rcases hc with ((h | rfl | h) | rfl | h) | rfl | h
  all_goals first | exact hdot | exact hoctet _ c h

/-! ## `updatePeers` -/

/-- What `updatePeers` reads of a client. -/
structure Peer where
  ipAddress : IpAddress
  connectivityState : ConnectivityState
  deriving DecidableEq

/-- The name of a network interface, which is not an option. -/
structure InterfaceName where
  name : Word
  operand : name.head? ≠ some '-'

/-- The argument for one client, if it gets one. -/
def Peer.argument (client : Peer) : Option Word :=
  match client.connectivityState with
  | .open => some ("-o ".toList ++ client.ipAddress.text)
  | .redirectToCaptivePortal => some ("-c ".toList ++ client.ipAddress.text)
  | .redirectToLocalhost => none

/-- `ConnectivitySentry.updatePeers`: the arguments of the script. -/
def updatePeers (inFace outFace : Word) (clients : List Peer) : List Word :=
  inFace :: outFace :: clients.filterMap Peer.argument

/-! ## `iptablesrouting.sh` -/

/-- A command with its arguments. -/
abbrev Command := List String

/-- The words an unquoted expansion of `s` puts into a command. -/
def expand (s : Word) : List String := (words s).map String.ofList

/-- The start of a rule appended to the NAT table for what comes in. -/
def prerouting (rest : List String) : Command :=
  "iptables" :: "-t" :: "nat" :: "-A" :: "PREROUTING" :: rest

/-- The rule of option `o`: everything from this source goes out. -/
def acceptRule (sellInterface source : List String) : Command :=
  prerouting ("--in-interface" :: sellInterface ++ "--source" :: source ++ ["-j", "ACCEPT"])

/-- The rule of option `c`: to the captive portal. -/
def captivePortalRule (source : List String) : Command :=
  prerouting (["--protocol", "tcp", "--source"] ++ source ++
    ["-j", "DNAT", "--to-destination", "54.94.132.0"])

/-- Traffic everybody may have. -/
def whitelist (sellInterface matches_ : List String) : Command :=
  prerouting ("--in-interface" :: sellInterface ++ "--protocol" :: matches_ ++ ["-j", "ACCEPT"])

/-- The commands before the loop. -/
def preamble (buyInterface sellInterface : List String) : List Command :=
  [ ["iptables", "-F"], ["iptables", "-X"],
    ["iptables", "-t", "nat", "-F"], ["iptables", "-t", "nat", "-X"],
    ["iptables", "-t", "mangle", "-F"], ["iptables", "-t", "mangle", "-X"],
    ["iptables", "-t", "raw", "-F"], ["iptables", "-t", "raw", "-X"],
    ["iptables", "-F", "INPUT"], ["iptables", "-F", "OUTPUT"], ["iptables", "-F", "FORWARD"],
    ["iptables", "-t", "nat", "--policy", "PREROUTING", "ACCEPT"],
    ["iptables", "-t", "nat", "--policy", "POSTROUTING", "ACCEPT"],
    ["iptables", "-t", "nat", "--policy", "OUTPUT", "ACCEPT"],
    whitelist sellInterface ["tcp", "-d", "54.232.226.45"],
    whitelist sellInterface ["tcp", "-d", "190.93.243.195"],
    whitelist sellInterface ["tcp", "-d", "141.101.112.196"],
    whitelist sellInterface ["tcp", "-d", "54.94.132.0"],
    whitelist sellInterface ["tcp", "-d", "54.207.45.234"],
    whitelist sellInterface ["tcp", "-d", "10.0.19.84"],
    whitelist sellInterface ["tcp", "--dport", "8333"],
    whitelist sellInterface ["udp", "--dport", "8333"],
    whitelist sellInterface ["tcp", "--dport", "18333"],
    whitelist sellInterface ["udp", "--dport", "18333"],
    whitelist sellInterface ["tcp", "--dst", "10.0.19.84", "--dport", "11984"],
    ["iptables", "-A", "FORWARD", "--protocol", "ALL", "--in-interface"] ++ buyInterface ++
      ["-j", "ACCEPT"],
    ["iptables", "-A", "FORWARD", "--in-interface"] ++ sellInterface ++
      ["-m", "state", "--state", "ESTABLISHED,RELATED", "-j", "ACCEPT"] ]

/-- The body of `while getopts "c:o:" opt`; any other option is echoed. -/
def loopBody (sellInterface : List String) : Getopt → List Command
  | .option letter (some arg) =>
      if letter = 'c' then [captivePortalRule (expand arg)]
      else if letter = 'o' then [acceptRule sellInterface (expand arg)]
      else []
  | _ => []

/-- The commands after the loop. -/
def postamble (buyInterface sellInterface : List String) : List Command :=
  [ ["iptables", "-A", "INPUT", "--in-interface"] ++ sellInterface ++
      ["--protocol", "tcp", "--dport", "443", "-j", "DROP"],
    prerouting ("--in-interface" :: sellInterface ++
      ["--protocol", "tcp", "-j", "DNAT", "--to-destination", "10.0.19.84:8080"]),
    ["iptables", "-t", "nat", "-A", "POSTROUTING", "--out-interface"] ++ buyInterface ++
      ["-j", "MASQUERADE"] ]

/-- `iptablesrouting.sh`: the `iptables` commands it runs. -/
def iptablesRouting (args : List Word) : List Command :=
  let buyInterface := expand (args.getD 0 [])
  let sellInterface := expand (args.getD 1 [])
  preamble buyInterface sellInterface ++
    (getopts "c:o:".toList args).flatMap (loopBody sellInterface) ++
    postamble buyInterface sellInterface

/-! ## The loop over the clients -/

/-- The rule the table asks for. -/
def Peer.rule (sellInterface : List String) (client : Peer) : Option Command :=
  match client.connectivityState with
  | .open => some (acceptRule sellInterface [.ofList client.ipAddress.text])
  | .redirectToCaptivePortal => some (captivePortalRule [.ofList client.ipAddress.text])
  | .redirectToLocalhost => none

/-- The attached argument starts with a blank, which the unquoted
expansion drops. -/
theorem expand_attached (ip : IpAddress) : expand (' ' :: ip.text) = [.ofList ip.text] := by
  rw [expand, words_blank_cons _ (by decide), words_of_no_blank ip.text_ne_nil ip.not_isBlank]
  rfl

/-- Started at the clients' arguments, the loop would append the rules of
the table and no others. -/
theorem loop_over_clients (sellInterface : List String) (clients : List Peer) :
    (getopts "c:o:".toList (clients.filterMap Peer.argument)).flatMap (loopBody sellInterface) =
      clients.filterMap (Peer.rule sellInterface) := by
  induction clients with
  | nil => rfl
  | cons client clients ih =>
    have hattached (letter : Char) (rest : List Word)
        (hk : optionKind "c:o:".toList letter = some true) :
        getopts "c:o:".toList (('-' :: letter :: ' ' :: client.ipAddress.text) :: rest) =
          .option letter (some (' ' :: client.ipAddress.text)) :: getopts "c:o:".toList rest :=
      getopts_attached rest hk (by simp)
    cases hstate : client.connectivityState with
    | redirectToLocalhost =>
      simpa [Peer.argument, Peer.rule, hstate] using ih
    | redirectToCaptivePortal =>
      have harg : client.argument = some ('-' :: 'c' :: ' ' :: client.ipAddress.text) := by
        simp [Peer.argument, hstate]
      rw [List.filterMap_cons_some harg, hattached 'c' _ (by decide), List.flatMap_cons, ih]
      simp [loopBody, expand_attached, Peer.rule, hstate]
    | «open» =>
      have harg : client.argument = some ('-' :: 'o' :: ' ' :: client.ipAddress.text) := by
        simp [Peer.argument, hstate]
      rw [List.filterMap_cons_some harg, hattached 'o' _ (by decide), List.flatMap_cons, ih]
      simp [loopBody, expand_attached, Peer.rule, hstate]

/-! ## What the script does -/

/-- The commands append an unrestricted ACCEPT rule for exactly the
clients that are online, and a captive-portal rule for exactly those that
are sent to the portal. -/
def Implements (outFace : InterfaceName) (commands : List Command) (clients : List Peer) : Prop :=
  ∀ ip : IpAddress,
    (acceptRule (expand outFace.name) [.ofList ip.text] ∈ commands ↔ ⟨ip, .open⟩ ∈ clients) ∧
    (captivePortalRule [.ofList ip.text] ∈ commands ↔
      ⟨ip, .redirectToCaptivePortal⟩ ∈ clients)

/-- The interface name ends the options, so the loop does nothing. -/
theorem iptablesRouting_updatePeers (inFace outFace : InterfaceName) (clients : List Peer) :
    iptablesRouting (updatePeers inFace.name outFace.name clients) =
      preamble (expand inFace.name) (expand outFace.name) ++
        postamble (expand inFace.name) (expand outFace.name) := by
  simp [iptablesRouting, updatePeers, getopts_operand _ inFace.operand]

theorem acceptRule_not_fixed (buyInterface sellInterface source : List String) :
    acceptRule sellInterface source ∉
      preamble buyInterface sellInterface ++ postamble buyInterface sellInterface := by
  simp [preamble, postamble, acceptRule, whitelist, prerouting]

theorem captivePortalRule_not_fixed (buyInterface sellInterface source : List String) :
    captivePortalRule source ∉
      preamble buyInterface sellInterface ++ postamble buyInterface sellInterface := by
  simp [preamble, postamble, captivePortalRule, whitelist, prerouting]

/-- The script implements the table exactly when no client is online or
sent to the portal. -/
theorem firewall_implements_iff (inFace outFace : InterfaceName) (clients : List Peer) :
    Implements outFace (iptablesRouting (updatePeers inFace.name outFace.name clients)) clients ↔
      ∀ client ∈ clients, client.connectivityState = .redirectToLocalhost := by
  rw [iptablesRouting_updatePeers]
  have haccept := acceptRule_not_fixed (expand inFace.name) (expand outFace.name)
  have hportal := captivePortalRule_not_fixed (expand inFace.name) (expand outFace.name)
  constructor
  · intro himp client hmem
    obtain ⟨ip, state⟩ := client
    cases state with
    | redirectToLocalhost => rfl
    | redirectToCaptivePortal => exact absurd ((himp ip).2.2 hmem) (hportal _)
    | «open» => exact absurd ((himp ip).1.2 hmem) (haccept _)
  · intro hlocal ip
    refine ⟨iff_of_false (haccept _) fun hmem => ?_, iff_of_false (hportal _) fun hmem => ?_⟩
    · cases hlocal _ hmem
    · cases hlocal _ hmem

/-- `10.0.19.90`, a client of the access point. -/
def clientAddress : IpAddress where
  first := ⟨['1', '0'], by decide⟩
  second := ⟨['0'], by decide⟩
  third := ⟨['1', '9'], by decide⟩
  fourth := ⟨['9', '0'], by decide⟩

/-- One client that is online, and no rule for it. -/
theorem online_client_gets_no_rule :
    let outFace : InterfaceName := ⟨"wlan0".toList, by decide⟩
    ¬ Implements outFace
      (iptablesRouting (updatePeers "eth0".toList outFace.name [⟨clientAddress, .open⟩]))
      [⟨clientAddress, .open⟩] := by
  intro outFace himp
  exact absurd ((himp clientAddress).1.2 (by decide)) (by decide +kernel)

end BitMesh.Sentry
