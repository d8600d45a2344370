import BitMesh.Server.Configuration

/-!
# The settings that the dashboard stores

`serveDashboard` answers `/save`, `/email` and `/address`. Each of them
writes a whole configuration to the preferences: `/email` and `/address`
the server's own with one field set, `/save` a new one that knows only what
the request says. So a `/save` forgets the two addresses and asks for
another identifier.
-/

namespace BitMesh.Configuration

open BitMesh.Lib

/-! ## Requests -/

/-- A request of the dashboard whose body was read. `identifier` is what
`generateIdentifier` returns to the constructor that `/save` calls. -/
inductive Request where
  | save (minPrice maxPrice refundThreshold : Int64) (identifier : String)
  | email (emailAddress : String)
  | address (btcAddress : String)
  deriving DecidableEq

inductive Status where
  | created
  | methodNotAllowed
  deriving DecidableEq, Repr

/-- `TransactionServer`, as far as its configuration goes. -/
structure TransactionServer (validAddress : String → Bool) where
  config : BitmeshConfiguration validAddress
  preferences : Preferences

variable {validAddress : String → Bool} (validEmail : String → Bool)

namespace TransactionServer

/-- A server that starts with what the preferences hold. -/
def start (preferences : Preferences) (identifier fallback : String) :
    TransactionServer validAddress :=
  let (config, preferences) := getConfigFromPreferences preferences identifier fallback
  ⟨config, preferences⟩

variable (server : TransactionServer validAddress)

/-- `setConfiguration(configuration)`. -/
def setConfiguration (configuration : BitmeshConfiguration validAddress) :
    TransactionServer validAddress :=
  ⟨configuration, Configuration.setConfiguration configuration server.preferences⟩

/-- A setter on `server.getConfig()` and `saveCurrentConfiguration`: the
object that is saved is the one the server has. -/
def saveCurrentConfiguration (config : BitmeshConfiguration validAddress) :
    TransactionServer validAddress :=
  ⟨config, Configuration.setConfiguration config server.preferences⟩

/-- `serveDashboard`. -/
def serveDashboard : Request → TransactionServer validAddress × Status
  | .save minPrice maxPrice refundThreshold identifier =>
      let configuration : BitmeshConfiguration validAddress :=
        .new .timeUnit maxPrice minPrice identifier
      (server.setConfiguration (configuration.setRefundThreshold refundThreshold), .created)
  | .email emailAddress =>
      if validEmail emailAddress then
        (server.saveCurrentConfiguration (server.config.setEmailAddress emailAddress), .created)
      else (server, .methodNotAllowed)
  | .address btcAddress =>
      if validAddress btcAddress then
        (server.saveCurrentConfiguration (server.config.setBtcAddressString btcAddress), .created)
      else (server, .methodNotAllowed)

/-- The requests one after the other. -/
def serveAll (requests : List Request) : TransactionServer validAddress :=
  requests.foldl (fun server request => (server.serveDashboard validEmail request).1) server

end TransactionServer

/-- A request that is answered with success. -/
def Request.Succeeds (validAddress validEmail : String → Bool) : Request → Prop
  | .save .. => True
  | .email emailAddress => validEmail emailAddress = true
  | .address btcAddress => validAddress btcAddress = true

theorem serveDashboard_created_iff (server : TransactionServer validAddress)
    (request : Request) :
    (server.serveDashboard validEmail request).2 = .created ↔
      request.Succeeds validAddress validEmail := by
  cases request with
  | save => simp [TransactionServer.serveDashboard, Request.Succeeds]
  | email emailAddress =>
    by_cases h : validEmail emailAddress <;>
      simp [TransactionServer.serveDashboard, Request.Succeeds, h]
  | address btcAddress =>
    by_cases h : validAddress btcAddress <;>
      simp [TransactionServer.serveDashboard, Request.Succeeds, h]

/-! ## Settings -/

/-- The settings that the dashboard is about. -/
@[ext] structure Settings where
  minPrice : Int64
  maxPrice : Int64
  refundThreshold : Int64
  emailAddress : String
  btcAddress : String
  mac : String
  deriving DecidableEq

/-- What the preferences hold, with the defaults of
`getConfigFromPreferences`. -/
def stored (preferences : Preferences) (identifier : String) : Settings where
  minPrice := preferences.getLong ConfigConstants.minPrice.value defaultMinPrice
  maxPrice := preferences.getLong ConfigConstants.maxPrice.value defaultMaxPrice
  refundThreshold :=
    preferences.getLong ConfigConstants.refundThreshold.value defaultRefundThreshold
  emailAddress := preferences.get ConfigConstants.emailAddress.value ""
  btcAddress := preferences.get ConfigConstants.btcAddress.value ""
  mac := preferences.get ConfigConstants.macAddress.value identifier

def BitmeshConfiguration.settings (c : BitmeshConfiguration validAddress) : Settings where
  minPrice := c.minPrice
  maxPrice := c.maxPrice
  refundThreshold := c.refundThreshold
  emailAddress := c.emailAddress
  btcAddress := c.btcAddress
  mac := c.mac

/-- What a request is for: it sets what it mentions. -/
def Settings.mentioned (s : Settings) : Request → Settings
  | .save minPrice maxPrice refundThreshold _ =>
      { s with minPrice := minPrice, maxPrice := maxPrice, refundThreshold := refundThreshold }
  | .email emailAddress => { s with emailAddress := emailAddress }
  | .address btcAddress => { s with btcAddress := btcAddress }

/-- Each setting as the last request that mentions it has it, and as it was
if none does. -/
def Settings.afterAll (s : Settings) (requests : List Request) : Settings :=
  requests.foldl Settings.mentioned s

/-- What a request does to the settings. -/
def Settings.written (s : Settings) : Request → Settings
  | .save minPrice maxPrice refundThreshold identifier =>
      ⟨minPrice, maxPrice, refundThreshold, "", "", identifier⟩
  | request => s.mentioned request

theorem Holds.stored {preferences : Preferences} {c : BitmeshConfiguration validAddress}
    (h : Holds preferences c) (identifier : String) :
    stored preferences identifier = c.settings := by
  ext1
  · exact h.minPrice _
  · exact h.maxPrice _
  · exact h.refundThreshold _
  · exact h.emailAddress _
  · exact h.btcAddress _
  · exact h.mac _

/-! ## A server and its preferences -/

/-- The preferences hold what the server has in memory, and that is `s`. -/
structure InStep (server : TransactionServer validAddress) (s : Settings) : Prop where
  holds : Holds server.preferences server.config
  settings : server.config.settings = s

theorem inStep_saved (c : BitmeshConfiguration validAddress) (preferences : Preferences) :
    InStep ⟨c, setConfiguration c preferences⟩ c.settings :=
  ⟨holds_setConfiguration c preferences, rfl⟩

/-- A server that starts has the configuration that was stored. -/
theorem inStep_start {preferences : Preferences} {c : BitmeshConfiguration validAddress}
    (h : Holds preferences c) (identifier fallback : String) :
    InStep (.start preferences identifier fallback : TransactionServer validAddress)
      c.settings := by
  have hread := h.read identifier fallback
  constructor
  · exact holds_setConfiguration _ preferences
  · ext1
    · exact hread.minPrice
    · exact hread.maxPrice
    · exact hread.refundThreshold
    · exact hread.emailAddress
    · exact hread.btcAddress
    · exact h.read_mac identifier fallback

variable {validEmail}

/-- One request that succeeds. -/
theorem InStep.serveDashboard {server : TransactionServer validAddress} {s : Settings}
    (h : InStep server s) {request : Request} (hok : request.Succeeds validAddress validEmail) :
    InStep (server.serveDashboard validEmail request).1 (s.written request) := by
  obtain ⟨-, rfl⟩ := h
  cases request with
  | save minPrice maxPrice refundThreshold identifier => exact inStep_saved _ _
  | email emailAddress =>
    have hvalid : validEmail emailAddress = true := hok
    simp only [TransactionServer.serveDashboard, hvalid, if_true]
    exact inStep_saved _ _
  | address btcAddress =>
    have hvalid : validAddress btcAddress = true := hok
    simp only [TransactionServer.serveDashboard, hvalid, if_true,
      BitmeshConfiguration.setBtcAddressString, dite_true]
    exact inStep_saved _ _

/-- Any number of them. -/
theorem InStep.serveAll {server : TransactionServer validAddress} {s : Settings}
    (h : InStep server s) {requests : List Request}
    (hok : ∀ request ∈ requests, request.Succeeds validAddress validEmail) :
    InStep (server.serveAll validEmail requests) (requests.foldl Settings.written s) := by
  induction requests generalizing server s with
  | nil => exact h
  | cons request requests ih =>
    have hfirst := h.serveDashboard (hok request (by simp))
    exact ih hfirst fun r hr => hok r (by simp [hr])

/-! ## What a `/save` forgets -/

def Request.IsSave : Request → Prop
  | .save .. => True
  | _ => False

/-- After the last `/save` there is nothing but what a request mentions. -/
theorem foldl_written_of_no_save {requests : List Request}
    (h : ∀ request ∈ requests, ¬ request.IsSave) (s : Settings) :
    requests.foldl Settings.written s = s.afterAll requests := by
  induction requests generalizing s with
  | nil => rfl
  | cons request requests ih =>
    have hrest := ih fun r hr => h r (by simp [hr])
    have hfirst := h request (by simp)
    cases request with
    | save => exact absurd trivial hfirst
    | email => exact hrest _
    | address => exact hrest _

/-- The requests up to the last `/save` and those after it. -/
theorem exists_last_save (requests : List Request) :
    (∀ request ∈ requests, ¬ request.IsSave) ∨
      ∃ earlier minPrice maxPrice refundThreshold identifier later,
        requests = earlier ++ .save minPrice maxPrice refundThreshold identifier :: later ∧
          ∀ request ∈ later, ¬ request.IsSave := by
  induction requests with
  | nil => simp
  | cons request requests ih =>
    obtain hnone | ⟨earlier, minPrice, maxPrice, threshold, identifier, later, rfl, hlater⟩ := ih
    · cases request with
      | save minPrice maxPrice threshold identifier =>
        exact .inr ⟨[], minPrice, maxPrice, threshold, identifier, requests, rfl, hnone⟩
      | email emailAddress => exact .inl (by simpa [Request.IsSave] using hnone)
      | address btcAddress => exact .inl (by simpa [Request.IsSave] using hnone)
    · exact .inr ⟨request :: earlier, minPrice, maxPrice, threshold, identifier, later,
        rfl, hlater⟩

/-- Two servers that differ come to the same settings if each setting in
which they differ is set again. -/
theorem afterAll_eq_iff {requests : List Request}
    (h : ∀ request ∈ requests, ¬ request.IsSave) {s t : Settings}
    (hmin : s.minPrice = t.minPrice) (hmax : s.maxPrice = t.maxPrice)
    (hthreshold : s.refundThreshold = t.refundThreshold) :
    s.afterAll requests = t.afterAll requests ↔
      ((∃ emailAddress, .email emailAddress ∈ requests) ∨ s.emailAddress = t.emailAddress) ∧
      ((∃ btcAddress, .address btcAddress ∈ requests) ∨ s.btcAddress = t.btcAddress) ∧
      s.mac = t.mac := by
  induction requests generalizing s t with
  | nil => simp [Settings.afterAll, Settings.ext_iff, hmin, hmax, hthreshold]
  | cons request requests ih =>
    have hrest := fun r (hr : r ∈ requests) => h r (by simp [hr])
    have hfirst := h request (by simp)
    cases request with
    | save => exact absurd trivial hfirst
    | email emailAddress =>
      have hiff := ih hrest (s := s.mentioned (.email emailAddress))
        (t := t.mentioned (.email emailAddress)) hmin hmax hthreshold
      simpa [Settings.mentioned, Settings.afterAll] using hiff
    | address btcAddress =>
      have hiff := ih hrest (s := s.mentioned (.address btcAddress))
        (t := t.mentioned (.address btcAddress)) hmin hmax hthreshold
      simpa [Settings.mentioned, Settings.afterAll] using hiff

/-- Nothing was lost to the last `/save`: each address was empty before it or
is set after it, and the identifier that it generated is the old one. -/
def SaveForgetsNothing (initial : Settings) (requests : List Request) : Prop :=
  ∀ earlier minPrice maxPrice refundThreshold identifier later,
    requests = earlier ++ .save minPrice maxPrice refundThreshold identifier :: later →
    (∀ request ∈ later, ¬ request.IsSave) →
    ((∃ emailAddress, .email emailAddress ∈ later) ∨
        (initial.afterAll earlier).emailAddress = "") ∧
      ((∃ btcAddress, .address btcAddress ∈ later) ∨
        (initial.afterAll earlier).btcAddress = "") ∧
      initial.mac = identifier

/-- No request mentions the identifier. -/
theorem afterAll_mac (s : Settings) (requests : List Request) :
    (s.afterAll requests).mac = s.mac := by
  induction requests generalizing s with
  | nil => rfl
  | cons request requests ih =>
    have hrest := ih (s.mentioned request)
    have hfirst : (s.mentioned request).mac = s.mac := by cases request <;> rfl
    exact hrest.trans hfirst

/-- The same, at one `/save` that is the last. -/
theorem written_eq_afterAll_iff (initial : Settings) {earlier later : List Request}
    (minPrice maxPrice refundThreshold : Int64) (identifier : String)
    (hlater : ∀ request ∈ later, ¬ request.IsSave) :
    (earlier ++ .save minPrice maxPrice refundThreshold identifier :: later).foldl
        Settings.written initial
        = initial.afterAll
            (earlier ++ .save minPrice maxPrice refundThreshold identifier :: later) ↔
      ((∃ emailAddress, .email emailAddress ∈ later) ∨
          (initial.afterAll earlier).emailAddress = "") ∧
        ((∃ btcAddress, .address btcAddress ∈ later) ∨
          (initial.afterAll earlier).btcAddress = "") ∧
        initial.mac = identifier := by
  let save : Request := .save minPrice maxPrice refundThreshold identifier
  let saved : Settings := ⟨minPrice, maxPrice, refundThreshold, "", "", identifier⟩
  have hexpected : initial.afterAll (earlier ++ save :: later)
      = ((initial.afterAll earlier).mentioned save).afterAll later := by
    rw [Settings.afterAll, List.foldl_append, List.foldl_cons]
    rfl
  have hwritten : (earlier ++ save :: later).foldl Settings.written initial
      = saved.afterAll later := by
    rw [List.foldl_append, List.foldl_cons]
    exact foldl_written_of_no_save hlater saved
  have hmac : ((initial.afterAll earlier).mentioned save).mac = initial.mac :=
    afterAll_mac initial earlier
  rw [hexpected, hwritten, eq_comm, ← hmac]
  exact afterAll_eq_iff hlater rfl rfl rfl

/-- However many requests succeed, every setting is as the last request that
mentions it left it, or as it was stored at first, exactly if the last
`/save` forgot nothing. -/
theorem settings_kept_iff (c : BitmeshConfiguration validAddress) (preferences : Preferences)
    (identifier fallback default : String) {requests : List Request}
    (hok : ∀ request ∈ requests, request.Succeeds validAddress validEmail) :
    stored ((TransactionServer.start (setConfiguration c preferences) identifier fallback
        : TransactionServer validAddress).serveAll validEmail requests).preferences default
        = c.settings.afterAll requests ↔
      SaveForgetsNothing c.settings requests := by
  have hstart := inStep_start (holds_setConfiguration c preferences) identifier fallback
  have hrun := hstart.serveAll hok
  rw [hrun.holds.stored default, hrun.settings]
  constructor
  · intro heq earlier minPrice maxPrice threshold identifier later hsplit hlater
    rw [hsplit] at heq
    exact (written_eq_afterAll_iff _ minPrice maxPrice threshold identifier hlater).mp heq
  · intro hforgets
    obtain hnone | ⟨earlier, minPrice, maxPrice, threshold, identifier, later, hsplit, hlater⟩ :=
      exists_last_save requests
    · exact foldl_written_of_no_save hnone _
    · have hcond := hforgets earlier minPrice maxPrice threshold identifier later hsplit hlater
      rw [hsplit]
      exact (written_eq_afterAll_iff _ minPrice maxPrice threshold identifier hlater).mpr hcond

/-- A vendor gives an e-mail address and then saves prices, on a machine
whose hardware address can be read. -/
theorem save_forgets_email :
    let c : BitmeshConfiguration fun _ => false := .new .timeUnit 100 100 "00-00-00-00-00-00"
    let server : TransactionServer fun _ => false :=
      .start (setConfiguration c .empty) "00-00-00-00-00-00" "00-00-00-00-00-00"
    let requests : List Request :=
      [.email "vendor@bitmesh.network", .save 50 100 10000 "00-00-00-00-00-00"]
    (∀ request ∈ requests, request.Succeeds (fun _ => false) fun _ => true) ∧
      (stored (server.serveAll (fun _ => true) requests).preferences "").emailAddress = "" ∧
      (c.settings.afterAll requests).emailAddress = "vendor@bitmesh.network" := by
  intro c server requests
  have hok : ∀ request ∈ requests, request.Succeeds (fun _ => false) fun _ => true := by
    simp [requests, Request.Succeeds]
  have hrun := (inStep_start (holds_setConfiguration c .empty) "00-00-00-00-00-00"
    "00-00-00-00-00-00").serveAll hok
  have hstored := hrun.holds.stored ""
  rw [hrun.settings] at hstored
  exact ⟨hok, congrArg Settings.emailAddress hstored, rfl⟩

/-- A vendor saves prices first, on the same machine, and loses nothing. -/
theorem email_after_save_kept :
    let c : BitmeshConfiguration fun _ => false := .new .timeUnit 100 100 "00-00-00-00-00-00"
    let server : TransactionServer fun _ => false :=
      .start (setConfiguration c .empty) "00-00-00-00-00-00" "00-00-00-00-00-00"
    let requests : List Request :=
      [.save 50 100 10000 "00-00-00-00-00-00", .email "vendor@bitmesh.network"]
    stored (server.serveAll (fun _ => true) requests).preferences ""
      = ⟨50, 100, 10000, "vendor@bitmesh.network", "", "00-00-00-00-00-00"⟩ := by
  intro c server requests
  have hok : ∀ request ∈ requests, request.Succeeds (fun _ => false) fun _ => true := by
    simp [requests, Request.Succeeds]
  apply (settings_kept_iff c .empty "00-00-00-00-00-00" "00-00-00-00-00-00" "" hok).mpr
  intro earlier minPrice maxPrice threshold identifier later hsplit _
  -- There is one request before an e-mail, so it is the `/save`.
  cases earlier with
  | nil =>
    obtain ⟨hsave, rfl⟩ := List.cons.inj hsplit
    cases hsave
    exact ⟨.inl ⟨_, List.mem_singleton.mpr rfl⟩, .inr rfl, rfl⟩
  | cons first earlier =>
    have hrest := (List.cons.inj hsplit).2
    have hlast : .save minPrice maxPrice threshold identifier
        ∈ [Request.email "vendor@bitmesh.network"] := by
      rw [hrest]
      exact List.mem_append_right earlier (List.mem_cons_self ..)
    simp at hlast

end BitMesh.Configuration
