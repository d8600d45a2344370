import BitMesh.Channels.RefundTimes
import BitMesh.Lib.Javascript
import BitMesh.WebClient.Consumer

/-!
# The lock time of a browser's refund

The server says in INITIATE when the channel expires, and signs no refund
that unlocks earlier. The browser hands that time to its `Consumer`, which
keeps it, but `setupRefund` locks the refund for a day from the browser's
own clock. The day is a minute longer than the window that CLIENT_VERSION
asks for by default, so the refund is good as long as the browser's clock
is not more than about a minute behind.
-/

namespace BitMesh.Channels

open BitMesh.Bitcoin BitMesh.Lib

variable {p : Platform} {env : Env} {w : World} {c : ConnRef}

/-! ## The time that the server keeps to -/

/-- The offer to a micropayment browser sets when the channel expires, and
nothing after that sets it again. -/
theorem offerChannel_expireTime {version : ClientVersion}
    (hminor : version.minor = browserMicropaymentsMinorVersion) :
    wp (offerChannel p env c version) w
      (fun _ t => (t.servers.read c).expireTime =
        addLong env.now ((w.servers.read c).window.truncate version.timeWindowSecs))
      (fun _ _ => True) := by
  have happ : version.minor ≠ appMinorVersion := by rw [hminor]; decide
  unfold offerChannel setExpireTime
  simp only [if_neg happ, if_pos hminor, wp_bind, wp_modifyServer, wp_note, wp_readServer,
    wp_nonNull, sendToClient, wp_checkState, setStep]
  refine ⟨fun client _ => ⟨fun _ => ?_, fun _ => trivial⟩, fun _ => trivial⟩
  simp

/-- A CLIENT_VERSION of a micropayment browser that asks for a new channel. -/
theorem receiveVersionMessage_expireTime {msg : TwoWayChannelMessage} {version : ClientVersion}
    (hversion : msg.clientVersion = some version) (hmajor : version.major = serverMajorVersion)
    (hminor : version.minor = browserMicropaymentsMinorVersion)
    (hnew : resumedChannel w version = none) :
    wp (receiveVersionMessage p env c msg) w
      (fun _ t => (t.servers.read c).expireTime =
        addLong env.now ((w.servers.read c).window.truncate version.timeWindowSecs))
      (fun _ _ => True) := by
  let answered : World := { w with
    servers := w.servers.modify c fun sv => { sv with clientVersion := some version }
    trace := .sent c (.serverVersion serverMajorVersion serverMinorVersion) :: w.trace }
  have hanswered : resumedChannel answered version = none := hnew
  unfold receiveVersionMessage
  simp only [wp_bind, wp_readServer, wp_checkState, wp_nonNull_some hversion, wp_modifyServer,
    hmajor, ne_eq, not_true_eq_false, if_false, sendToClient, wp_note, wp_get]
  refine ⟨fun _ => ⟨fun _ => ?_, fun _ => trivial⟩, fun _ => trivial⟩
  rw [hanswered]
  apply (offerChannel_expireTime hminor).mono
  · intro _ t ht
    rw [ht]
    simp
  · exact fun _ _ _ => trivial

/-- Only a message with a client's version sets the time again. -/
theorem Path.expireTime {start : World} {a : Env × Action} {w' : World}
    (hpath : Path p start a w w') (hc : c < w.servers.next)
    (ha : ∀ msg, a.2 = .input (.message c msg) → msg.clientVersion = none) :
    (w'.servers.read c).expireTime = (w.servers.read c).expireTime ∧ c < w'.servers.next := by
  induction hpath with
  | refl => exact ⟨rfl, hc⟩
  | tail _ he ih =>
    refine ⟨?_, lt_of_lt_of_le ih.2 he.serversNext_le⟩
    rcases he.expireTime ih.2 with hsame | ⟨msg, version, now, hmsg, hversion, -⟩
    · exact hsame.trans ih.1
    · cases (ha msg hmsg).symm.trans hversion

/-- The time stays as CLIENT_VERSION set it while the connection sends no
other. -/
theorem expireTime_run (hw : Allocated w) (hc : c < w.servers.next) {is : List (Env × Input)}
    (his : ∀ i ∈ is, ∀ msg, i.2 = .message c msg → msg.clientVersion = none) :
    ((w.run p is).servers.read c).expireTime = (w.servers.read c).expireTime := by
  induction is generalizing w with
  | nil => rfl
  | cons i is ih =>
    have hpath : Path p w (i.1, .input i.2) w (w.next p i) := (perform_follows i.2 hw).finalState
    have hkept := Path.expireTime hpath hc fun msg hmsg =>
      his i (by simp) msg (Action.input.inj hmsg)
    have hrest := ih (Path.allocated hpath hw) hkept.2 fun j hj => his j (by simp [hj])
    exact hrest.trans hkept.1

/-- INITIATE says the time. -/
theorem sendInitiate_expireTime :
    wp (sendInitiate p c) w
      (fun _ t => .sent c (.initiate (w.servers.read c).expireTime
        (w.servers.read c).minAcceptedChannelSize.value
        Coin.referenceDefaultMinTxFee.value) ∈ t.trace)
      (fun _ _ => True) := by
  simp only [sendInitiate, sendToClient, setStep, wp_bind, wp_readServer, wp_checkState, wp_note,
    wp_modifyServer]
  exact ⟨fun _ => by simp, fun _ => trivial⟩

/-- What `provideRefundTransaction` says to a refund that unlocks early. -/
def lockTimeTooSoon : JavaException := .verification "Refund transaction has a lock time too soon"

/-- A refund that comes as far as the test of its lock time. -/
structure Refunds (p : Platform) (refundTx : Transaction) : Prop where
  verifies : refundTx.verify p.toBitcoinj = .ok ()
  input : ∃ input, refundTx.inputs = [input] ∧ input.sequence = 0

theorem Refunds.checkRefund_tooSoon_iff {refundTx : Transaction} (h : Refunds p refundTx)
    (minExpireTime : Int) :
    checkRefund p minExpireTime refundTx = .error lockTimeTooSoon ↔
      (refundTx.lockTime.toNat : Int) < minExpireTime := by
  obtain ⟨input, hinputs, hsequence⟩ := h.input
  unfold checkRefund
  rw [h.verifies, hinputs]
  by_cases hsoon : (refundTx.lockTime.toNat : Int) < minExpireTime
  · simp [hsequence, hsoon, lockTimeTooSoon, bind, Except.bind, throw, throwThe,
      MonadExceptOf.throw]
  · simp only [hsequence, hsoon, bind, Except.bind, throw, throwThe, MonadExceptOf.throw,
      ne_eq, not_true_eq_false, if_false, iff_false]
    split
    · simp [pure, Except.pure]
    · simp [lockTimeTooSoon, JavaException.verification]

end BitMesh.Channels

namespace BitMesh.WebClient

open BitMesh.Channels BitMesh.Lib

/-! ## The time that the browser locks for -/

namespace Consumer

/-- `ONE_DAY`, in seconds. -/
def oneDay : Int := 60 * 60 * 24

/-- `refundTx.nLockTime` of the refund that `setupRefund` builds when the
browser's clock shows `millis`. The line that took the expiry of INITIATE
is commented out there. -/
def nLockTime (millis : Int) : Int := Javascript.round ((millis : ℚ) / 1000) + oneDay

theorem nLockTime_eq (millis : Int) : nLockTime millis = (millis + 500) / 1000 + 86400 := by
  have hround := Javascript.round_div millis (k := 500) (by decide)
  rw [nLockTime, oneDay]
  norm_num at hround ⊢
  exact hround

end Consumer

/-- A CLIENT_VERSION with the default window, which the server's own limits
let through, was processed when the server's clock showed `serverMillis`,
and the refund is built `duration` later on a clock that is `offset` ahead. It is locked until the channel expires, so
that the server does not refuse it for that, exactly if the browser's clock
then rounds to no more than a minute less than the server's had shown. -/
theorem refund_locked_iff {p : Platform} {autosave : Bool} {w₀ w₁ : World}
    (h : Reached p (fun _ _ => True) autosave w₀) {env : Env} {c : ConnRef}
    {msg : TwoWayChannelMessage} {version : ClientVersion} (hc : c < w₀.servers.next)
    (hopen : (w₀.servers.read c).connectionOpen = true)
    (hdefault : (w₀.servers.read c).window.truncate 86340 = 86340)
    (htype : msg.type = .clientVersion) (hversion : msg.clientVersion = some version)
    (hmajor : version.major = serverMajorVersion)
    (hminor : version.minor = browserMicropaymentsMinorVersion)
    (hwindow : version.timeWindowSecs = 86340) (hnew : resumedChannel w₀ version = none)
    (hprocessed : (receiveVersionMessage p env c msg).run w₀ = .ok () w₁)
    (serverMillis : Int64) (hnow : env.now = serverMillis.toInt.tdiv 1000)
    (since : List (Env × Channels.Input))
    (hsince : ∀ i ∈ since, ∀ msg, i.2 = .message c msg → msg.clientVersion = none)
    (duration : Nat) (offset : Int) :
    let w := w₁.run p since
    let lockTime := Consumer.nLockTime (serverMillis.toInt + duration + offset)
    ((w.servers.read c).expireTime ≤ lockTime ∧
      ∀ refundTx, Refunds p refundTx → (refundTx.lockTime.toNat : Int) = lockTime →
        checkRefund p (w.servers.read c).expireTime refundTx ≠ .error lockTimeTooSoon) ↔
      serverMillis.toInt.tdiv 1000 ≤ (serverMillis.toInt + duration + offset + 500) / 1000 + 60 := by
  intro w lockTime
  have hallocated := Passed.allocated (Reached.passed h)
  have hpath : Path p w₀ (env, .input (.message c msg)) w₀ w₁ :=
    (receiveVersionMessage_follows w₀ c msg rfl rfl htype hc hopen).of_run_eq_ok hprocessed
  have hserver : c < w₁.servers.next := lt_of_lt_of_le hc (Path.serversNext_le hpath)
  have hset : (w₁.servers.read c).expireTime = serverMillis.toInt.tdiv 1000 + 86340 := by
    have hoffered := (receiveVersionMessage_expireTime hversion hmajor hminor hnew).of_run_eq_ok
      hprocessed
    have hmax := serverMillis.toInt_lt
    have hmin := serverMillis.le_toInt
    have hdivided := Int.mul_tdiv_add_tmod serverMillis.toInt 1000
    have hbelow := Int.tmod_lt_of_pos serverMillis.toInt (b := 1000) (by decide)
    have habove := Int.lt_tmod_of_pos serverMillis.toInt (b := 1000) (by decide)
    rw [hoffered, hwindow, hdefault, hnow]
    exact addLong_eq (by omega) (by omega)
  have hkept : (w.servers.read c).expireTime = serverMillis.toInt.tdiv 1000 + 86340 :=
    (expireTime_run (Path.allocated hpath hallocated) hserver hsince).trans hset
  have hlock : lockTime = (serverMillis.toInt + duration + offset + 500) / 1000 + 86400 :=
    Consumer.nLockTime_eq _
  rw [hkept]
  constructor
  · rintro ⟨hle, -⟩
    omega
  · intro hclock
    refine ⟨by omega, fun refundTx hrefund htime htoo => ?_⟩
    have hsoon := (hrefund.checkRefund_tooSoon_iff _).mp htoo
    omega

example : TimeWindow.default.truncate 86340 = 86340 := by decide

/-- CLIENT_VERSION of a micropayment browser. -/
def browserVersion : TwoWayChannelMessage where
  type := .clientVersion
  clientVersion := some {
    major := serverMajorVersion
    minor := browserMicropaymentsMinorVersion }

/-- A refund with this lock time. -/
def refundLockedUntil (lockTime : UInt32) : Bitcoin.Transaction where
  version := 1
  inputs := [⟨⟨⟨[1]⟩, 0⟩, ⟨[]⟩, 0⟩]
  outputs := [⟨90000, ⟨[1]⟩⟩]
  lockTime := lockTime

/-- Two minutes behind, the browser locks its refund for 59 seconds less
than the server wants, and is refused. -/
theorem refund_refused_two_minutes_behind :
    let w := Client.run (Client.connect 0 ++ [.message 0 browserVersion])
    let lockTime := Consumer.nLockTime (1209600000 + 1000 + -120000)
    (w.servers.read 0).expireTime = 1295940 ∧ lockTime = 1295881 ∧
      checkRefund Client.platform (w.servers.read 0).expireTime (refundLockedUntil 1295881)
        = .error lockTimeTooSoon := by
  intro w lockTime
  have hexpire : (w.servers.read 0).expireTime = 1295940 := by decide +kernel
  have hrefund : Refunds Client.platform (refundLockedUntil 1295881) :=
    ⟨by decide +kernel, _, rfl, rfl⟩
  have hlock : lockTime = 1295881 := (Consumer.nLockTime_eq _).trans (by decide)
  refine ⟨hexpire, hlock, ?_⟩
  rw [hexpire]
  exact (hrefund.checkRefund_tooSoon_iff 1295940).mpr (by decide)

/-- With the right time on both sides, the refund is locked for long
enough. -/
theorem refund_locked_in_step :
    ∃ w, (receiveVersionMessage Client.platform Client.env 0 browserVersion).run
        (Client.run (Client.connect 0)) = .ok () w ∧
      (w.servers.read 0).expireTime ≤ Consumer.nLockTime 1209605000 := by
  have hcompletes : wp (receiveVersionMessage Client.platform Client.env 0 browserVersion)
      (Client.run (Client.connect 0)) (fun _ _ => True) (fun _ _ => False) := by decide +kernel
  obtain ⟨_, w, hprocessed, -⟩ := hcompletes.exists_run_eq_ok
  have hreached : Reached Client.platform (fun _ _ => True) true (Client.run (Client.connect 0)) :=
    Reaches.foldl _ .start
  have hlocked := (refund_locked_iff hreached (by decide +kernel) (by decide +kernel)
    (by decide +kernel) rfl rfl rfl rfl rfl (by decide +kernel) hprocessed 1209600000 (by decide)
    [] (by simp) 5000 0).mpr (by decide)
  exact ⟨w, hprocessed, hlocked.1⟩

end BitMesh.WebClient
