import BitMesh.Channels.Funding
import BitMesh.Server.Configuration
import BitMesh.Statistics.Records

/-!
# Cashing out

`FundingListener.onCoinsReceived` as a whole: the loop that credits the
connections, and then the attempt to send the wallet's balance, less 1000
satoshis, to the vendor when the balance is above the refund threshold. The
record of an attempt that succeeded takes its quantity from the balance
that is left, and the record of one that failed is never stored.

The wallet is a parameter: what `sendCoins` does with an amount. The
database stores what it is given.
-/

namespace BitMesh.Server.FundingListener

open BitMesh.Bitcoin BitMesh.Configuration BitMesh.Lib BitMesh.Statistics

/-- The wallet, as far as its balance goes. A balance is a sum of outputs. -/
structure Wallet where
  balance : Coin
  nonneg : 0 ≤ balance.value

/-- What the listener reads and writes. -/
structure State where
  channels : Channels.World
  wallet : Wallet
  /-- The table of `VendorCashOut`, and the next generated id. -/
  cashOuts : List VendorCashOut
  cashOutId : Int

inductive SendOutcome where
  | sent (txId : String) (wallet : Wallet)
  | threw (e : JavaException)

/-- `Wallet.sendCoins`, to an address that is not null. -/
abbrev SendCoins := Wallet → String → Coin → SendOutcome

/-- Coins that are sent leave the wallet. -/
def Reduces (send : SendCoins) : Prop :=
  ∀ wallet address amount txId wallet', send wallet address amount = .sent txId wallet' →
    wallet'.balance.value ≤ wallet.balance.value - amount.value

abbrev Listener := EStateM JavaException State

section
variable {validAddress : String → Bool} (config : BitmeshConfiguration validAddress)
variable (send : SendCoins) (now : Int)

/-- `sendCoins`; the destination's network is read first, so a null address
throws. -/
def sendCoins (address : Option String) (amount : Coin) : Listener String := do
  let address ← nonNull address
  match send (← get).wallet address amount with
  | .sent txId wallet =>
      modify fun w => { w with wallet := wallet }
      return txId
  | .threw e => throw e

/-- `PersistenceHelper.addVendorCashOut`. -/
def addVendorCashOut (cashOut : VendorCashOut) : Listener Unit :=
  modify fun w => { w with
    cashOuts := w.cashOuts ++ [{ cashOut with cashOutId := w.cashOutId }]
    cashOutId := w.cashOutId + 1 }

/-- The record of a cash-out that succeeded. -/
def succeeded (txId : String) (balance : Coin) : VendorCashOut where
  cashOutId := 0
  txId := some txId
  quantity := balance.value - 1000
  date := some now
  success := true
  reason := none

/-- The record of a cash-out that there was not enough money for. -/
def failed (balance : Coin) : VendorCashOut where
  cashOutId := 0
  txId := none
  quantity := balance.value - 1000
  date := some now
  success := false
  reason := some ("Not enough money to make a refund send, balance: "
    ++ toString balance.value)

/-- The block under the threshold test. It answers the value of the local
`cashOut`, which nothing reads. -/
def cashOut : Listener (Option VendorCashOut) :=
  tryCatch (do
    let tempBalance := (← get).wallet.balance.value - 1000
    let amount ← orThrow (Coin.valueOf tempBalance)
    let txId ← sendCoins send config.getBtcAddress amount
    let cashOut := succeeded now txId (← get).wallet.balance
    addVendorCashOut cashOut
    return some cashOut)
  fun e => do
    match e.cls with
    | .insufficientMoney => return some (failed now (← get).wallet.balance)
    | .nullPointer => return none
    | _ => throw e

variable (p : Channels.Platform) (env : Channels.Env)

/-- The crediting loop, which works on the connections. -/
def credit (walletOutputs : List TransactionOutput) (tx : Transaction) : Listener Unit := do
  match (Channels.onCoinsReceived p env walletOutputs tx).run (← get).channels with
  | .ok _ channels => modify fun w => { w with channels := channels }
  | .error e channels =>
      modify fun w => { w with channels := channels }
      throw e

/-- `onCoinsReceived`. -/
def onCoinsReceived (walletOutputs : List TransactionOutput) (tx : Transaction) :
    Listener Unit := do
  credit p env walletOutputs tx
  if config.refundThreshold.toInt < (← get).wallet.balance.value then
    let _ ← cashOut config send now

end

/-! ## What is stored -/

/-- The amount that a cash-out asks for. -/
def Wallet.refund (wallet : Wallet) : Coin where
  value := wallet.balance.value - 1000
  inRange := by
    have hmax := wallet.balance.inRange.2
    have hmin := wallet.nonneg
    unfold maxSatoshis at hmax ⊢
    omega

theorem Wallet.valueOf_refund (wallet : Wallet) :
    Coin.valueOf (wallet.balance.value - 1000) = .ok wallet.refund :=
  Coin.valueOf_value wallet.refund

/-- One record was stored, and it tells what became of the attempt. -/
def Recorded (w t : State) : SendOutcome → Prop
  | .sent txId _ => ∃ record, t.cashOuts = w.cashOuts ++ [record] ∧
      record.txId = some txId ∧ record.success = true ∧
      record.quantity = w.wallet.refund.value
  | .threw _ => ∃ record, t.cashOuts = w.cashOuts ++ [record] ∧
      record.success = false ∧ record.reason.isSome = true

section
variable {validAddress : String → Bool} {config : BitmeshConfiguration validAddress}
variable {send : SendCoins} {now : Int} {address : String} {w : State}

section
variable {Q : Option VendorCashOut → State → Prop} {E : JavaException → State → Prop}
variable (haddress : config.getBtcAddress = some address)
include haddress

/-- A send that succeeds: the quantity is read off the balance that is
left. -/
theorem wp_cashOut_sent {txId : String} {wallet : Wallet}
    (hsent : send w.wallet address w.wallet.refund = .sent txId wallet) :
    wp (cashOut config send now) w Q E ↔
      Q (some (succeeded now txId wallet.balance))
        { w with
          wallet := wallet
          cashOuts := w.cashOuts ++
            [{ succeeded now txId wallet.balance with cashOutId := w.cashOutId }]
          cashOutId := w.cashOutId + 1 } := by
  unfold cashOut sendCoins addVendorCashOut
  rw [wp_tryCatch, wp_bind, wp_get, wp_bind, wp_orThrow_ok w.wallet.valueOf_refund, wp_bind,
    wp_bind, wp_nonNull_some haddress, wp_bind, wp_get, hsent]
  simp only [wp_bind, wp_modify, wp_get, wp_pure]

/-- A send that fails for want of money: nothing is stored. -/
theorem wp_cashOut_insufficientMoney {e : JavaException}
    (hthrew : send w.wallet address w.wallet.refund = .threw e)
    (he : e.cls = .insufficientMoney) :
    wp (cashOut config send now) w Q E ↔ Q (some (failed now w.wallet.balance)) w := by
  unfold cashOut sendCoins
  rw [wp_tryCatch, wp_bind, wp_get, wp_bind, wp_orThrow_ok w.wallet.valueOf_refund, wp_bind,
    wp_bind, wp_nonNull_some haddress, wp_bind, wp_get, hthrew, wp_throw, he]
  simp only [wp_bind, wp_get, wp_pure]

end

/-- Once the connections are credited, only the attempt is left. -/
theorem wp_onCoinsReceived {p : Channels.Platform} {env : Channels.Env}
    {walletOutputs : List TransactionOutput} {tx : Transaction} {channels : Channels.World}
    {Q : Unit → State → Prop} {E : JavaException → State → Prop}
    (hcredited :
      (Channels.onCoinsReceived p env walletOutputs tx).run w.channels = .ok () channels)
    (habove : config.refundThreshold.toInt < w.wallet.balance.value) :
    wp (onCoinsReceived config send now p env walletOutputs tx) w Q E ↔
      wp (cashOut config send now) { w with channels := channels } (fun _ t => Q () t) E := by
  unfold onCoinsReceived credit
  rw [wp_bind, wp_bind, wp_get, hcredited]
  simp only [wp_modify, wp_bind, wp_get]
  rw [if_pos habove, wp_bind]
  simp only [wp_pure]

/-- An attempt to cash out is recorded as it went exactly if nothing left
the wallet, which takes a balance of at most 1000 satoshis; an attempt that
fails for want of money is not recorded at all. -/
theorem cash_out_recorded_iff (hsend : Reduces send) (now : Int) (p : Channels.Platform)
    (env : Channels.Env) (walletOutputs : List TransactionOutput) (tx : Transaction)
    {channels : Channels.World}
    (hcredited :
      (Channels.onCoinsReceived p env walletOutputs tx).run w.channels = .ok () channels)
    (habove : config.refundThreshold.toInt < w.wallet.balance.value)
    (haddress : config.getBtcAddress = some address)
    (houtcome : ∀ e, send w.wallet address w.wallet.refund = .threw e →
      e.cls = .insufficientMoney) :
    wp (onCoinsReceived config send now p env walletOutputs tx) w
        (fun _ t => Recorded w t (send w.wallet address w.wallet.refund)) (fun _ _ => False) ↔
      w.wallet.balance.value ≤ 1000 ∧
        ∃ txId wallet, send w.wallet address w.wallet.refund = .sent txId wallet ∧
          wallet.balance.value = w.wallet.balance.value := by
  rw [wp_onCoinsReceived hcredited habove]
  cases hsent : send w.wallet address w.wallet.refund with
  | sent txId wallet =>
    have hleft : wallet.balance.value ≤ w.wallet.balance.value - w.wallet.refund.value :=
      hsend _ _ _ _ _ hsent
    have hrefund : w.wallet.refund.value = w.wallet.balance.value - 1000 := rfl
    rw [wp_cashOut_sent (w := { w with channels := channels }) haddress hsent]
    constructor
    · rintro ⟨record, hrecord, -, -, hquantity⟩
      -- the one record there is has the balance that was left, less 1000
      obtain rfl := List.singleton_inj.mp (List.append_cancel_left hrecord)
      have hsame : wallet.balance.value - 1000 = w.wallet.refund.value := hquantity
      exact ⟨by omega, txId, wallet, rfl, by omega⟩
    · rintro ⟨-, txId', wallet', heq, hsame⟩
      cases heq
      refine ⟨_, rfl, rfl, rfl, ?_⟩
      show wallet.balance.value - 1000 = w.wallet.refund.value
      omega
  | threw e =>
    rw [wp_cashOut_insufficientMoney (w := { w with channels := channels }) haddress hsent
      (houtcome e hsent)]
    constructor
    · rintro ⟨record, hrecord, -⟩
      -- the table is what it was
      have hlength := congrArg List.length hrecord
      simp at hlength
    · rintro ⟨-, txId, wallet, heq, -⟩
      cases heq

end

/-! ## A vendor with 50000 satoshis -/

namespace Vendor

def address : String := "n3VLc94EyRue5ponkpeirV8dLgbEbothbY"

/-- A threshold of 10000 satoshis and an address. -/
def config : BitmeshConfiguration fun _ => true :=
  (BitmeshConfiguration.new .timeUnit 100 100 "00-00-00-00-00-00")
    |>.setRefundThreshold 10000
    |>.setBtcAddressString address

def state : State where
  channels := Channels.World.initial false
  wallet := ⟨⟨50000, by decide⟩, by decide⟩
  cashOuts := []
  cashOutId := 1

/-- A wallet that sends what it can, and pays the rest to the miners. -/
def sendAll : SendCoins := fun wallet _ amount =>
  if amount.value ≤ wallet.balance.value then .sent "txid" ⟨.zero, le_rfl⟩
  else .threw ⟨.insufficientMoney, none⟩

theorem reduces_sendAll : Reduces sendAll := by
  intro wallet address amount txId wallet' h
  unfold sendAll at h
  split at h
  · cases h
    exact Int.sub_nonneg_of_le ‹_›
  · cases h

end Vendor

open Vendor in
/-- 49000 satoshis are sent and -1000 recorded; a wallet that cannot pay the
fee records nothing. -/
theorem cash_out_misrecorded :
    wp (onCoinsReceived config sendAll 0 Channels.Client.platform Channels.Client.env []
        ⟨1, [], [], 0⟩) state
      (fun _ t => state.wallet.refund.value = 49000 ∧
        t.cashOuts.map (·.txId) = [some "txid"] ∧ t.cashOuts.map (·.quantity) = [-1000])
      (fun _ _ => False) ∧
    wp (onCoinsReceived config (fun _ _ _ => .threw ⟨.insufficientMoney, none⟩) 0
        Channels.Client.platform Channels.Client.env [] ⟨1, [], [], 0⟩) state
      (fun _ t => t.cashOuts = []) (fun _ _ => False) := by
  decide +kernel

open Vendor in
/-- The vendor's cash-out is not recorded as it went. -/
theorem cash_out_recorded_never_above_1000 :
    ¬ wp (onCoinsReceived config sendAll 0 Channels.Client.platform Channels.Client.env []
        ⟨1, [], [], 0⟩) state
      (fun _ t => Recorded state t (sendAll state.wallet address state.wallet.refund))
      (fun _ _ => False) := by
  have haddress : config.getBtcAddress = some address := by decide
  have houtcome : ∀ e, sendAll state.wallet address state.wallet.refund = .threw e →
      e.cls = .insufficientMoney := by
    intro e he
    cases he
  intro hrecorded
  have hsmall := ((cash_out_recorded_iff reduces_sendAll 0 Channels.Client.platform
    Channels.Client.env [] ⟨1, [], [], 0⟩ rfl (by decide) haddress houtcome).mp hrecorded).1
  exact absurd hsmall (by decide)

end BitMesh.Server.FundingListener
