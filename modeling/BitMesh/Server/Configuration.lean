import BitMesh.Bitcoin.Coin
import BitMesh.Lib.Preferences
import BitMesh.Sentry.TimeLogic

/-!
# Configurations, their copies and the preferences

`BitmeshConfiguration` with what the preferences keep of it. Three things
make a configuration out of another one: `makeCopy`, and the pair
`setConfiguration`, `getConfigFromPreferences` that goes through the
preferences. The second way is faithful. The first hands the constructor
the prices in the wrong order and leaves everything that the constructor
does not set.

Whether a text is an address of the network is a parameter. The identifier
that `generateIdentifier` returns, the hardware address or else a random
text, is an input of every call that asks for one.
-/

namespace BitMesh.Configuration

open BitMesh.Bitcoin BitMesh.Lib

/-! ## Purchase units -/

/-- A `TimeUnit` or a `DataUnit`. -/
structure PurchaseUnit where
  unitClass : Sentry.PurchaseUnit
  size : Int64
  price : Coin
  deriving DecidableEq

namespace PurchaseUnit

/-- `getClass().getName()`. -/
def className : Sentry.PurchaseUnit → String
  | .timeUnit => "network.bitmesh.Units.TimeUnit"
  | .dataUnit => "network.bitmesh.Units.DataUnit"

/-- `Class.forName` followed by `getConstructor`: these two classes have a
constructor that takes a size and a price. -/
def forName (name : String) : Option Sentry.PurchaseUnit :=
  if name = className .timeUnit then some .timeUnit
  else if name = className .dataUnit then some .dataUnit
  else none

@[simp] theorem forName_className (unitClass : Sentry.PurchaseUnit) :
    forName (className unitClass) = some unitClass := by
  cases unitClass <;> decide

def getType (unit : PurchaseUnit) : String := className unit.unitClass

/-- `DEFAULT_PRICE_PER_UNIT`. -/
def defaultPricePerUnit : Coin := ⟨100, by decide⟩

/-- `new TimeUnit()`. -/
def timeUnit : PurchaseUnit := ⟨.timeUnit, 3, defaultPricePerUnit⟩

/-- `setPrice(size, price)`. -/
def setPrice (unit : PurchaseUnit) (size : Int64) (price : Coin) : PurchaseUnit :=
  { unit with size := size, price := price }

/-- `makeCopy`, in both classes. -/
def makeCopy (unit : PurchaseUnit) : PurchaseUnit := ⟨unit.unitClass, unit.size, unit.price⟩

end PurchaseUnit

theorem coin_toInt_ofInt (price : Coin) : (Int64.ofInt price.value).toInt = price.value := by
  have hrange := price.inRange
  unfold maxSatoshis at hrange
  exact Int64.toInt_ofInt_of_le (by omega) (by omega)

/-! ## The configuration -/

def defaultEscrow : Int64 := 10000
def defaultRefundThreshold : Int64 := 10000
def defaultMaxPrice : Int64 := 100
def defaultMinPrice : Int64 := 100
/-- `Coin.valueOf(defaultMinPrice)`. -/
def defaultMinPriceCoin : Coin := ⟨100, by decide⟩
def defaultPurchaseUnit : PurchaseUnit := .timeUnit

/-- The object. Only `setBtcAddressString` writes the address, and it lets
nothing through that is not one. -/
structure BitmeshConfiguration (validAddress : String → Bool) where
  minPrice : Int64
  maxPrice : Int64
  negotiatedPrice : Int64
  escrow : Int64
  refundThreshold : Int64
  mac : String
  emailAddress : String
  btcAddress : String
  purchaseUnit : PurchaseUnit
  btcAddress_valid : btcAddress = "" ∨ validAddress btcAddress = true

variable {validAddress : String → Bool}

namespace BitmeshConfiguration

/-- The constructor, with the maximum before the minimum. -/
def new (purchaseUnit : PurchaseUnit) (maxPrice minPrice : Int64) (identifier : String) :
    BitmeshConfiguration validAddress where
  negotiatedPrice := minPrice
  purchaseUnit := purchaseUnit
  minPrice := minPrice
  maxPrice := maxPrice
  escrow := defaultEscrow
  mac := identifier
  refundThreshold := 0
  emailAddress := ""
  btcAddress := ""
  btcAddress_valid := .inl rfl

variable (c : BitmeshConfiguration validAddress)

def setRefundThreshold (refundThreshold : Int64) : BitmeshConfiguration validAddress :=
  { c with refundThreshold := refundThreshold }

def setEmailAddress (emailAddress : String) : BitmeshConfiguration validAddress :=
  { c with emailAddress := emailAddress }

def setMac (mac : String) : BitmeshConfiguration validAddress :=
  { c with mac := mac }

/-- `setBtcAddressString`. A text that is no address is logged and dropped. -/
def setBtcAddressString (btcAddress : String) : BitmeshConfiguration validAddress :=
  if h : validAddress btcAddress then
    { c with btcAddress := btcAddress, btcAddress_valid := .inr h }
  else c

/-- `getBtcAddress`: the `Address` is null until a text is accepted. -/
def getBtcAddress : Option String :=
  if c.btcAddress = "" then none else some c.btcAddress

/-- `makeCopy`, which hands the constructor the minimum first. -/
def makeCopy (identifier : String) : BitmeshConfiguration validAddress :=
  new c.purchaseUnit.makeCopy c.minPrice c.maxPrice identifier

/-! The part of the object that prices are made of is the configuration
that the meters and the quotes read. -/

def prices : Sentry.BitmeshConfiguration where
  purchaseUnit := c.purchaseUnit.unitClass
  minPrice := c.minPrice.toInt
  maxPrice := c.maxPrice.toInt
  negotiatedPrice := c.negotiatedPrice.toInt

theorem prices_new (purchaseUnit : PurchaseUnit) (maxPrice minPrice : Int64)
    (identifier : String) :
    (new purchaseUnit maxPrice minPrice identifier
      : BitmeshConfiguration validAddress).prices
      = .new purchaseUnit.unitClass maxPrice.toInt minPrice.toInt := rfl

theorem prices_makeCopy (identifier : String) :
    (c.makeCopy identifier).prices = c.prices.makeCopy := rfl

end BitmeshConfiguration

/-! ## The preferences -/

inductive ConfigConstants where
  | escrow
  | minPrice
  | maxPrice
  | purchaseType
  | macAddress
  | emailAddress
  | btcAddress
  | refundThreshold
  deriving DecidableEq, Repr

def ConfigConstants.value : ConfigConstants → String
  | escrow => "escrow"
  | minPrice => "min_price"
  | maxPrice => "max_price"
  | purchaseType => "purchase_type"
  | macAddress => "mac_address"
  | emailAddress => "email_address"
  | btcAddress => "btc_address"
  | refundThreshold => "refund_threshold"

open ConfigConstants in
/-- `setConfiguration(configuration, preferences)`, and with its arguments
the other way round `saveCurrentConfiguration`. -/
def setConfiguration (configuration : BitmeshConfiguration validAddress)
    (preferences : Preferences) : Preferences :=
  preferences
    |>.putLong escrow.value configuration.escrow
    |>.putLong minPrice.value configuration.minPrice
    |>.putLong maxPrice.value configuration.maxPrice
    |>.putLong refundThreshold.value configuration.refundThreshold
    |>.put macAddress.value configuration.mac
    |>.put emailAddress.value configuration.emailAddress
    |>.put btcAddress.value configuration.btcAddress
    |>.put purchaseType.value configuration.purchaseUnit.getType
    |>.putLong "size" configuration.purchaseUnit.size
    |>.putLong "price" (.ofInt configuration.purchaseUnit.price.value)

/-- The unit that the preferences describe, by reflection. Whatever goes
wrong there, a `TimeUnit` is the answer. -/
def purchaseUnitOf (preferences : Preferences) : PurchaseUnit :=
  let type := preferences.get ConfigConstants.purchaseType.value defaultPurchaseUnit.getType
  match PurchaseUnit.forName type, Coin.valueOf (preferences.getLong "price" 1000).toInt with
  | some unitClass, .ok price => ⟨unitClass, preferences.getLong "size" 5, price⟩
  | _, _ => PurchaseUnit.timeUnit.setPrice 5 defaultMinPriceCoin

open ConfigConstants in
/-- What `getConfigFromPreferences` reads. The constructor generates an
identifier, and so does the argument of the last `get`. The escrow that is
stored is read and dropped. -/
def readConfiguration (preferences : Preferences) (identifier fallback : String) :
    BitmeshConfiguration validAddress :=
  (BitmeshConfiguration.new (purchaseUnitOf preferences)
      (preferences.getLong maxPrice.value defaultMaxPrice)
      (preferences.getLong minPrice.value defaultMinPrice) identifier)
    |>.setRefundThreshold (preferences.getLong refundThreshold.value defaultRefundThreshold)
    |>.setEmailAddress (preferences.get emailAddress.value "")
    |>.setBtcAddressString (preferences.get btcAddress.value "")
    |>.setMac (preferences.get macAddress.value fallback)

/-- `getConfigFromPreferences`, which also writes back what it read. -/
def getConfigFromPreferences (preferences : Preferences) (identifier fallback : String) :
    BitmeshConfiguration validAddress × Preferences :=
  let configuration := readConfiguration preferences identifier fallback
  (configuration, setConfiguration configuration preferences)

/-! ## What is written is read -/

/-- The preferences hold the configuration: whatever the default, each key
reads as the configuration's value. -/
structure Holds (preferences : Preferences) (c : BitmeshConfiguration validAddress) : Prop where
  minPrice : ∀ default, preferences.getLong ConfigConstants.minPrice.value default = c.minPrice
  maxPrice : ∀ default, preferences.getLong ConfigConstants.maxPrice.value default = c.maxPrice
  refundThreshold : ∀ default,
    preferences.getLong ConfigConstants.refundThreshold.value default = c.refundThreshold
  mac : ∀ default, preferences.get ConfigConstants.macAddress.value default = c.mac
  emailAddress : ∀ default,
    preferences.get ConfigConstants.emailAddress.value default = c.emailAddress
  btcAddress : ∀ default,
    preferences.get ConfigConstants.btcAddress.value default = c.btcAddress
  purchaseType : ∀ default,
    preferences.get ConfigConstants.purchaseType.value default = c.purchaseUnit.getType
  size : ∀ default, preferences.getLong "size" default = c.purchaseUnit.size
  price : ∀ default,
    preferences.getLong "price" default = Int64.ofInt c.purchaseUnit.price.value

/-- The keys differ, so no value is written over another one. -/
theorem holds_setConfiguration (c : BitmeshConfiguration validAddress)
    (preferences : Preferences) : Holds (setConfiguration c preferences) c := by
  constructor <;> intro default <;> simp [setConfiguration, ConfigConstants.value]

variable {preferences : Preferences} {c : BitmeshConfiguration validAddress}

theorem Holds.purchaseUnit (h : Holds preferences c) :
    purchaseUnitOf preferences = c.purchaseUnit := by
  unfold purchaseUnitOf
  rw [h.purchaseType, h.price, h.size, coin_toInt_ofInt, Coin.valueOf_value]
  simp [PurchaseUnit.getType]

theorem setBtcAddressString_empty {d : BitmeshConfiguration validAddress}
    (hd : d.btcAddress = "") {btcAddress : String}
    (hvalid : btcAddress = "" ∨ validAddress btcAddress = true) :
    (d.setBtcAddressString btcAddress).btcAddress = btcAddress := by
  unfold BitmeshConfiguration.setBtcAddressString
  split
  · rfl
  · next h =>
    -- The text was dropped, so it is the empty one, and so is the field.
    cases hvalid with
    | inl hempty => rw [hd, hempty]
    | inr hok => exact absurd hok h

/-- The settings that a copy of a configuration is to share with it. -/
structure SameSettings (c d : BitmeshConfiguration validAddress) : Prop where
  minPrice : d.minPrice = c.minPrice
  maxPrice : d.maxPrice = c.maxPrice
  refundThreshold : d.refundThreshold = c.refundThreshold
  emailAddress : d.emailAddress = c.emailAddress
  btcAddress : d.btcAddress = c.btcAddress
  purchaseUnit : d.purchaseUnit = c.purchaseUnit

theorem Holds.read_mac (h : Holds preferences c) (identifier fallback : String) :
    (readConfiguration preferences identifier fallback
      : BitmeshConfiguration validAddress).mac = c.mac := by
  show preferences.get ConfigConstants.macAddress.value fallback = c.mac
  exact h.mac fallback

theorem setBtcAddressString_keeps (d : BitmeshConfiguration validAddress)
    (btcAddress : String) :
    d.setBtcAddressString btcAddress =
      { d with
        btcAddress := (d.setBtcAddressString btcAddress).btcAddress
        btcAddress_valid := (d.setBtcAddressString btcAddress).btcAddress_valid } := by
  unfold BitmeshConfiguration.setBtcAddressString
  split <;> rfl

/-- A configuration that was stored is read back. -/
theorem Holds.read (h : Holds preferences c) (identifier fallback : String) :
    SameSettings c (readConfiguration preferences identifier fallback) := by
  unfold readConfiguration
  rw [h.minPrice, h.maxPrice, h.refundThreshold, h.emailAddress, h.btcAddress,
    h.mac, h.purchaseUnit, setBtcAddressString_keeps]
  constructor <;> try rfl
  exact setBtcAddressString_empty rfl c.btcAddress_valid

/-- What a copy keeps: the constructor is called with the prices exchanged,
and nothing else is handed on but the unit. -/
theorem sameSettings_makeCopy_iff (c : BitmeshConfiguration validAddress)
    (identifier : String) :
    SameSettings c (c.makeCopy identifier) ↔
      c.minPrice = c.maxPrice ∧ c.refundThreshold = 0 ∧
        c.emailAddress = "" ∧ c.btcAddress = "" := by
  constructor
  · intro h
    have hprice : c.maxPrice = c.minPrice := h.minPrice
    have hthreshold : 0 = c.refundThreshold := h.refundThreshold
    have hemail : "" = c.emailAddress := h.emailAddress
    have hbtc : "" = c.btcAddress := h.btcAddress
    exact ⟨hprice.symm, hthreshold.symm, hemail.symm, hbtc.symm⟩
  · intro ⟨hprice, hthreshold, hemail, hbtc⟩
    exact ⟨hprice.symm, hprice, hthreshold.symm, hemail.symm, hbtc.symm, rfl⟩

/-- A configuration is handed on faithfully, by a copy and through the
preferences, exactly if its two prices are one and everything that the
constructor does not take is as the constructor leaves it. -/
theorem copies_faithful_iff (c : BitmeshConfiguration validAddress)
    (preferences : Preferences) (copied identifier fallback : String) :
    (SameSettings c (c.makeCopy copied) ∧
      SameSettings c
        (getConfigFromPreferences (setConfiguration c preferences) identifier fallback).1 ∧
      (getConfigFromPreferences (setConfiguration c preferences) identifier fallback
        : BitmeshConfiguration validAddress × Preferences).1.mac = c.mac) ↔
      c.minPrice = c.maxPrice ∧ c.refundThreshold = 0 ∧
        c.emailAddress = "" ∧ c.btcAddress = "" := by
  have hholds := holds_setConfiguration c preferences
  rw [← sameSettings_makeCopy_iff c copied]
  constructor
  · intro h
    exact h.1
  · intro hcopy
    exact ⟨hcopy, hholds.read identifier fallback, hholds.read_mac identifier fallback⟩

/-- The copy of a configuration that asks between 100 and 200 satoshis asks
between 200 and 100. -/
theorem copy_exchanges_prices :
    let c : BitmeshConfiguration fun _ => false := .new .timeUnit 200 100 "00-00-00-00-00-00"
    (c.makeCopy "00-00-00-00-00-00").minPrice = 200 ∧
      (c.makeCopy "00-00-00-00-00-00").maxPrice = 100 ∧
      ¬ SameSettings c (c.makeCopy "00-00-00-00-00-00") := by
  intro c
  have hprice : ¬ c.minPrice = c.maxPrice := by decide
  exact ⟨rfl, rfl, fun h => hprice ((sameSettings_makeCopy_iff c _).mp h).1⟩

end BitMesh.Configuration
