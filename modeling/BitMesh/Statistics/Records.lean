import BitMesh.Lib.Json

/-!
# Statistics on the wire

A vendor's statistics are written as JSON from the fields of its record
classes, under the Java names of the fields, and read field by field by a
servlet of another program. The servlet asks for the location under the
names of the database columns, and calls `getAsString` on the transaction
id and the reason of every cash-out. A successful cash-out has no reason and
a failed one no transaction id, so neither can be read.
-/

namespace BitMesh.Statistics

open BitMesh.Lib

/-- `SimpleDateFormat` of the pattern both programs use; a text it cannot
parse leaves the date null. -/
structure DateFormat where
  format : Int → String
  parse : String → Option Int

/-! ## The vendor's records -/

structure Sell where
  sellId : Int
  txId : Option String
  date : Option Int
  amountStatoshi : Int
  type : Option String
  amountInternet : Int
  deriving DecidableEq

structure IPAddress where
  ipId : Int
  ipAddress : Option String
  deriving DecidableEq

structure VendorCashOut where
  cashOutId : Int
  txId : Option String
  quantity : Int
  date : Option Int
  success : Bool
  reason : Option String
  deriving DecidableEq

/-- A vendor as it is loaded: the sets are there, if empty, and the column
of the address does not take null. -/
structure Vendor where
  vendorId : Int
  MAC : String
  xLocation : Option String
  yLocation : Option String
  sells : List Sell
  ips : List IPAddress
  cashOuts : List VendorCashOut
  deriving DecidableEq

/-- The two cash-out records `onCoinsReceived` makes: a successful one with
the transaction and no reason, and a failed one with a reason and no
transaction. Both are dated. -/
def VendorCashOut.Created (cashOut : VendorCashOut) : Prop :=
  cashOut.date.isSome = true ∧
    if cashOut.success then cashOut.txId.isSome = true ∧ cashOut.reason = none
    else cashOut.txId = none ∧ cashOut.reason.isSome = true

instance VendorCashOut.Created.decidable (cashOut : VendorCashOut) :
    Decidable cashOut.Created :=
  inferInstanceAs (Decidable (_ ∧ _))

/-! ## `gson.toJson(vendor)` -/

section
variable (fmt : DateFormat)

def Sell.members (sell : Sell) : Json.Members :=
  Json.members
    [("sellId", some (.num sell.sellId)),
     ("txId", sell.txId.map .str),
     ("date", sell.date.map fun date => .str (fmt.format date)),
     ("amountStatoshi", some (.num sell.amountStatoshi)),
     ("type", sell.type.map .str),
     ("amountInternet", some (.num sell.amountInternet))]

def IPAddress.members (ip : IPAddress) : Json.Members :=
  Json.members [("ipId", some (.num ip.ipId)), ("ipAddress", ip.ipAddress.map .str)]

def VendorCashOut.members (cashOut : VendorCashOut) : Json.Members :=
  Json.members
    [("cashOutId", some (.num cashOut.cashOutId)),
     ("txId", cashOut.txId.map .str),
     ("quantity", some (.num cashOut.quantity)),
     ("date", cashOut.date.map fun date => .str (fmt.format date)),
     ("success", some (.bool cashOut.success)),
     ("reason", cashOut.reason.map .str)]

def Vendor.members (vendor : Vendor) : Json.Members :=
  Json.members
    [("vendorId", some (.num vendor.vendorId)),
     ("MAC", some (.str vendor.MAC)),
     ("xLocation", vendor.xLocation.map .str),
     ("yLocation", vendor.yLocation.map .str),
     ("sells", some (.arr (vendor.sells.map fun sell => .obj (sell.members fmt)))),
     ("ips", some (.arr (vendor.ips.map fun ip => .obj ip.members))),
     ("cashOuts", some (.arr (vendor.cashOuts.map fun cashOut => .obj (cashOut.members fmt))))]

/-- `gson.toJson(vendor)`; `none` is `null`. -/
def toJson (vendor : Option Vendor) : Json :=
  match vendor with
  | some vendor => .obj (vendor.members fmt)
  | none => .null

end

/-! ## `StatsServlet` -/

/-- A vendor in the cloud's database. -/
structure CloudVendor where
  MAC : String
  xLocation : Option String
  yLocation : Option String
  deriving DecidableEq

/-- A sale as the servlet reads it. -/
structure CloudSell where
  txId : String
  date : Option Int
  amountStatoshi : Int
  type : String
  amountInternet : Int
  deriving DecidableEq

/-- A cash-out as the servlet reads it. -/
structure CloudCashOut where
  txId : String
  quantity : Int
  date : Option Int
  success : Bool
  reason : String
  deriving DecidableEq

/-- The cloud's tables; rows other than vendors refer to their vendor's
address. -/
structure CloudDatabase where
  vendors : List CloudVendor
  sells : List (String × CloudSell)
  ips : List (String × String)
  cashOuts : List (String × CloudCashOut)
  deriving DecidableEq

/-- `PersistenceHelper.getVendor(MAC, session)`; `none` is
`NotFoundInDatabase`. -/
def CloudDatabase.getVendor (db : CloudDatabase) (MAC : String) : Option CloudVendor :=
  db.vendors.find? fun vendor => vendor.MAC == MAC

section
variable (fmt : DateFormat)

/-- `new Sell(json, vendor)`. -/
def CloudSell.ofJson (json : Json.Members) : Except JsonException CloudSell := do
  let txId ← Json.stringAt json "txId"
  let dateString ← Json.stringAt json "date"
  let amountStatoshi ← Json.longAt json "amountStatoshi"
  let type ← Json.stringAt json "type"
  let amountInternet ← Json.longAt json "amountInternet"
  return ⟨txId, fmt.parse dateString, amountStatoshi, type, amountInternet⟩

/-- `new VendorCashOut(json, vendor)`. -/
def CloudCashOut.ofJson (json : Json.Members) : Except JsonException CloudCashOut := do
  let txId ← Json.stringAt json "txId"
  let dateString ← Json.stringAt json "date"
  let success ← Json.booleanAt json "success"
  let reason ← Json.stringAt json "reason"
  let quantity ← Json.longAt json "quantity"
  return ⟨txId, quantity, fmt.parse dateString, success, reason⟩

/-- The vendor made for an address that is not in the database: both
locations are set if both names are there. -/
def newVendor (json : Json.Members) (MAC : String) : Except JsonException CloudVendor :=
  match Json.get json "xLoc", Json.get json "yLoc" with
  | none, _ => .ok ⟨MAC, none, none⟩
  | _, none => .ok ⟨MAC, none, none⟩
  | some .null, _ => .ok ⟨MAC, none, none⟩
  | _, some .null => .ok ⟨MAC, none, none⟩
  | some xLoc, some yLoc => do return ⟨MAC, some (← xLoc.getAsString), some (← yLoc.getAsString)⟩

/-- The vendors after the lookup of the sender's address. -/
def withVendor (db : CloudDatabase) (json : Json.Members) (MAC : String) :
    Except JsonException (List CloudVendor) :=
  match db.getVendor MAC with
  | some _ => .ok db.vendors
  | none => do
    let vendor ← newVendor json MAC
    return db.vendors ++ [vendor]

/-- `putStatsInDatabase`: the answer and the committed database. An exception
leaves the transaction open and the database as it was. -/
def putStatsInDatabase (db : CloudDatabase) (element : Json) (remoteAddr : String) :
    Except JsonException (Bool × CloudDatabase) :=
  match element with
  | .null => .ok (false, db)
  | element => do
    let json ← element.getAsJsonObject
    let MAC ← Json.stringAt json "MAC"
    let vendors ← withVendor db json MAC
    let sells ← Json.decodeObjects (CloudSell.ofJson fmt) (← Json.elementsOf json "sells")
    -- `getIps().contains(ip)` asks a set of `IPAddress` for a string, so the
    -- address is saved every time
    let ips := db.ips ++ [(MAC, remoteAddr)]
    let cashOuts ← Json.decodeObjects (CloudCashOut.ofJson fmt) (← Json.elementsOf json "cashOuts")
    return (true, ⟨vendors, db.sells ++ sells.map fun sell => (MAC, sell), ips,
      db.cashOuts ++ cashOuts.map fun cashOut => (MAC, cashOut)⟩)

end

/-! ## What the servlet can read -/

/-- A sale without null fields. -/
def Sell.Complete (sell : Sell) : Prop :=
  sell.txId.isSome = true ∧ sell.date.isSome = true ∧ sell.type.isSome = true

instance Sell.Complete.decidable (sell : Sell) : Decidable sell.Complete :=
  inferInstanceAs (Decidable (_ ∧ _))

/-- A cash-out with a reason cannot be a successful one, and one with a
transaction cannot be a failed one. -/
theorem VendorCashOut.Created.incomplete {cashOut : VendorCashOut} (h : cashOut.Created)
    (htx : cashOut.txId.isSome = true) (hreason : cashOut.reason.isSome = true) : False := by
  obtain ⟨_, h⟩ := h
  split at h
  · rw [h.2] at hreason
    cases hreason
  · rw [h.1] at htx
    cases htx

section
variable {fmt : DateFormat}

/-- A sale is read exactly if none of its fields is null. -/
theorem CloudSell.ofJson_members (sell : Sell) :
    (∃ read, CloudSell.ofJson fmt (sell.members fmt) = .ok read) ↔ sell.Complete := by
  constructor
  · intro h
    obtain ⟨_, h⟩ := h
    obtain ⟨_, htx, h⟩ := exists_of_bind_eq_ok h
    obtain ⟨_, hdate, h⟩ := exists_of_bind_eq_ok h
    obtain ⟨_, _, h⟩ := exists_of_bind_eq_ok h
    obtain ⟨_, htype, _⟩ := exists_of_bind_eq_ok h
    have htx := Json.get_isSome_of_stringAt htx
    have hdate := Json.get_isSome_of_stringAt hdate
    have htype := Json.get_isSome_of_stringAt htype
    simp only [Sell.members, Json.get_members_cons, String.reduceEq, reduceIte,
      Json.get_members_nil, Option.or_none, Option.isSome_map] at htx hdate htype
    exact ⟨htx, hdate, htype⟩
  · intro h
    obtain ⟨htx, hdate, htype⟩ := h
    obtain ⟨txId, htx⟩ := Option.isSome_iff_exists.mp htx
    obtain ⟨date, hdate⟩ := Option.isSome_iff_exists.mp hdate
    obtain ⟨type, htype⟩ := Option.isSome_iff_exists.mp htype
    have h₁ : Json.stringAt (sell.members fmt) "txId" = .ok txId :=
      Json.stringAt_some (by simp [Sell.members, htx])
    have h₂ : Json.stringAt (sell.members fmt) "date" = .ok (fmt.format date) :=
      Json.stringAt_some (by simp [Sell.members, hdate])
    have h₃ : Json.longAt (sell.members fmt) "amountStatoshi" = .ok sell.amountStatoshi :=
      Json.longAt_some (by simp [Sell.members])
    have h₄ : Json.stringAt (sell.members fmt) "type" = .ok type :=
      Json.stringAt_some (by simp [Sell.members, htype])
    have h₅ : Json.longAt (sell.members fmt) "amountInternet" = .ok sell.amountInternet :=
      Json.longAt_some (by simp [Sell.members])
    rw [CloudSell.ofJson, h₁, h₂, h₃, h₄, h₅]
    exact ⟨_, rfl⟩

/-- A cash-out that is read has a transaction id and a reason. -/
theorem CloudCashOut.fields_of_ofJson {cashOut : VendorCashOut} {read : CloudCashOut}
    (h : CloudCashOut.ofJson fmt (cashOut.members fmt) = .ok read) :
    cashOut.txId.isSome = true ∧ cashOut.reason.isSome = true := by
  obtain ⟨_, htx, h⟩ := exists_of_bind_eq_ok h
  obtain ⟨_, _, h⟩ := exists_of_bind_eq_ok h
  obtain ⟨_, _, h⟩ := exists_of_bind_eq_ok h
  obtain ⟨_, hreason, _⟩ := exists_of_bind_eq_ok h
  have htx := Json.get_isSome_of_stringAt htx
  have hreason := Json.get_isSome_of_stringAt hreason
  simp only [VendorCashOut.members, Json.get_members_cons, String.reduceEq, reduceIte,
    Json.get_members_nil, Option.or_none, Option.isSome_map] at htx hreason
  exact ⟨htx, hreason⟩

/-- The location is not written under the names the servlet asks for. -/
theorem newVendor_members (vendor : Vendor) :
    newVendor (vendor.members fmt) vendor.MAC = .ok ⟨vendor.MAC, none, none⟩ := by
  have hx : Json.get (vendor.members fmt) "xLoc" = none := by simp [Vendor.members]
  rw [newVendor, hx]

/-- A vendor the database has not seen gets a row without a location. -/
theorem withVendor_members {db : CloudDatabase} {vendor : Vendor} :
    withVendor db (vendor.members fmt) vendor.MAC =
      .ok (if db.getVendor vendor.MAC = none then db.vendors ++ [⟨vendor.MAC, none, none⟩]
        else db.vendors) := by
  rw [withVendor]
  cases db.getVendor vendor.MAC with
  | none =>
    rw [newVendor_members]
    rfl
  | some _ => rfl

/-- What the servlet makes of a vendor's statistics: it reads the sales and
then the cash-outs, and stores them all or none. -/
theorem putStatsInDatabase_toJson (db : CloudDatabase) (vendor : Vendor) (remoteAddr : String) :
    putStatsInDatabase fmt db (toJson fmt (some vendor)) remoteAddr = (do
      let sells ← Json.decodeObjects (CloudSell.ofJson fmt)
        (vendor.sells.map fun sell => .obj (sell.members fmt))
      let cashOuts ← Json.decodeObjects (CloudCashOut.ofJson fmt)
        (vendor.cashOuts.map fun cashOut => .obj (cashOut.members fmt))
      return (true, ⟨if db.getVendor vendor.MAC = none then db.vendors ++ [⟨vendor.MAC, none, none⟩]
          else db.vendors,
        db.sells ++ sells.map fun sell => (vendor.MAC, sell),
        db.ips ++ [(vendor.MAC, remoteAddr)],
        db.cashOuts ++ cashOuts.map fun cashOut => (vendor.MAC, cashOut)⟩)) := by
  have hMAC : Json.stringAt (vendor.members fmt) "MAC" = .ok vendor.MAC :=
    Json.stringAt_some (by simp [Vendor.members])
  have hsells : Json.elementsOf (vendor.members fmt) "sells" =
      .ok (vendor.sells.map fun sell => .obj (sell.members fmt)) := by
    simp [Json.elementsOf, Vendor.members]
  have hcashOuts : Json.elementsOf (vendor.members fmt) "cashOuts" =
      .ok (vendor.cashOuts.map fun cashOut => .obj (cashOut.members fmt)) := by
    simp [Json.elementsOf, Vendor.members]
  simp only [toJson, putStatsInDatabase, Json.getAsJsonObject, ok_bind, hMAC, withVendor_members,
    hsells, hcashOuts]

end

theorem find_newVendor {db : CloudDatabase} {MAC : String} (hnew : db.getVendor MAC = none) :
    (db.vendors ++ [CloudVendor.mk MAC none none]).find? (fun vendor => vendor.MAC == MAC) =
      some ⟨MAC, none, none⟩ := by
  rw [CloudDatabase.getVendor] at hnew
  rw [List.find?_append, hnew]
  simp

/-- What a cash-out is about: transaction, amount, outcome and reason. -/
def VendorCashOut.facts (cashOut : VendorCashOut) : Option String × Int × Bool × Option String :=
  (cashOut.txId, cashOut.quantity, cashOut.success, cashOut.reason)

def CloudCashOut.facts (cashOut : CloudCashOut) : Option String × Int × Bool × Option String :=
  (some cashOut.txId, cashOut.quantity, cashOut.success, some cashOut.reason)

/-- The cloud has the location of a vendor it had not seen, and new rows for
the vendor's cash-outs with the same facts. -/
structure Recovers (db db' : CloudDatabase) (vendor : Vendor) : Prop where
  location : db.getVendor vendor.MAC = none →
    db'.getVendor vendor.MAC = some ⟨vendor.MAC, vendor.xLocation, vendor.yLocation⟩
  cashOuts : ∃ rows : List CloudCashOut,
    db'.cashOuts = db.cashOuts ++ rows.map (fun row => (vendor.MAC, row)) ∧
      rows.map CloudCashOut.facts = vendor.cashOuts.map VendorCashOut.facts

/-- The vendor's statistics reach the cloud whole exactly if there is little
in them: a vendor the cloud has not seen has no location, there are no
cash-outs, and no sale has a null field. -/
theorem statistics_recovered_iff (fmt : DateFormat) (db : CloudDatabase) (vendor : Vendor)
    (remoteAddr : String) (hcreated : ∀ cashOut ∈ vendor.cashOuts, cashOut.Created) :
    (∃ db', putStatsInDatabase fmt db (toJson fmt (some vendor)) remoteAddr = .ok (true, db') ∧
        Recovers db db' vendor) ↔
      (db.getVendor vendor.MAC = none → vendor.xLocation = none ∧ vendor.yLocation = none) ∧
        vendor.cashOuts = [] ∧ ∀ sell ∈ vendor.sells, sell.Complete := by
  rw [putStatsInDatabase_toJson]
  constructor
  · intro h
    obtain ⟨db', hput, hrecovers⟩ := h
    obtain ⟨sells, hsells, hput⟩ := exists_of_bind_eq_ok hput
    obtain ⟨cashOuts, hcashOuts, hput⟩ := exists_of_bind_eq_ok hput
    have hdb' : _ = db' := congrArg Prod.snd (Except.ok.inj hput)
    refine ⟨?_, ?_, ?_⟩
    · intro hnew
      have hlocation := hrecovers.location hnew
      rw [← hdb', CloudDatabase.getVendor, if_pos hnew, find_newVendor hnew] at hlocation
      injection hlocation with hlocation
      injection hlocation with _ hx hy
      exact ⟨hx.symm, hy.symm⟩
    · -- no cash-out that the vendor makes can be read
      apply List.eq_nil_iff_forall_not_mem.mpr
      intro cashOut hmem
      obtain ⟨read, hread⟩ := Json.decode_of_decodeObjects hcashOuts hmem
      obtain ⟨htx, hreason⟩ := CloudCashOut.fields_of_ofJson hread
      exact (hcreated cashOut hmem).incomplete htx hreason
    · intro sell hmem
      exact (CloudSell.ofJson_members sell).mp (Json.decode_of_decodeObjects hsells hmem)
  · intro h
    obtain ⟨hlocation, hempty, hsells⟩ := h
    obtain ⟨sells, hsells⟩ := Json.exists_decodeObjects
      fun sell hmem => (@CloudSell.ofJson_members fmt sell).mpr (hsells sell hmem)
    rw [hsells, hempty]
    refine ⟨_, rfl, ?_, ⟨[], ?_, ?_⟩⟩
    · intro hnew
      obtain ⟨hx, hy⟩ := hlocation hnew
      rw [CloudDatabase.getVendor, if_pos hnew, find_newVendor hnew, hx, hy]
    · rfl
    · rw [hempty]
      rfl

/-- A vendor with two sales and nothing else. -/
theorem statistics_recovered_sales :
    let fmt : DateFormat := ⟨fun _ => "2015-01-01 00:00:00.000 +0000", fun _ => some 0⟩
    let vendor : Vendor := ⟨1, "00:16:3e:00:00:01", none, none,
      [⟨1, some "tx1", some 0, 1000, some "TIME", 60⟩,
        ⟨2, some "tx2", some 1, 2000, some "TIME", 90⟩], [], []⟩
    ∃ db', putStatsInDatabase fmt ⟨[], [], [], []⟩ (toJson fmt (some vendor)) "10.0.0.1" =
      .ok (true, db') ∧ Recovers ⟨[], [], [], []⟩ db' vendor :=
  (statistics_recovered_iff _ _ _ _ (by decide)).mpr (by decide)

/-- A successful cash-out makes the servlet throw, so does a failed one, and
a location does not arrive. -/
theorem statistics_lost :
    let fmt : DateFormat := ⟨fun _ => "2015-01-01 00:00:00.000 +0000", fun _ => some 0⟩
    let put (vendor : Vendor) :=
      putStatsInDatabase fmt ⟨[], [], [], []⟩ (toJson fmt (some vendor)) "10.0.0.1"
    let cashOut : VendorCashOut := ⟨1, some "tx", 5000, some 0, true, none⟩
    let failed : VendorCashOut := ⟨2, none, 5000, some 0, false, some "Not enough money"⟩
    (cashOut.Created ∧ failed.Created) ∧
      put ⟨1, "00:16:3e:00:00:01", none, none, [], [], [cashOut]⟩ = .error .nullPointer ∧
      put ⟨1, "00:16:3e:00:00:01", none, none, [], [], [failed]⟩ = .error .nullPointer ∧
      put ⟨1, "00:16:3e:00:00:01", some "1.5", some "2.5", [], [], []⟩ =
        .ok (true, ⟨[⟨"00:16:3e:00:00:01", none, none⟩], [], [("00:16:3e:00:00:01", "10.0.0.1")],
          []⟩) := by
  refine ⟨by decide, ?_, ?_, ?_⟩ <;> exact (putStatsInDatabase_toJson _ _ _).trans rfl

end BitMesh.Statistics
