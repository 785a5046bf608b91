import BoxOffice.Relational.Table
import Mathlib.Data.Rat.Defs

namespace BoxOffice

open Relational

/-!
# Schema — the tables of the box office

One structure per model class of the program, restricted to the columns its service functions
read or write, and `Db`, the record of all tables.

* foreign keys are the integer keys of the rows they name; nullable columns are `Option`s;
* money columns (`DecimalField(decimal_places=2)`) hold integer cents;
* the child rows that only ever live and die with their parent are fields of the parent:
  `Hold.holdSeats` (`HoldSeat`, `CASCADE`), `PricingZone.seats` (`PricingZoneSeat`, `CASCADE`)
  and the many-to-many event sets of a pass;
* `ServiceError` is the exception hierarchy of the service layers, with the message texts.
-/

/-- Money with two decimal places, in cents. -/
abbrev Cents := Int

/-- Points in time, in microseconds. -/
abbrev Time := Nat

/-- One tenant (a theater).  `platformFeePercent` has two decimals: hundredths of a percent. -/
structure Organization where
  id : Nat
  name : String
  currency : String
  stripeAccountId : String
  stripeChargesEnabled : Bool
  platformFeePercent : Option Int
deriving Repr, DecidableEq

structure Venue where
  id : Nat
  organization : Nat
  name : String
  timezone : String
deriving Repr, DecidableEq

structure SeatingChart where
  id : Nat
  organization : Nat
  venue : Nat
  name : String
deriving Repr, DecidableEq

/-- `(row_label, number)`, the printed identity of a seat inside its section. -/
abbrev SeatIdentity := String × String

/-! The choice columns of a section accept any text on a save that skips form validation;
`other` is a text outside the choices. -/

inductive NumberingScheme
  | sequential | oddDescLeft | evenAscRight | hundreds | hundredsFlat | other (text : String)
deriving Repr, DecidableEq

inductive RowLabelScheme
  | skipIo | allLetters | other (text : String)
deriving Repr, DecidableEq

inductive OffsetMode
  | repeated | alternating | other (text : String)
deriving Repr, DecidableEq

inductive PivotMode
  | center | origin | custom | other (text : String)
deriving Repr, DecidableEq

/-- The layout parameters of a section that drive seat generation; the stored ones are rational. -/
structure SectionParams (K : Type := ℚ) where
  originX : K
  originY : K
  rotation : K
  seatPitch : K
  rowPitch : K
  rowXOffset : K
  offsetMode : OffsetMode
  altRowSeatDelta : Int
  arcRadius : Option K
  pivotMode : PivotMode
  pivotX : K
  pivotY : K
  rows : Nat
  seatsPerRow : Nat
  removedSeats : List SeatIdentity
  accessibleSeats : List SeatIdentity
  numberingScheme : NumberingScheme
  rowLabelScheme : RowLabelScheme
  rowLabelStart : Nat
deriving Repr, DecidableEq

structure Section where
  id : Nat
  organization : Nat
  chart : Nat
  name : String
  ordering : Nat
  tier : String
  params : SectionParams
deriving Repr, DecidableEq

structure Seat where
  id : Nat
  organization : Nat
  section_ : Nat
  rowLabel : String
  number : String
  x : ℚ
  y : ℚ
  isAccessible : Bool
deriving Repr, DecidableEq

structure Event where
  id : Nat
  organization : Nat
  title : String
deriving Repr, DecidableEq

/-- How a performance tracks its places: by a counter, or by the seats of its chart. -/
inductive SeatingMode
  | ga | reserved
deriving Repr, DecidableEq

inductive PerformanceStatus
  | draft | published | cancelled
deriving Repr, DecidableEq

structure Performance where
  id : Nat
  organization : Nat
  event : Nat
  venue : Nat
  startsAt : Time
  seatingMode : SeatingMode
  status : PerformanceStatus
  seatingChart : Option Nat
deriving Repr, DecidableEq

/-- A price.  `performance` or `section_` is set: a flat general-admission price, the default
    of a section, or (both) the override for one performance. -/
structure PriceTier where
  id : Nat
  organization : Nat
  name : String
  amount : Cents
  currency : String
  performance : Option Nat
  section_ : Option Nat
  hasTarget : performance ≠ none ∨ section_ ≠ none := by simp
deriving Repr, DecidableEq

/-- Capacity and running count of a general-admission performance. -/
structure GAAllocation where
  id : Nat
  organization : Nat
  performance : Nat
  capacity : Nat
  sold : Nat
deriving Repr, DecidableEq

structure ZoneTemplate where
  id : Nat
  organization : Nat
  name : String
  color : String
deriving Repr, DecidableEq

/-- A priced group of seats on one performance; `seats` are its `PricingZoneSeat` rows. -/
structure PricingZone where
  id : Nat
  organization : Nat
  performance : Nat
  template : Option Nat
  name : String
  color : String
  amount : Cents
  seats : List Nat
deriving Repr, DecidableEq

/-- A house kill: a seat pulled from sale for one performance. -/
structure PerformanceSeatBlock where
  id : Nat
  organization : Nat
  performance : Nat
  seat : Nat
deriving Repr, DecidableEq

inductive PromoKind
  | percent | fixed
deriving Repr, DecidableEq

/-- A discount code.  `value` has two decimals: hundredths of a percent, or cents. -/
structure PromoCode where
  id : Nat
  organization : Nat
  code : String
  kind : PromoKind
  value : Nat
  currency : String
  startsAt : Option Time
  endsAt : Option Time
  maxRedemptions : Option Nat
  redemptionCount : Nat
  minOrderAmount : Option Cents
  isActive : Bool
deriving Repr, DecidableEq

structure DonationCampaign where
  id : Nat
  organization : Nat
  name : String
  isActive : Bool
deriving Repr, DecidableEq

structure GuestAccount where
  id : Nat
  organization : Nat
  email : String
  name : String
  marketingOptIn : Bool
  marketingOptInAt : Option Time
deriving Repr, DecidableEq

/-- One held seat, with the price frozen when the hold was made. -/
structure HoldSeat where
  seat : Nat
  priceTier : Option Nat
  pricingZone : Option Nat
  unitAmount : Cents
deriving Repr, DecidableEq

/-- The general-admission columns of a hold, which the constraint `hold_ga_fields_together`
    makes null or non-null together, and the frozen unit price. -/
structure GaSelection where
  priceTier : Nat
  quantity : Nat
  gaUnitAmount : Option Cents
deriving Repr, DecidableEq

/-- A cart: inventory reserved for one session until `expiresAt`. -/
structure Hold where
  id : Nat
  organization : Nat
  performance : Nat
  sessionKey : String
  expiresAt : Time
  ga : Option GaSelection
  holdSeats : List HoldSeat
  promoCode : Option Nat
  promoCodeText : String
  discountAmount : Option Cents
  donationAmount : Option Cents
  donationCampaign : Option Nat
deriving Repr, DecidableEq

inductive OrderStatus
  | pending | paid | cancelled | refunded
deriving Repr, DecidableEq

structure Order where
  id : Nat
  organization : Nat
  performance : Option Nat
  buyerEmail : String
  buyerName : String
  guest : Option Nat
  promoCodeText : String
  discountAmount : Cents
  total : Cents
  status : OrderStatus
  stripeCheckoutSessionId : Option String
deriving Repr, DecidableEq

inductive OrderItemKind
  | ticket | donation | pass
deriving Repr, DecidableEq

structure OrderItem where
  id : Nat
  organization : Nat
  order : Nat
  kind : OrderItemKind
  priceTier : Option Nat
  pricingZone : Option Nat
  donationCampaign : Option Nat
  passProduct : Option Nat
  seat : Option Nat
  quantity : Nat
  unitAmount : Cents
deriving Repr, DecidableEq

inductive TicketStatus
  | valid | used | void
deriving Repr, DecidableEq

structure Ticket where
  id : Nat
  organization : Nat
  order : Nat
  performance : Nat
  seat : Option Nat
  holderName : String
  token : String
  status : TicketStatus
  usedAt : Option Time
  scannedBy : Option Nat
deriving Repr, DecidableEq

inductive Provider
  | stripe | test | stub | pass
deriving Repr, DecidableEq

inductive PaymentStatus
  | succeeded | refunded
deriving Repr, DecidableEq

structure Payment where
  id : Nat
  organization : Nat
  order : Nat
  provider : Provider
  amount : Cents
  status : PaymentStatus
  providerRef : String
deriving Repr, DecidableEq

inductive PassKind
  | season | flex
deriving Repr, DecidableEq

/-- A pass on sale.  `creditShape` is the constraint `passproduct_credit_shape`. -/
structure PassProduct where
  id : Nat
  organization : Nat
  name : String
  kind : PassKind
  price : Cents
  creditCount : Option Nat
  validFrom : Option Time
  validUntil : Option Time
  events : List Nat
  isActive : Bool
  creditShape : (kind = .flex ∧ ∃ n ∈ creditCount, 0 < n) ∨ (kind = .season ∧ creditCount = none)

inductive PassStatus
  | active | exhausted | refunded
deriving Repr, DecidableEq

/-- A sold pass, with every entitlement term frozen at purchase. -/
structure PassPurchase where
  id : Nat
  organization : Nat
  product : Nat
  guest : Option Nat
  order : Nat
  kind : PassKind
  creditCount : Option Nat
  creditsRemaining : Option Nat
  validFrom : Option Time
  validUntil : Option Time
  coveredEvents : List Nat
  status : PassStatus
deriving Repr, DecidableEq

/-- One admission handed out against a pass. -/
structure PassRedemption where
  id : Nat
  organization : Nat
  passPurchase : Nat
  order : Nat
  ticket : Nat
  performance : Nat
  event : Nat
  seat : Option Nat
  faceValue : Cents
  creditsUsed : Nat
deriving Repr, DecidableEq

instance : Keyed Organization := ⟨Organization.id⟩
instance : Keyed Venue := ⟨Venue.id⟩
instance : Keyed SeatingChart := ⟨SeatingChart.id⟩
instance : Keyed Section := ⟨Section.id⟩
instance : Keyed Seat := ⟨Seat.id⟩
instance : Keyed Event := ⟨Event.id⟩
instance : Keyed Performance := ⟨Performance.id⟩
instance : Keyed PriceTier := ⟨PriceTier.id⟩
instance : Keyed GAAllocation := ⟨GAAllocation.id⟩
instance : Keyed ZoneTemplate := ⟨ZoneTemplate.id⟩
instance : Keyed PricingZone := ⟨PricingZone.id⟩
instance : Keyed PerformanceSeatBlock := ⟨PerformanceSeatBlock.id⟩
instance : Keyed PromoCode := ⟨PromoCode.id⟩
instance : Keyed DonationCampaign := ⟨DonationCampaign.id⟩
instance : Keyed GuestAccount := ⟨GuestAccount.id⟩
instance : Keyed Hold := ⟨Hold.id⟩
instance : Keyed Order := ⟨Order.id⟩
instance : Keyed OrderItem := ⟨OrderItem.id⟩
instance : Keyed Ticket := ⟨Ticket.id⟩
instance : Keyed Payment := ⟨Payment.id⟩
instance : Keyed PassProduct := ⟨PassProduct.id⟩
instance : Keyed PassPurchase := ⟨PassPurchase.id⟩
instance : Keyed PassRedemption := ⟨PassRedemption.id⟩

/-- The database. -/
structure Db where
  organizations : Table Organization
  venues : Table Venue
  seatingCharts : Table SeatingChart
  sections : Table Section
  seats : Table Seat
  events : Table Event
  performances : Table Performance
  priceTiers : Table PriceTier
  gaAllocations : Table GAAllocation
  zoneTemplates : Table ZoneTemplate
  pricingZones : Table PricingZone
  seatBlocks : Table PerformanceSeatBlock
  promoCodes : Table PromoCode
  donationCampaigns : Table DonationCampaign
  guests : Table GuestAccount
  holds : Table Hold
  orders : Table Order
  orderItems : Table OrderItem
  tickets : Table Ticket
  payments : Table Payment
  passProducts : Table PassProduct
  passPurchases : Table PassPurchase
  passRedemptions : Table PassRedemption

/-- The database before its first row. -/
def Db.empty : Db where
  organizations := .empty
  venues := .empty
  seatingCharts := .empty
  sections := .empty
  seats := .empty
  events := .empty
  performances := .empty
  priceTiers := .empty
  gaAllocations := .empty
  zoneTemplates := .empty
  pricingZones := .empty
  seatBlocks := .empty
  promoCodes := .empty
  donationCampaigns := .empty
  guests := .empty
  holds := .empty
  orders := .empty
  orderItems := .empty
  tickets := .empty
  payments := .empty
  passProducts := .empty
  passPurchases := .empty
  passRedemptions := .empty

/-! ### Exceptions -/

/-- The exceptions the service layers raise.  Each carries the message shown to the buyer, to
    staff or in the log; the last four are the database layer's own, the two before Python's. -/
inductive ServiceError
  | insufficientAvailability (message : String)
  | seatUnavailable (message : String)
  | holdError (message : String)
  | promoError (message : String)
  | checkoutError (message : String)
  | holdGone (message : String)
  | availabilityChanged (message : String)
  | donationData (message : String)
  | passData (message : String)
  | passRedemption (message : String)
  | tenantMismatch (message : String)
  | refundError (message : String)
  | seatGeneration (message : String)
  | seatRosterChanged (message : String)
  | zoneError (message : String)
  | chartImport (message : String)
  | chartParsing (message : String)
  | campaignState (message : String)
  | valueError (message : String)
  | typeError (message : String)
  | integrity (constraint : String)
  | dataError (column : String)
  | protectedRows (model : String)
  | doesNotExist (model : String)
  | multipleObjects (model : String)
deriving Repr, DecidableEq

namespace ServiceError

/-- `str(exc)`. -/
def message : ServiceError → String
  | insufficientAvailability m | seatUnavailable m | holdError m | promoError m
  | checkoutError m | holdGone m | availabilityChanged m | donationData m | passData m
  | passRedemption m | tenantMismatch m | refundError m | seatGeneration m
  | seatRosterChanged m | zoneError m | chartImport m | chartParsing m | campaignState m
  | valueError m | typeError m | integrity m | dataError m | protectedRows m | doesNotExist m
  | multipleObjects m => m

/-- Subclasses of `FulfillmentError`. -/
def isFulfillmentError : ServiceError → Bool
  | holdGone _ | availabilityChanged _ | donationData _ | passData _ | passRedemption _
  | tenantMismatch _ => true
  | _ => false

/-- Subclasses of `SeatGenerationError`. -/
def isSeatGenerationError : ServiceError → Bool
  | seatGeneration _ | seatRosterChanged _ => true
  | _ => false

end ServiceError

/-- What a transaction body returns: an exception rolls it back, so nothing is written. -/
abbrev Result (α : Type) := Except ServiceError (Db × α)

end BoxOffice
