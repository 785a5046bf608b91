import BoxOffice.Relational.Table
import BoxOffice.Transition.Run
import BoxOffice.Schema
import BoxOffice.Money
import BoxOffice.Promotions
import BoxOffice.Guests
import BoxOffice.Events.Pricing
import BoxOffice.Orders.Holds
import BoxOffice.Orders.HoldMoney
import BoxOffice.Orders.Tokens
import BoxOffice.Orders.Void
import BoxOffice.Passes
import BoxOffice.Payments.Fulfill
import BoxOffice.Payments.Refund
import BoxOffice.Payments.CheckoutSession
import BoxOffice.System
import BoxOffice.Transition.Reservation
import BoxOffice.Inventory.Ledger
import BoxOffice.Inventory.Consistency
import BoxOffice.Inventory.Refinement
import BoxOffice.Inventory.Availability
import BoxOffice.Inventory.Promised
import BoxOffice.Dashboard.PerformanceEdits
import BoxOffice.Dashboard.PriceGrid
import BoxOffice.Dashboard.PerformanceForm
import BoxOffice.Inventory.Safety
import BoxOffice.Cascade
import BoxOffice.Dashboard.ChartEditor
import BoxOffice.Dashboard.Pricing
import BoxOffice.Events.Zones
import BoxOffice.Dashboard.Staff
import BoxOffice.Dashboard.StaffEffect
import BoxOffice.Dashboard.CartFrame
import BoxOffice.Payments.Books
import BoxOffice.Payments.CartMoney
import BoxOffice.Payments.Identity
import BoxOffice.Passes.Books
import BoxOffice.Passes.Entitlement
import BoxOffice.Payments.Sales
import BoxOffice.Transition.Interleaving
import BoxOffice.Payments.Deliveries
import BoxOffice.Payments.ExactlyOnce
import BoxOffice.Payments.Webhook
import BoxOffice.Payments.Receipts
import BoxOffice.Payments.Checkouts
import BoxOffice.Payments.ConvertedOnce
import BoxOffice.Dashboard.OrderActions
import BoxOffice.Dashboard.UndoneOnce
import BoxOffice.Events.Partition
import BoxOffice.Dashboard.ZoneDesk
import BoxOffice.Dashboard.OnePrice
import BoxOffice.Inventory.SeatMap
import BoxOffice.Dashboard.PassProducts
import BoxOffice.Passes.Coverage
import BoxOffice.Passes.Revocation
import BoxOffice.Payments.StripeSession
import BoxOffice.Payments.CartWindow
import BoxOffice.Payments.ChargedCart
import BoxOffice.Payments.PassTerms
import BoxOffice.Relational.Sorted
import BoxOffice.Venues.ChartIo
import BoxOffice.Venues.RoundTrip
import BoxOffice.Venues.Roster
import BoxOffice.Dashboard.EditorPage
import BoxOffice.Venues.Written
import BoxOffice.Dashboard.UntouchedSave
import BoxOffice.Venues.ChartParsing
import BoxOffice.Dashboard.UntouchedChart
import BoxOffice.Dashboard.UntouchedPage
import BoxOffice.Loops.Accumulate
import BoxOffice.Venues.SeatGeometry
import BoxOffice.Venues.ShapeCenter
import BoxOffice.Venues.Preview
import BoxOffice.Campaigns.Models
import BoxOffice.Campaigns.Trigger
import BoxOffice.Transition.Ownership
import BoxOffice.Campaigns.BatchSend
import BoxOffice.Campaigns.Queue
import BoxOffice.Campaigns.Ticks
import BoxOffice.Campaigns.Overlap
import BoxOffice.Campaigns.OneEmail
import BoxOffice.Campaigns.EditForm
import BoxOffice.Campaigns.OneWay
import BoxOffice.Scanning.Redeem
import BoxOffice.Scanning.Door
import BoxOffice.Scanning.AdmitsOnce
import BoxOffice.Payments.MinorUnits
import BoxOffice.Payments.OneCurrency
import BoxOffice.Relational.Service
import BoxOffice.Venues.InPlace
import BoxOffice.Orders.HoldCalls
import BoxOffice.Orders.CartIsolation
import BoxOffice.Venues.Replacing
import BoxOffice.Venues.Overwriting
import BoxOffice.Numeric.Digits
import BoxOffice.Python.Json
import BoxOffice.Python.Raising
import BoxOffice.Venues.Columns
import BoxOffice.Venues.ImportJson
import BoxOffice.Venues.ImportAtomic
import BoxOffice.Venues.SpecJson
import BoxOffice.Dashboard.Team
import BoxOffice.Dashboard.LastOwner
import BoxOffice.Tenants.OneRun
import BoxOffice.Guests.Sessions
import BoxOffice.Guests.Storefront
import BoxOffice.Guests.Access
import BoxOffice.Guests.PortalAccess
import BoxOffice.Payments.PlatformFee
import BoxOffice.Numeric.Decimal
import BoxOffice.TypedAmounts
import BoxOffice.Promotions.Counted
import BoxOffice.Orders.CartOrigin
import BoxOffice.Payments.PromoTotals
import BoxOffice.Orders.HoldCreate
import BoxOffice.Orders.OnlyPublished
import BoxOffice.Venues.FloatSeats
import BoxOffice.Venues.SpecBuild
import BoxOffice.Venues.SpecNormal
import BoxOffice.Venues.SpecNames
import BoxOffice.Venues.FloatWrites
import BoxOffice.Venues.SpecSound
import BoxOffice.Venues.Identities
import BoxOffice.Dashboard.EditorSave
import BoxOffice.Dashboard.SectionSaves
import BoxOffice.Loops.Turns
import BoxOffice.Dashboard.SectionTurns
import BoxOffice.Dashboard.SectionWise
import BoxOffice.Venues.Centering
import BoxOffice.Scanning.Camera
import BoxOffice.Editor.Viewport
import BoxOffice.Transition.Timeline
import BoxOffice.Editor.UndoLaws
import BoxOffice.Dashboard.SectionReorder
import BoxOffice.Guests.Consent
import BoxOffice.Transition.Expiring
import BoxOffice.Accounts.Throttle
import BoxOffice.Accounts.ClientAddress
import BoxOffice.Relational.Query
import BoxOffice.Campaigns.Segment
import BoxOffice.Scanning.Codes
import BoxOffice.Loops.Runs
import BoxOffice.Scanning.FinderLines
import BoxOffice.Scanning.FinderPatterns
import BoxOffice.Scanning.FinderRows
import BoxOffice.Scanning.CleanFrames
import BoxOffice.Scanning.CleanFinders
import BoxOffice.Relational.Growth
import BoxOffice.Payments.AppendOnly
import BoxOffice.Relational.Tenancy
import BoxOffice.Tenants.Keys
import BoxOffice.Tenants.Isolation
import BoxOffice.Dashboard.Overview
import BoxOffice.Passes.Redeeming
import BoxOffice.Transition.Collect
import BoxOffice.Relational.Deleting
import BoxOffice.Orders.Sweeping
import BoxOffice.Payments.SimulatedSales
import BoxOffice.Accounts.StaffDoor
import BoxOffice.Accounts.InviteLinks
import BoxOffice.Accounts.OwnersUnmoved
import BoxOffice.HelpCenter.Articles
import BoxOffice.HelpCenter.Reading
import BoxOffice.HelpCenter.SlugSearch
import BoxOffice.Relational.Unique
import BoxOffice.Tenants.Hosts
import BoxOffice.Tenants.Onboarding
import BoxOffice.Tenants.Served
import BoxOffice.Tenants.OnboardedOnce
