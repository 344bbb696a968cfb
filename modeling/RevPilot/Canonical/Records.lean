import RevPilot.Shared.Identifiers
import RevPilot.Shared.Temporal

/-! The canonical business records, with the fields that the metrics read. -/
namespace RevPilot.Canonical
open Shared

inductive AccountTier : Type
  | platinum
  | gold
  | standard
  deriving DecidableEq

/-- `account_tier.value`. -/
def AccountTier.value : AccountTier → String
  | platinum => "TIER_1_PLATINUM"
  | gold => "TIER_2_GOLD"
  | standard => "TIER_3_STANDARD"

inductive CustomerSegment : Type
  | enterprise
  | midMarket
  | smb
  | consumer
  deriving DecidableEq

def CustomerSegment.value : CustomerSegment → String
  | enterprise => "ENTERPRISE"
  | midMarket => "MID_MARKET"
  | smb => "SMB"
  | consumer => "CONSUMER"

inductive CustomerStatus : Type
  | active
  | churnRisk
  | churned
  | suspended
  deriving DecidableEq

inductive OrderStatus : Type
  | placed
  | processing
  | shipped
  | delivered
  | cancelled
  | returned
  deriving DecidableEq

inductive TicketTopic : Type
  | orderStatusDelay
  | cancellationInquiry
  | paymentIssue
  | damagedItem
  | generalSupport
  deriving DecidableEq

def TicketTopic.value : TicketTopic → String
  | orderStatusDelay => "ORDER_STATUS_DELAY"
  | cancellationInquiry => "CANCELLATION_INQUIRY"
  | paymentIssue => "PAYMENT_ISSUE"
  | damagedItem => "DAMAGED_ITEM"
  | generalSupport => "GENERAL_SUPPORT"

inductive TicketPriority : Type
  | urgent
  | high
  | normal
  | low
  deriving DecidableEq

def TicketPriority.value : TicketPriority → String
  | urgent => "P1_URGENT"
  | high => "P2_HIGH"
  | normal => "P3_NORMAL"
  | low => "P4_LOW"

/-- `OPEN` is `unresolved` here. -/
inductive TicketStatus : Type
  | unresolved
  | pendingCustomer
  | resolved
  | closed
  deriving DecidableEq

inductive ContractType : Type
  | enterpriseSla
  | standardTerms
  | supplierAgreement
  deriving DecidableEq

def ContractType.value : ContractType → String
  | enterpriseSla => "ENTERPRISE_SLA"
  | standardTerms => "STANDARD_TERMS"
  | supplierAgreement => "SUPPLIER_AGREEMENT"

inductive GatewayProvider : Type
  | stripe
  | adyen
  | syntheticBank
  deriving DecidableEq

def GatewayProvider.value : GatewayProvider → String
  | stripe => "STRIPE"
  | adyen => "ADYEN"
  | syntheticBank => "SYNTHETIC_BANK"

inductive TransactionType : Type
  | authorization
  | capture
  | refund
  | chargeback
  deriving DecidableEq

def TransactionType.value : TransactionType → String
  | authorization => "AUTHORIZATION"
  | capture => "CAPTURE"
  | refund => "REFUND"
  | chargeback => "CHARGEBACK"

inductive PaymentStatus : Type
  | succeeded
  | failed
  | pending
  | disputed
  deriving DecidableEq

inductive Currency : Type
  | usd
  | eur
  | gbp
  | jpy
  | cad
  | aud
  | chf
  | sgd
  deriving DecidableEq

def Currency.value : Currency → String
  | usd => "USD"
  | eur => "EUR"
  | gbp => "GBP"
  | jpy => "JPY"
  | cad => "CAD"
  | aud => "AUD"
  | chf => "CHF"
  | sgd => "SGD"

structure Customer where
  tenantId : TenantId
  id : String
  segment : CustomerSegment
  accountTier : AccountTier
  billingCountry : String
  status : CustomerStatus
  eventTime : UtcDateTime

structure Order where
  tenantId : TenantId
  id : String
  customerId : String
  orderStatus : OrderStatus
  totalCents : Nat
  eventTime : UtcDateTime
  cancelledAt : Option UtcDateTime := none
  cancelledLater : ∀ t, cancelledAt = some t → eventTime ≤ t := by simp

structure OrderLine where
  tenantId : TenantId
  orderId : String
  productCategory : String
  eventTime : UtcDateTime

structure Shipment where
  tenantId : TenantId
  orderId : String
  carrierId : String
  warehouseId : String
  originRegion : String
  destinationRegion : String
  isDelayed : Bool
  eventTime : UtcDateTime
  actualDeliveredAt : Option UtcDateTime := none

structure SupportTicket where
  tenantId : TenantId
  customerId : String
  topic : TicketTopic
  priority : TicketPriority
  status : TicketStatus
  orderId : Option String := none
  eventTime : UtcDateTime

structure MaintenanceEvent where
  tenantId : TenantId
  eventTime : UtcDateTime

structure Contract where
  tenantId : TenantId
  id : String
  customerId : String
  contractType : ContractType
  eventTime : UtcDateTime

structure ContractClause where
  tenantId : TenantId
  contractId : String
  slaThresholdHours : Option Nat
  eventTime : UtcDateTime

structure PaymentReference where
  tenantId : TenantId
  gatewayProvider : GatewayProvider
  transactionType : TransactionType
  paymentStatus : PaymentStatus
  currency : Currency
  processedAt : UtcDateTime

/-- What `_is_valid` reads of any record. -/
class TimedRecord (A : Type) where
  tenantId : A → TenantId
  eventTime : A → UtcDateTime

instance : TimedRecord Customer := ⟨Customer.tenantId,Customer.eventTime⟩

instance : TimedRecord Order := ⟨Order.tenantId,Order.eventTime⟩

instance : TimedRecord OrderLine := ⟨OrderLine.tenantId,OrderLine.eventTime⟩

instance : TimedRecord Shipment := ⟨Shipment.tenantId,Shipment.eventTime⟩

instance : TimedRecord SupportTicket := ⟨SupportTicket.tenantId,SupportTicket.eventTime⟩

instance : TimedRecord MaintenanceEvent := ⟨MaintenanceEvent.tenantId,MaintenanceEvent.eventTime⟩

instance : TimedRecord Contract := ⟨Contract.tenantId,Contract.eventTime⟩

instance : TimedRecord ContractClause := ⟨ContractClause.tenantId,ContractClause.eventTime⟩

/-- A payment is timed by `processed_at`. -/
instance : TimedRecord PaymentReference := ⟨PaymentReference.tenantId,PaymentReference.processedAt⟩

end RevPilot.Canonical
