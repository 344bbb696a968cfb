import RevPilot.Canonical.Records
import RevPilot.Connectors.Inbox
import RevPilot.Library.Outcome
import RevPilot.Shared.Errors

/-! The webhook path of the Stripe adapter: tenant boundary, signature, receipt and mapping. A receipt
is stored before the event is mapped. The JSON parser, the digests, `str`, `int` of texts and floats
and the clock arithmetic are parameters. -/
namespace RevPilot.Connectors
open Library Shared Canonical

def connectorError (code message : String) : PyError := .domain { code := code, message := message }

def canonicalError (message : String) : PyError :=
  .domain { code := "CANONICAL_VALIDATION_ERROR", message := message }

/-- The fields of a mapped payment; the defaults of the record are left out. -/
structure MappedPayment extends PaymentReference where
  id : String
  orderId : String
  amountCents : Int
  eventTime : UtcDateTime
  effectiveFrom : UtcDateTime

/-- `hmac secret text body` is the hexadecimal HMAC of the text and the body behind it, and
`skew header now` the distance as text with whether it is over 300 seconds, or the error of a header
that is no time. -/
structure StripeLibrary where
  hmac : String → String → List UInt8 → String
  skew : String → UtcDateTime → Except String (String × Bool)
  loads : List UInt8 → Except PyError PyValue
  str : PyValue → String
  upper : String → String
  intOfText : String → Except PyError Int
  intOfFloat : JsonText.FloatText → Except PyError Int

/-- The readings of the clock in one call, in their order. -/
structure ClockReadings where
  verified : UtcDateTime
  named : UtcDateTime
  recorded : UtcDateTime
  mapped : UtcDateTime

structure WebhookDelivery where
  executionTenantId : TenantId
  rawBody : List UInt8
  signatureHeader : String
  timestampHeader : String
  clock : ClockReadings
  generated : UUIDv7

def maxPayloadBytes : Nat := 2 * 1024 * 1024

section verifier
variable (lib : StripeLibrary)

/-- What follows the first `=`, if there is one. -/
def withoutScheme (signature : String) : String :=
  match signature.toList.dropWhile (· != '=') with
  | [] => signature
  | _ :: rest => String.ofList rest

def generateWebhookSignature (rawBody : List UInt8) (secret timestampStr : String) : String :=
  lib.hmac secret ("t=" ++ timestampStr ++ ".") rawBody

def verifySignature (d : WebhookDelivery) (secret : String) : Except PyError Unit :=
  if d.rawBody.length > maxPayloadBytes then
    .error (connectorError "PAYLOAD_TOO_LARGE" ("Webhook payload size " ++ d.rawBody.length.repr ++
      " bytes exceeds maximum " ++ maxPayloadBytes.repr ++ " bytes (2MB)"))
  else
    match lib.skew (Text.strip d.timestampHeader) d.clock.verified with
    | .error err => .error (connectorError "TIMESTAMP_SKEW"
        ("Invalid timestamp format '" ++ d.timestampHeader ++ "': " ++ err))
    | .ok (seconds,true) => .error (connectorError "TIMESTAMP_SKEW"
        ("Webhook timestamp skew " ++ seconds ++ "s exceeds maximum allowed tolerance of 300s"))
    | .ok (_,false) =>
      let actualSig := withoutScheme (Text.strip d.signatureHeader)
      let expectedSig := generateWebhookSignature lib d.rawBody secret (Text.strip d.timestampHeader)
      if Text.isAscii actualSig && Text.isAscii expectedSig then
        if actualSig = expectedSig then .ok ()
        else .error (connectorError "INVALID_SIGNATURE"
          "HMAC-SHA256 signature mismatch: forged or tampered webhook payload")
      else .error .typeError

end verifier

section mapping
variable (lib : StripeLibrary)

/-- `int(v)`. -/
def toInt : PyValue → Except PyError Int
  | .int i => .ok i
  | .bool b => .ok (if b then 1 else 0)
  | .float x => lib.intOfFloat x
  | .str s => lib.intOfText s
  | _ => .error .typeError

def isText (needle : String) : PyValue → Bool
  | .str s => s == needle
  | _ => false

/-- `needle in v`. -/
def occursIn (needle : String) : PyValue → Except PyError Bool
  | .str s => .ok (Text.contains s needle)
  | .list items => .ok (items.any (isText needle))
  | .tuple items => .ok (items.any (isText needle))
  | .dict members => .ok (members.any (fun m => m.1 == .str needle))
  | _ => .error .typeError

/-- `v.get(...)` of a value that has to be a dictionary. -/
def members : PyValue → Except PyError Payload
  | .dict members => .ok members
  | _ => .error .attributeError

/-- `event.get("data", {}).get("object", event)`. -/
def eventObject (event : Payload) : Except PyError Payload := do
  let data ← members ((PyValue.lookup event "data").getD (.dict []))
  members ((PyValue.lookup data "object").getD (.dict event))

def paymentId (obj : Payload) : String := lib.str ((PyValue.lookup obj "id").getD (.str "ch_unknown"))

def orderId (obj : Payload) : String :=
  lib.str ((PyValue.lookup obj "invoice").getD (.str ("inv_" ++ paymentId lib obj)))

def eventType (event : Payload) : PyValue := (PyValue.lookup event "type").getD (.str "invoice.paid")

def entityIdOf (value name : String) : Except PyError String :=
  if Text.strip value = "" then .error (canonicalError (name ++ " id must be a non-empty string"))
  else .ok (Text.strip value)

def mapStripeEventToPayment (event : Payload) (tenantId : TenantId) (now : UtcDateTime) : Except PyError MappedPayment := do
  let obj ← eventObject event
  let amountCents ← toInt lib ((PyValue.lookup obj "amount").getD (.int 0))
  let currencyStr := lib.upper (lib.str ((PyValue.lookup obj "currency").getD (.str "usd")))
  let refund ← occursIn "refund" (eventType event)
  let paid ← occursIn "paid" (eventType event)
  let succeeded ← occursIn "succeeded" (eventType event)
  let id ← entityIdOf ("pay_" ++ paymentId lib obj) "PaymentReference"
  let orderId ← entityIdOf (orderId lib obj) "PaymentReference.order_id"
  if amountCents < 0 then
    throw (canonicalError ("amount_cents must be a non-negative integer, got " ++ amountCents.repr))
  else
    return { tenantId, id, orderId, amountCents, gatewayProvider := .stripe
             transactionType := if refund then .refund else .capture
             paymentStatus := if paid || succeeded then .succeeded else .pending
             currency := if currencyStr = "USD" then .usd else .eur
             processedAt := now, eventTime := now, effectiveFrom := now }

end mapping

structure StripeConnectorAdapter where
  tenantId : TenantId
  connectorId : UUIDv7
  webhookSecret : String

abbrev WebhookAnswer := Except PyError (InboxReceipt × Option MappedPayment)

namespace StripeConnectorAdapter
variable (lib : StripeLibrary) (adapter : StripeConnectorAdapter)

def verifyTenantBoundary (executionTenantId : TenantId) : Except PyError Unit :=
  if executionTenantId = adapter.tenantId then .ok ()
  else .error (tenancyViolationError
    ("Cross-tenant sync violation: Connector belongs to tenant '" ++ adapter.tenantId.value ++
      "', execution requested by '" ++ executionTenantId.value ++ "' (INV-TEN-001).")
    [(.str "connector_tenant",.str adapter.tenantId.value),(.str "execution_tenant",.str executionTenantId.value)])

/-- `int(q)`. -/
def truncated (q : ℚ) : Int := if 0 ≤ q then ⌊q⌋ else ⌈q⌉

/-- `event_dict.get("id", ...)`, with a name from the second of the call for an event without one. -/
def eventIdOf (event : Payload) (named : UtcDateTime) : PyValue :=
  (PyValue.lookup event "id").getD (.str ("evt_stripe_" ++ (truncated (timestamp named)).repr))

/-- `record_incoming_event` for an identifier of any kind: the receipt refuses one that is no text, when
the state of the entity is already written. -/
def recordEvent (service : TransactionalInboxService) (d : WebhookDelivery) (event : Payload) :
    TransactionalInboxService × Except PyError InboxReceipt :=
  let record (externalEventId : String) := service.recordIncomingEvent lib.str d.executionTenantId adapter.connectorId
    { externalEventId := externalEventId, rawPayload := event } d.clock.recorded d.generated
  match eventIdOf event d.clock.named with
  | .str id => ((record id).1,.ok (record id).2)
  | value => ({ (record (lib.str value)).1 with inboxRegistry := service.inboxRegistry },.error .validationError)

/-- The event of a body that passed the checks before. -/
def readEvent (d : WebhookDelivery) : Except PyError Payload := do
  adapter.verifyTenantBoundary d.executionTenantId
  verifySignature lib d adapter.webhookSecret
  let eventDict ← lib.loads d.rawBody
  members eventDict

def processWebhookEvent (service : TransactionalInboxService) (d : WebhookDelivery) :
    TransactionalInboxService × WebhookAnswer :=
  match adapter.readEvent lib d with
  | .error error => (service,.error error)
  | .ok event =>
    match adapter.recordEvent lib service d event with
    | (service,.error error) => (service,.error error)
    | (service,.ok receipt) =>
      if receipt.isDuplicate then (service,.ok (receipt,none))
      else (service,(mapStripeEventToPayment lib event d.executionTenantId d.clock.mapped).map
        (fun payment => (receipt,some payment)))

end StripeConnectorAdapter
end RevPilot.Connectors
