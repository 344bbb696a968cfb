import RevPilot.Library.Dict
import RevPilot.Library.PyValue
import RevPilot.Library.Rounding
import RevPilot.Library.LatestWins
import RevPilot.Shared.Identifiers
import RevPilot.Shared.Temporal

/-! The webhook inbox of the connectors. It drops an external event it has a
receipt for, and an event older than what its entity holds. -/
namespace RevPilot.Connectors
open Library Shared Runs LatestWins

inductive InboxStatus : Type
  | received
  | processed
  | duplicate
  | quarantined
  | ignoredOutOfOrder
  deriving DecidableEq

structure InboxReceipt where
  eventId : UUIDv7
  externalEventId : String
  tenantId : TenantId
  connectorId : UUIDv7
  status : InboxStatus
  isDuplicate : Bool
  receivedAt : UtcDateTime
  processedAt : Option UtcDateTime := none
  statusReason : Option String := none

abbrev Payload := List (PyKey × PyValue)

/-- The arguments of `record_incoming_event` after the tenant and the connector. -/
structure WebhookEvent where
  externalEventId : String
  rawPayload : Payload
  eventTimestamp : Option UtcDateTime := none
  entityId : Option String := none

structure TransactionalInboxService where
  inboxRegistry : Dict String InboxReceipt := .empty
  canonicalEntityState : Dict String (UtcDateTime × Payload) := .empty

/-- `value.timestamp()`: the seconds as the double nearest to them. -/
def timestamp (t : UtcDateTime) : ℚ := toDouble (t.micros / 1000000)

/-- `str` of the value an event names its entity by; for anything but a text it is a parameter. -/
def entityText (str : PyValue → String) : PyValue → String
  | .str s => s
  | value => str value

def dedupKey (tenantId : TenantId) (connectorId : UUIDv7) (externalEventId : String) : String :=
  tenantId.value ++ ":" ++ connectorId.value ++ ":" ++ externalEventId

def entityKey (tenantId : TenantId) (entity : String) : String := tenantId.value ++ ":" ++ entity

variable (str : PyValue → String)

/-- `entity_id or raw_payload.get("id") or raw_payload.get("entity_id")`, as text if it is true. -/
def targetEntity (event : WebhookEvent) : Option String :=
  let member (name : String) := ((PyValue.lookup event.rawPayload name).filter PyValue.truthy).map (entityText str)
  event.entityId.filter (· != "") <|> member "id" <|> member "entity_id"

namespace TransactionalInboxService

/-- The time of the entity's state if the event is older. -/
def supersededBy (service : TransactionalInboxService) (key : String) (evTime : UtcDateTime) : Option UtcDateTime :=
  ((service.canonicalEntityState.get? key).filter (fun entry => timestamp evTime < timestamp entry.1)).map Prod.fst

/-- The clock reading and the generated identifier are arguments. -/
def recordIncomingEvent (service : TransactionalInboxService) (tenantId : TenantId) (connectorId : UUIDv7)
    (event : WebhookEvent) (now : UtcDateTime) (generated : UUIDv7) : TransactionalInboxService × InboxReceipt :=
  let key := dedupKey tenantId connectorId event.externalEventId
  match service.inboxRegistry.get? key with
  | some existing =>
    (service,
      { eventId := existing.eventId, externalEventId := event.externalEventId, tenantId := tenantId
        connectorId := connectorId, status := .duplicate, isDuplicate := true, receivedAt := existing.receivedAt
        processedAt := some now
        statusReason := some "Duplicate external_event_id ignored; acknowledged without reprocessing" })
  | none =>
    let evTime := event.eventTimestamp.getD now
    let receipt (status : InboxStatus) (reason : String) : InboxReceipt :=
      { eventId := generated, externalEventId := event.externalEventId, tenantId := tenantId
        connectorId := connectorId, status := status, isDuplicate := false, receivedAt := now
        processedAt := some now, statusReason := some reason }
    let processed := receipt .processed "Event processed into canonical store"
    match targetEntity str event with
    | none => ({ service with inboxRegistry := service.inboxRegistry.set key processed },processed)
    | some entity =>
      match service.supersededBy (entityKey tenantId entity) evTime with
      | some last =>
        let ignored := receipt .ignoredOutOfOrder
          s!"Event timestamp {evTime.isoformat} superseded by newer canonical state ({last.isoformat})"
        ({ service with inboxRegistry := service.inboxRegistry.set key ignored },ignored)
      | none =>
        ({ inboxRegistry := service.inboxRegistry.set key processed
           canonicalEntityState :=
             service.canonicalEntityState.set (entityKey tenantId entity) (evTime,event.rawPayload) },processed)

/-- What the service holds for an entity, with its time. -/
def canonicalEntry (service : TransactionalInboxService) (tenantId : TenantId) (entity : String) :
    Option (UtcDateTime × Payload) := service.canonicalEntityState.get? (entityKey tenantId entity)

def getCanonicalState (service : TransactionalInboxService) (tenantId : TenantId) (entity : String) : Option Payload :=
  (service.canonicalEntry tenantId entity).map Prod.snd

end TransactionalInboxService

/-- One arrival of an event. -/
structure Delivery where
  event : WebhookEvent
  now : UtcDateTime
  generated : UUIDv7

/-- The event as a message for the entity it names. -/
def message (event : WebhookEvent) (now : UtcDateTime) : Message String String (UtcDateTime × Payload) where
  id := event.externalEventId
  entry := (targetEntity str event).map (fun entity => (entity,(event.eventTimestamp.getD now,event.rawPayload)))

def entryTime (entry : UtcDateTime × Payload) : ℚ := timestamp entry.1

section connector
variable (tenantId : TenantId) (connectorId : UUIDv7)

/-- One delivery, with the receipts of all deliveries so far. -/
def deliver (s : TransactionalInboxService × List InboxReceipt) (d : Delivery) :
    TransactionalInboxService × List InboxReceipt :=
  let (service,receipt) := s.1.recordIncomingEvent str tenantId connectorId d.event d.now d.generated
  (service,s.2 ++ [receipt])

def deliveries (ds : List Delivery) : TransactionalInboxService × List InboxReceipt :=
  run (deliver str tenantId connectorId) ({},[]) ds

/-- The registers a service amounts to for one tenant and connector. -/
def registers (service : TransactionalInboxService) : Registers String String (UtcDateTime × Payload) where
  seen := {x | (service.inboxRegistry.get? (dedupKey tenantId connectorId x)).isSome = true}
  held := service.canonicalEntry tenantId

theorem dedupKey_injective {a b : String} (same : dedupKey tenantId connectorId a = dedupKey tenantId connectorId b) :
    a = b := by
  simpa [dedupKey] using same

theorem entityKey_injective {a b : String} (same : entityKey tenantId a = entityKey tenantId b) : a = b := by
  simpa [entityKey] using same

end connector
end RevPilot.Connectors
