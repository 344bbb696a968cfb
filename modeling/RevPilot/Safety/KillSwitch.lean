import RevPilot.Library.Dict
import RevPilot.Library.Runs
import RevPilot.Shared.Errors
import RevPilot.Shared.Identifiers
import RevPilot.Shared.Temporal

/-! Kill switches of a cluster: nodes with a cache and a database of their own,
joined by one bus. A push on the bus reaches the cache and the database of every
node at once, whatever the health of that database. -/
namespace RevPilot.Safety
open Library Shared

inductive KillSwitchScope : Type
  | global | tenant | capability | provider | investigation
  deriving DecidableEq

def KillSwitchScope.value : KillSwitchScope → String
  | .global => "GLOBAL"
  | .tenant => "TENANT"
  | .capability => "CAPABILITY"
  | .provider => "PROVIDER"
  | .investigation => "INVESTIGATION"

structure KillSwitchRecord where
  switchId : UUIDv7
  scope : KillSwitchScope
  targetId : Option String := none
  isActive : Bool := true
  reason : String
  activatedBy : String
  activatedAt : UtcDateTime
  deactivatedBy : Option String := none
  deactivatedAt : Option UtcDateTime := none
  reasonAccepted : reason ≠ ""
  principalAccepted : activatedBy ≠ ""

/-- Records by their own identifier. -/
structure SwitchStore where
  records : Dict UUIDv7 KillSwitchRecord
  keyed : ∀ id record, records.get? id = some record → record.switchId = id

namespace SwitchStore

def empty : SwitchStore := ⟨.empty,by simp⟩

def get (s : SwitchStore) (id : UUIDv7) : Option KillSwitchRecord := s.records.get? id

def put (s : SwitchStore) (record : KillSwitchRecord) : SwitchStore :=
  ⟨s.records.set record.switchId record,by
    intro id found stored
    rw [Dict.get?_set] at stored
    split at stored
    next own =>
      cases stored
      exact own.symm
    next other => exact s.keyed id found stored⟩

def values (s : SwitchStore) : List KillSwitchRecord := s.records.values

theorem get_put (s : SwitchStore) (record : KillSwitchRecord) (id : UUIDv7) :
    (s.put record).get id = if id = record.switchId then some record else s.get id := by
  simp only [get,put,Dict.get?_set]

theorem mem_values (s : SwitchStore) (record : KillSwitchRecord) :
    record ∈ s.values ↔ s.get record.switchId = some record := by
  rw [values,Dict.mem_values_iff]
  constructor
  · rintro ⟨id,stored⟩
    rw [s.keyed id record stored]
    exact stored
  · intro stored
    exact ⟨record.switchId,stored⟩

end SwitchStore

/-- One `KillSwitchService`. -/
structure Node where
  localCache : SwitchStore
  dbStore : SwitchStore
  isDbHealthy : Bool := true

structure Cluster where
  activeRecords : SwitchStore
  isHealthy : Bool := true
  nodes : List Node

def onRemoteUpdate (record : KillSwitchRecord) (node : Node) : Node :=
  { node with localCache := node.localCache.put record, dbStore := node.dbStore.put record }

/-- The push to the bus; without a connection it is logged and dropped. -/
def publish (c : Cluster) (record : KillSwitchRecord) : Cluster :=
  if c.isHealthy then
    { c with activeRecords := c.activeRecords.put record, nodes := c.nodes.map (onRemoteUpdate record) }
  else c

namespace KillSwitchService
variable (casing : Text.Casing)

def isAgentIdentifier (principal : String) : Bool :=
  let p := casing.lower (Text.strip principal)
  Text.contains p "agent" || Text.contains p "bot" || Text.startsWith p "usr_agent" ||
    Text.startsWith p "usr_bot" || p == "agent_delegate"

/-- A node that starts, with both stores seeded from a reachable bus. -/
def join (c : Cluster) : Cluster :=
  let seed := if c.isHealthy then c.activeRecords else .empty
  { c with nodes := c.nodes ++ [⟨seed,seed,true⟩] }

/-- The node's own writes of a record, before the push. -/
def writeLocal (record : KillSwitchRecord) (node : Node) : Node :=
  { node with
    dbStore := if node.isDbHealthy then node.dbStore.put record else node.dbStore
    localCache := node.localCache.put record }

def writeAndPublish (c : Cluster) (n : Nat) (record : KillSwitchRecord) : Cluster :=
  publish { c with nodes := c.nodes.modify n (writeLocal record) } record

/-- The arguments of `activate`. -/
structure Activate where
  scope : KillSwitchScope
  targetId : Option String
  reason : String
  principal : String

def overrideForbidden (message : String) (details : List (PyKey × PyValue)) : PyError :=
  .domain { code := "ERR_AGENT_OVERRIDE_FORBIDDEN", message := message, details := details }

/-- `target_id.strip() if target_id else None`. -/
def normalizedTarget (targetId : Option String) : Option String :=
  match targetId with
  | some target => if target = "" then none else some (Text.strip target)
  | none => none

def activate (c : Cluster) (n : Nat) (args : Activate) (switchId : UUIDv7) (now : UtcDateTime) :
    Except PyError (KillSwitchRecord × Cluster) :=
  if isAgentIdentifier casing args.principal then
    .error (overrideForbidden
      s!"Principal '{args.principal}' is an AI agent. AI agents cannot activate or deactivate kill switches."
      [(.str "principal",.str args.principal),(.str "scope",.str args.scope.value)])
  else if accepted : Text.strip args.reason ≠ "" ∧ Text.strip args.principal ≠ "" then
    let record : KillSwitchRecord := {
      switchId := switchId, scope := args.scope, targetId := normalizedTarget args.targetId, isActive := true
      reason := Text.strip args.reason, activatedBy := Text.strip args.principal, activatedAt := now
      reasonAccepted := accepted.1, principalAccepted := accepted.2 }
    .ok (record,writeAndPublish c n record)
  else .error .validationError

/-- `self._local_cache.get(sid) or self._db_store.get(sid)`. -/
def lookup (node : Node) (switchId : UUIDv7) : Option KillSwitchRecord :=
  (node.localCache.get switchId).or (node.dbStore.get switchId)

def deactivate (c : Cluster) (n : Nat) (node : Node) (switchId : UUIDv7) (reason principal : String)
    (now : UtcDateTime) : Except PyError (KillSwitchRecord × Cluster) :=
  if isAgentIdentifier casing principal then
    .error (overrideForbidden s!"Principal '{principal}' is an AI agent. AI agents cannot deactivate kill switches."
      [(.str "principal",.str principal),(.str "switch_id",.str switchId.value)])
  else
    match lookup node switchId with
    | none => .error (.domain { code := "ERR_KILL_SWITCH_ERROR"
                                message := s!"Kill switch '{switchId.value}' not found"
                                details := [(.str "switch_id",.str switchId.value)] })
    | some existing =>
      if accepted : Text.strip reason ≠ "" then
        let updated : KillSwitchRecord := { existing with
          isActive := false
          reason := Text.strip reason
          deactivatedBy := some (Text.strip principal)
          deactivatedAt := some now
          reasonAccepted := accepted }
        .ok (updated,writeAndPublish c n updated)
      else .error .validationError

/-- The lock that stands in when no store can be read. -/
def failClosed (switchId : UUIDv7) (now : UtcDateTime) : KillSwitchRecord where
  switchId := switchId
  scope := .global
  targetId := some "*"
  reason := "FAIL_CLOSED_SYSTEM_STORE_UNREACHABLE"
  activatedBy := "system_safety_guard"
  activatedAt := now
  reasonAccepted := by decide
  principalAccepted := by decide

def getActiveSwitches (c : Cluster) (node : Node) (switchId : UUIDv7) (now : UtcDateTime) :
    List KillSwitchRecord :=
  if c.isHealthy then c.activeRecords.values.filter (·.isActive)
  else if node.isDbHealthy then node.dbStore.values.filter (·.isActive)
  else [failClosed switchId now]

/-- The arguments of `is_blocked`. -/
structure Query where
  tenantId : TenantId
  capability : String
  provider : String
  investigationId : Option UUIDv7 := none

/-- The branch of the loop that compares one switch with the query. -/
def matchesQuery (switch : KillSwitchRecord) (q : Query) : Bool :=
  let target := Text.strip (switch.targetId.getD "")
  let targetLower := casing.lower target
  match switch.scope with
  | .global => true
  | .tenant => target == q.tenantId.value || targetLower == casing.lower q.tenantId.value
  | .capability => targetLower == casing.lower (Text.strip q.capability)
  | .provider => targetLower == casing.lower (Text.strip q.provider)
  | .investigation =>
    match q.investigationId with
    | none => false
    | some id =>
      let text := casing.lower (Text.strip id.value)
      text != "" && (target == id.value || targetLower == text)

def isBlocked (c : Cluster) (node : Node) (q : Query) (switchId : UUIDv7) (now : UtcDateTime) : Bool :=
  (getActiveSwitches c node switchId now).any (fun switch => switch.isActive && matchesQuery casing switch q)

end KillSwitchService
end RevPilot.Safety
