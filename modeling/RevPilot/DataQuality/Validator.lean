import RevPilot.Canonical.Records
import RevPilot.Library.Dict
import RevPilot.Library.Text
import RevPilot.Shared.Errors
import RevPilot.Shared.Temporal

/-! The data quality rules of a record. The texts of values, the decimals and the
instants that texts are read as are parameters. -/
namespace RevPilot.DataQuality
open Library Shared Canonical

/-- A reading of a clock in microseconds, with the offset of its zone if it has one. -/
structure PyDatetime where
  wall : Int
  offset : Option Int

/-- A value of a raw payload, or one of the objects that a normalized one can hold. -/
inductive FieldValue : Type
  | json (v : PyValue)
  | tenant (id : TenantId)
  | currency (c : Currency)
  | utc (t : UtcDateTime)
  | datetime (d : PyDatetime)

abbrev Fields := Dict String FieldValue

/-- `parent_entities`: the primary keys of each collection. -/
abbrev ParentEntities := Dict String (List String)

structure ValidationResult where
  isValid : Bool
  ruleId : Option String := none
  errorCode : Option String := none
  rejectionReason : Option String := none

/-- The arguments of `ValidationResult.failure`. -/
structure Rejection where
  ruleId : String
  errorCode : String
  rejectionReason : String

namespace ValidationResult

def success : ValidationResult := { isValid := true }

def failure (r : Rejection) : ValidationResult :=
  { isValid := false, ruleId := r.ruleId, errorCode := r.errorCode, rejectionReason := r.rejectionReason }

end ValidationResult

/-- The event of a tenant mismatch. -/
structure SecurityEvent where
  sessionTenantId : String
  payloadTenantId : String
  timestamp : String
  recordId : Option FieldValue

structure ValidatorLibrary where
  str : FieldValue → String
  repr : FieldValue → String
  decimal : String → Option Decimal
  fromisoformat : String → Except String PyDatetime
  isoformat : PyDatetime → String

namespace FieldValue

def isNone : FieldValue → Bool
  | .json .none => true
  | _ => false

/-- What a mandatory field may not hold. -/
def isBlank : FieldValue → Bool
  | .json .none => true
  | .json (.str s) => Text.strip s == ""
  | _ => false

/-- `isinstance(val, int) and val >= least`; a bool is an int. -/
def isAtLeast (least : Int) : FieldValue → Bool
  | .json (.int i) => decide (least ≤ i)
  | .json (.bool b) => decide (least ≤ if b then 1 else 0)
  | _ => false

/-- Lists and dictionaries have no hash. -/
def isHashable : FieldValue → Bool
  | .json (.list _) => false
  | .json (.dict _) => false
  | _ => true

/-- `val in keys` for a hashable value. -/
def isAmong (keys : List String) : FieldValue → Bool
  | .json (.str s) => keys.contains s
  | .currency c => keys.contains c.value
  | _ => false

end FieldValue

/-- `record[name]` where it is there and not `None`. -/
def present (record : Fields) (name : String) : Option FieldValue :=
  (record.get? name).filter (fun v => !v.isNone)

/-- `a < b`; readings with and without a zone do not compare. -/
def precedes (a b : PyDatetime) : Except String Bool :=
  match a.offset, b.offset with
  | some x, some y => .ok (decide (a.wall - x < b.wall - y))
  | none, none => .ok (decide (a.wall < b.wall))
  | _, _ => .error "can't compare offset-naive and offset-aware datetimes"

/-- 2020-01-01T00:00:00Z. -/
def MIN_EPOCH : PyDatetime := ⟨1577836800000000,some 0⟩

def MANDATORY_FIELDS : List String := ["id","event_time"]

def MONETARY_FIELDS : List String :=
  ["total_cents","subtotal_cents","tax_cents","shipping_cents","unit_price_cents","amount_cents"]

def VALID_CURRENCIES : List String :=
  ([.usd,.eur,.gbp,.jpy,.cad,.aud,.chf,.sgd] : List Currency).map Currency.value

section rules
variable (lib : ValidatorLibrary) (record : Fields)

def tenantText : FieldValue → String
  | .tenant id => id.value
  | v => lib.str v

def currencyText : FieldValue → String
  | .currency c => c.value
  | v => lib.str v

def parse (v : FieldValue) : Except String PyDatetime :=
  lib.fromisoformat (Text.replace (lib.str v) "Z" "+00:00")

/-- An event time: a reading without a zone is one in UTC unless it is a text. -/
def eventTime : FieldValue → Except String PyDatetime
  | .utc t => .ok ⟨t.micros,some 0⟩
  | .datetime d => .ok { d with offset := some (d.offset.getD 0) }
  | v => parse lib v

def effectiveTime : FieldValue → Except String PyDatetime
  | .utc t => .ok ⟨t.micros,some 0⟩
  | v => parse lib v

def requiredRule : Option Rejection :=
  MANDATORY_FIELDS.findSome? fun name =>
    if (record.get? name).all FieldValue.isBlank then
      some ⟨"DQ-REQ-001","MISSING_MANDATORY_FIELD","Mandatory field '" ++ name ++ "' is missing, null, or empty"⟩
    else none

def rangeFailure (name requirement : String) (v : FieldValue) : Rejection :=
  ⟨"DQ-TYP-001","RANGE_CHECK_FAILED","Field '" ++ name ++ "' " ++ requirement ++ ": " ++ lib.repr v⟩

def monetaryRule : Option Rejection :=
  MONETARY_FIELDS.findSome? fun name => (present record name).bind fun v =>
    if v.isAtLeast 0 then none else some (rangeFailure lib name "must be a non-negative integer (cents), got" v)

def quantityRule : Option Rejection :=
  (present record "quantity").bind fun v =>
    if v.isAtLeast 1 then none else some (rangeFailure lib "quantity" "must be a positive integer, got" v)

/-- Whether a percentage is out of its range; comparing a NaN raises. -/
def outOfRange (d : Decimal) : Option Bool :=
  match (Decimal.ofCents 0).gt d with
  | some false => d.gt (Decimal.ofCents 10000)
  | signal => signal

def percentageRule : Option Rejection :=
  (present record "impact_capacity_reduction_pct").bind fun v =>
    match (lib.decimal (lib.str v)).bind outOfRange with
    | some false => none
    | some true => some (rangeFailure lib "impact_capacity_reduction_pct" "must be between 0.00 and 100.00, got" v)
    | none => some (rangeFailure lib "impact_capacity_reduction_pct" "is not a valid decimal" v)

def currencyRule : Option Rejection :=
  (present record "currency").bind fun v =>
    if VALID_CURRENCIES.contains (currencyText lib v) then none
    else some ⟨"DQ-CUR-001","UNSUPPORTED_CURRENCY",
      "Currency '" ++ currencyText lib v ++ "' is not a recognized canonical currency"⟩

def sequenceFailure (reason : String) : Rejection :=
  ⟨"DQ-ORD-001","INVALID_TIMESTAMP_SEQUENCE",reason⟩

/-- A failure of the two instants in the wrong order, or of what kept them from being compared. -/
def orderRule (first second : Except String PyDatetime) (wrong : PyDatetime → PyDatetime → String) (unread : String) :
    Option Rejection :=
  match (do let a ← first; let b ← second; pure (a,b,← precedes a b)) with
  | .ok (_,_,false) => none
  | .ok (a,b,true) => some (sequenceFailure (wrong a b))
  | .error e => some (sequenceFailure (unread ++ ": " ++ e))

def eventTimeRule : Option Rejection :=
  orderRule (eventTime lib ((record.get? "event_time").getD (.json .none))) (.ok MIN_EPOCH)
    (fun et _ => "event_time " ++ lib.isoformat et ++ " precedes minimum epoch 2020-01-01") "Failed to parse event_time"

/-- The start is read before the end and compared after it. -/
def effectiveRule : Option Rejection :=
  match record.get? "effective_from", present record "effective_to" with
  | some from?, some to? =>
    match effectiveTime lib from? with
    | .error e => some (sequenceFailure ("Failed to validate effective timestamp sequence: " ++ e))
    | .ok ef => orderRule (effectiveTime lib to?) (.ok ef)
      (fun et ef => "effective_to " ++ lib.isoformat et ++ " precedes effective_from " ++ lib.isoformat ef)
      "Failed to validate effective timestamp sequence"
  | _, _ => none

/-- The rules between the tenant's and the referential ones. -/
def fieldRules : Option Rejection :=
  requiredRule record <|> monetaryRule lib record <|> quantityRule lib record <|> percentageRule lib record <|>
    currencyRule lib record <|> eventTimeRule lib record <|> effectiveRule lib record

/-- `val not in parent_entities.get(collection, set())`. -/
def referenceRule (parents : ParentEntities) (name collection : String) : Except PyError (Option Rejection) :=
  match present record name with
  | none => .ok none
  | some v =>
    if !v.isHashable then .error .typeError
    else if v.isAmong ((parents.get? collection).getD []) then .ok none
    else .ok (some ⟨"DQ-REF-001","ORPHAN_FOREIGN_KEY",
      "Referenced " ++ name ++ " '" ++ lib.str v ++ "' does not exist in tenant canonical dataset"⟩)

def referenceRules : Option ParentEntities → Except PyError (Option Rejection)
  | none => .ok none
  | some parents => do
    match ← referenceRule lib record parents "customer_id" "customers" with
    | some rejection => pure (some rejection)
    | none => referenceRule lib record parents "order_id" "orders"

/-- The audit log and the answer; a record that is no dictionary is `none`. -/
def validateRecord (now : UtcDateTime) (auditLog : List SecurityEvent) (record : Option Fields)
    (sessionTenantId : TenantId) (parentEntities : Option ParentEntities) :
    List SecurityEvent × Except PyError ValidationResult :=
  match record with
  | none =>
    (auditLog,.ok (.failure ⟨"DQ-SCH-001","SCHEMA_VALIDATION_FAILED","Payload is not a valid dictionary structure"⟩))
  | some record =>
    match present record "tenant_id" with
    | none => (auditLog,.ok (.failure ⟨"DQ-REQ-001","MISSING_MANDATORY_FIELD","Missing required tenant_id field"⟩))
    | some owner =>
      if tenantText lib owner ≠ sessionTenantId.value then
        (auditLog ++ [⟨sessionTenantId.value,tenantText lib owner,now.isoformat,record.get? "id"⟩],
          .ok (.failure ⟨"DQ-TEN-001","TENANT_MISMATCH_DETECTED","Cross-tenant injection attempt: record tenant " ++
            tenantText lib owner ++ " != session " ++ sessionTenantId.value⟩))
      else
        match fieldRules lib record with
        | some rejection => (auditLog,.ok (.failure rejection))
        | none => (auditLog,(referenceRules lib record parentEntities).map (·.elim .success .failure))

end rules
end RevPilot.DataQuality
