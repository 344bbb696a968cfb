import RevPilot.Library.DecimalArithmetic
import RevPilot.Library.Dict
import RevPilot.Shared.Identifiers
import RevPilot.Shared.Temporal

/-! The quota manager: spend reservations against a tenant's hard limit. Every
operation returns its outcome together with the manager it leaves behind, which
a raised error does not roll back. -/
namespace RevPilot.Finops
open Library Shared

/-- The exceptions of the manager and of the arithmetic and record classes under it. -/
inductive QuotaFailure : Type
  | quota (message code : String) (statusCode : Nat)
  | valueError (message : String)
  | validationError
  | overflowError
  | decimal (signal : Decimal.Signal)

def quotaExhaustedError (message : String) : QuotaFailure := .quota message "QUOTA_EXHAUSTED" 402

def reservationExpiredError (message : String) : QuotaFailure := .quota message "RESERVATION_EXPIRED" 409

structure SpendReservationToken where
  tokenId : String
  tenantId : TenantId
  reservedAmount : Decimal
  dimension : String
  expiresAt : UtcDateTime
  isFinalized : Bool := false
  isReleased : Bool := false
  createdAt : UtcDateTime
  amountAccepted : reservedAmount.value.isSome = true

structure TenantQuotaPolicy where
  tenantId : TenantId
  hardSpendLimitUsd : Decimal
  reservedSpendUsd : Decimal := .ofCents 0
  committedSpendUsd : Decimal := .ofCents 0
  limitAccepted : hardSpendLimitUsd.value.isSome = true

/-- Policies by the tenant's text and reservations by token. -/
structure QuotaManager where
  policies : Dict String TenantQuotaPolicy := .empty
  reservations : Dict String SpendReservationToken := .empty

/-- `datetime.timestamp()` of an aware time: the seconds as a double. -/
def timestamp (t : UtcDateTime) : ℚ := toDouble (t.micros / 1000000)

namespace QuotaManager

/-- The default pilot policy. -/
def defaultPolicy (tenantId : TenantId) : TenantQuotaPolicy where
  tenantId := tenantId
  hardSpendLimitUsd := .ofCents 100000
  limitAccepted := rfl

def putPolicy (m : QuotaManager) (tenantId : TenantId) (policy : TenantQuotaPolicy) : QuotaManager :=
  { m with policies := m.policies.set tenantId.value policy }

def putToken (m : QuotaManager) (tokenId : String) (token : SpendReservationToken) : QuotaManager :=
  { m with reservations := m.reservations.set tokenId token }

def setQuotaPolicy (m : QuotaManager) (tenantId : TenantId) (hardSpendLimitUsd : Decimal) :
    Except QuotaFailure TenantQuotaPolicy × QuotaManager :=
  if accepted : hardSpendLimitUsd.value.isSome = true then
    let policy : TenantQuotaPolicy :=
      { tenantId := tenantId, hardSpendLimitUsd := hardSpendLimitUsd, limitAccepted := accepted }
    (.ok policy,m.putPolicy tenantId policy)
  else (.error .validationError,m)

/-- The policy that `get_quota_policy` returns. -/
def policyOf (m : QuotaManager) (tenantId : TenantId) : TenantQuotaPolicy :=
  (m.policies.get? tenantId.value).getD (defaultPolicy tenantId)

def getQuotaPolicy (m : QuotaManager) (tenantId : TenantId) : TenantQuotaPolicy × QuotaManager :=
  match m.policies.get? tenantId.value with
  | some policy => (policy,m)
  | none => (defaultPolicy tenantId,m.putPolicy tenantId (defaultPolicy tenantId))

def arithmetic {α : Type} (result : Except Decimal.Signal α) : Except QuotaFailure α :=
  result.mapError .decimal

/-- The budget check of `reserve_spend` and the reserved spend it leads to. -/
def admission (policy : TenantQuotaPolicy) (tenantId : TenantId) (estimatedUsd : Decimal) :
    Except QuotaFailure Decimal := do
  let used ← arithmetic (policy.reservedSpendUsd.add policy.committedSpendUsd)
  let available ← arithmetic (policy.hardSpendLimitUsd.sub used)
  if ← arithmetic (available.lt estimatedUsd) then
    let requested := estimatedUsd.toText
    let left := available.toFixed2
    let limit := policy.hardSpendLimitUsd.toText
    throw (quotaExhaustedError
      s!"Tenant '{tenantId.value}' spend quota exhausted: requested ${requested}, available ${left} (Limit: ${limit})")
  else arithmetic (policy.reservedSpendUsd.add estimatedUsd)

/-- The arguments of `reserve_spend`. -/
structure Reserve where
  tenantId : TenantId
  estimatedUsd : Decimal
  dimension : String := "spend_usd"
  ttlSeconds : Int := 60
  asOfTime : Option UtcDateTime := none

/-- The clock reading and the generated token identifier are arguments. -/
def reserveSpend (m : QuotaManager) (args : Reserve) (clock : UtcDateTime) (tokenId : String) :
    Except QuotaFailure SpendReservationToken × QuotaManager :=
  match arithmetic ((Decimal.ofCents 0).lt args.estimatedUsd) with
  | .error error => (.error error,m)
  | .ok false => (.error (.valueError "Estimated spend must be strictly positive"),m)
  | .ok true =>
    let (policy,m) := m.getQuotaPolicy args.tenantId
    match admission policy args.tenantId args.estimatedUsd with
    | .error error => (.error error,m)
    | .ok reserved =>
      -- the spend is booked before the token is known to be well formed
      let m := m.putPolicy args.tenantId { policy with reservedSpendUsd := reserved }
      let now := args.asOfTime.getD clock
      match now.plusSeconds args.ttlSeconds with
      | none => (.error .overflowError,m)
      | some expiresAt =>
        if accepted : args.estimatedUsd.value.isSome = true then
          let token : SpendReservationToken :=
            { tokenId := tokenId, tenantId := args.tenantId, reservedAmount := args.estimatedUsd
              dimension := args.dimension, expiresAt := expiresAt, createdAt := now, amountAccepted := accepted }
          (.ok token,m.putToken tokenId token)
        else (.error .validationError,m)

/-- The token only names the stored reservation. -/
def finalizeSpend (m : QuotaManager) (tokenId : String) (actualUsd : Decimal) (asOfTime : Option UtcDateTime)
    (clock : UtcDateTime) : Except QuotaFailure Unit × QuotaManager :=
  match m.reservations.get? tokenId with
  | none => (.error (.valueError s!"Reservation token '{tokenId}' not found"),m)
  | some stored =>
    if stored.isFinalized then (.ok (),m)
    else if stored.isReleased then (.error (.valueError "Reservation token has already been released"),m)
    else
      let now := asOfTime.getD clock
      let (policy,m) := m.getQuotaPolicy stored.tenantId
      match arithmetic (policy.reservedSpendUsd.sub stored.reservedAmount) with
      | .error error => (.error error,m)
      | .ok reserved =>
        let m := m.putPolicy stored.tenantId { policy with reservedSpendUsd := reserved }
        if timestamp stored.expiresAt < timestamp now then
          (.error (reservationExpiredError s!"Reservation token '{tokenId}' expired before finalization"),
            m.putToken tokenId { stored with isReleased := true })
        else
          match arithmetic (policy.committedSpendUsd.add actualUsd) with
          | .error error => (.error error,m)
          | .ok committed =>
            let policy := { policy with reservedSpendUsd := reserved, committedSpendUsd := committed }
            (.ok (),(m.putPolicy stored.tenantId policy).putToken tokenId { stored with isFinalized := true })

def releaseReservation (m : QuotaManager) (tokenId : String) : Except QuotaFailure Unit × QuotaManager :=
  match m.reservations.get? tokenId with
  | none => (.ok (),m)
  | some stored =>
    if stored.isFinalized || stored.isReleased then (.ok (),m)
    else
      let (policy,m) := m.getQuotaPolicy stored.tenantId
      match arithmetic (policy.reservedSpendUsd.sub stored.reservedAmount) with
      | .error error => (.error error,m)
      | .ok reserved =>
        (.ok (),(m.putPolicy stored.tenantId { policy with reservedSpendUsd := reserved }).putToken tokenId
          { stored with isReleased := true })

end QuotaManager

/-- The spend operations, which run under the policies that are set. -/
inductive SpendOperation : Type
  | reserve (args : QuotaManager.Reserve) (clock : UtcDateTime) (tokenId : String)
  | finalize (tokenId : String) (actualUsd : Decimal) (asOfTime : Option UtcDateTime) (clock : UtcDateTime)
  | release (tokenId : String)

def SpendOperation.step (m : QuotaManager) : SpendOperation → QuotaManager
  | .reserve args clock tokenId => (m.reserveSpend args clock tokenId).2
  | .finalize tokenId actualUsd asOfTime clock => (m.finalizeSpend tokenId actualUsd asOfTime clock).2
  | .release tokenId => (m.releaseReservation tokenId).2

inductive QuotaOperation : Type
  | setPolicy (tenantId : TenantId) (hardSpendLimitUsd : Decimal)
  | spend (op : SpendOperation)

namespace QuotaOperation

/-- One call, whether it returns or raises. -/
def step (m : QuotaManager) : QuotaOperation → QuotaManager
  | .setPolicy tenantId limit => (m.setQuotaPolicy tenantId limit).2
  | .spend op => op.step m

/-- The token identifier that a call generates. -/
def generated : QuotaOperation → Option String
  | .spend (.reserve _ _ tokenId) => some tokenId
  | _ => none

end QuotaOperation
end RevPilot.Finops
