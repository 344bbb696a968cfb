import RevPilot.Finops.Quota
import RevPilot.Library.Outcome

/-! What one spend operation does to the policies and reservations. -/
namespace RevPilot.Finops
open Library Shared Outcome

def SpendReservationToken.isOpen (token : SpendReservationToken) : Bool := !token.isFinalized && !token.isReleased

namespace QuotaManager

/-- The manager after `get_quota_policy`. -/
def touch (m : QuotaManager) (t : TenantId) : QuotaManager := (m.getQuotaPolicy t).2

theorem getQuotaPolicy_eq (m : QuotaManager) (t : TenantId) : m.getQuotaPolicy t = (m.policyOf t,m.touch t) := by
  unfold touch getQuotaPolicy policyOf
  cases m.policies.get? t.value <;> rfl

@[simp] theorem policyOf_putPolicy (m : QuotaManager) (t t' : TenantId) (policy : TenantQuotaPolicy) :
    (m.putPolicy t policy).policyOf t' = if t' = t then policy else m.policyOf t' := by
  have key : t'.value = t.value ↔ t' = t := by
    constructor
    · intro same
      cases t'
      cases t
      cases same
      rfl
    · rintro rfl
      rfl
  simp only [policyOf,putPolicy,Dict.get?_set,key]
  by_cases same : t' = t <;> simp [same]

@[simp] theorem putToken_policyOf (m : QuotaManager) (id : String) (token : SpendReservationToken) (t : TenantId) :
    (m.putToken id token).policyOf t = m.policyOf t := rfl

@[simp] theorem putPolicy_reservations (m : QuotaManager) (t : TenantId) (policy : TenantQuotaPolicy) :
    (m.putPolicy t policy).reservations = m.reservations := rfl

@[simp] theorem putToken_reservations (m : QuotaManager) (id : String) (token : SpendReservationToken) :
    (m.putToken id token).reservations = m.reservations.set id token := rfl

@[simp] theorem touch_policyOf (m : QuotaManager) (t t' : TenantId) : (m.touch t).policyOf t' = m.policyOf t' := by
  unfold touch getQuotaPolicy
  cases found : m.policies.get? t.value with
  | some policy => rfl
  | none =>
    dsimp only
    rw [policyOf_putPolicy]
    split
    next same =>
      subst same
      simp [policyOf,found]
    next => rfl

@[simp] theorem touch_reservations (m : QuotaManager) (t : TenantId) : (m.touch t).reservations = m.reservations := by
  unfold touch getQuotaPolicy
  cases m.policies.get? t.value <;> rfl

/-- Neither a reservation nor a policy that is asked for has changed. -/
structure Same (m m' : QuotaManager) : Prop where
  reservations : m'.reservations = m.reservations
  policies : ∀ t, m'.policyOf t = m.policyOf t

theorem same_refl (m : QuotaManager) : Same m m := ⟨rfl,fun _ => rfl⟩

theorem same_touch (m : QuotaManager) (t : TenantId) : Same m (m.touch t) := ⟨by simp,by simp⟩

/-- The manager with new figures of a tenant. -/
def booked (m : QuotaManager) (t : TenantId) (reserved committed : Decimal) : QuotaManager :=
  (m.touch t).putPolicy t { m.policyOf t with reservedSpendUsd := reserved, committedSpendUsd := committed }

@[simp] theorem booked_policyOf (m : QuotaManager) (t t' : TenantId) (reserved committed : Decimal) :
    (m.booked t reserved committed).policyOf t' =
      if t' = t then { m.policyOf t with reservedSpendUsd := reserved, committedSpendUsd := committed }
      else m.policyOf t' := by simp [booked]

@[simp] theorem booked_reservations (m : QuotaManager) (t : TenantId) (reserved committed : Decimal) :
    (m.booked t reserved committed).reservations = m.reservations := by simp [booked]

/-- The new reserved spend, if a reservation passes the budget check. -/
def admitted (m : QuotaManager) (args : Reserve) : Option Decimal :=
  match (Decimal.ofCents 0).lt args.estimatedUsd, admission (m.policyOf args.tenantId) args.tenantId args.estimatedUsd with
  | .ok true, .ok reserved => some reserved
  | _, _ => none

/-- An admitted amount is positive, and fits what the limit leaves. -/
theorem admitted_spec {m : QuotaManager} {args : Reserve} {reserved : Decimal} (ok : m.admitted args = some reserved) :
    ∃ used available, (Decimal.ofCents 0).lt args.estimatedUsd = .ok true ∧
      (m.policyOf args.tenantId).reservedSpendUsd.add (m.policyOf args.tenantId).committedSpendUsd = .ok used ∧
      (m.policyOf args.tenantId).hardSpendLimitUsd.sub used = .ok available ∧
      available.lt args.estimatedUsd = .ok false ∧
      (m.policyOf args.tenantId).reservedSpendUsd.add args.estimatedUsd = .ok reserved := by
  unfold admitted at ok
  split at ok
  next result sign check =>
    obtain rfl := Option.some.inj ok
    simp only [admission,arithmetic,bind_eq_ok,mapError_eq_ok,guard_eq_ok] at check
    obtain ⟨used,spent,available,left,answer,short,enough,sum⟩ := check
    have fits : answer = false := by simpa using enough
    exact ⟨used,available,sign,spent,left,fits ▸ short,sum⟩
  next => cases ok

/-- The token of an admitted reservation, if its expiry and its amount can be represented. -/
def tokenOf (args : Reserve) (clock : UtcDateTime) (tokenId : String) : Option SpendReservationToken :=
  match (args.asOfTime.getD clock).plusSeconds args.ttlSeconds with
  | none => none
  | some expiresAt =>
    if accepted : args.estimatedUsd.value.isSome = true then
      some { tokenId := tokenId, tenantId := args.tenantId, reservedAmount := args.estimatedUsd
             dimension := args.dimension, expiresAt := expiresAt, createdAt := args.asOfTime.getD clock
             amountAccepted := accepted }
    else none

/-- The open reservation under an identifier and the reserved spend without it. -/
def closing (m : QuotaManager) (tokenId : String) : Option (SpendReservationToken × Decimal) :=
  match m.reservations.get? tokenId with
  | none => none
  | some stored =>
    match stored.isOpen, (m.policyOf stored.tenantId).reservedSpendUsd.sub stored.reservedAmount with
    | true, .ok reserved => some (stored,reserved)
    | _, _ => none

def expired (stored : SpendReservationToken) (now : UtcDateTime) : Bool :=
  timestamp stored.expiresAt < timestamp now

theorem reserve_same {m : QuotaManager} {args : Reserve} (refused : m.admitted args = none) (clock : UtcDateTime)
    (tokenId : String) : Same m (m.reserveSpend args clock tokenId).2 := by
  unfold admitted at refused
  simp only [reserveSpend,getQuotaPolicy_eq,arithmetic]
  cases sign : (Decimal.ofCents 0).lt args.estimatedUsd with
  | error signal => exact same_refl m
  | ok positive =>
    cases positive with
    | false => exact same_refl m
    | true =>
      cases check : admission (m.policyOf args.tenantId) args.tenantId args.estimatedUsd with
      | error failure => simpa [Except.mapError,check] using same_touch m args.tenantId
      | ok reserved =>
        rw [sign,check] at refused
        cases refused

theorem reserve_booked {m : QuotaManager} {args : Reserve} {reserved : Decimal}
    (ok : m.admitted args = some reserved) (clock : UtcDateTime) (tokenId : String) :
    (m.reserveSpend args clock tokenId).2 =
      match tokenOf args clock tokenId with
      | none => m.booked args.tenantId reserved (m.policyOf args.tenantId).committedSpendUsd
      | some token =>
        (m.booked args.tenantId reserved (m.policyOf args.tenantId).committedSpendUsd).putToken tokenId token := by
  unfold admitted at ok
  split at ok
  next sign check =>
    obtain rfl := Option.some.inj ok
    simp only [reserveSpend,getQuotaPolicy_eq,arithmetic,sign,Except.mapError,check,tokenOf]
    cases (args.asOfTime.getD clock).plusSeconds args.ttlSeconds with
    | none => rfl
    | some expiresAt => by_cases accepted : args.estimatedUsd.value.isSome = true <;> simp [accepted,booked]
  next => cases ok

theorem closing_some {m : QuotaManager} {tokenId : String} {stored : SpendReservationToken} {reserved : Decimal}
    (ok : m.closing tokenId = some (stored,reserved)) :
    m.reservations.get? tokenId = some stored ∧ stored.isOpen = true ∧
      (m.policyOf stored.tenantId).reservedSpendUsd.sub stored.reservedAmount = .ok reserved := by
  unfold closing at ok
  split at ok
  next => cases ok
  next token found =>
    split at ok
    next isOpen less =>
      cases ok
      exact ⟨found,isOpen,less⟩
    next => cases ok

theorem release_same {m : QuotaManager} {tokenId : String} (kept : m.closing tokenId = none) :
    Same m (m.releaseReservation tokenId).2 := by
  unfold closing at kept
  cases found : m.reservations.get? tokenId with
  | none =>
    simp only [releaseReservation,found]
    exact same_refl m
  | some stored =>
    simp only [found] at kept
    simp only [releaseReservation,found,getQuotaPolicy_eq,arithmetic]
    split
    next => exact same_refl m
    next still =>
      have isOpen : stored.isOpen = true := by simpa [SpendReservationToken.isOpen] using still
      rw [isOpen] at kept
      cases less : (m.policyOf stored.tenantId).reservedSpendUsd.sub stored.reservedAmount with
      | error signal => exact same_touch m stored.tenantId
      | ok reserved =>
        rw [less] at kept
        cases kept

theorem release_booked {m : QuotaManager} {tokenId : String} {stored : SpendReservationToken} {reserved : Decimal}
    (ok : m.closing tokenId = some (stored,reserved)) :
    (m.releaseReservation tokenId).2 =
      (m.booked stored.tenantId reserved (m.policyOf stored.tenantId).committedSpendUsd).putToken tokenId
        { stored with isReleased := true } := by
  obtain ⟨found,isOpen,less⟩ := closing_some ok
  have still : ¬ (stored.isFinalized || stored.isReleased) = true := by
    simpa [SpendReservationToken.isOpen] using isOpen
  simp only [releaseReservation,getQuotaPolicy_eq,found,if_neg still,arithmetic,less,Except.mapError]
  rfl

theorem finalize_same {m : QuotaManager} {tokenId : String} (kept : m.closing tokenId = none) (actualUsd : Decimal)
    (asOfTime : Option UtcDateTime) (clock : UtcDateTime) :
    Same m (m.finalizeSpend tokenId actualUsd asOfTime clock).2 := by
  unfold closing at kept
  cases found : m.reservations.get? tokenId with
  | none =>
    simp only [finalizeSpend,found]
    exact same_refl m
  | some stored =>
    simp only [found] at kept
    simp only [finalizeSpend,found,getQuotaPolicy_eq,arithmetic]
    split
    next => exact same_refl m
    next pending =>
      split
      next => exact same_refl m
      next held =>
        have isOpen : stored.isOpen = true := by simp [SpendReservationToken.isOpen,pending,held]
        rw [isOpen] at kept
        cases less : (m.policyOf stored.tenantId).reservedSpendUsd.sub stored.reservedAmount with
        | error signal => exact same_touch m stored.tenantId
        | ok reserved =>
          rw [less] at kept
          cases kept

theorem finalize_booked {m : QuotaManager} {tokenId : String} {stored : SpendReservationToken} {reserved : Decimal}
    (ok : m.closing tokenId = some (stored,reserved)) (actualUsd : Decimal) (asOfTime : Option UtcDateTime)
    (clock : UtcDateTime) :
    Same (if expired stored (asOfTime.getD clock) then
        (m.booked stored.tenantId reserved (m.policyOf stored.tenantId).committedSpendUsd).putToken tokenId
          { stored with isReleased := true }
      else
        match (m.policyOf stored.tenantId).committedSpendUsd.add actualUsd with
        | .error _ => m.booked stored.tenantId reserved (m.policyOf stored.tenantId).committedSpendUsd
        | .ok committed =>
          (m.booked stored.tenantId reserved committed).putToken tokenId { stored with isFinalized := true })
      (m.finalizeSpend tokenId actualUsd asOfTime clock).2 := by
  obtain ⟨found,isOpen,less⟩ := closing_some ok
  have pending : stored.isFinalized = false ∧ stored.isReleased = false := by
    simpa [SpendReservationToken.isOpen] using isOpen
  simp only [finalizeSpend,getQuotaPolicy_eq,found,pending.1,pending.2,Bool.false_eq_true,if_false,arithmetic,less,
    Except.mapError,expired,decide_eq_true_eq]
  split
  next => exact same_refl _
  next =>
    cases (m.policyOf stored.tenantId).committedSpendUsd.add actualUsd with
    | error signal => exact same_refl _
    | ok committed =>
      refine ⟨by simp,?_⟩
      intro t
      by_cases own : t = stored.tenantId <;> simp [own]

end QuotaManager
end RevPilot.Finops
