import RevPilot.Finops.SpendSteps
import RevPilot.Library.Runs
import Mathlib.Algebra.Order.BigOperators.Group.List

/-! The reserved spend of a tenant against its open reservations, over all runs
of the quota manager. -/
namespace RevPilot.Finops
open Library Shared Runs

namespace SpendReservationToken

def amount (token : SpendReservationToken) : ℚ := token.reservedAmount.value.get token.amountAccepted

/-- What a token holds of a tenant's budget. -/
def openAmount (t : TenantId) (token : SpendReservationToken) : ℚ :=
  if token.tenantId = t ∧ token.isOpen = true then token.amount else 0

theorem amount_value (token : SpendReservationToken) : token.reservedAmount.value = some token.amount := by
  simp [amount]

theorem openAmount_closed {token : SpendReservationToken} (closed : token.isOpen = false) (t : TenantId) :
    openAmount t token = 0 := by
  simp [openAmount,closed]

end SpendReservationToken

namespace QuotaManager
open SpendReservationToken

/-- The open reservations of a tenant. -/
def openSum (m : QuotaManager) (t : TenantId) : ℚ := m.reservations.total (openAmount t)

def reservedSpend (m : QuotaManager) (t : TenantId) : Option ℚ := (m.policyOf t).reservedSpendUsd.value

/-- The reserved spend of every tenant is the sum of its open reservations, and not negative. -/
def Balanced (m : QuotaManager) : Prop := ∀ t, m.reservedSpend t = some (m.openSum t) ∧ 0 ≤ m.openSum t

theorem openSum_congr {m m' : QuotaManager} (same : m'.reservations = m.reservations) (t : TenantId) :
    m'.openSum t = m.openSum t := by rw [openSum,openSum,same]

theorem openSum_putToken (m : QuotaManager) (id : String) (token : SpendReservationToken) (t : TenantId) :
    (m.putToken id token).openSum t =
      m.openSum t - (m.reservations.get? id).elim 0 (openAmount t) + openAmount t token :=
  Dict.total_set (openAmount t) m.reservations id token

/-- Every stored reservation holds a positive amount. -/
def Sound (m : QuotaManager) : Prop := ∀ id token, m.reservations.get? id = some token → 0 < token.amount

theorem openAmount_nonneg {m : QuotaManager} (sound : m.Sound) (t : TenantId) :
    ∀ w ∈ m.reservations.values.map (openAmount t), 0 ≤ w := by
  intro w inside
  obtain ⟨token,stored,rfl⟩ := List.mem_map.mp inside
  obtain ⟨id,found⟩ := (m.reservations.mem_values_iff token).mp stored
  unfold openAmount
  split
  · exact (sound id token found).le
  · exact le_rfl

theorem openSum_nonneg {m : QuotaManager} (sound : m.Sound) (t : TenantId) : 0 ≤ m.openSum t :=
  List.sum_nonneg (openAmount_nonneg sound t)

/-- No reservation of the tenant is open. -/
def NoneOpen (m : QuotaManager) (t : TenantId) : Prop :=
  ∀ token ∈ m.reservations.values, token.tenantId = t → token.isOpen = false

instance (m : QuotaManager) (t : TenantId) : Decidable (m.NoneOpen t) := by
  unfold NoneOpen
  infer_instance

theorem openSum_eq_zero_iff {m : QuotaManager} (sound : m.Sound) (t : TenantId) :
    m.openSum t = 0 ↔ m.NoneOpen t := by
  constructor
  · intro zero token stored own
    by_contra still
    have isOpen : token.isOpen = true := by simpa using still
    obtain ⟨id,found⟩ := (m.reservations.mem_values_iff token).mp stored
    have held : openAmount t token ≤ m.openSum t :=
      List.single_le_sum (openAmount_nonneg sound t) _ (List.mem_map_of_mem stored)
    rw [zero,openAmount,if_pos ⟨own,isOpen⟩] at held
    exact absurd (sound id token found) (not_lt.mpr held)
  · intro none
    apply List.sum_eq_zero
    intro w inside
    obtain ⟨token,stored,rfl⟩ := List.mem_map.mp inside
    rw [openAmount,if_neg]
    rintro ⟨own,isOpen⟩
    rw [none token stored own] at isOpen
    cases isOpen

theorem Same.balanced {m m' : QuotaManager} (same : Same m m') (balanced : m.Balanced) : m'.Balanced := by
  intro t
  rw [reservedSpend,same.policies,openSum_congr same.reservations]
  exact balanced t

theorem Same.balanced_iff {m m' : QuotaManager} (same : Same m m') : m'.Balanced ↔ m.Balanced :=
  ⟨Same.balanced ⟨same.reservations.symm,fun t => (same.policies t).symm⟩,same.balanced⟩

theorem sound_congr {m m' : QuotaManager} (same : m'.reservations = m.reservations) (sound : m.Sound) : m'.Sound := by
  rwa [Sound,same]

theorem sound_putToken {m : QuotaManager} (sound : m.Sound) (id : String) {token : SpendReservationToken}
    (positive : 0 < token.amount) : (m.putToken id token).Sound := by
  intro other found stored
  rw [putToken_reservations,Dict.get?_set] at stored
  split at stored
  next =>
    obtain rfl := Option.some.inj stored
    exact positive
  next => exact sound other found stored

/-- A change of the reserved spend that a reservation records is exact, and any other is rounded away. -/
def Tracked (reserved change : Decimal) (recorded : Bool) : Prop :=
  if recorded then reserved.AddsExactly change else reserved.Absorbs change

instance (reserved change : Decimal) (recorded : Bool) : Decidable (Tracked reserved change recorded) := by
  unfold Tracked
  infer_instance

theorem tracked_iff {x y z : Decimal} {a b : ℚ} {recorded : Bool} (left : x.value = some a)
    (right : recorded = true → y.value = some b) (ok : x.add y = .ok z) :
    Tracked x y recorded ↔ z.value = some (a + if recorded = true then b else 0) := by
  cases recorded with
  | true => exact Decimal.addsExactly_iff left (right rfl) ok
  | false =>
    rw [if_neg Bool.false_ne_true,add_zero]
    exact Decimal.absorbs_iff left ok

/-- The balance after a change of one tenant's reserved spend. -/
theorem balanced_booked {m m' : QuotaManager} {t : TenantId} {change reserved committed : Decimal} {recorded : Bool}
    {b : ℚ} (sound : m'.Sound) (balanced : m.Balanced)
    (sum : (m.policyOf t).reservedSpendUsd.add change = .ok reserved) (number : recorded = true → change.value = some b)
    (policies : ∀ t', m'.policyOf t' = (m.booked t reserved committed).policyOf t')
    (sums : ∀ t', m'.openSum t' = m.openSum t' + if t = t' ∧ recorded = true then b else 0) :
    m'.Balanced ↔ Tracked (m.policyOf t).reservedSpendUsd change recorded := by
  rw [tracked_iff (balanced t).1 number sum]
  have own : m'.reservedSpend t = reserved.value := by simp [reservedSpend,policies]
  have total : m'.openSum t = m.openSum t + if recorded = true then b else 0 := by simp [sums]
  constructor
  · intro after
    rw [← own,← total]
    exact (after t).1
  · intro exact t'
    refine ⟨?_,openSum_nonneg sound t'⟩
    by_cases same : t' = t
    · rw [same,own,total,exact]
    · have figures : m'.reservedSpend t' = m.reservedSpend t' := by simp [reservedSpend,policies,same]
      have open_sums : m'.openSum t' = m.openSum t' := by simp [sums,Ne.symm same]
      rw [figures,open_sums]
      exact (balanced t').1

theorem tokenOf_spec {args : Reserve} {clock : UtcDateTime} {tokenId : String} {token : SpendReservationToken}
    (made : tokenOf args clock tokenId = some token) :
    token.tenantId = args.tenantId ∧ token.reservedAmount = args.estimatedUsd ∧ token.isOpen = true := by
  unfold tokenOf at made
  split at made
  next => cases made
  next =>
    split at made
    next =>
      cases made
      exact ⟨rfl,rfl,rfl⟩
    next => cases made

theorem amount_positive {m : QuotaManager} {args : Reserve} {reserved : Decimal} {clock : UtcDateTime}
    {tokenId : String} {token : SpendReservationToken} (ok : m.admitted args = some reserved)
    (made : tokenOf args clock tokenId = some token) : 0 < token.amount := by
  obtain ⟨_,_,sign,_⟩ := admitted_spec ok
  have number : args.estimatedUsd.value = some token.amount := by
    rw [← (tokenOf_spec made).2.1]
    exact token.amount_value
  rw [Decimal.lt_value Decimal.ofCents_zero_value number] at sign
  simpa using sign

end QuotaManager

namespace QuotaOperation
open QuotaManager

/-- The generated token identifier is new. -/
def Fresh (m : QuotaManager) (op : QuotaOperation) : Prop :=
  ∀ id, op.generated = some id → ¬ m.reservations.get? id ≠ none

/-- A policy is replaced while no reservation of its tenant is open. A
reservation that is booked is also recorded, and so is the end of one whose
amount is taken back; none of these sums is rounded. -/
def Clean (m : QuotaManager) : QuotaOperation → Prop
  | .setPolicy t limit => limit.value.isSome = true → m.NoneOpen t
  | .spend (.reserve args clock tokenId) => (m.admitted args).isSome = true →
      Tracked (m.policyOf args.tenantId).reservedSpendUsd args.estimatedUsd (tokenOf args clock tokenId).isSome
  | .spend (.finalize tokenId actualUsd asOfTime clock) => ∀ found ∈ m.closing tokenId,
      Tracked (m.policyOf found.1.tenantId).reservedSpendUsd found.1.reservedAmount.neg
        (expired found.1 (asOfTime.getD clock) || ((m.policyOf found.1.tenantId).committedSpendUsd.add actualUsd).isOk)
  | .spend (.release tokenId) => ∀ found ∈ m.closing tokenId,
      Tracked (m.policyOf found.1.tenantId).reservedSpendUsd found.1.reservedAmount.neg true

instance decidableClean (m : QuotaManager) : (op : QuotaOperation) → Decidable (Clean m op)
  | .setPolicy t limit => inferInstanceAs (Decidable (limit.value.isSome = true → m.NoneOpen t))
  | .spend (.reserve args clock tokenId) => inferInstanceAs (Decidable ((m.admitted args).isSome = true →
      Tracked (m.policyOf args.tenantId).reservedSpendUsd args.estimatedUsd (tokenOf args clock tokenId).isSome))
  | .spend (.finalize tokenId actualUsd asOfTime clock) => inferInstanceAs (Decidable (∀ found ∈ m.closing tokenId,
      Tracked (m.policyOf found.1.tenantId).reservedSpendUsd found.1.reservedAmount.neg
        (expired found.1 (asOfTime.getD clock) || ((m.policyOf found.1.tenantId).committedSpendUsd.add actualUsd).isOk)))
  | .spend (.release tokenId) => inferInstanceAs (Decidable (∀ found ∈ m.closing tokenId,
      Tracked (m.policyOf found.1.tenantId).reservedSpendUsd found.1.reservedAmount.neg true))

theorem sound_closed {m : QuotaManager} (sound : m.Sound) {tokenId : String} {stored token : SpendReservationToken}
    (found : m.reservations.get? tokenId = some stored) (same : token.amount = stored.amount) (t : TenantId)
    (reserved committed : Decimal) : ((m.booked t reserved committed).putToken tokenId token).Sound := by
  apply sound_putToken
  · exact sound_congr (booked_reservations m t reserved committed) sound
  · rw [same]
    exact sound tokenId stored found

theorem sound_step {m : QuotaManager} (sound : m.Sound) (op : QuotaOperation) : (op.step m).Sound := by
  cases op with
  | setPolicy t limit =>
    simp only [step,setQuotaPolicy]
    split
    next => exact sound_congr (putPolicy_reservations m t _) sound
    next => exact sound
  | spend op =>
    cases op with
    | reserve args clock tokenId =>
      simp only [step,SpendOperation.step]
      cases ok : m.admitted args with
      | none => exact sound_congr (reserve_same ok clock tokenId).reservations sound
      | some reserved =>
        rw [reserve_booked ok]
        cases made : tokenOf args clock tokenId with
        | none => exact sound_congr (booked_reservations m _ _ _) sound
        | some token =>
          exact sound_putToken (sound_congr (booked_reservations m _ _ _) sound) tokenId (amount_positive ok made)
    | finalize tokenId actualUsd asOfTime clock =>
      simp only [step,SpendOperation.step]
      cases ok : m.closing tokenId with
      | none => exact sound_congr (finalize_same ok actualUsd asOfTime clock).reservations sound
      | some found =>
        obtain ⟨stored,reserved⟩ := found
        have held := (closing_some ok).1
        apply sound_congr (finalize_booked ok actualUsd asOfTime clock).reservations
        split
        next => exact sound_closed sound held (by rfl) _ _ _
        next =>
          split
          next => exact sound_congr (booked_reservations m _ _ _) sound
          next => exact sound_closed sound held (by rfl) _ _ _
    | release tokenId =>
      simp only [step,SpendOperation.step]
      cases ok : m.closing tokenId with
      | none => exact sound_congr (release_same ok).reservations sound
      | some found =>
        obtain ⟨stored,reserved⟩ := found
        rw [release_booked ok]
        exact sound_closed sound (closing_some ok).1 (by rfl) _ _ _

theorem openSum_booked (m : QuotaManager) (t t' : TenantId) (reserved committed : Decimal) :
    (m.booked t reserved committed).openSum t' = m.openSum t' :=
  openSum_congr (booked_reservations m t reserved committed) t'

/-- The balance after the end of an open reservation. -/
theorem balanced_closed {m : QuotaManager} (sound : m.Sound) (balanced : m.Balanced) {tokenId : String}
    {stored token : SpendReservationToken} {reserved : Decimal} (ok : m.closing tokenId = some (stored,reserved))
    (closed : token.isOpen = false) (same : token.amount = stored.amount) (committed : Decimal) :
    ((m.booked stored.tenantId reserved committed).putToken tokenId token).Balanced ↔
      Tracked (m.policyOf stored.tenantId).reservedSpendUsd stored.reservedAmount.neg true := by
  obtain ⟨found,isOpen,less⟩ := closing_some ok
  have number : stored.reservedAmount.neg.value = some (-stored.amount) := by simp [stored.amount_value]
  refine balanced_booked (sound_closed sound found same _ _ _) balanced less (fun _ => number) (fun _ => rfl) ?_
  intro t'
  rw [openSum_putToken,openSum_booked,booked_reservations,found,SpendReservationToken.openAmount_closed closed]
  by_cases own : stored.tenantId = t' <;> simp [SpendReservationToken.openAmount,own,isOpen,sub_eq_add_neg]

/-- The balance after a booking that no reservation records. -/
theorem balanced_unrecorded {m : QuotaManager} (sound : m.Sound) (balanced : m.Balanced) {t : TenantId}
    {change reserved : Decimal} (sum : (m.policyOf t).reservedSpendUsd.add change = .ok reserved) (committed : Decimal) :
    (m.booked t reserved committed).Balanced ↔ Tracked (m.policyOf t).reservedSpendUsd change false := by
  refine @balanced_booked m _ t change reserved committed false 0
    (sound_congr (booked_reservations m t reserved committed) sound) balanced sum nofun (fun _ => rfl) ?_
  intro t'
  simp [openSum_booked]

theorem balanced_reserved {m : QuotaManager} (sound : m.Sound) (balanced : m.Balanced) {args : Reserve}
    {reserved : Decimal} (ok : m.admitted args = some reserved) {clock : UtcDateTime} {tokenId : String}
    {token : SpendReservationToken} (made : tokenOf args clock tokenId = some token)
    (unused : m.reservations.get? tokenId = none) (committed : Decimal) :
    ((m.booked args.tenantId reserved committed).putToken tokenId token).Balanced ↔
      Tracked (m.policyOf args.tenantId).reservedSpendUsd args.estimatedUsd true := by
  obtain ⟨tenant,amount,isOpen⟩ := tokenOf_spec made
  obtain ⟨_,_,_,_,_,_,sum⟩ := admitted_spec ok
  have number : args.estimatedUsd.value = some token.amount := by
    rw [← amount]
    exact token.amount_value
  have booked := sound_congr (booked_reservations m args.tenantId reserved committed) sound
  refine balanced_booked (sound_putToken booked tokenId (amount_positive ok made)) balanced sum (fun _ => number)
    (fun _ => rfl) ?_
  intro t'
  rw [openSum_putToken,openSum_booked,booked_reservations,unused]
  by_cases own : args.tenantId = t' <;> simp [SpendReservationToken.openAmount,tenant,own,isOpen]

theorem balanced_setPolicy {m : QuotaManager} (sound : m.Sound) (balanced : m.Balanced) (t : TenantId)
    (limit : Decimal) : (m.setQuotaPolicy t limit).2.Balanced ↔ (limit.value.isSome = true → m.NoneOpen t) := by
  by_cases accepted : limit.value.isSome = true
  · rw [← openSum_eq_zero_iff sound t,setQuotaPolicy,dif_pos accepted]
    simp only [accepted,true_implies]
    constructor
    · intro after
      have own := (after t).1
      rw [openSum_congr (putPolicy_reservations m t _)] at own
      simpa [reservedSpend,eq_comm] using own
    · intro none t'
      rw [openSum_congr (putPolicy_reservations m t _)]
      refine ⟨?_,openSum_nonneg sound t'⟩
      by_cases same : t' = t
      · simp [reservedSpend,same,none]
      · simpa [reservedSpend,same] using (balanced t').1
  · rw [setQuotaPolicy,dif_neg accepted]
    simp [accepted,balanced]

theorem balanced_step {m : QuotaManager} (sound : m.Sound) (balanced : m.Balanced) (op : QuotaOperation)
    (fresh : op.Fresh m) : (op.step m).Balanced ↔ op.Clean m := by
  cases op with
  | setPolicy t limit => exact balanced_setPolicy sound balanced t limit
  | spend op =>
    cases op with
    | reserve args clock tokenId =>
      have unused : m.reservations.get? tokenId = none := by simpa using fresh tokenId rfl
      simp only [step,SpendOperation.step,Clean]
      cases ok : m.admitted args with
      | none => simp [(reserve_same ok clock tokenId).balanced balanced]
      | some reserved =>
        simp only [Option.isSome_some,true_implies]
        rw [reserve_booked ok]
        cases made : tokenOf args clock tokenId with
        | none =>
          obtain ⟨_,_,_,_,_,_,sum⟩ := admitted_spec ok
          exact balanced_unrecorded sound balanced sum _
        | some token => exact balanced_reserved sound balanced ok made unused _
    | finalize tokenId actualUsd asOfTime clock =>
      simp only [step,SpendOperation.step,Clean]
      cases ok : m.closing tokenId with
      | none => simp [(finalize_same ok actualUsd asOfTime clock).balanced balanced]
      | some found =>
        obtain ⟨stored,reserved⟩ := found
        simp only [Option.mem_some_iff,forall_eq']
        rw [(finalize_booked ok actualUsd asOfTime clock).balanced_iff]
        cases late : expired stored (asOfTime.getD clock) with
        | true => exact balanced_closed sound balanced ok (by simp [SpendReservationToken.isOpen]) (by rfl) _
        | false =>
          cases (m.policyOf stored.tenantId).committedSpendUsd.add actualUsd with
          | error signal => exact balanced_unrecorded sound balanced (closing_some ok).2.2 _
          | ok committed => exact balanced_closed sound balanced ok (by simp [SpendReservationToken.isOpen]) (by rfl) _
    | release tokenId =>
      simp only [step,SpendOperation.step,Clean]
      cases ok : m.closing tokenId with
      | none => simp [(release_same ok).balanced balanced]
      | some found =>
        obtain ⟨stored,reserved⟩ := found
        simp only [Option.mem_some_iff,forall_eq']
        rw [release_booked ok]
        exact balanced_closed sound balanced ok (by simp [SpendReservationToken.isOpen]) (by rfl) _

/-- An operation stores a reservation under no identifier but the one it generates. -/
theorem stored_step (m : QuotaManager) (op : QuotaOperation) (id : String)
    (stored : (op.step m).reservations.get? id ≠ none) :
    m.reservations.get? id ≠ none ∨ op.generated = some id := by
  have closed {t : TenantId} {reserved committed : Decimal} {tokenId : String} {old token : SpendReservationToken}
      (found : m.reservations.get? tokenId = some old)
      (here : ((m.booked t reserved committed).putToken tokenId token).reservations.get? id ≠ none) :
      m.reservations.get? id ≠ none := by
    by_cases same : id = tokenId
    · rw [same,found]
      nofun
    · simpa [same] using here
  cases op with
  | setPolicy t limit =>
    left
    simp only [step,setQuotaPolicy] at stored
    split at stored <;> exact stored
  | spend op =>
    cases op with
    | reserve args clock tokenId =>
      simp only [step,SpendOperation.step] at stored
      cases ok : m.admitted args with
      | none =>
        rw [(reserve_same ok clock tokenId).reservations] at stored
        exact .inl stored
      | some reserved =>
        rw [reserve_booked ok] at stored
        by_cases same : id = tokenId
        · exact .inr (congrArg some same.symm)
        · left
          split at stored <;> simpa [same] using stored
    | finalize tokenId actualUsd asOfTime clock =>
      left
      simp only [step,SpendOperation.step] at stored
      cases ok : m.closing tokenId with
      | none => rwa [(finalize_same ok actualUsd asOfTime clock).reservations] at stored
      | some found =>
        have held := (closing_some ok).1
        rw [(finalize_booked ok actualUsd asOfTime clock).reservations] at stored
        split at stored
        next => exact closed held stored
        next =>
          split at stored
          next => simpa using stored
          next => exact closed held stored
    | release tokenId =>
      left
      simp only [step,SpendOperation.step] at stored
      cases ok : m.closing tokenId with
      | none => rwa [(release_same ok).reservations] at stored
      | some found =>
        rw [release_booked ok] at stored
        exact closed (closing_some ok).1 stored

theorem fresh_run {ops : List QuotaOperation} (distinct : (ops.filterMap generated).Nodup) :
    Along step Fresh {} ops :=
  fresh_along step generated (fun m id => m.reservations.get? id ≠ none)
    (fun m op _ id stored => stored_step m op id stored) distinct (fun _ _ stored => stored rfl)

theorem balanced_empty : ({} : QuotaManager).Balanced := by
  intro t
  have none_open : ({} : QuotaManager).openSum t = 0 := rfl
  rw [none_open]
  exact ⟨Decimal.ofCents_zero_value,le_rfl⟩

/-- The reserved spend is the sum of the open reservations in every state of a
run exactly when every operation is clean. -/
theorem balanced_iff_clean (ops : List QuotaOperation) (distinct : (ops.filterMap generated).Nodup) :
    Always step Balanced {} ops ↔ Along step Clean {} ops := by
  have sound : ({} : QuotaManager).Sound := nofun
  have keeps : ∀ m op, Sound m → Fresh m op → Sound (step m op) := fun m op sound _ => sound_step sound op
  have same : ∀ m op, Sound m → Fresh m op → Balanced m → (Clean m op ↔ Balanced (step m op)) :=
    fun m op sound fresh balanced => (balanced_step sound balanced op fresh).symm
  exact (always_iff_along step keeps same sound balanced_empty (fresh_run distinct)).symm

def acme : TenantId := ⟨"tnt_acme",Eq.refl true⟩

/-- A reservation of 100.00 under the default policy and its finalization for 60.00. -/
def spendOnce : List QuotaOperation :=
  [.spend (.reserve { tenantId := acme, estimatedUsd := .ofCents 10000 } ⟨0⟩ "res_1"),
    .spend (.finalize "res_1" (.ofCents 6000) none ⟨1000000⟩)]

theorem spend_once_balanced : Always step Balanced {} spendOnce :=
  (balanced_iff_clean spendOnce (by decide)).mpr (by decide +kernel)

/-- A policy that is replaced while 100.00 are reserved under it. -/
def replacedPolicy : List QuotaOperation :=
  [.setPolicy acme (.ofCents 100000),
    .spend (.reserve { tenantId := acme, estimatedUsd := .ofCents 10000 } ⟨0⟩ "res_1"),
    .setPolicy acme (.ofCents 200000)]

theorem replaced_policy_forgets :
    ¬ ∀ ops : List QuotaOperation, (ops.filterMap generated).Nodup → Always step Balanced {} ops := by
  intro always
  have balanced := always replacedPolicy (by decide) replacedPolicy [] (by simp)
  have reserved : (run step {} replacedPolicy).reservedSpend acme = some 0 := by decide +kernel
  have held : (run step {} replacedPolicy).openSum acme = 100 := by decide +kernel
  have same := (balanced acme).1
  rw [reserved,held] at same
  norm_num at same

end QuotaOperation
end RevPilot.Finops
