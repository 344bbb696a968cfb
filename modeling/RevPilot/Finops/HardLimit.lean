import RevPilot.Finops.QuotaBalance

/-! The spend of a tenant against its hard limit, over runs of spend operations
under the policies set at their start. -/
namespace RevPilot.Finops
open Library Shared Runs QuotaManager

namespace TenantQuotaPolicy

def limit (policy : TenantQuotaPolicy) : ℚ := policy.hardSpendLimitUsd.value.get policy.limitAccepted

theorem limit_value (policy : TenantQuotaPolicy) : policy.hardSpendLimitUsd.value = some policy.limit := by
  simp [limit]

/-- The committed and the reserved spend stay under the limit together. -/
def WithinLimit (policy : TenantQuotaPolicy) : Prop :=
  match policy.committedSpendUsd.value, policy.reservedSpendUsd.value with
  | some c, some r => c + r ≤ policy.limit
  | _, _ => False

/-- A final amount is covered by the amount it was reserved with and by what the
limit leaves. -/
def Covers (policy : TenantQuotaPolicy) (amount : ℚ) (actualUsd : Decimal) : Prop :=
  match policy.committedSpendUsd.value, policy.reservedSpendUsd.value, actualUsd.value with
  | some c, some r, some a => a ≤ amount + (policy.limit - (c + r))
  | _, _, _ => False

instance (policy : TenantQuotaPolicy) (amount : ℚ) (actualUsd : Decimal) :
    Decidable (policy.Covers amount actualUsd) := by
  delta Covers
  exact match policy.committedSpendUsd.value, policy.reservedSpendUsd.value, actualUsd.value with
    | some c, some r, some a => inferInstanceAs (Decidable (a ≤ amount + (policy.limit - (c + r))))
    | none, _, _ => .isFalse id
    | some _, none, _ => .isFalse id
    | some _, some _, none => .isFalse id

theorem withinLimit_iff {policy : TenantQuotaPolicy} {c r : ℚ} (committed : policy.committedSpendUsd.value = some c)
    (reserved : policy.reservedSpendUsd.value = some r) : policy.WithinLimit ↔ c + r ≤ policy.limit := by
  rw [WithinLimit,committed,reserved]

theorem withinLimit_values {policy : TenantQuotaPolicy} (within : policy.WithinLimit) :
    ∃ c r, policy.committedSpendUsd.value = some c ∧ policy.reservedSpendUsd.value = some r ∧ c + r ≤ policy.limit := by
  unfold WithinLimit at within
  split at within
  next c r committed reserved => exact ⟨c,r,committed,reserved,within⟩
  next => exact within.elim

end TenantQuotaPolicy

namespace SpendOperation

/-- Every policy is within its limit. -/
def InBudget (m : QuotaManager) : Prop := ∀ t, (m.policyOf t).WithinLimit

/-- The sums of the budget check are not rounded. -/
def CheckExact (policy : TenantQuotaPolicy) (estimatedUsd : Decimal) : Prop :=
  policy.reservedSpendUsd.AddsExactly policy.committedSpendUsd ∧
    (∀ used ∈ (policy.reservedSpendUsd.add policy.committedSpendUsd).toOption,
      policy.hardSpendLimitUsd.AddsExactly used.neg) ∧
    policy.reservedSpendUsd.AddsExactly estimatedUsd

/-- The sums that an operation forms are not rounded. -/
def Exact (m : QuotaManager) : SpendOperation → Prop
  | .reserve args _ _ => (m.admitted args).isSome = true → CheckExact (m.policyOf args.tenantId) args.estimatedUsd
  | .finalize tokenId actualUsd _ _ => ∀ found ∈ m.closing tokenId,
      (m.policyOf found.1.tenantId).reservedSpendUsd.AddsExactly found.1.reservedAmount.neg ∧
        (m.policyOf found.1.tenantId).committedSpendUsd.AddsExactly actualUsd
  | .release tokenId => ∀ found ∈ m.closing tokenId,
      (m.policyOf found.1.tenantId).reservedSpendUsd.AddsExactly found.1.reservedAmount.neg

/-- A finalization that commits its amount is covered. -/
def Covered (m : QuotaManager) : SpendOperation → Prop
  | .finalize tokenId actualUsd asOfTime clock => ∀ found ∈ m.closing tokenId,
      expired found.1 (asOfTime.getD clock) = false →
      ((m.policyOf found.1.tenantId).committedSpendUsd.add actualUsd).isOk = true →
      (m.policyOf found.1.tenantId).Covers found.1.amount actualUsd
  | _ => True

instance decidableExact (m : QuotaManager) (op : SpendOperation) : Decidable (Exact m op) := by
  cases op <;> unfold Exact <;> unfold CheckExact <;> infer_instance

instance decidableCovered (m : QuotaManager) (op : SpendOperation) : Decidable (Covered m op) := by
  cases op <;> unfold Covered <;> infer_instance

theorem inBudget_congr {m m' : QuotaManager} (same : ∀ t, m'.policyOf t = m.policyOf t) :
    InBudget m' ↔ InBudget m := by
  simp only [InBudget,same]

/-- Within budget after new figures of one tenant. -/
theorem inBudget_booked {m m' : QuotaManager} {t : TenantId} {reserved committed : Decimal} (safe : InBudget m)
    (policies : ∀ t', m'.policyOf t' = (m.booked t reserved committed).policyOf t') :
    InBudget m' ↔ TenantQuotaPolicy.WithinLimit
      { m.policyOf t with reservedSpendUsd := reserved, committedSpendUsd := committed } := by
  have own : m'.policyOf t = { m.policyOf t with reservedSpendUsd := reserved, committedSpendUsd := committed } := by
    simp [policies]
  constructor
  · intro after
    rw [← own]
    exact after t
  · intro within t'
    by_cases same : t' = t
    · rw [same,own]
      exact within
    · rw [policies,booked_policyOf,if_neg same]
      exact safe t'

theorem inBudget_figures {m m' : QuotaManager} {t : TenantId} {reserved committed : Decimal} {c r : ℚ}
    (safe : InBudget m) (policies : ∀ t', m'.policyOf t' = (m.booked t reserved committed).policyOf t')
    (committedValue : committed.value = some c) (reservedValue : reserved.value = some r) :
    InBudget m' ↔ c + r ≤ (m.policyOf t).limit := by
  rw [inBudget_booked safe policies]
  apply TenantQuotaPolicy.withinLimit_iff
  · exact committedValue
  · exact reservedValue

/-- An admitted amount is a number. -/
theorem admitted_number {low est : Decimal} {a : ℚ} (number : low.value = some a)
    (positive : (Decimal.ofCents 0).lt est = .ok true) (fits : low.lt est = .ok false) :
    ∃ e, est.value = some e ∧ e ≤ a := by
  cases est with
  | finite n c e =>
    refine ⟨_,rfl,?_⟩
    rw [Decimal.lt_value number rfl] at fits
    simpa using fits
  | infinite negative =>
    obtain ⟨n,c,e,rfl,_⟩ := Decimal.finite_of_value number
    cases negative with
    | true => exact absurd positive (by decide)
    | false => cases fits
  | nan => cases positive
  | snan => cases positive

theorem inBudget_reserve {m : QuotaManager} (safe : InBudget m) {args : Reserve} {reserved : Decimal}
    (ok : m.admitted args = some reserved) {clock : UtcDateTime} {tokenId : String}
    (exact : Exact m (.reserve args clock tokenId)) :
    InBudget (m.booked args.tenantId reserved (m.policyOf args.tenantId).committedSpendUsd) := by
  obtain ⟨used,available,positive,spent,left,fits,sum⟩ := admitted_spec ok
  obtain ⟨spentExact,leftExact,sumExact⟩ := exact (by simp [ok])
  have netExact := leftExact used (by simp [spent,Except.toOption])
  obtain ⟨c,r,committed,before,within⟩ := TenantQuotaPolicy.withinLimit_values (safe args.tenantId)
  have usedValue := Decimal.add_exact spentExact before committed spent
  have availableValue := Decimal.sub_exact netExact (m.policyOf args.tenantId).limit_value usedValue left
  obtain ⟨e,estimated,below⟩ := admitted_number availableValue positive fits
  have after := Decimal.add_exact sumExact before estimated sum
  rw [inBudget_figures safe (fun _ => rfl) committed after]
  linarith

theorem inBudget_released {m : QuotaManager} (sound : m.Sound) (safe : InBudget m) {tokenId : String}
    {stored : SpendReservationToken} {reserved : Decimal} (ok : m.closing tokenId = some (stored,reserved))
    (exact : (m.policyOf stored.tenantId).reservedSpendUsd.AddsExactly stored.reservedAmount.neg) :
    InBudget (m.booked stored.tenantId reserved (m.policyOf stored.tenantId).committedSpendUsd) := by
  obtain ⟨found,_,less⟩ := closing_some ok
  obtain ⟨c,r,committed,before,within⟩ := TenantQuotaPolicy.withinLimit_values (safe stored.tenantId)
  have after := Decimal.sub_exact exact before stored.amount_value less
  have positive := sound tokenId stored found
  rw [inBudget_figures safe (fun _ => rfl) committed after]
  linarith

theorem inBudget_finalized {m : QuotaManager} (safe : InBudget m) {tokenId : String}
    {stored : SpendReservationToken} {reserved committed actualUsd : Decimal}
    (ok : m.closing tokenId = some (stored,reserved))
    (sum : (m.policyOf stored.tenantId).committedSpendUsd.add actualUsd = .ok committed)
    (lessExact : (m.policyOf stored.tenantId).reservedSpendUsd.AddsExactly stored.reservedAmount.neg)
    (sumExact : (m.policyOf stored.tenantId).committedSpendUsd.AddsExactly actualUsd) :
    InBudget (m.booked stored.tenantId reserved committed) ↔
      (m.policyOf stored.tenantId).Covers stored.amount actualUsd := by
  obtain ⟨_,_,less⟩ := closing_some ok
  obtain ⟨c,r,before,held,_⟩ := TenantQuotaPolicy.withinLimit_values (safe stored.tenantId)
  have after := Decimal.sub_exact lessExact held stored.amount_value less
  cases number : actualUsd.value with
  | none =>
    have unknown : committed.value = none := Decimal.add_not_number before number sum
    rw [inBudget_booked safe (fun _ => rfl)]
    simp [TenantQuotaPolicy.WithinLimit,TenantQuotaPolicy.Covers,unknown,number]
  | some a =>
    have total := Decimal.add_exact sumExact before number sum
    rw [inBudget_figures safe (fun _ => rfl) total after,TenantQuotaPolicy.Covers,before,held,number]
    dsimp only
    constructor
    · intro within
      linarith
    · intro covered
      linarith

/-- Within budget after one operation whose sums are exact. -/
theorem inBudget_step {m : QuotaManager} (sound : m.Sound) (safe : InBudget m) (op : SpendOperation)
    (exact : Exact m op) : InBudget (step m op) ↔ Covered m op := by
  cases op with
  | reserve args clock tokenId =>
    simp only [step,Covered,iff_true]
    cases ok : m.admitted args with
    | none => exact (inBudget_congr (reserve_same ok clock tokenId).policies).mpr safe
    | some reserved =>
      rw [reserve_booked ok]
      have kept := inBudget_reserve safe ok exact
      split
      next => exact kept
      next => exact (inBudget_congr (putToken_policyOf _ _ _)).mpr kept
  | finalize tokenId actualUsd asOfTime clock =>
    simp only [step,Covered]
    cases ok : m.closing tokenId with
    | none => simp [inBudget_congr (finalize_same ok actualUsd asOfTime clock).policies,safe]
    | some found =>
      obtain ⟨stored,reserved⟩ := found
      have sums := exact (stored,reserved) ok
      simp only [Option.mem_some_iff,forall_eq']
      rw [inBudget_congr (finalize_booked ok actualUsd asOfTime clock).policies]
      have kept := inBudget_released sound safe ok sums.1
      cases late : expired stored (asOfTime.getD clock) with
      | true => simpa using (inBudget_congr (putToken_policyOf _ _ _)).mpr kept
      | false =>
        cases sum : (m.policyOf stored.tenantId).committedSpendUsd.add actualUsd with
        | error signal => simpa [Except.isOk,Except.toBool] using kept
        | ok committed =>
          have covers := inBudget_finalized safe ok sum sums.1 sums.2
          simpa [Except.isOk,Except.toBool] using (inBudget_congr (putToken_policyOf _ _ _)).trans covers
  | release tokenId =>
    simp only [step,Covered,iff_true]
    cases ok : m.closing tokenId with
    | none => exact (inBudget_congr (release_same ok).policies).mpr safe
    | some found =>
      obtain ⟨stored,reserved⟩ := found
      rw [release_booked ok]
      exact (inBudget_congr (putToken_policyOf _ _ _)).mpr (inBudget_released sound safe ok (exact (stored,reserved) ok))

/-- A new manager with the policies that are set before any spend. -/
def configured (limits : List (TenantId × Decimal)) : QuotaManager :=
  run QuotaOperation.step {} (limits.map (fun pair => .setPolicy pair.1 pair.2))

/-- Nothing is reserved and nothing is spent. -/
structure Unspent (m : QuotaManager) : Prop where
  reservations : ∀ id, m.reservations.get? id = none
  reserved : ∀ t, (m.policyOf t).reservedSpendUsd = .ofCents 0
  committed : ∀ t, (m.policyOf t).committedSpendUsd = .ofCents 0

theorem unspent_setPolicy {m : QuotaManager} (unspent : Unspent m) (t : TenantId) (limit : Decimal) :
    Unspent (m.setQuotaPolicy t limit).2 := by
  unfold setQuotaPolicy
  split
  next =>
    refine ⟨unspent.reservations,?_,?_⟩
    · intro t'
      by_cases same : t' = t <;> simp [same,unspent.reserved]
    · intro t'
      by_cases same : t' = t <;> simp [same,unspent.committed]
  next => exact unspent

theorem unspent_configured (limits : List (TenantId × Decimal)) : Unspent (configured limits) := by
  unfold configured
  generalize start : ({} : QuotaManager) = m
  have unspent : Unspent m := by
    subst start
    exact ⟨fun _ => rfl,fun _ => rfl,fun _ => rfl⟩
  clear start
  induction limits generalizing m with
  | nil => exact unspent
  | cons pair limits ih => exact ih (m.setQuotaPolicy pair.1 pair.2).2 (unspent_setPolicy unspent pair.1 pair.2)

theorem inBudget_unspent {m : QuotaManager} (unspent : Unspent m) :
    InBudget m ↔ ∀ t, 0 ≤ (m.policyOf t).limit := by
  simp [InBudget,TenantQuotaPolicy.WithinLimit,unspent.reserved,unspent.committed]

/-- The committed and reserved spend of every tenant stays under its limit if no
limit is negative, no sum is rounded and every committed amount is covered; of
the runs without rounding these are the only ones. -/
theorem within_hard_limit (limits : List (TenantId × Decimal)) (ops : List SpendOperation) :
    ((∀ t, 0 ≤ ((configured limits).policyOf t).limit) →
      Along step (fun m op => Exact m op ∧ Covered m op) (configured limits) ops →
      Always step InBudget (configured limits) ops) ∧
    (Along step Exact (configured limits) ops → Always step InBudget (configured limits) ops →
      (∀ t, 0 ≤ ((configured limits).policyOf t).limit) ∧ Along step Covered (configured limits) ops) := by
  have unspent := unspent_configured limits
  have sound : (configured limits).Sound := by
    intro id token stored
    rw [unspent.reservations id] at stored
    cases stored
  have keeps : ∀ m op, Sound m → Exact m op → Sound (step m op) :=
    fun m op sound _ => QuotaOperation.sound_step sound (.spend op)
  have same : ∀ m op, Sound m → Exact m op → InBudget m → (Covered m op ↔ InBudget (step m op)) :=
    fun m op sound exact safe => (inBudget_step sound safe op exact).symm
  rw [← inBudget_unspent unspent]
  constructor
  · intro safe met
    have exact := along_mono step (fun _ _ both => both.1) met
    have covered := along_mono step (fun _ _ both => both.2) met
    exact (always_iff_along step keeps same sound safe exact).mp covered
  · intro exact always
    have safe : InBudget (configured limits) := always [] ops rfl
    exact ⟨safe,(always_iff_along step keeps same sound safe exact).mpr always⟩

/-- A reservation of 50.00 under a limit of 100.00 that is finalized for 40.00. -/
def coveredSpend : List SpendOperation :=
  [.reserve { tenantId := QuotaOperation.acme, estimatedUsd := .ofCents 5000 } ⟨0⟩ "res_1",
    .finalize "res_1" (.ofCents 4000) none ⟨1000000⟩]

theorem acme_limit (t : TenantId) : 0 ≤ ((configured [(QuotaOperation.acme,.ofCents 10000)]).policyOf t).limit := by
  change 0 ≤ ((({} : QuotaManager).putPolicy QuotaOperation.acme _).policyOf t).limit
  rw [policyOf_putPolicy]
  split
  next => decide +kernel
  next =>
    change 0 ≤ (Decimal.ofCents 100000).value.get rfl
    decide +kernel

theorem covered_spend_within :
    Always step InBudget (configured [(QuotaOperation.acme,.ofCents 10000)]) coveredSpend :=
  (within_hard_limit [(QuotaOperation.acme,.ofCents 10000)] coveredSpend).1 acme_limit (by decide +kernel)

/-- The same reservation, finalized for 200.00. -/
def overspend : List SpendOperation :=
  [.reserve { tenantId := QuotaOperation.acme, estimatedUsd := .ofCents 5000 } ⟨0⟩ "res_1",
    .finalize "res_1" (.ofCents 20000) none ⟨1000000⟩]

theorem finalize_exceeds_limit :
    ¬ ∀ (limits : List (TenantId × Decimal)) (ops : List SpendOperation),
      (∀ t, 0 ≤ ((configured limits).policyOf t).limit) → Always step InBudget (configured limits) ops := by
  intro always
  have within := always [(QuotaOperation.acme,.ofCents 10000)] overspend acme_limit overspend [] (by simp) QuotaOperation.acme
  obtain ⟨c,r,committed,reserved,below⟩ := TenantQuotaPolicy.withinLimit_values within
  have spent : ((run step (configured [(QuotaOperation.acme,.ofCents 10000)]) overspend).policyOf
      QuotaOperation.acme).committedSpendUsd.value = some 200 := by decide +kernel
  have free : ((run step (configured [(QuotaOperation.acme,.ofCents 10000)]) overspend).policyOf
      QuotaOperation.acme).reservedSpendUsd.value = some 0 := by decide +kernel
  have limit : ((run step (configured [(QuotaOperation.acme,.ofCents 10000)]) overspend).policyOf
      QuotaOperation.acme).limit = 100 := by decide +kernel
  rw [spent] at committed
  rw [free] at reserved
  rw [limit,← Option.some.inj committed,← Option.some.inj reserved] at below
  norm_num at below

end SpendOperation
end RevPilot.Finops
