import RevPilot.Finops.Metering
import RevPilot.Library.Lists
import RevPilot.Library.PyFloat
import RevPilot.Library.PyValue

/-! Reconciliation of the usage ledger with the invoice of a provider. The statuses of
the records are written line by line, before the verdict on the cycle; an exception
leaves what is written. -/
namespace RevPilot.Finops
open Library Shared Runs

def reconciliationGapError (message : String) : QuotaFailure := .quota message "RECONCILIATION_GAP" 422

inductive ReconciliationFailure : Type
  | raised (failure : QuotaFailure)
  | keyError (key : String)
  | typeError

abbrev InvoiceLine := List (PyKey × PyValue)

/-- `0.02` as a float. -/
def tolerance : ℚ := toDouble (2 / 100)

structure ReconciliationReport where
  tenantId : TenantId
  cycleId : String
  totalEstimatedUsd : Decimal
  totalActualUsd : Decimal
  variancePct : FloatValue
  matchedRecordsCount : Nat
  discrepancyCount : Nat
  status : String
  estimatedAccepted : totalEstimatedUsd.value.isSome = true
  actualAccepted : totalActualUsd.value.isSome = true

/-- The loop variables, and the ledger with the statuses written so far. -/
structure Cycle where
  service : MeteringService
  matchedCount : Nat := 0
  discrepancyCount : Nat := 0
  totalEstimated : Decimal := .ofCents 0
  totalActual : Decimal := .ofCents 0

section reconcile
variable (readDecimal : PyValue → Option Decimal)

mutual
/-- Whether a value can be looked up in a dictionary. -/
def hashable : PyValue → Bool
  | .list _ => false
  | .dict _ => false
  | .tuple items => hashableItems items
  | _ => true
def hashableItems : List PyValue → Bool
  | [] => true
  | item :: items => hashable item && hashableItems items
end

def arith {A : Type} (result : Except Decimal.Signal A) : Except ReconciliationFailure A :=
  result.mapError (fun signal => .raised (.decimal signal))

/-- `invoice_item[name]`. -/
def lineItem (line : InvoiceLine) (name : String) : Except ReconciliationFailure PyValue :=
  match PyValue.lookup line name with
  | some value => .ok value
  | none => .error (.keyError name)

/-- `Decimal(str(invoice_item["actual_usd"]))`; a text that is no number raises. -/
def actualCost (line : InvoiceLine) : Except ReconciliationFailure Decimal := do
  match readDecimal (← lineItem line "actual_usd") with
  | some cost => return cost
  | none => throw (.raised (.decimal .invalidOperation))

/-- `{r.idempotency_key: r for r in records}`. -/
def recordsByKey (records : List UsageRecord) : Dict String UsageRecord :=
  records.foldl (fun byKey rec => byKey.set rec.idempotencyKey rec) .empty

def findRecord (byKey : Dict String UsageRecord) (key : PyValue) : Except ReconciliationFailure (Option UsageRecord) :=
  if hashable key then
    match key with
    | .str k => .ok (byKey.get? k)
    | _ => .ok none
  else .error .typeError

/-- `float(abs(actual - estimated) / estimated)`. -/
def variance (actual estimated : Decimal) : Except Decimal.Signal FloatValue := do
  let diff ← actual.sub estimated
  let ratio ← diff.abs.div estimated
  return ratio.toFloat

/-- The status that one line gives its record. -/
def lineStatus (actual estimated : Decimal) : Except Decimal.Signal ReconciliationStatus := do
  if ← (Decimal.ofCents 0).lt estimated then
    let var ← variance actual estimated
    return if var.atMost tolerance then .reconciled else .discrepancy
  else return if actual.isZero then .reconciled else .discrepancy

def writeStatus (s : MeteringService) (rec : UsageRecord) (status : ReconciliationStatus) : MeteringService :=
  { s with ledger := s.ledger.set rec.usageId.value { rec with reconciliationStatus := status } }

/-- One turn of the loop. Nothing raises after the status is written. -/
def lineStep (byKey : Dict String UsageRecord) (c : Cycle) (line : InvoiceLine) : Except ReconciliationFailure Cycle := do
  let key ← lineItem line "idempotency_key"
  let actual ← actualCost readDecimal line
  let totalActual ← arith (c.totalActual.add actual)
  match ← findRecord byKey key with
  | none => return { c with totalActual := totalActual, discrepancyCount := c.discrepancyCount + 1 }
  | some rec =>
    let totalEstimated ← arith (c.totalEstimated.add rec.estimatedProviderCostUsd)
    let status ← arith (lineStatus actual rec.estimatedProviderCostUsd)
    return {
      service := writeStatus c.service rec status
      matchedCount := c.matchedCount + 1
      discrepancyCount := if status = .discrepancy then c.discrepancyCount + 1 else c.discrepancyCount
      totalEstimated := totalEstimated
      totalActual := totalActual }

/-- The loop: its outcome and the ledger it leaves. -/
def reconcileLines (byKey : Dict String UsageRecord) : List InvoiceLine → Cycle →
    Except ReconciliationFailure Cycle × MeteringService
  | [], c => (.ok c,c.service)
  | line :: lines, c =>
    match lineStep readDecimal byKey c line with
    | .error e => (.error e,c.service)
    | .ok next => reconcileLines byKey lines next

def cycleVariance (c : Cycle) : Except Decimal.Signal FloatValue := do
  if ← (Decimal.ofCents 0).lt c.totalEstimated then variance c.totalActual c.totalEstimated
  else return if c.totalActual.isZero then .finite 0 else .finite 1

/-- The verdict on the cycle, after the loop. -/
def reportCycle (tenantId : TenantId) (cycleId : String) (strictFail : Bool) (c : Cycle) :
    Except ReconciliationFailure ReconciliationReport := do
  let var ← arith (cycleVariance c)
  let status := if var.atMost tolerance && c.discrepancyCount == 0 then "RECONCILED" else "DISCREPANCY"
  if strictFail && status == "DISCREPANCY" then
    throw (.raised (reconciliationGapError
      s!"Reconciliation cycle '{cycleId}' variance {var.percent.toFixed2}% exceeds 2% threshold with {c.discrepancyCount} discrepancy item(s)"))
  -- the report refuses totals that are no numbers
  if accepted : c.totalEstimated.value.isSome = true ∧ c.totalActual.value.isSome = true then
    return {
      tenantId := tenantId, cycleId := cycleId, totalEstimatedUsd := c.totalEstimated
      totalActualUsd := c.totalActual, variancePct := var, matchedRecordsCount := c.matchedCount
      discrepancyCount := c.discrepancyCount, status := status
      estimatedAccepted := accepted.1, actualAccepted := accepted.2 }
  else throw (.raised .validationError)

def reconcileMonthlyCycle (s : MeteringService) (tenantId : TenantId) (lines : List InvoiceLine)
    (cycleId : String := "monthly_cycle_001") (strictFail : Bool := false) :
    Except ReconciliationFailure ReconciliationReport × MeteringService :=
  match reconcileLines readDecimal (recordsByKey (s.listUsageRecords tenantId)) lines { service := s } with
  | (.error e,left) => (.error e,left)
  | (.ok c,left) => (reportCycle tenantId cycleId strictFail c,left)

end reconcile

section lookups

theorem recordsByKey_get (records : List UsageRecord) (k : String) :
    (∀ rec, (recordsByKey records).get? k = some rec → rec ∈ records ∧ rec.idempotencyKey = k) ∧
      ((recordsByKey records).get? k = none → ∀ rec ∈ records, rec.idempotencyKey ≠ k) := by
  have lookup : (recordsByKey records).get? k = records.reverse.find? (fun rec => rec.idempotencyKey = k) := by
    exact (Dict.get?_foldl_set UsageRecord.idempotencyKey id records .empty k).trans (by simp)
  rw [lookup]
  constructor
  · intro rec stored
    exact ⟨List.mem_reverse.mp (List.mem_of_find?_eq_some stored),by simpa using List.find?_some stored⟩
  · intro none rec inside
    simpa using List.find?_eq_none.mp none rec (List.mem_reverse.mpr inside)

/-- The line gives the key of the record. -/
def Names (line : InvoiceLine) (rec : UsageRecord) : Prop :=
  PyValue.lookup line "idempotency_key" = some (.str rec.idempotencyKey)

variable {records : List UsageRecord} {line : InvoiceLine} {key : PyValue}

theorem findRecord_some {rec : UsageRecord} (found : findRecord (recordsByKey records) key = .ok (some rec)) :
    rec ∈ records ∧ key = .str rec.idempotencyKey := by
  unfold findRecord at found
  split at found
  next =>
    split at found
    next k _ =>
      obtain ⟨inside,same⟩ := (recordsByKey_get records k).1 rec (Except.ok.inj found)
      exact ⟨inside,by rw [same]⟩
    next => cases found
  next => cases found

theorem findRecord_none (found : findRecord (recordsByKey records) key = .ok none) :
    ∀ rec ∈ records, key ≠ .str rec.idempotencyKey := by
  rintro rec inside rfl
  exact (recordsByKey_get records rec.idempotencyKey).2 (Except.ok.inj found) rec inside rfl

end lookups

section steps
variable {readDecimal : PyValue → Option Decimal} {records : List UsageRecord} {line : InvoiceLine} {c next : Cycle}

theorem arith_ok {A : Type} {result : Except Decimal.Signal A} {a : A} (ok : arith result = .ok a) : result = .ok a := by
  cases result with
  | error e => cases ok
  | ok b =>
    cases ok
    rfl

theorem lineStatus_decided {actual estimated : Decimal} {status : ReconciliationStatus}
    (decided : lineStatus actual estimated = .ok status) : status = .reconciled ∨ status = .discrepancy := by
  unfold lineStatus at decided
  cases positive : (Decimal.ofCents 0).lt estimated with
  | error e => simp [positive,bind,Except.bind] at decided
  | ok above =>
    cases above with
    | true =>
      cases var : variance actual estimated with
      | error e => simp [positive,var,bind,Except.bind] at decided
      | ok v =>
        simp only [positive,var,bind,Except.bind,pure,Except.pure,if_true,Except.ok.injEq] at decided
        split at decided <;> simp [← decided]
    | false =>
      simp only [positive,bind,Except.bind,pure,Except.pure,Bool.false_eq_true,if_false,Except.ok.injEq] at decided
      split at decided <;> simp [← decided]

/-- What a turn of the loop that does not raise does. -/
theorem lineStep_cases (taken : lineStep readDecimal (recordsByKey records) c line = .ok next) :
    ∃ key actual, PyValue.lookup line "idempotency_key" = some key ∧ actualCost readDecimal line = .ok actual ∧
      (((∀ rec ∈ records, key ≠ .str rec.idempotencyKey) ∧ next.service = c.service ∧
          next.discrepancyCount = c.discrepancyCount + 1) ∨
        ∃ rec ∈ records, ∃ status, key = .str rec.idempotencyKey ∧
          lineStatus actual rec.estimatedProviderCostUsd = .ok status ∧
          next.service = writeStatus c.service rec status ∧
          next.discrepancyCount = if status = .discrepancy then c.discrepancyCount + 1 else c.discrepancyCount) := by
  unfold lineStep at taken
  cases keyed : PyValue.lookup line "idempotency_key" with
  | none => simp [lineItem,keyed,bind,Except.bind] at taken
  | some key =>
  cases cost : actualCost readDecimal line with
  | error e => simp [lineItem,keyed,cost,bind,Except.bind] at taken
  | ok actual =>
  cases total : arith (c.totalActual.add actual) with
  | error e => simp [lineItem,keyed,cost,total,bind,Except.bind] at taken
  | ok totalActual =>
  cases found : findRecord (recordsByKey records) key with
  | error e => simp [lineItem,keyed,cost,total,found,bind,Except.bind] at taken
  | ok answer =>
  refine ⟨key,actual,rfl,rfl,?_⟩
  cases answer with
  | none =>
    simp only [lineItem,keyed,cost,total,found,bind,Except.bind,pure,Except.pure,Except.ok.injEq] at taken
    exact .inl ⟨findRecord_none found,by rw [← taken],by rw [← taken]⟩
  | some rec =>
    obtain ⟨inside,same⟩ := findRecord_some found
    cases estimated : arith (c.totalEstimated.add rec.estimatedProviderCostUsd) with
    | error e => simp [lineItem,keyed,cost,total,found,estimated,bind,Except.bind] at taken
    | ok totalEstimated =>
    cases decided : arith (lineStatus actual rec.estimatedProviderCostUsd) with
    | error e => simp [lineItem,keyed,cost,total,found,estimated,decided,bind,Except.bind] at taken
    | ok status =>
      simp only [lineItem,keyed,cost,total,found,estimated,decided,bind,Except.bind,pure,Except.pure,
        Except.ok.injEq] at taken
      exact .inr ⟨rec,inside,status,same,arith_ok decided,by rw [← taken],by rw [← taken]⟩

end steps

section recorded
open MeteringService

/-- A ledger as `record_usage` leaves it. -/
structure Recorded (s : MeteringService) : Prop where
  keyed : ∀ id rec, s.ledger.get? id = some rec → rec.usageId.value = id
  estimated : ∀ id rec, s.ledger.get? id = some rec → rec.reconciliationStatus = .estimated
  unique : ∀ id rec id' rec', s.ledger.get? id = some rec → s.ledger.get? id' = some rec' →
    rec.tenantId = rec'.tenantId → rec.idempotencyKey = rec'.idempotencyKey → rec = rec'

variable {sha256 : String → String}

/-- The accepted calls of a run have keys that the index does not know, each once. -/
theorem acceptedCalls_keys (s : MeteringService) (calls : List UsageCall) :
    (∀ call ∈ acceptedCalls sha256 s calls, call.indexKey ∉ s.idempotencyIndex) ∧
      ((acceptedCalls sha256 s calls).map UsageCall.indexKey).Nodup := by
  induction calls generalizing s with
  | nil => simp [acceptedCalls]
  | cons call calls ih =>
    rcases @recordUsage_cases sha256 s call with ⟨_,served⟩ | ⟨_,served⟩ | ⟨record,new,_,served⟩
    · simpa only [acceptedCalls,meteringStep,served] using ih s
    · simpa only [acceptedCalls,meteringStep,served] using ih s
    · obtain ⟨later,distinct⟩ := ih (meteringStep sha256 s call)
      have index : (meteringStep sha256 s call).idempotencyIndex = call.indexKey :: s.idempotencyIndex :=
        congrArg (fun out => out.2.idempotencyIndex) served
      simp only [acceptedCalls,served,List.map_cons,List.nodup_cons,List.forall_mem_cons]
      refine ⟨⟨new,?_⟩,?_,distinct⟩
      · intro other inside known
        exact later other inside (index ▸ List.mem_cons_of_mem _ known)
      · intro again
        obtain ⟨other,inside,same⟩ := List.mem_map.mp again
        exact later other inside (index ▸ same ▸ List.mem_cons_self)

theorem holds_entry {s : MeteringService} {held : List UsageCall} (holds : Holds sha256 s held) {id : String}
    {rec : UsageRecord} (stored : s.ledger.get? id = some rec) :
    ∃ call ∈ held, id = call.usageId.value ∧ Attributed sha256 call rec := by
  have inside := (Dict.mem_entries_iff s.ledger id rec).mpr stored
  have ledger := holds.ledger
  clear holds stored
  generalize s.ledger.entries = entries at ledger inside
  induction ledger with
  | nil => cases inside
  | @cons call entry calls entries head _ ih =>
    obtain rfl | later := List.mem_cons.mp inside
    · exact ⟨call,List.mem_cons_self,head⟩
    · obtain ⟨other,member,found⟩ := ih later
      exact ⟨other,List.mem_cons_of_mem _ member,found⟩

theorem recorded_run (calls : List UsageCall) (fresh : (calls.map UsageCall.usageId).Nodup) :
    Recorded (run (meteringStep sha256) {} calls) := by
  have empty : Holds sha256 {} [] := ⟨.nil,fun key => by simp⟩
  have holds := holds_run empty calls fresh
  rw [List.nil_append] at holds
  have distinct := (@acceptedCalls_keys sha256 {} calls).2
  refine ⟨?_,?_,?_⟩
  · intro id rec stored
    obtain ⟨call,_,own,attributed⟩ := holds_entry holds stored
    rw [own,attributed.usageId]
  · intro id rec stored
    obtain ⟨call,_,_,attributed⟩ := holds_entry holds stored
    exact attributed.reconciliationStatus
  · intro id rec id' rec' stored stored' tenant key
    obtain ⟨call,inside,own,attributed⟩ := holds_entry holds stored
    obtain ⟨call',inside',own',attributed'⟩ := holds_entry holds stored'
    have pair : SamePair call call' :=
      ⟨attributed.tenantId.symm.trans (tenant.trans attributed'.tenantId),
        attributed.idempotencyKey.symm.trans (key.trans attributed'.idempotencyKey)⟩
    obtain rfl := List.inj_on_of_nodup_map distinct inside inside' ((indexKey_eq_iff call call').mpr pair)
    obtain rfl : id = id' := own.trans own'.symm
    exact Option.some.inj (stored.symm.trans stored')

end recorded

section loop
variable (readDecimal : PyValue → Option Decimal) (s : MeteringService) (tenantId : TenantId)

/-- One of the lines gives the key of a record of the tenant. -/
def Touched (lines : List InvoiceLine) (rec : UsageRecord) : Prop :=
  rec ∈ s.listUsageRecords tenantId ∧ ∃ line ∈ lines, Names line rec

/-- A line that gives its record the status RECONCILED. -/
def Passes (line : InvoiceLine) (rec : UsageRecord) : Prop :=
  Names line rec ∧ ∃ actual, actualCost readDecimal line = .ok actual ∧
    lineStatus actual rec.estimatedProviderCostUsd = .ok .reconciled

def statusAt (s : MeteringService) (rec : UsageRecord) : Option ReconciliationStatus :=
  (s.ledger.get? rec.usageId.value).map (·.reconciliationStatus)

/-- The ledger after some lines of the loop. -/
structure AfterLines (lines : List InvoiceLine) (c : Cycle) : Prop where
  untouched : ∀ id rec, s.ledger.get? id = some rec → ¬ Touched s tenantId lines rec →
    c.service.ledger.get? id = some rec
  absent : ∀ id, s.ledger.get? id = none → c.service.ledger.get? id = none
  written : ∀ rec, Touched s tenantId lines rec →
    statusAt c.service rec = some .reconciled ∨ statusAt c.service rec = some .discrepancy
  passed : c.discrepancyCount = 0 → ∀ line ∈ lines, ∃ rec ∈ s.listUsageRecords tenantId,
    Passes readDecimal line rec ∧ statusAt c.service rec = some .reconciled

variable {readDecimal s tenantId}

theorem mem_listUsageRecords {rec : UsageRecord} (inside : rec ∈ s.listUsageRecords tenantId)
    (recorded : Recorded s) : s.ledger.get? rec.usageId.value = some rec ∧ rec.tenantId = tenantId := by
  simp only [MeteringService.listUsageRecords,List.mem_filter,decide_eq_true_eq] at inside
  obtain ⟨member,tenant,_⟩ := inside
  obtain ⟨id,stored⟩ := (Dict.mem_values_iff s.ledger rec).mp member
  obtain rfl := recorded.keyed id rec stored
  exact ⟨stored,tenant_ext tenant⟩

/-- A key names one record of the tenant. -/
theorem same_record (recorded : Recorded s) {rec rec' : UsageRecord} (inside : rec ∈ s.listUsageRecords tenantId)
    (inside' : rec' ∈ s.listUsageRecords tenantId) (key : rec.idempotencyKey = rec'.idempotencyKey) : rec = rec' := by
  obtain ⟨stored,tenant⟩ := mem_listUsageRecords inside recorded
  obtain ⟨stored',tenant'⟩ := mem_listUsageRecords inside' recorded
  exact recorded.unique _ _ _ _ stored stored' (tenant.trans tenant'.symm) key

theorem names_key {line : InvoiceLine} {rec rec' : UsageRecord} (first : Names line rec) (second : Names line rec') :
    rec.idempotencyKey = rec'.idempotencyKey := by
  unfold Names at first second
  rw [first] at second
  simpa using second

theorem afterLines_start : AfterLines readDecimal s tenantId [] { service := s } where
  untouched _ _ stored _ := stored
  absent _ none := none
  written _ touched := absurd touched.2 (by simp)
  passed _ _ inside := absurd inside List.not_mem_nil

theorem get_writeStatus (s : MeteringService) (rec : UsageRecord) (status : ReconciliationStatus) (id : String) :
    (writeStatus s rec status).ledger.get? id =
      if id = rec.usageId.value then some { rec with reconciliationStatus := status } else s.ledger.get? id :=
  Dict.get?_set s.ledger rec.usageId.value id _

theorem statusAt_writeStatus (s : MeteringService) (rec other : UsageRecord) (status : ReconciliationStatus) :
    statusAt (writeStatus s rec status) other =
      if other.usageId.value = rec.usageId.value then some status else statusAt s other := by
  rw [statusAt,get_writeStatus]
  split <;> rfl

theorem touched_append {lines : List InvoiceLine} {line : InvoiceLine} {rec : UsageRecord} :
    Touched s tenantId (lines ++ [line]) rec ↔
      Touched s tenantId lines rec ∨ (rec ∈ s.listUsageRecords tenantId ∧ Names line rec) := by
  simp only [Touched,List.mem_append,List.mem_singleton]
  constructor
  · rintro ⟨inside,other,member | rfl,named⟩
    · exact .inl ⟨inside,other,member,named⟩
    · exact .inr ⟨inside,named⟩
  · rintro (⟨inside,other,member,named⟩ | ⟨inside,named⟩)
    · exact ⟨inside,other,.inl member,named⟩
    · exact ⟨inside,line,.inr rfl,named⟩

theorem afterLines_unknown {lines : List InvoiceLine} {line : InvoiceLine} {c next : Cycle}
    (before : AfterLines readDecimal s tenantId lines c)
    (unknown : ∀ rec ∈ s.listUsageRecords tenantId, ¬ Names line rec) (service : next.service = c.service)
    (count : next.discrepancyCount = c.discrepancyCount + 1) :
    AfterLines readDecimal s tenantId (lines ++ [line]) next := by
  have same (rec : UsageRecord) : Touched s tenantId (lines ++ [line]) rec ↔ Touched s tenantId lines rec := by
    rw [touched_append,or_iff_left]
    exact fun named => unknown rec named.1 named.2
  refine ⟨?_,?_,?_,?_⟩
  · intro id rec stored untouched
    rw [service]
    exact before.untouched id rec stored (fun touched => untouched ((same rec).mpr touched))
  · intro id none
    rw [service]
    exact before.absent id none
  · intro rec touched
    rw [service]
    exact before.written rec ((same rec).mp touched)
  · intro zero
    omega

theorem afterLines_matched (recorded : Recorded s) {lines : List InvoiceLine} {line : InvoiceLine} {c next : Cycle}
    (before : AfterLines readDecimal s tenantId lines c) {rec : UsageRecord} {status : ReconciliationStatus}
    {actual : Decimal} (inside : rec ∈ s.listUsageRecords tenantId) (named : Names line rec)
    (cost : actualCost readDecimal line = .ok actual)
    (decided : lineStatus actual rec.estimatedProviderCostUsd = .ok status)
    (service : next.service = writeStatus c.service rec status)
    (count : next.discrepancyCount = if status = .discrepancy then c.discrepancyCount + 1 else c.discrepancyCount) :
    AfterLines readDecimal s tenantId (lines ++ [line]) next := by
  obtain ⟨stored,_⟩ := mem_listUsageRecords inside recorded
  refine ⟨?_,?_,?_,?_⟩
  · intro id other found untouched
    rw [touched_append,not_or] at untouched
    rw [service,get_writeStatus]
    split
    next own =>
      obtain rfl : rec = other := Option.some.inj (stored.symm.trans (own ▸ found))
      exact absurd ⟨inside,named⟩ untouched.2
    next => exact before.untouched id other found untouched.1
  · intro id none
    rw [service,get_writeStatus]
    split
    next own =>
      rw [own,stored] at none
      cases none
    next => exact before.absent id none
  · intro other touched
    rw [service,statusAt_writeStatus]
    split
    next => exact (lineStatus_decided decided).imp (congrArg some) (congrArg some)
    next apart =>
      rcases touched_append.mp touched with earlier | ⟨inside',named'⟩
      · exact before.written other earlier
      · have same := same_record recorded inside inside' (names_key named named')
        exact absurd (congrArg (fun r : UsageRecord => r.usageId.value) same.symm) apart
  · intro zero
    rw [count] at zero
    obtain rfl | rfl := lineStatus_decided decided
    · rw [if_neg (by simp)] at zero
      intro other member
      rcases List.mem_append.mp member with earlier | last
      · obtain ⟨rec',inside',passes,kept⟩ := before.passed zero other earlier
        refine ⟨rec',inside',passes,?_⟩
        rw [service,statusAt_writeStatus]
        split
        · rfl
        · exact kept
      · obtain rfl := List.mem_singleton.mp last
        refine ⟨rec,inside,⟨named,actual,cost,decided⟩,?_⟩
        rw [service,statusAt_writeStatus,if_pos rfl]
    · rw [if_pos rfl] at zero
      omega

theorem afterLines_step (recorded : Recorded s) {lines : List InvoiceLine} {line : InvoiceLine} {c next : Cycle}
    (before : AfterLines readDecimal s tenantId lines c)
    (taken : lineStep readDecimal (recordsByKey (s.listUsageRecords tenantId)) c line = .ok next) :
    AfterLines readDecimal s tenantId (lines ++ [line]) next := by
  obtain ⟨key,actual,keyed,cost,⟨unknown,service,count⟩ | ⟨rec,inside,status,named,decided,service,count⟩⟩ :=
    lineStep_cases taken
  · apply afterLines_unknown before _ service count
    intro rec inside named
    exact unknown rec inside (Option.some.inj (keyed.symm.trans named))
  · exact afterLines_matched recorded before inside (keyed.trans (congrArg some named)) cost decided service count

/-- The lines in front of the first one that raises. -/
def takenLines (readDecimal : PyValue → Option Decimal) (byKey : Dict String UsageRecord) :
    List InvoiceLine → Cycle → List InvoiceLine
  | [], _ => []
  | line :: lines, c =>
    match lineStep readDecimal byKey c line with
    | .error _ => []
    | .ok next => line :: takenLines readDecimal byKey lines next

theorem reconcileLines_run (recorded : Recorded s) (lines done : List InvoiceLine) (c : Cycle)
    (before : AfterLines readDecimal s tenantId done c) :
    ∃ last, AfterLines readDecimal s tenantId
        (done ++ takenLines readDecimal (recordsByKey (s.listUsageRecords tenantId)) lines c) last ∧
      ((reconcileLines readDecimal (recordsByKey (s.listUsageRecords tenantId)) lines c = (.ok last,last.service) ∧
          takenLines readDecimal (recordsByKey (s.listUsageRecords tenantId)) lines c = lines) ∨
        ∃ e, reconcileLines readDecimal (recordsByKey (s.listUsageRecords tenantId)) lines c = (.error e,last.service)) := by
  induction lines generalizing done c with
  | nil => exact ⟨c,by simpa [takenLines] using before,.inl ⟨rfl,rfl⟩⟩
  | cons line lines ih =>
    cases step : lineStep readDecimal (recordsByKey (s.listUsageRecords tenantId)) c line with
    | error e =>
      refine ⟨c,by simpa [takenLines,step] using before,.inr ⟨e,?_⟩⟩
      simp only [reconcileLines,step]
    | ok next =>
      obtain ⟨last,after,outcome⟩ := ih (done ++ [line]) next (afterLines_step recorded before step)
      simp only [reconcileLines,takenLines,step]
      refine ⟨last,by simpa using after,?_⟩
      rcases outcome with ⟨ended,whole⟩ | raised
      · exact .inl ⟨ended,by rw [whole]⟩
      · exact .inr raised

end loop

section verdict
variable (readDecimal : PyValue → Option Decimal) (s : MeteringService) (tenantId : TenantId)

/-- The amount of a line, if it is a number. -/
def lineAmount (line : InvoiceLine) : Option ℚ := (actualCost readDecimal line).toOption.bind Decimal.value

def estimate (rec : UsageRecord) : ℚ := rec.estimatedProviderCostUsd.value.getD 0

/-- Within two percent, exactly. -/
def Within (actual estimated : ℚ) : Prop := |actual - estimated| ≤ 2 / 100 * |estimated|

/-- A line beside the record and the amount it is matched with. -/
structure Matched (line : InvoiceLine) (m : UsageRecord × ℚ) : Prop where
  owned : m.1 ∈ s.listUsageRecords tenantId
  named : Names line m.1
  amount : lineAmount readDecimal line = some m.2
  within : Within m.2 (estimate m.1)

/-- The lines match distinct records of the tenant, all RECONCILED now, and the totals agree too. -/
structure CycleMatched (after : MeteringService) (lines : List InvoiceLine) (pairs : List (UsageRecord × ℚ)) : Prop where
  matched : List.Forall₂ (Matched readDecimal s tenantId) lines pairs
  distinct : (pairs.map (fun m => m.1.usageId)).Nodup
  reconciled : ∀ m ∈ pairs, statusAt after m.1 = some .reconciled
  totals : Within (pairs.map Prod.snd).sum (pairs.map (fun m => estimate m.1)).sum

/-- No status of a record is another one than before. -/
def StatusesKept (after : MeteringService) : Prop :=
  ∀ id, (after.ledger.get? id).map (·.reconciliationStatus) = (s.ledger.get? id).map (·.reconciliationStatus)

/-- A line passes its test without being within two percent: the estimate is negative and the amount zero,
or the quotient is above two percent by less than its rounding. -/
def Slips (line : InvoiceLine) (rec : UsageRecord) : Prop :=
  Names line rec ∧ ∃ actual a, actualCost readDecimal line = .ok actual ∧ actual.value = some a ∧
    ((estimate rec < 0 ∧ a = 0) ∨
      (0 < estimate rec ∧ 2 / 100 * estimate rec < |a - estimate rec| ∧
        ∃ var, variance actual rec.estimatedProviderCostUsd = .ok var ∧ var.atMost tolerance = true))

variable {readDecimal s tenantId}

/-- The variance of an amount that is no number is no number up to the tolerance. -/
theorem variance_number {actual estimated : Decimal} {v : ℚ} (number : estimated.value = some v) (positive : 0 < v)
    {var : FloatValue} (ok : variance actual estimated = .ok var) (within : var.atMost tolerance = true) :
    ∃ a, actual.value = some a := by
  obtain ⟨m,d,f,rfl,value⟩ := Decimal.finite_of_value number
  have sign : m = false := by
    cases m with
    | false => rfl
    | true =>
      have scale : (0 : ℚ) ≤ 10 ^ f := zpow_nonneg (by norm_num) f
      have bound : (0 : ℚ) ≤ d * 10 ^ f := mul_nonneg (Nat.cast_nonneg d) scale
      simp only [Decimal.finiteValue,if_true] at value
      linarith
  subst sign
  cases actual with
  | finite n c e => exact ⟨_,rfl⟩
  | infinite n =>
    cases ok
    cases within
  | nan =>
    cases ok
    cases within
  | snan => cases ok

theorem isZero_value (x : Decimal) : x.isZero = true ↔ x.value = some 0 := by
  cases x with
  | finite n c e =>
    have scale : (10 : ℚ) ^ e ≠ 0 := zpow_ne_zero e (by norm_num)
    cases n <;> simp [Decimal.isZero,Decimal.value,Decimal.finiteValue,scale]
  | infinite n => simp [Decimal.isZero,Decimal.value]
  | nan => simp [Decimal.isZero,Decimal.value]
  | snan => simp [Decimal.isZero,Decimal.value]

/-- A line passes with the amount zero where the estimate is not positive, else by its rounded quotient. -/
theorem lineStatus_reconciled_iff {actual estimated : Decimal} {v : ℚ} (number : estimated.value = some v) :
    lineStatus actual estimated = .ok .reconciled ↔ ∃ a, actual.value = some a ∧
      ((v ≤ 0 ∧ a = 0) ∨ (0 < v ∧ ∃ var, variance actual estimated = .ok var ∧ var.atMost tolerance = true)) := by
  unfold lineStatus
  rw [Decimal.lt_value Decimal.ofCents_zero_value number]
  by_cases positive : 0 < v
  · simp only [positive,bind,Except.bind,pure,Except.pure,decide_true,if_true]
    constructor
    · intro passed
      cases var : variance actual estimated with
      | error e =>
        rw [var] at passed
        cases passed
      | ok x =>
        simp only [var,Except.ok.injEq] at passed
        split at passed
        next within =>
          obtain ⟨a,found⟩ := variance_number number positive var within
          exact ⟨a,found,.inr ⟨trivial,x,rfl,within⟩⟩
        next => cases passed
    · rintro ⟨a,_,⟨low,_⟩ | ⟨_,var,ok,within⟩⟩
      · exact absurd positive low.not_gt
      · simp only [ok,within,if_true]
  · simp only [positive,bind,Except.bind,pure,Except.pure,decide_false,Bool.false_eq_true,if_false,
      Except.ok.injEq]
    constructor
    · intro passed
      split at passed
      next zero => exact ⟨0,(isZero_value actual).mp zero,.inl ⟨not_lt.mp positive,rfl⟩⟩
      next => cases passed
    · rintro ⟨a,amount,⟨_,rfl⟩ | ⟨above,_⟩⟩
      · rw [if_pos ((isZero_value actual).mpr amount)]
      · exact above.elim

theorem estimate_value (rec : UsageRecord) : rec.estimatedProviderCostUsd.value = some (estimate rec) := by
  obtain ⟨v,number⟩ := Option.isSome_iff_exists.mp rec.costAccepted
  rw [estimate,number,Option.getD_some]

theorem lineAmount_ok {line : InvoiceLine} {actual : Decimal} (cost : actualCost readDecimal line = .ok actual) :
    lineAmount readDecimal line = actual.value := by
  rw [lineAmount,cost]
  rfl

/-- A line that passes and does not slip is within two percent of an estimate that is not negative. -/
theorem within_of_passes {line : InvoiceLine} {rec : UsageRecord} (passes : Passes readDecimal line rec)
    (sound : ¬ Slips readDecimal line rec) :
    ∃ a, lineAmount readDecimal line = some a ∧ Within a (estimate rec) ∧ 0 ≤ estimate rec := by
  obtain ⟨named,actual,cost,passed⟩ := passes
  obtain ⟨a,amount,⟨low,rfl⟩ | ⟨positive,rounded⟩⟩ := (lineStatus_reconciled_iff (estimate_value rec)).mp passed
  · have zero : estimate rec = 0 := by
      apply le_antisymm low
      by_contra negative
      exact sound ⟨named,actual,0,cost,amount,.inl ⟨not_le.mp negative,rfl⟩⟩
    refine ⟨0,(lineAmount_ok cost).trans amount,?_,zero.ge⟩
    simp [Within,zero]
  · refine ⟨a,(lineAmount_ok cost).trans amount,?_,positive.le⟩
    rw [Within,abs_of_pos positive]
    by_contra apart
    exact sound ⟨named,actual,a,cost,amount,.inr ⟨positive,not_le.mp apart,rounded⟩⟩

theorem not_within_of_slips {line : InvoiceLine} {rec : UsageRecord} (slips : Slips readDecimal line rec) {a : ℚ}
    (amount : lineAmount readDecimal line = some a) : ¬ Within a (estimate rec) := by
  obtain ⟨_,actual,b,cost,value,out⟩ := slips
  obtain rfl : a = b := Option.some.inj (amount.symm.trans ((lineAmount_ok cost).trans value))
  unfold Within
  rcases out with ⟨negative,rfl⟩ | ⟨positive,apart,_⟩
  · rw [zero_sub,abs_neg,not_le]
    have size := abs_pos.mpr negative.ne
    linarith
  · rw [abs_of_pos positive]
    exact not_le.mpr apart

/-- Amounts within two percent of estimates that are not negative add up within two percent. -/
theorem within_sum (pairs : List (UsageRecord × ℚ)) (within : ∀ m ∈ pairs, Within m.2 (estimate m.1))
    (nonneg : ∀ m ∈ pairs, 0 ≤ estimate m.1) :
    Within (pairs.map Prod.snd).sum (pairs.map (fun m => estimate m.1)).sum := by
  suffices bounds : |(pairs.map Prod.snd).sum - (pairs.map (fun m => estimate m.1)).sum| ≤
      2 / 100 * (pairs.map (fun m => estimate m.1)).sum ∧ 0 ≤ (pairs.map (fun m => estimate m.1)).sum by
    rw [Within,abs_of_nonneg bounds.2]
    exact bounds.1
  induction pairs with
  | nil => simp
  | cons m pairs ih =>
    obtain ⟨first,others⟩ := List.forall_mem_cons.mp within
    obtain ⟨sign,signs⟩ := List.forall_mem_cons.mp nonneg
    obtain ⟨total,positive⟩ := ih others signs
    rw [Within,abs_of_nonneg sign] at first
    simp only [List.map_cons,List.sum_cons]
    refine ⟨?_,add_nonneg sign positive⟩
    have triangle := abs_add_le (m.2 - estimate m.1) ((pairs.map Prod.snd).sum - (pairs.map (fun m => estimate m.1)).sum)
    rw [add_sub_add_comm]
    linarith

theorem matched_keys {lines : List InvoiceLine} {pairs : List (UsageRecord × ℚ)}
    (matched : List.Forall₂ (Matched readDecimal s tenantId) lines pairs) :
    lines.map (PyValue.lookup · "idempotency_key") = pairs.map (fun m => some (.str m.1.idempotencyKey)) := by
  induction matched with
  | nil => rfl
  | cons first _ ih =>
    rw [List.map_cons,List.map_cons,ih]
    exact congrArg (· :: _) first.named

/-- Records of the tenant are as distinct by identifier as by key. -/
theorem distinct_iff (recorded : Recorded s) {pairs : List (UsageRecord × ℚ)}
    (owned : ∀ m ∈ pairs, m.1 ∈ s.listUsageRecords tenantId) :
    (pairs.map (fun m => m.1.usageId)).Nodup ↔
      (pairs.map (fun m => some (PyValue.str m.1.idempotencyKey))).Nodup := by
  have same {m m' : UsageRecord × ℚ} (inside : m ∈ pairs) (inside' : m' ∈ pairs) :
      m.1.usageId = m'.1.usageId ↔ m.1.idempotencyKey = m'.1.idempotencyKey := by
    constructor
    · intro id
      have stored := (mem_listUsageRecords (owned m inside) recorded).1
      rw [id,(mem_listUsageRecords (owned m' inside') recorded).1] at stored
      exact congrArg UsageRecord.idempotencyKey (Option.some.inj stored).symm
    · intro key
      exact congrArg UsageRecord.usageId (same_record recorded (owned m inside) (owned m' inside') key)
  constructor
  · intro distinct
    apply (distinct.of_map _).map_on
    intro m inside m' inside' key
    exact List.inj_on_of_nodup_map distinct inside inside' ((same inside inside').mpr (by simpa using key))
  · intro distinct
    apply (distinct.of_map _).map_on
    intro m inside m' inside' id
    apply List.inj_on_of_nodup_map distinct inside inside'
    rw [(same inside inside').mp id]

theorem keys_of_cycleMatched (recorded : Recorded s) {after : MeteringService} {lines : List InvoiceLine}
    {pairs : List (UsageRecord × ℚ)} (cycle : CycleMatched readDecimal s tenantId after lines pairs) :
    (lines.map (PyValue.lookup · "idempotency_key")).Nodup := by
  rw [matched_keys cycle.matched]
  have owned : ∀ m ∈ pairs, m.1 ∈ s.listUsageRecords tenantId := by
    intro m inside
    obtain ⟨line,_,found⟩ := Pairing.exists_left cycle.matched inside
    exact found.owned
  exact (distinct_iff recorded owned).mp cycle.distinct

/-- Lines with distinct keys that pass and do not slip match the cycle. -/
theorem cycleMatched_of_passed (recorded : Recorded s) {lines : List InvoiceLine} {c : Cycle}
    (after : AfterLines readDecimal s tenantId lines c) (zero : c.discrepancyCount = 0)
    (distinct : (lines.map (PyValue.lookup · "idempotency_key")).Nodup)
    (sound : ∀ line ∈ lines, ∀ rec ∈ s.listUsageRecords tenantId, ¬ Slips readDecimal line rec) :
    ∃ pairs, CycleMatched readDecimal s tenantId c.service lines pairs := by
  have each : ∀ line ∈ lines, ∃ m : UsageRecord × ℚ, Matched readDecimal s tenantId line m ∧
      statusAt c.service m.1 = some .reconciled ∧ 0 ≤ estimate m.1 := by
    intro line inside
    obtain ⟨rec,owned,passes,kept⟩ := after.passed zero line inside
    obtain ⟨a,amount,within,sign⟩ := within_of_passes passes (sound line inside rec owned)
    exact ⟨(rec,a),⟨owned,passes.1,amount,within⟩,kept,sign⟩
  obtain ⟨pairs,paired⟩ := Pairing.exists_paired each
  have matched : List.Forall₂ (Matched readDecimal s tenantId) lines pairs := paired.imp (fun _ _ both => both.1)
  have partner {m : UsageRecord × ℚ} (inside : m ∈ pairs) : ∃ line, Matched readDecimal s tenantId line m ∧
      statusAt c.service m.1 = some .reconciled ∧ 0 ≤ estimate m.1 := by
    obtain ⟨line,_,found⟩ := Pairing.exists_left paired inside
    exact ⟨line,found⟩
  refine ⟨pairs,matched,?_,?_,?_⟩
  · rw [matched_keys matched] at distinct
    have owned : ∀ m ∈ pairs, m.1 ∈ s.listUsageRecords tenantId := by
      intro m inside
      obtain ⟨line,found,_⟩ := partner inside
      exact found.owned
    exact (distinct_iff recorded owned).mpr distinct
  · intro m inside
    obtain ⟨line,_,kept,_⟩ := partner inside
    exact kept
  · apply within_sum
    · intro m inside
      obtain ⟨line,found,_⟩ := partner inside
      exact found.within
    · intro m inside
      obtain ⟨line,_,_,sign⟩ := partner inside
      exact sign

theorem sound_of_cycleMatched (recorded : Recorded s) {after : MeteringService} {lines : List InvoiceLine}
    {pairs : List (UsageRecord × ℚ)} (cycle : CycleMatched readDecimal s tenantId after lines pairs) :
    ∀ line ∈ lines, ∀ rec ∈ s.listUsageRecords tenantId, ¬ Slips readDecimal line rec := by
  intro line inside rec owned slips
  obtain ⟨m,_,found⟩ := Pairing.exists_right cycle.matched inside
  obtain rfl := same_record recorded owned found.owned (names_key slips.1 found.named)
  exact not_within_of_slips slips found.amount found.within

/-- The statuses are kept iff no record is touched. -/
theorem statusesKept_iff (recorded : Recorded s) {lines : List InvoiceLine} {c : Cycle}
    (after : AfterLines readDecimal s tenantId lines c) :
    StatusesKept s c.service ↔ ∀ line ∈ lines, ∀ rec ∈ s.listUsageRecords tenantId, ¬ Names line rec := by
  constructor
  · intro kept line inside rec owned named
    have stored := (mem_listUsageRecords owned recorded).1
    have now : statusAt c.service rec = some .estimated := by
      rw [statusAt,kept,stored]
      exact congrArg some (recorded.estimated _ _ stored)
    have written := after.written rec ⟨owned,line,inside,named⟩
    rw [now] at written
    simp at written
  · intro apart id
    cases stored : s.ledger.get? id with
    | none => rw [after.absent id stored]
    | some rec =>
      rw [after.untouched id rec stored]
      rintro ⟨owned,line,inside,named⟩
      exact apart line inside rec owned named

theorem reportCycle_reconciled {cycleId : String} {strictFail : Bool} {c : Cycle} {report : ReconciliationReport}
    (ok : reportCycle tenantId cycleId strictFail c = .ok report) (verdict : report.status = "RECONCILED") :
    c.discrepancyCount = 0 := by
  unfold reportCycle at ok
  cases var : arith (cycleVariance c) with
  | error e => simp [var,bind,Except.bind] at ok
  | ok x =>
    cases reconciled : x.atMost tolerance && c.discrepancyCount == 0 with
    | true => simpa using (Bool.and_eq_true_iff.mp reconciled).2
    | false =>
      exfalso
      cases strictFail with
      | true => simp [var,reconciled,bind,Except.bind,throw,throwThe,MonadExceptOf.throw] at ok
      | false =>
        simp only [var,reconciled,bind,Except.bind,pure,Except.pure,throw,throwThe,MonadExceptOf.throw,
          Bool.false_eq_true,if_false,Bool.false_and] at ok
        split at ok
        next =>
          rw [← Except.ok.inj ok] at verdict
          simp at verdict
        next => cases ok

end verdict

section main
variable {sha256 : String → String}

/-- A cycle with the verdict RECONCILED matches its lines iff no key is repeated and no line slips; a call that
raises keeps the statuses iff no line in front of the failure names a record. -/
theorem reconcile_settles_iff (readDecimal : PyValue → Option Decimal) (calls : List UsageCall)
    (fresh : (calls.map UsageCall.usageId).Nodup) (tenantId : TenantId) (lines : List InvoiceLine) (cycleId : String)
    (strictFail : Bool) :
    let s := run (meteringStep sha256) {} calls
    let out := reconcileMonthlyCycle readDecimal s tenantId lines cycleId strictFail
    (∀ report, out.1 = .ok report → report.status = "RECONCILED" →
      ((∃ pairs, CycleMatched readDecimal s tenantId out.2 lines pairs) ↔
        (lines.map (PyValue.lookup · "idempotency_key")).Nodup ∧
          ∀ line ∈ lines, ∀ rec ∈ s.listUsageRecords tenantId, ¬ Slips readDecimal line rec)) ∧
    ∀ e, out.1 = .error e →
      (StatusesKept s out.2 ↔
        ∀ line ∈ takenLines readDecimal (recordsByKey (s.listUsageRecords tenantId)) lines { service := s },
          ∀ rec ∈ s.listUsageRecords tenantId, ¬ Names line rec) := by
  intro s out
  have recorded : Recorded s := recorded_run calls fresh
  have start : AfterLines readDecimal s tenantId [] { service := s } := afterLines_start
  obtain ⟨last,after,outcome⟩ := reconcileLines_run recorded lines [] { service := s } start
  rw [List.nil_append] at after
  have left : out.2 = last.service := by
    rcases outcome with ⟨ended,_⟩ | ⟨e,raised⟩
    · simp only [out,reconcileMonthlyCycle,ended]
    · simp only [out,reconcileMonthlyCycle,raised]
  rw [left]
  constructor
  · intro report ok verdict
    rcases outcome with ⟨ended,whole⟩ | ⟨e,raised⟩
    · rw [whole] at after
      simp only [out,reconcileMonthlyCycle,ended] at ok
      have zero := reportCycle_reconciled ok verdict
      constructor
      · rintro ⟨pairs,cycle⟩
        exact ⟨keys_of_cycleMatched recorded cycle,sound_of_cycleMatched recorded cycle⟩
      · rintro ⟨distinct,sound⟩
        exact cycleMatched_of_passed recorded after zero distinct sound
    · simp only [out,reconcileMonthlyCycle,raised] at ok
      cases ok
  · intro e _
    exact statusesKept_iff recorded after

def acmeBilled : TenantId := ⟨"tnt_acme",Eq.refl true⟩

def usage : MeteringService := run (meteringStep (fun _ => "")) {} acmeAndBeta

/-- `Decimal` on the amount of the lines below. -/
def readCents : PyValue → Option Decimal
  | .str "0.02" => some (.ofCents 2)
  | _ => none

def firstCall : InvoiceLine := [(.str "idempotency_key",.str "call:1"),(.str "actual_usd",.str "0.02")]

theorem usage_estimates : (usage.listUsageRecords acmeBilled).map (·.estimatedProviderCostUsd) = [.ofCents 2] := by
  decide +kernel

theorem billed_once_matched : ∃ pairs,
    CycleMatched readCents usage acmeBilled (reconcileMonthlyCycle readCents usage acmeBilled [firstCall]).2 [firstCall] pairs := by
  have verdict : ((reconcileMonthlyCycle readCents usage acmeBilled [firstCall]).1.toOption.map (·.status)) =
      some "RECONCILED" := by decide +kernel
  obtain ⟨report,ok,status⟩ := Option.map_eq_some_iff.mp verdict
  cases outcome : (reconcileMonthlyCycle readCents usage acmeBilled [firstCall]).1 with
  | error e =>
    rw [outcome] at ok
    cases ok
  | ok r =>
    rw [outcome] at ok
    obtain rfl := Option.some.inj ok
    apply ((reconcile_settles_iff readCents acmeAndBeta (by decide) acmeBilled [firstCall] _ _).1 r outcome status).mpr
    refine ⟨List.nodup_singleton _,?_⟩
    rintro line single rec owned ⟨_,actual,a,cost,amount,out⟩
    obtain rfl := List.mem_singleton.mp single
    obtain rfl : Decimal.ofCents 2 = actual := Except.ok.inj cost
    obtain rfl : Decimal.finiteValue false 2 (-2) = a := Option.some.inj amount
    have cents : rec.estimatedProviderCostUsd = .ofCents 2 :=
      List.mem_singleton.mp (usage_estimates ▸ List.mem_map_of_mem owned)
    rw [show estimate rec = Decimal.finiteValue false 2 (-2) by rw [estimate,cents]; rfl] at out
    norm_num [Decimal.finiteValue] at out

/-- One call billed twice is RECONCILED. -/
theorem billed_twice_reconciled :
    ((reconcileMonthlyCycle readCents usage acmeBilled [firstCall,firstCall]).1.toOption.map (·.status)) =
        some "RECONCILED" ∧
      ¬ ∃ pairs, CycleMatched readCents usage acmeBilled
        (reconcileMonthlyCycle readCents usage acmeBilled [firstCall,firstCall]).2 [firstCall,firstCall] pairs := by
  refine ⟨by decide +kernel,?_⟩
  rintro ⟨pairs,cycle⟩
  have recorded : Recorded usage := recorded_run acmeAndBeta (by decide)
  have distinct := keys_of_cycleMatched recorded cycle
  simp at distinct

end main
end RevPilot.Finops
