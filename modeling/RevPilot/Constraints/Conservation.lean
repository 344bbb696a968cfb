import RevPilot.Constraints.Domain
import RevPilot.Library.DecimalArithmetic
import RevPilot.Library.Dict
import RevPilot.Library.Outcome
import RevPilot.Library.Runs

/-! The in-memory budget ledger. An update copies the stored entry without
validating it again, so only a new entry is known to be well formed. -/
namespace RevPilot.Constraints
open Library Shared

inductive LedgerFailure : Type
  | domain (error : DomainError)
  | validationError
  | decimal (signal : Decimal.Signal)

abbrev LedgerEntry := BudgetLedgerEntry Decimal

namespace BudgetLedgerEntry

def arithmetic {α : Type} (result : Except Decimal.Signal α) : Except LedgerFailure α :=
  result.mapError .decimal

/-- The copy that `reserve_budget` stores. -/
def reserved (current : LedgerEntry) (amountUsd : Decimal) : Except LedgerFailure LedgerEntry := do
  if ← arithmetic (current.remainingBalanceUsd.lt amountUsd) then
    let requested := amountUsd.toText
    let available := current.remainingBalanceUsd.toText
    throw (.domain (constraintViolationError "ERR_BUDGET_EXCEEDED"
      s!"Requested reservation {requested} exceeds available budget {available}"
      [(.str "requested",.str requested),(.str "available",.str available)]))
  let committed ← arithmetic (current.committedExpenditureUsd.add amountUsd)
  let remaining ← arithmetic (current.remainingBalanceUsd.sub amountUsd)
  pure { current with
    committedExpenditureUsd := committed, remainingBalanceUsd := remaining, version := current.version + 1 }

/-- The copy that `release_budget` stores. -/
def released (current : LedgerEntry) (amountUsd : Decimal) : Except LedgerFailure LedgerEntry := do
  let amountToRelease ← arithmetic (amountUsd.least current.committedExpenditureUsd)
  let committed ← arithmetic (current.committedExpenditureUsd.sub amountToRelease)
  let remaining ← arithmetic (current.remainingBalanceUsd.add amountToRelease)
  pure { current with
    committedExpenditureUsd := committed, remainingBalanceUsd := remaining, version := current.version + 1 }

end BudgetLedgerEntry

/-- Entries by the tenant's text and the ledger date. -/
structure InMemoryBudgetLedgerRepository where
  store : Dict (String × String) LedgerEntry := .empty

namespace InMemoryBudgetLedgerRepository

def initLedger (repo : InMemoryBudgetLedgerRepository) (tenantId : TenantId) (ledgerDate : String)
    (totalAllocatedUsd : Decimal) : Except LedgerFailure LedgerEntry × InMemoryBudgetLedgerRepository :=
  if totalAllocatedUsd.nonNegative then
    let entry : LedgerEntry :=
      { tenantId := tenantId, ledgerDate := ledgerDate, totalAllocatedUsd := totalAllocatedUsd
        committedExpenditureUsd := .finite false 0 (-1), remainingBalanceUsd := totalAllocatedUsd, version := 1 }
    (.ok entry,⟨repo.store.set (tenantId.value,ledgerDate) entry⟩)
  else (.error .validationError,repo)

def getLedger (repo : InMemoryBudgetLedgerRepository) (tenantId : TenantId) (ledgerDate : String) :
    Option LedgerEntry := repo.store.get? (tenantId.value,ledgerDate)

/-- The lookup and the update that both operations share. -/
def update (repo : InMemoryBudgetLedgerRepository) (tenantId : TenantId) (ledgerDate : String)
    (change : LedgerEntry → Except LedgerFailure LedgerEntry) :
    Except LedgerFailure LedgerEntry × InMemoryBudgetLedgerRepository :=
  match repo.store.get? (tenantId.value,ledgerDate) with
  | none =>
    (.error (.domain (constraintViolationError "ERR_BUDGET_LEDGER_NOT_FOUND"
      s!"No budget ledger initialized for tenant {tenantId.value} on {ledgerDate}")),repo)
  | some current =>
    match change current with
    | .error error => (.error error,repo)
    | .ok updated => (.ok updated,⟨repo.store.set (tenantId.value,ledgerDate) updated⟩)

def reserveBudget (repo : InMemoryBudgetLedgerRepository) (tenantId : TenantId) (ledgerDate : String)
    (amountUsd : Decimal) : Except LedgerFailure LedgerEntry × InMemoryBudgetLedgerRepository :=
  repo.update tenantId ledgerDate (fun current => current.reserved amountUsd)

def releaseBudget (repo : InMemoryBudgetLedgerRepository) (tenantId : TenantId) (ledgerDate : String)
    (amountUsd : Decimal) : Except LedgerFailure LedgerEntry × InMemoryBudgetLedgerRepository :=
  repo.update tenantId ledgerDate (fun current => current.released amountUsd)

end InMemoryBudgetLedgerRepository

/-- The calls on an initialised ledger. -/
inductive BudgetOperation : Type
  | reserve (tenantId : TenantId) (ledgerDate : String) (amountUsd : Decimal)
  | release (tenantId : TenantId) (ledgerDate : String) (amountUsd : Decimal)

namespace BudgetOperation

def call (repo : InMemoryBudgetLedgerRepository) :
    BudgetOperation → Except LedgerFailure LedgerEntry × InMemoryBudgetLedgerRepository
  | .reserve tenantId ledgerDate amountUsd => repo.reserveBudget tenantId ledgerDate amountUsd
  | .release tenantId ledgerDate amountUsd => repo.releaseBudget tenantId ledgerDate amountUsd

def step (repo : InMemoryBudgetLedgerRepository) (op : BudgetOperation) : InMemoryBudgetLedgerRepository :=
  (op.call repo).2

def key : BudgetOperation → String × String
  | .reserve tenantId ledgerDate _ => (tenantId.value,ledgerDate)
  | .release tenantId ledgerDate _ => (tenantId.value,ledgerDate)

/-- What an operation makes of the entry it finds. -/
def change (current : LedgerEntry) : BudgetOperation → Except LedgerFailure LedgerEntry
  | .reserve _ _ amountUsd => current.reserved amountUsd
  | .release _ _ amountUsd => current.released amountUsd

end BudgetOperation
end RevPilot.Constraints

/-! Conservation of the allocated budget over runs of reservations and releases. -/
namespace RevPilot.Constraints
open Library Shared Runs Outcome

namespace BudgetLedgerEntry

/-- Both parts are numbers that are not negative, and add up to the allocation. -/
def Conserved (entry : LedgerEntry) : Prop :=
  match entry.committedExpenditureUsd.value, entry.remainingBalanceUsd.value, entry.totalAllocatedUsd.value with
  | some c, some r, some t => c + r = t ∧ 0 ≤ c ∧ 0 ≤ r
  | _, _, _ => False

/-- The entry after a call that succeeds. -/
def moved (entry : LedgerEntry) (committed remaining : Decimal) : LedgerEntry :=
  { entry with
    committedExpenditureUsd := committed, remainingBalanceUsd := remaining, version := entry.version + 1 }

theorem conserved_values {entry : LedgerEntry} (conserved : entry.Conserved) :
    ∃ c r, entry.committedExpenditureUsd.value = some c ∧ entry.remainingBalanceUsd.value = some r ∧
      entry.totalAllocatedUsd.value = some (c + r) ∧ 0 ≤ c ∧ 0 ≤ r := by
  unfold Conserved at conserved
  split at conserved
  next c r t committed remaining total =>
    obtain ⟨sum,low,high⟩ := conserved
    rw [← sum] at total
    exact ⟨c,r,committed,remaining,total,low,high⟩
  next => exact conserved.elim

theorem moved_conserved {entry : LedgerEntry} {committed remaining : Decimal} {c r x : ℚ}
    (total : entry.totalAllocatedUsd.value = some (c + r)) (more : committed.value = some (c + x))
    (less : remaining.value = some (r - x)) : (entry.moved committed remaining).Conserved ↔ -c ≤ x ∧ x ≤ r := by
  unfold Conserved
  change (match committed.value, remaining.value, entry.totalAllocatedUsd.value with
    | some c, some r, some t => c + r = t ∧ 0 ≤ c ∧ 0 ≤ r
    | _, _, _ => False) ↔ _
  rw [more,less,total]
  dsimp only
  constructor
  · rintro ⟨_,low,high⟩
    exact ⟨by linarith,by linarith⟩
  · rintro ⟨low,high⟩
    exact ⟨by ring,by linarith,by linarith⟩

theorem moved_not_number (entry : LedgerEntry) {committed : Decimal} (remaining : Decimal)
    (unknown : committed.value = none) : ¬ (entry.moved committed remaining).Conserved := by
  intro conserved
  obtain ⟨c,_,number,_⟩ := conserved_values conserved
  rw [moved,unknown] at number
  cases number

theorem reserved_ok {entry updated : LedgerEntry} {amountUsd : Decimal} :
    entry.reserved amountUsd = .ok updated ↔ entry.remainingBalanceUsd.lt amountUsd = .ok false ∧
      ∃ committed remaining, entry.committedExpenditureUsd.add amountUsd = .ok committed ∧
        entry.remainingBalanceUsd.sub amountUsd = .ok remaining ∧ entry.moved committed remaining = updated := by
  simp only [reserved,arithmetic,throw_bind,bind_eq_ok,mapError_eq_ok,guard_eq_ok,pure_eq_ok]
  constructor
  · rintro ⟨answer,short,enough,committed,more,remaining,less,rfl⟩
    have fits : answer = false := by simpa using enough
    exact ⟨fits ▸ short,committed,remaining,more,less,rfl⟩
  · rintro ⟨short,committed,remaining,more,less,rfl⟩
    exact ⟨false,short,by simp,committed,more,remaining,less,rfl⟩

theorem released_ok {entry updated : LedgerEntry} {amountUsd : Decimal} :
    entry.released amountUsd = .ok updated ↔
      ∃ amount committed remaining, amountUsd.least entry.committedExpenditureUsd = .ok amount ∧
        entry.committedExpenditureUsd.sub amount = .ok committed ∧
        entry.remainingBalanceUsd.add amount = .ok remaining ∧ entry.moved committed remaining = updated := by
  simp only [released,arithmetic,bind_eq_ok,mapError_eq_ok,pure_eq_ok]
  constructor
  · rintro ⟨amount,smaller,committed,less,remaining,more,same⟩
    exact ⟨amount,committed,remaining,smaller,less,more,same⟩
  · rintro ⟨amount,committed,remaining,smaller,less,more,same⟩
    exact ⟨amount,smaller,committed,less,remaining,more,same⟩

end BudgetLedgerEntry

namespace BudgetOperation
open BudgetLedgerEntry

/-- The sums of a call that succeeds are not rounded. -/
def Exact (entry : LedgerEntry) : BudgetOperation → Prop
  | .reserve _ _ amountUsd => (entry.reserved amountUsd).isOk = true →
      entry.committedExpenditureUsd.AddsExactly amountUsd ∧ entry.remainingBalanceUsd.AddsExactly amountUsd.neg
  | .release _ _ amountUsd => (entry.released amountUsd).isOk = true →
      ∀ amount ∈ (amountUsd.least entry.committedExpenditureUsd).toOption,
        entry.committedExpenditureUsd.AddsExactly amount.neg ∧ entry.remainingBalanceUsd.AddsExactly amount

/-- A reservation that succeeds takes back no more than is committed, and a
release gives back no more than remains. -/
def Bounded (entry : LedgerEntry) : BudgetOperation → Prop
  | .reserve _ _ amountUsd => (entry.reserved amountUsd).isOk = true →
      ∀ c ∈ entry.committedExpenditureUsd.value, amountUsd.AtLeast (-c)
  | .release _ _ amountUsd => (entry.released amountUsd).isOk = true →
      ∀ r ∈ entry.remainingBalanceUsd.value, amountUsd.AtLeast (-r)

instance decidableExact (entry : LedgerEntry) : (op : BudgetOperation) → Decidable (Exact entry op)
  | .reserve _ _ amountUsd => inferInstanceAs (Decidable ((entry.reserved amountUsd).isOk = true →
      entry.committedExpenditureUsd.AddsExactly amountUsd ∧ entry.remainingBalanceUsd.AddsExactly amountUsd.neg))
  | .release _ _ amountUsd => inferInstanceAs (Decidable ((entry.released amountUsd).isOk = true →
      ∀ amount ∈ (amountUsd.least entry.committedExpenditureUsd).toOption,
        entry.committedExpenditureUsd.AddsExactly amount.neg ∧ entry.remainingBalanceUsd.AddsExactly amount))

instance decidableBounded (entry : LedgerEntry) : (op : BudgetOperation) → Decidable (Bounded entry op)
  | .reserve _ _ amountUsd => inferInstanceAs (Decidable ((entry.reserved amountUsd).isOk = true →
      ∀ c ∈ entry.committedExpenditureUsd.value, amountUsd.AtLeast (-c)))
  | .release _ _ amountUsd => inferInstanceAs (Decidable ((entry.released amountUsd).isOk = true →
      ∀ r ∈ entry.remainingBalanceUsd.value, amountUsd.AtLeast (-r)))

theorem reserved_conserved {entry updated : LedgerEntry} {t : TenantId} {date : String} {amountUsd : Decimal}
    (conserved : entry.Conserved) (exact : Exact entry (.reserve t date amountUsd))
    (ok : entry.reserved amountUsd = .ok updated) :
    updated.Conserved ↔ Bounded entry (.reserve t date amountUsd) := by
  obtain ⟨c,r,committed,remaining,total,_,_⟩ := conserved_values conserved
  have success : (entry.reserved amountUsd).isOk = true := by simp [ok,Except.isOk,Except.toBool]
  obtain ⟨moreExact,lessExact⟩ := exact success
  obtain ⟨fits,committed',remaining',more,less,rfl⟩ := reserved_ok.mp ok
  simp only [Bounded,success,true_implies,committed,Option.mem_some_iff,forall_eq']
  cases number : amountUsd.value with
  | some x =>
    have sum := Decimal.add_exact moreExact committed number more
    have difference := Decimal.sub_exact lessExact remaining number less
    rw [moved_conserved total sum difference,Decimal.atLeast_iff number]
    rw [Decimal.lt_value remaining number] at fits
    have below : x ≤ r := by simpa using fits
    simp [below]
  | none =>
    have unknown := Decimal.add_not_number committed number more
    simp only [moved_not_number entry remaining' unknown,false_iff]
    obtain ⟨n,d,e,there,_⟩ := Decimal.finite_of_value remaining
    rw [there] at fits
    cases amountUsd with
    | finite => cases number
    | infinite negative => cases negative <;> simp [Decimal.lt,Decimal.gt,Decimal.AtLeast] at fits ⊢
    | nan => simp [Decimal.AtLeast]
    | snan => simp [Decimal.AtLeast]

theorem released_conserved {entry updated : LedgerEntry} {t : TenantId} {date : String} {amountUsd : Decimal}
    (conserved : entry.Conserved) (exact : Exact entry (.release t date amountUsd))
    (ok : entry.released amountUsd = .ok updated) :
    updated.Conserved ↔ Bounded entry (.release t date amountUsd) := by
  obtain ⟨c,r,committed,remaining,total,low,high⟩ := conserved_values conserved
  have success : (entry.released amountUsd).isOk = true := by simp [ok,Except.isOk,Except.toBool]
  obtain ⟨amount,committed',remaining',smaller,less,more,rfl⟩ := released_ok.mp ok
  obtain ⟨lessExact,moreExact⟩ := exact success amount (by simp [smaller,Except.toOption])
  simp only [Bounded,success,true_implies,remaining,Option.mem_some_iff,forall_eq']
  have by_amount {x : ℚ} (number : amount.value = some x) :
      (entry.moved committed' remaining').Conserved ↔ -r ≤ x ∧ x ≤ c := by
    have difference := Decimal.sub_exact lessExact committed number less
    have sum := Decimal.add_exact moreExact remaining number more
    rw [@moved_conserved _ _ _ _ _ (-x) total (by rw [difference,sub_eq_add_neg]) (by rw [sum,sub_neg_eq_add])]
    constructor
    · rintro ⟨above,below⟩
      exact ⟨by linarith,by linarith⟩
    · rintro ⟨above,below⟩
      exact ⟨by linarith,by linarith⟩
  obtain ⟨n,d,e,there,_⟩ := Decimal.finite_of_value committed
  cases number : amountUsd.value with
  | some x =>
    rw [by_amount (Decimal.least_value number committed smaller),Decimal.atLeast_iff number,le_min_iff]
    constructor
    · intro within
      exact within.1.1
    · intro above
      exact ⟨⟨above,by linarith⟩,min_le_right x c⟩
  | none =>
    cases amountUsd with
    | finite => cases number
    | infinite negative =>
      rw [there] at smaller
      cases negative with
      | false =>
        obtain rfl : Decimal.finite n d e = amount := Except.ok.inj smaller
        rw [by_amount (there ▸ committed)]
        simp only [Decimal.AtLeast,iff_true]
        exact ⟨by linarith,le_rfl⟩
      | true =>
        obtain rfl : Decimal.infinite true = amount := Except.ok.inj smaller
        have unknown := @Decimal.add_not_number _ (Decimal.infinite true).neg _ _ committed rfl less
        simp [moved_not_number entry remaining' unknown,Decimal.AtLeast]
    | nan => cases smaller
    | snan => cases smaller

theorem changed_conserved {entry updated : LedgerEntry} (conserved : entry.Conserved) (op : BudgetOperation)
    (exact : Exact entry op) (ok : op.change entry = .ok updated) : updated.Conserved ↔ Bounded entry op := by
  cases op with
  | reserve t date amountUsd => exact reserved_conserved conserved exact ok
  | release t date amountUsd => exact released_conserved conserved exact ok

/-- A call that raises is within its bounds. -/
theorem bounded_of_error {entry : LedgerEntry} {op : BudgetOperation} {failure : LedgerFailure}
    (raised : op.change entry = .error failure) : Bounded entry op := by
  cases op with
  | reserve t date amountUsd =>
    have failed : entry.reserved amountUsd = .error failure := raised
    simp [Bounded,failed,Except.isOk,Except.toBool]
  | release t date amountUsd =>
    have failed : entry.released amountUsd = .error failure := raised
    simp [Bounded,failed,Except.isOk,Except.toBool]

theorem changed_version {entry updated : LedgerEntry} {op : BudgetOperation} (ok : op.change entry = .ok updated) :
    updated.version = entry.version + 1 := by
  cases op with
  | reserve t date amountUsd =>
    obtain ⟨_,_,_,_,_,rfl⟩ := reserved_ok.mp ok
    rfl
  | release t date amountUsd =>
    obtain ⟨_,_,_,_,_,_,rfl⟩ := released_ok.mp ok
    rfl

variable (repo : InMemoryBudgetLedgerRepository)

variable {repo} in
theorem call_absent {op : BudgetOperation} (absent : repo.store.get? op.key = none) :
    ∃ failure, op.call repo = (.error failure,repo) := by
  cases op <;>
  · simp only [key] at absent
    simp [call,InMemoryBudgetLedgerRepository.reserveBudget,InMemoryBudgetLedgerRepository.releaseBudget,
      InMemoryBudgetLedgerRepository.update,absent]

variable {repo} in
theorem call_failed {op : BudgetOperation} {current : LedgerEntry} {failure : LedgerFailure}
    (found : repo.store.get? op.key = some current) (failed : op.change current = .error failure) :
    op.call repo = (.error failure,repo) := by
  cases op <;>
  · simp only [key,change] at found failed
    simp [call,InMemoryBudgetLedgerRepository.reserveBudget,InMemoryBudgetLedgerRepository.releaseBudget,
      InMemoryBudgetLedgerRepository.update,found,failed]

variable {repo} in
theorem call_done {op : BudgetOperation} {current updated : LedgerEntry}
    (found : repo.store.get? op.key = some current) (ok : op.change current = .ok updated) :
    op.call repo = (.ok updated,⟨repo.store.set op.key updated⟩) := by
  cases op <;>
  · simp only [key,change] at found ok
    simp [call,key,InMemoryBudgetLedgerRepository.reserveBudget,InMemoryBudgetLedgerRepository.releaseBudget,
      InMemoryBudgetLedgerRepository.update,found,ok]

/-- Every stored entry is conserved. -/
def AllConserved : Prop := ∀ key entry, repo.store.get? key = some entry → entry.Conserved

/-- A call that returns stores one entry, of the next version; one that raises
leaves the ledger as it is. -/
def Counted (op : BudgetOperation) : Prop :=
  match (op.call repo).1 with
  | .ok updated => ∃ current, repo.store.get? op.key = some current ∧ updated.version = current.version + 1 ∧
      step repo op = ⟨repo.store.set op.key updated⟩
  | .error _ => step repo op = repo

def ExactAt (op : BudgetOperation) : Prop := ∀ entry ∈ repo.store.get? op.key, Exact entry op

def BoundedAt (op : BudgetOperation) : Prop := ∀ entry ∈ repo.store.get? op.key, Bounded entry op

theorem counted (op : BudgetOperation) : Counted repo op := by
  unfold Counted step
  cases found : repo.store.get? op.key with
  | none =>
    obtain ⟨failure,refused⟩ := call_absent found
    rw [refused]
  | some current =>
    cases result : op.change current with
    | error failure => rw [call_failed found result]
    | ok updated =>
      rw [call_done found result]
      exact ⟨current,rfl,changed_version result,rfl⟩

theorem conserved_step {repo : InMemoryBudgetLedgerRepository} (safe : AllConserved repo) (op : BudgetOperation)
    (exact : ExactAt repo op) : AllConserved (step repo op) ↔ BoundedAt repo op := by
  unfold BoundedAt step
  cases found : repo.store.get? op.key with
  | none =>
    obtain ⟨failure,refused⟩ := call_absent found
    rw [refused]
    simp [safe]
  | some current =>
    simp only [Option.mem_some_iff,forall_eq']
    cases result : op.change current with
    | error failure =>
      rw [call_failed found result]
      simp only [safe,true_iff]
      exact bounded_of_error result
    | ok updated =>
      rw [call_done found result,← changed_conserved (safe op.key current found) op (exact current found) result]
      constructor
      · intro after
        exact after op.key updated (Dict.get?_set_self repo.store op.key updated)
      · intro conserved key entry stored
        simp only [Dict.get?_set] at stored
        split at stored
        next =>
          obtain rfl := Option.some.inj stored
          exact conserved
        next => exact safe key entry stored

end BudgetOperation

/-- The arguments of one `init_ledger` call. -/
structure Allocation where
  tenantId : TenantId
  ledgerDate : String
  totalAllocatedUsd : Decimal

namespace BudgetOperation
open BudgetLedgerEntry

/-- A new ledger with its entries. -/
def opened (allocations : List Allocation) : InMemoryBudgetLedgerRepository :=
  run (fun repo (a : Allocation) => (repo.initLedger a.tenantId a.ledgerDate a.totalAllocatedUsd).2) {} allocations

theorem conserved_opened (allocations : List Allocation) : AllConserved (opened allocations) := by
  have empty : AllConserved {} := nofun
  refine stable_run _ ?_ empty allocations
  · intro repo a safe
    simp only [InMemoryBudgetLedgerRepository.initLedger]
    split
    next accepted =>
      obtain ⟨total,number,positive⟩ := Decimal.nonNegative_value accepted
      intro key entry stored
      simp only [Dict.get?_set] at stored
      split at stored
      next =>
        obtain rfl := Option.some.inj stored
        have nothing : (Decimal.finite false 0 (-1)).value = some 0 := by simp [Decimal.value,Decimal.finiteValue]
        simp [Conserved,nothing,number,positive]
      next => exact safe key entry stored
    next => exact safe

/-- Over every run a call that returns moves its entry to the next version and
one that raises changes nothing. The ledger is conserved if every call that
succeeds is bounded and none of its sums is rounded; of the runs without
rounding these are the only ones. -/
theorem ledger_conserved (allocations : List Allocation) (ops : List BudgetOperation) :
    Along step Counted (opened allocations) ops ∧
    (Along step (fun repo op => ExactAt repo op ∧ BoundedAt repo op) (opened allocations) ops →
      Always step AllConserved (opened allocations) ops) ∧
    (Along step ExactAt (opened allocations) ops → Always step AllConserved (opened allocations) ops →
      Along step BoundedAt (opened allocations) ops) := by
  have start := conserved_opened allocations
  have iff (exact : Along step ExactAt (opened allocations) ops) :
      Along step BoundedAt (opened allocations) ops ↔ Always step AllConserved (opened allocations) ops :=
    @always_iff_along _ _ step (fun _ => True) _ _ _ (fun _ _ _ _ => trivial)
      (fun repo op _ exact safe => (conserved_step safe op exact).symm) _ _ trivial start exact
  refine ⟨?_,?_,?_⟩
  · rw [along_iff]
    intro pre op post _
    exact counted _ op
  · intro met
    exact (iff (along_mono step (fun _ _ both => both.1) met)).mp (along_mono step (fun _ _ both => both.2) met)
  · intro exact always
    exact (iff exact).mpr always

def acme : TenantId := ⟨"tnt_acme",Eq.refl true⟩

def dailyBudget : List Allocation := [⟨acme,"2026-10-01",.ofCents 10000⟩]

def reserveAndRelease : List BudgetOperation :=
  [.reserve acme "2026-10-01" (.ofCents 3000),.release acme "2026-10-01" (.ofCents 1000)]

instance (repo : InMemoryBudgetLedgerRepository) (op : BudgetOperation) :
    Decidable (ExactAt repo op ∧ BoundedAt repo op) := by
  unfold ExactAt BoundedAt
  infer_instance

theorem reserve_and_release_conserved :
    Always step AllConserved (opened dailyBudget) reserveAndRelease :=
  (ledger_conserved dailyBudget reserveAndRelease).2.1 (by decide +kernel)

/-- A reservation of -50.00 passes the balance check. -/
theorem negative_reservation :
    ¬ ∀ (allocations : List Allocation) (ops : List BudgetOperation),
      Along step Counted (opened allocations) ops ∧ Always step AllConserved (opened allocations) ops := by
  intro claim
  have safe := (claim dailyBudget [.reserve acme "2026-10-01" (.finite true 5000 (-2))]).2
    [.reserve acme "2026-10-01" (.finite true 5000 (-2))] [] rfl
  have stored : ((run step (opened dailyBudget) [.reserve acme "2026-10-01" (.finite true 5000 (-2))]).store.get?
      ("tnt_acme","2026-10-01")).map (fun entry => entry.committedExpenditureUsd.value) = some (some (-50)) := by
    decide +kernel
  obtain ⟨entry,found,committed⟩ := Option.map_eq_some_iff.mp stored
  obtain ⟨c,_,number,_,_,low,_⟩ := conserved_values (safe _ entry found)
  rw [committed] at number
  rw [← Option.some.inj number] at low
  norm_num at low

end BudgetOperation
end RevPilot.Constraints
