import RevPilot.DataQuality.Validator
import RevPilot.Library.Outcome

/-! The quarantine of rejected records and their replay, which validates a record without
the parent entities it was rejected under. -/
namespace RevPilot.DataQuality
open Library Shared Outcome

structure QuarantineRecord where
  quarantineId : String
  tenantId : TenantId
  ruleId : String
  rawPayload : Option Fields
  rejectionReason : String
  status : String := "QUARANTINED"
  quarantinedAt : UtcDateTime
  resolvedAt : Option UtcDateTime := none
  resolvedBy : Option String := none

namespace QuarantineRecord

def reprocessed (record : QuarantineRecord) (payload : Option Fields) (now : UtcDateTime) : QuarantineRecord :=
  { record with
    status := "REPROCESSED", rawPayload := payload, resolvedAt := some now, resolvedBy := some "operator_replay" }

def rejected (record : QuarantineRecord) (reason : Option String) : QuarantineRecord :=
  { record with
    status := "QUARANTINED", rejectionReason := (reason.filter (· ≠ "")).getD "Replay validation failed" }

end QuarantineRecord

structure QuarantineRepository where
  store : Dict (String × String) QuarantineRecord := .empty

namespace QuarantineRepository
variable (repo : QuarantineRepository)

def quarantine (record : QuarantineRecord) : QuarantineRepository :=
  { repo with store := repo.store.set (record.tenantId.value,record.quarantineId) record }

def get (tenantId : TenantId) (quarantineId : String) : Option QuarantineRecord :=
  repo.store.get? (tenantId.value,quarantineId)

def listQuarantined (tenantId : TenantId) : List QuarantineRecord :=
  (repo.store.entries.filter (fun entry => entry.1.1 = tenantId.value)).map Prod.snd

/-- The first record of the identifier, of the tenant if one is given. -/
def target (quarantineId : String) (tenantId : Option TenantId) : Option ((String × String) × QuarantineRecord) :=
  repo.store.entries.find? fun entry =>
    entry.1.2 = quarantineId && tenantId.all (fun tenant => entry.1.1 = tenant.value)

/-- The readings of the clock in one call: by the validator and on success. -/
structure ReplayClock where
  validated : UtcDateTime
  resolved : UtcDateTime

variable (lib : ValidatorLibrary)

def replayFailure (result : ValidationResult) : PyError :=
  let text (field : Option String) : PyValue := (field.map PyValue.str).getD .none
  validationError ((result.rejectionReason.filter (· ≠ "")).getD "Replay validation failed")
    [(.str "rule_id",text result.ruleId),(.str "error_code",text result.errorCode)]

/-- The repository, the validator's audit log and the result; the outer error is an exception, the inner
one a `Failure`. -/
def replay (quarantineId : String) (auditLog : List SecurityEvent) (correctedPayload : Option (Option Fields))
    (tenantId : Option TenantId) (clock : ReplayClock) :
    QuarantineRepository × List SecurityEvent × Except PyError (Except PyError (Option Fields)) :=
  match repo.target quarantineId tenantId with
  | none =>
    (repo,auditLog,.ok (.error (validationError ("Quarantine record with id '" ++ quarantineId ++ "' not found"))))
  | some (key,record) =>
    let payloadToTest := correctedPayload.getD record.rawPayload
    match validateRecord lib clock.validated auditLog payloadToTest record.tenantId none with
    | (log,.error e) => (repo,log,.error e)
    | (log,.ok result) =>
      if result.isValid then
        ({ repo with store := repo.store.set key (record.reprocessed payloadToTest clock.resolved) },log,
          .ok (.ok payloadToTest))
      else
        ({ repo with store := repo.store.set key (record.rejected result.rejectionReason) },log,
          .ok (.error (replayFailure result)))

end QuarantineRepository

section soundness
variable (lib : ValidatorLibrary) (record : Fields)

/-- The first reading does not precede the second. -/
def InOrder (first second : Except String PyDatetime) : Prop :=
  ∃ a b, first = .ok a ∧ second = .ok b ∧ precedes a b = .ok false

/-- A record without any defect, a reference to a missing parent apart. -/
structure Sound (tenantId : TenantId) : Prop where
  owned : ∃ owner, present record "tenant_id" = some owner ∧ tenantText lib owner = tenantId.value
  mandatory : ∀ name ∈ MANDATORY_FIELDS, ∃ v, record.get? name = some v ∧ v.isBlank = false
  amounts : ∀ name ∈ MONETARY_FIELDS, ∀ v, present record name = some v → v.isAtLeast 0 = true
  quantity : ∀ v, present record "quantity" = some v → v.isAtLeast 1 = true
  percentage : ∀ v, present record "impact_capacity_reduction_pct" = some v →
    ∃ d, lib.decimal (lib.str v) = some d ∧ outOfRange d = some false
  currency : ∀ v, present record "currency" = some v → currencyText lib v ∈ VALID_CURRENCIES
  recent : ∀ v, record.get? "event_time" = some v → InOrder (eventTime lib v) (.ok MIN_EPOCH)
  effective : ∀ start finish, record.get? "effective_from" = some start → present record "effective_to" = some finish →
    InOrder (effectiveTime lib finish) (effectiveTime lib start)

variable {lib record}

theorem bind_eq_none {v : Option FieldValue} {rule : FieldValue → Option Rejection} :
    v.bind rule = none ↔ ∀ x, v = some x → rule x = none := by
  cases v <;> simp

theorem requiredRule_none : requiredRule record = none ↔
    ∀ name ∈ MANDATORY_FIELDS, ∃ v, record.get? name = some v ∧ v.isBlank = false := by
  unfold requiredRule
  rw [List.findSome?_eq_none_iff]
  refine forall₂_congr fun name _ => ?_
  cases record.get? name <;> simp

theorem monetaryRule_none : monetaryRule lib record = none ↔
    ∀ name ∈ MONETARY_FIELDS, ∀ v, present record name = some v → v.isAtLeast 0 = true := by
  unfold monetaryRule
  rw [List.findSome?_eq_none_iff]
  refine forall₂_congr fun name _ => ?_
  rw [bind_eq_none]
  simp

theorem quantityRule_none : quantityRule lib record = none ↔
    ∀ v, present record "quantity" = some v → v.isAtLeast 1 = true := by
  rw [quantityRule,bind_eq_none]
  simp

theorem percentageRule_none : percentageRule lib record = none ↔
    ∀ v, present record "impact_capacity_reduction_pct" = some v →
      ∃ d, lib.decimal (lib.str v) = some d ∧ outOfRange d = some false := by
  rw [percentageRule,bind_eq_none]
  refine forall₂_congr fun v _ => ?_
  rw [← Option.bind_eq_some_iff]
  cases (lib.decimal (lib.str v)).bind outOfRange with
  | none => exact iff_of_false nofun nofun
  | some out => cases out <;> simp

theorem currencyRule_none : currencyRule lib record = none ↔
    ∀ v, present record "currency" = some v → currencyText lib v ∈ VALID_CURRENCIES := by
  rw [currencyRule,bind_eq_none]
  simp

theorem orderRule_none {first second : Except String PyDatetime} {wrong : PyDatetime → PyDatetime → String}
    {unread : String} : orderRule first second wrong unread = none ↔ InOrder first second := by
  unfold orderRule InOrder
  cases first with
  | error e => simp [bind,Except.bind]
  | ok a =>
    cases second with
    | error e => simp [bind,Except.bind]
    | ok b =>
      cases found : precedes a b with
      | error e => simp [bind,Except.bind,found]
      | ok before => cases before <;> simp [bind,Except.bind,pure,Except.pure,found]

theorem eventTimeRule_none : eventTimeRule lib record = none ↔
    InOrder (eventTime lib ((record.get? "event_time").getD (.json .none))) (.ok MIN_EPOCH) := orderRule_none

theorem effectiveRule_none : effectiveRule lib record = none ↔
    ∀ start finish, record.get? "effective_from" = some start → present record "effective_to" = some finish →
      InOrder (effectiveTime lib finish) (effectiveTime lib start) := by
  unfold effectiveRule
  cases record.get? "effective_from" with
  | none => simp
  | some start =>
    cases present record "effective_to" with
    | none => simp
    | some finish =>
      cases read : effectiveTime lib start with
      | error e => simp [InOrder,read]
      | ok time => simp [orderRule_none,read]

theorem fieldRules_none : fieldRules lib record = none ↔ requiredRule record = none ∧ monetaryRule lib record = none ∧
    quantityRule lib record = none ∧ percentageRule lib record = none ∧ currencyRule lib record = none ∧
    eventTimeRule lib record = none ∧ effectiveRule lib record = none := by
  unfold fieldRules
  simp only [Option.orElse_eq_orElse,Option.orElse_eq_or,Option.or_eq_none_iff]

/-- A record is sound iff it is the tenant's and no rule before the referential ones rejects it. -/
theorem sound_iff (tenantId : TenantId) : Sound lib record tenantId ↔
    (∃ owner, present record "tenant_id" = some owner ∧ tenantText lib owner = tenantId.value) ∧
      fieldRules lib record = none := by
  rw [fieldRules_none,requiredRule_none,monetaryRule_none,quantityRule_none,percentageRule_none,currencyRule_none,
    eventTimeRule_none,effectiveRule_none]
  constructor
  · rintro ⟨owned,mandatory,amounts,quantity,percentage,currency,recent,effective⟩
    obtain ⟨v,found,_⟩ := mandatory "event_time" (by decide)
    exact ⟨owned,mandatory,amounts,quantity,percentage,currency,found ▸ recent v found,effective⟩
  · rintro ⟨owned,mandatory,amounts,quantity,percentage,currency,recent,effective⟩
    refine ⟨owned,mandatory,amounts,quantity,percentage,currency,?_,effective⟩
    intro v found
    rw [found] at recent
    exact recent

/-- A sound record is left to the referential rules, any other one is rejected. -/
theorem validateRecord_cases (lib : ValidatorLibrary) (now : UtcDateTime) (auditLog : List SecurityEvent) (record : Option Fields)
    (tenantId : TenantId) (parents : Option ParentEntities) :
    (∃ fields, record = some fields ∧ Sound lib fields tenantId ∧ (validateRecord lib now auditLog record tenantId parents).2 =
      (referenceRules lib fields parents).map (·.elim .success .failure)) ∨
    (¬ (∃ fields, record = some fields ∧ Sound lib fields tenantId) ∧
      ∃ result, (validateRecord lib now auditLog record tenantId parents).2 = .ok result ∧ result.isValid = false) := by
  cases record with
  | none => exact .inr ⟨nofun,_,rfl,rfl⟩
  | some fields =>
    cases owner : present fields "tenant_id" with
    | none =>
      refine .inr ⟨?_,?_⟩
      · rintro ⟨_,same,sound⟩
        obtain rfl := Option.some.inj same
        obtain ⟨v,found,_⟩ := sound.owned
        rw [owner] at found
        cases found
      · simp only [validateRecord,owner]
        exact ⟨_,rfl,rfl⟩
    | some v =>
      by_cases own : tenantText lib v = tenantId.value
      · have owned : ∃ v, present fields "tenant_id" = some v ∧ tenantText lib v = tenantId.value := ⟨v,owner,own⟩
        cases rules : fieldRules lib fields with
        | none =>
          refine .inl ⟨fields,rfl,(sound_iff tenantId).mpr ⟨owned,rules⟩,?_⟩
          simp only [validateRecord,owner,own,ne_eq,not_true_eq_false,if_false,rules]
        | some rejection =>
          refine .inr ⟨?_,?_⟩
          · rintro ⟨_,same,sound⟩
            obtain rfl := Option.some.inj same
            have clean := ((sound_iff tenantId).mp sound).2
            rw [rules] at clean
            cases clean
          · simp only [validateRecord,owner,own,ne_eq,not_true_eq_false,if_false,rules]
            exact ⟨_,rfl,rfl⟩
      · refine .inr ⟨?_,?_⟩
        · rintro ⟨_,same,sound⟩
          obtain rfl := Option.some.inj same
          obtain ⟨v',found,own'⟩ := sound.owned
          obtain rfl := Option.some.inj (owner.symm.trans found)
          exact own own'
        · simp only [validateRecord,owner,ne_eq,own,not_false_eq_true,if_true]
          exact ⟨_,rfl,rfl⟩

end soundness

section references
variable {lib : ValidatorLibrary} {record : Fields}

/-- A reference that is looked up although it has no hash: a customer's, or an order's behind a customer's
that is absent or known. -/
def UnhashableReference (record : Fields) (parents : Option ParentEntities) : Prop :=
  ∃ known, parents = some known ∧
    ((∃ v, present record "customer_id" = some v ∧ v.isHashable = false) ∨
      (∀ v, present record "customer_id" = some v → v.isAmong ((known.get? "customers").getD []) = true) ∧
        ∃ v, present record "order_id" = some v ∧ v.isHashable = false)

/-- The three ends of a referential rule. -/
theorem referenceRule_cases (lib : ValidatorLibrary) (record : Fields) (parents : ParentEntities) (name collection : String) :
    (referenceRule lib record parents name collection = .error .typeError ∧
      ∃ v, present record name = some v ∧ v.isHashable = false) ∨
    ((∀ v, present record name = some v → v.isHashable = true) ∧
      (referenceRule lib record parents name collection = .ok none ∧
        (∀ v, present record name = some v → v.isAmong ((parents.get? collection).getD []) = true) ∨
      ∃ rejection, referenceRule lib record parents name collection = .ok (some rejection) ∧
        ¬ ∀ v, present record name = some v → v.isAmong ((parents.get? collection).getD []) = true)) := by
  unfold referenceRule
  cases present record name with
  | none => exact .inr ⟨nofun,.inl ⟨rfl,nofun⟩⟩
  | some v =>
    cases hash : v.isHashable with
    | false => exact .inl ⟨by simp [hash],v,rfl,hash⟩
    | true =>
      refine .inr ⟨fun w same => Option.some.inj same ▸ hash,?_⟩
      cases known : v.isAmong ((parents.get? collection).getD []) with
      | true => exact .inl ⟨by simp [hash,known],fun w same => Option.some.inj same ▸ known⟩
      | false =>
        refine .inr ⟨_,by simp [hash,known]; rfl,?_⟩
        intro all
        rw [all v rfl] at known
        cases known

theorem referenceRules_ok (lib : ValidatorLibrary) (record : Fields) (parents : Option ParentEntities) :
    (∃ answer, referenceRules lib record parents = .ok answer) ↔ ¬ UnhashableReference record parents := by
  cases parents with
  | none => exact iff_of_true ⟨none,rfl⟩ (by rintro ⟨_,same,_⟩; cases same)
  | some known =>
    have unhashable : UnhashableReference record (some known) ↔
        (∃ v, present record "customer_id" = some v ∧ v.isHashable = false) ∨
        (∀ v, present record "customer_id" = some v → v.isAmong ((known.get? "customers").getD []) = true) ∧
          ∃ v, present record "order_id" = some v ∧ v.isHashable = false := by
      simp [UnhashableReference]
    rw [unhashable,referenceRules]
    rcases referenceRule_cases lib record known "customer_id" "customers" with
      ⟨raised,v,found,hash⟩ | ⟨hashable,⟨passed,among⟩ | ⟨rejection,failed,apart⟩⟩
    · rw [raised]
      exact iff_of_false (by rintro ⟨_,same⟩; cases same) (not_not.mpr (.inl ⟨v,found,hash⟩))
    · have customer : ¬ ∃ v, present record "customer_id" = some v ∧ v.isHashable = false := by
        rintro ⟨v,found,hash⟩
        rw [hashable v found] at hash
        cases hash
      rw [passed]
      rcases referenceRule_cases lib record known "order_id" "orders" with
        ⟨raised,v,found,hash⟩ | ⟨hashable',answered⟩
      · refine iff_of_false ?_ (not_not.mpr (.inr ⟨among,v,found,hash⟩))
        rintro ⟨_,same⟩
        cases raised.symm.trans same
      · have order : ¬ ∃ v, present record "order_id" = some v ∧ v.isHashable = false := by
          rintro ⟨v,found,hash⟩
          rw [hashable' v found] at hash
          cases hash
        refine iff_of_true ?_ (by rintro (bad | ⟨_,bad⟩); exacts [customer bad,order bad])
        rcases answered with ⟨passed',_⟩ | ⟨rejection,failed,_⟩
        · exact ⟨none,passed'⟩
        · exact ⟨some rejection,failed⟩
    · rw [failed]
      refine iff_of_true ⟨some rejection,rfl⟩ ?_
      rintro (⟨v,found,hash⟩ | ⟨among,_⟩)
      · rw [hashable v found] at hash
        cases hash
      · exact apart among

end references

section replay
variable {lib : ValidatorLibrary}

theorem validateRecord_returns (lib : ValidatorLibrary) (now : UtcDateTime) (auditLog : List SecurityEvent) (record : Option Fields)
    (tenantId : TenantId) (parents : Option ParentEntities) :
    (∃ result, (validateRecord lib now auditLog record tenantId parents).2 = .ok result) ↔
      ¬ ∃ fields, record = some fields ∧ Sound lib fields tenantId ∧ UnhashableReference fields parents := by
  rcases validateRecord_cases lib now auditLog record tenantId parents with
    ⟨fields,rfl,sound,answered⟩ | ⟨unsound,result,answered,_⟩
  · have returns := referenceRules_ok lib fields parents
    have whole : (∃ f, some fields = some f ∧ Sound lib f tenantId ∧ UnhashableReference f parents) ↔
        UnhashableReference fields parents := by
      constructor
      · rintro ⟨_,same,_,bad⟩
        exact Option.some.inj same ▸ bad
      · exact fun bad => ⟨fields,rfl,sound,bad⟩
    rw [whole,← returns,answered]
    cases referenceRules lib fields parents with
    | error e => exact iff_of_false (by rintro ⟨_,same⟩; cases same) (by rintro ⟨_,same⟩; cases same)
    | ok answer => exact iff_of_true ⟨_,rfl⟩ ⟨_,rfl⟩
  · refine iff_of_true ⟨result,answered⟩ ?_
    rintro ⟨fields,same,sound,_⟩
    exact unsound ⟨fields,same,sound⟩

/-- Without a corrected payload a record is released iff its payload is sound. -/
theorem replay_unchanged (lib : ValidatorLibrary) (repo : QuarantineRepository) (quarantineId : String) (auditLog : List SecurityEvent)
    (tenantId : Option TenantId) (clock : QuarantineRepository.ReplayClock) {key : String × String}
    {record : QuarantineRecord} (found : repo.target quarantineId tenantId = some (key,record)) :
    ∃ after, (repo.replay lib quarantineId auditLog none tenantId clock).1.store.get? key = some after ∧
      (after.status = "REPROCESSED" ↔ ∃ fields, record.rawPayload = some fields ∧ Sound lib fields record.tenantId) := by
  have validated := validateRecord_cases lib clock.validated auditLog record.rawPayload record.tenantId none
  unfold QuarantineRepository.replay
  rw [found]
  dsimp only [Option.getD]
  generalize validateRecord lib clock.validated auditLog record.rawPayload record.tenantId none = answer at validated ⊢
  obtain ⟨log,answer⟩ := answer
  dsimp only at validated
  rcases validated with ⟨fields,payload,sound,rfl⟩ | ⟨unsound,result,rfl,invalid⟩
  · exact ⟨_,Dict.get?_set_self ..,iff_of_true rfl ⟨fields,payload,sound⟩⟩
  · dsimp only
    rw [invalid]
    have kept : (record.rejected result.rejectionReason).status = "QUARANTINED" := rfl
    refine ⟨_,Dict.get?_set_self ..,iff_of_false ?_ unsound⟩
    rw [kept]
    decide

/-- A record is validated without an exception iff no sound one has a reference without a hash to look up, and a
rejected record stays in quarantine on an unchanged replay iff its payload has a defect other than an orphan. -/
theorem validation_replay_iff (lib : ValidatorLibrary) :
    (∀ now auditLog record tenantId parents,
      (∃ result, (validateRecord lib now auditLog record tenantId parents).2 = .ok result) ↔
        ¬ ∃ fields, record = some fields ∧ Sound lib fields tenantId ∧ UnhashableReference fields parents) ∧
    ∀ (repo : QuarantineRepository) quarantineId tenantId key record,
      repo.target quarantineId tenantId = some (key,record) →
      (∃ now auditLog parents result, (validateRecord lib now auditLog record.rawPayload record.tenantId parents).2 =
        .ok result ∧ result.isValid = false) →
      ∀ auditLog clock,
        ((∃ after, (repo.replay lib quarantineId auditLog none tenantId clock).1.store.get? key = some after ∧
            after.status ≠ "REPROCESSED") ↔
          ¬ ∃ fields, record.rawPayload = some fields ∧ Sound lib fields record.tenantId) := by
  refine ⟨validateRecord_returns lib,?_⟩
  intro repo quarantineId tenantId key record found _ auditLog clock
  obtain ⟨after,stored,released⟩ := replay_unchanged lib repo quarantineId auditLog tenantId clock found
  rw [← released,stored]
  simp

end replay

section samples

/-- Texts read as they are, and the first instant of 2026. -/
def textLibrary : ValidatorLibrary where
  str := fun | .json (.str s) => s | _ => ""
  repr := fun | .json (.int i) => i.repr | _ => ""
  decimal := fun _ => none
  fromisoformat := fun text =>
    if text = "2026-01-01T00:00:00+00:00" then .ok ⟨1767225600000000,some 0⟩ else .error "Invalid isoformat string"
  isoformat := fun _ => "2026-01-01T00:00:00+00:00"

/-- An order of the tenant with one more field. -/
def order (name : String) (v : PyValue) : Fields :=
  ((((Dict.empty.set "tenant_id" (.json (.str "tnt_acme"))).set "id" (.json (.str "ord_1"))).set "event_time"
    (.json (.str "2026-01-01T00:00:00+00:00"))).set name (.json v))

def acme : TenantId := ⟨"tnt_acme",Eq.refl true⟩

def heldOrder (v : Fields) : QuarantineRecord :=
  { quarantineId := "q_1", tenantId := acme, ruleId := "DQ-TYP-001", rawPayload := some v, rejectionReason := "",
    quarantinedAt := ⟨0⟩ }

def repositoryOf (record : QuarantineRecord) : QuarantineRepository := ({} : QuarantineRepository).quarantine record

/-- An order of a negative amount stays in quarantine. -/
theorem negative_order_held :
    ∃ after, ((repositoryOf (heldOrder (order "total_cents" (.int (-1))))).replay textLibrary "q_1" [] none none
      ⟨⟨0⟩,⟨0⟩⟩).1.store.get? ("tnt_acme","q_1") = some after ∧ after.status ≠ "REPROCESSED" := by
  refine ((validation_replay_iff textLibrary).2 _ "q_1" none _ (heldOrder (order "total_cents" (.int (-1)))) rfl
    ⟨⟨0⟩,[],none,_,rfl,rfl⟩ [] ⟨⟨0⟩,⟨0⟩⟩).mpr ?_
  rintro ⟨fields,same,sound⟩
  obtain rfl := Option.some.inj same
  exact absurd (sound.amounts "total_cents" (by decide) (.json (.int (-1))) rfl) (by decide)

/-- A list as customer raises; an orphan is released by replaying it. -/
theorem list_raises_orphan_released :
    (∀ now auditLog, (validateRecord textLibrary now auditLog (some (order "customer_id" (.list []))) acme
      (some .empty)).2 = .error .typeError) ∧
    (∀ now auditLog, ∃ result, (validateRecord textLibrary now auditLog (some (order "customer_id" (.str "cus_9"))) acme
      (some .empty)).2 = .ok result ∧ result.isValid = false) ∧
    ∃ after, ((repositoryOf (heldOrder (order "customer_id" (.str "cus_9")))).replay textLibrary "q_1" [] none none
      ⟨⟨0⟩,⟨0⟩⟩).1.store.get? ("tnt_acme","q_1") = some after ∧ after.status = "REPROCESSED" :=
  ⟨fun _ _ => rfl,fun _ _ => ⟨_,rfl,rfl⟩,_,rfl,rfl⟩

end samples
end RevPilot.DataQuality
