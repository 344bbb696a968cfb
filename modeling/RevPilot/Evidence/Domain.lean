import RevPilot.Library.Dict
import RevPilot.Library.PyValue
import RevPilot.Shared.Identifiers
import RevPilot.Shared.Temporal

/-! Evidence records, their bundles and the filter for what is valid at an instant. -/
namespace RevPilot.Evidence
open Library Shared

inductive SupersessionStatus : Type
  | active | superseded | revoked | expired
  deriving DecidableEq

/-- `status.value`. -/
def SupersessionStatus.value : SupersessionStatus → String
  | .active => "ACTIVE"
  | .superseded => "SUPERSEDED"
  | .revoked => "REVOKED"
  | .expired => "EXPIRED"

/-- A citation within a chunk; the offsets have passed `validate_offsets`. -/
structure CitationSpan where
  chunkId : String
  sectionId : Option String := none
  startChar : Nat
  endChar : Nat
  snippetText : String
  offsetsAccepted : startChar < endChar

structure EvidenceRecord where
  evidenceId : UUIDv7
  tenantId : TenantId
  sourceObjectRef : String
  contentDigest : String
  eventTime : UtcDateTime
  effectiveTime : UtcDateTime
  expirationTime : Option UtcDateTime := none
  supersessionStatus : SupersessionStatus
  supersededAt : Option UtcDateTime := none
  citationSpan : Option CitationSpan := none
  payload : Dict String PyValue := .empty
  supersessionAccepted : supersessionStatus = .superseded → supersededAt.isSome = true

structure EvidenceBundle where
  bundleId : UUIDv7
  investigationId : UUIDv7
  tenantId : TenantId
  evidenceCount : Nat
  evidenceItems : List EvidenceRecord
  bundleDigest : String
  sealedAt : UtcDateTime

/-- The instant is there and not after the other one. -/
def passed (instant : Option UtcDateTime) (asOfTime : UtcDateTime) : Bool :=
  instant.any fun at_ => decide (at_ ≤ asOfTime)

def isEvidenceTemporallyValid (record : EvidenceRecord) (asOfTime : UtcDateTime) : Bool :=
  if asOfTime < record.effectiveTime then false
  else if passed record.expirationTime asOfTime then false
  else
    match record.supersessionStatus with
    | .active => true
    | .superseded => record.supersededAt.any fun at_ => decide (asOfTime < at_)
    | _ => false

/-- The records of a bundle under their identifiers; of two with one identifier the
later one stays. -/
def EvidenceBundle.evidenceMap (bundle : EvidenceBundle) : Dict String EvidenceRecord :=
  bundle.evidenceItems.foldl (fun map record => map.set record.evidenceId.value record) .empty

theorem indexed_member (items : List EvidenceRecord) (map : Dict String EvidenceRecord) {key : String}
    {record : EvidenceRecord}
    (found : (items.foldl (fun map record => map.set record.evidenceId.value record) map).get? key = some record) :
    (record ∈ items ∧ record.evidenceId.value = key) ∨ map.get? key = some record := by
  induction items generalizing map with
  | nil => exact .inr found
  | cons item items ih =>
    rcases ih _ found with ⟨inside,own⟩ | earlier
    · exact .inl ⟨List.mem_cons_of_mem _ inside,own⟩
    · rw [Dict.get?_set] at earlier
      split at earlier
      next same =>
        cases earlier
        exact .inl ⟨List.mem_cons_self ..,same.symm⟩
      next => exact .inr earlier

theorem evidenceMap_member {bundle : EvidenceBundle} {key : String} {record : EvidenceRecord}
    (found : bundle.evidenceMap.get? key = some record) :
    record ∈ bundle.evidenceItems ∧ record.evidenceId.value = key := by
  rcases indexed_member bundle.evidenceItems .empty found with inside | nothing
  · exact inside
  · cases nothing

theorem indexed_absent (items : List EvidenceRecord) (map : Dict String EvidenceRecord) (key : String) :
    (items.foldl (fun map record => map.set record.evidenceId.value record) map).get? key = none ↔
      map.get? key = none ∧ ∀ record ∈ items, record.evidenceId.value ≠ key := by
  induction items generalizing map with
  | nil => simp
  | cons item items ih =>
    rw [List.foldl_cons,ih,Dict.get?_set,List.forall_mem_cons]
    by_cases same : key = item.evidenceId.value
    · simp [same]
    · rw [if_neg same]
      exact and_congr_right fun _ => (and_iff_right (Ne.symm same)).symm

theorem evidenceMap_absent {bundle : EvidenceBundle} (id : UUIDv7) :
    bundle.evidenceMap.get? id.value = none ↔ ∀ record ∈ bundle.evidenceItems, record.evidenceId ≠ id := by
  have other (record : EvidenceRecord) : record.evidenceId.value ≠ id.value ↔ record.evidenceId ≠ id := by
    refine not_congr ⟨fun same => ?_,congrArg _⟩
    cases left : record.evidenceId
    cases id
    rw [left] at same
    exact congrArg _ same
  rw [EvidenceBundle.evidenceMap,indexed_absent]
  simp [other]

end RevPilot.Evidence
