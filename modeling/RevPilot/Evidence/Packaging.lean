import RevPilot.Evidence.Domain
import RevPilot.Library.JsonValues
import RevPilot.Library.Separators
import RevPilot.Shared.Errors
import Mathlib.Data.Multiset.MapFold

/-! The packaging of evidence bundles and what their digests say. SHA-256 (the
hexadecimal digest of a text) is a parameter. -/
namespace RevPilot.Evidence
open Library Shared JsonText

def packagingError (code message : String) (details : List (PyKey × PyValue)) : PyError :=
  .domain { code := code, message := message, details := details }

abbrev Payload := Dict String PyValue

/-- The payload as `json` takes it. -/
def payloadValue (payload : Payload) : PyValue := .dict (payload.entries.map fun e => (.str e.1,e.2))

/-- The record is effective, not expired and not superseded at an instant. -/
structure ValidAt (record : EvidenceRecord) (asOfTime : UtcDateTime) : Prop where
  effective : record.effectiveTime ≤ asOfTime
  unexpired : ∀ instant, record.expirationTime = some instant → asOfTime < instant
  status : record.supersessionStatus = .active ∨
    (record.supersessionStatus = .superseded ∧ ∃ instant, record.supersededAt = some instant ∧ asOfTime < instant)

section packaging
variable (sha256 : String → String)

/-- Objects that `json` does not know are written as the text that the default gives. -/
def computeContentDigest (payload : Payload) : Except PyError String :=
  match (payloadValue payload).dumps ⟨true,true⟩ PyValue.defaultStr with
  | some cleanJson => .ok (sha256 cleanJson)
  | none => .error .typeError

def computeBundleDigest (evidenceItems : List EvidenceRecord) : String :=
  let sortedDigests := sortedBy String.toList (evidenceItems.map (·.contentDigest))
  sha256 (String.intercalate ";" sortedDigests)

def checkTenant (tenantId : TenantId) (record : EvidenceRecord) : Except PyError Unit :=
  if record.tenantId = tenantId then .ok ()
  else
    .error (packagingError "ERR_CROSS_TENANT_EVIDENCE"
      ("Cross-tenant evidence mixing detected: expected tenant '" ++ tenantId.value ++ "', record has '" ++
        record.tenantId.value ++ "'")
      [(.str "expected_tenant",.str tenantId.value),(.str "record_tenant",.str record.tenantId.value)])

def checkDigest (record : EvidenceRecord) : Except PyError Unit :=
  match computeContentDigest sha256 record.payload with
  | .error fault => .error fault
  | .ok computedHash =>
    if computedHash = record.contentDigest then .ok ()
    else
      .error (packagingError "ERR_DIGEST_MISMATCH"
        ("Evidence content digest mismatch for record " ++ record.evidenceId.value ++ ": computed " ++
          computedHash ++ " != stored " ++ record.contentDigest)
        [(.str "record_id",.str record.evidenceId.value)])

def checkValidity (asOfTime : Option UtcDateTime) (record : EvidenceRecord) : Except PyError Unit :=
  match asOfTime with
  | none => .ok ()
  | some instant =>
    if isEvidenceTemporallyValid record instant then .ok ()
    else
      .error (packagingError "ERR_EVIDENCE_SUPERSEDED"
        ("Evidence record " ++ record.evidenceId.value ++ " is superseded or temporally invalid at " ++
          instant.isoformat)
        [(.str "record_id",.str record.evidenceId.value),
          (.str "supersession_status",.str record.supersessionStatus.value),
          (.str "as_of_time",.str instant.isoformat)])

/-- One turn of the loop over the records. -/
def checkRecord (tenantId : TenantId) (asOfTime : Option UtcDateTime) (verifyDigests : Bool)
    (record : EvidenceRecord) : Except PyError Unit := do
  checkTenant tenantId record
  if verifyDigests then checkDigest sha256 record
  checkValidity asOfTime record

/-- The arguments of a call, with the generated identifier and the clock's answer. -/
structure PackageCall where
  investigationId : UUIDv7
  tenantId : TenantId
  records : List EvidenceRecord
  asOfTime : Option UtcDateTime := none
  verifyDigests : Bool := true
  bundleId : UUIDv7
  sealedAt : UtcDateTime

def packageEvidenceBundle (call : PackageCall) : Except PyError EvidenceBundle := do
  forM call.records (checkRecord sha256 call.tenantId call.asOfTime call.verifyDigests)
  return {
    bundleId := call.bundleId
    investigationId := call.investigationId
    tenantId := call.tenantId
    evidenceCount := call.records.length
    evidenceItems := call.records
    bundleDigest := computeBundleDigest sha256 call.records
    sealedAt := call.sealedAt }

/-- What a record of a bundle must be like. -/
structure Packable (tenantId : TenantId) (asOfTime : Option UtcDateTime) (record : EvidenceRecord) : Prop where
  tenant : record.tenantId = tenantId
  digest : computeContentDigest sha256 record.payload = .ok record.contentDigest
  valid : ∀ instant, asOfTime = some instant → ValidAt record instant

end packaging

theorem utc_not_le (a b : UtcDateTime) : ¬a ≤ b ↔ b < a := not_le (a := a.micros) (b := b.micros)

theorem passed_eq_false (instant : Option UtcDateTime) (asOfTime : UtcDateTime) :
    passed instant asOfTime = false ↔ ∀ t, instant = some t → asOfTime < t := by
  cases instant with
  | none => simp [passed]
  | some t =>
    simp only [passed,Option.any_some,decide_eq_false_iff_not,Option.some.injEq,forall_eq']
    exact utc_not_le t asOfTime

/-- The filter says what it is for. -/
theorem isEvidenceTemporallyValid_iff (record : EvidenceRecord) (asOfTime : UtcDateTime) :
    isEvidenceTemporallyValid record asOfTime = true ↔ ValidAt record asOfTime := by
  have late : asOfTime < record.effectiveTime ↔ ¬record.effectiveTime ≤ asOfTime := (utc_not_le _ _).symm
  constructor
  · intro valid
    unfold isEvidenceTemporallyValid at valid
    split at valid
    · exact absurd valid (by simp)
    next effective =>
      split at valid
      · exact absurd valid (by simp)
      next unexpired =>
        refine ⟨not_not.mp (mt late.mpr effective),(passed_eq_false _ _).mp (by simpa using unexpired),?_⟩
        cases status : record.supersessionStatus with
        | active => exact .inl rfl
        | superseded =>
          simp only [status] at valid
          obtain ⟨instant,found,after⟩ := (Option.any_eq_true _ _).mp valid
          exact .inr ⟨rfl,instant,found,of_decide_eq_true after⟩
        | revoked => simp [status] at valid
        | expired => simp [status] at valid
  · intro valid
    unfold isEvidenceTemporallyValid
    rw [if_neg (fun before => late.mp before valid.effective),(passed_eq_false _ _).mpr valid.unexpired]
    obtain active | ⟨superseded,instant,found,after⟩ := valid.status
    · simp [active]
    · simp [superseded,found,after]

section gate
variable {sha256 : String → String} {tenantId : TenantId} {asOfTime : Option UtcDateTime} {record : EvidenceRecord}

theorem checkTenant_ok : checkTenant tenantId record = .ok () ↔ record.tenantId = tenantId := by
  unfold checkTenant
  split <;> simp_all

theorem checkDigest_ok : checkDigest sha256 record = .ok () ↔
    computeContentDigest sha256 record.payload = .ok record.contentDigest := by
  unfold checkDigest
  cases computeContentDigest sha256 record.payload with
  | error fault => simp
  | ok computedHash =>
    by_cases same : computedHash = record.contentDigest
    · simp [same]
    · simp [same]

theorem checkValidity_ok : checkValidity asOfTime record = .ok () ↔
    ∀ instant, asOfTime = some instant → ValidAt record instant := by
  simp only [← isEvidenceTemporallyValid_iff]
  cases asOfTime with
  | none => simp [checkValidity]
  | some instant =>
    simp only [checkValidity,Option.some.injEq,forall_eq']
    split <;> simp_all

theorem checkRecord_ok :
    checkRecord sha256 tenantId asOfTime true record = .ok () ↔ Packable sha256 tenantId asOfTime record := by
  have sequence : checkRecord sha256 tenantId asOfTime true record = .ok () ↔
      checkTenant tenantId record = .ok () ∧ checkDigest sha256 record = .ok () ∧
        checkValidity asOfTime record = .ok () := by
    unfold checkRecord
    rw [if_pos rfl]
    cases checkTenant tenantId record <;> cases checkDigest sha256 record <;> simp [bind,Except.bind]
  rw [sequence,checkTenant_ok,checkDigest_ok,checkValidity_ok]
  constructor
  · rintro ⟨tenant,digest,valid⟩
    exact ⟨tenant,digest,valid⟩
  · intro packable
    exact ⟨packable.tenant,packable.digest,packable.valid⟩

theorem forM_ok {α ε : Type} (check : α → Except ε Unit) (xs : List α) :
    forM xs check = .ok () ↔ ∀ x ∈ xs, check x = .ok () := by
  induction xs with
  | nil => simp [pure,Except.pure]
  | cons x xs ih =>
    rw [List.forM_cons,List.forall_mem_cons,← ih]
    cases check x <;> simp [bind,Except.bind]

theorem package_ok {call : PackageCall} {bundle : EvidenceBundle}
    (verified : call.verifyDigests = true) : packageEvidenceBundle sha256 call = .ok bundle ↔
      (∀ record ∈ call.records, Packable sha256 call.tenantId call.asOfTime record) ∧ bundle =
        { bundleId := call.bundleId, investigationId := call.investigationId, tenantId := call.tenantId,
          evidenceCount := call.records.length, evidenceItems := call.records,
          bundleDigest := computeBundleDigest sha256 call.records, sealedAt := call.sealedAt } := by
  simp only [← checkRecord_ok,← forM_ok]
  unfold packageEvidenceBundle
  rw [verified]
  cases forM call.records (checkRecord sha256 call.tenantId call.asOfTime true) with
  | error fault => simp [bind,Except.bind]
  | ok done => simp [bind,Except.bind,pure,Except.pure,eq_comm]

end gate

section digests
variable {sha256 : String → String}

/-- The digest of a bundle forgets the order of its records. -/
theorem computeBundleDigest_perm {xs ys : List EvidenceRecord} (perm : xs.Perm ys) :
    computeBundleDigest sha256 xs = computeBundleDigest sha256 ys := by
  have sorted := sortedBy_congr String.toList (perm.map (·.contentDigest))
    fun _ _ _ _ same => String.toList_injective same
  rw [computeBundleDigest,computeBundleDigest,sorted]

/-- What is known of the hexadecimal digests: no collisions, and texts that can be joined. -/
structure HexDigest (sha256 : String → String) : Prop where
  injective : Function.Injective sha256
  solid : ∀ text, sha256 text ≠ "" ∧ ';' ∉ (sha256 text).toList

theorem computeContentDigest_eq (payload : Payload) {digest : String}
    (computed : computeContentDigest sha256 payload = .ok digest) :
    ∃ text, (payloadValue payload).dumps ⟨true,true⟩ PyValue.defaultStr = some text ∧ sha256 text = digest := by
  unfold computeContentDigest at computed
  split at computed
  next text found => exact ⟨text,found,Except.ok.inj computed⟩
  next => cases computed

/-- Two bundles of hashed records have one digest iff their content digests agree up to order. -/
theorem computeBundleDigest_iff (hex : HexDigest sha256) {xs ys : List EvidenceRecord}
    (hashed : ∀ record ∈ xs, ∃ text, sha256 text = record.contentDigest)
    (hashed' : ∀ record ∈ ys, ∃ text, sha256 text = record.contentDigest) :
    computeBundleDigest sha256 xs = computeBundleDigest sha256 ys ↔
      (xs.map (·.contentDigest)).Perm (ys.map (·.contentDigest)) := by
  have solid : ∀ {zs : List EvidenceRecord}, (∀ record ∈ zs, ∃ text, sha256 text = record.contentDigest) →
      ∀ s ∈ sortedBy String.toList (zs.map (·.contentDigest)), s ≠ "" ∧ ';' ∉ s.toList := by
    intro zs each s inside
    obtain ⟨record,member,rfl⟩ := List.mem_map.mp ((mem_sortedBy _ _ _).mp inside)
    obtain ⟨text,hash⟩ := each record member
    exact hash ▸ hex.solid text
  constructor
  · intro same
    have joined := Separators.joined_unique (solid hashed) (solid hashed') (hex.injective same)
    have first := sortedBy_perm String.toList (xs.map (·.contentDigest))
    rw [joined] at first
    exact first.symm.trans (sortedBy_perm _ _)
  · intro perm
    have sorted := sortedBy_congr String.toList perm fun _ _ _ _ same => String.toList_injective same
    rw [computeBundleDigest,computeBundleDigest,sorted]

/-- The payloads of the records, each as often as it occurs. -/
def payloads (records : List EvidenceRecord) : Multiset PyValue :=
  (records.map fun record => payloadValue record.payload : List PyValue)

theorem contentDigest_eq_iff (hex : HexDigest sha256) {a b : EvidenceRecord}
    (first : computeContentDigest sha256 a.payload = .ok a.contentDigest)
    (second : computeContentDigest sha256 b.payload = .ok b.contentDigest)
    (native : (payloadValue a.payload).Native) (native' : (payloadValue b.payload).Native) :
    a.contentDigest = b.contentDigest ↔ (payloadValue a.payload).Same (payloadValue b.payload) := by
  obtain ⟨text,dumped,hash⟩ := computeContentDigest_eq _ first
  obtain ⟨text',dumped',hash'⟩ := computeContentDigest_eq _ second
  rw [← hash,← hash',hex.injective.eq_iff,← PyValue.toTree_eq_iff _ native _ native',
    ← PyValue.dumps_eq_iff ⟨true,true⟩,dumped,dumped',Option.some.injEq]

theorem contentDigests_perm_iff (hex : HexDigest sha256) {xs ys : List EvidenceRecord}
    (first : ∀ record ∈ xs, computeContentDigest sha256 record.payload = .ok record.contentDigest)
    (second : ∀ record ∈ ys, computeContentDigest sha256 record.payload = .ok record.contentDigest)
    (native : ∀ record ∈ xs, (payloadValue record.payload).Native)
    (native' : ∀ record ∈ ys, (payloadValue record.payload).Native) :
    (xs.map (·.contentDigest)).Perm (ys.map (·.contentDigest)) ↔
      (payloads xs).Rel PyValue.Same (payloads ys) := by
  rw [← Multiset.coe_eq_coe,← Multiset.map_coe,← Multiset.map_coe,← Multiset.rel_eq,Multiset.rel_map]
  rw [payloads,payloads,← Multiset.map_coe,← Multiset.map_coe,Multiset.rel_map]
  constructor
  · intro digests
    apply digests.mono
    intro a inside b member same
    exact (contentDigest_eq_iff hex (first a inside) (second b member) (native a inside) (native' b member)).mp same
  · intro values
    apply values.mono
    intro a inside b member same
    exact (contentDigest_eq_iff hex (first a inside) (second b member) (native a inside) (native' b member)).mpr same

end digests

section samples

/-- SHA-256 on the texts of the samples. -/
def sampleTable : List (String × String) :=
  [("\x7b\"amount\": 25\x7d","34a1aee28ee84244791defacdc130bec71c920141bb83890053a01ce9c02ca9c"),
    ("\x7b\"note\": \"a;b\"\x7d","77594a10f1612df8a414cf29a49a8856359291b9fe65b4abc485117d01cbaed3"),
    ("34a1aee28ee84244791defacdc130bec71c920141bb83890053a01ce9c02ca9c;77594a10f1612df8a414cf29a49a8856359291b9fe65b4abc485117d01cbaed3",
      "e69fbfca95dd80f1faf8e6909a467e07f9fae8374455c97ff011992dceb42041")]

/-- Two letters for each code point, none of them a semicolon. -/
def block (c : Char) : List Char := if c = ';' then ['y','y'] else ['x',c]

def sampleHash (text : String) : String :=
  match sampleTable.lookup text with
  | some digest => digest
  | none => String.ofList ('z' :: text.toList.flatMap block)

theorem blocks_injective : Function.Injective fun cs : List Char => cs.flatMap block := by
  have two : ∀ c, (block c).length = 2 := by
    intro c
    unfold block
    split <;> rfl
  have single : ∀ c d, block c = block d → c = d := by
    intro c d same
    unfold block at same
    split at same <;> split at same <;> simp_all
  intro xs
  induction xs with
  | nil =>
    intro ys same
    cases ys with
    | nil => rfl
    | cons d ys =>
      have size := congrArg List.length same
      simp only [List.flatMap_nil,List.flatMap_cons,List.length_nil,List.length_append,two] at size
      omega
  | cons c xs ih =>
    intro ys same
    cases ys with
    | nil =>
      have size := congrArg List.length same
      simp only [List.flatMap_nil,List.flatMap_cons,List.length_nil,List.length_append,two] at size
      omega
    | cons d ys =>
      simp only [List.flatMap_cons] at same
      obtain ⟨head,tail⟩ := List.append_inj same (by rw [two,two])
      rw [single c d head,ih tail]

theorem block_clear (text : String) : ';' ∉ (text.toList.flatMap block) := by
  intro inside
  obtain ⟨c,-,inside⟩ := List.mem_flatMap.mp inside
  unfold block at inside
  split at inside
  next => simp at inside
  next other =>
    simp only [List.mem_cons,List.not_mem_nil,or_false] at inside
    obtain impossible | same := inside
    · exact absurd impossible (by decide)
    · exact other same.symm

theorem sampleHash_cases (text : String) : (text,sampleHash text) ∈ sampleTable ∨
    sampleHash text = String.ofList ('z' :: text.toList.flatMap block) := by
  unfold sampleHash
  split
  next digest found =>
    obtain ⟨before,after,split,-⟩ := List.lookup_eq_some_iff.mp found
    rw [split]
    exact .inl (List.mem_append_right _ List.mem_cons_self)
  next => exact .inr rfl

theorem sampleTable_solid : ∀ entry ∈ sampleTable,
    entry.2 ≠ "" ∧ ';' ∉ entry.2.toList ∧ entry.2.toList.head? ≠ some 'z' := by decide +kernel

theorem sampleHash_hex : HexDigest sampleHash where
  injective a b same := by
    have apart : ∀ {text other : String}, (text,String.ofList ('z' :: other.toList.flatMap block)) ∉ sampleTable := by
      intro text other member
      exact (sampleTable_solid _ member).2.2 (by simp)
    have distinct : (sampleTable.map Prod.snd).Nodup := by decide +kernel
    obtain foundA | foundA := sampleHash_cases a
    · obtain foundB | foundB := sampleHash_cases b
      · rw [same] at foundA
        exact congrArg Prod.fst (List.inj_on_of_nodup_map distinct foundA foundB rfl)
      · rw [same,foundB] at foundA
        exact absurd foundA apart
    · obtain foundB | foundB := sampleHash_cases b
      · rw [← same,foundA] at foundB
        exact absurd foundB apart
      · rw [foundA,foundB] at same
        exact String.toList_injective (blocks_injective (List.cons.inj (String.ofList_injective same)).2)
  solid text := by
    obtain found | found := sampleHash_cases text
    · obtain ⟨some,clear,-⟩ := sampleTable_solid _ found
      exact ⟨some,clear⟩
    · rw [found]
      constructor
      · intro none
        simpa using congrArg String.toList none
      · have clear := block_clear text
        simp [clear]

def sampleTenant : TenantId := ⟨"tnt_acme",Eq.refl true⟩

def sampleRecord (id : String) (payload : Payload) (digest : String) : EvidenceRecord where
  evidenceId := ⟨id⟩
  tenantId := sampleTenant
  sourceObjectRef := "doc"
  contentDigest := digest
  eventTime := ⟨0⟩
  effectiveTime := ⟨0⟩
  supersessionStatus := .active
  payload := payload
  supersessionAccepted := by simp

def refundRecord : EvidenceRecord :=
  sampleRecord "ev-1" (Dict.empty.set "amount" (.int 25))
    "34a1aee28ee84244791defacdc130bec71c920141bb83890053a01ce9c02ca9c"

def noteRecord : EvidenceRecord :=
  sampleRecord "ev-2" (Dict.empty.set "note" (.str "a;b"))
    "77594a10f1612df8a414cf29a49a8856359291b9fe65b4abc485117d01cbaed3"

def sampleCall (records : List EvidenceRecord) : PackageCall where
  investigationId := ⟨"inv"⟩
  tenantId := sampleTenant
  records := records
  asOfTime := some ⟨5⟩
  bundleId := ⟨"bundle"⟩
  sealedAt := ⟨6⟩

theorem sample_packable : ∀ record ∈ [refundRecord,noteRecord],
    Packable sampleHash sampleTenant (some ⟨5⟩) record := by
  have digest : ∀ {record : EvidenceRecord} (text : String),
      (payloadValue record.payload).dumps ⟨true,true⟩ PyValue.defaultStr = some text →
        sampleHash text = record.contentDigest →
          computeContentDigest sampleHash record.payload = .ok record.contentDigest := by
    intro record text dumped hash
    rw [computeContentDigest,dumped,← hash]
  have valid : ∀ id payload digest instant, some (⟨5⟩ : UtcDateTime) = some instant →
      ValidAt (sampleRecord id payload digest) instant := by
    intro id payload digest instant same
    obtain rfl := Option.some.inj same
    have effective : (⟨0⟩ : UtcDateTime) ≤ ⟨5⟩ := by decide
    exact ⟨effective,by simp [sampleRecord],.inl rfl⟩
  intro record member
  obtain rfl | rfl : record = refundRecord ∨ record = noteRecord := by simpa using member
  · exact ⟨rfl,digest "\x7b\"amount\": 25\x7d" (by decide +kernel) (by decide +kernel),valid _ _ _⟩
  · exact ⟨rfl,digest "\x7b\"note\": \"a;b\"\x7d" (by decide +kernel) (by decide +kernel),valid _ _ _⟩

end samples

end RevPilot.Evidence
