import RevPilot.Library.PyValue
import RevPilot.Library.Text
import RevPilot.Shared.Errors
import RevPilot.Shared.Temporal

/-! The scanner that looks for credentials and personal data in audit records. What a
pattern finds in a text is a parameter; which texts are looked at is not. -/
namespace RevPilot.Compliance
open Library Shared

/-- The three containers whose items are scanned one by one. -/
inductive SequenceKind : Type
  | list | tuple | set

/-- A value of an audit record. `atom` is any value that is neither a text nor one of
the containers, with its truth value; a set is given in the order in which it is read. -/
inductive AuditValue : Type
  | text (s : String)
  | dict (members : List (PyKey × AuditValue))
  | sequence (kind : SequenceKind) (items : List AuditValue)
  | atom (truth : Bool)

/-- A named pattern by what `findall` returns, groups written as text. -/
structure DlpPattern where
  name : String
  findAll : String → List String

structure DlpViolation where
  recordIndex : Nat
  fieldPath : String
  violationType : String
  snippet : String
  deriving DecidableEq

structure DlpScanReport where
  totalScanned : Nat
  violationsCount : Nat
  clean : Bool
  violations : List DlpViolation

namespace AuditValue

/-- `bool(v)`. -/
def truthy : AuditValue → Bool
  | .text s => s != ""
  | .dict members => !members.isEmpty
  | .sequence _ items => !items.isEmpty
  | .atom truth => truth

mutual
/-- The texts that are values, at any depth. -/
def leaves : AuditValue → List String
  | .text s => [s]
  | .dict members => leavesOfMembers members
  | .sequence _ items => leavesOfItems items
  | .atom _ => []
def leavesOfMembers : List (PyKey × AuditValue) → List String
  | [] => []
  | (_,value) :: members => leaves value ++ leavesOfMembers members
def leavesOfItems : List AuditValue → List String
  | [] => []
  | item :: items => leaves item ++ leavesOfItems items
end

mutual
/-- The members of all objects, at any depth. -/
def entries : AuditValue → List (PyKey × AuditValue)
  | .text _ => []
  | .dict members => entriesOfMembers members
  | .sequence _ items => entriesOfItems items
  | .atom _ => []
def entriesOfMembers : List (PyKey × AuditValue) → List (PyKey × AuditValue)
  | [] => []
  | (key,value) :: members => (key,value) :: entries value ++ entriesOfMembers members
def entriesOfItems : List AuditValue → List (PyKey × AuditValue)
  | [] => []
  | item :: items => entries item ++ entriesOfItems items
end

end AuditValue

/-- `"[REDACTED]" in data or "***" in data`. -/
def isMarked (data : String) : Bool := Text.contains data "[REDACTED]" || Text.contains data "***"

/-- The snippet that a violation shows of what was found. -/
def maskSnippet (found : String) : String :=
  let cs := found.toList
  if 4 < cs.length then String.ofList (cs.take 2) ++ "****" ++ String.ofList (cs.drop (cs.length - 2)) else "****"

def forbiddenKeys : List String := ["raw_password","raw_secret","private_key","bearer_token"]

/-- `v and v != "[REDACTED]"`. -/
def isUnredacted (value : AuditValue) : Bool :=
  value.truthy &&
    match value with
    | .text s => s != "[REDACTED]"
    | _ => true

section scan
variable (casing : Text.Casing) (patterns : List DlpPattern)

def isForbidden (key : String) : Bool := forbiddenKeys.any (fun sec => Text.contains (casing.lower key) sec)

/-- `current_path or "root"`. -/
def shownPath (currentPath : String) : String := if currentPath = "" then "root" else currentPath

def scanText (recordIdx : Nat) (data currentPath : String) : List DlpViolation :=
  if isMarked data then []
  else patterns.flatMap (fun pattern => (pattern.findAll data).map (fun found => {
    recordIndex := recordIdx, fieldPath := shownPath currentPath, violationType := pattern.name
    snippet := maskSnippet found }))

/-- `k.lower()` of anything but a text raises. -/
def keyName : PyKey → Except PyError String
  | .str k => .ok k
  | _ => .error .attributeError

/-- The check of the key name itself. -/
def scanKey (recordIdx : Nat) (k : String) (value : AuditValue) (childPath : String) : List DlpViolation :=
  if isForbidden casing k && isUnredacted value then
    [{ recordIndex := recordIdx, fieldPath := childPath, violationType := "UNMASKED_SECRET_FIELD", snippet := "****" }]
  else []

def childPath (currentPath k : String) : String := if currentPath = "" then k else currentPath ++ "." ++ k

mutual
def scanRecord (recordIdx : Nat) : AuditValue → String → Except PyError (List DlpViolation)
  | .text data, currentPath => .ok (scanText patterns recordIdx data currentPath)
  | .dict members, currentPath => scanMembers recordIdx members currentPath
  | .sequence _ items, currentPath => scanItems recordIdx items 0 currentPath
  | .atom _, _ => .ok []
def scanMembers (recordIdx : Nat) : List (PyKey × AuditValue) → String → Except PyError (List DlpViolation)
  | [], _ => .ok []
  | (key,value) :: members, currentPath => do
    let k ← keyName key
    let inside ← scanRecord recordIdx value (childPath currentPath k)
    let rest ← scanMembers recordIdx members currentPath
    return scanKey casing recordIdx k value (childPath currentPath k) ++ inside ++ rest
def scanItems (recordIdx : Nat) : List AuditValue → Nat → String → Except PyError (List DlpViolation)
  | [], _, _ => .ok []
  | item :: items, i, currentPath => do
    let inside ← scanRecord recordIdx item s!"{currentPath}[{i}]"
    let rest ← scanItems recordIdx items (i + 1) currentPath
    return inside ++ rest
end

abbrev AuditRecord := List (PyKey × AuditValue)

def scanRecords : List AuditRecord → Nat → Except PyError (List DlpViolation)
  | [], _ => .ok []
  | rec :: records, idx => do
    let found ← scanRecord casing patterns idx (.dict rec) ""
    let rest ← scanRecords records (idx + 1)
    return found ++ rest

def DlpViolation.modelDump (v : DlpViolation) : PyValue :=
  .dict [(.str "record_index",.int v.recordIndex),(.str "field_path",.str v.fieldPath),
    (.str "violation_type",.str v.violationType),(.str "snippet",.str v.snippet)]

def piiLeakInAuditError (total : Nat) (violations : List DlpViolation) : PyError :=
  .domain {
    code := "PII_LEAK_IN_AUDIT"
    message := s!"Audit privacy violation: {violations.length} PII/credential leaks detected in {total} audit records"
    details := [(.str "total_scanned",.int total),(.str "violations_count",.int violations.length),
      (.str "violations",.list ((violations.take 10).map DlpViolation.modelDump))] }

/-- `f"{i:08x}"`. -/
def hex8 (i : Nat) : String :=
  let digits := Nat.toDigits 16 i
  String.ofList (List.replicate (8 - digits.length) '0' ++ digits)

/-- The generated record of an index. -/
def sampleRecord (i : Nat) : AuditRecord :=
  [(.str "event_id",.text s!"evt_sample_{UtcDateTime.padded 6 i}"),(.str "occurred_at",.text "2026-09-04T12:00:00Z"),
    (.str "event_type",.text (if i % 2 = 0 then "identity.auth.success" else "identity.authorization.denied")),
    (.str "tenant_id",.text s!"tnt_dlp_{UtcDateTime.padded 3 (i % 50 : Nat)}"),
    (.str "actor_id",.text s!"usr_actor_{UtcDateTime.padded 4 (i % 100 : Nat)}"),(.str "actor_type",.text "user"),
    (.str "resource",.text s!"/api/v1/workloads/wk_{i}"),(.str "action",.text "execute"),
    (.str "outcome",.text (if i % 2 = 0 then "SUCCESS" else "DENIED")),
    (.str "correlation_id",.text s!"cor_{UtcDateTime.padded 8 i}"),
    (.str "details",.dict [(.str "client_ip",.text "10.0.0.1"),(.str "auth_method",.text "OIDC_PKCE"),
      (.str "user_email_masked",.text s!"u***{i}@corp.example"),(.str "token_hash",.text s!"sha256_mock_{hex8 i}")]),
    (.str "previous_event_hash",.text s!"prev_hash_{UtcDateTime.padded 8 i}"),
    (.str "event_hash",.text s!"event_hash_{UtcDateTime.padded 8 i}")]

def scanAuditRecords (sampleSize : Nat) (records : Option (List AuditRecord)) (raiseOnViolation : Bool) :
    Except PyError DlpScanReport := do
  let records := records.getD ((List.range sampleSize).map sampleRecord)
  let violations ← scanRecords casing patterns records 0
  let report : DlpScanReport := {
    totalScanned := records.length, violationsCount := violations.length, clean := violations.length == 0
    violations := violations }
  if !report.clean && raiseOnViolation then throw (piiLeakInAuditError records.length violations)
  return report

end scan

section laws
variable (casing : Text.Casing) (patterns : List DlpPattern)

/-- One of the patterns finds something in the text. -/
def Matches (s : String) : Prop := ∃ pattern ∈ patterns, pattern.findAll s ≠ []

/-- A member whose key is forbidden and whose value is there and not redacted. -/
def Held (member : PyKey × AuditValue) : Prop :=
  ∃ k, member.1 = .str k ∧ isForbidden casing k = true ∧ isUnredacted member.2 = true

def TextKeyed (members : List (PyKey × AuditValue)) : Prop := ∀ m ∈ members, ∃ k, m.1 = .str k

/-- What the scanner looks at and finds nothing in. -/
structure Unexposed (members : List (PyKey × AuditValue)) (texts : List String) : Prop where
  texts : ∀ s ∈ texts, isMarked s = false → ¬ Matches patterns s
  members : ∀ m ∈ members, ¬ Held casing m

/-- The outcome of a scan over members and texts. -/
structure Scanned (members : List (PyKey × AuditValue)) (texts : List String)
    (result : Except PyError (List DlpViolation)) : Prop where
  answered : TextKeyed members → ∃ found, result = .ok found ∧ (found = [] ↔ Unexposed casing patterns members texts)
  refused : ¬ TextKeyed members → ∃ e, result = .error e

variable {casing patterns}

theorem textKeyed_append {ms ns : List (PyKey × AuditValue)} :
    TextKeyed (ms ++ ns) ↔ TextKeyed ms ∧ TextKeyed ns := List.forall_mem_append

theorem unexposed_append {ms ns : List (PyKey × AuditValue)} {ss ts : List String} :
    Unexposed casing patterns (ms ++ ns) (ss ++ ts) ↔
      Unexposed casing patterns ms ss ∧ Unexposed casing patterns ns ts := by
  constructor
  · rintro ⟨texts,members⟩
    obtain ⟨first,second⟩ := List.forall_mem_append.mp texts
    obtain ⟨left,right⟩ := List.forall_mem_append.mp members
    exact ⟨⟨first,left⟩,second,right⟩
  · rintro ⟨⟨first,left⟩,second,right⟩
    exact ⟨List.forall_mem_append.mpr ⟨first,second⟩,List.forall_mem_append.mpr ⟨left,right⟩⟩

theorem scanned_nil : Scanned casing patterns [] [] (.ok []) where
  answered _ := ⟨[],rfl,iff_of_true rfl ⟨by simp,by simp⟩⟩
  refused mixed := absurd (fun _ inside => absurd inside List.not_mem_nil) mixed

/-- Two scans one after the other. -/
theorem scanned_append {ms ns : List (PyKey × AuditValue)} {ss ts : List String}
    {first second : Except PyError (List DlpViolation)} (left : Scanned casing patterns ms ss first)
    (right : Scanned casing patterns ns ts second) :
    Scanned casing patterns (ms ++ ns) (ss ++ ts) (do
      let inside ← first
      let rest ← second
      return inside ++ rest) where
  answered keyed := by
    obtain ⟨keys,keys'⟩ := textKeyed_append.mp keyed
    obtain ⟨inside,rfl,none⟩ := left.answered keys
    obtain ⟨rest,rfl,none'⟩ := right.answered keys'
    refine ⟨inside ++ rest,rfl,?_⟩
    rw [List.append_eq_nil_iff,none,none',unexposed_append]
  refused mixed := by
    rw [textKeyed_append,not_and_or] at mixed
    by_cases keys : TextKeyed ms
    · obtain ⟨inside,rfl,_⟩ := left.answered keys
      obtain ⟨e,rfl⟩ := right.refused (mixed.resolve_left (not_not.mpr keys))
      exact ⟨e,rfl⟩
    · obtain ⟨e,rfl⟩ := left.refused keys
      exact ⟨e,rfl⟩

theorem scanText_nil_iff (recordIdx : Nat) (data currentPath : String) :
    scanText patterns recordIdx data currentPath = [] ↔ (isMarked data = false → ¬ Matches patterns data) := by
  unfold scanText Matches
  cases isMarked data with
  | true => simp
  | false => simp

theorem scanKey_nil_iff (recordIdx : Nat) (k : String) (value : AuditValue) (path : String) :
    scanKey casing recordIdx k value path = [] ↔ ¬ Held casing (.str k,value) := by
  unfold scanKey Held
  by_cases held : (isForbidden casing k && isUnredacted value) = true
  · simp_all
  · simp_all

theorem scanned_text (recordIdx : Nat) (data path : String) :
    Scanned casing patterns [] [data] (.ok (scanText patterns recordIdx data path)) where
  answered _ := by
    refine ⟨_,rfl,(scanText_nil_iff recordIdx data path).trans ?_⟩
    constructor
    · intro quiet
      exact ⟨by simpa using quiet,by simp⟩
    · intro unexposed
      exact unexposed.texts data List.mem_cons_self
  refused mixed := absurd (fun _ inside => absurd inside List.not_mem_nil) mixed

theorem scanned_key (recordIdx : Nat) (k : String) (value : AuditValue) (path : String) :
    Scanned casing patterns [(.str k,value)] [] (.ok (scanKey casing recordIdx k value path)) where
  answered _ := by
    refine ⟨_,rfl,(scanKey_nil_iff recordIdx k value path).trans ?_⟩
    constructor
    · intro redacted
      exact ⟨by simp,by simpa using redacted⟩
    · intro unexposed
      exact unexposed.members _ List.mem_cons_self
  refused mixed := absurd (fun m inside => ⟨k,by rw [List.mem_singleton.mp inside]⟩) mixed

/-- The scan of a member: its key, its value and the members after it. -/
theorem scanned_member {key : PyKey} {value : AuditValue} {ms : List (PyKey × AuditValue)} {ts : List String}
    {recordIdx : Nat} {path : String} {rest : Except PyError (List DlpViolation)}
    (inside : ∀ path, Scanned casing patterns value.entries value.leaves (scanRecord casing patterns recordIdx value path))
    (after : Scanned casing patterns ms ts rest) :
    Scanned casing patterns ((key,value) :: value.entries ++ ms) (value.leaves ++ ts) (do
      let k ← keyName key
      let inside ← scanRecord casing patterns recordIdx value (childPath path k)
      let rest ← rest
      return scanKey casing recordIdx k value (childPath path k) ++ inside ++ rest) := by
  cases key with
  | str k =>
    have whole := scanned_append (scanned_append (scanned_key recordIdx k value (childPath path k))
      (inside (childPath path k))) after
    change Scanned casing patterns ([(.str k,value)] ++ value.entries ++ ms) ([] ++ value.leaves ++ ts) (do
      let inside ← scanRecord casing patterns recordIdx value (childPath path k)
      let rest ← rest
      return scanKey casing recordIdx k value (childPath path k) ++ inside ++ rest)
    cases found : scanRecord casing patterns recordIdx value (childPath path k) with
    | error e =>
      rw [found] at whole
      exact whole
    | ok violations =>
      rw [found] at whole
      exact whole
  | int | bool | float | none =>
    refine ⟨fun keyed => ?_,fun _ => ⟨_,rfl⟩⟩
    obtain ⟨k,text⟩ := keyed _ List.mem_cons_self
    cases text

mutual
theorem scanRecord_scanned (recordIdx : Nat) : (v : AuditValue) → (path : String) →
    Scanned casing patterns v.entries v.leaves (scanRecord casing patterns recordIdx v path)
  | .text data, path => by
    rw [scanRecord,AuditValue.entries,AuditValue.leaves]
    exact scanned_text recordIdx data path
  | .atom _, _ => by
    rw [scanRecord,AuditValue.entries,AuditValue.leaves]
    exact scanned_nil
  | .dict members, path => by
    rw [scanRecord,AuditValue.entries,AuditValue.leaves]
    exact scanMembers_scanned recordIdx members path
  | .sequence _ items, path => by
    rw [scanRecord,AuditValue.entries,AuditValue.leaves]
    exact scanItems_scanned recordIdx items 0 path
theorem scanMembers_scanned (recordIdx : Nat) : (members : List (PyKey × AuditValue)) → (path : String) →
    Scanned casing patterns (AuditValue.entriesOfMembers members) (AuditValue.leavesOfMembers members)
      (scanMembers casing patterns recordIdx members path)
  | [], _ => by
    rw [scanMembers,AuditValue.entriesOfMembers,AuditValue.leavesOfMembers]
    exact scanned_nil
  | (key,value) :: members, path => by
    rw [scanMembers,AuditValue.entriesOfMembers,AuditValue.leavesOfMembers]
    exact scanned_member (scanRecord_scanned recordIdx value) (scanMembers_scanned recordIdx members path)
theorem scanItems_scanned (recordIdx : Nat) : (items : List AuditValue) → (i : Nat) → (path : String) →
    Scanned casing patterns (AuditValue.entriesOfItems items) (AuditValue.leavesOfItems items)
      (scanItems casing patterns recordIdx items i path)
  | [], _, _ => by
    rw [scanItems,AuditValue.entriesOfItems,AuditValue.leavesOfItems]
    exact scanned_nil
  | item :: items, i, path => by
    rw [scanItems,AuditValue.entriesOfItems,AuditValue.leavesOfItems]
    exact scanned_append (scanRecord_scanned recordIdx item _) (scanItems_scanned recordIdx items (i + 1) path)
end

end laws

section report
variable (casing : Text.Casing) (patterns : List DlpPattern)

/-- All members and all texts of the records. -/
def entriesOf (records : List AuditRecord) : List (PyKey × AuditValue) := records.flatMap AuditValue.entriesOfMembers

def leavesOf (records : List AuditRecord) : List String := records.flatMap AuditValue.leavesOfMembers

variable {casing patterns}

theorem scanRecords_scanned (records : List AuditRecord) (idx : Nat) :
    Scanned casing patterns (entriesOf records) (leavesOf records) (scanRecords casing patterns records idx) := by
  induction records generalizing idx with
  | nil => exact scanned_nil
  | cons record records ih => exact scanned_append (scanRecord_scanned idx (.dict record) "") (ih (idx + 1))

variable (casing patterns)

/-- The scan ends with a report that says clean. -/
def ReportsClean (sampleSize : Nat) (records : List AuditRecord) (raiseOnViolation : Bool) : Prop :=
  ∃ report, scanAuditRecords casing patterns sampleSize (some records) raiseOnViolation = .ok report ∧ report.clean = true

/-- No text matches a pattern and no forbidden key holds an unredacted value. -/
structure FreeOfLeaks (records : List AuditRecord) : Prop where
  texts : ∀ s ∈ leavesOf records, ¬ Matches patterns s
  members : ∀ m ∈ entriesOf records, ¬ Held casing m

/-- A text with a masking marker that matches a pattern all the same. -/
def Hidden (records : List AuditRecord) : Prop := ∃ s ∈ leavesOf records, isMarked s = true ∧ Matches patterns s

theorem reportsClean_iff (sampleSize : Nat) (records : List AuditRecord) (raiseOnViolation : Bool) :
    ReportsClean casing patterns sampleSize records raiseOnViolation ↔
      TextKeyed (entriesOf records) ∧ Unexposed casing patterns (entriesOf records) (leavesOf records) := by
  have scanned : Scanned casing patterns (entriesOf records) (leavesOf records)
      (scanRecords casing patterns records 0) := scanRecords_scanned records 0
  obtain ⟨answered,refused⟩ := scanned
  unfold ReportsClean scanAuditRecords
  rw [Option.getD_some]
  dsimp only
  by_cases keyed : TextKeyed (entriesOf records)
  · obtain ⟨found,ok,none⟩ := answered keyed
    rw [ok,← none]
    cases found with
    | nil => simp [keyed,bind,Except.bind,pure,Except.pure]
    | cons v vs => cases raiseOnViolation <;> simp [bind,Except.bind,pure,Except.pure,throw,throwThe,MonadExceptOf.throw]
  · obtain ⟨e,raised⟩ := refused keyed
    rw [raised]
    simp [keyed,bind,Except.bind]

theorem freeOfLeaks_iff (records : List AuditRecord) :
    FreeOfLeaks casing patterns records ↔
      Unexposed casing patterns (entriesOf records) (leavesOf records) ∧ ¬ Hidden patterns records := by
  constructor
  · rintro ⟨texts,members⟩
    refine ⟨⟨fun s inside _ => texts s inside,members⟩,?_⟩
    rintro ⟨s,inside,_,found⟩
    exact texts s inside found
  · rintro ⟨⟨texts,members⟩,visible⟩
    refine ⟨fun s inside found => ?_,members⟩
    cases marked : isMarked s with
    | true => exact visible ⟨s,inside,marked,found⟩
    | false => exact texts s inside marked found

theorem scan_complete_iff (sampleSize : Nat) (records : List AuditRecord) (raiseOnViolation : Bool) :
    (ReportsClean casing patterns sampleSize records raiseOnViolation ↔ FreeOfLeaks casing patterns records) ↔
      (Unexposed casing patterns (entriesOf records) (leavesOf records) →
        (TextKeyed (entriesOf records) ↔ ¬ Hidden patterns records)) := by
  rw [reportsClean_iff,freeOfLeaks_iff]
  tauto

end report

section samples

/-- A pattern that finds one text, once. -/
def literalPattern (name needle : String) : DlpPattern where
  name := name
  findAll s := if Text.contains s needle then [needle] else []

theorem marker_hides_match :
    ¬ (ReportsClean Text.asciiCasing [literalPattern "SSN" "123-45-6789"] 10000
        [[(.str "note",.text "pin *** for 123-45-6789")]] true ↔
      FreeOfLeaks Text.asciiCasing [literalPattern "SSN" "123-45-6789"]
        [[(.str "note",.text "pin *** for 123-45-6789")]]) := by
  intro complete
  have clean : ReportsClean Text.asciiCasing [literalPattern "SSN" "123-45-6789"] 10000
      [[(.str "note",.text "pin *** for 123-45-6789")]] true := ⟨_,rfl,rfl⟩
  refine (complete.mp clean).texts "pin *** for 123-45-6789" List.mem_cons_self ⟨_,List.mem_cons_self,?_⟩
  have found : Text.contains "pin *** for 123-45-6789" "123-45-6789" = true := rfl
  simp [literalPattern,found]

end samples
end RevPilot.Compliance
