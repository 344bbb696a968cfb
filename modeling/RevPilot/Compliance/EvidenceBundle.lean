import RevPilot.Approval.Digest
import RevPilot.Library.Bytes
import RevPilot.Library.Dict
import RevPilot.Library.JsonLoads
import RevPilot.Library.Outcome
import RevPilot.Shared.Temporal

/-! The collector of compliance evidence and the check of its bundles. An archive is a
finite map from the names of its members to their bytes; the hashes are parameters. -/
namespace RevPilot.Compliance
open Library Shared JsonText Outcome

def canonicalComplianceControls : List String :=
  ["CTL-AUTH-01","CTL-AUTH-02","CTL-ISO-01","CTL-CRYP-01","CTL-CRYP-02","CTL-SEC-01","CTL-AUD-01","CTL-AUD-02",
    "CTL-PRV-01","CTL-PRV-02","CTL-PRV-03","CTL-SEC-02","CTL-SEC-03","CTL-DR-01","CTL-INC-01","CTL-GOV-01"]

def unresolvedControlGapError (message : String) (details : List (PyKey × PyValue) := []) : PyError :=
  .domain { code := "UNRESOLVED_CONTROL_GAP", message := message, details := details }

def bundleIntegrityCompromisedError (message : String) (details : List (PyKey × PyValue) := []) : PyError :=
  .domain { code := "BUNDLE_INTEGRITY_COMPROMISED", message := message, details := details }

/-- SHA-256 and HMAC-SHA256 with their hexadecimal texts, the float of a JSON literal, `str` of a value that is no
text, and what the exception says about bytes that are no JSON. -/
structure EvidenceLibrary where
  sha256 : List UInt8 → String
  hmacSha256 : List UInt8 → List UInt8 → String
  hmacAscii : ∀ key payload, Text.isAscii (hmacSha256 key payload) = true
  double : List Char → FloatText
  str : PyValue → String
  jsonError : List UInt8 → String

/-- A file at a path; `contents` are there if it exists, and `name` is the last part of the path. -/
structure EvidenceFile where
  path : String
  name : String
  contents : Option (List UInt8)

abbrev Archive := Dict String (List UInt8)

/-- What stands at the path of a bundle. -/
inductive BundleFile : Type
  | absent
  | unreadable (reason : String)
  | archive (members : Archive)

variable (lib : EvidenceLibrary)

namespace EvidenceSigner

def defaultKey : String := "revpilot_compliance_vault_master_hmac_secret_key_v1"

def signPayload (payload : List UInt8) : String := "sig_sha256:" ++ lib.hmacSha256 (Bytes.utf8 defaultKey) payload

/-- `hmac.compare_digest` takes no other values than texts. -/
def verifySignature (payload : List UInt8) (signature : PyValue) : Except PyError Bool :=
  match signature with
  | .str s => Approval.compareDigest (signPayload lib payload) s
  | _ => .error .typeError

end EvidenceSigner

namespace EvidenceCollector
open EvidenceSigner

def generateCanonicalMockArtifacts (verifiedAt : String → UtcDateTime) : Dict String EvidenceFile :=
  canonicalComplianceControls.foldl (fun artifacts c =>
    let content : Tree := .obj [("control_id",.str c),("verified_at",.str (verifiedAt c).isoformat),
      ("status",.str "PASS"),("evidence_payload",.str s!"automated_verification_sample_{c}")]
    artifacts.set c
      { path := s!"sources/{c}.json", name := s!"{c}.json"
        contents := some (Bytes.utf8 (String.ofList (indented 2 0 content))) }) .empty

/-- `str` of a list of control ids. -/
def listText (controls : List String) : String := "[" ++ ", ".intercalate (controls.map (fun c => "'" ++ c ++ "'")) ++ "]"

/-- A file to pack, with the name it gets in the archive. -/
structure Packed where
  controlId : String
  filename : String
  contents : List UInt8

def packArtifact (artifacts : Dict String EvidenceFile) (control : String) : Except PyError Packed :=
  match artifacts.get? control with
  | none => .error (.runtime "KeyError")
  | some file =>
    match file.contents with
    | none | some [] =>
      .error (unresolvedControlGapError
        s!"Incomplete compliance evidence: artifact for {control} is missing or empty"
        [(.str "control_id",.str control),(.str "filepath",.str file.path)])
    | some contents => .ok ⟨control,control ++ "_" ++ file.name,contents⟩

def artifactRecord (artifact : Packed) : Tree :=
  .obj [("control_id",.str artifact.controlId),("filename",.str artifact.filename),
    ("sha256",.str (lib.sha256 artifact.contents)),("evaluator",.str "revpilot-compliance-evaluator v1.0"),
    ("result",.str "PASS")]

def manifestData (periodId : String) (collectedAt : UtcDateTime) (artifacts : List Packed) : List (String × Tree) :=
  [("period",.str periodId),("collected_at",.str collectedAt.isoformat),
    ("collector_agent",.str "revpilot-compliance-worker v0.8"),("artifacts",.arr (artifacts.map (artifactRecord lib)))]

/-- The bytes of `json.dumps(manifest, sort_keys=True)`, which are signed. -/
def signedBytes (manifest : List (PyKey × PyValue)) : List UInt8 :=
  Bytes.utf8 (((PyValue.dict manifest).dumps ⟨true,true⟩ PyValue.noDefault).getD "")

/-- The manifest with its signature, as it is written into the archive. -/
def sealedManifest (manifest : List (String × Tree)) : List (String × Tree) :=
  manifest ++ [("bundle_signature",.str (signPayload lib (signedBytes (ofMembers manifest))))]

def packArchive (manifest : List (String × Tree)) (artifacts : List Packed) : Archive :=
  artifacts.foldl (fun archive artifact => archive.set ("artifacts/" ++ artifact.filename) artifact.contents)
    (Dict.empty.set "evidence-manifest.json" (Bytes.utf8 (String.ofList (indented 2 0 (.obj manifest)))))

def collectPeriodEvidence (periodId : String) (artifactsMap : Option (Dict String EvidenceFile))
    (verifiedAt : String → UtcDateTime) (collectedAt : UtcDateTime) : Except PyError Archive := do
  let sourceArtifacts := artifactsMap.getD (generateCanonicalMockArtifacts verifiedAt)
  let missing := canonicalComplianceControls.filter (fun c => (sourceArtifacts.get? c).isNone)
  if missing ≠ [] then
    throw (unresolvedControlGapError s!"Incomplete compliance evidence: missing controls {listText missing}"
      [(.str "missing_controls",.list (missing.map .str)),
        (.str "required_count",.int canonicalComplianceControls.length)])
  let artifacts ← canonicalComplianceControls.mapM (packArtifact sourceArtifacts)
  return packArchive (sealedManifest lib (manifestData lib periodId collectedAt artifacts)) artifacts

/-- The elements that a loop over the value meets. -/
def elements : PyValue → Except PyError (List PyValue)
  | .list items | .tuple items => .ok items
  | .dict members => .ok (members.map (fun m =>
      match m.1 with
      | .str s => .str s
      | .int i => .int i
      | .bool b => .bool b
      | .float x => .float x
      | .none => .none))
  | .str s => .ok (s.toList.map (fun c => .str (String.singleton c)))
  | _ => .error .typeError

/-- The key that a value is in a set; lists and dicts have no hash. -/
def key? : PyValue → Option PyKey
  | .none => some .none
  | .bool b => some (.bool b)
  | .int i => some (.int i)
  | .float x => some (.float x)
  | .str s => some (.str s)
  | _ => none

def text (value : PyValue) : String :=
  match value with
  | .str s => s
  | other => lib.str other

/-- The check of one entry of the artifacts list; what it returns has been seen. The name of
the file is looked up as it is written. -/
def checkArtifact (archive : Archive) (item : PyValue) : Except PyError PyKey :=
  match item with
  | .dict entry =>
    let controlId := (PyValue.lookup entry "control_id").getD .none
    let expectedSha := (PyValue.lookup entry "sha256").getD .none
    match key? controlId with
    | none => .error .typeError
    | some seen =>
      match (PyValue.lookup entry "filename").getD .none with
      | .str filename =>
        match archive.get? ("artifacts/" ++ filename) with
        | none =>
          .error (bundleIntegrityCompromisedError
            s!"Evidence archive corrupted: packaged artifact {filename} missing"
            [(.str "control_id",controlId),(.str "filename",.str filename)])
        | some contents =>
          match expectedSha with
          | .str expected =>
            if lib.sha256 contents = expected then .ok seen else mismatch controlId filename expectedSha contents
          | _ => mismatch controlId filename expectedSha contents
      | _ => .error .typeError
  | _ => .error .attributeError
where
  mismatch (controlId : PyValue) (filename : String) (expectedSha : PyValue) (contents : List UInt8) :
      Except PyError PyKey :=
    .error (bundleIntegrityCompromisedError
      s!"Evidence archive corrupted: SHA-256 mismatch for control {text lib controlId}"
      [(.str "control_id",controlId),(.str "filename",.str filename),(.str "expected_sha256",expectedSha),
        (.str "actual_sha256",.str (lib.sha256 contents))])

/-- The checks of a manifest that was read. -/
def verifyManifest (archive : Archive) (manifest : List (PyKey × PyValue)) : Except PyError Bool := do
  let signature := (PyValue.lookup manifest "bundle_signature").getD .none
  if signature.truthy = false then
    throw (bundleIntegrityCompromisedError "Evidence archive corrupted: missing bundle_signature")
  let unsigned := manifest.filter (fun m => m.1 ≠ .str "bundle_signature")
  if ← verifySignature lib (signedBytes unsigned) signature then
    let artifacts ← elements ((PyValue.lookup manifest "artifacts").getD (.list []))
    let seenControls ← artifacts.mapM (checkArtifact lib archive)
    let missing := canonicalComplianceControls.filter (fun c => .str c ∉ seenControls)
    if missing ≠ [] then
      throw (unresolvedControlGapError s!"Incomplete compliance evidence: archive missing controls {listText missing}"
        [(.str "missing_controls",.list (missing.map .str))])
    return true
  else
    throw (bundleIntegrityCompromisedError "Evidence archive corrupted: bundle signature verification failed"
      [(.str "signature",signature)])

/-- The manifest that `json.loads` reads. The line feeds that `read_text` translates are blanks all the same. -/
def readManifest (bytes : List UInt8) : Option PyValue := (Bytes.decodeUtf8 bytes).bind (loads lib.double)

def verifyBundleIntegrity (path : String) (bundle : BundleFile) : Except PyError Bool :=
  match bundle with
  | .absent =>
    .error (bundleIntegrityCompromisedError s!"Evidence archive corrupted: bundle file {path} does not exist"
      [(.str "filepath",.str path)])
  | .unreadable reason =>
    .error (bundleIntegrityCompromisedError s!"Evidence archive corrupted: decompression failed: {reason}"
      [(.str "error",.str reason)])
  | .archive members =>
    match members.get? "evidence-manifest.json" with
    | none =>
      .error (bundleIntegrityCompromisedError
        "Evidence archive corrupted: evidence-manifest.json missing from bundle")
    | some bytes =>
      match readManifest lib bytes with
      | none =>
        .error (bundleIntegrityCompromisedError
          s!"Evidence archive corrupted: invalid manifest JSON: {lib.jsonError bytes}")
      | some (.dict manifest) => verifyManifest lib members manifest
      | some _ => .error .attributeError

section checks
variable {lib}

theorem verifySignature_true {payload : List UInt8} {signature : PyValue} :
    verifySignature lib payload signature = .ok true ↔ signature = .str (signPayload lib payload) := by
  have ascii : Text.isAscii (signPayload lib payload) = true := by
    have digits := lib.hmacAscii (Bytes.utf8 defaultKey) payload
    rw [Text.isAscii] at digits
    rw [signPayload,Text.isAscii,String.toList_append,List.all_append,digits,Bool.and_true]
    decide
  unfold verifySignature
  split
  next s =>
    unfold Approval.compareDigest
    rw [PyValue.str.injEq,ascii,Bool.true_and]
    constructor
    · intro accepted
      split at accepted
      · have same : signPayload lib payload = s := by simpa using accepted
        exact same.symm
      · cases accepted
    · rintro rfl
      simp [ascii]
  next other =>
    constructor
    · intro accepted
      cases accepted
    · intro same
      exact absurd same (other _)

/-- An entry with its three texts passes when the file is there and has that digest. -/
theorem checkArtifact_ok {archive : Archive} {entry : List (PyKey × PyValue)} {control filename sha : String}
    (controlId : PyValue.lookup entry "control_id" = some (.str control))
    (named : PyValue.lookup entry "filename" = some (.str filename))
    (digest : PyValue.lookup entry "sha256" = some (.str sha)) {seen : PyKey} :
    checkArtifact lib archive (.dict entry) = .ok seen ↔ seen = .str control ∧
      ∃ contents, archive.get? ("artifacts/" ++ filename) = some contents ∧ lib.sha256 contents = sha := by
  unfold checkArtifact
  simp only [controlId,named,digest,Option.getD_some,key?]
  cases found : archive.get? ("artifacts/" ++ filename) with
  | none => simp
  | some contents =>
    by_cases same : lib.sha256 contents = sha
    · simp [same,eq_comm]
    · simp [same,checkArtifact.mismatch]

theorem verifyManifest_true {archive : Archive} {manifest : List (PyKey × PyValue)} :
    verifyManifest lib archive manifest = .ok true ↔
      PyValue.lookup manifest "bundle_signature" =
        some (.str (signPayload lib (signedBytes (manifest.filter (fun m => m.1 ≠ .str "bundle_signature"))))) ∧
      ∃ items seen, elements ((PyValue.lookup manifest "artifacts").getD (.list [])) = .ok items ∧
        items.mapM (checkArtifact lib archive) = .ok seen ∧ ∀ c ∈ canonicalComplianceControls, .str c ∈ seen := by
  have complete (seen : List PyKey) :
      ¬ canonicalComplianceControls.filter (fun c => .str c ∉ seen) ≠ [] ↔
        ∀ c ∈ canonicalComplianceControls, .str c ∈ seen := by
    simp [List.filter_eq_nil_iff]
  unfold verifyManifest
  simp only [throw_bind,guard_eq_ok,bind_eq_ok]
  constructor
  · rintro ⟨signed,verified,accepted,rest⟩
    cases verified with
    | false => exact absurd rest throw_ne_ok
    | true =>
      rw [if_pos rfl] at rest
      simp only [bind_eq_ok,guard_eq_ok,complete] at rest
      obtain ⟨items,listed,seen,checked,all,_⟩ := rest
      refine ⟨?_,items,seen,listed,checked,all⟩
      rw [verifySignature_true] at accepted
      cases found : PyValue.lookup manifest "bundle_signature" with
      | none =>
        rw [found] at accepted
        cases accepted
      | some signature =>
        rw [found] at accepted
        exact congrArg some accepted
  · rintro ⟨signed,items,seen,listed,checked,all⟩
    rw [signed,Option.getD_some]
    refine ⟨?_,true,verifySignature_true.mpr rfl,?_⟩
    · simp [PyValue.truthy,signPayload]
    · rw [if_pos rfl]
      simp only [bind_eq_ok,guard_eq_ok,complete]
      exact ⟨items,listed,seen,checked,all,rfl⟩

end checks
section collecting
variable {lib}

/-- Every canonical control has a file that exists and is not empty. -/
def Covers (artifacts : Dict String EvidenceFile) : Prop :=
  ∀ control ∈ canonicalComplianceControls, ∃ file contents, artifacts.get? control = some file ∧
    file.contents = some contents ∧ contents ≠ []

/-- The files of the canonical controls, under names that begin with them. -/
structure Labelled (artifacts : List Packed) : Prop where
  controls : artifacts.map Packed.controlId = canonicalComplianceControls
  names : ∀ artifact ∈ artifacts, ∃ name, artifact.filename = artifact.controlId ++ "_" ++ name

theorem packArtifact_ok {artifacts : Dict String EvidenceFile} {control : String} {packed : Packed} :
    packArtifact artifacts control = .ok packed ↔ ∃ file contents, artifacts.get? control = some file ∧
      file.contents = some contents ∧ contents ≠ [] ∧ packed = ⟨control,control ++ "_" ++ file.name,contents⟩ := by
  unfold packArtifact
  cases artifacts.get? control with
  | none => simp
  | some file =>
    rcases contents : file.contents with _ | _ | ⟨byte,bytes⟩
    · simp [contents]
    · simp [contents]
    · simp [contents,eq_comm]

theorem collect_ok {artifacts : Dict String EvidenceFile} (covers : Covers artifacts) (periodId : String)
    (verifiedAt : String → UtcDateTime) (collectedAt : UtcDateTime) : ∃ packed, Labelled packed ∧
      collectPeriodEvidence lib periodId (some artifacts) verifiedAt collectedAt =
        .ok (packArchive (sealedManifest lib (manifestData lib periodId collectedAt packed)) packed) := by
  have each : ∀ control ∈ canonicalComplianceControls, ∃ packed, packArtifact artifacts control = .ok packed := by
    intro control inside
    obtain ⟨file,contents,found,stored,filled⟩ := covers control inside
    exact ⟨_,packArtifact_ok.mpr ⟨file,contents,found,stored,filled,rfl⟩⟩
  obtain ⟨packed,paired⟩ := Pairing.exists_paired each
  refine ⟨packed,⟨?_,?_⟩,?_⟩
  · rw [← List.forall₂_eq_eq_eq,List.forall₂_map_left_iff]
    apply paired.flip.imp
    intro artifact control ok
    obtain ⟨_,_,_,_,_,rfl⟩ := packArtifact_ok.mp ok
    rfl
  · intro artifact inside
    obtain ⟨control,_,ok⟩ := Pairing.exists_left paired inside
    obtain ⟨file,_,_,_,_,rfl⟩ := packArtifact_ok.mp ok
    exact ⟨file.name,rfl⟩
  · have none_missing : canonicalComplianceControls.filter (fun c => (artifacts.get? c).isNone) = [] := by
      rw [List.filter_eq_nil_iff]
      intro control inside
      obtain ⟨file,_,found,_⟩ := covers control inside
      simp [found]
    unfold collectPeriodEvidence
    simp only [Option.getD_some,none_missing,ne_eq,not_true_eq_false,if_false]
    rw [mapM_forall₂.mpr paired]
    rfl

/-- A name begins with one control only. -/
theorem control_of_filename {c d a b : String} (clearC : '_' ∉ c.toList) (clearD : '_' ∉ d.toList)
    (same : c ++ "_" ++ a = d ++ "_" ++ b) : c = d := by
  have chars := congrArg (fun s => s.toList.takeWhile (· ≠ '_')) same
  have front {x y : String} (clear : '_' ∉ x.toList) : (x ++ "_" ++ y).toList.takeWhile (· ≠ '_') = x.toList := by
    rw [String.toList_append,String.toList_append,List.append_assoc,List.takeWhile_append_of_pos]
    · simp
    · intro e inside
      simpa using fun equal : e = '_' => clear (equal ▸ inside)
  simp only [front clearC,front clearD] at chars
  exact String.toList_injective chars

theorem controls_clear : ∀ control ∈ canonicalComplianceControls, '_' ∉ control.toList := by decide +kernel

theorem controls_distinct : canonicalComplianceControls.Nodup := by decide +kernel

/-- Two packed files of one name are one. -/
theorem Labelled.unique {artifacts : List Packed} (labelled : Labelled artifacts) {p q : Packed} (first : p ∈ artifacts)
    (second : q ∈ artifacts) (same : p.filename = q.filename) : p = q := by
  obtain ⟨a,nameP⟩ := labelled.names p first
  obtain ⟨b,nameQ⟩ := labelled.names q second
  have inside {r : Packed} (member : r ∈ artifacts) : r.controlId ∈ canonicalComplianceControls := by
    rw [← labelled.controls]
    exact List.mem_map_of_mem member
  have distinct : (artifacts.map Packed.controlId).Nodup := by
    rw [labelled.controls]
    exact controls_distinct
  apply List.inj_on_of_nodup_map distinct first second
  apply control_of_filename (controls_clear _ (inside first)) (controls_clear _ (inside second))
  rw [← nameP,← nameQ,same]

theorem packArchive_manifest (manifest : List (String × Tree)) (artifacts : List Packed) :
    (packArchive manifest artifacts).get? "evidence-manifest.json" =
      some (Bytes.utf8 (String.ofList (indented 2 0 (.obj manifest)))) := by
  rw [packArchive,Dict.get?_foldl_set]
  have apart : artifacts.reverse.find? (fun p => "artifacts/" ++ p.filename = "evidence-manifest.json") = none := by
    rw [List.find?_eq_none]
    intro p _ same
    have head := congrArg (fun s => s.toList.head?) (of_decide_eq_true same)
    simp at head
  simp [apart]

theorem packArchive_artifact {manifest : List (String × Tree)} {artifacts : List Packed} (labelled : Labelled artifacts)
    {artifact : Packed} (inside : artifact ∈ artifacts) :
    (packArchive manifest artifacts).get? ("artifacts/" ++ artifact.filename) = some artifact.contents := by
  rw [packArchive,Dict.get?_foldl_set]
  obtain ⟨p,found⟩ : ∃ p, artifacts.reverse.find?
      (fun p => "artifacts/" ++ p.filename = "artifacts/" ++ artifact.filename) = some p :=
    Option.isSome_iff_exists.mp (List.find?_isSome.mpr ⟨artifact,List.mem_reverse.mpr inside,by simp⟩)
  have named : p.filename = artifact.filename := by simpa using List.find?_some found
  have same : p = artifact := labelled.unique (List.mem_reverse.mp (List.mem_of_find?_eq_some found)) inside named
  rw [found,Option.map_some,same,Option.some_or]

/-- What is in the archive besides the manifest are the packed files. -/
theorem packArchive_other {manifest : List (String × Tree)} {artifacts : List Packed} {name : String}
    {contents : List UInt8} (other : name ≠ "evidence-manifest.json")
    (found : (packArchive manifest artifacts).get? name = some contents) :
    ∃ artifact ∈ artifacts, name = "artifacts/" ++ artifact.filename ∧ contents = artifact.contents := by
  rw [packArchive,Dict.get?_foldl_set,Option.or_eq_some_iff] at found
  obtain packed | ⟨-,only⟩ := found
  · obtain ⟨p,first,rfl⟩ := Option.map_eq_some_iff.mp packed
    have named : "artifacts/" ++ p.filename = name := by simpa using List.find?_some first
    exact ⟨p,List.mem_reverse.mp (List.mem_of_find?_eq_some first),named.symm,rfl⟩
  · rw [Dict.get?_set_ne _ _ other] at only
    cases only

theorem artifactRecords_numberless (artifacts : List Packed) :
    NumberlessItems (artifacts.map (artifactRecord lib)) := by
  induction artifacts with
  | nil => trivial
  | cons artifact artifacts ih =>
    refine ⟨⟨by simp,?_⟩,ih⟩
    simp [NumberlessMembers,Numberless]

theorem sealedManifest_numberless (periodId : String) (collectedAt : UtcDateTime) (artifacts : List Packed) :
    Numberless (.obj (sealedManifest lib (manifestData lib periodId collectedAt artifacts))) := by
  refine ⟨by simp [sealedManifest,manifestData],?_⟩
  simp [sealedManifest,manifestData,NumberlessMembers,Numberless,artifactRecords_numberless]

/-- The written manifest is read back. -/
theorem readManifest_written {manifest : List (String × Tree)} (plain : Numberless (.obj manifest)) :
    readManifest lib (Bytes.utf8 (String.ofList (indented 2 0 (.obj manifest)))) = some (.dict (ofMembers manifest)) := by
  rw [readManifest,Bytes.decodeUtf8_utf8,Option.bind_some,loads_indented plain,ofTree]

/-- A field of the manifest in an archive. -/
def manifestField (lib : EvidenceLibrary) (archive : Archive) (name : String) : Option PyValue :=
  match (archive.get? "evidence-manifest.json").bind (readManifest lib) with
  | some (.dict manifest) => PyValue.lookup manifest name
  | _ => none

theorem verify_ok_iff {path : String} {archive : Archive} {accepted : Bool} :
    verifyBundleIntegrity lib path (.archive archive) = .ok accepted ↔ ∃ manifest,
      (archive.get? "evidence-manifest.json").bind (readManifest lib) = some (.dict manifest) ∧
      verifyManifest lib archive manifest = .ok accepted := by
  unfold verifyBundleIntegrity
  dsimp only
  cases archive.get? "evidence-manifest.json" with
  | none => simp
  | some bytes =>
    dsimp only
    rw [Option.bind_some]
    cases readManifest lib bytes with
    | none => simp
    | some value => cases value <;> simp

theorem verifyManifest_decides (archive : Archive) (manifest : List (PyKey × PyValue)) :
    verifyManifest lib archive manifest ≠ .ok false := by
  intro outcome
  unfold verifyManifest at outcome
  simp only [throw_bind,guard_eq_ok,bind_eq_ok] at outcome
  obtain ⟨_,verified,_,rest⟩ := outcome
  cases verified with
  | false => exact absurd rest throw_ne_ok
  | true =>
    rw [if_pos rfl] at rest
    simp only [bind_eq_ok,guard_eq_ok] at rest
    obtain ⟨_,_,_,_,_,last⟩ := rest
    cases last

/-- What is not accepted raises. -/
theorem verify_raises {path : String} {archive : Archive}
    (refused : verifyBundleIntegrity lib path (.archive archive) ≠ .ok true) :
    ∃ raised, verifyBundleIntegrity lib path (.archive archive) = .error raised := by
  cases outcome : verifyBundleIntegrity lib path (.archive archive) with
  | error raised => exact ⟨raised,rfl⟩
  | ok accepted =>
    cases accepted with
    | true => exact absurd outcome refused
    | false =>
      obtain ⟨manifest,_,decided⟩ := verify_ok_iff.mp outcome
      exact absurd decided (verifyManifest_decides archive manifest)

/-- The entry of a packed file as the check reads it. -/
def entry (lib : EvidenceLibrary) (artifact : Packed) : List (PyKey × PyValue) :=
  [(.str "control_id",.str artifact.controlId),(.str "filename",.str artifact.filename),
    (.str "sha256",.str (lib.sha256 artifact.contents)),(.str "evaluator",.str "revpilot-compliance-evaluator v1.0"),
    (.str "result",.str "PASS")]

theorem ofTrees_records (artifacts : List Packed) :
    ofTrees (artifacts.map (artifactRecord lib)) = artifacts.map (fun p => .dict (entry lib p)) := by
  induction artifacts with
  | nil => rfl
  | cons artifact artifacts ih =>
    rw [List.map_cons,ofTrees,ih]
    rfl

section written
variable (periodId : String) (collectedAt : UtcDateTime) (artifacts : List Packed)

/-- The fields of the written manifest. -/
def writtenMembers (lib : EvidenceLibrary) : List (PyKey × PyValue) :=
  ofMembers (sealedManifest lib (manifestData lib periodId collectedAt artifacts))

theorem written_read : ((packArchive (sealedManifest lib (manifestData lib periodId collectedAt artifacts)) artifacts).get?
    "evidence-manifest.json").bind (readManifest lib) = some (.dict (writtenMembers periodId collectedAt artifacts lib)) := by
  rw [packArchive_manifest,Option.bind_some,readManifest_written (sealedManifest_numberless _ _ _)]
  rfl

theorem written_native : PyValue.Native (.dict (writtenMembers periodId collectedAt artifacts lib)) := by
  have read := @loads_indented lib.double 2 _ (@sealedManifest_numberless lib periodId collectedAt artifacts)
  rw [ofTree] at read
  exact loads_native read

theorem written_signature : PyValue.lookup (writtenMembers periodId collectedAt artifacts lib) "bundle_signature" =
    some (.str (signPayload lib (signedBytes (ofMembers (manifestData lib periodId collectedAt artifacts))))) := by
  simp [writtenMembers,sealedManifest,manifestData,ofMembers,PyValue.lookup,ofTree]

theorem written_artifacts : PyValue.lookup (writtenMembers periodId collectedAt artifacts lib) "artifacts" =
    some (.list (artifacts.map (fun p => .dict (entry lib p)))) := by
  simp [writtenMembers,sealedManifest,manifestData,ofMembers,PyValue.lookup,ofTree,ofTrees_records]

theorem written_unsigned :
    (writtenMembers periodId collectedAt artifacts lib).filter (fun m => m.1 ≠ .str "bundle_signature") =
      ofMembers (manifestData lib periodId collectedAt artifacts) := by
  simp [writtenMembers,sealedManifest,manifestData,ofMembers]

variable {artifacts}

/-- The bundle that was packed is accepted. -/
theorem packed_accepted (labelled : Labelled artifacts) (path : String) :
    verifyBundleIntegrity lib path (.archive (packArchive
      (sealedManifest lib (manifestData lib periodId collectedAt artifacts)) artifacts)) = .ok true := by
  refine verify_ok_iff.mpr ⟨_,written_read periodId collectedAt artifacts,verifyManifest_true.mpr ⟨?_,?_⟩⟩
  · rw [written_signature,written_unsigned]
  · refine ⟨_,artifacts.map (fun p => .str p.controlId),by rw [written_artifacts]; rfl,?_,?_⟩
    · rw [mapM_eq_ok,List.map_map,List.map_map]
      apply List.map_congr_left
      intro artifact inside
      apply (@checkArtifact_ok lib _ (entry lib artifact) artifact.controlId artifact.filename
        (lib.sha256 artifact.contents) rfl rfl rfl _).mpr
      exact ⟨rfl,artifact.contents,packArchive_artifact labelled inside,rfl⟩
    · intro control inside
      rw [← labelled.controls] at inside
      obtain ⟨artifact,member,rfl⟩ := List.mem_map.mp inside
      exact List.mem_map.mpr ⟨artifact,member,rfl⟩

end written

section tampering

theorem lookup_unsigned {manifest : List (PyKey × PyValue)} {name : String} (other : name ≠ "bundle_signature") :
    PyValue.lookup (manifest.filter (fun m => m.1 ≠ .str "bundle_signature")) name = PyValue.lookup manifest name := by
  unfold PyValue.lookup
  rw [List.find?_filter]
  congr 2
  funext m
  by_cases here : m.1 = .str name
  · simp [here,other]
  · simp [here]

theorem native_filter {members : List (PyKey × PyValue)} (native : PyValue.Native (.dict members))
    (p : PyKey × PyValue → Bool) : PyValue.Native (.dict (members.filter p)) := by
  refine ⟨native.1.sublist (List.filter_sublist.map Prod.fst),(PyValue.nativeMembers_iff _).mpr ?_⟩
  intro m inside
  exact (PyValue.nativeMembers_iff _).mp native.2 m (List.mem_filter.mp inside).1

theorem same_text {s : String} {value : Option PyValue} (same : Option.Rel PyValue.Same (some (.str s)) value) :
    value = some (.str s) := by
  cases same with
  | some equal =>
    rename_i v
    cases v with
    | str t =>
      obtain rfl : s = t := equal
      rfl
    | none | bool | int | float | list | tuple | dict | other => exact equal.elim

theorem same_items {xs ys : List PyValue} (same : PyValue.SameItems xs ys) (native : PyValue.NativeItems ys) :
    ∀ x ∈ xs, ∃ y ∈ ys, PyValue.Same x y ∧ PyValue.Native y := by
  induction xs generalizing ys with
  | nil => simp
  | cons x xs ih =>
    cases ys with
    | nil => exact same.elim
    | cons y ys =>
      intro z inside
      rcases List.mem_cons.mp inside with rfl | later
      · exact ⟨y,List.mem_cons_self,same.1,native.1⟩
      · obtain ⟨w,member,facts⟩ := ih same.2 native.2 z later
        exact ⟨w,List.mem_cons_of_mem y member,facts⟩

/-- No two byte strings have one hash. -/
structure CollisionFree (lib : EvidenceLibrary) : Prop where
  sha256 : Function.Injective lib.sha256
  hmacSha256 : ∀ key, Function.Injective (lib.hmacSha256 key)

theorem CollisionFree.signPayload_injective (free : CollisionFree lib) : Function.Injective (signPayload lib) :=
  fun _ _ same => free.hmacSha256 _ ((String.append_right_inj _).mp same)

/-- Dicts that are signed as the same bytes are the same. -/
theorem same_of_signedBytes {xs ys : List (PyKey × PyValue)} (native : PyValue.Native (.dict xs))
    (native' : PyValue.Native (.dict ys)) (same : signedBytes xs = signedBytes ys) :
    PyValue.Same (.dict xs) (.dict ys) := by
  obtain ⟨tree,first⟩ := @PyValue.native_toTree PyValue.noDefault _ native
  obtain ⟨tree',second⟩ := @PyValue.native_toTree PyValue.noDefault _ native'
  have texts := Bytes.utf8_injective same
  rw [PyValue.dumps,PyValue.dumps,first,second] at texts
  have trees : tree = tree' := render_injective _ texts
  apply (@PyValue.toTree_eq_iff PyValue.noDefault _ native _ native').mp
  rw [first,second,trees]

/-- A bundle for which nobody had the key: a genuine signature in it is the one of the other bundle. -/
def Unforged (lib : EvidenceLibrary) (bundle altered : Archive) : Prop :=
  ∀ payload, manifestField lib altered "bundle_signature" = some (.str (signPayload lib payload)) →
    manifestField lib bundle "bundle_signature" = some (.str (signPayload lib payload))

/-- A packed file has other bytes, or is gone. -/
def ArtifactAltered (bundle altered : Archive) : Prop :=
  ∃ name contents, name ≠ "evidence-manifest.json" ∧ bundle.get? name = some contents ∧
    altered.get? name ≠ some contents

/-- A field of the manifest has another value, is gone or is new. -/
def FieldAltered (lib : EvidenceLibrary) (bundle altered : Archive) : Prop :=
  ∃ name, ¬ Option.Rel PyValue.Same (manifestField lib bundle name) (manifestField lib altered name)

variable {periodId : String} {collectedAt : UtcDateTime} {artifacts : List Packed}

/-- An accepted bundle that nobody forged has the fields of the signed manifest. -/
theorem fields_of_accepted (free : CollisionFree lib) {manifest : List (PyKey × PyValue)}
    (native : PyValue.Native (.dict manifest)) (signed : PyValue.lookup manifest "bundle_signature" =
      some (.str (signPayload lib (signedBytes (manifest.filter (fun m => m.1 ≠ .str "bundle_signature"))))))
    (unforged : PyValue.lookup (writtenMembers periodId collectedAt artifacts lib) "bundle_signature" =
      some (.str (signPayload lib (signedBytes (manifest.filter (fun m => m.1 ≠ .str "bundle_signature"))))))
    (name : String) : Option.Rel PyValue.Same (PyValue.lookup (writtenMembers periodId collectedAt artifacts lib) name)
      (PyValue.lookup manifest name) := by
  by_cases other : name = "bundle_signature"
  · rw [other,unforged,signed]
    exact .some rfl
  · have written := @written_native lib periodId collectedAt artifacts
    have bytes := unforged
    rw [written_signature,Option.some.injEq,PyValue.str.injEq] at bytes
    have payload := free.signPayload_injective bytes
    rw [← written_unsigned] at payload
    have same := same_of_signedBytes (native_filter written _) (native_filter native _) payload
    rw [← lookup_unsigned other,← @lookup_unsigned manifest name other]
    exact PyValue.lookup_same (native_filter written _) (native_filter native _) same name

/-- An accepted list of entries that is the written one finds every packed file unchanged. -/
theorem artifacts_of_accepted (free : CollisionFree lib) {altered : Archive} {value : Option PyValue}
    {items : List PyValue} {seen : List PyKey}
    (same : Option.Rel PyValue.Same (some (.list (artifacts.map (fun p => .dict (entry lib p))))) value)
    (native : ∀ v, value = some v → PyValue.Native v) (listed : elements (value.getD (.list [])) = .ok items)
    (checked : items.mapM (checkArtifact lib altered) = .ok seen) {artifact : Packed} (inside : artifact ∈ artifacts) :
    altered.get? ("artifacts/" ++ artifact.filename) = some artifact.contents := by
  obtain ⟨ys,rfl,pairs⟩ : ∃ ys, value = some (.list ys) ∧
      PyValue.SameItems (artifacts.map (fun p => .dict (entry lib p))) ys := by
    cases same with
    | some equal =>
      rename_i v
      cases v with
      | list ys => exact ⟨ys,rfl,equal⟩
      | none | bool | int | float | str | tuple | dict | other => exact equal.elim
  obtain rfl := Except.ok.inj listed
  obtain ⟨y,member,equal,plain⟩ := same_items pairs (native _ rfl) (.dict (entry lib artifact))
    (List.mem_map.mpr ⟨artifact,inside,rfl⟩)
  obtain ⟨key,_,passed⟩ := Pairing.exists_right (mapM_forall₂.mp checked) member
  cases y with
  | dict other =>
    have own : PyValue.Native (.dict (entry lib artifact)) := by
      refine ⟨by simp [entry],(PyValue.nativeMembers_iff _).mpr ?_⟩
      simp [entry,PyValue.Native]
    have text {name s : String} (written : PyValue.lookup (entry lib artifact) name = some (.str s)) :
        PyValue.lookup other name = some (.str s) := by
      apply same_text
      rw [← written]
      exact PyValue.lookup_same own plain equal name
    obtain ⟨_,contents,found,digest⟩ := (@checkArtifact_ok lib altered other artifact.controlId artifact.filename
      (lib.sha256 artifact.contents) (text rfl) (text rfl) (text rfl) key).mp passed
    rw [found,free.sha256 digest]
  | none | bool | int | float | str | tuple | list | other => exact equal.elim

/-- The bundle that is collected over files for all controls is accepted, and one with another file or another field
raises unless its signature was forged. -/
theorem bundle_integrity (lib : EvidenceLibrary) (free : CollisionFree lib) (periodId : String)
    (artifacts : Dict String EvidenceFile) (covers : Covers artifacts) (verifiedAt : String → UtcDateTime)
    (collectedAt : UtcDateTime) (path : String) : ∃ bundle,
      collectPeriodEvidence lib periodId (some artifacts) verifiedAt collectedAt = .ok bundle ∧
      verifyBundleIntegrity lib path (.archive bundle) = .ok true ∧
      ∀ altered, Unforged lib bundle altered → ArtifactAltered bundle altered ∨ FieldAltered lib bundle altered →
        ∃ raised, verifyBundleIntegrity lib path (.archive altered) = .error raised := by
  obtain ⟨packed,labelled,collected⟩ := @collect_ok lib artifacts covers periodId verifiedAt collectedAt
  refine ⟨_,collected,packed_accepted periodId collectedAt labelled path,?_⟩
  intro altered unforged change
  apply verify_raises
  intro accepted
  obtain ⟨manifest,read,verified⟩ := verify_ok_iff.mp accepted
  obtain ⟨signed,items,seen,listed,checked,_⟩ := verifyManifest_true.mp verified
  have native : PyValue.Native (.dict manifest) := by
    obtain ⟨bytes,_,loaded⟩ := Option.bind_eq_some_iff.mp read
    obtain ⟨text,_,parsed⟩ := Option.bind_eq_some_iff.mp loaded
    exact loads_native parsed
  have fieldsWritten (name : String) : manifestField lib (packArchive
      (sealedManifest lib (manifestData lib periodId collectedAt packed)) packed) name =
      PyValue.lookup (writtenMembers periodId collectedAt packed lib) name := by
    rw [manifestField,written_read]
  have fieldsRead (name : String) : manifestField lib altered name = PyValue.lookup manifest name := by
    rw [manifestField,read]
  have genuine := unforged _ ((fieldsRead _).trans signed)
  rw [fieldsWritten] at genuine
  have same := fields_of_accepted free native signed genuine
  rcases change with ⟨name,contents,other,found,lost⟩ | ⟨name,different⟩
  · obtain ⟨artifact,inside,rfl,rfl⟩ := packArchive_other other found
    apply lost
    refine artifacts_of_accepted free ?_ ?_ listed checked inside
    · rw [← written_artifacts periodId collectedAt]
      exact same "artifacts"
    · intro value stored
      exact ((PyValue.nativeMembers_iff _).mp native.2 _ ((PyValue.lookup_eq_some_iff native.1).mp stored)).2
  · apply different
    rw [fieldsWritten,fieldsRead]
    exact same name

end tampering
section samples

/-- The text that is signed for a bundle of sixteen files that hold two letters. -/
def quarterText : String :=
  "\x7b\"artifacts\": [" ++ ", ".intercalate (canonicalComplianceControls.map (fun c =>
    "\x7b\"control_id\": \"" ++ c ++ "\", \"evaluator\": \"revpilot-compliance-evaluator v1.0\", \"filename\": \"" ++ c ++
      "_evidence.json\", \"result\": \"PASS\", " ++
      "\"sha256\": \"2689367b205c16ce32ed4200942b8b8b1e262dfc70d9bc9fbc77c49699a4f1df\"\x7d")) ++
    "], \"collected_at\": \"1970-01-01T00:00:00.000000Z\", \"collector_agent\": \"revpilot-compliance-worker v0.8\", " ++
    "\"period\": \"2026-Q3\"\x7d"

def preimage (bytes : List UInt8) : String := "preimage of " ++ Bytes.hex bytes

def sampleSha256 : List UInt8 → String :=
  tabled preimage [([111,107],"2689367b205c16ce32ed4200942b8b8b1e262dfc70d9bc9fbc77c49699a4f1df")]

def sampleHmac : List UInt8 → String :=
  tabled preimage [(Bytes.utf8 quarterText,"0428a7e664f9abb73a01f22233dcf219c02c713b7c55f6d325b6c1dabcf74c30")]

theorem preimage_injective : Function.Injective preimage :=
  fun _ _ same => Bytes.hex_injective ((String.append_right_inj _).mp same)

/-- A table of one hash is injective when the hash does not read as a preimage. -/
theorem single_injective {bytes : List UInt8} {digest : String} (apart : digest.toList.head? ≠ some 'p') :
    Function.Injective (tabled preimage [(bytes,digest)]) := by
  apply tabled_injective preimage_injective (by simp)
  intro entry member other same
  have written : preimage other = digest := by
    rw [List.mem_singleton.mp member] at same
    exact same
  apply apart
  rw [← written]
  simp [preimage]

theorem sampleHmac_ascii (payload : List UInt8) : Text.isAscii (sampleHmac payload) = true := by
  rcases tabled_cases preimage [(Bytes.utf8 quarterText,
      "0428a7e664f9abb73a01f22233dcf219c02c713b7c55f6d325b6c1dabcf74c30")] payload with found | other
  · have digest := congrArg Prod.snd (List.mem_singleton.mp found)
    rw [sampleHmac,show tabled preimage _ payload = _ from digest]
    decide
  · have digits := Bytes.hex_ascii payload
    rw [Text.isAscii] at digits
    rw [sampleHmac,other,preimage,Text.isAscii,String.toList_append,List.all_append,digits,Bool.and_true]
    decide

/-- SHA-256 on the content of the files and HMAC-SHA256 on the signed text. -/
def sampleLibrary : EvidenceLibrary where
  sha256 := sampleSha256
  hmacSha256 _ := sampleHmac
  hmacAscii _ := sampleHmac_ascii
  double _ := ⟨['0','.','0'],Eq.refl true⟩
  str _ := "None"
  jsonError _ := "Expecting value: line 1 column 1 (char 0)"

theorem sampleLibrary_free : CollisionFree sampleLibrary where
  sha256 := single_injective (by decide)
  hmacSha256 _ := single_injective (by decide)

def sampleArtifacts : Dict String EvidenceFile :=
  canonicalComplianceControls.foldl
    (fun artifacts c => artifacts.set c ⟨s!"evidence/{c}/evidence.json","evidence.json",some [111,107]⟩) .empty

theorem sampleArtifacts_cover : Covers sampleArtifacts := by
  have all : ∀ c ∈ canonicalComplianceControls,
      (sampleArtifacts.get? c).bind (fun file => file.contents) = some [111,107] := by decide +kernel
  intro control inside
  obtain ⟨file,found,stored⟩ := Option.bind_eq_some_iff.mp (all control inside)
  exact ⟨file,[111,107],found,stored,by simp⟩

/-- A bundle whose manifest is left alone is not forged. -/
theorem unforged_of_kept {bundle altered : Archive}
    (kept : altered.get? "evidence-manifest.json" = bundle.get? "evidence-manifest.json") :
    Unforged lib bundle altered := by
  intro payload signed
  unfold manifestField at signed ⊢
  rwa [kept] at signed

def quarterBundle : Except PyError Archive :=
  collectPeriodEvidence sampleLibrary "2026-Q3" (some sampleArtifacts) (fun _ => ⟨0⟩) ⟨0⟩

theorem quarter_packed : quarterBundle.toOption.bind (fun bundle => bundle.get? "artifacts/CTL-AUTH-01_evidence.json") =
    some [111,107] := by decide +kernel

/-- The bundle of the quarter is accepted, and emptying a file of it is noticed. -/
theorem quarter_integrity : ∃ bundle, quarterBundle = .ok bundle ∧
    verifyBundleIntegrity sampleLibrary "q3.tar.gz" (.archive bundle) = .ok true ∧
    ∃ raised, verifyBundleIntegrity sampleLibrary "q3.tar.gz"
      (.archive (bundle.set "artifacts/CTL-AUTH-01_evidence.json" [])) = .error raised := by
  obtain ⟨bundle,collected,accepted,tampered⟩ := bundle_integrity sampleLibrary sampleLibrary_free "2026-Q3"
    sampleArtifacts sampleArtifacts_cover (fun _ => ⟨0⟩) ⟨0⟩ "q3.tar.gz"
  refine ⟨bundle,collected,accepted,tampered _ ?_ (.inl ?_)⟩
  · exact unforged_of_kept (Dict.get?_set_ne _ _ (by decide))
  · have packed := quarter_packed
    rw [quarterBundle,collected] at packed
    exact ⟨"artifacts/CTL-AUTH-01_evidence.json",[111,107],by decide,packed,by simp⟩

end samples
end collecting
end EvidenceCollector
end RevPilot.Compliance
