import RevPilot.Library.Dict
import RevPilot.Library.Text
import RevPilot.Shared.Errors
import RevPilot.Shared.Temporal

/-! Release manifests over the 13 artifact tiers, their validation, and the registry of bundles. -/
namespace RevPilot.Operations
open Library Shared

def incompleteTierManifestError (message : String) (details : List (PyKey × PyValue)) : PyError :=
  .domain { code := "INCOMPLETE_TIER_MANIFEST", message := message, details := details }

structure ReleaseManifest where
  bundleId : String
  t01BinaryDigest : String
  t02ApiVersion : String
  t03SchemaVersion : String
  t04WorkflowVersion : String
  t05ConnectorVersion : String
  t06PromptDigest : String
  t07ModelSnapshot : String
  t08EmbeddingModel : String
  t09VectorIndexVersion : String
  t10RetrievalConfigDigest : String
  t11PolicyDigest : String
  t12FeatureFlagsDigest : String
  t13TenantConfigVersion : String
  createdAt : UtcDateTime
  createdBy : String := "release-lead"
  status : String := "QUALIFIED"

/-- `TIER_DEFINITIONS`, with the field that each key names. -/
def tierDefinitions : List (String × String × (ReleaseManifest → String)) :=
  [("t01_binary_digest","T01 Application Binary",ReleaseManifest.t01BinaryDigest),
    ("t02_api_version","T02 API Contract",ReleaseManifest.t02ApiVersion),
    ("t03_schema_version","T03 Database Schema",ReleaseManifest.t03SchemaVersion),
    ("t04_workflow_version","T04 Workflow Definition",ReleaseManifest.t04WorkflowVersion),
    ("t05_connector_version","T05 Connector Adapter",ReleaseManifest.t05ConnectorVersion),
    ("t06_prompt_digest","T06 Prompt Template",ReleaseManifest.t06PromptDigest),
    ("t07_model_snapshot","T07 Foundation Model",ReleaseManifest.t07ModelSnapshot),
    ("t08_embedding_model","T08 Embedding Model",ReleaseManifest.t08EmbeddingModel),
    ("t09_vector_index_version","T09 Vector Index Projection",ReleaseManifest.t09VectorIndexVersion),
    ("t10_retrieval_config_digest","T10 Retrieval Config",ReleaseManifest.t10RetrievalConfigDigest),
    ("t11_policy_digest","T11 Governance Policy",ReleaseManifest.t11PolicyDigest),
    ("t12_feature_flags_digest","T12 Feature Flag Manifest",ReleaseManifest.t12FeatureFlagsDigest),
    ("t13_tenant_config_version","T13 Tenant Configuration",ReleaseManifest.t13TenantConfigVersion)]

/-- A value of a manifest given as a `dict`. -/
inductive ManifestField : Type
  | value (value : PyValue)
  | time (instant : UtcDateTime)

namespace ManifestField

def truthy : ManifestField → Bool
  | value v => v.truthy
  | time _ => true

/-- `val is None`. -/
def isNone : ManifestField → Bool
  | value .none => true
  | _ => false

/-- `not str(val).strip()`; only a text or a foreign object can have a blank `str`. -/
def blank : ManifestField → Bool
  | value (.str s) => Text.strip s = ""
  | value (.other text _) => Text.strip text = ""
  | _ => false

end ManifestField

abbrev ManifestDict := List (PyKey × ManifestField)

namespace ManifestDict

def get? (data : ManifestDict) (key : String) : Option ManifestField :=
  (data.find? (fun m => m.1 = .str key)).map Prod.snd

/-- A required `str` field of the model. -/
def text (data : ManifestDict) (key : String) : Except PyError String :=
  match data.get? key with
  | some (.value (.str s)) => .ok s
  | _ => .error .validationError

def textOr (data : ManifestDict) (key default : String) : Except PyError String :=
  match data.get? key with
  | some (.value (.str s)) => .ok s
  | some _ => .error .validationError
  | none => .ok default

def timeOr (data : ManifestDict) (key : String) (default : UtcDateTime) : Except PyError UtcDateTime :=
  match data.get? key with
  | some (.time instant) => .ok instant
  | some _ => .error .validationError
  | none => .ok default

/-- `ReleaseManifest(**data)`. -/
def construct (data : ManifestDict) (now : UtcDateTime) : Except PyError ReleaseManifest := do
  if data.any (fun m => m.1.string?.isNone) then throw .typeError
  return {
    bundleId := ← data.text "bundle_id"
    t01BinaryDigest := ← data.text "t01_binary_digest"
    t02ApiVersion := ← data.text "t02_api_version"
    t03SchemaVersion := ← data.text "t03_schema_version"
    t04WorkflowVersion := ← data.text "t04_workflow_version"
    t05ConnectorVersion := ← data.text "t05_connector_version"
    t06PromptDigest := ← data.text "t06_prompt_digest"
    t07ModelSnapshot := ← data.text "t07_model_snapshot"
    t08EmbeddingModel := ← data.text "t08_embedding_model"
    t09VectorIndexVersion := ← data.text "t09_vector_index_version"
    t10RetrievalConfigDigest := ← data.text "t10_retrieval_config_digest"
    t11PolicyDigest := ← data.text "t11_policy_digest"
    t12FeatureFlagsDigest := ← data.text "t12_feature_flags_digest"
    t13TenantConfigVersion := ← data.text "t13_tenant_config_version"
    createdAt := ← data.timeOr "created_at" now
    createdBy := ← data.textOr "created_by" "release-lead"
    status := ← data.textOr "status" "QUALIFIED" }

end ManifestDict

inductive ManifestData : Type
  | dict (data : ManifestDict)
  | manifest (manifest : ReleaseManifest)
  | other (typeName : String)

namespace ReleaseManifestValidator

def missingTier (tierKey tierDesc : String) : PyError :=
  incompleteTierManifestError
    ("Incomplete artifact bundle: missing or empty tier '" ++ tierKey ++ "' (" ++ tierDesc ++ ")")
    [(.str "missing_tier",.str tierKey),(.str "tier_desc",.str tierDesc)]

def validate (manifestData : ManifestData) (now : UtcDateTime) : Except PyError ReleaseManifest :=
  match manifestData with
  | .dict data =>
    if (data.get? "bundle_id").all (fun val => !val.truthy || val.blank) then
      .error (incompleteTierManifestError "Incomplete artifact bundle: missing bundle_id"
        [(.str "missing_field",.str "bundle_id")])
    else
      match tierDefinitions.find? (fun tier => (data.get? tier.1).all (fun val => val.isNone || val.blank)) with
      | some (tierKey,tierDesc,_) => .error (missingTier tierKey tierDesc)
      | none => data.construct now
  | .manifest manifest =>
    match tierDefinitions.find? (fun tier => Text.strip (tier.2.2 manifest) = "") with
    | some (tierKey,tierDesc,_) => .error (missingTier tierKey tierDesc)
    | none => .ok manifest
  | .other typeName =>
    .error (incompleteTierManifestError ("Invalid manifest data type: " ++ typeName)
      [(.str "provided_type",.str typeName)])

end ReleaseManifestValidator

structure ReleaseRegistry where
  bundles : Dict String ReleaseManifest := .empty
  quarantineReasons : Dict String String := .empty

namespace ReleaseRegistry

def registerBundle (s : ReleaseRegistry) (manifestData : ManifestData) (now : UtcDateTime) :
    ReleaseRegistry × Except PyError ReleaseManifest :=
  match ReleaseManifestValidator.validate manifestData now with
  | .error fault => (s,.error fault)
  | .ok manifest => ({ s with bundles := s.bundles.set manifest.bundleId manifest },.ok manifest)

def getBundle (s : ReleaseRegistry) (bundleId : String) : Option ReleaseManifest := s.bundles.get? bundleId

def quarantineBundle (s : ReleaseRegistry) (bundleId reason : String) : ReleaseRegistry :=
  let bundles := match s.bundles.get? bundleId with
    | some bundle => s.bundles.set bundleId { bundle with status := "QUARANTINED" }
    | none => s.bundles
  ⟨bundles,s.quarantineReasons.set bundleId reason⟩

def isQuarantined (s : ReleaseRegistry) (bundleId : String) : Bool :=
  match s.bundles.get? bundleId with
  | some bundle => bundle.status = "QUARANTINED"
  | none => false

variable (s : ReleaseRegistry)

/-- A quarantined bundle is quarantined in the registry if it was registered, and no other bundle
changes. -/
theorem isQuarantined_quarantineBundle (bundleId reason other : String) :
    (s.quarantineBundle bundleId reason).isQuarantined other =
      if other = bundleId then (s.bundles.get? bundleId).isSome else s.isQuarantined other := by
  unfold isQuarantined quarantineBundle
  by_cases own : other = bundleId
  · subst own
    cases known : s.bundles.get? other with
    | none => simp [known]
    | some bundle => simp
  · cases s.bundles.get? bundleId with
    | none => simp [own]
    | some bundle => simp [own,Dict.get?_set_ne _ _ own]

theorem registerBundle_cases (manifestData : ManifestData) (now : UtcDateTime) :
    (∃ fault, ReleaseManifestValidator.validate manifestData now = .error fault ∧
      (s.registerBundle manifestData now).1 = s) ∨
    ∃ manifest, ReleaseManifestValidator.validate manifestData now = .ok manifest ∧
      (s.registerBundle manifestData now).1 = { s with bundles := s.bundles.set manifest.bundleId manifest } := by
  unfold registerBundle
  cases ReleaseManifestValidator.validate manifestData now with
  | error fault => exact .inl ⟨fault,rfl,rfl⟩
  | ok manifest => exact .inr ⟨manifest,rfl,rfl⟩

end ReleaseRegistry
end RevPilot.Operations
