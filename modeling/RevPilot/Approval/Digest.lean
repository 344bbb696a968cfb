import RevPilot.Approval.Domain

/-! Digests that seal approvals. SHA-256 (the hexadecimal digest of the UTF-8
text) is a parameter: no result here depends on more than its being a function,
and the results on binding ask that it is injective. -/
namespace RevPilot.Approval
open Library Shared JsonText

/-- Compact separators, `ensure_ascii` on. -/
def asciiCompact : Style := ⟨true,false⟩

/-- Default separators, `ensure_ascii` on. -/
def asciiSpaced : Style := ⟨true,true⟩

/-- Compact separators, `ensure_ascii=False`. -/
def plainCompact : Style := ⟨false,false⟩

def dictOf (members : List (String × PyValue)) : PyValue :=
  .dict (members.map (fun m => (.str m.1,m.2)))

def texts (items : List String) : PyValue := .list (items.map .str)

theorem toTrees_texts (items : List String) :
    PyValue.toTrees PyValue.noDefault (items.map .str) = some (items.map .str) := by
  induction items with
  | nil => rfl
  | cons item items ih =>
    simp only [List.map_cons,PyValue.toTrees,ih]
    rfl

/-- `sorted(texts)`. -/
def sortTexts (items : List String) : List String :=
  items.insertionSort (fun a b => a.toList ≤ b.toList)

variable (sha256 : String → String)

def digestOf (style : Style) (value : PyValue) : Except PyError String :=
  match value.dumps style PyValue.noDefault with
  | some text => .ok (sha256 text)
  | none => .error .typeError

namespace ApprovalDigestHasher

def canonical (actionType : String) (targetEntities : List String) (payload : Payload)
    (costUsd : Decimal) : PyValue :=
  dictOf [("action_type",.str (Text.strip actionType)),("cost_usd",.str costUsd.toText),
    ("payload",payload.value),("target_entities",texts (sortTexts targetEntities))]

def computePayloadDigest (actionType : String) (targetEntities : List String) (payload : Payload)
    (costUsd : Decimal) : Except PyError String :=
  digestOf sha256 asciiCompact (canonical actionType targetEntities payload costUsd)

/-- The argument of `compute_policy_digest`: a text, a `dict` or `list`, or any
other object by its `str`. -/
inductive PolicyRules : Type
  | text (s : String)
  | structured (value : PyValue)
  | other (text : String)

def computePolicyDigest : PolicyRules → Except PyError String
  | .text s => digestOf sha256 asciiSpaced (dictOf [("policy",.str (Text.strip s))])
  | .structured value => digestOf sha256 asciiCompact value
  | .other text => digestOf sha256 asciiSpaced (dictOf [("policy",.str text)])

end ApprovalDigestHasher

structure ApprovalArtifact where
  tenantId : String
  actionType : String
  targetEntities : List String
  payload : Payload
  policyVersion : String
  requiredTier : String
  expiresAt : String
  createdBy : String

/-- `dataclasses.asdict`. -/
def ApprovalArtifact.asdict (artifact : ApprovalArtifact) : PyValue :=
  dictOf [("tenant_id",.str artifact.tenantId),("action_type",.str artifact.actionType),
    ("target_entities",texts artifact.targetEntities),("payload",artifact.payload.value),
    ("policy_version",.str artifact.policyVersion),("required_tier",.str artifact.requiredTier),
    ("expires_at",.str artifact.expiresAt),("created_by",.str artifact.createdBy)]

def computeApprovalDigest (artifact : ApprovalArtifact) : Except PyError String :=
  digestOf sha256 plainCompact artifact.asdict

/-- `hmac.compare_digest` on two texts. -/
def compareDigest (a b : String) : Except PyError Bool :=
  if Text.isAscii a && Text.isAscii b then .ok (a == b) else .error .typeError

/-- Against an ASCII text the comparison succeeds on that text only. -/
theorem compareDigest_true {a b : String} (ascii : Text.isAscii b = true) : compareDigest a b = .ok true ↔ a = b := by
  unfold compareDigest
  rw [ascii,Bool.and_true]
  constructor
  · intro accepted
    split at accepted
    · simpa using accepted
    · cases accepted
  · rintro rfl
    rw [ascii,if_pos rfl,beq_self_eq_true]

def verifyApprovalDigest (artifact : ApprovalArtifact) (expectedDigest : String) :
    Except PyError Bool := do
  let computed ← computeApprovalDigest sha256 artifact
  compareDigest computed expectedDigest

end RevPilot.Approval
