import RevPilot.Library.Redaction
import RevPilot.ToolGateway.Scrub

/-! What the audit log keeps of the details of an event. A value under a sensitive
key is replaced whole before its kind is looked at, so nothing of it is left. -/
namespace RevPilot.Action
open Library Shared Redaction
open ToolGateway (hasBearer redactBearer)

def sensitiveAuditKeys : List String :=
  ["token","token_id","token_value","secret","api_key","password","authorization","credential","private_key","bearer"]

section scrub
variable (casing : Text.Casing)

/-- `any(s in k.lower() for s in SENSITIVE_AUDIT_KEYS)`; only a text has `lower`. -/
def isSensitiveAudit : PyKey → Except PyError Bool
  | .str key => .ok (sensitiveAuditKeys.any (fun s => Text.contains (casing.lower key) s))
  | _ => .error .attributeError

/-- The same substitution for a text that is a member, an item or the whole value. -/
def scrubAuditText (s : String) : String := if hasBearer s then redactBearer s else s

mutual
def scrubAuditDetails : PyValue → Except PyError PyValue
  | .dict members => do return .dict (← scrubAuditMembers members)
  | .list items => do return .list (← scrubAuditItems items)
  | .str s => .ok (.str (scrubAuditText s))
  | data => .ok data
def scrubAuditMembers : List (PyKey × PyValue) → Except PyError (List (PyKey × PyValue))
  | [] => .ok []
  | (key,value) :: members => do
    let scrubbed ← if ← isSensitiveAudit casing key then .ok (.str "[REDACTED]") else scrubAuditDetails value
    return (key,scrubbed) :: (← scrubAuditMembers members)
def scrubAuditItems : List PyValue → Except PyError (List PyValue)
  | [] => .ok []
  | item :: items => do
    let scrubbed ← scrubAuditDetails item
    return scrubbed :: (← scrubAuditItems items)
end

/-- The rule of the audit log. -/
def auditRules : Rules PyError where
  member key _ :=
    (isSensitiveAudit casing key).map (fun sensitive => if sensitive then some (.str "[REDACTED]") else none)
  text := scrubAuditText

mutual
theorem scrubAuditDetails_eq : (v : PyValue) → scrubAuditDetails casing v = scrub (auditRules casing) v
  | .none | .bool _ | .int _ | .float _ | .str _ | .tuple _ | .other _ _ => rfl
  | .list items => by rw [scrubAuditDetails,scrub,scrubAuditItems_eq items]
  | .dict members => by rw [scrubAuditDetails,scrub,scrubAuditMembers_eq members]
theorem scrubAuditMembers_eq : (members : List (PyKey × PyValue)) →
    scrubAuditMembers casing members = scrubMembers (auditRules casing) members
  | [] => rfl
  | (key,value) :: members => by
    have decided : (auditRules casing).member key value =
        (isSensitiveAudit casing key).map (fun sensitive => if sensitive then some (.str "[REDACTED]") else none) := rfl
    rw [scrubAuditMembers,scrubMembers,decided,scrubAuditDetails_eq value,scrubAuditMembers_eq members]
    cases isSensitiveAudit casing key with
    | error e => rfl
    | ok sensitive => cases sensitive <;> rfl
theorem scrubAuditItems_eq : (items : List PyValue) → scrubAuditItems casing items = scrubItems (auditRules casing) items
  | [] => rfl
  | item :: items => by rw [scrubAuditItems,scrubItems,scrubAuditDetails_eq item,scrubAuditItems_eq items]
end

def auditHidden : PyKey → Bool
  | .str key => sensitiveAuditKeys.any (fun s => Text.contains (casing.lower key) s)
  | _ => false

/-- Whatever stands under a sensitive key is as good as any other value. -/
def auditCheck (key : PyKey) (_ : PyValue) : Option Bool := if auditHidden casing key then some true else none

theorem auditCheck_some {key : PyKey} {value : PyValue} {passed : Bool}
    (checked : auditCheck casing key value = some passed) : auditHidden casing key = true ∧ passed = true := by
  unfold auditCheck at checked
  split at checked
  next sensitive => exact ⟨sensitive,(Option.some.inj checked).symm⟩
  next => cases checked

theorem audit_member (s : String) (value : PyValue) :
    (auditRules casing).member (.str s) value =
      .ok (if auditHidden casing (.str s) then some (.str "[REDACTED]") else none) := rfl

theorem audit_replaced {key : PyKey} (value : PyValue) (sensitive : auditHidden casing key = true) :
    (auditRules casing).member key value = .ok (some (.str "[REDACTED]")) := by
  cases key with
  | str key => rw [audit_member,if_pos sensitive]
  | int i => cases sensitive
  | bool b => cases sensitive
  | float x => cases sensitive
  | none => cases sensitive

theorem audit_searched {s : String} {value : PyValue} (unchecked : auditCheck casing (.str s) value = none) :
    (auditRules casing).member (.str s) value = .ok none := by
  unfold auditCheck at unchecked
  split at unchecked
  next => cases unchecked
  next other => rw [audit_member,if_neg other]

theorem auditRules_masks : Masks (auditRules casing) (auditCheck casing) (.str "[REDACTED]") where
  replaced key value checked := audit_replaced casing value (auditCheck_some casing checked).1
  searched _ _ unchecked := audit_searched casing unchecked
  exposed key value _ checked _ := absurd (auditCheck_some casing checked).2 (by simp)

theorem mark_no_bearer : hasBearer "[REDACTED]" = false := rfl

theorem scrubAuditText_no_bearer (s : String) : hasBearer (scrubAuditText s) = false := by
  unfold scrubAuditText
  split
  next => exact ToolGateway.hasBearer_redactBearer s
  next clean => simpa using clean

theorem auditRules_judges : Judges (auditRules casing) (auditCheck casing) (fun s => hasBearer s = false) where
  text := scrubAuditText_no_bearer
  judged key value passed checked := by
    obtain ⟨sensitive,rfl⟩ := auditCheck_some casing checked
    exact ⟨_,audit_replaced casing value sensitive,iff_of_true mark_no_bearer rfl⟩
  searched _ _ unchecked := audit_searched casing unchecked

theorem auditRules_decides : Decides (auditRules casing) := by
  intro key value
  cases checked : auditHidden casing (.str key) with
  | true => exact ⟨_,audit_replaced casing value checked⟩
  | false => exact ⟨_,audit_searched casing (by simp [auditCheck,checked])⟩

theorem auditRules_settles : Settles (auditRules casing) where
  text s := by
    change scrubAuditText (scrubAuditText s) = scrubAuditText s
    rw [scrubAuditText,if_neg (by simp [scrubAuditText_no_bearer])]
  again _ _ replaced decided := decided
  blind _ _ _ decided := decided

theorem scrubAuditDetails_sound {v : PyValue} (json : v.Native) :
    ∃ out, scrubAuditDetails casing v = .ok out ∧ scrubAuditDetails casing out = .ok out ∧
      (∀ w, SameOutside (auditHidden casing) v w → scrubAuditDetails casing w = .ok out) ∧
      Texts (fun s => hasBearer s = false) out := by
  have guarded : ∀ w, Guarded (auditCheck casing) w :=
    guarded_of_passing (fun key value checked => absurd (auditCheck_some casing checked).2 (by simp))
  have checked (key : PyKey) (value : PyValue) : (auditCheck casing key value).isSome = auditHidden casing key := by
    unfold auditCheck
    split <;> simp_all
  obtain ⟨out,ok⟩ := scrub_ok (auditRules_decides casing) v json
  simp only [scrubAuditDetails_eq]
  refine ⟨out,ok,scrub_scrub (auditRules_settles casing) v out ok,?_,?_⟩
  · intro w same
    rw [← scrub_eq (auditRules_masks casing) checked v json w same (guarded v) (guarded w)]
    exact ok
  · exact (texts_scrub_iff (auditRules_judges casing) v json out ok).mpr (guarded v)

end scrub

def tokenDetails : PyValue :=
  .dict [(.str "note",.str "sent Bearer abc.def"),(.str "headers",.list [.dict [(.str "X-Token",.int 7)]])]

theorem tokenDetails_scrubbed :
    ∃ out, scrubAuditDetails Text.asciiCasing tokenDetails = .ok out ∧
      scrubAuditDetails Text.asciiCasing out = .ok out ∧
      (∀ w, SameOutside (auditHidden Text.asciiCasing) tokenDetails w →
        scrubAuditDetails Text.asciiCasing w = .ok out) ∧
      Texts (fun s => hasBearer s = false) out := by
  have json : tokenDetails.Native := by
    simp [tokenDetails,PyValue.Native,PyValue.NativeMembers,PyValue.NativeItems]
  exact scrubAuditDetails_sound Text.asciiCasing json

end RevPilot.Action
