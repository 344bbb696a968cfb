import RevPilot.Library.Separators
import RevPilot.ToolGateway.CredentialBroker

/-! For which tenant, provider and action a credential is accepted. The scope is one text
whose parts are found by their labels, and a provider or an action may spell a label. -/
namespace RevPilot.ToolGateway
open Library Shared Separators CredentialBroker

/-- The parts of the scope before the label of the action. -/
def scopeLead (tenantId : TenantId) (provider : String) : List Char :=
  "tenant:".toList ++ tenantId.value.toList ++ ":provider:".toList ++ provider.toList

theorem action_free : ':' ∉ "action".toList := by decide

theorem actionLabel : ":action:".toList = tag ':' "action".toList := by rfl

theorem tokenScope_toList (tenantId : TenantId) (provider actionType : String) :
    (tokenScope tenantId provider actionType).toList =
      scopeLead tenantId provider ++ tag ':' "action".toList ++ actionType.toList := by
  rw [← actionLabel]
  unfold tokenScope scopeLead
  rw [String.toList_append,String.toList_append,String.toList_append,String.toList_append,String.toList_append]

theorem tenant_prefix_iff (tenantId other : TenantId) (provider actionType : String) :
    Text.startsWith (tokenScope tenantId provider actionType) ("tenant:" ++ other.value ++ ":") = true ↔
      other = tenantId := by
  have shape : (tokenScope tenantId provider actionType).toList = "tenant:".toList ++ (tenantId.value.toList ++
      ':' :: ("provider:".toList ++ provider.toList ++ ":action:".toList ++ actionType.toList)) := by
    have label : ":provider:".toList = ':' :: "provider:".toList := by rfl
    simp only [tokenScope,String.toList_append,label,List.append_assoc,List.cons_append]
  unfold Text.startsWith
  rw [List.isPrefixOf_iff_prefix,shape]
  constructor
  · rintro ⟨rest,same⟩
    simp only [String.toList_append,List.append_assoc,List.append_cancel_left_eq] at same
    have texts := (head_unique (identifier_free other) (identifier_free tenantId) same).1
    obtain ⟨value,accepted⟩ := other
    obtain ⟨value',accepted'⟩ := tenantId
    obtain rfl := String.toList_injective texts
    rfl
  · rintro rfl
    exact ⟨"provider:".toList ++ provider.toList ++ ":action:".toList ++ actionType.toList,by
      simp [String.toList_append]⟩

theorem issued_limits {tenantId : TenantId} {provider actionType : String} {token : TokenReadings} {ttlSeconds : Int}
    {credential : EphemeralCredential}
    (issued : issueEphemeralToken tenantId provider actionType token ttlSeconds = .ok credential) :
    credential.scope = tokenScope tenantId provider actionType ∧ credential.targetProvider = provider := by
  unfold issueEphemeralToken at issued
  split at issued
  · cases issued
  · split at issued
    · cases issued
    · split at issued
      · cases issued
        exact ⟨rfl,rfl⟩
      · cases issued

/-- Before it expires, a credential is accepted for its own tenant and provider and for
every action that its scope ends with. -/
theorem accepts_iff {tenantId : TenantId} {provider actionType : String} {token : TokenReadings} {ttlSeconds : Int}
    {credential : EphemeralCredential} {asOf : UtcDateTime}
    (issued : issueEphemeralToken tenantId provider actionType token ttlSeconds = .ok credential)
    (fresh : asOf < credential.expiresAt) (otherTenant : TenantId) (otherProvider otherAction : String) :
    validateToken credential otherTenant otherProvider otherAction asOf = .ok () ↔
      otherTenant = tenantId ∧ otherProvider = provider ∧
        tag ':' "action".toList ++ otherAction.toList <:+
          scopeLead tenantId provider ++ tag ':' "action".toList ++ actionType.toList := by
  obtain ⟨scope,target⟩ := issued_limits issued
  have live : ¬ credential.expiresAt ≤ asOf := Int.not_le.mpr fresh
  have label : (":action:" ++ otherAction).toList = tag ':' "action".toList ++ otherAction.toList := by
    rw [String.toList_append,actionLabel]
  unfold validateToken
  rw [if_neg live,scope,target]
  constructor
  · intro accepted
    split at accepted
    next => cases accepted
    next tenant =>
      split at accepted
      next => cases accepted
      next known =>
        split at accepted
        next => cases accepted
        next action =>
          simp only [not_or,not_not] at known
          have starts : Text.startsWith (tokenScope tenantId provider actionType) ("tenant:" ++ otherTenant.value ++ ":") =
              true := by simpa using tenant
          have ends : Text.endsWith (tokenScope tenantId provider actionType) (":action:" ++ otherAction) = true := by
            simpa using action
          refine ⟨(tenant_prefix_iff tenantId otherTenant provider actionType).mp starts,known.1.symm,?_⟩
          rw [← label,← tokenScope_toList]
          exact List.isSuffixOf_iff_suffix.mp ends
  · rintro ⟨rfl,rfl,ends⟩
    have starts := (tenant_prefix_iff otherTenant otherTenant otherProvider actionType).mpr rfl
    have named : Text.contains (tokenScope otherTenant otherProvider actionType) (":provider:" ++ otherProvider ++ ":") =
        true := by
      have shape : tokenScope otherTenant otherProvider actionType = ("tenant:" ++ otherTenant.value) ++
          (":provider:" ++ otherProvider ++ ":") ++ ("action:" ++ actionType) := by
        simp only [tokenScope,String.append_assoc]
        rfl
      rw [shape]
      exact Text.contains_append _ _ _
    have suffix : Text.endsWith (tokenScope otherTenant otherProvider actionType) (":action:" ++ otherAction) = true := by
      unfold Text.endsWith
      rw [List.isSuffixOf_iff_suffix,label,tokenScope_toList]
      exact ends
    simp [starts,named,suffix]

/-- Before its own place the label can only stand around the provider. -/
theorem action_before_iff (tenantId : TenantId) (provider : String) :
    tag ':' "action".toList <:+: scopeLead tenantId provider ++ [':'] ↔
      tag ':' "action".toList <:+: ':' :: (provider.toList ++ [':']) := by
  have shape : scopeLead tenantId provider ++ [':'] =
      "tenant".toList ++ ':' :: (tenantId.value.toList ++ ':' :: ("provider".toList ++ ':' :: (provider.toList ++ [':']))) := by
    have first : "tenant:".toList = "tenant".toList ++ [':'] := by rfl
    have second : ":provider:".toList = ':' :: ("provider".toList ++ [':']) := by rfl
    unfold scopeLead
    rw [first,second]
    simp only [List.append_assoc,List.cons_append,List.nil_append]
  have short : ¬ tag ':' "action".toList <:+: "tenant".toList ++ [':'] := by decide +kernel
  have third : ¬ tag ':' "action".toList <:+: ':' :: ("provider".toList ++ [':']) := by decide +kernel
  have second : ¬ tag ':' "action".toList <:+: ':' :: (tenantId.value.toList ++ [':']) := by
    intro inside
    rcases tag_infix_field (identifier_free tenantId) inside with same | colon
    · have accepted := tenantId.accepted
      simp only [acceptsIdentifier,Bool.and_eq_true] at accepted
      have starts := accepted.2
      unfold Text.startsWith at starts
      rw [← same] at starts
      exact absurd starts (by decide +kernel)
    · exact absurd colon action_free
  have split (x y : List Char) := tag_infix_split (x := x) (y := y) action_free
  rw [shape,split,or_iff_right short,← List.cons_append,split,List.cons_append,or_iff_right second,← List.cons_append,
    split,List.cons_append,or_iff_right third]

/-- The label of the action stands in the text between two colons. -/
def spellsAction (text : String) : Bool := Text.contains text ":action:"

/-- A credential is confined to its own tenant, provider and action exactly when neither
the provider nor the action spells the label of the action. -/
theorem scope_confined_iff {tenantId : TenantId} {provider actionType : String} {token : TokenReadings}
    {ttlSeconds : Int} {credential : EphemeralCredential} {asOf : UtcDateTime}
    (issued : issueEphemeralToken tenantId provider actionType token ttlSeconds = .ok credential)
    (fresh : asOf < credential.expiresAt) :
    (∀ otherTenant otherProvider otherAction,
      validateToken credential otherTenant otherProvider otherAction asOf = .ok () ↔
        otherTenant = tenantId ∧ otherProvider = provider ∧ otherAction = actionType) ↔
    spellsAction (":" ++ provider ++ ":") = false ∧ spellsAction (":" ++ actionType) = false := by
  have around : spellsAction (":" ++ provider ++ ":") = false ↔
      ¬ tag ':' "action".toList <:+: scopeLead tenantId provider ++ [':'] := by
    unfold spellsAction Text.contains
    rw [decide_eq_false_iff_not,actionLabel,action_before_iff]
    simp only [String.toList_append]
    rfl
  have after : spellsAction (":" ++ actionType) = false ↔
      ¬ tag ':' "action".toList <:+: ':' :: actionType.toList := by
    unfold spellsAction Text.contains
    rw [decide_eq_false_iff_not,actionLabel,String.toList_append]
    rfl
  rw [around,after,← tail_unique_iff action_free]
  constructor
  · intro confined other ends
    have accepted := (accepts_iff issued fresh tenantId provider (String.ofList other)).mpr
      ⟨rfl,rfl,by simpa using ends⟩
    have same := ((confined tenantId provider (String.ofList other)).mp accepted).2.2
    rw [← same,String.toList_ofList]
  · intro unique otherTenant otherProvider otherAction
    rw [accepts_iff issued fresh]
    constructor
    · rintro ⟨tenant,named,ends⟩
      exact ⟨tenant,named,String.toList_injective (unique _ ends)⟩
    · rintro ⟨tenant,named,rfl⟩
      have ends : tag ':' "action".toList ++ otherAction.toList <:+
          scopeLead tenantId provider ++ (tag ':' "action".toList ++ otherAction.toList) := List.suffix_append _ _
      rw [← List.append_assoc] at ends
      exact ⟨tenant,named,ends⟩

section samples

def refundToken : TokenReadings := ⟨"00","00",⟨0⟩⟩

def acmeId : TenantId := ⟨"tnt_acme",Eq.refl true⟩

/-- A credential of tnt_acme for the mock provider and the action. -/
def issuedFor (actionType : String) : EphemeralCredential where
  tokenId := "tok_eph_00"
  targetProvider := "mock_logistics_v1"
  scope := tokenScope acmeId "mock_logistics_v1" actionType
  expiresAt := ⟨900000000⟩
  tokenSecret := "00"
  fieldsAccepted := ⟨by decide,by decide,by
    simp only [tokenScope,String.append_assoc]
    exact lead_ne_empty _ (by decide)⟩

theorem issuedFor_issued (actionType : String) :
    issueEphemeralToken acmeId "mock_logistics_v1" actionType refundToken = .ok (issuedFor actionType) := rfl

theorem refund_confined :
    ((∀ otherTenant otherProvider otherAction,
      validateToken (issuedFor "REFUND") otherTenant otherProvider otherAction ⟨0⟩ = .ok () ↔
        otherTenant = acmeId ∧ otherProvider = "mock_logistics_v1" ∧ otherAction = "REFUND") ↔
      spellsAction (":" ++ "mock_logistics_v1" ++ ":") = false ∧ spellsAction (":" ++ "REFUND") = false) ∧
    spellsAction (":" ++ "mock_logistics_v1" ++ ":") = false ∧ spellsAction (":" ++ "REFUND") = false :=
  ⟨scope_confined_iff (issuedFor_issued "REFUND") (by decide),by decide +kernel,by decide +kernel⟩

/-- A credential for one action is accepted for another one that its text ends with. -/
theorem refund_accepted_as_payout :
    ¬ ∀ tenantId otherTenant provider otherProvider actionType otherAction token credential asOf,
      issueEphemeralToken tenantId provider actionType token = .ok credential → asOf < credential.expiresAt →
        (validateToken credential otherTenant otherProvider otherAction asOf = .ok () ↔
          otherTenant = tenantId ∧ otherProvider = provider ∧ otherAction = actionType) := by
  intro confined
  have accepted : validateToken (issuedFor "REFUND:action:PAYOUT") acmeId "mock_logistics_v1" "PAYOUT" ⟨0⟩ = .ok () :=
    (accepts_iff (issuedFor_issued "REFUND:action:PAYOUT") (by decide) _ _ _).mpr
      ⟨rfl,rfl,scopeLead acmeId "mock_logistics_v1" ++ tag ':' "action".toList ++ "REFUND".toList,by decide +kernel⟩
  have same := (confined acmeId acmeId "mock_logistics_v1" "mock_logistics_v1" "REFUND:action:PAYOUT" "PAYOUT" refundToken
    (issuedFor "REFUND:action:PAYOUT") ⟨0⟩ (issuedFor_issued _) (by decide)).mp accepted
  exact absurd same.2.2 (by decide)

end samples
end RevPilot.ToolGateway
