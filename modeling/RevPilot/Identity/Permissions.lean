import RevPilot.Shared.Errors
import Mathlib.Order.UpperLower.Closure
import RevPilot.Shared.Identifiers

/-! Permissions `resource:action` with wildcards. Matching is a preorder, and what
a list of granted permissions authorises is the lower closure of the list. -/
namespace RevPilot.Identity
open Library Shared

/-- The characters of `_IDENTIFIER_PATTERN`. -/
def isPermissionChar (c : Char) : Bool := c.isAlphanum || c == '_' || c == '-' || c == '*'

/-- `_IDENTIFIER_PATTERN.match(s)`; the `$` also matches in front of a last line feed. -/
def matchesIdentifierPattern (s : String) : Bool :=
  let cs := s.toList
  let body := if cs.getLast? = some '\n' then cs.dropLast else cs
  body != [] && body.all isPermissionChar

/-- A component that `__post_init__` lets pass, after stripping and lowering. -/
def isComponent (s : String) : Bool := s != "" && !s.toList.contains ':' && matchesIdentifierPattern s

structure Permission where
  resource : String
  action : String
  resourceAccepted : isComponent resource = true
  actionAccepted : isComponent action = true
  deriving DecidableEq

namespace Permission

/-- `str(permission)`. -/
def text (p : Permission) : String := p.resource ++ ":" ++ p.action

def «matches» (granted required : Permission) : Bool :=
  if granted.resource = "*" then granted.action = "*" || granted.action = required.action
  else if granted.resource = required.resource then granted.action = "*" || granted.action = required.action
  else false

variable (casing : Text.Casing)

def make (resource action : String) : Except PyError Permission :=
  let resClean := casing.lower (Text.strip resource)
  let actClean := casing.lower (Text.strip action)
  if resClean = "" then .error (validationError "Permission resource cannot be empty or whitespace-only")
  else if actClean = "" then .error (validationError "Permission action cannot be empty or whitespace-only")
  else if resClean.toList.contains ':' ∨ actClean.toList.contains ':' then
    .error (validationError "Permission resource and action must not contain colon character")
  else if resourceAccepted : isComponent resClean = true then
    if actionAccepted : isComponent actClean = true then .ok ⟨resClean,actClean,resourceAccepted,actionAccepted⟩
    else .error (validationError s!"Permission action contains invalid characters: '{action}'")
  else .error (validationError s!"Permission resource contains invalid characters: '{resource}'")

/-- The parts around the only colon of a text. -/
def splitColon (cs : List Char) : List Char × List Char :=
  (cs.takeWhile (· != ':'),(cs.dropWhile (· != ':')).drop 1)

def fromString (val : String) : Except PyError Permission :=
  let clean := Text.strip val
  if clean = "" then .error (validationError "Permission string cannot be empty or whitespace-only")
  else if clean.toList.count ':' ≠ 1 then
    .error (validationError
      s!"Permission string must contain exactly one colon separating 'resource:action', got '{val}'")
  else
    let parts := splitColon clean.toList
    let resource := Text.strip (String.ofList parts.1)
    let action := Text.strip (String.ofList parts.2)
    if resource = "" then .error (validationError "Permission string resource component cannot be empty")
    else if action = "" then .error (validationError "Permission string action component cannot be empty")
    else make casing resource action

end Permission

private theorem ascii_cases {P : Char → Prop} (small : ∀ n : Fin 128, P (Char.ofNat n)) (c : Char)
    (ascii : c.toNat < 128) : P c := by
  have known := small ⟨c.toNat,ascii⟩
  rwa [show Char.ofNat (⟨c.toNat,ascii⟩ : Fin 128).val = c from Char.ofNat_toNat c] at known

private theorem plain_cases {P : Char → Prop} (small : ∀ n : Fin 128, P (Char.ofNat n)) (kelvin : P '\u212a')
    (c : Char) (plain : Text.isPlain c = true) : P c := by
  simp only [Text.isPlain,Bool.or_eq_true,decide_eq_true_eq,beq_iff_eq] at plain
  rcases plain with ascii | rfl
  · exact ascii_cases small c ascii
  · exact kelvin

private theorem permissionChar_ascii (c : Char) (known : isPermissionChar c = true) : c.toNat < 128 := by
  simp only [isPermissionChar,Bool.or_eq_true,beq_iff_eq] at known
  rcases known with ((letterOrDigit | rfl) | rfl) | rfl
  · have ranges := Text.isAlphanum_cases c letterOrDigit
    omega
  all_goals decide

private theorem lower_permissionChar (c : Char) (known : isPermissionChar c = true) :
    isPermissionChar c.toLower = true :=
  ascii_cases (P := fun c => isPermissionChar c = true → isPermissionChar c.toLower = true)
    (by decide +kernel) c (permissionChar_ascii c known) known

private theorem solid_of_lower (c : Char) (plain : Text.isPlain c = true)
    (lowered : isPermissionChar (Text.lowerPlain c) = true) : Text.isSpace c = false ∧ c ≠ ':' :=
  plain_cases (P := fun c => isPermissionChar (Text.lowerPlain c) = true → Text.isSpace c = false ∧ c ≠ ':')
    (by decide +kernel) (by decide +kernel) c plain lowered

private theorem break_of_lower (c : Char) (plain : Text.isPlain c = true) (lowered : Text.lowerPlain c = '\n') :
    Text.isSpace c = true ∧ c ≠ ':' :=
  plain_cases (P := fun c => Text.lowerPlain c = '\n' → Text.isSpace c = true ∧ c ≠ ':')
    (by decide +kernel) (by decide +kernel) c plain lowered

private theorem colon_of_lower (c : Char) (plain : Text.isPlain c = true) (lowered : Text.lowerPlain c = ':') :
    c = ':' :=
  plain_cases (P := fun c => Text.lowerPlain c = ':' → c = ':') (by decide +kernel) (by decide +kernel) c plain lowered

private theorem component_chars {s : String} (accepted : isComponent s = true) :
    ∃ body tail, s.toList = body ++ tail ∧ body ≠ [] ∧ (∀ c ∈ body, isPermissionChar c = true) ∧
      ∀ c ∈ tail, c = '\n' := by
  simp only [isComponent,matchesIdentifierPattern,Bool.and_eq_true,bne_iff_ne] at accepted
  obtain ⟨_,filled,known⟩ := accepted
  split at filled
  next last =>
    rw [if_pos last] at known
    obtain ⟨init,whole⟩ := List.getLast?_eq_some_iff.mp last
    refine ⟨init,['\n'],whole,?_,?_,by simp⟩
    · simpa [whole] using filled
    · simpa [whole] using known
  next other =>
    rw [if_neg other] at known
    exact ⟨s.toList,[],by simp,filled,List.all_eq_true.mp known,by simp⟩

private theorem ofList_filled {cs : List Char} (filled : cs ≠ []) : String.ofList cs ≠ "" := by
  intro empty
  exact filled (by simpa using congrArg String.toList empty)

private theorem component_of_chars (body : List Char) (filled : body ≠ [])
    (known : ∀ c ∈ body, isPermissionChar c = true) : isComponent (String.ofList body) = true := by
  have clear (c : Char) (foreign : isPermissionChar c = false) : c ∉ body := by
    intro inside
    simp [known c inside] at foreign
  have last : body.getLast? ≠ some '\n' := by
    intro final
    exact clear '\n' (by decide) (List.mem_of_getLast? final)
  simp only [isComponent,matchesIdentifierPattern,String.toList_ofList,if_neg last]
  simpa [ofList_filled filled,filled,clear ':' (by decide)] using known

/-- What lowers to a component is a component with at most white space behind it. -/
private theorem lowered_component {s : String} (accepted : isComponent s = true) (xs : List Char)
    (plain : ∀ c ∈ xs, Text.isPlain c = true)
    (same : xs.map Text.lowerPlain = s.toList.map Char.toLower) :
    ':' ∉ xs ∧ ∃ body, Text.stripChars xs = body ∧ body ≠ [] ∧ Text.stripChars body = body ∧
      (∀ c ∈ body, Text.isPlain c = true) ∧ isComponent (String.ofList (body.map Text.lowerPlain)) = true := by
  obtain ⟨kept,tail,whole,filled,known,breaks⟩ := component_chars accepted
  rw [whole,List.map_append,List.map_eq_append_iff] at same
  obtain ⟨body,blank,rfl,bodySame,blankSame⟩ := same
  have lowered : ∀ c ∈ body, isPermissionChar (Text.lowerPlain c) = true := by
    intro c inside
    have image : Text.lowerPlain c ∈ kept.map Char.toLower := bodySame ▸ List.mem_map_of_mem inside
    obtain ⟨d,source,image⟩ := List.mem_map.mp image
    rw [← image]
    exact lower_permissionChar d (known d source)
  have solid : ∀ c ∈ body, Text.isSpace c = false ∧ c ≠ ':' := by
    intro c inside
    exact solid_of_lower c (plain c (List.mem_append_left _ inside)) (lowered c inside)
  have empty : ∀ c ∈ blank, Text.isSpace c = true ∧ c ≠ ':' := by
    intro c inside
    have image : Text.lowerPlain c ∈ tail.map Char.toLower := blankSame ▸ List.mem_map_of_mem inside
    obtain ⟨d,source,image⟩ := List.mem_map.mp image
    refine break_of_lower c (plain c (List.mem_append_right _ inside)) ?_
    rw [← image,breaks d source]
    rfl
  have nonempty : body ≠ [] := by
    rintro rfl
    exact filled (List.map_eq_nil_iff.mp bodySame.symm)
  refine ⟨?_,body,?_,nonempty,?_,?_,?_⟩
  · intro inside
    rcases List.mem_append.mp inside with front | back
    · exact (solid _ front).2 rfl
    · exact (empty _ back).2 rfl
  · exact Text.stripChars_append body blank (fun c inside => (solid c inside).1) (fun c inside => (empty c inside).1)
  · have whole := Text.stripChars_append body [] (fun c inside => (solid c inside).1) (by simp)
    rwa [List.append_nil] at whole
  · intro c inside
    exact plain c (List.mem_append_left _ inside)
  · apply component_of_chars
    · simpa using nonempty
    · intro c inside
      obtain ⟨d,source,rfl⟩ := List.mem_map.mp inside
      exact lowered d source

private theorem text_ascii (p : Permission) : Text.isAscii p.text = true := by
  have component {s : String} (accepted : isComponent s = true) : s.toList.all (fun c => c.toNat < 128) = true := by
    obtain ⟨body,tail,whole,_,known,breaks⟩ := component_chars accepted
    simp only [whole,List.all_append,Bool.and_eq_true,List.all_eq_true,decide_eq_true_eq]
    constructor
    · intro c inside
      exact permissionChar_ascii c (known c inside)
    · intro c inside
      rw [breaks c inside]
      decide
  simp [Text.isAscii,Permission.text,component p.resourceAccepted,component p.actionAccepted]

private theorem splitColon_at {front back : List Char} (clear : ':' ∉ front) :
    Permission.splitColon (front ++ ':' :: back) = (front,back) := by
  have before : ∀ c ∈ front, (c != ':') = true := by
    intro c inside
    rw [bne_iff_ne]
    rintro rfl
    exact clear inside
  simp [Permission.splitColon,List.takeWhile_append_of_pos before,List.dropWhile_append_of_pos before]

private theorem make_component (casing : Text.UnicodeCasing) {resource action : List Char}
    (resourceSolid : Text.stripChars resource = resource) (actionSolid : Text.stripChars action = action)
    (resourcePlain : ∀ c ∈ resource, Text.isPlain c = true) (actionPlain : ∀ c ∈ action, Text.isPlain c = true)
    (resourceAccepted : isComponent (String.ofList (resource.map Text.lowerPlain)) = true)
    (actionAccepted : isComponent (String.ofList (action.map Text.lowerPlain)) = true) :
    ∃ p, Permission.make casing.toCasing (String.ofList resource) (String.ofList action) = .ok p := by
  have lowered (cs : List Char) (solid : Text.stripChars cs = cs) (plain : ∀ c ∈ cs, Text.isPlain c = true) :
      casing.lower (Text.strip (String.ofList cs)) = String.ofList (cs.map Text.lowerPlain) := by
    rw [Text.strip,String.toList_ofList,solid,casing.lower_plain _ (by simpa using plain),String.toList_ofList]
  have parts {s : String} (accepted : isComponent s = true) : s ≠ "" ∧ s.toList.contains ':' = false := by
    simp only [isComponent,Bool.and_eq_true,bne_iff_ne,Bool.not_eq_true'] at accepted
    exact accepted.1
  simp only [Permission.make,lowered resource resourceSolid resourcePlain,lowered action actionSolid actionPlain]
  rw [if_neg (parts resourceAccepted).1,if_neg (parts actionAccepted).1,
    if_neg (by simp only [(parts resourceAccepted).2,(parts actionAccepted).2]; simp),dif_pos resourceAccepted,
    dif_pos actionAccepted]
  exact ⟨_,rfl⟩

/-- A text with the lower case of a permission's own text is parsed. -/
theorem fromString_of_lower (casing : Text.UnicodeCasing) {val : String} {p : Permission}
    (same : casing.lower (Text.strip val) = casing.lower p.text) :
    ∃ q, Permission.fromString casing.toCasing val = .ok q := by
  have lowered := casing.lower_ascii p.text (text_ascii p)
  have ascii : Text.isAscii (casing.lower (Text.strip val)) = true := by
    rw [same,lowered]
    simp only [Text.isAscii,String.toList_ofList,List.all_map,List.all_eq_true,Function.comp_apply,decide_eq_true_eq]
    intro c inside
    apply ascii_cases (P := fun c => c.toLower.toNat < 128) (by decide +kernel)
    simpa using List.all_eq_true.mp (text_ascii p) c inside
  have plain : ∀ c ∈ (Text.strip val).toList, Text.isPlain c = true := by
    simpa using casing.plain_of_lower _ ascii
  have chars : (Text.strip val).toList.map Text.lowerPlain = p.text.toList.map Char.toLower := by
    rw [casing.lower_plain _ (by simpa using plain),lowered] at same
    exact String.ofList_injective same
  simp only [Permission.text,String.toList_append,List.map_append,List.append_assoc] at chars
  obtain ⟨front,rest,whole,frontSame,restSame⟩ := List.map_eq_append_iff.mp chars
  obtain ⟨middle,back,rfl,middleSame,backSame⟩ := List.map_eq_append_iff.mp restSame
  obtain ⟨c,rfl,colon⟩ : ∃ c, middle = [c] ∧ Text.lowerPlain c = ':' := by
    simpa using middleSame
  obtain rfl := colon_of_lower c (plain c (by simp [whole])) colon
  obtain ⟨frontClear,resource,frontStrip,resourceFilled,resourceSolid,resourcePlain,resourceAccepted⟩ :=
    lowered_component p.resourceAccepted front (fun c inside => plain c (by simp [whole,inside])) frontSame
  obtain ⟨backClear,action,backStrip,actionFilled,actionSolid,actionPlain,actionAccepted⟩ :=
    lowered_component p.actionAccepted back (fun c inside => plain c (by simp [whole,inside])) backSame
  have made := make_component casing resourceSolid actionSolid resourcePlain actionPlain resourceAccepted actionAccepted
  have clean : Text.strip val ≠ "" := by
    intro empty
    simp [empty] at whole
  have once : (Text.strip val).toList.count ':' = 1 := by
    simp [whole,List.count_eq_zero_of_not_mem frontClear,List.count_eq_zero_of_not_mem backClear]
  have parts : Permission.splitColon (Text.strip val).toList = (front,back) := by
    rw [whole,List.singleton_append,splitColon_at frontClear]
  have stripped {cs body : List Char} (same : Text.stripChars cs = body) :
      Text.strip (String.ofList cs) = String.ofList body := by
    rw [Text.strip,String.toList_ofList,same]
  simp only [Permission.fromString,parts,stripped frontStrip,stripped backStrip]
  rw [if_neg clean,if_neg (by simp [once]),if_neg (ofList_filled resourceFilled),
    if_neg (ofList_filled actionFilled)]
  exact made

/-- A granted permission is above everything it matches. -/
instance : Preorder Permission where
  le required granted := granted.matches required = true
  le_refl p := by simp [Permission.matches]
  le_trans low middle high below above := by
    simp only [Permission.matches] at below above ⊢
    grind

theorem le_iff_matches {required granted : Permission} : required ≤ granted ↔ granted.matches required = true :=
  Iff.rfl

/-- Everything that a list of granted permissions authorises. -/
def authority (granted : List Permission) : LowerSet Permission := lowerClosure {p | p ∈ granted}

theorem mem_authority {granted : List Permission} {required : Permission} :
    required ∈ authority granted ↔ granted.any (·.matches required) = true := by
  simp only [authority,mem_lowerClosure,Set.mem_ofPred_eq,List.any_eq_true,le_iff_matches]

/-- What is granted within an authority authorises nothing outside it. -/
theorem authority_le {inner outer : List Permission} (within : ∀ p ∈ inner, p ∈ authority outer) :
    authority inner ≤ authority outer := lowerClosure_min within (authority outer).lower

end RevPilot.Identity

/-! Authenticated principals and the canonical roles. A principal that is not a
system actor carries the proof that it has a tenant. -/
namespace RevPilot.Identity
open Library Shared

inductive PrincipalType : Type
  | user | serviceAccount | agent | system
  deriving DecidableEq

/-- An instance of `PrincipalId` or of its subclass `ServiceAccountId`. -/
inductive ActorId : Type
  | principal (id : PrincipalId)
  | serviceAccount (id : EntityId "svc_")
  deriving DecidableEq

structure Principal where
  id : ActorId
  type : PrincipalType
  tenantId : Option TenantId
  roles : List String := []
  permissions : List String := []
  isActive : Bool := true
  tenantBound : type = .system ∨ tenantId ≠ none

structure Role where
  name : String
  permissions : List Permission

def Role.hasPermission (role : Role) (permission : Permission) : Bool :=
  role.permissions.any (·.matches permission)

namespace StandardRoles

/-- `Permission(resource, action)` of two texts that the constructor leaves as they are. -/
def permission (resource action : String) (resourceAccepted : isComponent resource = true := by exact Eq.refl true)
    (actionAccepted : isComponent action = true := by exact Eq.refl true) : Permission :=
  ⟨resource,action,resourceAccepted,actionAccepted⟩

def platformAdmin : Role := ⟨"platform_admin",[permission "*" "*"]⟩

def tenantAdmin : Role := ⟨"tenant_admin",[permission "tenant" "manage",permission "user" "manage",
  permission "investigation" "*",permission "evidence" "*",permission "audit" "read",permission "policy" "read"]⟩

def operator : Role := ⟨"operator",[permission "investigation" "create",permission "investigation" "read",
  permission "evidence" "read",permission "tool" "invoke",permission "approval" "request"]⟩

def analyst : Role := ⟨"analyst",[permission "investigation" "read",permission "evidence" "read",
  permission "analytics" "read",permission "audit" "read"]⟩

def auditor : Role := ⟨"auditor",[permission "audit" "read",permission "compliance" "read",
  permission "investigation" "read",permission "evidence" "read"]⟩

def agentDelegate : Role := ⟨"agent_delegate",[permission "investigation" "read",permission "evidence" "read",
  permission "tool" "invoke"]⟩

def registry : List (String × Role) :=
  [("platform_admin",platformAdmin),("tenant_admin",tenantAdmin),("operator",operator),("analyst",analyst),
    ("auditor",auditor),("agent_delegate",agentDelegate)]

def getRole (casing : Text.Casing) (name : String) : Except PyError Role :=
  let key := casing.lower (Text.strip name)
  if key = "" then .error (validationError "Role name cannot be empty or whitespace-only")
  else
    match registry.lookup key with
    | some role => .ok role
    | none => .error (validationError (s!"Unknown standard role: '{name}'. Canonical roles are: " ++
        "agent_delegate, analyst, auditor, operator, platform_admin, tenant_admin"))

end StandardRoles
end RevPilot.Identity
