import RevPilot.Library.Redaction
import RevPilot.ToolGateway.Scrub

/-! What the gateway's scrubbing lets through. Objects and arrays are searched
whatever their key says, and a bearer text keeps what stands around the token, so a
value under a sensitive key is hidden only if it is neither. -/
namespace RevPilot.ToolGateway
open Library Shared Redaction

section rules
variable (casing : Text.Casing) (knownSecrets : List String)

/-- The rule of the gateway. -/
def gatewayRules : Rules PyError where
  member key value :=
    if isContainer value then .ok none
    else (isSensitive casing key).map (fun sensitive => if sensitive then some (redacted value) else none)
  text := scrubText knownSecrets

mutual
theorem scrubSecrets_eq : (v : PyValue) → scrubSecrets casing knownSecrets v = scrub (gatewayRules casing knownSecrets) v
  | .none | .bool _ | .int _ | .float _ | .str _ | .tuple _ | .other _ _ => rfl
  | .list items => by rw [scrubSecrets,scrub,scrubItems_eq items]
  | .dict members => by rw [scrubSecrets,scrub,scrubMembers_eq members]
theorem scrubMembers_eq : (members : List (PyKey × PyValue)) →
    ToolGateway.scrubMembers casing knownSecrets members =
      Redaction.scrubMembers (gatewayRules casing knownSecrets) members
  | [] => rfl
  | (key,value) :: members => by
    have decided : (gatewayRules casing knownSecrets).member key value =
        if isContainer value then .ok none
        else (isSensitive casing key).map (fun sensitive => if sensitive then some (redacted value) else none) := rfl
    rw [ToolGateway.scrubMembers,Redaction.scrubMembers,decided,scrubSecrets_eq value,scrubMembers_eq members]
    cases isContainer value with
    | true => rfl
    | false =>
      cases isSensitive casing key with
      | error e => rfl
      | ok sensitive => cases sensitive <;> rfl
theorem scrubItems_eq : (items : List PyValue) →
    ToolGateway.scrubItems casing knownSecrets items = Redaction.scrubItems (gatewayRules casing knownSecrets) items
  | [] => rfl
  | item :: items => by
    rw [ToolGateway.scrubItems,Redaction.scrubItems,scrubSecrets_eq item,scrubItems_eq items]
end

def hiddenKey : PyKey → Bool
  | .str key => sensitiveKeys.any (fun sens => Text.contains (casing.lower key) sens)
  | _ => false

/-- Neither an object nor an array nor a text with a bearer token. -/
def isPlain : PyValue → Bool
  | .dict _ => false
  | .list _ => false
  | .str s => !hasBearer s
  | _ => true

def plainCheck (key : PyKey) (value : PyValue) : Option Bool :=
  if hiddenKey casing key then some (isPlain value) else none

/-- Every value under a sensitive key is plain. -/
def Covered : PyValue → Prop := Guarded (plainCheck casing)

theorem member_container {key : PyKey} {value : PyValue} (container : isContainer value = true) :
    (gatewayRules casing knownSecrets).member key value = .ok none := if_pos container

theorem member_leaf {value : PyValue} (leaf : isContainer value = false) (s : String) :
    (gatewayRules casing knownSecrets).member (.str s) value =
      .ok (if hiddenKey casing (.str s) then some (redacted value) else none) := by
  unfold gatewayRules
  dsimp only
  rw [if_neg (by simp [leaf])]
  rfl

theorem member_searched {s : String} (value : PyValue) (other : hiddenKey casing (.str s) = false) :
    (gatewayRules casing knownSecrets).member (.str s) value = .ok none := by
  cases kind : isContainer value with
  | true => exact member_container casing knownSecrets kind
  | false => rw [member_leaf casing knownSecrets kind,other]; rfl

theorem gatewayRules_decides : Decides (gatewayRules casing knownSecrets) := by
  intro key value
  cases kind : isContainer value with
  | true => exact ⟨_,member_container casing knownSecrets kind⟩
  | false => exact ⟨_,member_leaf casing knownSecrets kind key⟩

/-- A redacted bearer text is longer than the mark. -/
theorem redactBearer_ne_mark {s : String} (bearer : hasBearer s = true) : redactBearer s ≠ "[REDACTED]" := by
  intro equal
  rcases substitute_split s.toList.length s.toList with same | ⟨front,word,rest,back,_,_,replaced⟩
  · have unchanged : redactBearer s = s := by rw [redactBearer,same,String.ofList_toList]
    have clean := hasBearer_redactBearer s
    rw [unchanged,bearer] at clean
    cases clean
  · have lengths := congrArg (fun t : String => t.toList.length) equal
    simp only [redactBearer,replaced,String.toList_ofList,List.length_append] at lengths
    have long : "Bearer [REDACTED]".toList.length = 17 := rfl
    have short : "[REDACTED]".toList.length = 10 := rfl
    omega

theorem redacted_plain {value : PyValue} (plain : isPlain value = true) :
    isContainer value = false ∧ redacted value = .str "[REDACTED]" := by
  cases value with
  | str s => simp_all [isPlain,isContainer,redacted]
  | dict | list => cases plain
  | none | bool | int | float | tuple | other => exact ⟨rfl,rfl⟩

theorem plainCheck_some {key : PyKey} {value : PyValue} {passed : Bool}
    (checked : plainCheck casing key value = some passed) :
    ∃ s, key = .str s ∧ hiddenKey casing (.str s) = true ∧ isPlain value = passed := by
  unfold plainCheck at checked
  split at checked
  next sensitive =>
    cases key with
    | str s => exact ⟨s,rfl,sensitive,Option.some.inj checked⟩
    | int | bool | float | none => cases sensitive
  next => cases checked

theorem plainCheck_none {s : String} {value : PyValue} (unchecked : plainCheck casing (.str s) value = none) :
    hiddenKey casing (.str s) = false := by
  unfold plainCheck at unchecked
  split at unchecked
  next => cases unchecked
  next other => simpa using other

/-- A container stays one. -/
theorem scrub_container {value out : PyValue} (container : isContainer value = true)
    (ok : scrub (gatewayRules casing knownSecrets) value = .ok out) : isContainer out = true := by
  cases value with
  | dict members =>
    obtain ⟨_,_,rfl⟩ := scrub_dict_cases _ ok
    rfl
  | list items =>
    obtain ⟨_,_,rfl⟩ := scrub_list_cases _ ok
    rfl
  | none | bool | int | float | str | tuple | other => cases container

theorem gatewayRules_masks : Masks (gatewayRules casing knownSecrets) (plainCheck casing) (.str "[REDACTED]") where
  replaced key value checked := by
    obtain ⟨s,rfl,sensitive,plain⟩ := plainCheck_some casing checked
    obtain ⟨leaf,mark⟩ := redacted_plain plain
    rw [member_leaf casing knownSecrets leaf,if_pos sensitive,mark]
  searched s value unchecked := member_searched casing knownSecrets value (plainCheck_none casing unchecked)
  exposed key value out checked ok := by
    obtain ⟨s,rfl,sensitive,plain⟩ := plainCheck_some casing checked
    cases kind : isContainer value with
    | true =>
      rw [slot_searched _ (member_container casing knownSecrets kind)] at ok
      have container := scrub_container casing knownSecrets kind ok
      rintro rfl
      cases container
    | false =>
      have decided := member_leaf casing knownSecrets kind s
      rw [if_pos sensitive] at decided
      rw [slot_replaced _ decided] at ok
      cases value with
      | str text =>
        have bearer : hasBearer text = true := by simpa [isPlain] using plain
        simp only [redacted,bearer,if_true,Except.ok.injEq] at ok
        rw [← ok]
        exact fun same => redactBearer_ne_mark bearer (PyValue.str.inj same)
      | dict | list => cases kind
      | none | bool | int | float | tuple | other => cases plain

end rules

section secrets
variable (casing : Text.Casing) (knownSecrets : List String)

/-- No known secret occurs in the text. -/
def Free (s : String) : Prop := ∀ secret ∈ knownSecrets, Text.contains s secret = false

/-- No secret agrees with the mark at an overlap, so none is empty either. -/
def Clear : Prop := ∀ secret ∈ knownSecrets, ¬ Text.Meets secret.toList "[REDACTED]".toList

/-- A text under a sensitive key with a bearer token must not hold a secret outside its tokens. -/
def shelterCheck (key : PyKey) (value : PyValue) : Option Bool :=
  if hiddenKey casing key && !isContainer value then
    match value with
    | .str s => some (!hasBearer s || knownSecrets.all (fun secret => !Text.contains (redactBearer s) secret))
    | _ => some true
  else none

def Sheltered : PyValue → Prop := Guarded (shelterCheck casing knownSecrets)

variable {knownSecrets}

theorem ne_empty_of_clear {secret : String} (apart : ¬ Text.Meets secret.toList "[REDACTED]".toList) : secret ≠ "" := by
  rintro rfl
  exact apart (.inr ⟨_,List.suffix_rfl,List.cons_ne_nil _ _,.inr List.nil_prefix⟩)

theorem mark_free (clear : Clear knownSecrets) : Free knownSecrets "[REDACTED]" := by
  intro secret known
  rw [Text.contains,decide_eq_false_iff_not,List.infix_iff_prefix_suffix]
  rintro ⟨tail,read,inside⟩
  have nonempty : tail ≠ [] := by
    rintro rfl
    exact ne_empty_of_clear (clear secret known) (String.toList_injective (List.prefix_nil.mp read))
  exact clear secret known (.inr ⟨tail,inside,nonempty,.inr read⟩)

/-- The loop over the known secrets takes each of them out and brings none back. -/
theorem replace_each_free (secrets : List String) (clear : Clear secrets) (val secret : String)
    (apart : ¬ Text.Meets secret.toList "[REDACTED]".toList) (gone : secret ∈ secrets ∨ Text.contains val secret = false) :
    Text.contains (secrets.foldl (fun val secret =>
      if secret ≠ "" ∧ Text.contains val secret then Text.replace val secret "[REDACTED]" else val) val) secret = false := by
  induction secrets generalizing val with
  | nil => simpa using gone
  | cons first secrets ih =>
    rw [List.foldl_cons]
    apply ih (fun other known => clear other (List.mem_cons_of_mem _ known))
    rcases gone with known | free
    · obtain rfl | later := List.mem_cons.mp known
      · right
        split
        next => exact Text.contains_replace_self (ne_empty_of_clear apart) apart
        next absent =>
          rw [not_and] at absent
          simpa using absent (ne_empty_of_clear apart)
      · exact .inl later
    · right
      split
      next => exact Text.contains_replace apart free
      next => exact free

theorem scrubText_free (clear : Clear knownSecrets) (s : String) : Free knownSecrets (scrubText knownSecrets s) :=
  fun secret known => replace_each_free knownSecrets clear _ secret (clear secret known) (.inl known)

theorem texts_redacted (clear : Clear knownSecrets) {value : PyValue} :
    Texts (Free knownSecrets) (redacted value) ↔
      match value with
      | .str s => hasBearer s = false ∨ Free knownSecrets (redactBearer s)
      | _ => True := by
  cases value with
  | str s =>
    cases bearer : hasBearer s with
    | true => simp [redacted,bearer,Texts]
    | false => simp [redacted,bearer,Texts,mark_free clear]
  | none | bool | int | float | list | tuple | dict | other => exact iff_of_true (mark_free clear) trivial

theorem gatewayRules_judges (clear : Clear knownSecrets) :
    Judges (gatewayRules casing knownSecrets) (shelterCheck casing knownSecrets) (Free knownSecrets) where
  text := scrubText_free clear
  judged key value passed checked := by
    unfold shelterCheck at checked
    split at checked
    next reached =>
      obtain ⟨sensitive,leaf⟩ := Bool.and_eq_true_iff.mp reached
      cases key with
      | str key =>
        have decided := member_leaf casing knownSecrets (by simpa using leaf) key
        rw [if_pos sensitive] at decided
        refine ⟨_,decided,?_⟩
        rw [texts_redacted clear]
        split at checked
        next s =>
          rw [← Option.some.inj checked]
          simp [Free]
        next => simp [← Option.some.inj checked]
      | int | bool | float | none => cases sensitive
    next => cases checked
  searched s value unchecked := by
    unfold shelterCheck at unchecked
    split at unchecked
    next => split at unchecked <;> cases unchecked
    next skipped =>
      cases kind : isContainer value with
      | true => exact member_container casing knownSecrets kind
      | false => exact member_searched casing knownSecrets value (by simpa [kind] using skipped)

end secrets

section noninterference
variable (casing : Text.Casing) (knownSecrets : List String)

end noninterference

section samples

/-- An order whose credential is a member of its own. -/
def credentialPayload (credential : PyValue) : PyValue :=
  .dict [(.str "order",.str "ord_7"),(.str "credential",credential)]

end samples
end RevPilot.ToolGateway
