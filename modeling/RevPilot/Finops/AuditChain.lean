import RevPilot.Approval.Digest
import RevPilot.Library.JsonCut
import RevPilot.Library.Separators
import RevPilot.Shared.IsoFormat

/-! The audit log's hash chain: every record is hashed together with the hash of the one
before it, and the verification recomputes all of them. -/
namespace RevPilot.Finops
open Library Shared Approval

structure AuditRecord where
  eventId : String
  occurredAt : UtcDateTime
  eventType : String
  tenantId : Option TenantId
  actorId : PrincipalId
  action : String
  details : Payload
  previousEventHash : String
  eventHash : String
  instant : occurredAt.InRange

namespace AuditHashChainService

/-- `tenant_id.value if tenant_id else "global"`. -/
def tenantText : Option TenantId → String
  | some tenantId => tenantId.value
  | none => "global"

/-- The texts before the type of the event. -/
def headerText (eventId : String) (occurredAt : UtcDateTime) (tenantId : Option TenantId) (actorId : PrincipalId) :
    String :=
  eventId ++ ":" ++ occurredAt.isoformat ++ ":" ++ tenantText tenantId ++ ":" ++ actorId.value

/-- What is hashed of a record; details that are not JSON are a `TypeError`. -/
def rawToHash (rec : AuditRecord) : Except PyError String :=
  match rec.details.value.dumps asciiSpaced PyValue.noDefault with
  | some detailsStr =>
    .ok (headerText rec.eventId rec.occurredAt rec.tenantId rec.actorId ++ ":" ++ rec.eventType ++ ":" ++ rec.action ++
      ":" ++ detailsStr ++ ":" ++ rec.previousEventHash)
  | none => .error .typeError

def genesis : String := String.ofList (List.replicate 64 '0')

/-- The hash of the last record. -/
def lastHash (start : String) (chain : List AuditRecord) : String := chain.foldl (fun _ rec => rec.eventHash) start

section chain
variable (sha256 : String → String)

/-- The arguments of `append_event`, with the identifier and the instant it makes up. -/
structure AppendRequest where
  tenantId : Option TenantId
  actorId : PrincipalId
  eventType : String
  action : String
  details : Payload
  eventId : Option String := none
  occurredAt : Option UtcDateTime := none
  madeId : String
  now : UtcDateTime
  instant : (occurredAt.getD now).InRange

/-- The record of a request before its hash is known. -/
def draft (chain : List AuditRecord) (req : AppendRequest) : AuditRecord where
  eventId :=
    match req.eventId with
    | some given => if given = "" then req.madeId else given
    | none => req.madeId
  occurredAt := req.occurredAt.getD req.now
  eventType := req.eventType
  tenantId := req.tenantId
  actorId := req.actorId
  action := req.action
  details := req.details
  previousEventHash := lastHash genesis chain
  eventHash := ""
  instant := req.instant

def appendEvent (chain : List AuditRecord) (req : AppendRequest) : Except PyError (List AuditRecord) :=
  match rawToHash (draft chain req) with
  | .ok raw => .ok (chain ++ [{ draft chain req with eventHash := sha256 raw }])
  | .error raised => .error raised

def verifyFrom (expectedPrev : String) (idx : Nat) : List AuditRecord → Except PyError (Bool × Option String)
  | [] => .ok (true,none)
  | rec :: chain =>
    if rec.previousEventHash ≠ expectedPrev then
      .ok (false,some (s!"Broken hash chain at index {idx} (event '{rec.eventId}'): " ++
        s!"expected previous_hash '{expectedPrev}', got '{rec.previousEventHash}'"))
    else
      match rawToHash rec with
      | .error raised => .error raised
      | .ok raw =>
        if sha256 raw ≠ rec.eventHash then
          .ok (false,some (s!"Tamper detected at index {idx} (event '{rec.eventId}'): " ++
            s!"recomputed hash '{sha256 raw}' != stored event_hash '{rec.eventHash}'"))
        else verifyFrom rec.eventHash (idx + 1) chain

def verifyChainIntegrity (chain : List AuditRecord) : Except PyError (Bool × Option String) :=
  verifyFrom sha256 genesis 0 chain

/-- The chain verifies. -/
def Accepts (chain : List AuditRecord) : Prop := verifyChainIntegrity sha256 chain = .ok (true,none)

/-- The record's hash is that of its own text. -/
def Sealed (rec : AuditRecord) : Prop := ∃ raw, rawToHash rec = .ok raw ∧ sha256 raw = rec.eventHash

/-- Every record is sealed and names the hash before it. -/
def Linked : String → List AuditRecord → Prop
  | _, [] => True
  | start, rec :: chain => rec.previousEventHash = start ∧ Sealed sha256 rec ∧ Linked rec.eventHash chain

variable {sha256}

theorem verifyFrom_iff (start : String) (idx : Nat) (chain : List AuditRecord) :
    verifyFrom sha256 start idx chain = .ok (true,none) ↔ Linked sha256 start chain := by
  induction chain generalizing start idx with
  | nil => simp [verifyFrom,Linked]
  | cons rec chain ih =>
    simp only [verifyFrom,Linked,Sealed]
    by_cases linked : rec.previousEventHash = start
    · cases raw : rawToHash rec with
      | error raised => simp [linked]
      | ok text =>
        by_cases known : sha256 text = rec.eventHash
        · simp [linked,known,ih]
        · simp [linked,known]
    · simp [linked]

theorem accepts_iff (chain : List AuditRecord) : Accepts sha256 chain ↔ Linked sha256 genesis chain := verifyFrom_iff _ _ _

@[simp] theorem lastHash_concat (start : String) (chain : List AuditRecord) (rec : AuditRecord) :
    lastHash start (chain ++ [rec]) = rec.eventHash := by
  simp [lastHash]

theorem linked_append (start : String) (before after : List AuditRecord) :
    Linked sha256 start (before ++ after) ↔ Linked sha256 start before ∧ Linked sha256 (lastHash start before) after := by
  induction before generalizing start with
  | nil => simp [Linked,lastHash]
  | cons rec before ih =>
    simp only [List.cons_append,Linked,ih,and_assoc]
    rfl

/-- What `append_event` adds verifies with the rest. -/
theorem appendEvent_accepts {chain after : List AuditRecord} {req : AppendRequest} (accepted : Accepts sha256 chain)
    (appended : appendEvent sha256 chain req = .ok after) : Accepts sha256 after := by
  unfold appendEvent at appended
  cases hashed : rawToHash (draft chain req) with
  | error raised =>
    rw [hashed] at appended
    cases appended
  | ok raw =>
    rw [hashed] at appended
    cases appended
    rw [accepts_iff] at accepted ⊢
    rw [linked_append]
    exact ⟨accepted,rfl,⟨raw,hashed,rfl⟩,trivial⟩

end chain
end AuditHashChainService
end RevPilot.Finops

/-! What the last hash of an audit chain says of its records. The texts of a record are
joined by colons, which the identifier, the type and the action of an event may contain
themselves. -/
namespace RevPilot.Finops
open Library Shared Approval JsonText Separators UtcDateTime AuditHashChainService

/-- Equal in everything that an event says; details are equal as JSON values. -/
structure SameRecord (a b : AuditRecord) : Prop where
  eventId : a.eventId = b.eventId
  occurredAt : a.occurredAt = b.occurredAt
  tenantId : a.tenantId = b.tenantId
  actorId : a.actorId = b.actorId
  eventType : a.eventType = b.eventType
  action : a.action = b.action
  details : a.details.value.toTree PyValue.noDefault = b.details.value.toTree PyValue.noDefault

/-- The identifier spells an instant, a tenant and an actor after some text. -/
def SpellsHeader (eventId : String) : Prop :=
  ∃ before occurredAt tenantId actorId after, InRange occurredAt ∧
    eventId ++ ":" = headerText before occurredAt tenantId actorId ++ ":" ++ after

/-- The texts of the record can be told apart. -/
structure Plain (rec : AuditRecord) : Prop where
  eventType : ':' ∉ rec.eventType.toList
  action : ':' ∉ rec.action.toList
  eventId : ¬ SpellsHeader rec.eventId

section header
variable (eventId : String) (occurredAt : UtcDateTime) (tenantId : Option TenantId) (actorId : PrincipalId)

theorem headerText_toList : (headerText eventId occurredAt tenantId actorId).toList =
    ((((eventId.toList ++ ':' :: (hourText occurredAt).toList) ++ ':' :: (minuteText occurredAt).toList) ++
      ':' :: (secondText occurredAt).toList) ++ ':' :: (tenantText tenantId).toList) ++ ':' :: actorId.value.toList := by
  have colon : ":".toList = [':'] := rfl
  simp only [headerText,String.toList_append,isoformat_toList,colon,List.append_assoc,List.cons_append,List.nil_append]

theorem tenantText_free : ':' ∉ (tenantText tenantId).toList := by
  cases tenantId with
  | none => decide
  | some tenantId => exact identifier_free tenantId

theorem identifier_head {lead : String} {first : Char} {rest : List Char} (spelled : lead.toList = first :: rest)
    (id : EntityId lead) : id.value.toList.head? = some first := by
  have accepted := id.accepted
  simp only [acceptsIdentifier,Bool.and_eq_true] at accepted
  have starts := accepted.2
  unfold Text.startsWith at starts
  rw [List.isPrefixOf_iff_prefix,spelled] at starts
  obtain ⟨tail,shape⟩ := starts
  rw [← shape]
  rfl

theorem actor_head : actorId.value.toList.head? = some 'u' := identifier_head rfl actorId

theorem tenantText_injective {a b : Option TenantId} (same : tenantText a = tenantText b) : a = b := by
  have global (tenantId : TenantId) : tenantId.value ≠ "global" := by
    intro impossible
    have head := identifier_head rfl tenantId
    rw [impossible] at head
    exact absurd head (by decide)
  cases a with
  | none =>
    cases b with
    | none => rfl
    | some b => exact absurd same.symm (global b)
  | some a =>
    cases b with
    | none => exact absurd same (global a)
    | some b =>
      obtain ⟨value,accepted⟩ := a
      obtain ⟨value',accepted'⟩ := b
      obtain rfl : value = value' := same
      rfl

/-- No other field of a header looks like an actor. -/
theorem tenant_ne_actor : (tenantText tenantId).toList ≠ actorId.value.toList := by
  intro same
  have head := actor_head actorId
  rw [← same] at head
  cases tenantId with
  | none => exact absurd head (by decide)
  | some tenantId =>
    rw [show tenantText (some tenantId) = tenantId.value from rfl,identifier_head rfl tenantId] at head
    exact absurd head (by decide)

theorem field_ne_actor {s : String} (field : Field s) : s.toList ≠ actorId.value.toList := by
  intro same
  have inside : 'u' ∈ s.toList := by
    rw [same]
    exact List.mem_of_mem_head? (actor_head actorId)
  exact absurd (field 'u' inside) (by decide)

variable {eventId occurredAt tenantId actorId}

/-- One text ends where the other one does, or at a colon of it. -/
def Reaches (x h : List Char) : Prop := x = h ∨ ∃ z, x = h ++ ':' :: z

theorem reaches_of_last {x h z f : List Char} (free : ':' ∉ f) (same : x ++ ':' :: f = h ++ ':' :: z) : Reaches x h := by
  rcases last_field free same with ⟨_,here⟩ | ⟨z',_,later⟩
  · exact .inl here
  · exact .inr ⟨z',later⟩

/-- A last field that is not the header's actor: the header ends before it. -/
theorem reaches_before {x h f w : List Char} {actor : PrincipalId} (free : ':' ∉ f) (other : f ≠ actor.value.toList)
    (ends : h = w ++ ':' :: actor.value.toList) (reaches : Reaches (x ++ ':' :: f) h) : Reaches x h := by
  rcases reaches with whole | ⟨z,longer⟩
  · rw [ends] at whole
    exact absurd (last_unique free (identifier_free actor) whole).2 other
  · exact reaches_of_last free longer

/-- A header that goes on behind another one spells that one in its identifier. -/
theorem spells_of_header {before : String} {occurred : UtcDateTime} {tenant : Option TenantId} {actor : PrincipalId}
    {z : List Char} (range : InRange occurred)
    (same : (headerText eventId occurredAt tenantId actorId).toList =
      (headerText before occurred tenant actor).toList ++ ':' :: z) : SpellsHeader eventId := by
  have ends := headerText_toList before occurred tenant actor
  have noColon {s : String} (field : Field s) : ':' ∉ s.toList := field_free field (by decide)
  rw [headerText_toList eventId] at same
  have tenants := reaches_of_last (identifier_free actorId) same
  have seconds := reaches_before (tenantText_free tenantId) (tenant_ne_actor tenantId actor) ends tenants
  have minutes := reaches_before (noColon (secondText_field _)) (field_ne_actor actor (secondText_field _)) ends seconds
  have hours := reaches_before (noColon (minuteText_field _)) (field_ne_actor actor (minuteText_field _)) ends minutes
  have spelled := reaches_before (noColon (hourText_field _)) (field_ne_actor actor (hourText_field _)) ends hours
  have colon : ":".toList = [':'] := rfl
  rcases spelled with whole | ⟨rest,longer⟩
  · refine ⟨before,occurred,tenant,actor,"",range,?_⟩
    apply String.toList_injective
    simp only [String.toList_append,whole,colon,String.toList_empty,List.append_nil]
  · refine ⟨before,occurred,tenant,actor,String.ofList rest ++ ":",range,?_⟩
    apply String.toList_injective
    simp only [String.toList_append,longer,colon,String.toList_ofList,List.append_assoc,List.cons_append,List.nil_append]

/-- The text of a header determines its parts. -/
theorem headerText_injective {before : String} {occurred : UtcDateTime} {tenant : Option TenantId} {actor : PrincipalId}
    (range : InRange occurredAt) (range' : InRange occurred)
    (same : (headerText eventId occurredAt tenantId actorId).toList = (headerText before occurred tenant actor).toList) :
    eventId = before ∧ occurredAt = occurred ∧ tenantId = tenant ∧ actorId = actor := by
  have noColon {s : String} (field : Field s) : ':' ∉ s.toList := field_free field (by decide)
  rw [headerText_toList,headerText_toList] at same
  obtain ⟨same,actors⟩ := last_unique (identifier_free actorId) (identifier_free actor) same
  obtain ⟨same,tenants⟩ := last_unique (tenantText_free tenantId) (tenantText_free tenant) same
  obtain ⟨same,seconds⟩ := last_unique (noColon (secondText_field _)) (noColon (secondText_field _)) same
  obtain ⟨same,minutes⟩ := last_unique (noColon (minuteText_field _)) (noColon (minuteText_field _)) same
  obtain ⟨same,hours⟩ := last_unique (noColon (hourText_field _)) (noColon (hourText_field _)) same
  refine ⟨String.toList_injective same,?_,tenantText_injective (String.toList_injective tenants),?_⟩
  · exact fields_injective range range' (String.toList_injective hours) (String.toList_injective minutes)
      (String.toList_injective seconds)
  · obtain ⟨value,accepted⟩ := actorId
    obtain ⟨value',accepted'⟩ := actor
    obtain rfl : value = value' := String.toList_injective actors
    rfl

end header

section records

/-- The type and the action of an event without colons are found behind its header. -/
theorem event_unique {a b : AuditRecord} (plain : Plain a)
    (same : ((headerText a.eventId a.occurredAt a.tenantId a.actorId).toList ++ ':' :: a.eventType.toList) ++
        ':' :: a.action.toList =
      ((headerText b.eventId b.occurredAt b.tenantId b.actorId).toList ++ ':' :: b.eventType.toList) ++
        ':' :: b.action.toList) :
    (headerText a.eventId a.occurredAt a.tenantId a.actorId).toList =
        (headerText b.eventId b.occurredAt b.tenantId b.actorId).toList ∧
      a.eventType = b.eventType ∧ a.action = b.action := by
  have alone {z : List Char} (longer : (headerText a.eventId a.occurredAt a.tenantId a.actorId).toList =
      (headerText b.eventId b.occurredAt b.tenantId b.actorId).toList ++ ':' :: z) : False :=
    plain.eventId (spells_of_header b.instant longer)
  rcases last_field plain.action same with ⟨actions,rest⟩ | ⟨z,_,rest⟩
  · rcases last_field plain.eventType rest with ⟨types,headers⟩ | ⟨z,_,longer⟩
    · exact ⟨headers,(String.toList_injective types).symm,(String.toList_injective actions).symm⟩
    · exact (alone longer).elim
  · rcases last_field plain.eventType rest with ⟨_,longer⟩ | ⟨z',_,longer⟩
    · exact (alone longer).elim
    · rw [List.append_assoc,List.cons_append] at longer
      exact (alone longer).elim

/-- The members of the details as they are written. -/
theorem details_tree (rec : AuditRecord) {text : String}
    (dumped : rec.details.value.dumps asciiSpaced PyValue.noDefault = some text) :
    ∃ members, rec.details.value.toTree PyValue.noDefault = some (.obj members) ∧
      text.toList = print asciiSpaced (.obj members) := by
  unfold PyValue.dumps at dumped
  obtain ⟨tree,made,rendered⟩ := Option.map_eq_some_iff.mp dumped
  have shape : ∃ members, tree = .obj members := by
    have object : rec.details.value = .dict (rec.details.entries.map (fun m => (.str m.1,m.2))) := rfl
    rw [object,PyValue.toTree] at made
    simp only [Option.bind_eq_bind,Option.bind_eq_some_iff,Option.pure_def,Option.some.injEq] at made
    obtain ⟨_,_,_,_,rfl⟩ := made
    exact ⟨_,rfl⟩
  obtain ⟨members,rfl⟩ := shape
  refine ⟨members,made,?_⟩
  rw [← rendered]
  exact String.toList_ofList

/-- Two JSON texts after a colon that end together are one. -/
theorem details_unique {x y : List Char} {members others : List (String × Tree)}
    (same : x ++ ':' :: print asciiSpaced (.obj members) = y ++ ':' :: print asciiSpaced (.obj others)) :
    x = y ∧ members = others := by
  have trees (equal : print asciiSpaced (.obj members) = print asciiSpaced (.obj others)) : members = others := by
    have texts : render asciiSpaced (.obj members) = render asciiSpaced (.obj others) := congrArg String.ofList equal
    exact Tree.obj.inj (render_injective asciiSpaced texts)
  rcases List.append_eq_append_iff.mp same with ⟨c,shape,rest⟩ | ⟨c,shape,rest⟩
  · cases c with
    | nil => exact ⟨by simpa using shape.symm,trees (List.cons.inj rest).2⟩
    | cons a c =>
      obtain ⟨rfl,tail⟩ := List.cons.inj rest
      exact absurd tail (print_uncut true (.obj members) others c)
  · cases c with
    | nil => exact ⟨by simpa using shape,trees (List.cons.inj rest).2.symm⟩
    | cons a c =>
      obtain ⟨rfl,tail⟩ := List.cons.inj rest
      exact absurd tail (print_uncut true (.obj others) members c)

theorem rawToHash_shape {rec : AuditRecord} {raw : String} (hashed : rawToHash rec = .ok raw) :
    ∃ members, rec.details.value.toTree PyValue.noDefault = some (.obj members) ∧
      raw.toList = ((((headerText rec.eventId rec.occurredAt rec.tenantId rec.actorId).toList ++
        ':' :: rec.eventType.toList) ++ ':' :: rec.action.toList) ++ ':' :: print asciiSpaced (.obj members)) ++
        ':' :: rec.previousEventHash.toList := by
  unfold rawToHash at hashed
  split at hashed
  next text dumped =>
    obtain ⟨members,tree,shape⟩ := details_tree rec dumped
    have colon : ":".toList = [':'] := rfl
    refine ⟨members,tree,?_⟩
    cases hashed
    simp only [String.toList_append,shape,colon,List.append_assoc,List.cons_append,List.nil_append]
  next => cases hashed

/-- A plain record is the only one with its text. -/
theorem record_unique {a b : AuditRecord} {raw : String} (plain : Plain a) (first : rawToHash a = .ok raw)
    (second : rawToHash b = .ok raw) (freeA : ':' ∉ a.previousEventHash.toList)
    (freeB : ':' ∉ b.previousEventHash.toList) : SameRecord a b ∧ a.previousEventHash = b.previousEventHash := by
  obtain ⟨members,treeA,shapeA⟩ := rawToHash_shape first
  obtain ⟨others,treeB,shapeB⟩ := rawToHash_shape second
  obtain ⟨texts,hashes⟩ := last_unique freeA freeB (shapeA.symm.trans shapeB)
  obtain ⟨events,rfl⟩ := details_unique texts
  obtain ⟨headers,types,actions⟩ := event_unique plain events
  obtain ⟨ids,instants,tenants,actors⟩ := headerText_injective a.instant b.instant headers
  exact ⟨⟨ids,instants,tenants,actors,types,actions,treeA.trans treeB.symm⟩,String.toList_injective hashes⟩

/-- A record that is not plain has a double: another record with its text and its hashes. -/
theorem double_of_not_plain {rec : AuditRecord} (ambiguous : ¬ Plain rec) :
    ∃ double : AuditRecord, rawToHash double = rawToHash rec ∧ double.previousEventHash = rec.previousEventHash ∧
      double.eventHash = rec.eventHash ∧ ¬ SameRecord rec double := by
  have split {text : String} (inside : ':' ∈ text.toList) : ∃ x y, text = x ++ ":" ++ y := by
    obtain ⟨before,after,shape⟩ := List.append_of_mem inside
    refine ⟨String.ofList before,String.ofList after,String.toList_injective ?_⟩
    have colon : ":".toList = [':'] := rfl
    simp only [shape,String.toList_append,String.toList_ofList,colon,List.append_assoc,List.cons_append,List.nil_append]
  have longer (x y : String) : x ++ ":" ++ y ≠ x := by
    intro same
    have lengths := congrArg String.length same
    have colon : ":".length = 1 := rfl
    simp only [String.length_append] at lengths
    omega
  by_cases types : ':' ∈ rec.eventType.toList
  · obtain ⟨x,y,shape⟩ := split types
    refine ⟨{ rec with eventType := x, action := y ++ ":" ++ rec.action },?_,rfl,rfl,?_⟩
    · simp only [rawToHash,shape,String.append_assoc]
    · intro same
      exact longer x y (shape ▸ same.eventType)
  · by_cases actions : ':' ∈ rec.action.toList
    · obtain ⟨x,y,shape⟩ := split actions
      refine ⟨{ rec with eventType := rec.eventType ++ ":" ++ x, action := y },?_,rfl,rfl,?_⟩
      · simp only [rawToHash,shape,String.append_assoc]
      · intro same
        exact longer rec.eventType x same.eventType.symm
    · have spelled : SpellsHeader rec.eventId := by
        by_contra plain
        exact ambiguous ⟨types,actions,plain⟩
      obtain ⟨before,occurredAt,tenantId,actorId,after,range,shape⟩ := spelled
      refine ⟨{ rec with
        eventId := before, occurredAt := occurredAt, tenantId := tenantId, actorId := actorId
        eventType := after ++ rec.occurredAt.isoformat ++ ":" ++ tenantText rec.tenantId ++ ":" ++ rec.actorId.value ++
          ":" ++ rec.eventType
        instant := range },?_,rfl,rfl,?_⟩
      · have event : headerText rec.eventId rec.occurredAt rec.tenantId rec.actorId ++ ":" ++ rec.eventType =
            headerText before occurredAt tenantId actorId ++ ":" ++ (after ++ rec.occurredAt.isoformat ++ ":" ++
              tenantText rec.tenantId ++ ":" ++ rec.actorId.value ++ ":" ++ rec.eventType) := by
          calc headerText rec.eventId rec.occurredAt rec.tenantId rec.actorId ++ ":" ++ rec.eventType
              = (rec.eventId ++ ":") ++ (rec.occurredAt.isoformat ++ ":" ++ tenantText rec.tenantId ++ ":" ++
                  rec.actorId.value ++ ":" ++ rec.eventType) := by
                simp only [headerText,String.append_assoc]
            _ = _ := by
                rw [shape]
                simp only [String.append_assoc]
        simp only [rawToHash,event]
      · intro same
        have lengths := congrArg String.length shape
        rw [show rec.eventId = before from same.eventId] at lengths
        have colon : ":".length = 1 := rfl
        simp only [headerText,String.length_append] at lengths
        omega

end records

section chains
variable (sha256 : String → String)

/-- Every accepted chain of the same length with the same last hash has the same records. -/
def Binding (chain : List AuditRecord) : Prop :=
  ∀ other : List AuditRecord, other.length = chain.length → Accepts sha256 other →
    lastHash genesis other = lastHash genesis chain → List.Forall₂ SameRecord chain other

variable {sha256}

theorem genesis_free : ':' ∉ genesis.toList := by
  intro (inside : ':' ∈ (String.ofList (List.replicate 64 '0')).toList)
  rw [String.toList_ofList,List.mem_replicate] at inside
  exact absurd inside.2 (by decide)

theorem lastHash_free (noColon : ∀ text, ':' ∉ (sha256 text).toList) {start : String} {chain : List AuditRecord}
    (free : ':' ∉ start.toList) (linked : Linked sha256 start chain) : ':' ∉ (lastHash start chain).toList := by
  induction chain generalizing start with
  | nil => exact free
  | cons rec chain ih =>
    obtain ⟨_,⟨raw,_,hashed⟩,rest⟩ := linked
    have hash_free : ':' ∉ rec.eventHash.toList := hashed ▸ noColon raw
    exact ih hash_free rest

/-- From the last record back to the first: a hash gives the text, the text the record and
the hash before it. -/
theorem linked_unique (injective : Function.Injective sha256) (noColon : ∀ text, ':' ∉ (sha256 text).toList)
    {start : String} (free : ':' ∉ start.toList) {chain : List AuditRecord} (plain : ∀ rec ∈ chain, Plain rec)
    (linked : Linked sha256 start chain) :
    ∀ other : List AuditRecord, other.length = chain.length → Linked sha256 start other →
      lastHash start other = lastHash start chain → List.Forall₂ SameRecord chain other := by
  induction chain using List.reverseRecOn with
  | nil =>
    intro other size _ _
    obtain rfl := List.length_eq_zero_iff.mp size
    exact .nil
  | append_singleton before a ih =>
    intro other size linked' last
    obtain rfl | ⟨before',b,rfl⟩ := List.eq_nil_or_concat other
    · simp at size
    rw [List.concat_eq_append] at size linked' last ⊢
    rw [linked_append] at linked linked'
    obtain ⟨linkedA,previousA,⟨rawA,textA,hashA⟩,_⟩ := linked
    obtain ⟨linkedB,previousB,⟨rawB,textB,hashB⟩,_⟩ := linked'
    rw [lastHash_concat,lastHash_concat,← hashA,← hashB] at last
    have texts : rawB = rawA := injective last
    subst texts
    obtain ⟨same,hashes⟩ := record_unique (plain a (by simp)) textA textB
      (previousA ▸ lastHash_free noColon free linkedA) (previousB ▸ lastHash_free noColon free linkedB)
    rw [previousA,previousB] at hashes
    have sizes : before'.length = before.length := by simpa using size
    have rest := ih (fun rec inside => plain rec (by simp [inside])) linkedA before' sizes linkedB hashes.symm
    exact List.rel_append rest (.cons same .nil)

/-- A chain stays linked when a record is replaced by one with its text and its hashes. -/
theorem linked_replace {start : String} {before after : List AuditRecord} {rec double : AuditRecord}
    (text : rawToHash double = rawToHash rec) (previous : double.previousEventHash = rec.previousEventHash)
    (hash : double.eventHash = rec.eventHash) (linked : Linked sha256 start (before ++ rec :: after)) :
    Linked sha256 start (before ++ double :: after) := by
  rw [linked_append] at linked ⊢
  obtain ⟨first,back,⟨raw,shape,hashed⟩,rest⟩ := linked
  refine ⟨first,previous.trans back,⟨raw,text.trans shape,hashed.trans hash.symm⟩,?_⟩
  rw [hash]
  exact rest

theorem lastHash_replace {start : String} {before after : List AuditRecord} {rec double : AuditRecord}
    (hash : double.eventHash = rec.eventHash) :
    lastHash start (before ++ double :: after) = lastHash start (before ++ rec :: after) := by
  simp only [lastHash,List.foldl_append,List.foldl_cons,hash]

theorem forall₂_at {R : AuditRecord → AuditRecord → Prop} {before after : List AuditRecord} {a b : AuditRecord}
    (all : List.Forall₂ R (before ++ a :: after) (before ++ b :: after)) : R a b := by
  have tails := List.forall₂_drop_append _ before (b :: after) all
  rw [List.drop_left] at tails
  exact (List.forall₂_cons.mp tails).1

/-- Under a hash without collisions, written without colons, a verified chain is the only one
with its last hash exactly if the texts of all its records can be told apart. -/
theorem chain_binding_iff (injective : Function.Injective sha256) (noColon : ∀ text, ':' ∉ (sha256 text).toList)
    {chain : List AuditRecord} (accepted : Accepts sha256 chain) :
    Binding sha256 chain ↔ ∀ rec ∈ chain, Plain rec := by
  constructor
  · intro binding rec inside
    by_contra ambiguous
    obtain ⟨double,text,previous,hash,other⟩ := double_of_not_plain ambiguous
    obtain ⟨before,after,rfl⟩ := List.append_of_mem inside
    have accepted' : Accepts sha256 (before ++ double :: after) := by
      rw [accepts_iff] at accepted ⊢
      exact linked_replace text previous hash accepted
    have all := binding (before ++ double :: after) (by simp) accepted' (lastHash_replace hash)
    exact other (forall₂_at all)
  · intro plain other size accepted' last
    rw [accepts_iff] at accepted accepted'
    exact linked_unique injective noColon genesis_free plain accepted other size accepted' last

end chains

section logins

/-- A hash without collisions that has no colons. -/
def stretch (text : String) : String :=
  String.ofList (text.toList.flatMap fun c => if c = ':' then ['y','y'] else ['x',c])

theorem stretch_injective : Function.Injective stretch := by
  intro a b same
  have lists : ∀ x y : List Char, (x.flatMap fun c => if c = ':' then ['y','y'] else ['x',c]) =
      (y.flatMap fun c => if c = ':' then ['y','y'] else ['x',c]) → x = y := by
    intro x
    induction x with
    | nil =>
      intro y equal
      cases y with
      | nil => rfl
      | cons c y =>
        simp only [List.flatMap_nil,List.flatMap_cons] at equal
        split at equal <;> simp at equal
    | cons c x ih =>
      intro y equal
      cases y with
      | nil =>
        simp only [List.flatMap_nil,List.flatMap_cons] at equal
        split at equal <;> simp at equal
      | cons c' y =>
        simp only [List.flatMap_cons] at equal
        by_cases colon : c = ':'
        · by_cases colon' : c' = ':'
          · rw [if_pos colon,if_pos colon'] at equal
            rw [colon,colon',ih y (List.append_cancel_left equal)]
          · simp [colon,colon'] at equal
        · by_cases colon' : c' = ':'
          · simp [colon,colon'] at equal
          · rw [if_neg colon,if_neg colon'] at equal
            simp only [List.cons_append,List.nil_append,List.cons.injEq,true_and] at equal
            rw [equal.1,ih y equal.2]
  exact String.toList_injective (lists _ _ (String.ofList_injective same))

theorem stretch_free (text : String) : ':' ∉ (stretch text).toList := by
  intro inside
  simp only [stretch,String.toList_ofList,List.mem_flatMap] at inside
  obtain ⟨c,_,member⟩ := inside
  split at member
  next => simp at member
  next other =>
    simp only [List.mem_cons,List.not_mem_nil,or_false] at member
    rcases member with impossible | same
    · exact absurd impossible (by decide)
    · exact other same.symm

/-- Someone signs in, at the start of the epoch. -/
def login (eventType action : String) : AppendRequest where
  tenantId := none
  actorId := ⟨"usr_maria",Eq.refl true⟩
  eventType := eventType
  action := action
  details := Dict.empty
  eventId := some "evt_1"
  occurredAt := some ⟨0⟩
  madeId := "evt_0"
  now := ⟨0⟩
  instant := ⟨by decide,by decide⟩

/-- The record that `append_event` writes for it. -/
def logged (eventType action : String) : AuditRecord :=
  { draft [] (login eventType action) with
    eventHash := stretch (headerText "evt_1" ⟨0⟩ none ⟨"usr_maria",Eq.refl true⟩ ++ ":" ++ eventType ++ ":" ++ action ++
      ":" ++ "{}" ++ ":" ++ genesis) }

theorem login_text (eventType action : String) : rawToHash (draft [] (login eventType action)) =
    .ok (headerText "evt_1" ⟨0⟩ none ⟨"usr_maria",Eq.refl true⟩ ++ ":" ++ eventType ++ ":" ++ action ++
      ":" ++ "{}" ++ ":" ++ genesis) := by
  have empty : (Payload.value Dict.empty).dumps asciiSpaced PyValue.noDefault = some "{}" := by decide +kernel
  have dumped : (draft [] (login eventType action)).details.value.dumps asciiSpaced PyValue.noDefault = some "{}" := empty
  unfold rawToHash
  rw [dumped]
  rfl

theorem login_appended (eventType action : String) :
    appendEvent stretch [] (login eventType action) = .ok [logged eventType action] := by
  unfold appendEvent
  rw [login_text]
  rfl

theorem login_accepted (eventType action : String) : Accepts stretch [logged eventType action] :=
  appendEvent_accepts ((accepts_iff []).mpr trivial) (login_appended eventType action)

theorem spells_colon {eventId : String} (spelled : SpellsHeader eventId) : ':' ∈ eventId.toList := by
  obtain ⟨before,occurredAt,tenantId,actorId,after,_,shape⟩ := spelled
  by_contra free
  have counts := congrArg (fun text : String => text.toList.count ':') shape
  have colon : ":".toList = [':'] := rfl
  simp only [headerText,String.toList_append,colon,List.count_append,List.count_eq_zero_of_not_mem free,
    List.count_singleton_self] at counts
  omega

theorem login_bound : Binding stretch [logged "user.login" "login"] := by
  apply (chain_binding_iff stretch_injective stretch_free (login_accepted "user.login" "login")).mpr
  intro rec inside
  obtain rfl := List.mem_singleton.mp inside
  exact ⟨by decide,by decide,fun spelled => absurd (spells_colon spelled) (by decide)⟩

/-- A colon moves from the type of an event to its action without a trace. -/
theorem moved_colon_undetected :
    appendEvent stretch [] (login "user:login" "ok") = .ok [logged "user:login" "ok"] ∧
      appendEvent stretch [] (login "user" "login:ok") = .ok [logged "user" "login:ok"] ∧
      Accepts stretch [logged "user:login" "ok"] ∧ Accepts stretch [logged "user" "login:ok"] ∧
      lastHash genesis [logged "user:login" "ok"] = lastHash genesis [logged "user" "login:ok"] ∧
      ¬ List.Forall₂ SameRecord [logged "user:login" "ok"] [logged "user" "login:ok"] := by
  refine ⟨login_appended _ _,login_appended _ _,login_accepted _ _,login_accepted _ _,?_,?_⟩
  · have joined : "user:login" ++ ":" ++ "ok" = "user" ++ ":" ++ "login:ok" := by decide
    have texts (lead : String) : lead ++ ":" ++ "user:login" ++ ":" ++ "ok" = lead ++ ":" ++ "user" ++ ":" ++ "login:ok" := by
      simp only [String.append_assoc] at joined ⊢
      rw [joined]
    show stretch _ = stretch _
    rw [texts]
  · intro same
    exact absurd (List.forall₂_cons.mp same).1.eventType (by decide)

end logins
end RevPilot.Finops
