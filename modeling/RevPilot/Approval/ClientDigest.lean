import RevPilot.Approval.Digest
import RevPilot.Library.JsonCut
import RevPilot.Library.JsonSpelling
import RevPilot.Library.Lists
import RevPilot.Library.Separators

/-! The digest by which the web client checks the seal of an approval: its canonical JSON and the
message that is hashed. Two records have one message exactly when they agree, as far as their texts
keep clear of the separators. The seals of the backend are made of other messages. -/
namespace RevPilot.Approval.WebClient
open Library Shared JsonText

/-- A character in UTF-16. -/
def unitsOf (c : Char) : List Nat :=
  if c.toNat < 0x10000 then [c.toNat] else [0xd800 + (c.toNat - 0x10000) / 1024,0xdc00 + (c.toNat - 0x10000) % 1024]

/-- The code units of a text, by which `sort` compares. -/
def codeUnits (s : String) : List Nat := s.toList.flatMap unitsOf

/-- `join(",")`. -/
def commaJoined : List (List Char) → List Char
  | [] => []
  | text :: texts => text ++ texts.flatMap (',' :: ·)

/-- A member as `canonicalizeJson` writes it: the key between quotes as it is. -/
def pairText (pair : String × List Char) : List Char := '"' :: (pair.1.toList ++ '"' :: ':' :: pair.2)

mutual
/-- A number is carried by the text that `JSON.stringify` gives it. -/
def canonicalizeJson : Tree → List Char
  | .arr items => '[' :: (commaJoined (canonicalizeItems items) ++ [']'])
  | .obj members => '{' :: (commaJoined ((sortedBy (fun p => codeUnits p.1) (canonicalizeMembers members)).map pairText) ++ ['}'])
  | .null => print plainCompact .null
  | .bool b => print plainCompact (.bool b)
  | .int i => print plainCompact (.int i)
  | .float x => print plainCompact (.float x)
  | .str s => print plainCompact (.str s)
def canonicalizeItems : List Tree → List (List Char)
  | [] => []
  | item :: items => canonicalizeJson item :: canonicalizeItems items
def canonicalizeMembers : List (String × Tree) → List (String × List Char)
  | [] => []
  | (key,value) :: members => (key,canonicalizeJson value) :: canonicalizeMembers members
end

/-- `toFixed(2)` of a number below 10^21: of two nearest the larger one. -/
def toFixed2 (x : ℚ) : String :=
  let cents := ⌊|x| * 100 + 1 / 2⌋.toNat
  (if x < 0 then "-" else "") ++ (cents / 100).repr ++ "." ++ (cents / 10 % 10).repr ++ (cents % 10).repr

/-- What the digest reads of an `ApprovalRequestRecord`; the keys of `payload` are distinct. -/
structure ApprovalRequestRecord where
  tenantId : String
  actionType : String
  payload : List (String × Tree)
  targetEntities : List String
  estimatedCostUsd : ℚ
  policyVersion : String
  expiresAt : String
  payloadDigest : String

variable (sha256 : String → String) (casing : Text.Casing) (record : ApprovalRequestRecord)

def rawMessage : String :=
  "|".intercalate [record.tenantId,record.actionType,String.ofList (canonicalizeJson (.obj record.payload)),
    ",".intercalate (sortedBy codeUnits record.targetEntities),toFixed2 record.estimatedCostUsd,record.policyVersion,
    record.expiresAt]

def computeApprovalDigest : String := sha256 (rawMessage record)

/-- What `trim` takes away. -/
def isJsSpace (c : Char) : Bool :=
  let n := c.toNat
  9 ≤ n && n ≤ 13 || 0x2000 ≤ n && n ≤ 0x200a || [32,0xa0,0x1680,0x2028,0x2029,0x202f,0x205f,0x3000,0xfeff].contains n

def verifyApprovalRecordDigest : Bool :=
  if record.payloadDigest.toList.all isJsSpace then false
  else casing.lower record.payloadDigest == casing.lower (computeApprovalDigest sha256 record)

section units

theorem unitsOf_unique {c d : Char} {r s : List Nat} (same : unitsOf c ++ r = unitsOf d ++ s) : c = d ∧ r = s := by
  have low (e : Char) : e.toNat < 0xd800 ∨ 0xdfff < e.toNat ∧ e.toNat < 0x110000 := e.valid
  have first := low c
  have second := low d
  have char (equal : c.toNat = d.toNat) : c = d := Char.toNat_inj.mp equal
  unfold unitsOf at same
  by_cases small : c.toNat < 0x10000
  · by_cases small' : d.toNat < 0x10000
    · rw [if_pos small,if_pos small'] at same
      exact ⟨char (List.cons.inj same).1,(List.cons.inj same).2⟩
    · rw [if_pos small,if_neg small'] at same
      have heads := (List.cons.inj same).1
      omega
  · by_cases small' : d.toNat < 0x10000
    · rw [if_neg small,if_pos small'] at same
      have heads := (List.cons.inj same).1
      omega
    · rw [if_neg small,if_neg small'] at same
      obtain ⟨high,rest⟩ := List.cons.inj same
      obtain ⟨tail,rest⟩ := List.cons.inj rest
      refine ⟨char ?_,rest⟩
      omega

theorem unitsOf_append_ne (c : Char) (r : List Nat) : unitsOf c ++ r ≠ [] := by
  unfold unitsOf
  split
  · exact List.cons_ne_nil _ _
  · exact List.cons_ne_nil _ _

theorem codeUnits_injective : Function.Injective codeUnits := by
  intro a b same
  apply String.toList_injective
  unfold codeUnits at same
  generalize a.toList = x at same
  generalize b.toList = y at same
  induction x generalizing y with
  | nil =>
    cases y with
    | nil => rfl
    | cons d y => exact absurd same.symm (unitsOf_append_ne d _)
  | cons c x ih =>
    cases y with
    | nil => exact absurd same (unitsOf_append_ne c _)
    | cons d y =>
      rw [List.flatMap_cons,List.flatMap_cons] at same
      obtain ⟨rfl,rest⟩ := unitsOf_unique same
      rw [ih y rest]

end units

section canonical

/-- The key needs no escape between its quotes. -/
def PlainKey (key : String) : Prop := ∀ c ∈ key.toList, c ≠ '"' ∧ c ≠ '\\' ∧ 32 ≤ c.toNat

instance (key : String) : Decidable (PlainKey key) := List.decidableBAll (fun c => c ≠ '"' ∧ c ≠ '\\' ∧ 32 ≤ c.toNat) key.toList

mutual
def PlainKeys : Tree → Prop
  | .arr items => PlainItems items
  | .obj members => PlainMembers members
  | _ => True
def PlainItems : List Tree → Prop
  | [] => True
  | item :: items => PlainKeys item ∧ PlainItems items
def PlainMembers : List (String × Tree) → Prop
  | [] => True
  | (key,value) :: members => PlainKey key ∧ PlainKeys value ∧ PlainMembers members
end

mutual
/-- The value with the members of every object in the order of their keys. -/
def ordered : Tree → Tree
  | .arr items => .arr (orderedItems items)
  | .obj members => .obj (sortedBy (fun p => codeUnits p.1) (orderedMembers members))
  | .null => .null
  | .bool b => .bool b
  | .int i => .int i
  | .float x => .float x
  | .str s => .str s
def orderedItems : List Tree → List Tree
  | [] => []
  | item :: items => ordered item :: orderedItems items
def orderedMembers : List (String × Tree) → List (String × Tree)
  | [] => []
  | (key,value) :: members => (key,ordered value) :: orderedMembers members
end

theorem orderedMembers_eq (members : List (String × Tree)) : orderedMembers members = members.map fun m => (m.1,ordered m.2) := by
  induction members with
  | nil => rfl
  | cons m members ih =>
    obtain ⟨key,value⟩ := m
    rw [orderedMembers,ih,List.map_cons]

theorem ordered_obj_iff {xs ys : List (String × Tree)} (distinct : (xs.map Prod.fst).Nodup) :
    ordered (.obj xs) = ordered (.obj ys) ↔
      (xs.map fun m => (m.1,ordered m.2)).Perm (ys.map fun m => (m.1,ordered m.2)) := by
  rw [ordered,ordered,Tree.obj.injEq,orderedMembers_eq,orderedMembers_eq]
  constructor
  · intro same
    have first := (sortedBy_perm (fun p : String × Tree => codeUnits p.1) (xs.map fun m => (m.1,ordered m.2))).symm
    rw [same] at first
    exact first.trans (sortedBy_perm _ _)
  · intro perm
    refine sortedBy_congr _ perm ?_
    intro p inside q member key
    refine List.inj_on_of_nodup_map ?_ inside member (codeUnits_injective key)
    rw [List.map_map]
    exact distinct

theorem quote_plain {key : String} (plain : PlainKey key) : quote false key = '"' :: (key.toList ++ ['"']) := by
  have same : key.toList.flatMap (escape false) = key.toList := by
    unfold PlainKey at plain
    generalize key.toList = chars at plain
    induction chars with
    | nil => rfl
    | cons c chars ih =>
      have single : escape false c = [c] := by
        obtain ⟨quoteMark,slash,high⟩ := plain c List.mem_cons_self
        have notQuote : c.toNat ≠ 34 := fun equal => quoteMark (Char.toNat_inj.mp equal)
        have notSlash : c.toNat ≠ 92 := fun equal => slash (Char.toNat_inj.mp equal)
        unfold escape
        dsimp only
        rw [if_neg notQuote,if_neg notSlash,if_neg (by omega),if_neg (by omega),if_neg (by omega),if_neg (by omega),
          if_neg (by omega),if_neg (by omega),if_pos (.inl rfl)]
      rw [List.flatMap_cons,single,ih fun d inside => plain d (List.mem_cons_of_mem _ inside)]
      rfl
  rw [quote,same]

theorem print_items (items : List Tree) : print plainCompact (.arr items) = '[' :: (commaJoined (items.map (print plainCompact)) ++ [']']) := by
  have further (items : List Tree) : printItems plainCompact items = (items.map (print plainCompact)).flatMap (',' :: ·) ++ [']'] := by
    induction items with
    | nil => rfl
    | cons item items ih =>
      rw [printItems,ih,List.map_cons,List.flatMap_cons,show blank plainCompact = [] from rfl]
      simp only [List.nil_append,List.cons_append,List.append_assoc]
  cases items with
  | nil => rfl
  | cons item items =>
    rw [print,further,List.map_cons,commaJoined,List.append_assoc]

theorem print_members {members : List (String × Tree)} (plain : ∀ m ∈ members, PlainKey m.1) :
    print plainCompact (.obj members) =
      '{' :: (commaJoined (members.map fun m => pairText (m.1,print plainCompact m.2)) ++ ['}']) := by
  have pair {m : String × Tree} (inside : m ∈ members) (rest : List Char) :
      quote plainCompact.ascii m.1 ++ ':' :: (blank plainCompact ++ print plainCompact m.2 ++ rest) =
        pairText (m.1,print plainCompact m.2) ++ rest := by
    rw [show plainCompact.ascii = false from rfl,quote_plain (plain m inside)]
    simp [pairText,blank,plainCompact]
  have further (later : List (String × Tree)) (inside : later ⊆ members) :
      printMembers plainCompact later =
        (later.map fun m => pairText (m.1,print plainCompact m.2)).flatMap (',' :: ·) ++ ['}'] := by
    induction later with
    | nil => rfl
    | cons m later ih =>
      obtain ⟨key,value⟩ := m
      obtain ⟨own,others⟩ := List.cons_subset.mp inside
      have first := pair own (printMembers plainCompact later)
      rw [printMembers,show blank plainCompact = [] from rfl] at *
      rw [List.nil_append,first,ih others,List.map_cons,List.flatMap_cons]
      simp only [List.cons_append,List.append_assoc]
  cases members with
  | nil => rfl
  | cons m members =>
    obtain ⟨key,value⟩ := m
    rw [print,pair List.mem_cons_self,further members (List.subset_cons_self _ _),List.map_cons,commaJoined,List.append_assoc]

theorem sortedBy_members {A B : Type} (f : A → B) (members : List (String × A)) :
    sortedBy (fun p => codeUnits p.1) (members.map fun m => (m.1,f m.2)) =
      (sortedBy (fun p => codeUnits p.1) members).map fun m => (m.1,f m.2) :=
  (List.map_insertionSort (fun a b : String × A => codeUnits a.1 ≤ codeUnits b.1) (fun a b : String × B => codeUnits a.1 ≤ codeUnits b.1)
    (fun m => (m.1,f m.2)) members (by simp)).symm

theorem plainMembers_key {members : List (String × Tree)} (plain : PlainMembers members) : ∀ m ∈ members, PlainKey m.1 := by
  induction members with
  | nil =>
    intro m inside
    cases inside
  | cons m members ih =>
    obtain ⟨key,value⟩ := m
    obtain ⟨own,_,others⟩ := plain
    intro m inside
    rcases List.mem_cons.mp inside with rfl | later
    · exact own
    · exact ih others m later

mutual
theorem canonicalizeJson_eq : (tree : Tree) → PlainKeys tree → canonicalizeJson tree = print plainCompact (ordered tree)
  | .arr items, plain => by
    rw [canonicalizeJson,ordered,print_items,canonicalizeItems_eq items plain]
  | .obj members, plain => by
    have keys : ∀ m ∈ sortedBy (fun p : String × Tree => codeUnits p.1) (orderedMembers members), PlainKey m.1 := by
      intro m inside
      rw [mem_sortedBy,orderedMembers_eq] at inside
      obtain ⟨m',inside',rfl⟩ := List.mem_map.mp inside
      exact plainMembers_key plain m' inside'
    rw [canonicalizeJson,ordered,print_members keys,canonicalizeMembers_eq members plain,sortedBy_members,List.map_map]
    rfl
  | .null, _ => by rw [canonicalizeJson,ordered]
  | .bool b, _ => by rw [canonicalizeJson,ordered]
  | .int i, _ => by rw [canonicalizeJson,ordered]
  | .float x, _ => by rw [canonicalizeJson,ordered]
  | .str s, _ => by rw [canonicalizeJson,ordered]
theorem canonicalizeItems_eq : (items : List Tree) → PlainItems items →
    canonicalizeItems items = (orderedItems items).map (print plainCompact)
  | [], _ => by rw [canonicalizeItems,orderedItems,List.map_nil]
  | item :: items, plain => by
    rw [canonicalizeItems,orderedItems,List.map_cons,canonicalizeJson_eq item plain.1,canonicalizeItems_eq items plain.2]
theorem canonicalizeMembers_eq : (members : List (String × Tree)) → PlainMembers members →
    canonicalizeMembers members = (orderedMembers members).map fun m => (m.1,print plainCompact m.2)
  | [], _ => by rw [canonicalizeMembers,orderedMembers,List.map_nil]
  | (key,value) :: members, plain => by
    rw [canonicalizeMembers,orderedMembers,List.map_cons,canonicalizeJson_eq value plain.2.1,
      canonicalizeMembers_eq members plain.2.2]
end

theorem canonicalizeJson_eq_iff {a b : Tree} (plain : PlainKeys a) (plain' : PlainKeys b) :
    canonicalizeJson a = canonicalizeJson b ↔ ordered a = ordered b := by
  rw [canonicalizeJson_eq a plain,canonicalizeJson_eq b plain']
  constructor
  · intro same
    exact render_injective plainCompact (congrArg String.ofList same)
  · exact congrArg _

end canonical

section message
variable {sha256 : String → String} {casing : Text.Casing} {record other : ApprovalRequestRecord}

/-- The texts of the record keep clear of the separators around them. -/
structure ApprovalRequestRecord.Plain (record : ApprovalRequestRecord) : Prop where
  tenantId : '|' ∉ record.tenantId.toList
  actionType : '|' ∉ record.actionType.toList
  payload : PlainMembers record.payload
  targetEntities : ∀ s ∈ record.targetEntities, s ≠ "" ∧ ',' ∉ s.toList ∧ '|' ∉ s.toList
  policyVersion : '|' ∉ record.policyVersion.toList
  expiresAt : '|' ∉ record.expiresAt.toList

/-- The records ask for the same, up to the order of targets and of members, and up to half a cent. -/
structure ApprovalRequestRecord.Agree (record other : ApprovalRequestRecord) : Prop where
  tenantId : record.tenantId = other.tenantId
  actionType : record.actionType = other.actionType
  payload : ordered (.obj record.payload) = ordered (.obj other.payload)
  targetEntities : record.targetEntities.Perm other.targetEntities
  estimatedCostUsd : toFixed2 record.estimatedCostUsd = toFixed2 other.estimatedCostUsd
  policyVersion : record.policyVersion = other.policyVersion
  expiresAt : record.expiresAt = other.expiresAt

theorem toFixed2_free (x : ℚ) : '|' ∉ (toFixed2 x).toList := by
  have digits (n : Nat) : '|' ∉ n.repr.toList := Keys.not_mem_repr (by decide) n
  unfold toFixed2
  dsimp only
  simp only [String.toList_append,List.mem_append,not_or]
  refine ⟨⟨⟨⟨?_,digits _⟩,by decide⟩,digits _⟩,digits _⟩
  split
  · decide
  · decide

theorem intercalate_free {c : Char} {sep : String} {texts : List String} (clear : c ∉ sep.toList) (free : ∀ s ∈ texts, c ∉ s.toList) :
    c ∉ (sep.intercalate texts).toList := by
  induction texts with
  | nil =>
    rw [String.intercalate_nil]
    exact List.not_mem_nil
  | cons s texts ih =>
    have later := ih fun t inside => free t (List.mem_cons_of_mem _ inside)
    cases texts with
    | nil =>
      rw [String.intercalate_singleton]
      exact free s List.mem_cons_self
    | cons t texts =>
      rw [String.intercalate_cons_cons,String.toList_append,String.toList_append,List.mem_append,List.mem_append]
      rintro ((first | second) | third)
      · exact free s List.mem_cons_self first
      · exact clear second
      · exact later third

theorem sorted_targets_iff (targets targets' : List String) :
    sortedBy codeUnits targets = sortedBy codeUnits targets' ↔ targets.Perm targets' := by
  constructor
  · intro same
    have first := (sortedBy_perm codeUnits targets).symm
    rw [same] at first
    exact first.trans (sortedBy_perm _ _)
  · intro perm
    exact sortedBy_congr _ perm fun x _ y _ key => codeUnits_injective key

theorem rawMessage_eq_iff (plain : record.Plain) (plain' : other.Plain) :
    rawMessage record = rawMessage other ↔ record.Agree other := by
  have bars (r : ApprovalRequestRecord) (p : r.Plain) : '|' ∉ (",".intercalate (sortedBy codeUnits r.targetEntities)).toList := by
    refine intercalate_free (by decide) ?_
    intro s inside
    exact (p.targetEntities s ((mem_sortedBy ..).mp inside)).2.2
  have payloads (r r' : ApprovalRequestRecord) (p : r.Plain) (p' : r'.Plain) :
      canonicalizeJson (.obj r.payload) = canonicalizeJson (.obj r'.payload) ↔ ordered (.obj r.payload) = ordered (.obj r'.payload) :=
    canonicalizeJson_eq_iff (a := .obj r.payload) (b := .obj r'.payload) p.payload p'.payload
  have commas (r : ApprovalRequestRecord) (p : r.Plain) : ∀ s ∈ sortedBy codeUnits r.targetEntities, s ≠ "" ∧ ',' ∉ s.toList := by
    intro s inside
    obtain ⟨solid,comma,_⟩ := p.targetEntities s ((mem_sortedBy ..).mp inside)
    exact ⟨solid,comma⟩
  constructor
  · intro same
    unfold rawMessage at same
    obtain ⟨same,expiresAt⟩ := Keys.split_text plain.expiresAt plain'.expiresAt same
    obtain ⟨same,policyVersion⟩ := Keys.split_text plain.policyVersion plain'.policyVersion same
    obtain ⟨same,cost⟩ := Keys.split_text (toFixed2_free _) (toFixed2_free _) same
    obtain ⟨same,targets⟩ := Keys.split_text (bars record plain) (bars other plain') same
    have front (r : ApprovalRequestRecord) : (r.tenantId ++ "|" ++ r.actionType ++ "|" ++ String.ofList (canonicalizeJson (.obj r.payload))).toList =
        r.tenantId.toList ++ '|' :: (r.actionType.toList ++ '|' :: canonicalizeJson (.obj r.payload)) := by
      simp
    have chars := (front record).symm.trans ((congrArg String.toList same).trans (front other))
    obtain ⟨tenantId,chars⟩ := Separators.head_unique plain.tenantId plain'.tenantId chars
    obtain ⟨actionType,chars⟩ := Separators.head_unique plain.actionType plain'.actionType chars
    exact ⟨String.toList_injective tenantId,String.toList_injective actionType,(payloads record other plain plain').mp chars,
      (sorted_targets_iff ..).mp (Separators.joined_unique (commas record plain) (commas other plain') targets),cost,policyVersion,expiresAt⟩
  · rintro ⟨tenantId,actionType,payload,targets,cost,policyVersion,expiresAt⟩
    unfold rawMessage
    rw [tenantId,actionType,cost,policyVersion,expiresAt,(payloads record other plain plain').mpr payload,
      (sorted_targets_iff ..).mpr targets]

/-- On records whose texts keep clear of the separators the digest is the same exactly when they ask for
the same. -/
theorem client_digest_eq_iff (injective : Function.Injective sha256) (plain : record.Plain) (plain' : other.Plain) :
    computeApprovalDigest sha256 record = computeApprovalDigest sha256 other ↔ record.Agree other := by
  rw [← rawMessage_eq_iff plain plain']
  exact injective.eq_iff

theorem joined_targets_collide {a b : String} (order : codeUnits a ≤ codeUnits b) :
    computeApprovalDigest sha256 { record with targetEntities := [a ++ "," ++ b] } =
      computeApprovalDigest sha256 { record with targetEntities := [a,b] } := by
  have sorted : sortedBy codeUnits [a,b] = [a,b] := by
    simp [sortedBy,order]
  have single : sortedBy codeUnits [a ++ "," ++ b] = [a ++ "," ++ b] := rfl
  unfold computeApprovalDigest rawMessage
  dsimp only
  rw [sorted,single]
  rfl

theorem rawMessage_head (record : ApprovalRequestRecord) : ∃ rest, (rawMessage record).toList = record.tenantId.toList ++ '|' :: rest := by
  unfold rawMessage
  rw [String.intercalate_cons_cons,String.toList_append,String.toList_append]
  exact ⟨_,List.append_assoc ..⟩

/-- The client refuses every seal that the backend makes: the message that it hashes starts with the
tenant, the backend's with a brace. -/
theorem backend_seal_refused (injective : Function.Injective sha256)
    (hexadecimal : ∀ text, casing.lower (sha256 text) = sha256 text) {tenantId : TenantId}
    (tenant : record.tenantId = tenantId.value)
    (sealed : (∃ artifact, Approval.computeApprovalDigest sha256 artifact = .ok record.payloadDigest) ∨
      ∃ actionType targetEntities payload costUsd,
        ApprovalDigestHasher.computePayloadDigest sha256 actionType targetEntities payload costUsd = .ok record.payloadDigest) :
    verifyApprovalRecordDigest sha256 casing record = false := by
  have hashed : ∃ style members, digestOf sha256 style (.dict members) = .ok record.payloadDigest := by
    rcases sealed with ⟨artifact,made⟩ | ⟨actionType,targetEntities,payload,costUsd,made⟩
    · exact ⟨_,_,made⟩
    · exact ⟨_,_,made⟩
  obtain ⟨style,members,made⟩ := hashed
  unfold digestOf PyValue.dumps at made
  cases written : PyValue.toTree PyValue.noDefault (.dict members) with
  | none =>
    rw [written] at made
    cases made
  | some tree =>
    rw [written] at made
    obtain ⟨_,pairs,_,_,rfl⟩ := PyValue.toTree_dict_eq_some.mp written
    have same : sha256 (render style (.obj pairs)) = record.payloadDigest := Except.ok.inj made
    unfold verifyApprovalRecordDigest computeApprovalDigest
    split
    · rfl
    · rw [← same,hexadecimal,hexadecimal,beq_eq_false_iff_ne]
      intro equal
      have messages := congrArg String.toList (injective equal)
      obtain ⟨rest,message⟩ := rawMessage_head record
      rw [message,tenant,render,String.toList_ofList] at messages
      obtain ⟨inner,closed⟩ := print_obj_closed style pairs
      rw [closed] at messages
      cases chars : tenantId.value.toList with
      | nil => exact tenantId.value_ne (String.toList_injective chars)
      | cons c cs =>
        have accepted := tenantId.accepted
        simp only [acceptsIdentifier,Bool.and_eq_true,List.all_eq_true] at accepted
        have known := accepted.1.2 c (by rw [chars]; exact List.mem_cons_self)
        rw [chars,List.cons_append] at messages
        rw [← (List.cons.inj messages).1] at known
        exact absurd known (by decide)

end message

section samples

/-- Each character by as many letters as its code point. -/
def unary (text : String) : String := String.ofList (text.toList.flatMap fun c => List.replicate c.toNat 'a' ++ ['b'])

theorem unary_injective : Function.Injective unary := by
  intro a b same
  have chars := congrArg String.toList same
  unfold unary at chars
  rw [String.toList_ofList,String.toList_ofList] at chars
  apply String.toList_injective
  generalize a.toList = x at chars
  generalize b.toList = y at chars
  have free (n : Nat) : 'b' ∉ List.replicate n 'a' := by
    intro inside
    exact absurd (List.eq_of_mem_replicate inside) (by decide)
  induction x generalizing y with
  | nil =>
    cases y with
    | nil => rfl
    | cons d y => simp at chars
  | cons c x ih =>
    cases y with
    | nil => simp at chars
    | cons d y =>
      rw [List.flatMap_cons,List.flatMap_cons,List.append_assoc,List.append_assoc] at chars
      obtain ⟨units,rest⟩ := Separators.head_unique (free _) (free _) chars
      have codes : c.toNat = d.toNat := by
        have lengths := congrArg List.length units
        rwa [List.length_replicate,List.length_replicate] at lengths
      rw [Char.toNat_inj.mp codes,ih y rest]

theorem unary_lower (text : String) : Text.asciiCasing.lower (unary text) = unary text := by
  have letters : ∀ c ∈ (unary text).toList, c.toLower = c := by
    unfold unary
    rw [String.toList_ofList]
    intro c inside
    obtain ⟨d,_,inside⟩ := List.mem_flatMap.mp inside
    rcases List.mem_append.mp inside with first | last
    · rw [List.eq_of_mem_replicate first]
      rfl
    · rw [List.mem_singleton.mp last]
      rfl
  change String.ofList ((unary text).toList.map Char.toLower) = _
  rw [List.map_congr_left letters,List.map_id',String.ofList_toList]

def refund (targets : List String) (payload : List (String × Tree)) : ApprovalRequestRecord where
  tenantId := "tnt_acme"
  actionType := "refund"
  payload := payload
  targetEntities := targets
  estimatedCostUsd := 25 / 2
  policyVersion := "v1"
  expiresAt := "2026-09-01T00:00:00Z"
  payloadDigest := ""

theorem reordered_refund : computeApprovalDigest unary (refund ["cust_2","cust_1"] [("b",.int 2),("a",.int 1)]) =
    computeApprovalDigest unary (refund ["cust_1","cust_2"] [("a",.int 1),("b",.int 2)]) := by
  have plain : ∀ targets payload, (∀ s ∈ targets, s ≠ "" ∧ ',' ∉ s.toList ∧ '|' ∉ s.toList) → PlainMembers payload →
      (refund targets payload).Plain := by
    intro targets payload clear keys
    have texts : '|' ∉ "tnt_acme".toList ∧ '|' ∉ "refund".toList ∧ '|' ∉ "v1".toList ∧ '|' ∉ "2026-09-01T00:00:00Z".toList := by decide
    exact ⟨texts.1,texts.2.1,keys,clear,texts.2.2.1,texts.2.2.2⟩
  have a : PlainKey "a" := by decide
  have b : PlainKey "b" := by decide
  have first : PlainMembers [("b",.int 2),("a",.int 1)] := ⟨b,trivial,a,trivial,trivial⟩
  have second : PlainMembers [("a",.int 1),("b",.int 2)] := ⟨a,trivial,b,trivial,trivial⟩
  rw [client_digest_eq_iff unary_injective (plain _ _ (by decide) first) (plain _ _ (by decide) second)]
  refine ⟨rfl,rfl,?_,List.Perm.swap ..,rfl,rfl,rfl⟩
  exact (ordered_obj_iff (by decide)).mpr (List.Perm.swap ..)

def refundArtifact : ApprovalArtifact := ⟨"tnt_acme","refund",["cust_1"],.empty,"v1","TIER_1","2026-09-01T00:00:00Z","usr_maria"⟩

def sealedRefund : ApprovalRequestRecord :=
  { refund ["cust_1"] [] with payloadDigest := unary ((refundArtifact.asdict.dumps plainCompact PyValue.noDefault).getD "") }

theorem sealed_refund_refused : verifyApprovalRecordDigest unary Text.asciiCasing sealedRefund = false := by
  have written : (refundArtifact.asdict.dumps plainCompact PyValue.noDefault).isSome = true := by decide +kernel
  obtain ⟨text,same⟩ := Option.isSome_iff_exists.mp written
  have made : Approval.computeApprovalDigest unary refundArtifact = .ok sealedRefund.payloadDigest := by
    unfold Approval.computeApprovalDigest digestOf sealedRefund
    rw [same]
    rfl
  exact @backend_seal_refused unary Text.asciiCasing sealedRefund unary_injective unary_lower ⟨"tnt_acme",by decide⟩ rfl (.inl ⟨_,made⟩)

end samples

end RevPilot.Approval.WebClient
