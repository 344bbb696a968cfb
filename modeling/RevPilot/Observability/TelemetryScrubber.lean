import RevPilot.Library.Dict
import RevPilot.Library.Patterns
import RevPilot.Library.Redaction
import RevPilot.Shared.Errors

/-! Scrubbing of span attributes. Keys are written as text; a text under a sensitive
key is replaced whole only when the three substitutions leave it as it is, and
objects and arrays are searched whatever their key says. -/
namespace RevPilot.Observability
open Library Shared Redaction
open Library.Patterns

section patterns
variable (isWord : Char → Bool)

/-- A letter of `[a-z]` under `re.IGNORECASE`. -/
def isFoldedLetter (c : Char) : Bool := c.isAlpha || ['\u0130','\u0131','\u017f','\u212a'].contains c

def isBearerChar (c : Char) : Bool :=
  isFoldedLetter c || c.isDigit || ['-','.','_','~','+','/'].contains c

/-- `bearer\s+[a-z0-9\-\._~\+\/]+=*`. -/
def bearerPattern : Pattern :=
  .sequence [word "bearer",.several Text.isSpace,.several isBearerChar,.many (· == '=')]

def isMailboxChar (c : Char) : Bool := c.isAlphanum || ['.','_','%','+','-'].contains c

def isHostChar (c : Char) : Bool := c.isAlphanum || ['.','-'].contains c

/-- `[A-Za-z0-9._%+-]+@[A-Za-z0-9.-]+\.[A-Za-z]{2,7}`. -/
def emailPattern : Pattern :=
  .sequence [.several isMailboxChar,.one (· == '@'),.several isHostChar,.one (· == '.'),
    .one Char.isAlpha,.one Char.isAlpha,.upTo (.one Char.isAlpha) 5]

def isQuote (c : Char) : Bool := c == '"' || c == '\''

def credentialNames : Pattern := .oneOf [word "password",word "secret",word "api_key",word "token"]

/-- `["']?\s*[:=]\s*["']?([^"'\s]+)["']?`. -/
def credentialValue : Pattern :=
  .sequence [.optional (.one isQuote),.many Text.isSpace,.one (fun c => c == ':' || c == '='),.many Text.isSpace,
    .optional (.one isQuote),.several (fun c => !isQuote c && !Text.isSpace c),.optional (.one isQuote)]

/-- `\b` in front of the pattern. -/
def bearerAt (before : Option Char) (cs : List Char) : Option (List Char × List Char) :=
  if boundary isWord before cs.head? then
    (matchHead bearerPattern cs).map (fun rest => ("Bearer [REDACTED_BEARER_TOKEN]".toList,rest))
  else none

/-- The first group is the name as the text has it. -/
def credentialAt (before : Option Char) (cs : List Char) : Option (List Char × List Char) :=
  if boundary isWord before cs.head? then
    (ways credentialNames cs).findSome? (fun named => (matchHead credentialValue named).map (fun rest =>
      (cs.take (cs.length - named.length) ++ ": [REDACTED]".toList,rest)))
  else none

/-- `\b` on both sides of the pattern. -/
def emailAt (before : Option Char) (cs : List Char) : Option (List Char × List Char) :=
  if boundary isWord before cs.head? then
    ((ways emailPattern cs).find? (fun rest => boundary isWord (neighbour before cs rest) rest.head?)).map
      (fun rest => ("[REDACTED_EMAIL]".toList,rest))
  else none

def rewriteAll (matched : Option Char → List Char → Option (List Char × List Char)) (cs : List Char) : List Char :=
  rewrite matched cs.length none cs

def scrubLogPayload (rawLog : String) : String :=
  let bearers := rewriteAll (bearerAt isWord) rawLog.toList
  let credentials := rewriteAll (credentialAt isWord) bearers
  String.ofList (rewriteAll (emailAt isWord) credentials)

/-- Every replacement is longer than the mark of a sensitive value. -/
theorem rewriteAll_long {matched : Option Char → List Char → Option (List Char × List Char)}
    (long : ∀ before cs new rest, matched before cs = some (new,rest) → 10 < new.length) (cs : List Char) :
    rewriteAll matched cs = cs ∨ 10 < (rewriteAll matched cs).length := by
  rcases @rewrite_cases matched cs.length none cs with same | ⟨before,cs',new,rest,replaced,inside⟩
  · exact .inl same
  · exact .inr ((long before cs' new rest replaced).trans_le inside.length_le)

theorem bearerAt_long (before : Option Char) (cs new rest : List Char)
    (found : bearerAt isWord before cs = some (new,rest)) : 10 < new.length := by
  unfold bearerAt at found
  split at found
  next =>
    obtain ⟨_,_,same⟩ := Option.map_eq_some_iff.mp found
    obtain ⟨rfl,_⟩ := Prod.mk.inj same
    decide
  next => cases found

theorem credentialAt_long (before : Option Char) (cs new rest : List Char)
    (found : credentialAt isWord before cs = some (new,rest)) : 10 < new.length := by
  unfold credentialAt at found
  split at found
  next =>
    obtain ⟨named,_,found⟩ := List.exists_of_findSome?_eq_some found
    obtain ⟨_,_,same⟩ := Option.map_eq_some_iff.mp found
    obtain ⟨rfl,_⟩ := Prod.mk.inj same
    rw [List.length_append]
    have long : ": [REDACTED]".toList.length = 12 := rfl
    omega
  next => cases found

theorem emailAt_long (before : Option Char) (cs new rest : List Char)
    (found : emailAt isWord before cs = some (new,rest)) : 10 < new.length := by
  unfold emailAt at found
  split at found
  next =>
    obtain ⟨_,_,same⟩ := Option.map_eq_some_iff.mp found
    obtain ⟨rfl,_⟩ := Prod.mk.inj same
    decide
  next => cases found

/-- A text that the substitutions change does not become the mark. -/
theorem scrubLogPayload_ne_mark {s : String} (changed : scrubLogPayload isWord s ≠ s) :
    scrubLogPayload isWord s ≠ "[REDACTED]" := by
  intro equal
  have mark : (scrubLogPayload isWord s).toList.length = 10 := by
    rw [equal]
    rfl
  simp only [scrubLogPayload,String.toList_ofList] at mark changed
  rcases rewriteAll_long (emailAt_long isWord) (rewriteAll (credentialAt isWord) (rewriteAll (bearerAt isWord) s.toList))
    with third | third
  · rw [third] at mark changed
    rcases rewriteAll_long (credentialAt_long isWord) (rewriteAll (bearerAt isWord) s.toList) with second | second
    · rw [second] at mark changed
      rcases rewriteAll_long (bearerAt_long isWord) s.toList with first | first
      · rw [first,String.ofList_toList] at changed
        exact changed rfl
      · omega
    · omega
  · omega

end patterns

def sensitiveKeyNames : List String :=
  ["password","secret","api_key","apikey","token","auth_token","bearer_token","access_token","refresh_token",
    "authorization","private_key","credential","credentials"]

/-- `str(k)`. -/
def keyText : PyKey → String
  | .str s => s
  | .int i => i.repr
  | .bool true => "True"
  | .bool false => "False"
  | .float x =>
    match x.value with
    | .finite _ => String.ofList x.text
    | .infinite negative => if negative then "-inf" else "inf"
    | .nan => "nan"
  | .none => "None"

section scrubber
variable (casing : Text.Casing) (isWord : Char → Bool)

/-- `key_str.lower().replace("-", "_").replace(".", "_")`. -/
def keyNormalized (keyStr : String) : String :=
  Text.replace (Text.replace (casing.lower keyStr) "-" "_") "." "_"

def isSensitiveName (keyStr : String) : Bool :=
  let normalized := keyNormalized casing keyStr
  sensitiveKeyNames.any (fun s => s == normalized || Text.endsWith normalized ("_" ++ s))

/-- `cleaned[key_str] = …`, entry after entry. -/
def collect (entries : List (String × PyValue)) : List (String × PyValue) :=
  entries.foldl (fun cleaned entry => Dict.assign cleaned entry.1 entry.2) []

def asMembers (entries : List (String × PyValue)) : List (PyKey × PyValue) := entries.map (fun e => (.str e.1,e.2))

/-- A text under a sensitive key. -/
def scrubSensitiveText (v : String) : String :=
  let scrubbed := scrubLogPayload isWord v
  if scrubbed = v then "[REDACTED]" else scrubbed

/-- The branches for a value, `searched` being what the recursion makes of an object or an array. -/
def cleanedValue (sensitive : Bool) (searched : PyValue) : PyValue → PyValue
  | .dict _ => searched
  | .list _ => searched
  | .str s => .str (if sensitive then scrubSensitiveText isWord s else scrubLogPayload isWord s)
  | value => if sensitive then .str "[REDACTED]" else value

mutual
/-- `_scrub_dict_recursive` and `_scrub_list_recursive`; other values are returned as they are. -/
def scrubValue : PyValue → PyValue
  | .dict members => .dict (asMembers (collect (scrubDictRecursive members)))
  | .list items => .list (scrubListRecursive items)
  | .str s => .str (scrubLogPayload isWord s)
  | value => value
/-- The entries in the order of the loop. -/
def scrubDictRecursive : List (PyKey × PyValue) → List (String × PyValue)
  | [] => []
  | (k,v) :: members =>
    let keyStr := keyText k
    (keyStr,cleanedValue isWord (isSensitiveName casing keyStr) (scrubValue v) v) :: scrubDictRecursive members
def scrubListRecursive : List PyValue → List PyValue
  | [] => []
  | item :: items => scrubValue item :: scrubListRecursive items
end

def scrubAttributes (attributes : List (PyKey × PyValue)) : List (PyKey × PyValue) :=
  asMembers (collect (scrubDictRecursive casing isWord attributes))

theorem collect_distinct {entries : List (String × PyValue)} (distinct : (entries.map Prod.fst).Nodup) :
    collect entries = entries := by
  suffices whole : ∀ done : List (String × PyValue), ((done ++ entries).map Prod.fst).Nodup →
      entries.foldl (fun cleaned entry => Dict.assign cleaned entry.1 entry.2) done = done ++ entries from
    whole [] distinct
  clear distinct
  induction entries with
  | nil => simp
  | cons entry entries ih =>
    intro done distinct
    have absent : entry.1 ∉ done.map Prod.fst := by
      rw [List.map_append,List.map_cons] at distinct
      exact fun inside => List.disjoint_of_nodup_append distinct inside List.mem_cons_self
    rw [List.foldl_cons,Dict.assign_absent absent]
    simpa using ih (done ++ [entry]) (by simpa using distinct)

/-- The rule of the telemetry. -/
def telemetryRules : Rules PyError where
  member key value :=
    match value with
    | .dict _ | .list _ => .ok none
    | .str s => .ok (if isSensitiveName casing (keyText key) then some (.str (scrubSensitiveText isWord s)) else none)
    | _ => .ok (if isSensitiveName casing (keyText key) then some (.str "[REDACTED]") else none)
  text := scrubLogPayload isWord

theorem scrubDictRecursive_keys (members : List (PyKey × PyValue)) :
    (scrubDictRecursive casing isWord members).map Prod.fst = members.map (fun m => keyText m.1) := by
  induction members with
  | nil => rfl
  | cons m members ih => rw [scrubDictRecursive,List.map_cons,ih,List.map_cons]

theorem collect_native {members : List (PyKey × PyValue)} (native : PyValue.Native (.dict members)) :
    collect (scrubDictRecursive casing isWord members) = scrubDictRecursive casing isWord members := by
  apply collect_distinct
  rw [scrubDictRecursive_keys]
  have keys : members.map (fun m => keyText m.1) = (members.map Prod.fst).map keyText := by simp [Function.comp_def]
  rw [keys]
  apply List.Nodup.map_on _ native.1
  intro k first l second same
  obtain ⟨m,inside,rfl⟩ := List.mem_map.mp first
  obtain ⟨n,inside',rfl⟩ := List.mem_map.mp second
  obtain ⟨s,text⟩ := ((PyValue.nativeMembers_iff members).mp native.2 m inside).1
  obtain ⟨t,text'⟩ := ((PyValue.nativeMembers_iff members).mp native.2 n inside').1
  rw [text,text'] at same ⊢
  exact congrArg PyKey.str same

theorem slot_cleaned {s : String} {v searched : PyValue} (inner : scrub (telemetryRules casing isWord) v = .ok searched) :
    slot (telemetryRules casing isWord) (.str s) v =
      .ok (cleanedValue isWord (isSensitiveName casing s) searched v) := by
  cases v with
  | dict members => rwa [slot_searched _ rfl]
  | list items => rwa [slot_searched _ rfl]
  | str t =>
    cases inner
    cases sensitive : isSensitiveName casing s <;>
      simp [slot,telemetryRules,keyText,sensitive,cleanedValue,scrub,bind,Except.bind]
  | none | bool b | int i | float x | tuple items | other text truth =>
    cases inner
    cases sensitive : isSensitiveName casing s <;>
      simp [slot,telemetryRules,keyText,sensitive,cleanedValue,scrub,bind,Except.bind]

mutual
theorem scrubValue_eq : (v : PyValue) → v.Native →
    scrub (telemetryRules casing isWord) v = .ok (scrubValue casing isWord v)
  | .none, _ | .bool _, _ | .int _, _ | .float _, _ | .str _, _ => rfl
  | .list items, native => by
    rw [scrub_list _ (scrubListRecursive_eq items native),scrubValue]
  | .dict members, native => by
    rw [scrub_dict _ (scrubDictRecursive_eq members native.2),scrubValue,collect_native casing isWord native]
theorem scrubListRecursive_eq : (items : List PyValue) → PyValue.NativeItems items →
    scrubItems (telemetryRules casing isWord) items = .ok (scrubListRecursive casing isWord items)
  | [], _ => rfl
  | item :: items, native =>
    scrubItems_cons _ (scrubValue_eq item native.1) (scrubListRecursive_eq items native.2)
theorem scrubDictRecursive_eq : (members : List (PyKey × PyValue)) → PyValue.NativeMembers members →
    scrubMembers (telemetryRules casing isWord) members = .ok (asMembers (scrubDictRecursive casing isWord members))
  | [], _ => rfl
  | (k,v) :: members, native => by
    obtain ⟨s,text⟩ := native.1
    have others := scrubDictRecursive_eq members native.2.2
    have inner := scrubValue_eq v native.2.1
    subst text
    exact scrubMembers_cons _ (slot_cleaned casing isWord inner) others
end

def hiddenName (key : PyKey) : Bool := isSensitiveName casing (keyText key)

/-- Neither an object nor an array nor a text that the substitutions change. -/
def isUnchanged : PyValue → Bool
  | .dict _ => false
  | .list _ => false
  | .str s => scrubLogPayload isWord s == s
  | _ => true

def nameCheck (key : PyKey) (value : PyValue) : Option Bool :=
  if hiddenName casing key then some (isUnchanged isWord value) else none

/-- Every value under a sensitive name is replaced whole. -/
def Concealed : PyValue → Prop := Guarded (nameCheck casing isWord)

theorem nameCheck_some {key : PyKey} {value : PyValue} {passed : Bool}
    (checked : nameCheck casing isWord key value = some passed) :
    isSensitiveName casing (keyText key) = true ∧ isUnchanged isWord value = passed := by
  unfold nameCheck at checked
  split at checked
  next sensitive => exact ⟨sensitive,Option.some.inj checked⟩
  next => cases checked

theorem telemetryRules_masks : Masks (telemetryRules casing isWord) (nameCheck casing isWord) (.str "[REDACTED]") where
  replaced key value checked := by
    obtain ⟨sensitive,unchanged⟩ := nameCheck_some casing isWord checked
    cases value with
    | str s =>
      have same : scrubLogPayload isWord s = s := by simpa [isUnchanged] using unchanged
      simp [telemetryRules,sensitive,scrubSensitiveText,same]
    | dict | list => cases unchanged
    | none | bool | int | float | tuple | other => simp [telemetryRules,sensitive]
  searched s value unchecked := by
    unfold nameCheck hiddenName at unchecked
    split at unchecked
    next => cases unchecked
    next other => cases value <;> simp [telemetryRules,other]
  exposed key value out checked ok := by
    obtain ⟨sensitive,changed⟩ := nameCheck_some casing isWord checked
    cases value with
    | dict members =>
      rw [slot_searched _ rfl] at ok
      obtain ⟨_,_,rfl⟩ := scrub_dict_cases _ ok
      simp
    | list items =>
      rw [slot_searched _ rfl] at ok
      obtain ⟨_,_,rfl⟩ := scrub_list_cases _ ok
      simp
    | str s =>
      have differs : scrubLogPayload isWord s ≠ s := by simpa [isUnchanged] using changed
      have decided : (telemetryRules casing isWord).member key (.str s) = .ok (some (.str (scrubLogPayload isWord s))) := by
        simp [telemetryRules,sensitive,scrubSensitiveText,differs]
      rw [slot_replaced _ decided] at ok
      cases ok
      simpa using scrubLogPayload_ne_mark isWord differs
    | none | bool | int | float | tuple | other => cases changed

theorem telemetryRules_decides : Decides (telemetryRules casing isWord) := by
  intro key value
  cases value <;> exact ⟨_,rfl⟩

theorem scrubAttributes_hides_iff {a b : List (PyKey × PyValue)} (json : PyValue.Native (.dict a))
    (json' : PyValue.Native (.dict b)) (same : SameOutside (hiddenName casing) (.dict a) (.dict b))
    (concealed : Concealed casing isWord (.dict a)) :
    scrubAttributes casing isWord a = scrubAttributes casing isWord b ↔ Concealed casing isWord (.dict b) := by
  have checked (key : PyKey) (value : PyValue) :
      (nameCheck casing isWord key value).isSome = hiddenName casing key := by
    unfold nameCheck
    cases hiddenName casing key <;> rfl
  have outputs := scrub_eq_iff (telemetryRules_masks casing isWord) checked (telemetryRules_decides casing isWord) json
    same concealed
  rw [scrubValue_eq casing isWord _ json,scrubValue_eq casing isWord _ json',Except.ok.injEq,scrubValue,scrubValue,
    PyValue.dict.injEq] at outputs
  exact outputs

end scrubber

section samples

def plainWord (c : Char) : Bool := c.isAlphanum || c == '_'

/-- A span with one attribute under a sensitive name. -/
def sessionSpan (password : PyValue) : List (PyKey × PyValue) := [(.str "route",.str "/login"),(.str "user.password",password)]

theorem nested_password_shown :
    SameOutside (hiddenName Text.asciiCasing) (.dict (sessionSpan (.dict [(.str "value",.str "k1")])))
        (.dict (sessionSpan (.dict [(.str "value",.str "k2")]))) ∧
      scrubAttributes Text.asciiCasing plainWord (sessionSpan (.dict [(.str "value",.str "k1")])) ≠
        scrubAttributes Text.asciiCasing plainWord (sessionSpan (.dict [(.str "value",.str "k2")])) := by
  have sensitive : hiddenName Text.asciiCasing (.str "user.password") = true := rfl
  have first : scrubAttributes Text.asciiCasing plainWord (sessionSpan (.dict [(.str "value",.str "k1")])) =
      sessionSpan (.dict [(.str "value",.str "k1")]) := rfl
  have second : scrubAttributes Text.asciiCasing plainWord (sessionSpan (.dict [(.str "value",.str "k2")])) =
      sessionSpan (.dict [(.str "value",.str "k2")]) := rfl
  refine ⟨⟨_,rfl,_,_,rfl,.inr rfl,_,_,rfl,.inl sensitive,rfl⟩,?_⟩
  rw [first,second]
  simp [sessionSpan]

/-- Two passwords that are plain texts leave the same span. -/
theorem plain_password_concealed :
    scrubAttributes Text.asciiCasing plainWord (sessionSpan (.str "k1")) =
        scrubAttributes Text.asciiCasing plainWord (sessionSpan (.str "k2")) ↔
      Concealed Text.asciiCasing plainWord (.dict (sessionSpan (.str "k2"))) := by
  have sensitive : hiddenName Text.asciiCasing (.str "user.password") = true := rfl
  have json : PyValue.Native (.dict (sessionSpan (.str "k1"))) := by
    simp [sessionSpan,PyValue.Native,PyValue.NativeMembers]
  have json' : PyValue.Native (.dict (sessionSpan (.str "k2"))) := by
    simp [sessionSpan,PyValue.Native,PyValue.NativeMembers]
  exact scrubAttributes_hides_iff Text.asciiCasing plainWord json json'
    ⟨_,rfl,_,_,rfl,.inr rfl,_,_,rfl,.inl sensitive,rfl⟩ ⟨trivial,rfl,trivial⟩

end samples
end RevPilot.Observability
