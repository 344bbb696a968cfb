import RevPilot.Approval.Digest

/-! Secret scrubbing of outbound payloads, and the canonical digest of what remains. -/
namespace RevPilot.ToolGateway
open Library Shared

def sensitiveKeys : List String :=
  ["token","token_id","token_value","token_secret","secret","api_key","apikey","authorization","auth_token",
    "access_token","bearer","password","private_key","credential","secret_key","client_secret"]

/-- `[A-Za-z0-9_\-\.]` without regard to case, which also takes four letters
that fold to ASCII ones. -/
def isTokenChar (c : Char) : Bool :=
  c.isAlphanum || ['_','-','.','\u0130','\u0131','\u017f','\u212a'].contains c

/-- What follows a match of `Bearer\s+[A-Za-z0-9_\-\.]+` at the head of the text. -/
def afterBearer (cs : List Char) : Option (List Char) :=
  let spaces := cs.drop 6
  let token := spaces.dropWhile Text.isSpace
  let rest := token.dropWhile isTokenChar
  if (cs.take 6).map Char.toLower = "bearer".toList ∧ token.length < spaces.length ∧ rest.length < token.length then
    some rest
  else none

/-- `BEARER_PATTERN.sub("Bearer [REDACTED]", s)`. -/
def redactBearer (s : String) : String :=
  String.ofList (Text.substitute afterBearer "Bearer [REDACTED]".toList s.toList.length s.toList)

/-- `BEARER_PATTERN.search(s)`. -/
def hasBearer (s : String) : Bool := s.toList.tails.any (fun cs => (afterBearer cs).isSome)

theorem isSpace_of_isTokenChar {c : Char} (token : isTokenChar c = true) : Text.isSpace c = false := by
  rw [isTokenChar,Bool.or_eq_true] at token
  rcases token with letter | other
  · have range := Text.isAlphanum_cases c letter
    simp only [Text.isSpace,Bool.or_eq_false_iff,Bool.and_eq_false_iff,decide_eq_false_iff_not,beq_eq_false_iff_ne]
    omega
  · have tested : (['_','-','.','\u0130','\u0131','\u017f','\u212a'] : List Char).all
        (fun c => decide (Text.isSpace c = false)) = true := rfl
    exact Text.chars_of_all tested c (by simpa using other)

/-- A text that a match of the pattern stands at the head of. -/
def BearerHead (cs : List Char) : Prop :=
  ∃ word gap token rest, cs = word ++ gap ++ token :: rest ∧ word.map Char.toLower = "bearer".toList ∧
    gap ≠ [] ∧ (∀ c ∈ gap, Text.isSpace c = true) ∧ isTokenChar token = true

theorem afterBearer_isSome_iff (cs : List Char) : (afterBearer cs).isSome = true ↔ BearerHead cs := by
  have parts := List.takeWhile_append_dropWhile (p := Text.isSpace) (l := cs.drop 6)
  constructor
  · intro found
    unfold afterBearer at found
    dsimp only at found
    split at found
    next conditions =>
      obtain ⟨word,gap,token⟩ := conditions
      cases tail : (cs.drop 6).dropWhile Text.isSpace with
      | nil =>
        rw [tail] at token
        exact absurd token (by simp)
      | cons x t =>
        have first : isTokenChar x = true := by
          by_contra other
          rw [tail,List.dropWhile_cons_of_neg (by simpa using other)] at token
          exact absurd token (lt_irrefl _)
        refine ⟨cs.take 6,(cs.drop 6).takeWhile Text.isSpace,x,t,?_,word,?_,?_,first⟩
        · rw [List.append_assoc,← tail,parts,List.take_append_drop]
        · intro none
          rw [none,List.nil_append] at parts
          rw [parts] at gap
          exact absurd gap (lt_irrefl _)
        · intro c inside
          exact List.mem_takeWhile_imp inside
    next => exact absurd found (by simp)
  · rintro ⟨word,gap,token,rest,rfl,lower,some,blank,good⟩
    have six : word.length = 6 := by
      have length := congrArg List.length lower
      rw [List.length_map] at length
      exact length
    have front : (word ++ gap ++ token :: rest).take 6 = word := by
      rw [List.append_assoc,← six,List.take_left]
    have back : (word ++ gap ++ token :: rest).drop 6 = gap ++ token :: rest := by
      rw [List.append_assoc,← six,List.drop_left]
    have skipped : (gap ++ token :: rest).dropWhile Text.isSpace = token :: rest := by
      rw [List.dropWhile_append_of_pos blank,List.dropWhile_cons_of_neg]
      rw [isSpace_of_isTokenChar good]
      simp
    have read : ((token :: rest).dropWhile isTokenChar).length < (token :: rest).length := by
      rw [List.dropWhile_cons_of_pos good]
      exact Nat.lt_succ_of_le (List.dropWhile_suffix _).length_le
    have wide : (token :: rest).length < (gap ++ token :: rest).length := by
      rw [List.length_append]
      have := List.length_pos_iff.mpr some
      omega
    unfold afterBearer
    dsimp only
    rw [front,back,skipped,if_pos ⟨lower,wide,read⟩]
    rfl

/-- What the pattern sees of a code point. -/
def reading (c : Char) : Char × Bool × Bool := (c.toLower,Text.isSpace c,isTokenChar c)

theorem bearerHead_of_reading {cs ds : List Char} (same : cs.map reading = ds.map reading) (found : BearerHead cs) :
    BearerHead ds := by
  obtain ⟨word,gap,token,rest,rfl,lower,some,blank,good⟩ := found
  simp only [List.map_append,List.map_cons] at same
  obtain ⟨front,back,rfl,left,right⟩ := List.map_eq_append_iff.mp same.symm
  obtain ⟨word',gap',rfl,words,gaps⟩ := List.map_eq_append_iff.mp left
  obtain ⟨token',rest',rfl,tokens,-⟩ := List.map_eq_cons_iff.mp right
  have lowered (xs ys : List Char) (same : xs.map reading = ys.map reading) : xs.map Char.toLower = ys.map Char.toLower := by
    simpa [reading,Function.comp_def] using congrArg (List.map Prod.fst) same
  have spaces : gap'.map Text.isSpace = gap.map Text.isSpace := by
    simpa [reading,Function.comp_def] using congrArg (List.map (fun r => r.2.1)) gaps
  refine ⟨word',gap',token',rest',rfl,(lowered _ _ words).trans lower,?_,?_,?_⟩
  · rintro rfl
    exact some (List.map_eq_nil_iff.mp spaces.symm)
  · intro c inside
    have member : Text.isSpace c ∈ gap.map Text.isSpace := spaces ▸ List.mem_map_of_mem inside
    obtain ⟨d,inside',same⟩ := List.mem_map.mp member
    rw [← same]
    exact blank d inside'
  · rw [show isTokenChar token' = isTokenChar token from congrArg (fun r => r.2.2) tokens]
    exact good

theorem prefix_of_stop {cs front back : List Char} {stop : Char} (lead : cs <+: front ++ stop :: back)
    (free : stop ∉ cs) : cs <+: front := by
  rcases List.prefix_or_prefix_of_prefix lead (List.prefix_append front (stop :: back)) with inside | ⟨more,rfl⟩
  · exact inside
  · have tail : more <+: stop :: back := (List.prefix_append_right_inj front).mp lead
    cases more with
    | nil => simp
    | cons c more =>
      obtain ⟨rfl,-⟩ := List.cons_prefix_cons.mp tail
      exact absurd (by simp) free

/-- A match does not reach past the blank and the bracket of the replacement. -/
theorem bearerHead_of_mark {front back : List Char} (found : BearerHead (front ++ ' ' :: '[' :: back)) :
    BearerHead front := by
  obtain ⟨word,gap,token,rest,split,lower,some,blank,good⟩ := found
  have lead : word ++ gap ++ [token] <+: (front ++ [' ']) ++ '[' :: back := ⟨rest,by simp [split]⟩
  have free : '[' ∉ word ++ gap ++ [token] := by
    simp only [List.mem_append,List.mem_singleton,not_or]
    refine ⟨⟨?_,?_⟩,?_⟩
    · intro inside
      have member : '[' ∈ "bearer".toList := by
        rw [← lower]
        exact List.mem_map.mpr ⟨'[',inside,rfl⟩
      exact absurd member (by decide)
    · intro inside
      exact absurd (blank _ inside) (by decide)
    · rintro rfl
      exact absurd good (by decide)
  rcases List.prefix_concat_iff.mp (prefix_of_stop lead free) with whole | ⟨tail,inside⟩
  · have last := congrArg List.getLast? whole
    simp only [List.getLast?_append,List.getLast?_singleton,Option.some_or] at last
    obtain rfl := Option.some.inj last
    exact absurd good (by decide)
  · refine ⟨word,gap,token,tail,?_,lower,some,blank,good⟩
    simpa using inside.symm

theorem reading_of_toLower {c u l : Char} (shift : u.toNat + 32 = l.toNat) (lower : c.toLower = l) :
    c = u ∨ c = l := by
  rcases Text.toLower_cases c with ⟨_,_,raised⟩ | ⟨_,same⟩
  · refine .inl (Char.toNat_inj.mp ?_)
    rw [lower] at raised
    omega
  · exact .inr (same.symm.trans lower)

/-- Both cases of a letter of the word read alike. -/
theorem reading_word {word : List Char} (lower : word.map Char.toLower = "bearer".toList) :
    word.map reading = "bearer".toList.map (fun l => (l,false,true)) := by
  rw [← lower,List.map_map]
  apply List.map_congr_left
  intro c inside
  have letter : c.toLower ∈ "bearer".toList := lower ▸ List.mem_map_of_mem inside
  simp only [show "bearer".toList = ['b','e','a','r','e','r'] from rfl,List.mem_cons,List.not_mem_nil,or_false] at letter
  have read : c = 'B' ∨ c = 'b' ∨ c = 'E' ∨ c = 'e' ∨ c = 'A' ∨ c = 'a' ∨ c = 'R' ∨ c = 'r' := by
    rcases letter with b | e | a | r | e | r
    · rcases reading_of_toLower (u := 'B') rfl b with rfl | rfl <;> simp
    · rcases reading_of_toLower (u := 'E') rfl e with rfl | rfl <;> simp
    · rcases reading_of_toLower (u := 'A') rfl a with rfl | rfl <;> simp
    · rcases reading_of_toLower (u := 'R') rfl r with rfl | rfl <;> simp
    · rcases reading_of_toLower (u := 'E') rfl e with rfl | rfl <;> simp
    · rcases reading_of_toLower (u := 'R') rfl r with rfl | rfl <;> simp
  rcases read with rfl | rfl | rfl | rfl | rfl | rfl | rfl | rfl <;> rfl

theorem bearerHead_replaced {front word rest back : List Char} (lower : word.map Char.toLower = "bearer".toList)
    (found : BearerHead (front ++ "Bearer [REDACTED]".toList ++ back)) : BearerHead (front ++ word ++ rest) := by
  have marked : BearerHead (front ++ "Bearer".toList ++ ' ' :: '[' :: ("REDACTED]".toList ++ back)) := by
    simpa using found
  have short : BearerHead (front ++ "Bearer".toList) := bearerHead_of_mark marked
  have letters : word.map reading = "Bearer".toList.map reading := by
    have capital : "Bearer".toList.map Char.toLower = "bearer".toList := rfl
    rw [reading_word lower,reading_word capital]
  have same : (front ++ "Bearer".toList).map reading = (front ++ word).map reading := by
    rw [List.map_append,List.map_append,letters]
  obtain ⟨w,gap,token,tail,split,lower,some,blank,good⟩ := bearerHead_of_reading same short
  exact ⟨w,gap,token,tail ++ rest,by simp [split],lower,some,blank,good⟩

theorem afterBearer_word {cs rest : List Char} (found : afterBearer cs = some rest) :
    (cs.take 6).map Char.toLower = "bearer".toList ∧ rest.length < cs.length := by
  unfold afterBearer at found
  dsimp only at found
  split at found
  next conditions =>
    obtain ⟨word,gap,token⟩ := conditions
    obtain rfl := Option.some.inj found
    refine ⟨word,token.trans (gap.trans_le ?_)⟩
    rw [List.length_drop]
    omega
  next => cases found

/-- A substituted text begins as the text did, up to the letters of the first match. -/
theorem substitute_split (left : Nat) (cs : List Char) :
    Text.substitute afterBearer "Bearer [REDACTED]".toList left cs = cs ∨
      ∃ front word rest back, cs = front ++ word ++ rest ∧ word.map Char.toLower = "bearer".toList ∧
        Text.substitute afterBearer "Bearer [REDACTED]".toList left cs =
          front ++ "Bearer [REDACTED]".toList ++ back := by
  induction left generalizing cs with
  | zero => exact .inl rfl
  | succ left ih =>
    cases found : afterBearer cs with
    | some rest =>
      refine .inr ⟨[],cs.take 6,cs.drop 6,Text.substitute afterBearer "Bearer [REDACTED]".toList left rest,
        by simp,(afterBearer_word found).1,?_⟩
      rw [Text.substitute_match found]
      rfl
    | none =>
      cases cs with
      | nil => exact .inl (Text.substitute_nil found _)
      | cons c cs =>
        rw [Text.substitute_skip found]
        rcases ih cs with same | ⟨front,word,rest,back,split,lower,replaced⟩
        · exact .inl (by rw [same])
        · exact .inr ⟨c :: front,word,rest,back,by simp [split],lower,by rw [replaced]; rfl⟩

theorem bearerHead_first {c : Char} {cs : List Char} (found : BearerHead (c :: cs)) : c.toLower = 'b' := by
  obtain ⟨word,gap,token,rest,split,lower,-⟩ := found
  cases word with
  | nil => cases lower
  | cons d word =>
    obtain ⟨rfl,-⟩ := List.cons_eq_cons.mp split
    exact (List.cons_eq_cons.mp lower).1

theorem not_bearerHead_mark {front : List Char} (suffix : front <:+ "Bearer [REDACTED]".toList) (some : front ≠ [])
    (back : List Char) : ¬ BearerHead (front ++ back) := by
  intro found
  cases front with
  | nil => exact some rfl
  | cons c front =>
    have letter := bearerHead_first found
    have capital : c ∉ "earer [REDACTED]".toList := by
      intro member
      have tested : ("earer [REDACTED]".toList).all (fun c => decide (c.toLower ≠ 'b')) = true := rfl
      exact Text.chars_of_all tested c member letter
    rcases List.suffix_cons_iff.mp suffix with whole | later
    · have parts : c :: front = "Bearer".toList ++ ' ' :: '[' :: "REDACTED]".toList := whole
      rw [parts,List.append_assoc] at found
      obtain ⟨word,gap,token,rest,split,lower,some,_⟩ := bearerHead_of_mark found
      have lengths := congrArg List.length split
      have six := congrArg List.length lower
      have wide := List.length_pos_iff.mpr some
      simp only [List.length_append,List.length_cons,List.length_map] at lengths six
      rw [six] at lengths
      have short : "Bearer".toList.length = "bearer".toList.length := rfl
      omega
    · exact capital (later.subset List.mem_cons_self)

theorem substitute_no_bearer (left : Nat) (cs : List Char) (enough : cs.length ≤ left) (tail : List Char)
    (inside : tail <:+ Text.substitute afterBearer "Bearer [REDACTED]".toList left cs) : ¬ BearerHead tail := by
  induction left generalizing cs tail with
  | zero =>
    obtain rfl := List.length_eq_zero_iff.mp (Nat.le_zero.mp enough)
    obtain rfl := List.suffix_nil.mp inside
    rintro ⟨word,gap,token,rest,split,-⟩
    exact absurd split (by simp)
  | succ left ih =>
    cases found : afterBearer cs with
    | some rest =>
      have shorter := (afterBearer_word found).2
      rw [Text.substitute_match found] at inside
      rcases List.suffix_or_suffix_of_suffix inside (List.suffix_append _ _) with later | ⟨front,whole⟩
      · exact ih rest (by omega) tail later
      · subst whole
        by_cases some : front = []
        · subst some
          exact ih rest (by omega) _ List.suffix_rfl
        · obtain ⟨before,split⟩ := inside
          rw [← List.append_assoc] at split
          exact not_bearerHead_mark ⟨before,List.append_cancel_right split⟩ some _
    | none =>
      cases cs with
      | nil =>
        rw [Text.substitute_nil found] at inside
        obtain rfl := List.suffix_nil.mp inside
        rintro ⟨word,gap,token,rest,split,-⟩
        exact absurd split (by simp)
      | cons c cs =>
        rw [Text.substitute_skip found] at inside
        rcases List.suffix_cons_iff.mp inside with rfl | later
        · intro head
          have original : BearerHead (c :: cs) := by
            rcases substitute_split left cs with same | ⟨front,word,rest,back,split,lower,replaced⟩
            · rwa [same] at head
            · rw [replaced] at head
              rw [split]
              rw [← List.cons_append,← List.cons_append] at head ⊢
              exact bearerHead_replaced lower head
          rw [← afterBearer_isSome_iff,found] at original
          cases original
        · exact ih cs (Nat.le_of_succ_le_succ enough) tail later

theorem hasBearer_iff (s : String) : hasBearer s = true ↔ ∃ tail, tail <:+ s.toList ∧ BearerHead tail := by
  simp only [hasBearer,List.any_eq_true,List.mem_tails,afterBearer_isSome_iff]

/-- A redacted text has no match left. -/
theorem hasBearer_redactBearer (s : String) : hasBearer (redactBearer s) = false := by
  rw [Bool.eq_false_iff]
  intro found
  obtain ⟨tail,inside,head⟩ := (hasBearer_iff _).mp found
  rw [redactBearer,String.toList_ofList] at inside
  exact substitute_no_bearer _ _ le_rfl tail inside head

def redacted : PyValue → PyValue
  | .str s => if hasBearer s then .str (redactBearer s) else .str "[REDACTED]"
  | _ => .str "[REDACTED]"

/-- The branch for plain texts. -/
def scrubText (knownSecrets : List String) (s : String) : String :=
  knownSecrets.foldl
    (fun val secret => if secret ≠ "" ∧ Text.contains val secret then Text.replace val secret "[REDACTED]" else val)
    (if hasBearer s then redactBearer s else s)

def isContainer : PyValue → Bool
  | .dict _ => true
  | .list _ => true
  | _ => false

section scrub
variable (casing : Text.Casing)

/-- `any(sens in k.lower() for sens in SENSITIVE_KEYS)`; only a text has `lower`. -/
def isSensitive : PyKey → Except PyError Bool
  | .str key => .ok (sensitiveKeys.any (fun sens => Text.contains (casing.lower key) sens))
  | _ => .error .attributeError

mutual
def scrubSecrets (knownSecrets : List String) : PyValue → Except PyError PyValue
  | .dict members => do return .dict (← scrubMembers knownSecrets members)
  | .list items => do return .list (← scrubItems knownSecrets items)
  | .str s => .ok (.str (scrubText knownSecrets s))
  | value => .ok value
def scrubMembers (knownSecrets : List String) : List (PyKey × PyValue) → Except PyError (List (PyKey × PyValue))
  | [] => .ok []
  | (key,value) :: members => do
    -- a container is searched whatever its key says
    let sensitive ← if isContainer value then .ok false else isSensitive casing key
    let scrubbed ← if sensitive then .ok (redacted value) else scrubSecrets knownSecrets value
    return (key,scrubbed) :: (← scrubMembers knownSecrets members)
def scrubItems (knownSecrets : List String) : List PyValue → Except PyError (List PyValue)
  | [] => .ok []
  | item :: items => do
    let scrubbed ← scrubSecrets knownSecrets item
    return scrubbed :: (← scrubItems knownSecrets items)
end

end scrub

/-- Canonical JSON with `default=str`, then SHA-256. -/
def computeCanonicalDigest (sha256 : String → String) (data : PyValue) : Except PyError String :=
  match data.dumps Approval.asciiCompact PyValue.defaultStr with
  | some text => .ok (sha256 text)
  | none => .error .typeError

example : redactBearer "auth: bearer  abc.def, Bearer x" = "auth: Bearer [REDACTED], Bearer [REDACTED]" := by
  decide +kernel

end RevPilot.ToolGateway
