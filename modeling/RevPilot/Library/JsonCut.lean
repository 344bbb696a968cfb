import RevPilot.Library.Json

/-! Where a JSON text may be cut. With blanks after its colons, the text of a tree has no
proper end that follows a colon and is the text of an object: outside a string a blank
stands there, and inside one the quotation marks would not come out even. -/
namespace RevPilot.Library.JsonText

/-- Where a reader stands: outside a string, inside one, or behind a backslash in one. -/
inductive Mode : Type
  | outside | inside | escaped

def Mode.next : Mode → Char → Mode
  | .outside, c => if c = '"' then .inside else .outside
  | .inside, c => if c = '"' then .outside else if c = '\\' then .escaped else .inside
  | .escaped, _ => .inside

def Mode.scan (mode : Mode) (text : List Char) : Mode := text.foldl Mode.next mode

/-- Outside the strings there is no backslash, and every colon is followed by a blank. -/
def Calm : Mode → List Char → Prop
  | _, [] => True
  | mode, c :: text =>
    (mode = .outside → c ≠ '\\' ∧ (c = ':' → text.head? = some ' ')) ∧ Calm (mode.next c) text

theorem Mode.scan_append (mode : Mode) (xs ys : List Char) : mode.scan (xs ++ ys) = (mode.scan xs).scan ys :=
  List.foldl_append

theorem calm_rest {mode : Mode} {xs ys : List Char} (calm : Calm mode (xs ++ ys)) : Calm (mode.scan xs) ys := by
  induction xs generalizing mode with
  | nil => exact calm
  | cons c xs ih => exact ih calm.2

/-- A piece that begins and ends in the mode and disturbs nothing. -/
structure Piece (mode : Mode) (text : List Char) : Prop where
  ends : mode.scan text = mode
  calm : ∀ rest, Calm mode rest → Calm mode (text ++ rest)

namespace Piece
variable {mode : Mode}

theorem nil : Piece mode [] := ⟨rfl,fun _ calm => calm⟩

theorem append {xs ys : List Char} (first : Piece mode xs) (second : Piece mode ys) : Piece mode (xs ++ ys) where
  ends := by rw [Mode.scan_append,first.ends,second.ends]
  calm := by
    intro rest calm
    rw [List.append_assoc]
    exact first.calm _ (second.calm _ calm)

theorem flatMap {α : Type*} {f : α → List Char} (pieces : ∀ x, Piece mode (f x)) (xs : List α) :
    Piece mode (xs.flatMap f) := by
  induction xs with
  | nil => exact nil
  | cons x xs ih =>
    rw [List.flatMap_cons]
    exact (pieces x).append ih

/-- A character that means nothing outside strings. -/
theorem plain {c : Char} (quoteMark : c ≠ '"') (slash : c ≠ '\\') (colon : c ≠ ':') : Piece .outside [c] where
  ends := by simp [Mode.scan,Mode.next,quoteMark]
  calm := by
    intro rest calm
    refine ⟨fun _ => ⟨slash,fun same => absurd same colon⟩,?_⟩
    simpa [Mode.next,quoteMark] using calm

theorem plains {text : List Char} (quiet : ∀ c ∈ text, c ≠ '"' ∧ c ≠ '\\' ∧ c ≠ ':') : Piece .outside text := by
  induction text with
  | nil => exact nil
  | cons c text ih =>
    obtain ⟨quoteMark,slash,colon⟩ := quiet c List.mem_cons_self
    exact (plain quoteMark slash colon).append (ih fun d member => quiet d (List.mem_cons_of_mem _ member))

/-- A colon with its blank. -/
theorem colon : Piece .outside [':',' '] where
  ends := rfl
  calm := by
    intro rest calm
    refine ⟨fun _ => ⟨by decide,fun _ => rfl⟩,fun _ => ⟨by decide,?_⟩,calm⟩
    intro impossible
    exact absurd impossible (by decide)

/-- A character that means nothing inside strings. -/
theorem letter {c : Char} (quoteMark : c ≠ '"') (slash : c ≠ '\\') : Piece .inside [c] where
  ends := by simp [Mode.scan,Mode.next,quoteMark,slash]
  calm := by
    intro rest calm
    refine ⟨fun impossible => (nomatch impossible),?_⟩
    simpa [Mode.next,quoteMark,slash] using calm

theorem letters {text : List Char} (quiet : ∀ c ∈ text, c ≠ '"' ∧ c ≠ '\\') : Piece .inside text := by
  induction text with
  | nil => exact nil
  | cons c text ih =>
    obtain ⟨quoteMark,slash⟩ := quiet c List.mem_cons_self
    exact (letter quoteMark slash).append (ih fun d member => quiet d (List.mem_cons_of_mem _ member))

theorem backslash (c : Char) : Piece .inside ['\\',c] where
  ends := rfl
  calm := fun _ calm => ⟨fun impossible => (nomatch impossible),fun impossible => (nomatch impossible),calm⟩

/-- A string from its first quotation mark to its last. -/
theorem quoted {body : List Char} (inner : Piece .inside body) : Piece .outside ('"' :: (body ++ ['"'])) where
  ends := by
    change Mode.scan .inside (body ++ ['"']) = .outside
    rw [Mode.scan_append,inner.ends]
    rfl
  calm := by
    intro rest calm
    refine ⟨fun _ => ⟨by decide,fun impossible => absurd impossible (by decide)⟩,?_⟩
    change Calm .inside (body ++ ['"'] ++ rest)
    rw [List.append_assoc]
    refine inner.calm _ ⟨fun impossible => (nomatch impossible),?_⟩
    exact calm

end Piece

theorem hexDigit_letter (n : Nat) (bound : n < 16) : hexDigit n ≠ '"' ∧ hexDigit n ≠ '\\' := by
  have every : ∀ n, n < 16 → hexDigit n ≠ '"' ∧ hexDigit n ≠ '\\' := by decide
  exact every n bound

theorem unit_piece (n : Nat) : Piece .inside (unit n) := by
  have digits : Piece .inside [hexDigit (n / 4096 % 16),hexDigit (n / 256 % 16),hexDigit (n / 16 % 16),hexDigit (n % 16)] := by
    apply Piece.letters
    intro c member
    simp only [List.mem_cons,List.not_mem_nil,or_false] at member
    rcases member with rfl | rfl | rfl | rfl <;> exact hexDigit_letter _ (Nat.mod_lt _ (by omega))
  exact (Piece.backslash 'u').append digits

theorem escape_piece (ascii : Bool) (c : Char) : Piece .inside (escape ascii c) := by
  obtain ⟨short,written,-⟩ | ⟨written,noQuote,noSlash⟩ | ⟨written,-⟩ | ⟨written,-⟩ := escape_cases ascii c
  · rw [written]
    exact Piece.backslash short
  · rw [written]
    exact Piece.letter noQuote noSlash
  · rw [written]
    exact unit_piece _
  · rw [written]
    exact (unit_piece _).append (unit_piece _)

theorem quote_piece (ascii : Bool) (s : String) : Piece .outside (quote ascii s) :=
  Piece.quoted (Piece.flatMap (escape_piece ascii) s.toList)

theorem numeric_piece {text : List Char} (numeric : ∀ c ∈ text, isNumeric c = true) : Piece .outside text := by
  apply Piece.plains
  intro c member
  have known := numeric c member
  refine ⟨?_,?_,?_⟩ <;> (rintro rfl; exact absurd known (by decide))

theorem plain_of {c : Char} (known : c ≠ '"' ∧ c ≠ '\\' ∧ c ≠ ':') : Piece .outside [c] :=
  Piece.plain known.1 known.2.1 known.2.2

/-- A member of an object after its key. -/
theorem member_piece {value : List Char} (piece : Piece .outside value) : Piece .outside (':' :: ([' '] ++ value)) :=
  Piece.colon.append piece

mutual
theorem print_piece (ascii : Bool) : (tree : Tree) → Piece .outside (print ⟨ascii,true⟩ tree)
  | .null => by rw [print]; exact Piece.plains (by simp)
  | .bool true => by rw [print]; exact Piece.plains (by simp)
  | .bool false => by rw [print]; exact Piece.plains (by simp)
  | .int i => by rw [print]; exact numeric_piece (int_numeric i)
  | .float x => by rw [print]; exact numeric_piece (float_numeric x)
  | .str s => by rw [print]; exact quote_piece ascii s
  | .arr [] => by rw [print]; exact Piece.plains (by simp)
  | .arr (item :: items) => by
    rw [print]
    exact (plain_of (by decide)).append ((print_piece ascii item).append (printItems_piece ascii items))
  | .obj [] => by rw [print]; exact Piece.plains (by simp)
  | .obj ((key,value) :: members) => by
    rw [print]
    have rest := member_piece ((print_piece ascii value).append (printMembers_piece ascii members))
    exact (plain_of (by decide)).append ((quote_piece ascii key).append rest)
theorem printItems_piece (ascii : Bool) : (items : List Tree) → Piece .outside (printItems ⟨ascii,true⟩ items)
  | [] => by rw [printItems]; exact Piece.plains (by simp)
  | item :: items => by
    rw [printItems]
    have first := (Piece.plains (by simp : ∀ c ∈ [',',' '], c ≠ '"' ∧ c ≠ '\\' ∧ c ≠ ':')).append
      (print_piece ascii item)
    exact first.append (printItems_piece ascii items)
theorem printMembers_piece (ascii : Bool) :
    (members : List (String × Tree)) → Piece .outside (printMembers ⟨ascii,true⟩ members)
  | [] => by rw [printMembers]; exact Piece.plains (by simp)
  | (key,value) :: members => by
    rw [printMembers]
    have rest := member_piece ((print_piece ascii value).append (printMembers_piece ascii members))
    have lead := (Piece.plains (by simp : ∀ c ∈ [',',' '], c ≠ '"' ∧ c ≠ '\\' ∧ c ≠ ':')).append
      (quote_piece ascii key)
    exact lead.append rest
end

/-- Two readers of which one stands in a string and the other does not. -/
def Opposed (a b : Mode) : Prop := (a = .outside ∧ b = .inside) ∨ (a = .inside ∧ b = .outside)

/-- On a text that is calm for both they stay opposed. -/
theorem opposed_scan {a b : Mode} {text : List Char} (opposed : Opposed a b) (calmA : Calm a text) (calmB : Calm b text) :
    Opposed (a.scan text) (b.scan text) := by
  induction text generalizing a b with
  | nil => exact opposed
  | cons c text ih =>
    have slash : c ≠ '\\' := by
      rcases opposed with ⟨out,_⟩ | ⟨_,out⟩
      · exact (calmA.1 out).1
      · exact (calmB.1 out).1
    refine ih ?_ calmA.2 calmB.2
    by_cases quoteMark : c = '"'
    · rcases opposed with ⟨rfl,rfl⟩ | ⟨rfl,rfl⟩
      · exact .inr ⟨by simp [Mode.next,quoteMark],by simp [Mode.next,quoteMark]⟩
      · exact .inl ⟨by simp [Mode.next,quoteMark],by simp [Mode.next,quoteMark]⟩
    · rcases opposed with ⟨rfl,rfl⟩ | ⟨rfl,rfl⟩
      · exact .inl ⟨by simp [Mode.next,quoteMark],by simp [Mode.next,quoteMark,slash]⟩
      · exact .inr ⟨by simp [Mode.next,quoteMark,slash],by simp [Mode.next,quoteMark]⟩

theorem print_calm (ascii : Bool) (tree : Tree) : Calm .outside (print ⟨ascii,true⟩ tree) := by
  have calm := (print_piece ascii tree).calm [] trivial
  rwa [List.append_nil] at calm

/-- The text of a tree has no end after a colon that is the text of an object. -/
theorem print_uncut (ascii : Bool) (tree : Tree) (members : List (String × Tree)) (before : List Char) :
    print ⟨ascii,true⟩ tree ≠ before ++ ':' :: print ⟨ascii,true⟩ (.obj members) := by
  intro same
  have calm := print_calm ascii tree
  have ends := (print_piece ascii tree).ends
  rw [same] at calm ends
  have after := calm_rest calm
  rw [Mode.scan_append] at ends
  obtain ⟨rest,shape⟩ : ∃ rest, print ⟨ascii,true⟩ (.obj members) = '{' :: rest := by
    cases members with
    | nil => exact ⟨_,by rw [print]⟩
    | cons member members => exact ⟨_,by rw [print]⟩
  have inside : Mode.next (Mode.scan .outside before) ':' = .inside := by
    cases mode : Mode.scan .outside before with
    | outside =>
      have blank := (after.1 mode).2 rfl
      rw [shape] at blank
      simp at blank
    | inside => rfl
    | escaped => rfl
  have calmInside := after.2
  rw [inside] at calmInside
  have endsInside : Mode.scan .inside (print ⟨ascii,true⟩ (.obj members)) = .outside := by
    rw [← inside]
    exact ends
  have opposed := opposed_scan (.inl ⟨rfl,rfl⟩) (print_calm ascii (.obj members)) calmInside
  rw [(print_piece ascii (.obj members)).ends,endsInside] at opposed
  rcases opposed with ⟨_,impossible⟩ | ⟨impossible,_⟩ <;> cases impossible

theorem printMembers_closed (style : Style) (members : List (String × Tree)) :
    ∃ inner, printMembers style members = inner ++ ['}'] := by
  induction members with
  | nil => exact ⟨[],by rw [printMembers]; rfl⟩
  | cons member members ih =>
    obtain ⟨key,value⟩ := member
    obtain ⟨inner,same⟩ := ih
    rw [printMembers,same]
    exact ⟨',' :: (blank style ++ quote style.ascii key ++ ':' :: (blank style ++ print style value ++ inner)),by simp⟩

/-- The text of an object is closed by the braces. -/
theorem print_obj_closed (style : Style) (members : List (String × Tree)) :
    ∃ inner, print style (.obj members) = '{' :: (inner ++ ['}']) := by
  cases members with
  | nil => exact ⟨[],by rw [print]; rfl⟩
  | cons member members =>
    obtain ⟨key,value⟩ := member
    obtain ⟨inner,same⟩ := printMembers_closed style members
    rw [print,same]
    exact ⟨quote style.ascii key ++ ':' :: (blank style ++ print style value ++ inner),by simp⟩

end RevPilot.Library.JsonText
