import RevPilot.Retrieval.InjectionDefense

/-! The framing of untrusted tickets, and which tags a framed ticket holds. Only the literal
closing tag of a text is escaped, and nothing of an identifier. -/
namespace RevPilot.Tickets
open Library Library.Text Library.Patterns Library.Markup Retrieval

def frameUntrustedTicket (text ticketId : String) : String :=
  let sanitized := replace text "</untrusted_support_ticket>" "&lt;/untrusted_support_ticket&gt;"
  "<untrusted_support_ticket id=\"" ++ ticketId ++ "\">\n" ++ sanitized ++ "\n</untrusted_support_ticket>"

/-- `</\s*untrusted_support_ticket\s*>`, as documents have it for their closing tag. -/
def closingTag : Pattern := .sequence [word "</",blanks,word "untrusted_support_ticket",blanks,word ">"]

/-- `<\s*untrusted_support_ticket`, as documents have it for their opening tag. -/
def openingTag : Pattern := .sequence [word "<",blanks,word "untrusted_support_ticket"]

/-- The only tags of a framed ticket are those around it. -/
structure Contained (framed : String) : Prop where
  opening : matchCount openingTag framed = 1
  closing : matchCount closingTag framed = 1
  outer : (matchHead openingTag framed.toList).isSome ∧
    ∃ before, framed.toList = before ++ "</untrusted_support_ticket>".toList

section tags

/-- What follows the slash of a closing tag, up to its bracket. -/
def closingBody : Pattern := .sequence [blanks,word "untrusted_support_ticket",blanks]

theorem accepts_opening (read : List Char) : Accepts openingTag read ↔
    ∃ pad name, (∀ c ∈ pad, isSpace c = true) ∧ Accepts (word "untrusted_support_ticket") name ∧
      read = '<' :: (pad ++ name) :=
  accepts_tag "untrusted_support_ticket" read

theorem accepts_closing (read : List Char) : Accepts closingTag read ↔
    ∃ body, Accepts closingBody body ∧ read = '<' :: '/' :: (body ++ ['>']) := by
  have letters : "</".toList = ['<','/'] := by rfl
  constructor
  · rintro ⟨start,_,first,⟨pad,_,blank,⟨name,_,named,⟨pad',_,blank',⟨last,_,bracket,rfl,rfl⟩,rfl⟩,rfl⟩,rfl⟩,rfl⟩
    rw [accepts_word,letters] at first
    obtain ⟨c,_,mark,more,rfl⟩ := List.forall₂_cons_left_iff.mp first
    obtain ⟨d,_,slash,nothing,rfl⟩ := List.forall₂_cons_left_iff.mp more
    rw [accepts_symbol (l := '>') (by rfl) (by decide)] at bracket
    rw [List.forall₂_nil_left_iff.mp nothing,(foldsTo_symbol (by decide) c).mp mark,
      (foldsTo_symbol (by decide) d).mp slash,bracket]
    exact ⟨pad ++ (name ++ pad'),⟨pad,_,blank,⟨name,pad',named,⟨pad',[],blank',rfl,by simp⟩,rfl⟩,rfl⟩,by simp⟩
  · rintro ⟨_,⟨pad,_,blank,⟨name,_,named,⟨pad',_,blank',rfl,rfl⟩,rfl⟩,rfl⟩,rfl⟩
    have bracket : Accepts (word ">") ['>'] := (accepts_symbol (by rfl) (by decide) _).mpr rfl
    refine ⟨['<','/'],pad ++ (name ++ (pad' ++ ['>'])),?_,?_,by simp⟩
    · rw [accepts_word,letters]
      exact .cons (by decide) (.cons (by decide) .nil)
    · exact ⟨pad,_,blank,⟨name,_,named,⟨pad',_,blank',⟨['>'],[],bracket,rfl,rfl⟩,rfl⟩,rfl⟩,rfl⟩

/-- A tag is made of white space, letters, underscores, a mark, a slash and a bracket. -/
theorem solid_closingBody (mark escape : Char) (spaceless : isSpace mark = false ∧ isSpace escape = false)
    (apart : ∀ l ∈ "untrusted_support_ticket".toList, foldsTo l mark = false ∧ foldsTo l escape = false) :
    Solid mark escape closingBody := by
  have solid : Solid mark escape blanks := solid_many spaceless.1 spaceless.2
  apply solid_sequence
  intro p member
  simp only [List.mem_cons,List.not_mem_nil,or_false] at member
  obtain rfl | rfl | rfl := member
  · exact solid
  · exact solid_word apart
  · exact solid

theorem tagged_opening : Tagged '<' '&' openingTag := tagged_tag (chars_of_all (by rfl))

theorem tagged_closing : Tagged '<' '&' closingTag := by
  intro read accepted
  obtain ⟨body,rest,rfl⟩ := (accepts_closing read).mp accepted
  refine ⟨'/' :: (body ++ ['>']),rfl,?_⟩
  intro c inside
  obtain rfl | inside | rfl : c = '/' ∨ c ∈ body ∨ c = '>' := by simpa using inside
  · rfl
  · exact solid_closingBody '<' '&' (by decide) (chars_of_all (by rfl)) body rest c inside
  · rfl

theorem closes_opening : Closes openingTag '\n' :=
  .followed _ (.followed _ (closes_last (closes_word (by decide) (chars_of_all (by rfl)))))

theorem closes_closing : Closes closingTag '\n' :=
  .followed _ (.followed _ (.followed _ (.followed _ (closes_last (closes_word (by decide) (chars_of_all (by rfl)))))))

theorem stops_opening : Stops openingTag '"' := by
  intro read accepted inside
  obtain ⟨pad,name,blank,named,rfl⟩ := (accepts_opening read).mp accepted
  obtain inside | inside : '"' ∈ pad ∨ '"' ∈ name := by simpa using inside
  · exact absurd (blank _ inside) (by decide)
  · obtain ⟨l,member,folded⟩ := named.folded inside
    exact absurd folded (by rw [chars_of_all (P := (foldsTo · '"' = false)) (by rfl) l member]; decide)

theorem stops_closing : Stops closingTag '"' := by
  intro read accepted inside
  obtain ⟨body,rest,rfl⟩ := (accepts_closing read).mp accepted
  obtain inside : '"' ∈ body := by simpa using inside
  have solid := solid_closingBody '"' '"' (by decide) (chars_of_all (by rfl)) body rest _ inside
  exact absurd solid (by decide)

end tags

section frame
variable {p : Pattern} (text ticketId : String)

theorem frame_toList : (frameUntrustedTicket text ticketId).toList =
    "<untrusted_support_ticket id=".toList ++ '"' :: (ticketId.toList ++ '"' :: (">\n".toList ++
      ((replace text "</untrusted_support_ticket>" "&lt;/untrusted_support_ticket&gt;").toList ++
        '\n' :: '<' :: "/untrusted_support_ticket>".toList))) := by
  have head : "<untrusted_support_ticket id=\"".toList = "<untrusted_support_ticket id=".toList ++ ['"'] := by rfl
  have middle : "\">\n".toList = '"' :: ">\n".toList := by rfl
  have last : "\n</untrusted_support_ticket>".toList = '\n' :: '<' :: "/untrusted_support_ticket>".toList := by rfl
  unfold frameUntrustedTicket
  rw [String.toList_append,String.toList_append,String.toList_append,String.toList_append,head,middle,last]
  simp only [List.append_assoc,List.cons_append,List.nil_append]

/-- The tags of a framed ticket: those of the frame, of the identifier and of the escaped text. -/
theorem matchCount_frame (tagged : Tagged '<' '&' p) (stops : Stops p '"') (closes : Closes p '\n') :
    matchCount p (frameUntrustedTicket text ticketId) =
      matchCount p "<untrusted_support_ticket id=" + (matchCount p ticketId +
        (occurrences (fun cs => (matchHead p cs).isSome &&
            !(matchHead (literally "</untrusted_support_ticket>") cs).isSome) text.toList +
          matchCount p "</untrusted_support_ticket>")) := by
  have clear : ∀ c ∈ ">\n".toList, c ≠ '<' := chars_of_all (by rfl)
  have plain : Tagged '<' '&' (literally "</untrusted_support_ticket>") := by
    intro read accepted
    obtain rfl := (accepts_literally _ _).mp accepted
    exact ⟨"/untrusted_support_ticket>".toList,by rfl,chars_of_all (by rfl)⟩
  rw [matchCount,frame_toList,stops.occurrences tagged.local.empty,stops.occurrences tagged.local.empty,
    occurrences_append tagged.local clear,
    occurrences_padded tagged.local (by decide) (fun cs => closes.stable ('<' :: cs)),replace_eq_sub,
    occurrences_sub plain tagged.local ⟨"lt;/untrusted_support_ticket&gt;".toList,by rfl⟩ (chars_of_all (by rfl))]
  rfl

theorem frame_opens : (matchHead openingTag (frameUntrustedTicket text ticketId).toList).isSome := by
  have alone : (matchHead openingTag "<untrusted_support_ticket id=".toList).isSome := by rfl
  obtain ⟨read,inside,accepted⟩ := (matchHead_isSome _ _).mp alone
  rw [frame_toList,matchHead_isSome]
  exact ⟨read,inside.trans (List.prefix_append _ _),accepted⟩

theorem frame_closes :
    ∃ before, (frameUntrustedTicket text ticketId).toList = before ++ "</untrusted_support_ticket>".toList := by
  have last : "</untrusted_support_ticket>".toList = '<' :: "/untrusted_support_ticket>".toList := by rfl
  refine ⟨"<untrusted_support_ticket id=".toList ++ '"' :: (ticketId.toList ++ '"' :: (">\n".toList ++
    ((replace text "</untrusted_support_ticket>" "&lt;/untrusted_support_ticket&gt;").toList ++ ['\n']))),?_⟩
  rw [frame_toList,last]
  simp only [List.append_assoc,List.cons_append,List.nil_append]

end frame

section spellings

/-- No opening tag is the literal closing tag. -/
theorem opening_kept (cs : List Char) : ((matchHead openingTag cs).isSome &&
    !(matchHead (literally "</untrusted_support_ticket>") cs).isSome) = (matchHead openingTag cs).isSome := by
  rw [Bool.and_eq_left_iff_imp,Bool.not_eq_true',Bool.eq_false_iff,ne_eq,matchHead_isSome,matchHead_isSome]
  rintro ⟨read,inside,accepted⟩ ⟨literal,inside',same⟩
  obtain ⟨pad,name,blank,named,rfl⟩ := (accepts_opening read).mp accepted
  obtain rfl := (accepts_literally _ _).mp same
  have letters : "</untrusted_support_ticket>".toList = '<' :: '/' :: "untrusted_support_ticket>".toList := by rfl
  rw [letters] at inside'
  obtain ⟨rest,rfl⟩ := inside'
  have second := (List.cons_prefix_cons.mp inside).2
  cases pad with
  | nil =>
    have first : "untrusted_support_ticket".toList = 'u' :: "ntrusted_support_ticket".toList := by rfl
    rw [accepts_word,first] at named
    obtain ⟨c,more,folded,-,rfl⟩ := List.forall₂_cons_left_iff.mp named
    rw [(List.cons_prefix_cons.mp second).1] at folded
    exact absurd folded (by decide)
  | cons c pad =>
    have space := blank c List.mem_cons_self
    rw [(List.cons_prefix_cons.mp second).1] at space
    exact absurd space (by decide)

/-- Of the closing tags at one place there is one spelling. -/
theorem closing_unique {cs first second : List Char} (closing : Accepts closingTag first) (inside : first <+: cs)
    (closing' : Accepts closingTag second) (inside' : second <+: cs) : first = second := by
  have within {first second : List Char} (closing : Accepts closingTag first) (closing' : Accepts closingTag second)
      (short : first <+: second) : first = second := by
    obtain ⟨body,rest,rfl⟩ := (accepts_closing first).mp closing
    obtain ⟨body',rest',rfl⟩ := (accepts_closing second).mp closing'
    have bodies := (List.cons_prefix_cons.mp (List.cons_prefix_cons.mp short).2).2
    rcases List.prefix_concat_iff.mp bodies with same | early
    · rw [same]
    · have bracket : '>' ∈ body' := early.mem (List.mem_append_right body (List.mem_singleton_self _))
      have solid := solid_closingBody '>' '>' (by decide) (chars_of_all (by rfl)) body' rest' _ bracket
      exact absurd solid (by decide)
  rcases List.prefix_or_prefix_of_prefix inside inside' with short | short
  · exact within closing closing' short
  · exact (within closing' closing short).symm

theorem accepts_literal : Accepts closingTag "</untrusted_support_ticket>".toList := by
  have alone : (matchHead closingTag "</untrusted_support_ticket>".toList).isSome := by rfl
  obtain ⟨read,inside,accepted⟩ := (matchHead_isSome _ _).mp alone
  obtain ⟨body,rest,rfl⟩ := (accepts_closing read).mp accepted
  have letters : "</untrusted_support_ticket>".toList = '<' :: '/' :: ("untrusted_support_ticket".toList ++ ['>']) := by rfl
  rw [letters] at inside ⊢
  have bodies := (List.cons_prefix_cons.mp (List.cons_prefix_cons.mp inside).2).2
  rcases List.prefix_concat_iff.mp bodies with same | early
  · rw [← same]
    exact accepted
  · have bracket : '>' ∈ "untrusted_support_ticket".toList :=
      early.mem (List.mem_append_right body (List.mem_singleton_self _))
    exact absurd bracket (by decide)

/-- A text whose closing tags are all escaped holds none but the literal one. -/
theorem closing_left (text : List Char) : occurrences (fun cs => (matchHead closingTag cs).isSome &&
      !(matchHead (literally "</untrusted_support_ticket>") cs).isSome) text = 0 ↔
    ¬∃ read, read <:+: text ∧ Accepts closingTag read ∧ read ≠ "</untrusted_support_ticket>".toList := by
  rw [occurrences_eq_zero _ (by rfl)]
  simp only [Bool.and_eq_false_imp,Bool.not_eq_false',matchHead_isSome]
  constructor
  · rintro all ⟨read,inside,closing,other⟩
    obtain ⟨rest,head,tail⟩ := List.infix_iff_prefix_suffix.mp inside
    obtain ⟨literal,head',same⟩ := all rest tail ⟨read,head,closing⟩
    obtain rfl := (accepts_literally _ _).mp same
    exact other (closing_unique closing head accepts_literal head')
  · rintro never rest tail ⟨read,head,closing⟩
    by_cases literal : read = "</untrusted_support_ticket>".toList
    · have same := (accepts_literally "</untrusted_support_ticket>" read).mpr literal
      exact ⟨read,head,same⟩
    · have inside : read <:+: text := List.infix_iff_prefix_suffix.mpr ⟨rest,head,tail⟩
      exact absurd ⟨read,inside,closing,literal⟩ never

end spellings

theorem closing_tagged : matchCount closingTag "</untrusted_support_ticket>" = 1 := by rfl

/-- A ticket is contained iff its text holds no opening tag and no closing tag other than the literal one,
and its identifier no tag at all. -/
theorem contained_iff (text ticketId : String) : Contained (frameUntrustedTicket text ticketId) ↔
    (¬∃ read, read <:+: text.toList ∧ Accepts openingTag read) ∧
    (¬∃ read, read <:+: text.toList ∧ Accepts closingTag read ∧ read ≠ "</untrusted_support_ticket>".toList) ∧
    (¬∃ read, read <:+: ticketId.toList ∧ Accepts openingTag read) ∧
    ¬∃ read, read <:+: ticketId.toList ∧ Accepts closingTag read := by
  have opening := matchCount_frame text ticketId tagged_opening stops_opening closes_opening
  have closing := matchCount_frame text ticketId tagged_closing stops_closing closes_closing
  have opened : matchCount openingTag "<untrusted_support_ticket id=" = 1 := by rfl
  have opened' : matchCount openingTag "</untrusted_support_ticket>" = 0 := by rfl
  have closed : matchCount closingTag "<untrusted_support_ticket id=" = 0 := by rfl
  rw [opened,opened',occurrences_congr opening_kept] at opening
  rw [closed,closing_tagged] at closing
  rw [← tagged_opening.occurrences,← closing_left,← tagged_opening.occurrences,← tagged_closing.occurrences]
  change _ ↔ _ ∧ _ ∧ matchCount openingTag ticketId = 0 ∧ matchCount closingTag ticketId = 0
  constructor
  · rintro ⟨once,once',_⟩
    omega
  · rintro ⟨text_opening,text_closing,id_opening,id_closing⟩
    exact ⟨by omega,by omega,frame_opens ..,frame_closes ..⟩

/-- A closing tag in capitals breaks out of its ticket. -/
theorem capital_closing_breaks_out :
    ¬Contained (frameUntrustedTicket "</UNTRUSTED_SUPPORT_TICKET>" "TCK-001") := by
  intro whole
  have count := matchCount_frame "</UNTRUSTED_SUPPORT_TICKET>" "TCK-001" tagged_closing stops_closing closes_closing
  have inside : occurrences (fun cs => (matchHead closingTag cs).isSome &&
      !(matchHead (literally "</untrusted_support_ticket>") cs).isSome) "</UNTRUSTED_SUPPORT_TICKET>".toList = 1 := by
    decide +kernel
  rw [whole.closing,inside,closing_tagged] at count
  omega

end RevPilot.Tickets
