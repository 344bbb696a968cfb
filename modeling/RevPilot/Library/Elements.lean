import RevPilot.Library.Dict

/-! Element trees of parsed XML, walked in document order, and the trees that get one more element at
the end of each element of a chosen tag. -/
namespace RevPilot.Library

/-- `tail` is the text between the element and the next one. -/
inductive Element : Type
  | mk (tag : String) (attrib : Dict String String) (text tail : Option String) (children : List Element)

namespace Element

def tag : Element → String
  | mk tag _ _ _ _ => tag

def attrib : Element → Dict String String
  | mk _ attrib _ _ _ => attrib

def text : Element → Option String
  | mk _ _ text _ _ => text

def children : Element → List Element
  | mk _ _ _ _ children => children

mutual
/-- `elem.iter()`: the element and all below it, in document order. -/
def iter : Element → List Element
  | mk tag attrib text tail children => mk tag attrib text tail children :: iterAll children
def iterAll : List Element → List Element
  | [] => []
  | e :: es => iter e ++ iterAll es
end

section walks

theorem iter_eq (e : Element) : e.iter = e :: iterAll e.children := by
  cases e
  rw [iter,children]

theorem iterAll_append (es fs : List Element) : iterAll (es ++ fs) = iterAll es ++ iterAll fs := by
  induction es with
  | nil => rfl
  | cons e es ih => rw [List.cons_append,iterAll,iterAll,ih,List.append_assoc]

mutual
/-- What is below an element of a walk is walked there too. -/
theorem iter_sublist (r : Element) : ∀ e ∈ r.iter, e.iter.Sublist r.iter := by
  cases r with
  | mk tag attrib text tail children =>
    intro e inside
    rw [iter] at inside
    rcases List.mem_cons.mp inside with rfl | below
    · exact List.Sublist.refl _
    · have sub := iterAll_sublist children e below
      rw [iter]
      exact sub.cons _
theorem iterAll_sublist (es : List Element) : ∀ e ∈ iterAll es, e.iter.Sublist (iterAll es) := by
  cases es with
  | nil =>
    intro e inside
    cases inside
  | cons first rest =>
    intro e inside
    rw [iterAll] at inside ⊢
    rcases List.mem_append.mp inside with here | later
    · exact (iter_sublist first e here).trans (List.sublist_append_left _ _)
    · exact (iterAll_sublist rest e later).trans (List.sublist_append_right _ _)
end

end walks

section grafts
variable (chosen : String → Bool) (child : Element)

mutual
/-- Every element of a chosen tag gets one more child, its last. -/
def graft : Element → Element
  | mk tag attrib text tail children =>
    mk tag attrib text tail (graftAll children ++ if chosen tag then [child] else [])
def graftAll : List Element → List Element
  | [] => []
  | e :: es => graft e :: graftAll es
end

/-- The elements of a chosen tag. -/
def tagged (es : List Element) : List Element := es.filter (fun e => chosen e.tag)

theorem graft_tag (e : Element) : (graft chosen child e).tag = e.tag := by
  cases e
  rw [graft,tag,tag]

theorem graft_attrib (e : Element) : (graft chosen child e).attrib = e.attrib := by
  cases e
  rw [graft,attrib,attrib]

theorem tagged_append (es fs : List Element) : tagged chosen (es ++ fs) = tagged chosen es ++ tagged chosen fs :=
  List.filter_append ..

theorem tagged_iter (e : Element) :
    tagged chosen e.iter = (if chosen e.tag then [e] else []) ++ tagged chosen (iterAll e.children) := by
  rw [iter_eq,tagged,List.filter_cons]
  split <;> rfl

mutual
/-- The chosen elements of a grafted tree are the grafted ones. -/
theorem tagged_graft (plain : tagged chosen child.iter = []) (e : Element) :
    tagged chosen (graft chosen child e).iter = (tagged chosen e.iter).map (graft chosen child) := by
  cases e with
  | mk tag attrib text tail children =>
    have below := tagged_graftAll plain children
    have grafted : tagged chosen (iterAll (if chosen tag then [child] else [])) = [] := by
      split
      · rw [iterAll,iterAll,List.append_nil]
        exact plain
      · rfl
    have walked : tagged chosen (iterAll (graft chosen child (mk tag attrib text tail children)).children) =
        (tagged chosen (iterAll children)).map (graft chosen child) := by
      rw [graft,Element.children,iterAll_append,tagged_append,grafted,List.append_nil,below]
    rw [tagged_iter,tagged_iter,List.map_append,graft_tag,walked,Element.children]
    by_cases here : chosen (mk tag attrib text tail children).tag
    · simp only [if_pos here,List.map_cons,List.map_nil,graft]
    · simp only [if_neg here,List.map_nil]
theorem tagged_graftAll (plain : tagged chosen child.iter = []) (es : List Element) :
    tagged chosen (iterAll (graftAll chosen child es)) = (tagged chosen (iterAll es)).map (graft chosen child) := by
  cases es with
  | nil => rfl
  | cons e es =>
    rw [graftAll,iterAll,iterAll,tagged_append,tagged_append,List.map_append,tagged_graft plain e,tagged_graftAll plain es]
end

mutual
theorem graft_of_untagged (e : Element) (none : tagged chosen e.iter = []) : graft chosen child e = e := by
  cases e with
  | mk tag attrib text tail children =>
    rw [tagged_iter] at none
    obtain ⟨here,below⟩ := List.append_eq_nil_iff.mp none
    have other : ¬ chosen tag = true := by
      intro same
      rw [Element.tag,if_pos same] at here
      cases here
    rw [graft,if_neg other,List.append_nil,graftAll_of_untagged children below]
theorem graftAll_of_untagged (es : List Element) (none : tagged chosen (iterAll es) = []) :
    graftAll chosen child es = es := by
  cases es with
  | nil => rfl
  | cons e es =>
    rw [iterAll,tagged_append] at none
    obtain ⟨first,rest⟩ := List.append_eq_nil_iff.mp none
    rw [graftAll,graft_of_untagged e first,graftAll_of_untagged es rest]
end

/-- An element that is the only chosen one of a tree is the only one of its own. -/
theorem tagged_single {r e : Element} (single : tagged chosen r.iter = [e]) :
    chosen e.tag = true ∧ tagged chosen (iterAll e.children) = [] := by
  obtain ⟨inside,isChosen⟩ := List.mem_filter.mp (single ▸ List.mem_singleton_self e : e ∈ tagged chosen r.iter)
  refine ⟨isChosen,?_⟩
  have sub : (tagged chosen e.iter).Sublist [e] := single ▸ (iter_sublist r e inside).filter _
  rw [tagged_iter,if_pos isChosen] at sub
  have few := sub.length_le
  simp only [List.length_append,List.length_singleton] at few
  exact List.eq_nil_of_length_eq_zero (by omega)

/-- The walk of a single chosen element ends, after the graft, with the new child. -/
theorem iter_graft {e : Element} (isChosen : chosen e.tag = true) (single : tagged chosen (iterAll e.children) = []) :
    (graft chosen child e).iter = graft chosen child e :: (iterAll e.children ++ child.iter) := by
  cases e with
  | mk tag attrib text tail children =>
    have here : chosen tag = true := isChosen
    rw [iter_eq,graft,graftAll_of_untagged chosen child children single,if_pos here]
    rw [Element.children,Element.children,iterAll_append,iterAll,iterAll,List.append_nil]

end grafts
end Element
end RevPilot.Library
