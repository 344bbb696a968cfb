import RevPilot.Library.Dict
import RevPilot.Library.Lists

/-! Passes over a dictionary: every value that is due has its turn, in the order of the keys, until
a turn raises. A turn reads and writes its own value only. -/
namespace RevPilot.Library.Sweep

universe u v w
variable {K : Type u} {V : Type v} {E : Type w} [DecidableEq K] (due : V → Bool) (turn : K → V → V × Option E)

def dueKeys (d : Dict K V) : List K := d.keys.filter (fun k => (d.get? k).any due)

/-- The turns of some keys, one after the other. -/
def turns : Dict K V → List K → Dict K V × Option E
  | d,[] => (d,none)
  | d,k :: ks =>
    match d.get? k with
    | none => turns d ks
    | some v =>
      match turn k v with
      | (v',some e) => (d.set k v',some e)
      | (v',none) => turns (d.set k v') ks

def pass (d : Dict K V) : Dict K V × Option E := turns turn d (dueKeys due d)

def raises (d : Dict K V) (k : K) : Bool := (d.get? k).any (fun v => (turn k v).2.isSome)

/-- The keys that have their turn. -/
def reached (d : Dict K V) : List K := upTo (raises turn d) (dueKeys due d)

section rules
variable {due turn} {d : Dict K V}

theorem dueKeys_nodup (d : Dict K V) : (dueKeys due d).Nodup := d.distinct.filter _

theorem mem_dueKeys {k : K} : k ∈ dueKeys due d ↔ ∃ v, d.get? k = some v ∧ due v = true := by
  rw [dueKeys,List.mem_filter,Dict.mem_keys_iff]
  cases d.get? k with
  | none => simp
  | some v => simp

theorem turns_skip {k : K} {ks : List K} (none : d.get? k = none) : turns turn d (k :: ks) = turns turn d ks := by
  rw [turns,none]

theorem turns_raise {k : K} {ks : List K} {v v' : V} {e : E} (stored : d.get? k = some v)
    (made : turn k v = (v',some e)) : turns turn d (k :: ks) = (d.set k v',some e) := by
  simp only [turns,stored,made]

theorem turns_next {k : K} {ks : List K} {v v' : V} (stored : d.get? k = some v) (made : turn k v = (v',none)) :
    turns turn d (k :: ks) = turns turn (d.set k v') ks := by
  simp only [turns,stored,made]

theorem get?_turns {ks : List K} (distinct : ks.Nodup) (k : K) : (turns turn d ks).1.get? k =
    if k ∈ upTo (raises turn d) ks then (d.get? k).map (fun v => (turn k v).1) else d.get? k := by
  induction ks generalizing d with
  | nil => rfl
  | cons j ks ih =>
    obtain ⟨fresh,others⟩ := List.nodup_cons.mp distinct
    unfold upTo
    cases found : d.get? j with
    | none =>
      have quiet : raises turn d j = false := by simp [raises,found]
      rw [turns_skip found,ih others]
      by_cases here : k = j
      · subst here
        simp [found]
      · simp [here,quiet]
    | some v =>
      cases made : turn j v with
      | mk v' raised =>
        have loud : raises turn d j = raised.isSome := by simp [raises,found,made]
        cases raised with
        | some e =>
          rw [turns_raise found made,Dict.get?_set]
          by_cases here : k = j
          · subst here
            simp [found,made,loud]
          · simp [here,loud]
        | none =>
          have kept : upTo (raises turn (d.set j v')) ks = upTo (raises turn d) ks := by
            refine upTo_congr _ ?_
            intro i member
            have other : i ≠ j := by
              rintro rfl
              exact fresh member
            rw [raises,raises,Dict.get?_set,if_neg other]
          rw [turns_next found made,ih others,kept,Dict.get?_set]
          by_cases here : k = j
          · subst here
            have outside : k ∉ upTo (raises turn d) ks := fun inside => fresh (upTo_subset _ inside)
            simp [found,made,outside,loud]
          · simp [here,loud]

variable (due turn) in
/-- What a pass makes of an entry. -/
theorem get?_pass (d : Dict K V) (k : K) : (pass due turn d).1.get? k =
    if k ∈ reached due turn d then (d.get? k).map (fun v => (turn k v).1) else d.get? k :=
  get?_turns (dueKeys_nodup d) k

theorem mem_dueKeys_of_reached {k : K} (counted : k ∈ reached due turn d) : k ∈ dueKeys due d := upTo_subset _ counted

/-- The frame of a pass: what is not due stays as it is. -/
theorem get?_pass_of_not_due {k : K} {v : V} (stored : d.get? k = some v) (idle : due v = false) :
    (pass due turn d).1.get? k = some v := by
  rw [get?_pass,if_neg,stored]
  intro counted
  obtain ⟨w,found,active⟩ := mem_dueKeys.mp (mem_dueKeys_of_reached counted)
  rw [stored] at found
  cases found
  rw [idle] at active
  cases active

theorem keys_turns (d : Dict K V) (ks : List K) : (turns turn d ks).1.keys = d.keys := by
  induction ks generalizing d with
  | nil => rfl
  | cons k ks ih =>
    cases found : d.get? k with
    | none => rw [turns_skip found,ih]
    | some v =>
      cases made : turn k v with
      | mk v' raised =>
        cases raised with
        | some e => rw [turns_raise found made,Dict.keys_set_of_mem found]
        | none => rw [turns_next found made,ih,Dict.keys_set_of_mem found]

/-- A pass changes nothing exactly if no turn does. -/
theorem pass_same_iff (d : Dict K V) : (pass due turn d).1 = d ↔
    ∀ k ∈ reached due turn d, ∀ v, d.get? k = some v → (turn k v).1 = v := by
  constructor
  · intro same k counted v stored
    have made := get?_pass due turn d k
    rw [same,if_pos counted,stored] at made
    exact (Option.some.inj made).symm
  · unfold pass reached
    generalize dueKeys due d = ks
    intro each
    induction ks with
    | nil => rfl
    | cons k ks ih =>
      unfold upTo at each
      cases found : d.get? k with
      | none =>
        have quiet : raises turn d k = false := by simp [raises,found]
        simp only [quiet,Bool.false_eq_true,if_false,List.forall_mem_cons] at each
        rw [turns_skip found]
        exact ih each.2
      | some v =>
        cases made : turn k v with
        | mk v' raised =>
          have loud : raises turn d k = raised.isSome := by simp [raises,found,made]
          have own : v' = v := by
            have first : k ∈ (if raises turn d k then [k] else k :: upTo (raises turn d) ks) := by
              split <;> simp
            have same := each k first v found
            rwa [made] at same
          subst own
          cases raised with
          | some e => rw [turns_raise found made,Dict.set_same found]
          | none =>
            simp only [loud,Option.isSome_none,Bool.false_eq_true,if_false,List.forall_mem_cons] at each
            rw [turns_next found made,Dict.set_same found]
            exact ih each.2

variable (due turn) in
/-- A second pass changes nothing exactly if it changes none of the entries that are due again, provided that a turn
which changes nothing raises where the first one did, and that an entry whose turn raised is due again. -/
theorem second_pass_iff (turn' : K → V → V × Option E)
    (faithful : ∀ k v, due (turn k v).1 = true → (turn' k (turn k v).1).1 = (turn k v).1 →
      (turn' k (turn k v).1).2.isSome = (turn k v).2.isSome)
    (again : ∀ k v, due v = true → (turn k v).2.isSome = true → due (turn k v).1 = true) (d : Dict K V) :
    (pass due turn' (pass due turn d).1).1 = (pass due turn d).1 ↔
      ∀ k ∈ reached due turn d, ∀ v, d.get? k = some v → due (turn k v).1 = true →
        (turn' k (turn k v).1).1 = (turn k v).1 := by
  have after (k : K) := get?_pass due turn d k
  have keys : (pass due turn d).1.keys = d.keys := keys_turns d _
  rw [pass_same_iff]
  generalize (pass due turn d).1 = d' at after keys ⊢
  have made {k : K} {v : V} (counted : k ∈ reached due turn d) (stored : d.get? k = some v) :
      d'.get? k = some (turn k v).1 := by
    rw [after,if_pos counted,stored]
    rfl
  -- what is due after the first pass was due before it, in the same order
  have left : dueKeys due d' = (dueKeys due d).filter (fun k => (d'.get? k).any due) := by
    rw [dueKeys,dueKeys,List.filter_filter,keys]
    refine List.filter_congr ?_
    intro k _
    by_cases counted : k ∈ reached due turn d
    · obtain ⟨v,stored,active⟩ := mem_dueKeys.mp (mem_dueKeys_of_reached counted)
      simp [stored,active]
    · rw [after,if_neg counted,Bool.and_self]
  have earlier {j k : K} (before : [j,k].Sublist (dueKeys due d')) : [j,k].Sublist (dueKeys due d) :=
    before.trans (left ▸ List.filter_sublist)
  constructor
  · intro settled k counted v stored active
    have due' : k ∈ dueKeys due d' := mem_dueKeys.mpr ⟨_,made counted stored,active⟩
    by_contra changes
    have missed : k ∉ reached due turn' d' := fun counted' => changes (settled k counted' _ (made counted stored))
    obtain ⟨j,counted',loud,before⟩ := upTo_after _ due' missed
    obtain ⟨first,quiet⟩ := upTo_before _ (dueKeys_nodup d) counted (earlier before)
    obtain ⟨w,stored',_⟩ := mem_dueKeys.mp (mem_dueKeys_of_reached first)
    obtain ⟨w',found,active'⟩ := mem_dueKeys.mp (mem_dueKeys_of_reached counted')
    rw [made first stored'] at found
    cases found
    have same := faithful j w active' (settled j counted' _ (made first stored'))
    simp only [raises,made first stored',stored',Option.any_some] at loud quiet
    rw [same,quiet] at loud
    cases loud
  · intro settled k counted' v' found
    have due' := mem_dueKeys_of_reached counted'
    have before : k ∈ dueKeys due d := List.mem_of_mem_filter (left ▸ due')
    obtain ⟨v,stored,active⟩ := mem_dueKeys.mp before
    by_cases counted : k ∈ reached due turn d
    · obtain ⟨w',found',active'⟩ := mem_dueKeys.mp due'
      rw [made counted stored] at found found'
      cases found
      cases found'
      exact settled k counted v stored active'
    · obtain ⟨j,first,loud,ordered⟩ := upTo_after _ before counted
      obtain ⟨w,stored',active'⟩ := mem_dueKeys.mp (mem_dueKeys_of_reached first)
      simp only [raises,stored',Option.any_some] at loud
      have kept := again j w active' loud
      have ordered' : [j,k].Sublist (dueKeys due d') := by
        obtain ⟨_,found',active''⟩ := mem_dueKeys.mp due'
        have both := ordered.filter (fun k => (d'.get? k).any due)
        rw [← left] at both
        simpa [made first stored',kept,found',active''] using both
      have quiet := (upTo_before _ (dueKeys_nodup d') counted' ordered').2
      have same := faithful j w kept (settled j first w stored' kept)
      simp only [raises,made first stored',Option.any_some] at quiet
      rw [same,loud] at quiet
      cases quiet

end rules
end RevPilot.Library.Sweep
