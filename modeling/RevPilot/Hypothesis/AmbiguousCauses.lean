import RevPilot.Hypothesis.Ranking

/-! Which hypotheses of a ranking are flagged as ambiguous. The flags come from neighbours
only, so a hypothesis of the same type can stand between two that compete. -/
namespace RevPilot.Hypothesis
open Library Shared Evidence

section competition
variable (num : FloatArithmetic)

/-- The difference of the higher and the lower score is within the threshold. -/
def withinThreshold (a b : ℚ) : Bool :=
  match num.sub (.finite (max a b)) (.finite (min a b)) with
  | .finite difference => decide (|difference| ≤ TIE_THRESHOLD)
  | _ => false

theorem withinThreshold_comm (a b : ℚ) : withinThreshold num a b = withinThreshold num b a := by
  rw [withinThreshold,max_comm,min_comm]
  rfl

/-- A hypothesis that is not refuted carries the message iff another one of another type
that is not refuted has a score within the threshold. -/
def AmbiguityFlagged (ranked : List HypothesisRecord) : Prop :=
  ∀ r ∈ ranked, r.status ≠ .refuted → (tieMessage ∈ r.limitations ↔
    ∃ other ∈ ranked, other.status ≠ .refuted ∧ r.hypothesisType ≠ other.hypothesisType ∧
      withinThreshold num r.rankingScore other.rankingScore = true)

variable (weights : Weights)

/-- Two hypotheses that the contradiction veto spares, of two types and with scores within the threshold. -/
def Competes (a b : HypothesisRecord) : Prop :=
  ¬ vetoed a ∧ ¬ vetoed b ∧ a.hypothesisType ≠ b.hypothesisType ∧
    withinThreshold num (calculateHypothesisScore num weights a) (calculateHypothesisScore num weights b) = true

/-- The place of a hypothesis: refuted ones last, higher scores first, then by identifier and index. -/
def place (p : HypothesisRecord × Nat) : (Nat ×ₗ ℚ ×ₗ List ℤ)ᵒᵈ ×ₗ Nat :=
  placeKey (fun h => rankKey (evaluated num weights h)) p

/-- No third hypothesis stands between the two. -/
def SideBySide (hypotheses : List HypothesisRecord) (p q : HypothesisRecord × Nat) : Prop :=
  ∀ third ∈ hypotheses.zipIdx,
    ¬ (place num weights p < place num weights third ∧ place num weights third < place num weights q) ∧
    ¬ (place num weights q < place num weights third ∧ place num weights third < place num weights p)

/-- A hypothesis that carries the message beforehand competes with another one, and one that competes carries it
beforehand or competes with a neighbour. -/
def Settled (hypotheses : List HypothesisRecord) (p : HypothesisRecord × Nat) : Prop :=
  (tieMessage ∈ p.1.limitations → ∃ q ∈ hypotheses.zipIdx, Competes num weights p.1 q.1) ∧
  ((∃ q ∈ hypotheses.zipIdx, Competes num weights p.1 q.1) → tieMessage ∈ p.1.limitations ∨
    ∃ q ∈ hypotheses.zipIdx, Competes num weights p.1 q.1 ∧ SideBySide num weights hypotheses p q)

end competition

section passes
variable (num : FloatArithmetic) (sha256 : String → String)

/-- What the last pass makes of the candidate at an index. -/
theorem finishFrom_getElem? (allIds : List String) (before : Option HypothesisRecord) (rank : Nat)
    (candidates : List HypothesisRecord) (i : Nat) :
    (finishFrom num sha256 allIds before rank candidates)[i]? = candidates[i]?.map fun c =>
      finished sha256 allIds (rank + i)
        ((if i = 0 then before else candidates[i - 1]?).any (coEqual num · c) ||
          candidates[i + 1]?.any (coEqual num c ·)) c := by
  induction candidates generalizing before rank i with
  | nil => rfl
  | cons c rest ih =>
    cases i with
    | zero =>
      rw [finishFrom,List.getElem?_cons_zero,List.getElem?_cons_zero,List.getElem?_cons_succ,List.head?_eq_getElem?]
      rfl
    | succ i =>
      rw [finishFrom,List.getElem?_cons_succ,List.getElem?_cons_succ,List.getElem?_cons_succ,ih,
        Nat.add_right_comm,Nat.add_assoc]
      cases i <;> rfl

theorem finished_carries (allIds : List String) (rank : Nat) (tied : Bool) (c : HypothesisRecord) :
    tieMessage ∈ (finished sha256 allIds rank tied c).limitations ↔ tied = true ∨ tieMessage ∈ c.limitations := by
  unfold finished
  dsimp only
  split_ifs with added
  · exact iff_of_true (List.mem_append_right _ (List.mem_singleton_self _)) (.inl added.1)
  · by_cases carried : tieMessage ∈ c.limitations
    · exact iff_of_true carried (.inr carried)
    · exact iff_of_false carried (not_or.mpr ⟨fun tied => added ⟨tied,carried⟩,carried⟩)

end passes

section places
variable (num : FloatArithmetic) (weights : Weights) (hypotheses : List HypothesisRecord)

/-- The hypotheses with their indices in the order of the ranking. -/
def placed : List (HypothesisRecord × Nat) := sortedBy (place num weights) hypotheses.zipIdx

theorem mem_placed (p : HypothesisRecord × Nat) : p ∈ placed num weights hypotheses ↔ p ∈ hypotheses.zipIdx :=
  mem_sortedBy ..

theorem placed_sorted :
    (placed num weights hypotheses).Pairwise fun p q => place num weights p < place num weights q :=
  placed_strictly (fun h => rankKey (evaluated num weights h)) hypotheses

theorem placed_ordered : (placed num weights hypotheses).map Prod.fst = ordered num weights hypotheses :=
  sortedBy_placed (fun h => rankKey (evaluated num weights h)) hypotheses 0

/-- The candidate of a hypothesis. -/
structure CandidateOf (h c : HypothesisRecord) : Prop where
  refuted : c.status = .refuted ↔ vetoed h
  score : c.rankingScore = calculateHypothesisScore num weights h
  kind : c.hypothesisType = h.hypothesisType
  limitations : c.limitations = h.limitations

theorem candidate_at {i : Nat} {p : HypothesisRecord × Nat} (found : (placed num weights hypotheses)[i]? = some p) :
    ∃ c, (candidates num weights hypotheses)[i]? = some c ∧ CandidateOf num weights p.1 c := by
  unfold candidates
  rw [← placed_ordered]
  cases listed : placed num weights hypotheses with
  | nil =>
    rw [listed] at found
    cases found
  | cons first others =>
    rw [listed] at found
    cases i with
    | zero =>
      obtain rfl := Option.some.inj found
      exact ⟨_,rfl,(topStatus_refuted ..).trans (baseStatus_refuted first.1),rfl,rfl,rfl⟩
    | succ i =>
      rw [List.getElem?_cons_succ] at found
      refine ⟨evaluated num weights p.1,?_,baseStatus_refuted p.1,rfl,rfl,rfl⟩
      rw [List.map_cons,List.map_cons,settleTop,List.getElem?_cons_succ,List.getElem?_map,List.getElem?_map,found]
      rfl

theorem placed_length : (placed num weights hypotheses).length = hypotheses.length := by
  rw [placed,(sortedBy_perm _ _).length_eq,List.length_zipIdx]

theorem placed_of_candidate {i : Nat} {c : HypothesisRecord} (found : (candidates num weights hypotheses)[i]? = some c) :
    ∃ p, (placed num weights hypotheses)[i]? = some p ∧ CandidateOf num weights p.1 c := by
  have inside := (List.getElem?_eq_some_iff.mp found).1
  rw [candidates_length,← placed_length num weights] at inside
  have at_i := List.getElem?_eq_getElem inside
  obtain ⟨c',found',same⟩ := candidate_at num weights hypotheses at_i
  obtain rfl := Option.some.inj (found.symm.trans found')
  exact ⟨_,at_i,same⟩

variable {num weights hypotheses}

/-- Of two hypotheses that are not refuted the one in front has no lower score. -/
theorem score_le_of_place {p q : HypothesisRecord × Nat} (before : place num weights p < place num weights q)
    (standing : ¬ vetoed p.1) (standing' : ¬ vetoed q.1) :
    calculateHypothesisScore num weights q.1 ≤ calculateHypothesisScore num weights p.1 := by
  have keys : rankKey (evaluated num weights p.1) ≤ rankKey (evaluated num weights q.1) := by
    rcases (Prod.Lex.toLex_lt_toLex.mp before) with less | ⟨same,_⟩
    · exact less.le
    · exact same.le
  have spared {h : HypothesisRecord} (standing : ¬ vetoed h) : (evaluated num weights h).status ≠ .refuted :=
    mt (baseStatus_refuted h).mp standing
  unfold rankKey at keys
  rw [OrderDual.toDual_le_toDual,if_neg (spared standing),if_neg (spared standing'),Prod.Lex.toLex_le_toLex] at keys
  rcases keys with less | ⟨_,scores⟩
  · exact absurd less (lt_irrefl 1)
  · rcases Prod.Lex.toLex_le_toLex.mp scores with less | ⟨same,_⟩
    · exact less.le
    · exact same.le

theorem coEqual_iff {p q : HypothesisRecord × Nat} {c d : HypothesisRecord} (first : CandidateOf num weights p.1 c)
    (second : CandidateOf num weights q.1 d) (before : place num weights p < place num weights q) :
    coEqual num c d = true ↔ Competes num weights p.1 q.1 := by
  unfold coEqual Competes
  rw [Bool.and_eq_true,Bool.and_eq_true,Bool.and_eq_true,bne_iff_ne,bne_iff_ne,bne_iff_ne,and_assoc,and_assoc,
    first.kind,second.kind,first.score,second.score,Ne,first.refuted,Ne,second.refuted]
  refine and_congr_right fun standing => and_congr_right fun standing' => and_congr_right fun _ => ?_
  have order := score_le_of_place before standing standing'
  have difference : num.sub (.finite (max (calculateHypothesisScore num weights p.1) (calculateHypothesisScore num weights q.1)))
      (.finite (min (calculateHypothesisScore num weights p.1) (calculateHypothesisScore num weights q.1))) =
      num.sub (.finite (calculateHypothesisScore num weights p.1)) (.finite (calculateHypothesisScore num weights q.1)) := by
    rw [max_eq_left order,min_eq_right order]
  unfold withinThreshold
  exact difference ▸ Iff.rfl

theorem Competes.symm {a b : HypothesisRecord} (competes : Competes num weights a b) : Competes num weights b a := by
  obtain ⟨standing,standing',types,near⟩ := competes
  exact ⟨standing',standing,types.symm,withinThreshold_comm num _ _ ▸ near⟩

theorem sideBySide_index {p q : HypothesisRecord × Nat} {i j : Nat} (first : (placed num weights hypotheses)[i]? = some p)
    (second : (placed num weights hypotheses)[j]? = some q) (before : place num weights p < place num weights q) :
    SideBySide num weights hypotheses p q ↔ j = i + 1 := by
  have sides := sideBySide_iff (place num weights) (placed_sorted num weights hypotheses) first second
  rw [sides,and_iff_right before]
  simp only [mem_placed]
  constructor
  · exact fun free third inside => (free third inside).1
  · intro free third inside
    exact ⟨free third inside,fun between => (between.1.trans between.2).not_gt before⟩

theorem SideBySide.symm {p q : HypothesisRecord × Nat} (beside : SideBySide num weights hypotheses p q) :
    SideBySide num weights hypotheses q p := fun third inside => (beside third inside).symm

/-- A neighbour that a hypothesis competes with stands on one of its sides. -/
theorem neighbour_iff {p : HypothesisRecord × Nat} {i : Nat} (found : (placed num weights hypotheses)[i]? = some p) :
    (∃ q ∈ hypotheses.zipIdx, Competes num weights p.1 q.1 ∧ SideBySide num weights hypotheses p q) ↔
      (∃ q, (if i = 0 then none else (placed num weights hypotheses)[i - 1]?) = some q ∧ Competes num weights p.1 q.1) ∨
      ∃ q, (placed num weights hypotheses)[i + 1]? = some q ∧ Competes num weights p.1 q.1 := by
  have order {i j : Nat} {p q : HypothesisRecord × Nat} (first : (placed num weights hypotheses)[i]? = some p)
      (second : (placed num weights hypotheses)[j]? = some q) (less : i < j) : place num weights p < place num weights q := by
    obtain ⟨inside,rfl⟩ := List.getElem?_eq_some_iff.mp first
    obtain ⟨inside',rfl⟩ := List.getElem?_eq_some_iff.mp second
    exact List.pairwise_iff_getElem.mp (placed_sorted num weights hypotheses) i j inside inside' less
  constructor
  · rintro ⟨q,inside,competes,beside⟩
    obtain ⟨j,found'⟩ := List.mem_iff_getElem?.mp ((mem_placed num weights hypotheses q).mpr inside)
    rcases lt_trichotomy i j with after | rfl | before
    · rw [sideBySide_index found found' (order found found' after)] at beside
      exact .inr ⟨q,beside ▸ found',competes⟩
    · obtain rfl := Option.some.inj (found.symm.trans found')
      exact absurd rfl competes.2.2.1
    · have behind := (sideBySide_index found' found (order found' found before)).mp beside.symm
      refine .inl ⟨q,?_,competes⟩
      rw [if_neg (by omega),behind,Nat.add_sub_cancel]
      exact found'
  · rintro (⟨q,found',competes⟩ | ⟨q,found',competes⟩)
    · split_ifs at found' with first
      have inside := (mem_placed num weights hypotheses q).mp (List.mem_of_getElem? found')
      have less : i - 1 < i := by omega
      exact ⟨q,inside,competes,((sideBySide_index found' found (order found' found less)).mpr (by omega)).symm⟩
    · have inside := (mem_placed num weights hypotheses q).mp (List.mem_of_getElem? found')
      exact ⟨q,inside,competes,(sideBySide_index found found' (order found found' (Nat.lt_succ_self i))).mpr rfl⟩

/-- The flag of a candidate from its two neighbours. -/
theorem tied_iff {p : HypothesisRecord × Nat} {c : HypothesisRecord} {i : Nat}
    (found : (placed num weights hypotheses)[i]? = some p) (listed : (candidates num weights hypotheses)[i]? = some c) :
    ((if i = 0 then none else (candidates num weights hypotheses)[i - 1]?).any (coEqual num · c) ||
        (candidates num weights hypotheses)[i + 1]?.any (coEqual num c ·)) = true ↔
      ∃ q ∈ hypotheses.zipIdx, Competes num weights p.1 q.1 ∧ SideBySide num weights hypotheses p q := by
  have own : CandidateOf num weights p.1 c := by
    obtain ⟨c',listed',same⟩ := candidate_at num weights hypotheses found
    exact Option.some.inj (listed.symm.trans listed') ▸ same
  have order {i : Nat} {p q : HypothesisRecord × Nat} (first : (placed num weights hypotheses)[i]? = some p)
      (second : (placed num weights hypotheses)[i + 1]? = some q) : place num weights p < place num weights q := by
    obtain ⟨inside,rfl⟩ := List.getElem?_eq_some_iff.mp first
    obtain ⟨inside',rfl⟩ := List.getElem?_eq_some_iff.mp second
    exact List.pairwise_iff_getElem.mp (placed_sorted num weights hypotheses) i _ inside inside' (Nat.lt_succ_self i)
  rw [neighbour_iff found,Bool.or_eq_true,Option.any_eq_true,Option.any_eq_true]
  refine or_congr ?_ ?_
  · cases i with
    | zero => simp
    | succ i =>
      rw [if_neg (Nat.succ_ne_zero i),if_neg (Nat.succ_ne_zero i),Nat.add_sub_cancel]
      constructor
      · rintro ⟨d,listed',equal⟩
        obtain ⟨q,found',other⟩ := placed_of_candidate num weights hypotheses listed'
        exact ⟨q,found',((coEqual_iff other own (order found' found)).mp equal).symm⟩
      · rintro ⟨q,found',competes⟩
        obtain ⟨d,listed',other⟩ := candidate_at num weights hypotheses found'
        exact ⟨d,listed',(coEqual_iff other own (order found' found)).mpr competes.symm⟩
  · constructor
    · rintro ⟨d,listed',equal⟩
      obtain ⟨q,found',other⟩ := placed_of_candidate num weights hypotheses listed'
      exact ⟨q,found',(coEqual_iff own other (order found found')).mp equal⟩
    · rintro ⟨q,found',competes⟩
      obtain ⟨d,listed',other⟩ := candidate_at num weights hypotheses found'
      exact ⟨d,listed',(coEqual_iff own other (order found found')).mpr competes⟩

end places

section flags
variable (num : FloatArithmetic) (sha256 : String → String) (weights : Weights) (hypotheses : List HypothesisRecord)

/-- The record that a ranking gives a hypothesis. -/
structure RankedAs (p : HypothesisRecord × Nat) (r : HypothesisRecord) : Prop where
  refuted : r.status = .refuted ↔ vetoed p.1
  score : r.rankingScore = calculateHypothesisScore num weights p.1
  kind : r.hypothesisType = p.1.hypothesisType
  flagged : tieMessage ∈ r.limitations ↔ tieMessage ∈ p.1.limitations ∨
    ∃ q ∈ hypotheses.zipIdx, Competes num weights p.1 q.1 ∧ SideBySide num weights hypotheses p q

theorem finished_rankedAs (allIds : List String) {i : Nat} {p : HypothesisRecord × Nat} {c : HypothesisRecord}
    (found : (placed num weights hypotheses)[i]? = some p) (listed : (candidates num weights hypotheses)[i]? = some c)
    (own : CandidateOf num weights p.1 c) :
    RankedAs num weights hypotheses p (finished sha256 allIds (1 + i)
      ((if i = 0 then none else (candidates num weights hypotheses)[i - 1]?).any (coEqual num · c) ||
        (candidates num weights hypotheses)[i + 1]?.any (coEqual num c ·)) c) := by
  refine ⟨own.refuted,own.score,own.kind,?_⟩
  rw [finished_carries,tied_iff found listed,own.limitations]
  exact or_comm

theorem ranking_paired :
    (∀ r ∈ ranking num sha256 weights hypotheses, ∃ p ∈ hypotheses.zipIdx, RankedAs num weights hypotheses p r) ∧
    ∀ p ∈ hypotheses.zipIdx, ∃ r ∈ ranking num sha256 weights hypotheses, RankedAs num weights hypotheses p r := by
  rw [ranking_eq]
  generalize (candidates num weights hypotheses).map (·.hypothesisId) = allIds
  constructor
  · intro r inside
    obtain ⟨i,at_i⟩ := List.mem_iff_getElem?.mp inside
    rw [finishFrom_getElem?] at at_i
    obtain ⟨c,listed,rfl⟩ := Option.map_eq_some_iff.mp at_i
    obtain ⟨p,found,own⟩ := placed_of_candidate num weights hypotheses listed
    have inside := (mem_placed num weights hypotheses p).mp (List.mem_of_getElem? found)
    exact ⟨p,inside,finished_rankedAs num sha256 weights hypotheses allIds found listed own⟩
  · intro p inside
    obtain ⟨i,found⟩ := List.mem_iff_getElem?.mp ((mem_placed num weights hypotheses p).mpr inside)
    obtain ⟨c,listed,own⟩ := candidate_at num weights hypotheses found
    refine ⟨_,List.mem_of_getElem? (i := i) ?_,finished_rankedAs num sha256 weights hypotheses allIds found listed own⟩
    rw [finishFrom_getElem?,listed]
    rfl

theorem rankCompetingHypotheses_ranking {bundle : Option EvidenceBundle} {ranked : List HypothesisRecord}
    (ok : rankCompetingHypotheses num sha256 hypotheses bundle weights = .ok ranked) :
    ranked = ranking num sha256 weights hypotheses := by
  unfold rankCompetingHypotheses at ok
  split at ok
  · split at ok
    · cases ok
    · split at ok
      · cases ok
      · exact (Except.ok.inj ok).symm
  · cases ok

theorem ranking_flags :
    AmbiguityFlagged num (ranking num sha256 weights hypotheses) ↔
      ∀ p ∈ hypotheses.zipIdx, ¬ vetoed p.1 → Settled num weights hypotheses p := by
  obtain ⟨sources,results⟩ := ranking_paired num sha256 weights hypotheses
  have rivals {p : HypothesisRecord × Nat} {r : HypothesisRecord} (own : RankedAs num weights hypotheses p r)
      (standing : ¬ vetoed p.1) : (∃ other ∈ ranking num sha256 weights hypotheses, other.status ≠ .refuted ∧
        r.hypothesisType ≠ other.hypothesisType ∧ withinThreshold num r.rankingScore other.rankingScore = true) ↔
      ∃ q ∈ hypotheses.zipIdx, Competes num weights p.1 q.1 := by
    constructor
    · rintro ⟨other,inside,spared,types,near⟩
      obtain ⟨q,inside',theirs⟩ := sources other inside
      rw [own.kind,theirs.kind] at types
      rw [own.score,theirs.score] at near
      exact ⟨q,inside',standing,mt theirs.refuted.mpr spared,types,near⟩
    · rintro ⟨q,inside,_,spared,types,near⟩
      obtain ⟨other,inside',theirs⟩ := results q inside
      rw [← own.kind,← theirs.kind] at types
      rw [← own.score,← theirs.score] at near
      exact ⟨other,inside',mt theirs.refuted.mp spared,types,near⟩
  have settled {p : HypothesisRecord × Nat} {r : HypothesisRecord} (own : RankedAs num weights hypotheses p r)
      (standing : ¬ vetoed p.1) : (tieMessage ∈ r.limitations ↔
        ∃ other ∈ ranking num sha256 weights hypotheses, other.status ≠ .refuted ∧
          r.hypothesisType ≠ other.hypothesisType ∧ withinThreshold num r.rankingScore other.rankingScore = true) ↔
      Settled num weights hypotheses p := by
    rw [rivals own standing,own.flagged]
    constructor
    · intro flags
      exact ⟨fun carried => flags.mp (.inl carried),flags.mpr⟩
    · rintro ⟨carried,competing⟩
      refine ⟨?_,competing⟩
      rintro (given | ⟨q,inside,competes,_⟩)
      · exact carried given
      · exact ⟨q,inside,competes⟩
  constructor
  · intro flags p inside standing
    obtain ⟨r,listed,own⟩ := results p inside
    exact (settled own standing).mp (flags r listed (mt own.refuted.mp standing))
  · intro all r listed spared
    obtain ⟨p,inside,own⟩ := sources r listed
    have standing := mt own.refuted.mpr spared
    exact (settled own standing).mpr (all p inside standing)

/-- The flags of a ranking say who competes iff every hypothesis that is not refuted is settled by its own
limitations and its neighbours. -/
theorem ambiguityFlagged_iff (bundle : Option EvidenceBundle) (ranked : List HypothesisRecord)
    (ok : rankCompetingHypotheses num sha256 hypotheses bundle weights = .ok ranked) :
    AmbiguityFlagged num ranked ↔
      ∀ p ∈ hypotheses.zipIdx, ¬ vetoed p.1 → Settled num weights hypotheses p := by
  rw [rankCompetingHypotheses_ranking num sha256 weights hypotheses ok]
  exact ranking_flags num sha256 weights hypotheses

theorem place_lt_of_score {p q : HypothesisRecord × Nat} (standing : ¬ vetoed p.1) (standing' : ¬ vetoed q.1)
    (higher : calculateHypothesisScore num weights q.1 < calculateHypothesisScore num weights p.1) :
    place num weights p < place num weights q := by
  have spared {h : HypothesisRecord} (standing : ¬ vetoed h) : (evaluated num weights h).status ≠ .refuted :=
    mt (baseStatus_refuted h).mp standing
  refine Prod.Lex.toLex_lt_toLex.mpr (.inl ?_)
  unfold rankKey
  rw [OrderDual.toDual_lt_toDual,if_neg (spared standing),if_neg (spared standing'),Prod.Lex.toLex_lt_toLex]
  exact .inr ⟨rfl,Prod.Lex.toLex_lt_toLex.mpr (.inl higher)⟩

end flags

section samples

/-- A fully covered hypothesis with one supporting piece of evidence. -/
def supported (id : String) (kind : HypothesisType) (relevance : ℚ) (accepted : 0 ≤ relevance ∧ relevance ≤ 1) :
    HypothesisRecord :=
  { candidate id 1 with hypothesisType := kind, supportingEvidence := [⟨⟨"e"⟩,relevance,accepted⟩] }

theorem uncontradicted {h : HypothesisRecord} (free : h.contradictingEvidence = []) : ¬ vetoed h := by
  have positive : (0 : ℚ) < CONTRADICTION_VETO_THRESHOLD := by decide +kernel
  rw [vetoed,free]
  exact not_le.mpr positive

theorem full_relevance : (0 : ℚ) ≤ 1 ∧ (1 : ℚ) ≤ 1 := ⟨zero_le_one,le_rfl⟩

def late : HypothesisRecord := supported "late" .logisticsBottleneck 1 full_relevance
def later : HypothesisRecord := supported "later" .logisticsBottleneck (31 / 32) (by norm_num)
def unpaid : HypothesisRecord := supported "unpaid" .paymentGatewayOutage (15 / 16) (by norm_num)

theorem late_competes : Competes roundedArithmetic none late unpaid :=
  ⟨uncontradicted rfl,uncontradicted rfl,by decide,by decide +kernel⟩

/-- Two causes 0.025 apart, each flagged beside the other. -/
theorem two_causes_flagged :
    ∃ ranked, rankCompetingHypotheses roundedArithmetic id [late,unpaid] none none = .ok ranked ∧
      AmbiguityFlagged roundedArithmetic ranked := by
  refine ⟨_,rfl,(ambiguityFlagged_iff roundedArithmetic id none [late,unpaid] none _ rfl).mpr ?_⟩
  intro p inside _
  have beside : SideBySide roundedArithmetic none [late,unpaid] (late,0) (unpaid,1) := by
    intro third inside
    rcases List.mem_pair.mp inside with rfl | rfl <;> simp
  rcases List.mem_pair.mp inside with rfl | rfl
  · exact ⟨nofun,fun _ => .inr ⟨_,List.mem_cons_of_mem _ (List.mem_cons_self ..),late_competes,beside⟩⟩
  · exact ⟨nofun,fun _ => .inr ⟨_,List.mem_cons_self ..,late_competes.symm,beside.symm⟩⟩

/-- A cause of the same type stands between two that compete, so the first one is not flagged. -/
theorem shadowed_cause_unflagged :
    ∃ ranked, rankCompetingHypotheses roundedArithmetic id [late,later,unpaid] none none = .ok ranked ∧
      ¬ AmbiguityFlagged roundedArithmetic ranked := by
  refine ⟨_,rfl,?_⟩
  intro flags
  have settled := (ranking_flags roundedArithmetic id none [late,later,unpaid]).mp flags (late,0)
    (List.mem_cons_self ..) (uncontradicted rfl)
  rcases settled.2 ⟨(unpaid,2),by simp [List.zipIdx],late_competes⟩ with given | ⟨q,inside,competes,beside⟩
  · cases given
  · have between : place roundedArithmetic none (late,0) < place roundedArithmetic none (later,1) ∧
        place roundedArithmetic none (later,1) < place roundedArithmetic none (unpaid,2) := by
      constructor
      · exact place_lt_of_score _ _ (uncontradicted rfl) (uncontradicted rfl) (by decide +kernel)
      · exact place_lt_of_score _ _ (uncontradicted rfl) (uncontradicted rfl) (by decide +kernel)
    have middle : (later,1) ∈ [late,later,unpaid].zipIdx := by simp [List.zipIdx]
    simp only [List.zipIdx,List.mem_cons,List.not_mem_nil,or_false] at inside
    rcases inside with rfl | rfl | rfl
    · exact absurd rfl competes.2.2.1
    · exact absurd rfl competes.2.2.1
    · exact (beside _ middle).1 between

end samples
end RevPilot.Hypothesis
