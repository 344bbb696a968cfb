import RevPilot.Decision.Selection

/-! The order of candidates with nearly equal utilities. The near tie is decided on
utilities rounded to three places, so two near ones can stand on two places. -/
namespace RevPilot.Decision
open Library Shared Constraints Outcome

theorem roundTo_eq (x : ℚ) (n : Nat) : roundTo x n = (nearest (x * 10 ^ n) : ℚ) / 10 ^ n := by
  have scale : (0 : ℚ) < 10 ^ n := by positivity
  have sign : x * 10 ^ n < 0 ↔ x < 0 := by
    rw [mul_neg_iff]
    simp [scale,scale.not_gt]
  unfold roundTo nearest
  simp only [sign,abs_mul,abs_of_pos scale]
  split <;> push_cast <;> rfl

theorem roundTo_lt_roundTo_iff (x y : ℚ) (n : Nat) :
    roundTo x n < roundTo y n ↔ nearest (x * 10 ^ n) < nearest (y * 10 ^ n) := by
  have scale : (0 : ℚ) < 10 ^ n := by positivity
  rw [roundTo_eq,roundTo_eq,div_lt_div_iff_of_pos_right scale,Int.cast_lt]

namespace DecisionEngine

/-- A half-way point between two thousandths has one utility below it and the other above, a utility at the point
itself counted to the even thousandth. -/
def Straddles (low high : ℚ) : Prop :=
  ∃ k : Int, (low < (2 * k + 1) / 2000 ∨ (low = (2 * k + 1) / 2000 ∧ Even k)) ∧
    ((2 * k + 1) / 2000 < high ∨ ((2 * k + 1) / 2000 = high ∧ Odd k))

theorem straddles_iff (low high : ℚ) : Straddles low high ↔ roundTo low 3 < roundTo high 3 := by
  rw [roundTo_lt_roundTo_iff,nearest_lt_nearest_iff]
  apply exists_congr
  intro k
  have half : ((k : ℚ) + 1 / 2) = (2 * k + 1) / 2000 * 10 ^ 3 := by ring
  have scale : (0 : ℚ) < 10 ^ 3 := by norm_num
  rw [half,mul_lt_mul_iff_left₀ scale,mul_lt_mul_iff_left₀ scale,mul_left_inj' scale.ne',mul_left_inj' scale.ne']

section ranks
variable {Money Real : Type} {num : Numerics Money Real} {request : DecisionRequest Money Real}

/-- An alternative is the record of the item at its rank. -/
theorem alternative_source {ranked : List (ScoredCandidate Money Real)}
    {alternatives : List (RankedAlternative Money Real)} (ok : step10BuildRankedAlternatives num ranked = .ok alternatives)
    {alt : RankedAlternative Money Real} (inside : alt ∈ alternatives) :
    ∃ i item, ranked[i]? = some item ∧ alt.rank = i + 1 ∧ alt.expectedUtilityUsd = item.expectedUtilityUsd ∧
      alt.directCostUsd = item.directCostUsd := by
  rw [step10BuildRankedAlternatives,mapM_eq_ok] at ok
  have source : Except.ok alt ∈ (ranked.zipIdx 1).map (fun pair => rankedAlternative num pair.1 pair.2) := by
    rw [ok]
    exact List.mem_map_of_mem inside
  obtain ⟨⟨item,rank⟩,member,record⟩ := List.mem_map.mp source
  obtain ⟨positive,found⟩ := List.mk_mem_zipIdx_iff_le_and_getElem?_sub.mp member
  refine ⟨rank - 1,item,found,?_⟩
  unfold rankedAlternative at record
  split at record
  next =>
    cases record
    exact ⟨(Nat.sub_add_cancel positive).symm,rfl,rfl⟩
  next => cases record

theorem alternative_of_item {ranked : List (ScoredCandidate Money Real)}
    {alternatives : List (RankedAlternative Money Real)} (ok : step10BuildRankedAlternatives num ranked = .ok alternatives)
    {item : ScoredCandidate Money Real} (inside : item ∈ ranked) :
    ∃ alt ∈ alternatives, ∃ rank, rankedAlternative num item rank = .ok alt := by
  rw [step10BuildRankedAlternatives,mapM_eq_ok] at ok
  obtain ⟨i,found⟩ := List.mem_iff_getElem?.mp inside
  have listed : (item,i + 1) ∈ ranked.zipIdx 1 :=
    List.mk_mem_zipIdx_iff_le_and_getElem?_sub.mpr ⟨Nat.le_add_left 1 i,found⟩
  have source : rankedAlternative num item (i + 1) ∈ alternatives.map Except.ok := by
    rw [← ok]
    exact List.mem_map_of_mem listed
  obtain ⟨alt,member,record⟩ := List.mem_map.mp source
  exact ⟨alt,member,i + 1,record.symm⟩

/-- The alternative of a candidate, with its utility and its cost. -/
structure AlternativeOf (num : Numerics Money Real) (request : DecisionRequest Money Real)
    (cand : DecisionCandidate Money Real) (alt : RankedAlternative Money Real) : Prop where
  named : alt.candidateId = cand.candidateId
  cost : alt.directCostUsd = cand.estimatedCostUsd
  utility : ∃ item, score num request cand = .ok item ∧ alt.expectedUtilityUsd = item.expectedUtilityUsd

theorem score_cost {cand : DecisionCandidate Money Real} {item : ScoredCandidate Money Real}
    (ok : score num request cand = .ok item) : item.directCostUsd = cand.estimatedCostUsd := by
  simp only [score,bind_eq_ok,pure_eq_ok] at ok
  obtain ⟨_,_,_,_,_,_,_,_,_,_,_,_,_,_,rfl⟩ := ok
  rfl

theorem eligible_ranked [LinearOrder Real] {recommendation : Recommendation Money Real}
    (ok : executeDecisionPipeline num request = .ok recommendation) {eligible : List (DecisionCandidate Money Real)}
    {reasons : Dict String (List String)}
    (constraints : steps4To7ApplyHardConstraints num request = .ok (eligible,reasons)) :
    ∀ cand ∈ eligible, ∃ alt ∈ recommendation.rankedAlternatives, AlternativeOf num request cand alt := by
  obtain ⟨eligible',reasons',computed,alternatives,_,_,_,_,_,_,constraints',utilities,records,_,rfl⟩ :=
    (execute_ok num request).mp ok
  rw [constraints] at constraints'
  obtain ⟨rfl,rfl⟩ := Prod.mk.inj (Except.ok.inj constraints')
  intro cand inside
  rw [step8ComputeExpectedUtility,mapM_eq_ok] at utilities
  have source : score num request cand ∈ computed.map Except.ok := by
    rw [← utilities]
    exact List.mem_map_of_mem inside
  obtain ⟨item,member,scored⟩ := List.mem_map.mp source
  obtain ⟨alt,listed,rank,record⟩ := alternative_of_item records ((mem_sortedBy _ _ _).mpr member)
  unfold rankedAlternative at record
  split at record
  next =>
    cases record
    refine ⟨_,listed,?_,score_cost scored.symm,item,scored.symm,rfl⟩
    exact congrArg (fun c => c.candidateId) (score_candidate num request scored.symm)
  next => cases record

end ranks

theorem sortKey_lt {first second : ScoredCandidate ℚ ℚ} (cheaper : first.directCostUsd < second.directCostUsd)
    (place : roundTo second.expectedUtilityUsd 3 ≤ roundTo first.expectedUtilityUsd 3) :
    sortKey exactRationals first < sortKey exactRationals second := by
  rw [sortKey,sortKey,Prod.Lex.toLex_lt_toLex]
  rcases place.lt_or_eq with apart | same
  · exact .inl (neg_lt_neg apart)
  · refine .inr ⟨congrArg Neg.neg same.symm,?_⟩
    exact Prod.Lex.toLex_lt_toLex.mpr (.inl cheaper)

theorem sortKey_lt_of_place {first second : ScoredCandidate ℚ ℚ}
    (place : roundTo second.expectedUtilityUsd 3 < roundTo first.expectedUtilityUsd 3) :
    sortKey exactRationals first < sortKey exactRationals second := by
  rw [sortKey,sortKey,Prod.Lex.toLex_lt_toLex]
  exact .inl (neg_lt_neg place)

/-- Every eligible candidate has its alternative, and of two with nearly equal utilities the cheaper one ranks first
iff no half-way point has its utility below and the other above. -/
theorem near_ties_iff (request : DecisionRequest ℚ ℚ) (recommendation : Recommendation ℚ ℚ)
    (ok : executeDecisionPipeline exactRationals request = .ok recommendation) :
    (∀ eligible reasons, steps4To7ApplyHardConstraints exactRationals request = .ok (eligible,reasons) →
      ∀ cand ∈ eligible, ∃ alt ∈ recommendation.rankedAlternatives, AlternativeOf exactRationals request cand alt) ∧
    ∀ cheap ∈ recommendation.rankedAlternatives, ∀ dear ∈ recommendation.rankedAlternatives,
      |cheap.expectedUtilityUsd - dear.expectedUtilityUsd| < 1 / 1000 → cheap.directCostUsd < dear.directCostUsd →
      (cheap.rank < dear.rank ↔ ¬ Straddles cheap.expectedUtilityUsd dear.expectedUtilityUsd) := by
  refine ⟨fun eligible reasons constraints => eligible_ranked ok constraints,?_⟩
  intro cheap inside dear inside' _ cheaper
  obtain ⟨eligible,reasons,computed,alternatives,_,_,_,_,_,_,_,_,records,_,rfl⟩ := (execute_ok _ request).mp ok
  obtain ⟨i,first,at_i,rank,utility,cost⟩ := alternative_source records inside
  obtain ⟨j,second,at_j,rank',utility',cost'⟩ := alternative_source records inside'
  rw [straddles_iff,utility,utility',not_lt,rank,rank',Nat.add_lt_add_iff_right]
  rw [cost,cost'] at cheaper
  constructor
  · intro before
    by_contra place
    have after := sortedBy_index _ at_j at_i (sortKey_lt_of_place (not_le.mp place))
    omega
  · intro place
    exact sortedBy_index _ at_i at_j (sortKey_lt cheaper place)

/-- Two offers, a call for one dollar and a shipment for two. -/
def twoOffers (callCate shipmentCate : ℚ) : DecisionRequest ℚ ℚ :=
  { twinRequest with candidates :=
      [{ reship "call" callCate true with candidateId := "int_call", estimatedCostUsd := 1 },
        { reship "shipment" shipmentCate true with candidateId := "int_reship", estimatedCostUsd := 2 }] }

def standings (request : DecisionRequest ℚ ℚ) : Option (List (String × ℚ × ℚ × Nat)) :=
  (executeDecisionPipeline exactRationals request).toOption.map (fun recommendation =>
    recommendation.rankedAlternatives.map (fun a => (a.candidateId,a.expectedUtilityUsd,a.directCostUsd,a.rank)))

/-- The two alternatives that stand in a ranking of two. -/
theorem two_standings {request : DecisionRequest ℚ ℚ} {a b : String × ℚ × ℚ × Nat}
    (ranked : standings request = some [a,b]) : ∃ recommendation,
      executeDecisionPipeline exactRationals request = .ok recommendation ∧
      ∃ first second, recommendation.rankedAlternatives = [first,second] ∧
        (first.expectedUtilityUsd,first.directCostUsd,first.rank) = a.2 ∧
        (second.expectedUtilityUsd,second.directCostUsd,second.rank) = b.2 := by
  obtain ⟨recommendation,returned,fields⟩ := Option.map_eq_some_iff.mp ranked
  cases outcome : executeDecisionPipeline exactRationals request with
  | error e =>
    rw [outcome] at returned
    cases returned
  | ok other =>
    rw [outcome] at returned
    obtain rfl := Option.some.inj returned
    obtain ⟨first,rest,whole,rfl,others⟩ := List.map_eq_cons_iff.mp fields
    obtain ⟨second,none,rfl,rfl,nil⟩ := List.map_eq_cons_iff.mp others
    obtain rfl := List.map_eq_nil_iff.mp nil
    exact ⟨other,rfl,first,second,whole,rfl,rfl⟩

/-- 10.0003 for two dollars and 10.0001 for one are both near 10.000. -/
theorem near_offers_by_cost : ∃ recommendation, executeDecisionPipeline exactRationals
      (twoOffers (110001 / 10000000) (120003 / 10000000)) = .ok recommendation ∧
    ∃ cheap ∈ recommendation.rankedAlternatives, ∃ dear ∈ recommendation.rankedAlternatives,
      cheap.directCostUsd < dear.directCostUsd ∧ cheap.expectedUtilityUsd < dear.expectedUtilityUsd ∧
      cheap.rank < dear.rank := by
  have ranked : standings (twoOffers (110001 / 10000000) (120003 / 10000000)) =
      some [("int_call",100001 / 10000,1,1),("int_reship",100003 / 10000,2,2)] := by decide +kernel
  obtain ⟨recommendation,ok,cheap,dear,listed,low,high⟩ := two_standings ranked
  simp only [Prod.mk.injEq] at low high
  obtain ⟨utility,cost,_⟩ := low
  obtain ⟨utility',cost',_⟩ := high
  have inside : cheap ∈ recommendation.rankedAlternatives := by simp [listed]
  have inside' : dear ∈ recommendation.rankedAlternatives := by simp [listed]
  refine ⟨recommendation,ok,cheap,inside,dear,inside',?_,?_,?_⟩
  · rw [cost,cost']
    norm_num
  · rw [utility,utility']
    norm_num
  · apply ((near_ties_iff _ recommendation ok).2 cheap inside dear inside' _ _).mpr
    · rw [straddles_iff,utility,utility']
      decide +kernel
    · rw [utility,utility']
      norm_num [abs_lt]
    · rw [cost,cost']
      norm_num

/-- 10.0006 for two dollars ranks before 10.0004 for one. -/
theorem straddling_offers_by_utility : ∃ recommendation, executeDecisionPipeline exactRationals
      (twoOffers (110004 / 10000000) (120006 / 10000000)) = .ok recommendation ∧
    ∃ cheap ∈ recommendation.rankedAlternatives, ∃ dear ∈ recommendation.rankedAlternatives,
      |cheap.expectedUtilityUsd - dear.expectedUtilityUsd| < 1 / 1000 ∧ cheap.directCostUsd < dear.directCostUsd ∧
      dear.rank < cheap.rank := by
  have ranked : standings (twoOffers (110004 / 10000000) (120006 / 10000000)) =
      some [("int_reship",100006 / 10000,2,1),("int_call",100004 / 10000,1,2)] := by decide +kernel
  obtain ⟨recommendation,ok,dear,cheap,listed,high,low⟩ := two_standings ranked
  simp only [Prod.mk.injEq] at high low
  obtain ⟨utility,cost,rank⟩ := low
  obtain ⟨utility',cost',rank'⟩ := high
  refine ⟨recommendation,ok,cheap,by simp [listed],dear,by simp [listed],?_⟩
  rw [utility,utility',cost,cost',rank,rank']
  norm_num [abs_lt]

end DecisionEngine
end RevPilot.Decision
