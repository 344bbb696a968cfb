import RevPilot.Library.Statistics
import Mathlib.Data.Rat.Floor

/-! The localizer behind its sample-size filter: the Benjamini-Hochberg step-up rule, the shares of the excess and
the ranking of the segments. -/
namespace RevPilot.Analytics
open Library Statistics

/-- A segment that is large enough to be tested. -/
structure RawCandidate where
  segmentValue : String
  actualValue : ℚ
  baselineExpectedValue : ℚ
  relativeLift : ℚ
  sampleSize : Nat
  excessVolume : ℚ
  pValue : ℚ

structure SegmentContribution where
  rank : Nat
  segmentValue : String
  actualValue : ℚ
  baselineExpectedValue : ℚ
  relativeLift : ℚ
  sampleSize : Nat
  excessVolume : ℚ
  contributionPct : ℚ
  pValue : ℚ
  fdrRejected : Bool

namespace AnomalyLocalizer

def alpha : ℚ := 1 / 20

/-- The candidates by their p-values, each with its place in the raw list. -/
def candidatesByP (rawCandidates : List RawCandidate) : List (RawCandidate × Nat) :=
  sortedBy (fun x => x.1.pValue) rawCandidates.zipIdx

def fdrThresh (rank mCount : Nat) : ℚ := rank / mCount * alpha

/-- One turn of the search for the last rank that passes its threshold. -/
def nextFdrRank (mCount : Nat) (maxFdrRank : Int) (x : (RawCandidate × Nat) × Nat) : Int :=
  if x.1.1.pValue ≤ fdrThresh x.2 mCount then x.2 else maxFdrRank

def maxFdrRank (rawCandidates : List RawCandidate) : Int :=
  let candidates := candidatesByP rawCandidates
  (candidates.zipIdx 1).foldl (nextFdrRank candidates.length) (-1)

/-- The flag that the candidate at a place of the raw list is given. -/
def fdrFlags (rawCandidates : List RawCandidate) : List (Nat × Bool) :=
  ((candidatesByP rawCandidates).zipIdx 1).map fun x => (x.1.2,decide ((x.2 : Int) ≤ maxFdrRank rawCandidates))

def flagged (rawCandidates : List RawCandidate) : List (RawCandidate × Bool) :=
  rawCandidates.zipIdx.map fun x => (x.1,((fdrFlags rawCandidates).lookup x.2).getD false)

def contributionPct (rawCandidates : List RawCandidate) (c : RawCandidate) : ℚ :=
  let totalExcess := (rawCandidates.map RawCandidate.excessVolume).sum
  if 0 < totalExcess then roundTo 1 (c.excessVolume / totalExcess * 100) else 0

/-- The sort key of the ranking; the sort is in reverse. -/
def rankKey (x : RawCandidate × Bool) : (ℚ ×ₗ ℚ)ᵒᵈ := OrderDual.toDual (toLex (x.1.excessVolume,x.1.relativeLift))

def contribution (rawCandidates : List RawCandidate) (rank : Nat) (seg : RawCandidate × Bool) : SegmentContribution where
  rank := rank
  segmentValue := seg.1.segmentValue
  actualValue := seg.1.actualValue
  baselineExpectedValue := seg.1.baselineExpectedValue
  relativeLift := seg.1.relativeLift
  sampleSize := seg.1.sampleSize
  excessVolume := roundTo 1 seg.1.excessVolume
  contributionPct := contributionPct rawCandidates seg.1
  pValue := seg.1.pValue
  fdrRejected := seg.2

def topContributing (rawCandidates : List RawCandidate) : List SegmentContribution :=
  ((sortedBy rankKey (flagged rawCandidates)).zipIdx 1).map fun x => contribution rawCandidates x.2 x.1

end AnomalyLocalizer

section stepUp

/-- The k-th smallest of a list of p-values, from the first on. -/
def orderStatistic (ps : List ℚ) (k : Nat) : Option ℚ := if k = 0 then none else (sorted ps)[k - 1]?

/-- The k-th smallest p-value passes its own threshold. -/
def Passes (ps : List ℚ) (k : Nat) : Prop := ∃ p, orderStatistic ps k = some p ∧ p ≤ (k : ℚ) / ps.length * (1 / 20)

/-- At most the p-value of the largest rank that passes. -/
def Rejected (ps : List ℚ) (p : ℚ) : Prop :=
  ∃ k cut, IsGreatest {k | Passes ps k} k ∧ orderStatistic ps k = some cut ∧ p ≤ cut

variable {ps qs : List ℚ} {p q : ℚ} {j k : Nat}

theorem orderStatistic_mono (first : orderStatistic ps j = some p) (second : orderStatistic ps k = some q)
    (before : j ≤ k) : p ≤ q := by
  unfold orderStatistic at first second
  split at first
  next => cases first
  next start =>
    split at second
    next => cases second
    next start' =>
      obtain ⟨inside,rfl⟩ := List.getElem?_eq_some_iff.mp first
      obtain ⟨inside',rfl⟩ := List.getElem?_eq_some_iff.mp second
      exact (sorted_pairwise ps).sortedLE.getElem_le_getElem_of_le (by omega)

theorem orderStatistic_perm (perm : ps.Perm qs) : orderStatistic ps k = orderStatistic qs k := by
  rw [orderStatistic,orderStatistic,sorted_congr perm]

theorem passes_perm (perm : ps.Perm qs) : Passes ps k ↔ Passes qs k := by
  rw [Passes,Passes,orderStatistic_perm perm,perm.length_eq]

theorem rejected_perm (perm : ps.Perm qs) : Rejected ps p ↔ Rejected qs p := by
  have same : {k | Passes ps k} = {k | Passes qs k} := Set.ext (fun _ => passes_perm perm)
  simp only [Rejected,same,orderStatistic_perm perm]

theorem Rejected.mono (rejected : Rejected ps p) (below : q ≤ p) : Rejected ps q := by
  obtain ⟨k,cut,greatest,found,le⟩ := rejected
  exact ⟨k,cut,greatest,found,below.trans le⟩

/-- A later rank with the same p-value passes with an earlier one, so the p-value decides as the rank does. -/
theorem rejected_iff_rank (greatest : IsGreatest {k | Passes ps k} k) (found : orderStatistic ps j = some p) :
    Rejected ps p ↔ j ≤ k := by
  constructor
  · rintro ⟨k',cut,greatest',last,le⟩
    obtain rfl := greatest'.unique greatest
    by_contra beyond
    refine beyond (greatest.2 ⟨p,found,?_⟩)
    obtain ⟨cut',last',passes⟩ := greatest.1
    obtain rfl := Option.some.inj (last.symm.trans last')
    have rank : (k' : ℚ) ≤ j := by exact_mod_cast (not_le.mp beyond).le
    calc p ≤ cut := le
      _ ≤ (k' : ℚ) / ps.length * (1 / 20) := passes
      _ ≤ (j : ℚ) / ps.length * (1 / 20) := by gcongr
  · intro before
    obtain ⟨cut,last,-⟩ := greatest.1
    exact ⟨k,cut,greatest,last,orderStatistic_mono found last before⟩

end stepUp

namespace AnomalyLocalizer
variable {rawCandidates : List RawCandidate}

/-- The p-values in the order of the ranks. -/
theorem candidatesByP_pValues (rawCandidates : List RawCandidate) :
    (candidatesByP rawCandidates).map (fun x => x.1.pValue) = sorted (rawCandidates.map RawCandidate.pValue) := by
  have ascending : ((candidatesByP rawCandidates).map (fun x => x.1.pValue)).Pairwise (· ≤ ·) :=
    List.pairwise_map.mpr (sortedBy_pairwise _ _)
  have values : rawCandidates.zipIdx.map (fun x => x.1.pValue) = rawCandidates.map RawCandidate.pValue := by
    rw [← List.zipIdx_map_fst 0 rawCandidates,List.map_map,List.zipIdx_map_fst]
    rfl
  have perm : ((candidatesByP rawCandidates).map (fun x => x.1.pValue)).Perm
      (sorted (rawCandidates.map RawCandidate.pValue)) := by
    refine ((sortedBy_perm _ _).map _).trans ?_
    rw [values]
    exact (sorted_perm _).symm
  exact perm.eq_of_pairwise (fun _ _ _ _ => le_antisymm) ascending (sorted_pairwise _)

theorem candidatesByP_length (rawCandidates : List RawCandidate) :
    (candidatesByP rawCandidates).length = rawCandidates.length := by
  rw [candidatesByP,(sortedBy_perm _ _).length_eq,List.length_zipIdx]

theorem orderStatistic_candidatesByP (rawCandidates : List RawCandidate) (k : Nat) :
    orderStatistic (rawCandidates.map RawCandidate.pValue) (k + 1) =
      (candidatesByP rawCandidates)[k]?.map (fun x => x.1.pValue) := by
  rw [orderStatistic,if_neg (Nat.succ_ne_zero k),Nat.add_sub_cancel,← candidatesByP_pValues,List.getElem?_map]

theorem passes_iff (rawCandidates : List RawCandidate) (k : Nat) :
    Passes (rawCandidates.map RawCandidate.pValue) (k + 1) ↔
      ∃ x, (candidatesByP rawCandidates)[k]? = some x ∧ x.1.pValue ≤ fdrThresh (k + 1) rawCandidates.length := by
  rw [Passes,orderStatistic_candidatesByP,List.length_map]
  constructor
  · rintro ⟨p,found,le⟩
    obtain ⟨x,here,rfl⟩ := Option.map_eq_some_iff.mp found
    exact ⟨x,here,le⟩
  · rintro ⟨x,here,le⟩
    exact ⟨x.1.pValue,Option.map_eq_some_iff.mpr ⟨x,here,rfl⟩,le⟩

/-- The search keeps the last rank that passes. -/
theorem foldl_nextFdrRank (mCount : Nat) (xs : List (RawCandidate × Nat)) :
    ((xs.zipIdx 1).foldl (nextFdrRank mCount) (-1) = -1 ∧
      ∀ k x, xs[k]? = some x → ¬ x.1.pValue ≤ fdrThresh (k + 1) mCount) ∨
    ∃ k : Nat, (xs.zipIdx 1).foldl (nextFdrRank mCount) (-1) = k + 1 ∧
      (∃ x, xs[k]? = some x ∧ x.1.pValue ≤ fdrThresh (k + 1) mCount) ∧
      ∀ j x, xs[j]? = some x → x.1.pValue ≤ fdrThresh (j + 1) mCount → j ≤ k := by
  induction xs using List.reverseRecOn with
  | nil => exact .inl ⟨rfl,by simp⟩
  | append_singleton xs last ih =>
    have turn : ((xs ++ [last]).zipIdx 1).foldl (nextFdrRank mCount) (-1) =
        nextFdrRank mCount ((xs.zipIdx 1).foldl (nextFdrRank mCount) (-1)) (last,xs.length + 1) := by
      rw [List.zipIdx_append,List.foldl_append,Nat.add_comm 1]
      rfl
    have before {k : Nat} {x : RawCandidate × Nat} (found : (xs ++ [last])[k]? = some x) :
        xs[k]? = some x ∨ k = xs.length ∧ x = last := by
      rcases lt_trichotomy k xs.length with inside | rfl | beyond
      · rw [List.getElem?_append_left inside] at found
        exact .inl found
      · rw [List.getElem?_concat_length] at found
        exact .inr ⟨rfl,(Option.some.inj found).symm⟩
      · rw [List.getElem?_eq_none (by simp; omega)] at found
        cases found
    rw [turn,nextFdrRank]
    by_cases passes : last.1.pValue ≤ fdrThresh (xs.length + 1) mCount
    · rw [if_pos passes]
      refine .inr ⟨xs.length,by simp,⟨last,List.getElem?_concat_length,passes⟩,?_⟩
      intro j x found _
      rcases before found with inside | ⟨rfl,-⟩
      · exact (List.getElem?_eq_some_iff.mp inside).1.le
      · exact le_rfl
    · rw [if_neg passes]
      rcases ih with ⟨unset,none⟩ | ⟨k,set,⟨x,found,le⟩,greatest⟩
      · refine .inl ⟨unset,?_⟩
        intro k x found
        rcases before found with inside | ⟨rfl,rfl⟩
        · exact none k x inside
        · exact passes
      · refine .inr ⟨k,set,⟨x,?_,le⟩,?_⟩
        · rw [List.getElem?_append_left (List.getElem?_eq_some_iff.mp found).1]
          exact found
        · intro j y found' le'
          rcases before found' with inside | ⟨rfl,rfl⟩
          · exact greatest j y inside le'
          · exact absurd le' passes

theorem le_maxFdrRank_iff {j : Nat} {x : RawCandidate × Nat} (found : (candidatesByP rawCandidates)[j]? = some x) :
    ((j + 1 : Nat) : Int) ≤ maxFdrRank rawCandidates ↔ Rejected (rawCandidates.map RawCandidate.pValue) x.1.pValue := by
  have place : orderStatistic (rawCandidates.map RawCandidate.pValue) (j + 1) = some x.1.pValue := by
    rw [orderStatistic_candidatesByP,found]
    rfl
  unfold maxFdrRank
  dsimp only
  rw [candidatesByP_length]
  rcases foldl_nextFdrRank rawCandidates.length (candidatesByP rawCandidates) with
    ⟨unset,none⟩ | ⟨k,set,passes,last⟩
  · rw [unset]
    refine iff_of_false (by omega) ?_
    rintro ⟨k,cut,⟨⟨p,here,le⟩,-⟩,-⟩
    cases k with
    | zero => cases here
    | succ k =>
      obtain ⟨y,found',le'⟩ := (passes_iff rawCandidates k).mp ⟨p,here,le⟩
      exact none k y found' le'
  · have greatest : IsGreatest {k | Passes (rawCandidates.map RawCandidate.pValue) k} (k + 1) := by
      refine ⟨(passes_iff rawCandidates k).mpr passes,?_⟩
      intro i passing
      cases i with
      | zero => exact Nat.zero_le _
      | succ i =>
        obtain ⟨y,found',le⟩ := (passes_iff rawCandidates i).mp passing
        exact Nat.succ_le_succ (last i y found' le)
    rw [set,rejected_iff_rank greatest place]
    omega

theorem fdrFlags_lookup {x : RawCandidate × Nat} (inside : x ∈ rawCandidates.zipIdx) :
    ∃ flag, (fdrFlags rawCandidates).lookup x.2 = some flag ∧
      (flag = true ↔ Rejected (rawCandidates.map RawCandidate.pValue) x.1.pValue) := by
  obtain ⟨j,found⟩ := List.mem_iff_getElem?.mp ((mem_sortedBy (fun x => x.1.pValue) _ x).mpr inside)
  have entered : (x.2,decide (((j + 1 : Nat) : Int) ≤ maxFdrRank rawCandidates)) ∈ fdrFlags rawCandidates := by
    refine List.mem_map.mpr ⟨(x,j + 1),?_,rfl⟩
    exact List.mk_mem_zipIdx_iff_le_and_getElem?_sub.mpr ⟨Nat.le_add_left 1 j,found⟩
  obtain ⟨flag,looked⟩ := Option.isSome_iff_exists.mp (List.lookup_isSome_iff.mpr ⟨_,entered,beq_self_eq_true x.2⟩)
  refine ⟨flag,looked,?_⟩
  -- the entry that is found belongs to the same place of the raw list
  obtain ⟨before,after,flags,-⟩ := List.lookup_eq_some_iff.mp looked
  have member : (x.2,flag) ∈ fdrFlags rawCandidates := by simp [flags]
  obtain ⟨⟨y,rank⟩,numbered,same⟩ := List.mem_map.mp member
  obtain ⟨place,rfl⟩ := Prod.mk.inj same
  obtain ⟨start,here⟩ := List.mk_mem_zipIdx_iff_le_and_getElem?_sub.mp numbered
  have origin : y ∈ rawCandidates.zipIdx :=
    (mem_sortedBy (fun x => x.1.pValue) _ y).mp (List.mem_iff_getElem?.mpr ⟨_,here⟩)
  have candidate : y.1 = x.1 := by
    have first := List.mk_mem_zipIdx_iff_getElem?.mp origin
    have second := List.mk_mem_zipIdx_iff_getElem?.mp inside
    rw [place,second] at first
    exact (Option.some.inj first).symm
  have decided := le_maxFdrRank_iff here
  rw [candidate,Nat.sub_add_cancel start] at decided
  rw [decide_eq_true_iff,decided]

theorem flagged_fst (rawCandidates : List RawCandidate) : (flagged rawCandidates).map Prod.fst = rawCandidates := by
  rw [flagged,List.map_map]
  exact List.zipIdx_map_fst 0 rawCandidates

theorem flagged_rejected {x : RawCandidate × Bool} (inside : x ∈ flagged rawCandidates) :
    x.2 = true ↔ Rejected (rawCandidates.map RawCandidate.pValue) x.1.pValue := by
  obtain ⟨y,origin,rfl⟩ := List.mem_map.mp inside
  obtain ⟨flag,looked,decided⟩ := fdrFlags_lookup origin
  rw [looked]
  exact decided

/-- The ranking has the flagged candidates, each once. -/
theorem topContributing_perm {β : Type} (rawCandidates : List RawCandidate) (f : SegmentContribution → β)
    (g : RawCandidate × Bool → β) (same : ∀ rank seg, f (contribution rawCandidates rank seg) = g seg) :
    ((topContributing rawCandidates).map f).Perm ((flagged rawCandidates).map g) := by
  have unranked : (topContributing rawCandidates).map f = (sortedBy rankKey (flagged rawCandidates)).map g := by
    rw [topContributing,List.map_map,← List.zipIdx_map_fst 1 (sortedBy rankKey (flagged rawCandidates)),List.map_map,
      List.zipIdx_map_fst]
    exact List.map_congr_left (fun x _ => same x.2 x.1)
  rw [unranked]
  exact (sortedBy_perm _ _).map g

theorem topContributing_rejected {s : SegmentContribution} (inside : s ∈ topContributing rawCandidates) :
    s.fdrRejected = true ↔ Rejected (rawCandidates.map RawCandidate.pValue) s.pValue := by
  obtain ⟨x,ranked,rfl⟩ := List.mem_map.mp inside
  have member : x.1 ∈ sortedBy rankKey (flagged rawCandidates) := by
    have first := List.mem_map_of_mem (f := Prod.fst) ranked
    rwa [List.zipIdx_map_fst] at first
  exact flagged_rejected ((mem_sortedBy rankKey _ x.1).mp member)

/-- The rejected segments. -/
def rejectedSegments (rawCandidates : List RawCandidate) : List (String × ℚ) :=
  ((topContributing rawCandidates).filter (fun s => s.fdrRejected)).map fun s => (s.segmentValue,s.pValue)

open scoped Classical in
theorem flagged_eq (rawCandidates : List RawCandidate) :
    flagged rawCandidates =
      rawCandidates.map fun c => (c,decide (Rejected (rawCandidates.map RawCandidate.pValue) c.pValue)) := by
  calc flagged rawCandidates
      = (flagged rawCandidates).map
          fun x => (x.1,decide (Rejected (rawCandidates.map RawCandidate.pValue) x.1.pValue)) := by
        conv_lhs => rw [← List.map_id (flagged rawCandidates)]
        refine List.map_congr_left ?_
        intro x inside
        exact Prod.ext rfl (Bool.eq_iff_iff.mpr ((flagged_rejected inside).trans decide_eq_true_iff.symm))
    _ = ((flagged rawCandidates).map Prod.fst).map
          fun c => (c,decide (Rejected (rawCandidates.map RawCandidate.pValue) c.pValue)) := by
        rw [List.map_map]
        rfl
    _ = _ := by rw [flagged_fst]

theorem flagged_perm {others : List RawCandidate} (perm : rawCandidates.Perm others) :
    (flagged rawCandidates).Perm (flagged others) := by
  classical
  have same (p : ℚ) := rejected_perm (p := p) (perm.map RawCandidate.pValue)
  rw [flagged_eq,flagged_eq]
  simp only [same]
  exact perm.map _

theorem rejectedSegments_flagged (rawCandidates : List RawCandidate) :
    (rejectedSegments rawCandidates).Perm
      (((flagged rawCandidates).filter Prod.snd).map fun x => (x.1.segmentValue,x.1.pValue)) := by
  have triples := topContributing_perm rawCandidates (fun s => ((s.segmentValue,s.pValue),s.fdrRejected))
    (fun x => ((x.1.segmentValue,x.1.pValue),x.2)) (fun _ _ => rfl)
  have chosen := (triples.filter Prod.snd).map Prod.fst
  rw [List.filter_map,List.filter_map,List.map_map,List.map_map] at chosen
  exact chosen

theorem topContributing_fdr (rawCandidates others : List RawCandidate) (perm : rawCandidates.Perm others) :
    ((topContributing rawCandidates).map fun s => (s.segmentValue,s.pValue)).Perm
      (rawCandidates.map fun c => (c.segmentValue,c.pValue)) ∧
    (∀ s ∈ topContributing rawCandidates,
      s.fdrRejected = true ↔ Rejected (rawCandidates.map RawCandidate.pValue) s.pValue) ∧
    (∀ s ∈ topContributing rawCandidates, ∀ t ∈ topContributing rawCandidates,
      t.pValue ≤ s.pValue → s.fdrRejected = true → t.fdrRejected = true) ∧
    (∀ s ∈ topContributing rawCandidates, ∀ t ∈ topContributing rawCandidates,
      s.pValue = t.pValue → s.fdrRejected = t.fdrRejected) ∧
    (rejectedSegments rawCandidates).Perm (rejectedSegments others) := by
  have downward : ∀ s ∈ topContributing rawCandidates, ∀ t ∈ topContributing rawCandidates,
      t.pValue ≤ s.pValue → s.fdrRejected = true → t.fdrRejected = true := by
    intro s inside t inside' below rejected
    rw [topContributing_rejected inside'] at *
    exact ((topContributing_rejected inside).mp rejected).mono below
  refine ⟨?_,fun s inside => topContributing_rejected inside,downward,?_,?_⟩
  · have reported := topContributing_perm rawCandidates (fun s => (s.segmentValue,s.pValue))
      (fun x => (x.1.segmentValue,x.1.pValue)) (fun _ _ => rfl)
    refine reported.trans (List.Perm.of_eq ?_)
    rw [← flagged_fst rawCandidates,List.map_map,flagged_fst]
    rfl
  · intro s inside t inside' tied
    exact Bool.eq_iff_iff.mpr ⟨downward s inside t inside' tied.ge,downward t inside' s inside tied.le⟩
  · refine (rejectedSegments_flagged rawCandidates).trans (.trans ?_ (rejectedSegments_flagged others).symm)
    exact ((flagged_perm perm).filter Prod.snd).map _

/-- Of two tied carriers the first misses its own threshold. -/
def carriers : List RawCandidate :=
  [⟨"air",4,2,2,40,6,3 / 100⟩,⟨"sea",3,2,3 / 2,35,2,4 / 100⟩,⟨"rail",5,2,5 / 2,50,9,3 / 100⟩]

example : (topContributing carriers).map (fun s => (s.segmentValue,s.fdrRejected)) =
    [("rail",true),("air",true),("sea",true)] := by decide +kernel

theorem carriers_fdr :
    ((topContributing carriers).map fun s => (s.segmentValue,s.pValue)).Perm
      (carriers.map fun c => (c.segmentValue,c.pValue)) ∧
    (∀ s ∈ topContributing carriers, s.fdrRejected = true ↔ Rejected (carriers.map RawCandidate.pValue) s.pValue) ∧
    (∀ s ∈ topContributing carriers, ∀ t ∈ topContributing carriers,
      t.pValue ≤ s.pValue → s.fdrRejected = true → t.fdrRejected = true) ∧
    (∀ s ∈ topContributing carriers, ∀ t ∈ topContributing carriers,
      s.pValue = t.pValue → s.fdrRejected = t.fdrRejected) ∧
    (rejectedSegments carriers).Perm (rejectedSegments carriers.reverse) :=
  topContributing_fdr carriers carriers.reverse (List.reverse_perm carriers).symm

end AnomalyLocalizer
end RevPilot.Analytics
