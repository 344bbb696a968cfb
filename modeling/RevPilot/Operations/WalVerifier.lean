import RevPilot.Library.Lists
import RevPilot.Library.Rounding
import RevPilot.Library.Sorting
import RevPilot.Shared.Errors
import RevPilot.Shared.Temporal

/-! The verifier of archived WAL blocks: the sequence ids that are missing between the first and
the last, and the recovery point that the last block leaves. -/
namespace RevPilot.Operations
open Library Shared

structure WalBlock where
  sequenceId : Int
  timestamp : UtcDateTime

structure WalVerificationReport where
  unbrokenSequence : Bool
  blocksChecked : Nat
  startSequenceId : Int
  endSequenceId : Int
  gapsDetected : List Int
  measuredRpoSeconds : ℚ
  targetTime : UtcDateTime

def walGapDetectedError (message : String) (details : List (PyKey × PyValue)) : PyError :=
  .domain { code := "WAL_GAP_DETECTED", message := message, details := details }

namespace WalVerifier

/-- The gaps between the neighbours of a sorted list. -/
def gaps : List WalBlock → List Int
  | curr :: next :: rest =>
    (if next.sequenceId ≠ curr.sequenceId + 1 then pyRange (curr.sequenceId + 1) next.sequenceId else []) ++
      gaps (next :: rest)
  | _ => []

/-- `str` of a list of integers. -/
def listText (ids : List Int) : String := "[" ++ ", ".intercalate (ids.map toString) ++ "]"

def emptyReport (targetTime : UtcDateTime) : WalVerificationReport where
  unbrokenSequence := false
  blocksChecked := 0
  startSequenceId := 0
  endSequenceId := 0
  gapsDetected := [0]
  measuredRpoSeconds := 999999
  targetTime := targetTime

def verifyWalStream (walBlocks : List WalBlock) (targetTime : UtcDateTime) (raiseOnGap : Bool := true) :
    Except PyError WalVerificationReport :=
  let sortedBlocks := sortedBy WalBlock.sequenceId walBlocks
  match sortedBlocks.head?, sortedBlocks.getLast? with
  | some first, some last =>
    let gaps := gaps sortedBlocks
    if gaps ≠ [] ∧ raiseOnGap = true then
      .error (walGapDetectedError ("Missing WAL archive block(s) in sequence: " ++ listText gaps)
        [(.str "gaps",.list (gaps.map .int)),(.str "first_available_seq",.int first.sequenceId),
          (.str "last_available_seq",.int last.sequenceId)])
    else
      let rawRpo := toDouble ((targetTime.micros - last.timestamp.micros : Int) / 1000000)
      .ok { unbrokenSequence := gaps.isEmpty, blocksChecked := sortedBlocks.length, startSequenceId := first.sequenceId
            endSequenceId := last.sequenceId, gapsDetected := gaps, measuredRpoSeconds := max 0 rawRpo
            targetTime := targetTime }
  | _, _ =>
    if raiseOnGap then
      .error (walGapDetectedError "WAL archive stream is empty; unable to replay transactions"
        [(.str "blocks_count",.int 0)])
    else .ok (emptyReport targetTime)

end WalVerifier

section missing
variable {blocks : List WalBlock} {n : Int}

/-- Between the smallest and the largest id, and in no block. -/
structure Missing (blocks : List WalBlock) (n : Int) : Prop where
  above : ∃ b ∈ blocks, b.sequenceId < n
  below : ∃ b ∈ blocks, n < b.sequenceId
  absent : ∀ b ∈ blocks, b.sequenceId ≠ n

theorem missing_perm {others : List WalBlock} (perm : blocks.Perm others) : Missing blocks n ↔ Missing others n := by
  have same (b : WalBlock) : b ∈ blocks ↔ b ∈ others := perm.mem_iff
  constructor
  · rintro ⟨⟨low,first,above⟩,⟨high,last,below⟩,absent⟩
    exact ⟨⟨low,(same low).mp first,above⟩,⟨high,(same high).mp last,below⟩,fun b inside => absent b ((same b).mpr inside)⟩
  · rintro ⟨⟨low,first,above⟩,⟨high,last,below⟩,absent⟩
    exact ⟨⟨low,(same low).mpr first,above⟩,⟨high,(same high).mpr last,below⟩,fun b inside => absent b ((same b).mp inside)⟩

/-- In a sorted list an id is missing between the first two blocks or after them. -/
theorem missing_cons {curr next : WalBlock} {rest : List WalBlock}
    (sorted : (curr :: next :: rest).Pairwise (fun a b => a.sequenceId ≤ b.sequenceId)) :
    Missing (curr :: next :: rest) n ↔
      (curr.sequenceId < n ∧ n < next.sequenceId) ∨ Missing (next :: rest) n := by
  obtain ⟨first,later⟩ := List.pairwise_cons.mp sorted
  have second := (List.pairwise_cons.mp later).1
  constructor
  · rintro ⟨⟨low,inside,above⟩,⟨high,inside',below⟩,absent⟩
    have start : curr.sequenceId < n := by
      rcases List.mem_cons.mp inside with rfl | behind
      · exact above
      · exact (first low behind).trans_lt above
    by_cases between : n < next.sequenceId
    · exact .inl ⟨start,between⟩
    · have apart := absent next (by simp)
      have behind : high ∈ next :: rest := by
        rcases List.mem_cons.mp inside' with rfl | behind
        · omega
        · exact behind
      exact .inr ⟨⟨next,by simp,by omega⟩,⟨high,behind,below⟩,fun b other => absent b (List.mem_cons_of_mem _ other)⟩
  · rintro (⟨above,below⟩ | ⟨⟨low,inside,above⟩,⟨high,inside',below⟩,absent⟩)
    · refine ⟨⟨curr,by simp,above⟩,⟨next,by simp,below⟩,?_⟩
      intro b inside
      rcases List.mem_cons.mp inside with rfl | behind
      · omega
      · rcases List.mem_cons.mp behind with rfl | further
        · omega
        · have order := second b further
          omega
    · refine ⟨⟨low,List.mem_cons_of_mem _ inside,above⟩,⟨high,List.mem_cons_of_mem _ inside',below⟩,?_⟩
      intro b here
      rcases List.mem_cons.mp here with rfl | behind
      · have order := first low inside
        omega
      · exact absent b behind

end missing

namespace WalVerifier
variable {blocks : List WalBlock}

theorem mem_gaps (sorted : blocks.Pairwise (fun a b => a.sequenceId ≤ b.sequenceId)) (n : Int) :
    n ∈ gaps blocks ↔ Missing blocks n := by
  induction blocks with
  | nil => exact iff_of_false List.not_mem_nil (fun missing => by simpa using missing.above)
  | cons curr rest ih =>
    cases rest with
    | nil =>
      refine iff_of_false List.not_mem_nil ?_
      rintro ⟨⟨low,inside,above⟩,⟨high,inside',below⟩,-⟩
      obtain rfl := List.mem_singleton.mp inside
      obtain rfl := List.mem_singleton.mp inside'
      omega
    | cons next rest =>
      have later := ih (List.pairwise_cons.mp sorted).2
      rw [gaps,List.mem_append,later,missing_cons sorted]
      refine or_congr_left ?_
      split
      next => rw [mem_pyRange]; omega
      next adjacent => exact iff_of_false List.not_mem_nil (by omega)

theorem gaps_increasing (sorted : blocks.Pairwise (fun a b => a.sequenceId ≤ b.sequenceId)) :
    (gaps blocks).Pairwise (· < ·) := by
  induction blocks with
  | nil => exact .nil
  | cons curr rest ih =>
    cases rest with
    | nil => exact .nil
    | cons next rest =>
      obtain ⟨-,later⟩ := List.pairwise_cons.mp sorted
      rw [gaps,List.pairwise_append]
      refine ⟨?_,ih later,?_⟩
      · split
        · exact pyRange_increasing _ _
        · exact .nil
      · -- the first gap ends in front of the next block, the others start behind it
        intro n inside m behind
        obtain ⟨low,inside',above⟩ := ((mem_gaps later m).mp behind).above
        have order : next.sequenceId ≤ low.sequenceId := by
          rcases List.mem_cons.mp inside' with rfl | further
          · exact le_rfl
          · exact (List.pairwise_cons.mp later).1 low further
        have before : n < next.sequenceId := by
          split at inside
          next => exact (mem_pyRange.mp inside).2
          next => cases inside
        omega

theorem mem_sortedBlocks_gaps (walBlocks : List WalBlock) (n : Int) :
    n ∈ gaps (sortedBy WalBlock.sequenceId walBlocks) ↔ Missing walBlocks n :=
  (mem_gaps (sortedBy_pairwise WalBlock.sequenceId walBlocks) n).trans
    (missing_perm (sortedBy_perm WalBlock.sequenceId walBlocks))

/-- The gaps that a list without blocks does not have are those that make the verifier raise. -/
theorem verifyWalStream_cases (walBlocks : List WalBlock) (filled : walBlocks ≠ []) (targetTime : UtcDateTime)
    (raiseOnGap : Bool) :
    (raiseOnGap = true ∧ gaps (sortedBy WalBlock.sequenceId walBlocks) ≠ [] ∧
      ∃ message details, verifyWalStream walBlocks targetTime raiseOnGap = .error (walGapDetectedError message details)) ∨
    ((raiseOnGap = true → gaps (sortedBy WalBlock.sequenceId walBlocks) = []) ∧
      ∃ report, verifyWalStream walBlocks targetTime raiseOnGap = .ok report ∧
        report.gapsDetected = gaps (sortedBy WalBlock.sequenceId walBlocks) ∧
        report.unbrokenSequence = report.gapsDetected.isEmpty) := by
  have some : sortedBy WalBlock.sequenceId walBlocks ≠ [] := by
    intro none
    have perm := sortedBy_perm WalBlock.sequenceId walBlocks
    rw [none] at perm
    exact filled (List.nil_perm.mp perm)
  unfold verifyWalStream
  dsimp only
  rw [List.head?_eq_some_head some,List.getLast?_eq_some_getLast some]
  dsimp only
  split
  next raised => exact .inl ⟨raised.2,raised.1,_,_,rfl⟩
  next passed =>
    refine .inr ⟨?_,_,rfl,rfl,rfl⟩
    intro raising
    by_contra gap
    exact passed ⟨gap,raising⟩

/-- The verdict on a stream with blocks, in whatever order and however often they come. -/
theorem verifyWalStream_gaps (walBlocks : List WalBlock) (filled : walBlocks ≠ []) (targetTime : UtcDateTime)
    (raiseOnGap : Bool) :
    (∀ report, verifyWalStream walBlocks targetTime raiseOnGap = .ok report →
      (∀ n, n ∈ report.gapsDetected ↔ Missing walBlocks n) ∧ report.gapsDetected.Pairwise (· < ·) ∧
        (report.unbrokenSequence = true ↔ ¬ ∃ n, Missing walBlocks n)) ∧
    ((∃ error, verifyWalStream walBlocks targetTime raiseOnGap = .error error) ↔
      raiseOnGap = true ∧ ∃ n, Missing walBlocks n) ∧
    ∀ error, verifyWalStream walBlocks targetTime raiseOnGap = .error error → error.code? = some "WAL_GAP_DETECTED" := by
  have found : gaps (sortedBy WalBlock.sequenceId walBlocks) ≠ [] ↔ ∃ n, Missing walBlocks n := by
    have same := mem_sortedBlocks_gaps walBlocks
    constructor
    · intro gap
      obtain ⟨n,inside⟩ := List.exists_mem_of_ne_nil _ gap
      exact ⟨n,(same n).mp inside⟩
    · rintro ⟨n,missing⟩
      exact List.ne_nil_of_mem ((same n).mpr missing)
  rcases verifyWalStream_cases walBlocks filled targetTime raiseOnGap with
    ⟨raising,gap,message,details,raised⟩ | ⟨quiet,report,returned,reported,verdict⟩
  · rw [raised]
    refine ⟨?_,iff_of_true ⟨_,rfl⟩ ⟨raising,found.mp gap⟩,?_⟩
    · intro report returned
      cases returned
    · intro error same
      cases same
      rfl
  · rw [returned]
    refine ⟨?_,?_,?_⟩
    · intro report' same
      cases same
      refine ⟨?_,?_,?_⟩
      · rw [reported]
        exact mem_sortedBlocks_gaps walBlocks
      · rw [reported]
        exact gaps_increasing (sortedBy_pairwise WalBlock.sequenceId walBlocks)
      · rw [verdict,reported,List.isEmpty_iff,← found,not_not]
    · refine iff_of_false ?_ ?_
      · rintro ⟨error,raised⟩
        cases raised
      · rintro ⟨raising,gap⟩
        exact found.mpr gap (quiet raising)
    · intro error raised
      cases raised

/-- Blocks 7, 3 and 4, the last of them twice. -/
def shuffledBlocks : List WalBlock := [⟨7,⟨9⟩⟩,⟨4,⟨6⟩⟩,⟨3,⟨5⟩⟩,⟨4,⟨6⟩⟩]

example : gaps (sortedBy WalBlock.sequenceId shuffledBlocks) = [5,6] := by decide

theorem shuffledBlocks_gaps :
    (∀ report, verifyWalStream shuffledBlocks ⟨12⟩ false = .ok report →
      (∀ n, n ∈ report.gapsDetected ↔ Missing shuffledBlocks n) ∧ report.gapsDetected.Pairwise (· < ·) ∧
        (report.unbrokenSequence = true ↔ ¬ ∃ n, Missing shuffledBlocks n)) ∧
    ((∃ error, verifyWalStream shuffledBlocks ⟨12⟩ false = .error error) ↔
      false = true ∧ ∃ n, Missing shuffledBlocks n) ∧
    ∀ error, verifyWalStream shuffledBlocks ⟨12⟩ false = .error error → error.code? = some "WAL_GAP_DETECTED" :=
  verifyWalStream_gaps shuffledBlocks (List.cons_ne_nil _ _) ⟨12⟩ false

end WalVerifier
end RevPilot.Operations
