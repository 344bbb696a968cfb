import RevPilot.Library.Outcome
import RevPilot.Retrieval.Pipeline

/-! What a search returns, over every corpus and every query. -/
namespace RevPilot.Retrieval
open Library Library.Text Library.Finding Shared Evidence

section dictionaries
variable {α V : Type}

theorem get?_foldl_set {name : α → String} {value : α → V} {xs : List α} {d : Dict String V} {key : String} {v : V}
    (found : (xs.foldl (fun d x => d.set (name x) (value x)) d).get? key = some v) :
    (∃ x ∈ xs, name x = key ∧ value x = v) ∨ d.get? key = some v := by
  rw [Dict.get?_foldl_set,Option.or_eq_some_iff] at found
  obtain last | ⟨-,earlier⟩ := found
  · obtain ⟨x,stored,facts⟩ := Option.map_eq_some_iff.mp last
    have named : name x = key := by simpa using List.find?_some stored
    exact .inl ⟨x,List.mem_reverse.mp (List.mem_of_find?_eq_some stored),named,facts⟩
  · exact .inr earlier

theorem candidateMap_member {candidates : List IndexedChunk} {chunkId : String} {item : IndexedChunk}
    (found : (candidateMap candidates).get? chunkId = some item) : item ∈ candidates ∧ item.chunkId = chunkId := by
  obtain ⟨x,inside,named,rfl⟩ | nothing := @get?_foldl_set _ _ IndexedChunk.chunkId id _ _ _ _ found
  · exact ⟨inside,named⟩
  · cases nothing

/-- Ranks count from 1 on. -/
theorem ranksOf_positive {scores : Dict String ℚ} {chunkId : String} {rank : Int}
    (found : (ranksOf scores).get? chunkId = some rank) : 1 ≤ rank := by
  obtain ⟨x,-,-,rfl⟩ | nothing := get?_foldl_set found
  · omega
  · cases nothing

end dictionaries

section fusion
variable {lexicalRanks denseRanks ranks : Dict String Int} {k : Int}

/-- What a ranking adds to a score. -/
def share (ranks : Dict String Int) (k : Int) (id : String) : ℚ := (ranks.get? id).elim 0 fun rank => 1 / (k + rank)

/-- The identifiers of both rankings, as the scores are computed. -/
def fusedIds (lexicalRanks denseRanks : Dict String Int) : List String :=
  lexicalRanks.keys ++ denseRanks.keys.filter fun id => id ∉ lexicalRanks.keys

def total (lexicalRanks denseRanks : Dict String Int) (k : Int) (id : String) : String × ℚ :=
  (id,share lexicalRanks k id + share denseRanks k id)

/-- A ranking that has `b` has `a` above it. -/
def Outranks (ranks : Dict String Int) (a b : String) : Prop :=
  ∀ rank, ranks.get? b = some rank → ∃ better, ranks.get? a = some better ∧ better < rank

theorem rankScore_eq (positive : ∀ id rank, ranks.get? id = some rank → 1 ≤ rank) (chunkId : String) :
    rankScore ranks k chunkId = .ok (share ranks k chunkId) := by
  unfold rankScore share
  cases found : ranks.get? chunkId with
  | none => rfl
  | some rank =>
    have bound := positive chunkId rank found
    exact if_neg (by omega)

theorem reciprocalRankFusion_eq (smoothing : 1 ≤ k)
    (lexical : ∀ id rank, lexicalRanks.get? id = some rank → 1 ≤ rank)
    (dense : ∀ id rank, denseRanks.get? id = some rank → 1 ≤ rank) :
    reciprocalRankFusion lexicalRanks denseRanks k =
      .ok (sortedBy fusionKey ((fusedIds lexicalRanks denseRanks).map (total lexicalRanks denseRanks k))) := by
  have scored (id : String) : fusedScore lexicalRanks denseRanks k id = .ok (total lexicalRanks denseRanks k id) := by
    rw [fusedScore,rankScore_eq lexical,rankScore_eq dense]
    rfl
  have scores : (fusedIds lexicalRanks denseRanks).mapM (fusedScore lexicalRanks denseRanks k) =
      .ok ((fusedIds lexicalRanks denseRanks).map (total lexicalRanks denseRanks k)) := by
    rw [Outcome.mapM_eq_ok,List.map_map]
    exact List.map_congr_left (fun id _ => scored id)
  unfold fusedIds at scores
  rw [reciprocalRankFusion,if_neg (by omega)]
  simp only [scores]
  rfl

theorem fusedIds_distinct (lexicalRanks denseRanks : Dict String Int) : (fusedIds lexicalRanks denseRanks).Nodup := by
  refine List.nodup_append.mpr ⟨lexicalRanks.distinct,denseRanks.distinct.filter _,?_⟩
  rintro id first id' second rfl
  simp [first] at second

theorem mem_fusedIds {id : String} :
    id ∈ fusedIds lexicalRanks denseRanks ↔ id ∈ lexicalRanks.keys ∨ id ∈ denseRanks.keys := by
  simp only [fusedIds,List.mem_append,List.mem_filter,decide_eq_true_eq]
  tauto

theorem fusionKey_injective : Function.Injective fusionKey := by
  intro x y same
  obtain ⟨score,id⟩ := Prod.mk.inj (toLex.injective same)
  exact Prod.ext (String.toList_injective id) (neg_injective score)

/-- Both orders of the rankings give the same scores. -/
theorem totals_perm (lexicalRanks denseRanks : Dict String Int) (k : Int) :
    ((fusedIds lexicalRanks denseRanks).map (total lexicalRanks denseRanks k)).Perm
      ((fusedIds denseRanks lexicalRanks).map (total denseRanks lexicalRanks k)) := by
  have ids : (fusedIds lexicalRanks denseRanks).Perm (fusedIds denseRanks lexicalRanks) := by
    refine (List.perm_ext_iff_of_nodup (fusedIds_distinct _ _) (fusedIds_distinct _ _)).mpr ?_
    intro id
    rw [mem_fusedIds,mem_fusedIds,or_comm]
  have same : total lexicalRanks denseRanks k = total denseRanks lexicalRanks k :=
    funext (fun id => congrArg (Prod.mk id) (add_comm _ _))
  rw [same]
  exact ids.map _

theorem share_nonneg (smoothing : 1 ≤ k) (positive : ∀ id rank, ranks.get? id = some rank → 1 ≤ rank) (id : String) :
    0 ≤ share ranks k id := by
  unfold share
  cases found : ranks.get? id with
  | none => exact le_rfl
  | some rank =>
    have bound := positive id rank found
    have below : (0 : ℚ) ≤ k + rank := by exact_mod_cast (by omega : (0 : Int) ≤ k + rank)
    exact one_div_nonneg.mpr below

/-- The share of the better rank is greater. -/
theorem share_lt {a b : String} (smoothing : 1 ≤ k) (positive : ∀ id rank, ranks.get? id = some rank → 1 ≤ rank)
    (outranked : Outranks ranks a b) (ranked : b ∈ ranks.keys) : share ranks k b < share ranks k a := by
  rw [Dict.mem_keys_iff,Option.ne_none_iff_exists'] at ranked
  obtain ⟨rank,found⟩ := ranked
  obtain ⟨better,found',less⟩ := outranked rank found
  have bound := positive a better found'
  have below : (0 : ℚ) < k + better := by exact_mod_cast (by omega : (0 : Int) < k + better)
  have above : (k : ℚ) + better < k + rank := by exact_mod_cast (by omega : k + better < k + rank)
  rw [share,share,found,found']
  exact one_div_lt_one_div_of_lt below above

theorem share_le {a b : String} (smoothing : 1 ≤ k) (positive : ∀ id rank, ranks.get? id = some rank → 1 ≤ rank)
    (outranked : Outranks ranks a b) : share ranks k b ≤ share ranks k a := by
  by_cases ranked : b ∈ ranks.keys
  · exact (share_lt smoothing positive outranked ranked).le
  · rw [Dict.mem_keys_iff,not_not] at ranked
    have unranked : share ranks k b = 0 := by
      rw [share,ranked]
      rfl
    rw [unranked]
    exact share_nonneg smoothing positive a

theorem reciprocalRankFusion_ok (smoothing : 0 < k)
    (lexical : ∀ id rank, lexicalRanks.get? id = some rank → 1 ≤ rank)
    (dense : ∀ id rank, denseRanks.get? id = some rank → 1 ≤ rank) :
    ∃ fused, reciprocalRankFusion lexicalRanks denseRanks k = .ok fused :=
  ⟨_,reciprocalRankFusion_eq smoothing lexical dense⟩

theorem reciprocalRankFusion_laws (lexicalRanks denseRanks : Dict String Int) (k : Int) (smoothing : 1 ≤ k)
    (lexical : ∀ id rank, lexicalRanks.get? id = some rank → 1 ≤ rank)
    (dense : ∀ id rank, denseRanks.get? id = some rank → 1 ≤ rank) :
    ∃ fused, reciprocalRankFusion lexicalRanks denseRanks k = .ok fused ∧
      reciprocalRankFusion denseRanks lexicalRanks k = .ok fused ∧
      (fused.map Prod.fst).Nodup ∧
      (∀ id, id ∈ fused.map Prod.fst ↔ id ∈ lexicalRanks.keys ∨ id ∈ denseRanks.keys) ∧
      fused.Pairwise (fun x y => fusionKey x < fusionKey y) ∧
      ∀ a b (i j : Nat), Outranks lexicalRanks a b → Outranks denseRanks a b →
        (fused.map Prod.fst)[i]? = some a → (fused.map Prod.fst)[j]? = some b → i < j := by
  let scores := (fusedIds lexicalRanks denseRanks).map (total lexicalRanks denseRanks k)
  have perm : (sortedBy fusionKey scores).Perm scores := sortedBy_perm fusionKey scores
  have ids : ((sortedBy fusionKey scores).map Prod.fst).Perm (fusedIds lexicalRanks denseRanks) := by
    refine (perm.map Prod.fst).trans (.of_eq ?_)
    rw [List.map_map]
    exact List.map_id _
  have distinct : ((sortedBy fusionKey scores).map Prod.fst).Nodup :=
    ids.nodup_iff.mpr (fusedIds_distinct lexicalRanks denseRanks)
  refine ⟨sortedBy fusionKey scores,reciprocalRankFusion_eq smoothing lexical dense,?_,distinct,?_,?_,?_⟩
  · rw [reciprocalRankFusion_eq smoothing dense lexical]
    refine congrArg _ (sortedBy_congr fusionKey (totals_perm denseRanks lexicalRanks k) ?_)
    exact fun x _ y _ same => fusionKey_injective same
  · intro id
    rw [ids.mem_iff,mem_fusedIds]
  · refine ((List.Nodup.of_map _ distinct).and (sortedBy_pairwise fusionKey scores)).imp ?_
    intro x y apart
    exact lt_of_le_of_ne apart.2 (fun same => apart.1 (fusionKey_injective same))
  · intro a b i j ahead ahead' first second
    rw [List.getElem?_map,Option.map_eq_some_iff] at first second
    obtain ⟨x,placed,rfl⟩ := first
    obtain ⟨y,placed',rfl⟩ := second
    have scored {z : String × ℚ} {n : Nat} (placed : (sortedBy fusionKey scores)[n]? = some z) :
        z.1 ∈ fusedIds lexicalRanks denseRanks ∧ total lexicalRanks denseRanks k z.1 = z := by
      obtain ⟨id,known,rfl⟩ := List.mem_map.mp (perm.mem_iff.mp (List.mem_iff_getElem?.mpr ⟨n,placed⟩))
      exact ⟨known,rfl⟩
    have above : share lexicalRanks k y.1 + share denseRanks k y.1 < share lexicalRanks k x.1 + share denseRanks k x.1 := by
      rcases mem_fusedIds.mp (scored placed').1 with ranked | ranked
      · exact add_lt_add_of_lt_of_le (share_lt smoothing lexical ahead ranked) (share_le smoothing dense ahead')
      · exact add_lt_add_of_le_of_lt (share_le smoothing lexical ahead) (share_lt smoothing dense ahead' ranked)
    refine sortedBy_index fusionKey placed placed' ?_
    rw [← (scored placed).2,← (scored placed').2]
    exact Prod.Lex.toLex_lt_toLex.mpr (.inl (neg_lt_neg above))

/-- Two chunks that both rankings have, one that only the dense one has. -/
def bothRanks : Dict String Int := (Dict.empty.set "a" 1).set "b" 2

def denseOnly : Dict String Int := (bothRanks.set "b" 3).set "c" 2

theorem bothRanks_positive (id : String) (rank : Int) (found : bothRanks.get? id = some rank) : 1 ≤ rank := by
  rw [bothRanks,Dict.get?_set,Dict.get?_set] at found
  split at found
  next => cases found; decide
  next =>
    split at found
    next => cases found; decide
    next => cases found

theorem denseOnly_positive (id : String) (rank : Int) (found : denseOnly.get? id = some rank) : 1 ≤ rank := by
  rw [denseOnly,Dict.get?_set,Dict.get?_set] at found
  split at found
  next => cases found; decide
  next =>
    split at found
    next => cases found; decide
    next => exact bothRanks_positive id rank found

theorem bothRanks_laws :
    ∃ fused, reciprocalRankFusion bothRanks denseOnly 60 = .ok fused ∧
      reciprocalRankFusion denseOnly bothRanks 60 = .ok fused ∧
      (fused.map Prod.fst).Nodup ∧
      (∀ id, id ∈ fused.map Prod.fst ↔ id ∈ bothRanks.keys ∨ id ∈ denseOnly.keys) ∧
      fused.Pairwise (fun x y => fusionKey x < fusionKey y) ∧
      ∀ a b (i j : Nat), Outranks bothRanks a b → Outranks denseOnly a b →
        (fused.map Prod.fst)[i]? = some a → (fused.map Prod.fst)[j]? = some b → i < j :=
  reciprocalRankFusion_laws bothRanks denseOnly 60 (by decide) bothRanks_positive denseOnly_positive

end fusion

section citations

/-- The span is a non-empty part of the text and reads its snippet there. -/
structure Cites (text : String) (span : CitationSpan) : Prop where
  nonempty : span.startChar < span.endChar
  inside : span.endChar ≤ text.toList.length
  exact : String.ofList (slice text.toList span.startChar span.endChar) = span.snippetText

theorem verify_of_cites {text : String} {span : CitationSpan} (cites : Cites text span) :
    verifyCitationSpan text span = true := by
  have bounds : ¬(text.toList.length < span.endChar ∨ span.endChar ≤ span.startChar) := by
    have first := cites.nonempty
    have last := cites.inside
    omega
  rw [verifyCitationSpan,if_neg bounds,cites.exact]
  simp

theorem stripChars_inside (cs : List Char) : stripChars cs <:+: cs :=
  (List.rdropWhile_prefix isSpace (cs.dropWhile isSpace)).isInfix.trans (List.dropWhile_suffix isSpace).isInfix

theorem snippetFor_inside {text lowered snippet : List Char} {term : String}
    (found : snippetFor text lowered term = some snippet) : snippet ≠ [] ∧ snippet <:+: text := by
  obtain ⟨sentence,long⟩ := Option.filter_eq_some_iff.mp found
  obtain ⟨pos,-,rfl⟩ := Option.map_eq_some_iff.mp sentence
  exact ⟨of_decide_eq_true long,(stripChars_inside _).trans (slice_inside text _ _)⟩

theorem makeSpan_cites {text snippet chunkId : String} {sectionId : Option String} {start stop : Nat}
    (nonempty : start < stop) (inside : stop ≤ text.toList.length)
    (exact : String.ofList (slice text.toList start stop) = snippet) :
    ∃ span, makeSpan chunkId sectionId start stop snippet = .ok span ∧ Cites text span := by
  rw [makeSpan,dif_pos (by omega)]
  exact ⟨_,rfl,nonempty,inside,exact⟩

/-- Whatever the lower-cased text is like, the span of a non-empty text is one that cites it. -/
theorem extractSpan_cites (rt : Runtime) (terms : List String) {item : IndexedChunk} (text : item.text ≠ "") :
    ∃ span, extractSpan rt terms item = .ok span ∧ Cites item.text span := by
  unfold extractSpan
  simp only
  split
  next snippet found =>
    obtain ⟨term,-,some⟩ := List.exists_of_findSome?_eq_some found
    obtain ⟨long,inside⟩ := snippetFor_inside some
    obtain ⟨i,place⟩ := find_isSome inside
    obtain ⟨short,cut⟩ := slice_find place
    have size := List.length_pos_iff.mpr long
    have start : ((find snippet item.text.toList).map Int.ofNat).getD (-1) = (i : Int) := by rw [place]; rfl
    rw [start,← Nat.cast_add]
    exact makeSpan_cites (by omega) short (by rw [cut])
  next =>
    have long : 0 < item.text.toList.length := by
      rw [List.length_pos_iff]
      intro bare
      exact text (String.toList_injective bare)
    have size : (item.text.toList.take (min item.text.toList.length 100)).length =
        min item.text.toList.length 100 := by
      rw [List.length_take]
      omega
    rw [size]
    exact @makeSpan_cites _ _ _ _ 0 _ (by omega) (by omega) (by rw [slice,List.drop_zero])

end citations

section loop
variable (rt : Runtime) (query : RetrievalQuery) (ranking : Ranking)

/-- What a result has of the indexed item it presents. -/
structure Presents (item : IndexedChunk) (chunk : RetrievedEvidenceChunk) : Prop where
  chunkId : chunk.chunkId = item.chunkId
  metadata : chunk.metadata = item.metadata
  text : chunk.text = item.text
  cites : Cites chunk.text chunk.citationSpan

def citationCode : String := "ERR_CITATION_VERIFICATION_FAIL"

/-- No failure of a citation, and a property of what is returned. -/
def Settles {α : Type} (good : α → Prop) : Except RetrievalError α → Prop
  | .error failure => failure.code ≠ citationCode
  | .ok value => good value

theorem presentChunk_settles {item : IndexedChunk} (text : item.text ≠ "") (score : ℚ) :
    ∃ outcome, presentChunk rt ranking item.chunkId score item = .ok outcome ∧ Settles (Presents item) outcome := by
  obtain ⟨span,extracted,cites⟩ := extractSpan_cites rt ranking.terms text
  unfold presentChunk
  rw [extracted]
  split
  next riskScore matchedRules _ =>
    have other : "ERR_PROMPT_INJECTION_DETECTED" ≠ citationCode := by decide +kernel
    exact ⟨_,rfl,other⟩
  next =>
    simp only
    rw [if_pos (verify_of_cites cites)]
    exact ⟨_,rfl,rfl,rfl,rfl,cites⟩

/-- At most `top_k` results, each of which presents one of the items. -/
structure Collected (items : List IndexedChunk) (chunks : List RetrievedEvidenceChunk) : Prop where
  bounded : (chunks.length : Int) ≤ query.topK
  presented : ∀ chunk ∈ chunks, ∃ item ∈ items, Presents item chunk

variable {rt query ranking}

theorem collect_settles {items : List IndexedChunk} (texts : ∀ item ∈ items, item.text ≠ "")
    (known : ∀ id item, ranking.candidates.get? id = some item → item ∈ items ∧ item.chunkId = id)
    (results : List (String × ℚ)) {chunks : List RetrievedEvidenceChunk} (room : (chunks.length : Int) < query.topK)
    (presented : ∀ chunk ∈ chunks, ∃ item ∈ items, Presents item chunk) :
    ∃ outcome, collect rt query ranking results chunks = .ok outcome ∧ Settles (Collected query items) outcome := by
  induction results generalizing chunks with
  | nil => exact ⟨_,rfl,room.le,presented⟩
  | cons result results ih =>
    obtain ⟨chunkId,score⟩ := result
    rw [collect]
    split
    next => exact ih room presented
    next =>
      split
      next => exact ih room presented
      next item found =>
        obtain ⟨inside,rfl⟩ := known chunkId item found
        obtain ⟨outcome,shown,settled⟩ := presentChunk_settles rt ranking (texts item inside) score
        rw [shown]
        cases outcome with
        | error failure => exact ⟨_,rfl,settled⟩
        | ok chunk =>
          have all : ∀ c ∈ chunks ++ [chunk], ∃ item ∈ items, Presents item c := by
            intro c member
            obtain earlier | last := List.mem_append.mp member
            · exact presented c earlier
            · rw [List.mem_singleton.mp last]
              exact ⟨item,inside,settled⟩
          have size : ((chunks ++ [chunk]).length : Int) = chunks.length + 1 := by simp
          simp only
          split
          next => exact ⟨_,rfl,by omega,all⟩
          next more => exact ih (by omega) all

end loop

section search
variable {rt : Runtime} {query : RetrievalQuery}

theorem noEvidence_code (message : String) : (noEvidence message).code ≠ citationCode := by
  change "ERR_NO_AUTHORIZED_EVIDENCE" ≠ citationCode
  decide +kernel

/-- Some results, and not too many. -/
structure Answered (items : List IndexedChunk) (chunks : List RetrievedEvidenceChunk) : Prop
    extends Collected query items chunks where
  some : 1 ≤ chunks.length

theorem rankAndPresent_settles {candidates : List IndexedChunk} (texts : ∀ item ∈ candidates, item.text ≠ "")
    (positive : 1 ≤ query.topK) :
    ∃ outcome, rankAndPresent rt query candidates = .ok outcome ∧
      Settles (@Answered query candidates) outcome := by
  obtain ⟨fused,merged⟩ := @reciprocalRankFusion_ok (lexicalRanks rt query candidates)
    (denseRanks rt query candidates) 60 (by decide) (fun _ _ => ranksOf_positive) (fun _ _ => ranksOf_positive)
  have room : ((([] : List RetrievedEvidenceChunk).length : Nat) : Int) < query.topK := by
    simp only [List.length_nil]
    omega
  have settled := fun results => @collect_settles rt query
    ⟨queryTerms rt query.queryText,lexicalRanks rt query candidates,denseRanks rt query candidates,
      candidateMap candidates⟩ candidates texts (fun _ _ => candidateMap_member) results [] room (by simp)
  unfold rankAndPresent
  simp only [merged]
  obtain ⟨outcome,collected,good⟩ := settled (if fused = [] then
    (firstItems candidates query.topK).map (fun item => (item.chunkId,toDouble (1 / 100))) else fused)
  rw [collected]
  cases outcome with
  | error failure => exact ⟨_,rfl,good⟩
  | ok chunks =>
    cases chunks with
    | nil => exact ⟨_,rfl,noEvidence_code _⟩
    | cons chunk chunks => exact ⟨_,rfl,good,by simp⟩

end search

section corpus

/-- What the index holds: under each tenant, indexed items of that tenant. -/
def Partitioned (indexed : List IndexedChunk) (pipeline : GovernedRetrievalPipeline) : Prop :=
  ∀ tKey items, pipeline.corpus.get? tKey = some items →
    ∀ item ∈ items, item.metadata.tenantId.value = tKey ∧ item ∈ indexed

theorem partitioned_step {indexed : List IndexedChunk} {pipeline : GovernedRetrievalPipeline}
    (before : Partitioned indexed pipeline) {item : IndexedChunk} (new : item ∈ indexed) :
    Partitioned indexed (pipeline.indexDocumentChunk item) := by
  intro tKey items found other inside
  rw [GovernedRetrievalPipeline.indexDocumentChunk,Dict.get?_set] at found
  split at found
  next same =>
    cases found
    obtain earlier | last := List.mem_append.mp inside
    · cases held : pipeline.corpus.get? item.metadata.tenantId.value with
      | none => simp [held] at earlier
      | some items =>
        rw [held] at earlier
        rw [same]
        exact before _ items held other earlier
    · rw [List.mem_singleton.mp last]
      exact ⟨same.symm,new⟩
  next => exact before tKey items found other inside

/-- The pipeline after a run of indexing calls. -/
def indexAll (items : List IndexedChunk) : GovernedRetrievalPipeline :=
  items.foldl GovernedRetrievalPipeline.indexDocumentChunk {}

theorem partitioned_indexAll (items : List IndexedChunk) : Partitioned items (indexAll items) := by
  have run : ∀ (rest : List IndexedChunk) (pipeline : GovernedRetrievalPipeline), rest ⊆ items →
      Partitioned items pipeline →
        Partitioned items (rest.foldl GovernedRetrievalPipeline.indexDocumentChunk pipeline) := by
    intro rest
    induction rest with
    | nil => exact fun _ _ start => start
    | cons item rest ih =>
      intro pipeline inside start
      have new := inside List.mem_cons_self
      exact ih _ (fun x member => inside (List.mem_cons_of_mem item member)) (partitioned_step start new)
  apply run items {} (List.Subset.refl items)
  intro tKey found nothing
  cases nothing

end corpus

/-- A result that the caller may see: an indexed chunk of its tenant within the filters,
with a citation of its text. -/
structure Governed (indexed : List IndexedChunk) (query : RetrievalQuery) (chunk : RetrievedEvidenceChunk) : Prop where
  indexed : ∃ item ∈ indexed, Presents item chunk
  tenant : chunk.metadata.tenantId = query.tenantContext.tenantId
  classification : chunk.metadata.classification.hierarchy ≤ query.filters.classificationMax.hierarchy
  source : ∀ systems, query.filters.sourceSystems = some systems → systems ≠ [] →
    chunk.metadata.sourceSystem ∈ systems
  effective : chunk.metadata.effectiveFrom ≤ query.filters.asOfTime
  unexpired : ∀ instant, chunk.metadata.effectiveTo = some instant → query.filters.asOfTime < instant
  unsuperseded : ∀ instant, chunk.metadata.supersededAt = some instant → query.filters.asOfTime < instant
  cites : Cites chunk.text chunk.citationSpan

theorem not_passed {instant : Option UtcDateTime} {asOfTime : UtcDateTime} (current : passed instant asOfTime = false)
    (t : UtcDateTime) (found : instant = some t) : asOfTime < t := by
  subst found
  have later : ¬t ≤ asOfTime := by simpa [passed] using current
  exact Int.not_le.mp later

theorem governed_of_admissible {indexed : List IndexedChunk} {query : RetrievalQuery} {item : IndexedChunk}
    {chunk : RetrievedEvidenceChunk} (member : item ∈ indexed)
    (tenant : item.metadata.tenantId.value = query.tenantContext.tenantId.value)
    (passes : admissible query.filters item = true) (presents : Presents item chunk) :
    Governed indexed query chunk := by
  simp only [admissible,Bool.and_eq_true,Bool.not_eq_true',decide_eq_true_eq] at passes
  obtain ⟨⟨⟨⟨classification,effective⟩,unexpired⟩,unsuperseded⟩,source⟩ := passes
  have same := presents.metadata
  constructor
  case indexed => exact ⟨item,member,presents⟩
  case tenant =>
    rw [same]
    cases left : item.metadata.tenantId
    cases right : query.tenantContext.tenantId
    simp_all
  case classification => rwa [same]
  case source =>
    intro systems requested some
    rw [requested] at source
    rw [same]
    simpa [some] using source
  case effective => rwa [same]
  case unexpired =>
    rw [same]
    exact not_passed unexpired
  case unsuperseded =>
    rw [same]
    exact not_passed unsuperseded
  case cites => exact presents.cites

/-- A search answers, never with a failed citation, and what it returns is governed. -/
theorem search_governed (rt : Runtime) (items : List IndexedChunk) (query : RetrievalQuery)
    (texts : ∀ item ∈ items, item.text ≠ "") (positive : 1 ≤ query.topK) :
    ∃ outcome, (indexAll items).search rt query = .ok outcome ∧
      match outcome with
      | .error failure => failure.code ≠ "ERR_CITATION_VERIFICATION_FAIL"
      | .ok chunks => 1 ≤ chunks.length ∧ (chunks.length : Int) ≤ query.topK ∧
          ∀ chunk ∈ chunks, Governed items query chunk := by
  unfold GovernedRetrievalPipeline.search
  simp only
  split
  next =>
    have other : "ERR_UNAUTHORIZED_RETRIEVAL" ≠ citationCode := by decide +kernel
    exact ⟨_,rfl,other⟩
  next =>
    cases held : (indexAll items).corpus.get? query.tenantContext.tenantId.value with
    | none => exact ⟨_,rfl,noEvidence_code _⟩
    | some tenantChunks =>
      have partitioned := partitioned_indexAll items _ _ held
      simp only [Option.getD_some]
      split
      next => exact ⟨_,rfl,noEvidence_code _⟩
      next =>
        split
        next => exact ⟨_,rfl,noEvidence_code _⟩
        next _ =>
          have inside : ∀ item ∈ tenantChunks.filter (admissible query.filters), item ∈ tenantChunks ∧
              admissible query.filters item = true := fun item member => List.mem_filter.mp member
          obtain ⟨outcome,answered,settled⟩ := @rankAndPresent_settles rt query
            (tenantChunks.filter (admissible query.filters))
            (fun item member => texts item (partitioned item (inside item member).1).2) positive
          refine ⟨outcome,answered,?_⟩
          cases outcome with
          | error failure => exact settled
          | ok chunks =>
            refine ⟨settled.some,settled.bounded,?_⟩
            intro chunk member
            obtain ⟨item,candidate,presents⟩ := settled.presented chunk member
            obtain ⟨held,passes⟩ := inside item candidate
            obtain ⟨tenant,known⟩ := partitioned item held
            exact governed_of_admissible known tenant passes presents

section samples

def sampleRuntime : Runtime where
  casing := asciiCasing
  isWord c := c.isAlphanum || c == '_'
  sqrt x := x
  repr text := text
  floatRepr _ := ⟨['1','.','0'],Eq.refl true⟩

def sampleTenant : TenantId := ⟨"tnt_acme",Eq.refl true⟩

def refundPolicy : IndexedChunk where
  chunkId := "chunk-1"
  text := "Refund policy. Refunds take five days. Ask support."
  metadata := { title := "Refunds", effectiveFrom := ⟨0⟩, tenantId := sampleTenant }

def refundQuery : RetrievalQuery where
  queryText := "How long do refunds take?"
  tenantContext := ⟨sampleTenant⟩
  principalContext :=
    { principalId := ⟨"usr_a",Eq.refl true⟩, tenantId := some sampleTenant,
      permissions := ["retrieval:execute"], tenantScoped := .inr (by simp) }
  filters := { asOfTime := ⟨5⟩ }
  topKAccepted := by decide
  thresholdAccepted := by decide +kernel

def found : Step (List RetrievedEvidenceChunk) → Bool
  | .ok (.ok _) => true
  | _ => false

/-- The sentence on refunds is found. -/
theorem refund_search_governed : ∃ chunks, (indexAll [refundPolicy]).search sampleRuntime refundQuery = .ok (.ok chunks) ∧
    1 ≤ chunks.length ∧ (chunks.length : Int) ≤ 5 ∧ ∀ chunk ∈ chunks, Governed [refundPolicy] refundQuery chunk := by
  have texts : ∀ item ∈ [refundPolicy], item.text ≠ "" := by decide +kernel
  have success : found ((indexAll [refundPolicy]).search sampleRuntime refundQuery) = true := by decide +kernel
  obtain ⟨outcome,answered,governed⟩ :=
    search_governed sampleRuntime [refundPolicy] refundQuery texts (by decide)
  rw [answered] at success
  cases outcome with
  | error failure => exact absurd success (by simp [found])
  | ok chunks => exact ⟨chunks,answered,governed⟩

end samples

end RevPilot.Retrieval
