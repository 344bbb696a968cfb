import RevPilot.Evidence.Domain
import RevPilot.Library.Lists
import RevPilot.Library.Sorting
import RevPilot.Retrieval.InjectionDefense
import RevPilot.Shared.Context
import RevPilot.Shared.Errors
import Mathlib.Data.List.Lex
import Mathlib.Data.Prod.Lex

/-! The governed retrieval pipeline. Scores are exact numbers; the square root, the
tables of the Unicode database and the texts of floats are parameters. -/
namespace RevPilot.Retrieval
open Library Library.Text Library.Finding Shared Evidence

inductive SourceSystemType : Type
  | canonicalPostgres | documentStore | supportDesk | wmsFulfillment | erpFinance
  deriving DecidableEq

inductive ClassificationLevel : Type
  | «public» | internal | confidential | restricted
  deriving DecidableEq

/-- `CLASSIFICATION_HIERARCHY`, which has every level. -/
def ClassificationLevel.hierarchy : ClassificationLevel → Nat
  | .public => 0
  | .internal => 1
  | .confidential => 2
  | .restricted => 3

structure RetrievalError where
  code : String
  message : String
  httpStatus : Nat
  details : List (PyKey × PyValue) := []

structure RetrievalFilter where
  sourceSystems : Option (List SourceSystemType) := none
  classificationMax : ClassificationLevel := .confidential
  asOfTime : UtcDateTime

structure RetrievalQuery where
  queryText : String
  tenantContext : TenantContext
  principalContext : PrincipalContext
  filters : RetrievalFilter
  topK : Int := 5
  scoreThreshold : ℚ := toDouble (1 / 100)
  topKAccepted : topK ≤ 20
  thresholdAccepted : 0 ≤ scoreThreshold ∧ scoreThreshold ≤ 1

structure ChunkMetadata where
  title : String
  sectionTitle : Option String := none
  effectiveFrom : UtcDateTime
  effectiveTo : Option UtcDateTime := none
  supersededAt : Option UtcDateTime := none
  tenantId : TenantId
  classification : ClassificationLevel := .internal
  sourceSystem : SourceSystemType := .documentStore

/-- An item of the corpus. -/
structure IndexedChunk where
  chunkId : String
  text : String
  metadata : ChunkMetadata
  embedding : Option (List ℚ) := none

structure RetrievedEvidenceChunk where
  chunkId : String
  metadata : ChunkMetadata
  text : String
  lexicalRank : Option Int
  denseRank : Option Int
  fusedScore : ℚ
  citationSpan : CitationSpan
  framedText : String

structure Runtime where
  casing : Casing
  /-- The code points that `\w` accepts. -/
  isWord : Char → Bool
  sqrt : ℚ → ℚ
  /-- `repr` of a text and of a float. -/
  repr : String → String
  floatRepr : ℚ → JsonText.FloatText

/-- The corpus, by tenant. -/
structure GovernedRetrievalPipeline where
  corpus : Dict String (List IndexedChunk) := .empty

def GovernedRetrievalPipeline.indexDocumentChunk (pipeline : GovernedRetrievalPipeline) (item : IndexedChunk) :
    GovernedRetrievalPipeline :=
  let tKey := item.metadata.tenantId.value
  ⟨pipeline.corpus.set tKey ((pipeline.corpus.get? tKey).getD [] ++ [item])⟩

section fusion

/-- What one ranking adds to the score of a chunk. -/
def rankScore (ranks : Dict String Int) (k : Int) (chunkId : String) : Except PyError ℚ :=
  match ranks.get? chunkId with
  | none => .ok 0
  | some rank => if rank < 1 then .error .valueError else .ok (1 / (k + rank))

def fusedScore (lexicalRanks denseRanks : Dict String Int) (k : Int) (chunkId : String) :
    Except PyError (String × ℚ) := do
  let lexical ← rankScore lexicalRanks k chunkId
  let dense ← rankScore denseRanks k chunkId
  return (chunkId,lexical + dense)

/-- Descending by score, then by identifier. -/
def fusionKey (entry : String × ℚ) : ℚ ×ₗ List Char := toLex (-entry.2,entry.1.toList)

def reciprocalRankFusion (lexicalRanks denseRanks : Dict String Int) (k : Int) :
    Except PyError (List (String × ℚ)) :=
  if k ≤ 0 then .error .valueError
  else
    let allChunkIds := lexicalRanks.keys ++ denseRanks.keys.filter (fun id => id ∉ lexicalRanks.keys)
    (allChunkIds.mapM (fusedScore lexicalRanks denseRanks k)).map (sortedBy fusionKey)

end fusion

section scores
variable (rt : Runtime)

/-- `re.findall(r"\w+", text)`. -/
def wordsOf (text : String) : List String :=
  ((text.toList.splitOnP fun c => !rt.isWord c).filter (· ≠ [])).map String.ofList

def queryTerms (queryText : String) : List String :=
  ((wordsOf rt queryText).filter fun t => decide (2 < t.toList.length)).map rt.casing.lower

/-- Whether the term stands at the head of the text, between two word boundaries. -/
def termHere (term : List Char) (before : Bool) (cs : List Char) : Bool :=
  decide (term <+: cs) && (before != cs.head?.any rt.isWord) &&
    (term.getLast?.any rt.isWord != (cs.drop term.length).head?.any rt.isWord)

/-- `len(re.findall(r"\b" + re.escape(term) + r"\b", text))`; `before` tells whether the
code point before the text is one of a word. -/
def countTerm (term : List Char) : Nat → Bool → List Char → Nat
  | 0, _, _ => 0
  | _, _, [] => 0
  | left + 1, before, c :: cs =>
    if termHere rt term before (c :: cs) then
      1 + countTerm term left (term.getLast?.any rt.isWord) ((c :: cs).drop term.length)
    else countTerm term left (rt.isWord c) cs

def computeLexicalScore (terms : List String) (text : String) : ℚ :=
  if terms = [] ∨ text = "" then 0
  else
    let textLower := (rt.casing.lower text).toList
    terms.foldl (fun score term =>
      let count := countTerm rt term.toList textLower.length false textLower
      if 0 < count then score + count / (count + 6 / 5) * (3 / 2) else score) 0

def computeCosineSim (v1 v2 : List ℚ) : ℚ :=
  if v1 = [] ∨ v2 = [] ∨ v1.length ≠ v2.length then 0
  else
    let norm1 := rt.sqrt (v1.map fun a => a * a).sum
    let norm2 := rt.sqrt (v2.map fun b => b * b).sum
    if norm1 = 0 ∨ norm2 = 0 then 0 else (List.zipWith (· * ·) v1 v2).sum / (norm1 * norm2)

/-- The synthetic embedding of the query. -/
def pseudoVector (queryText : String) (terms : List String) : List ℚ :=
  terms.map fun t => if contains (rt.casing.lower queryText) t then 1 else 0

/-- The scores of the candidates that have a positive one. -/
def positiveScores (score : IndexedChunk → ℚ) (candidates : List IndexedChunk) : Dict String ℚ :=
  candidates.foldl (fun scores item => if 0 < score item then scores.set item.chunkId (score item) else scores) .empty

/-- The places of the chunks in the order of their scores, from 1 on. -/
def ranksOf (scores : Dict String ℚ) : Dict String Int :=
  (sortedBy (fun entry : String × ℚ => -entry.2) scores.entries).zipIdx.foldl
    (fun ranks ranked => ranks.set ranked.1.1 (ranked.2 + 1)) .empty

def lexicalRanks (query : RetrievalQuery) (candidates : List IndexedChunk) : Dict String Int :=
  let terms := queryTerms rt query.queryText
  ranksOf (positiveScores (fun item => computeLexicalScore rt terms item.text) candidates)

/-- An item without an embedding scores 0. -/
def denseRanks (query : RetrievalQuery) (candidates : List IndexedChunk) : Dict String Int :=
  let pseudo := pseudoVector rt query.queryText (queryTerms rt query.queryText)
  ranksOf (positiveScores (fun item => computeCosineSim rt pseudo (item.embedding.getD [])) candidates)

end scores

section candidates

/-- Steps 3 and 4: classification, effective dates, supersession and source. -/
def admissible (filters : RetrievalFilter) (item : IndexedChunk) : Bool :=
  let metadata := item.metadata
  decide (metadata.classification.hierarchy ≤ filters.classificationMax.hierarchy) &&
    decide (metadata.effectiveFrom ≤ filters.asOfTime) &&
    !passed metadata.effectiveTo filters.asOfTime &&
    !passed metadata.supersededAt filters.asOfTime &&
    match filters.sourceSystems with
    | none => true
    | some systems => decide (systems = []) || decide (metadata.sourceSystem ∈ systems)

/-- `items[:n]`. -/
def firstItems (items : List IndexedChunk) (n : Int) : List IndexedChunk :=
  if 0 ≤ n then items.take n.toNat else items.take (items.length + n).toNat

/-- The candidates by identifier; of two with one identifier the later one stays. -/
def candidateMap (candidates : List IndexedChunk) : Dict String IndexedChunk :=
  candidates.foldl (fun map item => map.set item.chunkId item) .empty

end candidates

section citations
variable (rt : Runtime)

/-- The constructor of a citation; bounds out of order are a `ValidationError`. -/
def makeSpan (chunkId : String) (sectionId : Option String) (start stop : Int) (snippet : String) :
    Except PyError CitationSpan :=
  if offsets : 0 ≤ start ∧ start < stop then
    .ok ⟨chunkId,sectionId,start.toNat,stop.toNat,snippet,by omega⟩
  else .error .validationError

/-- The sentence around a place of the text, which may lie past its end. -/
def sentenceAt (text : List Char) (pos : Nat) : List Char :=
  let start := ((lastIndex '.' (text.take pos)).map (· + 1)).getD 0
  let stop := (findFrom ['.'] text pos).getD text.length
  stripChars (slice text start stop)

/-- The sentence for a term; the place of the term is the one in the lower-cased text. -/
def snippetFor (text lowered : List Char) (term : String) : Option (List Char) :=
  ((find term.toList lowered).map (sentenceAt text)).filter (· ≠ [])

def extractSpan (terms : List String) (item : IndexedChunk) : Except PyError CitationSpan :=
  let text := item.text.toList
  match terms.findSome? (snippetFor text (rt.casing.lower item.text).toList) with
  | some snippet =>
    let exactStart : Int := ((find snippet text).map Int.ofNat).getD (-1)
    makeSpan item.chunkId item.metadata.sectionTitle exactStart (exactStart + snippet.length) (String.ofList snippet)
  | none =>
    let snippet := text.take (min text.length 100)
    makeSpan item.chunkId item.metadata.sectionTitle 0 snippet.length (String.ofList snippet)

def verifyCitationSpan (sourceText : String) (span : CitationSpan) : Bool :=
  if sourceText.toList.length < span.endChar ∨ span.endChar ≤ span.startChar then false
  else decide (String.ofList (slice sourceText.toList span.startChar span.endChar) = span.snippetText)

end citations

section search
variable (rt : Runtime)

def noEvidence (message : String) : RetrievalError := ⟨"ERR_NO_AUTHORIZED_EVIDENCE",message,404,[]⟩

/-- `f"{rules}"` of a list of texts. -/
def shownRules (rules : List String) : String := "[" ++ String.intercalate ", " (rules.map rt.repr) ++ "]"

def injectionDetected (chunkId : String) (riskScore : ℚ) (matchedRules : List String) : RetrievalError where
  code := "ERR_PROMPT_INJECTION_DETECTED"
  message := "Document chunk '" ++ chunkId ++ "' quarantined for high prompt injection risk: " ++
    shownRules rt matchedRules
  httpStatus := 400
  details := [(.str "chunk_id",.str chunkId),(.str "rules",.list (matchedRules.map .str)),
    (.str "risk_score",.float (rt.floatRepr riskScore))]

def citationFailed (chunkId : String) (span : CitationSpan) : RetrievalError where
  code := "ERR_CITATION_VERIFICATION_FAIL"
  message := "Citation span verification failed for chunk '" ++ chunkId ++ "'"
  httpStatus := 422
  details := [(.str "chunk_id",.str chunkId),(.str "span",.dict [(.str "chunk_id",.str span.chunkId),
    (.str "section_id",(span.sectionId.map PyValue.str).getD .none),(.str "start_char",.int span.startChar),
    (.str "end_char",.int span.endChar),(.str "snippet_text",.str span.snippetText)])]

/-- What the query, the ranks and the candidates give the last steps. -/
structure Ranking where
  terms : List String
  lexical : Dict String Int
  dense : Dict String Int
  candidates : Dict String IndexedChunk

abbrev Step (α : Type) := Except PyError (Except RetrievalError α)

/-- Steps 9 to 12 for one chunk. -/
def presentChunk (ranking : Ranking) (chunkId : String) (score : ℚ) (item : IndexedChunk) :
    Step RetrievedEvidenceChunk :=
  match scanPromptInjection item.text with
  | (true,riskScore,matchedRules) => .ok (.error (injectionDetected rt chunkId riskScore matchedRules))
  | (false,_,_) =>
    match extractSpan rt ranking.terms item with
    | .error fault => .error fault
    | .ok span =>
      if verifyCitationSpan item.text span then
        .ok (.ok {
          chunkId := chunkId
          metadata := item.metadata
          text := item.text
          lexicalRank := ranking.lexical.get? chunkId
          denseRank := ranking.dense.get? chunkId
          fusedScore := roundTo 4 score
          citationSpan := span
          framedText := sanitizeAndFrameDocument item.text chunkId item.metadata.title })
      else .ok (.error (citationFailed chunkId span))

/-- The loop over the fused results. -/
def collect (query : RetrievalQuery) (ranking : Ranking) :
    List (String × ℚ) → List RetrievedEvidenceChunk → Step (List RetrievedEvidenceChunk)
  | [], chunks => .ok (.ok chunks)
  | (chunkId,score) :: rest, chunks =>
    if score < query.scoreThreshold then collect query ranking rest chunks
    else
      match ranking.candidates.get? chunkId with
      | none => collect query ranking rest chunks
      | some item =>
        match presentChunk rt ranking chunkId score item with
        | .error fault => .error fault
        | .ok (.error failure) => .ok (.error failure)
        | .ok (.ok chunk) =>
          if query.topK ≤ (chunks ++ [chunk]).length then .ok (.ok (chunks ++ [chunk]))
          else collect query ranking rest (chunks ++ [chunk])

/-- Steps 5 to 12, over the candidates that passed the filters. -/
def rankAndPresent (query : RetrievalQuery) (candidates : List IndexedChunk) :
    Step (List RetrievedEvidenceChunk) :=
  let lexical := lexicalRanks rt query candidates
  let dense := denseRanks rt query candidates
  match reciprocalRankFusion lexical dense 60 with
  | .error fault => .error fault
  | .ok fused =>
    let results := if fused = [] then
        (firstItems candidates query.topK).map (fun item => (item.chunkId,toDouble (1 / 100)))
      else fused
    let ranking : Ranking := ⟨queryTerms rt query.queryText,lexical,dense,candidateMap candidates⟩
    match collect rt query ranking results [] with
    | .error fault => .error fault
    | .ok (.error failure) => .ok (.error failure)
    | .ok (.ok []) => .ok (.error (noEvidence "No authorized evidence met score threshold"))
    | .ok (.ok chunks) => .ok (.ok chunks)

def GovernedRetrievalPipeline.search (pipeline : GovernedRetrievalPipeline) (query : RetrievalQuery) :
    Step (List RetrievedEvidenceChunk) :=
  let principal := query.principalContext
  if !principal.hasPermission rt.casing "retrieval:execute" && !principal.hasPermission rt.casing "analytics:query" then
    .ok (.error ⟨"ERR_UNAUTHORIZED_RETRIEVAL",
      "Principal '" ++ principal.principalId.value ++ "' lacks retrieval authorization",403,[]⟩)
  else
    match (pipeline.corpus.get? query.tenantContext.tenantId.value).getD [] with
    | [] => .ok (.error (noEvidence "No authorized evidence found for tenant corpus"))
    | tenantChunks =>
      match tenantChunks.filter (admissible query.filters) with
      | [] => .ok (.error (noEvidence "No authorized evidence matched temporal and classification filters"))
      | validCandidates => rankAndPresent rt query validCandidates

end search

end RevPilot.Retrieval
