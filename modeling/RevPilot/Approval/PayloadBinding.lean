import RevPilot.Approval.Digest
import RevPilot.Library.DecimalText
import RevPilot.Library.JsonSpelling

/-! What the digest of an action says of the action. Sequences and keys are bound by
their JSON spelling and costs by their decimal spelling. -/
namespace RevPilot.Approval
open Library Shared JsonText PyValue

/-- The arguments of `compute_payload_digest`. -/
structure DigestArgs where
  actionType : String
  targetEntities : List String
  payload : Payload
  costUsd : Decimal

namespace DigestArgs

def digest (sha256 : String → String) (x : DigestArgs) : Except PyError String :=
  ApprovalDigestHasher.computePayloadDigest sha256 x.actionType x.targetEntities x.payload x.costUsd

/-- The object that is hashed, given the tree of the payload. -/
def written (x : DigestArgs) (payload : Tree) : Tree :=
  .obj [("action_type",.str (Text.strip x.actionType)),("cost_usd",.str x.costUsd.toText),("payload",payload),
    ("target_entities",.arr ((sortTexts x.targetEntities).map .str))]

end DigestArgs

theorem canonical_toTree (x : DigestArgs) :
    (ApprovalDigestHasher.canonical x.actionType x.targetEntities x.payload x.costUsd).toTree noDefault =
      (x.payload.value.toTree noDefault).map x.written := by
  simp only [ApprovalDigestHasher.canonical,dictOf,List.map_cons,List.map_nil,toTree,toMembers,texts,toTrees_texts,
    Option.map_some]
  cases x.payload.value.toTree noDefault with
  | none => rfl
  -- the four names are sorted by evaluation
  | some tree => simp +decide [sortMembers,ranked?,PyKey.string?,sortRanked,DigestArgs.written,PyKey.text]

variable {sha256 : String → String}

theorem digest_eq_ok {x : DigestArgs} {d : String} (ok : x.digest sha256 = .ok d) :
    ∃ tree, x.payload.value.toTree noDefault = some tree ∧ sha256 (render asciiCompact (x.written tree)) = d := by
  unfold DigestArgs.digest ApprovalDigestHasher.computePayloadDigest digestOf dumps at ok
  rw [canonical_toTree] at ok
  cases read : x.payload.value.toTree noDefault with
  | none => simp [read] at ok
  | some tree => exact ⟨tree,rfl,by simpa [read] using ok⟩

theorem sortTexts_eq_iff (xs ys : List String) : sortTexts xs = sortTexts ys ↔ xs.Perm ys := by
  have sorted (xs : List String) : sortTexts xs = sortedBy String.toList xs := rfl
  rw [sorted,sorted]
  constructor
  · intro same
    have first := (sortedBy_perm String.toList xs).symm
    rw [same] at first
    exact first.trans (sortedBy_perm _ ys)
  · intro perm
    exact sortedBy_congr _ perm (fun x _ y _ chars => String.toList_injective chars)

/-- What the canonical object tells of its parts. -/
theorem written_eq_iff (x y : DigestArgs) (s t : Tree) : x.written s = y.written t ↔
    Text.strip x.actionType = Text.strip y.actionType ∧ x.targetEntities.Perm y.targetEntities ∧ s = t ∧
      x.costUsd = y.costUsd := by
  have targets : (sortTexts x.targetEntities).map Tree.str = (sortTexts y.targetEntities).map Tree.str ↔
      x.targetEntities.Perm y.targetEntities := by
    rw [List.map_inj_right (fun _ _ same => Tree.str.inj same),sortTexts_eq_iff]
  simp only [DigestArgs.written,Tree.obj.injEq,List.cons.injEq,Prod.mk.injEq,Tree.str.injEq,Tree.arr.injEq,true_and,
    and_true,targets,Decimal.toText_injective.eq_iff]
  constructor
  · rintro ⟨action,cost,payload,entities⟩
    exact ⟨action,entities,payload,cost⟩
  · rintro ⟨action,entities,payload,cost⟩
    exact ⟨action,cost,payload,entities⟩

/-- Two digests are equal iff the actions are, the payloads up to their spelling. -/
theorem digest_eq_iff (injective : Function.Injective sha256) {x y : DigestArgs} {d e : String}
    (first : x.digest sha256 = .ok d) (second : y.digest sha256 = .ok e) : d = e ↔
      Text.strip x.actionType = Text.strip y.actionType ∧ x.targetEntities.Perm y.targetEntities ∧
        Alike x.payload.value y.payload.value ∧ x.costUsd = y.costUsd := by
  obtain ⟨s,read,rfl⟩ := digest_eq_ok first
  obtain ⟨t,read',rfl⟩ := digest_eq_ok second
  rw [injective.eq_iff,(render_injective asciiCompact).eq_iff,written_eq_iff,toTree_eq_iff_alike read read']

/-- `a == b`. -/
def SameNumber : Decimal → Decimal → Prop
  | .finite n c e, .finite m d f => Decimal.finiteValue n c e = Decimal.finiteValue m d f
  | .infinite n, .infinite m => n = m
  | _, _ => False

/-- The digests bind the actions, and equal actions have equal digests. -/
structure Binds (x y : DigestArgs) (d e : String) : Prop where
  bound : d = e → Text.strip x.actionType = Text.strip y.actionType ∧ x.targetEntities.Perm y.targetEntities ∧
    Identical x.payload.value y.payload.value ∧ x.costUsd = y.costUsd
  canonical : Text.strip x.actionType = Text.strip y.actionType → x.targetEntities.Perm y.targetEntities →
    Identical x.payload.value y.payload.value → SameNumber x.costUsd y.costUsd → d = e

/-- Actions are bound iff, the types and the targets being the same, payloads that are spelled alike for one cost are
identical, and equal costs of one payload are spelled alike. -/
theorem payload_digest_binds_iff (injective : Function.Injective sha256) (x y : DigestArgs)
    (proper : Proper x.payload.value) {d e : String} (first : x.digest sha256 = .ok d)
    (second : y.digest sha256 = .ok e) : Binds x y d e ↔
      (Text.strip x.actionType = Text.strip y.actionType → x.targetEntities.Perm y.targetEntities →
        (Alike x.payload.value y.payload.value → x.costUsd = y.costUsd →
          Identical x.payload.value y.payload.value) ∧
        (Identical x.payload.value y.payload.value → SameNumber x.costUsd y.costUsd → x.costUsd = y.costUsd)) := by
  have digests := digest_eq_iff injective first second
  have spelled : Identical x.payload.value y.payload.value → Alike x.payload.value y.payload.value := by
    intro identical
    obtain ⟨tree,read,_⟩ := digest_eq_ok first
    exact alike_of_tree _ read (tree_of_identical _ proper identical read)
  constructor
  · intro binds action targets
    constructor
    · intro alike cost
      exact (binds.bound (digests.mpr ⟨action,targets,alike,cost⟩)).2.2.1
    · intro identical number
      exact (digests.mp (binds.canonical action targets identical number)).2.2.2
  · intro condition
    constructor
    · intro same
      obtain ⟨action,targets,alike,cost⟩ := digests.mp same
      exact ⟨action,targets,(condition action targets).1 alike cost,cost⟩
    · intro action targets identical number
      exact digests.mpr ⟨action,targets,spelled identical,(condition action targets).2 identical number⟩

/-- A refund of some orders. -/
def refundArgs (targets : List String) (orders : PyValue) (cost : Decimal) : DigestArgs :=
  ⟨"REFUND",targets,Dict.empty.set "orders" orders,cost⟩

theorem refund_proper (targets : List String) (orders : PyValue) (cost : Decimal) (proper : Proper orders) :
    Proper (refundArgs targets orders cost).payload.value := by
  apply Proper.dict
  · exact List.nodup_singleton _
  · intro m inside
    obtain rfl := List.mem_singleton.mp inside
    exact proper

theorem refund_identical (targets targets' : List String) (cost cost' : Decimal) (orders : PyValue)
    (identical : Identical orders orders) :
    Identical (refundArgs targets orders cost).payload.value (refundArgs targets' orders cost').payload.value :=
  .dict (.cons (.mk rfl identical) .nil) (.refl _)

/-- Two orders of the same targets are bound alike. -/
theorem reordered_refund_bound : ∃ d, (refundArgs ["ent_a","ent_b"] (.str "ord_7") (.ofCents 500)).digest id = .ok d ∧
    (refundArgs ["ent_b","ent_a"] (.str "ord_7") (.ofCents 500)).digest id = .ok d ∧
    Binds (refundArgs ["ent_a","ent_b"] (.str "ord_7") (.ofCents 500))
      (refundArgs ["ent_b","ent_a"] (.str "ord_7") (.ofCents 500)) d d := by
  refine ⟨_,rfl,rfl,?_⟩
  have plain : Atom (.str "ord_7") := trivial
  apply (payload_digest_binds_iff Function.injective_id _ _ (refund_proper _ _ _ (.atom plain)) rfl rfl).mpr
  intro _ _
  exact ⟨fun _ _ => refund_identical _ _ _ _ _ (.atom plain),fun _ _ => rfl⟩

/-- A tuple has the digest of a list, and 5.00 another one than 5.0. -/
theorem refunds_misbound :
    (∃ d, (refundArgs [] (.tuple [.int 7]) (.ofCents 500)).digest id = .ok d ∧
        (refundArgs [] (.list [.int 7]) (.ofCents 500)).digest id = .ok d) ∧
      ¬ Identical (refundArgs [] (.tuple [.int 7]) (.ofCents 500)).payload.value
        (refundArgs [] (.list [.int 7]) (.ofCents 500)).payload.value ∧
      SameNumber (.finite false 500 (-2)) (.finite false 50 (-1)) ∧
      ∃ d e, (refundArgs [] (.int 7) (.finite false 500 (-2))).digest id = .ok d ∧
        (refundArgs [] (.int 7) (.finite false 50 (-1))).digest id = .ok e ∧ d ≠ e := by
  refine ⟨⟨_,rfl,rfl⟩,?_,?_,_,_,rfl,rfl,by decide +kernel⟩
  · intro identical
    cases identical with
    | dict members perm =>
      cases members with
      | cons head rest =>
        cases rest
        obtain ⟨_,values⟩ := head
        obtain ⟨rfl,rfl⟩ := Prod.mk.inj (List.singleton_inj.mp (List.perm_singleton.mp perm))
        cases values
  · norm_num [SameNumber,Decimal.finiteValue]

end RevPilot.Approval
