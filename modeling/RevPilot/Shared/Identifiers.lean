import RevPilot.Library.Text

/-! Identifier value objects. A value of `EntityId` carries the proof that the
constructor of its class accepted it. -/
namespace RevPilot.Shared
open Library

def maxIdLength : Nat := 64

/-- The characters of `_IDENTIFIER_REGEX`. -/
def isIdentifierChar (c : Char) : Bool := c.isAlphanum || c == '_' || c == '-'

/-- The checks of `EntityId.__post_init__` on the stripped text. -/
def acceptsIdentifier (lead value : String) : Bool :=
  value != "" && value.toList.length ≤ maxIdLength && value.toList.all isIdentifierChar &&
    Text.startsWith value lead

structure EntityId (lead : String) where
  value : String
  accepted : acceptsIdentifier lead value = true
  deriving DecidableEq

/-- The constructor: the text is stripped first, a refused text is a `ValueError`. -/
def EntityId.make (lead raw : String) : Option (EntityId lead) :=
  if accepted : acceptsIdentifier lead (Text.strip raw) = true then some ⟨Text.strip raw,accepted⟩ else none

theorem identifierChar_not_space (c : Char) (known : isIdentifierChar c = true) : Text.isSpace c = false := by
  have range : 45 ≤ c.toNat ∧ c.toNat ≤ 122 := by
    simp only [isIdentifierChar,Bool.or_eq_true,beq_iff_eq] at known
    rcases known with (letterOrDigit | rfl) | rfl
    · have ranges := Text.isAlphanum_cases c letterOrDigit
      omega
    · decide
    · decide
  simp only [Text.isSpace,Bool.or_eq_false_iff,Bool.and_eq_false_iff,decide_eq_false_iff_not,beq_eq_false_iff_ne]
  omega

theorem EntityId.strip_value {lead : String} (id : EntityId lead) : Text.strip id.value = id.value := by
  apply Text.strip_eq_self
  intro c member
  have accepted := id.accepted
  simp only [acceptsIdentifier,Bool.and_eq_true,List.all_eq_true] at accepted
  exact identifierChar_not_space c (accepted.1.2 c member)

theorem EntityId.value_ne {lead : String} (id : EntityId lead) : id.value ≠ "" := by
  have accepted := id.accepted
  simp only [acceptsIdentifier,Bool.and_eq_true,bne_iff_ne] at accepted
  exact accepted.1.1.1

/-- An identifier's own text is accepted again, unchanged. -/
@[simp] theorem EntityId.make_value {lead : String} (id : EntityId lead) : make lead id.value = some id := by
  simp [make,id.strip_value,id.accepted]

/-- An identifier is free of the separator that joins it with other fields. -/
theorem identifier_free {lead : String} (id : EntityId lead) : ':' ∉ id.value.toList := by
  intro inside
  have accepted := id.accepted
  simp only [acceptsIdentifier,Bool.and_eq_true,List.all_eq_true] at accepted
  exact absurd (accepted.1.2 ':' inside) (by decide)

abbrev TenantId := EntityId "tnt_"

abbrev PrincipalId := EntityId "usr_"

structure UUIDv7 where
  value : String
  deriving DecidableEq

end RevPilot.Shared
