import RevPilot.Identity.Provenance
import RevPilot.Library.Text
import RevPilot.Shared.IsoFormat

/-! Privileged contexts: their signature joins a ticket and a justification, both free text, with
the same separator as the other fields. -/
namespace RevPilot.Identity
open Library Shared UtcDateTime

/-- An instant that `datetime` has. -/
abbrev Instant := { t : UtcDateTime // InRange t }

/-- `str(principal_id)`. -/
def ActorId.text : ActorId → String
  | principal id => id.value
  | serviceAccount id => id.value

/-- The arguments of a construction. -/
structure PrivilegedAttempt where
  principalId : ActorId
  ticketId : String
  justification : String
  issuedAt : Instant
  expiresAt : Instant
  provenanceSignature : String

def computePrivilegedSignature (hmac : Hmac) (principalIdStr ticketId justification issuedAtIso expiresAtIso : String) :
    String :=
  hmac "revpilot-platform-privileged-authority-signature-2026"
    (principalIdStr ++ ":" ++ ticketId ++ ":" ++ justification ++ ":" ++ issuedAtIso ++ ":" ++ expiresAtIso)

def PrivilegedAttempt.expectedSig (hmac : Hmac) (a : PrivilegedAttempt) : String :=
  computePrivilegedSignature hmac a.principalId.text (Text.strip a.ticketId) (Text.strip a.justification)
    a.issuedAt.val.isoformat a.expiresAt.val.isoformat

/-- What `__post_init__` requires. -/
structure PrivilegedAttempt.Accepted (hmac : Hmac) (a : PrivilegedAttempt) : Prop where
  ticket : Text.strip a.ticketId ≠ ""
  justified : Text.strip a.justification ≠ ""
  later : 0 < a.expiresAt.val.micros - a.issuedAt.val.micros
  bounded : a.expiresAt.val.micros - a.issuedAt.val.micros ≤ 3600000000
  ascii : (Text.isAscii a.provenanceSignature && Text.isAscii (a.expectedSig hmac)) = true
  proven : a.provenanceSignature = a.expectedSig hmac

/-- A constructed context is the attempt that was accepted. -/
structure PrivilegedContext (hmac : Hmac) extends PrivilegedAttempt where
  accepted : toPrivilegedAttempt.Accepted hmac

def PrivilegedAttempt.postInit (hmac : Hmac) (a : PrivilegedAttempt) : Except PyError (PrivilegedContext hmac) :=
  if ticket : Text.strip a.ticketId ≠ "" then
    if justified : Text.strip a.justification ≠ "" then
      if later : 0 < a.expiresAt.val.micros - a.issuedAt.val.micros then
        if bounded : a.expiresAt.val.micros - a.issuedAt.val.micros ≤ 3600000000 then
          if ascii : (Text.isAscii a.provenanceSignature && Text.isAscii (a.expectedSig hmac)) = true then
            if proven : a.provenanceSignature = a.expectedSig hmac then
              .ok ⟨a,ticket,justified,later,bounded,ascii,proven⟩
            else .error (authorizationError
              "PrivilegedContext construction denied: invalid platform provenance signature")
          else .error .typeError
        else .error (validationError "PrivilegedContext maximum lifetime is 60 minutes (3600s)")
      else .error (validationError "expires_at must be strictly after issued_at")
    else .error (validationError "justification cannot be empty or whitespace-only")
  else .error (validationError "ticket_id cannot be empty or whitespace-only")

/-- `PrivilegedContext._issue_platform_context`. -/
def issuePlatformContext (hmac : Hmac) (principalId : ActorId) (ticketId justification : String)
    (issuedAt expiresAt : Instant) : Except PyError (PrivilegedContext hmac) :=
  let tId := Text.strip ticketId
  let just := Text.strip justification
  let sig := computePrivilegedSignature hmac principalId.text tId just issuedAt.val.isoformat expiresAt.val.isoformat
  PrivilegedAttempt.postInit hmac ⟨principalId,tId,just,issuedAt,expiresAt,sig⟩

/-- A construction that reuses the signature is accepted only for the values of the context, the
free texts up to surrounding white space. -/
def BindsContext {hmac : Hmac} (context : PrivilegedContext hmac) : Prop :=
  ∀ (attempt : PrivilegedAttempt) (other : PrivilegedContext hmac),
    attempt.provenanceSignature = context.provenanceSignature → attempt.postInit hmac = .ok other →
    other.principalId = context.principalId ∧ other.issuedAt = context.issuedAt ∧ other.expiresAt = context.expiresAt ∧
      Text.strip other.ticketId = Text.strip context.ticketId ∧
      Text.strip other.justification = Text.strip context.justification

/-- The joined ticket and justification have no other colon that parts them into two texts, neither of
them empty and with no white space beside the colon. -/
def OnlySplit (ticketId justification : String) : Prop :=
  ∀ x y : List Char, ticketId.toList ++ ':' :: justification.toList = x ++ ':' :: y →
    x = ticketId.toList ∨ x = [] ∨ y = [] ∨ (∃ c, x.getLast? = some c ∧ Text.isSpace c = true) ∨
      ∃ c, y.head? = some c ∧ Text.isSpace c = true

section contexts
variable {hmac : Hmac}

theorem ActorId.text_free (id : ActorId) : ':' ∉ id.text.toList := by
  cases id with
  | principal id => exact identifier_free id
  | serviceAccount id => exact identifier_free id

theorem ActorId.text_injective {a b : ActorId} (same : a.text = b.text) : a = b := by
  have lead {lead : String} (id : EntityId lead) : lead.toList <+: id.value.toList := by
    have accepted := id.accepted
    simp only [acceptsIdentifier,Text.startsWith,Bool.and_eq_true,List.isPrefixOf_iff_prefix] at accepted
    exact accepted.2
  have apart (user : PrincipalId) (service : EntityId "svc_") : user.value ≠ service.value := by
    intro same
    have one := lead user
    rw [same] at one
    have prefixes := List.prefix_of_prefix_length_le one (lead service) (by decide)
    exact absurd prefixes (by decide)
  cases a with
  | principal id =>
    cases b with
    | principal other =>
      cases id
      cases other
      have texts : _ = _ := same
      congr
    | serviceAccount other => exact absurd same (apart id other)
  | serviceAccount id =>
    cases b with
    | principal other => exact absurd same.symm (apart other id)
    | serviceAccount other =>
      cases id
      cases other
      have texts : _ = _ := same
      congr

theorem privileged_accepted {a : PrivilegedAttempt} (accepted : a.Accepted hmac) : a.postInit hmac = .ok ⟨a,accepted⟩ := by
  unfold PrivilegedAttempt.postInit
  rw [dif_pos accepted.ticket,dif_pos accepted.justified,dif_pos accepted.later,dif_pos accepted.bounded,
    dif_pos accepted.ascii,dif_pos accepted.proven]

theorem privileged_ok {a : PrivilegedAttempt} {context : PrivilegedContext hmac} (built : a.postInit hmac = .ok context) :
    context.toPrivilegedAttempt = a := by
  unfold PrivilegedAttempt.postInit at built
  split at built
  next =>
    split at built
    next =>
      split at built
      next =>
        split at built
        next =>
          split at built
          next =>
            split at built
            next =>
              cases built
              rfl
            next => cases built
          next => cases built
        next => cases built
      next => cases built
    next => cases built
  next => cases built

theorem signature_eq_iff (injective : ∀ key, Function.Injective (hmac key)) (a b : PrivilegedAttempt) :
    a.expectedSig hmac = b.expectedSig hmac ↔
      a.principalId = b.principalId ∧ a.issuedAt = b.issuedAt ∧ a.expiresAt = b.expiresAt ∧
      (Text.strip a.ticketId).toList ++ ':' :: (Text.strip a.justification).toList =
        (Text.strip b.ticketId).toList ++ ':' :: (Text.strip b.justification).toList := by
  have colon : ":".toList = [':'] := rfl
  constructor
  · intro same
    have texts := congrArg String.toList (injective _ same)
    simp only [String.toList_append,colon,List.append_assoc,List.cons_append,List.nil_append] at texts
    obtain ⟨principals,texts⟩ := Separators.head_unique a.principalId.text_free b.principalId.text_free texts
    have nested (t j u v : List Char) : t ++ ':' :: (j ++ ':' :: (u ++ ':' :: v)) = ((t ++ ':' :: j) ++ ':' :: u) ++ ':' :: v := by
      simp only [List.append_assoc,List.cons_append]
    rw [nested,nested] at texts
    obtain ⟨texts,expiry⟩ := isoformat_last texts
    obtain ⟨texts,issue⟩ := isoformat_last texts
    exact ⟨ActorId.text_injective (String.toList_injective principals),
      Subtype.ext (isoformat_injective a.issuedAt.property b.issuedAt.property issue),
      Subtype.ext (isoformat_injective a.expiresAt.property b.expiresAt.property expiry),texts⟩
  · rintro ⟨principals,issue,expiry,texts⟩
    unfold PrivilegedAttempt.expectedSig computePrivilegedSignature
    rw [principals,issue,expiry]
    refine congrArg (hmac _) (String.toList_injective ?_)
    simp only [String.toList_append,colon,List.append_assoc,List.cons_append,List.nil_append]
    have longer := congrArg (· ++ ':' :: (b.issuedAt.val.isoformat.toList ++ ':' :: b.expiresAt.val.isoformat.toList)) texts
    simp only [List.append_assoc,List.cons_append] at longer
    rw [longer]

theorem onlySplit_or (ticketId justification : String) : OnlySplit ticketId justification ∨
    ∃ x y : List Char, ticketId.toList ++ ':' :: justification.toList = x ++ ':' :: y ∧ x ≠ ticketId.toList ∧ x ≠ [] ∧ y ≠ [] ∧
      (∀ c, x.getLast? = some c → Text.isSpace c = false) ∧ ∀ c, y.head? = some c → Text.isSpace c = false := by
  by_contra neither
  push Not at neither
  obtain ⟨ambiguous,unsplit⟩ := neither
  apply ambiguous
  intro x y parts
  by_contra other
  push Not at other
  obtain ⟨apart,nonempty,rest,last,head⟩ := other
  obtain ⟨c,first,space⟩ := unsplit x y parts apart nonempty rest (fun c final => by simpa using last c final)
  exact head c first (by simpa using space)

/-- Where the joined text has a second split, the parts are texts that `strip` leaves alone. -/
theorem split_stripped {ticketId justification : String} (ticket : Text.strip ticketId = ticketId)
    (justified : Text.strip justification = justification) (filled : ticketId ≠ "") (reasoned : justification ≠ "")
    {x y : List Char} (parts : ticketId.toList ++ ':' :: justification.toList = x ++ ':' :: y) (left : x ≠ []) (right : y ≠ [])
    (last : ∀ c, x.getLast? = some c → Text.isSpace c = false) (first : ∀ c, y.head? = some c → Text.isSpace c = false) :
    Text.strip (String.ofList x) = String.ofList x ∧ Text.strip (String.ofList y) = String.ofList y := by
  rw [Text.strip_eq_self_iff] at ticket justified ⊢
  rw [Text.strip_eq_self_iff,String.toList_ofList,String.toList_ofList]
  have tickets : ticketId.toList ≠ [] := fun empty => filled (String.toList_injective empty)
  have reasons : justification.toList ≠ [] := fun empty => reasoned (String.toList_injective empty)
  constructor
  · refine ⟨?_,last⟩
    intro c head
    apply ticket.first c
    have whole := congrArg List.head? parts
    rwa [List.head?_append_of_ne_nil _ tickets,List.head?_append_of_ne_nil _ left,head] at whole
  · refine ⟨first,?_⟩
    intro c final
    apply justified.last c
    have whole := congrArg List.getLast? parts
    have tail (z w : List Char) (filled : w ≠ []) : (z ++ ':' :: w).getLast? = w.getLast? := by
      rw [List.getLast?_append_of_ne_nil _ (List.cons_ne_nil _ _),List.getLast?_cons]
      rw [List.getLast?_eq_some_getLast filled]
      rfl
    rwa [tail _ _ reasons,tail _ _ right,final] at whole

/-- An issued context binds its values exactly if its joined ticket and justification split only
where they were joined. -/
theorem privileged_binding_iff (injective : ∀ key, Function.Injective (hmac key)) {principalId : ActorId}
    {ticketId justification : String} {issuedAt expiresAt : Instant} {context : PrivilegedContext hmac}
    (issued : issuePlatformContext hmac principalId ticketId justification issuedAt expiresAt = .ok context) :
    BindsContext context ↔ OnlySplit (Text.strip ticketId) (Text.strip justification) := by
  obtain ⟨own,accepted⟩ := context
  obtain rfl : own = _ := privileged_ok issued
  have filled : Text.strip ticketId ≠ "" := by
    have given := accepted.ticket
    rwa [Text.strip_strip] at given
  have reasoned : Text.strip justification ≠ "" := by
    have given := accepted.justified
    rwa [Text.strip_strip] at given
  constructor
  · intro binds
    rcases onlySplit_or (Text.strip ticketId) (Text.strip justification) with only |
      ⟨x,y,parts,apart,left,right,last,first⟩
    · exact only
    · obtain ⟨ticket,reason⟩ := split_stripped (Text.strip_strip _) (Text.strip_strip _) filled reasoned parts left right last first
      let forged : PrivilegedAttempt := ⟨principalId,String.ofList x,String.ofList y,issuedAt,expiresAt,
        computePrivilegedSignature hmac principalId.text (Text.strip ticketId) (Text.strip justification)
          issuedAt.val.isoformat expiresAt.val.isoformat⟩
      have signature : forged.expectedSig hmac = PrivilegedAttempt.expectedSig hmac ⟨principalId,Text.strip ticketId,
          Text.strip justification,issuedAt,expiresAt,forged.provenanceSignature⟩ := by
        rw [signature_eq_iff injective]
        refine ⟨rfl,rfl,rfl,?_⟩
        rw [ticket,reason,String.toList_ofList,String.toList_ofList,Text.strip_strip,Text.strip_strip,parts]
      have built : forged.Accepted hmac := by
        constructor
        · rw [ticket]
          intro empty
          exact left (by simpa using congrArg String.toList empty)
        · rw [reason]
          intro empty
          exact right (by simpa using congrArg String.toList empty)
        · exact accepted.later
        · exact accepted.bounded
        · rw [signature]
          exact accepted.ascii
        · rw [signature]
          exact accepted.proven
      obtain ⟨_,_,_,tickets,_⟩ := binds forged ⟨forged,built⟩ rfl (privileged_accepted built)
      have same : Text.strip (String.ofList x) = Text.strip (Text.strip ticketId) := tickets
      rw [ticket,Text.strip_strip] at same
      exact absurd (by rw [← same,String.toList_ofList]) apart
  · intro only attempt other reuse built
    have shape := privileged_ok built
    obtain ⟨given,held⟩ := other
    obtain rfl : given = attempt := shape
    have signatures := (held.proven.symm.trans reuse).trans accepted.proven
    obtain ⟨principals,issue,expiry,texts⟩ := (signature_eq_iff injective _ _).mp signatures
    rw [Text.strip_strip,Text.strip_strip] at texts
    refine ⟨principals,issue,expiry,?_⟩
    rw [Text.strip_strip,Text.strip_strip]
    rcases only _ _ texts.symm with same | empty | empty | ⟨c,last,space⟩ | ⟨c,head,space⟩
    · have tickets : Text.strip given.ticketId = Text.strip ticketId := String.toList_injective same
      refine ⟨tickets,String.toList_injective ?_⟩
      rw [tickets] at texts
      exact (List.cons.inj (List.append_cancel_left texts)).2
    · exact absurd (String.toList_injective empty) held.ticket
    · exact absurd (String.toList_injective empty) held.justified
    · have solid := ((Text.strip_eq_self_iff _).mp (Text.strip_strip given.ticketId)).last c last
      rw [solid] at space
      cases space
    · have solid := ((Text.strip_eq_self_iff _).mp (Text.strip_strip given.justification)).first c head
      rw [solid] at space
      cases space

end contexts

section examples

def atEpoch : Instant := ⟨⟨0⟩,by decide,by decide⟩

def afterMinute : Instant := ⟨⟨60000000⟩,by decide,by decide⟩

def migrator : ActorId := .serviceAccount ⟨"svc_migrator",Eq.refl true⟩

def signedAttempt (ticketId justification : String) : PrivilegedAttempt :=
  ⟨migrator,ticketId,justification,atEpoch,afterMinute,
    computePrivilegedSignature plainHmac "svc_migrator" ticketId justification (UtcDateTime.isoformat ⟨0⟩)
      (UtcDateTime.isoformat ⟨60000000⟩)⟩

theorem plainHmac_injective (key : String) : Function.Injective (plainHmac key) :=
  fun _ _ same => (String.append_right_inj _).mp same

variable {ticketId justification : String}

theorem signature_ascii (ticket : Text.isAscii ticketId = true) (justified : Text.isAscii justification = true) :
    Text.isAscii (signedAttempt ticketId justification).provenanceSignature = true := by
  have issued : Text.isAscii (UtcDateTime.isoformat ⟨0⟩) = true := by decide +kernel
  have expires : Text.isAscii (UtcDateTime.isoformat ⟨60000000⟩) = true := by decide +kernel
  unfold signedAttempt computePrivilegedSignature plainHmac
  simp only [isAscii_append,ticket,justified,issued,expires]
  decide +kernel

/-- What is signed for texts without blanks around them is accepted. -/
theorem signed_accepted (ticket : Text.strip ticketId = ticketId) (justified : Text.strip justification = justification)
    (filled : ticketId ≠ "") (reasoned : justification ≠ "") (plain : Text.isAscii ticketId = true)
    (plain' : Text.isAscii justification = true) : (signedAttempt ticketId justification).Accepted plainHmac := by
  have proven : (signedAttempt ticketId justification).provenanceSignature =
      (signedAttempt ticketId justification).expectedSig plainHmac := by
    change _ = computePrivilegedSignature plainHmac _ (Text.strip ticketId) (Text.strip justification) _ _
    rw [ticket,justified]
    rfl
  have ascii := signature_ascii plain plain'
  refine ⟨?_,?_,?_,?_,?_,proven⟩
  · exact ne_of_eq_of_ne ticket filled
  · exact ne_of_eq_of_ne justified reasoned
  · exact (by decide : (0 : Int) < 60000000 - 0)
  · exact (by decide : (60000000 : Int) - 0 ≤ 3600000000)
  · rw [← proven,ascii]
    rfl

theorem restore_accepted : (signedAttempt "INC-1" "restore").Accepted plainHmac :=
  signed_accepted (by decide +kernel) (by decide +kernel) (by decide) (by decide) (by decide +kernel) (by decide +kernel)

/-- A text with a single colon splits there only. -/
theorem restore_only_split : OnlySplit (Text.strip "INC-1") (Text.strip "restore") := by
  intro x y parts
  have free : ':' ∉ x := by
    intro inside
    have counts := congrArg (List.count ':') parts
    have once : List.count ':' ((Text.strip "INC-1").toList ++ ':' :: (Text.strip "restore").toList) = 1 := by decide +kernel
    rw [once,List.count_append,List.count_cons_self] at counts
    have before := List.count_pos_iff.mpr inside
    omega
  exact .inl (Separators.head_unique (by decide +kernel) free parts).1.symm

theorem restore_issued : issuePlatformContext plainHmac migrator "INC-1" "restore" atEpoch afterMinute =
    .ok ⟨_,restore_accepted⟩ := privileged_accepted restore_accepted

theorem restore_bound : BindsContext ⟨_,restore_accepted⟩ :=
  (privileged_binding_iff plainHmac_injective restore_issued).mpr restore_only_split

theorem ticketed_accepted : (signedAttempt "INC-1" "db:restore").Accepted plainHmac :=
  signed_accepted (by decide +kernel) (by decide +kernel) (by decide) (by decide) (by decide +kernel) (by decide +kernel)

def shiftedAttempt : PrivilegedAttempt :=
  { signedAttempt "INC-1" "db:restore" with ticketId := "INC-1:db", justification := "restore" }

theorem shifted_accepted : shiftedAttempt.Accepted plainHmac := by
  -- the two pairs of texts are one when they are joined by a colon
  have proven : shiftedAttempt.provenanceSignature = shiftedAttempt.expectedSig plainHmac :=
    ticketed_accepted.proven.trans ((signature_eq_iff plainHmac_injective _ _).mpr ⟨rfl,rfl,rfl,by decide +kernel⟩)
  refine ⟨by decide +kernel,by decide +kernel,ticketed_accepted.later,ticketed_accepted.bounded,?_,proven⟩
  rw [← proven]
  exact Bool.and_eq_true_iff.mpr ⟨(Bool.and_eq_true_iff.mp ticketed_accepted.ascii).1,
    (Bool.and_eq_true_iff.mp ticketed_accepted.ascii).1⟩

/-- The signature issued for ticket INC-1 is accepted for ticket INC-1:db. -/
theorem ticket_shifted : ∃ context other : PrivilegedContext plainHmac,
    issuePlatformContext plainHmac migrator "INC-1" "db:restore" atEpoch afterMinute =
      .ok context ∧
    shiftedAttempt.provenanceSignature = context.provenanceSignature ∧ shiftedAttempt.postInit plainHmac = .ok other ∧
    Text.strip other.ticketId ≠ Text.strip context.ticketId := by
  refine ⟨⟨_,ticketed_accepted⟩,⟨_,shifted_accepted⟩,privileged_accepted ticketed_accepted,rfl,
    privileged_accepted shifted_accepted,?_⟩
  change Text.strip "INC-1:db" ≠ Text.strip "INC-1"
  decide +kernel

end examples
end RevPilot.Identity
