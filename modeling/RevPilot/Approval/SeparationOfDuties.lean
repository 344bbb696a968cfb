import RevPilot.Approval.Lifecycle
import Mathlib.Logic.Relation

/-! Separation of duties over runs of the approval service. The service records
neither who creates a request nor who amends one, so the amendments that a run
makes are kept beside the repository. -/
namespace RevPilot.Approval
open Library Shared Program Runs

/-- One amendment that a run has made. -/
structure Amendment where
  tenantId : TenantId
  original : UUIDv7
  successor : UUIDv7
  modifier : String
  deriving DecidableEq

/-- The repository and the amendments made so far. -/
structure Duties (S : Type) where
  store : S
  amendments : List Amendment

namespace Duties
variable {S : Type} (d : Duties S)

/-- Request `a` is the successor of request `b`. -/
def Amends (t : TenantId) (a b : UUIDv7) : Prop :=
  ∃ m ∈ d.amendments, m.tenantId = t ∧ m.successor = a ∧ m.original = b

def AmendedBy (t : TenantId) (a : UUIDv7) (p : String) : Prop :=
  ∃ m ∈ d.amendments, m.tenantId = t ∧ m.successor = a ∧ m.modifier = p

variable (repo : ApprovalRepository S)

/-- The stored request names `p` as its requester. -/
def Requested (t : TenantId) (a : UUIDv7) (p : String) : Prop :=
  ∃ record, repo.get d.store t a = some record ∧ ApprovalService.isRequester record p = true

/-- The principals that may not approve a request. -/
def Barred (t : TenantId) (a : UUIDv7) (p : String) : Prop :=
  (∃ b, Relation.ReflTransGen (d.Amends t) a b ∧ d.Requested repo t b p) ∨ d.AmendedBy t a p

/-- The barred principals that the record of the request itself does not name. -/
def Unrecorded (t : TenantId) (a : UUIDv7) (p : String) : Prop :=
  (∃ b, Relation.TransGen (d.Amends t) a b ∧ d.Requested repo t b p) ∨ d.AmendedBy t a p

theorem barred_iff (t : TenantId) (a : UUIDv7) (p : String) :
    d.Barred repo t a p ↔ d.Requested repo t a p ∨ d.Unrecorded repo t a p := by
  simp only [Barred,Unrecorded,Relation.reflTransGen_iff_eq_or_transGen]
  constructor
  · rintro (⟨b,same | chain,requested⟩ | amended)
    · exact .inl (same ▸ requested)
    · exact .inr (.inl ⟨b,chain,requested⟩)
    · exact .inr (.inr amended)
  · rintro (requested | ⟨b,chain,requested⟩ | amended)
    · exact .inl ⟨a,.inl rfl,requested⟩
    · exact .inl ⟨b,.inr chain,requested⟩
    · exact .inr amended

end Duties

namespace ApprovalOperation
open ApprovalService
variable (sha256 : String → String)

/-- The amendment that an operation makes if it succeeds. -/
def amendment : ApprovalOperation → Option Amendment
  | .amend t a args _ newId => some ⟨t,a,newId,args.modifierPrincipalId⟩
  | _ => none

variable {S : Type} (repo : ApprovalRepository S)

def succeeds (s : S) (op : ApprovalOperation) : Bool := ((op.program sha256).exec repo.serve s).1.isOk

def dutyStep (d : Duties S) (op : ApprovalOperation) : Duties S where
  store := step sha256 repo d.store op
  amendments := (if succeeds sha256 repo d.store op then op.amendment.toList else []) ++ d.amendments

/-- The operation turns the request to APPROVED in the name of `p`. -/
def Approves (s : S) (op : ApprovalOperation) (t : TenantId) (a : UUIDv7) (p : String) : Prop :=
  repo.statusOf s t a ≠ some .approved ∧ ∃ record, repo.get (step sha256 repo s op) t a = some record ∧
    record.status = .approved ∧ record.approverPrincipalId = some p

/-- The operation approves nothing in the name of a principal that may not approve it. -/
def Separated (d : Duties S) (op : ApprovalOperation) : Prop :=
  ∀ t a p, Approves sha256 repo d.store op t a p → ¬ d.Barred repo t a p

/-- The operation is no acceptable grant by the principal whose amendment made
the request or by the requester of a request further up the chain. -/
def GrantsApart (d : Duties S) : ApprovalOperation → Prop
  | .grant t a args clock => ∀ record, repo.get d.store t a = some record →
      GrantAccepted sha256 args (args.currentTime.getD clock) record →
      ¬ d.Unrecorded repo t a args.approverPrincipalId
  | _ => True

/-- Only an accepted grant approves, and in the name of its caller. -/
theorem approves_iff {s : S} {op : ApprovalOperation} (fresh : Fresh repo s op) (t : TenantId) (a : UUIDv7)
    (p : String) :
    Approves sha256 repo s op t a p ↔ ∃ args clock record, op = .grant t a args clock ∧
      repo.get s t a = some record ∧ GrantAccepted sha256 args (args.currentTime.getD clock) record ∧
      args.approverPrincipalId = p := by
  constructor
  · rintro ⟨before,record,stored,status,approver⟩
    have rewritten := step_rewritten sha256 repo fresh t a
    rw [stored] at rewritten
    simp only [ApprovalRepository.statusOf] at before
    generalize found : repo.get s t a = old at rewritten before
    cases rewritten with
    | kept => exact absurd (congrArg some status) before
    | created _ _ waiting _ =>
      rw [waiting] at status
      cases status
    | approved old args clock is_grant accepted => exact ⟨args,clock,old,is_grant,rfl,accepted,Option.some.inj approver⟩
    | ended _ _ other _ closed rewrites =>
      rw [rewrites.status] at status
      rcases closed with rfl | rfl <;> cases status
    | revoked _ _ _ _ _ _ rewrites =>
      rw [rewrites.status] at status
      cases status
    | superseded _ _ _ _ _ _ _ rewrites =>
      rw [rewrites.status] at status
      cases status
  · rintro ⟨args,clock,record,rfl,found,accepted,rfl⟩
    refine ⟨?_,_,grant_get sha256 repo found accepted,rfl,rfl⟩
    simp [ApprovalRepository.statusOf,found,accepted.waiting]

theorem separated_step_iff {d : Duties S} {op : ApprovalOperation} (fresh : Fresh repo d.store op) :
    Separated sha256 repo d op ↔ GrantsApart sha256 repo d op := by
  constructor
  · intro separated
    cases op with
    | grant t a args clock =>
      intro record found accepted unrecorded
      have approves := (approves_iff sha256 repo fresh t a args.approverPrincipalId).mpr
        ⟨args,clock,record,rfl,found,accepted,rfl⟩
      exact separated t a _ approves ((d.barred_iff repo t a _).mpr (.inr unrecorded))
    | _ => trivial
  · intro apart t a p approves barred
    obtain ⟨args,clock,record,rfl,found,accepted,rfl⟩ := (approves_iff sha256 repo fresh t a p).mp approves
    rcases (d.barred_iff repo t a _).mp barred with ⟨own,stored,requester⟩ | unrecorded
    · -- the record's own requester is the one case that the service checks
      rw [found] at stored
      cases stored
      rw [accepted.separate] at requester
      cases requester
    · exact apart record found accepted unrecorded

/-- In a run from any repository, with generated identifiers that are new, no
request is approved by a principal that may not approve it exactly when nobody
grants a request made by their own amendment or amending one of theirs. -/
theorem separated_iff (s : S) (ops : List ApprovalOperation) (distinct : (ops.filterMap generated).Nodup)
    (unused : ∀ a ∈ ops.filterMap generated, ∀ t, repo.get s t a = none) :
    Along (dutyStep sha256 repo) (Separated sha256 repo) ⟨s,[]⟩ ops ↔
      Along (dutyStep sha256 repo) (GrantsApart sha256 repo) ⟨s,[]⟩ ops := by
  apply along_congr (dutyStep sha256 repo) (I := fun _ => True) (F := fun d op => Fresh repo d.store op)
  · intro d op _ _
    trivial
  · intro d op _ fresh
    exact separated_step_iff sha256 repo fresh
  · trivial
  · have fresh := fresh_run sha256 repo s ops distinct unused
    exact (along_part (step sha256 repo) Duties.store (fun _ _ => rfl) (Fresh repo) ⟨s,[]⟩ ops).mpr fresh

end ApprovalOperation

section samples
open ApprovalOperation

def amendedId : UUIDv7 := ⟨"01890a5d-ac96-774b-bcce-b302099a8058"⟩

/-- A request is created, a planner amends it and `approver` grants the amended one. -/
def amendedAndGranted (approver : String) : List ApprovalOperation :=
  [.create refund ⟨0⟩ refundId,
    .amend acme refundId { modifierPrincipalId := "usr_planner", newPayload := .empty } ⟨1⟩ amendedId,
    .grant acme amendedId
      { approverPrincipalId := approver, approverTier := 1, expectedDigest :=
          "\x7b\"action_type\":\"REFUND\",\"cost_usd\":\"100.00\",\"payload\":\x7b\x7d,\"target_entities\":[\"inv_7\"]\x7d" }
      ⟨2⟩]

/-- The repository and the amendments in front of the grant. -/
def beforeGrant (approver : String) : Duties ApprovalShelves :=
  run (dutyStep id InMemoryApprovalRepository) ⟨InMemoryApprovalRepository.empty,[]⟩
    ((amendedAndGranted approver).take 2)

/-- A director who neither requested nor amended the request may approve it. -/
theorem director_separated :
    Along (dutyStep id InMemoryApprovalRepository) (Separated id InMemoryApprovalRepository)
      ⟨InMemoryApprovalRepository.empty,[]⟩ (amendedAndGranted "usr_director") := by
  refine (separated_iff id InMemoryApprovalRepository _ _ (by decide) (fun _ _ _ => rfl)).mpr ?_
  refine ⟨trivial,trivial,?_,trivial⟩
  rintro record _ _ (⟨b,_,requester,stored,named⟩ | ⟨m,made,_,_,modifier⟩)
  · have anonymous : (InMemoryApprovalRepository.listAll (beforeGrant "usr_director").store acme).all
        (fun r => r.requesterPrincipalId.isNone) = true := by decide +kernel
    have listed := (InMemoryApprovalRepository.mem_listAll (beforeGrant "usr_director").store acme requester).mpr
      ((InMemoryApprovalRepository.get_keyed stored).2 ▸ stored)
    have none := Option.isNone_iff_eq_none.mp (List.all_eq_true.mp anonymous requester listed)
    simp [ApprovalService.isRequester,none] at named
  · have planner : (beforeGrant "usr_director").amendments.all (fun m => m.modifier = "usr_planner") = true := by
      decide +kernel
    have same := List.all_eq_true.mp planner m made
    rw [decide_eq_true_eq,modifier] at same
    exact absurd same (by decide)

/-- The planner approves the request that their own amendment made. -/
theorem planner_approves_own_amendment :
    ¬ Along (dutyStep id InMemoryApprovalRepository) (Separated id InMemoryApprovalRepository)
      ⟨InMemoryApprovalRepository.empty,[]⟩ (amendedAndGranted "usr_planner") := by
  intro separated
  have waiting : InMemoryApprovalRepository.statusOf (beforeGrant "usr_planner").store acme amendedId ≠
      some .approved := by decide +kernel
  have approved : (InMemoryApprovalRepository.get (run (dutyStep id InMemoryApprovalRepository)
      ⟨InMemoryApprovalRepository.empty,[]⟩ (amendedAndGranted "usr_planner")).store acme amendedId).map
        (fun r => (r.status,r.approverPrincipalId)) = some (.approved,some "usr_planner") := by decide +kernel
  have amended : (beforeGrant "usr_planner").amendments = [⟨acme,refundId,amendedId,"usr_planner"⟩] := by
    decide +kernel
  obtain ⟨record,stored,fields⟩ := Option.map_eq_some_iff.mp approved
  obtain ⟨status,approver⟩ := Prod.mk.inj fields
  refine separated.2.2.1 acme amendedId "usr_planner" ⟨waiting,record,stored,status,approver⟩ (.inr ?_)
  exact ⟨⟨acme,refundId,amendedId,"usr_planner"⟩,amended ▸ List.mem_cons_self,rfl,rfl,rfl⟩

end samples
end RevPilot.Approval
