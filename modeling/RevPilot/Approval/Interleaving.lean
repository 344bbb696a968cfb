import RevPilot.Approval.Lifecycle

/-! Concurrent decisions on one approval request. Any number of grant, reject,
revoke and amend calls run as coroutines over one repository; a schedule names
the coroutine that moves next, and every call of the port is a suspension. -/
namespace RevPilot.Approval
open Library Shared Program Runs ApprovalService

/-- A call on the contended request. -/
inductive Contender : Type
  | grant (args : Grant) (clock : UtcDateTime)
  | reject (approverPrincipalId rejectionReason : String)
  | revoke (revokerPrincipalId revocationReason : String)
  | amend (args : Amend) (now : UtcDateTime) (newId : UUIDv7)

namespace Contender

def decides : Contender → Bool
  | .grant .. | .reject .. => true
  | _ => false

def revokes : Contender → Bool
  | .revoke .. => true
  | _ => false

/-- The identifier of the request that an amendment opens. -/
def generated : Contender → Option UUIDv7
  | .amend _ _ newId => some newId
  | _ => none

variable (sha256 : String → String) (t : TenantId) (a : UUIDv7)

def program : Contender → ApprovalProg Unit
  | .grant args clock => do let _ ← grantApproval sha256 t a args clock
  | .reject approver reason => do let _ ← rejectRequest t a approver reason
  | .revoke revoker reason => do let _ ← revokeApproval t a revoker reason
  | .amend args now newId => do let _ ← amendRequest sha256 t a args now newId

/-- What is left of a contender's program at any time. -/
inductive Residue (c : Contender) : ApprovalProg Unit → Prop
  | reading : Residue c (c.program sha256 t a)
  | returned : Residue c (.ret ())
  | raised (e) : Residue c (.raise e)
  | deciding (written) : c.decides = true → written.tenantId = t → written.approvalId = a →
      (written.status = .approved ∨ written.status = .rejected) →
      Residue c (.await (.update written) (fun _ => .ret ()))
  | expiring (written e) : written.tenantId = t → written.approvalId = a → written.status = .expired →
      Residue c (.await (.update written) (fun _ => .raise e))
  | revoking (written) : c.revokes = true → written.tenantId = t → written.approvalId = a →
      written.status = .revoked → Residue c (.await (.update written) (fun _ => .ret ()))
  | superseding (written rest) : written.tenantId = t → written.approvalId = a →
      written.status = .superseded → rest.returned = false → Residue c rest →
      Residue c (.await (.update written) (fun _ => rest))
  | saving (fresh) : c.decides = false → c.revokes = false → c.generated = some fresh.approvalId →
      Residue c (.await (.save fresh) (fun _ => .ret ()))

variable {S : Type} (repo : ApprovalRepository S)

private theorem grant_residue (args : Grant) (clock : UtcDateTime) {record : ApprovalRequestRecord}
    (tenant : record.tenantId = t) (own : record.approvalId = a) :
    let rest : ApprovalProg Unit :=
      grantRecord sha256 args (args.currentTime.getD clock) record >>= fun _ => .ret ()
    Residue sha256 t a (.grant args clock) rest ∧ rest.returned = false := by
  rcases grantRecord_cases sha256 args (args.currentTime.getD clock) record with
    ⟨e,run⟩ | ⟨_,e,written,rewrites,run⟩ | accepted
  · rw [run]
    exact ⟨.raised e,rfl⟩
  · rw [run]
    exact ⟨.expiring written e (rewrites.tenant.trans tenant) (rewrites.own.trans own) rewrites.status,rfl⟩
  · rw [grantRecord_accepted sha256 accepted]
    have rewrites := approvedRecord_rewrites args (args.currentTime.getD clock) record
    exact ⟨.deciding _ rfl (rewrites.tenant.trans tenant) (rewrites.own.trans own) (.inl rewrites.status),rfl⟩

private theorem reject_residue (approver reason : String) {record : ApprovalRequestRecord}
    (tenant : record.tenantId = t) (own : record.approvalId = a) :
    let rest : ApprovalProg Unit := rejectRecord approver reason record >>= fun _ => .ret ()
    Residue sha256 t a (.reject approver reason) rest ∧ rest.returned = false := by
  rcases rejectRecord_cases approver reason record with ⟨e,run⟩ | ⟨_,written,rewrites,run⟩
  · rw [run]
    exact ⟨.raised e,rfl⟩
  · rw [run]
    exact ⟨.deciding written rfl (rewrites.tenant.trans tenant) (rewrites.own.trans own)
      (.inr rewrites.status),rfl⟩

private theorem revoke_residue (revoker reason : String) {record : ApprovalRequestRecord}
    (tenant : record.tenantId = t) (own : record.approvalId = a) :
    let rest : ApprovalProg Unit := revokeRecord reason record >>= fun _ => .ret ()
    Residue sha256 t a (.revoke revoker reason) rest ∧ rest.returned = false := by
  rcases revokeRecord_cases reason record with ⟨_,e,run⟩ | ⟨_,written,rewrites,run⟩
  · rw [run]
    exact ⟨.raised e,rfl⟩
  · rw [run]
    exact ⟨.revoking written rfl (rewrites.tenant.trans tenant) (rewrites.own.trans own) rewrites.status,rfl⟩

private theorem amend_residue (args : Amend) (now : UtcDateTime) (newId : UUIDv7)
    {record : ApprovalRequestRecord} (tenant : record.tenantId = t) (own : record.approvalId = a) :
    let rest : ApprovalProg Unit := amendRecord sha256 t args now newId record >>= fun _ => .ret ()
    Residue sha256 t a (.amend args now newId) rest ∧ rest.returned = false := by
  rcases amendRecord_cases sha256 t args now newId record with
    ⟨_,e,run⟩ | ⟨_,written,rest,rewrites,run,outcome⟩
  · rw [run]
    exact ⟨.raised e,rfl⟩
  · rw [run]
    refine ⟨.superseding written _ (rewrites.tenant.trans tenant) (rewrites.own.trans own)
      rewrites.status ?_ ?_,rfl⟩
    · rcases outcome with ⟨e,rfl⟩ | ⟨fresh,_,_,_,_,rfl⟩ <;> rfl
    · rcases outcome with ⟨e,rfl⟩ | ⟨fresh,_,new,_,_,rfl⟩
      · exact .raised e
      · exact .saving fresh rfl rfl (congrArg some new.symm)

private theorem withRecord_read {A : Type} {c : Contender} {missing : PyError}
    {next : ApprovalRequestRecord → ApprovalProg A}
    (found : ∀ record, record.tenantId = t → record.approvalId = a →
      Residue sha256 t a c (next record >>= fun _ => .ret ()) ∧
        (next record >>= fun _ => .ret () : ApprovalProg Unit).returned = false) :
    ∃ resume, (withRecord t a missing next >>= fun _ => Prog.ret () : ApprovalProg Unit) =
        .await (.get t a) resume ∧
      ∀ s, Residue sha256 t a c (resume (repo.get s t a)) ∧ (resume (repo.get s t a)).returned = false := by
  refine ⟨_,rfl,?_⟩
  intro s
  cases stored : repo.get s t a with
  | none => exact ⟨.raised missing,rfl⟩
  | some record =>
    obtain ⟨tenant,own⟩ := repo.get_keyed stored
    exact found record tenant own

/-- Every contender opens with a read of the request and is not over after it. -/
private theorem program_reads (c : Contender) :
    ∃ resume, c.program sha256 t a = .await (.get t a) resume ∧
      ∀ s, Residue sha256 t a c (resume (repo.get s t a)) ∧ (resume (repo.get s t a)).returned = false := by
  cases c with
  | grant args clock =>
    exact withRecord_read sha256 t a repo (fun _ tenant own => grant_residue sha256 t a args clock tenant own)
  | reject approver reason =>
    exact withRecord_read sha256 t a repo (fun _ tenant own => reject_residue sha256 t a approver reason tenant own)
  | revoke revoker reason =>
    exact withRecord_read sha256 t a repo (fun _ tenant own => revoke_residue sha256 t a revoker reason tenant own)
  | amend args now newId =>
    exact withRecord_read sha256 t a repo (fun _ tenant own => amend_residue sha256 t a args now newId tenant own)

/-- What one call of a contender can do to the contended request. -/
inductive Advance (c : Contender) (s : S) (prog : ApprovalProg Unit) (s' : S) (prog' : ApprovalProg Unit) : Prop
  | quiet : (prog'.returned = true → c.decides = false ∧ c.revokes = false) →
      repo.statusOf s' t a = repo.statusOf s t a → Advance c s prog s' prog'
  | decided (written) : prog = .await (.update written) (fun _ => .ret ()) →
      (written.status = .approved ∨ written.status = .rejected) → c.decides = true → c.revokes = false →
      repo.statusOf s' t a = some written.status → Advance c s prog s' prog'
  | closed (status) : prog'.returned = false → status ∈ [.expired,.superseded] →
      repo.statusOf s' t a = some status → Advance c s prog s' prog'
  | revoked : c.decides = false → repo.statusOf s' t a = some .revoked → Advance c s prog s' prog'

private theorem kinds_apart (c : Contender) : c.decides = true → c.revokes = false := by
  cases c <;> simp [decides,revokes]

private theorem status_written {s : S} {written : ApprovalRequestRecord} (stored : repo.get s t a ≠ none)
    (tenant : written.tenantId = t) (own : written.approvalId = a) :
    repo.statusOf (repo.update s written) t a = some written.status := by
  subst tenant own
  simp [repo.statusOf_update stored]

theorem residue_call {c : Contender} {s : S} {call : ApprovalCall} {resume : call.Reply → ApprovalProg Unit}
    (other : c.generated ≠ some a) (stored : repo.get s t a ≠ none)
    (left : Residue sha256 t a c (.await call resume)) :
    Residue sha256 t a c (resume (repo.serve call s).1) ∧
      Advance t a repo c s (.await call resume) (repo.serve call s).2 (resume (repo.serve call s).1) := by
  generalize shape : (Prog.await call resume : ApprovalProg Unit) = prog at left
  cases left with
  | reading =>
    obtain ⟨next,opens,after⟩ := program_reads sha256 t a repo c
    rw [opens] at shape
    cases shape
    refine ⟨(after s).1,.quiet ?_ rfl⟩
    intro finished
    have unfinished := (after s).2
    simp only [ApprovalRepository.serve] at finished
    rw [finished] at unfinished
    cases unfinished
  | returned => cases shape
  | raised e => cases shape
  | deciding written decides tenant own status =>
    cases shape
    exact ⟨.returned,.decided written rfl status decides (kinds_apart c decides)
      (status_written t a repo stored tenant own)⟩
  | expiring written e tenant own status =>
    cases shape
    refine ⟨.raised e,.closed .expired rfl (by simp) ?_⟩
    rw [← status]
    exact status_written t a repo stored tenant own
  | revoking written revokes tenant own status =>
    cases shape
    refine ⟨.returned,.revoked ?_ ?_⟩
    · cases c <;> simp [Contender.revokes,Contender.decides] at revokes ⊢
    · rw [← status]
      exact status_written t a repo stored tenant own
  | superseding written rest tenant own status unfinished after =>
    cases shape
    refine ⟨after,.closed .superseded unfinished (by simp) ?_⟩
    rw [← status]
    exact status_written t a repo stored tenant own
  | saving fresh noDecision noRevocation new =>
    cases shape
    refine ⟨.returned,.quiet (fun _ => ⟨noDecision,noRevocation⟩) ?_⟩
    have apart : ¬ (t = fresh.tenantId ∧ a = fresh.approvalId) := by
      rintro ⟨_,same⟩
      exact other (new.trans (congrArg some same.symm))
    simp [ApprovalRepository.statusOf,ApprovalRepository.serve,repo.get_save_other s fresh t a apart]

end Contender

section pool
open Contender
variable (sha256 : String → String) (t : TenantId) (a : UUIDv7) {S : Type} (repo : ApprovalRepository S)

abbrev ApprovalPool (S : Type) := Pool S ApprovalCall ApprovalCall.Reply PyError Unit

def contend (contenders : List Contender) (s : S) : ApprovalPool S := ⟨s,contenders.map (program sha256 t a)⟩

/-- A contender of this kind has returned. -/
def Finished (kind : Contender → Bool) (contenders : List Contender) (pool : ApprovalPool S) (i : Nat) : Prop :=
  contenders[i]?.any kind = true ∧ pool.threads[i]?.any Prog.returned = true

theorem finished_iff {kind : Contender → Bool} {contenders : List Contender} {pool : ApprovalPool S} {i : Nat} :
    Finished kind contenders pool i ↔ ∃ c prog, contenders[i]? = some c ∧ kind c = true ∧
      pool.threads[i]? = some prog ∧ prog.returned = true := by
  simp only [Finished,Option.any_eq_true]
  constructor
  · rintro ⟨⟨c,named,fits⟩,prog,at_i,ended⟩
    exact ⟨c,prog,named,fits,at_i,ended⟩
  · rintro ⟨c,prog,named,fits,at_i,ended⟩
    exact ⟨⟨c,named,fits⟩,prog,at_i,ended⟩

/-- The final write of a grant or of a rejection. -/
def writesDecision : ApprovalProg Unit → Bool
  | .await (.update written) _ => written.status = .approved || written.status = .rejected
  | _ => false

/-- The contender that moves does not write a decision, unless the stored
request is still pending. -/
def DecidesWhilePending (pool : ApprovalPool S) (choice : Nat × Unit) : Prop :=
  pool.threads[choice.1]?.any writesDecision = true → repo.statusOf pool.world t a = some .pending

instance (pool : ApprovalPool S) (choice : Nat × Unit) : Decidable (DecidesWhilePending t a repo pool choice) :=
  inferInstanceAs (Decidable (_ → _))

structure Contended (contenders : List Contender) (pool : ApprovalPool S) : Prop where
  residues : ∀ (i : Nat) (prog : ApprovalProg Unit), pool.threads[i]? = some prog →
    ∃ c, contenders[i]? = some c ∧ Residue sha256 t a c prog
  stored : repo.get pool.world t a ≠ none
  decided : ∀ i, Finished decides contenders pool i → repo.statusOf pool.world t a ≠ some .pending
  revoked : ∀ i, Finished revokes contenders pool i →
    repo.statusOf pool.world t a ≠ some .pending ∧ repo.statusOf pool.world t a ≠ some .approved
  once : ∀ i j, Finished decides contenders pool i → Finished decides contenders pool j → i = j

/-- Whoever is over after a turn was over before it, or is the one that moved. -/
private theorem finished_set {kind : Contender → Bool} {contenders : List Contender} {pool : ApprovalPool S}
    {world : S} {i j : Nat} {c : Contender} {prog : ApprovalProg Unit} (named : contenders[i]? = some c)
    (done : Finished kind contenders ⟨world,pool.threads.set i prog⟩ j) :
    (j = i ∧ prog.returned = true ∧ kind c = true) ∨ Finished kind contenders pool j := by
  obtain ⟨d,found,owner,fits,at_j,ended⟩ := finished_iff.mp done
  rcases getElem?_set_cases at_j with ⟨rfl,rfl⟩ | ⟨apart,old⟩
  · rw [named] at owner
    cases owner
    exact .inl ⟨rfl,ended,fits⟩
  · exact .inr (finished_iff.mpr ⟨d,found,owner,fits,old,ended⟩)

private theorem advance_stored {c : Contender} {s s' : S} {prog prog' : ApprovalProg Unit}
    (stored : repo.get s t a ≠ none) (advance : Advance t a repo c s prog s' prog') :
    repo.get s' t a ≠ none := by
  rw [← repo.statusOf_ne_none] at stored ⊢
  cases advance with
  | quiet _ same => rwa [same]
  | decided _ _ _ _ _ after => simp [after]
  | closed _ _ _ after => simp [after]
  | revoked _ after => simp [after]

theorem contended_turn {contenders : List Contender} (others : ∀ c ∈ contenders, c.generated ≠ some a)
    (pool : ApprovalPool S) (choice : Nat × Unit) (inv : Contended sha256 t a repo contenders pool)
    (guarded : DecidesWhilePending t a repo pool choice) :
    Contended sha256 t a repo contenders (turn repo.server pool choice) := by
  rcases turn_suspended repo.server (fun _ => rfl) pool choice with same | ⟨call,resume,moving,moved⟩
  · rw [same]
    exact inv
  obtain ⟨c,named,left⟩ := inv.residues choice.1 _ moving
  obtain ⟨after,advance⟩ := residue_call sha256 t a repo (others c (List.mem_of_getElem? named)) inv.stored left
  have stored := advance_stored t a repo inv.stored advance
  rw [moved]
  change Contended sha256 t a repo contenders
    ⟨(repo.serve call pool.world).2,pool.threads.set choice.1 (resume (repo.serve call pool.world).1)⟩
  generalize (repo.serve call pool.world).2 = world at stored advance ⊢
  generalize resume (repo.serve call pool.world).1 = rest at after advance ⊢
  have residues : ∀ (i : Nat) (prog : ApprovalProg Unit), (pool.threads.set choice.1 rest)[i]? = some prog →
      ∃ c, contenders[i]? = some c ∧ Residue sha256 t a c prog := by
    intro i prog at_i
    rcases getElem?_set_cases at_i with ⟨rfl,rfl⟩ | ⟨_,old⟩
    · exact ⟨c,named,after⟩
    · exact inv.residues i prog old
  cases advance with
  | quiet harmless same =>
    have deciders : ∀ i, Finished decides contenders ⟨world,pool.threads.set choice.1 rest⟩ i →
        Finished decides contenders pool i := by
      intro i done
      rcases finished_set named done with ⟨_,ended,kind⟩ | old
      · rw [(harmless ended).1] at kind
        cases kind
      · exact old
    have revokers : ∀ i, Finished revokes contenders ⟨world,pool.threads.set choice.1 rest⟩ i →
        Finished revokes contenders pool i := by
      intro i done
      rcases finished_set named done with ⟨_,ended,kind⟩ | old
      · rw [(harmless ended).2] at kind
        cases kind
      · exact old
    refine ⟨residues,stored,?_,?_,?_⟩
    · intro i done
      rw [same]
      exact inv.decided i (deciders i done)
    · intro i done
      rw [same]
      exact inv.revoked i (revokers i done)
    · intro i j left right
      exact inv.once i j (deciders i left) (deciders j right)
  | decided written shape status decides notRevokes now =>
    -- the guard makes this the first decision, before any revocation
    have pending : repo.statusOf pool.world t a = some .pending := by
      apply guarded
      rw [moving,shape]
      simpa [writesDecision] using status
    have first : ∀ i, Finished Contender.decides contenders ⟨world,pool.threads.set choice.1 rest⟩ i →
        i = choice.1 := by
      intro i done
      rcases finished_set named done with ⟨here,_⟩ | old
      · exact here
      · exact absurd pending (inv.decided i old)
    refine ⟨residues,stored,?_,?_,?_⟩
    · intro i _
      rw [now]
      rcases status with approved | rejected
      · rw [approved]
        decide
      · rw [rejected]
        decide
    · intro i done
      rcases finished_set named done with ⟨_,_,kind⟩ | old
      · rw [notRevokes] at kind
        cases kind
      · exact absurd pending (inv.revoked i old).1
    · intro i j left right
      exact (first i left).trans (first j right).symm
  | closed status unfinished ends now =>
    have before {kind : Contender → Bool} (i : Nat)
        (done : Finished kind contenders ⟨world,pool.threads.set choice.1 rest⟩ i) :
        Finished kind contenders pool i := by
      rcases finished_set named done with ⟨_,ended,_⟩ | old
      · rw [unfinished] at ended
        cases ended
      · exact old
    have safe : some status ≠ some ApprovalStatus.pending ∧ some status ≠ some ApprovalStatus.approved := by
      simp only [List.mem_cons,List.not_mem_nil,or_false] at ends
      rcases ends with rfl | rfl <;> decide
    refine ⟨residues,stored,?_,?_,?_⟩
    · intro i _
      rw [now]
      exact safe.1
    · intro i _
      rw [now]
      exact safe
    · intro i j left right
      exact inv.once i j (before i left) (before j right)
  | revoked notDecides now =>
    have before (i : Nat) (done : Finished decides contenders ⟨world,pool.threads.set choice.1 rest⟩ i) :
        Finished decides contenders pool i := by
      rcases finished_set named done with ⟨_,_,kind⟩ | old
      · rw [notDecides] at kind
        cases kind
      · exact old
    refine ⟨residues,stored,?_,?_,?_⟩
    · intro i _
      rw [now]
      decide
    · intro i _
      rw [now]
      decide
    · intro i j left right
      exact inv.once i j (before i left) (before j right)

theorem contend_contended {contenders : List Contender} {s : S}
    (pending : repo.statusOf s t a = some .pending) :
    Contended sha256 t a repo contenders (contend sha256 t a contenders s) := by
  have unstarted {kind : Contender → Bool} (i : Nat) :
      ¬ Finished kind contenders (contend sha256 t a contenders s) i := by
    intro finished
    obtain ⟨c,prog,_,_,at_i,done⟩ := finished_iff.mp finished
    simp only [contend,List.getElem?_map,Option.map_eq_some_iff] at at_i
    obtain ⟨d,_,rfl⟩ := at_i
    obtain ⟨resume,opens,_⟩ := program_reads sha256 t a repo d
    rw [opens] at done
    cases done
  refine ⟨?_,?_,?_,?_,?_⟩
  · intro i prog at_i
    simp only [contend,List.getElem?_map,Option.map_eq_some_iff] at at_i
    obtain ⟨c,named,rfl⟩ := at_i
    exact ⟨c,named,.reading⟩
  · rw [← repo.statusOf_ne_none,contend,pending]
    decide
  · intro i done
    exact absurd done (unstarted i)
  · intro i done
    exact absurd done (unstarted i)
  · intro i j done
    exact absurd done (unstarted i)

private theorem finished_turn {kind : Contender → Bool} {contenders : List Contender} {pool : ApprovalPool S}
    {i : Nat} (choice : Nat × Unit) (done : Finished kind contenders pool i) :
    Finished kind contenders (turn repo.server pool choice) i := by
  obtain ⟨c,prog,named,fits,at_i,ended⟩ := finished_iff.mp done
  rcases turn_suspended repo.server (fun _ => rfl) pool choice with same | ⟨call,resume,moving,moved⟩
  · rw [same]
    exact done
  · have apart : choice.1 ≠ i := by
      rintro rfl
      rw [moving] at at_i
      cases at_i
      cases ended
    refine finished_iff.mpr ⟨c,prog,named,fits,?_,ended⟩
    rw [moved,List.getElem?_set_ne apart]
    exact at_i

/-- At most one grant or rejection has returned. -/
def OneDecision (contenders : List Contender) (pool : ApprovalPool S) : Prop :=
  ∀ i j, Finished decides contenders pool i → Finished decides contenders pool j → i = j

/-- Once a revocation has returned the request is not APPROVED later. -/
def RevokedForGood (contenders : List Contender) (before after : ApprovalPool S) : Prop :=
  ∀ i, Finished revokes contenders before i → repo.statusOf after.world t a ≠ some .approved

/-- Whenever every decision is written over a request that is still pending, at
most one grant or rejection of it succeeds and a revocation that has returned is
never followed by the status APPROVED, in every interleaving. -/
theorem decisions_exclude_each_other (contenders : List Contender) (s : S)
    (pending : repo.statusOf s t a = some .pending) (others : ∀ c ∈ contenders, c.generated ≠ some a)
    (schedule : List (Nat × Unit))
    (guarded : Along (turn repo.server) (DecidesWhilePending t a repo)
      (contend sha256 t a contenders s) schedule) :
    Always (turn repo.server) (OneDecision contenders) (contend sha256 t a contenders s) schedule ∧
      Through (turn repo.server) (RevokedForGood t a repo contenders)
        (contend sha256 t a contenders s) schedule := by
  have start : Contended sha256 t a repo contenders (contend sha256 t a contenders s) :=
    contend_contended sha256 t a repo pending
  have always := invariant_always (turn repo.server) (contended_turn sha256 t a repo others) start guarded
  constructor
  · exact always_mono _ (fun pool inv => inv.once) always
  · intro pre mid post split i done
    have inv := always (pre ++ mid) post split
    have still : Finished revokes contenders
        (run (turn repo.server) (contend sha256 t a contenders s) (pre ++ mid)) i := by
      rw [run_append]
      exact stable_run (turn repo.server) (I := fun pool => Finished revokes contenders pool i)
        (fun pool choice ended => finished_turn repo choice ended) done mid
    exact (inv.revoked i still).2

end pool

/-- The repository with one pending request. -/
def pendingRefund : ApprovalShelves :=
  ApprovalOperation.step id InMemoryApprovalRepository .empty (.create refund ⟨0⟩ refundId)

def rejectAndRevoke : List Contender := [.reject "usr_ops" "not justified",.revoke "usr_ops" "fraud"]

/-- A rejection and a revocation one after the other. -/
theorem rejection_then_revocation :
    Always (turn InMemoryApprovalRepository.server) (OneDecision rejectAndRevoke)
        (contend id acme refundId rejectAndRevoke pendingRefund) [(0,()),(0,()),(1,()),(1,())] ∧
      Through (turn InMemoryApprovalRepository.server)
        (RevokedForGood acme refundId InMemoryApprovalRepository rejectAndRevoke)
        (contend id acme refundId rejectAndRevoke pendingRefund) [(0,()),(0,()),(1,()),(1,())] :=
  decisions_exclude_each_other id acme refundId InMemoryApprovalRepository rejectAndRevoke pendingRefund
    (by decide +kernel) (by decide +kernel) _ (by decide +kernel)

def refundGrant (approver : String) : Grant where
  approverPrincipalId := approver
  approverTier := 1
  expectedDigest :=
    "\x7b\"action_type\":\"REFUND\",\"cost_usd\":\"100.00\",\"payload\":\x7b\x7d,\"target_entities\":[\"inv_7\"]\x7d"

/-- Two approvers and a revoker who all read the request before anyone writes. -/
def raceOnRefund : List Contender :=
  [.grant (refundGrant "usr_ops") ⟨1⟩,.grant (refundGrant "usr_vp") ⟨1⟩,.revoke "usr_risk" "fraud"]

def raceSchedule : List (Nat × Unit) := [(0,()),(1,()),(2,()),(0,()),(2,()),(1,())]

/-- Both grants succeed, and the second one overwrites the revocation. -/
theorem stale_grant_overwrites_revocation :
    ¬ Always (turn InMemoryApprovalRepository.server) (OneDecision raceOnRefund)
        (contend id acme refundId raceOnRefund pendingRefund) raceSchedule ∧
      ¬ Through (turn InMemoryApprovalRepository.server)
        (RevokedForGood acme refundId InMemoryApprovalRepository raceOnRefund)
        (contend id acme refundId raceOnRefund pendingRefund) raceSchedule := by
  constructor
  · intro always
    have final := always raceSchedule [] rfl
    have both : Finished Contender.decides raceOnRefund (run (turn InMemoryApprovalRepository.server)
          (contend id acme refundId raceOnRefund pendingRefund) raceSchedule) 0 ∧
        Finished Contender.decides raceOnRefund (run (turn InMemoryApprovalRepository.server)
          (contend id acme refundId raceOnRefund pendingRefund) raceSchedule) 1 := by
      simp only [Finished]
      decide +kernel
    have same := final 0 1 both.1 both.2
    cases same
  · intro through
    have last := through (raceSchedule.take 5) (raceSchedule.drop 5) [] (by simp)
    have revoked : Finished Contender.revokes raceOnRefund (run (turn InMemoryApprovalRepository.server)
        (contend id acme refundId raceOnRefund pendingRefund) (raceSchedule.take 5)) 2 := by
      simp only [Finished]
      decide +kernel
    apply last 2 revoked
    decide +kernel

end RevPilot.Approval
