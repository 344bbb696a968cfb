import RevPilot.Approval.Service

/-! The lifecycle of approval requests over sequential runs of the service. Each
operation's program has one inversion lemma, and one relation says what a whole
operation can do to the status of any stored request. -/
namespace RevPilot.Approval
open Library Shared Program Runs

/-- `written` is `record` in another status: the key is the same. -/
structure Rewrites (record : ApprovalRequestRecord) (status : ApprovalStatus)
    (written : ApprovalRequestRecord) : Prop where
  tenant : written.tenantId = record.tenantId
  own : written.approvalId = record.approvalId
  status : written.status = status

namespace ApprovalService
variable (sha256 : String → String)

theorem grantStatusError_none {status : ApprovalStatus} (open_ : grantStatusError status = none) :
    status = .pending := by
  cases status <;> simp [grantStatusError] at open_ ⊢

/-- What `grant_approval` has checked of the record when it approves it. -/
structure GrantAccepted (args : Grant) (now : UtcDateTime) (record : ApprovalRequestRecord) : Prop where
  human : args.isHuman = true
  separate : isRequester record args.approverPrincipalId = false
  waiting : record.status = .pending
  intime : ¬ record.expiryTime ≤ now
  enough : ¬ args.approverTier < record.requiredApprovalTier
  intact : ApprovalDigestHasher.computePayloadDigest sha256 record.actionType record.targetEntityRefs
    record.actionPayload record.estimatedCostUsd = .ok args.expectedDigest
  sealed : record.payloadDigest = args.expectedDigest

def approvedRecord (args : Grant) (now : UtcDateTime) (record : ApprovalRequestRecord) : ApprovalRequestRecord :=
  { record with
    status := .approved
    approverPrincipalId := some args.approverPrincipalId
    approvalTimestamp := some now }

theorem grantRecord_accepted {args : Grant} {now : UtcDateTime} {record : ApprovalRequestRecord}
    (accepted : GrantAccepted sha256 args now record) :
    grantRecord sha256 args now record =
      .await (.update (approvedRecord args now record)) (fun _ => .ret (approvedRecord args now record)) := by
  obtain ⟨human,separate,waiting,intime,enough,intact,own⟩ := accepted
  simp [grantRecord,human,separate,waiting,grantStatusError,intime,enough,intact,own,Prog.call_bind,approvedRecord]

theorem grantRecord_cases (args : Grant) (now : UtcDateTime) (record : ApprovalRequestRecord) :
    (∃ e, grantRecord sha256 args now record = .raise e) ∨
    (record.status = .pending ∧ ∃ e written, Rewrites record .expired written ∧
      grantRecord sha256 args now record = .await (.update written) (fun _ => .raise e)) ∨
    GrantAccepted sha256 args now record := by
  unfold grantRecord
  split
  next agent => exact .inl ⟨_,rfl⟩
  next human =>
    split
    next requester => exact .inl ⟨_,rfl⟩
    next other =>
      split
      next error refused => exact .inl ⟨_,rfl⟩
      next accepted =>
        have waiting := grantStatusError_none accepted
        split
        next late =>
          refine .inr (.inl ⟨waiting,_,_,?_,rfl⟩)
          exact ⟨rfl,rfl,rfl⟩
        next intime =>
          split
          next below => exact .inl ⟨_,rfl⟩
          next enough =>
            cases digest : ApprovalDigestHasher.computePayloadDigest sha256 record.actionType
                record.targetEntityRefs record.actionPayload record.estimatedCostUsd with
            | error e => exact .inl ⟨e,rfl⟩
            | ok current =>
              simp only [Prog.ofExcept_ok,Prog.ret_bind]
              split
              next tampered => exact .inl ⟨_,rfl⟩
              next intact =>
                obtain ⟨expected,sealed⟩ := not_or.mp intact
                have expected := not_not.mp expected
                have sealed := not_not.mp sealed
                exact .inr (.inr ⟨by simpa using human,by simpa using other,waiting,intime,enough,
                  expected ▸ digest,expected ▸ sealed.symm⟩)

theorem approvedRecord_rewrites (args : Grant) (now : UtcDateTime) (record : ApprovalRequestRecord) :
    Rewrites record .approved (approvedRecord args now record) := ⟨rfl,rfl,rfl⟩

theorem rejectRecord_cases (approver reason : String) (record : ApprovalRequestRecord) :
    (∃ e, rejectRecord approver reason record = .raise e) ∨
    (record.status = .pending ∧ ∃ written, Rewrites record .rejected written ∧
      rejectRecord approver reason record = .await (.update written) (fun _ => .ret written)) := by
  unfold rejectRecord
  split
  next decided => exact .inl ⟨_,rfl⟩
  next waiting =>
    refine .inr ⟨not_not.mp waiting,_,?_,rfl⟩
    exact ⟨rfl,rfl,rfl⟩

theorem revokeRecord_cases (reason : String) (record : ApprovalRequestRecord) :
    ((record.status = .executing ∨ record.status = .completed) ∧
      ∃ e, revokeRecord reason record = .raise e) ∨
    (¬ (record.status = .executing ∨ record.status = .completed) ∧ ∃ written,
      Rewrites record .revoked written ∧
      revokeRecord reason record = .await (.update written) (fun _ => .ret written)) := by
  unfold revokeRecord
  split
  next running => exact .inl ⟨running,_,rfl⟩
  next still =>
    refine .inr ⟨still,_,?_,rfl⟩
    exact ⟨rfl,rfl,rfl⟩

theorem successor_fields {tenantId : TenantId} {original record : ApprovalRequestRecord} {args : Amend}
    {now : UtcDateTime} {newId : UUIDv7}
    (built : successor sha256 tenantId original args now newId = .ok record) :
    record.tenantId = tenantId ∧ record.approvalId = newId ∧ record.status = .pending ∧
      record.requesterPrincipalId = none := by
  unfold successor at built
  simp only [bind,Except.bind] at built
  repeat' split at built
  all_goals first
    | cases built; exact ⟨rfl,rfl,rfl,rfl⟩
    | cases built

theorem amendRecord_cases (tenantId : TenantId) (args : Amend) (now : UtcDateTime) (newId : UUIDv7)
    (original : ApprovalRequestRecord) :
    ((original.status = .executing ∨ original.status = .completed ∨ original.status = .superseded) ∧
      ∃ e, amendRecord sha256 tenantId args now newId original = .raise e) ∨
    (¬ (original.status = .executing ∨ original.status = .completed ∨ original.status = .superseded) ∧
      ∃ written rest, Rewrites original .superseded written ∧
      amendRecord sha256 tenantId args now newId original = .await (.update written) (fun _ => rest) ∧
      ((∃ e, rest = .raise e) ∨
        ∃ fresh, fresh.tenantId = tenantId ∧ fresh.approvalId = newId ∧ fresh.status = .pending ∧
          fresh.requesterPrincipalId = none ∧ rest = .await (.save fresh) (fun _ => .ret (written,fresh)))) := by
  unfold amendRecord
  split
  next closed => exact .inl ⟨closed,_,rfl⟩
  next still =>
    refine .inr ⟨still,_,_,?_,rfl,?_⟩
    · exact ⟨rfl,rfl,rfl⟩
    cases built : successor sha256 tenantId original args now newId with
    | error e => exact .inl ⟨e,rfl⟩
    | ok fresh =>
      obtain ⟨tenant,own,status,anonymous⟩ := successor_fields sha256 built
      exact .inr ⟨fresh,tenant,own,status,anonymous,rfl⟩

theorem createRequest_cases (args : CreateRequest) (now : UtcDateTime) (approvalId : UUIDv7) :
    (∃ e, createRequest sha256 args now approvalId = .raise e) ∨
    ∃ fresh, fresh.tenantId = args.tenantId ∧ fresh.approvalId = approvalId ∧ fresh.status = .pending ∧
      fresh.requesterPrincipalId = none ∧
      createRequest sha256 args now approvalId = .await (.save fresh) (fun _ => .ret fresh) := by
  unfold createRequest
  split
  next => exact .inl ⟨_,rfl⟩
  split
  next => exact .inl ⟨_,rfl⟩
  cases tier : computeRequiredTier args.riskTier args.estimatedCostUsd with
  | error e => exact .inl ⟨e,rfl⟩
  | ok requiredTier =>
  cases payload : ApprovalDigestHasher.computePayloadDigest sha256 args.actionType
      args.targetEntityRefs args.actionPayload args.estimatedCostUsd with
  | error e => exact .inl ⟨e,rfl⟩
  | ok payloadDigest =>
  cases policy : ApprovalDigestHasher.computePolicyDigest sha256 args.policyRules with
  | error e => exact .inl ⟨e,rfl⟩
  | ok policyDigest =>
  cases expiry : expiryAfter now args.ttlHours with
  | error e => exact .inl ⟨e,rfl⟩
  | ok expiryTime =>
  simp only [Prog.ofExcept_ok,Prog.ret_bind]
  split
  next bounds =>
    refine .inr ⟨_,?_,?_,?_,?_,rfl⟩
    · rfl
    · rfl
    · rfl
    · rfl
  next refused => exact .inl ⟨_,rfl⟩

end ApprovalService

/-- One call of the service, with the clock reading and the identifier it generates. -/
inductive ApprovalOperation : Type
  | create (args : CreateRequest) (now : UtcDateTime) (approvalId : UUIDv7)
  | grant (tenantId : TenantId) (approvalId : UUIDv7) (args : ApprovalService.Grant) (clock : UtcDateTime)
  | reject (tenantId : TenantId) (approvalId : UUIDv7) (approverPrincipalId rejectionReason : String)
  | revoke (tenantId : TenantId) (approvalId : UUIDv7) (revokerPrincipalId revocationReason : String)
  | amend (tenantId : TenantId) (approvalId : UUIDv7) (args : ApprovalService.Amend) (now : UtcDateTime)
      (newId : UUIDv7)
  | expire (tenantId : TenantId) (currentTime : UtcDateTime)

namespace ApprovalOperation
open ApprovalService
variable (sha256 : String → String)

/-- The program of an operation; its result is dropped. -/
def program : ApprovalOperation → ApprovalProg Unit
  | .create args now approvalId => do let _ ← createRequest sha256 args now approvalId
  | .grant t a args clock => do let _ ← grantApproval sha256 t a args clock
  | .reject t a approver reason => do let _ ← rejectRequest t a approver reason
  | .revoke t a revoker reason => do let _ ← revokeApproval t a revoker reason
  | .amend t a args now newId => do let _ ← amendRequest sha256 t a args now newId
  | .expire t currentTime => do let _ ← expireStaleRequests t currentTime

/-- The identifier an operation generates. -/
def generated : ApprovalOperation → Option UUIDv7
  | .create _ _ approvalId => some approvalId
  | .amend _ _ _ _ newId => some newId
  | _ => none

variable {S : Type} (repo : ApprovalRepository S)

/-- One operation of a sequential run. -/
def step (s : S) (op : ApprovalOperation) : S := ((op.program sha256).exec repo.serve s).2

/-- What one operation can do to the status of one request. -/
inductive Moves (op : ApprovalOperation) (t : TenantId) (a : UUIDv7) :
    Option ApprovalStatus → Option ApprovalStatus → Prop
  | same (status) : Moves op t a status status
  | created : op.generated = some a → Moves op t a none (some .pending)
  | decided (status) : Moves op t a (some .pending) (some status)
  | revoked (status) (revoker reason) : op = .revoke t a revoker reason → status ≠ .completed →
      Moves op t a (some status) (some .revoked)
  | superseded (status) (args now newId) : op = .amend t a args now newId → status ≠ .completed →
      Moves op t a (some status) (some .superseded)

/-- What one operation can do to one stored request. -/
inductive Rewritten (op : ApprovalOperation) (t : TenantId) (a : UUIDv7) :
    Option ApprovalRequestRecord → Option ApprovalRequestRecord → Prop
  | kept (record) : Rewritten op t a record record
  | created (fresh) : op.generated = some a → fresh.status = .pending → fresh.requesterPrincipalId = none →
      Rewritten op t a none (some fresh)
  | approved (record args clock) : op = .grant t a args clock →
      GrantAccepted sha256 args (args.currentTime.getD clock) record →
      Rewritten op t a (some record) (some (approvedRecord args (args.currentTime.getD clock) record))
  | ended (record written status) : record.status = .pending → status = .expired ∨ status = .rejected →
      Rewrites record status written → Rewritten op t a (some record) (some written)
  | revoked (record written revoker reason) : op = .revoke t a revoker reason → record.status ≠ .completed →
      Rewrites record .revoked written → Rewritten op t a (some record) (some written)
  | superseded (record written args now newId) : op = .amend t a args now newId → record.status ≠ .completed →
      Rewrites record .superseded written → Rewritten op t a (some record) (some written)

/-- Every generated identifier is new to the repository. -/
def Fresh (s : S) (op : ApprovalOperation) : Prop :=
  ∀ id, op.generated = some id → ∀ t, repo.get s t id = none

private theorem exec_withRecord {A : Type} (t : TenantId) (a : UUIDv7) (missing : PyError)
    (next : ApprovalRequestRecord → ApprovalProg A) (s : S) :
    ((withRecord t a missing next).exec repo.serve s).2 =
      match repo.get s t a with
      | none => s
      | some record => ((next record).exec repo.serve s).2 := by
  simp only [withRecord,Prog.call_bind,Prog.exec_await,ApprovalRepository.serve]
  cases repo.get s t a <;> rfl

private theorem get_rewrite {s : S} {t₀ : TenantId} {a₀ : UUIDv7} {record written : ApprovalRequestRecord}
    {status : ApprovalStatus} (found : repo.get s t₀ a₀ = some record)
    (rewrites : Rewrites record status written) (t : TenantId) (a : UUIDv7) :
    repo.get (repo.update s written) t a = if t = t₀ ∧ a = a₀ then some written else repo.get s t a := by
  obtain ⟨tenant,own⟩ := repo.get_keyed found
  have key : written.tenantId = t₀ ∧ written.approvalId = a₀ :=
    ⟨rewrites.tenant.trans tenant,rewrites.own.trans own⟩
  obtain ⟨rfl,rfl⟩ := key
  split
  next own =>
    obtain ⟨rfl,rfl⟩ := own
    exact repo.get_update_self s written (by simp [found])
  next other => exact repo.get_update_other s written t a other

private theorem statusOf_rewrite {s : S} {t₀ : TenantId} {a₀ : UUIDv7} {record written : ApprovalRequestRecord}
    {status : ApprovalStatus} (found : repo.get s t₀ a₀ = some record)
    (rewrites : Rewrites record status written) (t : TenantId) (a : UUIDv7) :
    repo.statusOf (repo.update s written) t a =
      if t = t₀ ∧ a = a₀ then some status else repo.statusOf s t a := by
  rw [ApprovalRepository.statusOf,get_rewrite repo found rewrites]
  split
  next => exact congrArg some rewrites.status
  next => rfl

/-- A rewriting that is allowed at its own key is allowed everywhere. -/
private theorem rewritten_update {op : ApprovalOperation} {s : S} {t₀ : TenantId} {a₀ : UUIDv7}
    {record written : ApprovalRequestRecord} {status : ApprovalStatus}
    (found : repo.get s t₀ a₀ = some record) (rewrites : Rewrites record status written)
    (allowed : Rewritten sha256 op t₀ a₀ (some record) (some written)) (t : TenantId) (a : UUIDv7) :
    Rewritten sha256 op t a (repo.get s t a) (repo.get (repo.update s written) t a) := by
  rw [get_rewrite repo found rewrites]
  split
  next own =>
    obtain ⟨rfl,rfl⟩ := own
    rwa [found]
  next other => exact .kept _

private theorem rewritten_save {op : ApprovalOperation} {s : S} {fresh : ApprovalRequestRecord}
    (generated : op.generated = some fresh.approvalId) (waiting : fresh.status = .pending)
    (anonymous : fresh.requesterPrincipalId = none)
    (absent : repo.get s fresh.tenantId fresh.approvalId = none) (t : TenantId) (a : UUIDv7) :
    Rewritten sha256 op t a (repo.get s t a) (repo.get (repo.save s fresh) t a) := by
  by_cases own : t = fresh.tenantId ∧ a = fresh.approvalId
  · obtain ⟨rfl,rfl⟩ := own
    rw [absent,repo.get_save_self s fresh absent]
    exact .created fresh generated waiting anonymous
  · rw [repo.get_save_other s fresh t a own]
    exact .kept _

private theorem rewritten_grant (args : Grant) (clock : UtcDateTime) (t₀ : TenantId) (a₀ : UUIDv7) (s : S)
    (t : TenantId) (a : UUIDv7) :
    Rewritten sha256 (.grant t₀ a₀ args clock) t a (repo.get s t a)
      (repo.get (step sha256 repo s (.grant t₀ a₀ args clock)) t a) := by
  simp only [step,program,Prog.pure_eq,Prog.exec_discard,grantApproval,exec_withRecord]
  cases found : repo.get s t₀ a₀ with
  | none => exact .kept _
  | some record =>
    dsimp only
    rcases grantRecord_cases sha256 args (args.currentTime.getD clock) record with
      ⟨e,run⟩ | ⟨waiting,e,written,rewrites,run⟩ | accepted
    · rw [run]
      exact .kept _
    · rw [run]
      exact rewritten_update sha256 repo found rewrites (.ended _ _ _ waiting (.inl rfl) rewrites) t a
    · rw [grantRecord_accepted sha256 accepted]
      exact rewritten_update sha256 repo found (approvedRecord_rewrites _ _ _) (.approved _ _ _ rfl accepted) t a

private theorem rewritten_reject (t₀ : TenantId) (a₀ : UUIDv7) (approver reason : String) (s : S)
    (t : TenantId) (a : UUIDv7) :
    Rewritten sha256 (.reject t₀ a₀ approver reason) t a (repo.get s t a)
      (repo.get (step sha256 repo s (.reject t₀ a₀ approver reason)) t a) := by
  simp only [step,program,Prog.pure_eq,Prog.exec_discard,rejectRequest,exec_withRecord]
  cases found : repo.get s t₀ a₀ with
  | none => exact .kept _
  | some record =>
    dsimp only
    rcases rejectRecord_cases approver reason record with ⟨e,run⟩ | ⟨waiting,written,rewrites,run⟩
    · rw [run]
      exact .kept _
    · rw [run]
      exact rewritten_update sha256 repo found rewrites (.ended _ _ _ waiting (.inr rfl) rewrites) t a

private theorem rewritten_revoke (t₀ : TenantId) (a₀ : UUIDv7) (revoker reason : String) (s : S)
    (t : TenantId) (a : UUIDv7) :
    Rewritten sha256 (.revoke t₀ a₀ revoker reason) t a (repo.get s t a)
      (repo.get (step sha256 repo s (.revoke t₀ a₀ revoker reason)) t a) := by
  simp only [step,program,Prog.pure_eq,Prog.exec_discard,revokeApproval,exec_withRecord]
  cases found : repo.get s t₀ a₀ with
  | none => exact .kept _
  | some record =>
    dsimp only
    rcases revokeRecord_cases reason record with ⟨running,e,run⟩ | ⟨still,written,rewrites,run⟩
    · rw [run]
      exact .kept _
    · have allowed : Rewritten sha256 (.revoke t₀ a₀ revoker reason) t₀ a₀ (some record) (some written) :=
        .revoked _ _ _ _ rfl (fun done => still (.inr done)) rewrites
      rw [run]
      exact rewritten_update sha256 repo found rewrites allowed t a

private theorem rewritten_amend (args : Amend) (now : UtcDateTime) (newId : UUIDv7) (t₀ : TenantId)
    (a₀ : UUIDv7) (s : S) (unused : ∀ t, repo.get s t newId = none) (t : TenantId) (a : UUIDv7) :
    Rewritten sha256 (.amend t₀ a₀ args now newId) t a (repo.get s t a)
      (repo.get (step sha256 repo s (.amend t₀ a₀ args now newId)) t a) := by
  simp only [step,program,Prog.pure_eq,Prog.exec_discard,amendRequest,exec_withRecord]
  cases found : repo.get s t₀ a₀ with
  | none => exact .kept _
  | some record =>
    dsimp only
    rcases amendRecord_cases sha256 t₀ args now newId record with
      ⟨closed,e,run⟩ | ⟨still,written,rest,rewrites,run,outcome⟩
    · rw [run]
      exact .kept _
    · have allowed : Rewritten sha256 (.amend t₀ a₀ args now newId) t₀ a₀ (some record) (some written) :=
        .superseded _ _ _ _ _ rfl (fun done => still (.inr (.inl done))) rewrites
      have superseding := rewritten_update sha256 repo found rewrites allowed
      rw [run]
      simp only [Prog.exec_await,ApprovalRepository.serve]
      rcases outcome with ⟨e,rfl⟩ | ⟨fresh,tenant,rfl,waiting,anonymous,rfl⟩
      · exact superseding t a
      · simp only [Prog.exec_await,Prog.exec_ret,ApprovalRepository.serve]
        have elsewhere (t' : TenantId) : ¬ (t' = t₀ ∧ fresh.approvalId = a₀) := by
          rintro ⟨_,rfl⟩
          simp [unused] at found
        have absent (t' : TenantId) : repo.get (repo.update s written) t' fresh.approvalId = none := by
          rw [get_rewrite repo found rewrites,if_neg (elsewhere t'),unused t']
        by_cases own : t = fresh.tenantId ∧ a = fresh.approvalId
        · obtain ⟨rfl,rfl⟩ := own
          rw [unused,repo.get_save_self _ fresh (absent _)]
          exact .created fresh rfl waiting anonymous
        · rw [repo.get_save_other _ fresh t a own]
          exact superseding t a

private theorem rewritten_create (args : CreateRequest) (now : UtcDateTime) (approvalId : UUIDv7) (s : S)
    (unused : ∀ t, repo.get s t approvalId = none) (t : TenantId) (a : UUIDv7) :
    Rewritten sha256 (.create args now approvalId) t a (repo.get s t a)
      (repo.get (step sha256 repo s (.create args now approvalId)) t a) := by
  simp only [step,program,Prog.pure_eq,Prog.exec_discard]
  rcases createRequest_cases sha256 args now approvalId with ⟨e,run⟩ | ⟨fresh,tenant,rfl,waiting,anonymous,run⟩
  · rw [run]
    exact .kept _
  · rw [run]
    exact rewritten_save sha256 repo rfl waiting anonymous (unused fresh.tenantId) t a

/-- The expiry loop turns some pending requests of its list to expired ones. -/
private theorem expireEach_get (currentTime : UtcDateTime) (t₀ : TenantId)
    (records : List ApprovalRequestRecord) (distinct : (records.map (·.approvalId)).Nodup) (s : S)
    (listed : ∀ r ∈ records, repo.get s t₀ r.approvalId = some r ∧ r.status = .pending)
    (t : TenantId) (a : UUIDv7) :
    repo.get ((expireEach currentTime records).exec repo.serve s).2 t a = repo.get s t a ∨
      ∃ record written, repo.get s t a = some record ∧ record.status = .pending ∧
        Rewrites record .expired written ∧
        repo.get ((expireEach currentTime records).exec repo.serve s).2 t a = some written := by
  induction records generalizing s with
  | nil => exact .inl rfl
  | cons record rest ih =>
    obtain ⟨apart,others⟩ := List.nodup_cons.mp (show (record.approvalId :: rest.map _).Nodup from distinct)
    obtain ⟨stored,waiting⟩ := listed record List.mem_cons_self
    unfold expireEach
    split
    next late =>
      let written : ApprovalRequestRecord := { record with status := .expired }
      have rewrites : Rewrites record .expired written := ⟨rfl,rfl,rfl⟩
      have first := get_rewrite repo stored rewrites
      have kept : ∀ r ∈ rest, repo.get (repo.update s written) t₀ r.approvalId = some r ∧ r.status = .pending := by
        intro r inside
        have different : ¬ (t₀ = t₀ ∧ r.approvalId = record.approvalId) := by
          rintro ⟨_,same⟩
          exact apart (List.mem_map.mpr ⟨r,inside,same⟩)
        rw [first,if_neg different]
        exact listed r (List.mem_cons_of_mem _ inside)
      have after := ih others (repo.update s written) kept
      simp only [Prog.call_bind,Prog.exec_await,ApprovalRepository.serve,Prog.pure_eq]
      have result : (((expireEach currentTime rest) >>= fun n => Prog.ret (n + 1)).exec repo.serve
          (repo.update s written)).2 = ((expireEach currentTime rest).exec repo.serve (repo.update s written)).2 := by
        rw [Prog.exec_bind]
        rcases (expireEach currentTime rest).exec repo.serve (repo.update s written) with ⟨outcome,final⟩
        cases outcome <;> rfl
      rw [result]
      by_cases own : t = t₀ ∧ a = record.approvalId
      · rw [first,if_pos own] at after
        obtain ⟨rfl,rfl⟩ := own
        rcases after with same | ⟨_,_,again,pending,_⟩
        · exact .inr ⟨record,written,stored,waiting,rewrites,same⟩
        · cases again
          cases pending
      · rwa [first,if_neg own] at after
    next intime =>
      exact ih others s (fun r inside => listed r (List.mem_cons_of_mem _ inside))

private theorem rewritten_expire (t₀ : TenantId) (currentTime : UtcDateTime) (s : S) (t : TenantId) (a : UUIDv7) :
    Rewritten sha256 (.expire t₀ currentTime) t a (repo.get s t a)
      (repo.get (step sha256 repo s (.expire t₀ currentTime)) t a) := by
  simp only [step,program,Prog.pure_eq,Prog.exec_discard,expireStaleRequests,Prog.call_bind,
    Prog.exec_await,ApprovalRepository.serve]
  have listed : ∀ r ∈ repo.listPending s t₀, repo.get s t₀ r.approvalId = some r ∧ r.status = .pending :=
    fun r inside => (repo.mem_listPending s t₀ r).mp inside
  rcases expireEach_get repo currentTime t₀ _ (repo.listPending_nodup s t₀) s listed t a with
    same | ⟨record,written,before,waiting,rewrites,after⟩
  · rw [same]
    exact .kept _
  · rw [before,after]
    exact .ended _ _ _ waiting (.inl rfl) rewrites

/-- One operation rewrites every stored request along `Rewritten` only. -/
theorem step_rewritten {s : S} {op : ApprovalOperation} (fresh : Fresh repo s op) (t : TenantId) (a : UUIDv7) :
    Rewritten sha256 op t a (repo.get s t a) (repo.get (step sha256 repo s op) t a) := by
  cases op with
  | create args now approvalId => exact rewritten_create sha256 repo args now approvalId s (fresh _ rfl) t a
  | grant t₀ a₀ args clock => exact rewritten_grant sha256 repo args clock t₀ a₀ s t a
  | reject t₀ a₀ approver reason => exact rewritten_reject sha256 repo t₀ a₀ approver reason s t a
  | revoke t₀ a₀ revoker reason => exact rewritten_revoke sha256 repo t₀ a₀ revoker reason s t a
  | amend t₀ a₀ args now newId => exact rewritten_amend sha256 repo args now newId t₀ a₀ s (fresh _ rfl) t a
  | expire t₀ currentTime => exact rewritten_expire sha256 repo t₀ currentTime s t a

/-- One operation moves the status of every request along `Moves` only. -/
theorem step_moves {s : S} {op : ApprovalOperation} (fresh : Fresh repo s op) (t : TenantId) (a : UUIDv7) :
    Moves op t a (repo.statusOf s t a) (repo.statusOf (step sha256 repo s op) t a) := by
  have rewritten := step_rewritten sha256 repo fresh t a
  simp only [ApprovalRepository.statusOf]
  generalize repo.get (step sha256 repo s op) t a = after at rewritten
  generalize repo.get s t a = before at rewritten
  cases rewritten with
  | kept => exact .same _
  | created record generated waiting anonymous =>
    rw [Option.map_some,waiting]
    exact .created generated
  | approved record args clock is_grant accepted =>
    rw [Option.map_some,accepted.waiting]
    exact .decided _
  | ended record written status waiting closed rewrites =>
    rw [Option.map_some,waiting]
    exact .decided _
  | revoked record written revoker reason is_revoke still rewrites =>
    rw [Option.map_some,Option.map_some,rewrites.status]
    exact .revoked _ revoker reason is_revoke still
  | superseded record written args now newId is_amend still rewrites =>
    rw [Option.map_some,Option.map_some,rewrites.status]
    exact .superseded _ args now newId is_amend still

theorem grant_get {s : S} {t : TenantId} {a : UUIDv7} {record : ApprovalRequestRecord} {args : Grant}
    {clock : UtcDateTime} (found : repo.get s t a = some record)
    (accepted : GrantAccepted sha256 args (args.currentTime.getD clock) record) :
    repo.get (step sha256 repo s (.grant t a args clock)) t a =
      some (approvedRecord args (args.currentTime.getD clock) record) := by
  simp only [step,program,Prog.pure_eq,Prog.exec_discard,grantApproval,exec_withRecord,found]
  rw [grantRecord_accepted sha256 accepted]
  simp only [Prog.exec_await,Prog.exec_ret,ApprovalRepository.serve]
  rw [get_rewrite repo found (approvedRecord_rewrites _ _ _),if_pos ⟨rfl,rfl⟩]

/-- A revocation that is not refused ends in REVOKED, whatever the status was. -/
theorem revoke_status {s : S} {t : TenantId} {a : UUIDv7} {status : ApprovalStatus} (revoker reason : String)
    (before : repo.statusOf s t a = some status) (still : ¬ (status = .executing ∨ status = .completed)) :
    repo.statusOf (step sha256 repo s (.revoke t a revoker reason)) t a = some .revoked := by
  obtain ⟨record,found,rfl⟩ := Option.map_eq_some_iff.mp before
  simp only [step,program,Prog.pure_eq,Prog.exec_discard,revokeApproval,exec_withRecord,found]
  rcases revokeRecord_cases reason record with ⟨running,_⟩ | ⟨_,written,rewrites,run⟩
  · exact absurd running still
  · rw [run]
    simp only [Prog.exec_await,Prog.exec_ret,ApprovalRepository.serve]
    simp [statusOf_rewrite repo found rewrites]

/-- An amendment that is not refused supersedes the original, even when the new
request turns out to be malformed. -/
theorem amend_status {s : S} {t : TenantId} {a : UUIDv7} {status : ApprovalStatus} (args : Amend)
    (now : UtcDateTime) (newId : UUIDv7) (unused : ∀ t, repo.get s t newId = none)
    (before : repo.statusOf s t a = some status)
    (still : ¬ (status = .executing ∨ status = .completed ∨ status = .superseded)) :
    repo.statusOf (step sha256 repo s (.amend t a args now newId)) t a = some .superseded := by
  obtain ⟨record,found,rfl⟩ := Option.map_eq_some_iff.mp before
  simp only [step,program,Prog.pure_eq,Prog.exec_discard,amendRequest,exec_withRecord,found]
  rcases amendRecord_cases sha256 t args now newId record with
    ⟨closed,_⟩ | ⟨_,written,rest,rewrites,run,outcome⟩
  · exact absurd closed still
  · rw [run]
    simp only [Prog.exec_await,ApprovalRepository.serve]
    have superseded : repo.statusOf (repo.update s written) t a = some .superseded := by
      simp [statusOf_rewrite repo found rewrites]
    rcases outcome with ⟨e,rfl⟩ | ⟨fresh,tenant,rfl,waiting,anonymous,rfl⟩
    · exact superseded
    · simp only [Prog.exec_await,Prog.exec_ret,ApprovalRepository.serve]
      have other : ¬ (t = fresh.tenantId ∧ a = fresh.approvalId) := by
        rintro ⟨_,rfl⟩
        rw [unused t] at found
        cases found
      rw [ApprovalRepository.statusOf,repo.get_save_other _ fresh t a other]
      exact superseded

/-- Every request in a terminal status has it still. -/
def Kept (s s' : S) : Prop :=
  ∀ t a status, repo.statusOf s t a = some status → status.terminal = true → repo.statusOf s' t a = some status

/-- The operation is no revocation of a rejected, expired or superseded request
and no amendment of a rejected, revoked or expired one. -/
def Respects (s : S) : ApprovalOperation → Prop
  | .revoke t a _ _ => repo.statusOf s t a ∉ [some .rejected,some .expired,some .superseded]
  | .amend t a _ _ _ => repo.statusOf s t a ∉ [some .rejected,some .revoked,some .expired]
  | _ => True

instance (s : S) : (op : ApprovalOperation) → Decidable (Respects repo s op)
  | .revoke t a _ _ => inferInstanceAs (Decidable (repo.statusOf s t a ∉ [_,_,_]))
  | .amend t a _ _ _ => inferInstanceAs (Decidable (repo.statusOf s t a ∉ [_,_,_]))
  | .create .. | .grant .. | .reject .. | .expire .. => .isTrue trivial

theorem kept_refl (s : S) : Kept repo s s := fun _ _ _ before _ => before

theorem kept_trans (s s' s'' : S) (first : Kept repo s s') (second : Kept repo s' s'') : Kept repo s s'' :=
  fun t a status before ended => second t a status (first t a status before ended) ended

/-- One operation keeps the terminal statuses exactly when it respects them. -/
theorem step_kept_iff {s : S} {op : ApprovalOperation} (fresh : Fresh repo s op) :
    Kept repo s (step sha256 repo s op) ↔ Respects repo s op := by
  constructor
  · intro kept
    cases op with
    | revoke t a revoker reason =>
      intro ended
      simp only [List.mem_cons,List.not_mem_nil,or_false] at ended
      rcases ended with before | before | before
      all_goals
        have after := kept t a _ before rfl
        rw [revoke_status sha256 repo revoker reason before (by decide)] at after
        cases after
    | amend t a args now newId =>
      intro ended
      simp only [List.mem_cons,List.not_mem_nil,or_false] at ended
      rcases ended with before | before | before
      all_goals
        have after := kept t a _ before rfl
        rw [amend_status sha256 repo args now newId (fresh _ rfl) before (by decide)] at after
        cases after
    | _ => trivial
  · intro respects t a status before ended
    have moves := step_moves sha256 repo fresh t a
    rw [before] at moves
    generalize repo.statusOf (step sha256 repo s op) t a = after at moves
    cases moves with
    | same => rfl
    | decided => cases ended
    | revoked _ revoker reason is_revoke open_ =>
      subst is_revoke
      simp only [Respects,before] at respects
      cases status <;> simp [ApprovalStatus.terminal] at ended respects open_ ⊢
    | superseded _ args now newId is_amend open_ =>
      subst is_amend
      simp only [Respects,before] at respects
      cases status <;> simp [ApprovalStatus.terminal] at ended respects open_ ⊢

/-- A request is stored only under an identifier that some operation generated. -/
theorem stored_step {s : S} {op : ApprovalOperation} (fresh : Fresh repo s op) {t : TenantId} {a : UUIDv7}
    (present : repo.get (step sha256 repo s op) t a ≠ none) :
    repo.get s t a ≠ none ∨ op.generated = some a := by
  rw [← repo.statusOf_ne_none] at present ⊢
  have moves := step_moves sha256 repo fresh t a
  generalize repo.statusOf (step sha256 repo s op) t a = after at moves present
  generalize repo.statusOf s t a = before at moves
  cases moves with
  | same => exact .inl present
  | created generated => exact .inr generated
  | decided => exact .inl (by simp)
  | revoked => exact .inl (by simp)
  | superseded => exact .inl (by simp)

/-- Identifiers that are generated once, and not stored before, are new when they are used. -/
theorem fresh_run (s : S) (ops : List ApprovalOperation) (distinct : (ops.filterMap generated).Nodup)
    (unused : ∀ a ∈ ops.filterMap generated, ∀ t, repo.get s t a = none) :
    Along (step sha256 repo) (Fresh repo) s ops := by
  have fresh := @fresh_along _ _ (step sha256 repo) _ generated
    (fun s a => ∃ t, repo.get s t a ≠ none) ?_ s ops distinct ?_
  · apply along_mono _ _ fresh
    intro s op unused id made t
    by_contra present
    exact unused id made ⟨t,present⟩
  · rintro s op unused a ⟨t,present⟩
    have new : Fresh repo s op := by
      intro id made t'
      by_contra stored
      exact unused id made ⟨t',stored⟩
    rcases stored_step sha256 repo new present with before | made
    · exact .inl ⟨t,before⟩
    · exact .inr made
  · rintro a inside ⟨t,present⟩
    exact present (unused a inside t)

/-- In a sequential run from the empty repository, with generated identifiers
that never repeat, terminal statuses are kept throughout exactly when no
operation revokes or amends a request in one of them. -/
theorem terminal_kept_iff (ops : List ApprovalOperation) (distinct : (ops.filterMap generated).Nodup) :
    Through (step sha256 repo) (Kept repo) repo.empty ops ↔
      Along (step sha256 repo) (Respects repo) repo.empty ops := by
  rw [through_iff_along (step sha256 repo) (kept_refl repo) (kept_trans repo)]
  apply along_congr (step sha256 repo) (I := fun _ => True) (F := Fresh repo)
  · intro s op _ _
    trivial
  · intro s op _ fresh
    exact step_kept_iff sha256 repo fresh
  · trivial
  · exact fresh_run sha256 repo repo.empty ops distinct (fun a _ t => repo.get_empty t a)

end ApprovalOperation

section samples
open ApprovalOperation

def acme : TenantId := ⟨"tnt_acme",Eq.refl true⟩

def refund : CreateRequest where
  tenantId := acme
  decisionId := ⟨"01890a5d-ac96-774b-bcce-b302099a8050"⟩
  actionType := "REFUND"
  targetCustomerId := "cus_42"
  targetEntityRefs := ["inv_7"]
  actionPayload := .empty
  estimatedCostUsd := .ofCents 10000

def refundId : UUIDv7 := ⟨"01890a5d-ac96-774b-bcce-b302099a8057"⟩

/-- A revoked request stays revoked when a rejection is tried afterwards. -/
theorem revoked_then_rejected_kept :
    Through (step id InMemoryApprovalRepository) (Kept InMemoryApprovalRepository)
      InMemoryApprovalRepository.empty
      [.create refund ⟨0⟩ refundId,.revoke acme refundId "usr_ops" "fraud",
        .reject acme refundId "usr_ops" "not justified"] :=
  (terminal_kept_iff id InMemoryApprovalRepository _ (by decide)).mpr (by decide +kernel)

def rejectedThenRevoked : List ApprovalOperation :=
  [.create refund ⟨0⟩ refundId,.reject acme refundId "usr_ops" "not justified",
    .revoke acme refundId "usr_ops" "second thoughts"]

/-- A rejected request becomes REVOKED. -/
theorem rejected_request_revoked :
    ¬ Through (step id InMemoryApprovalRepository) (Kept InMemoryApprovalRepository)
      InMemoryApprovalRepository.empty rejectedThenRevoked := by
  intro kept
  have ended : InMemoryApprovalRepository.statusOf (run (step id InMemoryApprovalRepository)
      InMemoryApprovalRepository.empty (rejectedThenRevoked.take 2)) acme refundId = some .rejected := by
    decide +kernel
  have after := kept (rejectedThenRevoked.take 2) (rejectedThenRevoked.drop 2) [] (by simp)
    acme refundId .rejected ended rfl
  have changed : InMemoryApprovalRepository.statusOf (run (step id InMemoryApprovalRepository)
      InMemoryApprovalRepository.empty (rejectedThenRevoked.take 2 ++ rejectedThenRevoked.drop 2))
      acme refundId = some .revoked := by
    decide +kernel
  rw [changed] at after
  cases after

end samples
end RevPilot.Approval
