import RevPilot.Action.Ledger
import RevPilot.Library.Runs

/-! Attempts at an intent, started and completed concurrently. The journal of an
intent is watched through its attempt numbers, the intent through its status. -/
namespace RevPilot.Action
open Library Shared Program Runs ActionLedgerService

inductive AttemptOperation : Type
  | start (args : AttemptStart) (ledgerId : UUIDv7) (now : UtcDateTime)
  | complete (args : AttemptCompletion) (now : UtcDateTime)

namespace AttemptOperation

def program : AttemptOperation → ActionProg Unit
  | .start args ledgerId now => do let _ ← recordAttemptStart args ledgerId now
  | .complete args now => do let _ ← recordAttemptCompletion args now

/-- The identifier of the journal entry an operation opens. -/
def generated : AttemptOperation → Option UUIDv7
  | .start _ ledgerId _ => some ledgerId
  | .complete .. => none

end AttemptOperation

section journal
variable {SL : Type} (ledgerRepo : ActionLedgerRepository SL)

/-- The attempt numbers recorded for an intent. -/
def attemptNumbers (s : SL) (t : TenantId) (i : UUIDv7) : List Nat :=
  (ledgerRepo.listByIntent s t i).map (·.attemptNumber)

/-- The numbers recorded are exactly `1..n`, each once. -/
def InOrder (numbers : List Nat) : Prop := numbers.Perm (List.range' 1 numbers.length)

instance (numbers : List Nat) : Decidable (InOrder numbers) := inferInstanceAs (Decidable (List.Perm _ _))

theorem inOrder_perm {left right : List Nat} (same : left.Perm right) : InOrder left ↔ InOrder right := by
  unfold InOrder
  rw [same.length_eq]
  exact ⟨same.symm.trans,same.trans⟩

theorem inOrder_cons {numbers : List Nat} (ordered : InOrder numbers) (n : Nat) :
    InOrder (n :: numbers) ↔ n = numbers.length + 1 := by
  have grown : (List.range' 1 (numbers.length + 1)).Perm ((numbers.length + 1) :: numbers) := by
    rw [List.range'_1_concat,Nat.add_comm 1]
    exact (List.perm_append_singleton _ _).trans (ordered.symm.cons _)
  unfold InOrder
  rw [List.length_cons]
  constructor
  · intro permuted
    have sums := (permuted.trans grown).sum_eq
    simp only [List.sum_cons] at sums
    omega
  · rintro rfl
    exact grown.symm

/-- The entry of this record is in the journal, under the same intent and number. -/
def Journalled (s : SL) (r : ActionLedgerRecord) : Prop :=
  ∃ stored, ledgerRepo.get s r.tenantId r.ledgerId = some stored ∧
    stored.intentId = r.intentId ∧ stored.attemptNumber = r.attemptNumber

/-- The journal entries of an intent, each by its identifier and number. -/
private def entries (s : SL) (t : TenantId) (i : UUIDv7) : List (UUIDv7 × Nat) :=
  (ledgerRepo.listByIntent s t i).map (fun r => (r.ledgerId,r.attemptNumber))

private theorem entries_numbers (s : SL) (t : TenantId) (i : UUIDv7) :
    (entries ledgerRepo s t i).map Prod.snd = attemptNumbers ledgerRepo s t i := by
  simp [entries,attemptNumbers,Function.comp_def]

private theorem entries_nodup (s : SL) (t : TenantId) (i : UUIDv7) : (entries ledgerRepo s t i).Nodup := by
  apply List.Nodup.of_map Prod.fst
  simpa [entries,Function.comp_def] using ledgerRepo.listByIntent_nodup s t i

private theorem mem_entries (s : SL) (t : TenantId) (i l : UUIDv7) (n : Nat) :
    (l,n) ∈ entries ledgerRepo s t i ↔
      ∃ r, ledgerRepo.get s t l = some r ∧ r.intentId = i ∧ r.attemptNumber = n := by
  simp only [entries,List.mem_map,ledgerRepo.mem_listByIntent,Prod.mk.injEq]
  constructor
  · rintro ⟨r,⟨stored,intent⟩,rfl,number⟩
    exact ⟨r,stored,intent,number⟩
  · rintro ⟨r,stored,intent,number⟩
    have own := (ledgerRepo.get_keyed stored).2
    subst own
    exact ⟨r,⟨stored,intent⟩,rfl,number⟩

/-- Entries that stores hold alike make the same list up to order. -/
private theorem entries_perm {s s' : SL} {t : TenantId} {i : UUIDv7}
    (same : ∀ l n, (∃ r, ledgerRepo.get s' t l = some r ∧ r.intentId = i ∧ r.attemptNumber = n) ↔
      ∃ r, ledgerRepo.get s t l = some r ∧ r.intentId = i ∧ r.attemptNumber = n) :
    (attemptNumbers ledgerRepo s' t i).Perm (attemptNumbers ledgerRepo s t i) := by
  rw [← entries_numbers,← entries_numbers]
  apply List.Perm.map
  rw [List.perm_ext_iff_of_nodup (entries_nodup ledgerRepo s' t i) (entries_nodup ledgerRepo s t i)]
  rintro ⟨l,n⟩
  rw [mem_entries,mem_entries]
  exact same l n

/-- A new entry adds its number to those of its own intent. -/
theorem attemptNumbers_save {s : SL} {r : ActionLedgerRecord}
    (absent : ledgerRepo.get s r.tenantId r.ledgerId = none) :
    (attemptNumbers ledgerRepo (ledgerRepo.save s r) r.tenantId r.intentId).Perm
      (r.attemptNumber :: attemptNumbers ledgerRepo s r.tenantId r.intentId) := by
  rw [← entries_numbers,← entries_numbers]
  change (List.map Prod.snd _).Perm
    (((r.ledgerId,r.attemptNumber) :: entries ledgerRepo s r.tenantId r.intentId).map Prod.snd)
  apply List.Perm.map
  have new : (r.ledgerId,r.attemptNumber) ∉ entries ledgerRepo s r.tenantId r.intentId := by
    rw [mem_entries,absent]
    rintro ⟨_,impossible,_⟩
    cases impossible
  rw [List.perm_ext_iff_of_nodup (entries_nodup ledgerRepo _ _ _)
    (List.nodup_cons.mpr ⟨new,entries_nodup ledgerRepo _ _ _⟩)]
  rintro ⟨l,n⟩
  rw [List.mem_cons,mem_entries,mem_entries]
  by_cases own : l = r.ledgerId
  · subst own
    rw [ledgerRepo.get_save_self s r absent,absent]
    simp [eq_comm]
  · rw [ledgerRepo.get_save_other s r _ l (fun both => own both.2)]
    simp [own]

theorem attemptNumbers_save_other {s : SL} {r : ActionLedgerRecord} {t : TenantId} {i : UUIDv7}
    (absent : ledgerRepo.get s r.tenantId r.ledgerId = none) (other : ¬ (r.tenantId = t ∧ r.intentId = i)) :
    (attemptNumbers ledgerRepo (ledgerRepo.save s r) t i).Perm (attemptNumbers ledgerRepo s t i) := by
  apply entries_perm
  intro l n
  by_cases own : t = r.tenantId ∧ l = r.ledgerId
  · obtain ⟨rfl,rfl⟩ := own
    rw [ledgerRepo.get_save_self s r absent,absent]
    constructor
    · rintro ⟨_,⟨rfl⟩,intent,_⟩
      exact absurd ⟨rfl,intent⟩ other
    · rintro ⟨_,impossible,_⟩
      cases impossible
  · rw [ledgerRepo.get_save_other s r t l own]

/-- An update of a journalled entry changes no number. -/
theorem attemptNumbers_update {s : SL} {r : ActionLedgerRecord} (journalled : Journalled ledgerRepo s r)
    (t : TenantId) (i : UUIDv7) :
    (attemptNumbers ledgerRepo (ledgerRepo.update s r) t i).Perm (attemptNumbers ledgerRepo s t i) := by
  obtain ⟨stored,found,intent,number⟩ := journalled
  apply entries_perm
  intro l n
  by_cases own : t = r.tenantId ∧ l = r.ledgerId
  · obtain ⟨rfl,rfl⟩ := own
    rw [ledgerRepo.get_update_self s r (by simp [found]),found]
    simp [intent,number]
  · rw [ledgerRepo.get_update_other s r t l own]

end journal

section concurrent
variable {SI SL : Type} (intentRepo : ActionIntentRepository SI) (ledgerRepo : ActionLedgerRepository SL)

/-- A program that writes nothing to the journal any more. -/
inductive Closing : ActionProg Unit → Prop
  | returned : Closing (.ret ())
  | raised (e) : Closing (.raise e)
  | asking (t i resume) : (∀ reply, Closing (resume reply)) → Closing (.await (.getIntent t i) resume)
  | moving (intent resume) : (∀ reply, Closing (resume reply)) → Closing (.await (.updateIntent intent) resume)

def Unused (ledger : SL) (op : AttemptOperation) : Prop :=
  ∀ id, op.generated = some id → ∀ t, ledgerRepo.get ledger t id = none

/-- What is left of an operation in a given world. -/
inductive AttemptResidue (op : AttemptOperation) (w : ActionWorld SI SL) : ActionProg Unit → Prop
  | opening : Unused ledgerRepo w.ledger op → AttemptResidue op w op.program
  | listing (t i resume) : Unused ledgerRepo w.ledger op →
      (∀ existing, ∃ entry rest, op.generated = some entry.ledgerId ∧ (∀ u, Closing (rest u)) ∧
        resume existing = .await (.saveLedger entry) rest) →
      AttemptResidue op w (.await (.listByIntent t i) resume)
  | saving (entry rest) : Unused ledgerRepo w.ledger op → op.generated = some entry.ledgerId →
      (∀ u, Closing (rest u)) → AttemptResidue op w (.await (.saveLedger entry) rest)
  | journalling (entry rest) : Journalled ledgerRepo w.ledger entry → (∀ u, Closing (rest u)) →
      AttemptResidue op w (.await (.updateLedger entry) rest)
  | closing (prog) : Closing prog → AttemptResidue op w prog

/-- What a call of an operation can do to the journal. -/
inductive JournalMove (op : AttemptOperation) (ledger : SL) (c : ActionCall) (ledger' : SL) : Prop
  | untouched : (∀ intent, c ≠ .saveIntent intent) → (∀ entry, c ≠ .saveLedger entry) → ledger' = ledger →
      JournalMove op ledger c ledger'
  | saved (entry) : c = .saveLedger entry → op.generated = some entry.ledgerId →
      ledgerRepo.get ledger entry.tenantId entry.ledgerId = none → ledger' = ledgerRepo.save ledger entry →
      JournalMove op ledger c ledger'
  | updated (entry) : c = .updateLedger entry → Journalled ledgerRepo ledger entry →
      ledger' = ledgerRepo.update ledger entry → JournalMove op ledger c ledger'

private theorem unused_kept {op op' : AttemptOperation} {ledger ledger' : SL} {c : ActionCall}
    (apart : ∀ id, op.generated = some id → op'.generated ≠ some id)
    (move : JournalMove ledgerRepo op' ledger c ledger') (unused : Unused ledgerRepo ledger op) :
    Unused ledgerRepo ledger' op := by
  intro id made t
  cases move with
  | untouched _ _ same =>
    rw [same]
    exact unused id made t
  | saved entry _ foreign _ written =>
    have other : ¬ (t = entry.tenantId ∧ id = entry.ledgerId) := by
      rintro ⟨_,rfl⟩
      exact apart _ made foreign
    rw [written,ledgerRepo.get_save_other _ _ _ _ other]
    exact unused id made t
  | updated entry _ journalled written =>
    have other : ¬ (t = entry.tenantId ∧ id = entry.ledgerId) := by
      rintro ⟨_,rfl⟩
      obtain ⟨stored,found,_⟩ := journalled
      rw [unused _ made] at found
      cases found
    rw [written,ledgerRepo.get_update_other _ _ _ _ other]
    exact unused id made t

private theorem journalled_kept {op' : AttemptOperation} {ledger ledger' : SL} {c : ActionCall}
    {r : ActionLedgerRecord} (move : JournalMove ledgerRepo op' ledger c ledger')
    (journalled : Journalled ledgerRepo ledger r) : Journalled ledgerRepo ledger' r := by
  obtain ⟨stored,found,intent,number⟩ := journalled
  cases move with
  | untouched _ _ same =>
    rw [same]
    exact ⟨stored,found,intent,number⟩
  | saved entry _ _ absent written =>
    have other : ¬ (r.tenantId = entry.tenantId ∧ r.ledgerId = entry.ledgerId) := by
      rintro ⟨tenant,own⟩
      rw [tenant,own,absent] at found
      cases found
    rw [written]
    exact ⟨stored,(ledgerRepo.get_save_other _ _ _ _ other).trans found,intent,number⟩
  | updated entry _ known written =>
    rw [written]
    by_cases own : r.tenantId = entry.tenantId ∧ r.ledgerId = entry.ledgerId
    · obtain ⟨before,kept,same,numbered⟩ := known
      rw [own.1,own.2,kept] at found
      cases found
      refine ⟨entry,?_,same.symm.trans intent,numbered.symm.trans number⟩
      rw [own.1,own.2]
      exact ledgerRepo.get_update_self _ _ (by simp [kept])
    · exact ⟨stored,(ledgerRepo.get_update_other _ _ _ _ own).trans found,intent,number⟩

/-- Another operation's call leaves what an operation has still to do. -/
theorem attemptResidue_kept {op op' : AttemptOperation} {w w' : ActionWorld SI SL} {c : ActionCall}
    (apart : ∀ id, op.generated = some id → op'.generated ≠ some id)
    (move : JournalMove ledgerRepo op' w.ledger c w'.ledger) {prog : ActionProg Unit}
    (left : AttemptResidue ledgerRepo op w prog) : AttemptResidue ledgerRepo op w' prog := by
  cases left with
  | opening unused => exact .opening (unused_kept ledgerRepo apart move unused)
  | listing t i resume unused rest => exact .listing t i resume (unused_kept ledgerRepo apart move unused) rest
  | saving entry rest unused own closing =>
    exact .saving entry rest (unused_kept ledgerRepo apart move unused) own closing
  | journalling entry rest journalled closing =>
    exact .journalling entry rest (journalled_kept ledgerRepo move journalled) closing
  | closing _ closing => exact .closing _ closing

private theorem start_call (args : AttemptStart) (ledgerId : UUIDv7) (now : UtcDateTime)
    (w : ActionWorld SI SL) (unused : Unused ledgerRepo w.ledger (.start args ledgerId now)) :
    ∃ resume, (AttemptOperation.start args ledgerId now).program =
        .await (.getIntent args.ctx.tenantId args.intentId) resume ∧
      ∀ reply, AttemptResidue ledgerRepo (.start args ledgerId now) w (resume reply) := by
  refine ⟨_,rfl,?_⟩
  intro reply
  cases reply with
  | none => exact .closing _ (.raised _)
  | some intent =>
    refine .listing _ _ _ unused ?_
    intro existing
    refine ⟨startedAttempt args existing.length ledgerId now,_,rfl,?_,rfl⟩
    intro _
    by_cases fresh : intent.status = .initialized
    · simp only [Prog.call_bind,fresh,if_true]
      exact .moving _ _ (fun _ => .returned)
    · simp only [fresh,if_false]
      exact .returned

private theorem complete_call (args : AttemptCompletion) (now : UtcDateTime) (w : ActionWorld SI SL) :
    ∃ resume, (AttemptOperation.complete args now).program =
        .await (.getLedger args.ctx.tenantId args.ledgerId) resume ∧
      AttemptResidue ledgerRepo (.complete args now) w
        (resume (ledgerRepo.get w.ledger args.ctx.tenantId args.ledgerId)) := by
  refine ⟨_,rfl,?_⟩
  cases found : ledgerRepo.get w.ledger args.ctx.tenantId args.ledgerId with
  | none => exact .closing _ (.raised _)
  | some entry =>
    obtain ⟨tenant,own⟩ := ledgerRepo.get_keyed found
    refine .journalling _ _ ⟨entry,?_,rfl,rfl⟩ ?_
    · rw [tenant,own]
      exact found
    · intro _
      refine .asking _ _ _ ?_
      intro reply
      cases reply with
      | none => exact .returned
      | some intent =>
        dsimp only
        split
        next status => exact .moving _ _ (fun _ => .returned)
        next => exact .returned

/-- One call of an operation: what is left after it, and what it did to the journal. -/
theorem attempt_call {op : AttemptOperation} {w : ActionWorld SI SL} {c : ActionCall}
    {resume : c.Reply → ActionProg Unit} (left : AttemptResidue ledgerRepo op w (.await c resume)) :
    AttemptResidue ledgerRepo op (serve intentRepo ledgerRepo c w).2
        (resume (serve intentRepo ledgerRepo c w).1) ∧
      JournalMove ledgerRepo op w.ledger c (serve intentRepo ledgerRepo c w).2.ledger := by
  generalize shape : (Prog.await c resume : ActionProg Unit) = prog at left
  cases left with
  | opening unused =>
    cases op with
    | start args ledgerId now =>
      obtain ⟨next,opens,after⟩ := start_call ledgerRepo args ledgerId now w unused
      rw [opens] at shape
      cases shape
      exact ⟨after _,.untouched (by simp) (by simp) rfl⟩
    | complete args now =>
      obtain ⟨next,opens,after⟩ := complete_call ledgerRepo args now w
      rw [opens] at shape
      cases shape
      exact ⟨after,.untouched (by simp) (by simp) rfl⟩
  | listing t i next unused rest =>
    cases shape
    obtain ⟨entry,final,own,closing,saves⟩ := rest (ledgerRepo.listByIntent w.ledger t i)
    refine ⟨?_,.untouched (by simp) (by simp) rfl⟩
    simp only [serve]
    rw [saves]
    exact .saving entry final unused own closing
  | saving entry rest unused own closing =>
    cases shape
    exact ⟨.closing _ (closing ()),.saved entry rfl own (unused _ own _) rfl⟩
  | journalling entry rest journalled closing =>
    cases shape
    exact ⟨.closing _ (closing ()),.updated entry rfl journalled rfl⟩
  | closing _ closing =>
    subst shape
    cases closing with
    | asking t i _ after => exact ⟨.closing _ (after _),.untouched (by simp) (by simp) rfl⟩
    | moving intent _ after => exact ⟨.closing _ (after _),.untouched (by simp) (by simp) rfl⟩

variable (t : TenantId) (i : UUIDv7)

def intentStatus (w : ActionWorld SI SL) : Option ActionIntentStatus := (intentRepo.get w.intents t i).map (·.status)

/-- A completed intent is still completed. -/
def CompletedForGood (w w' : ActionWorld SI SL) : Prop :=
  intentStatus intentRepo t i w = some .completed → intentStatus intentRepo t i w' = some .completed

/-- A write to the intent does not undo COMPLETED, and a new entry carries the
number that follows those in the journal. -/
def OrderlyCall (w : ActionWorld SI SL) : ActionCall → Prop
  | .updateIntent intent => intent.tenantId = t → intent.intentId = i →
      intentStatus intentRepo t i w = some .completed → intent.status = .completed
  | .saveLedger entry => entry.tenantId = t → entry.intentId = i →
      entry.attemptNumber = (attemptNumbers ledgerRepo w.ledger t i).length + 1
  | _ => True

private theorem completed_update_iff (w : ActionWorld SI SL) (intent : ActionIntentRecord) :
    CompletedForGood intentRepo t i w { w with intents := intentRepo.update w.intents intent } ↔
      (intent.tenantId = t → intent.intentId = i →
        intentStatus intentRepo t i w = some .completed → intent.status = .completed) := by
  unfold CompletedForGood intentStatus
  by_cases own : intent.tenantId = t ∧ intent.intentId = i
  · obtain ⟨rfl,rfl⟩ := own
    simp only [true_implies]
    refine imp_congr_right (fun before => ?_)
    obtain ⟨stored,found,_⟩ := Option.map_eq_some_iff.mp before
    rw [intentRepo.get_update_self _ _ (by simp [found])]
    simp
  · have other : ¬ (t = intent.tenantId ∧ i = intent.intentId) := fun both => own ⟨both.1.symm,both.2.symm⟩
    rw [intentRepo.get_update_other _ _ _ _ other]
    simp only [imp_self,true_iff]
    intro tenant same
    exact absurd ⟨tenant,same⟩ own

/-- One call keeps a completed intent and an ordered journal exactly when it is orderly. -/
theorem orderlyCall_iff {op : AttemptOperation} {w : ActionWorld SI SL} {c : ActionCall}
    (move : JournalMove ledgerRepo op w.ledger c (serve intentRepo ledgerRepo c w).2.ledger)
    (ordered : InOrder (attemptNumbers ledgerRepo w.ledger t i)) :
    OrderlyCall intentRepo ledgerRepo t i w c ↔
      CompletedForGood intentRepo t i w (serve intentRepo ledgerRepo c w).2 ∧
        InOrder (attemptNumbers ledgerRepo (serve intentRepo ledgerRepo c w).2.ledger t i) := by
  cases c with
  | getIntent | getIntentByKey | getLedger | listByIntent =>
    simp only [OrderlyCall,serve,CompletedForGood,ordered,imp_self,and_self]
  | saveIntent intent =>
    cases move with
    | untouched noSave => exact absurd rfl (noSave intent)
    | saved _ impossible => cases impossible
    | updated _ impossible => cases impossible
  | updateIntent intent =>
    simp only [OrderlyCall,serve,ordered,and_true]
    exact (completed_update_iff intentRepo t i w intent).symm
  | saveLedger entry =>
    cases move with
    | untouched _ noSave => exact absurd rfl (noSave entry)
    | updated _ impossible => cases impossible
    | saved _ same _ absent _ =>
      cases same
      have kept : CompletedForGood intentRepo t i w (serve intentRepo ledgerRepo (.saveLedger entry) w).2 :=
        fun before => before
      simp only [OrderlyCall,kept,true_and]
      by_cases own : entry.tenantId = t ∧ entry.intentId = i
      · obtain ⟨rfl,rfl⟩ := own
        simp only [true_implies,serve]
        rw [inOrder_perm (attemptNumbers_save ledgerRepo absent),inOrder_cons ordered]
      · simp only [serve]
        rw [inOrder_perm (attemptNumbers_save_other ledgerRepo absent own)]
        simp only [ordered,iff_true]
        intro tenant intent
        exact absurd ⟨tenant,intent⟩ own
  | updateLedger entry =>
    cases move with
    | untouched _ _ same =>
      simp only [serve] at same ⊢
      simp only [OrderlyCall,CompletedForGood,intentStatus,same,ordered,imp_self,and_self]
    | saved _ impossible => cases impossible
    | updated _ same journalled _ =>
      cases same
      simp only [serve]
      rw [inOrder_perm (attemptNumbers_update ledgerRepo journalled t i)]
      simp only [OrderlyCall,CompletedForGood,intentStatus,ordered,imp_self,and_self]

abbrev ActionPool (SI SL : Type) := Pool (ActionWorld SI SL) ActionCall ActionCall.Reply PyError Unit

/-- The call that moves next is orderly. -/
def OrderlyTurn (pool : ActionPool SI SL) (choice : Nat × Unit) : Prop :=
  ∀ c ∈ pool.threads[choice.1]?.bind Prog.pending, OrderlyCall intentRepo ledgerRepo t i pool.world c

instance (w : ActionWorld SI SL) : (c : ActionCall) → Decidable (OrderlyCall intentRepo ledgerRepo t i w c)
  | .updateIntent _ => inferInstanceAs (Decidable (_ → _ → _ → _))
  | .saveLedger _ => inferInstanceAs (Decidable (_ → _ → _))
  | .getIntent .. | .getIntentByKey .. | .saveIntent _ | .getLedger .. | .listByIntent .. | .updateLedger _ =>
    .isTrue trivial

instance (pool : ActionPool SI SL) (choice : Nat × Unit) :
    Decidable (OrderlyTurn intentRepo ledgerRepo t i pool choice) :=
  inferInstanceAs (Decidable (∀ c ∈ _, OrderlyCall intentRepo ledgerRepo t i pool.world c))

private theorem orderlyTurn_iff {ops : List AttemptOperation} {pool : ActionPool SI SL} {choice : Nat × Unit}
    (owned : Owned (fun k w prog => ∃ op, ops[k]? = some op ∧ AttemptResidue ledgerRepo op w prog) pool)
    (ordered : InOrder (attemptNumbers ledgerRepo pool.world.ledger t i)) :
    OrderlyTurn intentRepo ledgerRepo t i pool choice ↔
      CompletedForGood intentRepo t i pool.world (turn (server intentRepo ledgerRepo) pool choice).world ∧
        InOrder (attemptNumbers ledgerRepo (turn (server intentRepo ledgerRepo) pool choice).world.ledger t i) := by
  have idle : CompletedForGood intentRepo t i pool.world pool.world ∧
      InOrder (attemptNumbers ledgerRepo pool.world.ledger t i) := ⟨fun before => before,ordered⟩
  unfold OrderlyTurn turn
  cases moving : pool.threads[choice.1]? with
  | none => simpa using idle
  | some prog =>
    cases prog with
    | ret value => simpa [Prog.pending] using idle
    | raise e => simpa [Prog.pending] using idle
    | await c resume =>
      obtain ⟨op,_,left⟩ := owned _ _ moving
      obtain ⟨_,move⟩ := attempt_call intentRepo ledgerRepo left
      simp only [settle_suspended (server intentRepo ledgerRepo) (fun _ => rfl),Option.bind_some,
        Prog.pending,Option.mem_some_iff,forall_eq']
      exact orderlyCall_iff intentRepo ledgerRepo t i move ordered

private theorem residues_turn {ops : List AttemptOperation}
    (distinct : (ops.filterMap AttemptOperation.generated).Nodup) (pool : ActionPool SI SL)
    (choice : Nat × Unit)
    (owned : Owned (fun k w prog => ∃ op, ops[k]? = some op ∧ AttemptResidue ledgerRepo op w prog) pool) :
    Owned (fun k w prog => ∃ op, ops[k]? = some op ∧ AttemptResidue ledgerRepo op w prog)
      (turn (server intentRepo ledgerRepo) pool choice) := by
  apply owned_turn _ _ _ pool choice owned
  · rintro k _ c resume w ⟨op,place,left⟩
    exact ⟨op,place,(attempt_call intentRepo ledgerRepo left).1⟩
  · rintro k j _ c resume w prog apart ⟨op,place,left⟩ ⟨other,at_j,waiting⟩
    refine ⟨other,at_j,attemptResidue_kept ledgerRepo ?_ (attempt_call intentRepo ledgerRepo left).2 waiting⟩
    exact generated_apart distinct (Ne.symm apart) at_j place

end concurrent

section samples

def acmeContext : TenantContext := ⟨⟨"tnt_acme",Eq.refl true⟩⟩

def refundIntent : ActionIntentRecord where
  intentId := ⟨"01890a5d-ac96-774b-bcce-b302099a9001"⟩
  tenantId := acmeContext.tenantId
  approvalId := ⟨"01890a5d-ac96-774b-bcce-b302099a8057"⟩
  idempotencyKey := "idem-1"
  actionType := "REFUND"
  classification := .reversible
  targetSetCount := 1
  payloadDigest := "9f86d081"
  createdAt := ⟨0⟩
  keyAccepted := idem_filled

def firstEntry : UUIDv7 := ⟨"01890a5d-ac96-774b-bcce-b302099aa001"⟩

def secondEntry : UUIDv7 := ⟨"01890a5d-ac96-774b-bcce-b302099aa002"⟩

def startRefund (ledgerId : UUIDv7) : AttemptOperation :=
  .start ⟨acmeContext,refundIntent.intentId,"idem-1","billing","9f86d081"⟩ ledgerId ⟨0⟩

def completeRefund (ledgerId : UUIDv7) (status : ActionLedgerStatus) : AttemptOperation :=
  .complete { ctx := acmeContext, ledgerId := ledgerId, status := status } ⟨1⟩

abbrev attemptServer : Server (ActionWorld IntentShelves LedgerShelves) Unit ActionCall ActionCall.Reply :=
  server InMemoryActionIntentRepository InMemoryActionLedgerRepository

/-- The stores with one initialized intent and an empty journal. -/
def attemptStart (ops : List AttemptOperation) : ActionPool IntentShelves LedgerShelves :=
  ⟨⟨InMemoryActionIntentRepository.save InMemoryActionIntentRepository.empty refundIntent,
    InMemoryActionLedgerRepository.empty⟩,ops.map AttemptOperation.program⟩

def turns (threads : List Nat) : List (Nat × Unit) := threads.map (fun i => (i,()))

def oneAttempt : List AttemptOperation := [startRefund firstEntry,completeRefund firstEntry .success]

def twoAttempts : List AttemptOperation :=
  [startRefund firstEntry,startRefund secondEntry,completeRefund secondEntry .success,
    completeRefund firstEntry .providerError]

def twoAttemptsSchedule : List (Nat × Unit) := turns [0,1,0,1,0,1,0,1,2,2,2,2,3,3,3,3]

end samples
end RevPilot.Action
