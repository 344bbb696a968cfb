import RevPilot.Connectors.Inbox

/-! Whether the canonical state depends on the order of delivery. The inbox is a
set of registers that keep the newest message, so the events alone decide it. -/
namespace RevPilot.Connectors
open Library Shared Runs LatestWins

section simulation
variable (str : PyValue → String) (tenantId : TenantId) (connectorId : UUIDv7)

theorem registers_start : registers tenantId connectorId {} = start := by
  have unseen : {x | ((Dict.empty : Dict String InboxReceipt).get? (dedupKey tenantId connectorId x)).isSome = true} =
      ∅ := by
    ext x
    simp
  rw [registers,unseen]
  rfl

/-- A service whose registry has a new receipt and whose state has the given entries. -/
theorem registers_eq {service : TransactionalInboxService} {external : String} {receipt : InboxReceipt}
    {state : Dict String (UtcDateTime × Payload)} {held : String → Option (UtcDateTime × Payload)}
    (entries : ∀ entity, state.get? (entityKey tenantId entity) = held entity) :
    registers tenantId connectorId
        { inboxRegistry := service.inboxRegistry.set (dedupKey tenantId connectorId external) receipt
          canonicalEntityState := state } =
      { seen := insert external (registers tenantId connectorId service).seen, held := held } := by
  have seen : {x | ((service.inboxRegistry.set (dedupKey tenantId connectorId external) receipt).get?
      (dedupKey tenantId connectorId x)).isSome = true} =
      insert external (registers tenantId connectorId service).seen := by
    ext x
    simp only [Set.mem_ofPred_eq,Set.mem_insert_iff,registers,Dict.get?_set]
    by_cases same : x = external
    · simp [same]
    · have other : dedupKey tenantId connectorId x ≠ dedupKey tenantId connectorId external :=
        fun equal => same (dedupKey_injective tenantId connectorId equal)
      simp [same,other]
  simp only [registers] at seen ⊢
  rw [seen]
  congr 1
  funext entity
  exact entries entity

theorem superseded {service : TransactionalInboxService} {entity : String} {evTime last : UtcDateTime}
    {payload : Payload} (older : service.supersededBy (entityKey tenantId entity) evTime = some last) :
    service.canonicalEntry tenantId entity =
      some (newest entryTime (service.canonicalEntry tenantId entity) (evTime,payload)) := by
  unfold TransactionalInboxService.canonicalEntry
  cases held : service.canonicalEntityState.get? (entityKey tenantId entity) with
  | none => simp [TransactionalInboxService.supersededBy,held] at older
  | some entry =>
    obtain ⟨⟨stored,rfl⟩,behind⟩ : (∃ stored, entry = (last,stored)) ∧ timestamp evTime < timestamp last := by
      simpa [TransactionalInboxService.supersededBy,held] using older
    rw [newest_some,if_pos (show entryTime (evTime,payload) < entryTime (last,stored) from behind)]

theorem not_superseded {service : TransactionalInboxService} {entity : String} {evTime : UtcDateTime}
    {payload : Payload} (current : service.supersededBy (entityKey tenantId entity) evTime = none) :
    newest entryTime (service.canonicalEntry tenantId entity) (evTime,payload) = (evTime,payload) := by
  unfold TransactionalInboxService.canonicalEntry
  cases held : service.canonicalEntityState.get? (entityKey tenantId entity) with
  | none => rfl
  | some entry =>
    have ahead : timestamp entry.1 ≤ timestamp evTime := by
      simpa [TransactionalInboxService.supersededBy,held] using current
    rw [newest_some]
    exact if_neg (not_lt.mpr ahead)

/-- Recording an event is taking its message. -/
theorem registers_record (service : TransactionalInboxService) (event : WebhookEvent) (now : UtcDateTime)
    (generated : UUIDv7) :
    registers tenantId connectorId
        (service.recordIncomingEvent str tenantId connectorId event now generated).1 =
      take entryTime (registers tenantId connectorId service) (message str event now) := by
  unfold TransactionalInboxService.recordIncomingEvent
  dsimp only
  cases known : service.inboxRegistry.get? (dedupKey tenantId connectorId event.externalEventId) with
  | some existing =>
    rw [take_old]
    simp [registers,message,known]
  | none =>
    have new : (message str event now).id ∉ (registers tenantId connectorId service).seen := by
      simp [registers,message,known]
    cases target : targetEntity str event with
    | none =>
      have silent : (message str event now).entry = none := by simp [message,target]
      rw [take,if_neg new,silent]
      exact registers_eq tenantId connectorId (fun _ => rfl)
    | some entity =>
      have addressed : (message str event now).entry =
          some (entity,(event.eventTimestamp.getD now,event.rawPayload)) := by simp [message,target]
      rw [take,if_neg new,addressed]
      dsimp only
      cases older : service.supersededBy (entityKey tenantId entity) (event.eventTimestamp.getD now) with
      | some last =>
        apply registers_eq tenantId connectorId
        intro other
        by_cases same : other = entity
        · subst same
          rw [Function.update_self]
          exact superseded tenantId older
        · rw [Function.update_of_ne same]
          rfl
      | none =>
        apply registers_eq tenantId connectorId
        intro other
        by_cases same : other = entity
        · subst same
          rw [Function.update_self,Dict.get?_set_self]
          exact congrArg some (not_superseded tenantId older).symm
        · have apart : entityKey tenantId other ≠ entityKey tenantId entity :=
            fun equal => same (entityKey_injective tenantId equal)
          rw [Function.update_of_ne same,Dict.get?_set_ne _ _ apart]
          rfl

theorem registers_deliver (s : TransactionalInboxService × List InboxReceipt) (d : Delivery) :
    registers tenantId connectorId (deliver str tenantId connectorId s d).1 =
      take entryTime (registers tenantId connectorId s.1) (message str d.event d.now) :=
  registers_record str tenantId connectorId s.1 d.event d.now d.generated

/-- A run of the service is a run of its registers. -/
theorem registers_deliveries (ds : List Delivery) :
    registers tenantId connectorId (deliveries str tenantId connectorId ds).1 =
      run (take entryTime) start (ds.map (fun d => message str d.event d.now)) := by
  induction ds using List.reverseRecOn with
  | nil => exact registers_start tenantId connectorId
  | append_singleton ds d ih =>
    rw [List.map_append,List.map_singleton,run_concat,← ih,deliveries,run_concat]
    exact registers_deliver str tenantId connectorId _ d

end simulation

section receipts
variable (str : PyValue → String) (tenantId : TenantId) (connectorId : UUIDv7)

def processedCount (receipts : List InboxReceipt) (externalEventId : String) : Nat :=
  receipts.countP (fun r => r.externalEventId = externalEventId ∧ r.status = .processed)

/-- The receipt is a duplicate's, or the registry now has it. -/
theorem record_receipt (service : TransactionalInboxService) (event : WebhookEvent) (now : UtcDateTime)
    (generated : UUIDv7) :
    let outcome := service.recordIncomingEvent str tenantId connectorId event now generated
    let key := dedupKey tenantId connectorId event.externalEventId
    outcome.2.externalEventId = event.externalEventId ∧
      (outcome.1 = service ∧ outcome.2.status = .duplicate ∨
        service.inboxRegistry.get? key = none ∧
          outcome.1.inboxRegistry = service.inboxRegistry.set key outcome.2) := by
  intro outcome key
  unfold outcome TransactionalInboxService.recordIncomingEvent
  dsimp only
  split
  next existing known => exact ⟨rfl,.inl ⟨rfl,rfl⟩⟩
  next new =>
  split
  next => exact ⟨rfl,.inr ⟨new,rfl⟩⟩
  next entity target =>
  split
  next => exact ⟨rfl,.inr ⟨new,rfl⟩⟩
  next => exact ⟨rfl,.inr ⟨new,rfl⟩⟩

/-- Nothing was processed twice, and nothing without a receipt in the registry. -/
structure ProcessedOnce (s : TransactionalInboxService × List InboxReceipt) : Prop where
  once : ∀ x, processedCount s.2 x ≤ 1
  registered : ∀ x, s.1.inboxRegistry.get? (dedupKey tenantId connectorId x) = none → processedCount s.2 x = 0

theorem processedCount_append (receipts : List InboxReceipt) (receipt : InboxReceipt) (x : String) :
    processedCount (receipts ++ [receipt]) x =
      processedCount receipts x + if receipt.externalEventId = x ∧ receipt.status = .processed then 1 else 0 := by
  simp [processedCount,List.countP_append,List.countP_singleton]

theorem deliver_processedOnce (s : TransactionalInboxService × List InboxReceipt) (d : Delivery)
    (earlier : ProcessedOnce tenantId connectorId s) :
    ProcessedOnce tenantId connectorId (deliver str tenantId connectorId s d) := by
  obtain ⟨own,⟨unchanged,duplicate⟩ | ⟨new,stored⟩⟩ :=
    record_receipt str tenantId connectorId s.1 d.event d.now d.generated
  · have same (x : String) : processedCount (deliver str tenantId connectorId s d).2 x = processedCount s.2 x := by
      simp [deliver,processedCount_append,duplicate]
    constructor
    · intro x
      rw [same]
      exact earlier.once x
    · intro x absent
      rw [same]
      exact earlier.registered x (by simpa [deliver,unchanged] using absent)
  · have none := earlier.registered _ new
    constructor
    · intro x
      simp only [deliver,processedCount_append,own]
      by_cases here : d.event.externalEventId = x
      · subst here
        rw [none,Nat.zero_add]
        split
        · exact le_refl 1
        · exact Nat.zero_le 1
      · simpa [here] using earlier.once x
    · intro x absent
      simp only [deliver,stored,Dict.get?_set] at absent
      split at absent
      next => cases absent
      next other =>
        have foreign : d.event.externalEventId ≠ x := by
          rintro rfl
          exact other rfl
        simpa [deliver,processedCount_append,own,foreign] using earlier.registered x absent

theorem processed_at_most_once (ds : List Delivery) (x : String) :
    processedCount (deliveries str tenantId connectorId ds).2 x ≤ 1 := by
  have kept : ProcessedOnce tenantId connectorId (deliveries str tenantId connectorId ds) := by
    apply stable_run (deliver str tenantId connectorId) (fun s d => deliver_processedOnce str tenantId connectorId s d)
    exact ⟨fun _ => Nat.zero_le 1,fun _ _ => rfl⟩
  exact kept.once x

end receipts
section convergence
variable (str : PyValue → String)

/-- One event settles an entity: whatever shares its identifier says the same, and so
does whatever is for the entity and not older. -/
structure Decisive (events : List WebhookEvent) (entity : String) (w : WebhookEvent) (time : UtcDateTime)
    (payload : Payload) : Prop where
  alone : ∀ e ∈ events, e.externalEventId = w.externalEventId →
    targetEntity str e = some entity ∧ e.eventTimestamp = some time ∧ e.rawPayload = payload
  newest : ∀ e ∈ events, targetEntity str e = some entity → ∀ t, e.eventTimestamp = some t →
    timestamp time ≤ timestamp t → t = time ∧ e.rawPayload = payload

structure Determined (events : List WebhookEvent) : Prop where
  dated : ∀ e ∈ events, targetEntity str e ≠ none → e.eventTimestamp ≠ none
  decisive : ∀ e ∈ events, ∀ entity, targetEntity str e = some entity →
    ∃ w ∈ events, ∃ time payload, Decisive str events entity w time payload

theorem entry_iff {event : WebhookEvent} {now : UtcDateTime} {entity : String} {v : UtcDateTime × Payload} :
    (message str event now).entry = some (entity,v) ↔
      targetEntity str event = some entity ∧ event.eventTimestamp.getD now = v.1 ∧ event.rawPayload = v.2 := by
  simp only [message,Option.map_eq_some_iff,Prod.ext_iff]
  constructor
  · rintro ⟨_,target,rfl,same⟩
    exact ⟨target,same⟩
  · rintro ⟨target,same⟩
    exact ⟨entity,target,rfl,same⟩

theorem entry_dated {events : List WebhookEvent}
    (dated : ∀ e ∈ events, targetEntity str e ≠ none → e.eventTimestamp ≠ none) {e : WebhookEvent} (inside : e ∈ events)
    {now : UtcDateTime} {entity : String} {v : UtcDateTime × Payload} :
    (message str e now).entry = some (entity,v) ↔
      targetEntity str e = some entity ∧ e.eventTimestamp = some v.1 ∧ e.rawPayload = v.2 := by
  rw [entry_iff]
  refine and_congr_right ?_
  intro target
  obtain ⟨time,known⟩ := Option.ne_none_iff_exists'.mp (dated e inside (by simp [target]))
  simp [known]

/-- The clock plays no part in the messages of dated events. -/
theorem message_dated {events : List WebhookEvent}
    (dated : ∀ e ∈ events, targetEntity str e ≠ none → e.eventTimestamp ≠ none) {e : WebhookEvent} (inside : e ∈ events)
    (now other : UtcDateTime) : message str e now = message str e other := by
  cases target : targetEntity str e with
  | none => simp [message,target]
  | some entity =>
    obtain ⟨time,known⟩ := Option.ne_none_iff_exists'.mp (dated e inside (by simp [target]))
    simp [message,known]

theorem decides_iff {events : List WebhookEvent}
    (dated : ∀ e ∈ events, targetEntity str e ≠ none → e.eventTimestamp ≠ none) (now : UtcDateTime) {entity : String}
    {w : WebhookEvent} {v : UtcDateTime × Payload} :
    Decides entryTime (fun e => message str e now) events entity w v ↔ Decisive str events entity w v.1 v.2 := by
  constructor
  · rintro ⟨alone,newest⟩
    refine ⟨?_,?_⟩
    · intro e inside same
      exact (entry_dated str dated inside).mp (alone e inside same)
    · intro e inside target t known newer
      have equal := newest e inside (t,e.rawPayload) ((entry_dated str dated inside).mpr ⟨target,known,rfl⟩) newer
      exact ⟨congrArg Prod.fst equal,congrArg Prod.snd equal⟩
  · rintro ⟨alone,newest⟩
    refine ⟨?_,?_⟩
    · intro e inside same
      exact (entry_dated str dated inside).mpr (alone e inside same)
    · intro e inside u entry newer
      obtain ⟨target,known,payload⟩ := (entry_dated str dated inside).mp entry
      obtain ⟨time,content⟩ := newest e inside target u.1 known newer
      exact Prod.ext time (payload.symm.trans content)

theorem settled_iff {events : List WebhookEvent}
    (dated : ∀ e ∈ events, targetEntity str e ≠ none → e.eventTimestamp ≠ none) (now : UtcDateTime) (entity : String) :
    Settled entryTime (fun e => message str e now) events entity ↔
      ((∃ e ∈ events, targetEntity str e = some entity) →
        ∃ w ∈ events, ∃ time payload, Decisive str events entity w time payload) := by
  constructor
  · rintro (silent | ⟨w,inside,v,decides⟩) ⟨e,known,target⟩
    · refine absurd ?_ (silent e known (e.eventTimestamp.getD now,e.rawPayload))
      exact (entry_iff str).mpr ⟨target,rfl,rfl⟩
    · exact ⟨w,inside,v.1,v.2,(decides_iff str dated now).mp decides⟩
  · intro decisive
    by_cases addressed : ∃ e ∈ events, targetEntity str e = some entity
    · obtain ⟨w,inside,time,payload,decides⟩ := decisive addressed
      refine .inr ⟨w,inside,(time,payload),?_⟩
      exact (decides_iff str dated now).mpr decides
    · refine .inl ?_
      intro e inside v entry
      exact addressed ⟨e,inside,((entry_iff str).mp entry).1⟩

variable (tenantId : TenantId) (connectorId : UUIDv7)

/-- The state does not depend on how often and in which order the events arrive, nor
on the clock, and no event is processed twice. -/
structure Convergent (events : List WebhookEvent) : Prop where
  state : ∀ first second : List Delivery, Covers events (first.map Delivery.event) →
    Covers events (second.map Delivery.event) → ∀ entity,
      (deliveries str tenantId connectorId first).1.canonicalEntry tenantId entity =
        (deliveries str tenantId connectorId second).1.canonicalEntry tenantId entity
  once : ∀ ds : List Delivery, Covers events (ds.map Delivery.event) → ∀ externalEventId,
    processedCount (deliveries str tenantId connectorId ds).2 externalEventId ≤ 1

theorem canonicalEntry_deliveries (ds : List Delivery) (entity : String) :
    (deliveries str tenantId connectorId ds).1.canonicalEntry tenantId entity =
      (run (take entryTime) start (ds.map (fun d => message str d.event d.now))).held entity := by
  rw [← registers_deliveries str tenantId connectorId]
  rfl

/-- Deliveries at one reading of the clock. -/
def atClock (now : UtcDateTime) (events : List WebhookEvent) : List Delivery :=
  events.map (fun e => ⟨e,now,⟨""⟩⟩)

@[simp] theorem atClock_events (now : UtcDateTime) (events : List WebhookEvent) :
    (atClock now events).map Delivery.event = events := by
  simp [atClock,Function.comp_def]

theorem canonicalEntry_atClock (now : UtcDateTime) (events : List WebhookEvent) (entity : String) :
    (deliveries str tenantId connectorId (atClock now events)).1.canonicalEntry tenantId entity =
      (run (take entryTime) start (events.map (fun e => message str e now))).held entity := by
  rw [canonicalEntry_deliveries]
  simp [atClock,Function.comp_def]

theorem timestamp_two_pow (n : Nat) : timestamp ⟨2 ^ n * 1000000⟩ = 2 ^ n := by
  have seconds : (((2 ^ n * 1000000 : Int) : ℚ)) / 1000000 = 2 ^ n := by
    push_cast
    exact mul_div_cancel_right₀ _ (by norm_num)
  rw [timestamp,seconds,toDouble_two_pow]

/-- Two readings of the clock that are not before a given time. -/
theorem exists_later (bound : ℚ) :
    ∃ one other : UtcDateTime, one ≠ other ∧ bound ≤ timestamp one ∧ bound ≤ timestamp other := by
  obtain ⟨n,small⟩ := pow_unbounded_of_one_lt bound (one_lt_two : (1 : ℚ) < 2)
  refine ⟨⟨2 ^ n * 1000000⟩,⟨2 ^ (n + 1) * 1000000⟩,?_,?_,?_⟩
  · intro same
    have positive : (0 : Int) < 2 ^ n := by positivity
    have equal : (2 : Int) ^ n * 1000000 = 2 ^ (n + 1) * 1000000 := congrArg UtcDateTime.micros same
    rw [pow_succ] at equal
    omega
  · rw [timestamp_two_pow]
    exact small.le
  · rw [timestamp_two_pow]
    have grows : (2 : ℚ) ^ n ≤ 2 ^ (n + 1) := pow_le_pow_right₀ one_le_two (Nat.le_succ n)
    exact small.le.trans grows

/-- An undated event that comes last leaves the reading of the clock behind. -/
theorem undated_last {events : List WebhookEvent} {e : WebhookEvent} (inside : e ∈ events) {entity : String}
    (target : targetEntity str e = some entity) (undated : e.eventTimestamp = none) {now : UtcDateTime}
    (late : ∀ a ∈ events, ∀ t, a.eventTimestamp = some t → timestamp t ≤ timestamp now) :
    (deliveries str tenantId connectorId
      (atClock now (keptLast (fun a => message str a now) events e))).1.canonicalEntry tenantId entity =
        some (now,e.rawPayload) := by
  have entry : (message str e now).entry = some (entity,(now,e.rawPayload)) :=
    (entry_iff str).mpr ⟨target,by simp [undated],rfl⟩
  rw [canonicalEntry_atClock]
  obtain ⟨v,final⟩ : ∃ v, (run (take entryTime) start
      ((keptLast (fun a => message str a now) events e).map (fun a => message str a now))).held entity = some v := by
    rw [run_keptLast]
    exact ⟨_,take_new entryTime (beforeLast_seen entryTime _ events e) entry⟩
  have older : entryTime v ≤ entryTime (now,e.rawPayload) := by
    obtain ⟨m,member,origin⟩ := run_origin entryTime final
    obtain ⟨a,listed,rfl⟩ := List.mem_map.mp member
    have known := (keptLast_covers (fun a => message str a now) inside a).mp listed
    obtain ⟨_,time,_⟩ := (entry_iff str).mp origin
    rw [entryTime,← time]
    cases dated : a.eventTimestamp with
    | none => exact le_rfl
    | some t => exact late a known t dated
  rw [final,held_keptLast entryTime (fun a => message str a now) entry final older]

theorem dated_of_convergent {events : List WebhookEvent}
    (convergent : Convergent str tenantId connectorId events) :
    ∀ e ∈ events, targetEntity str e ≠ none → e.eventTimestamp ≠ none := by
  intro e inside addressed undated
  obtain ⟨entity,target⟩ := Option.ne_none_iff_exists'.mp addressed
  obtain ⟨bound,above⟩ := Finset.exists_le ((events.filterMap (·.eventTimestamp)).map timestamp).toFinset
  have late {now : UtcDateTime} (reached : bound ≤ timestamp now) :
      ∀ a ∈ events, ∀ t, a.eventTimestamp = some t → timestamp t ≤ timestamp now := by
    intro a known t dated
    refine (above (timestamp t) ?_).trans reached
    simp only [List.mem_toFinset,List.mem_map,List.mem_filterMap]
    exact ⟨t,⟨a,known,dated⟩,rfl⟩
  obtain ⟨one,other,apart,oneLate,otherLate⟩ := exists_later bound
  have agree := convergent.state
    (atClock one (keptLast (fun a => message str a one) events e))
    (atClock other (keptLast (fun a => message str a other) events e))
    (by rw [atClock_events]; exact keptLast_covers _ inside)
    (by rw [atClock_events]; exact keptLast_covers _ inside) entity
  rw [undated_last str tenantId connectorId inside target undated (late oneLate),
    undated_last str tenantId connectorId inside target undated (late otherLate)] at agree
  exact apart (congrArg Prod.fst (Option.some.inj agree))

/-- The deliveries of a set of events lead to one state exactly when every event
for an entity is dated and each entity has an event that settles it. -/
theorem convergent_iff (events : List WebhookEvent) :
    Convergent str tenantId connectorId events ↔ Determined str events := by
  constructor
  · intro convergent
    have dated := dated_of_convergent str tenantId connectorId convergent
    refine ⟨dated,?_⟩
    intro e inside entity target
    have settled : Settled entryTime (fun e => message str e ⟨0⟩) events entity := by
      apply settled_of_agree
      intro first second one other
      rw [← canonicalEntry_atClock str tenantId connectorId,← canonicalEntry_atClock str tenantId connectorId]
      exact convergent.state _ _ (by simpa using one) (by simpa using other) entity
    exact (settled_iff str dated ⟨0⟩ entity).mp settled ⟨e,inside,target⟩
  · intro determined
    constructor
    · intro first second one other entity
      have dated := determined.dated
      have settled : Settled entryTime (fun e => message str e ⟨0⟩) events entity := by
        rw [settled_iff str dated]
        rintro ⟨e,inside,target⟩
        exact determined.decisive e inside entity target
      have plain {ds : List Delivery} (covers : Covers events (ds.map Delivery.event)) :
          ds.map (fun d => message str d.event d.now) =
            (ds.map Delivery.event).map (fun e => message str e ⟨0⟩) := by
        rw [List.map_map]
        apply List.map_congr_left
        intro d listed
        exact message_dated str dated ((covers d.event).mp (List.mem_map_of_mem listed)) d.now ⟨0⟩
      rw [canonicalEntry_deliveries,canonicalEntry_deliveries,plain one,plain other]
      exact agree_of_settled entryTime _ settled one other
    · intro ds _ externalEventId
      exact processed_at_most_once str tenantId connectorId ds externalEventId

end convergence
def sampleTenant : TenantId := ⟨"tnt_acme",Eq.refl true⟩

/-- A charge event of one order at one instant. -/
def charge (externalEventId status : String) : WebhookEvent where
  externalEventId := externalEventId
  rawPayload := [(.str "id",.str "inv_7"),(.str "status",.str status)]
  eventTimestamp := some ⟨0⟩

/-- The status in the state of the order after events that all arrive at the epoch. -/
def statusAfter (events : List WebhookEvent) : Option String :=
  (((deliveries (fun _ => "") sampleTenant ⟨"con_1"⟩ (atClock ⟨0⟩ events)).1.getCanonicalState sampleTenant "inv_7").bind
    (PyValue.lookup · "status")).map (entityText (fun _ => ""))

/-- Two events of one instant leave behind whichever arrives last. -/
theorem tied_events_diverge :
    statusAfter [charge "evt_1" "PAID",charge "evt_2" "VOID"] = some "VOID" ∧
    statusAfter [charge "evt_2" "VOID",charge "evt_1" "PAID"] = some "PAID" ∧
    ¬ Convergent (fun _ => "") sampleTenant ⟨"con_1"⟩ [charge "evt_1" "PAID",charge "evt_2" "VOID"] := by
  have first : statusAfter [charge "evt_1" "PAID",charge "evt_2" "VOID"] = some "VOID" := by decide +kernel
  have second : statusAfter [charge "evt_2" "VOID",charge "evt_1" "PAID"] = some "PAID" := by decide +kernel
  refine ⟨first,second,?_⟩
  intro convergent
  have agree := convergent.state
    (atClock ⟨0⟩ [charge "evt_1" "PAID",charge "evt_2" "VOID"])
    (atClock ⟨0⟩ [charge "evt_2" "VOID",charge "evt_1" "PAID"])
    (fun _ => Iff.rfl) (fun e => by simp [atClock,or_comm]) "inv_7"
  have same : statusAfter [charge "evt_1" "PAID",charge "evt_2" "VOID"] =
      statusAfter [charge "evt_2" "VOID",charge "evt_1" "PAID"] := by
    simp only [statusAfter,TransactionalInboxService.getCanonicalState,agree]
  rw [first,second] at same
  simp at same

end RevPilot.Connectors
