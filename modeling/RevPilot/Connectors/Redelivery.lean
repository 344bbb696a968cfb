import RevPilot.Connectors.Stripe
import RevPilot.Library.Text

/-! Redeliveries of Stripe events: when an event that is acknowledged as a duplicate was mapped to a
payment before. -/
namespace RevPilot.Connectors
open Library Shared Canonical Runs StripeConnectorAdapter

def isContainer : PyValue → Bool
  | .str _ => true
  | .list _ => true
  | .tuple _ => true
  | .dict _ => true
  | _ => false

/-- `data` and its `object` are dictionaries, the amount is no less than 0, the type can be searched and
the invoice is not blank, each where the event has it. -/
def Mappable (lib : StripeLibrary) (event : Payload) : Prop :=
  ∃ obj amount, eventObject event = .ok obj ∧ toInt lib ((PyValue.lookup obj "amount").getD (.int 0)) = .ok amount ∧
    0 ≤ amount ∧ isContainer (eventType event) = true ∧ Text.strip (orderId lib obj) ≠ ""

/-- The inbox of a run, with the deliveries and their answers, the last one first. -/
structure StripeRun where
  service : TransactionalInboxService
  delivered : List (WebhookDelivery × WebhookAnswer) := []

section deliveries
variable (lib : StripeLibrary) (adapter : StripeConnectorAdapter)

def webhookStep (r : StripeRun) (d : WebhookDelivery) : StripeRun :=
  let (service,answer) := adapter.processWebhookEvent lib r.service d
  ⟨service,(d,answer) :: r.delivered⟩

/-- The identifier that an event itself has. -/
def ownId (rawBody : List UInt8) : Option String :=
  match lib.loads rawBody with
  | .ok (.dict event) =>
    match PyValue.lookup event "id" with
    | some (.str id) => some id
    | _ => none
  | _ => none

def SameEvent (a b : WebhookDelivery) : Prop :=
  a.rawBody = b.rawBody ∨ ∃ id, ownId lib a.rawBody = some id ∧ ownId lib b.rawBody = some id

/-- The delivery is of the connector's tenant and its signature is valid. -/
def Authentic (d : WebhookDelivery) : Prop :=
  adapter.verifyTenantBoundary d.executionTenantId = .ok () ∧ verifySignature lib d adapter.webhookSecret = .ok ()

/-- The identifier under which a delivery gets its receipt. -/
def receiptId (d : WebhookDelivery) : Option String :=
  match adapter.readEvent lib d with
  | .ok event =>
    match eventIdOf event d.clock.named with
    | .str id => some id
    | _ => none
  | .error _ => none

def Mapped (answer : WebhookAnswer) : Prop := ∃ receipt payment, answer = .ok (receipt,some payment)

/-- A delivery that is acknowledged without a payment is of an event that was mapped before, and no
authentic delivery of its body raised. -/
def AnswersMapped (r : StripeRun) (d : WebhookDelivery) : Prop :=
  ∀ receipt, (adapter.processWebhookEvent lib r.service d).2 = .ok (receipt,none) →
    (∃ e ∈ r.delivered, SameEvent lib e.1 d ∧ Mapped e.2) ∧
      ∀ e ∈ r.delivered, Authentic lib adapter e.1 → e.1.rawBody = d.rawBody → ∃ answer, e.2 = .ok answer

/-- An event without a receipt can be mapped, and a receipt was got by a delivery of the same event. -/
def KeepsMappable (r : StripeRun) (d : WebhookDelivery) : Prop :=
  ∀ event id, adapter.readEvent lib d = .ok event → eventIdOf event d.clock.named = .str id →
    match r.service.inboxRegistry.get? (dedupKey d.executionTenantId adapter.connectorId id) with
    | none => Mappable lib event
    | some _ => ∃ e ∈ r.delivered, SameEvent lib e.1 d ∧ receiptId lib adapter e.1 = some id

/-- Every delivery that got a receipt was answered, and its event was mapped. -/
def Answered (r : StripeRun) : Prop :=
  ∀ e ∈ r.delivered, ∀ id, receiptId lib adapter e.1 = some id →
    (∃ answer, e.2 = .ok answer) ∧ ∃ first ∈ r.delivered, SameEvent lib first.1 e.1 ∧ Mapped first.2

end deliveries

section mapping
variable {lib : StripeLibrary}

theorem occursIn_ok_iff (needle : String) (v : PyValue) : (∃ b, occursIn needle v = .ok b) ↔ isContainer v = true := by
  cases v <;> simp [occursIn,isContainer]

/-- A text that begins with a letter is not blank. -/
theorem strip_lead_ne {c : Char} (solid : Text.isSpace c = false) (rest : List Char) :
    Text.strip (String.ofList (c :: rest)) ≠ "" := by
  intro blank
  have chars := congrArg String.toList blank
  rw [Text.strip,String.toList_ofList,String.toList_ofList,Text.stripChars,List.dropWhile_cons_of_neg (by simp [solid]),
    String.toList_empty] at chars
  have none := List.reverse_eq_nil_iff.mp chars
  rw [List.dropWhile_eq_nil_iff] at none
  have space := none c (by simp)
  rw [solid] at space
  cases space

theorem map_ok_iff (event : Payload) (tenantId : TenantId) (now : UtcDateTime) :
    (∃ payment, mapStripeEventToPayment lib event tenantId now = .ok payment) ↔ Mappable lib event := by
  constructor
  · rintro ⟨payment,mapped⟩
    obtain ⟨obj,object,mapped⟩ := Outcome.bind_eq_ok.mp mapped
    obtain ⟨amount,counted,mapped⟩ := Outcome.bind_eq_ok.mp mapped
    obtain ⟨refund,searched,mapped⟩ := Outcome.bind_eq_ok.mp mapped
    obtain ⟨_,_,mapped⟩ := Outcome.bind_eq_ok.mp mapped
    obtain ⟨_,_,mapped⟩ := Outcome.bind_eq_ok.mp mapped
    obtain ⟨_,_,mapped⟩ := Outcome.bind_eq_ok.mp mapped
    obtain ⟨_,ordered,mapped⟩ := Outcome.bind_eq_ok.mp mapped
    obtain ⟨positive,_⟩ := Outcome.guard_eq_ok.mp mapped
    refine ⟨obj,amount,object,counted,Int.not_lt.mp positive,(occursIn_ok_iff _ _).mp ⟨refund,searched⟩,?_⟩
    intro blank
    rw [entityIdOf,if_pos blank] at ordered
    cases ordered
  · rintro ⟨obj,amount,object,counted,positive,container,filled⟩
    obtain ⟨refund,first⟩ := (occursIn_ok_iff "refund" _).mpr container
    obtain ⟨paid,second⟩ := (occursIn_ok_iff "paid" _).mpr container
    obtain ⟨succeeded,third⟩ := (occursIn_ok_iff "succeeded" _).mpr container
    have lead : "pay_" ++ paymentId lib obj = String.ofList ('p' :: ("ay_" ++ paymentId lib obj).toList) := by
      have letters : "pay_".toList = 'p' :: "ay_".toList := by decide +kernel
      rw [← String.toList_inj,String.toList_ofList,String.toList_append,String.toList_append,letters,List.cons_append]
    have named : entityIdOf ("pay_" ++ paymentId lib obj) "PaymentReference" =
        .ok (Text.strip ("pay_" ++ paymentId lib obj)) := by
      rw [entityIdOf,if_neg]
      rw [lead]
      exact strip_lead_ne (by decide) _
    have ordered : entityIdOf (orderId lib obj) "PaymentReference.order_id" = .ok (Text.strip (orderId lib obj)) := by
      rw [entityIdOf,if_neg filled]
    have next {A B : Type} (a : A) (f : A → Except PyError B) : (Except.ok a >>= f) = f a := rfl
    unfold mapStripeEventToPayment
    simp only [object,counted,first,second,third,named,ordered,next,if_neg (Int.not_lt.mpr positive)]
    exact ⟨_,rfl⟩

end mapping

section runs
variable {lib : StripeLibrary} {adapter : StripeConnectorAdapter} {service : TransactionalInboxService} {r : StripeRun}
  {d : WebhookDelivery}

theorem sameEvent_trans {a b c : WebhookDelivery} (first : SameEvent lib a b) (second : SameEvent lib b c) :
    SameEvent lib a c := by
  rcases first with same | ⟨id,own,other⟩
  · rcases second with again | ⟨id,own,other⟩
    · exact .inl (same.trans again)
    · exact .inr ⟨id,same ▸ own,other⟩
  · rcases second with again | ⟨id',own',other'⟩
    · exact .inr ⟨id,own,again ▸ other⟩
    · obtain rfl : id = id' := Option.some.inj (other.symm.trans own')
      exact .inr ⟨id,own,other'⟩

theorem receiptId_eq_some {id : String} : receiptId lib adapter d = some id ↔
    ∃ event, adapter.readEvent lib d = .ok event ∧ eventIdOf event d.clock.named = .str id := by
  unfold receiptId
  cases adapter.readEvent lib d with
  | error error => simp
  | ok event =>
    simp only [Except.ok.injEq,exists_eq_left']
    cases eventIdOf event d.clock.named <;> simp

/-- Only an identifier with a receipt is answered as a duplicate. -/
theorem record_isDuplicate (str : PyValue → String) (tenantId : TenantId) (connectorId : UUIDv7) (event : WebhookEvent)
    (now : UtcDateTime) (generated : UUIDv7) :
    (service.recordIncomingEvent str tenantId connectorId event now generated).2.isDuplicate =
      (service.inboxRegistry.get? (dedupKey tenantId connectorId event.externalEventId)).isSome := by
  unfold TransactionalInboxService.recordIncomingEvent
  cases found : service.inboxRegistry.get? (dedupKey tenantId connectorId event.externalEventId) with
  | some existing =>
    simp only [found]
    rfl
  | none =>
    simp only [found]
    cases targetEntity str event with
    | none => rfl
    | some entity =>
      dsimp only
      split <;> rfl

/-- Whatever is recorded has a receipt. -/
theorem record_stored (str : PyValue → String) (tenantId : TenantId) (connectorId : UUIDv7) (event : WebhookEvent)
    (now : UtcDateTime) (generated : UUIDv7) :
    (service.recordIncomingEvent str tenantId connectorId event now generated).1.inboxRegistry.get?
      (dedupKey tenantId connectorId event.externalEventId) ≠ none := by
  unfold TransactionalInboxService.recordIncomingEvent
  cases found : service.inboxRegistry.get? (dedupKey tenantId connectorId event.externalEventId) with
  | some existing =>
    simp only [found]
    exact Option.some_ne_none _
  | none =>
    simp only [found]
    cases targetEntity str event with
    | none => simp
    | some entity =>
      dsimp only
      split <;> simp

/-- What is read of an authentic delivery is determined by its body. -/
theorem readEvent_eq_ok {event : Payload} :
    adapter.readEvent lib d = .ok event ↔ Authentic lib adapter d ∧ lib.loads d.rawBody = .ok (.dict event) := by
  unfold readEvent Authentic
  simp only [Outcome.bind_eq_ok]
  constructor
  · rintro ⟨_,tenant,_,signed,value,loaded,read⟩
    cases value with
    | dict inner =>
      obtain rfl := Except.ok.inj read
      exact ⟨⟨tenant,signed⟩,loaded⟩
    | _ => cases read
  · rintro ⟨⟨tenant,signed⟩,loaded⟩
    exact ⟨(),tenant,(),signed,_,loaded,rfl⟩

theorem processWebhookEvent_named {event : Payload} {id : String} (read : adapter.readEvent lib d = .ok event)
    (named : eventIdOf event d.clock.named = .str id) :
    let recorded := service.recordIncomingEvent lib.str d.executionTenantId adapter.connectorId
      { externalEventId := id, rawPayload := event } d.clock.recorded d.generated
    adapter.processWebhookEvent lib service d =
      if recorded.2.isDuplicate then (recorded.1,.ok (recorded.2,none))
      else (recorded.1,(mapStripeEventToPayment lib event d.executionTenantId d.clock.mapped).map
        (fun payment => (recorded.2,some payment))) := by
  simp only [processWebhookEvent,read,recordEvent,named]

/-- The two answers to a delivery with an identifier. -/
theorem answer_cases {event : Payload} {id : String} (read : adapter.readEvent lib d = .ok event)
    (named : eventIdOf event d.clock.named = .str id) :
    (service.inboxRegistry.get? (dedupKey d.executionTenantId adapter.connectorId id) = none ∧
        ∃ receipt, (adapter.processWebhookEvent lib service d).2 =
          (mapStripeEventToPayment lib event d.executionTenantId d.clock.mapped).map (fun payment => (receipt,some payment))) ∨
      (service.inboxRegistry.get? (dedupKey d.executionTenantId adapter.connectorId id) ≠ none ∧
        ∃ receipt, (adapter.processWebhookEvent lib service d).2 = .ok (receipt,none)) := by
  rw [processWebhookEvent_named read named,record_isDuplicate]
  cases service.inboxRegistry.get? (dedupKey d.executionTenantId adapter.connectorId id) with
  | none => exact .inl ⟨rfl,_,rfl⟩
  | some receipt => exact .inr ⟨Option.some_ne_none _,_,rfl⟩

/-- However a delivery with an identifier is answered, its receipt is stored. -/
theorem receipt_stored {event : Payload} {id : String} (read : adapter.readEvent lib d = .ok event)
    (named : eventIdOf event d.clock.named = .str id) :
    (adapter.processWebhookEvent lib service d).1.inboxRegistry.get?
      (dedupKey d.executionTenantId adapter.connectorId id) ≠ none := by
  have recorded := @record_stored service lib.str d.executionTenantId adapter.connectorId ⟨id,event,none,none⟩
    d.clock.recorded d.generated
  rw [processWebhookEvent_named read named]
  split <;> exact recorded

/-- An answer without a payment comes of a delivery whose identifier has a receipt. -/
theorem unpaid_received {receipt : InboxReceipt} (unpaid : (adapter.processWebhookEvent lib service d).2 = .ok (receipt,none)) :
    ∃ event id, adapter.readEvent lib d = .ok event ∧ eventIdOf event d.clock.named = .str id ∧
      service.inboxRegistry.get? (dedupKey d.executionTenantId adapter.connectorId id) ≠ none := by
  cases read : adapter.readEvent lib d with
  | error error => simp [processWebhookEvent,read] at unpaid
  | ok event =>
    cases named : eventIdOf event d.clock.named with
    | str id =>
      refine ⟨event,id,rfl,named,?_⟩
      rcases @answer_cases lib adapter service d event id read named with ⟨_,receipt',answered⟩ | ⟨found,_⟩
      · rw [answered] at unpaid
        cases mapped : mapStripeEventToPayment lib event d.executionTenantId d.clock.mapped with
        | error error => simp [mapped,Except.map] at unpaid
        | ok payment => simp [mapped,Except.map] at unpaid
      · exact found
    | _ => simp [processWebhookEvent,read,recordEvent,named] at unpaid

theorem answered_step (answered : Answered lib adapter r) (keeps : KeepsMappable lib adapter r d) :
    Answered lib adapter (webhookStep lib adapter r d) := by
  have grown {e : WebhookDelivery × WebhookAnswer} (inside : e ∈ r.delivered) :
      e ∈ (webhookStep lib adapter r d).delivered := List.mem_cons_of_mem _ inside
  intro e inside id received
  rcases List.mem_cons.mp inside with rfl | earlier
  · obtain ⟨event,read,named⟩ := receiptId_eq_some.mp received
    have kept := keeps event id read named
    rcases @answer_cases lib adapter r.service d event id read named with ⟨found,receipt,answer⟩ | ⟨found,receipt,answer⟩
    · rw [found] at kept
      obtain ⟨payment,mapped⟩ := (map_ok_iff event d.executionTenantId d.clock.mapped).mpr kept
      rw [mapped] at answer
      exact ⟨⟨_,answer⟩,_,inside,.inl rfl,receipt,payment,answer⟩
    · obtain ⟨existing,known⟩ := Option.ne_none_iff_exists'.mp found
      rw [known] at kept
      obtain ⟨source,before,same,again⟩ := kept
      obtain ⟨_,first,there,alike,mapped⟩ := answered source before id again
      exact ⟨⟨_,answer⟩,first,grown there,sameEvent_trans alike same,mapped⟩
  · obtain ⟨answer,first,there,alike,mapped⟩ := answered e earlier id received
    exact ⟨answer,first,grown there,alike,mapped⟩

theorem mapped_step (answered : Answered lib adapter r) (keeps : KeepsMappable lib adapter r d) :
    AnswersMapped lib adapter r d := by
  intro receipt unpaid
  obtain ⟨event,id,read,named,found⟩ := unpaid_received unpaid
  have kept := keeps event id read named
  obtain ⟨existing,known⟩ := Option.ne_none_iff_exists'.mp found
  rw [known] at kept
  obtain ⟨source,before,same,again⟩ := kept
  obtain ⟨_,first,there,alike,mapped⟩ := answered source before id again
  refine ⟨⟨first,there,sameEvent_trans alike same,mapped⟩,?_⟩
  intro e inside authentic body
  have loaded := (readEvent_eq_ok.mp read).2
  have readAgain : adapter.readEvent lib e.1 = .ok event := readEvent_eq_ok.mpr ⟨authentic,body ▸ loaded⟩
  -- The event names itself, or each of its deliveries is named by its second.
  have text : ∃ id, eventIdOf event e.1.clock.named = .str id := by
    unfold eventIdOf at named ⊢
    cases own : PyValue.lookup event "id" with
    | none => exact ⟨_,rfl⟩
    | some value =>
      rw [own] at named
      exact ⟨id,named⟩
  obtain ⟨id',namedAgain⟩ := text
  exact (answered e inside id' (receiptId_eq_some.mpr ⟨event,readAgain,namedAgain⟩)).1

/-- In a run whose deliveries keep the condition, whatever is acknowledged without a payment was mapped
before. -/
theorem redeliveries_mapped (service : TransactionalInboxService) (ds : List WebhookDelivery)
    (kept : Along (webhookStep lib adapter) (KeepsMappable lib adapter) ⟨service,[]⟩ ds) :
    Along (webhookStep lib adapter) (AnswersMapped lib adapter) ⟨service,[]⟩ ds := by
  rw [along_iff]
  intro pre d post split
  subst split
  have start : Answered lib adapter ⟨service,[]⟩ := by
    intro e inside
    cases inside
  obtain ⟨before,later⟩ := (along_append _ _ _ pre (d :: post)).mp kept
  have answered := invariant_run (webhookStep lib adapter) (I := Answered lib adapter)
    (fun r d answered keeps => answered_step answered keeps) start before
  exact mapped_step answered later.1

end runs

section examples

def stripeTenant : TenantId := ⟨"tnt_acme",Eq.refl true⟩

def stripeAdapter : StripeConnectorAdapter := ⟨stripeTenant,⟨"01890a5d-ac96-774b-bcce-b302099a8057"⟩,"k"⟩

/-- The parser reads one body; the keyed digest of the example is its key. -/
def oneBody (rawBody : List UInt8) (event : Payload) : StripeLibrary where
  hmac secret _ _ := secret
  skew _ _ := .ok ("0.0",false)
  loads body := if body = rawBody then .ok (.dict event) else .error .valueError
  str
    | .str s => s
    | _ => ""
  upper := Text.asciiCasing.upper
  intOfText _ := .error .valueError
  intOfFloat _ := .error .valueError

def deliveryOf (rawBody : List UInt8) : WebhookDelivery where
  executionTenantId := stripeTenant
  rawBody := rawBody
  signatureHeader := "v1=k"
  timestampHeader := "0"
  clock := ⟨⟨0⟩,⟨0⟩,⟨0⟩,⟨0⟩⟩
  generated := ⟨"01890a5d-ac96-774b-bcce-b302099a8058"⟩

theorem verifySignature_ok {lib : StripeLibrary} {d : WebhookDelivery} {secret seconds : String}
    (short : d.rawBody.length ≤ maxPayloadBytes)
    (fresh : lib.skew (Text.strip d.timestampHeader) d.clock.verified = .ok (seconds,false))
    (signed : withoutScheme (Text.strip d.signatureHeader) =
      generateWebhookSignature lib d.rawBody secret (Text.strip d.timestampHeader))
    (ascii : Text.isAscii (withoutScheme (Text.strip d.signatureHeader)) = true) : verifySignature lib d secret = .ok () := by
  unfold verifySignature
  rw [if_neg (Nat.not_lt.mpr short),fresh]
  simp only [← signed,ascii,Bool.and_self,if_true]

theorem oneBody_read {rawBody : List UInt8} (event : Payload) (short : rawBody.length ≤ maxPayloadBytes) :
    stripeAdapter.readEvent (oneBody rawBody event) (deliveryOf rawBody) = .ok event := by
  rw [readEvent_eq_ok]
  refine ⟨⟨if_pos rfl,?_⟩,if_pos rfl⟩
  have signature : withoutScheme (Text.strip "v1=k") = "k" := by decide +kernel
  have ascii : Text.isAscii "k" = true := by decide +kernel
  exact verifySignature_ok short rfl signature (signature.symm ▸ ascii)

/-- `{"id":"evt_1","amount":5}` -/
def paidBody : List UInt8 :=
  [123,34,105,100,34,58,34,101,118,116,95,49,34,44,34,97,109,111,117,110,116,34,58,53,125]

def paidEvent : Payload := [(.str "id",.str "evt_1"),(.str "amount",.int 5)]

theorem paidEvent_mappable : Mappable (oneBody paidBody paidEvent) paidEvent :=
  ⟨paidEvent,5,rfl,rfl,by decide,rfl,by decide +kernel⟩

/-- The event is delivered twice, and acknowledged the second time. -/
theorem paid_twice : Along (webhookStep (oneBody paidBody paidEvent) stripeAdapter)
    (AnswersMapped (oneBody paidBody paidEvent) stripeAdapter) ⟨{},[]⟩ [deliveryOf paidBody,deliveryOf paidBody] := by
  have read := @oneBody_read paidBody paidEvent (by decide)
  apply redeliveries_mapped
  refine ⟨?_,?_,trivial⟩
  · intro event id again _
    obtain rfl := Except.ok.inj (read.symm.trans again)
    exact paidEvent_mappable
  · intro event id again namedAgain
    obtain rfl := Except.ok.inj (read.symm.trans again)
    split
    · exact paidEvent_mappable
    · exact ⟨_,List.mem_cons_self,.inl rfl,receiptId_eq_some.mpr ⟨paidEvent,read,namedAgain⟩⟩

/-- `{"id":"evt_1","amount":-1}` -/
def negativeBody : List UInt8 :=
  [123,34,105,100,34,58,34,101,118,116,95,49,34,44,34,97,109,111,117,110,116,34,58,45,49,125]

def negativeEvent : Payload := [(.str "id",.str "evt_1"),(.str "amount",.int (-1))]

/-- The mapping of the event raises, and its redelivery is acknowledged. -/
theorem negative_acknowledged : ¬ Along (webhookStep (oneBody negativeBody negativeEvent) stripeAdapter)
    (AnswersMapped (oneBody negativeBody negativeEvent) stripeAdapter) ⟨{},[]⟩
    [deliveryOf negativeBody,deliveryOf negativeBody] := by
  rintro ⟨_,second,_⟩
  have read := @oneBody_read negativeBody negativeEvent (by decide)
  have named : eventIdOf negativeEvent (deliveryOf negativeBody).clock.named = .str "evt_1" := rfl
  have raised (payment : MappedPayment) : mapStripeEventToPayment (oneBody negativeBody negativeEvent) negativeEvent
      stripeTenant ⟨0⟩ ≠ .ok payment := by
    intro mapped
    obtain ⟨obj,amount,object,counted,positive,_⟩ := (map_ok_iff negativeEvent stripeTenant ⟨0⟩).mp ⟨payment,mapped⟩
    obtain rfl : negativeEvent = obj := Except.ok.inj object
    obtain rfl : (-1 : Int) = amount := Except.ok.inj counted
    omega
  have stored := @receipt_stored (oneBody negativeBody negativeEvent) stripeAdapter {} (deliveryOf negativeBody)
    negativeEvent "evt_1" read named
  rcases @answer_cases (oneBody negativeBody negativeEvent) stripeAdapter
      (stripeAdapter.processWebhookEvent (oneBody negativeBody negativeEvent) {} (deliveryOf negativeBody)).1
      (deliveryOf negativeBody) negativeEvent "evt_1" read named with ⟨missing,_⟩ | ⟨_,receipt,unpaid⟩
  · exact stored missing
  · obtain ⟨⟨e,inside,_,receipt',payment,mapped⟩,_⟩ := second receipt unpaid
    obtain rfl := List.mem_singleton.mp inside
    rcases @answer_cases (oneBody negativeBody negativeEvent) stripeAdapter {} (deliveryOf negativeBody) negativeEvent
        "evt_1" read named with ⟨_,first,answer⟩ | ⟨_,first,answer⟩
    · have same := answer.symm.trans mapped
      cases paid : mapStripeEventToPayment (oneBody negativeBody negativeEvent) negativeEvent stripeTenant ⟨0⟩ with
      | ok payment => exact raised payment paid
      | error error =>
        change (mapStripeEventToPayment (oneBody negativeBody negativeEvent) negativeEvent stripeTenant ⟨0⟩).map _ = _ at same
        rw [paid] at same
        cases same
    · cases answer.symm.trans mapped

end examples
end RevPilot.Connectors
