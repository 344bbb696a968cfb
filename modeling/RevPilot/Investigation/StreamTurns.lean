import RevPilot.Investigation.EventBroadcaster
import RevPilot.Library.Lists

/-! One live stream and the events that are owed to it: what its turns, an idle timer, a client that
goes and a published event do to it. -/
namespace RevPilot.Investigation
open Library Shared

namespace StreamClient
variable (client : StreamClient)

def events : List BroadcastEvent := client.received.filterMap (·.event)

def inflight : List BroadcastEvent :=
  match client.phase with
  | .sending event _ => [event]
  | _ => []

def queue : List BroadcastEvent := client.subscription.queue

/-- What the stream still sends if nothing else happens. -/
def outlook : List BroadcastEvent := upTo BroadcastEvent.terminal (client.inflight ++ client.queue)

/-- The client has seen the stream open, and neither side has closed it. -/
def connected : Bool :=
  match client.phase with
  | .greeting | .closed => false
  | _ => !client.gone

/-- The stream is to deliver the event: it is of its pair, the client is connected, no event that
ends the stream came before, and fewer than `maxsize` events wait. -/
def owes (owed : List BroadcastEvent) (event : BroadcastEvent) : Bool :=
  client.key = event.key && client.connected && owed.all (fun earlier => !earlier.terminal) &&
    client.queue.length < Subscription.maxsize

/-- The subscription takes events and is not being cancelled. -/
def reading : Bool :=
  match client.phase with
  | .cancelling => false
  | _ => client.subscription.isLive

end StreamClient

variable (lower : String → String)

/-- The stream and the events owed to it. -/
structure Delivering (client : StreamClient) (owed : List BroadcastEvent) : Prop where
  received : client.events <+: owed
  complete : client.gone = false → client.events ++ client.outlook = owed
  own : ∀ event ∈ client.events ++ (client.inflight ++ client.queue), event.key = client.key
  writable : client.gone = false → ∀ event ∈ client.outlook, event.json ≠ none
  ended : (∃ event ∈ client.events, event.terminal = true) → client.phase = .closed
  idle : client.phase = .greeting ∨ client.phase = .closed → client.subscription.isLive = false
  cancelled : client.phase = .cancelling → client.gone = false → client.queue = []

section turns
variable {client after : StreamClient} {owed : List BroadcastEvent}

/-- A stream that holds no event less and sends none more. -/
theorem Delivering.move (held : Delivering client owed) (key : after.key = client.key) (gone : after.gone = client.gone)
    (events : after.events = client.events) (outlook : client.gone = false → after.outlook = client.outlook)
    (fewer : ∀ event ∈ after.inflight ++ after.queue, event ∈ client.inflight ++ client.queue)
    (closed : client.phase = .closed → after.phase = .closed)
    (idle : after.phase = .greeting ∨ after.phase = .closed → after.subscription.isLive = false)
    (cancelled : after.phase = .cancelling → after.gone = false → after.queue = []) : Delivering after owed where
  received := by
    rw [events]
    exact held.received
  complete := by
    intro present
    rw [gone] at present
    rw [events,outlook present]
    exact held.complete present
  own := by
    intro event member
    rw [events] at member
    rw [key]
    apply held.own event
    rcases List.mem_append.mp member with before | later
    · exact List.mem_append_left _ before
    · exact List.mem_append_right _ (fewer event later)
  writable := by
    intro present event member
    rw [gone] at present
    rw [outlook present] at member
    exact held.writable present event member
  ended := by
    intro terminal
    rw [events] at terminal
    exact closed (held.ended terminal)
  idle := idle
  cancelled := cancelled

/-- A stream that goes on to a phase and sends nothing meanwhile. -/
theorem Delivering.goOn (phase : StreamPhase) (held : Delivering client owed) (key : after.key = client.key)
    (gone : after.gone = client.gone) (events : after.events = client.events) (queue : after.queue = client.queue)
    (unsent : client.inflight = [] ∧ after.inflight = []) (opened : client.phase ≠ .closed) (goes : after.phase = phase)
    (running : phase ≠ .greeting ∧ phase ≠ .closed)
    (cancelled : phase = .cancelling → client.gone = false → client.queue = []) : Delivering after owed := by
  refine held.move key gone events ?_ ?_ ?_ ?_ ?_
  · intro _
    rw [StreamClient.outlook,StreamClient.outlook,unsent.1,unsent.2,queue]
  · intro event member
    rw [unsent.2,queue] at member
    rw [unsent.1]
    exact member
  · intro closed
    exact absurd closed opened
  · rw [goes]
    rintro (greeting | closed)
    · exact absurd greeting running.1
    · exact absurd closed running.2
  · rw [goes,gone,queue]
    exact cancelled

theorem close_delivering (held : Delivering client owed) (nothing : client.gone = false → client.outlook = []) :
    Delivering client.close owed := by
  refine held.move rfl rfl rfl ?_ ?_ ?_ ?_ ?_
  · intro present
    rw [nothing present]
    rfl
  · intro event member
    cases member
  · intro _
    rfl
  · intro _
    rfl
  · intro cancelling
    cases cancelling

theorem take_delivering {event : BroadcastEvent} {rest : List BroadcastEvent} (held : Delivering client owed)
    (unsent : client.inflight = []) (queued : client.subscription = .live (event :: rest)) :
    Delivering (client.take event rest) owed := by
  have queue : client.queue = event :: rest := by rw [StreamClient.queue,queued]; rfl
  have outlook : client.outlook = upTo BroadcastEvent.terminal (event :: rest) := by
    rw [StreamClient.outlook,unsent,queue]
    rfl
  unfold StreamClient.take
  cases written : event.json with
  | none =>
    apply close_delivering held
    intro present
    have unwritable := held.writable present event (by rw [outlook]; unfold upTo; split <;> simp)
    exact absurd written unwritable
  | some json =>
    refine held.move rfl rfl rfl ?_ ?_ ?_ ?_ ?_
    · intro _
      rw [outlook]
      rfl
    · intro found member
      rw [unsent,queue]
      exact member
    · intro closed
      have live := held.idle (.inr closed)
      rw [queued] at live
      cases live
    · rintro (greeting | closed)
      · cases greeting
      · cases closed
    · intro cancelling
      cases cancelling

@[simp] theorem receive_key (chunk : StreamChunk) : (client.receive chunk).key = client.key := by
  unfold StreamClient.receive
  split
  · rfl
  · rfl

@[simp] theorem receive_gone (chunk : StreamChunk) : (client.receive chunk).gone = client.gone := by
  unfold StreamClient.receive
  split
  · rfl
  · rfl

@[simp] theorem receive_subscription (chunk : StreamChunk) : (client.receive chunk).subscription = client.subscription := by
  unfold StreamClient.receive
  split
  · rfl
  · rfl

theorem receive_events (chunk : StreamChunk) :
    (client.receive chunk).events = if client.gone then client.events else client.events ++ chunk.event.toList := by
  unfold StreamClient.receive
  split
  · rfl
  · cases chunk with
    | mk text event =>
      cases event with
      | none => simp [StreamClient.events]
      | some event => simp [StreamClient.events]

/-- A chunk without an event is sent. -/
theorem notice_delivering {chunk : StreamChunk} (held : Delivering client owed) (notice : chunk.event = none)
    (unsent : client.inflight = []) (unfinished : client.phase ≠ .closed) :
    Delivering { client.receive chunk with phase := .checking } owed := by
  have same : ({ client.receive chunk with phase := .checking } : StreamClient).queue = client.queue :=
    congrArg Subscription.queue (receive_subscription chunk)
  refine held.move (receive_key chunk) (receive_gone chunk) ?_ ?_ ?_ ?_ ?_ ?_
  · change (client.receive chunk).events = client.events
    rw [receive_events,notice]
    simp
  · intro _
    unfold StreamClient.outlook
    rw [same,unsent]
    rfl
  · intro event member
    rw [unsent]
    rwa [same] at member
  · intro closed
    exact absurd closed unfinished
  · rintro (greeting | closed)
    · cases greeting
    · cases closed
  · intro cancelling
    cases cancelling

theorem sent_delivering {event : BroadcastEvent} {json : String} (held : Delivering client owed)
    (sending : client.phase = .sending event json) :
    Delivering (if event.terminal then (client.receive (eventChunk lower event json)).close
      else { client.receive (eventChunk lower event json) with phase := .checking }) owed := by
  have inflight : client.inflight = [event] := by rw [StreamClient.inflight,sending]
  have unended : ∀ earlier ∈ client.events, earlier.terminal = false := by
    intro earlier member
    by_contra terminal
    have closed := held.ended ⟨earlier,member,by simpa using terminal⟩
    rw [sending] at closed
    cases closed
  have outlook : client.outlook =
      if event.terminal then [event] else event :: upTo BroadcastEvent.terminal client.queue := by
    rw [StreamClient.outlook,inflight]
    rfl
  have sent := @receive_events client (eventChunk lower event json)
  cases gone : client.gone with
  | true =>
    have lost : client.receive (eventChunk lower event json) = client := by
      unfold StreamClient.receive
      rw [if_pos gone]
    rw [lost]
    split
    · apply close_delivering held
      intro present
      rw [gone] at present
      cases present
    · refine held.move rfl rfl rfl ?_ ?_ ?_ ?_ ?_
      · intro present
        rw [gone] at present
        cases present
      · intro found member
        exact List.mem_append_right _ member
      · intro closed
        rw [sending] at closed
        cases closed
      · rintro (greeting | closed)
        · cases greeting
        · cases closed
      · intro cancelling
        cases cancelling
  | false =>
    have complete := held.complete gone
    rw [gone] at sent
    have owned := held.own event (by rw [inflight]; simp)
    split
    · rename_i terminal
      rw [outlook,if_pos terminal] at complete
      constructor
      · change (client.receive _).events <+: owed
        rw [sent,← complete]
        exact List.prefix_refl _
      · intro _
        change (client.receive _).events ++ [] = owed
        rw [sent,← complete]
        simp [eventChunk]
      · intro found member
        change found ∈ (client.receive _).events ++ [] at member
        change found.key = (client.receive _).key
        rw [receive_key]
        rw [sent] at member
        simp only [eventChunk,List.append_nil,Bool.false_eq_true,if_false,Option.toList,List.mem_append,
          List.mem_singleton] at member
        rcases member with before | rfl
        · exact held.own found (List.mem_append_left _ before)
        · exact owned
      · intro _ found member
        cases member
      · intro _
        rfl
      · intro _
        rfl
      · intro cancelling
        cases cancelling
    · rename_i unfinished
      have queue : ({ client.receive (eventChunk lower event json) with phase := .checking } : StreamClient).queue =
          client.queue := congrArg Subscription.queue (receive_subscription _)
      have rest : ({ client.receive (eventChunk lower event json) with phase := .checking } : StreamClient).outlook =
          upTo BroadcastEvent.terminal client.queue := by
        unfold StreamClient.outlook
        rw [queue]
        rfl
      rw [outlook,if_neg unfinished] at complete
      constructor
      · change (client.receive _).events <+: owed
        rw [sent,← complete]
        exact ⟨upTo BroadcastEvent.terminal client.queue,by simp [eventChunk]⟩
      · intro _
        rw [rest]
        change (client.receive _).events ++ _ = owed
        rw [sent,← complete]
        simp [eventChunk]
      · intro found member
        change found.key = (client.receive _).key
        rw [receive_key]
        rw [queue] at member
        change found ∈ (client.receive _).events ++ ([] ++ client.queue) at member
        rw [sent] at member
        simp only [eventChunk,List.nil_append,Bool.false_eq_true,if_false,Option.toList,List.mem_append,
          List.mem_singleton] at member
        rcases member with (before | rfl) | queued
        · exact held.own found (List.mem_append_left _ before)
        · exact owned
        · exact held.own found (List.mem_append_right _ (List.mem_append_right _ queued))
      · intro _ found member
        rw [rest] at member
        apply held.writable gone found
        rw [outlook,if_neg unfinished]
        exact List.mem_cons_of_mem _ member
      · rintro ⟨found,member,terminal⟩
        change found ∈ (client.receive _).events at member
        rw [sent] at member
        simp only [eventChunk,Bool.false_eq_true,if_false,Option.toList,List.mem_append,List.mem_singleton] at member
        rcases member with before | rfl
        · rw [unended found before] at terminal
          cases terminal
        · exact absurd terminal unfinished
      · rintro (greeting | closed)
        · cases greeting
        · cases closed
      · intro cancelling
        cases cancelling

/-- A turn of the task keeps what the stream has sent and will send. -/
theorem advance_delivering (now : UtcDateTime) (held : Delivering client owed) :
    Delivering (client.advance lower now) owed := by
  obtain ⟨key,phase,subscription,received,gone⟩ := client
  cases phase with
  | greeting => exact notice_delivering held rfl rfl (by simp)
  | pinging idleAt => exact notice_delivering held rfl rfl (by simp)
  | sending event json => exact sent_delivering lower held rfl
  | closed => exact held
  | checking =>
    cases gone with
    | true =>
      apply close_delivering held
      intro present
      cases present
    | false =>
      exact held.goOn .asking rfl rfl rfl rfl ⟨rfl,rfl⟩ (by simp) rfl (by simp) (by simp)
  | asking =>
    cases subscription with
    | fresh =>
      exact held.goOn .waiting rfl rfl rfl rfl ⟨rfl,rfl⟩ (by simp) rfl (by simp) (by simp)
    | finished =>
      apply close_delivering held
      intro _
      rfl
    | live queue =>
      cases queue with
      | nil =>
        exact held.goOn .waiting rfl rfl rfl rfl ⟨rfl,rfl⟩ (by simp) rfl (by simp) (by simp)
      | cons event rest => exact take_delivering held rfl rfl
  | waiting =>
    cases subscription with
    | fresh => exact held
    | finished => exact held
    | live queue =>
      cases queue with
      | nil => exact held
      | cons event rest => exact take_delivering held rfl rfl
  | cancelling =>
    refine held.move rfl rfl rfl ?_ ?_ ?_ ?_ ?_
    · intro present
      have empty : subscription.queue = [] := held.cancelled rfl present
      change upTo BroadcastEvent.terminal ([] ++ []) = upTo BroadcastEvent.terminal ([] ++ subscription.queue)
      rw [empty]
    · intro event member
      cases member
    · intro closed
      cases closed
    · rintro (greeting | closed)
      · cases greeting
      · cases closed
    · intro cancelling
      cases cancelling

theorem timeout_delivering (held : Delivering client owed)
    (drained : client.phase = .waiting → client.gone = false → client.queue = []) : Delivering client.timeout owed := by
  obtain ⟨key,phase,subscription,received,gone⟩ := client
  cases phase with
  | waiting =>
    refine held.goOn .cancelling rfl rfl rfl rfl ⟨rfl,rfl⟩ (by simp) rfl (by simp) ?_
    intro _ present
    exact drained rfl present
  | _ => exact held

/-- A client that goes keeps what it has received. -/
theorem disconnect_delivering (held : Delivering client owed) : Delivering { client with gone := true } owed where
  received := held.received
  complete := fun present => by cases present
  own := held.own
  writable := fun present => by cases present
  ended := held.ended
  idle := held.idle
  cancelled := fun _ present => by cases present

theorem cancel_delivering (held : Delivering client owed) : Delivering client.cancel owed := by
  unfold StreamClient.cancel
  split
  · rename_i gone
    apply close_delivering held
    intro present
    rw [gone] at present
    cases present
  · exact held

/-- The stream after an event was put into its queue. -/
def StreamClient.hear (event : BroadcastEvent) (client : StreamClient) : StreamClient :=
  { client with subscription := client.subscription.putNowait event }

theorem hear_queue (event : BroadcastEvent) : (client.hear event).queue =
    if client.subscription.isLive = true ∧ client.queue.length < Subscription.maxsize then client.queue ++ [event]
    else client.queue := by
  obtain ⟨key,phase,subscription,received,gone⟩ := client
  cases subscription with
  | fresh => rfl
  | finished => rfl
  | live queue =>
    unfold StreamClient.hear StreamClient.queue Subscription.putNowait
    by_cases room : queue.length < Subscription.maxsize
    · simp [room,Subscription.queue,Subscription.isLive]
    · simp [room,Subscription.queue]

theorem hear_isLive (event : BroadcastEvent) : (client.hear event).subscription.isLive = client.subscription.isLive := by
  obtain ⟨key,phase,subscription,received,gone⟩ := client
  cases subscription with
  | fresh => rfl
  | finished => rfl
  | live queue =>
    unfold StreamClient.hear Subscription.putNowait
    dsimp only
    split
    · rfl
    · rfl

theorem owes_iff {event : BroadcastEvent} : client.owes owed event = true ↔ client.key = event.key ∧
    client.connected = true ∧ (∀ earlier ∈ owed, earlier.terminal = false) ∧
      client.queue.length < Subscription.maxsize := by
  simp [StreamClient.owes,and_assoc]

theorem hear_same {event : BroadcastEvent}
    (deaf : ¬ (client.subscription.isLive = true ∧ client.queue.length < Subscription.maxsize)) :
    client.hear event = client := by
  obtain ⟨key,phase,subscription,received,gone⟩ := client
  cases subscription with
  | fresh => rfl
  | finished => rfl
  | live queue =>
    have full : ¬ queue.length < Subscription.maxsize := fun room => deaf ⟨rfl,room⟩
    unfold StreamClient.hear Subscription.putNowait
    simp only [if_neg full]

theorem reading_live (reading : client.reading = true) :
    client.subscription.isLive = true ∧ client.phase ≠ .cancelling := by
  unfold StreamClient.reading at reading
  split at reading
  · cases reading
  · rename_i other
    exact ⟨reading,other⟩

theorem live_connected (held : Delivering client owed) (live : client.subscription.isLive = true)
    (present : client.gone = false) : client.connected = true := by
  unfold StreamClient.connected
  split
  · rename_i greeting
    rw [held.idle (.inl greeting)] at live
    cases live
  · rename_i closed
    rw [held.idle (.inr closed)] at live
    cases live
  · rw [present]
    rfl

/-- An event that is put into the queue of a stream is owed to it, or its stream ends before. -/
theorem hear_delivering {event : BroadcastEvent} (held : Delivering client owed) (own : client.key = event.key)
    (kept : client.owes owed event = true → client.reading = true ∧ event.json ≠ none) :
    Delivering (client.hear event) (if client.owes owed event then owed ++ [event] else owed) := by
  by_cases room : client.subscription.isLive = true ∧ client.queue.length < Subscription.maxsize
  · have queue : (client.hear event).queue = client.queue ++ [event] := by rw [hear_queue,if_pos room]
    have outlook : (client.hear event).outlook =
        upTo BroadcastEvent.terminal ((client.inflight ++ client.queue) ++ [event]) := by
      rw [StreamClient.outlook,queue,List.append_assoc]
      rfl
    have owned : ∀ found ∈ (client.hear event).events ++ ((client.hear event).inflight ++ (client.hear event).queue),
        found.key = (client.hear event).key := by
      intro found member
      rw [queue] at member
      change found ∈ client.events ++ (client.inflight ++ (client.queue ++ [event])) at member
      rw [← List.append_assoc,← List.append_assoc] at member
      rcases List.mem_append.mp member with before | new
      · rw [List.append_assoc] at before
        exact held.own found before
      · rw [List.mem_singleton.mp new]
        exact own.symm
    have idle : (client.hear event).phase = .greeting ∨ (client.hear event).phase = .closed →
        (client.hear event).subscription.isLive = false := by
      intro phase
      rw [hear_isLive]
      exact held.idle phase
    cases gone : client.gone with
    | true =>
      have unowed : ¬ client.owes owed event = true := by
        rw [owes_iff]
        rintro ⟨_,connected,_⟩
        unfold StreamClient.connected at connected
        split at connected
        · cases connected
        · cases connected
        · rw [gone] at connected
          cases connected
      rw [if_neg unowed]
      exact ⟨held.received,fun present => absurd (gone.symm.trans present) (by simp),owned,
        fun present => absurd (gone.symm.trans present) (by simp),held.ended,idle,
        fun _ present => absurd (gone.symm.trans present) (by simp)⟩
    | false =>
      have complete := held.complete gone
      have connected := live_connected held room.1 gone
      by_cases unended : ∀ earlier ∈ owed, earlier.terminal = false
      · have owes := owes_iff.mpr ⟨own,connected,unended,room.2⟩
        obtain ⟨reading,writable⟩ := kept owes
        rw [if_pos owes]
        have longer : (client.hear event).outlook = client.outlook ++ [event] := by
          rw [outlook,upTo_append_open,upTo_singleton]
          · rfl
          · intro earlier member
            apply unended
            rw [← complete]
            exact List.mem_append_right _ member
        refine ⟨held.received.trans (List.prefix_append owed [event]),?_,owned,?_,held.ended,idle,?_⟩
        · intro _
          rw [longer,← complete,List.append_assoc]
          rfl
        · intro _ found member
          rw [longer] at member
          rcases List.mem_append.mp member with before | new
          · exact held.writable gone found before
          · rw [List.mem_singleton.mp new]
            exact writable
        · intro cancelling
          exact absurd cancelling (reading_live reading).2
      · have unowed : ¬ client.owes owed event = true := fun owes => unended (owes_iff.mp owes).2.2.1
        rw [if_neg unowed]
        simp only [not_forall,Bool.not_eq_false] at unended
        obtain ⟨last,member,terminal⟩ := unended
        rw [← complete] at member
        have ahead : last ∈ client.outlook := by
          rcases List.mem_append.mp member with sent | ahead
          · have idle := held.idle (.inr (held.ended ⟨last,sent,terminal⟩))
            rw [room.1] at idle
            cases idle
          · exact ahead
        have same : (client.hear event).outlook = client.outlook := by
          rw [outlook]
          exact upTo_append_ended _ ⟨last,ahead,terminal⟩ [event]
        refine ⟨held.received,?_,owned,?_,held.ended,idle,?_⟩
        · intro _
          rw [same]
          exact complete
        · intro _ found member
          rw [same] at member
          exact held.writable gone found member
        · intro cancelling _
          have inflight : client.inflight = [] := by
            have phase : client.phase = .cancelling := cancelling
            rw [StreamClient.inflight,phase]
          have nothing : client.outlook = [] := by
            rw [StreamClient.outlook,inflight,held.cancelled cancelling gone]
            rfl
          rw [nothing] at ahead
          cases ahead
  · rw [hear_same room]
    have unowed : ¬ client.owes owed event = true := by
      intro owes
      exact room ⟨(reading_live (kept owes).1).1,(owes_iff.mp owes).2.2.2⟩
    rw [if_neg unowed]
    exact held

end turns

end RevPilot.Investigation
