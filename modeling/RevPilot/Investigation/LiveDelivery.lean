import RevPilot.Investigation.StreamTurns
import RevPilot.Library.Runs

/-! What the live streams receive, whatever the order of their turns, the publishers and the idle
timers. -/
namespace RevPilot.Investigation
open Library Shared Runs

/-- The streams with the events that each is to deliver. -/
structure StreamRun where
  broadcaster : InvestigationEventBroadcaster := {}
  owed : Nat → List BroadcastEvent := fun _ => []

namespace StreamRun
variable (r : StreamRun)

def owedAfter (event : BroadcastEvent) (number : Nat) : List BroadcastEvent :=
  match r.broadcaster.clients number with
  | some client => if client.owes (r.owed number) event then r.owed number ++ [event] else r.owed number
  | none => r.owed number

end StreamRun

variable (lower : String → String)

def streamStep (r : StreamRun) (action : StreamAction) : StreamRun where
  broadcaster := r.broadcaster.act lower action
  owed :=
    match action with
    | .publish tenantId investigationId eventType data now =>
      r.owedAfter (publishedEvent tenantId investigationId eventType data now)
    | _ => r.owed

/-- Every stream has received the first of the events owed to it, each once and in their order, and no
others; and the turns of its own task deliver the rest unless its client has gone. -/
def Delivers (r : StreamRun) : Prop :=
  ∀ number client, r.broadcaster.clients number = some client →
    client.events <+: r.owed number ∧ (∀ event ∈ client.events, event.key = client.key) ∧
    (client.gone = false → ∃ turns, ∀ times : List UtcDateTime, turns ≤ times.length →
      ∃ after, (run (streamStep lower) r (times.map (.turn number))).broadcaster.clients number = some after ∧
        after.events = r.owed number)

/-- Events are published while the streams that are to deliver them read, and can be written; a read
is not timed out while its queue holds an event. -/
def KeepsReading (r : StreamRun) (action : StreamAction) : Prop :=
  match action with
  | .publish tenantId investigationId eventType data now =>
    ∀ number client, r.broadcaster.clients number = some client →
      client.owes (r.owed number) (publishedEvent tenantId investigationId eventType data now) = true →
        client.reading = true ∧ (publishedEvent tenantId investigationId eventType data now).json ≠ none
  | .timeout number =>
    ∀ client, r.broadcaster.clients number = some client → client.phase = .waiting → client.gone = false →
      client.queue = []
  | _ => True

section registration
variable {b : InvestigationEventBroadcaster}

/-- A queue is registered for a pair exactly while a stream of the pair holds it. -/
def Registered (b : InvestigationEventBroadcaster) : Prop :=
  ∀ key number, number ∈ b.subscribersOf key ↔
    ∃ client, b.clients number = some client ∧ client.key = key ∧ client.subscription.isLive = true

theorem register_mem (key asked : StreamKey) (number other : Nat) :
    other ∈ ((b.register key number).get? asked).getD [] ↔
      (asked = key ∧ other = number) ∨ other ∈ b.subscribersOf asked := by
  unfold InvestigationEventBroadcaster.register
  rw [Dict.get?_set]
  by_cases same : asked = key
  · subst same
    simp [List.mem_insert_iff]
  · simp [same,InvestigationEventBroadcaster.subscribersOf]

theorem unregister_mem (key asked : StreamKey) (number other : Nat) :
    other ∈ ((b.unregister key number).get? asked).getD [] ↔
      other ∈ b.subscribersOf asked ∧ ¬ (asked = key ∧ other = number) := by
  unfold InvestigationEventBroadcaster.unregister InvestigationEventBroadcaster.subscribersOf
  cases known : b.subscribers.get? key with
  | none =>
    have absent : asked = key → b.subscribers.get? asked = none := fun same => same ▸ known
    by_cases same : asked = key
    · simp [absent same]
    · simp [same]
  | some queues =>
    by_cases inside : number ∈ queues
    · by_cases same : asked = key
      · subst same
        simp only [known,if_pos inside,Option.getD_some,true_and]
        split
        · rename_i last
          rw [Dict.get?_erase,if_pos rfl]
          have only := List.filter_eq_nil_iff.mp last
          simp only [Option.getD_none,List.not_mem_nil,false_iff,not_and,not_not]
          intro member
          simpa using only other member
        · rw [Dict.get?_set_self]
          simp [List.mem_filter]
      · simp only [if_pos inside]
        split
        · rw [Dict.get?_erase,if_neg same]
          simp [same]
        · rw [Dict.get?_set_ne _ _ same]
          simp [same]
    · simp only [if_neg inside]
      constructor
      · intro member
        refine ⟨member,?_⟩
        rintro ⟨rfl,rfl⟩
        rw [known] at member
        exact inside member
      · intro member
        exact member.1

theorem put_registered {number : Nat} {before after : StreamClient} (registered : Registered b)
    (known : b.clients number = some before) (key : after.key = before.key) :
    Registered (b.put number before after) := by
  intro asked other
  have old := registered asked other
  have clients : (b.put number before after).clients other =
      if other = number then some after else b.clients other := by
    simp [InvestigationEventBroadcaster.put,Function.update_apply]
  have members : other ∈ (b.put number before after).subscribersOf asked ↔
      if other = number then before.key = asked ∧ after.subscription.isLive = true else other ∈ b.subscribersOf asked := by
    by_cases own : other = number
    · subst own
      have held : other ∈ b.subscribersOf asked ↔ before.key = asked ∧ before.subscription.isLive = true := by
        rw [old,known]
        simp
      rw [if_pos rfl]
      unfold InvestigationEventBroadcaster.put
      cases was : before.subscription.isLive with
      | false =>
        rw [was] at held
        cases becomes : after.subscription.isLive with
        | false => exact held
        | true =>
          refine (register_mem before.key asked other other).trans ?_
          rw [held]
          simp [eq_comm]
      | true =>
        rw [was] at held
        cases becomes : after.subscription.isLive with
        | false =>
          refine (unregister_mem before.key asked other other).trans ?_
          rw [held]
          simp [eq_comm]
        | true => exact held
    · rw [if_neg own]
      unfold InvestigationEventBroadcaster.put
      cases before.subscription.isLive with
      | false =>
        cases after.subscription.isLive with
        | false => exact Iff.rfl
        | true =>
          refine (register_mem before.key asked number other).trans ?_
          simp [own]
      | true =>
        cases after.subscription.isLive with
        | false =>
          refine (unregister_mem before.key asked number other).trans ?_
          simp [own]
        | true => exact Iff.rfl
  rw [members,clients]
  by_cases own : other = number
  · simp [own,key]
  · simp only [if_neg own]
    exact old

theorem hear_registered (event : BroadcastEvent) (registered : Registered b) : Registered (b.publish event) := by
  intro key number
  rw [InvestigationEventBroadcaster.subscribersOf]
  change number ∈ b.subscribersOf key ↔ _
  rw [registered key number]
  unfold InvestigationEventBroadcaster.publish
  dsimp only
  split
  · cases b.clients number with
    | none => simp
    | some client =>
      have live := @hear_isLive client event
      rw [StreamClient.hear] at live
      simp [live]
  · rfl

end registration


section runs
variable {r : StreamRun} {action : StreamAction}

structure Consistent (r : StreamRun) : Prop where
  registered : Registered r.broadcaster
  delivering : ∀ number client, r.broadcaster.clients number = some client → Delivering client (r.owed number)
  unconnected : ∀ number, r.broadcaster.clients number = none → r.owed number = []

/-- A step of one stream alone. -/
theorem onClient_sound {number : Nat} {change : StreamClient → StreamClient} (sound : Consistent r)
    (key : ∀ client, (change client).key = client.key)
    (keeps : ∀ client, r.broadcaster.clients number = some client → Delivering client (r.owed number) →
      Delivering (change client) (r.owed number)) : Consistent ⟨r.broadcaster.onClient number change,r.owed⟩ := by
  unfold InvestigationEventBroadcaster.onClient
  cases known : r.broadcaster.clients number with
  | none => exact sound
  | some before =>
    constructor
    · exact put_registered sound.registered known (key before)
    · intro other client stored
      change Function.update r.broadcaster.clients number (some (change before)) other = some client at stored
      rw [Function.update_apply] at stored
      split at stored
      · rename_i same
        cases stored
        rw [same]
        exact keeps before known (sound.delivering number before known)
      · exact sound.delivering other client stored
    · intro other absent
      change Function.update r.broadcaster.clients number (some (change before)) other = none at absent
      rw [Function.update_apply] at absent
      split at absent
      · cases absent
      · exact sound.unconnected other absent

theorem connect_sound (number : Nat) (key : StreamKey) (sound : Consistent r) :
    Consistent ⟨r.broadcaster.connect number key,r.owed⟩ := by
  unfold InvestigationEventBroadcaster.connect
  cases known : r.broadcaster.clients number with
  | some client => exact sound
  | none =>
    constructor
    · intro asked other
      refine (sound.registered asked other).trans ?_
      dsimp only
      rw [Function.update_apply]
      split
      · rename_i same
        subst same
        simp [known,Subscription.isLive]
      · exact Iff.rfl
    · intro other client stored
      dsimp only at stored
      rw [Function.update_apply] at stored
      split at stored
      · rename_i same
        cases stored
        rw [same]
        change Delivering _ (r.owed number)
        rw [sound.unconnected number known]
        refine ⟨List.prefix_refl [],fun _ => rfl,?_,?_,?_,fun _ => rfl,fun _ _ => rfl⟩
        · intro event member
          cases member
        · intro _ event member
          cases member
        · rintro ⟨event,member,_⟩
          cases member
      · exact sound.delivering other client stored
    · intro other absent
      dsimp only at absent
      rw [Function.update_apply] at absent
      split at absent
      · cases absent
      · exact sound.unconnected other absent

theorem publish_sound (event : BroadcastEvent) (sound : Consistent r)
    (kept : ∀ number client, r.broadcaster.clients number = some client →
      client.owes (r.owed number) event = true → client.reading = true ∧ event.json ≠ none) :
    Consistent ⟨r.broadcaster.publish event,r.owedAfter event⟩ := by
  constructor
  · exact hear_registered event sound.registered
  · intro number client stored
    cases known : r.broadcaster.clients number with
    | none =>
      simp [InvestigationEventBroadcaster.publish,known] at stored
    | some before =>
      have held := sound.delivering number before known
      have owed : r.owedAfter event number =
          if before.owes (r.owed number) event then r.owed number ++ [event] else r.owed number := by
        simp only [StreamRun.owedAfter,known]
      change Delivering client (r.owedAfter event number)
      rw [owed]
      simp only [InvestigationEventBroadcaster.publish,known,Option.map_some] at stored
      split at stored
      · rename_i listed
        cases stored
        obtain ⟨found,same,own,_⟩ := (sound.registered event.key number).mp listed
        rw [known] at same
        cases same
        exact hear_delivering held own (kept number before known)
      · rename_i unlisted
        cases stored
        have unowed : ¬ client.owes (r.owed number) event = true := by
          intro owes
          apply unlisted
          rw [sound.registered event.key number]
          exact ⟨client,known,(owes_iff.mp owes).1,(reading_live (kept number client known owes).1).1⟩
        rw [if_neg unowed]
        exact held
  · intro number absent
    have unknown : r.broadcaster.clients number = none := by
      cases known : r.broadcaster.clients number with
      | none => rfl
      | some client =>
        simp only [InvestigationEventBroadcaster.publish,known,Option.map_some] at absent
        split at absent
        · cases absent
        · cases absent
    change r.owedAfter event number = []
    simp only [StreamRun.owedAfter,unknown]
    exact sound.unconnected number unknown

theorem advance_key (client : StreamClient) (now : UtcDateTime) : (client.advance lower now).key = client.key := by
  unfold StreamClient.advance
  split <;> try rfl
  · exact receive_key _
  · split
    · rfl
    · rfl
  · unfold StreamClient.take
    split
    · rfl
    · rfl
  · unfold StreamClient.take
    split
    · rfl
    · rfl
  · exact receive_key _
  · dsimp only
    split
    · exact receive_key _
    · exact receive_key _

theorem streamStep_sound (sound : Consistent r) (kept : KeepsReading r action) : Consistent (streamStep lower r action) := by
  cases action with
  | connect number tenantId investigationId => exact connect_sound number (tenantId,investigationId) sound
  | publish tenantId investigationId eventType data now => exact publish_sound _ sound kept
  | turn number now =>
    apply onClient_sound sound (fun client => advance_key lower client now)
    intro client _ held
    exact advance_delivering lower now held
  | timeout number =>
    apply onClient_sound sound
    · intro client
      unfold StreamClient.timeout
      split
      · rfl
      · rfl
    · intro client known held
      exact timeout_delivering held (kept client known)
  | disconnect number =>
    refine onClient_sound sound (fun _ => rfl) ?_
    intro client _ held
    exact disconnect_delivering held
  | cancel number =>
    apply onClient_sound sound
    · intro client
      unfold StreamClient.cancel
      split
      · rfl
      · rfl
    · intro client _ held
      exact cancel_delivering held

end runs


section progress
variable {client after : StreamClient} {owed : List BroadcastEvent}

/-- How far a task is from its next chunk. -/
def StreamPhase.rank : StreamPhase → Nat
  | .closed => 0
  | .sending _ _ => 1
  | .asking | .waiting => 2
  | .checking => 3
  | .greeting | .pinging _ => 4
  | .cancelling => 5

/-- A bound on the turns until everything is sent. -/
def StreamClient.distance (client : StreamClient) : Nat :=
  match client.outlook with
  | [] => 0
  | _ :: rest => (rest.length + 1) * 6 + client.phase.rank

theorem distance_settled (nothing : after.outlook = []) : after.distance ≤ client.distance - 1 := by
  have zero : after.distance = 0 := by rw [StreamClient.distance,nothing]
  omega

theorem distance_closer (outlook : after.outlook = client.outlook) (rank : after.phase.rank < client.phase.rank) :
    after.distance ≤ client.distance - 1 := by
  unfold StreamClient.distance
  rw [outlook]
  cases client.outlook with
  | nil => exact Nat.zero_le _
  | cons event rest =>
    dsimp only
    omega

theorem distance_sent {event : BroadcastEvent} (outlook : client.outlook = event :: after.outlook)
    (sending : 1 ≤ client.phase.rank) (rank : after.phase.rank ≤ 3) : after.distance ≤ client.distance - 1 := by
  unfold StreamClient.distance
  rw [outlook]
  cases after.outlook with
  | nil => exact Nat.zero_le _
  | cons next rest =>
    dsimp only [List.length_cons]
    omega

theorem take_distance {event : BroadcastEvent} {rest : List BroadcastEvent} (unsent : client.inflight = [])
    (queued : client.subscription = .live (event :: rest)) (rank : 1 < client.phase.rank) :
    (client.take event rest).distance ≤ client.distance - 1 := by
  unfold StreamClient.take
  cases event.json with
  | none => exact distance_settled rfl
  | some json =>
    refine distance_closer ?_ rank
    unfold StreamClient.outlook StreamClient.queue
    rw [unsent,queued]
    rfl

/-- Each turn of the task brings the end of its outlook nearer. -/
theorem advance_distance (now : UtcDateTime) (held : Delivering client owed) (present : client.gone = false) :
    (client.advance lower now).distance ≤ client.distance - 1 := by
  obtain ⟨key,phase,subscription,received,gone⟩ := client
  obtain rfl : gone = false := present
  cases phase with
  | greeting => exact distance_closer rfl (Nat.lt_succ_self 3)
  | pinging idleAt => exact distance_closer rfl (Nat.lt_succ_self 3)
  | checking => exact distance_closer rfl (Nat.lt_succ_self 2)
  | cancelling => exact distance_settled rfl
  | closed =>
    have deaf := held.idle (.inr rfl)
    cases subscription with
    | live queue => cases deaf
    | fresh => exact distance_settled rfl
    | finished => exact distance_settled rfl
  | asking =>
    cases subscription with
    | fresh => exact distance_settled rfl
    | finished => exact distance_settled rfl
    | live queue =>
      cases queue with
      | nil => exact distance_settled rfl
      | cons event rest => exact take_distance rfl rfl (Nat.lt_succ_self 1)
  | waiting =>
    cases subscription with
    | fresh => exact distance_settled rfl
    | finished => exact distance_settled rfl
    | live queue =>
      cases queue with
      | nil => exact distance_settled rfl
      | cons event rest => exact take_distance rfl rfl (Nat.lt_succ_self 1)
  | sending event json =>
    unfold StreamClient.advance
    dsimp only
    by_cases terminal : event.terminal = true
    · rw [if_pos terminal]
      exact distance_settled rfl
    · rw [if_neg terminal]
      apply @distance_sent _ _ event
      · change upTo BroadcastEvent.terminal (event :: subscription.queue) = _
        rw [upTo,if_neg terminal]
        rfl
      · exact Nat.le_refl 1
      · exact Nat.le_refl 3

theorem advance_gone (client : StreamClient) (now : UtcDateTime) : (client.advance lower now).gone = client.gone := by
  unfold StreamClient.advance
  split <;> try rfl
  · exact receive_gone _
  · split
    · rfl
    · rfl
  · unfold StreamClient.take
    split
    · rfl
    · rfl
  · unfold StreamClient.take
    split
    · rfl
    · rfl
  · exact receive_gone _
  · dsimp only
    split
    · exact receive_gone _
    · exact receive_gone _

/-- The stream after turns of its task alone. -/
def StreamClient.advances (client : StreamClient) (times : List UtcDateTime) : StreamClient :=
  times.foldl (fun client now => client.advance lower now) client

theorem advances_distance (times : List UtcDateTime) (held : Delivering client owed) (present : client.gone = false) :
    (client.advances lower times).distance ≤ client.distance - times.length ∧
      Delivering (client.advances lower times) owed ∧ (client.advances lower times).gone = false := by
  induction times generalizing client with
  | nil => exact ⟨Nat.le_refl _,held,present⟩
  | cons now times ih =>
    have closer := advance_distance lower now held present
    obtain ⟨bound,later,still⟩ := ih (advance_delivering lower now held) ((advance_gone lower client now).trans present)
    refine ⟨?_,later,still⟩
    change ((client.advance lower now).advances lower times).distance ≤ client.distance - (times.length + 1)
    omega

theorem enough_turns {times : List UtcDateTime} (held : Delivering client owed) (present : client.gone = false)
    (enough : client.distance ≤ times.length) : (client.advances lower times).events = owed := by
  obtain ⟨bound,later,still⟩ := advances_distance lower times held present
  have nothing : (client.advances lower times).outlook = [] := by
    cases ahead : (client.advances lower times).outlook with
    | nil => rfl
    | cons event rest =>
      have far : (rest.length + 1) * 6 ≤ (client.advances lower times).distance := by
        rw [StreamClient.distance,ahead]
        exact Nat.le_add_right _ _
      omega
  have complete := later.complete still
  rw [nothing,List.append_nil] at complete
  exact complete

/-- Turns of one task change nothing but its stream. -/
theorem turns_client (number : Nat) (times : List UtcDateTime) {r : StreamRun}
    (known : r.broadcaster.clients number = some client) :
    (run (streamStep lower) r (times.map (.turn number))).broadcaster.clients number =
      some (client.advances lower times) := by
  induction times generalizing r client with
  | nil => exact known
  | cons now times ih =>
    rw [List.map_cons,run_cons]
    have next : (streamStep lower r (.turn number now)).broadcaster.clients number =
        some (client.advance lower now) := by
      change (r.broadcaster.onClient number _).clients number = _
      unfold InvestigationEventBroadcaster.onClient
      rw [known]
      exact Function.update_self number _ _
    exact ih next

theorem sound_delivers {r : StreamRun} (sound : Consistent r) : Delivers lower r := by
  intro number client known
  have held := sound.delivering number client known
  refine ⟨held.received,?_,?_⟩
  · intro event member
    exact held.own event (List.mem_append_left _ member)
  · intro present
    refine ⟨client.distance,?_⟩
    intro times enough
    exact ⟨_,turns_client lower number times known,enough_turns lower held present enough⟩

/-- In every order of turns, publications and timers that keeps the streams reading, each stream
delivers what is owed to it. -/
theorem live_delivery {actions : List StreamAction} (kept : Along (streamStep lower) KeepsReading {} actions) :
    Always (streamStep lower) (Delivers lower) {} actions := by
  have sound : Always (streamStep lower) Consistent {} actions := by
    refine invariant_always (streamStep lower) ?_ ?_ kept
    · intro r action sound fits
      exact streamStep_sound lower sound fits
    · constructor
      · intro key number
        constructor
        · intro member
          cases member
        · rintro ⟨client,known,_⟩
          cases known
      · intro number client known
        cases known
      · intro number _
        rfl
  exact always_mono (streamStep lower) (fun r => sound_delivers lower) sound

theorem closed_advances (times : List UtcDateTime) (closed : client.phase = .closed) :
    client.advances lower times = client := by
  induction times with
  | nil => rfl
  | cons now times ih =>
    have same : client.advance lower now = client := by
      unfold StreamClient.advance
      rw [closed]
    change (client.advance lower now).advances lower times = client
    rw [same]
    exact ih

end progress

section examples

def openStream : List StreamAction :=
  [.connect 0 "tnt_acme" "inv_1",.turn 0 ⟨0⟩,.turn 0 ⟨1⟩,.turn 0 ⟨2⟩]

def statusChanged : StreamAction := .publish "tnt_acme" "inv_1" "STATUS_CHANGED" [] ⟨3⟩

theorem open_stream_delivers : Always (streamStep id) (Delivers id) {} (openStream ++ [statusChanged]) := by
  apply live_delivery
  refine ⟨trivial,trivial,trivial,trivial,?_,trivial⟩
  intro number client known _
  cases number with
  | zero =>
    cases known
    refine ⟨rfl,?_⟩
    intro unwritten
    cases unwritten
  | succ number => cases known

/-- After an idle timeout the stream reads no more: the next event is lost and the stream closes. -/
theorem idle_stream_loses : ¬ Always (streamStep id) (Delivers id) {} (openStream ++
    [.timeout 0,.turn 0 ⟨15⟩,statusChanged,.turn 0 ⟨16⟩,.turn 0 ⟨17⟩,.turn 0 ⟨18⟩]) := by
  intro always
  have delivers : Delivers id _ := always _ [] (List.append_nil _).symm
  obtain ⟨_,_,eventually⟩ := delivers 0 _ rfl
  obtain ⟨turns,enough⟩ := eventually rfl
  obtain ⟨after,known,events⟩ := enough (List.replicate turns ⟨0⟩) (by simp)
  rw [turns_client id 0 _ rfl,closed_advances id _ rfl] at known
  cases known
  cases events

end examples

end RevPilot.Investigation
