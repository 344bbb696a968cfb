import RevPilot.Library.Dict
import RevPilot.Library.PyValue
import RevPilot.Shared.Temporal

/-! The broadcaster of investigation events and the live streams it feeds. A stream is one
task: it runs from one suspension to the next, and between them the tasks of other clients and
the publishers run. -/
namespace RevPilot.Investigation
open Library Shared JsonText

structure BroadcastEvent where
  eventType : String
  investigationId : String
  tenantId : String
  timestamp : String
  data : List (PyKey × PyValue)

abbrev StreamKey := String × String

/-- The event that `publish` makes. -/
def publishedEvent (tenantId investigationId eventType : String) (data : List (PyKey × PyValue)) (now : UtcDateTime) :
    BroadcastEvent where
  eventType := eventType
  investigationId := investigationId
  tenantId := tenantId
  timestamp := now.isoformat
  data := data

def BroadcastEvent.key (event : BroadcastEvent) : StreamKey := (event.tenantId,event.investigationId)

/-- `json.dumps(event)`, if the data can be written. -/
def BroadcastEvent.json (event : BroadcastEvent) : Option String :=
  (PyValue.plainTree (.dict event.data)).map fun data =>
    render ⟨true,true⟩ (.obj [("event_type",.str event.eventType),("investigation_id",.str event.investigationId),
      ("tenant_id",.str event.tenantId),("timestamp",.str event.timestamp),("data",data)])

/-- The event after which the stream stops reading. -/
def BroadcastEvent.terminal (event : BroadcastEvent) : Bool :=
  event.eventType ∈ ["INVESTIGATION_COMPLETED","CANCELLED","FAILED"]

/-- The async generator of a subscription: not started, holding a queue, or finished. -/
inductive Subscription : Type
  | fresh
  | live (queue : List BroadcastEvent)
  | finished

namespace Subscription

/-- `maxsize` of a subscriber queue. -/
def maxsize : Nat := 256

def queue : Subscription → List BroadcastEvent
  | live queue => queue
  | _ => []

def isLive : Subscription → Bool
  | live _ => true
  | _ => false

/-- `put_nowait`; a full queue drops the event. -/
def putNowait (event : BroadcastEvent) : Subscription → Subscription
  | live queue => if queue.length < maxsize then live (queue ++ [event]) else live queue
  | other => other

end Subscription

/-- A part of the response, with the event it was made from. -/
structure StreamChunk where
  text : String
  event : Option BroadcastEvent := none

def connectedChunk (key : StreamKey) (now : UtcDateTime) : StreamChunk where
  text := "event: connected\ndata: " ++ render ⟨true,true⟩ (.obj [("event",.str "CONNECTED"),
    ("investigation_id",.str key.2),("tenant_id",.str key.1),("timestamp",.str now.isoformat)]) ++ "\n\n"

def pingChunk (now : UtcDateTime) : StreamChunk where
  text := "event: ping\ndata: " ++
    render ⟨true,true⟩ (.obj [("event",.str "PING"),("timestamp",.str now.isoformat)]) ++ "\n\n"

def eventChunk (lower : String → String) (event : BroadcastEvent) (json : String) : StreamChunk where
  text := "event: " ++ lower event.eventType ++ "\ndata: " ++ json ++ "\n\n"
  event := some event

/-- Where the task of a stream is suspended, or what it does next. -/
inductive StreamPhase : Type
  | greeting
  | checking
  | asking
  | waiting
  /-- `wait_for` was timed out: the cancellation is on its way to the pending read. -/
  | cancelling
  | sending (event : BroadcastEvent) (json : String)
  | pinging (idleAt : UtcDateTime)
  | closed

structure StreamClient where
  key : StreamKey
  phase : StreamPhase := .greeting
  subscription : Subscription := .fresh
  received : List StreamChunk := []
  gone : Bool := false

namespace StreamClient
variable (client : StreamClient)

/-- A chunk that is sent, unless the client has gone. -/
def receive (chunk : StreamChunk) : StreamClient :=
  if client.gone then client else { client with received := client.received ++ [chunk] }

/-- The end of the stream: `aclose` runs the `finally` of a subscription that still holds a queue. -/
def close : StreamClient := { client with phase := .closed, subscription := .finished }

/-- The event a read returns: an event that cannot be written ends the stream with a `TypeError`. -/
def take (event : BroadcastEvent) (rest : List BroadcastEvent) : StreamClient :=
  match event.json with
  | none => client.close
  | some json => { client with phase := .sending event json, subscription := .live rest }

/-- The task of the stream runs until its next suspension. -/
def advance (lower : String → String) (now : UtcDateTime) : StreamClient :=
  match client.phase, client.subscription with
  | .greeting, _ => { client.receive (connectedChunk client.key now) with phase := .checking }
  | .checking, _ => if client.gone then client.close else { client with phase := .asking }
  -- the first read starts the generator, which registers its queue
  | .asking, .fresh => { client with phase := .waiting, subscription := .live [] }
  | .asking, .live [] => { client with phase := .waiting }
  | .asking, .live (event :: rest) => client.take event rest
  -- a finished generator raises `StopAsyncIteration`
  | .asking, .finished => client.close
  | .waiting, .live (event :: rest) => client.take event rest
  | .waiting, _ => client
  -- the cancelled read runs the `finally` of the generator and finishes it
  | .cancelling, _ => { client with phase := .pinging now, subscription := .finished }
  | .pinging idleAt, _ => { client.receive (pingChunk idleAt) with phase := .checking }
  | .sending event json, _ =>
    let client := client.receive (eventChunk lower event json)
    if event.terminal then client.close else { client with phase := .checking }
  | .closed, _ => client

/-- The timer of `wait_for` fires. -/
def timeout : StreamClient :=
  match client.phase with
  | .waiting => { client with phase := .cancelling }
  | _ => client

/-- The server drops the stream of a client that has gone. -/
def cancel : StreamClient := if client.gone then client.close else client

end StreamClient

/-- The subscriber queues by tenant and investigation, and the streams. A queue is known by the
stream that reads it. -/
structure InvestigationEventBroadcaster where
  subscribers : Dict StreamKey (List Nat) := .empty
  clients : Nat → Option StreamClient := fun _ => none

/-- What can happen between two suspensions. -/
inductive StreamAction : Type
  | connect (client : Nat) (tenantId investigationId : String)
  | publish (tenantId investigationId eventType : String) (data : List (PyKey × PyValue)) (now : UtcDateTime)
  | turn (client : Nat) (now : UtcDateTime)
  | timeout (client : Nat)
  | disconnect (client : Nat)
  | cancel (client : Nat)

namespace InvestigationEventBroadcaster
variable (b : InvestigationEventBroadcaster)

def subscribersOf (key : StreamKey) : List Nat := (b.subscribers.get? key).getD []

/-- The registration in `subscribe`. -/
def register (key : StreamKey) (client : Nat) : Dict StreamKey (List Nat) :=
  b.subscribers.set key ((b.subscribersOf key).insert client)

/-- The `finally` of `subscribe`. -/
def unregister (key : StreamKey) (client : Nat) : Dict StreamKey (List Nat) :=
  match b.subscribers.get? key with
  | none => b.subscribers
  | some queues =>
    if client ∈ queues then
      let queues := queues.filter (· ≠ client)
      if queues = [] then b.subscribers.erase key else b.subscribers.set key queues
    else b.subscribers

/-- A stream after its task ran; its generator registers the queue when it starts, and removes it
when it finishes. -/
def put (number : Nat) (before after : StreamClient) : InvestigationEventBroadcaster where
  subscribers :=
    match before.subscription.isLive, after.subscription.isLive with
    | false, true => b.register before.key number
    | true, false => b.unregister before.key number
    | _, _ => b.subscribers
  clients := Function.update b.clients number (some after)

def publish (event : BroadcastEvent) : InvestigationEventBroadcaster :=
  let queues := b.subscribersOf event.key
  { b with
    clients := fun number =>
      if number ∈ queues then
        (b.clients number).map fun client => { client with subscription := client.subscription.putNowait event }
      else b.clients number }

/-- A new stream of a client. -/
def connect (number : Nat) (key : StreamKey) : InvestigationEventBroadcaster :=
  match b.clients number with
  | none => { b with clients := Function.update b.clients number (some { key := key }) }
  | some _ => b

/-- A change of one stream. -/
def onClient (number : Nat) (change : StreamClient → StreamClient) : InvestigationEventBroadcaster :=
  match b.clients number with
  | none => b
  | some client => b.put number client (change client)

def act (lower : String → String) : StreamAction → InvestigationEventBroadcaster
  | .connect number tenantId investigationId => b.connect number (tenantId,investigationId)
  | .publish tenantId investigationId eventType data now =>
    b.publish (publishedEvent tenantId investigationId eventType data now)
  | .turn number now => b.onClient number (fun client => client.advance lower now)
  | .timeout number => b.onClient number StreamClient.timeout
  | .disconnect number => b.onClient number (fun client => { client with gone := true })
  | .cancel number => b.onClient number StreamClient.cancel

end InvestigationEventBroadcaster
end RevPilot.Investigation
