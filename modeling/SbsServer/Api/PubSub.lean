import SbsServer.Api.Dispatch
import SbsServer.Common.CJsonCodec

/-!
# Publishing to clients

The subscriptions and the outbox of each client, the two `pubsub.*` handlers,
`sbs_api_server_publish` and the timer that empties the outboxes.  What one client
is sent is read off its own subscriptions and the events in their order; the other
clients have no part in it.
-/

namespace SbsServer
namespace Api

open CLib

/-- `topic_matches_pattern`: the pattern is compared up to its first star. -/
def topicMatchesPattern (topic pattern : CStr) : Bool :=
  if pattern = "*" then true
  else if 42 ∈ pattern.bytes then
    (pattern.bytes.takeWhile (· ≠ 42)).isPrefixOf topic.bytes
  else topic = pattern

/-- What publishing uses of a `sbs_api_client_t`. -/
structure PubSubClient where
  connected : Bool
  subscriptions : List CStr
  outbox : List CStr
  /-- The texts given to `send_ws_text`, the oldest first. -/
  sent : List CStr

namespace PubSubClient

/-- `sbs_api_client_matches_topic`. -/
def matchesTopic (client : PubSubClient) (topic : CStr) : Bool :=
  client.subscriptions.any (topicMatchesPattern topic)

/-- `api_service_cb` on one client: `sbs_api_client_take_message` takes the oldest
text until none is left. -/
def service (client : PubSubClient) : PubSubClient :=
  if client.connected then
    { client with outbox := [], sent := client.sent ++ client.outbox }
  else client

/-- The step of `sbs_api_server_publish` for one client. -/
def receive (topic text : CStr) (client : PubSubClient) : PubSubClient :=
  if client.matchesTopic topic then { client with outbox := client.outbox ++ [text] }
  else client

/-- All texts a client was to get, sent or not. -/
def mail (client : PubSubClient) : List CStr :=
  client.sent ++ client.outbox

theorem mail_receive (topic text : CStr) (client : PubSubClient) :
    (client.receive topic text).mail =
      client.mail ++ if client.matchesTopic topic then [text] else [] := by
  unfold receive
  split <;> simp [mail]

end PubSubClient

/-- What publishing uses of a `sbs_api_server_t`. -/
structure PubSub where
  clients : HashTable Nat PubSubClient
  nextClientId : Nat
  /-- `sbs_config_manager_mark_dirty` was called. -/
  dirty : Bool

/-- The strings of `topics`, if it is an array. -/
def topicsOf (params : Option CJson) : Option (List CStr) :=
  let topics := CJson.getObjectItem params "topics"
  if CJson.isArray topics then
    some ((CJson.arrayItems topics).filterMap fun item => CJson.getStringValue (some item))
  else none

/-- The loop of `sbs_api_handle_pubsub_unsubscribe`: each topic takes its first
occurrence away.  The subscriptions left and the topics reported. -/
def unsubscribeLoop : List CStr → List CStr → List CStr × List CStr
  | subscriptions, [] => (subscriptions, [])
  | subscriptions, topic :: rest =>
      if topic ∈ subscriptions then
        let after := unsubscribeLoop (subscriptions.erase topic) rest
        (after.1, topic :: after.2)
      else unsubscribeLoop subscriptions rest

theorem unsubscribeLoop_fst (subscriptions topics : List CStr) :
    (unsubscribeLoop subscriptions topics).1 = subscriptions.diff topics := by
  induction topics generalizing subscriptions with
  | nil => rfl
  | cons topic rest ih =>
      rw [unsubscribeLoop, List.diff_cons]
      split
      next => exact ih _
      next absent => rw [ih, List.erase_of_not_mem absent]

/-- The common part of the two handlers: the answer lists topics under a key. -/
def handleTopics
    (key : CStr)
    (change : List CStr → List CStr → List CStr × List CStr)
    (server : PubSub)
    (client : Option Nat)
    (params : Option CJson) : Reply × PubSub :=
  match client, topicsOf params with
  | some id, some topics =>
      let subscriptions :=
        ((server.clients.lookup id).map PubSubClient.subscriptions).getD []
      let named := (change subscriptions topics).2.map CJson.string
      ({ code := .ok, result := some (.object [(key, .array named)]), error := none },
        { server with clients := server.clients.modify id fun client =>
            { client with subscriptions := (change client.subscriptions topics).1 } })
  | _, _ =>
      ({ code := .inval, result := none,
         error := some (rpcError (-32602) "topics must be an array") }, server)

/-- `sbs_api_handle_pubsub_subscribe`. -/
def handleSubscribe :=
  handleTopics "subscribed" fun subscriptions topics => (subscriptions ++ topics, topics)

/-- `sbs_api_handle_pubsub_unsubscribe`. -/
def handleUnsubscribe :=
  handleTopics "unsubscribed" unsubscribeLoop

/-- The notification of an event. -/
def eventJson (topic : CStr) (data : CJson) : CJson :=
  .object [("jsonrpc", .string "2.0"), ("method", .string "pubsub.event"),
    ("params", .object [("topic", .string topic), ("data", data)])]

/-- The text of the notification. -/
def eventText (topic : CStr) (data : CJson) : CStr :=
  CJson.printUnformatted (eventJson topic data)

/-- Topics that do not mark the configuration as changed. -/
def isTransient (topic : CStr) : Bool :=
  ["telemetry.", "audio.level", "preview.profile."].any fun start : String =>
    (CStr.lit start).bytes.isPrefixOf topic.bytes

/-- `sbs_api_server_publish`. -/
def publish (server : PubSub) (topic : CStr) (data : CJson) : PubSub where
  clients := server.clients.mapValues fun _ client =>
    client.receive topic (eventText topic data)
  nextClientId := server.nextClientId
  dirty := server.dirty || !isTransient topic

/-- What happens to the server. -/
inductive PubSubEvent
  | connect
  | disconnect (client : Nat)
  | subscribe (client : Option Nat) (params : Option CJson)
  | unsubscribe (client : Option Nat) (params : Option CJson)
  | publish (topic : CStr) (data : CJson)
  | service

/-- The server after an event.  A client stays in the table when it is gone: nothing
calls `sbs_api_server_remove_client`. -/
def PubSub.next (server : PubSub) : PubSubEvent → PubSub
  | .connect =>
      { server with
        clients := server.clients.insert server.nextClientId
          { connected := true, subscriptions := [], outbox := [], sent := [] }
        nextClientId := server.nextClientId + 1 }
  | .disconnect id =>
      { server with clients := server.clients.modify id fun client =>
          { client with connected := false } }
  | .subscribe client params => (handleSubscribe server client params).2
  | .unsubscribe client params => (handleUnsubscribe server client params).2
  | .publish topic data => Api.publish server topic data
  | .service =>
      { server with clients := server.clients.mapValues fun _ client => client.service }

/-- The server after events. -/
def PubSub.run (server : PubSub) (events : List PubSubEvent) : PubSub :=
  events.foldl PubSub.next server

/-- The subscriptions of a client after an event. -/
def subscriptionsAfter
    (id : Nat)
    (subscriptions : List CStr) : PubSubEvent → List CStr
  | .subscribe client params =>
      if client = some id then subscriptions ++ (topicsOf params).getD [] else subscriptions
  | .unsubscribe client params =>
      if client = some id then subscriptions.diff ((topicsOf params).getD [])
      else subscriptions
  | _ => subscriptions

/-- The publication that an event is for a client with these subscriptions. -/
def addressedBy (subscriptions : List CStr) : PubSubEvent → List (CStr × CJson)
  | .publish topic data =>
      if subscriptions.any (topicMatchesPattern topic) then [(topic, data)] else []
  | _ => []

/-- The publications that match the subscriptions of a client when they are made. -/
def addressed (id : Nat) : List CStr → List PubSubEvent → List (CStr × CJson)
  | _, [] => []
  | subscriptions, event :: rest =>
      addressedBy subscriptions event ++
        addressed id (subscriptionsAfter id subscriptions event) rest

variable {id : Nat} {server : PubSub} {client : PubSubClient}

theorem publish_mem_of_addressed
    {subscriptions : List CStr}
    {events : List PubSubEvent}
    {publication : CStr × CJson}
    (member : publication ∈ addressed id subscriptions events) :
    .publish publication.1 publication.2 ∈ events := by
  induction events generalizing subscriptions with
  | nil => cases member
  | cons event rest ih =>
      obtain here | later := List.mem_append.mp member
      · cases event with
        | publish topic data =>
            simp only [addressedBy] at here
            split at here
            · simp_all
            · cases here
        | _ => cases here
      · exact .tail _ (ih later)

/-- How a client stands after events, next to how it stood before. -/
structure Follows
    (id : Nat)
    (events : List PubSubEvent)
    (client after : PubSubClient) : Prop where
  subscriptions :
    after.subscriptions = events.foldl (subscriptionsAfter id) client.subscriptions
  mail :
    after.mail = client.mail ++
      (addressed id client.subscriptions events).map fun event => eventText event.1 event.2
  /-- A client that is gone is sent nothing. -/
  gone : client.connected = false → after.connected = false ∧ after.sent = client.sent

/-- A request changes the subscriptions of the client that makes it and nothing else. -/
theorem lookup_handleTopics
    {key : CStr}
    {change : List CStr → List CStr → List CStr × List CStr}
    (nothing : ∀ subscriptions, (change subscriptions []).1 = subscriptions)
    (present : server.clients.lookup id = some client)
    (caller : Option Nat)
    (params : Option CJson) :
    (handleTopics key change server caller params).2.clients.lookup id =
      some { client with
        subscriptions :=
          if caller = some id then
            (change client.subscriptions ((topicsOf params).getD [])).1
          else client.subscriptions } := by
  unfold handleTopics
  split
  next other topics read =>
    rw [HashTable.lookup_modify, present, read]
    by_cases same : id = other <;> simp [same, eq_comm]
  next refused =>
    rw [present]
    split
    next own =>
      have unread : topicsOf params = none :=
        Option.eq_none_iff_forall_ne_some.mpr fun topics read => refused id topics own read
      simp [unread, nothing]
    next => rfl

/-- Only a connection moves the counter of ids. -/
theorem nextClientId_le_next (server : PubSub) (event : PubSubEvent) :
    server.nextClientId ≤ (server.next event).nextClientId := by
  cases event with
  | connect => exact Nat.le_succ _
  | subscribe caller params =>
      simp only [PubSub.next, handleSubscribe, handleTopics]
      split <;> rfl
  | unsubscribe caller params =>
      simp only [PubSub.next, handleUnsubscribe, handleTopics]
      split <;> rfl
  | _ => exact Nat.le_refl _

/-- One event, on a client that was there before. -/
theorem exists_follows_next
    (present : server.clients.lookup id = some client)
    (older : id < server.nextClientId)
    (event : PubSubEvent) :
    ∃ after, (server.next event).clients.lookup id = some after ∧
      Follows id [event] client after := by
  cases event with
  | connect =>
      refine ⟨client, ?_, rfl, by simp [addressed, addressedBy], fun gone => ⟨gone, rfl⟩⟩
      simp only [PubSub.next, HashTable.lookup_insert]
      rw [if_neg (Nat.ne_of_lt older), present]
  | disconnect other =>
      refine ⟨if id = other then { client with connected := false } else client, ?_, ?_⟩
      · simp only [PubSub.next, HashTable.lookup_modify, present]
        split <;> rfl
      · split
        · exact ⟨rfl, (List.append_nil _).symm, fun _ => ⟨rfl, rfl⟩⟩
        · exact ⟨rfl, (List.append_nil _).symm, fun gone => ⟨gone, rfl⟩⟩
  | subscribe caller params =>
      exact ⟨_, lookup_handleTopics (fun _ => List.append_nil _) present caller params,
        rfl, (List.append_nil _).symm, fun gone => ⟨gone, rfl⟩⟩
  | unsubscribe caller params =>
      refine ⟨_, lookup_handleTopics (fun _ => rfl) present caller params, ?_,
        (List.append_nil _).symm, fun gone => ⟨gone, rfl⟩⟩
      simp [subscriptionsAfter, unsubscribeLoop_fst]
  | publish topic data =>
      refine ⟨client.receive topic (eventText topic data), ?_, ?_, ?_, fun gone => ?_⟩
      · simp [PubSub.next, Api.publish, present]
      · unfold PubSubClient.receive
        split <;> rfl
      · rw [PubSubClient.mail_receive]
        unfold PubSubClient.matchesTopic
        simp only [addressed, addressedBy, List.append_nil]
        split <;> rfl
      · unfold PubSubClient.receive
        split <;> exact ⟨gone, rfl⟩
  | service =>
      refine ⟨client.service, ?_, ?_, ?_, fun gone => ?_⟩
      · simp [PubSub.next, present]
      · unfold PubSubClient.service
        split <;> rfl
      · unfold PubSubClient.service
        split <;> simp [PubSubClient.mail, addressed, addressedBy]
      · simp [PubSubClient.service, gone]

/-- In every run a client that was there stays in the table and gets the
publications that match its own subscriptions, each once and in order. -/
theorem exists_follows_run
    (present : server.clients.lookup id = some client)
    (older : id < server.nextClientId)
    (events : List PubSubEvent) :
    ∃ after, (server.run events).clients.lookup id = some after ∧
      Follows id events client after := by
  induction events generalizing server client with
  | nil => exact ⟨client, present, rfl, (List.append_nil _).symm, fun gone => ⟨gone, rfl⟩⟩
  | cons event rest ih =>
      obtain ⟨between, found, first⟩ := exists_follows_next present older event
      obtain ⟨after, last, follows⟩ := ih found
        (Nat.lt_of_lt_of_le older (nextClientId_le_next server event))
      have stands : between.subscriptions =
          subscriptionsAfter id client.subscriptions event := first.subscriptions
      refine ⟨after, last, follows.subscriptions.trans (by rw [stands]; rfl), ?_, ?_⟩
      · rw [follows.mail, first.mail, stands, List.append_assoc, ← List.map_append]
        simp [addressed]
      · intro gone
        obtain ⟨stillGone, nothing⟩ := first.gone gone
        obtain ⟨ended, same⟩ := follows.gone stillGone
        exact ⟨ended, same.trans nothing⟩

/-- Whatever the other clients do and however the timer runs, a client gets the
publications that match its own subscriptions, each once and in order, and reads the
topics and the data back from them. -/
theorem delivery
    {server : PubSub}
    {id : Nat}
    {client : PubSubClient}
    (present : server.clients.lookup id = some client)
    (older : id < server.nextClientId)
    (events : List PubSubEvent)
    (readable : ∀ topic data, .publish topic data ∈ events → ∀ value ∈ data.numbers,
      value.isFinite = true ∧
        Double.readDouble (Double.formatG17 value) = some (value, [])) :
    ∃ after texts, (server.run events).clients.lookup id = some after ∧
      after.sent ++ after.outbox = client.sent ++ client.outbox ++ texts ∧
      texts.map CJson.parse =
        (addressed id client.subscriptions events).map fun event =>
          some (eventJson event.1 event.2) := by
  obtain ⟨after, found, follows⟩ := exists_follows_run present older events
  refine ⟨after, _, found, follows.mail, ?_⟩
  rw [List.map_map]
  refine List.map_congr_left fun event member => ?_
  have good := readable _ _ (publish_mem_of_addressed member)
  have numbers : (eventJson event.1 event.2).numbers = event.2.numbers := by
    simp [eventJson, CJson.numbers, CJson.numbersOfMembers]
  rw [← numbers] at good
  exact CJson.parse_printUnformatted _ (fun value number => (good value number).1)
    fun value number => (good value number).2

/-- A client is connected and has subscribed to everything; another one subscribes and a
source starts. -/
theorem delivery_source_started :
    let start : PubSub := {
      clients := HashTable.insert .empty 1 ⟨true, ["*"], [], []⟩
      nextClientId := 2
      dirty := false }
    ∃ after texts, (start.run [.connect, .publish "source.started" .null, .service]).clients.lookup
        1 = some after ∧ after.sent ++ after.outbox = texts ∧
      texts.map CJson.parse = [some (eventJson "source.started" .null)] := by
  intro start
  obtain ⟨after, texts, found, mail, parsed⟩ := @delivery start 1
    ⟨true, ["*"], [], []⟩ (by rfl) (by decide)
    [.connect, .publish "source.started" .null, .service] (by
      intro topic data member value number
      simp only [List.mem_cons, reduceCtorEq, PubSubEvent.publish.injEq, List.not_mem_nil,
        or_false, false_or] at member
      rw [member.2] at number
      simp [CJson.numbers] at number)
  exact ⟨after, texts, found, mail, parsed⟩

/-- A client that is gone stays in the table: in every run its outbox keeps every
publication that matches its subscriptions, and nothing is taken from it. -/
theorem outbox_of_gone
    {server : PubSub}
    {id : Nat}
    {client : PubSubClient}
    (present : server.clients.lookup id = some client)
    (older : id < server.nextClientId)
    (gone : client.connected = false)
    (events : List PubSubEvent) :
    ∃ after, (server.run events).clients.lookup id = some after ∧
      after.connected = false ∧ after.sent = client.sent ∧
      after.outbox = client.outbox ++
        (addressed id client.subscriptions events).map fun event =>
          eventText event.1 event.2 := by
  obtain ⟨after, found, follows⟩ := exists_follows_run present older events
  obtain ⟨ended, same⟩ := follows.gone gone
  refine ⟨after, found, ended, same, ?_⟩
  have mail := follows.mail
  simp only [PubSubClient.mail, same, List.append_assoc, List.append_cancel_left_eq] at mail
  exact mail

/-- A viewer of the levels closes its page; the levels pile up. -/
theorem outbox_of_gone_viewer :
    let start : PubSub := {
      clients := HashTable.insert .empty 1 ⟨false, ["audio.*"], [], []⟩
      nextClientId := 2
      dirty := false }
    let level : PubSubEvent := .publish "audio.level" .null
    ∃ after, (start.run [level, .service, level]).clients.lookup 1 = some after ∧
      after.sent = [] ∧ after.outbox.length = 2 := by
  intro start level
  obtain ⟨after, found, _, sent, outbox⟩ := @outbox_of_gone start 1
    ⟨false, ["audio.*"], [], []⟩ (by rfl) (by decide) rfl [level, .service, level]
  exact ⟨after, found, sent, by rw [outbox]; decide⟩

end Api
end SbsServer
