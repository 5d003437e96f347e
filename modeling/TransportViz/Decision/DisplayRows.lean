import TransportViz.Decision.Summarize
import TransportViz.Library.Cabinet

/-!
# The rows of the table

`displayRows` gives a plain topic a row of its own and a service or action one row for each pair of
participants that talk over it. A grouped topic without pairs has all its endpoints on one side; each
of them goes to a half-open row of its participant.
-/

namespace TransportViz

/-- A topic with its place in `Snapshot::topics`. -/
structure TopicPtr extends TopicSummary where
  address : ℕ
  deriving DecidableEq

/-- A pair with its place in its topic. -/
structure PairPtr extends Pair where
  address : ℕ
  deriving DecidableEq

/-- One line of the table: a plain topic, or a group between two participants. -/
structure DisplayRow where
  kind : TopicKind := .topic
  /-- The plain topic's display name, or the group's ROS name. -/
  name : String := ""
  type : String := ""
  /-- Only a plain row has one. -/
  topic : Option TopicPtr := none
  client : Option EndpointPtr := none
  server : Option EndpointPtr := none
  /-- The client participant's GUID prefix, empty when there is none. -/
  requester : String := ""
  replier : String := ""
  toServer : List (TopicPtr × PairPtr) := []
  toClient : List (TopicPtr × PairPtr) := []
  members : List TopicPtr := []
  /-- Members that contributed no pair. -/
  unpairedMembers : List TopicPtr := []
  unpairedEndpoints : List EndpointPtr := []
  deriving DecidableEq

namespace Decision

open RosNames

def topicPointers (topics : List TopicSummary) : List TopicPtr :=
  topics.zipIdx.map fun it ↦ { toTopicSummary := it.1, address := it.2 }

def pairPointers (t : TopicSummary) : List PairPtr :=
  t.pairs.zipIdx.map fun it ↦ { toPair := it.1, address := it.2 }

/-- Whether the topic is a half of a service or a member of an action. -/
def isGrouped (t : TopicSummary) : Bool := t.kind = .service ∨ t.kind = .action

def toServer (t : TopicSummary) : Bool := t.direction = .toServer

def clientOf (t : TopicSummary) (p : Pair) : EndpointPtr :=
  if toServer t then p.writer else p.reader

def serverOf (t : TopicSummary) (p : Pair) : EndpointPtr :=
  if toServer t then p.reader else p.writer

/-- Whether an endpoint of the topic is on the client's side. -/
def isClient (t : TopicSummary) (e : Endpoint) : Bool := if toServer t then e.isWriter else !e.isWriter

/-- The member's short name inside its group. -/
def memberLabel (t : TopicSummary) : String :=
  let m := parseActionMember t.ddsTopic t.ddsType
  if t.kind = .action ∧ m.matched then m.suffix
  else if ¬isGrouped t then ""
  else if toServer t then "request" else "reply"

/-! ## The type of a group -/

/-- The service type behind a member's type. -/
def serviceTypeStem (displayType : String) : String :=
  let tails := ["_Request_", "_Response_", "_Request", "_Response"]
  match tails.find? fun tail ↦
    tail.toList.length < displayType.toList.length && endsWith displayType tail with
  | some tail => substr displayType 0 tail.toList.length
  | none => displayType

def addDistinct (out : List String) (value : String) : List String :=
  if value ≠ "" ∧ value ∉ out then out ++ [value] else out

def addMember (out : List TopicPtr) (t : TopicPtr) : List TopicPtr :=
  if t ∈ out then out else out ++ [t]

/-- What a member says about the type of its group. -/
def typePart (kind : TopicKind) (t : TopicSummary) : String :=
  if kind = .action then (parseActionMember t.ddsTopic t.ddsType).actionType
  else serviceTypeStem t.displayType

def groupType (row : DisplayRow) : String :=
  "|".intercalate (row.members.foldl (fun parts t ↦ addDistinct parts (typePart row.kind
    t.toTopicSummary)) [])

/-! ## Finding the row -/

/-- A row is found by group name, requester and replier. -/
abbrev RowKey := String ×ₗ String ×ₗ String

def prefixOf (e : Option EndpointPtr) : String := (e.map (·.participantGuidPrefix)).getD ""

def rowKey (t : TopicSummary) (client server : Option EndpointPtr) : RowKey :=
  toLex (t.group, toLex ( prefixOf client, prefixOf server))

def freshRow (t : TopicSummary) (client server : Option EndpointPtr) : DisplayRow where
  kind := t.kind
  name := t.group
  requester := prefixOf client
  replier := prefixOf server
  client := client
  server := server

abbrev RowTable := Cabinet RowKey DisplayRow

def rowFor (table : RowTable) (t : TopicSummary) (client server : Option EndpointPtr) :
    RowTable × ℕ :=
  table.rowFor (rowKey t client server) (freshRow t client server)

/-! ## Filling the rows -/

def plainRow (t : TopicPtr) : DisplayRow where
  kind := t.kind
  name := t.displayTopic
  type := t.displayType
  topic := some t
  members := [t]

def addPair (row : DisplayRow) (t : TopicPtr) (p : PairPtr) : DisplayRow :=
  { row with
    toServer := if toServer t.toTopicSummary then row.toServer ++ [(t, p)] else row.toServer
    toClient := if toServer t.toTopicSummary then row.toClient else row.toClient ++ [(t, p)]
    members := addMember row.members t }

def addUnpaired (row : DisplayRow) (t : TopicPtr) (e : EndpointPtr) : DisplayRow :=
  { row with
    members := addMember row.members t
    unpairedMembers := addMember row.unpairedMembers t
    unpairedEndpoints := row.unpairedEndpoints ++ [e] }

def placePair (t : TopicPtr) (table : RowTable) (p : PairPtr) : RowTable :=
  let client := clientOf t.toTopicSummary p.toPair
  let server := serverOf t.toTopicSummary p.toPair
  let found := rowFor table t.toTopicSummary (some client) (some server)
  found.1.edit found.2 (addPair · t p)

def placeUnpaired (t : TopicPtr) (table : RowTable) (e : EndpointPtr) : RowTable :=
  let client := if isClient t.toTopicSummary e.toEndpoint then some e else none
  let server := if isClient t.toTopicSummary e.toEndpoint then none else some e
  let found := rowFor table t.toTopicSummary client server
  found.1.edit found.2 (addUnpaired · t e)

def placeTopic (table : RowTable) (t : TopicPtr) : RowTable :=
  if ¬isGrouped t.toTopicSummary then table.append (plainRow t)
  else
    let table := (pairPointers t.toTopicSummary).foldl (placePair t) table
    -- pairs are writers x readers, so a topic without pairs has endpoints on one side only
    if t.pairs ≠ [] then table
    else (t.writers ++ t.readers).foldl (placeUnpaired t) table

def nameType (row : DisplayRow) : DisplayRow :=
  { row with type := if row.topic = none then groupType row else row.type }

def sortKey (row : DisplayRow) : RowKey := toLex (row.name, toLex (row.requester, row.replier))

def displayRows (topics : List TopicSummary) : List DisplayRow :=
  (((topicPointers topics).foldl placeTopic {}).rows.map nameType).insertionSort
    fun a b ↦ sortKey a ≤ sortKey b

end Decision

end TransportViz
