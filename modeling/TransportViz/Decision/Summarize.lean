import Mathlib.Data.Finset.Card
import Mathlib.Data.List.Sort
import TransportViz.Decision.Predict
import TransportViz.Model.RosNames

/-!
# From discovered endpoints to topics

`summarize` groups the endpoints by DDS topic, pairs every writer with every reader, sorts the topics
by the name they are shown under and classifies them. `filterByNode` keeps the pairs in which a
matching node takes part, with the endpoints of matching nodes.
-/

namespace TransportViz.Decision

open RosNames

/-! ## Native-buffer codes -/

def kBufferCompanionSuffix : String := "/_buf_cpu"

def isBufferCompanionTopic (ddsTopic : String) : Bool :=
  kBufferCompanionSuffix.toList.length < ddsTopic.toList.length &&
    endsWith ddsTopic kBufferCompanionSuffix

/-- The native-buffer codes of a pair's (or an unpaired topic's) endpoints. -/
def bufferCodes (endpoints : List EndpointPtr) : List String :=
  (if endpoints.any fun e ↦ e.bufferCompanionGuids ≠ [] then ["buffer-companion-folded"] else []) ++
  (if endpoints.any fun e ↦ e.bufferParentGuid ≠ "" then ["buffer-companion"] else []) ++
  (if endpoints.any fun e ↦ e.bufferParentGuid = "" && isBufferCompanionTopic e.ddsTopic then
    ["buffer-companion-unmatched"] else [])

/-- Why a topic has no pair. -/
def unmatchedReasons (writers readers : List EndpointPtr) (pairs : List Pair) : List String :=
  (if writers = [] then ["no-matching-writer"] else []) ++
  (if readers = [] then ["no-matching-reader"] else []) ++
  (if pairs = [] then bufferCodes (writers ++ readers) else [])

/-! ## Classifying topics -/

/-- What the DDS name alone says of a topic. -/
def classifyName (t : TopicSummary) : TopicSummary :=
  let ros := demangleTopic t.ddsTopic
  match ros.kind with
  | .topic => { t with kind := .topic, group := "", direction := .none }
  | .serviceRequest => { t with kind := .service, group := ros.name, direction := .toServer }
  | .serviceReply => { t with kind := .service, group := ros.name, direction := .toClient }
  | .notRos => { t with kind := .other, group := "", direction := .none }

/-- What the topics say about each action name. -/
structure ActionCandidates where
  members : OrderedMap String (List ℕ) := .empty
  everyMemberTypeOk : OrderedMap String Bool := .empty
  namedTypes : OrderedMap String (Finset String) := .empty

def ActionCandidates.note (candidates : ActionCandidates) (t : TopicSummary) (index : ℕ) :
    ActionCandidates :=
  let m := parseActionMember t.ddsTopic t.ddsType
  if ¬m.matched then candidates
  else
    { members := candidates.members.alter m.action fun indices ↦ indices.getD [] ++ [index]
      everyMemberTypeOk := candidates.everyMemberTypeOk.alter m.action fun ok ↦
        ok.getD true && m.typeOk
      namedTypes :=
        if m.actionType ≠ "" then
          candidates.namedTypes.alter m.action fun types ↦ insert m.actionType (types.getD ∅)
        else candidates.namedTypes }

/-- Every member carries its own type, and those that name the action name one and the same. -/
def ActionCandidates.isAction (candidates : ActionCandidates) (action : String) : Bool :=
  (candidates.everyMemberTypeOk.find? action).getD false &&
    ((candidates.namedTypes.find? action).getD ∅).card = 1

def markAction (action : String) (t : TopicSummary) : TopicSummary :=
  { t with
    kind := .action
    group := action
    direction :=
      if (demangleTopic t.ddsTopic).kind = .serviceRequest then .toServer else .toClient }

def classifyTopics (topics : List TopicSummary) : List TopicSummary :=
  let named := topics.map classifyName
  let candidates := named.zipIdx.foldl
    (fun (acc : ActionCandidates) it ↦ acc.note it.1 it.2) {}
  candidates.members.entries.foldl
    (fun acc entry ↦
      if candidates.isAction entry.1 then
        entry.2.foldl (fun acc index ↦ acc.modify index (markAction entry.1)) acc
      else acc)
    named

/-! ## Grouping and pairing -/

/-- The endpoints with their places in the snapshot. -/
def pointers (endpoints : List Endpoint) : List EndpointPtr :=
  endpoints.zipIdx.map fun it ↦ { toEndpoint := it.1, address := it.2 }

/-- The names of a topic are those of its first endpoint. -/
def nameTopic (t : TopicSummary) (e : EndpointPtr) : TopicSummary :=
  if t.ddsTopic ≠ "" then t
  else
    { t with
      ddsTopic := e.ddsTopic
      isRosTopic := e.rosTopic ≠ ""
      displayTopic := if e.rosTopic ≠ "" then e.rosTopic else e.ddsTopic
      displayType := if e.rosType ≠ "" then e.rosType else e.ddsType
      ddsType := e.ddsType }

def addEndpoint (t : TopicSummary) (e : EndpointPtr) : TopicSummary :=
  let t := nameTopic t e
  if e.isWriter then { t with writers := t.writers ++ [e] }
  else { t with readers := t.readers ++ [e] }

variable [Fnmatch]

def freshPair (writer reader : EndpointPtr) : Pair where
  writer := writer
  reader := reader
  verdict := (Decision.decide writer.toEndpoint reader.toEndpoint).addReasons
    (bufferCodes [writer, reader])

/-- Every writer with every reader. -/
def freshPairs (writers readers : List EndpointPtr) : List Pair :=
  writers.flatMap fun w ↦ readers.map fun r ↦ freshPair w r

def pairTopic (t : TopicSummary) : TopicSummary :=
  { t with
    pairs := freshPairs t.writers t.readers
    unmatchedReasons := t.unmatchedReasons ++
      Decision.unmatchedReasons t.writers t.readers (freshPairs t.writers t.readers) }

def summarize (endpoints : List Endpoint) : List TopicSummary :=
  let byTopic := (pointers endpoints).foldl
    (fun map e ↦ map.alter e.ddsTopic fun t ↦ addEndpoint (t.getD {}) e)
    (OrderedMap.empty : OrderedMap String TopicSummary)
  classifyTopics ((byTopic.values.map pairTopic).insertionSort
    fun a b ↦ a.displayTopic ≤ b.displayTopic)

omit [Fnmatch] in
theorem mem_pointers_iff (endpoints : List Endpoint) (e : EndpointPtr) :
    e ∈ pointers endpoints ↔ endpoints[e.address]? = some e.toEndpoint := by
  simp only [pointers, List.mem_map, Prod.exists, List.mem_zipIdx_iff_getElem?]
  constructor
  · rintro ⟨endpoint, index, hget, rfl⟩
    exact hget
  · intro hget
    exact ⟨e.toEndpoint, e.address, hget, rfl⟩

omit [Fnmatch] in
theorem mem_of_mem_pointers {endpoints : List Endpoint} {e : EndpointPtr}
    (he : e ∈ pointers endpoints) : e.toEndpoint ∈ endpoints :=
  List.mem_of_getElem? ((mem_pointers_iff endpoints e).mp he)

omit [Fnmatch] in
theorem exists_pointer {endpoints : List Endpoint} {e : Endpoint} (he : e ∈ endpoints) :
    ∃ pointer ∈ pointers endpoints, pointer.toEndpoint = e := by
  obtain ⟨index, hindex⟩ := List.getElem?_of_mem he
  exact ⟨⟨e, index⟩, (mem_pointers_iff endpoints _).mpr hindex, rfl⟩

/-! ## The node filter -/

def matchingEndpoints (nodeMatches : Endpoint → Bool) (t : TopicSummary) : Finset EndpointPtr :=
  ((t.writers ++ t.readers).filter fun e ↦ nodeMatches e.toEndpoint).toFinset

def keptPairs (nodeMatches : Endpoint → Bool) (t : TopicSummary) : List Pair :=
  t.pairs.filter fun p ↦
    p.writer ∈ matchingEndpoints nodeMatches t ∨ p.reader ∈ matchingEndpoints nodeMatches t

/-- The matching endpoints and the partners of the kept pairs. -/
def keptEndpoints (nodeMatches : Endpoint → Bool) (t : TopicSummary) : Finset EndpointPtr :=
  matchingEndpoints nodeMatches t ∪
    ((keptPairs nodeMatches t).flatMap fun p ↦ [p.writer, p.reader]).toFinset

/-- The part of a topic that concerns the matching nodes, or nothing. -/
def filterTopic (nodeMatches : Endpoint → Bool) (t : TopicSummary) : Option TopicSummary :=
  if keptEndpoints nodeMatches t = ∅ then none
  else
    let writers := t.writers.filter (· ∈ keptEndpoints nodeMatches t)
    let readers := t.readers.filter (· ∈ keptEndpoints nodeMatches t)
    some
      { t with
        writers := writers
        readers := readers
        pairs := keptPairs nodeMatches t
        unmatchedReasons := Decision.unmatchedReasons writers readers (keptPairs nodeMatches t) }

def filterByNode (topics : List TopicSummary) (nodeMatches : Endpoint → Bool) :
    List TopicSummary :=
  topics.filterMap (filterTopic nodeMatches)

/-- A node of the topic matches. -/
def Remains (nodeMatches : Endpoint → Bool) (t : TopicSummary) : Prop :=
  ∃ e ∈ t.writers ++ t.readers, nodeMatches e.toEndpoint = true

omit [Fnmatch] in
theorem mem_matchingEndpoints {nodeMatches : Endpoint → Bool} {t : TopicSummary} (e : EndpointPtr) :
    e ∈ matchingEndpoints nodeMatches t ↔
      (e ∈ t.writers ∨ e ∈ t.readers) ∧ nodeMatches e.toEndpoint = true := by
  simp only [matchingEndpoints, List.mem_toFinset, List.mem_filter, List.mem_append]

omit [Fnmatch] in
/-- Of pairs between the topic's own endpoints, those with a matching end are kept. -/
theorem keptPairs_of_ends {nodeMatches : Endpoint → Bool} {t : TopicSummary}
    (h : ∀ p ∈ t.pairs, p.writer ∈ t.writers ∧ p.reader ∈ t.readers) :
    keptPairs nodeMatches t = t.pairs.filter fun p ↦
      nodeMatches p.writer.toEndpoint || nodeMatches p.reader.toEndpoint := by
  apply List.filter_congr
  intro p hp
  obtain ⟨hw, hr⟩ := h p hp
  simp [mem_matchingEndpoints, hw, hr]

omit [Fnmatch] in
theorem mem_keptEndpoints {nodeMatches : Endpoint → Bool} {t : TopicSummary} (e : EndpointPtr) :
    e ∈ keptEndpoints nodeMatches t ↔ e ∈ matchingEndpoints nodeMatches t ∨
      ∃ p ∈ keptPairs nodeMatches t, e = p.writer ∨ e = p.reader := by
  simp only [keptEndpoints, Finset.mem_union, List.mem_toFinset, List.mem_flatMap, List.mem_cons,
    List.not_mem_nil, or_false]

omit [Fnmatch] in
/-- A kept pair keeps both of its endpoints. -/
theorem mem_keptEndpoints_of_pair {nodeMatches : Endpoint → Bool} {t : TopicSummary} {p : Pair}
    (hp : p ∈ keptPairs nodeMatches t) :
    p.writer ∈ keptEndpoints nodeMatches t ∧ p.reader ∈ keptEndpoints nodeMatches t :=
  ⟨(mem_keptEndpoints _).mpr (.inr ⟨p, hp, .inl rfl⟩),
    (mem_keptEndpoints _).mpr (.inr ⟨p, hp, .inr rfl⟩)⟩

omit [Fnmatch] in
theorem keptEndpoints_eq_empty_iff (nodeMatches : Endpoint → Bool) (t : TopicSummary) :
    keptEndpoints nodeMatches t = ∅ ↔ ¬Remains nodeMatches t := by
  have hmatching : matchingEndpoints nodeMatches t = ∅ ↔ ¬Remains nodeMatches t := by
    rw [matchingEndpoints, List.toFinset_eq_empty_iff, List.filter_eq_nil_iff, Remains]
    push Not
    rfl
  rw [keptEndpoints, Finset.union_eq_empty, hmatching]
  refine and_iff_left_of_imp fun hnone ↦ ?_
  have hpairs : keptPairs nodeMatches t = [] := by
    rw [keptPairs, hmatching.mpr hnone]
    simp
  rw [hpairs]
  rfl

omit [Fnmatch] in
theorem filterTopic_of_not_remains {nodeMatches : Endpoint → Bool} {t : TopicSummary}
    (h : ¬Remains nodeMatches t) : filterTopic nodeMatches t = none := by
  unfold filterTopic
  rw [if_pos ((keptEndpoints_eq_empty_iff nodeMatches t).mpr h)]

end TransportViz.Decision
