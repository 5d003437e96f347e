import TransportViz.Decision.Summarize

/-!
# The view options of one observation

`--all`, `--topic` and `--node` are applied twice in different ways: `collectTopics` drops endpoints
before they are summarized, then topics and pairs; `applyViewFilters` drops topics and pairs of a
document that was saved without filters.
-/

namespace TransportViz.Collect

open Decision RosNames

/-- The view options; a filter that is not given lets everything pass. -/
structure ViewOptions where
  all : Bool := false
  /-- `std::regex_search` with the expression of `--topic`. -/
  topicMatches : Option (String → Bool) := none
  /-- `std::regex_search` with the expression of `--node`. -/
  nodeMatches : Option (String → Bool) := none

def matchesTopic (o : ViewOptions) (name : String) : Bool :=
  match o.topicMatches with
  | none => true
  | some re => re name

/-- The endpoints that are kept; services and raw DDS topics need `--all`. -/
def keepsEndpoint (o : ViewOptions) (e : Endpoint) : Bool :=
  if ¬o.all ∧ (e.rosTopic = "" ∨ ¬startsWith e.ddsTopic "rt/") then false
  else if e.ddsTopic = "ros_discovery_info" ∨ startsWith e.ddsTopic "_fastdds_" then false
  else matchesTopic o (if e.rosTopic = "" then e.ddsTopic else e.rosTopic)

/-- Whether the default view shows the topic: a ROS topic that is not a companion topic with every
endpoint folded into its parent. -/
def inDefaultView (t : TopicSummary) : Bool :=
  if ¬t.isRosTopic ∨ ¬startsWith t.ddsTopic "rt/" then false
  else if t.writers = [] ∧ t.readers = [] then true
  else !(t.writers.all (fun e ↦ e.bufferParentGuid ≠ "") &&
    t.readers.all fun e ↦ e.bufferParentGuid ≠ "")

def applyDefaultView (topics : List TopicSummary) (o : ViewOptions) : List TopicSummary :=
  if o.all then topics else topics.filter inDefaultView

def applyNodeFilter (topics : List TopicSummary) (o : ViewOptions) : List TopicSummary :=
  match o.nodeMatches with
  | none => topics
  | some re => filterByNode topics fun e ↦ e.nodeName ≠ "" && re e.nodeName

/-- The options of a one-shot run applied to a loaded document. -/
def applyViewFilters (topics : List TopicSummary) (o : ViewOptions) : List TopicSummary :=
  applyNodeFilter
    (topics.filter fun t ↦ !((!o.all && !inDefaultView t) || !matchesTopic o t.displayTopic)) o

/-- The topics of one observation, of the discovered endpoints that are not the tool's own. -/
def collectTopics [Fnmatch] (endpoints : List Endpoint) (o : ViewOptions) : List TopicSummary :=
  applyNodeFilter (applyDefaultView (summarize (endpoints.filter (keepsEndpoint o))) o) o

end TransportViz.Collect
