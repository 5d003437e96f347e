import TransportViz.Library.KeyedDiff
import TransportViz.Library.Ranking
import TransportViz.Model.Types

/-!
# Comparing two snapshots

The pairs of a snapshot are keyed by their GUIDs, or by the nodes behind them: `<node>#<n>` is the
`n`-th endpoint of that node on the topic in GUID order. A `PairKey` is compared by its topic and its
two GUIDs only, so a map from `PairKey` is a map from `Ident` that carries the key along.
-/

namespace TransportViz.Diff

/-- What tells two pair keys apart. -/
abbrev Ident := String ×ₗ String ×ₗ String

instance : LawfulBEq Ident := inferInstance

def identOf (key : PairKey) : Ident := toLex (key.topic, toLex (key.writerGuid, key.readerGuid))

def pairKey (topic : TopicSummary) (pair : Pair) : PairKey where
  topic := topic.displayTopic
  writerGuid := pair.writer.guid
  readerGuid := pair.reader.guid
  writerNode := pair.writer.nodeName
  readerNode := pair.reader.nodeName

def pairState (pair : Pair) : PairState where
  transport := pair.verdict.transport
  confidence := pair.verdict.confidence
  measured := pair.measured.transports
  locator := pair.verdict.locator
  measuredLocators := pair.measured.locators.map MeasuredLocator.locator
  warnings := pair.verdict.warnings

/-- States under their identities, with the key each pair really has. -/
abbrev KeyedStates := OrderedMap Ident (PairKey × PairState)

/-- All pairs with their keys, topic by topic. -/
def realPairs (snap : Snapshot) : List (PairKey × PairState) :=
  snap.topics.flatMap fun t ↦ t.pairs.map fun p ↦ (pairKey t p, pairState p)

/-- Storing under a key that is there already keeps the key and replaces the state. -/
def pairStates (snap : Snapshot) : KeyedStates :=
  (realPairs snap).foldl
    (fun out e ↦ out.alter (identOf e.1) fun old ↦ ((old.map Prod.fst).getD e.1, e.2)) .empty

/-- What a comparison of keyed states reports. -/
def report (mode : KeyMode) (d : KeyedDiff Ident (PairKey × PairState)) : Changes where
  added := d.added.map fun e ↦ e.2.1
  removed := d.removed.map fun e ↦ e.2.1
  changed := d.changed.map fun e ↦
    { key := e.2.2.1, before := e.2.1.2, after := e.2.2.2, beforeKey := e.2.1.1 }
  key := mode

def diff (previous current : KeyedStates) : Changes :=
  report .guid (KeyedDiff.diff (fun a b ↦ a.2 = b.2) previous.entries current.entries)

/-! ## Keyed by node -/

/-- The GUIDs of each node on the topic, as they come. -/
def byNode (t : TopicSummary) : OrderedMap String (List String) :=
  (t.writers ++ t.readers).foldl
    (fun byNode e ↦
      if e.nodeName ≠ "" then byNode.alter e.nodeName fun guids ↦ guids.getD [] ++ [e.guid]
      else byNode)
    .empty

/-- `<node>#<n>`, or `guid:<guid>` for an endpoint without a node name. -/
def identity (t : TopicSummary) (e : Endpoint) : String :=
  if e.nodeName = "" then "guid:" ++ e.guid
  else
    let guids := (((byNode t).find? e.nodeName).getD []).insertionSort (· ≤ ·)
    e.nodeName ++ "#" ++ toString (guids.idxOf e.guid)

def nodeIdent (t : TopicSummary) (p : Pair) : Ident :=
  toLex (t.displayTopic,
    toLex (identity t p.writer.toEndpoint, identity t p.reader.toEndpoint))

/-- All pairs with their node identities, topic by topic. -/
def nodePairs (snap : Snapshot) : List (Ident × PairKey × PairState) :=
  snap.topics.flatMap fun t ↦ t.pairs.map fun p ↦ (nodeIdent t p, pairKey t p, pairState p)

def nodeKeyed (snap : Snapshot) : KeyedStates := .ofList (nodePairs snap)

def stripPort (l : Locator) : Locator := { l with port := 0 }

/-- A restart renumbers the ports, which says nothing about how the pair talks. -/
def strip (s : PairState) : PairState :=
  { s with
    locator := stripPort s.locator
    measuredLocators := s.measuredLocators.map stripPort }

def sameIgnoringPorts (a b : PairState) : Bool := strip a = strip b

def nodeDiff (before after : Snapshot) : KeyedDiff Ident (PairKey × PairState) :=
  KeyedDiff.diff (fun a b ↦ sameIgnoringPorts a.2 b.2) (nodeKeyed before).entries
    (nodeKeyed after).entries

def diffSnapshots (before after : Snapshot) : KeyMode → Changes
  | .guid => diff (pairStates before) (pairStates after)
  | .node => report .node (nodeDiff before after)

/-! ## Places within a node -/

/-- The GUIDs of one node on the topic. -/
def nodeGuids (t : TopicSummary) (node : String) : List String :=
  ((t.writers ++ t.readers).filter fun e ↦ e.nodeName = node).map fun e ↦ e.guid

theorem getD_find?_byNode (t : TopicSummary) (node : String) (h : node ≠ "") :
    ((byNode t).find? node).getD [] = nodeGuids t node := by
  have hfold (endpoints : List EndpointPtr) (map : OrderedMap String (List String)) :
      ((endpoints.foldl (fun byNode e ↦
          if e.nodeName ≠ "" then byNode.alter e.nodeName fun guids ↦ guids.getD [] ++ [e.guid]
          else byNode) map).find? node).getD [] =
        (map.find? node).getD [] ++
          (endpoints.filter fun e ↦ e.nodeName = node).map fun e ↦ e.guid := by
    induction endpoints generalizing map with
    | nil => simp
    | cons e rest ih =>
      rw [List.foldl_cons, ih]
      by_cases hnode : e.nodeName = node
      · simp [hnode, h]
      · by_cases hempty : e.nodeName = ""
        · simp [hempty, Ne.symm h]
        · simp [hempty, hnode, Ne.symm hnode]
  unfold byNode
  rw [hfold]
  simp [nodeGuids]

theorem identity_of_named (t : TopicSummary) (e : Endpoint) (h : e.nodeName ≠ "") :
    identity t e =
      e.nodeName ++ "#" ++ toString (Ranking.place (nodeGuids t e.nodeName) e.guid) := by
  rw [identity, if_neg h, getD_find?_byNode t _ h]
  rfl

theorem mem_nodeGuids {t : TopicSummary} {e : EndpointPtr} (h : e ∈ t.writers ++ t.readers) :
    e.guid ∈ nodeGuids t e.nodeName :=
  List.mem_map_of_mem (List.mem_filter.mpr ⟨h, by simp⟩)

end TransportViz.Diff
