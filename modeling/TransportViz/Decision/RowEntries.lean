import TransportViz.Decision.DisplayRows

/-!
# What the rows are filled with

The nested loops of `displayRows` file one stream of entries: the plain topics, the pairs of the
grouped ones, the endpoints of those without pairs. A row is read off the drawer of its entries.
-/

namespace TransportViz.Decision

open Cabinet

/-- One thing a row is given. -/
inductive Entry
  | plain (t : TopicPtr)
  | pair (t : TopicPtr) (p : PairPtr)
  | unpaired (t : TopicPtr) (e : EndpointPtr)
  deriving DecidableEq

namespace Entry

def topic : Entry → TopicPtr
  | plain t => t
  | pair t _ => t
  | unpaired t _ => t

def client : Entry → Option EndpointPtr
  | plain _ => none
  | pair t p => some (clientOf t.toTopicSummary p.toPair)
  | unpaired t e => if isClient t.toTopicSummary e.toEndpoint then some e else none

def server : Entry → Option EndpointPtr
  | plain _ => none
  | pair t p => some (serverOf t.toTopicSummary p.toPair)
  | unpaired t e => if isClient t.toTopicSummary e.toEndpoint then none else some e

def label : Entry → Option RowKey
  | plain _ => none
  | entry => some (rowKey entry.topic.toTopicSummary entry.client entry.server)

def start : Entry → DisplayRow
  | plain t => plainRow t
  | entry => freshRow entry.topic.toTopicSummary entry.client entry.server

def toServer? : Entry → Option (TopicPtr × PairPtr)
  | pair t p => if toServer t.toTopicSummary then some (t, p) else none
  | _ => none

def toClient? : Entry → Option (TopicPtr × PairPtr)
  | pair t p => if toServer t.toTopicSummary then none else some (t, p)
  | _ => none

def unpaired? : Entry → Option EndpointPtr
  | unpaired _ e => some e
  | _ => none

def unpairedMember? : Entry → Option TopicPtr
  | unpaired t _ => some t
  | _ => none

/-- A topic that joins a group. -/
def member? : Entry → Option TopicPtr
  | plain _ => none
  | entry => some entry.topic

def plain? : Entry → Option TopicPtr
  | plain t => some t
  | _ => none

end Entry

def addEntry (row : DisplayRow) : Entry → DisplayRow
  | .plain _ => row
  | .pair t p => addPair row t p
  | .unpaired t e => addUnpaired row t e

def entriesOf (t : TopicPtr) : List Entry :=
  if ¬isGrouped t.toTopicSummary then [.plain t]
  else if t.pairs ≠ [] then (pairPointers t.toTopicSummary).map (.pair t)
  else (t.writers ++ t.readers).map (.unpaired t)

def entries (topics : List TopicSummary) : List Entry := (topicPointers topics).flatMap entriesOf

/-- Each loop of the source files the entries of its topic. -/
theorem placeTopic_eq (table : RowTable) (t : TopicPtr) :
    placeTopic table t = (entriesOf t).foldl (file Entry.label Entry.start addEntry) table := by
  have hpairs : ∀ (pairs : List PairPtr) (table : RowTable),
      pairs.foldl (placePair t) table =
        (pairs.map (Entry.pair t)).foldl (file Entry.label Entry.start addEntry) table := by
    intro pairs table
    rw [List.foldl_map]
    rfl
  have hunpaired : ∀ (endpoints : List EndpointPtr) (table : RowTable),
      endpoints.foldl (placeUnpaired t) table =
        (endpoints.map (Entry.unpaired t)).foldl (file Entry.label Entry.start addEntry) table := by
    intro endpoints table
    rw [List.foldl_map]
    rfl
  unfold placeTopic entriesOf
  by_cases hgrouped : isGrouped t.toTopicSummary = true
  · rw [if_neg (not_not.mpr hgrouped), if_neg (not_not.mpr hgrouped)]
    by_cases hnone : t.pairs = []
    · have hnopairs : pairPointers t.toTopicSummary = [] := by simp [pairPointers, hnone]
      simp only [hnone, hnopairs, ne_eq, not_true_eq_false, if_false, List.foldl_nil]
      exact hunpaired _ table
    · simp only [ne_eq, hnone, not_false_eq_true, if_true]
      exact hpairs _ table
  · rw [if_pos hgrouped, if_pos hgrouped]
    rfl

/-! ## Reading a row off its entries -/

/-- What filing entries does to a row. -/
theorem foldl_addEntry (items : List Entry) (row : DisplayRow) :
    items.foldl addEntry row =
      { row with
        toServer := row.toServer ++ items.filterMap Entry.toServer?
        toClient := row.toClient ++ items.filterMap Entry.toClient?
        members := (items.filterMap Entry.member?).foldl addMember row.members
        unpairedMembers := (items.filterMap Entry.unpairedMember?).foldl addMember row.unpairedMembers
        unpairedEndpoints := row.unpairedEndpoints ++ items.filterMap Entry.unpaired? } := by
  induction items generalizing row with
  | nil => simp
  | cons entry rest ih =>
    rw [List.foldl_cons, ih]
    cases entry with
    | plain t => rfl
    | pair t p =>
      by_cases h : toServer t.toTopicSummary = true <;>
        simp [addEntry, addPair, List.filterMap_cons, Entry.toServer?, Entry.toClient?,
          Entry.member?, Entry.unpaired?, Entry.unpairedMember?, Entry.topic, h]
    | unpaired t e =>
      simp [addEntry, addUnpaired, List.filterMap_cons, Entry.toServer?, Entry.toClient?,
        Entry.member?, Entry.unpaired?, Entry.unpairedMember?, Entry.topic]

theorem mem_foldl_addMember (topics out : List TopicPtr) (t : TopicPtr) :
    t ∈ topics.foldl addMember out ↔ t ∈ out ∨ t ∈ topics := by
  induction topics generalizing out with
  | nil => simp
  | cons head rest ih =>
    rw [List.foldl_cons, ih, addMember]
    by_cases h : head ∈ out
    · rw [if_pos h, List.mem_cons]
      grind
    · rw [if_neg h, List.mem_append, List.mem_singleton, List.mem_cons, or_assoc]

/-- The row that a drawer of entries becomes. -/
def drawerRow (drawer : Drawer Entry) : DisplayRow := nameType (drawer.row Entry.start addEntry)

def rowDrawers (topics : List TopicSummary) : List (Drawer Entry) :=
  drawers Entry.label (entries topics)

/-- The rows of the table, one for each drawer of entries. -/
theorem displayRows_eq (topics : List TopicSummary) :
    displayRows topics = ((rowDrawers topics).map drawerRow).insertionSort
      fun a b ↦ sortKey a ≤ sortKey b := by
  have hrun : (topicPointers topics).foldl placeTopic {} =
      (entries topics).foldl (file Entry.label Entry.start addEntry) {} := by
    rw [entries, List.foldl_flatMap]
    congr 1
    funext table t
    exact placeTopic_eq table t
  rw [displayRows, hrun, rows_foldl_file, List.map_map]
  rfl

theorem perm_displayRows (topics : List TopicSummary) :
    (displayRows topics).Perm ((rowDrawers topics).map drawerRow) := by
  rw [displayRows_eq]
  exact List.perm_insertionSort _ _

/-- The fields of a row, out of its entries. -/
theorem drawerRow_eq (drawer : Drawer Entry) :
    drawerRow drawer = nameType
      { drawer.first.start with
        toServer := drawer.items.filterMap Entry.toServer?
        toClient := drawer.items.filterMap Entry.toClient?
        members := (drawer.items.filterMap Entry.member?).foldl addMember drawer.first.start.members
        unpairedMembers := (drawer.items.filterMap Entry.unpairedMember?).foldl addMember []
        unpairedEndpoints := drawer.items.filterMap Entry.unpaired? } := by
  rw [drawerRow, Drawer.row, foldl_addEntry]
  cases drawer.first <;> rfl

end TransportViz.Decision
