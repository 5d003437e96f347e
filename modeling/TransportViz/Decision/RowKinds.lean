import TransportViz.Decision.RowConservation
import TransportViz.Model.Text

/-!
# When a row mixes a service and an action

Rows are found by group name and participants, whatever the kind of the group. So a service and an
action of one name that connect the same two participants share a row, which then has the kind of
the topic that came first.
-/

namespace TransportViz.Decision

open Cabinet RosNames

/-- The client and the server participant of each pair of the topic, or of each endpoint when it has
no pair. -/
def participantsOf (t : TopicSummary) : List (String × String) :=
  if t.pairs ≠ [] then
    t.pairs.map fun p ↦
      ((clientOf t p).participantGuidPrefix, (serverOf t p).participantGuidPrefix)
  else
    (t.writers ++ t.readers).map fun e ↦
      if isClient t e.toEndpoint then (e.participantGuidPrefix, "") else ("", e.participantGuidPrefix)

/-- Every group row holds members of one kind and one group. -/
def RowsUnmixed (rows : List DisplayRow) : Prop :=
  ∀ row ∈ rows, row.topic = none → ∀ t ∈ row.members, t.kind = row.kind ∧ t.group = row.name

/-- No service and action of one name connect the same participants. -/
def NamesakesApart (topics : List TopicSummary) : Prop :=
  ∀ s ∈ topics, ∀ a ∈ topics, s.kind = .service → a.kind = .action → s.group = a.group →
    ∀ ends ∈ participantsOf s, ends ∉ participantsOf a

theorem map_toPair_pairPointers (t : TopicSummary) : (pairPointers t).map (·.toPair) = t.pairs := by
  rw [pairPointers, List.map_map]
  exact List.zipIdx_map_fst 0 t.pairs

theorem map_topicPointers (topics : List TopicSummary) :
    (topicPointers topics).map (·.toTopicSummary) = topics := by
  rw [topicPointers, List.map_map]
  exact List.zipIdx_map_fst 0 topics

/-- The labels a topic's entries are filed under. -/
theorem map_label_entriesOf (t : TopicPtr) (h : isGrouped t.toTopicSummary = true) :
    (entriesOf t).map Entry.label =
      (participantsOf t.toTopicSummary).map fun ends ↦ some (toLex (t.group, toLex ends)) := by
  unfold entriesOf participantsOf
  rw [if_neg (not_not.mpr h)]
  by_cases hnone : t.pairs = []
  · simp only [hnone, ne_eq, not_true_eq_false, if_false, List.map_map]
    apply List.map_congr_left
    intro e _
    by_cases hclient : isClient t.toTopicSummary e.toEndpoint = true <;>
      simp [Entry.label, Entry.client, Entry.server, Entry.topic, rowKey, prefixOf, hclient]
  · simp only [ne_eq, hnone, not_false_eq_true, if_true, List.map_map]
    rw [← map_toPair_pairPointers, List.map_map]
    rfl

theorem label_mem_entriesOf {t : TopicPtr} (h : isGrouped t.toTopicSummary = true)
    {entry : Entry} (hentry : entry ∈ entriesOf t) :
    ∃ ends ∈ participantsOf t.toTopicSummary,
      entry.label = some (toLex (t.group, toLex ends)) := by
  have hlabel := List.mem_map_of_mem (f := Entry.label) hentry
  rw [map_label_entriesOf t h] at hlabel
  obtain ⟨ends, hends, heq⟩ := List.mem_map.mp hlabel
  exact ⟨ends, hends, heq.symm⟩

theorem exists_entry_of_mem_participantsOf {topics : List TopicSummary} {t : TopicPtr}
    (ht : t ∈ topicPointers topics) (h : isGrouped t.toTopicSummary = true)
    {ends : String × String} (hends : ends ∈ participantsOf t.toTopicSummary) :
    ∃ entry ∈ entries topics, entry.topic = t ∧
      entry.label = some (toLex (t.group, toLex ends)) := by
  have hlabel := List.mem_map_of_mem (f := fun ends ↦ some (toLex (t.group, toLex ends))) hends
  rw [← map_label_entriesOf t h] at hlabel
  obtain ⟨entry, hentry, heq⟩ := List.mem_map.mp hlabel
  exact ⟨entry, List.mem_flatMap.mpr ⟨t, ht, hentry⟩, topic_of_mem_entriesOf hentry, heq⟩

theorem member?_of_label {entry : Entry} {key : RowKey} (h : entry.label = some key) :
    entry.member? = some entry.topic := by
  cases entry with
  | plain t => cases h
  | pair t p => rfl
  | unpaired t e => rfl

theorem isGrouped_of_label {topics : List TopicSummary} {entry : Entry}
    (hentry : entry ∈ entries topics) {key : RowKey} (hkey : entry.label = some key) :
    entry.topic ∈ topicPointers topics ∧ isGrouped entry.topic.toTopicSummary = true := by
  obtain ⟨htopic, hof⟩ := (mem_entries_iff topics entry).mp hentry
  refine ⟨htopic, ?_⟩
  cases entry with
  | plain t => cases hkey
  | pair t p => exact ((pair_mem_entriesOf_iff t t p).mp hof).1
  | unpaired t e => exact ((unpaired_mem_entriesOf_iff t t e).mp hof).1

theorem exists_label_of_topic_eq_none {drawer : Drawer Entry}
    (h : (drawerRow drawer).topic = none) : ∃ key, drawer.first.label = some key := by
  rw [topic_drawerRow] at h
  cases hfirst : drawer.first with
  | plain t =>
    rw [hfirst] at h
    cases h
  | pair t p => exact ⟨_, rfl⟩
  | unpaired t e => exact ⟨_, rfl⟩

/-- A group's row has the members its entries bring. -/
theorem members_eq_foldl {drawer : Drawer Entry} {key : RowKey}
    (hkey : drawer.first.label = some key) :
    (drawerRow drawer).members = (drawer.items.filterMap Entry.member?).foldl addMember [] := by
  rw [drawerRow_eq]
  cases hfirst : drawer.first with
  | plain t =>
    rw [hfirst] at hkey
    cases hkey
  | pair t p => rfl
  | unpaired t e => rfl

/-- The members of a group's row are the topics of its entries. -/
theorem mem_members_iff {topics : List TopicSummary} {drawer : Drawer Entry}
    (hdrawer : drawer ∈ rowDrawers topics) {key : RowKey} (hkey : drawer.first.label = some key)
    (t : TopicPtr) :
    t ∈ (drawerRow drawer).members ↔ ∃ entry ∈ drawer.items, entry.topic = t := by
  have hlabel : ∀ entry ∈ drawer.items, entry.member? = some entry.topic := by
    intro entry hentry
    exact member?_of_label ((label_of_mem_drawers drawer hdrawer entry hentry).trans hkey)
  rw [members_eq_foldl hkey, mem_foldl_addMember, List.mem_filterMap]
  constructor
  · rintro (hnil | ⟨entry, hentry, ht⟩)
    · cases hnil
    · rw [hlabel entry hentry] at ht
      exact ⟨entry, hentry, Option.some.inj ht⟩
  · rintro ⟨entry, hentry, rfl⟩
    exact .inr ⟨entry, hentry, hlabel entry hentry⟩

theorem kind_eq_or {t u : TopicSummary} (ht : isGrouped t = true) (hu : isGrouped u = true) :
    t.kind = u.kind ∨ t.kind = .service ∧ u.kind = .action ∨ t.kind = .action ∧ u.kind = .service := by
  simp only [isGrouped, decide_eq_true_eq] at ht hu
  rcases ht with ht | ht <;> rcases hu with hu | hu <;> simp [ht, hu]

/-- Two entries under one label belong to topics of one group with participants in common. -/
theorem common_ends {topics : List TopicSummary} {first second : Entry}
    (hfirst : first ∈ entries topics) (hsecond : second ∈ entries topics) {key : RowKey}
    (hkey : first.label = some key) (hsame : second.label = some key) :
    first.topic.group = second.topic.group ∧
      ∃ ends ∈ participantsOf first.topic.toTopicSummary,
        ends ∈ participantsOf second.topic.toTopicSummary := by
  obtain ⟨-, hgroupedFirst⟩ := isGrouped_of_label hfirst hkey
  obtain ⟨-, hgroupedSecond⟩ := isGrouped_of_label hsecond hsame
  obtain ⟨ends, hends, hlabel⟩ :=
    label_mem_entriesOf hgroupedFirst ((mem_entries_iff topics first).mp hfirst).2
  obtain ⟨others, hothers, hlabel'⟩ :=
    label_mem_entriesOf hgroupedSecond ((mem_entries_iff topics second).mp hsecond).2
  have heq : (first.topic.group, ends) = (second.topic.group, others) := by
    have hboth := Option.some.inj ((hlabel.symm.trans hkey).trans (hsame.symm.trans hlabel'))
    simpa [Prod.ext_iff] using hboth
  obtain ⟨hgroup, rfl⟩ := Prod.mk.inj heq
  exact ⟨hgroup, ends, hends, hothers⟩

theorem exists_pointer_of_mem {topics : List TopicSummary} {t : TopicSummary} (ht : t ∈ topics) :
    ∃ pointer ∈ topicPointers topics, pointer.toTopicSummary = t := by
  rw [← map_topicPointers topics] at ht
  exact List.mem_map.mp ht

theorem mem_of_mem_topicPointers {topics : List TopicSummary} {t : TopicPtr}
    (ht : t ∈ topicPointers topics) : t.toTopicSummary ∈ topics := by
  rw [← map_topicPointers topics]
  exact List.mem_map_of_mem ht

theorem mem_displayRows_of_mem_rowDrawers {topics : List TopicSummary} {drawer : Drawer Entry}
    (h : drawer ∈ rowDrawers topics) : drawerRow drawer ∈ displayRows topics :=
  (perm_displayRows topics).mem_iff.mpr (List.mem_map_of_mem h)

/-- Rows are unmixed exactly when no service and action of one name connect the same participants. -/
theorem displayRows_unmixed_iff (topics : List TopicSummary) :
    RowsUnmixed (displayRows topics) ↔ NamesakesApart topics := by
  constructor
  · intro h s hs a ha hservice haction hgroup ends hends hshared
    obtain ⟨sp, hsp, rfl⟩ := exists_pointer_of_mem hs
    obtain ⟨ap, hap, rfl⟩ := exists_pointer_of_mem ha
    have hgroupedS : isGrouped sp.toTopicSummary = true := by simp [isGrouped, hservice]
    have hgroupedA : isGrouped ap.toTopicSummary = true := by simp [isGrouped, haction]
    obtain ⟨sEntry, hsEntry, rfl, hsLabel⟩ :=
      exists_entry_of_mem_participantsOf hsp hgroupedS hends
    obtain ⟨aEntry, haEntry, rfl, haLabel⟩ :=
      exists_entry_of_mem_participantsOf hap hgroupedA hshared
    rw [← hgroup] at haLabel
    -- both entries lie in the drawer of their label
    obtain ⟨drawer, hdrawer, hsItem⟩ := exists_drawer_of_mem Entry.label hsEntry
    obtain ⟨other, hother, haItem⟩ := exists_drawer_of_mem Entry.label haEntry
    have hfirst := (label_of_mem_drawers drawer hdrawer sEntry hsItem).symm.trans hsLabel
    have hsecond := (label_of_mem_drawers other hother aEntry haItem).symm.trans haLabel
    obtain rfl := eq_of_label_eq hdrawer hother hfirst hsecond
    have hrow := h _ (mem_displayRows_of_mem_rowDrawers hdrawer)
      (key_of_mem_items hdrawer hsItem hsLabel).1
    have hkindS := (hrow _ ((mem_members_iff hdrawer hfirst _).mpr ⟨sEntry, hsItem, rfl⟩)).1
    have hkindA := (hrow _ ((mem_members_iff hdrawer hfirst _).mpr ⟨aEntry, haItem, rfl⟩)).1
    rw [hservice] at hkindS
    rw [haction, ← hkindS] at hkindA
    cases hkindA
  · intro h row hrow hnone t ht
    obtain ⟨drawer, hdrawer, rfl⟩ := exists_drawer_of_mem_displayRows hrow
    obtain ⟨key, hkey⟩ := exists_label_of_topic_eq_none hnone
    obtain ⟨entry, hitem, rfl⟩ := (mem_members_iff hdrawer hkey t).mp ht
    have hlabel := (label_of_mem_drawers drawer hdrawer entry hitem).trans hkey
    have hentry := mem_entries_of_mem_items hdrawer hitem
    have hfirst := mem_entries_of_mem_items hdrawer drawer.first_mem_items
    obtain ⟨hgroup, ends, hends, hshared⟩ := common_ends hentry hfirst hlabel hkey
    obtain ⟨hpointer, hgrouped⟩ := isGrouped_of_label hentry hlabel
    obtain ⟨hfirstPointer, hfirstGrouped⟩ := isGrouped_of_label hfirst hkey
    have hmem := mem_of_mem_topicPointers hpointer
    have hfirstMem := mem_of_mem_topicPointers hfirstPointer
    constructor
    · rw [kind_drawerRow]
      rcases kind_eq_or hgrouped hfirstGrouped with heq | ⟨hs, ha⟩ | ⟨ha, hs⟩
      · exact heq
      · exact absurd hshared (h _ hmem _ hfirstMem hs ha hgroup ends hends)
      · exact absurd hends (h _ hfirstMem _ hmem hs ha hgroup.symm ends hshared)
    · have hname := (key_of_mem_items hdrawer drawer.first_mem_items hkey).2
      obtain ⟨others, -, hothers⟩ := label_mem_entriesOf hgrouped
        ((mem_entries_iff topics entry).mp hentry).2
      rw [← Option.some.inj (hothers.symm.trans hlabel)] at hname
      exact (congrArg (fun key ↦ (ofLex key).1) hname).symm

/-! ## A service beside an action of its name -/

/-- One end of `/fibonacci` between participants 1 and 2: the service, or the action's goal. -/
def fibonacciEndpoint (ddsTopic ddsType : String) (isWriter : Bool) (entity : UInt8) : Endpoint :=
  let guid := guidOnHost (if isWriter then 1 else 2) entity
  { isWriter := isWriter
    guid := guidToString guid
    guidBytes := guid
    hostId := sampleHostId
    participantGuidPrefix := prefixToString guid
    ddsTopic := ddsTopic
    ddsType := ddsType
    rosTopic := (demangleTopic ddsTopic).name
    nodeName := if isWriter then "/caller" else "/server" }

/-- The request of the service and the goal request of the action, each with both ends. -/
def fibonacciEndpoints : List Endpoint :=
  [fibonacciEndpoint "rq/fibonacciRequest" "demo::srv::dds_::Fibonacci_Request_" true 1,
    fibonacciEndpoint "rq/fibonacciRequest" "demo::srv::dds_::Fibonacci_Request_" false 2,
    fibonacciEndpoint "rq/fibonacci/_action/send_goalRequest"
      "demo::action::dds_::Fibonacci_SendGoal_Request_" true 3,
    fibonacciEndpoint "rq/fibonacci/_action/send_goalRequest"
      "demo::action::dds_::Fibonacci_SendGoal_Request_" false 4]

/-- One row, called a service, holds the action's goal too. -/
theorem fibonacci_row_mixed :
    ¬RowsUnmixed (displayRows (@summarize literalFnmatch fibonacciEndpoints)) := by
  unfold RowsUnmixed
  decide +kernel

end TransportViz.Decision
