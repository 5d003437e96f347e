import TransportViz.Decision.RowEntries

/-!
# Rows neither lose nor duplicate

Every plain topic has one row, every pair and every unpaired endpoint of the grouped topics lies in
one row, that of its participants, and the rows come in the order of their keys.
-/

namespace TransportViz.Decision

open Cabinet

/-! ## What there is to show -/

def plainTopics (topics : List TopicSummary) : List TopicPtr :=
  (topicPointers topics).filter fun t ↦ ¬isGrouped t.toTopicSummary

def groupedTopics (topics : List TopicSummary) : List TopicPtr :=
  (topicPointers topics).filter fun t ↦ isGrouped t.toTopicSummary

/-- The pairs of the services and actions. -/
def groupedPairs (topics : List TopicSummary) : List (TopicPtr × PairPtr) :=
  (groupedTopics topics).flatMap fun t ↦ (pairPointers t.toTopicSummary).map fun p ↦ (t, p)

/-- The endpoints of the services and actions that have no pair. -/
def unpairedEnds (topics : List TopicSummary) : List EndpointPtr :=
  ((groupedTopics topics).filter fun t ↦ t.pairs = []).flatMap fun t ↦ t.writers ++ t.readers

theorem nodup_topicPointers (topics : List TopicSummary) : (topicPointers topics).Nodup := by
  apply List.Nodup.of_map (·.address)
  have haddress : (topicPointers topics).map (·.address) = List.range topics.length := by
    rw [topicPointers, List.map_map]
    exact List.zipIdx_map_snd 0 topics |>.trans (List.range_eq_range' ..).symm
  rw [haddress]
  exact List.nodup_range

theorem nodup_pairPointers (t : TopicSummary) : (pairPointers t).Nodup := by
  apply List.Nodup.of_map (·.address)
  have haddress : (pairPointers t).map (·.address) = List.range t.pairs.length := by
    rw [pairPointers, List.map_map]
    exact List.zipIdx_map_snd 0 t.pairs |>.trans (List.range_eq_range' ..).symm
  rw [haddress]
  exact List.nodup_range

theorem nodup_groupedPairs (topics : List TopicSummary) : (groupedPairs topics).Nodup := by
  apply List.nodup_flatMap.mpr
  constructor
  · intro t _
    exact (nodup_pairPointers t.toTopicSummary).map fun p q h ↦ (Prod.mk.inj h).2
  · apply ((nodup_topicPointers topics).filter _).imp
    intro t u hne m ht hu
    obtain ⟨p, -, rfl⟩ := List.mem_map.mp ht
    obtain ⟨q, -, heq⟩ := List.mem_map.mp hu
    exact hne (Prod.mk.inj heq).1.symm

/-! ## From rows to entries -/

/-- What the rows hold is what the entries bring, however they are filed. -/
theorem perm_flatMap_displayRows {β : Type} (topics : List TopicSummary) (held : DisplayRow → List β)
    (brought : Entry → Option β)
    (h : ∀ drawer ∈ rowDrawers topics,
      held (drawerRow drawer) = drawer.items.filterMap brought) :
    ((displayRows topics).flatMap held).Perm ((entries topics).filterMap brought) := by
  have hdrawers : ((rowDrawers topics).map drawerRow).flatMap held =
      ((rowDrawers topics).flatMap Drawer.items).filterMap brought := by
    rw [List.flatMap_map, List.filterMap_flatMap]
    exact List.flatMap_congr h
  apply ((perm_displayRows topics).flatMap_right held).trans
  rw [hdrawers]
  exact (perm_flatMap_drawers (entries topics)).filterMap brought

/-- What the entries bring is what the topics bring one by one. -/
theorem filterMap_entries {β : Type} (topics : List TopicSummary) (brought : Entry → Option β) :
    (entries topics).filterMap brought =
      (topicPointers topics).flatMap fun t ↦ (entriesOf t).filterMap brought := by
  rw [entries, List.filterMap_flatMap]

theorem flatMap_filter {α β : Type} (l : List α) (p : α → Bool) (f : α → List β) :
    (l.filter p).flatMap f = l.flatMap fun a ↦ if p a then f a else [] := by
  induction l with
  | nil => rfl
  | cons a rest ih => by_cases h : p a = true <;> simp [h, ih]

theorem filterMap_plain?_entries (topics : List TopicSummary) :
    (entries topics).filterMap Entry.plain? = plainTopics topics := by
  have heach : ∀ t, (entriesOf t).filterMap Entry.plain? =
      if ¬isGrouped t.toTopicSummary then [t] else [] := by
    intro t
    unfold entriesOf
    by_cases hgrouped : isGrouped t.toTopicSummary = true
    · by_cases hnone : t.pairs = [] <;>
        simp [hgrouped, hnone, Entry.plain?, List.filterMap_map, Function.comp_def]
    · simp [hgrouped, Entry.plain?]
  rw [filterMap_entries, plainTopics]
  induction topicPointers topics with
  | nil => rfl
  | cons t rest ih =>
    rw [List.flatMap_cons, heach, ih]
    by_cases hgrouped : isGrouped t.toTopicSummary = true <;> simp [hgrouped]

theorem filterMap_unpaired?_entries (topics : List TopicSummary) :
    (entries topics).filterMap Entry.unpaired? = unpairedEnds topics := by
  rw [filterMap_entries, unpairedEnds, groupedTopics, flatMap_filter, flatMap_filter]
  congr 1
  funext t
  unfold entriesOf
  by_cases hgrouped : isGrouped t.toTopicSummary = true
  · by_cases hnone : t.pairs = [] <;>
      simp [hgrouped, hnone, Entry.unpaired?, List.filterMap_map, Function.comp_def]
  · simp [hgrouped, Entry.unpaired?]

/-- The pairs that go one way, out of the entries that carry them. -/
theorem filterMap_pairs_entries (topics : List TopicSummary) (way : TopicSummary → Bool)
    (brought : Entry → Option (TopicPtr × PairPtr)) (hplain : ∀ t, brought (.plain t) = none)
    (hpair : ∀ t p, brought (.pair t p) = if way t.toTopicSummary then some (t, p) else none)
    (hunpaired : ∀ t e, brought (.unpaired t e) = none) :
    (entries topics).filterMap brought =
      (groupedPairs topics).filter fun m ↦ way m.1.toTopicSummary := by
  rw [filterMap_entries, groupedPairs, groupedTopics, flatMap_filter, List.filter_flatMap]
  congr 1
  funext t
  unfold entriesOf
  by_cases hgrouped : isGrouped t.toTopicSummary = true
  · by_cases hnone : t.pairs = []
    · simp [hgrouped, hnone, pairPointers, hunpaired, List.filterMap_map]
    · by_cases hway : way t.toTopicSummary = true <;>
        simp [hgrouped, hnone, hway, hpair, List.filterMap_map, List.filter_map,
          Function.comp_def]
  · simp [hgrouped, hplain]

/-! ## The fields of a row -/

@[simp]
theorem toServer_drawerRow (drawer : Drawer Entry) :
    (drawerRow drawer).toServer = drawer.items.filterMap Entry.toServer? := by
  rw [drawerRow_eq]
  rfl

@[simp]
theorem toClient_drawerRow (drawer : Drawer Entry) :
    (drawerRow drawer).toClient = drawer.items.filterMap Entry.toClient? := by
  rw [drawerRow_eq]
  rfl

@[simp]
theorem unpairedEndpoints_drawerRow (drawer : Drawer Entry) :
    (drawerRow drawer).unpairedEndpoints = drawer.items.filterMap Entry.unpaired? := by
  rw [drawerRow_eq]
  rfl

@[simp]
theorem topic_drawerRow (drawer : Drawer Entry) :
    (drawerRow drawer).topic = drawer.first.plain? := by
  rw [drawerRow_eq]
  cases drawer.first <;> rfl

@[simp]
theorem kind_drawerRow (drawer : Drawer Entry) :
    (drawerRow drawer).kind = drawer.first.topic.kind := by
  rw [drawerRow_eq]
  cases drawer.first <;> rfl

/-- A group's row stands under the label of its entries. -/
theorem sortKey_drawerRow (drawer : Drawer Entry) (key : RowKey)
    (h : drawer.first.label = some key) : sortKey (drawerRow drawer) = key := by
  rw [drawerRow_eq]
  cases hfirst : drawer.first with
  | plain t =>
    rw [hfirst] at h
    cases h
  | pair t p =>
    rw [hfirst] at h
    exact Option.some.inj h
  | unpaired t e =>
    rw [hfirst] at h
    exact Option.some.inj h

@[simp]
theorem client_drawerRow (drawer : Drawer Entry) :
    (drawerRow drawer).client = drawer.first.client := by
  rw [drawerRow_eq]
  cases drawer.first <;> rfl

@[simp]
theorem server_drawerRow (drawer : Drawer Entry) :
    (drawerRow drawer).server = drawer.first.server := by
  rw [drawerRow_eq]
  cases drawer.first <;> rfl

theorem requester_drawerRow (drawer : Drawer Entry) :
    (drawerRow drawer).requester = prefixOf drawer.first.client := by
  rw [drawerRow_eq]
  cases drawer.first <;> rfl

theorem replier_drawerRow (drawer : Drawer Entry) :
    (drawerRow drawer).replier = prefixOf drawer.first.server := by
  rw [drawerRow_eq]
  cases drawer.first <;> rfl

theorem exists_drawer_of_mem_displayRows {topics : List TopicSummary} {row : DisplayRow}
    (h : row ∈ displayRows topics) : ∃ drawer ∈ rowDrawers topics, row = drawerRow drawer := by
  obtain ⟨drawer, hdrawer, rfl⟩ := List.mem_map.mp ((perm_displayRows topics).mem_iff.mp h)
  exact ⟨drawer, hdrawer, rfl⟩

/-- Whatever a row holds was filed under the row's key. -/
theorem key_of_mem_items {topics : List TopicSummary} {drawer : Drawer Entry}
    (hdrawer : drawer ∈ rowDrawers topics) {entry : Entry} (hentry : entry ∈ drawer.items)
    {key : RowKey} (hkey : entry.label = some key) :
    (drawerRow drawer).topic = none ∧ sortKey (drawerRow drawer) = key := by
  have hfirst : drawer.first.label = some key :=
    (label_of_mem_drawers drawer hdrawer entry hentry).symm.trans hkey
  constructor
  · rw [topic_drawerRow]
    cases h : drawer.first with
    | plain t =>
      rw [h] at hfirst
      cases hfirst
    | pair t p => rfl
    | unpaired t e => rfl
  · exact sortKey_drawerRow drawer key hfirst

theorem sortKey_eq_iff (row : DisplayRow) (t : TopicSummary) (client server : Option EndpointPtr) :
    sortKey row = rowKey t client server ↔
      row.name = t.group ∧ row.requester = prefixOf client ∧ row.replier = prefixOf server := by
  simp [sortKey, rowKey, Prod.ext_iff]

theorem topic_of_mem_entriesOf {t : TopicPtr} {entry : Entry} (h : entry ∈ entriesOf t) :
    entry.topic = t := by
  unfold entriesOf at h
  split_ifs at h
  · obtain ⟨p, -, rfl⟩ := List.mem_map.mp h
    rfl
  · obtain ⟨e, -, rfl⟩ := List.mem_map.mp h
    rfl
  · rw [List.mem_singleton.mp h]
    rfl

theorem mem_entries_iff (topics : List TopicSummary) (entry : Entry) :
    entry ∈ entries topics ↔
      entry.topic ∈ topicPointers topics ∧ entry ∈ entriesOf entry.topic := by
  rw [entries, List.mem_flatMap]
  constructor
  · rintro ⟨t, ht, hentry⟩
    rw [topic_of_mem_entriesOf hentry]
    exact ⟨ht, hentry⟩
  · rintro ⟨ht, hentry⟩
    exact ⟨entry.topic, ht, hentry⟩

theorem pair_mem_entriesOf_iff (t u : TopicPtr) (p : PairPtr) :
    Entry.pair t p ∈ entriesOf u ↔
      isGrouped u.toTopicSummary ∧ t = u ∧ p ∈ pairPointers u.toTopicSummary := by
  unfold entriesOf
  by_cases hgrouped : isGrouped u.toTopicSummary = true
  · by_cases hnone : u.pairs = []
    · simp [hgrouped, hnone, pairPointers]
    · simp [hgrouped, hnone]
      tauto
  · simp [hgrouped]

theorem unpaired_mem_entriesOf_iff (t u : TopicPtr) (e : EndpointPtr) :
    Entry.unpaired t e ∈ entriesOf u ↔
      isGrouped u.toTopicSummary ∧ u.pairs = [] ∧ t = u ∧ e ∈ u.writers ++ u.readers := by
  unfold entriesOf
  by_cases hgrouped : isGrouped u.toTopicSummary = true
  · by_cases hnone : u.pairs = []
    · simp [hgrouped, hnone]
      tauto
    · simp [hgrouped, hnone]
  · simp [hgrouped]

/-! ## Conservation -/

/-- Whether every participant of a service or action has a GUID prefix. -/
def NamedParticipants (topics : List TopicSummary) : Prop :=
  ∀ t ∈ groupedTopics topics,
    (∀ p ∈ t.pairs, p.writer.participantGuidPrefix ≠ "" ∧ p.reader.participantGuidPrefix ≠ "") ∧
      ∀ e ∈ t.writers ++ t.readers, e.participantGuidPrefix ≠ ""

structure Conserved (topics : List TopicSummary) (rows : List DisplayRow) : Prop where
  plainOnce : ∀ t ∈ plainTopics topics, rows.countP (fun row ↦ row.topic = some t) = 1
  plainOnly : ∀ row ∈ rows, ∀ t, row.topic = some t → t ∈ plainTopics topics
  pairOnce : ∀ m ∈ groupedPairs topics,
    (rows.flatMap (·.toServer)).count m = (if toServer m.1.toTopicSummary then 1 else 0) ∧
      (rows.flatMap (·.toClient)).count m = if toServer m.1.toTopicSummary then 0 else 1
  pairPlace : ∀ row ∈ rows, ∀ m ∈ row.toServer ++ row.toClient,
    m ∈ groupedPairs topics ∧ row.topic = none ∧ row.name = m.1.group ∧
      row.requester = (clientOf m.1.toTopicSummary m.2.toPair).participantGuidPrefix ∧
      row.replier = (serverOf m.1.toTopicSummary m.2.toPair).participantGuidPrefix
  unpairedOnce : (rows.flatMap (·.unpairedEndpoints)).Perm (unpairedEnds topics)
  unpairedPlace : ∀ row ∈ rows, ∀ e ∈ row.unpairedEndpoints, ∃ t ∈ groupedTopics topics,
    t.pairs = [] ∧ e ∈ t.writers ++ t.readers ∧ row.topic = none ∧ row.name = t.group ∧
      if isClient t.toTopicSummary e.toEndpoint then
        row.requester = e.participantGuidPrefix ∧ row.replier = ""
      else row.requester = "" ∧ row.replier = e.participantGuidPrefix
  /-- A side without a name is a side that was not discovered. -/
  sides : NamedParticipants topics → ∀ row ∈ rows,
    (row.requester = "" ↔ row.client = none) ∧ (row.replier = "" ↔ row.server = none)
  sorted : rows.Pairwise fun a b ↦ sortKey a ≤ sortKey b

theorem perm_topics_displayRows (topics : List TopicSummary) :
    ((displayRows topics).flatMap fun row ↦ row.topic.toList).Perm (plainTopics topics) := by
  rw [← filterMap_plain?_entries]
  apply perm_flatMap_displayRows
  intro drawer hdrawer
  have hnone : ∀ entry ∈ drawer.items, drawer.first.label.isSome → entry.plain? = none := by
    intro entry hentry hsome
    rw [← label_of_mem_drawers drawer hdrawer entry hentry] at hsome
    cases entry with
    | plain t => cases hsome
    | pair t p => rfl
    | unpaired t e => rfl
  rw [topic_drawerRow]
  cases hfirst : drawer.first with
  | plain t =>
    have hrest := rest_of_label_eq_none drawer hdrawer (by rw [hfirst]; rfl)
    simp [Drawer.items, hfirst, hrest, Entry.plain?]
  | pair t p =>
    have hempty := List.filterMap_eq_nil_iff.mpr fun entry h ↦ hnone entry h (by rw [hfirst]; rfl)
    rw [hempty]
    rfl
  | unpaired t e =>
    have hempty := List.filterMap_eq_nil_iff.mpr fun entry h ↦ hnone entry h (by rw [hfirst]; rfl)
    rw [hempty]
    rfl

theorem perm_toServer_displayRows (topics : List TopicSummary) :
    ((displayRows topics).flatMap (·.toServer)).Perm
      ((groupedPairs topics).filter fun m ↦ toServer m.1.toTopicSummary) := by
  rw [← filterMap_pairs_entries topics toServer Entry.toServer? (fun _ ↦ rfl) (fun _ _ ↦ rfl)
    fun _ _ ↦ rfl]
  exact perm_flatMap_displayRows topics _ _ fun drawer _ ↦ toServer_drawerRow drawer

theorem perm_toClient_displayRows (topics : List TopicSummary) :
    ((displayRows topics).flatMap (·.toClient)).Perm
      ((groupedPairs topics).filter fun m ↦ !toServer m.1.toTopicSummary) := by
  have hpair : ∀ t p, Entry.toClient? (.pair t p) =
      if (!toServer t.toTopicSummary) = true then some (t, p) else none := by
    intro t p
    cases h : toServer t.toTopicSummary <;> simp [Entry.toClient?, h]
  rw [← filterMap_pairs_entries topics (fun t ↦ !toServer t) Entry.toClient? (fun _ ↦ rfl) hpair
    fun _ _ ↦ rfl]
  exact perm_flatMap_displayRows topics _ _ fun drawer _ ↦ toClient_drawerRow drawer

theorem perm_unpaired_displayRows (topics : List TopicSummary) :
    ((displayRows topics).flatMap (·.unpairedEndpoints)).Perm (unpairedEnds topics) := by
  rw [← filterMap_unpaired?_entries]
  exact perm_flatMap_displayRows topics _ _ fun drawer _ ↦ unpairedEndpoints_drawerRow drawer

/-- A pair held in either direction was filed as such. -/
theorem pair_mem_items {drawer : Drawer Entry} {m : TopicPtr × PairPtr}
    (h : m ∈ (drawerRow drawer).toServer ++ (drawerRow drawer).toClient) :
    Entry.pair m.1 m.2 ∈ drawer.items := by
  rw [toServer_drawerRow, toClient_drawerRow, List.mem_append, List.mem_filterMap,
    List.mem_filterMap] at h
  rcases h with ⟨entry, hentry, hm⟩ | ⟨entry, hentry, hm⟩
  · cases entry with
    | plain t => cases hm
    | unpaired t e => cases hm
    | pair t p =>
      simp only [Entry.toServer?, Option.ite_none_right_eq_some, Option.some.injEq] at hm
      rwa [← hm.2]
  · cases entry with
    | plain t => cases hm
    | unpaired t e => cases hm
    | pair t p =>
      simp only [Entry.toClient?, Option.ite_none_left_eq_some, Option.some.injEq] at hm
      rwa [← hm.2]

theorem unpaired_mem_items {drawer : Drawer Entry} {e : EndpointPtr}
    (h : e ∈ (drawerRow drawer).unpairedEndpoints) : ∃ t, Entry.unpaired t e ∈ drawer.items := by
  rw [unpairedEndpoints_drawerRow, List.mem_filterMap] at h
  obtain ⟨entry, hentry, he⟩ := h
  cases entry with
  | plain t => cases he
  | pair t p => cases he
  | unpaired t e' =>
    rw [← Option.some.inj he]
    exact ⟨t, hentry⟩

theorem mem_entries_of_mem_items {topics : List TopicSummary} {drawer : Drawer Entry}
    (hdrawer : drawer ∈ rowDrawers topics) {entry : Entry} (hentry : entry ∈ drawer.items) :
    entry ∈ entries topics := mem_of_mem_drawer hdrawer hentry

theorem mem_groupedTopics_iff (topics : List TopicSummary) (t : TopicPtr) :
    t ∈ groupedTopics topics ↔ t ∈ topicPointers topics ∧ isGrouped t.toTopicSummary := by
  simp [groupedTopics]

theorem mem_groupedPairs_iff (topics : List TopicSummary) (m : TopicPtr × PairPtr) :
    m ∈ groupedPairs topics ↔
      m.1 ∈ groupedTopics topics ∧ m.2 ∈ pairPointers m.1.toTopicSummary := by
  rw [groupedPairs, List.mem_flatMap]
  constructor
  · rintro ⟨t, ht, hm⟩
    obtain ⟨p, hp, rfl⟩ := List.mem_map.mp hm
    exact ⟨ht, hp⟩
  · rintro ⟨ht, hp⟩
    exact ⟨m.1, ht, List.mem_map_of_mem hp⟩

theorem mem_pairs_of_mem_pairPointers {t : TopicSummary} {p : PairPtr} (h : p ∈ pairPointers t) :
    p.toPair ∈ t.pairs := by
  obtain ⟨it, hit, rfl⟩ := List.mem_map.mp h
  exact List.fst_mem_of_mem_zipIdx hit

/-- The sides of an entry are named when the participants are. -/
theorem prefixOf_eq_empty_iff {topics : List TopicSummary} (hnamed : NamedParticipants topics)
    {entry : Entry} (hentry : entry ∈ entries topics) :
    (prefixOf entry.client = "" ↔ entry.client = none) ∧
      (prefixOf entry.server = "" ↔ entry.server = none) := by
  obtain ⟨htopic, hof⟩ := (mem_entries_iff topics entry).mp hentry
  cases entry with
  | plain t => exact ⟨⟨fun _ ↦ rfl, fun _ ↦ rfl⟩, ⟨fun _ ↦ rfl, fun _ ↦ rfl⟩⟩
  | pair t p =>
    obtain ⟨hgrouped, -, hp⟩ := (pair_mem_entriesOf_iff t t p).mp hof
    have hends := (hnamed t ((mem_groupedTopics_iff topics t).mpr ⟨htopic, hgrouped⟩)).1 p.toPair
      (mem_pairs_of_mem_pairPointers hp)
    by_cases hserver : toServer t.toTopicSummary = true <;>
      simp [Entry.client, Entry.server, clientOf, serverOf, prefixOf, hserver, hends]
  | unpaired t e =>
    obtain ⟨hgrouped, -, -, he⟩ := (unpaired_mem_entriesOf_iff t t e).mp hof
    have hend := (hnamed t ((mem_groupedTopics_iff topics t).mpr ⟨htopic, hgrouped⟩)).2 e he
    by_cases hclient : isClient t.toTopicSummary e.toEndpoint = true <;>
      simp [Entry.client, Entry.server, prefixOf, hclient, hend]

theorem countP_topic_eq_count (rows : List DisplayRow) (t : TopicPtr) :
    rows.countP (fun row ↦ row.topic = some t) = (rows.flatMap fun row ↦ row.topic.toList).count t := by
  induction rows with
  | nil => rfl
  | cons row rest ih =>
    rw [List.countP_cons, List.flatMap_cons, List.count_append, ih, add_comm]
    cases htopic : row.topic with
    | none => simp
    | some u => by_cases h : u = t <;> simp [h]

theorem count_filter_groupedPairs (topics : List TopicSummary) (way : TopicPtr × PairPtr → Bool)
    {m : TopicPtr × PairPtr} (hm : m ∈ groupedPairs topics) :
    ((groupedPairs topics).filter way).count m = if way m then 1 else 0 := by
  split_ifs with hway
  · rw [List.count_filter hway]
    exact List.count_eq_one_of_mem (nodup_groupedPairs topics) hm
  · apply List.count_eq_zero_of_not_mem
    intro hmem
    exact hway (List.mem_filter.mp hmem).2

/-- The rows hold what the topics hold, once and in its place. -/
theorem displayRows_conserved (topics : List TopicSummary) :
    Conserved topics (displayRows topics) where
  plainOnce t ht := by
    rw [countP_topic_eq_count, (perm_topics_displayRows topics).count_eq]
    exact List.count_eq_one_of_mem ((nodup_topicPointers topics).filter _) ht
  plainOnly row hrow t ht := by
    apply (perm_topics_displayRows topics).mem_iff.mp
    exact List.mem_flatMap.mpr ⟨row, hrow, by rw [ht]; exact List.mem_singleton_self t⟩
  pairOnce m hm := by
    constructor
    · rw [(perm_toServer_displayRows topics).count_eq, count_filter_groupedPairs topics _ hm]
    · rw [(perm_toClient_displayRows topics).count_eq, count_filter_groupedPairs topics _ hm]
      cases toServer m.1.toTopicSummary <;> rfl
  pairPlace row hrow m hm := by
    obtain ⟨drawer, hdrawer, rfl⟩ := exists_drawer_of_mem_displayRows hrow
    have hitem := pair_mem_items hm
    obtain ⟨htopic, hof⟩ := (mem_entries_iff _ _).mp (mem_entries_of_mem_items hdrawer hitem)
    obtain ⟨hgrouped, -, hp⟩ := (pair_mem_entriesOf_iff m.1 m.1 m.2).mp hof
    obtain ⟨hnone, hkey⟩ := key_of_mem_items hdrawer hitem rfl
    have hgroupedTopic := (mem_groupedTopics_iff topics m.1).mpr ⟨htopic, hgrouped⟩
    exact ⟨(mem_groupedPairs_iff topics m).mpr ⟨hgroupedTopic, hp⟩, hnone,
      (sortKey_eq_iff _ _ _ _).mp hkey⟩
  unpairedOnce := perm_unpaired_displayRows topics
  unpairedPlace row hrow e he := by
    obtain ⟨drawer, hdrawer, rfl⟩ := exists_drawer_of_mem_displayRows hrow
    obtain ⟨t, hitem⟩ := unpaired_mem_items he
    obtain ⟨htopic, hof⟩ := (mem_entries_iff _ _).mp (mem_entries_of_mem_items hdrawer hitem)
    obtain ⟨hgrouped, hpairs, -, hend⟩ := (unpaired_mem_entriesOf_iff t t e).mp hof
    obtain ⟨hnone, hkey⟩ := key_of_mem_items hdrawer hitem rfl
    obtain ⟨hname, hsides⟩ := (sortKey_eq_iff _ _ _ _).mp hkey
    refine ⟨t, (mem_groupedTopics_iff topics t).mpr ⟨htopic, hgrouped⟩, hpairs, hend, hnone,
      hname, ?_⟩
    by_cases hclient : isClient t.toTopicSummary e.toEndpoint = true
    · rw [if_pos hclient]
      simpa [Entry.client, Entry.server, hclient, prefixOf] using hsides
    · rw [if_neg hclient]
      simpa [Entry.client, Entry.server, hclient, prefixOf] using hsides
  sides hnamed row hrow := by
    obtain ⟨drawer, hdrawer, rfl⟩ := exists_drawer_of_mem_displayRows hrow
    rw [requester_drawerRow, replier_drawerRow, client_drawerRow, server_drawerRow]
    exact prefixOf_eq_empty_iff hnamed
      (mem_entries_of_mem_items hdrawer drawer.first_mem_items)
  sorted := by
    have htotal : Std.Total fun a b : DisplayRow ↦ sortKey a ≤ sortKey b :=
      ⟨fun a b ↦ le_total (sortKey a) (sortKey b)⟩
    have htrans : IsTrans DisplayRow fun a b ↦ sortKey a ≤ sortKey b := ⟨fun _ _ _ ↦ le_trans⟩
    exact List.pairwise_insertionSort _ _

end TransportViz.Decision
