import Mathlib.Algebra.BigOperators.Group.List.Basic
import TransportViz.Decision.RowKinds
import TransportViz.Table.Lines

/-!
# How often a ghost is shown

A ghost stands under every row that bears the name of its topic, and at the end when no listed topic
is displayed under it. So it is shown once exactly when one row bears the name of a topic that is
still displayed, and no row that of a topic that is not.
-/

namespace TransportViz.Table

open Cabinet Decision

/-! ## How many rows bear a name -/

/-- The rows of one name: its plain topics, and the participant pairs its group connects. -/
def rowsNamed (topics : List TopicSummary) (name : String) : ℕ :=
  (topics.filter fun t ↦ !isGrouped t && t.displayTopic = name).length +
    ((topics.filter fun t ↦ isGrouped t && t.group = name).flatMap participantsOf).dedup.length

/-- The name of the row an entry goes to. -/
def rowName : Entry → String
  | .plain t => t.displayTopic
  | entry => entry.topic.group

theorem name_drawerRow (drawer : Drawer Entry) :
    (drawerRow drawer).name = rowName drawer.first := by
  rw [drawerRow_eq]
  cases drawer.first <;> rfl

theorem filter_unlabelled_entries (topics : List TopicSummary) :
    (entries topics).filter (fun entry ↦ entry.label.isNone) =
      (plainTopics topics).map Entry.plain := by
  rw [entries, plainTopics, List.filter_flatMap]
  induction topicPointers topics with
  | nil => rfl
  | cons t rest ih =>
    rw [List.flatMap_cons, ih]
    by_cases hgrouped : isGrouped t.toTopicSummary = true
    · have hnone : (entriesOf t).filter (fun entry ↦ entry.label.isNone) = [] := by
        apply List.filter_eq_nil_iff.mpr
        intro entry hentry
        obtain ⟨ends, -, hlabel⟩ := label_mem_entriesOf hgrouped hentry
        simp [hlabel]
      simp [hnone, hgrouped]
    · have hself : entriesOf t = [.plain t] := if_pos hgrouped
      simp [hself, hgrouped, Entry.label]

theorem countP_plain (topics : List TopicSummary) (name : String) :
    ((rowDrawers topics).filter fun drawer ↦ drawer.first.label.isNone).countP
        (fun drawer ↦ (drawerRow drawer).name = name) =
      (topics.filter fun t ↦ !isGrouped t && t.displayTopic = name).length := by
  have hfirst := List.countP_map (p := fun entry ↦ rowName entry = name) (f := Drawer.first)
    (l := (rowDrawers topics).filter fun drawer ↦ drawer.first.label.isNone)
  simp only [name_drawerRow]
  rw [rowDrawers] at hfirst ⊢
  calc
    _ = _ := hfirst.symm
    _ = ((entries topics).filter fun entry ↦ entry.label.isNone).countP
          (fun entry ↦ rowName entry = name) := (perm_unlabelled (entries topics)).countP_eq _
    _ = (plainTopics topics).countP fun t ↦ t.displayTopic = name := by
      rw [filter_unlabelled_entries, List.countP_map]
      rfl
    _ = ((topicPointers topics).map (·.toTopicSummary)).countP
          fun t ↦ !isGrouped t && t.displayTopic = name := by
      rw [plainTopics, List.countP_filter, List.countP_map]
      congr 1
      funext t
      simp [Bool.and_comm]
    _ = _ := by rw [map_topicPointers, List.countP_eq_length_filter]

theorem countP_grouped (topics : List TopicSummary) (name : String) :
    ((rowDrawers topics).filter fun drawer ↦ !drawer.first.label.isNone).countP
        (fun drawer ↦ (drawerRow drawer).name = name) =
      ((topics.filter fun t ↦ isGrouped t && t.group = name).flatMap participantsOf).dedup.length := by
  have hlabels : ((rowDrawers topics).filter fun drawer ↦ !drawer.first.label.isNone).countP
        (fun drawer ↦ (drawerRow drawer).name = name) =
      ((rowDrawers topics).filterMap fun drawer ↦ drawer.first.label).countP
        fun key ↦ (ofLex key).1 = name := by
    rw [List.countP_filter, List.countP_filterMap]
    apply List.countP_congr
    intro drawer hdrawer
    cases hlabel : drawer.first.label with
    | none => simp
    | some key =>
      have hkey := (key_of_mem_items hdrawer drawer.first_mem_items hlabel).2
      have hname : (drawerRow drawer).name = (ofLex key).1 :=
        congrArg (fun key ↦ (ofLex key).1) hkey
      simp [hname]
  have hmem : ∀ key : RowKey,
      key ∈ ((entries topics).filterMap Entry.label).dedup.filter (fun key ↦ (ofLex key).1 = name) ↔
        key ∈ (((topics.filter fun t ↦ isGrouped t && t.group = name).flatMap
          participantsOf).dedup).map fun ends ↦ (toLex (name, toLex ends) : RowKey) := by
    intro key
    simp only [List.mem_filter, List.mem_dedup, List.mem_filterMap, List.mem_map,
      List.mem_flatMap, decide_eq_true_eq, Bool.and_eq_true]
    constructor
    · rintro ⟨⟨entry, hentry, hlabel⟩, hname⟩
      obtain ⟨hpointer, hgrouped⟩ := isGrouped_of_label hentry hlabel
      obtain ⟨ends, hends, hlabel'⟩ :=
        label_mem_entriesOf hgrouped ((mem_entries_iff topics entry).mp hentry).2
      obtain rfl := Option.some.inj (hlabel'.symm.trans hlabel)
      obtain rfl : entry.topic.group = name := hname
      exact ⟨ends, ⟨_, ⟨mem_of_mem_topicPointers hpointer, hgrouped, rfl⟩, hends⟩, rfl⟩
    · rintro ⟨ends, ⟨t, ⟨ht, hgrouped, rfl⟩, hends⟩, rfl⟩
      obtain ⟨pointer, hpointer, rfl⟩ := exists_pointer_of_mem ht
      obtain ⟨entry, hentry, -, hlabel⟩ :=
        exists_entry_of_mem_participantsOf hpointer hgrouped hends
      exact ⟨⟨entry, hentry, hlabel⟩, rfl⟩
  have hinj : Function.Injective fun ends : String × String ↦ (toLex (name, toLex ends) : RowKey) := by
    intro a b h
    simpa [Prod.ext_iff] using h
  have hperm := (List.perm_ext_iff_of_nodup ((List.nodup_dedup _).filter _)
    ((List.nodup_dedup _).map hinj)).mpr hmem
  rw [hlabels, rowDrawers, (perm_labels (entries topics)).countP_eq, List.countP_eq_length_filter,
    hperm.length_eq, List.length_map]

theorem countP_name_displayRows (topics : List TopicSummary) (name : String) :
    (displayRows topics).countP (fun r ↦ r.name = name) = rowsNamed topics name := by
  rw [(perm_displayRows topics).countP_eq, List.countP_map, rowsNamed, ← countP_plain,
    ← countP_grouped]
  exact List.countP_eq_countP_filter_add _ _ _

/-! ## The ghost's lines -/

/-- Every ghost has one `(removed)` line. -/
def GhostsShownOnce (topics : List TopicSummary) (deco : WatchDecorations) : Prop :=
  ((renderTable topics true (some deco)).filterMap TableLine.removed?).Perm deco.ghosts

/-- One row for a topic that is still displayed, none for one that is not. -/
def ShownOnce (topics : List TopicSummary) (g : GhostPair) : Prop :=
  rowsNamed topics g.key.topic = if isDisplayed topics g.key.topic then 1 else 0

theorem filterMap_removed?_verboseRow (deco : WatchDecorations) (r : DisplayRow) :
    (verboseRow (some deco) r).filterMap TableLine.removed? =
      deco.ghosts.filter fun g ↦ g.key.topic = r.name := by
  have hpairs : (pairLines r).filterMap TableLine.removed? = [] := by
    apply List.filterMap_eq_nil_iff.mpr
    intro line hline
    unfold pairLines at hline
    split at hline
    · obtain ⟨p, -, rfl⟩ := List.mem_map.mp hline
      rfl
    · obtain ⟨m, -, rfl⟩ := List.mem_map.mp hline
      rfl
  have hghosts : ∀ ghosts : List GhostPair,
      (ghosts.map TableLine.ghost).filterMap TableLine.removed? = ghosts := by
    intro ghosts
    rw [List.filterMap_map]
    exact List.filterMap_some
  rw [verboseRow, List.filterMap_cons_none rfl, List.filterMap_append, hpairs, hghosts]
  rfl

theorem filterMap_removed?_renderTable (topics : List TopicSummary) (deco : WatchDecorations) :
    (renderTable topics true (some deco)).filterMap TableLine.removed? =
      (displayRows topics).flatMap (fun r ↦ deco.ghosts.filter fun g ↦ g.key.topic = r.name) ++
        deco.ghosts.filter fun g ↦ !isDisplayed topics g.key.topic := by
  have horphans : ((orphanGhosts topics (some deco)).map TableLine.orphan).filterMap
      TableLine.removed? = orphanGhosts topics (some deco) := by
    rw [List.filterMap_map]
    exact List.filterMap_some
  rw [renderTable, List.filterMap_cons_none rfl, List.filterMap_append, if_pos rfl,
    List.filterMap_flatMap, horphans]
  simp only [filterMap_removed?_verboseRow]
  rfl

theorem count_flatMap_filter (rows : List DisplayRow) (ghosts : List GhostPair) (g : GhostPair) :
    (rows.flatMap fun r ↦ ghosts.filter fun g ↦ g.key.topic = r.name).count g =
      rows.countP (fun r ↦ r.name = g.key.topic) * ghosts.count g := by
  induction rows with
  | nil => simp
  | cons r rest ih =>
    rw [List.flatMap_cons, List.count_append, ih, List.countP_cons]
    by_cases hname : g.key.topic = r.name
    · rw [List.count_filter (by simpa using hname)]
      simp [hname, Nat.add_mul, Nat.add_comm]
    · have hzero : (ghosts.filter fun g ↦ g.key.topic = r.name).count g = 0 := by
        apply List.count_eq_zero_of_not_mem
        intro hmem
        exact hname (by simpa using (List.mem_filter.mp hmem).2)
      simp [hzero, Ne.symm hname]

/-- The lines of a ghost: one for each row of its topic's name, one more for an orphan. -/
theorem count_removed (topics : List TopicSummary) (deco : WatchDecorations) (g : GhostPair) :
    ((renderTable topics true (some deco)).filterMap TableLine.removed?).count g =
      (rowsNamed topics g.key.topic + if isDisplayed topics g.key.topic then 0 else 1) *
        deco.ghosts.count g := by
  rw [filterMap_removed?_renderTable, List.count_append, count_flatMap_filter,
    countP_name_displayRows, Nat.add_mul]
  congr 1
  cases hdisplayed : isDisplayed topics g.key.topic with
  | false =>
    rw [List.count_filter (by simp [hdisplayed])]
    simp
  | true =>
    rw [if_pos rfl, Nat.zero_mul]
    apply List.count_eq_zero_of_not_mem
    intro hmem
    have hfalse := (List.mem_filter.mp hmem).2
    rw [hdisplayed] at hfalse
    cases hfalse

/-- The verbose table shows every ghost once exactly when one row bears the name of each ghost's topic
that is still displayed, and none that of a topic that is not. -/
theorem ghostsShownOnce_iff (topics : List TopicSummary) (deco : WatchDecorations) :
    GhostsShownOnce topics deco ↔ ∀ g ∈ deco.ghosts, ShownOnce topics g := by
  have heach : ∀ g, ShownOnce topics g ↔
      (rowsNamed topics g.key.topic + if isDisplayed topics g.key.topic then 0 else 1) = 1 := by
    intro g
    unfold ShownOnce
    cases isDisplayed topics g.key.topic <;> simp
  rw [GhostsShownOnce, List.perm_iff_count]
  constructor
  · intro h g hg
    have hcount := h g
    rw [count_removed] at hcount
    have hpos : 0 < deco.ghosts.count g := List.count_pos_iff.mpr hg
    rw [heach]
    exact Nat.eq_of_mul_eq_mul_right hpos (hcount.trans (Nat.one_mul _).symm)
  · intro h g
    rw [count_removed]
    by_cases hg : g ∈ deco.ghosts
    · rw [(heach g).mp (h g hg), Nat.one_mul]
    · rw [List.count_eq_zero_of_not_mem hg, Nat.mul_zero]

/-! ## A goal client that leaves -/

/-- A second participant that sends goals. -/
def secondGoalClient : Endpoint :=
  let guid := guidOnHost 3 3
  { fibonacciEndpoint "rq/fibonacci/_action/send_goalRequest"
      "demo::action::dds_::Fibonacci_SendGoal_Request_" true 3 with
    guid := guidToString guid
    guidBytes := guid
    participantGuidPrefix := prefixToString guid }

def goalSnapshot (endpoints : List Endpoint) : Snapshot where
  endpoints := endpoints
  topics := @summarize literalFnmatch endpoints

def beforeLeaving : Snapshot := goalSnapshot (fibonacciEndpoints.drop 2 ++ [secondGoalClient])

def afterLeaving : Snapshot := goalSnapshot (fibonacciEndpoints.drop 2)

/-- The one removed pair, of a member that is still there, has no line. -/
theorem leaving_client_not_shown :
    ¬GhostsShownOnce afterLeaving.topics
      (Watch.decorationsFor (Diff.diffSnapshots beforeLeaving afterLeaving .guid) beforeLeaving
        {}) := by
  unfold GhostsShownOnce
  decide +kernel

end TransportViz.Table
