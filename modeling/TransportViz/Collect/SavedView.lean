import TransportViz.Collect.Placeless
import TransportViz.Collect.ViewFilters
import TransportViz.Decision.Partition
import TransportViz.Model.Text

/-!
# Filtering an observation and filtering a saved document

The endpoint filters ask about the DDS name only, since the ROS name follows from it; so they keep or
drop whole topics. After that both paths apply the same filters to the same topics.
-/

namespace TransportViz.Collect

open Decision RosNames

/-! ## The node filter on complete topics -/

section NodeFilter

variable [Fnmatch] {nodeMatches : Endpoint → Bool} {t : TopicSummary}

/-- Every writer is paired with every reader. -/
structure Complete (t : TopicSummary) : Prop where
  pairs_eq : t.pairs = freshPairs t.writers t.readers
  writers : ∀ w ∈ t.writers, w.isWriter = true
  readers : ∀ r ∈ t.readers, r.isWriter = false

theorem complete_of_mem {endpoints : List Endpoint} (h : t ∈ summarize endpoints) : Complete t := by
  have hsummary := isSummary_of_mem endpoints t h
  refine ⟨hsummary.pairs_eq, fun w hw ↦ ?_, fun r hr ↦ ?_⟩
  · rw [hsummary.writers_eq] at hw
    exact ((mem_sideOf _ _ _ _).mp hw).2.2
  · rw [hsummary.readers_eq] at hr
    exact ((mem_sideOf _ _ _ _).mp hr).2.2

theorem Complete.unclassified (h : Complete t) : Complete (unclassified t) where
  pairs_eq := by
    simp only [Collect.unclassified, erase]
    rw [h.pairs_eq, map_erase_freshPairs]
  writers w hw := by
    obtain ⟨e, he, rfl⟩ := List.mem_map.mp hw
    exact h.writers e he
  readers r hr := by
    obtain ⟨e, he, rfl⟩ := List.mem_map.mp hr
    exact h.readers e he

theorem Complete.mem_pairs (h : Complete t) (p : Pair) (hp : p ∈ t.pairs) :
    p.writer ∈ t.writers ∧ p.reader ∈ t.readers := by
  rw [h.pairs_eq, mem_freshPairs] at hp
  exact ⟨hp.1, hp.2.1⟩

theorem Complete.freshPair_mem (h : Complete t) {w r : EndpointPtr} (hw : w ∈ t.writers)
    (hr : r ∈ t.readers) : freshPair w r ∈ t.pairs := by
  rw [h.pairs_eq, mem_freshPairs]
  exact ⟨hw, hr, rfl⟩

theorem Complete.keptPairs_eq (h : Complete t) :
    keptPairs nodeMatches t = t.pairs.filter fun p ↦
      nodeMatches p.writer.toEndpoint || nodeMatches p.reader.toEndpoint :=
  keptPairs_of_ends h.mem_pairs

theorem Complete.writer_mem_keptEndpoints (h : Complete t) {w : EndpointPtr} (hw : w ∈ t.writers) :
    w ∈ keptEndpoints nodeMatches t ↔ (nodeMatches w.toEndpoint ||
      t.readers.any fun r ↦ nodeMatches r.toEndpoint) = true := by
  rw [mem_keptEndpoints, mem_matchingEndpoints, h.keptPairs_eq, Bool.or_eq_true, List.any_eq_true]
  constructor
  · rintro (⟨-, hmatches⟩ | ⟨p, hp, heq⟩)
    · exact .inl hmatches
    · obtain ⟨hmem, hmatches⟩ := List.mem_filter.mp hp
      obtain ⟨-, hreader⟩ := h.mem_pairs p hmem
      rcases heq with rfl | rfl
      · exact (Bool.or_eq_true_iff.mp hmatches).imp id fun hr ↦ ⟨p.reader, hreader, hr⟩
      · exact absurd (h.writers _ hw) (by simp [h.readers _ hreader])
  · rintro (hmatches | ⟨r, hr, hmatches⟩)
    · exact .inl ⟨.inl hw, hmatches⟩
    · exact .inr ⟨freshPair w r, List.mem_filter.mpr ⟨h.freshPair_mem hw hr,
        Bool.or_eq_true_iff.mpr (.inr hmatches)⟩, .inl rfl⟩

theorem Complete.reader_mem_keptEndpoints (h : Complete t) {r : EndpointPtr} (hr : r ∈ t.readers) :
    r ∈ keptEndpoints nodeMatches t ↔ (nodeMatches r.toEndpoint ||
      t.writers.any fun w ↦ nodeMatches w.toEndpoint) = true := by
  rw [mem_keptEndpoints, mem_matchingEndpoints, h.keptPairs_eq, Bool.or_eq_true, List.any_eq_true]
  constructor
  · rintro (⟨-, hmatches⟩ | ⟨p, hp, heq⟩)
    · exact .inl hmatches
    · obtain ⟨hmem, hmatches⟩ := List.mem_filter.mp hp
      obtain ⟨hwriter, -⟩ := h.mem_pairs p hmem
      rcases heq with rfl | rfl
      · exact absurd (h.writers _ hwriter) (by simp [h.readers _ hr])
      · exact (Bool.or_eq_true_iff.mp hmatches).symm.imp id fun hw ↦ ⟨p.writer, hwriter, hw⟩
  · rintro (hmatches | ⟨w, hw, hmatches⟩)
    · exact .inl ⟨.inr hr, hmatches⟩
    · exact .inr ⟨freshPair w r, List.mem_filter.mpr ⟨h.freshPair_mem hw hr,
        Bool.or_eq_true_iff.mpr (.inl hmatches)⟩, .inr rfl⟩

/-- What the filter leaves of a topic, by contents. -/
def keptPart (nodeMatches : Endpoint → Bool) (t : TopicSummary) : TopicSummary :=
  let pairs := t.pairs.filter fun p ↦
    nodeMatches p.writer.toEndpoint || nodeMatches p.reader.toEndpoint
  let writers := t.writers.filter fun w ↦
    nodeMatches w.toEndpoint || t.readers.any fun r ↦ nodeMatches r.toEndpoint
  let readers := t.readers.filter fun r ↦
    nodeMatches r.toEndpoint || t.writers.any fun w ↦ nodeMatches w.toEndpoint
  { t with
    writers := writers
    readers := readers
    pairs := pairs
    unmatchedReasons := unmatchedReasons writers readers pairs }

theorem Complete.filterTopic_eq (h : Complete t) (hremains : Remains nodeMatches t) :
    filterTopic nodeMatches t = some (keptPart nodeMatches t) := by
  have hwriters : t.writers.filter (· ∈ keptEndpoints nodeMatches t) =
      (keptPart nodeMatches t).writers :=
    List.filter_congr fun w hw ↦ by
      rw [Bool.eq_iff_iff, decide_eq_true_iff, h.writer_mem_keptEndpoints hw]
  have hreaders : t.readers.filter (· ∈ keptEndpoints nodeMatches t) =
      (keptPart nodeMatches t).readers :=
    List.filter_congr fun r hr ↦ by
      rw [Bool.eq_iff_iff, decide_eq_true_iff, h.reader_mem_keptEndpoints hr]
  unfold filterTopic
  rw [if_neg fun hempty ↦ (keptEndpoints_eq_empty_iff nodeMatches t).mp hempty hremains, hwriters,
    hreaders, h.keptPairs_eq]
  rfl

omit [Fnmatch] in
theorem unclassified_keptPart (t : TopicSummary) :
    unclassified (keptPart nodeMatches t) = keptPart nodeMatches (unclassified t) := by
  have hwriters : (keptPart nodeMatches (unclassified t)).writers =
      (keptPart nodeMatches t).writers.map EndpointPtr.erase := by
    simp only [keptPart, unclassified, erase, List.filter_map, List.any_map]
    rfl
  have hreaders : (keptPart nodeMatches (unclassified t)).readers =
      (keptPart nodeMatches t).readers.map EndpointPtr.erase := by
    simp only [keptPart, unclassified, erase, List.filter_map, List.any_map]
    rfl
  have hpairs : (keptPart nodeMatches (unclassified t)).pairs =
      (keptPart nodeMatches t).pairs.map Pair.erase := by
    simp only [keptPart, unclassified, erase, List.filter_map]
    rfl
  have hreasons : (keptPart nodeMatches (unclassified t)).unmatchedReasons =
      (keptPart nodeMatches t).unmatchedReasons := by
    have hagain : (keptPart nodeMatches (unclassified t)).unmatchedReasons =
        unmatchedReasons (keptPart nodeMatches (unclassified t)).writers
          (keptPart nodeMatches (unclassified t)).readers
          (keptPart nodeMatches (unclassified t)).pairs := rfl
    rw [hagain, hwriters, hreaders, hpairs, unmatchedReasons_erase]
    rfl
  have hparts : keptPart nodeMatches (unclassified t) =
      { unclassified t with
        writers := (keptPart nodeMatches (unclassified t)).writers
        readers := (keptPart nodeMatches (unclassified t)).readers
        pairs := (keptPart nodeMatches (unclassified t)).pairs
        unmatchedReasons := (keptPart nodeMatches (unclassified t)).unmatchedReasons } := rfl
  rw [hparts, hwriters, hreaders, hpairs, hreasons]
  rfl

omit [Fnmatch] in
theorem remains_unclassified (t : TopicSummary) :
    Remains nodeMatches (unclassified t) ↔ Remains nodeMatches t := by
  unfold Remains
  simp only [unclassified, erase, ← List.map_append, List.mem_map, exists_exists_and_eq_and]
  rfl

/-- The filter does not look at places. -/
theorem Complete.unclassified_filterTopic (h : Complete t) :
    (filterTopic nodeMatches t).map Collect.unclassified =
      filterTopic nodeMatches (Collect.unclassified t) := by
  by_cases hremains : Remains nodeMatches t
  · rw [h.filterTopic_eq hremains, h.unclassified.filterTopic_eq ((remains_unclassified t).mpr hremains),
      Option.map_some, unclassified_keptPart]
  · rw [filterTopic_of_not_remains hremains,
      filterTopic_of_not_remains fun hnot ↦ hremains ((remains_unclassified t).mp hnot)]
    rfl

end NodeFilter

/-! ## The filters of both paths -/

/-- `--node` asks for the node, which is then known. -/
def nodeShown (o : ViewOptions) (e : Endpoint) : Bool :=
  match o.nodeMatches with
  | none => true
  | some re => e.nodeName ≠ "" && re e.nodeName

section Filters

variable [Fnmatch] {endpoints : List Endpoint} {o : ViewOptions}

theorem map_unclassified_applyNodeFilter {topics : List TopicSummary} (h : ∀ t ∈ topics, Complete t)
    (o : ViewOptions) :
    (applyNodeFilter topics o).map unclassified = applyNodeFilter (topics.map unclassified) o := by
  unfold applyNodeFilter
  cases o.nodeMatches with
  | none => rfl
  | some re =>
    simp only [filterByNode, List.map_filterMap, List.filterMap_map]
    exact List.filterMap_congr fun t ht ↦ (h t ht).unclassified_filterTopic

omit [Fnmatch] in
theorem perm_applyNodeFilter {first second : List TopicSummary} (h : first.Perm second)
    (o : ViewOptions) : (applyNodeFilter first o).Perm (applyNodeFilter second o) := by
  unfold applyNodeFilter
  cases o.nodeMatches with
  | none => exact h
  | some re => exact h.filterMap _

omit [Fnmatch] in
theorem inDefaultView_unclassified (t : TopicSummary) :
    inDefaultView (unclassified t) = inDefaultView t := by
  unfold inDefaultView
  simp only [unclassified, erase, List.map_eq_nil_iff, List.all_map]
  rfl

/-- What the endpoint filter asks of a DDS name. -/
def keepsName (o : ViewOptions) (ddsTopic : String) : Bool :=
  keepsEndpoint o { ddsTopic := ddsTopic, rosTopic := (demangleTopic ddsTopic).name }

/-- The ROS name of every endpoint is the one behind its DDS name. -/
def NamesDemangled (endpoints : List Endpoint) : Prop :=
  ∀ e ∈ endpoints, e.rosTopic = (demangleTopic e.ddsTopic).name

omit [Fnmatch] in
theorem filter_keepsEndpoint (h : NamesDemangled endpoints) (o : ViewOptions) :
    endpoints.filter (keepsEndpoint o) = endpoints.filter fun e ↦ keepsName o e.ddsTopic := by
  refine List.filter_congr fun e he ↦ ?_
  unfold keepsName keepsEndpoint
  rw [h e he]

/-- The name of a topic, as its endpoints have it. -/
structure Named (ddsTopic rosTopic : String) (t : TopicSummary) : Prop where
  ddsTopic_eq : t.ddsTopic = ddsTopic
  displayTopic_eq : t.displayTopic = if rosTopic ≠ "" then rosTopic else ddsTopic
  isRosTopic_eq : t.isRosTopic = decide (rosTopic ≠ "")

omit [Fnmatch] in
theorem named_nameTopic {ddsTopic rosTopic : String} {e : EndpointPtr} (t : TopicSummary)
    (hdds : e.ddsTopic = ddsTopic) (hros : e.rosTopic = rosTopic)
    (h : t.ddsTopic ≠ "" → Named ddsTopic rosTopic t) :
    Named ddsTopic rosTopic (addEndpoint t e) := by
  have hname : Named ddsTopic rosTopic (nameTopic t e) := by
    unfold nameTopic
    by_cases hname : t.ddsTopic ≠ ""
    · rw [if_pos hname]
      exact h hname
    · rw [if_neg hname]
      subst hdds hros
      exact ⟨rfl, rfl, rfl⟩
  unfold addEndpoint
  split_ifs <;> exact ⟨hname.ddsTopic_eq, hname.displayTopic_eq, hname.isRosTopic_eq⟩

omit [Fnmatch] in
theorem named_foldl {ddsTopic rosTopic : String} (group : List EndpointPtr) (t : TopicSummary)
    (hgroup : ∀ e ∈ group, e.ddsTopic = ddsTopic ∧ e.rosTopic = rosTopic)
    (h : Named ddsTopic rosTopic t) : Named ddsTopic rosTopic (group.foldl addEndpoint t) := by
  induction group generalizing t with
  | nil => exact h
  | cons e rest ih =>
    obtain ⟨hdds, hros⟩ := hgroup e (List.mem_cons_self ..)
    exact ih _ (fun other hother ↦ hgroup other (List.mem_cons_of_mem e hother))
      (named_nameTopic t hdds hros fun _ ↦ h)

/-- The topic of a group carries the names of the group. -/
theorem named_topicOf (h : NamesDemangled endpoints) {ddsTopic : String}
    (hmem : ddsTopic ∈ endpoints.map Endpoint.ddsTopic) :
    Named ddsTopic (demangleTopic ddsTopic).name (topicOf (groupOf endpoints ddsTopic)) := by
  have hgroup : ∀ e ∈ (groupOf endpoints ddsTopic).map unplaced,
      e.ddsTopic = ddsTopic ∧ e.rosTopic = (demangleTopic ddsTopic).name := by
    intro e he
    obtain ⟨endpoint, hendpoint, rfl⟩ := List.mem_map.mp he
    obtain ⟨hin, htopic⟩ := List.mem_filter.mp hendpoint
    have hdds : endpoint.ddsTopic = ddsTopic := of_decide_eq_true htopic
    exact ⟨hdds, by rw [← hdds]; exact h endpoint hin⟩
  have hne : (groupOf endpoints ddsTopic).map unplaced ≠ [] := by
    obtain ⟨e, he, rfl⟩ := List.mem_map.mp hmem
    rw [Ne, List.map_eq_nil_iff]
    exact List.ne_nil_of_mem (List.mem_filter.mpr ⟨he, decide_eq_true rfl⟩)
  have hnamed : Named ddsTopic (demangleTopic ddsTopic).name
      (((groupOf endpoints ddsTopic).map unplaced).foldl addEndpoint {}) := by
    revert hgroup hne
    generalize (groupOf endpoints ddsTopic).map unplaced = group
    intro hgroup hne
    cases group with
    | nil => exact absurd rfl hne
    | cons e rest =>
      obtain ⟨hdds, hros⟩ := hgroup e (List.mem_cons_self ..)
      exact named_foldl rest _ (fun other hother ↦ hgroup other (List.mem_cons_of_mem e hother))
        (named_nameTopic {} hdds hros fun hnot ↦ absurd rfl hnot)
  exact ⟨hnamed.ddsTopic_eq, hnamed.displayTopic_eq, hnamed.isRosTopic_eq⟩

theorem named_of_mem (h : NamesDemangled endpoints) {t : TopicSummary}
    (ht : t ∈ (summarize endpoints).map unclassified) :
    ∃ ddsTopic ∈ endpoints.map Endpoint.ddsTopic,
      Named ddsTopic (demangleTopic ddsTopic).name t := by
  obtain ⟨ddsTopic, hmem, rfl⟩ := List.mem_map.mp ((perm_summarize endpoints).subset ht)
  exact ⟨ddsTopic, List.mem_dedup.mp hmem, named_topicOf h (List.mem_dedup.mp hmem)⟩

/-- Dropping endpoints by their DDS name drops whole topics. -/
theorem perm_summarize_filter (h : NamesDemangled endpoints) (keeps : String → Bool) :
    ((summarize (endpoints.filter fun e ↦ keeps e.ddsTopic)).map unclassified).Perm
      (((summarize endpoints).map unclassified).filter fun t ↦ keeps t.ddsTopic) := by
  have hnames : ((endpoints.filter fun e ↦ keeps e.ddsTopic).map Endpoint.ddsTopic).dedup.Perm
      ((endpoints.map Endpoint.ddsTopic).dedup.filter keeps) := by
    rw [List.perm_ext_iff_of_nodup (List.nodup_dedup _) ((List.nodup_dedup _).filter _)]
    intro ddsTopic
    simp only [List.mem_dedup, List.mem_filter, List.mem_map]
    constructor
    · rintro ⟨e, ⟨he, hkeeps⟩, rfl⟩
      exact ⟨⟨e, he, rfl⟩, hkeeps⟩
    · rintro ⟨⟨e, he, rfl⟩, hkeeps⟩
      exact ⟨e, ⟨he, hkeeps⟩, rfl⟩
  have hgroups : ((endpoints.map Endpoint.ddsTopic).dedup.filter keeps).map (fun ddsTopic ↦
        topicOf (groupOf (endpoints.filter fun e ↦ keeps e.ddsTopic) ddsTopic)) =
      (((endpoints.map Endpoint.ddsTopic).dedup.map fun ddsTopic ↦
        topicOf (groupOf endpoints ddsTopic)).filter fun t ↦ keeps t.ddsTopic) := by
    have hname : (endpoints.map Endpoint.ddsTopic).dedup.filter
          ((fun t ↦ keeps t.ddsTopic) ∘ fun ddsTopic ↦ topicOf (groupOf endpoints ddsTopic)) =
        (endpoints.map Endpoint.ddsTopic).dedup.filter keeps :=
      List.filter_congr fun ddsTopic hmem ↦ by
        rw [Function.comp_apply, (named_topicOf h (List.mem_dedup.mp hmem)).ddsTopic_eq]
    rw [List.filter_map, hname]
    refine List.map_congr_left fun ddsTopic hmem ↦ ?_
    have hkeeps := (List.mem_filter.mp hmem).2
    congr 1
    unfold groupOf
    rw [List.filter_filter]
    refine List.filter_congr fun e _ ↦ ?_
    by_cases hdds : e.ddsTopic = ddsTopic
    · simp [hdds, hkeeps]
    · simp [hdds]
  refine (perm_summarize _).trans ((hnames.map _).trans ?_)
  rw [hgroups]
  exact ((perm_summarize endpoints).filter _).symm

/-- The topics that every view leaves out. -/
def hiddenName (ddsTopic : String) : Bool :=
  ddsTopic = "ros_discovery_info" || startsWith ddsTopic "_fastdds_"

omit [Fnmatch] in
theorem keepsName_eq (o : ViewOptions) (ddsTopic : String) :
    keepsName o ddsTopic =
      ((o.all || ((demangleTopic ddsTopic).name ≠ "" && startsWith ddsTopic "rt/")) &&
        !hiddenName ddsTopic &&
        matchesTopic o (if (demangleTopic ddsTopic).name ≠ "" then (demangleTopic ddsTopic).name
          else ddsTopic)) := by
  unfold keepsName keepsEndpoint hiddenName
  simp only [ite_not]
  cases hall : o.all <;> by_cases hros : (demangleTopic ddsTopic).name = "" <;>
    cases hrt : startsWith ddsTopic "rt/" <;> by_cases hinfo : ddsTopic = "ros_discovery_info" <;>
    cases hfastdds : startsWith ddsTopic "_fastdds_" <;> simp [hros]

omit [Fnmatch] in
theorem keepsName_all {ddsTopic : String} (h : keepsName o ddsTopic = true) :
    keepsName { all := true } ddsTopic = true := by
  rw [keepsName_eq, Bool.and_eq_true, Bool.and_eq_true] at h
  rw [keepsName_eq, h.1.2]
  rfl

omit [Fnmatch] in
theorem inDefaultView_name {ddsTopic : String} {t : TopicSummary}
    (hnamed : Named ddsTopic (demangleTopic ddsTopic).name t) (h : inDefaultView t = true) :
    (decide ((demangleTopic ddsTopic).name ≠ "") && startsWith ddsTopic "rt/") = true := by
  unfold inDefaultView at h
  rw [hnamed.isRosTopic_eq, hnamed.ddsTopic_eq] at h
  split_ifs at h with hname
  all_goals simpa using hname

omit [Fnmatch] in
/-- The view of a saved topic asks what the endpoint filter and the default view ask. -/
theorem savedFilter_eq {ddsTopic : String} {t : TopicSummary}
    (hkept : keepsName { all := true } ddsTopic = true)
    (hnamed : Named ddsTopic (demangleTopic ddsTopic).name t) :
    (!((!o.all && !inDefaultView t) || !matchesTopic o t.displayTopic)) =
      (keepsName o t.ddsTopic && (o.all || inDefaultView t)) := by
  have hshown : hiddenName ddsTopic = false := by
    rw [keepsName_eq, Bool.and_eq_true, Bool.and_eq_true] at hkept
    simpa using hkept.1.2
  rw [hnamed.ddsTopic_eq, hnamed.displayTopic_eq, keepsName_eq, hshown]
  have hview := inDefaultView_name hnamed
  cases hall : o.all with
  | true => simp
  | false =>
    cases hdefault : inDefaultView t with
    | true =>
      rw [hview hdefault]
      simp
    | false => simp

theorem complete_collected {topics : List TopicSummary} {keeps : TopicSummary → Bool}
    (htopics : topics = (summarize endpoints).filter keeps) : ∀ t ∈ topics, Complete t := by
  subst htopics
  exact fun t ht ↦ complete_of_mem (List.mem_filter.mp ht).1

omit [Fnmatch] in
theorem applyDefaultView_eq (topics : List TopicSummary) (o : ViewOptions) :
    applyDefaultView topics o = topics.filter fun t ↦ o.all || inDefaultView t := by
  unfold applyDefaultView
  cases o.all <;> simp

/-- Before the node filter both paths have the same topics. -/
theorem perm_beforeNodeFilter (h : NamesDemangled endpoints) (o : ViewOptions) :
    (((summarize (endpoints.filter (keepsEndpoint o))).filter fun t ↦
        o.all || inDefaultView t).map unclassified).Perm
      (((summarize (endpoints.filter (keepsEndpoint { all := true }))).filter fun t ↦
        !((!o.all && !inDefaultView t) || !matchesTopic o t.displayTopic)).map unclassified) := by
  have hshown : NamesDemangled (endpoints.filter (keepsEndpoint { all := true })) :=
    fun e he ↦ h e (List.mem_filter.mp he).1
  have hkept : endpoints.filter (keepsEndpoint o) =
      (endpoints.filter (keepsEndpoint { all := true })).filter fun e ↦ keepsName o e.ddsTopic := by
    rw [filter_keepsEndpoint h, filter_keepsEndpoint h, List.filter_filter]
    refine List.filter_congr fun e _ ↦ ?_
    cases hkeeps : keepsName o e.ddsTopic with
    | true => rw [keepsName_all hkeeps, Bool.and_self]
    | false => rfl
  rw [hkept]
  revert hshown
  generalize hall : endpoints.filter (keepsEndpoint { all := true }) = shown
  intro hshown
  have hnames : ∀ ddsTopic ∈ shown.map Endpoint.ddsTopic,
      keepsName { all := true } ddsTopic = true := by
    intro ddsTopic hmem
    obtain ⟨e, he, rfl⟩ := List.mem_map.mp hmem
    rw [← hall, filter_keepsEndpoint h] at he
    exact (List.mem_filter.mp he).2
  have hview : (fun t ↦ o.all || inDefaultView t) =
      (fun t ↦ o.all || inDefaultView t) ∘ unclassified := by
    funext t
    rw [Function.comp_apply, inDefaultView_unclassified]
  have hsaved : (fun t ↦ !((!o.all && !inDefaultView t) || !matchesTopic o t.displayTopic)) =
      (fun t ↦ !((!o.all && !inDefaultView t) || !matchesTopic o t.displayTopic)) ∘ unclassified := by
    funext t
    rw [Function.comp_apply, inDefaultView_unclassified]
    rfl
  rw [hview, hsaved, ← List.filter_map, ← List.filter_map]
  refine ((perm_summarize_filter hshown (keepsName o)).filter _).trans ?_
  rw [List.filter_filter]
  refine .of_eq (List.filter_congr fun t ht ↦ ?_)
  obtain ⟨ddsTopic, hmem, hnamed⟩ := named_of_mem hshown ht
  rw [savedFilter_eq (hnames ddsTopic hmem) hnamed, Bool.and_comm]

omit [Fnmatch] in
theorem sorted_applyNodeFilter {topics : List TopicSummary}
    (h : topics.Pairwise fun a b ↦ a.displayTopic ≤ b.displayTopic) (o : ViewOptions) :
    (applyNodeFilter topics o).Pairwise fun a b ↦ a.displayTopic ≤ b.displayTopic := by
  unfold applyNodeFilter
  cases o.nodeMatches with
  | none => exact h
  | some re =>
    have hname {t u : TopicSummary} (hfilter : filterTopic
        (fun e ↦ e.nodeName ≠ "" && re e.nodeName) t = some u) : u.displayTopic = t.displayTopic := by
      unfold filterTopic at hfilter
      split_ifs at hfilter
      rw [← Option.some.inj hfilter]
    refine h.filterMap _ fun a b hle u hu v hv ↦ ?_
    rw [hname hu, hname hv]
    exact hle

end Filters

/-- Observing with the view options and filtering the document of an unfiltered observation give the same
endpoints, pairs, verdicts and reasons. -/
theorem perm_unclassified_views [Fnmatch] (endpoints : List Endpoint) (h : NamesDemangled endpoints)
    (o : ViewOptions) :
    ((collectTopics endpoints o).map unclassified).Perm
      ((applyViewFilters (collectTopics endpoints { all := true }) o).map unclassified) := by
  have hunfiltered : collectTopics endpoints { all := true } =
      summarize (endpoints.filter (keepsEndpoint { all := true })) := rfl
  rw [hunfiltered, collectTopics, applyViewFilters, applyDefaultView_eq,
    map_unclassified_applyNodeFilter (complete_collected rfl),
    map_unclassified_applyNodeFilter (complete_collected rfl)]
  exact perm_applyNodeFilter (perm_beforeNodeFilter h o) o

/-- Both lists are sorted by the names the topics are shown under. -/
theorem sorted_views [Fnmatch] (endpoints : List Endpoint) (o : ViewOptions) :
    (collectTopics endpoints o).Pairwise (fun a b ↦ a.displayTopic ≤ b.displayTopic) ∧
      (applyViewFilters (collectTopics endpoints { all := true }) o).Pairwise
        fun a b ↦ a.displayTopic ≤ b.displayTopic := by
  have hunfiltered : collectTopics endpoints { all := true } =
      summarize (endpoints.filter (keepsEndpoint { all := true })) := rfl
  rw [hunfiltered, collectTopics, applyViewFilters, applyDefaultView_eq]
  constructor
  · exact sorted_applyNodeFilter ((sorted_summarize _).filter _) o
  · exact sorted_applyNodeFilter ((sorted_summarize _).filter _) o

/-! ## What is shown -/

section Shown

variable [Fnmatch] {endpoints : List Endpoint} {t : TopicSummary}

/-- A topic of the default view has an endpoint of its own. -/
theorem inDefaultView_iff (hnames : NamesDemangled endpoints)
    (hros : ∀ e ∈ endpoints, e.rosTopic ≠ "" ∧ startsWith e.ddsTopic "rt/" = true)
    (ht : t ∈ summarize endpoints) :
    inDefaultView t = true ↔ ∃ f ∈ t.writers ++ t.readers, f.bufferParentGuid = "" := by
  obtain ⟨ddsTopic, hmem, hnamed⟩ := named_of_mem hnames (List.mem_map_of_mem ht)
  obtain ⟨e, he, rfl⟩ := List.mem_map.mp hmem
  obtain ⟨hname, hrt⟩ := hros e he
  rw [hnames e he] at hname
  have htopic : t.ddsTopic = e.ddsTopic := hnamed.ddsTopic_eq
  have hisRos : t.isRosTopic = true := by
    rw [← decide_eq_true hname]
    exact hnamed.isRosTopic_eq
  obtain ⟨pointer, hpointer, heq⟩ := exists_pointer he
  have hin : pointer ∈ t.writers ++ t.readers :=
    (mem_topic_iff ht pointer).mpr ⟨hpointer, by rw [htopic, ← heq]⟩
  have hsome : ¬(t.writers = [] ∧ t.readers = []) := by
    intro ⟨hwriters, hreaders⟩
    rw [hwriters, hreaders] at hin
    exact List.not_mem_nil hin
  unfold inDefaultView
  rw [if_neg (by simp [hisRos, htopic, hrt]), if_neg hsome, ← List.all_append]
  simp [or_and_right, exists_or]

/-- An endpoint stands in its topic, next to the others of the DDS topic. -/
theorem exists_topic {e : Endpoint} (he : e ∈ endpoints) :
    ∃ t ∈ summarize endpoints, t.ddsTopic = e.ddsTopic ∧
      ∃ pointer ∈ t.writers ++ t.readers, pointer.toEndpoint = e := by
  obtain ⟨pointer, hpointer, rfl⟩ := exists_pointer he
  obtain ⟨t, ht, hplaced⟩ := exists_placedIn hpointer
  exact ⟨t, ht, hplaced.ddsTopic_eq, pointer,
    (mem_topic_iff ht pointer).mpr ⟨hpointer, hplaced.ddsTopic_eq.symm⟩, rfl⟩

/-- Of the topic of an endpoint: what holds of one of its endpoints holds of one in the list. -/
theorem exists_mem_topic_iff (ht : t ∈ summarize endpoints) (p : Endpoint → Prop) :
    (∃ f ∈ t.writers ++ t.readers, p f.toEndpoint) ↔
      ∃ f ∈ endpoints, f.ddsTopic = t.ddsTopic ∧ p f := by
  constructor
  · intro ⟨f, hf, hp⟩
    obtain ⟨hpointer, htopic⟩ := (mem_topic_iff ht f).mp hf
    exact ⟨f.toEndpoint, mem_of_mem_pointers hpointer, htopic, hp⟩
  · intro ⟨f, hf, htopic, hp⟩
    obtain ⟨pointer, hpointer, rfl⟩ := exists_pointer hf
    exact ⟨pointer, (mem_topic_iff ht pointer).mpr ⟨hpointer, htopic⟩, hp⟩

end Shown

end TransportViz.Collect
