import TransportViz.Collect.SavedView
import TransportViz.Decision.ActionTypes

/-!
# The kinds of the topics in a filtered view

What a topic is in ROS terms depends on the other topics: only together are the members of an action
one. An observation with view options classifies the topics that the endpoint filters leave, while a
saved document was classified with all of them and is filtered afterwards. So the two views agree on
everything else, and on this exactly when both see the same actions behind the topics they show.
-/

namespace TransportViz.Collect

open Decision RosNames

/-- Observing with the view options and filtering the document of an unfiltered observation give the same
topics, both in the order of the names they are shown under. -/
structure ViewsAgree [Fnmatch] (endpoints : List Endpoint) (o : ViewOptions) : Prop where
  perm : ((collectTopics endpoints o).map erase).Perm
    ((applyViewFilters (collectTopics endpoints { all := true }) o).map erase)
  observed_sorted : (collectTopics endpoints o).Pairwise fun a b ↦ a.displayTopic ≤ b.displayTopic
  saved_sorted : (applyViewFilters (collectTopics endpoints { all := true }) o).Pairwise
    fun a b ↦ a.displayTopic ≤ b.displayTopic

/-- The default view has an endpoint of the topic that is not folded into a parent, and a node that is
asked for has one. -/
structure TopicShown (o : ViewOptions) (endpoints : List Endpoint) (ddsTopic : String) : Prop where
  view : o.all = true ∨ ∃ f ∈ endpoints, f.ddsTopic = ddsTopic ∧ f.bufferParentGuid = ""
  node : ∃ f ∈ endpoints, f.ddsTopic = ddsTopic ∧ nodeShown o f = true

/-- The first endpoints of the action's topics carry their types and name one action type. -/
def FormsAction (endpoints : List Endpoint) (action : String) : Prop :=
  ∃ type, HeadsAgree endpoints action type

/-- The members of an action that the endpoint filters leave form it exactly when all its members do, for
every action with a member that is shown. -/
def ActionsSeenAlike (endpoints : List Endpoint) (o : ViewOptions) : Prop :=
  ∀ e ∈ endpoints.filter (keepsEndpoint o),
    TopicShown o (endpoints.filter (keepsEndpoint o)) e.ddsTopic →
    ∀ action, IsMember action (announced e) →
      (FormsAction (endpoints.filter (keepsEndpoint o)) action ↔
        FormsAction (endpoints.filter (keepsEndpoint { all := true })) action)

/-! ## What a DDS name is, given the actions -/

section Classes

/-- The class of a topic of this name. -/
def classIn (c : ActionCandidates) (ddsTopic : String) : TopicKind × String × GroupDirection :=
  classOf (classifyIn c { ddsTopic := ddsTopic })

/-- The topic with the class of its name. -/
def classifiedAs (c : ActionCandidates) (t : TopicSummary) : TopicSummary :=
  { t with
    kind := (classIn c t.ddsTopic).1
    group := (classIn c t.ddsTopic).2.1
    direction := (classIn c t.ddsTopic).2.2 }

theorem classOf_classifyIn (c : ActionCandidates) (t : TopicSummary) :
    classOf (classifyIn c t) = classIn c t.ddsTopic :=
  classOf_classifyIn_congr rfl fun _ ↦ rfl

theorem classIn_of_not_isAction {c : ActionCandidates} {ddsTopic : String}
    (h : ∀ action, IsMember action (parseActionMember ddsTopic "") → c.isAction action = false) :
    classIn c ddsTopic = classOf (classifyName { ddsTopic := ddsTopic }) := by
  rw [classIn, classifyIn, if_neg]
  intro hmarked
  rw [Bool.and_eq_true] at hmarked
  exact Bool.false_ne_true ((h _ ⟨hmarked.1, rfl⟩).symm.trans hmarked.2)

theorem classIn_of_isAction {c : ActionCandidates} {ddsTopic action : String}
    (hmember : IsMember action (parseActionMember ddsTopic "")) (h : c.isAction action = true) :
    classIn c ddsTopic = classOf (markAction action (classifyName { ddsTopic := ddsTopic })) := by
  obtain ⟨hmatched, rfl⟩ := hmember
  rw [classIn, classifyIn, if_pos]
  · rfl
  · rw [Bool.and_eq_true]
    exact ⟨hmatched, h⟩

/-- A name has one class for both exactly when both have or have not its action. -/
theorem classIn_eq_iff (c c' : ActionCandidates) (ddsTopic : String) :
    classIn c ddsTopic = classIn c' ddsTopic ↔
      ∀ action, IsMember action (parseActionMember ddsTopic "") →
        (c.isAction action = true ↔ c'.isAction action = true) := by
  have hdiffer {c c' : ActionCandidates} {action : String}
      (hmember : IsMember action (parseActionMember ddsTopic ""))
      (h : c.isAction action = true) (h' : ¬c'.isAction action = true) :
      classIn c ddsTopic ≠ classIn c' ddsTopic := by
    intro heq
    rw [classIn_of_isAction hmember h, classIn_of_not_isAction] at heq
    · exact kind_classifyName _ (congrArg Prod.fst heq).symm
    · rintro other ⟨-, rfl⟩
      rw [hmember.2]
      exact Bool.eq_false_iff.mpr h'
  constructor
  · intro heq action hmember
    constructor
    · intro h
      by_contra h'
      exact hdiffer hmember h h' heq
    · intro h'
      by_contra h
      exact hdiffer hmember h' h heq.symm
  · intro h
    by_cases hforms : ∃ action, IsMember action (parseActionMember ddsTopic "") ∧
        c.isAction action = true
    · obtain ⟨action, hmember, haction⟩ := hforms
      rw [classIn_of_isAction hmember haction,
        classIn_of_isAction hmember ((h action hmember).mp haction)]
    · have hnone (action : String) (hmember : IsMember action (parseActionMember ddsTopic "")) :
          ¬c.isAction action = true := fun haction ↦ hforms ⟨action, hmember, haction⟩
      rw [classIn_of_not_isAction fun action hmember ↦ Bool.eq_false_iff.mpr (hnone action hmember),
        classIn_of_not_isAction fun action hmember ↦
          Bool.eq_false_iff.mpr ((h action hmember).not.mp (hnone action hmember))]

theorem classifiedAs_eq_iff (c c' : ActionCandidates) (t : TopicSummary) :
    classifiedAs c t = classifiedAs c' t ↔ classIn c t.ddsTopic = classIn c' t.ddsTopic := by
  have hclass (c : ActionCandidates) : classOf (classifiedAs c t) = classIn c t.ddsTopic := rfl
  constructor
  · intro h
    rw [← hclass, h, hclass]
  · intro h
    rw [classifiedAs, classifiedAs, h]

end Classes

/-! ## The topics of a view -/

section Views

variable [Fnmatch] {endpoints : List Endpoint} {o : ViewOptions}

/-- The candidates that the topics of the endpoints make. -/
abbrev candidates (endpoints : List Endpoint) : ActionCandidates := candidatesOf (pairedTopics endpoints)

theorem classOf_of_mem_summarize {t : TopicSummary} (ht : t ∈ summarize endpoints) :
    classOf t = classIn (candidates endpoints) t.ddsTopic := by
  rw [summarize_eq_map] at ht
  obtain ⟨u, -, rfl⟩ := List.mem_map.mp ht
  have hname : (classifyIn (candidates endpoints) u).ddsTopic = u.ddsTopic := by
    unfold classifyIn
    split_ifs <;> exact (kindOnly_classifyName u).ddsTopic_eq
  rw [classOf_classifyIn, hname]

omit [Fnmatch] in
/-- A topic that is left has its name and its class. -/
theorem ddsTopic_classOf_of_filterTopic {nodeMatches : Endpoint → Bool} {t u : TopicSummary}
    (h : filterTopic nodeMatches t = some u) : u.ddsTopic = t.ddsTopic ∧ classOf u = classOf t := by
  unfold filterTopic at h
  split_ifs at h
  rw [← Option.some.inj h]
  exact ⟨rfl, rfl⟩

omit [Fnmatch] in
theorem exists_of_mem_applyNodeFilter {topics : List TopicSummary} {u : TopicSummary}
    (hu : u ∈ applyNodeFilter topics o) :
    ∃ t ∈ topics, u.ddsTopic = t.ddsTopic ∧ classOf u = classOf t := by
  unfold applyNodeFilter at hu
  cases hnode : o.nodeMatches with
  | none =>
    rw [hnode] at hu
    exact ⟨u, hu, rfl, rfl⟩
  | some re =>
    rw [hnode] at hu
    obtain ⟨t, ht, hfilter⟩ := List.mem_filterMap.mp hu
    exact ⟨t, ht, ddsTopic_classOf_of_filterTopic hfilter⟩

omit [Fnmatch] in
theorem erase_eq_classifiedAs {c : ActionCandidates} {t : TopicSummary}
    (h : classOf t = classIn c t.ddsTopic) : erase t = classifiedAs c (unclassified t) := by
  have hname : (unclassified t).ddsTopic = t.ddsTopic := rfl
  rw [classifiedAs, hname, ← h]
  rfl

/-- A filtered view of summarized topics is made of the contents and of the candidates. -/
theorem map_erase_view {keeps : TopicSummary → Bool} :
    (applyNodeFilter ((summarize endpoints).filter keeps) o).map erase =
      ((applyNodeFilter ((summarize endpoints).filter keeps) o).map unclassified).map
        (classifiedAs (candidates endpoints)) := by
  rw [List.map_map]
  apply List.map_congr_left
  intro u hu
  apply erase_eq_classifiedAs
  obtain ⟨t, ht, hname, hclass⟩ := exists_of_mem_applyNodeFilter hu
  rw [hclass, hname, classOf_of_mem_summarize (List.mem_filter.mp ht).1]

omit [Fnmatch] in
theorem nodup_ddsTopic_applyNodeFilter {topics : List TopicSummary}
    (h : (topics.map TopicSummary.ddsTopic).Nodup) (o : ViewOptions) :
    ((applyNodeFilter topics o).map TopicSummary.ddsTopic).Nodup := by
  rw [List.Nodup, List.pairwise_map] at h ⊢
  unfold applyNodeFilter
  cases o.nodeMatches with
  | none => exact h
  | some re =>
    refine h.filterMap _ fun a b hne u hu v hv ↦ ?_
    rw [(ddsTopic_classOf_of_filterTopic hu).1, (ddsTopic_classOf_of_filterTopic hv).1]
    exact hne

omit [Fnmatch] in
/-- Two lists of the same contents are equal, each with a class of its own for every name, when the
classes of all names are. -/
theorem perm_map_classifiedAs_iff {first second : List TopicSummary} (hperm : first.Perm second)
    (hnodup : (first.map TopicSummary.ddsTopic).Nodup) (c c' : ActionCandidates) :
    (first.map (classifiedAs c)).Perm (second.map (classifiedAs c')) ↔
      ∀ t ∈ first, classIn c t.ddsTopic = classIn c' t.ddsTopic := by
  constructor
  · intro h t ht
    obtain ⟨u, hu, heq⟩ := List.mem_map.mp (h.subset (List.mem_map_of_mem ht))
    have hname : u.ddsTopic = t.ddsTopic := congrArg (fun t ↦ t.ddsTopic) heq
    have hsame : u = t := List.inj_on_of_nodup_map hnodup (hperm.mem_iff.mpr hu) ht hname
    rw [← classifiedAs_eq_iff, ← heq, hsame]
  · intro h
    have hmap : first.map (classifiedAs c) = first.map (classifiedAs c') :=
      List.map_congr_left fun t ht ↦ (classifiedAs_eq_iff c c' t).mpr (h t ht)
    rw [hmap]
    exact hperm.map _

/-- The node filter keeps a topic for one of its endpoints. -/
theorem exists_mem_applyNodeFilter_iff {keeps : TopicSummary → Bool} (ddsTopic : String) :
    (∃ u ∈ applyNodeFilter ((summarize endpoints).filter keeps) o, u.ddsTopic = ddsTopic) ↔
      ∃ t ∈ summarize endpoints, keeps t = true ∧ t.ddsTopic = ddsTopic ∧
        ∃ f ∈ t.writers ++ t.readers, nodeShown o f.toEndpoint = true := by
  unfold applyNodeFilter nodeShown
  cases o.nodeMatches with
  | none =>
    simp only [List.mem_filter, and_assoc, and_true]
    refine exists_congr fun t ↦ and_congr_right fun ht ↦ and_congr_right fun _ ↦ ?_
    refine (and_iff_left ?_).symm
    obtain ⟨e, he, htopic, -⟩ := (isSummary_of_mem endpoints t ht).display
    exact ⟨e, (mem_topic_iff ht e).mpr ⟨he, htopic⟩⟩
  | some re =>
    simp only [filterByNode, List.mem_filterMap, List.mem_filter]
    constructor
    · rintro ⟨u, ⟨t, ⟨ht, hkeeps⟩, hfilter⟩, hname⟩
      have hremains : Remains (fun e ↦ e.nodeName ≠ "" && re e.nodeName) t := by
        by_contra hnot
        rw [filterTopic_of_not_remains hnot] at hfilter
        cases hfilter
      obtain ⟨e, he, hnode⟩ := hremains
      rw [(ddsTopic_classOf_of_filterTopic hfilter).1] at hname
      exact ⟨t, ht, hkeeps, hname, e, he, hnode⟩
    · rintro ⟨t, ht, hkeeps, hname, e, he, hnode⟩
      have hremains : Remains (fun e ↦ e.nodeName ≠ "" && re e.nodeName) t := ⟨e, he, hnode⟩
      refine ⟨keptPart _ t, ⟨t, ⟨ht, hkeeps⟩, (complete_of_mem ht).filterTopic_eq hremains⟩, hname⟩

/-- A topic is shown by what its endpoints are. -/
theorem exists_mem_collectTopics_iff (h : NamesDemangled endpoints) (ddsTopic : String) :
    (∃ u ∈ collectTopics endpoints o, u.ddsTopic = ddsTopic) ↔
      TopicShown o (endpoints.filter (keepsEndpoint o)) ddsTopic := by
  have hkept : NamesDemangled (endpoints.filter (keepsEndpoint o)) :=
    fun e he ↦ h e (List.mem_filter.mp he).1
  have hros (hall : o.all = false) : ∀ e ∈ endpoints.filter (keepsEndpoint o),
      e.rosTopic ≠ "" ∧ startsWith e.ddsTopic "rt/" = true := by
    intro e he
    have hkeeps := (List.mem_filter.mp he).2
    unfold keepsEndpoint at hkeeps
    by_contra hnot
    rw [if_pos] at hkeeps
    · exact Bool.false_ne_true hkeeps
    · rw [hall]
      tauto
  have hview {t : TopicSummary} (ht : t ∈ summarize (endpoints.filter (keepsEndpoint o))) :
      (o.all || inDefaultView t) = true ↔ o.all = true ∨
        ∃ f ∈ endpoints.filter (keepsEndpoint o), f.ddsTopic = t.ddsTopic ∧ f.bufferParentGuid = "" := by
    cases hall : o.all with
    | true => simp
    | false => simp only [Bool.false_or, Bool.false_eq_true, false_or,
        inDefaultView_iff hkept (hros hall) ht,
        ← exists_mem_topic_iff ht fun f ↦ f.bufferParentGuid = ""]
  rw [collectTopics, applyDefaultView_eq, exists_mem_applyNodeFilter_iff]
  constructor
  · rintro ⟨t, ht, hkeeps, rfl, hnode⟩
    exact ⟨(hview ht).mp hkeeps, (exists_mem_topic_iff ht fun f ↦ nodeShown o f = true).mp hnode⟩
  · rintro ⟨hdefault, f, hf, rfl, hnode⟩
    obtain ⟨t, ht, htopic, -⟩ := exists_topic hf
    rw [← htopic] at hdefault ⊢
    exact ⟨t, ht, (hview ht).mpr hdefault, rfl,
      (exists_mem_topic_iff ht fun f ↦ nodeShown o f = true).mpr ⟨f, hf, htopic.symm, hnode⟩⟩

/-- The contents of the two views are the same, so it is left to their classes. -/
theorem perm_erase_views_iff (h : NamesDemangled endpoints) (o : ViewOptions) :
    ((collectTopics endpoints o).map erase).Perm
        ((applyViewFilters (collectTopics endpoints { all := true }) o).map erase) ↔
      ∀ t ∈ collectTopics endpoints o, ∀ action, IsMember action (parseActionMember t.ddsTopic "") →
        (FormsAction (endpoints.filter (keepsEndpoint o)) action ↔
          FormsAction (endpoints.filter (keepsEndpoint { all := true })) action) := by
  have hnodup : (((collectTopics endpoints o).map unclassified).map TopicSummary.ddsTopic).Nodup := by
    rw [List.map_map, collectTopics, applyDefaultView_eq]
    exact nodup_ddsTopic_applyNodeFilter
      ((nodup_ddsTopic_summarize _).sublist (List.filter_sublist.map _)) o
  have hfirst : (collectTopics endpoints o).map erase =
      ((collectTopics endpoints o).map unclassified).map
        (classifiedAs (candidates (endpoints.filter (keepsEndpoint o)))) := by
    rw [collectTopics, applyDefaultView_eq]
    exact map_erase_view
  have hsecond : (applyViewFilters (collectTopics endpoints { all := true }) o).map erase =
      ((applyViewFilters (collectTopics endpoints { all := true }) o).map unclassified).map
        (classifiedAs (candidates (endpoints.filter (keepsEndpoint { all := true })))) :=
    map_erase_view
  rw [hfirst, hsecond, perm_map_classifiedAs_iff (perm_unclassified_views endpoints h o) hnodup,
    List.forall_mem_map]
  refine forall₂_congr fun t _ ↦ ?_
  rw [classIn_eq_iff]
  simp only [isAction_pairedTopics_iff]
  exact Iff.rfl

omit [Fnmatch] in
/-- Whether an endpoint is of an action's member shows in its topic's name. -/
theorem isMember_announced_iff {e : Endpoint} {ddsTopic action : String}
    (hname : e.ddsTopic = ddsTopic) :
    IsMember action (announced e) ↔ IsMember action (parseActionMember ddsTopic "") := by
  obtain ⟨hmatched, haction⟩ := parseActionMember_action ddsTopic e.ddsType ""
  rw [IsMember, IsMember, announced, hname, hmatched, haction]

end Views

/-- The two views agree exactly when both see the same actions behind the topics they show. -/
theorem viewsAgree_iff [Fnmatch] (endpoints : List Endpoint) (h : NamesDemangled endpoints)
    (o : ViewOptions) : ViewsAgree endpoints o ↔ ActionsSeenAlike endpoints o := by
  obtain ⟨hobserved, hsaved⟩ := sorted_views endpoints o
  constructor
  · rintro ⟨hsame, -, -⟩ e he hshown action hin
    obtain ⟨t, ht, htopic⟩ := (exists_mem_collectTopics_iff h e.ddsTopic).mpr hshown
    have hmember := (isMember_announced_iff htopic.symm).mp hin
    exact (perm_erase_views_iff h o).mp hsame t ht action hmember
  · intro halike
    have hsame : ((collectTopics endpoints o).map erase).Perm
        ((applyViewFilters (collectTopics endpoints { all := true }) o).map erase) := by
      refine (perm_erase_views_iff h o).mpr fun t ht action hin ↦ ?_
      have hshown := (exists_mem_collectTopics_iff h t.ddsTopic).mp ⟨t, ht, rfl⟩
      obtain ⟨f, hf, htopic, -⟩ := hshown.node
      exact halike f hf (htopic ▸ hshown) action ((isMember_announced_iff htopic).mpr hin)
    exact ⟨hsame, hobserved, hsaved⟩

/-- The feedback and the status of an action, each with both ends. -/
def actionEndpoints : List Endpoint :=
  [fibonacciEndpoint "rt/fibonacci/_action/feedback" "demo::action::dds_::Fibonacci_FeedbackMessage_"
      true 1,
    fibonacciEndpoint "rt/fibonacci/_action/feedback" "demo::action::dds_::Fibonacci_FeedbackMessage_"
      false 2,
    fibonacciEndpoint "rt/fibonacci/_action/status" "action_msgs::msg::dds_::GoalStatusArray_" true 3,
    fibonacciEndpoint "rt/fibonacci/_action/status" "action_msgs::msg::dds_::GoalStatusArray_" false 4]

/-- The view of one topic and the node that sends it. -/
def topicView (name : String) : ViewOptions where
  topicMatches := some (· = name)
  nodeMatches := some (· = "/caller")

/-- The feedback names the action alone, so that both views show it as a member. -/
theorem viewsAgree_feedback :
    @ViewsAgree literalFnmatch actionEndpoints (topicView "/fibonacci/_action/feedback") := by
  refine (@viewsAgree_iff literalFnmatch actionEndpoints ?_ _).mpr ?_
  · simp [NamesDemangled, actionEndpoints, fibonacciEndpoint]
  · intro e he _ action hmember
    have hmembers : ∀ e ∈ actionEndpoints.filter
        (keepsEndpoint (topicView "/fibonacci/_action/feedback")), (announced e).action = "/fibonacci" := by
      decide +kernel
    rw [← hmember.2, hmembers e he]
    have hforms (o : ViewOptions) (h : (@candidates literalFnmatch
          (actionEndpoints.filter (keepsEndpoint o))).isAction "/fibonacci" = true) :
        FormsAction (actionEndpoints.filter (keepsEndpoint o)) "/fibonacci" :=
      (@isAction_pairedTopics_iff literalFnmatch _ _).mp h
    exact iff_of_true (hforms _ (by decide +kernel)) (hforms _ (by decide +kernel))

/-- The status says nothing of the action's type: observed alone it is a topic, in the document it
belongs to the action. -/
theorem status_not_viewsAgree :
    ¬@ViewsAgree literalFnmatch actionEndpoints (topicView "/fibonacci/_action/status") := by
  intro h
  have hkinds := (@ViewsAgree.perm literalFnmatch _ _ h).map TopicSummary.kind
  revert hkinds
  decide +kernel

end TransportViz.Collect
