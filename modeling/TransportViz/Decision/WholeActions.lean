import TransportViz.Decision.Classify

/-!
# Actions are recognized whole

Whether the topics under one action name form an action depends on all of them together: on whether
each carries its own type, and on the action types they name. The list they stand in and what they
were classified as before play no part, so that a second pass changes nothing.
-/

namespace TransportViz.Decision

open RosNames

/-- The members of the action among the topics. -/
def membersOf (topics : List TopicSummary) (action : String) : List ActionMember :=
  (topics.map topicMember).filter fun m ↦ IsMember action m

/-- The action types that the members name. -/
def namedTypesOf (topics : List TopicSummary) (action : String) : Finset String :=
  (((membersOf topics action).map ActionMember.actionType).filter (· ≠ "")).toFinset

/-- Every member carries its own type, and they name exactly one action type. -/
def IsAction (topics : List TopicSummary) (action : String) : Prop :=
  (∀ m ∈ membersOf topics action, m.typeOk = true) ∧ (namedTypesOf topics action).card = 1

/-- What a topic of the list becomes. -/
structure ClassifiedIn (topics : List TopicSummary) (t u : TopicSummary) : Prop where
  action_iff : ∀ action, u.kind = .action ∧ u.group = action ↔
    IsMember action (topicMember t) ∧ IsAction topics action
  of_action : u.kind = .action → u = markAction u.group (classifyName t)
  of_not_action : u.kind ≠ .action → u = classifyName t

/-- What becomes of the topics of an action, whatever list they stand in and whatever they were. -/
structure ClassifiedWhole (topics : List TopicSummary) : Prop where
  each : List.Forall₂ (ClassifiedIn topics) topics (classifyTopics topics)
  all_or_nothing : ∀ action,
    (∀ u ∈ classifyTopics topics, IsMember action (topicMember u) →
      u.kind = .action ∧ u.group = action) ∨
    ∀ u ∈ classifyTopics topics, IsMember action (topicMember u) → u.kind ≠ .action
  order : ∀ other : List TopicSummary, other.Perm topics →
    ∃ result : TopicSummary → TopicSummary,
      classifyTopics topics = topics.map result ∧ classifyTopics other = other.map result
  previous : ∀ other, List.Forall₂ KindOnly other topics →
    classifyTopics other = classifyTopics topics
  twice : classifyTopics (classifyTopics topics) = classifyTopics topics

/-! ## When the members form an action -/

section Members

variable {topics : List TopicSummary} {action : String}

theorem mem_membersOf_iff (m : ActionMember) :
    m ∈ membersOf topics action ↔ m ∈ topics.map topicMember ∧ IsMember action m := by
  rw [membersOf, List.mem_filter, decide_eq_true_eq]

theorem mem_namedTypesOf_iff (type : String) :
    type ∈ namedTypesOf topics action ↔
      type ≠ "" ∧ ∃ m ∈ topics.map topicMember, IsMember action m ∧ m.actionType = type := by
  simp only [namedTypesOf, List.mem_toFinset, List.mem_filter,
    List.mem_map (f := ActionMember.actionType),
    mem_membersOf_iff, decide_eq_true_eq, and_assoc]
  exact and_comm

/-- Agreeing on one type is naming exactly one. -/
theorem agreeOn_iff :
    (∃ type, AgreeOn (topics.map topicMember) action type) ↔ IsAction topics action := by
  rw [IsAction, Finset.card_eq_one]
  constructor
  · intro ⟨type, hne, hnamed, hall⟩
    refine ⟨fun m hm ↦ ?_, type, ?_⟩
    · have hin := (mem_membersOf_iff m).mp hm
      exact (hall m hin.1 hin.2).1
    · ext other
      rw [mem_namedTypesOf_iff, Finset.mem_singleton]
      constructor
      · intro ⟨hother, m, hm, hmember, htype⟩
        have hone := (hall m hm hmember).2
        rw [htype] at hone
        exact hone.resolve_left hother
      · intro hother
        rw [hother]
        exact ⟨hne, hnamed⟩
  · intro ⟨hok, type, htype⟩
    have hnamed (other : String) := @mem_namedTypesOf_iff topics action other
    simp only [htype, Finset.mem_singleton] at hnamed
    have hself := (hnamed type).mp rfl
    refine ⟨type, hself.1, hself.2, fun m hm hmember ↦ ⟨?_, ?_⟩⟩
    · exact hok m ((mem_membersOf_iff m).mpr ⟨hm, hmember⟩)
    · by_cases hempty : m.actionType = ""
      · exact .inl hempty
      · exact .inr ((hnamed m.actionType).mpr ⟨hempty, m, hm, hmember, rfl⟩)

theorem isAction_candidatesOf (topics : List TopicSummary) (action : String) :
    (candidatesOf topics).isAction action = true ↔ IsAction topics action :=
  (isAction_candidatesOf_iff topics action).trans agreeOn_iff

end Members

/-! ## What the verdict does not depend on -/

section Independence

theorem KindOnly.classifyName_eq {a b : TopicSummary} (h : KindOnly a b) :
    classifyName a = classifyName b := by
  unfold KindOnly at h
  rw [h]
  rfl

theorem KindOnly.topicMember_eq {a b : TopicSummary} (h : KindOnly a b) :
    topicMember a = topicMember b := by
  unfold KindOnly at h
  rw [topicMember, topicMember, h]

theorem KindOnly.classifyIn_eq {a b : TopicSummary} (h : KindOnly a b) (c : ActionCandidates) :
    classifyIn c a = classifyIn c b := by
  rw [classifyIn, classifyIn, h.topicMember_eq, h.classifyName_eq]

theorem kindOnly_classifyIn (c : ActionCandidates) (t : TopicSummary) :
    KindOnly (classifyIn c t) t := by
  unfold classifyIn
  split_ifs
  · exact (kindOnly_classifyName t).markAction _
  · exact kindOnly_classifyName t

/-- Only the members of the list decide. -/
theorem IsAction.congr {topics other : List TopicSummary}
    (h : ∀ m, m ∈ other.map topicMember ↔ m ∈ topics.map topicMember) (action : String) :
    IsAction other action ↔ IsAction topics action := by
  have hnamed : namedTypesOf other action = namedTypesOf topics action := by
    ext type
    simp only [mem_namedTypesOf_iff, h]
  simp only [IsAction, mem_membersOf_iff, hnamed, h]

theorem classifyIn_candidatesOf_congr {topics other : List TopicSummary}
    (h : ∀ m, m ∈ other.map topicMember ↔ m ∈ topics.map topicMember) :
    classifyIn (candidatesOf other) = classifyIn (candidatesOf topics) := by
  have haction : (candidatesOf other).isAction = (candidatesOf topics).isAction := by
    funext action
    rw [Bool.eq_iff_iff, isAction_candidatesOf, isAction_candidatesOf]
    exact IsAction.congr h action
  funext t
  rw [classifyIn, classifyIn, haction]

theorem classifyTopics_eq_of_forall₂ {topics other : List TopicSummary}
    (h : List.Forall₂ KindOnly other topics) : classifyTopics other = classifyTopics topics := by
  have hmembers : other.map topicMember = topics.map topicMember :=
    map_eq_map_of_forall₂ h fun _ _ hkind ↦ hkind.topicMember_eq
  have hmem (m : ActionMember) : m ∈ other.map topicMember ↔ m ∈ topics.map topicMember := by
    rw [hmembers]
  rw [classifyTopics_eq_map, classifyTopics_eq_map, classifyIn_candidatesOf_congr hmem]
  exact map_eq_map_of_forall₂ h fun _ _ hkind ↦ hkind.classifyIn_eq _

end Independence

/-! ## Topic by topic -/

section Whole

variable (topics : List TopicSummary)

theorem classifiedIn (t : TopicSummary) :
    ClassifiedIn topics t (classifyIn (candidatesOf topics) t) := by
  by_cases hmarked : (topicMember t).matched = true ∧ IsAction topics (topicMember t).action
  · have hresult : classifyIn (candidatesOf topics) t =
        markAction (topicMember t).action (classifyName t) := by
      rw [classifyIn, if_pos]
      rw [Bool.and_eq_true, isAction_candidatesOf]
      exact hmarked
    rw [hresult]
    refine ⟨fun action ↦ ?_, fun _ ↦ rfl, fun hkind ↦ absurd rfl hkind⟩
    constructor
    · intro h
      have haction : (topicMember t).action = action := h.2
      exact ⟨⟨hmarked.1, haction⟩, haction ▸ hmarked.2⟩
    · intro h
      exact ⟨rfl, h.1.2⟩
  · have hresult : classifyIn (candidatesOf topics) t = classifyName t := by
      rw [classifyIn, if_neg]
      rw [Bool.and_eq_true, isAction_candidatesOf]
      exact hmarked
    rw [hresult]
    refine ⟨fun action ↦ ?_, fun hkind ↦ absurd hkind (kind_classifyName t), fun _ ↦ rfl⟩
    apply iff_of_false
    · intro h
      exact kind_classifyName t h.1
    · intro h
      exact hmarked ⟨h.1.1, h.1.2 ▸ h.2⟩

/-- The topics of one action name are claimed together. -/
theorem all_or_nothing (action : String) :
    (∀ u ∈ classifyTopics topics, IsMember action (topicMember u) →
      u.kind = .action ∧ u.group = action) ∨
    ∀ u ∈ classifyTopics topics, IsMember action (topicMember u) → u.kind ≠ .action := by
  have hresult (u : TopicSummary) (hu : u ∈ classifyTopics topics) :
      ∃ t, topicMember u = topicMember t ∧ ClassifiedIn topics t u := by
    rw [classifyTopics_eq_map] at hu
    obtain ⟨t, -, rfl⟩ := List.mem_map.mp hu
    exact ⟨t, (kindOnly_classifyIn _ t).topicMember_eq, classifiedIn topics t⟩
  by_cases haction : IsAction topics action
  · left
    intro u hu hmember
    obtain ⟨t, hsame, hclassified⟩ := hresult u hu
    exact (hclassified.action_iff action).mpr ⟨hsame ▸ hmember, haction⟩
  · right
    intro u hu hmember hkind
    obtain ⟨t, hsame, hclassified⟩ := hresult u hu
    have hgroup := (hclassified.action_iff u.group).mp ⟨hkind, rfl⟩
    have hname : action = u.group := hmember.2.symm.trans ((congrArg _ hsame).trans hgroup.1.2)
    exact haction (hname ▸ hgroup.2)

/-- An action is recognized whole, from the topics alone. -/
theorem classifiedWhole : ClassifiedWhole topics where
  each := by
    rw [classifyTopics_eq_map, List.forall₂_map_right_iff]
    exact List.forall₂_same.mpr fun t _ ↦ classifiedIn topics t
  all_or_nothing := all_or_nothing topics
  order other hperm := by
    refine ⟨classifyIn (candidatesOf topics), classifyTopics_eq_map topics, ?_⟩
    rw [classifyTopics_eq_map,
      classifyIn_candidatesOf_congr fun m ↦ (hperm.map topicMember).mem_iff]
  previous _ h := classifyTopics_eq_of_forall₂ h
  twice := classifyTopics_eq_of_forall₂ (forall₂_classifyTopics topics)

end Whole

end TransportViz.Decision
