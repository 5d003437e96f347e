import TransportViz.Collect.Placeless
import TransportViz.Decision.Classify
import TransportViz.Decision.RowKinds

/-!
# When an action's types are checked on every endpoint

A topic has one type, that of its first endpoint, and this is the type `classifyTopics` checks. The
other endpoints of the topic may announce another one. Whether they do can be told without the order of
the endpoints: an action whose topics could each show a fitting type must have no other types.
-/

namespace TransportViz.Decision

open Collect RosNames

/-- What the names of an endpoint say about an action. -/
def announced (e : Endpoint) : ActionMember := parseActionMember e.ddsTopic e.ddsType

variable [Fnmatch]

/-- Every endpoint on the topics of a claimed action announces the type its member has to carry, and
those that name the action name one and the same. -/
def ClaimsTyped (endpoints : List Endpoint) : Prop :=
  ∀ t ∈ summarize endpoints, t.kind = .action →
    ∃ type, ∀ e ∈ endpoints, IsMember t.group (announced e) → Carries type (announced e)

/-- What a topic is in ROS terms. -/
def classOf (t : TopicSummary) : TopicKind × String × GroupDirection :=
  (t.kind, t.group, t.direction)

/-- No order of the endpoints makes anything else of a topic. -/
def ClassesUnordered (endpoints : List Endpoint) : Prop :=
  ∀ other, other.Perm endpoints → ∀ t ∈ summarize endpoints, ∀ t' ∈ summarize other,
    t'.ddsTopic = t.ddsTopic → classOf t' = classOf t

structure ActionsSound (endpoints : List Endpoint) : Prop where
  typed : ClaimsTyped endpoints
  unordered : ClassesUnordered endpoints

omit [Fnmatch] in
/-- Every topic of the action has an endpoint that carries its type, and one of them names it. -/
def Attributable (endpoints : List Endpoint) (action type : String) : Prop :=
  type ≠ "" ∧
    (∃ e ∈ endpoints, IsMember action (announced e) ∧ (announced e).actionType = type) ∧
    ∀ e ∈ endpoints, IsMember action (announced e) →
      ∃ f ∈ endpoints, f.ddsTopic = e.ddsTopic ∧ Carries type (announced f)

omit [Fnmatch] in
/-- An action that can be taken for one type carries no other. -/
def ActionsUniform (endpoints : List Endpoint) : Prop :=
  ∀ action type, Attributable endpoints action type →
    ∀ e ∈ endpoints, IsMember action (announced e) → Carries type (announced e)

section Announced

omit [Fnmatch]

/-- The name alone says whether a topic is a member, and of which action. -/
theorem parseActionMember_action (ddsTopic first second : String) :
    (parseActionMember ddsTopic first).matched = (parseActionMember ddsTopic second).matched ∧
      (parseActionMember ddsTopic first).action = (parseActionMember ddsTopic second).action := by
  rcases parseActionMember_cases ddsTopic with hnone | ⟨spec, action, suffix, hspec⟩
  · rw [hnone, hnone]
    exact ⟨rfl, rfl⟩
  · obtain ⟨hmatched, haction, -⟩ := memberOf_name spec action suffix first
    obtain ⟨hmatched', haction', -⟩ := memberOf_name spec action suffix second
    rw [hspec, hspec]
    exact ⟨hmatched.trans hmatched'.symm, haction.trans haction'.symm⟩

theorem announced_congr {e f : Endpoint} (h : f.ddsTopic = e.ddsTopic) (action : String) :
    IsMember action (announced f) ↔ IsMember action (announced e) := by
  obtain ⟨hmatched, haction⟩ := parseActionMember_action e.ddsTopic f.ddsType e.ddsType
  rw [IsMember, IsMember, announced, announced, h, hmatched, haction]

/-- An endpoint that carries the type of a topic on which another one names it names it too. -/
theorem actionType_of_carries {e f : Endpoint} {type : String} (hne : type ≠ "")
    (hnames : (announced e).actionType = type) (h : f.ddsTopic = e.ddsTopic)
    (hcarries : Carries type (announced f)) : (announced f).actionType = type := by
  refine hcarries.2.resolve_left ?_
  have hok := hcarries.1
  unfold announced at hnames hok ⊢
  rw [h] at hok ⊢
  rw [← hnames] at hne
  rcases parseActionMember_cases e.ddsTopic with hnone | ⟨spec, name, suffix, hspec⟩
  · rw [hnone] at hok
    cases hok
  · rw [hspec] at hne hok ⊢
    exact actionType_memberOf hne hok

theorem ddsTopic_ne_of_isMember {action ddsTopic ddsType : String}
    (h : IsMember action (parseActionMember ddsTopic ddsType)) : ddsTopic ≠ "" := by
  rintro rfl
  exact Bool.false_ne_true h.1

end Announced

/-! ## The first endpoint of each topic -/

section Heads

omit [Fnmatch]

/-- The first endpoint of the DDS topic. -/
def headOf (endpoints : List Endpoint) (ddsTopic : String) : Option Endpoint :=
  endpoints.find? fun e ↦ e.ddsTopic = ddsTopic

theorem mem_of_headOf {endpoints : List Endpoint} {ddsTopic : String} {e : Endpoint}
    (h : headOf endpoints ddsTopic = some e) : e ∈ endpoints ∧ e.ddsTopic = ddsTopic := by
  unfold headOf at h
  exact ⟨List.mem_of_find?_eq_some h, of_decide_eq_true (List.find?_some h :)⟩

theorem exists_headOf {endpoints : List Endpoint} {e : Endpoint} (he : e ∈ endpoints) :
    ∃ head, headOf endpoints e.ddsTopic = some head := by
  rw [← Option.isSome_iff_exists, headOf, List.find?_isSome]
  exact ⟨e, he, by simp⟩

/-- The first endpoints carry the type of the action, and one of them names it. -/
def HeadsAgree (endpoints : List Endpoint) (action type : String) : Prop :=
  type ≠ "" ∧
    (∃ ddsTopic e, headOf endpoints ddsTopic = some e ∧ IsMember action (announced e) ∧
      (announced e).actionType = type) ∧
    ∀ ddsTopic e, headOf endpoints ddsTopic = some e → IsMember action (announced e) →
      Carries type (announced e)

theorem ddsType_foldl_addEndpoint (group : List EndpointPtr) (t : TopicSummary)
    (h : t.ddsTopic ≠ "") : (group.foldl addEndpoint t).ddsType = t.ddsType := by
  induction group generalizing t with
  | nil => rfl
  | cons e rest ih =>
    have hname : nameTopic t e = t := if_pos h
    have hstep : (addEndpoint t e).ddsTopic = t.ddsTopic ∧
        (addEndpoint t e).ddsType = t.ddsType := by
      unfold addEndpoint
      rw [hname]
      split_ifs <;> exact ⟨rfl, rfl⟩
    rw [List.foldl_cons, ih _ (hstep.1 ▸ h), hstep.2]

/-- The type of a topic is that of its first endpoint. -/
theorem ddsType_byTopic {endpoints : List Endpoint} {ddsTopic : String} {t : TopicSummary}
    (h : (byTopic endpoints).find? ddsTopic = some t) (hne : ddsTopic ≠ "") :
    ∃ e, headOf endpoints ddsTopic = some e ∧ t.ddsType = e.ddsType := by
  have hhead : headOf endpoints ddsTopic =
      ((pointers endpoints).filter fun e ↦ e.ddsTopic = ddsTopic).head?.map
        EndpointPtr.toEndpoint := by
    have hpointers : (pointers endpoints).map EndpointPtr.toEndpoint = endpoints := by
      rw [pointers, List.map_map]
      exact List.zipIdx_map_fst 0 endpoints
    rw [List.head?_filter, ← Option.map_eq_map, headOf]
    conv_lhs => rw [← hpointers]
    rw [List.find?_map]
    rfl
  rw [find?_byTopic] at h
  revert h hhead
  have htopic : ∀ e ∈ (pointers endpoints).filter fun e ↦ e.ddsTopic = ddsTopic,
      e.ddsTopic = ddsTopic := fun e he ↦ by simpa using (List.mem_filter.mp he).2
  revert htopic
  generalize (pointers endpoints).filter (fun e ↦ e.ddsTopic = ddsTopic) = group
  intro htopic h hhead
  cases group with
  | nil => cases h
  | cons e rest =>
    have he := htopic e (List.mem_cons_self ..)
    refine ⟨e.toEndpoint, hhead, ?_⟩
    rw [foldl_none_addEndpoint _ (List.cons_ne_nil e rest), List.foldl_cons] at h
    have hnames : (addEndpoint {} e).ddsTopic = e.ddsTopic ∧
        (addEndpoint {} e).ddsType = e.ddsType := by
      unfold addEndpoint
      split_ifs <;> exact ⟨rfl, rfl⟩
    rw [← Option.some.inj h, ddsType_foldl_addEndpoint rest _ (by rw [hnames.1, he]; exact hne),
      hnames.2]

end Heads

/-! ## Which topics are claimed -/

section Claimed

variable {endpoints : List Endpoint}

/-- The topics before they are classified. -/
def pairedTopics (endpoints : List Endpoint) : List TopicSummary :=
  ((byTopic endpoints).values.map pairTopic).insertionSort fun a b ↦ a.displayTopic ≤ b.displayTopic

theorem summarize_eq_map (endpoints : List Endpoint) :
    summarize endpoints =
      (pairedTopics endpoints).map (classifyIn (candidatesOf (pairedTopics endpoints))) :=
  classifyTopics_eq_map _

theorem mem_pairedTopics_iff (t : TopicSummary) :
    t ∈ pairedTopics endpoints ↔
      ∃ ddsTopic grouped, (byTopic endpoints).find? ddsTopic = some grouped ∧
        pairTopic grouped = t := by
  simp only [pairedTopics, (List.perm_insertionSort _ _).mem_iff, List.mem_map, OrderedMap.values,
    Prod.exists, ← OrderedMap.mem_entries_iff]
  constructor
  · rintro ⟨grouped, ⟨ddsTopic, _, hmem, rfl⟩, rfl⟩
    exact ⟨ddsTopic, _, hmem, rfl⟩
  · rintro ⟨ddsTopic, grouped, hmem, rfl⟩
    exact ⟨grouped, ⟨ddsTopic, grouped, hmem, rfl⟩, rfl⟩

/-- A member topic says what its first endpoint says. -/
theorem exists_headOf_of_mem_pairedTopics {t : TopicSummary} (ht : t ∈ pairedTopics endpoints)
    {action : String} (hmember : IsMember action (topicMember t)) :
    ∃ e, headOf endpoints t.ddsTopic = some e ∧ topicMember t = announced e := by
  obtain ⟨ddsTopic, grouped, hfind, rfl⟩ := (mem_pairedTopics_iff t).mp ht
  have hdds : (pairTopic grouped).ddsTopic = ddsTopic :=
    (isSummary_pairTopic endpoints ddsTopic grouped hfind).2
  have hne : ddsTopic ≠ "" := hdds ▸ ddsTopic_ne_of_isMember hmember
  obtain ⟨e, hhead, htype⟩ := ddsType_byTopic hfind hne
  have hsame : topicMember (pairTopic grouped) = parseActionMember ddsTopic grouped.ddsType := by
    rw [topicMember, hdds]
    rfl
  refine ⟨e, hdds.symm ▸ hhead, ?_⟩
  rw [hsame, htype, announced, (mem_of_headOf hhead).2]

theorem exists_mem_pairedTopics_of_headOf {ddsTopic : String} {e : Endpoint}
    (hhead : headOf endpoints ddsTopic = some e) {action : String}
    (hmember : IsMember action (announced e)) :
    ∃ t ∈ pairedTopics endpoints, t.ddsTopic = ddsTopic ∧ topicMember t = announced e := by
  obtain ⟨hmem, rfl⟩ := mem_of_headOf hhead
  obtain ⟨grouped, hfind⟩ := ((byTopic endpoints).mem_keys_iff e.ddsTopic).mp
    ((mem_keys_byTopic endpoints e.ddsTopic).mpr (List.mem_map_of_mem hmem))
  obtain ⟨first, hfirst, htype⟩ := ddsType_byTopic hfind (ddsTopic_ne_of_isMember hmember)
  obtain rfl := Option.some.inj (hhead.symm.trans hfirst)
  have hdds : (pairTopic grouped).ddsTopic = e.ddsTopic :=
    (isSummary_pairTopic endpoints e.ddsTopic grouped hfind).2
  refine ⟨pairTopic grouped, (mem_pairedTopics_iff _).mpr ⟨e.ddsTopic, grouped, hfind, rfl⟩, hdds, ?_⟩
  rw [topicMember, hdds, announced, ← htype]
  rfl

/-- An action is claimed when the first endpoints of its topics agree on it. -/
theorem isAction_pairedTopics_iff (action : String) :
    (candidatesOf (pairedTopics endpoints)).isAction action = true ↔
      ∃ type, HeadsAgree endpoints action type := by
  rw [isAction_candidatesOf_iff]
  refine exists_congr fun type ↦ and_congr_right fun _ ↦ and_congr ?_ ?_
  · constructor
    · rintro ⟨_, hmem, hmember, hname⟩
      obtain ⟨t, ht, rfl⟩ := List.mem_map.mp hmem
      obtain ⟨e, hhead, hsame⟩ := exists_headOf_of_mem_pairedTopics ht hmember
      rw [hsame] at hmember hname
      exact ⟨_, e, hhead, hmember, hname⟩
    · rintro ⟨ddsTopic, e, hhead, hmember, hname⟩
      obtain ⟨t, ht, -, hsame⟩ := exists_mem_pairedTopics_of_headOf hhead hmember
      exact ⟨announced e, hsame ▸ List.mem_map_of_mem ht, hmember, hname⟩
  · constructor
    · intro hall ddsTopic e hhead hmember
      obtain ⟨t, ht, -, hsame⟩ := exists_mem_pairedTopics_of_headOf hhead hmember
      exact hall _ (hsame ▸ List.mem_map_of_mem ht) hmember
    · intro hall _ hmem hmember
      obtain ⟨t, ht, rfl⟩ := List.mem_map.mp hmem
      obtain ⟨e, hhead, hsame⟩ := exists_headOf_of_mem_pairedTopics ht hmember
      rw [hsame] at hmember ⊢
      exact hall _ e hhead hmember

theorem claimed_of_mem_summarize {t : TopicSummary} (ht : t ∈ summarize endpoints)
    (hkind : t.kind = .action) : ∃ type, HeadsAgree endpoints t.group type := by
  rw [summarize_eq_map] at ht
  obtain ⟨u, -, rfl⟩ := List.mem_map.mp ht
  unfold classifyIn at hkind ⊢
  split_ifs at hkind ⊢ with hmarked
  · rw [Bool.and_eq_true, isAction_pairedTopics_iff] at hmarked
    exact hmarked.2
  · exact absurd hkind (kind_classifyName u)

/-- The topics of a claimed action are classified as its members. -/
theorem exists_claimed {action type : String} (h : HeadsAgree endpoints action type) :
    ∃ t ∈ summarize endpoints, t.kind = .action ∧ t.group = action := by
  obtain ⟨ddsTopic, e, hhead, hmember, -⟩ := h.2.1
  obtain ⟨u, hu, -, hsame⟩ := exists_mem_pairedTopics_of_headOf hhead hmember
  refine ⟨classifyIn (candidatesOf (pairedTopics endpoints)) u, ?_, ?_⟩
  · rw [summarize_eq_map]
    exact List.mem_map_of_mem hu
  · have haction : (candidatesOf (pairedTopics endpoints)).isAction action = true :=
      (isAction_pairedTopics_iff action).mpr ⟨type, h⟩
    rw [classifyIn, hsame, hmember.1, hmember.2, haction]
    exact ⟨rfl, rfl⟩

omit [Fnmatch] in
/-- What a topic is depends on its name and on the actions that are claimed. -/
theorem classOf_classifyIn_congr {c c' : ActionCandidates} {t t' : TopicSummary}
    (hdds : t'.ddsTopic = t.ddsTopic) (haction : ∀ action, c'.isAction action = c.isAction action) :
    classOf (classifyIn c' t') = classOf (classifyIn c t) := by
  have hname : classOf (classifyName t') = classOf (classifyName t) ∧
      (classifyName t').ddsTopic = (classifyName t).ddsTopic := by
    unfold classifyName
    rw [hdds]
    simp only
    split <;> exact ⟨rfl, rfl⟩
  have hmember : (topicMember t').matched = (topicMember t).matched ∧
      (topicMember t').action = (topicMember t).action := by
    rw [topicMember, topicMember, hdds]
    exact parseActionMember_action t.ddsTopic t'.ddsType t.ddsType
  rw [classifyIn, classifyIn, hmember.1, hmember.2, haction]
  split_ifs
  · rw [classOf, classOf, markAction, markAction, hname.2]
  · exact hname.1

theorem claimsTyped_iff :
    ClaimsTyped endpoints ↔ ∀ action type, HeadsAgree endpoints action type →
      ∃ found, ∀ e ∈ endpoints, IsMember action (announced e) → Carries found (announced e) := by
  constructor
  · intro htyped action type hagree
    obtain ⟨t, ht, hkind, rfl⟩ := exists_claimed hagree
    exact htyped t ht hkind
  · intro htyped t ht hkind
    obtain ⟨type, hagree⟩ := claimed_of_mem_summarize ht hkind
    exact htyped t.group type hagree

/-- The classes are unordered exactly when the claims are. -/
theorem classesUnordered_iff :
    ClassesUnordered endpoints ↔ ∀ other, other.Perm endpoints → ∀ action,
      (∃ type, HeadsAgree other action type) ↔ ∃ type, HeadsAgree endpoints action type := by
  constructor
  · intro hclasses other hperm action
    have hfound {first second : List Endpoint} (hsub : first ⊆ second)
        (hsame : ∀ t ∈ summarize first, ∀ u ∈ summarize second, u.ddsTopic = t.ddsTopic →
          classOf u = classOf t) (hclaimed : ∃ type, HeadsAgree first action type) :
        ∃ type, HeadsAgree second action type := by
      obtain ⟨type, hagree⟩ := hclaimed
      obtain ⟨t, ht, hkind, rfl⟩ := exists_claimed hagree
      obtain ⟨e, he, htopic, -⟩ := (isSummary_of_mem first t ht).display
      obtain ⟨pointer, hpointer, hplace⟩ := exists_pointer (hsub (mem_of_mem_pointers he))
      obtain ⟨u, hu, hdds⟩ := exists_summarized_topic hpointer
      have hsameTopic : u.ddsTopic = t.ddsTopic := by rw [hdds, hplace, htopic]
      have hclass := hsame t ht u hu hsameTopic
      rw [classOf, classOf, Prod.mk.injEq, Prod.mk.injEq] at hclass
      rw [← hclass.2.1]
      exact claimed_of_mem_summarize hu (hclass.1.trans hkind)
    constructor
    · exact hfound hperm.subset fun t ht u hu hdds ↦ (hclasses other hperm u hu t ht hdds.symm).symm
    · exact hfound hperm.symm.subset fun t ht u hu hdds ↦ hclasses other hperm t ht u hu hdds
  · intro hclaims other hperm t ht t' ht' hdds
    rw [summarize_eq_map] at ht ht'
    obtain ⟨u, -, rfl⟩ := List.mem_map.mp ht
    obtain ⟨u', -, rfl⟩ := List.mem_map.mp ht'
    refine classOf_classifyIn_congr ?_ fun action ↦ ?_
    · have hkeeps (c : ActionCandidates) (v : TopicSummary) : (classifyIn c v).ddsTopic = v.ddsTopic := by
        unfold classifyIn
        split_ifs <;> exact (kindOnly_classifyName v).ddsTopic_eq
      rwa [hkeeps, hkeeps] at hdds
    · rw [Bool.eq_iff_iff, isAction_pairedTopics_iff, isAction_pairedTopics_iff]
      exact hclaims other hperm action

end Claimed

/-! ## Without the order -/

section Unordered

omit [Fnmatch]

variable {endpoints : List Endpoint} {action type : String}

theorem HeadsAgree.attributable (h : HeadsAgree endpoints action type) :
    Attributable endpoints action type := by
  obtain ⟨hne, ⟨ddsTopic, e, hhead, hmember, hname⟩, hall⟩ := h
  refine ⟨hne, ⟨e, (mem_of_headOf hhead).1, hmember, hname⟩, fun f hf hin ↦ ?_⟩
  obtain ⟨head, hhead'⟩ := exists_headOf hf
  obtain ⟨hmem, hdds⟩ := mem_of_headOf hhead'
  exact ⟨head, hmem, hdds, hall _ head hhead' ((announced_congr hdds action).mpr hin)⟩

/-- The first endpoints agree once they carry the type that one of their topics can name. -/
theorem headsAgree_of_carries (hattributable : Attributable endpoints action type)
    (hall : ∀ ddsTopic e, headOf endpoints ddsTopic = some e → IsMember action (announced e) →
      Carries type (announced e)) : HeadsAgree endpoints action type := by
  obtain ⟨hne, ⟨e, he, hmember, hname⟩, -⟩ := hattributable
  obtain ⟨head, hhead⟩ := exists_headOf he
  have hdds := (mem_of_headOf hhead).2
  have hin := (announced_congr hdds action).mpr hmember
  exact ⟨hne, ⟨e.ddsTopic, head, hhead, hin,
    actionType_of_carries hne hname hdds (hall _ head hhead hin)⟩, hall⟩

theorem attributable_perm {other : List Endpoint} (hperm : other.Perm endpoints) :
    Attributable other action type ↔ Attributable endpoints action type := by
  simp only [Attributable, hperm.mem_iff]

/-- With the endpoints that carry the type in front, the first endpoints agree on it. -/
theorem exists_perm_headsAgree (h : Attributable endpoints action type) :
    ∃ other, other.Perm endpoints ∧ HeadsAgree other action type := by
  classical
  let carrying := endpoints.filter fun e ↦ decide (Carries type (announced e))
  have hperm := List.filter_append_perm (fun e ↦ decide (Carries type (announced e))) endpoints
  refine ⟨_, hperm, headsAgree_of_carries ((attributable_perm hperm).mpr h)
    fun ddsTopic e hhead hmember ↦ ?_⟩
  obtain ⟨hmem, rfl⟩ := mem_of_headOf hhead
  obtain ⟨f, hf, hdds, hcarries⟩ := h.2.2 e (hperm.mem_iff.mp hmem) hmember
  have hfound : f ∈ carrying := List.mem_filter.mpr ⟨hf, decide_eq_true hcarries⟩
  obtain ⟨first, hfirst⟩ := exists_headOf hfound
  rw [hdds] at hfirst
  have hsame : first = e := by
    unfold headOf at hfirst hhead
    rw [List.find?_append, hfirst, Option.some_or] at hhead
    exact Option.some.inj hhead
  rw [← hsame]
  exact of_decide_eq_true (List.mem_filter.mp (mem_of_headOf hfirst).1).2

theorem ActionsUniform.headsAgree (h : ActionsUniform endpoints)
    (hattributable : Attributable endpoints action type) {other : List Endpoint}
    (hperm : other.Perm endpoints) : HeadsAgree other action type := by
  refine headsAgree_of_carries ((attributable_perm hperm).mpr hattributable) fun _ e hhead hmember ↦ ?_
  exact h action type hattributable e (hperm.mem_iff.mp (mem_of_headOf hhead).1) hmember

end Unordered

/-- The types are checked on every endpoint exactly when no action can be taken for a type that one of
its endpoints does not carry. -/
theorem actionsSound_iff (endpoints : List Endpoint) :
    ActionsSound endpoints ↔ ActionsUniform endpoints := by
  constructor
  · rintro ⟨htyped, hunordered⟩ action type hattributable e he hmember
    rw [claimsTyped_iff] at htyped
    rw [classesUnordered_iff] at hunordered
    obtain ⟨other, hperm, hagree⟩ := exists_perm_headsAgree hattributable
    obtain ⟨claimed, hclaimed⟩ := (hunordered other hperm action).mp ⟨type, hagree⟩
    obtain ⟨found, hall⟩ := htyped action claimed hclaimed
    obtain ⟨hne, ⟨f, hf, hin, hname⟩, -⟩ := hattributable
    have hfound : found = type := by
      have hcarries := hall f hf hin
      rw [Carries, hname] at hcarries
      exact (hcarries.2.resolve_left hne).symm
    exact hfound ▸ hall e he hmember
  · intro huniform
    refine ⟨claimsTyped_iff.mpr fun action type hagree ↦ ?_,
      classesUnordered_iff.mpr fun other hperm action ↦ ?_⟩
    · exact ⟨type, huniform action type hagree.attributable⟩
    · constructor
      · rintro ⟨type, hagree⟩
        have hattributable := (attributable_perm hperm).mp hagree.attributable
        exact ⟨type, huniform.headsAgree hattributable (List.Perm.refl _)⟩
      · rintro ⟨type, hagree⟩
        exact ⟨type, huniform.headsAgree hagree.attributable hperm⟩

/-- The feedback of an action, and a subscription to a topic of that name with another type. -/
def mixedFeedback : List Endpoint :=
  [fibonacciEndpoint "rt/fibonacci/_action/feedback" "demo::action::dds_::Fibonacci_FeedbackMessage_"
      true 1,
    fibonacciEndpoint "rt/fibonacci/_action/feedback" "demo::msg::dds_::Progress_" false 2]

omit [Fnmatch] in
/-- The first endpoint makes the topic an action's; the second does not announce the type for it. -/
theorem mixedFeedback_not_actionsSound : ¬@ActionsSound literalFnmatch mixedFeedback := by
  rintro ⟨htyped, -⟩
  have hclaimed : ∃ t ∈ @summarize literalFnmatch mixedFeedback,
      t.kind = .action ∧ t.group = "/fibonacci" := by decide +kernel
  obtain ⟨t, ht, hkind, hgroup⟩ := hclaimed
  obtain ⟨type, hall⟩ := htyped t ht hkind
  rw [hgroup] at hall
  have hwrong := hall _ (List.mem_cons_of_mem _ (List.mem_singleton_self _)) (by decide)
  exact absurd hwrong.1 (by decide)

end TransportViz.Decision
