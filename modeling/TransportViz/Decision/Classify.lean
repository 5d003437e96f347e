import TransportViz.Decision.Fresh

/-!
# How topics are classified

`classifyTopics` collects what the topics say about each action name and marks the members of those
that are actions afterwards. Topic by topic this is `classifyIn`: the name decides, unless the topic is
a member of an action that all the topics agree on.
-/

namespace TransportViz.Decision

open RosNames

/-- What the names of a topic say about an action. -/
def topicMember (t : TopicSummary) : ActionMember := parseActionMember t.ddsTopic t.ddsType

/-- The name makes the topic a member of the action. -/
def IsMember (action : String) (m : ActionMember) : Prop := m.matched = true ∧ m.action = action

instance (action : String) (m : ActionMember) : Decidable (IsMember action m) :=
  inferInstanceAs (Decidable (_ ∧ _))

/-- The member carries its own type, and names no action type but `type`. -/
def Carries (type : String) (m : ActionMember) : Prop :=
  m.typeOk = true ∧ (m.actionType = "" ∨ m.actionType = type)

/-- The members found under the action's name carry their types and name one action type. -/
def AgreeOn (members : List ActionMember) (action type : String) : Prop :=
  type ≠ "" ∧ (∃ m ∈ members, IsMember action m ∧ m.actionType = type) ∧
    ∀ m ∈ members, IsMember action m → Carries type m

/-! ## What is collected -/

section Candidates

/-- What the candidates hold once the topics were noted. -/
structure Noted (noted : List (TopicSummary × ℕ)) (c : ActionCandidates) : Prop where
  members : ∀ action index, index ∈ (c.members.find? action).getD [] ↔
    ∃ it ∈ noted, IsMember action (topicMember it.1) ∧ it.2 = index
  present : ∀ action, (c.everyMemberTypeOk.find? action).isSome ↔
    ∃ it ∈ noted, IsMember action (topicMember it.1)
  typeOk : ∀ action, (c.everyMemberTypeOk.find? action).getD true = true ↔
    ∀ it ∈ noted, IsMember action (topicMember it.1) → (topicMember it.1).typeOk = true
  named : ∀ action type, type ∈ (c.namedTypes.find? action).getD ∅ ↔
    type ≠ "" ∧ ∃ it ∈ noted, IsMember action (topicMember it.1) ∧
      (topicMember it.1).actionType = type

section Note

variable (c : ActionCandidates) (t : TopicSummary) (index : ℕ) (action : String)

theorem isMember_iff_eq {m : ActionMember} (h : m.matched = true) (action : String) :
    IsMember action m ↔ action = m.action :=
  ⟨fun hmember ↦ hmember.2.symm, fun heq ↦ ⟨h, heq.symm⟩⟩

theorem not_isMember {m : ActionMember} (h : m.matched = false) (action : String) :
    ¬IsMember action m := fun hmember ↦
  Bool.false_ne_true (h.symm.trans hmember.1)

/-- What a note does to one of the tables. -/
theorem find?_alter_member {β : Type} {m : ActionMember} (h : m.matched = true)
    (entries : OrderedMap String β) (f : Option β → β) :
    (entries.alter m.action f).find? action =
      if IsMember action m then some (f (entries.find? action)) else entries.find? action := by
  simp only [OrderedMap.find?_alter, isMember_iff_eq h]
  split_ifs with haction
  · rw [haction]
  · rfl

theorem find?_members_note :
    (c.note t index).members.find? action =
      if IsMember action (topicMember t) then some ((c.members.find? action).getD [] ++ [index])
      else c.members.find? action := by
  unfold ActionCandidates.note topicMember
  generalize parseActionMember t.ddsTopic t.ddsType = m
  cases hmatched : m.matched with
  | false => simp [hmatched, not_isMember hmatched]
  | true =>
    simp only [hmatched, not_true_eq_false, if_false]
    exact find?_alter_member action hmatched _ _

theorem find?_everyMemberTypeOk_note :
    (c.note t index).everyMemberTypeOk.find? action =
      if IsMember action (topicMember t) then
        some ((c.everyMemberTypeOk.find? action).getD true && (topicMember t).typeOk)
      else c.everyMemberTypeOk.find? action := by
  unfold ActionCandidates.note topicMember
  generalize parseActionMember t.ddsTopic t.ddsType = m
  cases hmatched : m.matched with
  | false => simp [hmatched, not_isMember hmatched]
  | true =>
    simp only [hmatched, not_true_eq_false, if_false]
    exact find?_alter_member action hmatched _ _

theorem mem_namedTypes_note (type : String) :
    type ∈ ((c.note t index).namedTypes.find? action).getD ∅ ↔
      type ∈ (c.namedTypes.find? action).getD ∅ ∨
        type ≠ "" ∧ IsMember action (topicMember t) ∧ (topicMember t).actionType = type := by
  unfold ActionCandidates.note topicMember
  generalize parseActionMember t.ddsTopic t.ddsType = m
  cases hmatched : m.matched with
  | false => simp [hmatched, not_isMember hmatched]
  | true =>
    simp only [hmatched, not_true_eq_false, if_false, isMember_iff_eq hmatched]
    by_cases hempty : m.actionType = ""
    · rw [if_neg (not_not.mpr hempty)]
      refine (or_iff_left ?_).symm
      rintro ⟨hne, -, htype⟩
      exact hne (htype.symm.trans hempty)
    · rw [if_pos hempty, OrderedMap.find?_alter]
      split_ifs with haction
      · rw [Option.getD_some, Finset.mem_insert, haction]
        constructor
        · rintro (rfl | hold)
          · exact .inr ⟨hempty, rfl, rfl⟩
          · exact .inl hold
        · rintro (hold | ⟨-, -, rfl⟩)
          · exact .inr hold
          · exact .inl rfl
      · exact (or_iff_left fun hnew ↦ haction hnew.2.1).symm

end Note

/-- Noting one more topic. -/
theorem Noted.note {noted : List (TopicSummary × ℕ)} {c : ActionCandidates} (h : Noted noted c)
    (it : TopicSummary × ℕ) : Noted (noted ++ [it]) (c.note it.1 it.2) where
  members action index := by
    rw [find?_members_note]
    by_cases hmember : IsMember action (topicMember it.1)
    · simp [hmember, h.members, or_and_right, exists_or, eq_comm]
    · simp [hmember, h.members, or_and_right, exists_or]
  present action := by
    rw [find?_everyMemberTypeOk_note]
    by_cases hmember : IsMember action (topicMember it.1)
    · simp [hmember, or_and_right, exists_or]
    · simp [hmember, h.present, or_and_right, exists_or]
  typeOk action := by
    rw [find?_everyMemberTypeOk_note]
    by_cases hmember : IsMember action (topicMember it.1)
    · simp [hmember, h.typeOk, or_imp, forall_and]
    · simp [hmember, h.typeOk, or_imp, forall_and]
  named action type := by
    simp only [mem_namedTypes_note, h.named, List.mem_append, List.mem_singleton, or_and_right,
      exists_or, exists_eq_left, and_or_left]

theorem noted_foldl (its noted : List (TopicSummary × ℕ)) (c : ActionCandidates)
    (h : Noted noted c) :
    Noted (noted ++ its) (its.foldl (fun acc it ↦ acc.note it.1 it.2) c) := by
  induction its generalizing noted c with
  | nil => simpa using h
  | cons it rest ih => simpa using ih _ _ (h.note it)

/-- The candidates of an action agree that it is one. -/
theorem Noted.isAction_iff {noted : List (TopicSummary × ℕ)} {c : ActionCandidates}
    (h : Noted noted c) (action : String) :
    c.isAction action = true ↔
      ∃ type, AgreeOn (noted.map fun it ↦ topicMember it.1) action type := by
  have hok : (c.everyMemberTypeOk.find? action).getD false = true ↔
      (∃ it ∈ noted, IsMember action (topicMember it.1)) ∧
        ∀ it ∈ noted, IsMember action (topicMember it.1) → (topicMember it.1).typeOk = true := by
    rw [← h.present, ← h.typeOk]
    cases c.everyMemberTypeOk.find? action <;> simp
  have hnamed := h.named action
  rw [ActionCandidates.isAction, Bool.and_eq_true, hok, decide_eq_true_eq, Finset.card_eq_one]
  simp only [AgreeOn, Carries, List.mem_map, exists_exists_and_eq_and, forall_exists_index, and_imp,
    forall_apply_eq_imp_iff₂]
  constructor
  · rintro ⟨⟨-, hall⟩, type, htype⟩
    simp only [htype, Finset.mem_singleton] at hnamed
    obtain ⟨hne, it, hit, hmember, hname⟩ := (hnamed type).mp rfl
    refine ⟨type, hne, ⟨it, hit, hmember, hname⟩, fun other hother hin ↦ ⟨hall other hother hin, ?_⟩⟩
    by_cases hempty : (topicMember other.1).actionType = ""
    · exact .inl hempty
    · exact .inr ((hnamed _).mpr ⟨hempty, other, hother, hin, rfl⟩)
  · rintro ⟨type, hne, ⟨it, hit, hmember, hname⟩, hall⟩
    refine ⟨⟨⟨it, hit, hmember⟩, fun other hother hin ↦ (hall other hother hin).1⟩, type, ?_⟩
    ext other
    rw [hnamed, Finset.mem_singleton]
    constructor
    · rintro ⟨hother, found, hfound, hin, rfl⟩
      exact (hall found hfound hin).2.resolve_left hother
    · rintro rfl
      exact ⟨hne, it, hit, hmember, hname⟩

end Candidates

/-! ## What is marked -/

section Marks

/-- The candidates that the topics make. -/
def candidatesOf (topics : List TopicSummary) : ActionCandidates :=
  (topics.map classifyName).zipIdx.foldl (fun acc it ↦ acc.note it.1 it.2) {}

/-- What the topic is, once the candidates are known. -/
def classifyIn (c : ActionCandidates) (t : TopicSummary) : TopicSummary :=
  if (topicMember t).matched && c.isAction (topicMember t).action then
    markAction (topicMember t).action (classifyName t)
  else classifyName t

/-- The places that are marked, each with the action it is marked for. -/
def marksOf (c : ActionCandidates) : List (String × ℕ) :=
  (c.members.entries.filter fun entry ↦ c.isAction entry.1).flatMap fun entry ↦
    entry.2.map fun index ↦ (entry.1, index)

def mark (topics : List TopicSummary) (m : String × ℕ) : List TopicSummary :=
  topics.modify m.2 (markAction m.1)

theorem classifyTopics_eq_foldl (topics : List TopicSummary) :
    classifyTopics topics =
      (marksOf (candidatesOf topics)).foldl mark (topics.map classifyName) := by
  unfold classifyTopics marksOf candidatesOf
  simp only
  generalize (topics.map classifyName).zipIdx.foldl (fun acc it ↦ acc.note it.1 it.2)
    ({} : ActionCandidates) = c
  generalize topics.map classifyName = named
  induction c.members.entries generalizing named with
  | nil => rfl
  | cons entry rest ih =>
    rw [List.foldl_cons, List.filter_cons]
    split_ifs
    · rw [List.flatMap_cons, List.foldl_append, List.foldl_map, ih]
      rfl
    · exact ih named

theorem getElem?_foldl_mark (marks : List (String × ℕ)) (topics : List TopicSummary) (index : ℕ) :
    (marks.foldl mark topics)[index]? =
      topics[index]?.map fun t ↦
        (marks.filter fun m ↦ m.2 = index).foldl (fun t m ↦ markAction m.1 t) t := by
  induction marks generalizing topics with
  | nil => simp
  | cons m rest ih =>
    rw [List.foldl_cons, ih, mark, List.getElem?_modify, List.filter_cons]
    by_cases hindex : m.2 = index
    · simp [hindex, Function.comp_def]
    · simp [hindex]

/-- Marking once more for the same action changes nothing. -/
theorem foldl_markAction (marks : List (String × ℕ)) (action : String) (t : TopicSummary)
    (h : ∀ m ∈ marks, m.1 = action) :
    marks.foldl (fun t m ↦ markAction m.1 t) t = if marks = [] then t else markAction action t := by
  induction marks generalizing t with
  | nil => rfl
  | cons m rest ih =>
    rw [List.foldl_cons, ih _ fun other hother ↦ h other (List.mem_cons_of_mem m hother),
      h m (List.mem_cons_self ..), if_neg (List.cons_ne_nil m rest)]
    split_ifs <;> rfl

theorem topicMember_classifyName (t : TopicSummary) :
    topicMember (classifyName t) = topicMember t := by
  have h := kindOnly_classifyName t
  unfold KindOnly at h
  rw [topicMember, topicMember, h]

theorem kind_classifyName (t : TopicSummary) : (classifyName t).kind ≠ .action := by
  unfold classifyName
  simp only
  split <;> simp

theorem noted_candidatesOf (topics : List TopicSummary) :
    Noted (topics.map classifyName).zipIdx (candidatesOf topics) :=
  noted_foldl _ [] {} ⟨by simp, by simp, by simp, by simp⟩

theorem isAction_candidatesOf_iff (topics : List TopicSummary) (action : String) :
    (candidatesOf topics).isAction action = true ↔
      ∃ type, AgreeOn (topics.map topicMember) action type := by
  have hmembers : (topics.map classifyName).zipIdx.map (fun it ↦ topicMember it.1) =
      topics.map topicMember := by
    have hindexed (ts : List TopicSummary) :
        ts.zipIdx.map (fun it ↦ topicMember it.1) = ts.map topicMember := by
      rw [← Function.comp_def topicMember Prod.fst, ← List.map_map, List.zipIdx_map_fst 0]
    rw [hindexed, List.map_map, Function.comp_def]
    simp only [topicMember_classifyName]
  rw [(noted_candidatesOf topics).isAction_iff, hmembers]

theorem mem_marksOf_iff (topics : List TopicSummary) (action : String) (index : ℕ) :
    (action, index) ∈ marksOf (candidatesOf topics) ↔
      ∃ t, topics[index]? = some t ∧ IsMember action (topicMember t) ∧
        (candidatesOf topics).isAction action = true := by
  have hmembers := (noted_candidatesOf topics).members action index
  have hmarks : (action, index) ∈ marksOf (candidatesOf topics) ↔
      (candidatesOf topics).isAction action = true ∧
        index ∈ ((candidatesOf topics).members.find? action).getD [] := by
    simp only [marksOf, List.mem_flatMap, List.mem_filter, List.mem_map, Prod.exists, Prod.mk.injEq,
      OrderedMap.mem_entries_iff]
    constructor
    · rintro ⟨_, indices, ⟨hfind, haction⟩, _, hindex, rfl, rfl⟩
      rw [hfind]
      exact ⟨haction, hindex⟩
    · rintro ⟨haction, hindex⟩
      cases hfind : (candidatesOf topics).members.find? action with
      | none => simp [hfind] at hindex
      | some indices =>
        rw [hfind] at hindex
        exact ⟨action, indices, ⟨hfind, haction⟩, index, hindex, rfl, rfl⟩
  rw [hmarks, hmembers]
  simp only [Prod.exists, List.mem_zipIdx_iff_getElem?, List.getElem?_map, Option.map_eq_some_iff]
  constructor
  · rintro ⟨haction, _, place, ⟨t, htopic, rfl⟩, hmember, rfl⟩
    rw [topicMember_classifyName] at hmember
    exact ⟨t, htopic, hmember, haction⟩
  · rintro ⟨t, htopic, hmember, haction⟩
    refine ⟨haction, classifyName t, index, ⟨t, htopic, rfl⟩, ?_, rfl⟩
    rwa [topicMember_classifyName]

/-- Topic by topic. -/
theorem classifyTopics_eq_map (topics : List TopicSummary) :
    classifyTopics topics = topics.map (classifyIn (candidatesOf topics)) := by
  refine List.ext_getElem? fun index ↦ ?_
  rw [classifyTopics_eq_foldl, getElem?_foldl_mark, List.getElem?_map, List.getElem?_map,
    Option.map_map]
  cases htopic : topics[index]? with
  | none => rfl
  | some t =>
    have hmarks (m : String × ℕ) : (m ∈ (marksOf (candidatesOf topics)).filter fun m ↦ m.2 = index) ↔
        m.2 = index ∧ IsMember m.1 (topicMember t) ∧
          (candidatesOf topics).isAction m.1 = true := by
      obtain ⟨action, place⟩ := m
      rw [List.mem_filter, decide_eq_true_eq, and_comm, mem_marksOf_iff]
      refine and_congr_right fun (hplace : place = index) ↦ ?_
      rw [hplace, htopic]
      simp
    rw [Option.map_some, Option.map_some, Function.comp_apply,
      foldl_markAction _ (topicMember t).action _ fun m hm ↦ ((hmarks m).mp hm).2.1.2.symm,
      classifyIn]
    by_cases hmarked : (topicMember t).matched = true ∧
        (candidatesOf topics).isAction (topicMember t).action = true
    · have hmem := (hmarks ((topicMember t).action, index)).mpr ⟨rfl, ⟨hmarked.1, rfl⟩, hmarked.2⟩
      rw [if_neg (List.ne_nil_of_mem hmem), if_pos (by simp [hmarked])]
    · have hnone : (marksOf (candidatesOf topics)).filter (fun m ↦ m.2 = index) = [] := by
        refine List.eq_nil_iff_forall_not_mem.mpr fun m hm ↦ ?_
        obtain ⟨-, hmember, haction⟩ := (hmarks m).mp hm
        exact hmarked ⟨hmember.1, hmember.2 ▸ haction⟩
      rw [if_pos hnone, if_neg (by simpa using hmarked)]

end Marks

end TransportViz.Decision
