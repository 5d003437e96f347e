import TransportViz.Decision.Summarize

/-!
# What a summarized topic holds

`IsSummary` says it on its own terms: the writers and readers of one DDS topic in discovery order, all
of their pairs with the predicted verdict and nothing measured, under a name one of the endpoints
carries. `isSummary_of_mem` shows it for every topic of `summarize`; sorting and classifying change
neither.
-/

namespace TransportViz.Decision

/-- The name an endpoint's topic is shown under. -/
def displayName (e : Endpoint) : String := if e.rosTopic ≠ "" then e.rosTopic else e.ddsTopic

/-- The endpoints of one side of a DDS topic, in discovery order. -/
def sideOf (endpoints : List Endpoint) (ddsTopic : String) (isWriter : Bool) : List EndpointPtr :=
  (pointers endpoints).filter fun e ↦ e.ddsTopic = ddsTopic && e.isWriter == isWriter

theorem exists_of_mem_left {α β : Type} {relation : α → β → Prop} {first : List α}
    {second : List β} (h : List.Forall₂ relation first second) {a : α} (ha : a ∈ first) :
    ∃ b ∈ second, relation a b := by
  induction h with
  | nil => simp at ha
  | cons hhead _ ih =>
    rcases List.mem_cons.mp ha with rfl | ha
    · exact ⟨_, List.mem_cons_self .., hhead⟩
    · obtain ⟨b, hb, hrelation⟩ := ih ha
      exact ⟨b, List.mem_cons_of_mem _ hb, hrelation⟩

theorem exists_of_mem_right {α β : Type} {relation : α → β → Prop} {first : List α}
    {second : List β} (h : List.Forall₂ relation first second) {b : β} (hb : b ∈ second) :
    ∃ a ∈ first, relation a b := exists_of_mem_left h.flip hb

/-- Related lists look the same where related values do. -/
theorem map_eq_map_of_forall₂ {α β γ : Type} {relation : α → β → Prop} {first : List α}
    {second : List β} {f : α → γ} {g : β → γ} (h : List.Forall₂ relation first second)
    (hsame : ∀ a b, relation a b → f a = g b) : first.map f = second.map g := by
  induction h with
  | nil => rfl
  | cons hhead _ ih => rw [List.map_cons, List.map_cons, hsame _ _ hhead, ih]

section Classify

/-- The two topics differ at most in what they are in ROS terms. -/
def KindOnly (a b : TopicSummary) : Prop :=
  a = { b with kind := a.kind, group := a.group, direction := a.direction }

theorem kindOnly_classifyName (t : TopicSummary) : KindOnly (classifyName t) t := by
  unfold classifyName KindOnly
  simp only
  split <;> rfl

theorem KindOnly.ddsTopic_eq {a b : TopicSummary} (h : KindOnly a b) : a.ddsTopic = b.ddsTopic := by
  unfold KindOnly at h
  rw [h]

theorem KindOnly.displayTopic_eq {a b : TopicSummary} (h : KindOnly a b) :
    a.displayTopic = b.displayTopic := by
  unfold KindOnly at h
  rw [h]

theorem KindOnly.markAction {a b : TopicSummary} (h : KindOnly a b) (action : String) :
    KindOnly (markAction action a) b := by
  unfold KindOnly at h ⊢
  rw [h]
  rfl

theorem forall₂_modify (first second : List TopicSummary) (action : String) (index : ℕ)
    (h : List.Forall₂ KindOnly first second) :
    List.Forall₂ KindOnly (first.modify index (markAction action)) second := by
  induction h generalizing index with
  | nil => cases index <;> exact .nil
  | cons hhead hrest ih =>
    cases index with
    | zero => exact .cons (hhead.markAction action) hrest
    | succ index => exact .cons hhead (ih index)

theorem forall₂_markAll (action : String) (indices : List ℕ) (first second : List TopicSummary)
    (h : List.Forall₂ KindOnly first second) :
    List.Forall₂ KindOnly
      (indices.foldl (fun acc index ↦ acc.modify index (markAction action)) first) second := by
  induction indices generalizing first with
  | nil => exact h
  | cons index rest ih => exact ih _ (forall₂_modify first second action index h)

/-- Classifying changes only what a topic is in ROS terms. -/
theorem forall₂_classifyTopics (topics : List TopicSummary) :
    List.Forall₂ KindOnly (classifyTopics topics) topics := by
  unfold classifyTopics
  simp only
  generalize (topics.map classifyName).zipIdx.foldl (fun acc it ↦ acc.note it.1 it.2)
    ({} : ActionCandidates) = candidates
  generalize candidates.members.entries = entries
  have hstart : List.Forall₂ KindOnly (topics.map classifyName) topics := by
    rw [List.forall₂_map_left_iff]
    exact List.forall₂_same.mpr fun t _ ↦ kindOnly_classifyName t
  revert hstart
  generalize topics.map classifyName = named
  intro hstart
  induction entries generalizing named with
  | nil => exact hstart
  | cons entry rest ih =>
    rw [List.foldl_cons]
    by_cases haction : candidates.isAction entry.1 = true
    · rw [if_pos haction]
      exact ih _ (forall₂_markAll entry.1 entry.2 named topics hstart)
    · rw [if_neg haction]
      exact ih _ hstart

end Classify

section Group

/-- What holds once the endpoints `added` are in one topic. -/
structure Grouped (ddsTopic : String) (added : List EndpointPtr) (t : TopicSummary) : Prop where
  ddsTopic_eq : t.ddsTopic = ddsTopic
  writers_eq : t.writers = added.filter fun e ↦ e.isWriter == true
  readers_eq : t.readers = added.filter fun e ↦ e.isWriter == false
  display : ∃ e ∈ added, t.displayTopic = displayName e.toEndpoint
  unpaired : t.pairs = [] ∧ t.unmatchedReasons = []

theorem grouped_first (e : EndpointPtr) : Grouped e.ddsTopic [e] (addEndpoint {} e) := by
  have hname : nameTopic {} e = { nameTopic {} e with writers := [], readers := [] } := rfl
  unfold addEndpoint
  cases hside : e.isWriter <;>
    exact ⟨rfl, by simp [hside, nameTopic], by simp [hside, nameTopic],
      ⟨e, List.mem_singleton_self e, rfl⟩, rfl, rfl⟩

/-- Adding one more endpoint of the topic. -/
theorem Grouped.addEndpoint {ddsTopic : String} {added : List EndpointPtr} {t : TopicSummary}
    (h : Grouped ddsTopic added t) (e : EndpointPtr) (he : e.ddsTopic = ddsTopic) :
    Grouped ddsTopic (added ++ [e]) (addEndpoint t e) := by
  obtain ⟨hdds, hwriters, hreaders, ⟨first, hfirst, hdisplay⟩, hunpaired⟩ := h
  have hkeep : (nameTopic t e).writers = t.writers ∧ (nameTopic t e).readers = t.readers ∧
      (nameTopic t e).pairs = t.pairs ∧ (nameTopic t e).unmatchedReasons = t.unmatchedReasons ∧
      (nameTopic t e).ddsTopic = ddsTopic ∧
      ∃ other ∈ added ++ [e], (nameTopic t e).displayTopic = displayName other.toEndpoint := by
    unfold nameTopic
    by_cases hname : t.ddsTopic = ""
    · rw [if_neg (not_not.mpr hname)]
      exact ⟨rfl, rfl, rfl, rfl, he, e, by simp, rfl⟩
    · rw [if_pos hname]
      exact ⟨rfl, rfl, rfl, rfl, hdds, first, List.mem_append_left _ hfirst, hdisplay⟩
  obtain ⟨hw, hr, hpairs, hreasons, hdds', hdisplay'⟩ := hkeep
  unfold Decision.addEndpoint
  cases hside : e.isWriter with
  | true =>
    exact ⟨hdds', by simp [hw, hwriters, hside], by simp [hr, hreaders, hside], hdisplay',
      hpairs.trans hunpaired.1, hreasons.trans hunpaired.2⟩
  | false =>
    exact ⟨hdds', by simp [hw, hwriters, hside], by simp [hr, hreaders, hside], hdisplay',
      hpairs.trans hunpaired.1, hreasons.trans hunpaired.2⟩

theorem grouped_foldl (ddsTopic : String) (more added : List EndpointPtr) (t : TopicSummary)
    (h : Grouped ddsTopic added t) (hmore : ∀ e ∈ more, e.ddsTopic = ddsTopic) :
    ∃ result, more.foldl (fun t e ↦ some (addEndpoint (t.getD {}) e)) (some t) = some result ∧
      Grouped ddsTopic (added ++ more) result := by
  induction more generalizing added t with
  | nil => exact ⟨t, rfl, by simpa using h⟩
  | cons e rest ih =>
    obtain ⟨result, hresult, hgrouped⟩ := ih (added ++ [e]) (addEndpoint t e)
      (h.addEndpoint e (hmore e (List.mem_cons_self ..)))
      fun other hother ↦ hmore other (List.mem_cons_of_mem _ hother)
    exact ⟨result, hresult, by simpa using hgrouped⟩

/-- The topics before pairing, by DDS name. -/
def byTopic (endpoints : List Endpoint) : OrderedMap String TopicSummary :=
  (pointers endpoints).foldl
    (fun map e ↦ map.alter e.ddsTopic fun t ↦ addEndpoint (t.getD {}) e) .empty

theorem grouped_byTopic (endpoints : List Endpoint) (ddsTopic : String) (t : TopicSummary)
    (h : (byTopic endpoints).find? ddsTopic = some t) :
    Grouped ddsTopic ((pointers endpoints).filter fun e ↦ e.ddsTopic = ddsTopic) t := by
  rw [byTopic, OrderedMap.find?_foldl_alter (pointers endpoints) (fun e ↦ e.ddsTopic)
    (fun e t ↦ addEndpoint (t.getD {}) e) .empty ddsTopic, OrderedMap.find?_empty] at h
  have htopic : ∀ e ∈ (pointers endpoints).filter fun e ↦ e.ddsTopic = ddsTopic,
      e.ddsTopic = ddsTopic := fun e he ↦ by simpa using (List.mem_filter.mp he).2
  revert h htopic
  generalize (pointers endpoints).filter (fun e ↦ e.ddsTopic = ddsTopic) = group
  intro h htopic
  cases group with
  | nil => simp at h
  | cons e rest =>
    have he := htopic e (List.mem_cons_self ..)
    obtain ⟨result, hresult, hgrouped⟩ := grouped_foldl ddsTopic rest [e] (addEndpoint {} e)
      (he ▸ grouped_first e) fun other hother ↦ htopic other (List.mem_cons_of_mem _ hother)
    obtain rfl := Option.some.inj (h.symm.trans hresult)
    exact hgrouped

end Group

section Summary

variable [Fnmatch]

/-- A topic of `summarize`, on its own terms. -/
structure IsSummary (endpoints : List Endpoint) (t : TopicSummary) : Prop where
  writers_eq : t.writers = sideOf endpoints t.ddsTopic true
  readers_eq : t.readers = sideOf endpoints t.ddsTopic false
  pairs_eq : t.pairs = freshPairs t.writers t.readers
  display : ∃ e ∈ pointers endpoints, e.ddsTopic = t.ddsTopic ∧
    t.displayTopic = displayName e.toEndpoint

theorem isSummary_pairTopic (endpoints : List Endpoint) (ddsTopic : String) (t : TopicSummary)
    (h : (byTopic endpoints).find? ddsTopic = some t) :
    IsSummary endpoints (pairTopic t) ∧ (pairTopic t).ddsTopic = ddsTopic := by
  obtain ⟨hdds, hwriters, hreaders, ⟨e, he, hdisplay⟩, -⟩ := grouped_byTopic endpoints ddsTopic t h
  obtain ⟨hmem, htopic⟩ := List.mem_filter.mp he
  refine ⟨⟨?_, ?_, rfl, e, hmem, ?_, hdisplay⟩, hdds⟩
  · simp only [pairTopic, hwriters, hdds, sideOf, List.filter_filter, Bool.and_comm]
  · simp only [pairTopic, hreaders, hdds, sideOf, List.filter_filter, Bool.and_comm]
  · rw [of_decide_eq_true htopic]
    exact hdds.symm

theorem IsSummary.of_kindOnly {endpoints : List Endpoint} {a b : TopicSummary}
    (h : IsSummary endpoints b) (hkind : KindOnly a b) : IsSummary endpoints a := by
  unfold KindOnly at hkind
  rw [hkind]
  exact ⟨h.writers_eq, h.readers_eq, h.pairs_eq, h.display⟩

/-- The topics of `summarize` are those of the map, up to their order and classification. -/
theorem exists_forall₂_summarize (endpoints : List Endpoint) :
    ∃ topics : List TopicSummary, topics.Perm ((byTopic endpoints).values.map pairTopic) ∧
      List.Forall₂ KindOnly (summarize endpoints) topics :=
  ⟨_, List.perm_insertionSort _ _, forall₂_classifyTopics _⟩

/-- A summarized topic is a paired group, up to its classification. -/
theorem exists_group_of_mem {endpoints : List Endpoint} {t : TopicSummary}
    (h : t ∈ summarize endpoints) :
    ∃ ddsTopic group, (byTopic endpoints).find? ddsTopic = some group ∧
      KindOnly t (pairTopic group) := by
  obtain ⟨topics, hperm, hforall⟩ := exists_forall₂_summarize endpoints
  obtain ⟨other, hother, hkind⟩ := exists_of_mem_left hforall h
  obtain ⟨group, hgroup, rfl⟩ := List.mem_map.mp (hperm.subset hother)
  obtain ⟨⟨ddsTopic, _⟩, hentry, rfl⟩ := List.mem_map.mp hgroup
  exact ⟨ddsTopic, _, ((byTopic endpoints).mem_entries_iff ddsTopic _).mp hentry, hkind⟩

theorem isSummary_of_mem (endpoints : List Endpoint) (t : TopicSummary)
    (h : t ∈ summarize endpoints) : IsSummary endpoints t := by
  obtain ⟨ddsTopic, group, hfind, hkind⟩ := exists_group_of_mem h
  exact (isSummary_pairTopic endpoints ddsTopic _ hfind).1.of_kindOnly hkind

/-- Every DDS topic is summarized once. -/
theorem nodup_ddsTopic_summarize (endpoints : List Endpoint) :
    ((summarize endpoints).map TopicSummary.ddsTopic).Nodup := by
  obtain ⟨topics, hperm, hforall⟩ := exists_forall₂_summarize endpoints
  have hkeys : ((byTopic endpoints).values.map pairTopic).map TopicSummary.ddsTopic =
      (byTopic endpoints).keys := by
    rw [OrderedMap.values, OrderedMap.keys, List.map_map, List.map_map]
    refine List.map_congr_left fun entry hentry ↦ ?_
    obtain ⟨ddsTopic, t⟩ := entry
    have hfind := ((byTopic endpoints).mem_entries_iff ddsTopic t).mp hentry
    exact (isSummary_pairTopic endpoints ddsTopic t hfind).2
  have hnames : (summarize endpoints).map TopicSummary.ddsTopic =
      topics.map TopicSummary.ddsTopic :=
    map_eq_map_of_forall₂ hforall fun _ _ hkind ↦ hkind.ddsTopic_eq
  rw [hnames, (hperm.map TopicSummary.ddsTopic).nodup_iff, hkeys]
  exact (byTopic endpoints).nodup_keys

/-- Classifying leaves the topics sorted by the name they are shown under. -/
theorem sorted_summarize (endpoints : List Endpoint) :
    (summarize endpoints).Pairwise fun t u ↦ t.displayTopic ≤ u.displayTopic := by
  have hnames (topics : List TopicSummary) : (classifyTopics topics).map TopicSummary.displayTopic =
      topics.map TopicSummary.displayTopic :=
    map_eq_map_of_forall₂ (forall₂_classifyTopics topics) fun _ _ hkind ↦ hkind.displayTopic_eq
  rw [← List.pairwise_map (f := TopicSummary.displayTopic) (R := (· ≤ ·)), summarize, hnames,
    List.pairwise_map]
  apply List.pairwise_insertionSort

/-- Every endpoint's DDS topic is summarized. -/
theorem exists_summarized_topic {endpoints : List Endpoint} {e : EndpointPtr}
    (he : e ∈ pointers endpoints) : ∃ t ∈ summarize endpoints, t.ddsTopic = e.ddsTopic := by
  obtain ⟨topics, hperm, hforall⟩ := exists_forall₂_summarize endpoints
  have hfound : ∃ t, (byTopic endpoints).find? e.ddsTopic = some t := by
    rw [byTopic, OrderedMap.find?_foldl_alter (pointers endpoints) (fun e ↦ e.ddsTopic)
      (fun e t ↦ addEndpoint (t.getD {}) e) .empty e.ddsTopic, OrderedMap.find?_empty]
    have hmem : e ∈ (pointers endpoints).filter fun o ↦ o.ddsTopic = e.ddsTopic :=
      List.mem_filter.mpr ⟨he, by simp⟩
    obtain ⟨before, last, hlast⟩ := List.eq_nil_or_concat _ |>.resolve_left (List.ne_nil_of_mem hmem)
    rw [hlast, List.concat_eq_append, List.foldl_append]
    exact ⟨_, rfl⟩
  obtain ⟨grouped, hgrouped⟩ := hfound
  have hentry := List.mem_map_of_mem (f := Prod.snd)
    (((byTopic endpoints).mem_entries_iff _ _).mpr hgrouped)
  obtain ⟨t, ht, hkind⟩ := exists_of_mem_right hforall
    (hperm.mem_iff.mpr (List.mem_map_of_mem (f := pairTopic) hentry))
  exact ⟨t, ht, hkind.ddsTopic_eq.trans (isSummary_pairTopic endpoints _ _ hgrouped).2⟩

theorem mem_freshPairs (writers readers : List EndpointPtr) (p : Pair) :
    p ∈ freshPairs writers readers ↔
      p.writer ∈ writers ∧ p.reader ∈ readers ∧ p = freshPair p.writer p.reader := by
  simp only [freshPairs, List.mem_flatMap, List.mem_map]
  constructor
  · rintro ⟨w, hw, r, hr, rfl⟩
    exact ⟨hw, hr, rfl⟩
  · rintro ⟨hw, hr, hp⟩
    exact ⟨p.writer, hw, p.reader, hr, hp.symm⟩

omit [Fnmatch] in
theorem mem_sideOf (endpoints : List Endpoint) (ddsTopic : String) (isWriter : Bool)
    (e : EndpointPtr) : e ∈ sideOf endpoints ddsTopic isWriter ↔
      e ∈ pointers endpoints ∧ e.ddsTopic = ddsTopic ∧ e.isWriter = isWriter := by
  simp [sideOf]

/-- The endpoints of a topic are those of its name. -/
theorem mem_topic_iff {endpoints : List Endpoint} {t : TopicSummary} (h : t ∈ summarize endpoints)
    (e : EndpointPtr) :
    e ∈ t.writers ++ t.readers ↔ e ∈ pointers endpoints ∧ e.ddsTopic = t.ddsTopic := by
  have hsummary := isSummary_of_mem endpoints t h
  rw [List.mem_append, hsummary.writers_eq, hsummary.readers_eq, mem_sideOf, mem_sideOf]
  cases e.isWriter <;> simp

omit [Fnmatch] in
theorem nodup_pointers (endpoints : List Endpoint) : (pointers endpoints).Nodup := by
  refine List.Nodup.of_map EndpointPtr.address ?_
  have haddress : (pointers endpoints).map EndpointPtr.address = List.range endpoints.length := by
    rw [pointers, List.map_map]
    exact List.zipIdx_map_snd 0 endpoints |>.trans (List.range_eq_range' ..).symm
  rw [haddress]
  exact List.nodup_range

/-- No endpoint stands twice on the sides of a topic. -/
theorem nodup_sides (endpoints : List Endpoint) (t : TopicSummary) (ht : t ∈ summarize endpoints) :
    (t.writers ++ t.readers).Nodup := by
  have hsummary := isSummary_of_mem endpoints t ht
  rw [hsummary.writers_eq, hsummary.readers_eq]
  refine List.Nodup.append ((nodup_pointers endpoints).filter _)
    ((nodup_pointers endpoints).filter _) ?_
  intro e hw hr
  have hwriter := ((mem_sideOf _ _ _ _).mp hw).2.2
  rw [((mem_sideOf _ _ _ _).mp hr).2.2] at hwriter
  cases hwriter

/-- No two pairs of a topic are between the same two endpoints. -/
theorem nodup_freshPairs (writers readers : List EndpointPtr) (hw : writers.Nodup)
    (hr : readers.Nodup) :
    ((freshPairs writers readers).map fun p ↦ (p.writer, p.reader)).Nodup := by
  have hproduct : (freshPairs writers readers).map (fun p ↦ (p.writer, p.reader)) =
      writers.product readers := by
    simp only [freshPairs, List.map_flatMap, List.map_map]
    rfl
  rw [hproduct]
  exact hw.product hr

theorem IsSummary.mem_ends {endpoints : List Endpoint} {t : TopicSummary}
    (h : IsSummary endpoints t) (p : Pair) (hp : p ∈ t.pairs) :
    p.writer ∈ t.writers ∧ p.reader ∈ t.readers := by
  rw [h.pairs_eq, mem_freshPairs] at hp
  exact ⟨hp.1, hp.2.1⟩

theorem IsSummary.nodup_pairs {endpoints : List Endpoint} {t : TopicSummary}
    (h : IsSummary endpoints t) : (t.pairs.map fun p ↦ (p.writer, p.reader)).Nodup := by
  rw [h.pairs_eq, h.writers_eq, h.readers_eq]
  exact nodup_freshPairs _ _ ((nodup_pointers endpoints).filter _)
    ((nodup_pointers endpoints).filter _)

end Summary

end TransportViz.Decision
