import TransportViz.Decision.Fresh

/-!
# Summaries without places

The pointers of a topic say where its endpoints stand in the snapshot, and its kind depends on the
other topics. Without both a summary is determined by the endpoints of its DDS topic, in the order
they were discovered in: `perm_summarize` says that `summarize` is one such topic for every DDS name.
-/

namespace TransportViz.Collect

open Decision

/-- The endpoint at no place in particular. -/
def unplaced (e : Endpoint) : EndpointPtr := { toEndpoint := e, address := 0 }

def EndpointPtr.erase (e : EndpointPtr) : EndpointPtr := unplaced e.toEndpoint

def Pair.erase (p : Pair) : Pair :=
  { p with writer := EndpointPtr.erase p.writer, reader := EndpointPtr.erase p.reader }

/-- A topic without the places of its endpoints. -/
def erase (t : TopicSummary) : TopicSummary :=
  { t with
    writers := t.writers.map EndpointPtr.erase
    readers := t.readers.map EndpointPtr.erase
    pairs := t.pairs.map Pair.erase }

/-- And without what it is in ROS terms. -/
def unclassified (t : TopicSummary) : TopicSummary :=
  { erase t with
    kind := .other
    group := ""
    direction := .none }

section Unclassified

theorem unclassified_nameTopic (t : TopicSummary) (e : EndpointPtr) :
    unclassified (nameTopic t e) = nameTopic (unclassified t) (EndpointPtr.erase e) := by
  unfold nameTopic
  by_cases hname : t.ddsTopic ≠ ""
  · rw [if_pos hname, if_pos (show (unclassified t).ddsTopic ≠ "" from hname)]
  · rw [if_neg hname, if_neg (show ¬(unclassified t).ddsTopic ≠ "" from hname)]
    rfl

theorem unclassified_addEndpoint (t : TopicSummary) (e : EndpointPtr) :
    unclassified (addEndpoint t e) = addEndpoint (unclassified t) (EndpointPtr.erase e) := by
  have hside : (EndpointPtr.erase e).isWriter = e.isWriter := rfl
  unfold addEndpoint
  simp only
  rw [← unclassified_nameTopic, hside]
  split_ifs <;> simp [unclassified, erase]

theorem unclassified_foldl_addEndpoint (group : List EndpointPtr) (t : TopicSummary) :
    unclassified (group.foldl addEndpoint t) =
      (group.map EndpointPtr.erase).foldl addEndpoint (unclassified t) := by
  induction group generalizing t with
  | nil => rfl
  | cons e rest ih => rw [List.foldl_cons, ih, unclassified_addEndpoint, List.map_cons, List.foldl_cons]

theorem unclassified_of_kindOnly {a b : TopicSummary} (h : KindOnly a b) :
    unclassified a = unclassified b := by
  unfold KindOnly at h
  rw [h]
  rfl

/-- The native-buffer codes do not look at places. -/
theorem bufferCodes_map_erase (endpoints : List EndpointPtr) :
    bufferCodes (endpoints.map EndpointPtr.erase) = bufferCodes endpoints := by
  unfold bufferCodes
  simp only [List.any_map]
  rfl

theorem unmatchedReasons_erase (writers readers : List EndpointPtr) (pairs : List Pair) :
    unmatchedReasons (writers.map EndpointPtr.erase) (readers.map EndpointPtr.erase)
        (pairs.map Pair.erase) =
      unmatchedReasons writers readers pairs := by
  unfold unmatchedReasons
  rw [← List.map_append, bufferCodes_map_erase]
  simp only [List.map_eq_nil_iff]

variable [Fnmatch]

theorem erase_freshPair (w r : EndpointPtr) :
    Pair.erase (freshPair w r) = freshPair (EndpointPtr.erase w) (EndpointPtr.erase r) := by
  unfold freshPair Pair.erase
  have hcodes := bufferCodes_map_erase [w, r]
  simp only [List.map_cons, List.map_nil] at hcodes
  rw [hcodes]
  rfl

theorem map_erase_freshPairs (writers readers : List EndpointPtr) :
    (freshPairs writers readers).map Pair.erase =
      freshPairs (writers.map EndpointPtr.erase) (readers.map EndpointPtr.erase) := by
  unfold freshPairs
  simp only [List.map_flatMap, List.map_map, List.flatMap_map, Function.comp_def, erase_freshPair]

theorem unclassified_pairTopic (t : TopicSummary) :
    unclassified (pairTopic t) = pairTopic (unclassified t) := by
  unfold pairTopic
  simp only [unclassified, erase, map_erase_freshPairs]
  rw [← map_erase_freshPairs, unmatchedReasons_erase]

end Unclassified

section Summary

/-- The topic of some endpoints of one DDS topic. -/
def topicOf [Fnmatch] (group : List Endpoint) : TopicSummary :=
  pairTopic ((group.map unplaced).foldl addEndpoint {})

/-- The endpoints of a DDS topic. -/
def groupOf (endpoints : List Endpoint) (ddsTopic : String) : List Endpoint :=
  endpoints.filter fun e ↦ e.ddsTopic = ddsTopic

theorem map_erase_group (endpoints : List Endpoint) (ddsTopic : String) :
    ((pointers endpoints).filter fun e ↦ e.ddsTopic = ddsTopic).map EndpointPtr.erase =
      (groupOf endpoints ddsTopic).map unplaced := by
  have hpointers : (pointers endpoints).map EndpointPtr.toEndpoint = endpoints := by
    rw [pointers, List.map_map]
    exact List.zipIdx_map_fst 0 endpoints
  have hunclassified : EndpointPtr.erase = unplaced ∘ EndpointPtr.toEndpoint := rfl
  rw [hunclassified, ← List.map_map, groupOf]
  conv_rhs => rw [← hpointers, List.filter_map]
  rfl

theorem find?_byTopic (endpoints : List Endpoint) (ddsTopic : String) :
    (byTopic endpoints).find? ddsTopic =
      ((pointers endpoints).filter fun e ↦ e.ddsTopic = ddsTopic).foldl
        (fun t e ↦ some (addEndpoint (t.getD {}) e)) none := by
  rw [byTopic, OrderedMap.find?_foldl_alter (pointers endpoints) (fun e ↦ e.ddsTopic)
    (fun e t ↦ addEndpoint (t.getD {}) e) .empty ddsTopic, OrderedMap.find?_empty]

theorem foldl_some_addEndpoint (group : List EndpointPtr) (t : TopicSummary) :
    group.foldl (fun t e ↦ some (addEndpoint (t.getD {}) e)) (some t) =
      some (group.foldl addEndpoint t) := by
  induction group generalizing t with
  | nil => rfl
  | cons e rest ih => exact ih (addEndpoint t e)

theorem foldl_none_addEndpoint (group : List EndpointPtr) (h : group ≠ []) :
    group.foldl (fun t e ↦ some (addEndpoint (t.getD {}) e)) none =
      some (group.foldl addEndpoint {}) := by
  cases group with
  | nil => exact absurd rfl h
  | cons e rest => exact foldl_some_addEndpoint rest (addEndpoint {} e)

theorem mem_keys_byTopic (endpoints : List Endpoint) (ddsTopic : String) :
    ddsTopic ∈ (byTopic endpoints).keys ↔ ddsTopic ∈ endpoints.map Endpoint.ddsTopic := by
  rw [OrderedMap.mem_keys_iff, find?_byTopic]
  by_cases hgroup : (pointers endpoints).filter (fun e ↦ e.ddsTopic = ddsTopic) = []
  · rw [hgroup]
    refine iff_of_false (by simp) fun hmem ↦ ?_
    obtain ⟨e, he, rfl⟩ := List.mem_map.mp hmem
    have hnone := map_erase_group endpoints e.ddsTopic
    rw [hgroup, List.map_nil, eq_comm, List.map_eq_nil_iff] at hnone
    exact List.ne_nil_of_mem (List.mem_filter.mpr ⟨he, by simp⟩) hnone
  · rw [foldl_none_addEndpoint _ hgroup]
    refine iff_of_true ⟨_, rfl⟩ ?_
    obtain ⟨e, he⟩ := List.exists_mem_of_ne_nil _ hgroup
    obtain ⟨hmem, htopic⟩ := List.mem_filter.mp he
    rw [← of_decide_eq_true htopic]
    exact List.mem_map_of_mem (mem_of_mem_pointers hmem)

variable [Fnmatch]

theorem unclassified_byTopic {endpoints : List Endpoint} {ddsTopic : String} {t : TopicSummary}
    (h : (byTopic endpoints).find? ddsTopic = some t) :
    unclassified (pairTopic t) = topicOf (groupOf endpoints ddsTopic) := by
  rw [find?_byTopic] at h
  have hgroup : (pointers endpoints).filter (fun e ↦ e.ddsTopic = ddsTopic) ≠ [] := fun hnil ↦ by
    rw [hnil] at h
    cases h
  rw [foldl_none_addEndpoint _ hgroup] at h
  rw [← Option.some.inj h, unclassified_pairTopic, unclassified_foldl_addEndpoint, map_erase_group]
  rfl

/-- Without places, `summarize` makes one topic of every DDS name. -/
theorem perm_summarize (endpoints : List Endpoint) :
    ((summarize endpoints).map unclassified).Perm
      ((endpoints.map Endpoint.ddsTopic).dedup.map fun ddsTopic ↦
        topicOf (groupOf endpoints ddsTopic)) := by
  obtain ⟨topics, hperm, hforall⟩ := exists_forall₂_summarize endpoints
  have hkinds : (summarize endpoints).map unclassified = topics.map unclassified :=
    map_eq_map_of_forall₂ hforall fun _ _ hkind ↦ unclassified_of_kindOnly hkind
  have hvalues : ((byTopic endpoints).values.map pairTopic).map unclassified =
      (byTopic endpoints).keys.map fun ddsTopic ↦ topicOf (groupOf endpoints ddsTopic) := by
    rw [OrderedMap.values, OrderedMap.keys, List.map_map, List.map_map, List.map_map]
    refine List.map_congr_left fun entry hentry ↦ ?_
    obtain ⟨ddsTopic, t⟩ := entry
    exact unclassified_byTopic (((byTopic endpoints).mem_entries_iff ddsTopic t).mp hentry)
  have hkeys : (byTopic endpoints).keys.Perm (endpoints.map Endpoint.ddsTopic).dedup := by
    rw [List.perm_ext_iff_of_nodup (byTopic endpoints).nodup_keys (List.nodup_dedup _)]
    intro ddsTopic
    rw [mem_keys_byTopic, List.mem_dedup]
  rw [hkinds]
  refine (hperm.map unclassified).trans ?_
  rw [hvalues]
  exact hkeys.map _

end Summary

end TransportViz.Collect
