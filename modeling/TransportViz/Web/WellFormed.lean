import TransportViz.Decision.Documented
import TransportViz.Decision.Fresh
import TransportViz.Model.Text
import TransportViz.Stats.Branches

/-!
# The topics a snapshot is made of

Every topic the tool shows has written GUIDs, pairs of its own endpoints, and verdicts whose locator
was selected or is none. The summary makes such topics, and neither the node filter nor the statistics
change that.
-/

namespace TransportViz.Web

open Decision Stats

/-- A locator of no kind has no address and no port. -/
def Selected (l : Locator) : Prop := l.kind = .invalid → l = {}

structure WellFormed (t : TopicSummary) : Prop where
  guid : ∀ e ∈ t.writers ++ t.readers, ∃ bytes, e.guid = guidToString bytes
  listed : ∀ p ∈ t.pairs, p.writer ∈ t.writers ++ t.readers ∧ p.reader ∈ t.writers ++ t.readers
  selected : ∀ p ∈ t.pairs, Selected p.verdict.locator

section Summary

variable [Fnmatch]

theorem selected_of_sameType {writer reader : Endpoint} {v : Verdict}
    (h : SameTypeVerdict writer reader v) : Selected v.locator := by
  cases h with
  | shm =>
    intro hkind
    cases hfind : findLocator reader .shm with
    | none => rfl
    | some l =>
      have hshm := List.find?_some hfind
      simp_all
  | network _ _ _ _ _ _ _ _ hfirst =>
    intro hkind
    obtain ⟨_, _, _, hcan, _⟩ := hfirst
    simp_all [CanReach, isNetwork]
  | _ => exact fun _ ↦ rfl

theorem selected_decide (writer reader : Endpoint) :
    Selected (Decision.decide writer reader).locator := by
  by_cases htypes : TypesMatch writer reader
  · rw [decide_locator writer reader htypes]
    exact selected_of_sameType (sameTypeVerdict_decideSameType writer reader)
  · rw [decide_of_not_typesMatch writer reader htypes]
    exact fun _ ↦ rfl

theorem wellFormed_of_mem_summarize {endpoints : List Endpoint}
    (hguid : ∀ e ∈ endpoints, ∃ bytes, e.guid = guidToString bytes) {t : TopicSummary}
    (ht : t ∈ summarize endpoints) : WellFormed t := by
  have hsummary := isSummary_of_mem endpoints t ht
  have hpair {p : Pair} (hp : p ∈ t.pairs) := by
    rw [hsummary.pairs_eq] at hp
    exact (mem_freshPairs _ _ p).mp hp
  refine ⟨fun e he ↦ ?_, fun p hp ↦ ?_, fun p hp ↦ ?_⟩
  · have hmem : e ∈ pointers endpoints := by
      rw [hsummary.writers_eq, hsummary.readers_eq, List.mem_append, mem_sideOf, mem_sideOf] at he
      exact he.elim And.left And.left
    exact hguid _ (List.mem_of_getElem? ((mem_pointers_iff endpoints e).mp hmem))
  · obtain ⟨hwriter, hreader, -⟩ := hpair hp
    exact ⟨List.mem_append_left _ hwriter, List.mem_append_right _ hreader⟩
  · obtain ⟨-, -, heq⟩ := hpair hp
    rw [heq]
    exact selected_decide _ _

end Summary

theorem wellFormed_filterTopic {t u : TopicSummary} (h : WellFormed t)
    (nodeMatches : Endpoint → Bool) (hu : filterTopic nodeMatches t = some u) : WellFormed u := by
  unfold filterTopic at hu
  split_ifs at hu
  cases hu
  refine ⟨fun e he ↦ ?_, fun p hp ↦ ?_, fun p hp ↦ h.selected p (List.mem_of_mem_filter hp)⟩
  · rw [← List.filter_append] at he
    exact h.guid e (List.mem_of_mem_filter he)
  · rw [← List.filter_append]
    obtain ⟨hwriter, hreader⟩ := h.listed p (List.mem_of_mem_filter hp)
    obtain ⟨hkeptWriter, hkeptReader⟩ := mem_keptEndpoints_of_pair hp
    exact ⟨List.mem_filter.mpr ⟨hwriter, decide_eq_true hkeptWriter⟩,
      List.mem_filter.mpr ⟨hreader, decide_eq_true hkeptReader⟩⟩

section Overlay

variable (stats : StatsData)

theorem overlay_locator (all : Bool) (src : String) (v : Verdict) (m : Measurement) :
    (overlay stats all src v m).locator = v.locator := by
  have hoverlaid := overlaid_overlay stats all src v m
  revert hoverlaid
  generalize overlay stats all src v m = w
  intro hoverlaid
  cases hoverlaid with
  | unmatched =>
    unfold overlayUnmatched
    split_ifs <;> rfl
  | split | unpublished | intraProcess => rfl
  | dataSharing =>
    have hruling := datasharingRuling_overlayDataSharing all (dropIntraProcess v) m
    revert hruling
    generalize overlayDataSharing all (dropIntraProcess v) m = w
    intro hruling
    cases hruling <;> rfl
  | transport =>
    unfold overlayTransport
    simp only
    split_ifs <;> rfl

theorem overlayPair_locator (all : Bool) (p : Pair) :
    (overlayPair stats all p).verdict.locator = p.verdict.locator :=
  overlay_locator stats all _ _ _

theorem countPair_endpoints (progress : TopicProgress) (p : Pair) :
    (countPair stats progress p).topic.writers = progress.topic.writers ∧
      (countPair stats progress p).topic.readers = progress.topic.readers := by
  unfold countPair
  simp only
  split_ifs <;> exact ⟨rfl, rfl⟩

/-- The walk rewrites verdicts and keeps what is listed and selected. -/
theorem wellFormed_overlayPairs (progress : TopicProgress) (done rest : List Pair)
    (h : WellFormed { progress.topic with pairs := done ++ rest }) :
    WellFormed (overlayPairs stats progress done rest) := by
  induction rest generalizing progress done with
  | nil => simpa [overlayPairs] using h
  | cons p rest ih =>
    rw [overlayPairs]
    refine ih _ _ ?_
    obtain ⟨hwriters, hreaders⟩ := countPair_endpoints stats progress (measurePair stats p)
    have hpair : p ∈ done ++ p :: rest := List.mem_append_right _ (List.mem_cons_self ..)
    have hcases {all : Bool} {q : Pair} (hq : q ∈ done ++ [overlayPair stats all p] ++ rest) :
        q = overlayPair stats all p ∨ q ∈ done ++ p :: rest := by
      simp only [List.mem_append, List.mem_cons, List.not_mem_nil, or_false] at hq ⊢
      tauto
    refine ⟨?_, fun q hq ↦ ?_, fun q hq ↦ ?_⟩
    · simpa only [hwriters, hreaders] using h.guid
    · simp only [hwriters, hreaders]
      rcases hcases hq with rfl | hq
      · exact h.listed p hpair
      · exact h.listed q hq
    · rcases hcases hq with rfl | hq
      · rw [overlayPair_locator]
        exact h.selected p hpair
      · exact h.selected q hq

theorem wellFormed_overlayTopic {t : TopicSummary} (h : WellFormed t) :
    WellFormed (overlayTopic stats t) :=
  wellFormed_overlayPairs stats _ [] t.pairs ⟨h.guid, h.listed, h.selected⟩

end Overlay

/-- What the tool shows of discovered endpoints is well formed. -/
theorem wellFormed_of_mem_applyStats [Fnmatch] {endpoints : List Endpoint}
    (hguid : ∀ e ∈ endpoints, ∃ bytes, e.guid = guidToString bytes) (nodeMatches : Endpoint → Bool)
    (stats : StatsData) {t : TopicSummary}
    (ht : t ∈ applyStats (filterByNode (summarize endpoints) nodeMatches) stats) :
    WellFormed t := by
  have hfiltered {u : TopicSummary} (hu : u ∈ filterByNode (summarize endpoints) nodeMatches) :
      WellFormed u := by
    obtain ⟨v, hv, hfilter⟩ := List.mem_filterMap.mp hu
    exact wellFormed_filterTopic (wellFormed_of_mem_summarize hguid hv) nodeMatches hfilter
  unfold applyStats at ht
  split_ifs at ht
  · obtain ⟨u, hu, rfl⟩ := List.mem_map.mp ht
    exact wellFormed_overlayTopic stats (hfiltered hu)
  · exact hfiltered ht

end TransportViz.Web
