import TransportViz.Replay.Bounded
import TransportViz.Web.Reading

/-!
# The documents of a snapshot

What a snapshot with well-formed topics is rendered to is a document that a recording can take: its
pairs are read under both keys, and their transports are those of the strip.
-/

namespace TransportViz.Replay

open Script Web

variable (snap : Snapshot) (opt : RenderOptions) {t : TopicSummary} {key : KeyMode}

theorem text_mem_TRANSPORTS (transport : Transport) : transport.text ∈ TRANSPORTS := by
  cases transport <;> decide

theorem identPair_json (hformed : WellFormed t) {p : Pair} (hp : p ∈ t.pairs)
    {map : InsertionMap String (List String)}
    (hmap : key = .node → ∀ node, map.get? node = ((Diff.byNode t).find? node).map sortGuids) :
    ∃ ident, identPair (topicJson snap t opt) map key (pairJson snap p opt) =
      some ⟨pairJson snap p opt, Diff.pairKey t p, ident⟩ := by
  have hbasic : ∀ e ∈ t.writers ++ t.readers, CodeUnits.Basic e.guid := fun e he ↦ by
    obtain ⟨bytes, hbytes⟩ := hformed.guid e he
    exact hbytes ▸ basic_guidToString bytes
  obtain ⟨hwriter, hreader⟩ := hformed.listed p hp
  cases key with
  | guid => exact ⟨_, by simp [identPair, pairKey_json, identOf]; rfl⟩
  | node =>
    have hwriter' := identity_json (hmap rfl) hbasic hwriter
    have hreader' := identity_json (hmap rfl) hbasic hreader
    exact ⟨_, by simp [identPair, pairKey_json, identOf, Diff.pairKey, hwriter', hreader']; rfl⟩

/-- The callback sees pairs of the topic only. -/
theorem topicIdents_json (hformed : WellFormed t) (key : KeyMode) :
    ∃ idents, topicIdents key (topicJson snap t opt) = some idents ∧
      ∀ e ∈ idents, ∃ p ∈ t.pairs, e.pair = pairJson snap p opt := by
  have hpairs : (topicJson snap t opt).get "pairs" =
      some (.array (t.pairs.map fun p ↦ pairJson snap p opt)) := by
    simp [topicJson, List.lookup_cons]
  obtain ⟨map, hmap, hget⟩ := exists_byNode_json snap t opt key
  have hread : ∀ p ∈ t.pairs, ∃ e,
      (identPair (topicJson snap t opt) map key ∘ fun p ↦ pairJson snap p opt) p = some e :=
    fun p hp ↦ by
      obtain ⟨ident, hident⟩ := identPair_json snap opt hformed hp hget
      exact ⟨_, hident⟩
  have hlist : topicIdents key (topicJson snap t opt) = some (t.pairs.filterMap
      (identPair (topicJson snap t opt) map key ∘ fun p ↦ pairJson snap p opt)) := by
    rw [topicIdents, hmap, hpairs]
    exact (List.mapM_map ..).trans (mapM_eq_filterMap hread)
  refine ⟨_, hlist, fun e he ↦ ?_⟩
  obtain ⟨p, hp, hident⟩ := List.mem_filterMap.mp he
  obtain ⟨ident, hident'⟩ := identPair_json snap opt hformed hp hget
  rw [Function.comp_apply, hident'] at hident
  exact ⟨p, hp, by rw [← Option.some.inj hident]⟩

theorem forEachIdent_renderJson (hformed : ∀ t ∈ snap.topics, WellFormed t) (key : KeyMode) :
    ∃ idents, forEachIdent (renderJson snap opt) key = some idents ∧
      ∀ e ∈ idents, ∃ p : Pair, e.pair = pairJson snap p opt := by
  have htopics : (renderJson snap opt).get "topics" =
      some (.array (snap.topics.map fun t ↦ topicJson snap t opt)) := by
    simp [renderJson, List.lookup_cons]
  have hread : ∀ t ∈ snap.topics, ∃ idents,
      (topicIdents key ∘ fun t ↦ topicJson snap t opt) t = some idents := fun t ht ↦ by
    obtain ⟨idents, hidents, -⟩ := topicIdents_json snap opt (hformed t ht) key
    exact ⟨idents, hidents⟩
  have hlist : forEachIdent (renderJson snap opt) key = some (snap.topics.filterMap
      (topicIdents key ∘ fun t ↦ topicJson snap t opt)).flatten := by
    have htopicIdents := (List.mapM_map ..).trans (mapM_eq_filterMap hread)
    simp only [forEachIdent, htopics, Option.bind_eq_bind, Option.bind_some, Value.spread_array,
      htopicIdents, Option.pure_def]
  refine ⟨_, hlist, fun e he ↦ ?_⟩
  obtain ⟨idents, hidents, hmem⟩ := List.mem_flatten.mp he
  obtain ⟨t, ht, hidents'⟩ := List.mem_filterMap.mp hidents
  obtain ⟨known, hknown, hpairs⟩ := topicIdents_json snap opt (hformed t ht) key
  obtain rfl := Option.some.inj (hidents'.symm.trans hknown)
  obtain ⟨p, -, hp⟩ := hpairs e hmem
  exact ⟨p, hp⟩

/-- The document of a snapshot. -/
def documentOf (hformed : ∀ t ∈ snap.topics, WellFormed t) : Document Set.univ where
  value := renderJson snap opt
  pairs key := (forEachIdent (renderJson snap opt) key).getD []
  forEachIdent_eq key _ := by
    obtain ⟨idents, hidents, -⟩ := forEachIdent_renderJson snap opt hformed key
    rw [hidents, Option.getD_some]
  known key _ e he := by
    obtain ⟨idents, hidents, hpairs⟩ := forEachIdent_renderJson snap opt hformed key
    rw [hidents, Option.getD_some] at he
    obtain ⟨p, hp⟩ := hpairs e he
    exact ⟨_, text_mem_TRANSPORTS p.verdict.transport, by simp [hp, pairJson, List.lookup_cons]⟩
  observedAt := snap.observedAt
  observedAt_eq := by
    simp [observedAt, renderJson, List.lookup_cons, Value.text_orElse_empty]

end TransportViz.Replay
