import TransportViz.Watch.Highlights
import TransportViz.Web.Agreement
import TransportViz.Web.Hold

/-!
# The viewer's highlights simulate those of the watch loop

Under the key of a pair the viewer holds one timed cell for its mark and one for its ghost, like the
watch loop. The viewer drops the mark of a removed pair, where the watch loop lets it age; so the marks
agree for the pairs that are present, and a pair that is absent has none in the viewer.
-/

namespace TransportViz.Web

open Diff (Ident)
open Script TimedCell Watch

/-! ## One frame, key by key -/

def viewMark (held : Hold) (key : Ident) : Option (Char × ℕ) :=
  (held.marks.get? (identText key)).map fun h ↦ (h.item.mark, h.ttl)

def viewGhost (held : Hold) (key : Ident) : Option (Ident × ℕ) :=
  (held.ghosts.get? (ghostId (identText key))).map fun h ↦ (Diff.identOf h.item.key, h.ttl)

/-- The `changes` member of a watch document, which names no document before. -/
def watchChanges (changes : Changes) : ChangesObject :=
  { changesObject {} changes with before := (.undefined, .undefined) }

/-- The keys that the changes name. -/
def named (changes : Changes) : List PairKey :=
  changes.added ++ changes.removed ++ changes.changed.map PairChange.key

/-- No named pair is written as this one without being it. -/
def Apart (changes : Changes) (key : Ident) : Prop :=
  ∀ k ∈ named changes, keyId k = identText key → Diff.identOf k = key

def viewMarkTold (changes : Changes) (key : Ident) : Option (Action Char) :=
  if key ∈ changes.removed.map Diff.identOf then some .clear else markTold changes key

def viewGhostTold (changes : Changes) (key : Ident) : Option (Action Ident) :=
  if key ∈ changes.removed.map Diff.identOf then some (.set key)
  else if (markTold changes key).isSome then some .clear
  else none

theorem ghostId_injective : Function.Injective ghostId := fun a b h ↦ by simpa [ghostId] using h

theorem foldl_mark (hold : ℕ) (entries : List (String × Mark)) (state : Hold) :
    entries.foldl (fun state e ↦ state.mark hold e.1 e.2) state =
      { marks := entries.foldl (fun marks e ↦ marks.set e.1 { item := e.2, ttl := hold }) state.marks
        ghosts := entries.foldl (fun ghosts e ↦ ghosts.erase (ghostId e.1)) state.ghosts } := by
  induction entries generalizing state with
  | nil => rfl
  | cons e rest ih =>
    rw [List.foldl_cons, ih]
    rfl

theorem foldl_ghost (hold : ℕ) (ghosts : List Ghost) (state : Hold) :
    ghosts.foldl (Hold.ghost hold) state =
      { marks := ghosts.foldl (fun marks g ↦ marks.erase (keyId g.key)) state.marks
        ghosts := ghosts.foldl (fun held g ↦ held.set g.id { item := g, ttl := hold })
          state.ghosts } := by
  induction ghosts generalizing state with
  | nil => rfl
  | cons g rest ih =>
    rw [List.foldl_cons, ih]
    rfl

theorem map_get?_agedHold {α β : Type} (map : InsertionMap String (Held α)) (id : String)
    (read : α → β) :
    ((agedHold map).get? id).map (fun h ↦ (read h.item, h.ttl)) =
      age ((map.get? id).map fun h ↦ (read h.item, h.ttl)) := by
  rw [agedHold, InsertionMap.get?_filterMap]
  cases map.get? id with
  | none => rfl
  | some h =>
    simp only [Option.bind_some, Option.map_some, age]
    by_cases hlast : 1 < h.ttl <;> simp [hlast]

section Step

variable {changes : Changes} {key : Ident}

theorem identText_mem_iff (hapart : Apart changes key) {ks : List PairKey}
    (hsub : ks ⊆ named changes) :
    identText key ∈ ks.map keyId ↔ key ∈ ks.map Diff.identOf := by
  simp only [List.mem_map]
  constructor
  · rintro ⟨k, hk, htext⟩
    exact ⟨k, hk, hapart k (hsub hk) htext⟩
  · rintro ⟨k, hk, rfl⟩
    exact ⟨k, hk, rfl⟩

/-- The mark that a frame's changes give a pair. -/
theorem map_get?_marksOf (hapart : Apart changes key) :
    ((marksOf (watchChanges changes)).get? (identText key)).map Mark.mark =
      if key ∈ changes.changed.map (fun c ↦ Diff.identOf c.key) then some '~'
      else if key ∈ changes.added.map Diff.identOf then some '+'
      else none := by
  have hadded : identText key ∈ changes.added.map keyId ↔ key ∈ changes.added.map Diff.identOf :=
    identText_mem_iff hapart (by simp [named])
  have hchanged : identText key ∈ (watchChanges changes).changedPairs.map (fun c ↦ keyId c.key) ↔
      key ∈ changes.changed.map fun c ↦ Diff.identOf c.key := by
    have hmem := @identText_mem_iff changes key hapart (changes.changed.map PairChange.key)
      (by simp [named])
    simp only [List.map_map] at hmem
    rw [← show changes.changed.map (keyId ∘ PairChange.key) =
        (watchChanges changes).changedPairs.map (fun c ↦ keyId c.key) by
      simp [watchChanges, changesObject, changedPair, Function.comp_def]]
    exact hmem
  rw [marksOf, InsertionMap.map_get?_foldl_set _ (fun c : ChangedPair ↦ keyId c.key) changedMark
    Mark.mark '~' _ _ fun _ _ _ ↦ rfl]
  rw [InsertionMap.map_get?_foldl_set _ keyId (fun _ ↦ addedMark) Mark.mark '+' _ _ fun _ _ _ ↦ rfl]
  have hempty : (InsertionMap.empty.get? (identText key)).map Mark.mark = none := rfl
  rw [show (watchChanges changes).addedPairs = changes.added from rfl, hempty]
  simp only [hchanged, hadded]

theorem map_get?_marksOf_eq_told (hapart : Apart changes key) :
    ((marksOf (watchChanges changes)).get? (identText key)).map Mark.mark =
      (markTold changes key).bind fun action ↦
        match action with
        | .set sign => some sign
        | .clear => none := by
  rw [map_get?_marksOf hapart, markTold]
  split_ifs <;> rfl

/-- What `holdChanges` does, in terms of what was left. -/
def held (changes : Changes) (pairs : InsertionMap String (Value × Value)) (hold : ℕ)
    (prev : Hold) : Hold :=
  let ghosts := changes.removed.map fun k ↦
    { key := k, id := ghostId (keyId k), shown := pairs.get? (keyId k) }
  ghosts.foldl (Hold.ghost hold)
    ((marksOf (watchChanges changes)).entries.foldl (fun state e ↦ state.mark hold e.1 e.2)
      { marks := agedHold prev.marks, ghosts := agedHold prev.ghosts })

theorem viewMark_held (hapart : Apart changes key) (pairs : InsertionMap String (Value × Value))
    (hold : ℕ) (prev : Hold) :
    viewMark (held changes pairs hold prev) key =
      tick hold (viewMark prev key) (viewMarkTold changes key) := by
  have hremoved : identText key ∈ changes.removed.map keyId ↔
      key ∈ changes.removed.map Diff.identOf := identText_mem_iff hapart (by simp [named])
  have hread := map_get?_agedHold prev.marks (identText key) Mark.mark
  have hmark := map_get?_marksOf_eq_told hapart
  rw [viewMark, held, foldl_ghost, foldl_mark]
  simp only
  rw [List.foldl_map, InsertionMap.get?_foldl_erase, InsertionMap.get?_foldl_entries
    (marksOf (watchChanges changes)) (fun m : Mark ↦ ({ item := m, ttl := hold } : Held Mark)),
    viewMarkTold]
  by_cases hgone : key ∈ changes.removed.map Diff.identOf
  · rw [if_pos (hremoved.mpr hgone), if_pos hgone]
    rfl
  rw [if_neg (hremoved.not.mpr hgone), if_neg hgone]
  cases htold : markTold changes key with
  | none =>
    rw [htold, Option.bind_none, Option.map_eq_none_iff] at hmark
    rw [hmark]
    exact hread
  | some action =>
    cases action with
    | clear => exact absurd htold (markTold_ne_clear changes key)
    | set sign =>
      rw [htold, Option.bind_some] at hmark
      obtain ⟨m, hm, rfl⟩ := Option.map_eq_some_iff.mp hmark
      rw [hm]
      rfl

theorem viewGhost_held (hapart : Apart changes key) (pairs : InsertionMap String (Value × Value))
    (hold : ℕ) (prev : Hold) :
    viewGhost (held changes pairs hold prev) key =
      tick hold (viewGhost prev key) (viewGhostTold changes key) := by
  have hremoved : ghostId (identText key) ∈ changes.removed.map (fun k ↦ ghostId (keyId k)) ↔
      key ∈ changes.removed.map Diff.identOf := by
    have hmap : changes.removed.map (fun k ↦ ghostId (keyId k)) =
        (changes.removed.map keyId).map ghostId := by
      rw [List.map_map]
      rfl
    rw [hmap, List.mem_map_of_injective ghostId_injective]
    exact identText_mem_iff hapart (by simp [named])
  have hread := map_get?_agedHold prev.ghosts (ghostId (identText key))
    (fun g : Ghost ↦ Diff.identOf g.key)
  have hmark := map_get?_marksOf_eq_told hapart
  rw [viewGhost, held, foldl_ghost, foldl_mark]
  simp only
  rw [List.foldl_map, InsertionMap.map_get?_foldl_set changes.removed
      (fun k ↦ ghostId (keyId k)) _ _ (key, hold), InsertionMap.get?_foldl_erase, viewGhostTold]
  · by_cases hgone : key ∈ changes.removed.map Diff.identOf
    · rw [if_pos (hremoved.mpr hgone), if_pos hgone]
      rfl
    rw [if_neg (hremoved.not.mpr hgone), if_neg hgone]
    have hcleared : ghostId (identText key) ∈
          (marksOf (watchChanges changes)).entries.map (fun e ↦ ghostId e.1) ↔
        (markTold changes key).isSome := by
      have hmap : (marksOf (watchChanges changes)).entries.map (fun e ↦ ghostId e.1) =
          ((marksOf (watchChanges changes)).entries.map Prod.fst).map ghostId := by
        rw [List.map_map]
        rfl
      rw [hmap, List.mem_map_of_injective ghostId_injective, InsertionMap.mem_keys_iff,
        ← Option.isSome_map, hmark]
      cases htold : markTold changes key with
      | none => rfl
      | some action =>
        cases action with
        | clear => exact absurd htold (markTold_ne_clear changes key)
        | set sign => rfl
    by_cases htold : (markTold changes key).isSome = true
    · rw [if_pos (hcleared.mpr htold), if_pos htold]
      rfl
    · rw [if_neg (hcleared.not.mpr htold), if_neg htold]
      exact hread
  · intro k hk htext
    rw [hapart k (by simp [named, hk]) (ghostId_injective htext)]

end Step

/-! ## The cells of both programs -/

section Cells

variable (frames : ℕ → Frame) (key : Ident)

def viewMarkCell (n : ℕ) : Option (Char × ℕ) :=
  run 3 (fun n ↦ viewMarkTold (changesAt frames n) key) n

def viewGhostCell (n : ℕ) : Option (Ident × ℕ) :=
  run 3 (fun n ↦ viewGhostTold (changesAt frames n) key) n

variable {frames key}

theorem markTold_eq_none {n : ℕ} (happeared : ¬AppearedAt frames key n)
    (hchanged : ¬ChangedAt frames key n) : markTold (changesAt frames n) key = none := by
  unfold markTold
  rw [if_neg (show key ∉ _ from hchanged), if_neg (show key ∉ _ from happeared)]

/-- A present pair has one mark for both, an absent one has none in the viewer. -/
theorem viewMarkCell_eq (n : ℕ) :
    (key ∈ Diff.idents (frames n).snap → viewMarkCell frames key n = markCell frames key n) ∧
      (key ∉ Diff.idents (frames n).snap → viewMarkCell frames key n = none) := by
  induction n with
  | zero => exact ⟨fun _ ↦ rfl, fun _ ↦ rfl⟩
  | succ n ih =>
    have hview : viewMarkCell frames key (n + 1) = tick 3 (viewMarkCell frames key n)
        (viewMarkTold (changesAt frames (n + 1)) key) := rfl
    have hown : markCell frames key (n + 1) = tick 3 (markCell frames key n)
        (markTold (changesAt frames (n + 1)) key) := rfl
    rw [hview, hown, viewMarkTold]
    constructor
    · intro hmem
      have hstays : ¬RemovedAt frames key (n + 1) := fun h ↦ (removedAt_succ_iff.mp h).2 hmem
      rw [if_neg (show key ∉ _ from hstays)]
      by_cases hbefore : key ∈ Diff.idents (frames n).snap
      · rw [ih.1 hbefore]
      · have happeared : AppearedAt frames key (n + 1) := appearedAt_succ_iff.mpr ⟨hmem, hbefore⟩
        have htold : markToldAt frames key (n + 1) = some (.set '+') :=
          (markToldAt_eq_some_iff '+').mpr (.inl ⟨rfl, happeared⟩)
        rw [show markTold (changesAt frames (n + 1)) key = some (.set '+') from htold]
        rfl
    · intro hmem
      by_cases hbefore : key ∈ Diff.idents (frames n).snap
      · have hremoved : RemovedAt frames key (n + 1) := removedAt_succ_iff.mpr ⟨hbefore, hmem⟩
        rw [if_pos (show key ∈ _ from hremoved)]
        rfl
      · have hstays : ¬RemovedAt frames key (n + 1) := fun h ↦
          hbefore (removedAt_succ_iff.mp h).1
        rw [if_neg (show key ∉ _ from hstays), ih.2 hbefore,
          markTold_eq_none (fun h ↦ hmem (appearedAt_succ_iff.mp h).1)
            fun h ↦ hmem (mem_idents_of_changedAt_succ h).2]
        rfl

theorem ghostCell_eq_none {n : ℕ} (h : key ∈ Diff.idents (frames n).snap) :
    ghostCell frames key n = none := by
  cases hcell : ghostCell frames key n with
  | none => rfl
  | some held =>
    exact absurd (isSome_ghostCell_iff.mp (Option.isSome_of_eq_some hcell)) (not_ghostOwed_of_mem h)

/-- A pair has a ghost in both or in neither, with the same frames left. -/
theorem map_viewGhostCell (n : ℕ) :
    (viewGhostCell frames key n).map Prod.snd = (ghostCell frames key n).map Prod.snd := by
  induction n with
  | zero => rfl
  | succ n ih =>
    have hview : viewGhostCell frames key (n + 1) = tick 3 (viewGhostCell frames key n)
        (viewGhostTold (changesAt frames (n + 1)) key) := rfl
    have hown : ghostCell frames key (n + 1) = tick 3 (ghostCell frames key n)
        (ghostToldAt frames key (n + 1)) := rfl
    by_cases hmem : key ∈ Diff.idents (frames (n + 1)).snap
    · have hstays : ¬RemovedAt frames key (n + 1) := fun h ↦ (removedAt_succ_iff.mp h).2 hmem
      rw [ghostCell_eq_none hmem, hview, viewGhostTold, if_neg (show key ∉ _ from hstays)]
      by_cases htold : (markTold (changesAt frames (n + 1)) key).isSome = true
      · rw [if_pos htold]
        rfl
      · have hbefore : key ∈ Diff.idents (frames n).snap := by
          by_contra habsent
          have happeared : AppearedAt frames key (n + 1) :=
            appearedAt_succ_iff.mpr ⟨hmem, habsent⟩
          have hsome : markToldAt frames key (n + 1) = some (.set '+') :=
            (markToldAt_eq_some_iff '+').mpr (.inl ⟨rfl, happeared⟩)
          exact htold (Option.isSome_of_eq_some hsome)
        rw [ghostCell_eq_none hbefore, Option.map_none, Option.map_eq_none_iff] at ih
        rw [if_neg htold, ih]
        rfl
    · by_cases hbefore : key ∈ Diff.idents (frames n).snap
      · have hremoved : RemovedAt frames key (n + 1) := removedAt_succ_iff.mpr ⟨hbefore, hmem⟩
        rw [hview, hown, viewGhostTold, if_pos (show key ∈ _ from hremoved),
          ghostToldAt_of_removedAt hremoved]
        rfl
      · have hstays : ¬RemovedAt frames key (n + 1) := fun h ↦
          hbefore (removedAt_succ_iff.mp h).1
        have happeared : ¬AppearedAt frames key (n + 1) := fun h ↦
          hmem (appearedAt_succ_iff.mp h).1
        have hchanged : ¬ChangedAt frames key (n + 1) := fun h ↦
          hmem (mem_idents_of_changedAt_succ h).2
        rw [hview, hown, viewGhostTold, if_neg (show key ∉ _ from hstays),
          markTold_eq_none happeared hchanged, ghostToldAt_eq_none_iff.mpr ⟨happeared, hstays⟩]
        simp only [Option.isSome_none, Bool.false_eq_true, if_false, tick]
        rw [map_snd_age, map_snd_age, ih]

end Cells

/-! ## Identities of GUIDs -/

section Written

/-- An identity with GUID texts for both ends. -/
def Written (key : Ident) : Prop :=
  ∃ (topic : String) (writer reader : GuidBytes), key = Diff.identOf {
    topic := topic
    writerGuid := guidToString writer
    readerGuid := guidToString reader }

/-- A GUID text is read back from the end of a text, since it has one bar. -/
theorem append_guid_inj {a b : List Char} {guid guid' : GuidBytes}
    (h : a ++ '|' :: (guidToString guid).toList = b ++ '|' :: (guidToString guid').toList) :
    a = b ∧ guid = guid' := by
  have hsplit : (a ++ '|' :: dottedBytes (guid.toList.take 12)) ++
        '|' :: dottedBytes (guid.toList.drop 12) =
      (b ++ '|' :: dottedBytes (guid'.toList.take 12)) ++
        '|' :: dottedBytes (guid'.toList.drop 12) := by
    simpa [guidToString, String.toList_ofList] using h
  obtain ⟨hparticipant, -⟩ := Delimited.eq_of_append_cons_right (bar_notMem_dottedBytes _)
    (bar_notMem_dottedBytes _) hsplit
  obtain ⟨hab, -⟩ := Delimited.eq_of_append_cons_right (bar_notMem_dottedBytes _)
    (bar_notMem_dottedBytes _) hparticipant
  subst hab
  rw [List.append_right_inj, List.cons.injEq] at h
  exact ⟨rfl, guidToString_injective (String.toList_injective h.2)⟩

theorem Written.eq_of_identText_eq {a b : Ident} (ha : Written a) (hb : Written b)
    (h : identText a = identText b) : a = b := by
  obtain ⟨topic, writer, reader, rfl⟩ := ha
  obtain ⟨topic', writer', reader', rfl⟩ := hb
  rw [← keyId_eq, ← keyId_eq] at h
  have hchars : (topic.toList ++ '|' :: (guidToString writer).toList) ++
        '|' :: (guidToString reader).toList =
      (topic'.toList ++ '|' :: (guidToString writer').toList) ++
        '|' :: (guidToString reader').toList := by
    simpa [keyId] using congrArg String.toList h
  obtain ⟨hfront, rfl⟩ := append_guid_inj hchars
  obtain ⟨htopic, rfl⟩ := append_guid_inj hfront
  rw [String.toList_injective htopic]

end Written

/-! ## The viewer's run -/

/-- The hold state after frame `n`, each frame with the document before it. -/
def heldAt (frames : ℕ → Frame) : ℕ → Option Hold
  | 0 => holdChanges none (some (watchChanges (changesAt frames 0))) none 3
  | n + 1 => (heldAt frames n).bind fun prev ↦
      holdChanges (some prev) (some (watchChanges (changesAt frames (n + 1))))
        (some (renderJson (frames n).snap (frames n).opt)) 3

/-- Whether every pair of the frames has the GUIDs that its endpoints' bytes are written as. -/
def GuidsWritten (frames : ℕ → Frame) : Prop :=
  ∀ n, ∀ t ∈ (frames n).snap.topics, ∀ p ∈ t.pairs,
    Diff.GuidWritten p.writer.toEndpoint ∧ Diff.GuidWritten p.reader.toEndpoint

theorem exists_pairsById (snap : Snapshot) (opt : RenderOptions) :
    ∃ pairs, pairsById (renderJson snap opt) = some pairs := by
  have htopics : (renderJson snap opt).get "topics" =
      some (.array (snap.topics.map fun t ↦ topicJson snap t opt)) := by
    simp [renderJson, List.lookup_cons]
  have hread : ∀ t ∈ snap.topics,
      (do (← (← (topicJson snap t opt).get "pairs").spread).mapM fun pair ↦ do
        return (keyId (← pairKey (topicJson snap t opt) pair), topicJson snap t opt, pair)) =
      some (t.pairs.map fun p ↦
        (keyId (Diff.pairKey t p), topicJson snap t opt, pairJson snap p opt)) := by
    intro t _
    have hpairs : (topicJson snap t opt).get "pairs" =
        some (.array (t.pairs.map fun p ↦ pairJson snap p opt)) := by
      simp [topicJson, List.lookup_cons]
    simp only [hpairs, Option.bind_eq_bind, Option.bind_some, Value.spread_array, List.mapM_map]
    exact mapM_eq_some_map fun p _ ↦ by simp [pairKey_json]
  have hall := mapM_eq_some_map hread
  refine ⟨InsertionMap.ofList (snap.topics.map fun t ↦ t.pairs.map fun p ↦
    (keyId (Diff.pairKey t p), topicJson snap t opt, pairJson snap p opt)).flatten, ?_⟩
  simp only [pairsById, htopics, Option.bind_eq_bind, Option.bind_some, Value.spread_array,
    List.mapM_map]
  simp only [Option.bind_eq_bind] at hall
  rw [Function.comp_def, hall]
  rfl

theorem holdChanges_eq (prev : Option Hold) (changes : Changes) (before : Option Value) :
    holdChanges prev (some (watchChanges changes)) before 3 =
      (beforePairs before).map fun pairs ↦ held changes pairs 3 (prev.getD {}) := by
  cases prev <;> cases hpairs : beforePairs before <;>
    simp [holdChanges, decorations, hpairs, held] <;> rfl

section Run

variable {frames : ℕ → Frame}

theorem written_of_mem_idents (hguids : GuidsWritten frames) {n : ℕ} {key : Ident}
    (h : key ∈ Diff.idents (frames n).snap) : Written key := by
  simp only [Diff.idents, Diff.realPairs, List.mem_map, List.mem_flatMap] at h
  obtain ⟨e, ⟨t, ht, p, hp, rfl⟩, rfl⟩ := h
  obtain ⟨hwriter, hreader⟩ := hguids n t ht p hp
  unfold Diff.GuidWritten at hwriter hreader
  exact ⟨t.displayTopic, p.writer.guidBytes, p.reader.guidBytes, by
    rw [← hwriter, ← hreader]
    rfl⟩

/-- What a frame's changes name is a pair of a frame. -/
theorem written_of_mem_named (hguids : GuidsWritten frames) {n : ℕ} {k : PairKey}
    (h : k ∈ named (changesAt frames n)) : Written (Diff.identOf k) := by
  have hcases : AppearedAt frames (Diff.identOf k) n ∨ RemovedAt frames (Diff.identOf k) n ∨
      ChangedAt frames (Diff.identOf k) n := by
    rw [named, List.mem_append, List.mem_append] at h
    rcases h with (hadded | hremoved) | hchanged
    · exact .inl (List.mem_map_of_mem hadded)
    · exact .inr (.inl (List.mem_map_of_mem hremoved))
    · obtain ⟨c, hc, rfl⟩ := List.mem_map.mp hchanged
      exact .inr (.inr (List.mem_map.mpr ⟨c, hc, rfl⟩))
  cases n with
  | zero =>
    rcases hcases with h | h | h
    · exact absurd h not_appearedAt_zero
    · exact absurd h not_removedAt_zero
    · exact absurd h not_changedAt_zero
  | succ n =>
    rcases hcases with h | h | h
    · exact written_of_mem_idents hguids (appearedAt_succ_iff.mp h).1
    · exact written_of_mem_idents hguids (removedAt_succ_iff.mp h).1
    · exact written_of_mem_idents hguids (mem_idents_of_changedAt_succ h).2

theorem apart_changesAt (hguids : GuidsWritten frames) (n : ℕ) {key : Ident} (hkey : Written key) :
    Apart (changesAt frames n) key := fun _ hk htext ↦
  (written_of_mem_named hguids hk).eq_of_identText_eq hkey htext

/-- The viewer holds the cells of every pair, and each ghost under its own key. -/
structure Simulates (frames : ℕ → Frame) (n : ℕ) (state : Hold) : Prop where
  mark : ∀ key, Written key → viewMark state key = viewMarkCell frames key n
  ghost : ∀ key, Written key → viewGhost state key = viewGhostCell frames key n
  ghostKey : ∀ id g, state.ghosts.get? id = some g →
    id = ghostId (keyId g.item.key) ∧ Written (Diff.identOf g.item.key)

theorem ghostKey_held (hguids : GuidsWritten frames) {n : ℕ}
    (pairs : InsertionMap String (Value × Value)) {prev : Hold}
    (hprev : ∀ id g, prev.ghosts.get? id = some g →
      id = ghostId (keyId g.item.key) ∧ Written (Diff.identOf g.item.key))
    (id : String) (g : Held Ghost)
    (hfound : (held (changesAt frames n) pairs 3 prev).ghosts.get? id = some g) :
    id = ghostId (keyId g.item.key) ∧ Written (Diff.identOf g.item.key) := by
  rw [held, foldl_ghost, foldl_mark] at hfound
  rcases InsertionMap.get?_foldl_set_cases _ _ _ _ hfound with ⟨ghost, hghost, rfl, rfl⟩ | hleft
  · obtain ⟨k, hk, rfl⟩ := List.mem_map.mp hghost
    exact ⟨rfl, written_of_mem_named (n := n) hguids (by simp [named, hk])⟩
  · simp only at hleft
    rw [InsertionMap.get?_foldl_erase] at hleft
    split_ifs at hleft
    have haged := map_get?_agedHold prev.ghosts id (fun g : Ghost ↦ g)
    rw [hleft] at haged
    cases hold : prev.ghosts.get? id with
    | none => simp [hold, age] at haged
    | some old =>
      rw [hold, Option.map_some, Option.map_some, age, Option.bind_some] at haged
      split_ifs at haged
      have hitem : g.item = old.item := by simpa using congrArg (Option.map Prod.fst) haged
      rw [hitem]
      exact hprev id old hold

theorem simulates_zero (hguids : GuidsWritten frames) :
    Simulates frames 0 (held (changesAt frames 0) .empty 3 {}) where
  mark key hkey := by
    rw [viewMark_held (apart_changesAt hguids 0 hkey)]
    rfl
  ghost key hkey := by
    rw [viewGhost_held (apart_changesAt hguids 0 hkey)]
    rfl
  ghostKey := ghostKey_held hguids _ fun _ _ h ↦ by cases h

theorem Simulates.succ (hguids : GuidsWritten frames) {n : ℕ} {prev : Hold}
    (hprev : Simulates frames n prev) (pairs : InsertionMap String (Value × Value)) :
    Simulates frames (n + 1) (held (changesAt frames (n + 1)) pairs 3 prev) where
  mark key hkey := by
    rw [viewMark_held (apart_changesAt hguids (n + 1) hkey), hprev.mark key hkey]
    rfl
  ghost key hkey := by
    rw [viewGhost_held (apart_changesAt hguids (n + 1) hkey), hprev.ghost key hkey]
    rfl
  ghostKey := ghostKey_held hguids pairs hprev.ghostKey

/-- No step throws, and after each the viewer holds the cells. -/
theorem exists_heldAt (hguids : GuidsWritten frames) (n : ℕ) :
    ∃ state, heldAt frames n = some state ∧ Simulates frames n state := by
  induction n with
  | zero =>
    refine ⟨_, ?_, simulates_zero hguids⟩
    rw [heldAt, holdChanges_eq]
    rfl
  | succ n ih =>
    obtain ⟨prev, hprev, hsimulates⟩ := ih
    obtain ⟨pairs, hpairs⟩ := exists_pairsById (frames n).snap (frames n).opt
    refine ⟨_, ?_, hsimulates.succ hguids pairs⟩
    rw [heldAt, hprev, Option.bind_some, holdChanges_eq, beforePairs, hpairs]
    rfl

end Run

/-! ## Agreement -/

section Agreement

variable {frames : ℕ → Frame} {n : ℕ} {state : Hold}

theorem Simulates.map_mark (hsimulates : Simulates frames n state) {key : Ident}
    (hkey : Written key) (hmem : key ∈ Diff.idents (frames n).snap) :
    (state.marks.get? (identText key)).map (fun h ↦ h.item.mark) =
      (renderedAt frames n).deco.marks.find? key := by
  have hmark := hsimulates.mark key hkey
  rw [(viewMarkCell_eq n).1 hmem] at hmark
  rw [(holdsMark_renderedAt frames key n).mark, ← hmark, viewMark, Option.map_map]
  rfl

theorem Simulates.exists_ghost_iff (hsimulates : Simulates frames n state) {key : Ident}
    (hkey : Written key) :
    (∃ g ∈ state.ghosts.entries.map Prod.snd, Diff.identOf g.item.key = key) ↔
      ∃ g ∈ (renderedAt frames n).deco.ghosts, Diff.identOf g.key = key := by
  have hown : (∃ g ∈ (renderedAt frames n).deco.ghosts, Diff.identOf g.key = key) ↔
      (viewGhost state key).isSome := by
    have hcells := @map_viewGhostCell frames key n
    have hkeys := mem_map_key_iff (renderedAt frames n).deco.ghosts key
    rw [List.mem_map] at hkeys
    rw [hkeys, ghostsAt_ne_nil_iff, hsimulates.ghost key hkey, ← Option.isSome_map, ← hcells,
      Option.isSome_map]
  rw [hown, viewGhost, Option.isSome_map]
  constructor
  · rintro ⟨g, hg, rfl⟩
    obtain ⟨⟨id, g⟩, hentry, rfl⟩ := List.mem_map.mp hg
    have hfound := (InsertionMap.mem_entries_iff _ _ _).mp hentry
    rw [← keyId_eq, ← (hsimulates.ghostKey id g hfound).1, hfound]
    rfl
  · intro hsome
    obtain ⟨g, hfound⟩ := Option.isSome_iff_exists.mp hsome
    obtain ⟨hid, hwritten⟩ := hsimulates.ghostKey _ g hfound
    refine ⟨g, List.mem_map.mpr ⟨_, (InsertionMap.mem_entries_iff _ _ _).mpr hfound, rfl⟩, ?_⟩
    exact (hkey.eq_of_identText_eq hwritten (ghostId_injective hid)).symm

theorem written_of_ghost (hguids : GuidsWritten frames) {key : Ident}
    (h : ∃ g ∈ (renderedAt frames n).deco.ghosts, Diff.identOf g.key = key) : Written key := by
  have hmem := (mem_map_key_iff (renderedAt frames n).deco.ghosts key).mp (List.mem_map.mpr h)
  obtain ⟨ghosts, hcell⟩ := Option.isSome_iff_exists.mp (ghostsAt_ne_nil_iff.mp hmem)
  obtain ⟨m, hremoved, -⟩ := exists_removedAt_of_ghostCell hcell
  cases m with
  | zero => exact absurd hremoved not_removedAt_zero
  | succ m => exact written_of_mem_idents hguids (removedAt_succ_iff.mp hremoved).1

/-- After every frame the viewer shows the marks of the watch loop on the pairs of the frame, and
ghosts of the same pairs. -/
theorem heldDecorations_agree (frames : ℕ → Frame) (hguids : GuidsWritten frames) (n : ℕ) :
    ∃ state, heldAt frames n = some state ∧
      (∀ t ∈ (frames n).snap.topics, ∀ p ∈ t.pairs,
        ((heldDecorations (some state)).1.get? (keyId (Diff.pairKey t p))).map
            (fun h ↦ h.item.mark) =
          (renderedAt frames n).deco.marks.find? (Diff.identOf (Diff.pairKey t p))) ∧
      ∀ key, (∃ g ∈ (heldDecorations (some state)).2, Diff.identOf g.item.key = key) ↔
        ∃ g ∈ (renderedAt frames n).deco.ghosts, Diff.identOf g.key = key := by
  obtain ⟨state, hstate, hsimulates⟩ := exists_heldAt hguids n
  refine ⟨state, hstate, fun t ht p hp ↦ ?_, fun key ↦ ?_⟩
  · have hmem : Diff.identOf (Diff.pairKey t p) ∈ Diff.idents (frames n).snap := by
      simp only [Diff.idents, Diff.realPairs, List.mem_map, List.mem_flatMap]
      exact ⟨_, ⟨t, ht, p, hp, rfl⟩, rfl⟩
    have hmark := hsimulates.map_mark (written_of_mem_idents hguids hmem) hmem
    rw [← keyId_eq] at hmark
    exact hmark
  · constructor
    · rintro ⟨g, hg, rfl⟩
      obtain ⟨⟨id, g⟩, hentry, rfl⟩ := List.mem_map.mp hg
      have hfound := (InsertionMap.mem_entries_iff _ _ _).mp hentry
      exact (hsimulates.exists_ghost_iff (hsimulates.ghostKey id g hfound).2).mp
        ⟨_, hg, rfl⟩
    · intro h
      exact (hsimulates.exists_ghost_iff (written_of_ghost hguids h)).mpr h

end Agreement

/-! ## A pair that comes and goes -/

def flickeringEndpoint (bytes : GuidBytes) (node : String) (address : ℕ) : EndpointPtr where
  guid := guidToString bytes
  guidBytes := bytes
  nodeName := node
  address := address

/-- The pair is in every other frame. -/
def flickering (n : ℕ) : Frame where
  snap := if n % 2 = 1 then {
      topics := [{
        displayTopic := "/chatter"
        pairs := [{
          writer := flickeringEndpoint (.replicate 16 1) "/talker" 0
          reader := flickeringEndpoint (.replicate 16 2) "/listener" 1 }] }] }
    else {}
  opt := {}

theorem guidsWritten_flickering : GuidsWritten flickering := by
  intro n t ht p hp
  unfold flickering at ht
  simp only at ht
  split_ifs at ht
  · obtain rfl := List.mem_singleton.mp ht
    obtain rfl := List.mem_singleton.mp hp
    exact ⟨rfl, rfl⟩
  · exact absurd ht List.not_mem_nil

theorem heldDecorations_flickering :
    GuidsWritten flickering ∧ ∃ state, heldAt flickering 4 = some state ∧
      (∀ t ∈ (flickering 4).snap.topics, ∀ p ∈ t.pairs,
        ((heldDecorations (some state)).1.get? (keyId (Diff.pairKey t p))).map
            (fun h ↦ h.item.mark) =
          (renderedAt flickering 4).deco.marks.find? (Diff.identOf (Diff.pairKey t p))) ∧
      ∀ key, (∃ g ∈ (heldDecorations (some state)).2, Diff.identOf g.item.key = key) ↔
        ∃ g ∈ (renderedAt flickering 4).deco.ghosts, Diff.identOf g.key = key :=
  ⟨guidsWritten_flickering, heldDecorations_agree flickering guidsWritten_flickering 4⟩

end TransportViz.Web
