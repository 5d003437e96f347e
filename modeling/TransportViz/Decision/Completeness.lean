import Mathlib.Algebra.BigOperators.Group.List.Basic
import Mathlib.Algebra.Order.BigOperators.Group.List
import TransportViz.Model.NodeNameTable

/-!
# How complete a discovery is

What the live participants announce is compared with what discovery delivered. The comparison goes
over the rows of the live participants only, so that all it says is a sum over these rows.
-/

namespace TransportViz.Decision

/-! ## Model -/

/-- The status of a discovery with the counts of its message. -/
structure ComparedDiscovery extends DiscoveryStatus where
  participantsIncomplete : ℕ := 0
  announcedByIncomplete : ℕ := 0
  deriving DecidableEq

/-- The gids that a participant announces and discovery did not deliver. -/
def missingGids (seen : Finset EndpointGid) (gids : List EndpointGid) : ℕ :=
  gids.countP fun gid ↦ gid ∉ seen

/-- A participant whose endpoints are compared. -/
def compareParticipant (seen : Finset EndpointGid) (state : ComparedDiscovery × ℕ)
    (gids : List EndpointGid) : ComparedDiscovery × ℕ :=
  let (out, compared) := state
  let missing := missingGids seen gids
  if 0 < missing then
    ({ out with
        announcedNotDiscovered := out.announcedNotDiscovered + missing
        announcedByIncomplete := out.announcedByIncomplete + gids.length
        participantsIncomplete := out.participantsIncomplete + 1 }, compared + 1)
  else (out, compared + 1)

/-- The gids that are discovered. -/
def seenGids (discovered : List Endpoint) : Finset EndpointGid :=
  (discovered.map Endpoint.guidBytes).toFinset

def discoveryCompleteness (announced : OrderedMap ParticipantPrefix (List EndpointGid))
    (liveParticipants : Finset ParticipantPrefix) (discovered : List Endpoint) : ComparedDiscovery :=
  let (out, compared) := announced.entries.foldl (fun state row ↦
    -- the row of a participant that has left stays in the table
    if row.1 ∉ liveParticipants then state else compareParticipant (seenGids discovered) state row.2)
    ({ endpoints := discovered.length }, 0)
  if compared = 0 then out
  else { out with complete := some (out.announcedNotDiscovered = 0) }

/-! ## Specification -/

section Specification

variable (announced : OrderedMap ParticipantPrefix (List EndpointGid)) (live : Finset ParticipantPrefix)
  (discovered : List Endpoint)

/-- What the live participants announce. -/
def liveRows : List (List EndpointGid) :=
  (announced.entries.filter fun row ↦ row.1 ∈ live).map Prod.snd

def Discovered (gid : EndpointGid) : Prop := ∃ endpoint ∈ discovered, endpoint.guidBytes = gid

instance decidableDiscovered (gid : EndpointGid) : Decidable (Discovered discovered gid) :=
  inferInstanceAs (Decidable (∃ endpoint ∈ discovered, endpoint.guidBytes = gid))

/-- The status judges the live announcements and nothing else. -/
structure JudgesLive : Prop where
  complete_eq_none_iff : (discoveryCompleteness announced live discovered).complete = none ↔
    ∀ participant ∈ announced.keys, participant ∉ live
  complete_eq_true_iff : (∃ participant ∈ announced.keys, participant ∈ live) →
    ((discoveryCompleteness announced live discovered).complete = some true ↔
      ∀ participant ∈ live, ∀ gids, announced.find? participant = some gids →
        ∀ gid ∈ gids, Discovered discovered gid)
  missing_eq : (discoveryCompleteness announced live discovered).announcedNotDiscovered =
    ((liveRows announced live).map fun gids ↦ gids.countP fun gid ↦ ¬Discovered discovered gid).sum
  missing_le : (discoveryCompleteness announced live discovered).announcedNotDiscovered ≤
    (discoveryCompleteness announced live discovered).announcedByIncomplete
  /-- Tables that agree on the live participants are judged alike. -/
  only_live : ∀ other : OrderedMap ParticipantPrefix (List EndpointGid),
    (∀ participant ∈ live, other.find? participant = announced.find? participant) →
      discoveryCompleteness other live discovered = discoveryCompleteness announced live discovered
  missing_antitone : ∀ more, (∀ gid, Discovered discovered gid → Discovered more gid) →
    (discoveryCompleteness announced live more).announcedNotDiscovered ≤
      (discoveryCompleteness announced live discovered).announcedNotDiscovered
  complete_mono : ∀ more, (∀ gid, Discovered discovered gid → Discovered more gid) →
    (discoveryCompleteness announced live discovered).complete = some true →
      (discoveryCompleteness announced live more).complete = some true

end Specification

/-! ## The rows of the live participants -/

section Rows

variable (seen : Finset EndpointGid) (state : ComparedDiscovery × ℕ) (rows : List (List EndpointGid))

theorem compareParticipant_compared (gids : List EndpointGid) :
    (compareParticipant seen state gids).2 = state.2 + 1 := by
  simp only [compareParticipant]
  split_ifs <;> rfl

theorem compareParticipant_complete (gids : List EndpointGid) :
    (compareParticipant seen state gids).1.complete = state.1.complete := by
  simp only [compareParticipant]
  split_ifs <;> rfl

theorem compareParticipant_missing (gids : List EndpointGid) :
    (compareParticipant seen state gids).1.announcedNotDiscovered =
      state.1.announcedNotDiscovered + missingGids seen gids := by
  simp only [compareParticipant]
  split_ifs with h
  · rfl
  · exact (congrArg (state.1.announcedNotDiscovered + ·) (Nat.eq_zero_of_not_pos h)).symm

theorem missingGids_le (gids : List EndpointGid) : missingGids seen gids ≤ gids.length :=
  List.countP_le_length

/-- Every participant that misses something adds all it announced. -/
theorem compareParticipant_missing_le (gids : List EndpointGid)
    (h : state.1.announcedNotDiscovered ≤ state.1.announcedByIncomplete) :
    (compareParticipant seen state gids).1.announcedNotDiscovered ≤
      (compareParticipant seen state gids).1.announcedByIncomplete := by
  simp only [compareParticipant]
  split_ifs
  · exact Nat.add_le_add h (missingGids_le seen gids)
  · exact h

theorem foldl_compared : (rows.foldl (compareParticipant seen) state).2 = state.2 + rows.length := by
  induction rows generalizing state with
  | nil => rfl
  | cons gids rest ih =>
    rw [List.foldl_cons, ih, compareParticipant_compared, List.length_cons]
    omega

theorem foldl_complete :
    (rows.foldl (compareParticipant seen) state).1.complete = state.1.complete := by
  induction rows generalizing state with
  | nil => rfl
  | cons gids rest ih => rw [List.foldl_cons, ih, compareParticipant_complete]

theorem foldl_missing : (rows.foldl (compareParticipant seen) state).1.announcedNotDiscovered =
    state.1.announcedNotDiscovered + (rows.map (missingGids seen)).sum := by
  induction rows generalizing state with
  | nil => rfl
  | cons gids rest ih =>
    rw [List.foldl_cons, ih, compareParticipant_missing, List.map_cons, List.sum_cons, add_assoc]

theorem foldl_missing_le (h : state.1.announcedNotDiscovered ≤ state.1.announcedByIncomplete) :
    (rows.foldl (compareParticipant seen) state).1.announcedNotDiscovered ≤
      (rows.foldl (compareParticipant seen) state).1.announcedByIncomplete := by
  induction rows generalizing state with
  | nil => exact h
  | cons gids rest ih => exact ih _ (compareParticipant_missing_le seen state gids h)

end Rows

/-! ## The status -/

section Status

variable (announced : OrderedMap ParticipantPrefix (List EndpointGid)) (live : Finset ParticipantPrefix)
  (discovered : List Endpoint)

theorem mem_seenGids {gid : EndpointGid} : gid ∈ seenGids discovered ↔ Discovered discovered gid := by
  rw [seenGids, List.mem_toFinset, List.mem_map, Discovered]

/-- The comparison of the live participants, in the order of the table. -/
def comparedRows : ComparedDiscovery × ℕ :=
  (liveRows announced live).foldl (compareParticipant (seenGids discovered))
    ({ endpoints := discovered.length }, 0)

theorem discoveryCompleteness_eq : discoveryCompleteness announced live discovered =
    if liveRows announced live = [] then (comparedRows announced live discovered).1
    else { (comparedRows announced live discovered).1 with
      complete := some ((comparedRows announced live discovered).1.announcedNotDiscovered = 0) } := by
  have hfold : announced.entries.foldl (fun state row ↦ if row.1 ∉ live then state
      else compareParticipant (seenGids discovered) state row.2)
      ({ endpoints := discovered.length }, 0) = comparedRows announced live discovered := by
    rw [comparedRows, liveRows, List.foldl_map, List.foldl_filter]
    congr 1
    funext state row
    by_cases h : row.1 ∈ live <;> simp [h]
  have hcompared := foldl_compared (seenGids discovered) ({ endpoints := discovered.length }, 0)
    (liveRows announced live)
  rw [Nat.zero_add] at hcompared
  have hnil : (comparedRows announced live discovered).2 = 0 ↔ liveRows announced live = [] := by
    rw [comparedRows, hcompared, List.length_eq_zero_iff]
  rw [discoveryCompleteness, hfold]
  simp only [hnil]

theorem complete_eq : (discoveryCompleteness announced live discovered).complete =
    if liveRows announced live = [] then none
    else some (decide ((discoveryCompleteness announced live discovered).announcedNotDiscovered = 0)) := by
  rw [discoveryCompleteness_eq]
  split_ifs
  · rw [comparedRows, foldl_complete]
  · rfl

theorem missing_eq : (discoveryCompleteness announced live discovered).announcedNotDiscovered =
    ((liveRows announced live).map (missingGids (seenGids discovered))).sum := by
  have hmissing := foldl_missing (seenGids discovered) ({ endpoints := discovered.length }, 0)
    (liveRows announced live)
  rw [Nat.zero_add] at hmissing
  rw [discoveryCompleteness_eq, ← hmissing]
  split_ifs <;> rfl

theorem missing_le : (discoveryCompleteness announced live discovered).announcedNotDiscovered ≤
    (discoveryCompleteness announced live discovered).announcedByIncomplete := by
  have hle := foldl_missing_le (seenGids discovered) ({ endpoints := discovered.length }, 0)
    (liveRows announced live) le_rfl
  rw [discoveryCompleteness_eq]
  split_ifs <;> exact hle

variable {announced live}

theorem mem_liveRows {gids : List EndpointGid} : gids ∈ liveRows announced live ↔
    ∃ participant ∈ live, announced.find? participant = some gids := by
  simp only [liveRows, List.mem_map, List.mem_filter, decide_eq_true_eq, Prod.exists,
    OrderedMap.mem_entries_iff]
  constructor
  · rintro ⟨participant, _, ⟨hfind, hlive⟩, rfl⟩
    exact ⟨participant, hlive, hfind⟩
  · rintro ⟨participant, hlive, hfind⟩
    exact ⟨participant, gids, ⟨hfind, hlive⟩, rfl⟩

theorem liveRows_eq_nil_iff :
    liveRows announced live = [] ↔ ∀ participant ∈ announced.keys, participant ∉ live := by
  rw [liveRows, List.map_eq_nil_iff, List.filter_eq_nil_iff, OrderedMap.keys, List.forall_mem_map]
  simp only [decide_eq_true_eq]

/-- Nothing is missing iff every gid of every live row is discovered. -/
theorem missing_eq_zero_iff :
    (discoveryCompleteness announced live discovered).announcedNotDiscovered = 0 ↔
    ∀ participant ∈ live, ∀ gids, announced.find? participant = some gids →
      ∀ gid ∈ gids, Discovered discovered gid := by
  rw [missing_eq, List.sum_eq_zero_iff, List.forall_mem_map]
  simp only [mem_liveRows, missingGids, List.countP_eq_zero, decide_eq_true_eq, not_not, mem_seenGids]
  constructor
  · intro h participant hlive gids hfind
    exact h gids ⟨participant, hlive, hfind⟩
  · rintro h gids ⟨participant, hlive, hfind⟩
    exact h participant hlive gids hfind

/-- The rows of the live participants are a table of their own. -/
theorem liveRows_congr {other : OrderedMap ParticipantPrefix (List EndpointGid)}
    (h : ∀ participant ∈ live, other.find? participant = announced.find? participant) :
    liveRows other live = liveRows announced live := by
  have hmaps : other.restrict (· ∈ live) = announced.restrict (· ∈ live) := by
    apply OrderedMap.ext_find?
    intro participant
    rw [OrderedMap.find?_restrict, OrderedMap.find?_restrict]
    split_ifs with hlive
    · exact h participant hlive
    · rfl
  exact congrArg OrderedMap.values hmaps

variable {discovered} in
theorem missing_antitone {more : List Endpoint}
    (h : ∀ gid, Discovered discovered gid → Discovered more gid) :
    (discoveryCompleteness announced live more).announcedNotDiscovered ≤
      (discoveryCompleteness announced live discovered).announcedNotDiscovered := by
  rw [missing_eq, missing_eq]
  apply List.sum_le_sum
  intro gids _
  apply List.countP_mono_left
  intro gid _ hmissing
  rw [decide_eq_true_eq, mem_seenGids] at hmissing ⊢
  exact fun hdiscovered ↦ hmissing (h gid hdiscovered)

end Status

/-- The status of a discovery is about what the live participants announce. -/
theorem judgesLive (announced : OrderedMap ParticipantPrefix (List EndpointGid))
    (live : Finset ParticipantPrefix) (discovered : List Endpoint) :
    JudgesLive announced live discovered where
  complete_eq_none_iff := by
    rw [complete_eq, ← liveRows_eq_nil_iff]
    split_ifs with h <;> simp [h]
  complete_eq_true_iff hlive := by
    have hrows : liveRows announced live ≠ [] := by
      rw [Ne, liveRows_eq_nil_iff]
      push Not
      exact hlive
    rw [complete_eq, if_neg hrows, Option.some_inj, decide_eq_true_eq, missing_eq_zero_iff]
  missing_eq := by
    rw [missing_eq]
    congr 2
    funext gids
    simp only [missingGids, mem_seenGids]
  missing_le := missing_le announced live discovered
  only_live other h := by
    rw [discoveryCompleteness_eq, discoveryCompleteness_eq, comparedRows, comparedRows, liveRows_congr h]
  missing_antitone more h := missing_antitone h
  complete_mono more h hcomplete := by
    rw [complete_eq] at hcomplete ⊢
    split_ifs at hcomplete ⊢ with hrows
    rw [Option.some_inj, decide_eq_true_eq] at hcomplete ⊢
    exact Nat.le_zero.mp (hcomplete ▸ missing_antitone h)

end TransportViz.Decision
