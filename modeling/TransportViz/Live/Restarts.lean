import Mathlib.Algebra.BigOperators.Ring.Finset
import TransportViz.Live.Reconnects

/-!
# A server that is started again

The ids name no run. The viewer takes an id that goes down for a restarted server, and so it keeps the
runs apart exactly where the first id it reads of a run is below the last one it read before.
-/

namespace TransportViz.Live

variable {Doc : Type}

/-- The ids read from one run. -/
def idsOf (run : ℕ) (received : List (Receipt Doc)) : List ℕ :=
  (received.filter (·.run = run)).map Receipt.id

/-- The viewer keeps the runs apart: it calls a duplicate only what it has of the same run, it notices
the first document of each run after the first it received from, and it counts only gaps within a
run. -/
structure RestartsTold (w : World Doc) : Prop where
  duplicates : ∀ before r after, w.viewer.received = before ++ r :: after → r.kind = .duplicate →
    ∃ earlier ∈ before, earlier.run = r.run ∧ earlier.id = r.id
  restarts : ∀ before r after, w.viewer.received = before ++ r :: after → before ≠ [] →
    (∀ earlier ∈ before, earlier.run ≠ r.run) → r.kind = .restart
  skipped : w.viewer.ids.skipped =
    ∑ run ∈ Finset.range (w.run + 1), (missed (idsOf run w.viewer.received) : ℚ)

/-- The first id of each run is below the last one received before. -/
def FallsAtRestarts (received : List (Receipt Doc)) : Prop :=
  ∀ before last r after, received = before ++ last :: r :: after → last.run ≠ r.run → r.id < last.id

/-- The viewer reads one run after the other, each in the order of its numbers. -/
structure RunByRun (received : List (Receipt Doc)) : Prop where
  runs : (received.map Receipt.run).Pairwise (· ≤ ·)
  rising : ∀ run, (idsOf run received).Pairwise (· ≤ ·)

@[simp]
theorem idsOf_nil (run : ℕ) : idsOf run ([] : List (Receipt Doc)) = [] := rfl

theorem idsOf_append (run : ℕ) (received : List (Receipt Doc)) (r : Receipt Doc) :
    idsOf run (received ++ [r]) = idsOf run received ++ if r.run = run then [r.id] else [] := by
  by_cases h : r.run = run <;> simp [idsOf, List.filter_append, h]

@[simp]
theorem missed_nil : missed [] = 0 := rfl

namespace RunByRun

variable {received : List (Receipt Doc)} {last r : Receipt Doc}

theorem of_prefix {part : List (Receipt Doc)} (h : RunByRun received) (hpart : part <+: received) :
    RunByRun part where
  runs := h.runs.sublist (hpart.sublist.map _)
  rising run := (h.rising run).sublist ((hpart.sublist.filter _).map _)

theorem run_le_last (h : RunByRun (received ++ [r])) : ∀ earlier ∈ received, earlier.run ≤ r.run := by
  have hruns := h.runs
  rw [List.map_append] at hruns
  intro earlier hearlier
  exact le_last hruns earlier.run (List.mem_map_of_mem hearlier)

/-- Nothing was read yet of the run that comes next. -/
theorem idsOf_next (h : RunByRun (received ++ [last] ++ [r])) (hne : last.run ≠ r.run) :
    ∀ earlier ∈ received ++ [last], earlier.run ≠ r.run := by
  have hlast : last.run ≤ r.run := h.run_le_last last (by simp)
  intro earlier hearlier
  rcases List.mem_append.mp hearlier with hmem | hmem
  · have := (h.of_prefix (List.prefix_append ..)).run_le_last earlier hmem
    omega
  · exact List.mem_singleton.mp hmem ▸ hne

/-- One more document adds to its own run what it left out since the last one. -/
theorem missed_idsOf (h : RunByRun (received ++ [last] ++ [r]))
    (hfalls : last.run ≠ r.run → r.id < last.id) (run : ℕ) :
    missed (idsOf run (received ++ [last] ++ [r])) =
      missed (idsOf run (received ++ [last])) + if run = r.run then r.id - last.id - 1 else 0 := by
  rw [idsOf_append run (received ++ [last])]
  by_cases hrun : run = r.run
  · subst hrun
    rw [if_pos rfl, if_pos rfl]
    by_cases hsame : last.run = r.run
    · have hids := h.rising r.run
      rw [idsOf_append, idsOf_append, if_pos hsame, if_pos rfl] at hids
      rw [idsOf_append, if_pos hsame, missed_append hids]
    · have hnone : idsOf r.run (received ++ [last]) = [] := by
        rw [idsOf, List.map_eq_nil_iff, List.filter_eq_nil_iff]
        simpa using h.idsOf_next hsame
      have := hfalls hsame
      rw [hnone, List.nil_append, missed_singleton, missed_nil]
      omega
  · rw [if_neg (Ne.symm hrun), if_neg hrun, List.append_nil, add_zero]

/-- Where every new run starts lower the gaps counted are those of the runs. -/
theorem skipped_eq (h : RunByRun received) (hfalls : FallsAtRestarts received) (bound : ℕ)
    (hbound : ∀ r ∈ received, r.run ≤ bound) :
    (tracked (received.map Receipt.id)).skipped =
      ∑ run ∈ Finset.range (bound + 1), (missed (idsOf run received) : ℚ) := by
  induction received using List.reverseRecOn with
  | nil => simp [tracked]
  | append_singleton received r ih =>
    have hstarts : FallsAtRestarts received := fun before last s after hsplit ↦
      hfalls before last s (after ++ [r]) (by simp [hsplit])
    have hrest := ih (h.of_prefix (List.prefix_append ..)) hstarts fun earlier hearlier ↦
      hbound earlier (List.mem_append_left _ hearlier)
    rcases List.eq_nil_or_concat' received with rfl | ⟨before, last, rfl⟩
    · have hzero (run : ℕ) : missed (idsOf run [r]) = 0 := by
        by_cases hrun : r.run = run <;> simp [idsOf, hrun]
      simp [hzero, tracked, trackId]
    · have hstep (run : ℕ) := h.missed_idsOf (hfalls before last r [] (by simp)) run
      have hmem : r.run ∈ Finset.range (bound + 1) :=
        Finset.mem_range_succ_iff.mpr (hbound r (by simp))
      calc (tracked ((before ++ [last] ++ [r]).map Receipt.id)).skipped
          = (tracked ((before ++ [last]).map Receipt.id)).skipped +
              ((r.id - last.id - 1 : ℕ) : ℚ) := by
            simp only [List.map_append, List.map_cons, List.map_nil, skipped_append]
        _ = ∑ run ∈ Finset.range (bound + 1), (missed (idsOf run (before ++ [last])) : ℚ) +
              ∑ run ∈ Finset.range (bound + 1),
                if run = r.run then ((r.id - last.id - 1 : ℕ) : ℚ) else 0 := by
            rw [hrest, Finset.sum_ite_eq' _ r.run, if_pos hmem]
        _ = ∑ run ∈ Finset.range (bound + 1), (missed (idsOf run (before ++ [last] ++ [r])) : ℚ) := by
            rw [← Finset.sum_add_distrib]
            apply Finset.sum_congr rfl
            intro run _
            rw [hstep run]
            push_cast
            rfl

end RunByRun

/-- The kind of a document that is not the first one received. -/
theorem Viewer.Told.kind_next {v : Viewer Doc} (h : v.Told) {before after : List (Receipt Doc)}
    {last r : Receipt Doc} (hsplit : v.received = before ++ [last] ++ r :: after) :
    r.kind = if r.id = last.id then .duplicate else if r.id < last.id then .restart else .new := by
  rw [h.kinds (before ++ [last]) r after hsplit, List.map_append, List.map_cons, List.map_nil,
    kindAfter_append]

theorem restartsTold_iff_of_runByRun {w : World Doc} (horder : InOrder w)
    (hruns : RunByRun w.viewer.received) :
    RestartsTold w ↔ FallsAtRestarts w.viewer.received := by
  constructor
  · intro htold before last r after hsplit hne
    rw [List.append_cons] at hsplit
    have hkind := htold.restarts (before ++ [last]) r after hsplit (by simp)
      ((hruns.of_prefix ⟨after, by simp [hsplit]⟩).idsOf_next hne)
    rw [horder.told.kind_next hsplit] at hkind
    split_ifs at hkind with heq hlt
    exact hlt
  · intro hfalls
    constructor
    · intro before r after hsplit hkind
      rcases List.eq_nil_or_concat' before with rfl | ⟨earlier, last, rfl⟩
      · rw [horder.told.kinds [] r after hsplit] at hkind
        cases hkind
      · rw [horder.told.kind_next hsplit] at hkind
        split_ifs at hkind with heq
        refine ⟨last, by simp, ?_, heq.symm⟩
        by_contra hne
        exact (hfalls earlier last r after (by simp [hsplit]) hne).ne heq
    · intro before r after hsplit hbefore hnew
      obtain ⟨earlier, last, rfl⟩ := (List.eq_nil_or_concat' before).resolve_left hbefore
      have hlt := hfalls earlier last r after (by simp [hsplit]) (hnew last (by simp))
      rw [horder.told.kind_next hsplit, if_neg hlt.ne, if_pos hlt]
    · rw [horder.told.ids_eq]
      exact hruns.skipped_eq hfalls w.run fun r hr ↦ (horder.runs_le r hr).trans horder.run_le

/-- A step reads at most a document of the run the viewer connected to. -/
theorem idsOf_perform (w : World Doc) (step : Step Doc) (run : ℕ)
    (hrun : run ≠ (w.perform step).viewer.run) :
    idsOf run (w.perform step).viewer.received = idsOf run w.viewer.received := by
  cases step with
  | push doc =>
    simp only [World.perform, World.push]
    split <;> rfl
  | «end» message =>
    simp only [World.perform]
    split <;> rfl
  | proceed i =>
    simp only [World.perform, World.proceed]
    split <;> rfl
  | read =>
    simp only [World.perform, Viewer.read] at hrun ⊢
    split at hrun
    · rfl
    · rw [idsOf_append, if_neg (Ne.symm hrun), List.append_nil]
    · rfl
  | _ => rfl

/-- What was read of the run the viewer connected to is the first part of its timeline. -/
theorem InOrder.rising_idsOf {w : World Doc} (h : InOrder w) :
    (idsOf w.viewer.run w.viewer.received).Pairwise (· ≤ ·) := by
  have hboth := h.rising
  rw [Viewer.timeline, List.map_append, List.map_map] at hboth
  exact (List.pairwise_append.mp hboth).1

theorem runByRun_perform {w : World Doc} (hsound : Sound w) (horder : InOrder w)
    (hruns : RunByRun w.viewer.received) (step : Step Doc) :
    RunByRun (w.perform step).viewer.received where
  runs := (horder.perform hsound step).runs
  rising run := by
    by_cases hrun : run = (w.perform step).viewer.run
    · exact hrun ▸ (horder.perform hsound step).rising_idsOf
    · rw [idsOf_perform w step run hrun]
      exact hruns.rising run

theorem inOrder_servedRuns (runs : List (List (Step Doc))) :
    InOrder (servedRuns runs) ∧ RunByRun (servedRuns runs).viewer.received := by
  induction runs using List.reverseRecOn with
  | nil => exact ⟨InOrder.start, ⟨List.Pairwise.nil, fun _ ↦ List.Pairwise.nil⟩⟩
  | append_singleton runs steps ih =>
    have hsound : Sound (servedRuns runs).restart := Sound.start _ _
    have horder : InOrder (servedRuns runs).restart := ih.1.restart
    have hruns : RunByRun (servedRuns runs).restart.viewer.received := ih.2
    rw [servedRuns, List.foldl_append]
    exact (foldl_perform (fun _ step hsound horder hruns ↦
      runByRun_perform hsound horder hruns step) hsound horder hruns steps).2

/-- Whatever the servers do and whatever the viewer gets to read, the runs are kept apart exactly where
the ids go down. -/
theorem restartsTold_iff (runs : List (List (Step Doc))) :
    RestartsTold (servedRuns runs) ↔ FallsAtRestarts (servedRuns runs).viewer.received :=
  restartsTold_iff_of_runByRun (inOrder_servedRuns runs).1 (inOrder_servedRuns runs).2

/-- The viewer has the second document of one run when the second one of the next run comes first. -/
theorem sameId_not_restartsTold :
    ¬∀ runs : List (List (Step Char)), RestartsTold (servedRuns runs) := by
  intro hall
  have htold := hall [
    [.push 'a', .reconnect, .push 'b', .wake 0 false, .proceed 0, .read],
    [.push 'c', .push 'd', .reconnect, .wake 0 false, .proceed 0, .read]]
  have hkind := htold.restarts [⟨1, 2, 'b', .new⟩] ⟨2, 2, 'd', .duplicate⟩ [] (by rfl) (by simp)
    (by simp)
  cases hkind

end TransportViz.Live
