import TransportViz.Stats.Unserved

/-!
# No warning twice

The warnings of a verdict follow one fixed order, whichever rules and measurements they come from. So no
verdict warns twice of the same, and no measurement names a transport twice.
-/

namespace TransportViz.Stats

open Decision

/-- The warnings of the overlay in the order it adds them. -/
def addedWarnings : List String :=
  ["measured-transport-mismatch", "stats-writer-instance-limit-suspected",
    "delivered-without-measured-traffic", "no-traffic-observed", "measured-locator-mismatch",
    "qos-incompatible-but-delivered", "type-name-mismatch-but-delivered",
    "type-information-mismatch-but-delivered", "shm-ipc-namespace-split-but-delivered",
    "shm-ipc-namespace-split-but-non-shm-traffic", "stats-not-enabled-on-writer",
    "datasharing-not-used"]

/-- One warning of the list, or none. -/
theorem singletonIf_sublist (p : Prop) [Decidable p] (code : String) :
    (if p then [code] else []).Sublist [code] := by
  split_ifs
  · exact List.Sublist.refl _
  · exact List.nil_sublist _

section Prediction

variable (writer reader : Endpoint)

theorem decideNetwork_warnings (v : Verdict) :
    (decideNetwork v writer reader).warnings = v.warnings := by
  unfold decideNetwork
  cases pickNetworkLocator writer reader with
  | some picked => rfl
  | none =>
    simp only
    split_ifs <;> rfl

theorem decideShm_warnings (v : Verdict) :
    (decideShm v writer reader).warnings.Sublist (v.warnings ++ ["shm-ipc-namespace-split"]) := by
  unfold decideShm
  simp only
  split_ifs
  · exact List.Sublist.refl _
  · exact List.sublist_append_left _ _

theorem decideDataSharing_warnings (v : Verdict) :
    (decideDataSharing v writer reader).warnings.Sublist
      (v.warnings ++ ["shm-ipc-namespace-split"]) := by
  unfold decideDataSharing
  simp only
  split_ifs
  all_goals first
    | exact List.Sublist.refl _
    | exact List.sublist_append_left _ _

variable [Fnmatch]

theorem decideSameType_warnings :
    (decideSameType writer reader).warnings.Sublist
      ["host-id-match-but-ip-differs", "qos-incompatible", "shm-ipc-namespace-split"] := by
  have hip := singletonIf_sublist (ipDiffers writer reader = true) "host-id-match-but-ip-differs"
  have hsplit := (hip.append_right ["shm-ipc-namespace-split"]).trans
    (by decide : List.Sublist _
      ["host-id-match-but-ip-differs", "qos-incompatible", "shm-ipc-namespace-split"])
  have hplain := (List.sublist_append_left _ ["shm-ipc-namespace-split"]).trans hsplit
  unfold decideSameType
  simp only
  by_cases hpolicy : qosIncompatibilities writer reader = []
  swap
  · rw [if_pos hpolicy]
    exact List.singleton_sublist.mpr (by decide)
  rw [if_neg (not_not.mpr hpolicy)]
  by_cases hhost : writer.hostId = reader.hostId
  · rw [if_pos hhost]
    cases dataSharingRefusal writer reader with
    | none => exact (decideDataSharing_warnings writer reader _).trans hsplit
    | some refusal =>
      by_cases hshm : bothShm writer reader = true
      · simp only [if_pos hshm]
        exact (decideShm_warnings writer reader _).trans hsplit
      · simp only [if_neg hshm]
        rw [decideNetwork_warnings]
        exact hplain
  · rw [if_neg hhost, decideNetwork_warnings]
    exact List.nil_sublist _

/-- A prediction warns in the order of the rules. -/
theorem decide_warnings_sublist :
    (Decision.decide writer reader).warnings.Sublist predictionWarnings := by
  have hhash := singletonIf_sublist (rosHashesDiffer writer reader = true) "type-hash-mismatch"
  by_cases htypes : TypesMatch writer reader
  · obtain ⟨_, heq, -⟩ := decide_of_typesMatch writer reader htypes
    rw [heq]
    exact (decideSameType_warnings writer reader).append hhash
  · rw [decide_of_not_typesMatch writer reader htypes]
    exact hhash.trans (by decide)

end Prediction

section Overlay

variable {stats : StatsData} {all : Bool} {src : String} {v w : Verdict} {m : Measurement}

theorem overlayTransport_sublist (stats : StatsData) (src : String) (v : Verdict)
    (m : Measurement) :
    (overlayTransport stats src v m).warnings.Sublist (v.warnings ++ addedWarnings) := by
  unfold overlayTransport
  by_cases hquiet : m.transports = []
  · rw [if_pos hquiet]
    refine List.Sublist.append_left (List.singleton_sublist.mpr ?_) v.warnings
    split_ifs <;> decide
  · have hdelivered := singletonIf_sublist (m.packets = 0 ∧ m.delivered = true)
      "delivered-without-measured-traffic"
    rw [if_neg hquiet]
    simp only [Verdict.addWarnings_warnings]
    by_cases hmatches : v.transport ∈ m.transports
    · simp only [hmatches, decide_true, if_true, Verdict.addReasons_warnings, List.append_assoc]
      refine List.Sublist.append_left ?_ v.warnings
      exact (hdelivered.append (singletonIf_sublist _ _)).trans (by decide)
    · simp only [hmatches, decide_false, Bool.false_eq_true, if_false,
        Verdict.addWarnings_warnings, Verdict.addReasons_warnings, List.append_assoc]
      refine List.Sublist.append_left ?_ v.warnings
      exact ((List.Sublist.refl _).append (hdelivered.append (singletonIf_sublist _ _))).trans
        (by decide)

/-- Every branch of the overlay adds its warnings in the one order. -/
theorem Overlaid.warnings_sublist (h : Overlaid stats all src v m w) :
    w.warnings.Sublist (v.warnings ++ addedWarnings) := by
  have hkept : v.warnings.Sublist (v.warnings ++ addedWarnings) := List.sublist_append_left _ _
  have hadded {added : List String} (hsub : added.Sublist addedWarnings) :
      (v.warnings ++ added).Sublist (v.warnings ++ addedWarnings) := hsub.append_left v.warnings
  cases h with
  | unmatched =>
    unfold overlayUnmatched
    split_ifs
    · exact hadded (List.singleton_sublist.mpr (by decide))
    · exact hadded (List.singleton_sublist.mpr (by decide))
    · exact hadded (List.singleton_sublist.mpr (by decide))
    · exact hkept
  | split =>
    unfold overlaySplit
    simp only [Verdict.addWarnings_warnings, Verdict.addReasons_warnings, List.append_assoc]
    exact hadded (((singletonIf_sublist _ _).append (singletonIf_sublist _ _)).trans (by decide))
  | unpublished => exact hadded (List.singleton_sublist.mpr (by decide))
  | intraProcess =>
    refine hadded ?_
    split_ifs
    · exact List.nil_sublist _
    · exact List.singleton_sublist.mpr (by decide)
  | dataSharing =>
    have hruling := datasharingRuling_overlayDataSharing all (dropIntraProcess v) m
    revert hruling
    generalize overlayDataSharing all (dropIntraProcess v) m = ruled
    intro hruling
    cases hruling with
    | notUsed => exact hadded (List.singleton_sublist.mpr (by decide))
    | silent | mixed | still | unproven => exact hkept
  | transport => exact overlayTransport_sublist stats src (dropIntraProcess v) m

/-- Whatever the counters and the overlay add to a prediction. -/
theorem overlayPair_warnings_sublist (stats : StatsData) (all : Bool) (p : Pair) :
    (overlayPair stats all p).verdict.warnings.Sublist
      (p.verdict.warnings ++ (["rtps-packets-lost", "latency-clock-skew-suspected"] ++
        addedWarnings)) := by
  have hoverlaid := (overlaid_overlay stats all p.writer.participantGuidPrefix
    (measurePair stats p).verdict (measurePair stats p).measured).warnings_sublist
  rw [← List.append_assoc]
  exact hoverlaid.trans
    (((counterWarnings_sublist _).append_left p.verdict.warnings).append_right addedWarnings)

end Overlay

section Topics

variable [Fnmatch] {endpoints : List Endpoint} {stats : StatsData} {u : TopicSummary}

/-- No verdict warns twice of the same. -/
theorem nodup_warnings_applyStats (hu : u ∈ applyStats (summarize endpoints) stats) {q : Pair}
    (hq : q ∈ u.pairs) : q.verdict.warnings.Nodup := by
  have hpredicted {t : TopicSummary} (ht : t ∈ summarize endpoints) {p : Pair} (hp : p ∈ t.pairs) :
      p.verdict.warnings.Sublist predictionWarnings := by
    rw [(isFresh_of_mem ht hp).warnings_eq]
    exact decide_warnings_sublist _ _
  rcases applyStats_cases hu with ⟨-, t, ht, rfl⟩ | ⟨-, ht⟩
  · have hruled := forall₂_overlayTopic stats t fun p hp ↦ isFresh_of_mem ht hp
    obtain ⟨p, hp, all, rfl, -⟩ := exists_of_mem_right hruled hq
    have hsublist := (overlayPair_warnings_sublist stats all p).trans
      ((hpredicted ht hp).append_right _)
    exact List.Nodup.sublist hsublist (by decide)
  · exact List.Nodup.sublist (hpredicted ht hq) (by decide)

/-- No measurement names a transport twice. -/
theorem nodup_transports_applyStats (hu : u ∈ applyStats (summarize endpoints) stats) {q : Pair}
    (hq : q ∈ u.pairs) : q.measured.transports.Nodup := by
  rw [measured_of_mem_applyStats hu hq]
  split_ifs
  · exact nodup_measured_transports stats _ _
  · exact List.nodup_nil

end Topics

end TransportViz.Stats
