import TransportViz.Stats.LossNumbers

/-!
# The loss verdict of a document

`noteUnmeasuredPairs` counts and warns anew each time. Whatever warnings were there before, each of its
two codes is given at most once, and what it leaves is what it would leave again. The numbers it writes
are ordered, so the differences the texts print do not wrap.
-/

namespace TransportViz.Stats

open Decision

/-! ## Model -/

/-- Unmeasured pairs that a lost sample may explain. -/
def statisticsExplained (stats : StatsData) : ℕ :=
  Words.sub stats.pairsDeliveredUnmeasured stats.pairsDeliveredAbsent

def statisticsLossWarning (stats : StatsData) : String :=
  if statisticsSamplesWereLost stats then
    -- everything the readers should have had: what arrived and what did not
    "warning: " ++ toString (statisticsLost stats) ++ " of " ++
      toString (Words.add (statisticsLost stats) stats.samples) ++
      " statistics samples were lost (the tool could not keep up) and " ++
      toString (statisticsExplained stats) ++ " of " ++ toString stats.pairsDelivered ++
      " pairs with proven deliveries show no measured packet - enable statistics on fewer " ++
      "nodes, or keep FASTDDS_STATISTICS to the aliases you need (e.g. " ++
      "RTPS_SENT_TOPIC;RTPS_LOST_TOPIC)"
  else ""

/-! ## Specification -/

def lossCodes : List String := ["stats-samples-lost", "rtps-sent-absent"]

/-- A counted pair without packets in the window whose RTPS_SENT instance was seen. -/
def SeenUnmeasured (p : Pair) : Prop :=
  countsDelivered p = true ∧ p.measured.packets = 0 ∧ 0 < p.measured.packetsTotal

instance (p : Pair) : Decidable (SeenUnmeasured p) := inferInstanceAs (Decidable (_ ∧ _ ∧ _))

/-- What the numbers and warnings of `stats` have become for `topics`. -/
structure LossVerdict (topics : List TopicSummary) (stats noted : StatsData) : Prop where
  absent_le : noted.pairsDeliveredAbsent ≤ noted.pairsDeliveredUnmeasured
  unmeasured_le : noted.pairsDeliveredUnmeasured ≤ noted.pairsDelivered
  lost_once : noted.warnings.count "stats-samples-lost" =
    if 0 < statisticsLost stats ∧ ∃ t ∈ topics, ∃ p ∈ t.pairs, SeenUnmeasured p then 1 else 0
  absent_once : noted.warnings.count "rtps-sent-absent" =
    if 0 < noted.pairsDeliveredAbsent then 1 else 0
  others_eq : noted.warnings.filter (· ∉ lossCodes) = stats.warnings.filter (· ∉ lossCodes)
  again : noteUnmeasuredPairs topics noted = noted
  counter_exact : noted.samplesLostLatency < noted.samplesLost →
    statisticsCounterSamplesLost noted + noted.samplesLostLatency = noted.samplesLost
  explained_exact :
    statisticsExplained noted + noted.pairsDeliveredAbsent = noted.pairsDeliveredUnmeasured
  rest_eq : noted = { stats with
    pairsDelivered := noted.pairsDelivered
    pairsDeliveredUnmeasured := noted.pairsDeliveredUnmeasured
    pairsDeliveredAbsent := noted.pairsDeliveredAbsent
    warnings := noted.warnings }

/-! ## Differences -/

section Differences

variable {stats : StatsData}

theorem counterSamplesLost_exact (h : stats.samplesLostLatency < stats.samplesLost) :
    statisticsCounterSamplesLost stats + stats.samplesLostLatency = stats.samplesLost := by
  rw [statisticsCounterSamplesLost, if_pos h, Words.sub_eq h.le]
  exact Nat.sub_add_cancel h.le

theorem explained_exact (h : stats.pairsDeliveredAbsent ≤ stats.pairsDeliveredUnmeasured) :
    statisticsExplained stats + stats.pairsDeliveredAbsent = stats.pairsDeliveredUnmeasured := by
  rw [statisticsExplained, Words.sub_eq h]
  exact Nat.sub_add_cancel h

end Differences

/-! ## Counting -/

section Counting

/-- The unmeasured pairs are the absent ones and those whose RTPS_SENT instance was seen. -/
theorem countP_unmeasured (lost : Bool) (pairs : List Pair) :
    pairs.countP countsUnmeasured = pairs.countP (countsAbsent lost) +
      pairs.countP fun p ↦ lost && decide (SeenUnmeasured p) := by
  have hsplit := List.countP_eq_countP_filter_add pairs countsUnmeasured
    fun p ↦ !lost || p.measured.packetsTotal = 0
  rw [List.countP_filter, List.countP_filter] at hsplit
  rw [hsplit]
  congr 1
  apply List.countP_congr
  intro p _
  simp only [countsUnmeasured, SeenUnmeasured, Bool.and_eq_true, decide_eq_true_eq, Bool.not_or,
    Bool.not_not, Bool.not_eq_true', decide_eq_false_iff_not, Nat.pos_iff_ne_zero]
  tauto

theorem absent_lt_unmeasured_iff (lost : Bool) (pairs : List Pair) :
    pairs.countP (countsAbsent lost) < pairs.countP countsUnmeasured ↔
      lost = true ∧ ∃ p ∈ pairs, SeenUnmeasured p := by
  rw [countP_unmeasured lost, Nat.lt_add_right_iff_pos, List.countP_pos_iff]
  simp only [Bool.and_eq_true, decide_eq_true_eq]
  constructor
  · intro ⟨p, hp, hlost, hseen⟩
    exact ⟨hlost, p, hp, hseen⟩
  · intro ⟨hlost, p, hp, hseen⟩
    exact ⟨p, hp, hlost, hseen⟩

theorem unmeasured_le_delivered (pairs : List Pair) :
    pairs.countP countsUnmeasured ≤ pairs.countP countsDelivered := by
  apply List.countP_mono_left
  intro p _ hunmeasured
  exact (Bool.and_eq_true _ _ ▸ hunmeasured).1

end Counting

/-! ## The two codes -/

section Codes

variable (topics : List TopicSummary) (stats : StatsData)

/-- The pairs that no lost sample explains. -/
def absentOf : ℕ :=
  (topics.flatMap TopicSummary.pairs).countP (countsAbsent (0 < statisticsLost stats))

/-- The numbers of the topics, the warnings still as they were. -/
def numbered : StatsData :=
  { stats with
    pairsDelivered := (topics.flatMap TopicSummary.pairs).countP countsDelivered
    pairsDeliveredUnmeasured := (topics.flatMap TopicSummary.pairs).countP countsUnmeasured
    pairsDeliveredAbsent := absentOf topics stats }

/-- Samples were lost, and that may explain a pair of the topics. -/
def lossShown : Bool :=
  0 < statisticsLost stats ∧ ∃ t ∈ topics, ∃ p ∈ t.pairs, SeenUnmeasured p

theorem statisticsSamplesWereLost_numbered :
    statisticsSamplesWereLost (numbered topics stats) = lossShown topics stats := by
  have hpairs : (∃ p ∈ topics.flatMap TopicSummary.pairs, SeenUnmeasured p) ↔
      ∃ t ∈ topics, ∃ p ∈ t.pairs, SeenUnmeasured p := by
    simp only [List.mem_flatMap]
    tauto
  rw [Bool.eq_iff_iff, lossShown, decide_eq_true_iff, statisticsSamplesWereLost, Bool.and_eq_true,
    decide_eq_true_iff, decide_eq_true_iff]
  change 0 < statisticsLost stats ∧ absentOf topics stats <
    (topics.flatMap TopicSummary.pairs).countP countsUnmeasured ↔ _
  rw [absentOf, absent_lt_unmeasured_iff, decide_eq_true_iff, and_self_left, hpairs]

/-- Giving the one code anew, then the other. -/
theorem filter_lossCodes (codes : List String) (shown : Bool) :
    (codes.filter (· ≠ "stats-samples-lost") ++ if shown then ["stats-samples-lost"] else []).filter
        (· ≠ "rtps-sent-absent") =
      codes.filter (· ∉ lossCodes) ++ if shown then ["stats-samples-lost"] else [] := by
  have hcodes : (codes.filter (· ≠ "stats-samples-lost")).filter (· ≠ "rtps-sent-absent") =
      codes.filter (· ∉ lossCodes) := by
    rw [List.filter_filter]
    apply List.filter_congr
    intro code _
    simp [lossCodes, and_comm]
  rw [List.filter_append, hcodes]
  cases shown with
  | false => rfl
  | true => rfl

/-- The codes of the verdict. -/
def verdictCodes : List String :=
  (if lossShown topics stats then ["stats-samples-lost"] else []) ++
    if 0 < absentOf topics stats then ["rtps-sent-absent"] else []

/-- The numbers and warnings without the steps that lead there. -/
theorem noteUnmeasuredPairs_eq :
    noteUnmeasuredPairs topics stats = { numbered topics stats with
      warnings := stats.warnings.filter (· ∉ lossCodes) ++ verdictCodes topics stats } := by
  have hfold : (topics.flatMap TopicSummary.pairs).foldl (notePair (0 < statisticsLost stats))
      { stats with
        pairsDelivered := 0
        pairsDeliveredUnmeasured := 0
        pairsDeliveredAbsent := 0 } = numbered topics stats := by
    rw [foldl_notePair]
    simp only [Nat.zero_add]
    rfl
  calc
    noteUnmeasuredPairs topics stats
        = renewWarning (renewWarning (numbered topics stats) "stats-samples-lost"
            (statisticsSamplesWereLost (numbered topics stats))) "rtps-sent-absent"
              (0 < (numbered topics stats).pairsDeliveredAbsent) := by
      rw [← hfold]
      rfl
    _ = _ := by
      have hwarnings : (numbered topics stats).warnings = stats.warnings := rfl
      have habsent : (numbered topics stats).pairsDeliveredAbsent = absentOf topics stats := rfl
      rw [statisticsSamplesWereLost_numbered, renewWarning, renewWarning, hwarnings, habsent,
        filter_lossCodes, List.append_assoc]
      simp only [decide_eq_true_eq]
      rfl

theorem verdictCodes_subset : verdictCodes topics stats ⊆ lossCodes := by
  unfold verdictCodes
  split_ifs <;> decide

theorem filter_verdictCodes (codes : List String) :
    (codes.filter (· ∉ lossCodes) ++ verdictCodes topics stats).filter (· ∉ lossCodes) =
      codes.filter (· ∉ lossCodes) := by
  have hnone : (verdictCodes topics stats).filter (· ∉ lossCodes) = [] := by
    rw [List.filter_eq_nil_iff]
    intro code hcode
    simpa using verdictCodes_subset topics stats hcode
  rw [List.filter_append, hnone, List.append_nil, List.filter_filter]
  simp only [Bool.and_self]

theorem count_verdictCodes (codes : List String) {code : String} (hcode : code ∈ lossCodes) :
    (codes.filter (· ∉ lossCodes) ++ verdictCodes topics stats).count code =
      (verdictCodes topics stats).count code := by
  rw [List.count_append, Nat.add_eq_right, List.count_eq_zero, List.mem_filter, decide_eq_true_iff]
  intro hkept
  exact hkept.2 hcode

end Codes

/-- Whatever was counted and warned before, the verdict is that of the topics. -/
theorem lossVerdict (topics : List TopicSummary) (stats : StatsData) :
    LossVerdict topics stats (noteUnmeasuredPairs topics stats) := by
  have hequal := noteUnmeasuredPairs_eq topics stats
  have habsent : absentOf topics stats ≤ (topics.flatMap TopicSummary.pairs).countP countsUnmeasured := by
    rw [absentOf, countP_unmeasured (0 < statisticsLost stats)]
    exact Nat.le_add_right _ _
  rw [hequal]
  constructor
  · exact habsent
  · exact unmeasured_le_delivered _
  · rw [count_verdictCodes topics stats _ (by decide), verdictCodes, lossShown]
    simp only [decide_eq_true_eq]
    split_ifs <;> rfl
  · rw [count_verdictCodes topics stats _ (by decide), verdictCodes]
    change _ = if 0 < absentOf topics stats then 1 else 0
    split_ifs <;> rfl
  · exact filter_verdictCodes topics stats _
  · rw [noteUnmeasuredPairs_eq]
    change { numbered topics stats with
      warnings := (stats.warnings.filter (· ∉ lossCodes) ++ verdictCodes topics stats).filter
        (· ∉ lossCodes) ++ verdictCodes topics stats } = _
    rw [filter_verdictCodes]
  · exact counterSamplesLost_exact
  · exact explained_exact habsent
  · rfl

/-! ## The printed line -/

section Printed

variable (topics : List TopicSummary) (stats : StatsData)

theorem statisticsLossWarning_eq_empty_iff :
    statisticsLossWarning stats = "" ↔ statisticsSamplesWereLost stats = false := by
  cases hlost : statisticsSamplesWereLost stats with
  | false => simp [statisticsLossWarning, hlost]
  | true =>
    refine iff_of_false (fun hempty ↦ ?_) (by decide)
    have hlength := congrArg String.length hempty
    rw [statisticsLossWarning, hlost, if_pos rfl] at hlength
    simp only [String.length_append] at hlength
    have hfirst : "warning: ".length = 9 := rfl
    have hnone : "".length = 0 := rfl
    omega

/-- A line is printed exactly when the document has the warning. -/
theorem statisticsLossWarning_noteUnmeasuredPairs :
    statisticsLossWarning (noteUnmeasuredPairs topics stats) ≠ "" ↔
      "stats-samples-lost" ∈ (noteUnmeasuredPairs topics stats).warnings := by
  have hlost : statisticsSamplesWereLost (noteUnmeasuredPairs topics stats) = lossShown topics stats := by
    rw [noteUnmeasuredPairs_eq, ← statisticsSamplesWereLost_numbered]
    rfl
  have hwarnings : (noteUnmeasuredPairs topics stats).warnings =
      stats.warnings.filter (· ∉ lossCodes) ++ verdictCodes topics stats := by
    rw [noteUnmeasuredPairs_eq]
  rw [ne_eq, statisticsLossWarning_eq_empty_iff, hlost, Bool.not_eq_false, hwarnings, List.mem_append,
    verdictCodes]
  cases lossShown topics stats with
  | true => simp
  | false => by_cases habsent : 0 < absentOf topics stats <;> simp [lossCodes, habsent]

end Printed

end TransportViz.Stats
