import TransportViz.Observer.StatisticsRuns
import TransportViz.Stats.LossNumbers

/-!
# Matched writers and lost samples

The listener hears of the writers that its readers match and of the samples that they miss. What a reader
misses right after a match is excused, so that a loss counts only when no writer came lately; a matched
writer of RTPS_SENT is waited for until a sample of it was taken.
-/

namespace TransportViz.Observer

open LastWrite Stats

/-! ## What the steps say -/

/-- Whether a writer joins or leaves those that the reader has matched. -/
def matchEntry (reader : StatisticsReader) : StatisticsStep → Option (String × Bool)
  | .subscriptionMatched _ other writer change =>
    if other = reader then
      if 0 < change then some (guidToString writer, true)
      else if change < 0 then some (guidToString writer, false)
      else none
    else none
  | _ => none

/-- When a writer joined. -/
def matchTime : StatisticsStep → Option ℚ
  | .subscriptionMatched now _ _ change => if 0 < change then some now else none
  | _ => none

def destinationsSet : StatisticsStep → Option ReaderDestinations
  | .setReaderDestinations destinations => some destinations
  | _ => none

/-- A loss that is reported, and what was before it. -/
structure LossReport where
  before : List StatisticsStep
  now : ℚ
  reader : StatisticsReader
  change : ℕ

/-- No writer was matched before, or the last match is less than the grace period ago. -/
def LossReport.excused (r : LossReport) : Bool :=
  match (r.before.filterMap matchTime).getLast? with
  | none => true
  | some matched => r.now - matched < kStatisticsLateJoinGraceSeconds

def reportsFrom (before : List StatisticsStep) : List StatisticsStep → List LossReport
  | [] => []
  | .sampleLost now reader change :: rest =>
    ⟨before, now, reader, change⟩ :: reportsFrom (before ++ [.sampleLost now reader change]) rest
  | step :: rest => reportsFrom (before ++ [step]) rest

def reports (steps : List StatisticsStep) : List LossReport := reportsFrom [] steps

/-- The samples that the reports of a kind speak of. -/
def lossOf (p : LossReport → Bool) (steps : List StatisticsStep) : ℕ :=
  (((reports steps).filter p).map LossReport.change).sum

/-! ## Specification -/

/-- A latency sample that the grace period does not excuse. -/
def LossReport.ofLatency (r : LossReport) : Bool := !r.excused && r.reader = .historyLatency

/-- A sample of another reader that the grace period does not excuse. -/
def LossReport.ofCounter (r : LossReport) : Bool := !r.excused && r.reader ≠ .historyLatency

/-- Every reported loss is counted once, at the start or afterwards. -/
structure CountsLosses (steps : List StatisticsStep) (l : Listener) : Prop where
  lostAtStart : l.lostAtStart = lossOf LossReport.excused steps
  lost : l.lost = lossOf (fun r ↦ !r.excused) steps
  lostLatency : l.lostLatency + l.latencyCalls.sum = lossOf LossReport.ofLatency steps
  /-- As soon as no call is between its two increments. -/
  returned : l.latencyCalls = [] → l.lostLatency = lossOf LossReport.ofLatency steps
  total : l.lost + l.lostAtStart = lossOf (fun _ ↦ true) steps

section Settling

variable [IPLocator]

/-- A sample of the writer was taken from the RTPS_SENT reader. -/
def HeardFrom (steps : List StatisticsStep) (writer : String) : Prop :=
  ∃ step ∈ steps, heardEntry step = some (.rtpsSent, writer)

/-- An instance whose counter moved, towards a destination that was set last. -/
def MeasuredInstance (steps : List StatisticsStep) (key : TrafficKey) : Prop :=
  ∃ t, trafficSummary (written trafficEntry key steps) = some t ∧
    measuresAPair t (((steps.filterMap destinationsSet).getLast?).getD {}) = true

/-- The settle status is about the writers that are matched now. -/
structure SettlesExactly (steps : List StatisticsStep) (settle : Settle) : Prop where
  announced : ∃ writers : Finset String,
    (∀ w, w ∈ writers ↔ Latest (matchEntry .rtpsSent) steps w true) ∧
      settle.announced = writers.card
  unheard : ∃ writers : List String, writers.Pairwise (· < ·) ∧
    (∀ w, w ∈ writers ↔ Latest (matchEntry .rtpsSent) steps w true ∧ ¬HeardFrom steps w) ∧
      settle.unheard = writers.map fun w ↦ rtpsSentTopic ++ " " ++ w
  heard : settle.heard + settle.unheard.length = settle.announced
  all_heard : settle.heard = settle.announced ↔
    ∀ w, Latest (matchEntry .rtpsSent) steps w true → HeardFrom steps w
  measured : ∃ keys : Finset TrafficKey, (∀ key, key ∈ keys ↔ MeasuredInstance steps key) ∧
    settle.measuredInstances = keys.card

end Settling

/-! ## Losses -/

section Losses

variable (steps : List StatisticsStep)

theorem reportsFrom_append (before : List StatisticsStep) (step : StatisticsStep) :
    reportsFrom before (steps ++ [step]) =
      reportsFrom before steps ++ reportsFrom (before ++ steps) [step] := by
  induction steps generalizing before with
  | nil => simp [reportsFrom]
  | cons first rest ih =>
    have happend : before ++ [first] ++ rest = before ++ first :: rest := by simp
    cases first <;> simp only [List.cons_append, reportsFrom, ih, happend]

theorem lossOf_append (p : LossReport → Bool) (step : StatisticsStep) :
    lossOf p (steps ++ [step]) =
      lossOf p steps + (((reportsFrom steps [step]).filter p).map LossReport.change).sum := by
  rw [lossOf, reports, reportsFrom_append, List.filter_append, List.map_append, List.sum_append,
    List.nil_append]
  rfl

/-- The listener once a step is done. -/
def listenerStep (l : Listener) : StatisticsStep → Listener
  | .sampleLost now reader change => l.onSampleLost now reader change
  | .sampleLostLatency call => l.onSampleLostLatency call
  | .sampleRejected change => l.onSampleRejected change
  | .subscriptionMatched now reader writer change => l.onSubscriptionMatched now reader writer change
  | .requestedIncompatibleQos change => l.onRequestedIncompatibleQos change
  | _ => l

/-- Taking samples leaves the listener and the destinations as they are. -/
theorem doStep_unread [IPLocator] (o : StatisticsObserver) (step : StatisticsStep) :
    (doStep o step).listener = listenerStep o.listener step ∧
      (doStep o step).readerDestinations = (destinationsSet step).getD o.readerDestinations := by
  cases step with
  | takeTraffic info traffic =>
    simp only [doStep, StatisticsObserver.takeTraffic]
    split_ifs <;> exact ⟨rfl, rfl⟩
  | takeCount counter info count =>
    simp only [doStep, StatisticsObserver.takeCount]
    split_ifs <;> exact ⟨rfl, rfl⟩
  | takeLost info lost =>
    simp only [doStep, StatisticsObserver.takeLost]
    split_ifs <;> exact ⟨rfl, rfl⟩
  | takePhysical info physical =>
    simp only [doStep, StatisticsObserver.takePhysical]
    split_ifs <;> exact ⟨rfl, rfl⟩
  | _ => exact ⟨rfl, rfl⟩

theorem doStep_listener [IPLocator] (o : StatisticsObserver) (step : StatisticsStep) :
    (doStep o step).listener = listenerStep o.listener step :=
  (doStep_unread o step).1

/-- What the listener knows of the matches and of the losses. -/
structure Listens (steps : List StatisticsStep) (l : Listener) : Prop where
  anyMatch : l.anyMatch = ((steps.filterMap matchTime).getLast?).isSome
  lastMatch : ∀ t, (steps.filterMap matchTime).getLast? = some t → l.lastMatch = t
  lostAtStart : l.lostAtStart = lossOf LossReport.excused steps
  lost : l.lost = lossOf (fun r ↦ !r.excused) steps
  lostLatency : l.lostLatency + l.latencyCalls.sum = lossOf LossReport.ofLatency steps

variable {steps} {l : Listener}

/-- The window is open for a loss now iff the report of it is excused. -/
theorem Listens.window (h : Listens steps l) (now : ℚ) (reader : StatisticsReader) (change : ℕ) :
    statisticsLateJoinWindowOpen l.anyMatch (now - l.lastMatch) =
      LossReport.excused ⟨steps, now, reader, change⟩ := by
  rw [statisticsLateJoinWindowOpen, LossReport.excused, h.anyMatch]
  cases hlast : (steps.filterMap matchTime).getLast? with
  | none => rfl
  | some t => rw [h.lastMatch t hlast]; rfl

theorem Listens.quiet (h : Listens steps l) {step : StatisticsStep} {after : Listener}
    (htime : matchTime step = none) (hreport : reportsFrom steps [step] = [])
    (hmatch : after.anyMatch = l.anyMatch ∧ after.lastMatch = l.lastMatch)
    (hloss : after.lostAtStart = l.lostAtStart ∧ after.lost = l.lost)
    (hlatency : after.lostLatency + after.latencyCalls.sum = l.lostLatency + l.latencyCalls.sum) :
    Listens (steps ++ [step]) after := by
  have htimes : (steps ++ [step]).filterMap matchTime = steps.filterMap matchTime := by
    simp [List.filterMap_append, htime]
  have hlossOf (p : LossReport → Bool) : lossOf p (steps ++ [step]) = lossOf p steps := by
    rw [lossOf_append, hreport]
    rfl
  exact
    { anyMatch := by rw [htimes, hmatch.1, h.anyMatch]
      lastMatch := fun t ht ↦ by rw [htimes] at ht; rw [hmatch.2, h.lastMatch t ht]
      lostAtStart := by rw [hlossOf, hloss.1, h.lostAtStart]
      lost := by rw [hlossOf, hloss.2, h.lost]
      lostLatency := by rw [hlossOf, hlatency, h.lostLatency] }

theorem Listens.sampleLost (h : Listens steps l) (now : ℚ) (reader : StatisticsReader) (change : ℕ) :
    Listens (steps ++ [.sampleLost now reader change]) (l.onSampleLost now reader change) := by
  have htimes : (steps ++ [StatisticsStep.sampleLost now reader change]).filterMap matchTime =
      steps.filterMap matchTime := by
    simp [List.filterMap_append, matchTime]
  have hwindow := h.window now reader change
  have hlossOf (p : LossReport → Bool) : lossOf p (steps ++ [.sampleLost now reader change]) =
      lossOf p steps + if p ⟨steps, now, reader, change⟩ then change else 0 := by
    rw [lossOf_append]
    cases hp : p ⟨steps, now, reader, change⟩ <;> simp [reportsFrom, hp]
  cases hexcused : LossReport.excused ⟨steps, now, reader, change⟩ with
  | true =>
    rw [Listener.onSampleLost, hwindow, hexcused, if_pos rfl]
    exact
      { anyMatch := by rw [htimes]; exact h.anyMatch
        lastMatch := fun t ht ↦ by rw [htimes] at ht; exact h.lastMatch t ht
        lostAtStart := by simp [hlossOf, hexcused, h.lostAtStart]
        lost := by simp [hlossOf, hexcused, h.lost]
        lostLatency := by simp [hlossOf, LossReport.ofLatency, hexcused, ← h.lostLatency] }
  | false =>
    rw [Listener.onSampleLost, hwindow, hexcused, if_neg Bool.false_ne_true]
    exact
      { anyMatch := by rw [htimes]; exact h.anyMatch
        lastMatch := fun t ht ↦ by rw [htimes] at ht; exact h.lastMatch t ht
        lostAtStart := by simp [hlossOf, hexcused, h.lostAtStart]
        lost := by simp [hlossOf, hexcused, h.lost]
        lostLatency := by
          rw [hlossOf, ← h.lostLatency]
          by_cases hreader : reader = .historyLatency
          · subst hreader
            simp [LossReport.ofLatency, hexcused, Nat.add_assoc]
          · simp [LossReport.ofLatency, hreader] }

/-- What a call has counted in `lost` goes to `lostLatency` as a whole. -/
theorem onSampleLostLatency_sum (l : Listener) (call : ℕ) :
    (l.onSampleLostLatency call).lostLatency + (l.onSampleLostLatency call).latencyCalls.sum =
      l.lostLatency + l.latencyCalls.sum := by
  rw [Listener.onSampleLostLatency, Nat.add_assoc]
  rcases lt_or_ge call l.latencyCalls.length with hcall | hcall
  · rw [List.getElem?_eq_getElem hcall, Option.getD_some,
      List.CommMonoid.add_sum_eraseIdx hcall]
  · rw [List.getElem?_eq_none hcall, List.eraseIdx_of_length_le hcall]
    simp

theorem Listens.subscriptionMatched (h : Listens steps l) (now : ℚ) (reader : StatisticsReader)
    (writer : GuidBytes) (change : ℤ) :
    Listens (steps ++ [.subscriptionMatched now reader writer change])
      (l.onSubscriptionMatched now reader writer change) := by
  have hlossOf (p : LossReport → Bool) :
      lossOf p (steps ++ [.subscriptionMatched now reader writer change]) = lossOf p steps := by
    rw [lossOf_append]
    simp [reportsFrom]
  by_cases hchange : 0 < change
  · have htimes : (steps ++ [StatisticsStep.subscriptionMatched now reader writer change]).filterMap
        matchTime = steps.filterMap matchTime ++ [now] := by
      simp [List.filterMap_append, matchTime, hchange]
    rw [Listener.onSubscriptionMatched, if_pos hchange, if_neg (not_le.mpr hchange)]
    exact
      { anyMatch := by rw [htimes]; simp
        lastMatch := fun t ht ↦ by rw [htimes] at ht; simpa using ht
        lostAtStart := by rw [hlossOf]; exact h.lostAtStart
        lost := by rw [hlossOf]; exact h.lost
        lostLatency := by rw [hlossOf]; exact h.lostLatency }
  · have hle := not_lt.mp hchange
    apply h.quiet
    · rw [matchTime, if_neg hchange]
    · rfl
    · rw [Listener.onSubscriptionMatched, if_neg hchange, if_pos hle]
      split_ifs <;> exact ⟨rfl, rfl⟩
    · rw [Listener.onSubscriptionMatched, if_neg hchange, if_pos hle]
      split_ifs <;> exact ⟨rfl, rfl⟩
    · rw [Listener.onSubscriptionMatched, if_neg hchange, if_pos hle]
      split_ifs <;> rfl

variable [IPLocator] (steps)

theorem listens_ingested : Listens steps (ingested steps).listener := by
  induction steps using List.reverseRecOn with
  | nil => exact ⟨rfl, fun t ht ↦ (by cases ht), rfl, rfl, rfl⟩
  | append_singleton steps step ih =>
    rw [ingested_append, doStep_listener]
    cases step with
    | sampleLost now reader change => exact ih.sampleLost now reader change
    | subscriptionMatched now reader writer change =>
      exact ih.subscriptionMatched now reader writer change
    | sampleLostLatency call =>
      exact ih.quiet rfl rfl ⟨rfl, rfl⟩ ⟨rfl, rfl⟩ (onSampleLostLatency_sum _ call)
    | _ => exact ih.quiet rfl rfl ⟨rfl, rfl⟩ ⟨rfl, rfl⟩ rfl

omit [IPLocator] in
theorem lossOf_add_not (p : LossReport → Bool) :
    lossOf (fun r ↦ !p r) steps + lossOf p steps = lossOf (fun _ ↦ true) steps := by
  unfold lossOf
  induction reports steps with
  | nil => rfl
  | cons r rest ih => cases hp : p r <;> simp [hp] at ih ⊢ <;> omega

/-- Losses are told apart by the last match, and none is lost or counted twice. -/
theorem countsLosses_ingested : CountsLosses steps (ingested steps).listener where
  lostAtStart := (listens_ingested steps).lostAtStart
  lost := (listens_ingested steps).lost
  lostLatency := (listens_ingested steps).lostLatency
  returned hcalls := by
    have hlatency := (listens_ingested steps).lostLatency
    rwa [hcalls, List.sum_nil, Nat.add_zero] at hlatency
  total := by
    rw [(listens_ingested steps).lost, (listens_ingested steps).lostAtStart]
    exact lossOf_add_not steps LossReport.excused

omit [IPLocator] in
theorem lossOf_readers :
    lossOf (fun r ↦ !r.excused) steps =
      lossOf LossReport.ofCounter steps + lossOf LossReport.ofLatency steps := by
  unfold lossOf LossReport.ofCounter LossReport.ofLatency
  induction reports steps with
  | nil => rfl
  | cons r rest ih =>
    cases hexcused : r.excused with
    | true => simpa [hexcused] using ih
    | false =>
      by_cases hreader : r.reader = .historyLatency <;> simp [hexcused, hreader] at ih ⊢ <;> omega

omit [IPLocator] in
theorem lostLatency_le_listenerStep (l : Listener) (step : StatisticsStep) :
    l.lostLatency ≤ (listenerStep l step).lostLatency := by
  cases step with
  | sampleLost now reader change =>
    rw [listenerStep, Listener.onSampleLost]
    split_ifs <;> exact le_rfl
  | sampleLostLatency call => exact Nat.le_add_right _ _
  | subscriptionMatched now reader writer change =>
    simp only [listenerStep, Listener.onSubscriptionMatched]
    split_ifs <;> exact le_rfl
  | _ => exact le_rfl

theorem lostLatency_le_ingested (later : List StatisticsStep) :
    (ingested steps).listener.lostLatency ≤ (ingested (steps ++ later)).listener.lostLatency := by
  induction later using List.reverseRecOn with
  | nil => rw [List.append_nil]
  | append_singleton later step ih =>
    rw [← List.append_assoc, ingested_append, doStep_listener]
    exact ih.trans (lostLatency_le_listenerStep _ step)

/-- A snapshot reads the two numbers one after the other, while the listener goes on. -/
def lossNumbers (stats : StatsData) (later : List StatisticsStep) : StatsData :=
  { stats with
    samplesLost := (ingested steps).listener.lost
    samplesLostLatency := (ingested (steps ++ later)).listener.lostLatency }

/-- The number of lost counter samples is too large by no more than the calls between their two
increments at the first read, and too small by no more than the latency samples lost between the two
reads. It is exact when the second read has just the latency losses of the first. -/
theorem counterSamplesLost_lossNumbers (stats : StatsData) (later : List StatisticsStep) :
    statisticsCounterSamplesLost (lossNumbers steps stats later) ≤
        lossOf LossReport.ofCounter steps + (ingested steps).listener.latencyCalls.sum ∧
      lossOf LossReport.ofCounter steps + lossOf LossReport.ofLatency steps ≤
        statisticsCounterSamplesLost (lossNumbers steps stats later) +
          lossOf LossReport.ofLatency (steps ++ later) ∧
      ((ingested (steps ++ later)).listener.lostLatency = lossOf LossReport.ofLatency steps →
        statisticsCounterSamplesLost (lossNumbers steps stats later) =
          lossOf LossReport.ofCounter steps) := by
  have hlost := (listens_ingested steps).lost
  have hlatency := (listens_ingested steps).lostLatency
  have hlater := (listens_ingested (steps ++ later)).lostLatency
  have hmono := lostLatency_le_ingested steps later
  rw [lossOf_readers] at hlost
  have hnumber : statisticsCounterSamplesLost (lossNumbers steps stats later) =
      (ingested steps).listener.lost - (ingested (steps ++ later)).listener.lostLatency := by
    unfold statisticsCounterSamplesLost lossNumbers
    split_ifs with h
    · exact Words.sub_eq h.le
    · exact (Nat.sub_eq_zero_of_le (not_lt.mp h)).symm
  rw [hnumber]
  refine ⟨?_, ?_, ?_⟩ <;> omega

/-- A latency sample whose call is between its two increments passes for a counter sample. -/
example (writer : GuidBytes) :
    statisticsCounterSamplesLost (lossNumbers
      [.subscriptionMatched 0 .historyLatency writer 1, .sampleLost 9 .historyLatency 2] {} []) = 2 := by
  norm_num [statisticsCounterSamplesLost, lossNumbers, ingested, doStep, Listener.onSubscriptionMatched,
    Listener.onSampleLost, statisticsLateJoinWindowOpen, kStatisticsLateJoinGraceSeconds, Words.sub]

end Losses

/-! ## The settle status -/

section Settles

theorem foldl_settle (heard : Finset String) (writers : List String) (out : Settle) :
    writers.foldl (Settle.note heard) out =
      { out with
        announced := out.announced + writers.length
        heard := out.heard + writers.countP fun w ↦ w ∈ heard
        unheard := out.unheard ++
          (writers.filter fun w ↦ w ∉ heard).map fun w ↦ rtpsSentTopic ++ " " ++ w } := by
  induction writers generalizing out with
  | nil => simp
  | cons w rest ih =>
    rw [List.foldl_cons, ih]
    by_cases hw : w ∈ heard
    · simp [Settle.note, hw]
      omega
    · simp [Settle.note, hw]
      omega

theorem matched_listenerStep (l : Listener) (step : StatisticsStep) (reader : StatisticsReader) :
    (listenerStep l step).matched reader = toggle (l.matched reader) (matchEntry reader step) := by
  cases step with
  | sampleLost now other change =>
    simp only [listenerStep, Listener.onSampleLost]
    split_ifs <;> rfl
  | subscriptionMatched now other writer change =>
    simp only [listenerStep, Listener.onSubscriptionMatched, matchEntry]
    by_cases hreader : other = reader
    · subst hreader
      rcases lt_trichotomy 0 change with hchange | hchange | hchange
      · simp [hchange, not_le.mpr hchange, toggle]
      · simp [← hchange, toggle]
      · simp [hchange, hchange.le, not_lt.mpr hchange.le, toggle]
    · have hne : reader ≠ other := Ne.symm hreader
      rw [if_neg hreader]
      split_ifs <;> simp [toggle, hne]
  | _ => rfl

theorem exists_measuredInstances (o : StatisticsObserver) : ∃ keys : Finset TrafficKey,
    (∀ key, key ∈ keys ↔ ∃ t, o.traffic.find? key = some t ∧
      measuresAPair t o.readerDestinations = true) ∧
    o.settleStatus.measuredInstances = keys.card := by
  refine ⟨((o.traffic.entries.filter fun e ↦
    measuresAPair e.2 o.readerDestinations).map Prod.fst).toFinset, fun key ↦ ?_, ?_⟩
  · rw [List.mem_toFinset, List.mem_map]
    constructor
    · intro ⟨e, he, hkey⟩
      rw [List.mem_filter, ← hkey] at *
      exact ⟨e.2, (OrderedMap.mem_entries_iff _ _ _).mp he.1, he.2⟩
    · intro ⟨t, ht, hmeasures⟩
      exact ⟨(key, t), List.mem_filter.mpr ⟨(OrderedMap.mem_entries_iff _ _ _).mpr ht, hmeasures⟩, rfl⟩
  · rw [StatisticsObserver.settleStatus, foldl_settle]
    exact (OrderedMap.card_keys_filter _ fun t ↦ measuresAPair t o.readerDestinations).symm

theorem heard_le_announced (o : StatisticsObserver) :
    o.settleStatus.heard ≤ o.settleStatus.announced := by
  rw [StatisticsObserver.settleStatus, foldl_settle]
  exact Nat.add_le_add_left List.countP_le_length 0

variable [IPLocator] (steps : List StatisticsStep)

theorem mem_matched_ingested (reader : StatisticsReader) (w : String) :
    w ∈ (ingested steps).listener.matched reader ↔ Latest (matchEntry reader) steps w true := by
  rw [← mem_foldl_toggle steps]
  induction steps using List.reverseRecOn generalizing w with
  | nil => rfl
  | append_singleton steps step ih =>
    rw [ingested_append, doStep_listener, matched_listenerStep, List.foldl_append, List.foldl_cons,
      List.foldl_nil, ← Finset.ext ih]

theorem readerDestinations_ingested :
    (ingested steps).readerDestinations = ((steps.filterMap destinationsSet).getLast?).getD {} := by
  induction steps using List.reverseRecOn with
  | nil => rfl
  | append_singleton steps step ih =>
    rw [ingested_append, (doStep_unread _ step).2, ih, List.filterMap_append]
    cases h : destinationsSet step <;> simp [h]

theorem measuredInstance_iff (key : TrafficKey) :
    MeasuredInstance steps key ↔ ∃ t, (ingested steps).traffic.find? key = some t ∧
      measuresAPair t (ingested steps).readerDestinations = true := by
  rw [traffic_ingested, readerDestinations_ingested]
  rfl

/-- At any moment of any run the settle status is that of the writers matched by then. -/
theorem settlesExactly_ingested : SettlesExactly steps (ingested steps).settleStatus := by
  have hheard (w : String) : w ∈ (ingested steps).heard .rtpsSent ↔ HeardFrom steps w :=
    mem_heard_ingested steps .rtpsSent w
  have hmatched := mem_matched_ingested steps .rtpsSent
  rw [StatisticsObserver.settleStatus, foldl_settle]
  set heard := (ingested steps).heard .rtpsSent
  set writers := (ingested steps).listener.matched .rtpsSent
  have hsplit : (Multimap.inOrder writers).countP (fun w ↦ w ∈ heard) +
      ((Multimap.inOrder writers).filter fun w ↦ w ∉ heard).length = (Multimap.inOrder writers).length := by
    have htotal := (Multimap.inOrder writers).length_eq_countP_add_countP fun w ↦ decide (w ∈ heard)
    rw [← List.countP_eq_length_filter]
    simpa using htotal.symm
  exact
    { announced := ⟨writers, hmatched, by simp⟩
      unheard := by
        refine ⟨(Multimap.inOrder writers).filter fun w ↦ w ∉ heard, ?_, fun w ↦ ?_, by simp⟩
        · exact (Multimap.pairwise_inOrder writers).filter _
        · rw [List.mem_filter, Multimap.mem_inOrder, hmatched, decide_eq_true_eq, hheard]
      heard := by simpa using hsplit
      all_heard := by
        simp only [Nat.zero_add]
        rw [List.countP_eq_length]
        refine forall_congr' fun w ↦ ?_
        rw [Multimap.mem_inOrder, hmatched, decide_eq_true_eq, hheard]
      measured := by
        obtain ⟨keys, hkeys, hcard⟩ := exists_measuredInstances (ingested steps)
        refine ⟨keys, fun key ↦ (hkeys key).trans (measuredInstance_iff steps key).symm, ?_⟩
        rw [← hcard, StatisticsObserver.settleStatus, foldl_settle] }

omit [IPLocator] in
/-- A drain sets no destinations. -/
theorem destinationsSet_drainSteps (w : Waiting) :
    ∀ step ∈ drainSteps w, destinationsSet step = none := by
  intro step hstep
  simp only [drainSteps, List.mem_append, List.mem_cons, List.mem_map, List.mem_flatMap] at hstep
  rcases hstep with (((hsent | hlatency) | hprune | hcount) | hlost) | hphysical
  · obtain ⟨_, -, rfl⟩ := hsent
    rfl
  · obtain ⟨_, -, rfl⟩ := hlatency
    rfl
  · rw [hprune]
    rfl
  · obtain ⟨_, -, _, -, rfl⟩ := hcount
    rfl
  · obtain ⟨_, -, rfl⟩ := hlost
    rfl
  · obtain ⟨_, -, rfl⟩ := hphysical
    rfl

end Settles

def writerMatched : StatisticsStep := .subscriptionMatched 2 .rtpsSent (guidOnHost 1 1) 1

/-- What the talker has sent to the port of the listener. -/
def packetsSent (packetCount : ℕ) : StatisticsStep :=
  .takeTraffic { writerGuid := guidOnHost 1 1 }
    { srcGuid := guidOnHost 1 0
      dstLocator := { kind := .shm, port := 7413 }
      packetCount := packetCount
      byteCount := 400 }

/-- The talker was heard from, and its counter moved towards a reader. -/
example : (@ingested plainAddresses [.setReaderDestinations { unicastPorts := {(.shm, 7413)} },
    writerMatched, packetsSent 3, packetsSent 8]).settleStatus =
      { announced := 1, heard := 1, measuredInstances := 1 } := by
  decide +kernel

end TransportViz.Observer
