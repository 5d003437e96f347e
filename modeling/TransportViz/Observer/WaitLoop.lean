import TransportViz.Observer.Discovery
import TransportViz.Observer.Matches
import TransportViz.Stats.MeasurablePairs

/-!
# The wait for discovery and for the statistics

Before the first snapshot is taken, the main thread looks at its observers every 50 ms until discovery is
quiet, the statistics have settled or the time is up. Callbacks keep coming between any two looks of one
turn, so each look has its own place in the run of the discovery observer.
-/

namespace TransportViz.Observer

open Stats

/-! ## Model -/

def kStatsSettleMinSeconds : ℚ := 5

def kStatsMeasuredQuietSeconds : ℚ := 3

def watchReady (discoveryQuiet : Bool) (elapsedSeconds : ℚ) (stats : Bool) : Bool :=
  discoveryQuiet && (!stats || kStatsSettleMinSeconds ≤ elapsedSeconds)

def statsSettled (discoveryQuiet : Bool) (elapsedSeconds : ℚ)
    (writersAnnounced writersHeard measurablePairs measuredInstances : ℕ)
    (measuredQuietSeconds quietWindowSeconds : ℚ) : Bool :=
  discoveryQuiet && kStatsSettleMinSeconds ≤ elapsedSeconds && writersAnnounced ≤ writersHeard &&
    (writersAnnounced = 0 || measurablePairs = 0 || 0 < measuredInstances) &&
    quietWindowSeconds ≤ measuredQuietSeconds

structure WaitOptions where
  timeout : ℚ
  quiet : ℚ
  stats : Bool
  watch : Bool

/-- What one turn of the loop finds. -/
structure Turn where
  now : ℚ
  /-- The callbacks received at each look at the discovery observer, in the order of the looks. -/
  atLastEvent : ℕ
  atQuiet : ℕ
  atCheck : ℕ
  atCount : ℕ
  atSnapshot : ℕ
  /-- The statistics observer when it is asked for its settle status. -/
  statistics : StatisticsObserver
  ok : Bool

structure WaitState where
  measuredInstances : ℕ := 0
  measuredChangedS : ℚ := 0
  readerDestinationsEventCount : ℕ := 0
  measurablePairs : ℕ := 0
  /-- Those of the statistics observer, which only this thread sets. -/
  destinations : ReaderDestinations := {}
  deriving DecidableEq

inductive Outcome
  | timeout
  | quiet
  | settled
  | interrupted
  deriving DecidableEq

/-- An interrupted wait is not told from one whose time is up. -/
def Outcome.stoppedOn : Outcome → String
  | .timeout | .interrupted => "timeout"
  | .quiet => "quiet"
  | .settled => "settled"

section Loop

variable [FastDds]

/-- The run that is waited for: when the observer was made and the wait began, what is called back, and
the prefixes of the tool's own participants. -/
structure Surroundings where
  made : ℚ
  events : List (ℚ × DiscoveryCallback)
  start : ℚ
  ownPrefixes : Finset String

/-- The discovery observer after the first callbacks. -/
def Surroundings.seen (w : Surroundings) (received : ℕ) : DiscoveryObserver :=
  discovered w.made (w.events.take received)

variable (w : Surroundings) (o : WaitOptions) (s : WaitState) (t : Turn)

def elapsed : ℚ := t.now - w.start

def quietNow : Bool :=
  0 < o.quiet && o.quiet ≤ elapsed w t && o.quiet ≤ t.now - (w.seen t.atLastEvent).lastEvent &&
    0 < (w.seen t.atQuiet).eventCount

/-- The destinations are only looked up again after discovery delivered something. -/
def refreshDestinations : WaitState :=
  if (w.seen t.atCheck).eventCount ≠ s.readerDestinationsEventCount then
    let endpoints := (w.seen t.atSnapshot).snapshot
    { s with
      readerDestinationsEventCount := (w.seen t.atCount).eventCount
      destinations := readerDestinations endpoints w.ownPrefixes
      measurablePairs := countMeasurablePairs endpoints w.ownPrefixes }
  else s

def settleStatus : Settle := (t.statistics.setReaderDestinations s.destinations).settleStatus

def noteMeasured (settle : Settle) : WaitState :=
  if settle.measuredInstances ≠ s.measuredInstances then
    { s with measuredInstances := settle.measuredInstances, measuredChangedS := elapsed w t }
  else s

def checksSettle : Bool :=
  o.stats && !o.watch && 0 < o.quiet && kStatsSettleMinSeconds ≤ elapsed w t

def settledNow (settle : Settle) : Bool :=
  quietNow w o t &&
    statsSettled true (elapsed w t) settle.announced settle.heard s.measurablePairs
      settle.measuredInstances (elapsed w t - s.measuredChangedS)
      (max o.quiet kStatsMeasuredQuietSeconds)

/-- One turn ends the wait, with its time, or goes on. -/
def waitStep : Except (Outcome × ℚ) WaitState :=
  if o.timeout ≤ elapsed w t then .error (.timeout, elapsed w t)
  else if !o.stats && quietNow w o t then .error (.quiet, elapsed w t)
  else if o.watch && quietNow w o t && watchReady true (elapsed w t) o.stats then
    .error (.quiet, elapsed w t)
  else if checksSettle w o t then
    let s := refreshDestinations w s t
    let settle := settleStatus s t
    let s := noteMeasured w s t settle
    if settledNow w o s t settle then .error (.settled, elapsed w t)
    else if !t.ok then .error (.interrupted, elapsed w t)
    else .ok s
  else if !t.ok then .error (.interrupted, elapsed w t)
  else .ok s

def waitFor (turns : List Turn) : Except (Outcome × ℚ) WaitState :=
  turns.foldlM (waitStep w o) {}

/-! ## Specification -/

/-- Time goes on, and so does what is received, from look to look. -/
structure Orderly (turns : List Turn) : Prop where
  looks : ∀ t ∈ turns, t.atCheck ≤ t.atCount ∧ t.atCount ≤ t.atSnapshot
  turns : turns.Pairwise fun t u ↦ t.atSnapshot ≤ u.atCheck ∧ t.now ≤ u.now

/-- The destinations and the number of pairs are those of the endpoints that are known when it is
checked whether discovery delivered something, or later in the turn. -/
def Fresh : Prop :=
  ∃ received, (received = t.atCheck ∨ received = t.atSnapshot) ∧
    (refreshDestinations w s t).destinations =
        readerDestinations (w.seen received).snapshot w.ownPrefixes ∧
      (refreshDestinations w s t).measurablePairs =
        countMeasurablePairs (w.seen received).snapshot w.ownPrefixes

/-- What a turn that checks the statistics finds. -/
def found : Settle := settleStatus (refreshDestinations w s t) t

/-- Why the wait ends at the turn `t` that finds the state `s`, after the turns `before`. -/
inductive StopsFor (before : List Turn) : Outcome → Prop
  | timeout (h : o.timeout ≤ elapsed w t) : StopsFor before .timeout
  | quiet (inTime : elapsed w t < o.timeout) (quiet : quietNow w o t = true)
      (h : o.stats = false ∨ o.watch = true ∧ kStatsSettleMinSeconds ≤ elapsed w t) :
      StopsFor before .quiet
  | settled (inTime : elapsed w t < o.timeout) (quiet : quietNow w o t = true)
      (stats : o.stats = true) (watch : o.watch = false) (long : kStatsSettleMinSeconds ≤ elapsed w t)
      (heard : (found w s t).announced ≤ (found w s t).heard)
      (measured : (found w s t).announced = 0 ∨ (refreshDestinations w s t).measurablePairs = 0 ∨
        0 < (found w s t).measuredInstances)
      -- Every check of the last seconds found as many measured instances.
      (still : ∀ pre u post su, before = pre ++ u :: post → waitFor w o pre = .ok su →
        checksSettle w o u = true →
        elapsed w t - max o.quiet kStatsMeasuredQuietSeconds < elapsed w u →
        (found w su u).measuredInstances = (found w s t).measuredInstances) :
      StopsFor before .settled
  | interrupted (inTime : elapsed w t < o.timeout) (ok : t.ok = false)
      (busy : quietNow w o t = true → o.stats = true ∧
        (o.watch = true → elapsed w t < kStatsSettleMinSeconds)) : StopsFor before .interrupted

/-! ## Destinations -/

section Destinations

omit s t in
theorem seen_le {first later : ℕ} (h : first ≤ later) :
    (w.seen first).eventCount ≤ (w.seen later).eventCount := by
  rw [Surroundings.seen, Surroundings.seen, eventCount_discovered, eventCount_discovered]
  apply List.Sublist.countP_le
  exact (List.take_sublist_take_left h).map Prod.snd

omit s t in
/-- Two moments between which no event was counted know the same. -/
theorem seen_eq {first later : ℕ} (h : first ≤ later)
    (hcount : (w.seen later).eventCount = (w.seen first).eventCount) : w.seen later = w.seen first := by
  have hsplit : w.events.take later = w.events.take first ++ (w.events.drop first).take (later - first) := by
    rw [← List.take_add, Nat.add_sub_cancel' h]
  rw [Surroundings.seen, Surroundings.seen, hsplit] at hcount ⊢
  exact discovered_append_of_eventCount _ _ hcount

/-- What the destinations are of, once the discovery observer has received that much. -/
def KnownBy (received : ℕ) : Prop :=
  ∃ n ≤ received, s.readerDestinationsEventCount ≤ (w.seen n).eventCount ∧
    s.destinations = readerDestinations (w.seen n).snapshot w.ownPrefixes ∧
      s.measurablePairs = countMeasurablePairs (w.seen n).snapshot w.ownPrefixes

variable {w o s t}

theorem fresh_of_knownBy (h : KnownBy w s t.atCheck) : Fresh w s t := by
  obtain ⟨n, hn, hcount, hdestinations, hpairs⟩ := h
  by_cases hcheck : (w.seen t.atCheck).eventCount = s.readerDestinationsEventCount
  · have hsame : w.seen t.atCheck = w.seen n := by
      apply seen_eq w hn
      exact le_antisymm (hcheck.le.trans hcount) (seen_le w hn)
    refine ⟨t.atCheck, Or.inl rfl, ?_, ?_⟩
    · rw [refreshDestinations, if_neg (not_not.mpr hcheck), hdestinations, hsame]
    · rw [refreshDestinations, if_neg (not_not.mpr hcheck), hpairs, hsame]
  · refine ⟨t.atSnapshot, Or.inr rfl, ?_, ?_⟩
    · rw [refreshDestinations, if_pos hcheck]
    · rw [refreshDestinations, if_pos hcheck]

theorem knownBy_refreshDestinations (h : KnownBy w s t.atCheck)
    (hlooks : t.atCheck ≤ t.atCount ∧ t.atCount ≤ t.atSnapshot) :
    KnownBy w (refreshDestinations w s t) t.atSnapshot := by
  obtain ⟨n, hn, hcount, hdestinations, hpairs⟩ := h
  unfold refreshDestinations
  split_ifs with hcheck
  · exact ⟨t.atSnapshot, le_rfl, seen_le w hlooks.2, rfl, rfl⟩
  · exact ⟨n, hn.trans (hlooks.1.trans hlooks.2), hcount, hdestinations, hpairs⟩

theorem KnownBy.mono {first later : ℕ} (h : KnownBy w s first) (hle : first ≤ later) :
    KnownBy w s later := by
  obtain ⟨n, hn, hrest⟩ := h
  exact ⟨n, hn.trans hle, hrest⟩

end Destinations

/-! ## Turns -/

section Turns

/-- A turn after which the wait goes on. -/
structure GoesOn (after : WaitState) : Prop where
  inTime : elapsed w t < o.timeout
  checked : checksSettle w o t = true →
    after = noteMeasured w (refreshDestinations w s t) t (found w s t)
  unchecked : checksSettle w o t = false → after = s

variable {w o s t}

theorem goesOn_of_ok {after : WaitState} (h : waitStep w o s t = .ok after) :
    GoesOn w o s t after := by
  simp only [waitStep] at h
  split_ifs at h with htime hquiet hwatch hcheck hsettled hok hok
  · cases h
    exact ⟨not_le.mp htime, fun _ ↦ rfl, fun hnot ↦ absurd hcheck (by rw [hnot]; decide)⟩
  · cases h
    exact ⟨not_le.mp htime, fun hchecks ↦ absurd hchecks hcheck, fun _ ↦ rfl⟩

theorem waitFor_append_singleton (before : List Turn) :
    waitFor w o (before ++ [t]) = waitFor w o before >>= fun s ↦ waitStep w o s t := by
  rw [waitFor, List.foldlM_append]
  cases hrun : List.foldlM (waitStep w o) {} before with
  | error e => simp [waitFor, hrun]
  | ok s => simp [waitFor, hrun]

theorem waitFor_append_ok {before : List Turn} (h : waitFor w o before = .ok s) :
    waitFor w o (before ++ [t]) = waitStep w o s t := by
  rw [waitFor_append_singleton, h]
  rfl

theorem ok_of_waitFor_append {before : List Turn} {after : WaitState}
    (h : waitFor w o (before ++ [t]) = .ok after) :
    ∃ s, waitFor w o before = .ok s ∧ waitStep w o s t = .ok after := by
  rw [waitFor_append_singleton] at h
  cases hrun : waitFor w o before with
  | error e => rw [hrun] at h; cases h
  | ok s => rw [hrun] at h; exact ⟨s, rfl, h⟩

end Turns

/-! ## The whole wait -/

section Wait

variable {w o s t} {before : List Turn}

omit [FastDds] in
theorem Orderly.of_append (h : Orderly (before ++ [t])) : Orderly before where
  looks u hu := h.looks u (List.mem_append_left _ hu)
  turns := (List.pairwise_append.mp h.turns).1

omit [FastDds] in
theorem Orderly.last (h : Orderly (before ++ [t])) {u : Turn} (hu : u ∈ before) :
    u.atSnapshot ≤ t.atCheck ∧ u.now ≤ t.now :=
  (List.pairwise_append.mp h.turns).2.2 u hu t (List.mem_singleton_self t)

theorem noteMeasured_destinations (settle : Settle) {received : ℕ} (h : KnownBy w s received) :
    KnownBy w (noteMeasured w s t settle) received := by
  unfold noteMeasured
  split_ifs
  · exact h
  · exact h

theorem knownBy_of_waitFor (hrun : waitFor w o before = .ok s) (h : Orderly before) {received : ℕ}
    (hreceived : ∀ u ∈ before, u.atSnapshot ≤ received) : KnownBy w s received := by
  induction before using List.reverseRecOn generalizing s received with
  | nil =>
    cases hrun
    exact ⟨0, Nat.zero_le _, Nat.zero_le _, rfl, rfl⟩
  | append_singleton before t ih =>
    obtain ⟨previous, hprevious, hstep⟩ := ok_of_waitFor_append hrun
    have hgoes := goesOn_of_ok hstep
    have hlooks := h.looks t (by simp)
    have hlast : t.atSnapshot ≤ received := hreceived t (by simp)
    have hknown := ih hprevious h.of_append fun u hu ↦ (h.last hu).1
    cases hcheck : checksSettle w o t with
    | true =>
      rw [hgoes.checked hcheck]
      exact noteMeasured_destinations _ ((knownBy_refreshDestinations hknown hlooks).mono hlast)
    | false =>
      rw [hgoes.unchecked hcheck]
      exact hknown.mono ((hlooks.1.trans hlooks.2).trans hlast)

/-- The statistics are always judged by what discovery knows when it is asked, or later. -/
theorem fresh_of_waitFor (hrun : waitFor w o before = .ok s) (h : Orderly (before ++ [t])) :
    Fresh w s t :=
  fresh_of_knownBy (knownBy_of_waitFor hrun h.of_append fun _ hu ↦ (h.last hu).1)

variable (w o s before) in
/-- Since the number of measured instances changed, every check has found the same. -/
def StandsStill : Prop :=
  ∀ pre u post su, before = pre ++ u :: post → waitFor w o pre = .ok su → checksSettle w o u = true →
    s.measuredChangedS < elapsed w u → (found w su u).measuredInstances = s.measuredInstances

omit [FastDds] in
theorem eq_or_of_append_singleton {pre post : List Turn} {u : Turn}
    (h : before ++ [t] = pre ++ u :: post) :
    (pre = before ∧ u = t) ∨ ∃ rest, before = pre ++ u :: rest ∧ post = rest ++ [t] := by
  rcases List.eq_nil_or_concat post with rfl | ⟨rest, last, rfl⟩
  · obtain ⟨hbefore, ht⟩ := List.append_inj' h rfl
    exact Or.inl ⟨hbefore.symm, (List.singleton_inj.mp ht).symm⟩
  · rw [List.concat_eq_append, ← List.cons_append, ← List.append_assoc] at h
    obtain ⟨hbefore, ht⟩ := List.append_inj' h rfl
    exact Or.inr ⟨rest, hbefore, by rw [List.concat_eq_append, List.singleton_inj.mp ht]⟩

/-- A check carries it on: the number is the same, or it changes now. -/
theorem standsStill_noteMeasured (hrun : waitFor w o before = .ok s) (h : Orderly (before ++ [t]))
    (hstill : StandsStill w o s before) :
    StandsStill w o (noteMeasured w (refreshDestinations w s t) t (found w s t)) (before ++ [t]) := by
  have hrefresh : (refreshDestinations w s t).measuredInstances = s.measuredInstances ∧
      (refreshDestinations w s t).measuredChangedS = s.measuredChangedS := by
    unfold refreshDestinations
    split_ifs <;> exact ⟨rfl, rfl⟩
  intro pre u post su hsplit hpre hcheck hlate
  by_cases hsame : (found w s t).measuredInstances = s.measuredInstances
  · have hkept : noteMeasured w (refreshDestinations w s t) t (found w s t) = refreshDestinations w s t := by
      rw [noteMeasured, if_neg (not_not.mpr (hsame.trans hrefresh.1.symm))]
    rw [hkept, hrefresh.2] at hlate
    rw [hkept, hrefresh.1]
    rcases eq_or_of_append_singleton hsplit with ⟨rfl, rfl⟩ | ⟨rest, hbefore, -⟩
    · rw [hrun] at hpre
      cases hpre
      exact hsame
    · exact hstill pre u rest su hbefore hpre hcheck hlate
  · have hchanged : (noteMeasured w (refreshDestinations w s t) t (found w s t)).measuredChangedS =
        elapsed w t := by
      rw [noteMeasured, if_pos fun heq ↦ hsame (heq.trans hrefresh.1)]
    rw [hchanged] at hlate
    have hle : u.now ≤ t.now := by
      rcases eq_or_of_append_singleton hsplit with ⟨-, rfl⟩ | ⟨rest, hbefore, -⟩
      · exact le_rfl
      · exact (h.last (by rw [hbefore]; simp)).2
    exact absurd hlate (not_lt.mpr (sub_le_sub_right hle _))

theorem standsStill_of_waitFor (hrun : waitFor w o before = .ok s) (h : Orderly before) :
    StandsStill w o s before := by
  induction before using List.reverseRecOn generalizing s with
  | nil =>
    intro pre u post su hsplit
    simp at hsplit
  | append_singleton before t ih =>
    obtain ⟨previous, hprevious, hstep⟩ := ok_of_waitFor_append hrun
    have hgoes := goesOn_of_ok hstep
    have hstill := ih hprevious h.of_append
    cases hcheck : checksSettle w o t with
    | true =>
      rw [hgoes.checked hcheck]
      exact standsStill_noteMeasured hprevious h hstill
    | false =>
      rw [hgoes.unchecked hcheck]
      intro pre u post su hsplit hpre hu hlate
      rcases eq_or_of_append_singleton hsplit with ⟨-, rfl⟩ | ⟨rest, hbefore, -⟩
      · rw [hcheck] at hu
        cases hu
      · exact hstill pre u rest su hbefore hpre hu hlate

omit [FastDds] in
theorem measuredInstances_noteMeasured (settle : Settle) :
    (noteMeasured w s t settle).measuredInstances = settle.measuredInstances := by
  unfold noteMeasured
  split_ifs with h
  · rfl
  · exact (not_not.mp h).symm

omit [FastDds] in
theorem measurablePairs_noteMeasured (settle : Settle) :
    (noteMeasured w s t settle).measurablePairs = s.measurablePairs := by
  unfold noteMeasured
  split_ifs <;> rfl

theorem busy_of_not_quiet (hquiet : ¬(!o.stats && quietNow w o t) = true)
    (hwatch : ¬(o.watch && quietNow w o t && watchReady true (elapsed w t) o.stats) = true)
    (hnow : quietNow w o t = true) :
    o.stats = true ∧ (o.watch = true → elapsed w t < kStatsSettleMinSeconds) := by
  have hstats : o.stats = true := by simpa [hnow] using hquiet
  refine ⟨hstats, fun hwatching ↦ ?_⟩
  simpa [watchReady, hstats, hnow, hwatching] using hwatch

theorem inTime_of_waitFor (hrun : waitFor w o before = .ok s) :
    ∀ u ∈ before, elapsed w u < o.timeout := by
  induction before using List.reverseRecOn generalizing s with
  | nil => simp
  | append_singleton before t ih =>
    obtain ⟨previous, hprevious, hstep⟩ := ok_of_waitFor_append hrun
    intro u hu
    rcases List.mem_append.mp hu with hu | hu
    · exact ih hprevious u hu
    · rw [List.mem_singleton.mp hu]
      exact (goesOn_of_ok hstep).inTime

/-- What is reported as a timeout is one, or the wait was interrupted. -/
theorem StopsFor.stoppedOn_timeout {outcome : Outcome} (h : StopsFor w o s t before outcome) :
    outcome.stoppedOn = "timeout" ↔ o.timeout ≤ elapsed w t ∨ outcome = .interrupted := by
  cases h with
  | timeout htime => exact iff_of_true rfl (Or.inl htime)
  | quiet inTime => exact iff_of_false (by decide) (by simp [inTime])
  | settled inTime => exact iff_of_false (by decide) (by simp [inTime])
  | interrupted => exact iff_of_true rfl (Or.inr rfl)

/-- The wait ends for a reason that it has. -/
theorem stopsFor_of_error {outcome : Outcome} {stop : ℚ} (h : Orderly (before ++ [t]))
    (hrun : waitFor w o before = .ok s) (hstop : waitFor w o (before ++ [t]) = .error (outcome, stop)) :
    StopsFor w o s t before outcome ∧ stop = elapsed w t := by
  rw [waitFor_append_ok hrun] at hstop
  simp only [waitStep] at hstop
  split_ifs at hstop with htime hquiet hwatch hcheck hsettled hok hok
  · cases hstop
    exact ⟨.timeout htime, rfl⟩
  · cases hstop
    rw [Bool.and_eq_true, Bool.not_eq_true'] at hquiet
    exact ⟨.quiet (not_le.mp htime) hquiet.2 (Or.inl hquiet.1), rfl⟩
  · cases hstop
    simp only [Bool.and_eq_true, watchReady, Bool.true_and, Bool.or_eq_true, Bool.not_eq_true',
      decide_eq_true_eq] at hwatch
    exact ⟨.quiet (not_le.mp htime) hwatch.1.2 (hwatch.2.imp id fun hlong ↦ ⟨hwatch.1.1, hlong⟩), rfl⟩
  · cases hstop
    simp only [checksSettle, Bool.and_eq_true, Bool.not_eq_true', decide_eq_true_eq] at hcheck
    simp only [settledNow, statsSettled, Bool.and_eq_true, Bool.or_eq_true, Bool.true_and,
      decide_eq_true_eq] at hsettled
    obtain ⟨hnow, ⟨⟨hlong, hheard⟩, hmeasured⟩, hwindow⟩ := hsettled
    refine ⟨.settled (not_le.mp htime) hnow hcheck.1.1.1 hcheck.1.1.2 hlong hheard ?_ ?_, rfl⟩
    · rw [or_assoc, measurablePairs_noteMeasured] at hmeasured
      exact hmeasured
    · intro pre u post su hbefore hpre hu hlate
      have hstill := standsStill_noteMeasured hrun h (standsStill_of_waitFor hrun h.of_append)
      have hnumber := hstill pre u (post ++ [t]) su (by rw [hbefore]; simp) hpre hu
        ((le_sub_comm.mp hwindow).trans_lt hlate)
      rwa [measuredInstances_noteMeasured] at hnumber
  · cases hstop
    exact ⟨.interrupted (not_le.mp htime) (by simpa using hok) (busy_of_not_quiet hquiet hwatch), rfl⟩
  · cases hstop
    exact ⟨.interrupted (not_le.mp htime) (by simpa using hok) (busy_of_not_quiet hquiet hwatch), rfl⟩

/-- The wait ends for the reason it gives, and in the first turn in which the time is up; what it
reports as a timeout may also be an interruption. -/
theorem stopsFor_of_waitFor {outcome : Outcome} {stop : ℚ} (h : Orderly (before ++ [t]))
    (hrun : waitFor w o before = .ok s) (hstop : waitFor w o (before ++ [t]) = .error (outcome, stop)) :
    StopsFor w o s t before outcome ∧
      (outcome.stoppedOn = "timeout" ↔ o.timeout ≤ elapsed w t ∨ outcome = .interrupted) ∧
      stop = elapsed w t ∧ ∀ u ∈ before, elapsed w u < o.timeout := by
  obtain ⟨hstops, hstop⟩ := stopsFor_of_error h hrun hstop
  exact ⟨hstops, hstops.stoppedOn_timeout, hstop, inTime_of_waitFor hrun⟩

end Wait

end Loop

/-! ## A wait that settles -/

def statisticsLook : WaitOptions where
  timeout := 30
  quiet := 1
  stats := true
  watch := false

def talkAndListen : Surroundings where
  made := 0
  events := [(1, talkerFound), (5, listenerFound)]
  start := 0
  ownPrefixes := ∅

/-- A turn in which as much is received until the last look, and the statistics took the steps. -/
def turnAt (now : ℚ) (received atSnapshot : ℕ) (steps : List StatisticsStep) : Turn where
  now := now
  atLastEvent := received
  atQuiet := received
  atCheck := received
  atCount := received
  atSnapshot := atSnapshot
  statistics := @ingested plainAddresses steps
  ok := true

/-- No check yet; one that the listener is found in, between two looks; one that looks it up again; and
one with the destinations of the last. -/
def settlingTurns : List Turn :=
  [turnAt 2 1 1 [], turnAt 5 1 2 [writerMatched],
    turnAt 6 2 2 [writerMatched, packetsSent 3, packetsSent 8],
    turnAt 8 2 2 [writerMatched, packetsSent 3, packetsSent 8]]

def lastTurn : Turn := turnAt 9 2 2 [writerMatched, packetsSent 3, packetsSent 8, packetsSent 9]

def settlingState : WaitState where
  measuredInstances := 1
  measuredChangedS := 6
  readerDestinationsEventCount := 2
  measurablePairs := 1
  destinations := { unicastPorts := {(.shm, 7413)} }

theorem orderly_settlingTurns : Orderly (settlingTurns ++ [lastTurn]) where
  looks := by decide +kernel
  turns := by decide +kernel

theorem waitFor_settlingTurns :
    @waitFor sampleFastDds talkAndListen statisticsLook settlingTurns = .ok settlingState := by
  decide +kernel

theorem waitFor_lastTurn :
    @waitFor sampleFastDds talkAndListen statisticsLook (settlingTurns ++ [lastTurn]) =
      .error (.settled, 9) := by
  decide +kernel

theorem stopsFor_of_waitFor_lastTurn :
    @StopsFor sampleFastDds talkAndListen statisticsLook settlingState lastTurn settlingTurns .settled ∧
      (Outcome.settled.stoppedOn = "timeout" ↔
        statisticsLook.timeout ≤ elapsed talkAndListen lastTurn ∨ Outcome.settled = .interrupted) ∧
      9 = elapsed talkAndListen lastTurn ∧
      ∀ u ∈ settlingTurns, elapsed talkAndListen u < statisticsLook.timeout :=
  @stopsFor_of_waitFor sampleFastDds talkAndListen statisticsLook settlingState lastTurn settlingTurns
    .settled 9 orderly_settlingTurns waitFor_settlingTurns waitFor_lastTurn

theorem fresh_of_waitFor_lastTurn : @Fresh sampleFastDds talkAndListen settlingState lastTurn :=
  @fresh_of_waitFor sampleFastDds talkAndListen statisticsLook settlingState lastTurn settlingTurns
    waitFor_settlingTurns orderly_settlingTurns

end TransportViz.Observer
