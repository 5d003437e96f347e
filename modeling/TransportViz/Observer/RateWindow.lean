import Mathlib.Algebra.Order.Field.Basic
import Mathlib.Tactic.Linarith
import Mathlib.Tactic.NormNum
import Mathlib.Tactic.Positivity
import TransportViz.Observer.LatencyGaps

/-!
# What the rate window counts

A run drains the reader and chooses the window in any order, except that a window that slides is never
made the whole observation again. Over every such run the entry of a pair counts the samples of that
pair inside the window and spans their timestamps, whatever the other pairs do to the newest second
in the meantime.
-/

namespace TransportViz.Observer

/-- What is done with the observer. -/
inductive Operation where
  | drain (waiting : List LatencySample)
  | setRateWindow (sliding : Bool)

def perform (o : StatsObserver) : Operation → StatsObserver
  | .drain waiting => drain o waiting
  | .setRateWindow sliding => setRateWindow o sliding

/-- The samples that wait in the reader when the operation comes. -/
def Operation.waiting : Operation → List LatencySample
  | .drain waiting => waiting
  | .setRateWindow _ => []

def samplesOf (operations : List Operation) : List LatencySample :=
  operations.flatMap Operation.waiting

/-- The observer once the operations were performed. -/
def observed (operations : List Operation) : StatsObserver := operations.foldl perform {}

/-- The samples of the pair that were taken. -/
def takenFor (pair : GuidPair) (samples : List LatencySample) : List LatencySample :=
  samples.filter fun s ↦ s.validData && s.pair = pair

/-- Those of the window, which ends at the newest second of any pair. -/
def pairWindow (sliding : Bool) (pair : GuidPair) (samples : List LatencySample) :
    List LatencySample :=
  (takenFor pair samples).filter (inWindow sliding (newestOf samples))

def timestamps (samples : List LatencySample) : Set ℚ := {t | ∃ s ∈ samples, s.timestamp = t}

/-- The window counts the samples and spans their timestamps. -/
structure CountsExactly (w : DeliveryWindow) (samples : List LatencySample) : Prop where
  samples_eq : w.samples = samples.length
  first : IsLeast (timestamps samples) w.firstS
  last : IsGreatest (timestamps samples) w.lastS

/-- The entry of the pair in the snapshot. -/
def deliveryEntry (o : StatsObserver) (pair : GuidPair) : Option DeliveryWindow :=
  (snapshotData o).deliveryWindow.find? pair

/-- The entry tells of exactly the samples inside the window, and is there only if there are some. -/
structure RateExact (o : StatsObserver) (samples : List LatencySample) (pair : GuidPair) : Prop where
  absent : deliveryEntry o pair = none ↔ pairWindow o.slidingWindow pair samples = []
  counts : ∀ w, deliveryEntry o pair = some w →
    CountsExactly w (pairWindow o.slidingWindow pair samples)
  delivered : o.slidingWindow = false →
    (deliveryEntry o pair).map DeliveryWindow.samples = (snapshotData o).delivered.find? pair

/-- The whole nanoseconds of a timestamp are below a second. -/
def WholeNanoseconds (samples : List LatencySample) : Prop := ∀ s ∈ samples, s.nanosec < 10 ^ 9

/-- The timestamps of each pair do not go back. -/
def PairsInOrder (samples : List LatencySample) : Prop :=
  ∀ pair, (takenFor pair samples).Pairwise fun a b ↦ a.timestamp ≤ b.timestamp

/-- A window that slides stays a sliding one. -/
def StaysSliding (operations : List Operation) : Prop :=
  operations.Pairwise fun a b ↦ a = .setRateWindow true → b ≠ .setRateWindow false

/-! ## One window -/

section Window

theorem timestamps_append (first second : List LatencySample) :
    timestamps (first ++ second) = timestamps first ∪ timestamps second := by
  ext t
  simp [timestamps, or_and_right, exists_or]

theorem CountsExactly.ne_nil {w : DeliveryWindow} {samples : List LatencySample}
    (h : CountsExactly w samples) : samples ≠ [] := by
  rintro rfl
  obtain ⟨s, hs, -⟩ := h.first.1
  cases hs

theorem CountsExactly.append {w w' : DeliveryWindow} {first second : List LatencySample}
    (h : CountsExactly w first) (h' : CountsExactly w' second) :
    CountsExactly ⟨w.samples + w'.samples, min w.firstS w'.firstS, max w.lastS w'.lastS⟩
      (first ++ second) where
  samples_eq := by rw [List.length_append, h.samples_eq, h'.samples_eq]
  first := timestamps_append first second ▸ h.first.union h'.first
  last := timestamps_append first second ▸ h.last.union h'.last

theorem countsExactly_singleton (s : LatencySample) :
    CountsExactly ⟨1, s.timestamp, s.timestamp⟩ [s] := by
  have hone : timestamps [s] = {s.timestamp} := by
    ext t
    simp [timestamps, eq_comm]
  exact ⟨rfl, hone ▸ isLeast_singleton, hone ▸ isGreatest_singleton⟩

/-- What a second of a pair stands for. -/
structure CountsSecond (b : PairSecond) (chunk : List LatencySample) : Prop where
  counts : CountsExactly b.window chunk
  sec_eq : ∀ s ∈ chunk, s.sec = b.sec

theorem CountsSecond.add {b : PairSecond} {chunk : List LatencySample} (h : CountsSecond b chunk)
    (s : LatencySample) (hsec : s.sec = b.sec) :
    CountsSecond (b.add s.timestamp) (chunk ++ [s]) where
  counts := h.counts.append (countsExactly_singleton s)
  sec_eq other hother := by
    rcases List.mem_append.mp hother with hchunk | hlast
    · exact h.sec_eq other hchunk
    · rw [List.mem_singleton.mp hlast]
      exact hsec

theorem countsSecond_fresh (s : LatencySample) :
    CountsSecond ⟨s.sec, ⟨1, s.timestamp, s.timestamp⟩⟩ [s] where
  counts := countsExactly_singleton s
  sec_eq other hother := by rw [List.mem_singleton.mp hother]

/-- The reduction of the seconds counts all their samples. -/
theorem reduceWindow_of_filed {seconds : List PairSecond} {samples : List LatencySample}
    (h : Buckets.Filed CountsSecond seconds samples) :
    (samples = [] ∧ (reduceWindow seconds).samples = 0) ∨
      CountsExactly (reduceWindow seconds) samples := by
  have hfold (seconds : List PairSecond) (w : DeliveryWindow) (before after : List LatencySample)
      (hbefore : CountsExactly w before) (hafter : Buckets.Filed CountsSecond seconds after) :
      CountsExactly
        (seconds.foldl
          (fun w s ↦
            if w.samples = 0 then s.window
            else ⟨w.samples + s.window.samples, min w.firstS s.window.firstS,
              max w.lastS s.window.lastS⟩) w) (before ++ after) := by
    induction seconds generalizing w before after with
    | nil =>
      obtain ⟨chunks, rfl, hforall⟩ := hafter
      cases hforall
      simpa using hbefore
    | cons second rest ih =>
      obtain ⟨chunk, others, rfl, hsecond, hrest⟩ := hafter.exists_cons
      have hcount : w.samples ≠ 0 := fun hzero ↦
        hbefore.ne_nil (List.length_eq_zero_iff.mp (hbefore.samples_eq ▸ hzero))
      rw [List.foldl_cons, if_neg hcount, ← List.append_assoc]
      exact ih _ _ _ (hbefore.append hsecond.counts) hrest
  cases seconds with
  | nil =>
    obtain ⟨chunks, rfl, hforall⟩ := h
    cases hforall
    exact .inl ⟨rfl, rfl⟩
  | cons second rest =>
    obtain ⟨chunk, others, rfl, hsecond, hrest⟩ := h.exists_cons
    exact .inr (hfold rest second.window chunk others hsecond.counts hrest)

end Window

/-! ## What the seconds hold over a run -/

section Run

variable {pair : GuidPair}

/-- The seconds of one pair. -/
def secondsOf (o : StatsObserver) (pair : GuidPair) : List PairSecond :=
  (o.pairSeconds.find? pair).getD []

theorem secondsOf_takeSample (o : StatsObserver) (s : LatencySample) (pair : GuidPair) :
    secondsOf (takeSample o s) pair =
      if s.validData && s.pair = pair then notePairSecond s (secondsOf o pair)
      else secondsOf o pair := by
  unfold secondsOf takeSample
  cases s.validData with
  | false => simp
  | true =>
    by_cases hpair : s.pair = pair
    · simp [hpair]
    · simp [hpair, Ne.symm hpair]

theorem secondsOf_foldl (o : StatsObserver) (waiting : List LatencySample) (pair : GuidPair) :
    secondsOf (waiting.foldl takeSample o) pair =
      (takenFor pair waiting).foldl (fun seconds s ↦ notePairSecond s seconds)
        (secondsOf o pair) :=
  Buckets.foldl_seen (secondsOf · pair) takeSample _ (fun seconds s ↦ notePairSecond s seconds)
    (fun o s ↦ secondsOf_takeSample o s pair) waiting o

/-- The count of some samples, if there are any. -/
def countOf (samples : List LatencySample) : Option ℕ :=
  if samples = [] then none else some samples.length

theorem countOf_concat (samples : List LatencySample) (s : LatencySample) :
    countOf (samples ++ [s]) = some ((countOf samples).getD 0 + 1) := by
  rw [countOf, if_neg (by simp), List.length_append, List.length_singleton, countOf]
  split_ifs with hnil
  · rw [hnil]
    rfl
  · rfl

theorem delivered_foldl (o : StatsObserver) (waiting taken : List LatencySample)
    (h : o.data.delivered.find? pair = countOf taken) :
    (waiting.foldl takeSample o).data.delivered.find? pair =
      countOf (taken ++ takenFor pair waiting) := by
  induction waiting generalizing o taken with
  | nil => simpa [takenFor] using h
  | cons s rest ih =>
    rw [List.foldl_cons, takenFor, List.filter_cons]
    cases hvalid : s.validData with
    | false =>
      have hsame : takeSample o s = o := by simp [takeSample, hvalid]
      rw [hsame]
      exact ih o taken h
    | true =>
      by_cases hpair : s.pair = pair
      · have htaken : (takeSample o s).data.delivered.find? pair = countOf (taken ++ [s]) := by
          rw [countOf_concat, ← h]
          simp [takeSample, hvalid, hpair]
        have hrest := ih _ _ htaken
        rw [List.append_assoc] at hrest
        simpa [hpair, takenFor] using hrest
      · have htaken : (takeSample o s).data.delivered.find? pair = countOf taken := by
          rw [← h]
          simp [takeSample, hvalid, Ne.symm hpair]
        simpa [hpair, takenFor] using ih _ _ htaken

theorem secondsOf_pruneRateWindow (o : StatsObserver) (pair : GuidPair) :
    secondsOf (pruneRateWindow o) pair =
      keptSeconds PairSecond.sec o.slidingWindow o.newestSecond (secondsOf o pair) := by
  cases hnewest : o.newestSecond with
  | bot => simp [pruneRateWindow, keptSeconds, hnewest]
  | coe newest =>
    cases hwindow : o.slidingWindow with
    | false => simp [pruneRateWindow, keptSeconds, hnewest, hwindow]
    | true =>
      simp only [secondsOf, pruneRateWindow, keptSeconds, hnewest, hwindow, not_true_eq_false,
        if_false, if_true, getD_find?_dropOld]

theorem data_pruneRateWindow (o : StatsObserver) : (pruneRateWindow o).data = o.data := by
  unfold pruneRateWindow
  split
  · rfl
  · split_ifs <;> rfl

/-- What is known of one pair once `samples` were taken. -/
structure TracksPair (pair : GuidPair) (o : StatsObserver) (samples : List LatencySample) :
    Prop where
  newest : o.newestSecond = newestOf samples
  filed : Buckets.Filed CountsSecond (secondsOf o pair) (pairWindow o.slidingWindow pair samples)
  delivered : o.data.delivered.find? pair = countOf (takenFor pair samples)

theorem takenFor_append (pair : GuidPair) (samples more : List LatencySample) :
    takenFor pair (samples ++ more) = takenFor pair samples ++ takenFor pair more :=
  List.filter_append ..

theorem pairWindow_false (pair : GuidPair) (samples : List LatencySample) :
    pairWindow false pair samples = takenFor pair samples :=
  List.filter_eq_self.mpr fun s _ ↦ by simp [inWindow]

theorem pairWindow_sublist (sliding : Bool) (pair : GuidPair) (samples : List LatencySample) :
    (pairWindow sliding pair samples).Sublist (takenFor pair samples) :=
  List.filter_sublist

theorem pairWindow_append (sliding : Bool) (pair : GuidPair) (samples more : List LatencySample) :
    (pairWindow sliding pair samples ++ takenFor pair more).filter
        (inWindow sliding (newestOf (samples ++ more))) =
      pairWindow sliding pair (samples ++ more) := by
  rw [pairWindow, pairWindow, takenFor_append]
  exact filter_inWindow_append sliding samples more _ _

/-- Choosing the window again keeps what is inside the new one, unless the old one was narrower. -/
theorem filter_pairWindow {old sliding : Bool} (hstays : old = true → sliding = true)
    (pair : GuidPair) (samples : List LatencySample) :
    (pairWindow old pair samples).filter (inWindow sliding (newestOf samples)) =
      pairWindow sliding pair samples := by
  cases old with
  | false =>
    rw [pairWindow_false]
    rfl
  | true =>
    obtain rfl := hstays rfl
    rw [pairWindow, List.filter_filter]
    exact List.filter_congr fun s _ ↦ Bool.and_self _

/-- Draining files the samples of a pair as they come. -/
theorem filed_foldl_pair {seconds : List PairSecond} {filed : List LatencySample}
    (samples : List LatencySample) (h : Buckets.Filed CountsSecond seconds filed)
    (horder : TakenInOrder (filed ++ samples)) :
    Buckets.Filed CountsSecond
      (samples.foldl (fun seconds s ↦ notePairSecond s seconds) seconds) (filed ++ samples) := by
  refine h.foldl_note PairSecond.sec LatencySample.sec
    (fun s ↦ ⟨s.sec, ⟨1, s.timestamp, s.timestamp⟩⟩) (fun s ↦ PairSecond.add s.timestamp) samples
    countsSecond_fresh fun before s hprefix b chunk hsub hb hle ↦ hb.add s ?_
  exact Buckets.key_eq_of_le (horder.sublist hprefix.sublist) hsub hb.counts.ne_nil hb.sec_eq hle

theorem filed_pruneRateWindow_pair {o : StatsObserver} {filed : List LatencySample}
    (h : Buckets.Filed CountsSecond (secondsOf o pair) filed) (horder : TakenInOrder filed) :
    Buckets.Filed CountsSecond (secondsOf (pruneRateWindow o) pair)
      (filed.filter (inWindow o.slidingWindow o.newestSecond)) := by
  rw [secondsOf_pruneRateWindow]
  exact filed_keptSeconds h PairSecond.sec _ _ (fun _ b chunk hb ↦ hb.sec_eq)
    (fun b chunk hb ↦ hb.counts.ne_nil) fun _ ↦ horder

/-- One drain. -/
theorem TracksPair.drain {o : StatsObserver} {samples : List LatencySample}
    (h : TracksPair pair o samples) (waiting : List LatencySample)
    (horder : TakenInOrder (takenFor pair (samples ++ waiting))) :
    TracksPair pair (drain o waiting) (samples ++ waiting) := by
  have hnewest : (waiting.foldl takeSample o).newestSecond = newestOf (samples ++ waiting) := by
    rw [newestSecond_foldl, h.newest, newestOf_append]
  have hwindow := slidingWindow_foldl o waiting
  have horder' :
      TakenInOrder (pairWindow o.slidingWindow pair samples ++ takenFor pair waiting) := by
    rw [takenFor_append] at horder
    exact horder.sublist ((pairWindow_sublist _ _ _).append_right _)
  have hfiled := filed_foldl_pair (takenFor pair waiting) h.filed horder'
  rw [← secondsOf_foldl] at hfiled
  have hpruned := filed_pruneRateWindow_pair hfiled horder'
  rw [hnewest, hwindow, pairWindow_append] at hpruned
  obtain ⟨hkept, hkept'⟩ := pruneRateWindow_newestSecond (waiting.foldl takeSample o)
  have hsame : (Observer.drain o waiting).slidingWindow = o.slidingWindow := hkept'.trans hwindow
  refine ⟨hkept.trans hnewest, hsame ▸ hpruned, ?_⟩
  rw [Observer.drain, data_pruneRateWindow, takenFor_append]
  exact delivered_foldl o waiting _ h.delivered

/-- One choice of the window. -/
theorem TracksPair.setRateWindow {o : StatsObserver} {samples : List LatencySample}
    (h : TracksPair pair o samples) (sliding : Bool) (hstays : o.slidingWindow = true → sliding = true)
    (horder : TakenInOrder (takenFor pair samples)) :
    TracksPair pair (setRateWindow o sliding) samples := by
  generalize hchosen : { o with
      slidingWindow := sliding
      data := { o.data with rateWindowS := if sliding then kStatsRateWindowSeconds else 0 } } = chosen
  have hset : Observer.setRateWindow o sliding = pruneRateWindow chosen := by
    rw [← hchosen]
    rfl
  have hsliding : chosen.slidingWindow = sliding := by rw [← hchosen]
  have hnewest : chosen.newestSecond = newestOf samples := by rw [← hchosen, h.newest]
  have hseconds : secondsOf chosen pair = secondsOf o pair := by rw [← hchosen, secondsOf, secondsOf]
  have hdelivered : chosen.data.delivered = o.data.delivered := by rw [← hchosen]
  have hpruned := filed_pruneRateWindow_pair (hseconds ▸ h.filed)
    (horder.sublist (pairWindow_sublist _ _ _))
  rw [hsliding, hnewest, filter_pairWindow hstays] at hpruned
  obtain ⟨hkept, hkept'⟩ := pruneRateWindow_newestSecond chosen
  rw [hset]
  refine ⟨hkept.trans hnewest, ?_, ?_⟩
  · rw [hkept', hsliding]
    exact hpruned
  · rw [data_pruneRateWindow, hdelivered]
    exact h.delivered

theorem slidingWindow_drain (o : StatsObserver) (waiting : List LatencySample) :
    (drain o waiting).slidingWindow = o.slidingWindow :=
  (pruneRateWindow_newestSecond _).2.trans (slidingWindow_foldl o waiting)

theorem slidingWindow_setRateWindow (o : StatsObserver) (sliding : Bool) :
    (setRateWindow o sliding).slidingWindow = sliding :=
  (pruneRateWindow_newestSecond _).2

/-- A whole run. -/
theorem TracksPair.foldl_perform {o : StatsObserver} {samples : List LatencySample}
    (h : TracksPair pair o samples) (operations : List Operation)
    (horder : TakenInOrder (takenFor pair (samples ++ samplesOf operations)))
    (hstays : StaysSliding operations)
    (hsliding : o.slidingWindow = true → ∀ op ∈ operations, op ≠ .setRateWindow false) :
    TracksPair pair (operations.foldl perform o) (samples ++ samplesOf operations) := by
  induction operations generalizing o samples with
  | nil => simpa [samplesOf] using h
  | cons op rest ih =>
    obtain ⟨hhead, hrest⟩ := List.pairwise_cons.mp hstays
    rw [samplesOf, List.flatMap_cons, ← List.append_assoc] at horder ⊢
    have hbefore : TakenInOrder (takenFor pair (samples ++ op.waiting)) := by
      rw [takenFor_append] at horder
      exact (List.pairwise_append.mp horder).1
    refine ih ?_ horder hrest ?_
    · cases op with
      | drain waiting => exact h.drain waiting hbefore
      | setRateWindow sliding =>
        rw [Operation.waiting, List.append_nil] at hbefore ⊢
        refine h.setRateWindow sliding (fun hold ↦ ?_) hbefore
        have hne := hsliding hold _ (List.mem_cons_self ..)
        cases sliding with
        | false => exact absurd rfl hne
        | true => rfl
    · cases op with
      | drain waiting =>
        rw [perform, slidingWindow_drain]
        exact fun hold other hother ↦ hsliding hold other (List.mem_cons_of_mem _ hother)
      | setRateWindow sliding =>
        rw [perform, slidingWindow_setRateWindow]
        rintro rfl other hother
        exact hhead other hother rfl

end Run

/-! ## The entry in the snapshot -/

/-- Timestamps in order are seconds in order. -/
theorem sec_le_of_timestamp_le {a b : LatencySample} (hb : b.nanosec < 10 ^ 9)
    (h : a.timestamp ≤ b.timestamp) : a.sec ≤ b.sec := by
  have hfraction : (b.nanosec : ℚ) / 10 ^ 9 < 1 := by
    rw [div_lt_one (by norm_num)]
    exact_mod_cast hb
  have hpositive : (0 : ℚ) ≤ a.nanosec / 10 ^ 9 := by positivity
  have hlt : (a.sec : ℚ) < b.sec + 1 := by
    unfold LatencySample.timestamp at h
    linarith
  have hlt' : a.sec < b.sec + 1 := by exact_mod_cast hlt
  omega

theorem takenInOrder_of_pairsInOrder {samples : List LatencySample}
    (hnanoseconds : WholeNanoseconds samples) (hordered : PairsInOrder samples) (pair : GuidPair) :
    TakenInOrder (takenFor pair samples) :=
  (hordered pair).imp_of_mem fun _ hb h ↦
    sec_le_of_timestamp_le (hnanoseconds _ (List.mem_filter.mp hb).1) h

theorem deliveryEntry_eq (o : StatsObserver) (pair : GuidPair) :
    deliveryEntry o pair =
      if 0 < (reduceWindow (secondsOf o pair)).samples then some (reduceWindow (secondsOf o pair))
      else none := by
  rw [deliveryEntry, snapshotData, OrderedMap.find?_filterMap, secondsOf]
  cases o.pairSeconds.find? pair <;> rfl

theorem TracksPair.rateExact {pair : GuidPair} {o : StatsObserver} {samples : List LatencySample}
    (h : TracksPair pair o samples) : RateExact o samples pair := by
  have hentry := deliveryEntry_eq o pair
  have hdelivered : (snapshotData o).delivered.find? pair = countOf (takenFor pair samples) :=
    h.delivered
  rcases reduceWindow_of_filed h.filed with ⟨hnone, hzero⟩ | hcounts
  · rw [hzero, if_neg (lt_irrefl 0)] at hentry
    refine ⟨by simp [hentry, hnone], fun w hw ↦ ?_, fun hwhole ↦ ?_⟩
    · rw [hentry] at hw
      cases hw
    · rw [hwhole, pairWindow_false] at hnone
      rw [hentry, hdelivered, hnone]
      rfl
  · have hne := hcounts.ne_nil
    have hpos : 0 < (reduceWindow (secondsOf o pair)).samples := by
      rw [hcounts.samples_eq]
      exact List.length_pos_iff.mpr hne
    rw [if_pos hpos] at hentry
    refine ⟨by simp [hentry, hne], fun w hw ↦ ?_, fun hwhole ↦ ?_⟩
    · obtain rfl := Option.some.inj (hentry.symm.trans hw)
      exact hcounts
    · rw [hwhole, pairWindow_false] at hcounts hne
      rw [hentry, hdelivered, countOf, if_neg hne, Option.map_some, hcounts.samples_eq]

/-- The entry of every pair is exact after every run in which the timestamps of each pair come in
order. -/
theorem rateExact_observed (operations : List Operation) (pair : GuidPair)
    (hnanoseconds : WholeNanoseconds (samplesOf operations))
    (hordered : PairsInOrder (samplesOf operations)) (hstays : StaysSliding operations) :
    RateExact (observed operations) (samplesOf operations) pair := by
  have hstart : TracksPair pair {} [] := ⟨rfl, Buckets.filed_nil _, rfl⟩
  have horder := takenInOrder_of_pairsInOrder hnanoseconds hordered pair
  have htracks := hstart.foldl_perform operations (by simpa using horder) hstays
    (fun hsliding ↦ by cases hsliding)
  rw [List.nil_append] at htracks
  exact htracks.rateExact

/-- Samples of the readers `"A"` and `"B"`, drained before and after the window was made a sliding one;
`"A"` is drained after the younger `"B"`. -/
def slidingRun : List Operation :=
  [.drain [sampleOf "A" 1 3, sampleOf "B" 2 9], .setRateWindow true, .drain [sampleOf "A" 3 8]]

theorem rateExact_slidingRun :
    RateExact (observed slidingRun) (samplesOf slidingRun) (toLex ("W", "A")) := by
  refine rateExact_observed slidingRun _ ?_ ?_ ?_
  · unfold WholeNanoseconds
    decide
  · intro pair
    by_cases hfirst : toLex ("W", "A") = pair
    · subst hfirst
      decide +kernel
    · have hone : (takenFor pair (samplesOf slidingRun)).length ≤ 1 := by
        by_cases hsecond : toLex ("W", "B") = pair
        · subst hsecond
          decide
        · have hnone : takenFor pair (samplesOf slidingRun) = [] := by
            simp [takenFor, samplesOf, slidingRun, Operation.waiting, sampleOf, LatencySample.pair,
              hfirst, hsecond]
          rw [hnone]
          exact Nat.zero_le 1
      match hsamples : takenFor pair (samplesOf slidingRun), hone with
      | [], _ => exact .nil
      | [s], _ => exact List.pairwise_singleton _ s
  · unfold StaysSliding slidingRun
    simp

end TransportViz.Observer
