import Mathlib.Data.Finset.Max
import Mathlib.Data.Finset.Interval
import Mathlib.Data.Int.ConditionallyCompleteOrder
import Mathlib.Order.Interval.Finset.Nat
import Mathlib.Order.Bounds.Basic
import TransportViz.Observer.LatencyWindow

/-!
# Which sequence numbers were never taken

`missing` says it from the samples alone: the numbers between the smallest and the largest one inside
the window that no sample taken carries. The observer has the buckets only. They lead to the same
number as long as no bucket that is dropped has samples of a younger second, or one that is kept
samples of an older one.
-/

namespace TransportViz.Observer

/-- The samples of one statistics writer that were taken. -/
def takenFrom (publisher : String) (samples : List LatencySample) : List LatencySample :=
  samples.filter fun s ↦ s.validData && s.publisher = publisher

/-- The newest second any sample carried. -/
def newestOf (samples : List LatencySample) : WithBot ℤ :=
  (samples.filter LatencySample.validData).foldl (fun newest s ↦ max newest s.sec) ⊥

/-- The whole observation, or its last `kStatsRateWindowSeconds`. -/
def inWindow (sliding : Bool) (newest : WithBot ℤ) (s : LatencySample) : Bool :=
  !sliding || WithBot.recBotCoe true (fun second ↦ second < s.sec + kStatsRateWindowSeconds) newest

/-- The samples of one statistics writer inside the window. -/
def window (sliding : Bool) (publisher : String) (samples : List LatencySample) :
    List LatencySample :=
  (takenFrom publisher samples).filter (inWindow sliding (newestOf samples))

def seqs (samples : List LatencySample) : Finset ℕ := (samples.map LatencySample.seq).toFinset

/-- The sequence numbers between the smallest and the largest one inside the window that were never
taken. -/
def missing (sliding : Bool) (publisher : String) (samples : List LatencySample) : Finset ℕ :=
  if h : (seqs (window sliding publisher samples)).Nonempty then
    Finset.Icc ((seqs (window sliding publisher samples)).min' h)
      ((seqs (window sliding publisher samples)).max' h) \ seqs (takenFrom publisher samples)
  else ∅

/-- The gaps of the statistics writer, as the snapshot after `observer`'s last drain reports them. -/
def reportedGaps (observer : StatsObserver) (publisher : String) : Option ℕ :=
  (snapshotData observer).latencyGaps.find? publisher

/-- There is an entry exactly when numbers are missing, and it counts them. -/
def GapsExact (observer : StatsObserver) (sliding : Bool) (samples : List LatencySample)
    (publisher : String) : Prop :=
  reportedGaps observer publisher =
    if missing sliding publisher samples = ∅ then none
    else some (missing sliding publisher samples).card

/-- A statistics writer numbers its samples, and its clock does not go back in whole seconds. -/
structure Numbered (samples : List LatencySample) : Prop where
  distinct : (samples.map LatencySample.seq).Nodup
  ordered : ∀ a ∈ samples, ∀ b ∈ samples, a.seq ≤ b.seq → a.sec ≤ b.sec

/-- No sample is taken after one of a later second. -/
def TakenInOrder (samples : List LatencySample) : Prop := samples.Pairwise fun a b ↦ a.sec ≤ b.sec

/-! ## Ranges of sequence numbers -/

section Spans

/-- The range of sequence numbers of some samples, and how many they are. -/
structure Spans (lo hi count : ℕ) (samples : List LatencySample) : Prop where
  count_eq : count = samples.length
  least : samples ≠ [] → IsLeast (seqs samples : Set ℕ) lo
  greatest : samples ≠ [] → IsGreatest (seqs samples : Set ℕ) hi

theorem seqs_append (first second : List LatencySample) :
    (seqs (first ++ second) : Set ℕ) = (seqs first : Set ℕ) ∪ (seqs second : Set ℕ) := by
  simp [seqs, List.toFinset_append]

theorem spans_singleton (s : LatencySample) : Spans s.seq s.seq 1 [s] := by
  have hseqs : (seqs [s] : Set ℕ) = {s.seq} := by simp [seqs]
  exact ⟨rfl, fun _ ↦ hseqs ▸ isLeast_singleton, fun _ ↦ hseqs ▸ isGreatest_singleton⟩

/-- Merging two ranges, the first of which may be of no sample yet. -/
theorem Spans.append {lo hi count lo' hi' count' : ℕ} {first second : List LatencySample}
    (h : Spans lo hi count first) (h' : Spans lo' hi' count' second) (hne : second ≠ []) :
    Spans (min (if count = 0 then lo' else lo) lo') (max (if count = 0 then hi' else hi) hi')
      (count + count') (first ++ second) := by
  refine ⟨by rw [List.length_append, h.count_eq, h'.count_eq], fun _ ↦ ?_, fun _ ↦ ?_⟩
  · by_cases hcount : count = 0
    · obtain rfl := List.length_eq_zero_iff.mp (h.count_eq ▸ hcount)
      simpa [hcount] using h'.least hne
    · have hfirst : first ≠ [] := fun hnil ↦ hcount (by rw [h.count_eq, hnil, List.length_nil])
      rw [if_neg hcount, seqs_append]
      exact (h.least hfirst).union (h'.least hne)
  · by_cases hcount : count = 0
    · obtain rfl := List.length_eq_zero_iff.mp (h.count_eq ▸ hcount)
      simpa [hcount] using h'.greatest hne
    · have hfirst : first ≠ [] := fun hnil ↦ hcount (by rw [h.count_eq, hnil, List.length_nil])
      rw [if_neg hcount, seqs_append]
      exact (h.greatest hfirst).union (h'.greatest hne)

/-- What a bucket stands for; a timely one has samples of its own second only. -/
structure Summarizes (timely : Prop) (b : WriterSecond) (chunk : List LatencySample) : Prop where
  ne_nil : chunk ≠ []
  spans : Spans b.minSeq b.maxSeq b.samples chunk
  timely : timely → ∀ s ∈ chunk, s.sec = b.sec

theorem Summarizes.add {timely : Prop} {b : WriterSecond} {chunk : List LatencySample}
    (h : Summarizes timely b chunk) (s : LatencySample) (hsec : timely → s.sec = b.sec) :
    Summarizes timely (b.add s.seq) (chunk ++ [s]) := by
  have hcount : b.samples ≠ 0 := fun hzero ↦
    h.ne_nil (List.length_eq_zero_iff.mp (h.spans.count_eq ▸ hzero))
  have hspans := h.spans.append (spans_singleton s) (List.cons_ne_nil s [])
  rw [if_neg hcount, if_neg hcount] at hspans
  refine ⟨by simp, hspans, fun htimely other hother ↦ ?_⟩
  rcases List.mem_append.mp hother with hother | hother
  · exact h.timely htimely other hother
  · rw [List.mem_singleton.mp hother]
    exact hsec htimely

theorem summarizes_fresh (timely : Prop) (s : LatencySample) :
    Summarizes timely ⟨s.sec, s.seq, s.seq, 1⟩ [s] :=
  ⟨List.cons_ne_nil s [], spans_singleton s, fun _ other hother ↦ by
    rw [List.mem_singleton.mp hother]⟩

/-- The reduction of the buckets spans all their samples. -/
theorem spans_foldl {timely : Prop} {buckets : List WriterSecond} {samples : List LatencySample}
    (h : Buckets.Filed (Summarizes timely) buckets samples) (range : SeqRange)
    (before : List LatencySample) (hbefore : Spans range.minSeq range.maxSeq range.samples before) :
    Spans (buckets.foldl SeqRange.add range).minSeq (buckets.foldl SeqRange.add range).maxSeq
      (buckets.foldl SeqRange.add range).samples (before ++ samples) := by
  induction buckets generalizing samples range before with
  | nil =>
    obtain ⟨chunks, rfl, hforall⟩ := h
    cases hforall
    simpa using hbefore
  | cons b rest ih =>
    obtain ⟨chunk, others, rfl, hb, hrest⟩ := h.exists_cons
    rw [List.foldl_cons, ← List.append_assoc]
    exact ih hrest _ _ (hbefore.append hb.spans hb.ne_nil)

end Spans

/-! ## What the buckets hold over a run -/

section Run

variable {publisher : String}

/-- The buckets of one statistics writer. -/
def bucketsOf (o : StatsObserver) (publisher : String) : List WriterSecond :=
  (o.writerSeconds.find? publisher).getD []

theorem bucketsOf_takeSample (o : StatsObserver) (s : LatencySample) (publisher : String) :
    bucketsOf (takeSample o s) publisher =
      if s.validData && s.publisher = publisher then noteWriterSecond s (bucketsOf o publisher)
      else bucketsOf o publisher := by
  unfold bucketsOf takeSample
  cases s.validData with
  | false => simp
  | true =>
    by_cases hpublisher : s.publisher = publisher
    · simp [hpublisher]
    · simp [hpublisher, Ne.symm hpublisher]

theorem bucketsOf_foldl (o : StatsObserver) (waiting : List LatencySample) (publisher : String) :
    bucketsOf (waiting.foldl takeSample o) publisher =
      (takenFrom publisher waiting).foldl (fun buckets s ↦ noteWriterSecond s buckets)
        (bucketsOf o publisher) :=
  Buckets.foldl_seen (bucketsOf · publisher) takeSample _ (fun buckets s ↦ noteWriterSecond s buckets)
    (fun o s ↦ bucketsOf_takeSample o s publisher) waiting o

theorem newestSecond_foldl (o : StatsObserver) (waiting : List LatencySample) :
    (waiting.foldl takeSample o).newestSecond =
      (waiting.filter LatencySample.validData).foldl (fun newest s ↦ max newest s.sec)
        o.newestSecond := by
  refine Buckets.foldl_seen StatsObserver.newestSecond takeSample _ _ (fun o s ↦ ?_) waiting o
  cases hvalid : s.validData <;> simp [takeSample, hvalid]

theorem slidingWindow_foldl (o : StatsObserver) (waiting : List LatencySample) :
    (waiting.foldl takeSample o).slidingWindow = o.slidingWindow := by
  apply List.foldlRecOn (motive := fun taken : StatsObserver ↦
    taken.slidingWindow = o.slidingWindow) waiting takeSample
  · rfl
  · intro taken htaken s _
    rw [← htaken, takeSample]
    split_ifs <;> rfl

/-- Draining files the samples as they come. -/
theorem filed_foldl {timely : Prop} {buckets : List WriterSecond} {filed : List LatencySample}
    (samples : List LatencySample) (h : Buckets.Filed (Summarizes timely) buckets filed)
    (horder : timely → TakenInOrder (filed ++ samples)) :
    Buckets.Filed (Summarizes timely)
      (samples.foldl (fun buckets s ↦ noteWriterSecond s buckets) buckets) (filed ++ samples) := by
  refine h.foldl_note WriterSecond.sec LatencySample.sec (fun s ↦ ⟨s.sec, s.seq, s.seq, 1⟩)
    (fun s ↦ WriterSecond.add s.seq) samples (summarizes_fresh timely)
    fun before s hprefix b chunk hsub hb hle ↦ hb.add s fun htimely ↦ ?_
  have hsorted := (horder htimely).sublist hprefix.sublist
  exact Buckets.key_eq_of_le hsorted hsub hb.ne_nil (hb.timely htimely) hle

theorem getD_dropOld {β : Type} (sec : β → ℤ) (oldest : ℤ) (seconds : List β) :
    (dropOld sec oldest seconds).getD [] = seconds.dropWhile fun b ↦ sec b < oldest := by
  unfold dropOld
  simp only
  split_ifs with hempty
  · rw [hempty]
    rfl
  · rfl

theorem getD_find?_dropOld {β κ : Type} [LinearOrder κ] (map : OrderedMap κ (List β)) (key : κ)
    (sec : β → ℤ) (oldest : ℤ) :
    ((map.filterMap (dropOld sec oldest)).find? key).getD [] =
      ((map.find? key).getD []).dropWhile fun b ↦ sec b < oldest := by
  rw [OrderedMap.find?_filterMap]
  cases map.find? key with
  | none => rfl
  | some seconds => exact getD_dropOld sec oldest seconds

theorem inWindow_iff (sliding : Bool) (newest : WithBot ℤ) (s : LatencySample) :
    inWindow sliding newest s = true ↔
      sliding = false ∨ newest < ((s.sec + kStatsRateWindowSeconds : ℤ) : WithBot ℤ) := by
  cases newest with
  | bot => simp [inWindow]
  | coe second => simp only [inWindow, WithBot.recBotCoe_coe, WithBot.coe_lt_coe, Bool.or_eq_true,
      Bool.not_eq_true', decide_eq_true_eq]

theorem inWindow_bot (sliding : Bool) (s : LatencySample) : inWindow sliding ⊥ s = true := by
  simp [inWindow]

theorem inWindow_coe (newest : ℤ) (s : LatencySample) :
    inWindow true newest s = decide (newest - kStatsRateWindowSeconds + 1 ≤ s.sec) := by
  simp only [inWindow, Bool.not_true, Bool.false_or, WithBot.recBotCoe_coe, decide_eq_decide]
  omega

theorem pruneRateWindow_newestSecond (o : StatsObserver) :
    (pruneRateWindow o).newestSecond = o.newestSecond ∧
      (pruneRateWindow o).slidingWindow = o.slidingWindow := by
  unfold pruneRateWindow
  split
  · exact ⟨rfl, rfl⟩
  · split_ifs <;> exact ⟨rfl, rfl⟩

/-- What pruning leaves of the seconds of one pair or of one statistics writer. -/
def keptSeconds {β : Type} (sec : β → ℤ) (sliding : Bool) (newest : WithBot ℤ)
    (seconds : List β) : List β :=
  match newest with
  | ⊥ => seconds
  | (newest : ℤ) =>
      if sliding then seconds.dropWhile fun b ↦ sec b < newest - kStatsRateWindowSeconds + 1
      else seconds

theorem bucketsOf_pruneRateWindow (o : StatsObserver) (publisher : String) :
    bucketsOf (pruneRateWindow o) publisher =
      keptSeconds WriterSecond.sec o.slidingWindow o.newestSecond (bucketsOf o publisher) := by
  cases hnewest : o.newestSecond with
  | bot => simp [pruneRateWindow, keptSeconds, hnewest]
  | coe newest =>
    cases hwindow : o.slidingWindow with
    | false => simp [pruneRateWindow, keptSeconds, hnewest, hwindow]
    | true =>
      simp only [bucketsOf, pruneRateWindow, keptSeconds, hnewest, hwindow, not_true_eq_false,
        if_false, if_true, getD_find?_dropOld]

/-- What is kept stands for the samples inside the window, provided that the samples came in order and
every one of them is in the bucket of its own second. -/
theorem filed_keptSeconds {β : Type} {holds : β → List LatencySample → Prop} {seconds : List β}
    {filed : List LatencySample} (h : Buckets.Filed holds seconds filed) (sec : β → ℤ)
    (sliding : Bool) (newest : WithBot ℤ)
    (hkeys : sliding = true → ∀ b chunk, holds b chunk → ∀ s ∈ chunk, s.sec = sec b)
    (hne : ∀ b chunk, holds b chunk → chunk ≠ []) (horder : sliding = true → TakenInOrder filed) :
    Buckets.Filed holds (keptSeconds sec sliding newest seconds)
      (filed.filter (inWindow sliding newest)) := by
  cases newest with
  | bot =>
    rw [List.filter_eq_self.mpr fun s _ ↦ inWindow_bot sliding s]
    exact h
  | coe newest =>
    cases sliding with
    | false =>
      rw [List.filter_eq_self.mpr fun s _ ↦ by simp [inWindow]]
      exact h
    | true =>
      rw [List.filter_congr fun s _ ↦ inWindow_coe newest s]
      exact h.dropWhile sec LatencySample.sec (hkeys rfl) hne (horder rfl) _

/-- Pruning keeps what is inside the window, provided that every bucket is timely. -/
theorem filed_pruneRateWindow {timely : Prop} {o : StatsObserver} {filed : List LatencySample}
    (h : Buckets.Filed (Summarizes timely) (bucketsOf o publisher) filed)
    (hsliding : o.slidingWindow = true → timely) (horder : timely → TakenInOrder filed) :
    Buckets.Filed (Summarizes timely) (bucketsOf (pruneRateWindow o) publisher)
      (filed.filter (inWindow o.slidingWindow o.newestSecond)) := by
  rw [bucketsOf_pruneRateWindow]
  exact filed_keptSeconds h WriterSecond.sec _ _ (fun hslides b chunk hb ↦ hb.timely (hsliding hslides))
    (fun b chunk hb ↦ hb.ne_nil) fun hslides ↦ horder (hsliding hslides)

/-- What is known of one statistics writer once `samples` were taken. -/
structure Tracks (timely : Prop) (publisher : String) (o : StatsObserver)
    (samples : List LatencySample) : Prop where
  newest : o.newestSecond = newestOf samples
  filed : Buckets.Filed (Summarizes timely) (bucketsOf o publisher)
    (window o.slidingWindow publisher samples)

theorem takenFrom_append (publisher : String) (samples more : List LatencySample) :
    takenFrom publisher (samples ++ more) =
      takenFrom publisher samples ++ takenFrom publisher more := List.filter_append ..

theorem newestOf_append (samples more : List LatencySample) :
    newestOf (samples ++ more) =
      (more.filter LatencySample.validData).foldl (fun newest s ↦ max newest s.sec)
        (newestOf samples) := by
  rw [newestOf, List.filter_append, List.foldl_append]
  rfl

theorem newestOf_le_append (samples more : List LatencySample) :
    newestOf samples ≤ newestOf (samples ++ more) := by
  rw [newestOf_append]
  generalize newestOf samples = newest
  generalize more.filter LatencySample.validData = valid
  induction valid generalizing newest with
  | nil => exact le_rfl
  | cons s rest ih => exact (le_max_left _ _).trans (ih _)

/-- A younger end of the window leaves less inside. -/
theorem inWindow_antitone {sliding : Bool} {newest newest' : WithBot ℤ} (h : newest ≤ newest')
    (s : LatencySample) (hinside : inWindow sliding newest' s = true) :
    inWindow sliding newest s = true := by
  rw [inWindow_iff] at hinside ⊢
  exact hinside.imp_right fun hlt ↦ h.trans_lt hlt

/-- What the window keeps of the samples it kept before and of new ones. -/
theorem filter_inWindow_append (sliding : Bool) (samples more taken extra : List LatencySample) :
    (taken.filter (inWindow sliding (newestOf samples)) ++ extra).filter
        (inWindow sliding (newestOf (samples ++ more))) =
      (taken ++ extra).filter (inWindow sliding (newestOf (samples ++ more))) := by
  rw [List.filter_append, List.filter_append, List.filter_filter]
  congr 1
  refine List.filter_congr fun s _ ↦ ?_
  rw [Bool.and_eq_left_iff_imp]
  exact inWindow_antitone (newestOf_le_append samples more) s

theorem filter_window_append (sliding : Bool) (publisher : String)
    (samples more : List LatencySample) :
    (window sliding publisher samples ++ takenFrom publisher more).filter
        (inWindow sliding (newestOf (samples ++ more))) =
      window sliding publisher (samples ++ more) := by
  rw [window, window, takenFrom_append]
  exact filter_inWindow_append sliding samples more _ _

theorem window_sublist (sliding : Bool) (publisher : String) (samples : List LatencySample) :
    (window sliding publisher samples).Sublist (takenFrom publisher samples) :=
  List.filter_sublist

/-- One drain. -/
theorem Tracks.drain {timely : Prop} {o : StatsObserver} {samples : List LatencySample}
    (h : Tracks timely publisher o samples) (waiting : List LatencySample)
    (hsliding : o.slidingWindow = true → timely)
    (horder : timely → TakenInOrder (takenFrom publisher (samples ++ waiting))) :
    Tracks timely publisher (drain o waiting) (samples ++ waiting) ∧
      (drain o waiting).slidingWindow = o.slidingWindow := by
  have hnewest : (waiting.foldl takeSample o).newestSecond = newestOf (samples ++ waiting) := by
    rw [newestSecond_foldl, h.newest, newestOf_append]
  have hwindow := slidingWindow_foldl o waiting
  have horder' (htimely : timely) :
      TakenInOrder (window o.slidingWindow publisher samples ++ takenFrom publisher waiting) := by
    have hall := horder htimely
    rw [takenFrom_append] at hall
    exact hall.sublist ((window_sublist _ _ _).append_right _)
  have hfiled := filed_foldl (takenFrom publisher waiting) h.filed horder'
  rw [← bucketsOf_foldl] at hfiled
  have hpruned := filed_pruneRateWindow hfiled (hwindow ▸ hsliding) horder'
  rw [hnewest, hwindow, filter_window_append] at hpruned
  obtain ⟨hkept, hkept'⟩ := pruneRateWindow_newestSecond (waiting.foldl takeSample o)
  have hsame : (Observer.drain o waiting).slidingWindow = o.slidingWindow := hkept'.trans hwindow
  exact ⟨⟨hkept.trans hnewest, hsame ▸ hpruned⟩, hsame⟩

theorem Tracks.drains {timely : Prop} {o : StatsObserver} {samples : List LatencySample}
    (h : Tracks timely publisher o samples) (drains : List (List LatencySample))
    (hsliding : o.slidingWindow = true → timely)
    (horder : timely → TakenInOrder (takenFrom publisher (samples ++ drains.flatten))) :
    Tracks timely publisher (drains.foldl Observer.drain o) (samples ++ drains.flatten) ∧
      (drains.foldl Observer.drain o).slidingWindow = o.slidingWindow := by
  induction drains generalizing o samples with
  | nil => exact ⟨by simpa using h, rfl⟩
  | cons waiting rest ih =>
    rw [List.flatten_cons, ← List.append_assoc] at horder ⊢
    have hbefore (htimely : timely) : TakenInOrder (takenFrom publisher (samples ++ waiting)) := by
      have hall := horder htimely
      rw [takenFrom_append] at hall
      exact (List.pairwise_append.mp hall).1
    obtain ⟨hdrained, hsame⟩ := h.drain waiting hsliding hbefore
    obtain ⟨htracks, hkept⟩ := ih hdrained (hsame ▸ hsliding) horder
    exact ⟨htracks, hkept.trans hsame⟩

/-- The choice of the window. -/
theorem Tracks.setRateWindow {timely : Prop} {o : StatsObserver} {samples : List LatencySample}
    (h : Tracks timely publisher o samples) (sliding : Bool) (hwhole : o.slidingWindow = false)
    (hsliding : sliding = true → timely)
    (horder : timely → TakenInOrder (takenFrom publisher samples)) :
    Tracks timely publisher (setRateWindow o sliding) samples ∧
      (setRateWindow o sliding).slidingWindow = sliding := by
  have hall : window false publisher samples = takenFrom publisher samples :=
    List.filter_eq_self.mpr fun s _ ↦ by simp [inWindow]
  have hfiled := h.filed
  rw [hwhole, hall] at hfiled
  generalize hchosen : { o with
      slidingWindow := sliding
      data := { o.data with rateWindowS := if sliding then kStatsRateWindowSeconds else 0 } } = chosen
  have hsame : chosen.slidingWindow = sliding ∧ chosen.newestSecond = o.newestSecond ∧
      bucketsOf chosen publisher = bucketsOf o publisher := by
    rw [← hchosen]
    exact ⟨rfl, rfl, rfl⟩
  have hpruned := filed_pruneRateWindow (hsame.2.2 ▸ hfiled) (hsame.1 ▸ hsliding) horder
  obtain ⟨hkept, hkept'⟩ := pruneRateWindow_newestSecond chosen
  have hset : Observer.setRateWindow o sliding = pruneRateWindow chosen := by
    rw [← hchosen]
    rfl
  rw [hset]
  rw [hsame.1, hsame.2.1, h.newest] at hpruned
  refine ⟨⟨hkept.trans (hsame.2.1.trans h.newest), ?_⟩, hkept'.trans hsame.1⟩
  rw [hkept', hsame.1]
  exact hpruned

theorem tracks_observe (before : List (List LatencySample)) (sliding : Bool)
    (after : List (List LatencySample))
    (horder : sliding = true →
      TakenInOrder (takenFrom publisher (before.flatten ++ after.flatten))) :
    Tracks (sliding = true) publisher (observe before sliding after)
        (before.flatten ++ after.flatten) ∧
      (observe before sliding after).slidingWindow = sliding := by
  have hbefore (htimely : sliding = true) : TakenInOrder (takenFrom publisher before.flatten) := by
    have hall := horder htimely
    rw [takenFrom_append] at hall
    exact (List.pairwise_append.mp hall).1
  have hstart : Tracks (sliding = true) publisher {} [] := ⟨rfl, Buckets.filed_nil _⟩
  obtain ⟨hdrained, hwhole⟩ := hstart.drains before (fun hnot ↦ by cases hnot) hbefore
  obtain ⟨hset, hchosen⟩ := hdrained.setRateWindow sliding hwhole id hbefore
  obtain ⟨htracks, hkept⟩ := hset.drains after (fun hsliding ↦ hchosen ▸ hsliding) horder
  exact ⟨htracks, hkept.trans hchosen⟩

end Run

/-! ## The gaps -/

section Gaps

variable {publisher : String} {sliding : Bool} {samples : List LatencySample}

theorem reportedGaps_eq (o : StatsObserver) (publisher : String) :
    reportedGaps o publisher = seqGaps (bucketsOf o publisher) := by
  rw [reportedGaps, snapshotData, OrderedMap.find?_filterMap, bucketsOf]
  cases o.writerSeconds.find? publisher <;> rfl

theorem mem_seqs {n : ℕ} : n ∈ seqs samples ↔ ∃ s ∈ samples, s.seq = n := by
  simp [seqs]

theorem card_seqs (hdistinct : (samples.map LatencySample.seq).Nodup) :
    (seqs samples).card = samples.length := by
  rw [seqs, List.toFinset_card_of_nodup hdistinct, List.length_map]

/-- A number between two inside the window is inside the window, if it was taken at all. -/
theorem mem_window_of_between (h : Numbered (takenFrom publisher samples)) {a s : LatencySample}
    (ha : a ∈ window sliding publisher samples) (hs : s ∈ takenFrom publisher samples)
    (hle : a.seq ≤ s.seq) : s ∈ window sliding publisher samples := by
  obtain ⟨hmem, hinside⟩ := List.mem_filter.mp ha
  refine List.mem_filter.mpr ⟨hs, ?_⟩
  have hsec := h.ordered a hmem s hs hle
  rw [inWindow_iff] at hinside ⊢
  refine hinside.imp_right fun hlt ↦ hlt.trans_le (WithBot.coe_le_coe.mpr ?_)
  omega

theorem missing_eq (h : Numbered (takenFrom publisher samples)) {lo hi : ℕ}
    (hlo : IsLeast (seqs (window sliding publisher samples) : Set ℕ) lo)
    (hhi : IsGreatest (seqs (window sliding publisher samples) : Set ℕ) hi) :
    missing sliding publisher samples =
      Finset.Icc lo hi \ seqs (window sliding publisher samples) := by
  have hne : (seqs (window sliding publisher samples)).Nonempty := ⟨lo, hlo.1⟩
  rw [missing, dif_pos hne, (Finset.isLeast_min' _ hne).unique hlo,
    (Finset.isGreatest_max' _ hne).unique hhi]
  obtain ⟨a, ha, rfl⟩ := mem_seqs.mp hlo.1
  ext n
  simp only [Finset.mem_sdiff, Finset.mem_Icc, and_congr_right_iff, not_iff_not]
  rintro ⟨hle, -⟩
  constructor
  · intro hn
    obtain ⟨s, hs, rfl⟩ := mem_seqs.mp hn
    exact mem_seqs.mpr ⟨s, mem_window_of_between h ha hs hle, rfl⟩
  · intro hn
    obtain ⟨s, hs, rfl⟩ := mem_seqs.mp hn
    exact mem_seqs.mpr ⟨s, (window_sublist sliding publisher samples).subset hs, rfl⟩

theorem seqGaps_of_filed {timely : Prop} {buckets : List WriterSecond}
    (h : Numbered (takenFrom publisher samples))
    (hfiled : Buckets.Filed (Summarizes timely) buckets (window sliding publisher samples)) :
    seqGaps buckets =
      if missing sliding publisher samples = ∅ then none
      else some (missing sliding publisher samples).card := by
  have hspans := spans_foldl hfiled {} [] ⟨rfl, fun hne ↦ absurd rfl hne, fun hne ↦ absurd rfl hne⟩
  rw [List.nil_append] at hspans
  unfold seqGaps
  simp only
  generalize buckets.foldl SeqRange.add {} = range at hspans
  obtain ⟨hcount, hleast, hgreatest⟩ := hspans
  by_cases hempty : window sliding publisher samples = []
  · have hmissing : missing sliding publisher samples = ∅ := by simp [missing, hempty, seqs]
    rw [if_pos (by rw [hcount, hempty, List.length_nil]), if_pos hmissing]
  · have hne : range.samples ≠ 0 := fun hzero ↦
      hempty (List.length_eq_zero_iff.mp (hcount ▸ hzero))
    have hlo := hleast hempty
    have hhi := hgreatest hempty
    have hinside : seqs (window sliding publisher samples) ⊆
        Finset.Icc range.minSeq range.maxSeq := fun n hn ↦
      Finset.mem_Icc.mpr ⟨hlo.2 hn, hhi.2 hn⟩
    have hcard : (missing sliding publisher samples).card =
        range.maxSeq + 1 - range.minSeq - range.samples := by
      rw [missing_eq h hlo hhi, Finset.card_sdiff_of_subset hinside, Nat.card_Icc,
        card_seqs (h.distinct.sublist ((window_sublist _ _ _).map _)), hcount]
    have hle : range.minSeq ≤ range.maxSeq := hlo.2 hhi.1
    rw [if_neg hne]
    by_cases hzero : missing sliding publisher samples = ∅
    · rw [hzero, Finset.card_empty] at hcard
      rw [if_pos hzero, if_neg (by omega)]
    · have hpos := Finset.card_pos.mpr (Finset.nonempty_iff_ne_empty.mpr hzero)
      rw [if_neg hzero, if_pos (by omega), hcard]
      exact congrArg some (by omega)

/-- The gaps are exact over every run in which the window is the whole observation, or no sample of the
statistics writer is taken after one of a later second. -/
theorem gapsExact_observe (publisher : String) (before : List (List LatencySample))
    (sliding : Bool) (after : List (List LatencySample))
    (hnumbered : Numbered (takenFrom publisher (before.flatten ++ after.flatten)))
    (horder : sliding = true →
      TakenInOrder (takenFrom publisher (before.flatten ++ after.flatten))) :
    GapsExact (observe before sliding after) sliding (before.flatten ++ after.flatten)
      publisher := by
  obtain ⟨htracks, hsliding⟩ := tracks_observe before sliding after horder
  have hfiled := htracks.filed
  rw [hsliding] at hfiled
  rw [GapsExact, reportedGaps_eq]
  exact seqGaps_of_filed hnumbered hfiled

/-- A sample of the participant `"P"` for one of its readers. -/
def sampleOf (readerGuid : String) (seq : ℕ) (sec : ℤ) : LatencySample where
  writerGuid := "W"
  readerGuid := readerGuid
  sec := sec
  publisher := "P"
  seq := seq

theorem gapsExact_observe_lost :
    GapsExact (observe [] true [[sampleOf "A" 1 3, sampleOf "B" 3 4], [sampleOf "A" 4 8]]) true
      [sampleOf "A" 1 3, sampleOf "B" 3 4, sampleOf "A" 4 8] "P" := by
  refine gapsExact_observe "P" [] true
    [[sampleOf "A" 1 3, sampleOf "B" 3 4], [sampleOf "A" 4 8]] ⟨by decide, by decide⟩ fun _ ↦ ?_
  unfold TakenInOrder
  decide

/-- Four samples, all taken: the older second of `"B"` is merged into the newest bucket, and is still
there once its own second has left the window. -/
theorem merged_not_gapsExact :
    Numbered (takenFrom "P" [sampleOf "A" 2 3, sampleOf "A" 3 4, sampleOf "B" 1 3,
        sampleOf "A" 4 8]) ∧
      ¬GapsExact
        (observe [] true [[sampleOf "A" 2 3, sampleOf "A" 3 4, sampleOf "B" 1 3],
          [sampleOf "A" 4 8]])
        true [sampleOf "A" 2 3, sampleOf "A" 3 4, sampleOf "B" 1 3, sampleOf "A" 4 8] "P" := by
  refine ⟨⟨by decide, by decide⟩, ?_⟩
  unfold GapsExact
  decide +kernel

end Gaps

end TransportViz.Observer
