import TransportViz.Library.Buckets
import TransportViz.Model.Types

/-!
# The HISTORY_LATENCY window of the statistics observer

`drain` takes the waiting samples one after the other and files them per second of their source
timestamp: per pair the deliveries with their first and last timestamp, per statistics writer the
sequence numbers. A sliding window drops the seconds that are too old once the drain is over, and
`snapshot` reduces what is left.
-/

namespace TransportViz.Observer

/-- One HISTORY_LATENCY sample as the reader hands it out. -/
structure LatencySample where
  writerGuid : String
  readerGuid : String
  /-- Write to notification, in seconds. -/
  latency : ℚ := 0
  /-- Source timestamp. -/
  sec : ℤ
  nanosec : ℕ := 0
  /-- The participant whose statistics writer published the sample, and its number there. -/
  publisher : String
  seq : ℕ
  validData : Bool := true

def LatencySample.timestamp (s : LatencySample) : ℚ := s.sec + s.nanosec / 10 ^ 9

def LatencySample.pair (s : LatencySample) : GuidPair := toLex (s.writerGuid, s.readerGuid)

structure PairSecond where
  sec : ℤ
  window : DeliveryWindow

structure WriterSecond where
  sec : ℤ
  minSeq : ℕ
  maxSeq : ℕ
  samples : ℕ

def kStatsRateWindowSeconds : ℤ := 5

/-- What the observer keeps; `newestSecond` is `⊥` before the first sample. -/
structure StatsObserver where
  data : StatsData := { enabled := true }
  pairSeconds : OrderedMap GuidPair (List PairSecond) := .empty
  writerSeconds : OrderedMap String (List WriterSecond) := .empty
  newestSecond : WithBot ℤ := ⊥
  slidingWindow : Bool := false

/-! ## Draining -/

def PairSecond.add (timestamp : ℚ) (b : PairSecond) : PairSecond :=
  { b with window :=
    { samples := b.window.samples + 1
      firstS := min b.window.firstS timestamp
      lastS := max b.window.lastS timestamp } }

def WriterSecond.add (seq : ℕ) (b : WriterSecond) : WriterSecond :=
  { b with
    samples := b.samples + 1
    minSeq := min b.minSeq seq
    maxSeq := max b.maxSeq seq }

def notePairSecond (s : LatencySample) : List PairSecond → List PairSecond :=
  Buckets.note PairSecond.sec s.sec ⟨s.sec, ⟨1, s.timestamp, s.timestamp⟩⟩
    (PairSecond.add s.timestamp)

def noteWriterSecond (s : LatencySample) : List WriterSecond → List WriterSecond :=
  Buckets.note WriterSecond.sec s.sec ⟨s.sec, s.seq, s.seq, 1⟩ (WriterSecond.add s.seq)

def takeSample (o : StatsObserver) (s : LatencySample) : StatsObserver :=
  if ¬s.validData then o
  else
    { o with
      data := { o.data with
        samples := o.data.samples + 1
        participantsWithStats := insert s.publisher o.data.participantsWithStats
        delivered := o.data.delivered.alter s.pair fun count ↦ count.getD 0 + 1
        latency := o.data.latency.alter s.pair fun stat ↦ (stat.getD {}).add s.latency }
      newestSecond := max o.newestSecond s.sec
      pairSeconds := o.pairSeconds.alter s.pair fun seconds ↦ notePairSecond s (seconds.getD [])
      writerSeconds := o.writerSeconds.alter s.publisher fun seconds ↦
        noteWriterSecond s (seconds.getD []) }

/-- Drops the old seconds from the front, and the deque once it is empty. -/
def dropOld {β : Type} (sec : β → ℤ) (oldest : ℤ) (seconds : List β) : Option (List β) :=
  let kept := seconds.dropWhile fun b ↦ sec b < oldest
  if kept = [] then none else some kept

/-- The window ends at the newest second any sample carried. -/
def pruneRateWindow (o : StatsObserver) : StatsObserver :=
  match o.newestSecond with
  | ⊥ => o
  | (newest : ℤ) =>
      if ¬o.slidingWindow then o
      else
        let oldest := newest - kStatsRateWindowSeconds + 1
        { o with
          pairSeconds := o.pairSeconds.filterMap (dropOld PairSecond.sec oldest)
          writerSeconds := o.writerSeconds.filterMap (dropOld WriterSecond.sec oldest) }

def setRateWindow (o : StatsObserver) (sliding : Bool) : StatsObserver :=
  pruneRateWindow
    { o with
      slidingWindow := sliding
      data := { o.data with rateWindowS := if sliding then kStatsRateWindowSeconds else 0 } }

/-- One drain of the HISTORY_LATENCY reader. -/
def drain (o : StatsObserver) (waiting : List LatencySample) : StatsObserver :=
  pruneRateWindow (waiting.foldl takeSample o)

/-! ## The snapshot -/

def reduceWindow (seconds : List PairSecond) : DeliveryWindow :=
  seconds.foldl
    (fun w s ↦
      if w.samples = 0 then s.window
      else
        { samples := w.samples + s.window.samples
          firstS := min w.firstS s.window.firstS
          lastS := max w.lastS s.window.lastS })
    {}

/-- Smallest number, largest number and count of what was taken. -/
structure SeqRange where
  minSeq : ℕ := 0
  maxSeq : ℕ := 0
  samples : ℕ := 0

def SeqRange.add (range : SeqRange) (s : WriterSecond) : SeqRange where
  minSeq := min (if range.samples = 0 then s.minSeq else range.minSeq) s.minSeq
  maxSeq := max (if range.samples = 0 then s.maxSeq else range.maxSeq) s.maxSeq
  samples := range.samples + s.samples

/-- The numbers between the smallest and the largest that no sample accounts for. -/
def seqGaps (seconds : List WriterSecond) : Option ℕ :=
  let range := seconds.foldl SeqRange.add {}
  if range.samples = 0 then none
  else
    let numbered := range.maxSeq - range.minSeq + 1
    if range.samples < numbered then some (numbered - range.samples) else none

/-- What the observer reports after a drain that found nothing more. -/
def snapshotData (o : StatsObserver) : StatsData :=
  { o.data with
    deliveryWindow := o.pairSeconds.filterMap fun seconds ↦
      if 0 < (reduceWindow seconds).samples then some (reduceWindow seconds) else none
    latencyGaps := o.writerSeconds.filterMap seqGaps }

/-- A run: the reader is drained again and again, and the window is chosen once in between. -/
def observe (before : List (List LatencySample)) (sliding : Bool)
    (after : List (List LatencySample)) : StatsObserver :=
  after.foldl drain (setRateWindow (before.foldl drain {}) sliding)

end TransportViz.Observer
