import TransportViz.Library.Interleaving
import TransportViz.Library.LastWrite
import TransportViz.Observer.RateWindow
import TransportViz.Observer.Statistics

/-!
# What the statistics observer has after a run

Each counter is kept under a key of its own: the first value, the last value and how many samples there
were. However the drains of the two threads and the calls of the listener mix, a counter is made by its
own samples in the order in which their reader handed them out.
-/

namespace TransportViz.Observer

open Interleaving LastWrite

/-! ## What the steps say -/

section Entries

variable [IPLocator]

def trafficEntry : StatisticsStep → Option (TrafficKey × TrafficSample)
  | .takeTraffic info traffic =>
    if info.validData then
      some (trafficKey (StatisticsObserver.trafficOf traffic), StatisticsObserver.trafficOf traffic)
    else none
  | _ => none

def lostEntry : StatisticsStep → Option (LostKey × TrafficSample)
  | .takeLost info lost =>
    if info.validData then
      some (lostKey (StatisticsObserver.lostOf info lost), StatisticsObserver.lostOf info lost)
    else none
  | _ => none

end Entries

def countEntry (counter : EntityCounter) : StatisticsStep → Option (String × ℕ)
  | .takeCount other info count =>
    if other = counter ∧ info.validData then some (guidToString count.guid, count.count) else none
  | _ => none

def physicalEntry : StatisticsStep → Option (String × HostInfo)
  | .takePhysical info physical =>
    if info.validData then
      some (prefixToString physical.participantGuid, ⟨physical.host, physical.user, physical.process⟩)
    else none
  | _ => none

def latencyEntry : StatisticsStep → Option (GuidPair × ℚ)
  | .takeLatency sample => if sample.validData then some (sample.pair, sample.latency) else none
  | _ => none

/-- The participant that published what is taken. -/
def publisher : StatisticsStep → Option String
  | .takeTraffic info _ | .takeCount _ info _ | .takeLost info _ | .takePhysical info _ =>
    if info.validData then some (samplePublisherPrefix info) else none
  | .takeLatency sample => if sample.validData then some sample.publisher else none
  | _ => none

/-- The reader a sample is taken from. -/
def readerOf : StatisticsStep → Option StatisticsReader
  | .takeTraffic _ _ => some .rtpsSent
  | .takeLatency _ => some .historyLatency
  | .takeCount counter _ _ => some counter.reader
  | .takeLost _ _ => some .rtpsLost
  | .takePhysical _ _ => some .physicalData
  | _ => none

/-- The counter's reader and the writer it hears from. -/
def heardEntry : StatisticsStep → Option (StatisticsReader × String)
  | .takeTraffic info _ => if info.validData then some (.rtpsSent, guidToString info.writerGuid) else none
  | .takeCount counter info _ =>
    if info.validData then some (counter.reader, guidToString info.writerGuid) else none
  | .takeLost info _ => if info.validData then some (.rtpsLost, guidToString info.writerGuid) else none
  | _ => none

/-! ## Summaries -/

/-- The last sample, with the values of the first one and the number of all. -/
def trafficSummary (samples : List TrafficSample) : Option TrafficSample :=
  samples.getLast?.map fun last ↦
    { last with
      packetsFirst := (samples.head?.map TrafficSample.packets).getD 0
      bytesFirst := (samples.head?.map TrafficSample.bytes).getD 0
      samples := samples.length }

def countSummary (counts : List ℕ) : Option DataCountSample :=
  counts.getLast?.map fun last ↦ ⟨counts.head?.getD 0, last, counts.length⟩

def latencySummary (latencies : List ℚ) : Option LatencyStat :=
  if latencies = [] then none else some (latencies.foldl LatencyStat.add {})

section Updates

variable (o : StatisticsObserver)

theorem counts_setCounts (counter other : EntityCounter) (data : StatsData)
    (into : OrderedMap String DataCountSample) :
    counter.counts (other.setCounts data into) = if other = counter then into else counter.counts data := by
  cases counter <;> cases other <;> rfl

theorem data_setCounts (counter : EntityCounter) (data : StatsData)
    (into : OrderedMap String DataCountSample) :
    (counter.setCounts data into).physical = data.physical ∧
      (counter.setCounts data into).delivered = data.delivered ∧
      (counter.setCounts data into).latency = data.latency ∧
      (counter.setCounts data into).samples = data.samples ∧
      (counter.setCounts data into).participantsWithStats = data.participantsWithStats := by
  cases counter <;> exact ⟨rfl, rfl, rfl, rfl, rfl⟩

theorem counts_countSample (counter : EntityCounter) (info : SampleInfo) :
    counter.counts (o.countSample info).data = counter.counts o.data := by
  cases counter <;> rfl

theorem mem_heard_countCounterSample (counted : StatisticsReader) (info : SampleInfo)
    (reader : StatisticsReader) (writer : String) :
    writer ∈ (o.countCounterSample counted info).heard reader ↔
      writer ∈ o.heard reader ∨ some (counted, guidToString info.writerGuid) = some (reader, writer) := by
  change writer ∈ Function.update o.heard counted _ reader ↔ _
  by_cases hreader : reader = counted
  · subst hreader
    simp only [Function.update_self, Finset.mem_insert, Option.some.injEq, Prod.mk.injEq, true_and]
    rw [or_comm, eq_comm]
    rfl
  · simp [hreader, Ne.symm hreader]

end Updates

section Runs

variable [IPLocator]

/-- Everything the observer has is a summary of the samples that were taken. -/
structure Summarises (steps : List StatisticsStep) (o : StatisticsObserver) : Prop where
  traffic : ∀ key, o.traffic.find? key = trafficSummary (written trafficEntry key steps)
  lost : ∀ key, o.lost.find? key = trafficSummary (written lostEntry key steps)
  counts : ∀ (counter : EntityCounter) guid,
    (counter.counts o.data).find? guid = countSummary (written (countEntry counter) guid steps)
  physical : ∀ participant,
    o.data.physical.find? participant = (written physicalEntry participant steps).getLast?
  delivered : ∀ pair, o.data.delivered.find? pair =
    if written latencyEntry pair steps = [] then none
    else some (written latencyEntry pair steps).length
  latency : ∀ pair, o.data.latency.find? pair = latencySummary (written latencyEntry pair steps)
  samples : o.data.samples = (steps.filterMap publisher).length
  participants : o.data.participantsWithStats = (steps.filterMap publisher).toFinset
  heard : ∀ reader writer, writer ∈ o.heard reader ↔ ∃ step ∈ steps, heardEntry step = some (reader, writer)

/-! ## One step -/

/-- What a step does to the aggregate: what it says is noted, and nothing else changes. -/
structure Notes (o : StatisticsObserver) (step : StatisticsStep) (after : StatisticsObserver) : Prop where
  traffic : after.traffic = note noteTraffic o.traffic (trafficEntry step)
  lost : after.lost = note noteTraffic o.lost (lostEntry step)
  counts : ∀ counter : EntityCounter,
    counter.counts after.data = note noteCount (counter.counts o.data) (countEntry counter step)
  physical : after.data.physical = note (fun host _ ↦ host) o.data.physical (physicalEntry step)
  delivered : after.data.delivered =
    note (fun _ count ↦ count.getD 0 + 1) o.data.delivered (latencyEntry step)
  latency : after.data.latency =
    note (fun latency stat ↦ (stat.getD {}).add latency) o.data.latency (latencyEntry step)
  samples : after.data.samples = o.data.samples + (publisher step).toList.length
  participants : after.data.participantsWithStats =
    o.data.participantsWithStats ∪ (publisher step).toList.toFinset
  heard : ∀ reader writer,
    writer ∈ after.heard reader ↔ writer ∈ o.heard reader ∨ heardEntry step = some (reader, writer)

variable (o : StatisticsObserver)

/-- A step that says nothing and leaves the aggregate alone. -/
theorem Notes.nothing (step : StatisticsStep) (after : StatisticsObserver)
    (hentries : trafficEntry step = none ∧ lostEntry step = none ∧
      (∀ counter, countEntry counter step = none) ∧ physicalEntry step = none ∧
      latencyEntry step = none ∧ publisher step = none ∧ heardEntry step = none)
    (hkept : after.traffic = o.traffic ∧ after.lost = o.lost ∧
      { after.data with rateWindowS := o.data.rateWindowS } = o.data ∧ after.heard = o.heard) :
    Notes o step after := by
  obtain ⟨htraffic, hlost, hcount, hphysical, hlatency, hpublisher, hheard⟩ := hentries
  obtain ⟨htraffic', hlost', hdata, hheard'⟩ := hkept
  have hcounts (counter : EntityCounter) : counter.counts after.data = counter.counts o.data := by
    rw [← hdata]
    cases counter <;> rfl
  exact
    { traffic := by rw [htraffic, htraffic']; rfl
      lost := by rw [hlost, hlost']; rfl
      counts := fun counter ↦ by rw [hcount, hcounts]; rfl
      physical := by rw [hphysical, ← hdata]; rfl
      delivered := by rw [hlatency, ← hdata]; rfl
      latency := by rw [hlatency, ← hdata]; rfl
      samples := by rw [hpublisher, ← hdata]; rfl
      participants := by rw [hpublisher, ← hdata]; simp
      heard := fun reader writer ↦ by rw [hheard, hheard']; simp }

theorem notes_takeTraffic (info : SampleInfo) (traffic : Entity2LocatorTraffic) :
    Notes o (.takeTraffic info traffic) (o.takeTraffic info traffic) := by
  cases hvalid : info.validData with
  | false =>
    apply Notes.nothing
    · simp [trafficEntry, lostEntry, countEntry, physicalEntry, latencyEntry, publisher, heardEntry, hvalid]
    · simp [StatisticsObserver.takeTraffic, hvalid]
  | true =>
    rw [StatisticsObserver.takeTraffic, if_neg (by simp [hvalid])]
    exact
      { traffic := by simp only [trafficEntry, hvalid, if_true]; rfl
        lost := rfl
        counts := fun counter ↦ counts_countSample o counter info
        physical := rfl
        delivered := rfl
        latency := rfl
        samples := by simp only [publisher, hvalid, if_true]; rfl
        participants := by
          simp only [publisher, hvalid, if_true]
          exact (Finset.union_singleton ..).symm
        heard := fun reader writer ↦ by
          simp only [heardEntry, hvalid, if_true]
          exact mem_heard_countCounterSample o .rtpsSent info reader writer }

theorem notes_takeLost (info : SampleInfo) (lost : Entity2LocatorTraffic) :
    Notes o (.takeLost info lost) (o.takeLost info lost) := by
  cases hvalid : info.validData with
  | false =>
    apply Notes.nothing
    · simp [trafficEntry, lostEntry, countEntry, physicalEntry, latencyEntry, publisher, heardEntry, hvalid]
    · simp [StatisticsObserver.takeLost, hvalid]
  | true =>
    rw [StatisticsObserver.takeLost, if_neg (by simp [hvalid])]
    exact
      { traffic := rfl
        lost := by simp only [lostEntry, hvalid, if_true]; rfl
        counts := fun counter ↦ counts_countSample o counter info
        physical := rfl
        delivered := rfl
        latency := rfl
        samples := by simp only [publisher, hvalid, if_true]; rfl
        participants := by
          simp only [publisher, hvalid, if_true]
          exact (Finset.union_singleton ..).symm
        heard := fun reader writer ↦ by
          simp only [heardEntry, hvalid, if_true]
          exact mem_heard_countCounterSample o .rtpsLost info reader writer }

theorem notes_takeCount (counted : EntityCounter) (info : SampleInfo) (count : EntityCount) :
    Notes o (.takeCount counted info count) (o.takeCount counted info count) := by
  cases hvalid : info.validData with
  | false =>
    apply Notes.nothing
    · simp [trafficEntry, lostEntry, countEntry, physicalEntry, latencyEntry, publisher, heardEntry, hvalid]
    · simp [StatisticsObserver.takeCount, hvalid]
  | true =>
    rw [StatisticsObserver.takeCount, if_neg (by simp [hvalid])]
    obtain ⟨hphysical, hdelivered, hlatency, hsamples, hparticipants⟩ :=
      data_setCounts counted (o.countCounterSample counted.reader info).data
        ((counted.counts (o.countCounterSample counted.reader info).data).alter
          (guidToString count.guid) (noteCount count.count))
    exact
      { traffic := rfl
        lost := rfl
        counts := fun counter ↦ by
          simp only [countEntry, hvalid, and_true, counts_setCounts]
          split_ifs with hcounter
          · rw [hcounter]
            exact congrArg (fun map ↦ OrderedMap.alter map (guidToString count.guid) (noteCount count.count))
              (counts_countSample o counter info)
          · exact counts_countSample o counter info
        physical := hphysical
        delivered := hdelivered
        latency := hlatency
        samples := by rw [hsamples]; simp only [publisher, hvalid, if_true]; rfl
        participants := by
          rw [hparticipants]
          simp only [publisher, hvalid, if_true]
          exact (Finset.union_singleton ..).symm
        heard := fun reader writer ↦ by
          simp only [heardEntry, hvalid, if_true]
          exact mem_heard_countCounterSample o counted.reader info reader writer }

theorem notes_takePhysical (info : SampleInfo) (physical : PhysicalData) :
    Notes o (.takePhysical info physical) (o.takePhysical info physical) := by
  cases hvalid : info.validData with
  | false =>
    apply Notes.nothing
    · simp [trafficEntry, lostEntry, countEntry, physicalEntry, latencyEntry, publisher, heardEntry, hvalid]
    · simp [StatisticsObserver.takePhysical, hvalid]
  | true =>
    rw [StatisticsObserver.takePhysical, if_neg (by simp [hvalid])]
    exact
      { traffic := rfl
        lost := rfl
        counts := fun counter ↦ by cases counter <;> rfl
        physical := by simp only [physicalEntry, hvalid, if_true]; rfl
        delivered := rfl
        latency := rfl
        samples := by simp only [publisher, hvalid, if_true]; rfl
        participants := by
          simp only [publisher, hvalid, if_true]
          exact (Finset.union_singleton ..).symm
        heard := fun reader writer ↦ by simp [heardEntry, StatisticsObserver.countSample] }

theorem notes_takeLatency (sample : LatencySample) :
    Notes o (.takeLatency sample) { o with toStatsObserver := takeSample o.toStatsObserver sample } := by
  cases hvalid : sample.validData with
  | false =>
    apply Notes.nothing
    · simp [trafficEntry, lostEntry, countEntry, physicalEntry, latencyEntry, publisher, heardEntry, hvalid]
    · simp [takeSample, hvalid]
  | true =>
    rw [takeSample, if_neg (by simp [hvalid])]
    exact
      { traffic := rfl
        lost := rfl
        counts := fun counter ↦ by cases counter <;> rfl
        physical := rfl
        delivered := by simp only [latencyEntry, hvalid, if_true]; rfl
        latency := by simp only [latencyEntry, hvalid, if_true]; rfl
        samples := by simp only [publisher, hvalid, if_true]; rfl
        participants := by
          simp only [publisher, hvalid, if_true]
          exact (Finset.union_singleton ..).symm
        heard := fun reader writer ↦ by simp [heardEntry] }

theorem notes_doStep (step : StatisticsStep) : Notes o step (doStep o step) := by
  cases step with
  | takeTraffic info traffic => exact notes_takeTraffic o info traffic
  | takeLatency sample => exact notes_takeLatency o sample
  | takeCount counter info count => exact notes_takeCount o counter info count
  | takeLost info lost => exact notes_takeLost o info lost
  | takePhysical info physical => exact notes_takePhysical o info physical
  | pruneRateWindow =>
    apply Notes.nothing _ _ _ ⟨rfl, rfl, fun _ ↦ rfl, rfl, rfl, rfl, rfl⟩
    refine ⟨rfl, rfl, ?_, rfl⟩
    rw [doStep, data_pruneRateWindow]
  | setRateWindow sliding =>
    apply Notes.nothing _ _ _ ⟨rfl, rfl, fun _ ↦ rfl, rfl, rfl, rfl, rfl⟩
    refine ⟨rfl, rfl, ?_, rfl⟩
    rw [doStep, setRateWindow, data_pruneRateWindow]
  | _ => exact Notes.nothing _ _ _ ⟨rfl, rfl, fun _ ↦ rfl, rfl, rfl, rfl, rfl⟩ ⟨rfl, rfl, rfl, rfl⟩

/-! ## All steps -/

section Summaries

omit [IPLocator]

theorem foldl_noteTraffic (samples : List TrafficSample) :
    samples.foldl (fun slot s ↦ some (noteTraffic s slot)) none = trafficSummary samples := by
  induction samples using List.reverseRecOn with
  | nil => rfl
  | append_singleton samples s ih =>
    rw [List.foldl_append, ih, List.foldl_cons, List.foldl_nil]
    cases samples with
    | nil => rfl
    | cons first rest => simp [trafficSummary, noteTraffic, List.getLast?_cons]

theorem foldl_noteCount (counts : List ℕ) :
    counts.foldl (fun slot count ↦ some (noteCount count slot)) none = countSummary counts := by
  induction counts using List.reverseRecOn with
  | nil => rfl
  | append_singleton counts count ih =>
    rw [List.foldl_append, ih, List.foldl_cons, List.foldl_nil]
    cases counts with
    | nil => rfl
    | cons first rest => simp [countSummary, noteCount, List.getLast?_cons]

theorem foldl_delivered (latencies : List ℚ) :
    latencies.foldl (fun count (_ : ℚ) ↦ some (count.getD 0 + 1)) none =
      if latencies = [] then none else some latencies.length := by
  induction latencies using List.reverseRecOn with
  | nil => rfl
  | append_singleton latencies latency ih =>
    rw [List.foldl_append, ih, List.foldl_cons, List.foldl_nil]
    cases latencies with
    | nil => rfl
    | cons first rest => simp

theorem foldl_latency (latencies : List ℚ) :
    latencies.foldl (fun stat latency ↦ some ((stat.getD {}).add latency)) none =
      latencySummary latencies := by
  induction latencies using List.reverseRecOn with
  | nil => rfl
  | append_singleton latencies latency ih =>
    rw [List.foldl_append, ih, List.foldl_cons, List.foldl_nil]
    cases latencies with
    | nil => rfl
    | cons first rest => simp [latencySummary]

theorem foldl_physical (hosts : List HostInfo) :
    hosts.foldl (fun _ host ↦ some host) none = hosts.getLast? := by
  induction hosts using List.reverseRecOn with
  | nil => rfl
  | append_singleton hosts host ih => simp

end Summaries

variable (steps : List StatisticsStep)

/-- A map that every step notes something in. -/
theorem find?_ingested {β κ ν : Type} [LinearOrder κ] (field : StatisticsObserver → OrderedMap κ ν)
    {entry : StatisticsStep → Option (κ × β)} {how : β → Option ν → ν} (hempty : field {} = .empty)
    (hstep : ∀ o step, field (doStep o step) = note how (field o) (entry step)) (key : κ) :
    (field (ingested steps)).find? key =
      (written entry key steps).foldl (fun slot b ↦ some (how b slot)) none := by
  have hfold : field (ingested steps) =
      steps.foldl (fun map step ↦ note how map (entry step)) .empty := by
    rw [ingested, ← hempty]
    exact (List.foldl_hom field fun o step ↦ (hstep o step).symm).symm
  rw [hfold, find?_foldl_note, OrderedMap.find?_empty]

theorem ingested_append (step : StatisticsStep) :
    ingested (steps ++ [step]) = doStep (ingested steps) step := by
  rw [ingested, List.foldl_append]
  rfl

theorem traffic_ingested (key : TrafficKey) :
    (ingested steps).traffic.find? key = trafficSummary (written trafficEntry key steps) := by
  rw [find?_ingested steps StatisticsObserver.traffic rfl fun o step ↦ (notes_doStep o step).traffic,
    foldl_noteTraffic]

theorem lost_ingested (key : LostKey) :
    (ingested steps).lost.find? key = trafficSummary (written lostEntry key steps) := by
  rw [find?_ingested steps StatisticsObserver.lost rfl fun o step ↦ (notes_doStep o step).lost,
    foldl_noteTraffic]

theorem counts_ingested (counter : EntityCounter) (guid : String) :
    (counter.counts (ingested steps).data).find? guid =
      countSummary (written (countEntry counter) guid steps) := by
  have hempty : counter.counts (({} : StatisticsObserver).data) = .empty := by cases counter <;> rfl
  rw [find?_ingested steps (fun o ↦ counter.counts o.data) hempty
    fun o step ↦ (notes_doStep o step).counts counter, foldl_noteCount]

theorem physical_ingested (participant : String) :
    (ingested steps).data.physical.find? participant =
      (written physicalEntry participant steps).getLast? := by
  rw [find?_ingested steps (fun o ↦ o.data.physical) rfl
    fun o step ↦ (notes_doStep o step).physical, foldl_physical]

theorem delivered_ingested (pair : GuidPair) :
    (ingested steps).data.delivered.find? pair =
      if written latencyEntry pair steps = [] then none
      else some (written latencyEntry pair steps).length := by
  rw [find?_ingested steps (fun o ↦ o.data.delivered) rfl
    fun o step ↦ (notes_doStep o step).delivered, foldl_delivered]

theorem latency_ingested (pair : GuidPair) :
    (ingested steps).data.latency.find? pair = latencySummary (written latencyEntry pair steps) := by
  rw [find?_ingested steps (fun o ↦ o.data.latency) rfl
    fun o step ↦ (notes_doStep o step).latency, foldl_latency]

theorem samples_ingested : (ingested steps).data.samples = (steps.filterMap publisher).length := by
  induction steps using List.reverseRecOn with
  | nil => rfl
  | append_singleton steps step ih =>
    rw [ingested_append, (notes_doStep _ step).samples, ih, List.filterMap_append, List.length_append]
    cases h : publisher step <;> simp [h]

theorem participants_ingested :
    (ingested steps).data.participantsWithStats = (steps.filterMap publisher).toFinset := by
  induction steps using List.reverseRecOn with
  | nil => rfl
  | append_singleton steps step ih =>
    rw [ingested_append, (notes_doStep _ step).participants, ih, List.filterMap_append,
      List.toFinset_append]
    cases h : publisher step <;> simp [h]

theorem mem_heard_ingested (reader : StatisticsReader) (writer : String) :
    writer ∈ (ingested steps).heard reader ↔
      ∃ step ∈ steps, heardEntry step = some (reader, writer) := by
  induction steps using List.reverseRecOn with
  | nil => simp [ingested]
  | append_singleton steps step ih =>
    rw [ingested_append, (notes_doStep _ step).heard, ih]
    simp [or_and_right, exists_or]

/-- What a run takes is summarised without a loss, whatever happens in between. -/
theorem summarises_ingested : Summarises steps (ingested steps) where
  traffic := traffic_ingested steps
  lost := lost_ingested steps
  counts := counts_ingested steps
  physical := physical_ingested steps
  delivered := delivered_ingested steps
  latency := latency_ingested steps
  samples := samples_ingested steps
  participants := participants_ingested steps
  heard := mem_heard_ingested steps

/-! ## Interleaved drains -/

omit [IPLocator] in
theorem readerOf_of_publisher (step : StatisticsStep) (name : String) (h : publisher step = some name) :
    (readerOf step).isSome = true := by
  cases step <;> first | rfl | cases h

omit [IPLocator] in
theorem readerOf_of_heardEntry (step : StatisticsStep) (heard : StatisticsReader × String)
    (h : heardEntry step = some heard) : (readerOf step).isSome = true := by
  cases step <;> first | rfl | cases h

variable {steps} {other : List StatisticsStep}

omit [IPLocator] in
/-- What is taken from one reader is in the same order. -/
theorem written_congr {β κ : Type} [DecidableEq κ] {entry : StatisticsStep → Option (κ × β)}
    (h : SameOrder (fun reader step ↦ readerOf step = some reader) steps other) {key : κ}
    (reader : StatisticsReader)
    (hreader : ∀ step value, entry step = some (key, value) → readerOf step = some reader) :
    written entry key steps = written entry key other := by
  have hconcerns : ∀ step value, entry step = some (key, value) →
      decide (readerOf step = some reader) = true := fun step value hstep ↦
    decide_eq_true (hreader step value hstep)
  rw [← written_filter hconcerns, h reader, written_filter hconcerns]

/-- However the drains mix, what each reader hands out in order makes the same aggregate. -/
theorem ingested_congr (h : SameOrder (fun reader step ↦ readerOf step = some reader) steps other) :
    (ingested steps).traffic = (ingested other).traffic ∧
      (ingested steps).lost = (ingested other).lost ∧
      (∀ counter : EntityCounter,
        counter.counts (ingested steps).data = counter.counts (ingested other).data) ∧
      (ingested steps).data.physical = (ingested other).data.physical ∧
      (ingested steps).data.delivered = (ingested other).data.delivered ∧
      (ingested steps).data.latency = (ingested other).data.latency ∧
      (ingested steps).data.samples = (ingested other).data.samples ∧
      (ingested steps).data.participantsWithStats = (ingested other).data.participantsWithStats ∧
      (ingested steps).heard = (ingested other).heard := by
  have htraffic (key : TrafficKey) : written trafficEntry key steps = written trafficEntry key other := by
    apply written_congr h .rtpsSent
    intro step value hstep
    cases step <;> first | rfl | cases hstep
  have hlost (key : LostKey) : written lostEntry key steps = written lostEntry key other := by
    apply written_congr h .rtpsLost
    intro step value hstep
    cases step <;> first | rfl | cases hstep
  have hphysical (key : String) : written physicalEntry key steps = written physicalEntry key other := by
    apply written_congr h .physicalData
    intro step value hstep
    cases step <;> first | rfl | cases hstep
  have hlatency (key : GuidPair) : written latencyEntry key steps = written latencyEntry key other := by
    apply written_congr h .historyLatency
    intro step value hstep
    cases step <;> first | rfl | cases hstep
  have hcounts (counter : EntityCounter) (key : String) :
      written (countEntry counter) key steps = written (countEntry counter) key other := by
    apply written_congr h counter.reader
    intro step value hstep
    cases step with
    | takeCount counted info count =>
      simp only [countEntry, Option.ite_none_right_eq_some] at hstep
      rw [readerOf, hstep.1.1]
    | _ => cases hstep
  have hpublisher := h.perm_filterMap readerOf_of_publisher
  refine ⟨?_, ?_, fun counter ↦ ?_, ?_, ?_, ?_, ?_, ?_, ?_⟩
  · exact OrderedMap.ext_find? fun key ↦ by rw [traffic_ingested, traffic_ingested, htraffic]
  · exact OrderedMap.ext_find? fun key ↦ by rw [lost_ingested, lost_ingested, hlost]
  · exact OrderedMap.ext_find? fun key ↦ by rw [counts_ingested, counts_ingested, hcounts]
  · exact OrderedMap.ext_find? fun key ↦ by rw [physical_ingested, physical_ingested, hphysical]
  · exact OrderedMap.ext_find? fun key ↦ by rw [delivered_ingested, delivered_ingested, hlatency]
  · exact OrderedMap.ext_find? fun key ↦ by rw [latency_ingested, latency_ingested, hlatency]
  · rw [samples_ingested, samples_ingested, hpublisher.length_eq]
  · rw [participants_ingested, participants_ingested, List.toFinset_eq_of_perm _ _ hpublisher]
  · funext reader
    ext writer
    have hheard := (h.perm_filterMap readerOf_of_heardEntry).mem_iff (a := (reader, writer))
    rw [mem_heard_ingested, mem_heard_ingested]
    simpa only [List.mem_filterMap] using hheard

end Runs

def sentStep : StatisticsStep :=
  .takeTraffic { writerGuid := guidOnHost 1 1 }
    { srcGuid := guidOnHost 1 0, dstLocator := { kind := .shm, port := 7413 }, packetCount := 3, byteCount := 400 }

def lostStep : StatisticsStep :=
  .takeLost { writerGuid := guidOnHost 2 4 }
    { srcGuid := guidOnHost 1 0, dstLocator := { kind := .shm, port := 7413 }, packetCount := 1, byteCount := 90 }

theorem ingested_congr_swapped :
    (@ingested plainAddresses [sentStep, lostStep, sentStep]).traffic =
      (@ingested plainAddresses [lostStep, sentStep, sentStep]).traffic :=
  (@ingested_congr plainAddresses [sentStep, lostStep, sentStep] [lostStep, sentStep, sentStep]
    (SameOrder.swap [] [sentStep] fun reader ⟨hsent, hlost⟩ ↦ by
      have hsent := of_decide_eq_true hsent
      have hlost := of_decide_eq_true hlost
      rw [← hsent] at hlost
      exact absurd hlost (by decide))).1

end TransportViz.Observer
