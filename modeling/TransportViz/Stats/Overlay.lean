import TransportViz.Stats.Measure

/-!
# Measured verdicts

`applyStats` walks the pairs of every topic once, in order. Each pair is first measured; `overlay`
then decides what the measurement changes in its predicted verdict. The data-sharing rule asks about
all pairs of the same writer, as they are at that moment: those before it in the list carry their
measured verdicts already, those after it still their predicted ones.
-/

namespace TransportViz.Stats

open Decision

def measuredReason : Transport → String
  | .udpv4 => "measured-udpv4-traffic"
  | .udpv6 => "measured-udpv6-traffic"
  | .tcpv4 => "measured-tcpv4-traffic"
  | .tcpv6 => "measured-tcpv6-traffic"
  | .shm => "measured-shm-traffic"
  | .dataSharing | .none => "measured-unknown-traffic"

/-- Fast DDS before 3.5: default `max_instances` of a statistics writer. -/
def kStatsWriterInstanceLimit : ℕ := 10

/-- Distinct destination locators reported by one source participant. -/
def locatorsPerSource (stats : StatsData) (src : String) : ℕ :=
  stats.traffic.countP fun s ↦ s.srcParticipantPrefix = src

def isDatasharingSplit (v : Verdict) : Bool :=
  "shm-ipc-namespace-split" ∈ v.warnings && "datasharing-qos-enabled-both" ∈ v.reasons

/-! ## One verdict -/

/-- The warnings the reliability and latency counters add to any verdict. -/
def counterWarnings (m : Measurement) : List String :=
  (if m.reliability.available ∧ 0 < m.reliability.lostPackets then ["rtps-packets-lost"] else []) ++
  (if m.latencyAvailable ∧ m.latency.mean < 0 then ["latency-clock-skew-suspected"] else [])

def qosUnmatched (v : Verdict) : Bool := "qos-incompatible" ∈ v.warnings

def nameUnmatched (v : Verdict) : Bool := "type-name-mismatch" ∈ v.reasons

def typeInformationUnmatched (v : Verdict) : Bool := "type-information-mismatch" ∈ v.reasons

/-- Endpoints Fast DDS never matches: a delivery proof means the rules are wrong for this version. -/
def overlayUnmatched (v : Verdict) (m : Measurement) : Verdict :=
  if m.delivered then
    v.addWarnings [if qosUnmatched v then "qos-incompatible-but-delivered"
      else if nameUnmatched v then "type-name-mismatch-but-delivered"
      else "type-information-mismatch-but-delivered"]
  else v

def nonShmInWindow (l : MeasuredLocator) : Bool := l.locator.kind ≠ .shm && 0 < l.packets

/-- The writer sends into its own /dev/shm: traffic confirms nothing, only a delivery contradicts. -/
def overlaySplit (v : Verdict) (m : Measurement) : Verdict :=
  let v := v.addReasons (m.transports.map measuredReason)
  let v := v.addWarnings (if m.delivered then ["shm-ipc-namespace-split-but-delivered"] else [])
  v.addWarnings (if "both-shm-locators" ∈ v.reasons ∧ m.locators.any nonShmInWindow then
    ["shm-ipc-namespace-split-but-non-shm-traffic"] else [])

/-- DATA left through a transport although only data-sharing readers exist. -/
def datasharingNotUsed (v : Verdict) (m : Measurement) : Verdict :=
  { v with
    transport := m.transports.headD .shm
    confidence := if m.transports = [] then .likely else .certain
    reasons := replaceCode v.reasons "datasharing-unverified-by-traffic"
      "datasharing-data-submessages-sent" ++ m.transports.map measuredReason
    warnings := v.warnings ++ ["datasharing-not-used"] }

/-- Zero-copy delivery leaves no trace: silence or a still DATA_COUNT confirms it. -/
def overlayDataSharing (allReadersDatasharing : Bool) (v : Verdict) (m : Measurement) : Verdict :=
  let replaced (code : String) : Verdict :=
    { v with reasons := replaceCode v.reasons "datasharing-unverified-by-traffic" code }
  if m.delivered ∧ m.transports = [] then
    { replaced "datasharing-confirmed-no-traffic" with confidence := .certain }
  else if m.delivered ∧ m.dataCountAvailable then
    if ¬allReadersDatasharing then replaced "datasharing-ambiguous-mixed-readers"
    else if m.dataSubmessages = 0 then
      { replaced "datasharing-confirmed-no-data-submessages" with confidence := .certain }
    else datasharingNotUsed v m
  else if m.transports ≠ [] then replaced "datasharing-ambiguous-participant-traffic"
  else replaced "datasharing-no-delivery-observed"

/-- A pair on a transport: the packets confirm its kind or contradict it. -/
def overlayTransport (stats : StatsData) (src : String) (v : Verdict) (m : Measurement) :
    Verdict :=
  if m.transports = [] then
    v.addWarnings [if stats.writerInstanceLimit ∧
        kStatsWriterInstanceLimit ≤ locatorsPerSource stats src then
        "stats-writer-instance-limit-suspected"
      else if m.delivered then "delivered-without-measured-traffic"
      else "no-traffic-observed"]
  else
    let kindMatches : Bool := v.transport ∈ m.transports
    let v := v.addReasons (m.transports.map measuredReason)
    let v := if kindMatches then { v with confidence := .certain }
      else v.addWarnings ["measured-transport-mismatch"]
    let v := v.addWarnings (if m.packets = 0 ∧ m.delivered then
      ["delivered-without-measured-traffic"] else [])
    v.addWarnings (if kindMatches ∧ v.locator.kind ≠ .invalid ∧
        ¬m.locators.any (fun l ↦ sameLocatorLocal l.locator v.locator stats.localAddresses) then
      ["measured-locator-mismatch"] else [])

/-- What the measurement makes of the verdict on one pair. -/
def overlay (stats : StatsData) (allReadersDatasharing : Bool) (src : String) (v : Verdict)
    (m : Measurement) : Verdict :=
  if qosUnmatched v || nameUnmatched v || typeInformationUnmatched v then overlayUnmatched v m
  else if "shm-ipc-namespace-split" ∈ v.warnings then overlaySplit v m
  else if ¬m.available then v.addWarnings ["stats-not-enabled-on-writer"]
  else if "intra-process" ∈ v.reasons ∧ m.packets = 0 then
    v.addWarnings (if m.delivered then [] else ["no-traffic-observed"])
  else
    -- packets of an intra-process pair: the prediction was wrong, the counters are right
    let v := { v with reasons := v.reasons.filter (· ≠ "intra-process") }
    if v.transport = .dataSharing then overlayDataSharing allReadersDatasharing v m
    else overlayTransport stats src v m

/-! ## All pairs of a topic -/

/-- Every pair of the same writer is on data-sharing, or split from it by the IPC namespace. -/
def allReadersDatasharing (pairs : List Pair) (p : Pair) : Bool :=
  pairs.all fun q ↦ q.writer ≠ p.writer || q.verdict.transport = .dataSharing ||
    isDatasharingSplit q.verdict

/-- The pair with what was measured of it and the warnings of its counters. -/
def measurePair (stats : StatsData) (p : Pair) : Pair :=
  let m := measure stats p.writer.toEndpoint p.reader.toEndpoint p.measured
  { p with
    measured := m
    verdict := p.verdict.addWarnings (counterWarnings m) }

def overlayPair (stats : StatsData) (allReadersDatasharing : Bool) (p : Pair) : Pair :=
  let p := measurePair stats p
  { p with
    verdict := overlay stats allReadersDatasharing p.writer.participantGuidPrefix p.verdict
      p.measured }

/-- A topic while its pairs are walked, with the RTPS_LOST entries it has counted. -/
structure TopicProgress where
  topic : TopicSummary
  lost : Finset ℕ := ∅

/-- What one measured pair adds to the numbers of its topic. -/
def countPair (stats : StatsData) (progress : TopicProgress) (p : Pair) : TopicProgress :=
  let rel := p.measured.reliability
  let fresh := (stats.lost.zipIdx.filter fun it ↦
    concernsLoss stats p.writer.toEndpoint p.reader.toEndpoint it.1 && it.2 ∉ progress.lost)
  let t := progress.topic
  let t := { t with
    lostPackets := (fresh.map fun it ↦ TrafficSample.windowPackets it.1).foldl Words.add
      t.lostPackets }
  let t := if rel.available then
      { t with
        reliabilityAvailable := true
        lostAvailable := t.lostAvailable || rel.lostAvailable
        resent := Words.add t.resent rel.resent }
    else t
  let mean := p.measured.latency.mean
  let t := if p.measured.latencyAvailable then
      { t with
        latency := if ¬t.latencyAvailable ∨ t.latency < mean then mean else t.latency
        latencyAvailable := true }
    else t
  { topic := t
    lost := progress.lost ∪ (fresh.map Prod.snd).toFinset }

/-- The walk over the pairs: `done` is rewritten already, `rest` is not. -/
def overlayPairs (stats : StatsData) (progress : TopicProgress) (done : List Pair) :
    List Pair → TopicSummary
  | [] => { progress.topic with pairs := done }
  | p :: rest =>
      let measured := measurePair stats p
      let all := allReadersDatasharing (done ++ measured :: rest) p
      overlayPairs stats (countPair stats progress measured) (done ++ [overlayPair stats all p])
        rest

def overlayTopic (stats : StatsData) (t : TopicSummary) : TopicSummary :=
  let t := { t with
    latency := 0
    latencyAvailable := false
    reliabilityAvailable := false
    lostAvailable := false
    lostPackets := 0
    resent := 0 }
  overlayPairs stats { topic := t } [] t.pairs

def applyStats (topics : List TopicSummary) (stats : StatsData) : List TopicSummary :=
  if stats.enabled then topics.map (overlayTopic stats) else topics

end TransportViz.Stats
