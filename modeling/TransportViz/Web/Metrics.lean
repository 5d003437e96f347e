import TransportViz.Library.Exposition
import TransportViz.Library.Python
import TransportViz.Web.Document

/-!
# The metrics of a document

The web server tells the latest document in samples of metric families: what was predicted and measured
of each pair, under the names, hosts and GUIDs of its ends, and what the shared memory of the host holds.
`entries` lists the values of a rendered snapshot, and those that are not null are told.
-/

namespace TransportViz.Web.Metrics

open Script

/-! ## Model -/

/-- What Python spells and reads. The numbers of one family are all integers or all floats. -/
class Spelling where
  /-- `str` of a value that is no string. -/
  str : Value → List Char
  /-- `str` of an integer and `repr` of a float. -/
  number : String → ℚ → List Char
  /-- `fromisoformat` and `timestamp`, of a text with a time zone. -/
  timestamp : List Char → Option ℚ
  plain : ∀ family x, number family x ≠ [] ∧ ' ' ∉ number family x ∧ '\n' ∉ number family x

structure Metric where
  name : String
  kind : String
  help : String

/-- `METRICS`. -/
def metrics : List Metric :=
  [⟨"up", "gauge", "1 while transport_viz is running, 0 once it has exited."⟩,
    ⟨"documents_total", "counter", "Documents received from transport_viz."⟩,
    ⟨"info", "gauge", "The domain and schema version of the latest document (always 1)."⟩,
    ⟨"last_document_timestamp_seconds", "gauge",
      "observed_at of the latest document, seconds since the epoch."⟩,
    ⟨"stats_enabled", "gauge", "1 when transport_viz runs with --stats."⟩,
    ⟨"pair_transport", "gauge", "The transport predicted for the pair (always 1)."⟩,
    ⟨"pair_measured_transport", "gauge",
      "A transport that carried packets of the pair (always 1; --stats)."⟩,
    ⟨"pair_warning", "gauge", "A warning code of the pair (always 1)."⟩,
    ⟨"pair_packets", "gauge", "RTPS packets sent to the reader during the observation."⟩,
    ⟨"pair_bytes", "gauge", "RTPS bytes sent to the reader during the observation."⟩,
    ⟨"pair_delivered_per_second", "gauge",
      "Samples delivered per second inside the rate window (a lower bound when the " ++
        "reader's statistics lost samples)."⟩,
    ⟨"pair_latency_seconds", "gauge", "Write-to-notification latency of the pair."⟩,
    ⟨"pair_lost_packets", "gauge",
      "RTPS_LOST packets the reader's participant missed from the writer's participant."⟩,
    ⟨"pair_resent_datas", "gauge", "DATA submessages the writer sent again."⟩,
    ⟨"shm_total_bytes", "gauge", "Size of the shared-memory file system of this host."⟩,
    ⟨"shm_used_bytes", "gauge", "Used bytes of the shared-memory file system."⟩,
    ⟨"shm_free_bytes", "gauge", "Free bytes of the shared-memory file system."⟩,
    ⟨"shm_fastdds_bytes", "gauge", "Bytes of the Fast DDS files in it."⟩,
    ⟨"shm_segments", "gauge", "Fast DDS shared-memory segments."⟩,
    ⟨"shm_ports", "gauge", "Fast DDS shared-memory ports."⟩,
    ⟨"shm_stale_segments", "gauge", "Segments no live process holds."⟩,
    ⟨"shm_stale_ports", "gauge", "Ports no live process holds."⟩]

/-- `PAIR_LABELS`. -/
def pairLabels : List String :=
  ["topic", "writer_node", "reader_node", "writer_host", "reader_host", "writer_guid", "reader_guid"]

abbrev Labels := List (String × Value)

/-- An entry of `samples[family]`. -/
structure MetricSample where
  family : String
  labels : Labels
  value : Value

/-- Nothing is added for a value that is null. -/
def add (family : String) (labels : Labels) : Value → List MetricSample
  | .null => []
  | value => [⟨family, labels, value⟩]

section Samples

variable [Spelling]

def str : Value → List Char
  | .string s => s.toList
  | v => Spelling.str v

def labelValue (value : Value) : List Char :=
  Python.replace '\n' ['\\', 'n']
    (Python.replace '"' ['\\', '"'] (Python.replace '\\' ['\\', '\\'] (str value)))

/-- The text of a value of the family. -/
def number (family : String) : Value → List Char
  | .bool b => if b then ['1'] else ['0']
  | .number x => Spelling.number family x
  | v => str v

def timestamp (observedAt : Value) : Value :=
  match Spelling.timestamp (Python.replace 'Z' "+00:00".toList (str observedAt)) with
  | some instant => .number instant
  | none => .null

end Samples

def firstLocalHost (doc : Value) : List Value → Option Value
  | [] => some (.string "local")
  | participant :: rest => do
    let hostId ← Python.get participant "host_id"
    let localHostId ← Python.get doc "local_host_id"
    let host ← Python.get participant "host"
    if Python.equal hostId localHostId && Python.truth host then some host
    else firstLocalHost doc rest

/-- The label the document gives the tool's own host. -/
def localHost (doc : Value) : Option Value := do
  let participants ← Python.iterate (Python.orElse (← Python.get doc "participants") (.array []))
  firstLocalHost doc participants

/-- The labels that all samples of a pair have. -/
def baseLabels (topic pair : Value) : Option Labels := do
  let name ← Python.get topic "topic"
  let others ← pairLabels.tail.mapM fun k ↦ (Python.get pair k).map fun v ↦ (k, v)
  return ("topic", name) :: others

def measuredSamples (base : Labels) (m : Value) : Option (List MetricSample) := do
  let transports ← Python.iterate (Python.orElse (← Python.get m "transports") (.array []))
  let packets ← Python.get m "packets"
  let bytes ← Python.get m "bytes"
  let delivered ← Python.get m "delivered_per_s"
  let latency ← Python.items (Python.orElse (← Python.get m "latency_s") (.object []))
  let reliability := Python.orElse (← Python.get m "reliability") (.object [])
  let lost ← Python.get reliability "lost_packets"
  let resent ← Python.get reliability "resent_datas"
  return transports.flatMap (fun t ↦
      add "pair_measured_transport" (base ++ [("transport", t)]) (.number 1)) ++
    add "pair_packets" base packets ++ add "pair_bytes" base bytes ++
    add "pair_delivered_per_second" base delivered ++
    (latency.filter fun stat ↦ stat.1 ≠ "samples").flatMap (fun stat ↦
      add "pair_latency_seconds" (base ++ [("stat", .string stat.1)]) stat.2) ++
    add "pair_lost_packets" base lost ++ add "pair_resent_datas" base resent

def pairSamples (topic pair : Value) : Option (List MetricSample) := do
  let base ← baseLabels topic pair
  let transport ← Python.get pair "transport"
  let warnings ← Python.iterate (Python.orElse (← Python.get pair "warnings") (.array []))
  let m := Python.orElse (← Python.get pair "measured") (.object [])
  let measured ←
    if Python.truth (← Python.get m "available") then measuredSamples base m else some []
  return add "pair_transport" (base ++ [("transport", transport)]) (.number 1) ++
    warnings.flatMap (fun code ↦ add "pair_warning" (base ++ [("code", code)]) (.number 1)) ++
    measured

def topicSamples (topic : Value) : Option (List MetricSample) := do
  let pairs ← Python.iterate (Python.orElse (← Python.get topic "pairs") (.array []))
  let samples ← pairs.mapM (pairSamples topic)
  return samples.flatten

def shmKeys : List String :=
  ["total_bytes", "used_bytes", "free_bytes", "fastdds_bytes", "segments", "ports", "stale_segments",
    "stale_ports"]

def shmSamples (doc : Value) : Option (List MetricSample) := do
  let shm := Python.orElse (← Python.get doc "shm") (.object [])
  if Python.truth (← Python.get shm "available") then
    let samples ← shmKeys.mapM fun key ↦ do
      return add ("shm_" ++ key) [("host", ← localHost doc)] (← Python.get shm key)
    return samples.flatten
  else return []

def documentSamples [Spelling] (doc : Value) : Option (List MetricSample) := do
  let domain ← Python.get doc "domain"
  let schemaVersion ← Python.get doc "schema_version"
  let observedAt ← Python.get doc "observed_at"
  let enabled ← Python.get (Python.orElse (← Python.get doc "stats") (.object [])) "enabled"
  let topics ← Python.iterate (Python.orElse (← Python.get doc "topics") (.array []))
  let ofTopics ← topics.mapM topicSamples
  let ofShm ← shmSamples doc
  return add "info" [("domain", domain), ("schema_version", schemaVersion)] (.number 1) ++
    add "last_document_timestamp_seconds" [] (timestamp observedAt) ++
    add "stats_enabled" [] (.bool (Python.truth enabled)) ++ ofTopics.flatten ++ ofShm

/-- Before the first document there is none. -/
def metricSamples [Spelling] (doc : Value) (documents : ℕ) (ended : Value) :
    Option (List MetricSample) := do
  let ofDocument ←
    match doc with
    | .null => some []
    | doc => documentSamples doc
  return add "up" [] (.number (if Python.truth ended then 0 else 1)) ++
    add "documents_total" [] (.number documents) ++ ofDocument

section Lines

variable [Spelling]

def sampleLine (s : MetricSample) : List Char :=
  let full := ("transport_viz_" ++ s.family).toList
  let text := [','].intercalate
    (s.labels.map fun label ↦ label.1.toList ++ ['=', '"'] ++ labelValue label.2 ++ ['"'])
  if text ≠ [] then full ++ ['{'] ++ text ++ ['}', ' '] ++ number s.family s.value
  else full ++ [' '] ++ number s.family s.value

def familyLines (samples : List MetricSample) (metric : Metric) : List (List Char) :=
  let own := samples.filter fun s ↦ s.family = metric.name
  if own.isEmpty then []
  else
    let full := "transport_viz_" ++ metric.name
    ("# HELP " ++ full ++ " " ++ metric.help).toList ::
      ("# TYPE " ++ full ++ " " ++ metric.kind).toList :: own.map sampleLine

def metricLines (samples : List MetricSample) : List (List Char) := metrics.flatMap (familyLines samples)

def metricsText (doc : Value) (documents : ℕ) (ended : Value) : Option (List Char) :=
  (metricSamples doc documents ended).map fun samples ↦
    ['\n'].intercalate (metricLines samples) ++ ['\n']

end Lines

/-! ## Specification -/

section Entries

variable (snap : Snapshot) (opt : RenderOptions)

/-- What tells a pair from all others, and how it is named. -/
def pairBase (t : TopicSummary) (p : Pair) : Labels :=
  [("topic", .string t.displayTopic),
    ("writer_node", .string p.writer.nodeName),
    ("reader_node", .string p.reader.nodeName),
    ("writer_host", .string (hostLabel snap p.writer.toEndpoint opt)),
    ("reader_host", .string (hostLabel snap p.reader.toEndpoint opt)),
    ("writer_guid", .string p.writer.guid),
    ("reader_guid", .string p.reader.guid)]

def measuredEntries (base : Labels) (m : Measurement) : List MetricSample :=
  m.transports.map (fun t ↦
      ⟨"pair_measured_transport", base ++ [("transport", .string t.text)], .number 1⟩) ++
    [⟨"pair_packets", base, .number m.packets⟩,
      ⟨"pair_bytes", base, .number m.bytes⟩,
      ⟨"pair_delivered_per_second", base, optionalNumber m.rateAvailable m.deliveredPerS⟩] ++
    (if m.latencyAvailable then
      [("mean", .number m.latency.mean), ("min", finite m.latency.min), ("max", finite m.latency.max),
          ("last", .number m.latency.last)].map fun stat ↦
        ⟨"pair_latency_seconds", base ++ [("stat", .string stat.1)], stat.2⟩
    else []) ++
    [⟨"pair_lost_packets", base,
        if m.reliability.available then
          optionalNumber m.reliability.lostAvailable m.reliability.lostPackets
        else .null⟩,
      ⟨"pair_resent_datas", base, optionalNumber m.reliability.available m.reliability.resent⟩]

/-- The values there are for a pair, null where there is none. -/
def pairEntries (t : TopicSummary) (p : Pair) : List MetricSample :=
  let base := pairBase snap opt t p
  ⟨"pair_transport", base ++ [("transport", .string p.verdict.transport.text)], .number 1⟩ ::
    p.verdict.warnings.map (fun code ↦
      ⟨"pair_warning", base ++ [("code", .string code)], .number 1⟩) ++
    if p.measured.available then measuredEntries base p.measured else []

/-- A participant of this host that has a label lends it. -/
def hostOf : String :=
  ((snap.participants.map fun p ↦ (hostIdHex p.hostId, hostLabelOf snap p.hostId p.hostName opt)).find?
    fun host ↦ host.1 = hostIdHex snap.localHostId ∧ host.2 ≠ "").elim "local" Prod.snd

def shmEntries : List MetricSample :=
  if snap.shm.available then
    [("shm_total_bytes", snap.shm.totalBytes), ("shm_used_bytes", snap.shm.usedBytes),
        ("shm_free_bytes", snap.shm.freeBytes), ("shm_fastdds_bytes", snap.shm.fastddsBytes),
        ("shm_segments", snap.shm.segments), ("shm_ports", snap.shm.ports),
        ("shm_stale_segments", snap.shm.staleSegments), ("shm_stale_ports", snap.shm.stalePorts)].map
      fun entry ↦ ⟨entry.1, [("host", .string (hostOf snap opt))], .number (entry.2 : ℕ)⟩
  else []

/-- All values that a rendered snapshot has to tell. -/
def entries [Spelling] (documents : ℕ) (ended : Value) : List MetricSample :=
  [⟨"up", [], .number (if Python.truth ended then 0 else 1)⟩,
    ⟨"documents_total", [], .number documents⟩,
    ⟨"info", [("domain", .number snap.domain), ("schema_version", .number 1)], .number 1⟩,
    ⟨"last_document_timestamp_seconds", [], timestamp (.string snap.observedAt)⟩,
    ⟨"stats_enabled", [], .bool snap.stats.enabled⟩] ++
    snap.topics.flatMap (fun t ↦ t.pairs.flatMap (pairEntries snap opt t)) ++ shmEntries snap opt

end Entries

/-- The samples of the values that are not null. -/
def told (entries : List MetricSample) : List MetricSample :=
  entries.flatMap fun e ↦ add e.family e.labels e.value

/-! ## Reading -/

section Reading

@[simp]
theorem told_nil : told [] = [] := rfl

@[simp]
theorem told_append (first second : List MetricSample) :
    told (first ++ second) = told first ++ told second := List.flatMap_append

@[simp]
theorem told_cons (e : MetricSample) (rest : List MetricSample) :
    told (e :: rest) = add e.family e.labels e.value ++ told rest := List.flatMap_cons

theorem told_map {α : Type} (entry : α → MetricSample) (l : List α) :
    told (l.map entry) = l.flatMap fun a ↦
      add (entry a).family (entry a).labels (entry a).value := List.flatMap_map ..

theorem told_flatMap {α : Type} (entries : α → List MetricSample) (l : List α) :
    told (l.flatMap entries) = l.flatMap fun a ↦ told (entries a) := List.flatMap_assoc ..

variable (snap : Snapshot) (opt : RenderOptions) (t : TopicSummary) (p : Pair)

theorem baseLabels_json :
    baseLabels (topicJson snap t opt) (pairJson snap p opt) = some (pairBase snap opt t p) := by
  simp [baseLabels, pairLabels, topicJson, pairJson, List.lookup_cons, pairBase]

theorem measuredSamples_json (base : Labels) (m : Measurement) :
    measuredSamples base (measuredJson snap m) = some (told (measuredEntries base m)) := by
  have hlatency : Python.items (Python.orElse (latencyJson m) (.object [])) =
      some (if m.latencyAvailable then
        [("mean", .number m.latency.mean), ("min", finite m.latency.min),
          ("max", finite m.latency.max), ("last", .number m.latency.last),
          ("samples", .number m.latency.samples)] else []) := by
    unfold latencyJson
    split_ifs <;> simp
  have hreliability (name : String) :
      Python.get (Python.orElse (reliabilityJson m.reliability) (.object [])) name =
        some (if m.reliability.available then
          ([("lost_packets", optionalNumber m.reliability.lostAvailable m.reliability.lostPackets),
            ("resent_datas", Value.number m.reliability.resent),
            ("heartbeats", .number m.reliability.heartbeats), ("gaps", .number m.reliability.gaps),
            ("acknacks", .number m.reliability.acknacks),
            ("nackfrags", .number m.reliability.nackfrags)].lookup name).getD .null else .null) := by
    unfold reliabilityJson
    split_ifs <;> simp
  simp only [measuredSamples, measuredJson, Python.get_object, List.lookup_cons]
  simp only [measuredEntries, told_append, told_map]
  by_cases hsampled : m.latencyAvailable = true
  · simp [hlatency, hreliability, hsampled, List.lookup_cons, optionalNumber, List.flatMap_map]
  · simp [hlatency, hreliability, hsampled, List.lookup_cons, optionalNumber, List.flatMap_map]

theorem pairSamples_json :
    pairSamples (topicJson snap t opt) (pairJson snap p opt) =
      some (told (pairEntries snap opt t p)) := by
  have hbase := baseLabels_json snap opt t p
  have hmeasured := measuredSamples_json snap (pairBase snap opt t p) p.measured
  have hobject : Python.orElse (measuredJson snap p.measured) (.object []) =
      measuredJson snap p.measured := Python.orElse_object _
  have havailable : Python.get (measuredJson snap p.measured) "available" =
      some (.bool p.measured.available) := rfl
  have hwarnings : Python.iterate (Python.orElse (texts p.verdict.warnings) (.array [])) =
      some (p.verdict.warnings.map .string) := by simp [texts]
  unfold pairSamples pairEntries
  rw [hbase]
  simp only [pairJson, Python.get_object, List.lookup_cons]
  by_cases hthere : p.measured.available = true
  · simp [hobject, havailable, hwarnings, hmeasured, hthere, told_map, List.flatMap_map]
  · simp [hobject, havailable, hwarnings, hthere, told_map, List.flatMap_map]

theorem topicSamples_json :
    topicSamples (topicJson snap t opt) = some (told (t.pairs.flatMap (pairEntries snap opt t))) := by
  have hpairs : (t.pairs.map fun p ↦ pairJson snap p opt).mapM (pairSamples (topicJson snap t opt)) =
      some (t.pairs.map fun p ↦ told (pairEntries snap opt t p)) := by
    rw [List.mapM_map]
    exact mapM_eq_some_map fun p _ ↦ pairSamples_json snap opt t p
  have hget : Python.get (topicJson snap t opt) "pairs" =
      some (.array (t.pairs.map fun p ↦ pairJson snap p opt)) := rfl
  rw [told_flatMap, List.flatMap_def]
  simp [topicSamples, hget, hpairs]

theorem get_participants_json :
    Python.iterate (Python.orElse ((Python.get (renderJson snap opt) "participants").getD .null)
        (.array [])) =
      some (snap.participants.map fun p ↦ participantJson snap p opt) := by
  have hlookup : Python.get (renderJson snap opt) "participants" =
      some (if snap.participants ≠ [] then
        .array (snap.participants.map fun p ↦ participantJson snap p opt) else .null) := by
    unfold renderJson
    split_ifs <;> simp [List.lookup_cons]
  rw [hlookup]
  split_ifs with hnone
  · simp
  · simp [not_not.mp hnone]

theorem firstLocalHost_json (participants : List Participant) :
    firstLocalHost (renderJson snap opt) (participants.map fun p ↦ participantJson snap p opt) =
      some (.string (((participants.map fun p ↦
        (hostIdHex p.hostId, hostLabelOf snap p.hostId p.hostName opt)).find?
          fun host ↦ host.1 = hostIdHex snap.localHostId ∧ host.2 ≠ "").elim "local" Prod.snd)) := by
  have hlocal : Python.get (renderJson snap opt) "local_host_id" =
      some (.string (hostIdHex snap.localHostId)) := by
    simp [renderJson, List.lookup_cons]
  induction participants with
  | nil => rfl
  | cons p rest ih =>
    rw [List.map_cons, List.map_cons, firstLocalHost, List.find?_cons, hlocal, ih]
    by_cases hfound : hostIdHex p.hostId = hostIdHex snap.localHostId ∧
        hostLabelOf snap p.hostId p.hostName opt ≠ ""
    · simp [participantJson, List.lookup_cons, hfound]
    · rw [decide_eq_false hfound]
      simp [participantJson, List.lookup_cons, hfound]

theorem localHost_json : localHost (renderJson snap opt) = some (.string (hostOf snap opt)) := by
  have hparticipants := get_participants_json snap opt
  have hfirst := firstLocalHost_json snap opt snap.participants
  obtain ⟨v, hget⟩ : ∃ v, Python.get (renderJson snap opt) "participants" = some v := ⟨_, rfl⟩
  rw [hget, Option.getD_some] at hparticipants
  simp only [localHost, hget, Option.bind_eq_bind, Option.bind_some, hparticipants]
  exact hfirst

theorem shmSamples_json : shmSamples (renderJson snap opt) = some (told (shmEntries snap opt)) := by
  have hshm : Python.get (renderJson snap opt) "shm" = some (shmJson snap.shm) := by
    simp [renderJson, List.lookup_cons]
  have hobject : Python.orElse (shmJson snap.shm) (.object []) = shmJson snap.shm :=
    Python.orElse_object _
  have havailable : Python.get (shmJson snap.shm) "available" = some (.bool snap.shm.available) := by
    simp [shmJson]
  have hhost := localHost_json snap opt
  unfold shmSamples shmEntries
  simp only [hshm, hobject, havailable, Option.bind_eq_bind, Option.bind_some]
  by_cases hthere : snap.shm.available = true
  · rw [if_pos (show Python.truth (.bool snap.shm.available) = true from hthere), if_pos hthere]
    simp only [shmKeys, hhost, shmJson, hthere]
    simp [List.lookup_cons]
  · rw [if_neg (show ¬Python.truth (.bool snap.shm.available) = true from hthere), if_neg hthere]
    rfl

variable [Spelling]

/-- What a rendered snapshot has to tell is told, and no reading raises an exception. -/
theorem metricSamples_renderJson (documents : ℕ) (ended : Value) :
    metricSamples (renderJson snap opt) documents ended =
      some (told (entries snap opt documents ended)) := by
  have htopics : (snap.topics.map fun t ↦ topicJson snap t opt).mapM topicSamples =
      some (snap.topics.map fun t ↦ told (t.pairs.flatMap (pairEntries snap opt t))) := by
    rw [List.mapM_map]
    exact mapM_eq_some_map fun t _ ↦ topicSamples_json snap opt t
  have hget (name : String) (v : Value)
      (h : [("schema_version", .number 1), ("domain", .number snap.domain),
        ("observed_at", .string snap.observedAt),
        ("observation_seconds", .number snap.observationSeconds),
        ("local_host_id", .string (hostIdHex snap.localHostId)),
        ("topics", .array (snap.topics.map fun t ↦ topicJson snap t opt)),
        ("stats", statsJson snap.stats), ("shm", shmJson snap.shm)].lookup name = some v) :
      Python.get (renderJson snap opt) name = some v := by
    simp only [renderJson, Python.get_object, List.append_assoc, List.lookup_append, h]
    rfl
  have henabled : Python.get (Python.orElse (statsJson snap.stats) (.object [])) "enabled" =
      some (.bool snap.stats.enabled) := by
    rw [statsJson, Python.orElse_object]
    rfl
  have hshm := shmSamples_json snap opt
  have hflat : (snap.topics.map fun t ↦ told (t.pairs.flatMap (pairEntries snap opt t))).flatten =
      told (snap.topics.flatMap fun t ↦ t.pairs.flatMap (pairEntries snap opt t)) := by
    rw [told_flatMap, List.flatMap_def]
  have hdocument : documentSamples (renderJson snap opt) =
      some (told (entries snap opt documents ended).tail.tail) := by
    unfold documentSamples
    rw [hget "domain" _ rfl, hget "schema_version" _ rfl, hget "observed_at" _ rfl,
      hget "stats" _ rfl, hget "topics" _ rfl]
    simp [henabled, htopics, hshm, hflat, entries]
  have hsamples : metricSamples (renderJson snap opt) documents ended =
      (documentSamples (renderJson snap opt)).bind fun ofDocument ↦
        some (add "up" [] (.number (if Python.truth ended then 0 else 1)) ++
          add "documents_total" [] (.number documents) ++ ofDocument) := rfl
  rw [hsamples, hdocument]
  simp [entries]

end Reading

end TransportViz.Web.Metrics
