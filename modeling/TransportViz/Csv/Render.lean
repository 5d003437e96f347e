import TransportViz.Library.Csv
import TransportViz.Library.JsonReader
import TransportViz.Web.Document

/-!
# The CSV output

`renderCsv` writes a row per pair, topic by topic. A parser reads every row back as the cells it was
built from, whatever the names consist of, also when the outputs of several frames follow each other.
The characters of a text stand for its bytes.
-/

namespace TransportViz.RenderCsv

open JsonReader Web

/-! ## Model -/

structure CsvOptions extends RenderOptions where
  csvNoHeader : Bool := false

def csvMarks : Csv.Marks Char where
  comma := ','
  quote := '"'
  cr := '\r'
  lf := '\n'
  nodup := by decide

/-- A field with a comma, a quote or a line break is put between quotes. -/
def field (s : String) : String :=
  if s.toList.all fun c ↦ c ≠ ',' ∧ c ≠ '"' ∧ c ≠ '\r' ∧ c ≠ '\n' then s
  else s.toList.foldl (fun out c ↦ (if c = '"' then out.push '"' else out).push c) "\"" ++ "\""

/-- Numbers are spelled as the JSON document spells them. -/
def number [Dump] (v : ℚ) : String := Dump.dump (.number v)

/-- Infinite numbers, too. -/
def extended [Dump] (v : Option ℚ) : String := Dump.dump (finite v)

def joined (items : List String) : String :=
  items.foldl (fun out s ↦ out ++ ((if out = "" then "" else ";") ++ s)) ""

def columns : List String :=
  ["observed_at", "domain", "topic", "type",
    "writer_node", "writer_host", "writer_guid",
    "reader_node", "reader_host", "reader_guid",
    "transport", "confidence", "reasons", "warnings", "measured_transports",
    "packets", "bytes", "delivered_per_s", "delivered_per_s_lower_bound",
    "latency_mean_s", "latency_min_s", "latency_max_s", "latency_last_s",
    "lost_packets", "resent_datas"]

def row (out : String) (cells : List String) : String :=
  out ++ ",".intercalate (cells.map field) ++ "\n"

/-- The cells of a pair. An empty one is the JSON document's null: nothing was measured for the value.
-/
def cells [Dump] (snap : Snapshot) (opt : CsvOptions) (t : TopicSummary) (p : Pair) : List String :=
  let m := p.measured
  let latency := m.latencyAvailable
  let lost := m.reliability.available && m.reliability.lostAvailable
  [snap.observedAt, number snap.domain, t.displayTopic, t.displayType,
    p.writer.nodeName, hostLabel snap p.writer.toEndpoint opt.toRenderOptions, p.writer.guid,
    p.reader.nodeName, hostLabel snap p.reader.toEndpoint opt.toRenderOptions, p.reader.guid,
    p.verdict.transport.text, p.verdict.confidence.text,
    joined p.verdict.reasons, joined p.verdict.warnings, joined (m.transports.map Transport.text),
    if m.available then number m.packets else "", if m.available then number m.bytes else "",
    if m.rateAvailable then number m.deliveredPerS else "",
    if m.rateAvailable then (if m.rateLowerBound then "true" else "false") else "",
    if latency then number m.latency.mean else "", if latency then extended m.latency.min else "",
    if latency then extended m.latency.max else "", if latency then number m.latency.last else "",
    if lost then number m.reliability.lostPackets else "",
    if m.reliability.available then number m.reliability.resent else ""]

def renderCsv [Dump] (snap : Snapshot) (opt : CsvOptions) : String :=
  -- the header stands also when there is no pair
  let out := if opt.csvNoHeader then "" else row "" columns
  snap.topics.foldl (fun out t ↦ t.pairs.foldl (fun out p ↦ row out (cells snap opt t p)) out) out

/-! ## Specification -/

/-- What a parser reads. -/
def parseCsv (text : String) : Option (List (List String)) :=
  (Csv.parse csvMarks text.toList).map fun records ↦ records.map fun cells ↦ cells.map String.ofList

section Specification

variable [Dump] (snap : Snapshot) (opt : CsvOptions)

def header : List (List String) := if opt.csvNoHeader then [] else [columns]

def pairRecords : List (List String) := snap.topics.flatMap fun t ↦ t.pairs.map (cells snap opt t)

def records : List (List String) := header opt ++ pairRecords snap opt

/-- The output of a snapshot, and of several frames, is read back. -/
structure ReadsBack : Prop where
  parse_eq : parseCsv (renderCsv snap opt) = some (records snap opt)
  length_eq : ∀ record ∈ records snap opt, record.length = columns.length
  frames : ∀ frames : List (Snapshot × CsvOptions),
    parseCsv (String.join (frames.map fun frame ↦ renderCsv frame.1 frame.2)) =
      some (frames.flatMap fun frame ↦ records frame.1 frame.2)

end Specification

/-! ## The rows as the writer's -/

section Rows

theorem mem_all_iff {c : Char} : c ∉ csvMarks.all ↔ c ≠ ',' ∧ c ≠ '"' ∧ c ≠ '\r' ∧ c ≠ '\n' := by
  simp [Csv.Marks.all, csvMarks]

theorem toList_foldl_quoted (text : List Char) (out : String) :
    (text.foldl (fun out c ↦ (if c = '"' then out.push '"' else out).push c) out).toList =
      out.toList ++ Csv.doubled csvMarks text := by
  induction text generalizing out with
  | nil => simp [Csv.doubled]
  | cons c rest ih =>
    rw [List.foldl_cons, ih, Csv.doubled, Csv.doubled, List.flatMap_cons, ← List.append_assoc]
    congr 1
    by_cases hc : c = '"' <;> simp [hc, csvMarks]

theorem toList_field (s : String) : (field s).toList = Csv.writeCell csvMarks s.toList := by
  simp only [field, Csv.writeCell, List.all_eq_true, decide_eq_true_eq, mem_all_iff]
  split_ifs with h
  · rfl
  · rw [String.toList_append, toList_foldl_quoted]
    rfl

theorem toList_row (out : String) (cells : List String) :
    (row out cells).toList = out.toList ++ Csv.writeRow csvMarks (cells.map String.toList) := by
  rw [row, String.toList_append, String.toList_append, String.toList_intercalate, List.append_assoc,
    Csv.writeRow, List.map_map, List.map_map]
  simp only [Function.comp_def, toList_field]
  rfl

end Rows

section Written

/-- The text of records. -/
def written (records : List (List String)) : List Char :=
  records.flatMap fun record ↦ Csv.writeRow csvMarks (record.map String.toList)

theorem toList_foldl_row {α : Type*} (items : List α) (record : α → List String) (out : String) :
    (items.foldl (fun out item ↦ row out (record item)) out).toList =
      out.toList ++ written (items.map record) := by
  induction items generalizing out with
  | nil => simp [written]
  | cons item rest ih =>
    rw [List.foldl_cons, ih, toList_row, List.append_assoc, List.map_cons, written, written,
      List.flatMap_cons]

theorem written_append (first second : List (List String)) :
    written (first ++ second) = written first ++ written second := List.flatMap_append

/-- Records without an empty one are read back. -/
theorem parseCsv_written (records : List (List String)) (h : ∀ record ∈ records, record ≠ [])
    (text : String) (htext : text.toList = written records) : parseCsv text = some records := by
  have hparse := Csv.parse_write csvMarks (records.map fun record ↦ record.map String.toList) (by
    rw [List.forall_mem_map]
    intro record hrecord hnil
    exact h record hrecord (List.map_eq_nil_iff.mp hnil))
  rw [List.flatMap_map] at hparse
  rw [parseCsv, htext, written, hparse, Option.map_some, List.map_map]
  have hcell : String.ofList ∘ String.toList = id := funext fun s ↦ String.ofList_toList
  have hrecord : (List.map String.ofList ∘ List.map String.toList) = id := by
    rw [List.map_comp_map, hcell, List.map_id_fun]
  exact congrArg some ((congrArg (List.map · records) hrecord).trans (List.map_id records))

end Written

section Output

variable [Dump] (snap : Snapshot) (opt : CsvOptions)

theorem length_cells (t : TopicSummary) (p : Pair) :
    (cells snap opt t p).length = columns.length := rfl

theorem toList_foldl_topics (topics : List TopicSummary) (out : String) :
    (topics.foldl (fun out t ↦ t.pairs.foldl (fun out p ↦ row out (cells snap opt t p)) out) out).toList =
      out.toList ++ written (topics.flatMap fun t ↦ t.pairs.map (cells snap opt t)) := by
  induction topics generalizing out with
  | nil => simp [written]
  | cons t rest ih =>
    rw [List.foldl_cons, ih, toList_foldl_row, List.flatMap_cons, written_append, List.append_assoc]

theorem toList_renderCsv : (renderCsv snap opt).toList = written (records snap opt) := by
  rw [renderCsv, toList_foldl_topics, records, written_append, pairRecords, header]
  congr 1
  split_ifs
  · rfl
  · rw [toList_row]
    simp [written]

theorem length_of_mem_records {record : List String} (h : record ∈ records snap opt) :
    record.length = columns.length := by
  rw [records, List.mem_append] at h
  rcases h with h | h
  · rw [header] at h
    split_ifs at h
    · exact absurd h List.not_mem_nil
    · rw [List.mem_singleton.mp h]
  · obtain ⟨t, _, hpair⟩ := List.mem_flatMap.mp h
    obtain ⟨p, _, rfl⟩ := List.mem_map.mp hpair
    exact length_cells snap opt t p

theorem ne_nil_of_mem_records {record : List String} (h : record ∈ records snap opt) : record ≠ [] := by
  intro hnil
  have hlength := length_of_mem_records snap opt h
  rw [hnil] at hlength
  exact absurd hlength (by decide)

theorem toList_join_frames (frames : List (Snapshot × CsvOptions)) :
    (String.join (frames.map fun frame ↦ renderCsv frame.1 frame.2)).toList =
      written (frames.flatMap fun frame ↦ records frame.1 frame.2) := by
  rw [String.toList_join, List.flatMap_map]
  simp only [toList_renderCsv, written]
  rw [List.flatMap_assoc]

end Output

/-- What is written is read back, cell by cell. -/
theorem readsBack [Dump] (snap : Snapshot) (opt : CsvOptions) : ReadsBack snap opt where
  parse_eq := parseCsv_written _ (fun _ ↦ ne_nil_of_mem_records snap opt) _ (toList_renderCsv snap opt)
  length_eq _ := length_of_mem_records snap opt
  frames frames := by
    apply parseCsv_written _ _ _ (toList_join_frames frames)
    intro record hrecord
    obtain ⟨frame, _, hmem⟩ := List.mem_flatMap.mp hrecord
    exact ne_nil_of_mem_records frame.1 frame.2 hmem

end TransportViz.RenderCsv
