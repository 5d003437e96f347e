import TransportViz.Json.MemberOrder
import TransportViz.Json.RoundTrip
import TransportViz.Library.Decimals
import TransportViz.Library.JsonLines
import TransportViz.Web.ReasonCodes

/-!
# The text of a document

`render_json` writes a document with a newline behind it, and `parse_json` reads one from a file: the
whole text, or its last line when there are several. The JSON library keeps the members of an object in
the order of their keys; how it spells a number and what it says of a text that is none are left open.
-/

namespace TransportViz.Json

open JsonMembers JsonReader Web
open Script (Value)

/-- The JSON library: how numbers are spelled, and the text of the exception for a text that is none. -/
class JsonLibrary where
  numerals : JsonText.Numerals
  what : List Char → String

section Library

variable [JsonLibrary]

/-- `dump()`, or `dump(2)`. -/
def dump (compact : Bool) (v : Value) : List Char :=
  JsonText.write JsonLibrary.numerals (if compact then JsonText.compact else JsonText.indented 2) 0
    (ordered v)

/-- `json::parse`. -/
def parse (text : List Char) : Option Value :=
  (JsonText.parse JsonLibrary.numerals text).map ordered

instance : Dump := ⟨fun v ↦ String.ofList (dump true v)⟩

end Library

/-- Numbers with all their decimals. -/
abbrev decimalLibrary : JsonLibrary where
  numerals := JsonText.decimalNumerals
  what _ := "syntax error"

/-! ## The changes -/

def keyMembers (k : PairKey) : List (String × Value) :=
  [("topic", .string k.topic), ("writer_guid", .string k.writerGuid),
    ("reader_guid", .string k.readerGuid), ("writer_node", .string k.writerNode),
    ("reader_node", .string k.readerNode)]

def stateMembers (state : PairState) : List (String × Value) :=
  [("transport", .string state.transport.text), ("confidence", .string state.confidence.text),
    ("measured", .array (state.measured.map fun t ↦ .string t.text)),
    ("locator", if state.locator.kind = .invalid then .null else locatorJson state.locator),
    ("measured_locators", locatorsJson state.measuredLocators), ("warnings", texts state.warnings)]

/-- `from` has the identity of the pair in the frame before. -/
def changeJson (change : PairChange) : Value :=
  .object (keyMembers change.key ++ [
    ("from", .object (stateMembers change.before ++ [
      ("writer_guid", .string change.beforeKey.writerGuid),
      ("reader_guid", .string change.beforeKey.readerGuid)])),
    ("to", .object (stateMembers change.after))])

/-- What a snapshot says of the changes; a comparison of two documents names the one before. -/
structure ShownChanges where
  changes : Changes
  before : Option Snapshot := none

def changesJson (shown : ShownChanges) : Value :=
  .object ([("key", .string shown.changes.key.text)] ++
    (match shown.before with
    | some before =>
        [("before", .object
          [("observed_at", .string before.observedAt), ("domain", .number before.domain)])]
    | none => []) ++
    [("added_pairs", .array (shown.changes.added.map fun k ↦ .object (keyMembers k))),
      ("removed_pairs", .array (shown.changes.removed.map fun k ↦ .object (keyMembers k))),
      ("changed_pairs", .array (shown.changes.changed.map changeJson))])

/-! ## The document and its text -/

def membersOf : Value → List (String × Value)
  | .object members => members
  | _ => []

/-- The members that no parser reads. -/
def furtherMembers (snap : Snapshot) (shown : Option ShownChanges) : List (String × Value) :=
  [("reason_code_descriptions",
      .object ((reasonCodeDescriptions snap).entries.map fun e ↦ (e.1, .string e.2))),
    ("reason_code_remedies",
      .object ((reasonCodeRemedies snap).entries.map fun e ↦ (e.1, optionalText e.2)))] ++
    match shown with
    | some shown => [("changes", changesJson shown)]
    | none => []

def document (snap : Snapshot) (opt : RenderOptions) (shown : Option ShownChanges) : Value :=
  .object (membersOf (renderJson snap opt) ++ furtherMembers snap shown)

/-! ## Every document has a text -/

section Defined

open JsonText (defined defined_array defined_object)

@[simp]
theorem defined_texts (l : List String) : defined (texts l) = true := by simp [texts, defined_array]

@[simp]
theorem defined_numbers (l : List ℕ) : defined (numbers l) = true := by simp [numbers, defined_array]

@[simp]
theorem defined_optionalNumber (available : Bool) (x : ℚ) :
    defined (optionalNumber available x) = true := by
  cases available <;> simp [optionalNumber]

@[simp]
theorem defined_finite (x : Option ℚ) : defined (finite x) = true := by cases x <;> simp [finite]

@[simp]
theorem defined_optionalText (s : Option String) : defined (optionalText s) = true := by
  cases s <;> simp [optionalText]

@[simp]
theorem defined_optionalBool (b : Option Bool) : defined (optionalBool b) = true := by
  cases b <;> simp [optionalBool]

@[simp]
theorem defined_locatorJson (l : Locator) : defined (locatorJson l) = true := by
  simp [locatorJson, locatorMembers, defined_object]

@[simp]
theorem defined_locatorsJson (ls : List Locator) : defined (locatorsJson ls) = true := by
  simp [locatorsJson, defined_array]

@[simp]
theorem defined_endpointJson (snap : Snapshot) (e : Endpoint) (opt : RenderOptions) :
    defined (endpointJson snap e opt) = true := by
  have hqos : defined (qosJson e.qos) = true := by
    have hfinite : ∀ x : WithTop ℚ, defined (finite x) = true := fun x ↦ defined_finite x
    simp [qosJson, defined_object, defined_array, hfinite]
  by_cases hparent : e.bufferParentGuid = "" <;> simp [endpointJson, defined_object, hqos, hparent]

@[simp]
theorem defined_measuredJson (snap : Snapshot) (m : Measurement) :
    defined (measuredJson snap m) = true := by
  have hlatency : defined (latencyJson m) = true := by
    have hmin : defined (finite m.latency.min) = true := defined_finite _
    have hmax : defined (finite m.latency.max) = true := defined_finite _
    cases h : m.latencyAvailable <;> simp [latencyJson, defined_object, h, hmin, hmax]
  have hreliability : defined (reliabilityJson m.reliability) = true := by
    cases h : m.reliability.available <;> simp [reliabilityJson, defined_object, h]
  simp [measuredJson, measuredLocatorJson, locatorMembers, defined_object, defined_array, hlatency,
    hreliability]

@[simp]
theorem defined_pairJson (snap : Snapshot) (p : Pair) (opt : RenderOptions) :
    defined (pairJson snap p opt) = true := by
  have hselected : defined (selectedLocatorJson p.verdict) = true := by
    unfold selectedLocatorJson
    split_ifs <;> simp [locatorMembers, defined_object]
  simp [pairJson, defined_object, hselected]

@[simp]
theorem defined_topicJson (snap : Snapshot) (t : TopicSummary) (opt : RenderOptions) :
    defined (topicJson snap t opt) = true := by
  simp [topicJson, defined_object, defined_array]

@[simp]
theorem defined_participantJson (snap : Snapshot) (p : Participant) (opt : RenderOptions) :
    defined (participantJson snap p opt) = true := by
  simp [participantJson, shmPortJson, defined_object, defined_array]

@[simp]
theorem defined_statsJson (stats : StatsData) : defined (statsJson stats) = true := by
  simp [statsJson, dataCountJson, hostInfoJson, statisticsWriterJson, trafficJson, lostJson,
    trafficMembers, defined_object, defined_array]

@[simp]
theorem defined_shmJson (shm : ShmInfo) : defined (shmJson shm) = true := by
  cases h : shm.available <;> simp [shmJson, defined_object, h]

@[simp]
theorem defined_changesJson (shown : ShownChanges) : defined (changesJson shown) = true := by
  have hlocator : ∀ l : Locator,
      defined (if l.kind = .invalid then .null else locatorJson l) = true := fun l ↦ by
    split_ifs <;> simp
  cases h : shown.before <;>
    simp [changesJson, changeJson, keyMembers, stateMembers, defined_object, defined_array, hlocator, h]

theorem defined_document (snap : Snapshot) (opt : RenderOptions) (shown : Option ShownChanges) :
    defined (document snap opt shown) = true := by
  by_cases hstopped : snap.discovery.stoppedOn = "" <;> by_cases hnone : snap.participants = [] <;>
    cases shown <;>
    simp [document, membersOf, renderJson, furtherMembers, discoveryJson, defined_object, defined_array,
      hstopped, hnone]

end Defined

/-! ## Writing and reading a text -/

variable [JsonLibrary]

/-- `render_json`. -/
def renderText (compact : Bool) (snap : Snapshot) (opt : RenderOptions) (shown : Option ShownChanges) :
    List Char :=
  dump compact (document snap opt shown) ++ ['\n']

/-- A line that has more than blanks. -/
def hasText (line : List Char) : Bool := line.any fun c ↦ c ∉ [' ', '\t', '\r']

/-- The whole text, or the last of several lines, and how many documents there are. -/
def readDocument (text : List Char) : Read (Value × ℕ) :=
  match parse text with
  | some doc => .ok (doc, 1)
  | none =>
      match ((JsonLines.lines text).filter hasText).reverse with
      | last :: other :: before =>
          match parse last with
          | some doc => .ok (doc, (last :: other :: before).length)
          | none => .error (.parse ("last line is not valid JSON: " ++ JsonLibrary.what last))
      | _ => .error (.parse "not valid JSON")

/-- `parse_json`, with the number of documents. -/
def parseText (text : List Char) : Read (Snapshot × ℕ) := do
  let found ← readDocument text
  return (← parseJson found.1, found.2)

/-! ## What is read from a document -/

section Document

omit [JsonLibrary]

/-- The members of a document that are read. -/
def readKeys : List String :=
  ["schema_version", "domain", "observed_at", "observation_seconds", "local_host_id", "topics", "stats",
    "discovery", "shm", "participants"]

theorem snapshot_congr [Dump] {doc other : Value} (hobject : isObject doc = isObject other)
    (h : ∀ key ∈ readKeys, member? doc key = member? other key) : snapshot doc = snapshot other := by
  have hatKey : ∀ key ∈ readKeys, ∀ place, atKey doc key place = atKey other key place :=
    fun key hkey place ↦ by rw [atKey, h key hkey, atKey]
  unfold snapshot checkVersion participants objectMember
  simp only [readKeys, List.forall_mem_cons] at h hatKey
  simp only [hobject, h, hatKey]

theorem snapshot_append [Dump] (members further : List (String × Value))
    (h : ∀ key ∈ readKeys, further.lookup key = none) :
    snapshot (.object (members ++ further)) = snapshot (.object members) := by
  refine snapshot_congr rfl fun key hkey ↦ ?_
  rw [member?_object, member?_object, List.lookup_append, h key hkey, Option.or_none]

theorem parseJson_document [Dump] {s : Snapshot} (h : Savable s) (opt : RenderOptions)
    (shown : Option ShownChanges) : parseJson (document s opt shown) = .ok (saved s) := by
  have hfurther : ∀ key ∈ readKeys, (furtherMembers s shown).lookup key = none := by
    cases shown <;> simp [readKeys, furtherMembers, List.lookup_cons]
  rw [← parseJson_renderJson h opt, parseJson, parseJson, document, snapshot_append _ _ hfurther]
  rfl

end Document

/-! ## One document -/

section Whole

theorem parse_dump {v : Value} (h : JsonText.defined v = true) (compact : Bool) :
    parse (dump compact v ++ ['\n']) = some (ordered v) := by
  have hdefined : JsonText.defined (ordered v) = true := (defined_ordered v).trans h
  have hends : JsonText.Ends ['\n'] := fun c hc ↦ by
    rw [← Option.some.inj hc]
    rfl
  rw [parse, dump, JsonText.parse_append _ _ hdefined hends, if_pos (by rfl), Option.map_some,
    ordered_ordered]

/-- What was saved is read back, in either layout. -/
theorem parseText_renderText {s : Snapshot} (h : Savable s) (compact : Bool) (opt : RenderOptions)
    (shown : Option ShownChanges) :
    parseText (renderText compact s opt shown) = .ok (saved s, 1) := by
  have hparse :=
    (parseJson_ordered (document s opt shown) (saved s)).mpr (parseJson_document h opt shown)
  rw [parseText, readDocument, renderText, parse_dump (defined_document s opt shown), ok_bind, hparse]
  rfl

end Whole

/-! ## Documents line by line -/

section Lines

open JsonLines

@[simp]
theorem dump_ordered (compact : Bool) (v : Value) : dump compact (ordered v) = dump compact v := by
  rw [dump, ordered_ordered, dump]

/-- Without the library's order of members. -/
theorem reads_script {members : List (String × Value)} (h : JsonText.defined (.object members) = true) :
    Reads (dump true) (JsonText.parse JsonLibrary.numerals) (ordered (.object members)) := by
  have hdefined : JsonText.defined (ordered (.object members)) = true := (defined_ordered _).trans h
  have hwrite : dump true (ordered (.object members)) =
      JsonText.write JsonLibrary.numerals JsonText.compact 0 (ordered (.object members)) :=
    dump_ordered _ _
  rw [ordered_object] at hdefined hwrite ⊢
  have hread := reads_compact JsonLibrary.numerals hdefined
  refine ⟨?_, ?_, fun blanks hblanks ↦ ?_, fun c rest hc ↦ ?_, fun text more hmore hne ↦ ?_⟩
  · rw [hwrite]
    exact hread.framed
  · rw [hwrite]
    exact hread.newline_notMem
  · rw [hwrite, hread.parse_blanks blanks hblanks]
  · rw [hwrite, hread.parse_more c rest hc]
  · exact hread.parse_part text more (hmore.trans hwrite) hne

theorem reads_dump {members : List (String × Value)} (h : JsonText.defined (.object members) = true) :
    Reads (dump true) parse (ordered (.object members)) := by
  have hread := reads_script h
  refine ⟨hread.framed, hread.newline_notMem, fun blanks hblanks ↦ ?_, fun c rest hc ↦ ?_,
    fun text more hmore hne ↦ ?_⟩
  · rw [parse, hread.parse_blanks blanks hblanks, Option.map_some, ordered_ordered]
  · rw [parse, hread.parse_more c rest hc, Option.map_none]
  · rw [parse, hread.parse_part text more hmore hne, Option.map_none]

variable {docs : List Value} {k : ℕ} {text : List Char}

omit [JsonLibrary] in
theorem hasText_brace (rest : List Char) : hasText ('{' :: rest) = true := by
  rw [hasText, List.any_cons]
  rfl

theorem filter_hasText (hread : ∀ doc ∈ docs, Reads (dump true) parse doc) :
    (docs.map (dump true)).filter hasText = docs.map (dump true) := by
  rw [List.filter_eq_self]
  intro line hline
  obtain ⟨doc, hdoc, rfl⟩ := List.mem_map.mp hline
  obtain ⟨rest, hrest⟩ := (hread doc hdoc).framed
  rw [hrest]
  exact hasText_brace _

theorem parse_stopped {whole : Bool} (hread : ∀ doc ∈ docs, Reads (dump true) parse doc)
    (h : Stopped (dump true) docs k whole text) :
    parse text = if k = 1 ∧ whole = true then docs.head? else none := by
  by_cases hne : docs = []
  · subst hne
    cases h with
    | between hk =>
      rw [List.take_nil, List.head?_nil, ite_self]
      exact congrArg (Option.map ordered) (JsonText.parse_nil _)
    | unended hdoc => exact absurd hdoc nofun
    | inside hdoc => exact absurd hdoc nofun
  · exact h.parse_eq hread hne

/-- The last document that was written counts. -/
theorem readDocument_whole (hread : ∀ doc ∈ docs, Reads (dump true) parse doc)
    (h : Stopped (dump true) docs k true text) :
    readDocument text =
      match (docs.take k).getLast? with
      | some doc => .ok (doc, k)
      | none => .error (.parse "not valid JSON") := by
  have htake : ∀ doc ∈ docs.take k, Reads (dump true) parse doc := fun doc hdoc ↦
    hread doc (List.mem_of_mem_take hdoc)
  obtain ⟨torn, htorn, hlines⟩ := h.lines_eq hread
  rw [htorn.nil rfl, List.append_nil] at hlines
  have hlength := h.length_take
  have hparse := parse_stopped hread h
  have hfilter : (JsonLines.lines text).filter hasText = (docs.take k).map (dump true) := by
    rw [hlines, filter_hasText htake]
  rw [readDocument, hparse, hfilter, ← List.map_reverse, ← List.head?_reverse]
  match k with
  | 0 => rfl
  | 1 =>
    obtain ⟨doc, hdoc⟩ := List.length_eq_one_iff.mp hlength
    have hhead : docs.head? = some doc := by
      have hfirst := List.head?_take (l := docs) (i := 1)
      rw [if_neg Nat.one_ne_zero, hdoc] at hfirst
      exact hfirst.symm
    rw [if_pos ⟨rfl, rfl⟩, hhead, hdoc]
    rfl
  | k + 2 =>
    have hreverse := hlength
    rw [← List.length_reverse] at hreverse
    obtain ⟨last, rest, hlast⟩ := List.exists_cons_of_length_eq_add_one hreverse
    obtain ⟨other, before, rfl⟩ := List.exists_cons_of_length_eq_add_one (l := rest) (n := k) (by
      rw [hlast, List.length_cons] at hreverse
      exact Nat.succ.inj hreverse)
    have hmem : last ∈ docs.take (k + 2) := List.mem_reverse.mp (hlast ▸ List.mem_cons_self)
    rw [if_neg (by simp), hlast, List.map_cons, List.map_cons]
    simp only [(htake last hmem).parse_write, List.head?_cons, List.length_cons, List.length_map]
    rw [hlast, List.length_cons, List.length_cons] at hreverse
    rw [hreverse]

/-- A line that broke off is no document. -/
theorem readDocument_torn (hread : ∀ doc ∈ docs, Reads (dump true) parse doc)
    (h : Stopped (dump true) docs k false text) :
    ∃ message, readDocument text = .error (.parse message) := by
  have htake : ∀ doc ∈ docs.take k, Reads (dump true) parse doc := fun doc hdoc ↦
    hread doc (List.mem_of_mem_take hdoc)
  obtain ⟨torn, htorn, hlines⟩ := h.lines_eq hread
  obtain ⟨part, doc, rfl, hne, hdoc, hpart⟩ := htorn.part rfl
  have hdocument := hread doc (List.mem_of_getElem? hdoc)
  have hparse := parse_stopped hread h
  have htext : hasText part = true := by
    obtain ⟨rest, rfl⟩ := hdocument.exists_part hpart hne
    exact hasText_brace rest
  have hfilter : ((JsonLines.lines text).filter hasText).reverse =
      part :: ((docs.take k).map (dump true)).reverse := by
    rw [hlines, List.filter_append, filter_hasText htake, List.filter_cons_of_pos htext,
      List.reverse_append]
    rfl
  rw [if_neg (by simp)] at hparse
  rw [readDocument, hparse, hfilter]
  cases ((docs.take k).map (dump true)).reverse with
  | nil => exact ⟨_, rfl⟩
  | cons other before =>
    refine ⟨"last line is not valid JSON: " ++ JsonLibrary.what part, ?_⟩
    simp only [hdocument.parse_of_part hpart]

end Lines

/-! ## The frames of a recording -/

section Frames

open JsonLines

/-- What one turn of `--watch --json` prints. -/
structure JsonFrame where
  snap : Snapshot
  opt : RenderOptions := {}
  shown : Option ShownChanges := none

/-- The document of the frame, as it is read back. -/
def JsonFrame.document (frame : JsonFrame) : Value :=
  ordered (Json.document frame.snap frame.opt frame.shown)

/-- The output of all turns. -/
def framesText (frames : List JsonFrame) : List Char :=
  frames.flatMap fun frame ↦ renderText true frame.snap frame.opt frame.shown

variable {frames : List JsonFrame}

theorem framesText_eq_stream (frames : List JsonFrame) :
    framesText frames = stream (dump true) (frames.map JsonFrame.document) := by
  rw [framesText, stream, List.flatMap_map]
  exact List.flatMap_congr fun frame _ ↦ by rw [renderText, JsonFrame.document, dump_ordered]

theorem reads_frames : ∀ doc ∈ frames.map JsonFrame.document, Reads (dump true) parse doc := by
  intro doc hdoc
  obtain ⟨frame, -, rfl⟩ := List.mem_map.mp hdoc
  exact reads_dump (defined_document frame.snap frame.opt frame.shown)

variable {k : ℕ} {text : List Char}

/-- From what was written between two lines, the last frame is read. -/
theorem parseText_whole (hsavable : ∀ frame ∈ frames, Savable frame.snap)
    (h : Stopped (dump true) (frames.map JsonFrame.document) k true text) :
    parseText text =
      match (frames.take k).getLast? with
      | some frame => .ok (saved frame.snap, k)
      | none => .error (.parse "not valid JSON") := by
  rw [parseText, readDocument_whole reads_frames h, ← List.map_take, List.getLast?_map]
  cases hlast : (frames.take k).getLast? with
  | none => rfl
  | some frame =>
    have hmem := List.mem_of_mem_take (List.mem_of_getLast? hlast)
    have hparse := (parseJson_ordered _ _).mpr
      (parseJson_document (hsavable frame hmem) frame.opt frame.shown)
    rw [Option.map_some]
    simp only [ok_bind, JsonFrame.document, hparse]
    rfl

theorem parseText_torn (h : Stopped (dump true) (frames.map JsonFrame.document) k false text) :
    ∃ message, parseText text = .error (.parse message) := by
  obtain ⟨message, hmessage⟩ := readDocument_torn reads_frames h
  exact ⟨message, by rw [parseText, hmessage]; rfl⟩

end Frames

end TransportViz.Json
