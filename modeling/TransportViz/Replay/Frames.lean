import TransportViz.Json.Text
import TransportViz.Library.EncodedLines
import TransportViz.Replay.LineSplitter
import TransportViz.Replay.Written

/-!
# The frames of a recorded file

`lastDocument` looks for the last document of a text, `scanRecording` makes a frame of every line that is
a document and counts the lines that are none. A file is read as bytes; the decoder is the browser's.
-/

namespace TransportViz.Replay

open JsonLines Script

/-- White space and line ends. -/
def isSpace (c : Char) : Bool :=
  c ∈ ['\t', '\n', '\x0b', '\x0c', '\r', ' ', '\u00a0', '\u1680', '\u2028', '\u2029', '\u202f', '\u205f',
    '\u3000', '\ufeff'] || '\u2000' ≤ c && c ≤ '\u200a'

/-- A byte order mark at the start is dropped. -/
class TextDecoder where
  decode : List UInt8 → List Char
  decode_encode : ∀ text : List Char, text.head? ≠ some '\ufeff' → decode (Lines.encode text) = text

/-- Bytes that are no UTF-8 become one replacement character. -/
abbrev utf8Decoder : TextDecoder where
  decode bytes :=
    match bytes.toByteArray.utf8Decode? with
    | none => ['\ufffd']
    | some text =>
      if text.toList.head? = some '\ufeff' then text.toList.tail else text.toList
  decode_encode text h := by
    have hbytes : (Lines.encode text).toByteArray = text.utf8Encode := rfl
    simp only [hbytes, List.utf8Decode?_utf8Encode]
    exact if_neg h

/-! ## Model -/

section Model

variable [Json.JsonLibrary]

/-- `JSON.parse`. -/
def parseValue (text : List Char) : Option Value := JsonText.parse Json.JsonLibrary.numerals text

def isDocument (doc : Value) : Bool :=
  doc.truthy &&
    match doc.get "schema_version", doc.get "topics" with
    | some version, some (.array _) => version.strictEq (.number 1)
    | _, _ => false

/-- A document of the tool, or none for any other line. -/
def parseFrame (text : List Char) : Option Value :=
  let s := trim isSpace text
  if s = [] then none else (parseValue s).filter isDocument

/-- The whole text, or the last document line. -/
def lastDocument (text : List Char) : Option Value :=
  match parseValue text with
  | some doc => some doc
  | none => searchBack parseFrame text

structure FileScan where
  recording : Recording
  skipped : ℕ := 0
  first : Option Value := none

variable [TextDecoder] [Fround]

/-- One line of the file. -/
def take (scan : FileScan) (line : Lines.Line UInt8) : Option FileScan :=
  let text := TextDecoder.decode line.bytes
  match parseFrame text with
  | none => some (if trim isSpace text ≠ [] then { scan with skipped := scan.skipped + 1 } else scan)
  | some doc => do
      let next ← addFrame scan.recording doc line.start line.stop
      return { scan with recording := next, first := some (scan.first.getD doc) }

def scanRecording (key : KeyMode) (chunks : List (List UInt8)) : Option FileScan :=
  (scanLines chunks).foldlM take { recording := createRecording key }

/-- What the page shows after the scan. -/
inductive Opened
  | failed
  | document (doc : Value)
  | recording (rec : Recording)

/-- Less than two frames are no recording. -/
def conclude (scan : FileScan) : Opened :=
  if scan.recording.frames < 2 then
    match scan.first with
    | some doc => .document doc
    | none => .failed
  else .recording scan.recording

/-- The bytes of a frame are read and parsed again when it is shown. -/
def frameAt (chunks : List (List UInt8)) (rec : Recording) (i : ℕ) : Option Value := do
  let start ← rec.starts[i]?
  let stop ← rec.ends[i]?
  parseFrame (TextDecoder.decode ((chunks.flatten.drop start).take (stop - start)))

end Model

/-! ## Documents as they were saved -/

section Saved

open JsonMembers Web

variable {key : KeyMode}

theorem text_orElse_ordered (v : Value) :
    ((ordered v).orElse (.string "")).text = (v.orElse (.string "")).text := by
  have h := orElse_ordered v (.string "")
  rw [ordered_string] at h
  rw [h, text_ordered]

theorem pairKey_ordered (topic pair : Value) :
    pairKey (ordered topic) (ordered pair) = pairKey topic pair := by
  simp [pairKey, text_orElse_ordered, Option.bind_map]

theorem noteGuid_ordered (map : InsertionMap String (List String)) (e : Value) :
    noteGuid map (ordered e) = noteGuid map e := by
  simp [noteGuid, Option.bind_map]

theorem byNode_ordered (topic : Value) : byNode (ordered topic) key = byNode topic key := by
  cases key with
  | guid => rfl
  | node =>
    simp [byNode, Option.bind_map, List.foldlM_map, noteGuid_ordered]

def orderedPair (e : IdentPair) : IdentPair := { e with pair := ordered e.pair }

theorem identPair_ordered (topic pair : Value) (map : InsertionMap String (List String)) :
    identPair (ordered topic) map key (ordered pair) =
      (identPair topic map key pair).map orderedPair := by
  rw [identPair, identPair, pairKey_ordered]
  cases pairKey topic pair with
  | none => rfl
  | some real =>
    cases h : identOf map key real <;> simp [h, orderedPair]

theorem mapM_map_some {α β γ : Type} (read : α → Option β) (f : β → γ) (l : List α) :
    l.mapM (fun a ↦ (read a).map f) = (l.mapM read).map (List.map f) := by
  induction l with
  | nil => rfl
  | cons a rest ih =>
    rw [List.mapM_cons, List.mapM_cons, ih]
    cases read a with
    | none => rfl
    | some b => cases rest.mapM read <;> rfl

theorem topicIdents_ordered (topic : Value) :
    topicIdents key (ordered topic) = (topicIdents key topic).map (List.map orderedPair) := by
  simp [topicIdents, byNode_ordered, Option.bind_map, Option.map_bind, List.mapM_map, Function.comp_def,
    identPair_ordered, mapM_map_some]

/-- The pairs are seen in the order of the document. -/
theorem forEachIdent_ordered (doc : Value) :
    forEachIdent (ordered doc) key = (forEachIdent doc key).map (List.map orderedPair) := by
  simp [forEachIdent, Option.bind_map, Option.map_bind, List.mapM_map, Function.comp_def,
    topicIdents_ordered, mapM_map_some, List.map_flatten]

theorem observedAt_ordered (doc : Value) : observedAt (ordered doc) = observedAt doc := by
  simp [observedAt, Option.bind_map, text_orElse_ordered]

variable (snap : Snapshot) (opt : RenderOptions) (shown : Option Json.ShownChanges)

theorem get_document {name : String} (h : name ∈ ["schema_version", "observed_at", "topics"]) :
    (Json.document snap opt shown).get name = (renderJson snap opt).get name := by
  simp only [List.mem_cons, List.not_mem_nil, or_false] at h
  rcases h with rfl | rfl | rfl <;>
    simp [Json.document, Json.membersOf, renderJson, List.lookup_cons]

theorem isDocument_document : isDocument (ordered (Json.document snap opt shown)) = true := by
  rw [isDocument, truthy_ordered, get_ordered, get_ordered, get_document snap opt shown (by simp),
    get_document snap opt shown (by simp)]
  simp [Json.document, renderJson, List.lookup_cons]

/-- The document of a snapshot as it was saved. -/
def savedDocument (hformed : ∀ t ∈ snap.topics, WellFormed t) : Document Set.univ where
  value := ordered (Json.document snap opt shown)
  pairs key := ((documentOf snap opt hformed).pairs key).map orderedPair
  forEachIdent_eq key hkey := by
    have hsame : forEachIdent (Json.document snap opt shown) key =
        forEachIdent (renderJson snap opt) key := by
      rw [forEachIdent, forEachIdent, get_document snap opt shown (by simp)]
    rw [forEachIdent_ordered, hsame]
    exact congrArg (Option.map _) ((documentOf snap opt hformed).forEachIdent_eq key hkey)
  known key hkey e he := by
    obtain ⟨inner, hinner, rfl⟩ := List.mem_map.mp he
    obtain ⟨name, hname, hget⟩ := (documentOf snap opt hformed).known key hkey inner hinner
    refine ⟨name, hname, ?_⟩
    rw [orderedPair, get_ordered, hget, Option.map_some, ordered_string]
  observedAt := snap.observedAt
  observedAt_eq := by
    have hsame : observedAt (Json.document snap opt shown) = observedAt (renderJson snap opt) := by
      rw [observedAt, observedAt, get_document snap opt shown (by simp)]
    rw [observedAt_ordered, hsame]
    exact (documentOf snap opt hformed).observedAt_eq

end Saved

/-! ## Lines -/

section Lines

variable [Json.JsonLibrary] {doc : Value} {text : List Char}

omit [Json.JsonLibrary] in
theorem isSpace_open : isSpace '{' = false := by decide

omit [Json.JsonLibrary] in
theorem isSpace_close : isSpace '}' = false := by decide

theorem parseFrame_nil : parseFrame [] = none := rfl

theorem parseFrame_dump (hread : Reads (Json.dump true) parseValue doc) (hdoc : isDocument doc = true) :
    parseFrame (Json.dump true doc) = some doc := by
  have hnone : ∀ c ∈ ([] : List Char), isSpace c = true := by simp
  have htrim := hread.trim_write isSpace_open isSpace_close hnone
  rw [List.append_nil] at htrim
  rw [parseFrame, htrim]
  simp only [if_neg hread.ne_nil, hread.parse_write, Option.filter_some, hdoc, if_true]

theorem parseFrame_part (hread : Reads (Json.dump true) parseValue doc)
    (hpart : Part (Json.dump true) doc text) : parseFrame text = none := by
  rw [parseFrame]
  simp only [hread.parse_of_part (hread.part_trim isSpace_open hpart), Option.filter_none, ite_self]

end Lines

/-! ## The last document -/

section LastDocument

variable [Json.JsonLibrary] {docs : List Value} {k : ℕ} {whole : Bool} {text : List Char}

/-- Wherever the program was stopped, the last document that is whole is found. -/
theorem lastDocument_stopped (hread : ∀ doc ∈ docs, Reads (Json.dump true) parseValue doc)
    (hdocs : ∀ doc ∈ docs, isDocument doc = true) (hne : docs ≠ [])
    (h : Stopped (Json.dump true) docs k whole text) : lastDocument text = (docs.take k).getLast? := by
  have hsearch : searchBack parseFrame text = (docs.take k).getLast? :=
    h.searchBack_eq hread parseFrame_nil
      (fun doc hdoc ↦ parseFrame_dump (hread doc hdoc) (hdocs doc hdoc))
      fun doc hdoc part hpart ↦ parseFrame_part (hread doc hdoc) hpart
  rw [lastDocument, h.parse_eq hread hne]
  split_ifs with hone
  · obtain ⟨rfl, -⟩ := hone
    obtain ⟨first, rest, rfl⟩ := List.exists_cons_of_ne_nil hne
    rfl
  · exact hsearch

end LastDocument

/-! ## The scan -/

section Scans

theorem scanLines_eq (chunks : List (List UInt8)) :
    scanLines chunks = Lines.linesOf 10 chunks.flatten := by
  have hall := Splitter.pushAll_spec chunks (Splitter.holds_none {} 0)
  calc
    scanLines chunks = (Splitter.pushAll {} 0 chunks).1 ++ (Splitter.pushAll {} 0 chunks).2.finish := rfl
    _ = (Lines.Unfinished.read 10 {} chunks.flatten).1 ++
        (Lines.Unfinished.read 10 {} chunks.flatten).2.last := by
      rw [← hall.2.finish_eq, ← hall.1]
      rfl
    _ = Lines.linesOf 10 chunks.flatten := Lines.read_eq_linesOf 10 chunks.flatten

theorem placed_append {α β : Type} (enc : α → List β) (first second : List (List α)) (start : ℕ) :
    ∃ next, Lines.placed enc start (first ++ second) =
      Lines.placed enc start first ++ Lines.placed enc next second := by
  induction first generalizing start with
  | nil => exact ⟨start, rfl⟩
  | cons line rest ih =>
    obtain ⟨next, hnext⟩ := ih (start + (line.flatMap enc).length + 1)
    exact ⟨next, by rw [List.cons_append, Lines.placed, hnext]; rfl⟩

variable [Json.JsonLibrary] [TextDecoder]

/-- The line is that of the document. -/
def LineOf (line : Lines.Line UInt8) (doc : Document Set.univ) : Prop :=
  parseFrame (TextDecoder.decode line.bytes) = some doc.value

def frameOf (line : Lines.Line UInt8) (doc : Document Set.univ) : Frame Set.univ :=
  ⟨doc, line.start, line.stop⟩

theorem map_doc_zipWith {lines : List (Lines.Line UInt8)} {docs : List (Document Set.univ)}
    (h : List.Forall₂ LineOf lines docs) : (List.zipWith frameOf lines docs).map Frame.doc = docs := by
  induction h with
  | nil => rfl
  | cons _ _ ih => rw [List.zipWith_cons_cons, List.map_cons, ih]; rfl

omit [Json.JsonLibrary] in
theorem decode_of_brace {text rest : List Char} (h : text = '{' :: rest) :
    TextDecoder.decode (Lines.encode text) = text :=
  TextDecoder.decode_encode text (by simp [h])

theorem forall₂_placed {docs : List (Document Set.univ)}
    (h : ∀ doc ∈ docs, Reads (Json.dump true) parseValue doc.value ∧ isDocument doc.value = true)
    (start : ℕ) :
    List.Forall₂ LineOf
      (Lines.placed String.utf8EncodeChar start (docs.map fun doc ↦ Json.dump true doc.value)) docs := by
  induction docs generalizing start with
  | nil => exact .nil
  | cons doc rest ih =>
    rw [List.forall_mem_cons] at h
    obtain ⟨text, htext⟩ := h.1.1.framed
    refine .cons ?_ (ih h.2 _)
    rw [LineOf]
    exact (congrArg parseFrame (decode_of_brace htext)).trans (parseFrame_dump h.1.1 h.1.2)

/-- The line that broke off is there when the file is not whole, and is none of a document. -/
theorem placed_torn {values : List Value} {k : ℕ} {whole : Bool} {torn : List (List Char)}
    (hread : ∀ doc ∈ values, Reads (Json.dump true) parseValue doc)
    (htorn : Torn (Json.dump true) values k whole torn) (start : ℕ) :
    (Lines.placed String.utf8EncodeChar start torn).length = (if whole then 0 else 1) ∧
      ∀ line ∈ Lines.placed String.utf8EncodeChar start torn,
        parseFrame (TextDecoder.decode line.bytes) = none ∧
          trim isSpace (TextDecoder.decode line.bytes) ≠ [] := by
  cases whole with
  | true =>
    rw [htorn.nil rfl]
    exact ⟨rfl, fun line hline ↦ absurd hline List.not_mem_nil⟩
  | false =>
    obtain ⟨part, doc, rfl, hne, hdoc, hpart⟩ := htorn.part rfl
    have hdocument := hread doc (List.mem_of_getElem? hdoc)
    obtain ⟨rest, hrest⟩ := hdocument.exists_part hpart hne
    have hdecode : TextDecoder.decode (part.flatMap String.utf8EncodeChar) = part :=
      decode_of_brace hrest
    refine ⟨rfl, fun line hline ↦ ?_⟩
    rw [List.mem_singleton.mp hline]
    simp only [hdecode]
    exact ⟨parseFrame_part hdocument hpart, hdocument.trim_ne_nil isSpace_open hpart hne⟩

/-- The lines of a recording that was stopped: those of its documents, and maybe one that broke off. -/
theorem exists_lines {docs : List (Document Set.univ)} {k : ℕ} {whole : Bool} {text : List Char}
    (hread : ∀ doc ∈ docs.map Document.value, Reads (Json.dump true) parseValue doc)
    (hdocs : ∀ doc ∈ docs, isDocument doc.value = true)
    (h : Stopped (Json.dump true) (docs.map Document.value) k whole text) :
    ∃ lines torn, Lines.linesOf 10 (Lines.encode text) = lines ++ torn ∧
      List.Forall₂ LineOf lines (docs.take k) ∧ torn.length = (if whole then 0 else 1) ∧
      ∀ line ∈ torn, parseFrame (TextDecoder.decode line.bytes) = none ∧
        trim isSpace (TextDecoder.decode line.bytes) ≠ [] := by
  obtain ⟨torn, htorn, hlines⟩ := h.lines_eq hread
  obtain ⟨next, hplaced⟩ := placed_append String.utf8EncodeChar
    ((docs.take k).map fun doc ↦ Json.dump true doc.value) torn 0
  have htake : ((docs.map Document.value).take k).map (Json.dump true) =
      (docs.take k).map fun doc ↦ Json.dump true doc.value := by
    rw [← List.map_take, List.map_map]
    rfl
  rw [htake] at hlines
  obtain ⟨hcount, hnone⟩ := placed_torn hread htorn next
  refine ⟨_, _, ?_, forall₂_placed (fun doc hdoc ↦ ?_) 0, hcount, hnone⟩
  · rw [Lines.linesOf_encode, ← hplaced, ← hlines]
    rfl
  · have hmem := List.mem_of_mem_take hdoc
    exact ⟨hread doc.value (List.mem_map_of_mem hmem), hdocs doc hmem⟩

variable [Fround]

omit [Json.JsonLibrary] [TextDecoder] in
theorem represents_start (key : KeyMode) :
    Represents ({ recording := createRecording key } : FileScan).recording
      ([] : List (Frame Set.univ)) :=
  represents_createRecording (Set.mem_univ key)

/-- Every line of a document becomes a frame. -/
theorem foldlM_take {lines : List (Lines.Line UInt8)} {docs : List (Document Set.univ)}
    (h : List.Forall₂ LineOf lines docs) {scan : FileScan} {history : List (Frame Set.univ)}
    (hscan : Represents scan.recording history) :
    ∃ next, lines.foldlM take scan = some next ∧ next.skipped = scan.skipped ∧
      next.first = (scan.first <|> docs.head?.map Document.value) ∧
      Represents next.recording (history ++ List.zipWith frameOf lines docs) := by
  induction h generalizing scan history with
  | nil =>
    refine ⟨scan, rfl, rfl, ?_, by simpa using hscan⟩
    cases scan.first <;> rfl
  | @cons line doc lines docs hline _ ih =>
    obtain ⟨rec, hrec, -, hrepresents⟩ := hscan.addFrame (frameOf line doc)
    have htake : take scan line =
        some { scan with recording := rec, first := some (scan.first.getD doc.value) } := by
      have hadd : addFrame scan.recording doc.value line.start line.stop = some rec := hrec
      unfold LineOf at hline
      simp only [take, hline, hadd, Option.bind_eq_bind, Option.bind_some, Option.pure_def]
    obtain ⟨started, hstarted⟩ : ∃ started : FileScan, started =
        { scan with recording := rec, first := some (scan.first.getD doc.value) } := ⟨_, rfl⟩
    have hstart : Represents started.recording (history ++ [frameOf line doc]) := by
      rw [hstarted]
      exact hrepresents
    rw [← hstarted] at htake
    obtain ⟨next, hnext, hskipped, hfirst, hnextrep⟩ := ih hstart
    rw [hstarted] at hskipped hfirst
    refine ⟨next, ?_, hskipped, ?_, ?_⟩
    · rw [List.foldlM_cons, htake]
      exact hnext
    · rw [hfirst]
      cases scan.first <;> rfl
    · rw [List.append_assoc] at hnextrep
      exact hnextrep

/-- A line that is no document is counted. -/
theorem foldlM_take_none {lines : List (Lines.Line UInt8)} {scan : FileScan}
    (h : ∀ line ∈ lines, parseFrame (TextDecoder.decode line.bytes) = none ∧
      trim isSpace (TextDecoder.decode line.bytes) ≠ []) :
    lines.foldlM take scan = some { scan with skipped := scan.skipped + lines.length } := by
  induction lines generalizing scan with
  | nil => rfl
  | cons line rest ih =>
    rw [List.forall_mem_cons] at h
    have htake : take scan line = some { scan with skipped := scan.skipped + 1 } := by
      simp only [take, h.1.1, ne_eq, h.1.2, not_false_eq_true, if_true]
    rw [List.foldlM_cons, htake, Option.bind_eq_bind, Option.bind_some, ih h.2, List.length_cons,
      Nat.add_assoc, Nat.add_comm 1]

/-- What a scan finds in a recording that was stopped behind `k` documents. -/
structure Scanned (docs : List (Document Set.univ)) (k : ℕ) (whole : Bool) (chunks : List (List UInt8))
    (scan : FileScan) : Prop where
  recording : ∃ history : List (Frame Set.univ), Represents scan.recording history ∧
    history.map Frame.doc = docs.take k
  skipped : scan.skipped = if whole then 0 else 1
  first : scan.first = (docs.take k).head?.map Document.value
  /-- Every frame is found again where the recording says. -/
  frameAt : ∀ i doc, (docs.take k)[i]? = some doc → frameAt chunks scan.recording i = some doc.value

/-- However the file is cut into chunks. -/
theorem exists_scanned {docs : List (Document Set.univ)} {k : ℕ} {whole : Bool} {text : List Char}
    (hread : ∀ doc ∈ docs.map Document.value, Reads (Json.dump true) parseValue doc)
    (hdocs : ∀ doc ∈ docs, isDocument doc.value = true)
    (h : Stopped (Json.dump true) (docs.map Document.value) k whole text) (key : KeyMode)
    {chunks : List (List UInt8)} (hchunks : chunks.flatten = Lines.encode text) :
    ∃ scan, scanRecording key chunks = some scan ∧ Scanned docs k whole chunks scan := by
  obtain ⟨lines, torn, hlines, hforall, htorn, hnone⟩ := exists_lines hread hdocs h
  obtain ⟨scan, hscan, hskipped, hfirst, hrepresents⟩ :=
    foldlM_take hforall (represents_start key)
  have hrun : scanRecording key chunks = some { scan with skipped := scan.skipped + torn.length } := by
    rw [scanRecording, scanLines_eq, hchunks, hlines, List.foldlM_append, hscan]
    exact foldlM_take_none hnone
  refine ⟨_, hrun, ⟨_, hrepresents, ?_⟩, ?_, hfirst, fun i doc hdoc ↦ ?_⟩
  · rw [List.nil_append]
    exact map_doc_zipWith hforall
  · rw [hskipped, htorn]
    exact Nat.zero_add _
  · obtain ⟨hi, hget⟩ := List.getElem?_eq_some_iff.mp hdoc
    have hplaceOf := hforall.get (hforall.length_eq ▸ hi) hi
    rw [List.get_eq_getElem, List.get_eq_getElem, hget] at hplaceOf
    obtain ⟨line, hline, hlineOf⟩ : ∃ line, lines[i]? = some line ∧ LineOf line doc :=
      ⟨_, List.getElem?_eq_getElem _, hplaceOf⟩
    have hmem : line ∈ Lines.linesOf 10 (Lines.encode text) := by
      rw [hlines]
      exact List.mem_append_left _ (List.mem_of_getElem? hline)
    have hplace := Lines.bytes_of_mem_linesOf 10 (Lines.encode text) hmem
    have hframe : (List.zipWith frameOf lines (docs.take k))[i]? = some (frameOf line doc) := by
      rw [List.getElem?_zipWith, hline, hdoc]
    rw [Replay.frameAt, hrepresents.starts_eq, hrepresents.ends_eq, hchunks, List.nil_append,
      List.getElem?_map, List.getElem?_map, hframe]
    simp only [Option.map_some, Option.bind_eq_bind, Option.bind_some, frameOf, ← hplace.1]
    exact hlineOf

end Scans

end TransportViz.Replay
