import TransportViz.Live.Pump
import TransportViz.Replay.Frames
import TransportViz.Watch.Loop

/-!
# Recordings that broke off

`--watch --json` prints a document per frame, and it may be stopped in the middle of one. `diff`, the
viewer and the server then go by the same frames, those that were printed as a whole: `diff` refuses a
file whose last line is not one of them, the other two leave the line out.
-/

namespace TransportViz.Replay

open Collect Json JsonLines JsonMembers Script Watch Web

open TransportViz.Observer (FastDds)

/-! ## Specification -/

section Specification

variable [JsonLibrary] [TextDecoder] [Fround] (frames : List JsonFrame) (text : List Char) (k : ℕ)
  (whole : Bool)

/-- The values of the first `k` frames. -/
def values : List Value := (frames.take k).map JsonFrame.document

/-- What the viewer's scan makes of the file. -/
structure ScannedAs (chunks : List (List UInt8)) (scan : FileScan) : Prop where
  skipped : scan.skipped = if whole then 0 else 1
  frames_eq : scan.recording.frames = k
  observedAt : scan.recording.observedAt = (frames.take k).map fun f ↦ f.snap.observedAt
  changed : scan.recording.changed =
    (frames.take k).map fun f ↦ f.shown.any fun shown ↦ !Diff.isEmpty shown.changes
  frameAt : ∀ i doc, (values frames k)[i]? = some doc → frameAt chunks scan.recording i = some doc
  opened : conclude scan =
    match values frames k with
    | [] => .failed
    | [doc] => .document doc
    | _ => .recording scan.recording

/-- What the readers make of a file with `k` whole frames, and maybe a line that is none. -/
structure ReadAs : Prop where
  stopped : Stopped (dump true) (frames.map JsonFrame.document) k whole text
  diff : whole = true → parseText text =
    match (frames.take k).getLast? with
    | some frame => .ok (saved frame.snap, k)
    | none => .error (.parse "not valid JSON")
  refused : whole = false → ∃ message, parseText text = .error (.parse message)
  viewer : lastDocument text = (values frames k).getLast?
  scanned : ∀ (key : KeyMode) (chunks : List (List UInt8)), chunks.flatten = Lines.encode text →
    ∃ scan, scanRecording key chunks = some scan ∧ ScannedAs frames k whole chunks scan
  pushed : Live.pushes text = values frames k
  pumped : ∀ (rc : ℤ) (record : Bool), (Live.pump text rc record).stream =
    ((values frames k).foldl Live.Stream.push {}).end ("transport_viz exited with code " ++ toString rc)
  /-- Whole frames and a line that broke off alike; a newline ends it. -/
  recorded : ∀ rc : ℤ, (Live.pump text rc true).record = some (Live.recorded text)

end Specification

/-! ## The documents of observations -/

section Observed

theorem wellFormed_applyNodeFilter {topics : List TopicSummary} (h : ∀ t ∈ topics, WellFormed t)
    (o : ViewOptions) : ∀ t ∈ applyNodeFilter topics o, WellFormed t := by
  unfold applyNodeFilter
  cases o.nodeMatches with
  | none => exact h
  | some re =>
    intro t ht
    obtain ⟨u, hu, hfilter⟩ := List.mem_filterMap.mp ht
    exact wellFormed_filterTopic (h u hu) _ hfilter

variable [FastDds] [Fnmatch] [HostNames]

theorem guid_of_mem_snapshot {x : Observation} {e : Endpoint} (he : e ∈ x.snapshot.endpoints) :
    ∃ bytes, e.guid = guidToString bytes := by
  have hmem : TransportViz.Observer.announcement e ∈
      keptEndpoints x.observer x.runs.endpoints x.view := by
    rw [← map_announcement_snapshot]
    exact List.mem_map_of_mem he
  have hfound := List.mem_of_mem_filter (List.mem_of_mem_filter hmem)
  exact ⟨_, (TransportViz.Observer.announced_of_mem hfound).guid_eq⟩

theorem wellFormed_snapshot (x : Observation) : ∀ t ∈ x.snapshot.topics, WellFormed t := by
  obtain ⟨stats, hstats⟩ : ∃ stats, x.snapshot.topics = Stats.applyStats (applyNodeFilter
      (applyDefaultView (Decision.summarize x.snapshot.endpoints) x.view) x.view) stats := ⟨_, rfl⟩
  have hsummary : ∀ t ∈ Decision.summarize x.snapshot.endpoints, WellFormed t :=
    fun t ht ↦ wellFormed_of_mem_summarize (fun e he ↦ guid_of_mem_snapshot he) ht
  have hview : ∀ t ∈ applyDefaultView (Decision.summarize x.snapshot.endpoints) x.view,
      WellFormed t := by
    rw [applyDefaultView_eq]
    exact fun t ht ↦ hsummary t (List.mem_of_mem_filter ht)
  have hfiltered := wellFormed_applyNodeFilter hview x.view
  rw [hstats]
  unfold Stats.applyStats
  split_ifs
  · intro t ht
    obtain ⟨u, hu, rfl⟩ := List.mem_map.mp ht
    exact wellFormed_overlayTopic stats (hfiltered u hu)
  · exact hfiltered

end Observed

/-! ## The documents of frames -/

section Documents

variable {frames : List JsonFrame}

theorem get_changes (snap : Snapshot) (opt : RenderOptions) (shown : Option ShownChanges) :
    (Json.document snap opt shown).get "changes" = some ((shown.map changesJson).getD .undefined) := by
  by_cases hstopped : snap.discovery.stoppedOn = "" <;> by_cases hnone : snap.participants = [] <;>
    cases shown <;>
    simp [Json.document, furtherMembers, membersOf, renderJson, List.lookup_cons, hstopped, hnone]

theorem listsPairs_changesJson (shown : ShownChanges) :
    listsPairs (ordered (changesJson shown)) "added_pairs" = some (!shown.changes.added.isEmpty) ∧
      listsPairs (ordered (changesJson shown)) "removed_pairs" = some (!shown.changes.removed.isEmpty) ∧
      listsPairs (ordered (changesJson shown)) "changed_pairs" =
        some (!shown.changes.changed.isEmpty) := by
  have hempty {α : Type} (l : List α) : decide (l = []) = l.isEmpty := by cases l <;> simp
  refine ⟨?_, ?_, ?_⟩ <;> cases hbefore : shown.before <;>
    simp [listsPairs, changesJson, hbefore, List.lookup_cons, lengthTruthy, Value.orElse, Value.truthy,
      hempty]

/-- The frame is marked when something changed. -/
theorem tellsChanges_document (f : JsonFrame) :
    tellsChanges f.document = some (f.shown.any fun shown ↦ !Diff.isEmpty shown.changes) := by
  obtain ⟨snap, opt, shown⟩ := f
  rw [JsonFrame.document, tellsChanges, get_ordered, get_changes]
  cases shown with
  | none => simp [Value.truthy]
  | some shown =>
    obtain ⟨hadded, hremoved, hchanged⟩ := listsPairs_changesJson shown
    have htruthy : (changesJson shown).truthy = true := rfl
    simp [htruthy, hadded, hremoved, hchanged, Diff.isEmpty]

/-- The frames as documents of the viewer. -/
theorem exists_documents (h : ∀ f ∈ frames, ∀ t ∈ f.snap.topics, WellFormed t) :
    ∃ docs : List (Document Set.univ), docs.map Document.value = frames.map JsonFrame.document ∧
      (∀ doc ∈ docs, isDocument doc.value = true) ∧
      docs.map Document.observedAt = frames.map fun f ↦ f.snap.observedAt := by
  induction frames with
  | nil => exact ⟨[], rfl, fun _ hdoc ↦ absurd hdoc List.not_mem_nil, rfl⟩
  | cons f rest ih =>
    rw [List.forall_mem_cons] at h
    obtain ⟨docs, hvalues, hdocs, hobserved⟩ := ih h.2
    refine ⟨savedDocument f.snap f.opt f.shown h.1 :: docs, ?_, ?_, ?_⟩
    · rw [List.map_cons, List.map_cons, hvalues]
      rfl
    · rw [List.forall_mem_cons]
      exact ⟨isDocument_document f.snap f.opt f.shown, hdocs⟩
    · rw [List.map_cons, List.map_cons, hobserved]
      rfl

variable [JsonLibrary]

/-- Without the library's order of members, as the viewer and the server read. -/
theorem reads_values : ∀ doc ∈ frames.map JsonFrame.document, Reads (dump true) parseValue doc := by
  intro doc hdoc
  obtain ⟨f, -, rfl⟩ := List.mem_map.mp hdoc
  exact reads_script (defined_document f.snap f.opt f.shown)

end Documents

/-! ## Reading what was written -/

section Reading

variable [JsonLibrary] {frames : List JsonFrame} {text : List Char} {k : ℕ} {whole : Bool}

theorem lastDocument_frames (h : Stopped (dump true) (frames.map JsonFrame.document) k whole text) :
    lastDocument text = (values frames k).getLast? := by
  rw [values, List.map_take]
  by_cases hne : frames.map JsonFrame.document = []
  · rw [hne] at h ⊢
    have htext : text = [] := by
      cases h with
      | between hk =>
        rw [List.take_nil]
        rfl
      | unended hdoc => exact absurd hdoc nofun
      | inside hdoc => exact absurd hdoc nofun
    have hnil : parseValue [] = none := JsonText.parse_nil _
    rw [htext, lastDocument, hnil, List.take_nil]
    simp [searchBack]
  · refine lastDocument_stopped reads_values (fun doc hdoc ↦ ?_) hne h
    obtain ⟨f, -, rfl⟩ := List.mem_map.mp hdoc
    exact isDocument_document f.snap f.opt f.shown

theorem pushes_frames (h : Stopped (dump true) (frames.map JsonFrame.document) k whole text) :
    Live.pushes text = values frames k ∧
      ∀ rc, (Live.pump text rc true).record = some (Live.recorded text) := by
  rw [values, List.map_take]
  exact Live.pump_stopped reads_values h

omit [JsonLibrary] in
theorem conclude_eq {scan : FileScan} {docs : List Value} :
    scan.first = docs.head? → scan.recording.frames = docs.length → conclude scan =
      match docs with
      | [] => .failed
      | [doc] => .document doc
      | _ => .recording scan.recording := by
  intro hfirst hcount
  rw [conclude, hfirst, hcount]
  match docs with
  | [] => rfl
  | [_] => rfl
  | _ :: _ :: rest => simp

variable [TextDecoder] [Fround]

theorem exists_scannedAs (hformed : ∀ f ∈ frames, ∀ t ∈ f.snap.topics, WellFormed t)
    (h : Stopped (dump true) (frames.map JsonFrame.document) k whole text) (key : KeyMode)
    {chunks : List (List UInt8)} (hchunks : chunks.flatten = Lines.encode text) :
    ∃ scan, scanRecording key chunks = some scan ∧ ScannedAs frames k whole chunks scan := by
  obtain ⟨docs, hvalues, hdocs, hobserved⟩ := exists_documents hformed
  have htake : (docs.take k).map Document.value = values frames k := by
    rw [values, List.map_take, List.map_take, hvalues]
  have hlength : (docs.take k).length = k := by
    rw [← List.length_map (f := Document.value), List.map_take, hvalues, h.length_take]
  obtain ⟨scan, hscan, hscanned⟩ :=
    exists_scanned (hvalues ▸ reads_values) hdocs (hvalues ▸ h) key hchunks
  obtain ⟨history, hrepresents, hhistory⟩ := hscanned.recording
  have hframes : scan.recording.frames = k := by
    rw [hrepresents.frames_eq, ← List.length_map (f := Frame.doc), hhistory, hlength]
  refine ⟨scan, hscan, hscanned.skipped, hframes, ?_, ?_, fun i doc hdoc ↦ ?_, ?_⟩
  · have hmap : history.map (fun f ↦ f.doc.observedAt) = (docs.take k).map Document.observedAt := by
      rw [← hhistory, List.map_map]
      rfl
    rw [hrepresents.observedAt_eq, hmap, List.map_take, hobserved, List.map_take]
  · have hmap : history.map (fun f ↦ f.doc.changed) =
        (values frames k).map fun doc ↦ (tellsChanges doc).getD false := by
      rw [← htake, ← hhistory, List.map_map, List.map_map]
      rfl
    rw [hrepresents.changed_eq, hmap, values, List.map_map]
    exact List.map_congr_left fun f _ ↦ by
      rw [Function.comp_apply, tellsChanges_document, Option.getD_some]
  · rw [← htake, List.getElem?_map, Option.map_eq_some_iff] at hdoc
    obtain ⟨document, hdocument, rfl⟩ := hdoc
    exact hscanned.frameAt i document hdocument
  · have hfirst : scan.first = (values frames k).head? := by
      rw [hscanned.first, ← htake, List.head?_map]
    have hcount : scan.recording.frames = (values frames k).length := by
      rw [hframes, ← htake, List.length_map, hlength]
    exact conclude_eq hfirst hcount

/-- The readers of a file that broke off agree on its frames. -/
theorem readAs_stopped (hsavable : ∀ f ∈ frames, Savable f.snap)
    (hformed : ∀ f ∈ frames, ∀ t ∈ f.snap.topics, WellFormed t)
    (h : Stopped (dump true) (frames.map JsonFrame.document) k whole text) :
    ReadAs frames text k whole where
  stopped := h
  diff hwhole := parseText_whole hsavable (hwhole ▸ h)
  refused hwhole := parseText_torn (hwhole ▸ h)
  viewer := lastDocument_frames h
  scanned key _ hchunks := exists_scannedAs hformed h key hchunks
  pushed := (pushes_frames h).1
  pumped rc record := by rw [Live.stream_pump, (pushes_frames h).1]
  recorded := (pushes_frames h).2

end Reading

/-- Wherever the output of a run breaks off, all readers go by the frames that are whole. -/
theorem exists_readAs [JsonLibrary] [TextDecoder] [Fround] [FastDds] [Fnmatch] [HostNames]
    (opt : RenderOptions) (toggles : Toggles) (turns : List Turn) (length : ℕ) :
    ∃ k whole, ReadAs (jsonFrames opt (Loop.run .json opt toggles turns).painted)
      ((framesText (jsonFrames opt (Loop.run .json opt toggles turns).painted)).take length)
      k whole := by
  have hfound := (Loop.holds_run .json opt toggles turns).found
  generalize (Loop.run .json opt toggles turns).painted = painted at hfound
  rw [framesText_eq_stream]
  obtain ⟨k, whole, hstopped⟩ := exists_stopped
    (List.take_prefix length (stream (dump true) ((jsonFrames opt painted).map JsonFrame.document)))
  refine ⟨k, whole, readAs_stopped (fun f hf ↦ ?_) (fun f hf ↦ ?_) hstopped⟩ <;>
    obtain ⟨p, hp, rfl⟩ := List.mem_map.mp hf <;>
    obtain ⟨x, hx⟩ := hfound p hp
  · exact hx ▸ (lossless_snapshot x).savable
  · exact hx ▸ wellFormed_snapshot x

section Torn

abbrev exactFround : Fround := ⟨fun x ↦ ((x : WithTop ℚ) : Single)⟩

def watchedFrames : List JsonFrame :=
  jsonFrames {} (@Loop.run literalFnmatch literalHostNames TransportViz.Observer.sampleFastDds .json {} {}
    watchedTurns).painted

/-- Without its last two characters, a text lacks the last brace. -/
theorem stopped_take {Doc : Type} {write : Doc → List Char} {docs : List Doc} {doc : Doc}
    {parse : List Char → Option Doc} (hread : Reads write parse doc) :
    Stopped write (docs ++ [doc]) docs.length false
      ((stream write (docs ++ [doc])).take ((stream write (docs ++ [doc])).length - 2)) := by
  obtain ⟨text, htext⟩ := hread.framed
  have hstream : stream write (docs ++ [doc]) = (stream write docs ++ '{' :: text) ++ ['}', '\n'] := by
    rw [stream_concat, htext]
    simp
  have hdocs : (docs ++ [doc]).take docs.length = docs := List.take_left' rfl
  have hstopped : Stopped write (docs ++ [doc]) docs.length false
      (stream write ((docs ++ [doc]).take docs.length) ++ '{' :: text) :=
    .inside List.getElem?_concat_length ⟨['}'], htext.symm, List.cons_ne_nil _ _⟩ (List.cons_ne_nil _ _)
  rw [hdocs] at hstopped
  rw [hstream, List.length_append, List.length_cons, List.length_singleton, Nat.add_sub_cancel,
    List.take_left' rfl]
  exact hstopped

/-- The second frame lacks its closing brace. -/
theorem exists_readAs_torn :
    let text := @framesText decimalLibrary watchedFrames
    @ReadAs decimalLibrary utf8Decoder exactFround watchedFrames (text.take (text.length - 2)) 1 false := by
  intro text
  obtain ⟨k, whole, h⟩ := @exists_readAs decimalLibrary utf8Decoder exactFround
    TransportViz.Observer.sampleFastDds literalFnmatch literalHostNames {} {} watchedTurns (text.length - 2)
  obtain ⟨first, second, hframes⟩ : ∃ first second, watchedFrames = [first, second] := ⟨_, _, rfl⟩
  have hread := @reads_values watchedFrames decimalLibrary
  have hdocs : watchedFrames.map JsonFrame.document = [first.document] ++ [second.document] := by
    rw [hframes]
    rfl
  have hstopped := @stopped_take _ _ [first.document] _ _ (hread second.document (by rw [hdocs]; simp))
  rw [← hdocs, ← @framesText_eq_stream decimalLibrary] at hstopped
  have hfound := @ReadAs.stopped decimalLibrary utf8Decoder exactFround _ _ _ _ h
  obtain ⟨rfl, rfl⟩ := hfound.unique hstopped hread
  exact h

end Torn

end TransportViz.Replay
