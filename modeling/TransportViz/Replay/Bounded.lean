import TransportViz.Replay.Recording

/-!
# A bounded recording equals a fresh one

`Represents` says what a recording holds of the frames it was given: every series has the slots of its
pair in all of these frames, and nothing behind them. Adding a frame appends to the frames, dropping
takes the first ones away, and two recordings of the same frames have the same slots wherever there
is a frame.
-/

namespace TransportViz.Replay

open Script Web SlotArray

/-- A document of the tool: its pairs can be read under these keys and their transports are known. -/
structure Document (keys : Set KeyMode) where
  value : Value
  pairs : KeyMode → List IdentPair
  forEachIdent_eq : ∀ key ∈ keys, forEachIdent value key = some (pairs key)
  known : ∀ key ∈ keys, ∀ e ∈ pairs key,
    ∃ name ∈ TRANSPORTS, e.pair.get "transport" = some (.string name)
  observedAt : String
  observedAt_eq : Replay.observedAt value = some observedAt

/-- A document and the bytes it was found at. -/
structure Frame (keys : Set KeyMode) where
  doc : Document keys
  start : ℕ
  stop : ℕ

/-- What a series says of one frame. -/
structure Cells where
  transport : ℕ := 0
  guids : UInt32 := 0
  hz : Option Single := none
  latencyMean : Option ℚ := none
  latencySamples : Option ℚ := none
  lost : Option ℚ := none

def Cells.absent : Cells := {}

def Cells.write (w : Cells) (e : Entry) : Cells where
  transport := e.transport
  guids := e.guids
  hz := e.hz.getD w.hz
  latencyMean := (e.latency.map Prod.fst).getD w.latencyMean
  latencySamples := (e.latency.map Prod.snd).getD w.latencySamples
  lost := e.lost.getD w.lost

/-- What a frame says of one pair, if the pair is in it. -/
def cellsOf (entries : List Entry) (id : String) : Option Cells :=
  entries.foldl (fun cells e ↦ if e.id = id then some ((cells.getD .absent).write e) else cells) none

/-- The series with these cells at its front. -/
def seriesOf (capacity : ℕ) (cells : List Cells) : Series where
  transport := padded 0 capacity (cells.map Cells.transport)
  guids := padded 0 capacity (cells.map Cells.guids)
  hz := padded none capacity (cells.map Cells.hz)
  latencyMean := padded none capacity (cells.map Cells.latencyMean)
  latencySamples := padded none capacity (cells.map Cells.latencySamples)
  lost := padded none capacity (cells.map Cells.lost)

/-! ## Reading a document -/

section Document

theorem get_of_get {v x : Value} {name : String} (h : v.get name = some x) (other : String) :
    ∃ y, v.get other = some y := by
  cases v with
  | undefined => cases h
  | null => cases h
  | _ => exact ⟨_, rfl⟩

theorem get_of_truthy {v : Value} (h : v.truthy = true) (name : String) :
    ∃ y, v.get name = some y := by
  cases v with
  | undefined => cases h
  | null => cases h
  | _ => exact ⟨_, rfl⟩

theorem transportCode_pos {name : String} (h : name ∈ TRANSPORTS) :
    transportCode (.string name) ≠ 0 := by
  have hfound : (TRANSPORTS.findIdx? fun other ↦
      (Value.string other).strictEq (.string name)).isSome := by
    rw [List.findIdx?_isSome, List.any_eq_true]
    exact ⟨name, h, by simp⟩
  obtain ⟨index, hindex⟩ := Option.isSome_iff_exists.mp hfound
  rw [transportCode, hindex]
  exact Nat.succ_ne_zero index

variable [Fround] {keys : Set KeyMode} {key : KeyMode}

/-- The callback never throws on a pair with a known transport, and writes its code. -/
theorem exists_entryOf {e : IdentPair} {name : String} (hname : name ∈ TRANSPORTS)
    (h : e.pair.get "transport" = some (.string name)) :
    ∃ entry, entryOf e = some entry ∧ entry.transport ≠ 0 := by
  obtain ⟨m, hm⟩ := get_of_get h "measured"
  have hpos := transportCode_pos hname
  cases hmeasured : m.truthy with
  | false => exact ⟨_, by simp [entryOf, h, hm, hmeasured]; rfl, hpos⟩
  | true =>
    obtain ⟨delivered, hdelivered⟩ := get_of_truthy hmeasured "delivered_per_s"
    obtain ⟨latency, hlatency⟩ := get_of_truthy hmeasured "latency_s"
    obtain ⟨reliability, hreliability⟩ := get_of_truthy hmeasured "reliability"
    have hlatencyOf : ∃ found, latencyOf latency = some found := by
      unfold latencyOf
      split_ifs with htruthy
      · obtain ⟨mean, hmean⟩ := get_of_truthy htruthy "mean"
        obtain ⟨samples, hsamples⟩ := get_of_truthy htruthy "samples"
        exact ⟨_, by rw [hmean, hsamples]; rfl⟩
      · exact ⟨_, rfl⟩
    have hlostOf : ∃ found, lostOf reliability = some found := by
      unfold lostOf
      split_ifs with htruthy
      · obtain ⟨packets, hpackets⟩ := get_of_truthy htruthy "lost_packets"
        exact ⟨_, by rw [hpackets]; rfl⟩
      · exact ⟨_, rfl⟩
    obtain ⟨foundLatency, hfoundLatency⟩ := hlatencyOf
    obtain ⟨foundLost, hfoundLost⟩ := hlostOf
    exact ⟨_, by
      simp [entryOf, h, hm, hmeasured, hdelivered, hlatency, hreliability, hfoundLatency,
        hfoundLost]; rfl, hpos⟩

/-- What the callback writes for the pairs of the document. -/
def Document.entries (doc : Document keys) (key : KeyMode) : List Entry :=
  (doc.pairs key).filterMap entryOf

theorem Document.mapM_entryOf (doc : Document keys) (hkey : key ∈ keys) :
    (doc.pairs key).mapM entryOf = some (doc.entries key) :=
  mapM_eq_filterMap fun e he ↦ by
    obtain ⟨_, hname, hget⟩ := doc.known key hkey e he
    obtain ⟨entry, hentry, -⟩ := exists_entryOf hname hget
    exact ⟨entry, hentry⟩

theorem Document.transport_ne_zero (doc : Document keys) (hkey : key ∈ keys) {e : Entry}
    (he : e ∈ doc.entries key) : e.transport ≠ 0 := by
  obtain ⟨pair, hpair, hentry⟩ := List.mem_filterMap.mp he
  obtain ⟨_, hname, hget⟩ := doc.known key hkey pair hpair
  obtain ⟨entry, hentry', hpos⟩ := exists_entryOf hname hget
  obtain rfl := Option.some.inj (hentry.symm.trans hentry')
  exact hpos

omit [Fround] in
/-- Whether the document names a pair that changed. -/
theorem Document.exists_tellsChanges (doc : Document keys) (hkey : key ∈ keys) :
    ∃ told, tellsChanges doc.value = some told := by
  have hread : ∃ topics, doc.value.get "topics" = some topics := by
    have h := doc.forEachIdent_eq key hkey
    unfold forEachIdent at h
    cases htopics : doc.value.get "topics" with
    | none => simp [htopics] at h
    | some topics => exact ⟨topics, rfl⟩
  obtain ⟨topics, htopics⟩ := hread
  obtain ⟨c, hc⟩ := get_of_get htopics "changes"
  have hlists (htruthy : c.truthy = true) (name : String) :
      ∃ told, listsPairs c name = some told := by
    obtain ⟨listed, hlisted⟩ := get_of_truthy htruthy name
    exact ⟨_, by rw [listsPairs, hlisted]; rfl⟩
  unfold tellsChanges
  rw [hc]
  cases htruthy : c.truthy with
  | false => exact ⟨false, by simp [htruthy]⟩
  | true =>
    obtain ⟨added, hadded⟩ := hlists htruthy "added_pairs"
    obtain ⟨removed, hremoved⟩ := hlists htruthy "removed_pairs"
    obtain ⟨changed, hchanged⟩ := hlists htruthy "changed_pairs"
    exact ⟨added || removed || changed, by simp [htruthy, hadded, hremoved, hchanged]⟩

def Document.changed (doc : Document keys) : Bool := (tellsChanges doc.value).getD false

omit [Fround] in
theorem Document.tellsChanges_eq (doc : Document keys) (hkey : key ∈ keys) :
    tellsChanges doc.value = some doc.changed := by
  obtain ⟨told, htold⟩ := doc.exists_tellsChanges hkey
  rw [Document.changed, htold, Option.getD_some]

end Document

/-! ## One series -/

section Series

variable {capacity : ℕ} {cells : List Cells}

theorem newSeries_eq (capacity : ℕ) : newSeries capacity = seriesOf capacity [] := by
  simp [newSeries, seriesOf, padded]

/-- A pair that is not in the last frame. -/
theorem seriesOf_concat_absent (h : cells.length < capacity) :
    seriesOf capacity (cells ++ [.absent]) = seriesOf capacity cells := by
  have hcolumn {α : Type} (absent : α) (field : Cells → α) (habsent : field .absent = absent) :
      padded absent capacity ((cells ++ [Cells.absent]).map field) =
        padded absent capacity (cells.map field) := by
    rw [List.map_append, List.map_singleton, habsent]
    exact padded_concat_absent (by simpa using h)
  simp only [seriesOf, hcolumn 0 Cells.transport rfl, hcolumn 0 Cells.guids rfl,
    hcolumn none Cells.hz rfl, hcolumn none Cells.latencyMean rfl,
    hcolumn none Cells.latencySamples rfl, hcolumn none Cells.lost rfl]

theorem growSeries_seriesOf {n : ℕ} (h : cells.length ≤ capacity) (hn : capacity ≤ n) :
    growSeries n (seriesOf capacity cells) = seriesOf n cells := by
  have hcolumn {α : Type} (absent : α) (field : Cells → α) :
      grow absent n (padded absent capacity (cells.map field)) =
        padded absent n (cells.map field) :=
    grow_padded (by simpa using h) hn
  simp only [growSeries, seriesOf, hcolumn]

theorem dropSeries_seriesOf {n : ℕ} (h : cells.length ≤ capacity) (hn : n ≤ cells.length) :
    dropSeries n cells.length (seriesOf capacity cells) = seriesOf capacity (cells.drop n) := by
  have hcolumn {α : Type} (absent : α) (field : Cells → α) :
      dropSlots absent n cells.length (padded absent capacity (cells.map field)) =
        padded absent capacity ((cells.drop n).map field) := by
    have hshift : fill absent ((cells.map field).length - n) (cells.map field).length
        (copyWithin n (cells.map field).length (padded absent capacity (cells.map field))) =
          padded absent capacity ((cells.map field).drop n) :=
      fill_copyWithin_padded (by simpa using h) (by simpa using hn)
    rw [List.length_map] at hshift
    rw [dropSlots, hshift, List.map_drop]
  simp only [dropSeries, seriesOf, hcolumn]

/-- Writing the last slot once more. -/
theorem write_seriesOf (w : Cells) (e : Entry) :
    (seriesOf capacity (cells ++ [w])).write cells.length e =
      seriesOf capacity (cells ++ [w.write e]) := by
  have hcolumn {α : Type} (absent : α) (field : Cells → α) (value : α) (last : Cells)
      (hvalue : field last = value) :
      (padded absent capacity ((cells ++ [w]).map field)).set cells.length value =
        padded absent capacity ((cells ++ [last]).map field) := by
    have hset : (padded absent capacity (cells.map field ++ [field w])).set
        (cells.map field).length value = padded absent capacity (cells.map field ++ [value]) :=
      set_padded_concat value (field w)
    rw [List.length_map] at hset
    rw [List.map_append, List.map_append, List.map_singleton, List.map_singleton, hvalue, hset]
  have hoptional {α : Type} (absent : α) (field : Cells → α) (value : Option α) (last : Cells)
      (hvalue : field last = value.getD (field w)) :
      value.elim (padded absent capacity ((cells ++ [w]).map field))
          ((padded absent capacity ((cells ++ [w]).map field)).set cells.length) =
        padded absent capacity ((cells ++ [last]).map field) := by
    cases value with
    | none =>
      rw [List.map_append, List.map_append, List.map_singleton, List.map_singleton, hvalue]
      rfl
    | some value => exact hcolumn absent field value last hvalue
  have hmean := hoptional none Cells.latencyMean (e.latency.map Prod.fst) (w.write e) rfl
  have hsamples := hoptional none Cells.latencySamples (e.latency.map Prod.snd) (w.write e) rfl
  rw [Option.elim_map] at hmean hsamples
  unfold Series.write
  simp only [seriesOf, hcolumn 0 Cells.transport e.transport (w.write e) rfl,
    hcolumn 0 Cells.guids e.guids (w.write e) rfl, hoptional none Cells.hz e.hz (w.write e) rfl,
    hoptional none Cells.lost e.lost (w.write e) rfl]
  congr 1

/-- A pair that was in no frame. -/
theorem seriesOf_replicate_absent {n : ℕ} (h : n ≤ capacity) :
    seriesOf capacity (List.replicate n .absent) = newSeries capacity := by
  induction n with
  | zero => exact (newSeries_eq capacity).symm
  | succ n ih =>
    rw [List.replicate_succ', seriesOf_concat_absent (by rw [List.length_replicate]; omega),
      ih (by omega)]

end Series

/-! ## One frame -/

section Cells

variable {entries : List Entry} {id : String}

theorem cellsOf_concat (entries : List Entry) (e : Entry) (id : String) :
    cellsOf (entries ++ [e]) id =
      if e.id = id then some (((cellsOf entries id).getD .absent).write e)
      else cellsOf entries id := by
  rw [cellsOf, List.foldl_append]
  rfl

/-- A pair that is in the frame has a transport there. -/
theorem transport_cellsOf {cells : Cells} (h : cellsOf entries id = some cells)
    (hknown : ∀ e ∈ entries, e.transport ≠ 0) : cells.transport ≠ 0 := by
  induction entries using List.reverseRecOn generalizing cells with
  | nil => cases h
  | append_singleton rest e ih =>
    rw [cellsOf_concat] at h
    split_ifs at h with hid
    · rw [← Option.some.inj h]
      exact hknown e (by simp)
    · exact ih h fun other hother ↦ hknown other (List.mem_append_left _ hother)

end Cells

section Notes

variable {capacity i : ℕ} {old : String → Bool} {cells : String → List Cells}

/-- The series of the pairs in `seen`, each with its cells. -/
def Holds (capacity : ℕ) (seen : String → Bool) (cells : String → List Cells)
    (series : InsertionMap String Series) : Prop :=
  ∀ id, series.get? id = if seen id then some (seriesOf capacity (cells id)) else none

/-- Making room changes the series only. -/
theorem makeRoom_fields (rec : Recording) (i : ℕ) :
    (makeRoom rec i).key = rec.key ∧ (makeRoom rec i).starts = rec.starts ∧
      (makeRoom rec i).ends = rec.ends ∧ (makeRoom rec i).observedAt = rec.observedAt ∧
      (makeRoom rec i).changed = rec.changed := by
  unfold makeRoom
  split_ifs <;> exact ⟨rfl, rfl, rfl, rfl, rfl⟩

theorem lt_capacity_makeRoom {rec : Recording} (hpositive : 0 < rec.capacity)
    (hi : i ≤ rec.capacity) : i < (makeRoom rec i).capacity := by
  unfold makeRoom
  split_ifs with hfull
  · change i < rec.capacity * 2
    omega
  · omega

theorem Holds.makeRoom {rec : Recording} (h : Holds rec.capacity old cells rec.series)
    (hlength : ∀ id, (cells id).length ≤ rec.capacity) (i : ℕ) :
    Holds (makeRoom rec i).capacity old cells (makeRoom rec i).series := by
  unfold Replay.makeRoom
  split_ifs
  · intro id
    have hgrow := growSeries_seriesOf (n := rec.capacity * 2) (hlength id) (by omega)
    rw [growAll, InsertionMap.get?_mapValues, h id]
    split_ifs
    · rw [Option.map_some, hgrow]
    · rfl
  · exact h

/-- The cells while the last frame is noted: `done` are the pairs noted so far. -/
def cellsWith (cells : String → List Cells) (done : List Entry) (id : String) : List Cells :=
  cells id ++ [(cellsOf done id).getD .absent]

def seenWith (old : String → Bool) (done : List Entry) (id : String) : Bool :=
  old id || (cellsOf done id).isSome

theorem Holds.notePair {done : List Entry} {series : InsertionMap String Series}
    (h : Holds capacity (seenWith old done) (cellsWith cells done) series)
    (hlength : ∀ id, (cells id).length = i) (hi : i < capacity)
    (hnew : ∀ id, old id = false → seriesOf capacity (cells id) = newSeries capacity) (e : Entry) :
    Holds capacity (seenWith old (done ++ [e])) (cellsWith cells (done ++ [e]))
      (notePair capacity i series e) := by
  intro id
  rw [Replay.notePair, InsertionMap.get?_set, seenWith, cellsWith, cellsOf_concat]
  by_cases hid : id = e.id
  · subst hid
    have hseries : (series.get? e.id).getD (newSeries capacity) =
        seriesOf capacity (cellsWith cells done e.id) := by
      rw [h e.id, seenWith, cellsWith]
      cases hold : old e.id with
      | true => rfl
      | false =>
        cases hdone : cellsOf done e.id with
        | some found => rfl
        | none =>
          have habsent : seriesOf capacity (cells e.id ++ [.absent]) =
              seriesOf capacity (cells e.id) :=
            seriesOf_concat_absent (by rwa [hlength e.id])
          exact (habsent.trans (hnew e.id hold)).symm
    obtain ⟨last, hlast⟩ : ∃ last, last = (cellsOf done e.id).getD .absent := ⟨_, rfl⟩
    have hwrite : (seriesOf capacity (cells e.id ++ [last])).write (cells e.id).length e =
        seriesOf capacity (cells e.id ++ [last.write e]) :=
      write_seriesOf last e
    rw [hlength e.id] at hwrite
    rw [if_pos rfl, if_pos rfl, hseries, cellsWith, ← hlast, hwrite, Option.isSome_some,
      Bool.or_true, if_pos rfl, Option.getD_some]
  · rw [if_neg hid, if_neg (Ne.symm hid)]
    exact h id

theorem Holds.foldl_notePair {done : List Entry} {series : InsertionMap String Series}
    (h : Holds capacity (seenWith old done) (cellsWith cells done) series)
    (hlength : ∀ id, (cells id).length = i) (hi : i < capacity)
    (hnew : ∀ id, old id = false → seriesOf capacity (cells id) = newSeries capacity)
    (entries : List Entry) :
    Holds capacity (seenWith old (done ++ entries)) (cellsWith cells (done ++ entries))
      (entries.foldl (Replay.notePair capacity i) series) := by
  induction entries generalizing done series with
  | nil => simpa using h
  | cons e rest ih =>
    have hrest := ih (h.notePair hlength hi hnew e)
    rwa [List.append_assoc] at hrest

/-- Noting the pairs of one more frame. -/
theorem Holds.foldl {series : InsertionMap String Series} (h : Holds capacity old cells series)
    (hlength : ∀ id, (cells id).length = i) (hi : i < capacity)
    (hnew : ∀ id, old id = false → seriesOf capacity (cells id) = newSeries capacity)
    (entries : List Entry) :
    Holds capacity (seenWith old entries) (cellsWith cells entries)
      (entries.foldl (Replay.notePair capacity i) series) := by
  have hnone : Holds capacity (seenWith old []) (cellsWith cells []) series := by
    intro id
    have hseen : seenWith old [] id = old id := Bool.or_false _
    have hcells : seriesOf capacity (cellsWith cells [] id) = seriesOf capacity (cells id) :=
      seriesOf_concat_absent (by rwa [hlength id])
    rw [h id, hseen, hcells]
  exact hnone.foldl_notePair hlength hi hnew entries

end Notes

/-! ## The whole recording -/

section Represents

variable [Fround] {keys : Set KeyMode} {history : List (Frame keys)}

/-- What the frames say of one pair, absent where it is in none. -/
def historyCells (key : KeyMode) (history : List (Frame keys)) (id : String) : List Cells :=
  history.map fun f ↦ (cellsOf (f.doc.entries key) id).getD .absent

/-- The pair is in a frame. -/
def present (key : KeyMode) (history : List (Frame keys)) (id : String) : Bool :=
  history.any fun f ↦ (cellsOf (f.doc.entries key) id).isSome

/-- The recording is one of these frames. -/
structure Represents (rec : Recording) (history : List (Frame keys)) : Prop where
  key_mem : rec.key ∈ keys
  frames_eq : rec.frames = history.length
  starts_eq : rec.starts = history.map Frame.start
  ends_eq : rec.ends = history.map Frame.stop
  observedAt_eq : rec.observedAt = history.map fun f ↦ f.doc.observedAt
  changed_eq : rec.changed = history.map fun f ↦ f.doc.changed
  fits : history.length ≤ rec.capacity
  positive : 0 < rec.capacity
  holds : Holds rec.capacity (present rec.key history) (historyCells rec.key history) rec.series

theorem represents_createRecording {key : KeyMode} (hkey : key ∈ keys) :
    Represents (createRecording key) ([] : List (Frame keys)) :=
  ⟨hkey, rfl, rfl, rfl, rfl, rfl, Nat.zero_le _, Nat.succ_pos 15, fun _ ↦ rfl⟩

theorem length_historyCells (key : KeyMode) (history : List (Frame keys)) (id : String) :
    (historyCells key history id).length = history.length := List.length_map _

theorem seriesOf_historyCells {key : KeyMode} {id : String} {capacity : ℕ}
    (hlength : history.length ≤ capacity) (h : present key history id = false) :
    seriesOf capacity (historyCells key history id) = newSeries capacity := by
  have hcells : historyCells key history id = List.replicate history.length .absent := by
    refine List.eq_replicate_iff.mpr ⟨length_historyCells key history id, fun cells hcells ↦ ?_⟩
    obtain ⟨f, hf, rfl⟩ := List.mem_map.mp hcells
    have hnone := List.any_eq_false.mp h f hf
    rw [Bool.not_eq_true, Option.isSome_eq_false_iff, Option.isNone_iff_eq_none] at hnone
    rw [hnone]
    rfl
  rw [hcells]
  exact seriesOf_replicate_absent hlength

theorem present_concat (key : KeyMode) (history : List (Frame keys)) (f : Frame keys) :
    present key (history ++ [f]) = seenWith (present key history) (f.doc.entries key) := by
  funext id
  rw [present, List.any_append, List.any_cons, List.any_nil, Bool.or_false]
  rfl

theorem historyCells_concat (key : KeyMode) (history : List (Frame keys)) (f : Frame keys) :
    historyCells key (history ++ [f]) = cellsWith (historyCells key history) (f.doc.entries key) := by
  funext id
  rw [historyCells, List.map_append]
  rfl

/-- Adding a document never throws, and appends it to the frames. -/
theorem Represents.addFrame {rec : Recording} (h : Represents rec history) (f : Frame keys) :
    ∃ next, addFrame rec f.doc.value f.start f.stop = some next ∧ next.key = rec.key ∧
      Represents next (history ++ [f]) := by
  obtain ⟨noted, hnoted⟩ : ∃ noted : Recording, noted = { rec with
      starts := rec.starts ++ [f.start]
      ends := rec.ends ++ [f.stop]
      observedAt := rec.observedAt ++ [f.doc.observedAt]
      changed := rec.changed ++ [f.doc.changed] } := ⟨_, rfl⟩
  have hcapacity : noted.capacity = rec.capacity := by rw [hnoted]
  have hseries : noted.series = rec.series := by rw [hnoted]
  have hadd : Replay.addFrame rec f.doc.value f.start f.stop =
      some { makeRoom noted rec.frames with
        series := (f.doc.entries rec.key).foldl
          (notePair (makeRoom noted rec.frames).capacity rec.frames)
          (makeRoom noted rec.frames).series
        frames := rec.frames + 1 } := by
    simp only [Replay.addFrame, f.doc.observedAt_eq, f.doc.tellsChanges_eq h.key_mem,
      f.doc.forEachIdent_eq rec.key h.key_mem, f.doc.mapM_entryOf h.key_mem, Option.bind_eq_bind,
      Option.bind_some, Option.pure_def, hnoted]
  have hframes : rec.frames ≤ rec.capacity := h.frames_eq ▸ h.fits
  have hroom := lt_capacity_makeRoom (i := rec.frames) (hcapacity ▸ h.positive) (hcapacity ▸ hframes)
  have hkept : Holds noted.capacity (present rec.key history) (historyCells rec.key history)
      noted.series := by
    rw [hcapacity, hseries]
    exact h.holds
  have hholds := hkept.makeRoom
    (fun id ↦ by rw [length_historyCells, hcapacity]; exact h.fits) rec.frames
  have hnotes := hholds.foldl (fun id ↦ by rw [length_historyCells, h.frames_eq]) hroom
    (fun id ↦ seriesOf_historyCells (by rw [← h.frames_eq]; exact hroom.le)) (f.doc.entries rec.key)
  rw [← present_concat, ← historyCells_concat] at hnotes
  obtain ⟨hkey, hstarts, hends, hobserved, hchanged⟩ := makeRoom_fields noted rec.frames
  generalize makeRoom noted rec.frames = room at hadd hroom hnotes hkey hstarts hends hobserved hchanged
  have hsame : room.key = rec.key := by rw [hkey, hnoted]
  refine ⟨_, hadd, hsame, ?_⟩
  have hlength : history.length + 1 ≤ room.capacity := h.frames_eq ▸ hroom
  exact
    { key_mem := hsame.symm ▸ h.key_mem
      frames_eq := by rw [List.length_append, List.length_singleton, h.frames_eq]
      starts_eq := by rw [List.map_append, hstarts, hnoted, h.starts_eq]; rfl
      ends_eq := by rw [List.map_append, hends, hnoted, h.ends_eq]; rfl
      observedAt_eq := by rw [List.map_append, hobserved, hnoted, h.observedAt_eq]; rfl
      changed_eq := by rw [List.map_append, hchanged, hnoted, h.changed_eq]; rfl
      fits := by rwa [List.length_append, List.length_singleton]
      positive := (Nat.succ_pos _).trans_le hlength
      holds := hsame.symm ▸ hnotes }

/-- A kept frame shows the pair exactly where its transport is not absent. -/
theorem any_transport_iff {key : KeyMode} (hkey : key ∈ keys) (history : List (Frame keys))
    (id : String) :
    (((historyCells key history id).map Cells.transport).any (· ≠ 0)) = present key history id := by
  rw [Bool.eq_iff_iff, present, historyCells]
  simp only [List.any_eq_true, List.mem_map, decide_eq_true_eq, exists_exists_and_eq_and]
  refine exists_congr fun f ↦ and_congr_right fun _ ↦ ?_
  cases hcells : cellsOf (f.doc.entries key) id with
  | none => simp [Cells.absent]
  | some cells =>
    have hne := transport_cellsOf hcells fun _ ↦ f.doc.transport_ne_zero hkey
    simpa using hne

theorem present_of_present_drop {key : KeyMode} {n : ℕ} {id : String}
    (h : present key (history.drop n) id = true) : present key history id = true := by
  obtain ⟨f, hf, hsome⟩ := List.any_eq_true.mp h
  exact List.any_eq_true.mpr ⟨f, List.mem_of_mem_drop hf, hsome⟩

omit [Fround] in
theorem key_dropFrames (rec : Recording) (n : ℤ) : (dropFrames rec n).key = rec.key := by
  unfold dropFrames
  split_ifs <;> rfl

/-- The series that are left are those of the pairs in the kept frames. -/
theorem Represents.holds_dropped {rec : Recording} (h : Represents rec history) {n : ℕ}
    (hn : n ≤ history.length) :
    Holds rec.capacity (present rec.key (history.drop n)) (historyCells rec.key (history.drop n))
      (rec.series.filterMap (keptSeries n rec.frames)) := by
  intro id
  have hlength := length_historyCells rec.key history id
  have hcells : (historyCells rec.key history id).drop n =
      historyCells rec.key (history.drop n) id := (List.map_drop ..).symm
  have hshift : dropSeries n (historyCells rec.key history id).length
      (seriesOf rec.capacity (historyCells rec.key history id)) =
        seriesOf rec.capacity ((historyCells rec.key history id).drop n) :=
    dropSeries_seriesOf (hlength ▸ h.fits) (hlength ▸ hn)
  rw [hlength, hcells, ← h.frames_eq] at hshift
  have hfront : (seriesOf rec.capacity
      (historyCells rec.key (history.drop n) id)).transport.take (rec.frames - n) =
        (historyCells rec.key (history.drop n) id).map Cells.transport := by
    refine List.take_left' ?_
    rw [List.length_map, length_historyCells, List.length_drop, h.frames_eq]
  have hkept : keptSeries n rec.frames (seriesOf rec.capacity (historyCells rec.key history id)) =
      if present rec.key (history.drop n) id then
        some (seriesOf rec.capacity (historyCells rec.key (history.drop n) id)) else none := by
    simp only [keptSeries, hshift, hfront, any_transport_iff h.key_mem]
  rw [InsertionMap.get?_filterMap, h.holds id]
  by_cases hpresent : present rec.key history id = true
  · rw [if_pos hpresent, Option.bind_some, hkept]
  · rw [if_neg hpresent, if_neg (mt present_of_present_drop hpresent), Option.bind_none]

/-- Dropping takes the oldest frames away. -/
theorem Represents.dropFrames {rec : Recording} (h : Represents rec history) (n : ℤ) :
    Represents (dropFrames rec n) (history.drop n.toNat) := by
  unfold Replay.dropFrames
  have hframes := h.frames_eq
  split_ifs with hnone
  · have hdrop : history.drop n.toNat = history := by
      by_cases hzero : n ≤ 0
      · rw [Int.toNat_of_nonpos hzero, List.drop_zero]
      · have hempty : history = [] := List.length_eq_zero_iff.mp (by omega)
        rw [hempty, List.drop_nil]
    rw [hdrop]
    exact h
  · obtain ⟨k, hk⟩ : ∃ k, (min n rec.frames).toNat = k := ⟨_, rfl⟩
    have hle : k ≤ history.length := by omega
    have hdrop : history.drop n.toNat = history.drop k := by
      by_cases hmin : n ≤ rec.frames
      · rw [← hk, min_eq_left hmin]
      · rw [List.drop_eq_nil_of_le (by omega), List.drop_eq_nil_of_le (by omega)]
    rw [hk, hdrop]
    exact
      { key_mem := h.key_mem
        frames_eq := by rw [List.length_drop, hframes]
        starts_eq := by rw [h.starts_eq, List.map_drop]
        ends_eq := by rw [h.ends_eq, List.map_drop]
        observedAt_eq := by rw [h.observedAt_eq, List.map_drop]
        changed_eq := by rw [h.changed_eq, List.map_drop]
        fits := (List.length_drop ▸ Nat.sub_le _ _).trans h.fits
        positive := h.positive
        holds := h.holds_dropped hle }

/-! ## Any number of calls -/

/-- What is done with a recording. -/
inductive Call (keys : Set KeyMode) where
  | addFrame (frame : Frame keys)
  | dropFrames (n : ℤ)

def perform (rec : Recording) : Call keys → Option Recording
  | .addFrame f => addFrame rec f.doc.value f.start f.stop
  | .dropFrames n => some (dropFrames rec n)

/-- The frames that are left after the call. -/
def surviving (history : List (Frame keys)) : Call keys → List (Frame keys)
  | .addFrame f => history ++ [f]
  | .dropFrames n => history.drop n.toNat

theorem Represents.perform {rec : Recording} (h : Represents rec history) (call : Call keys) :
    ∃ next, perform rec call = some next ∧ next.key = rec.key ∧
      Represents next (surviving history call) := by
  cases call with
  | addFrame f => exact h.addFrame f
  | dropFrames n => exact ⟨_, rfl, key_dropFrames rec n, h.dropFrames n⟩

theorem Represents.foldlM_perform {rec : Recording} (h : Represents rec history)
    (calls : List (Call keys)) :
    ∃ last, calls.foldlM Replay.perform rec = some last ∧ last.key = rec.key ∧
      Represents last (calls.foldl surviving history) := by
  induction calls generalizing rec history with
  | nil => exact ⟨rec, rfl, rfl, h⟩
  | cons call rest ih =>
    obtain ⟨next, hnext, hkey, hrepresents⟩ := h.perform call
    obtain ⟨last, hlast, hkey', hfinal⟩ := ih hrepresents
    refine ⟨last, ?_, hkey'.trans hkey, hfinal⟩
    rw [List.foldlM_cons, hnext]
    exact hlast

end Represents

/-- The slot of a frame is the same in both series. -/
structure SameSlot (s s' : Series) (i : ℕ) : Prop where
  transport : s.transport[i]? = s'.transport[i]?
  guids : s.guids[i]? = s'.guids[i]?
  hz : s.hz[i]? = s'.hz[i]?
  latencyMean : s.latencyMean[i]? = s'.latencyMean[i]?
  latencySamples : s.latencySamples[i]? = s'.latencySamples[i]?
  lost : s.lost[i]? = s'.lost[i]?

/-- The slot is there and holds nothing. -/
structure AbsentSlot (s : Series) (i : ℕ) : Prop where
  transport : s.transport[i]? = some 0
  guids : s.guids[i]? = some 0
  hz : s.hz[i]? = some none
  latencyMean : s.latencyMean[i]? = some none
  latencySamples : s.latencySamples[i]? = some none
  lost : s.lost[i]? = some none

/-- The two recordings cannot be told apart below the number of frames. -/
structure SameFrames (rec fresh : Recording) : Prop where
  frames : rec.frames = fresh.frames
  starts : rec.starts = fresh.starts
  ends : rec.ends = fresh.ends
  observedAt : rec.observedAt = fresh.observedAt
  changed : rec.changed = fresh.changed
  ids : ∀ id, (rec.series.get? id).isSome = (fresh.series.get? id).isSome
  slots : ∀ id s s', rec.series.get? id = some s → fresh.series.get? id = some s' →
    ∀ i < rec.frames, SameSlot s s' i

/-- Nothing is left behind the last frame. -/
def TailsAbsent (rec : Recording) : Prop :=
  ∀ id s, rec.series.get? id = some s → ∀ i, rec.frames ≤ i → i < rec.capacity → AbsentSlot s i

/-! ## The same frames, read afresh -/

section Fresh

theorem getElem?_column {α : Type} (absent : α) (field : Cells → α) (capacity : ℕ)
    {cells : List Cells} {i : ℕ} (h : i < cells.length) :
    (padded absent capacity (cells.map field))[i]? = cells[i]?.map field := by
  rw [getElem?_padded_of_lt (by simpa using h), List.getElem?_map]

/-- Slots of the same cells do not depend on the capacity. -/
theorem sameSlot_seriesOf (capacity capacity' : ℕ) {cells : List Cells} {i : ℕ}
    (h : i < cells.length) : SameSlot (seriesOf capacity cells) (seriesOf capacity' cells) i := by
  have hcolumn {α : Type} (absent : α) (field : Cells → α) :
      (padded absent capacity (cells.map field))[i]? =
        (padded absent capacity' (cells.map field))[i]? := by
    rw [getElem?_column absent field capacity h, getElem?_column absent field capacity' h]
  exact ⟨hcolumn _ _, hcolumn _ _, hcolumn _ _, hcolumn _ _, hcolumn _ _, hcolumn _ _⟩

theorem absentSlot_seriesOf {capacity : ℕ} {cells : List Cells} {i : ℕ} (h : cells.length ≤ i)
    (hcapacity : i < capacity) : AbsentSlot (seriesOf capacity cells) i := by
  have hcolumn {α : Type} (absent : α) (field : Cells → α) :
      (padded absent capacity (cells.map field))[i]? = some absent :=
    getElem?_padded_of_le (by simpa using h) hcapacity
  exact ⟨hcolumn _ _, hcolumn _ _, hcolumn _ _, hcolumn _ _, hcolumn _ _, hcolumn _ _⟩

variable [Fround] {keys : Set KeyMode} {history : List (Frame keys)}

theorem Represents.get?_eq_some {rec : Recording} (h : Represents rec history) {id : String}
    {s : Series} (hs : rec.series.get? id = some s) :
    s = seriesOf rec.capacity (historyCells rec.key history id) := by
  rw [h.holds id] at hs
  split_ifs at hs
  exact (Option.some.inj hs).symm

/-- Two recordings of the same frames agree. -/
theorem Represents.sameFrames {rec fresh : Recording} (h : Represents rec history)
    (h' : Represents fresh history) (hkey : rec.key = fresh.key) : SameFrames rec fresh where
  frames := h.frames_eq.trans h'.frames_eq.symm
  starts := h.starts_eq.trans h'.starts_eq.symm
  ends := h.ends_eq.trans h'.ends_eq.symm
  observedAt := h.observedAt_eq.trans h'.observedAt_eq.symm
  changed := h.changed_eq.trans h'.changed_eq.symm
  ids id := by
    rw [h.holds id, h'.holds id, hkey]
    split_ifs <;> rfl
  slots id s s' hs hs' i hi := by
    rw [h.get?_eq_some hs, h'.get?_eq_some hs', hkey]
    exact sameSlot_seriesOf _ _ (by rwa [length_historyCells, ← h.frames_eq])

theorem Represents.tailsAbsent {rec : Recording} (h : Represents rec history) :
    TailsAbsent rec := by
  intro id s hs i hi hcapacity
  rw [h.get?_eq_some hs]
  exact absentSlot_seriesOf (by rwa [length_historyCells, ← h.frames_eq]) hcapacity

/-- After any calls the recording is the one that was given the surviving frames only. -/
theorem recording_eq_fresh (key : KeyMode) (calls : List (Call {key})) :
    ∃ rec fresh, calls.foldlM perform (createRecording key) = some rec ∧
      ((calls.foldl surviving []).map Call.addFrame).foldlM perform (createRecording key) =
        some fresh ∧
      SameFrames rec fresh ∧ TailsAbsent rec := by
  have hstart := represents_createRecording (Set.mem_singleton key)
  obtain ⟨rec, hrec, hkey, hrepresents⟩ := hstart.foldlM_perform calls
  obtain ⟨fresh, hfresh, hkey', hrepresents'⟩ :=
    hstart.foldlM_perform ((calls.foldl surviving []).map Call.addFrame)
  have hadded (frames before : List (Frame {key})) :
      (frames.map Call.addFrame).foldl surviving before = before ++ frames := by
    induction frames generalizing before with
    | nil => exact (List.append_nil before).symm
    | cons f rest ih =>
      rw [List.map_cons, List.foldl_cons, surviving, ih, List.append_assoc, List.singleton_append]
  rw [hadded, List.nil_append] at hrepresents'
  exact ⟨rec, fresh, hrec, hfresh, hrepresents.sameFrames hrepresents' (hkey.trans hkey'.symm),
    hrepresents.tailsAbsent⟩

end Fresh

end TransportViz.Replay
