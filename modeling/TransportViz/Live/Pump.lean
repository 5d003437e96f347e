import TransportViz.Json.Text
import TransportViz.Live.Stream

/-!
# Reading the producer

`serve.py` reads the lines of its producer until the output ends, pushes every line that can be parsed
into its stream, and writes them all to a recording if it was asked for one.
-/

namespace TransportViz.Live

open JsonLines
open Script (Value)

/-! ## Model -/

/-- What `strip` takes away. -/
def isSpace (c : Char) : Bool :=
  c ∈ ['\t', '\n', '\x0b', '\x0c', '\r', '\x1c', '\x1d', '\x1e', '\x1f', ' ', '\u0085', '\u00a0',
    '\u1680', '\u2028', '\u2029', '\u202f', '\u205f', '\u3000'] || '\u2000' ≤ c && c ≤ '\u200a'

/-- The stream, and the text of the recording. -/
structure Pump where
  stream : Stream Value := {}
  record : Option (List Char) := none

section Model

variable [Json.JsonLibrary]

/-- `json.loads`. -/
def loads (line : List Char) : Option Value := JsonText.parse Json.JsonLibrary.numerals line

/-- The line as it is recorded. -/
def ended (raw : List Char) : List Char := if raw.getLast? = some '\n' then raw else raw ++ ['\n']

/-- One line of the producer. -/
def Pump.read (p : Pump) (raw : List Char) : Pump :=
  let line := trim isSpace raw
  if line = [] then p
  else
    let record := p.record.map (· ++ ended raw)
    match loads line with
    | none => { p with record := record }
    | some doc => { stream := p.stream.push doc, record := record }

def pump (output : List Char) (rc : ℤ) (record : Bool) : Pump :=
  let p := (rawLines output).foldl Pump.read { record := if record then some [] else none }
  { p with stream := p.stream.end ("transport_viz exited with code " ++ toString rc) }

end Model

/-! ## Specification -/

section Specification

variable [Json.JsonLibrary]

/-- A line with more than blanks. -/
def solid (raw : List Char) : Bool := trim isSpace raw ≠ []

/-- The document that a line is pushed as. -/
def pushed (raw : List Char) : Option Value :=
  if solid raw then loads (trim isSpace raw) else none

/-- All documents that are pushed, in this order. -/
def pushes (output : List Char) : List Value := (rawLines output).filterMap pushed

/-- The output, its last line ended. -/
def recorded (output : List Char) : List Char := if output = [] then [] else ended output

end Specification

/-! ## Any producer -/

section Producer

theorem ended_cons (c : Char) {text : List Char} (hne : text ≠ []) :
    ended (c :: text) = c :: ended text := by
  rw [ended, ended, List.getLast?_cons_of_ne_nil hne]
  split_ifs <;> rfl

theorem ne_nil_of_mem_rawLines {text raw : List Char} (h : raw ∈ rawLines text) : raw ≠ [] := by
  induction text generalizing raw with
  | nil => cases h
  | cons c rest ih =>
    rw [rawLines] at h
    split_ifs at h
    · rcases List.mem_cons.mp h with rfl | hrest
      · exact List.cons_ne_nil _ _
      · exact ih hrest
    · cases hlines : rawLines rest with
      | nil =>
        rw [hlines] at h
        rw [List.mem_singleton.mp h]
        exact List.cons_ne_nil _ _
      | cons line further =>
        rw [hlines] at h
        rcases List.mem_cons.mp h with rfl | hrest
        · exact List.cons_ne_nil _ _
        · exact ih (hlines ▸ List.mem_cons_of_mem _ hrest)

/-- The lines as they are recorded are the output with its last line ended. -/
theorem flatMap_ended (output : List Char) : (rawLines output).flatMap ended = recorded output := by
  induction output with
  | nil => rfl
  | cons c rest ih =>
    rw [recorded, if_neg (List.cons_ne_nil _ _)]
    by_cases hrest : rest = []
    · subst hrest
      by_cases hc : c = '\n' <;> simp [rawLines, ended, hc]
    · rw [recorded, if_neg hrest] at ih
      rw [ended_cons c hrest, ← ih, rawLines]
      split_ifs with hc
      · rw [hc, List.flatMap_cons]
        rfl
      · cases hlines : rawLines rest with
        | nil =>
          rw [hlines] at ih
          have hend : ended rest ≠ [] := by
            unfold ended
            split_ifs <;> simp [hrest]
          exact absurd ih.symm hend
        | cons line further =>
          have hline : line ≠ [] := ne_nil_of_mem_rawLines (hlines ▸ List.mem_cons_self)
          rw [List.flatMap_cons, List.flatMap_cons, ended_cons c hline, List.cons_append]

variable [Json.JsonLibrary]

theorem foldl_read (raws : List (List Char)) (p : Pump) :
    raws.foldl Pump.read p =
      { stream := (raws.filterMap pushed).foldl .push p.stream
        record := p.record.map (· ++ (raws.filter solid).flatMap ended) } := by
  induction raws generalizing p with
  | nil =>
    obtain ⟨s, record⟩ := p
    cases record <;> simp
  | cons raw rest ih =>
    rw [List.foldl_cons, ih, Pump.read]
    by_cases hblank : trim isSpace raw = []
    · simp [pushed, solid, hblank]
    · cases hloads : loads (trim isSpace raw) <;> cases p.record <;>
        simp [pushed, solid, hblank, hloads]

/-- The stream is that of the pushes. -/
theorem stream_pump (output : List Char) (rc : ℤ) (record : Bool) :
    (pump output rc record).stream =
      ((pushes output).foldl Stream.push {}).end ("transport_viz exited with code " ++ toString rc) := by
  rw [pump, foldl_read]
  rfl

/-- Without blank lines everything is recorded. -/
theorem record_pump {output : List Char} (hsolid : ∀ raw ∈ rawLines output, solid raw = true) (rc : ℤ) :
    (pump output rc true).record = some (recorded output) := by
  rw [pump, foldl_read, ← flatMap_ended]
  simp [List.filter_eq_self.mpr hsolid]

end Producer

/-! ## A producer that was stopped -/

section Stopped

variable [Json.JsonLibrary] {doc : Value} {docs : List Value} {k : ℕ} {whole : Bool}
  {output : List Char}

theorem trim_document (hread : Reads (Json.dump true) loads doc) {raw : List Char}
    (hraw : raw = Json.dump true doc ++ ['\n'] ∨ raw = Json.dump true doc) :
    trim isSpace raw = Json.dump true doc := by
  rcases hraw with rfl | rfl
  · exact hread.trim_write (by decide) (by decide) (List.forall_mem_singleton.mpr rfl)
  · have hnone : ∀ c ∈ ([] : List Char), isSpace c = true := by simp
    have htrim := hread.trim_write (by decide) (by decide) hnone
    rwa [List.append_nil] at htrim

/-- The line of a document is pushed. -/
theorem pushed_document (hread : Reads (Json.dump true) loads doc) {raw : List Char}
    (hraw : raw = Json.dump true doc ++ ['\n'] ∨ raw = Json.dump true doc) :
    solid raw = true ∧ pushed raw = some doc := by
  have hsolid : solid raw = true := by
    rw [solid, trim_document hread hraw]
    exact decide_eq_true hread.ne_nil
  rw [pushed, hsolid, if_pos rfl, trim_document hread hraw]
  exact ⟨rfl, hread.parse_write⟩

/-- A line that broke off is not. -/
theorem pushed_part (hread : Reads (Json.dump true) loads doc) {part : List Char}
    (hpart : Part (Json.dump true) doc part) (hne : part ≠ []) :
    solid part = true ∧ pushed part = none := by
  have hopen : isSpace '{' = false := by decide
  have hsolid : solid part = true := decide_eq_true (hread.trim_ne_nil hopen hpart hne)
  rw [pushed, hsolid, if_pos rfl]
  exact ⟨rfl, hread.parse_of_part (hread.part_trim hopen hpart)⟩

theorem pushed_documents (hread : ∀ doc ∈ docs, Reads (Json.dump true) loads doc)
    {raws : List (List Char)}
    (h : List.Forall₂
      (fun doc raw ↦ raw = Json.dump true doc ++ ['\n'] ∨ raw = Json.dump true doc) docs raws) :
    (∀ raw ∈ raws, solid raw = true) ∧ raws.filterMap pushed = docs := by
  induction h with
  | nil => exact ⟨fun _ hraw ↦ absurd hraw List.not_mem_nil, rfl⟩
  | cons hraw _ ih =>
    rw [List.forall_mem_cons] at hread
    obtain ⟨hsolid, hpushed⟩ := pushed_document hread.1 hraw
    obtain ⟨hrest, hdocs⟩ := ih hread.2
    exact ⟨List.forall_mem_cons.mpr ⟨hsolid, hrest⟩, by rw [List.filterMap_cons, hpushed, hdocs]⟩

/-- The documents that are whole are pushed, and all that was read is recorded. -/
theorem pump_stopped (hread : ∀ doc ∈ docs, Reads (Json.dump true) loads doc)
    (h : Stopped (Json.dump true) docs k whole output) :
    pushes output = docs.take k ∧ ∀ rc, (pump output rc true).record = some (recorded output) := by
  obtain ⟨torn, raws, htorn, hraws, hforall⟩ := h.rawLines_eq hread
  have htake : ∀ doc ∈ docs.take k, Reads (Json.dump true) loads doc := fun doc hdoc ↦
    hread doc (List.mem_of_mem_take hdoc)
  obtain ⟨hsolid, hdocs⟩ := pushed_documents htake hforall
  have hrest : (∀ raw ∈ torn, solid raw = true) ∧ torn.filterMap pushed = [] := by
    cases whole with
    | true =>
      rw [htorn.nil rfl]
      exact ⟨fun _ hraw ↦ absurd hraw List.not_mem_nil, rfl⟩
    | false =>
      obtain ⟨part, doc, rfl, hne, hdoc, hpart⟩ := htorn.part rfl
      obtain ⟨hpartSolid, hnone⟩ := pushed_part (hread doc (List.mem_of_getElem? hdoc)) hpart hne
      exact ⟨List.forall_mem_singleton.mpr hpartSolid, by rw [List.filterMap_cons, hnone]; rfl⟩
  constructor
  · rw [pushes, hraws, List.filterMap_append, hdocs, hrest.2, List.append_nil]
  · apply record_pump
    rw [hraws, List.forall_mem_append]
    exact ⟨hsolid, hrest.1⟩

end Stopped

end TransportViz.Live
