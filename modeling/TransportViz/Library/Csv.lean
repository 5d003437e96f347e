import Mathlib.Data.List.Basic

/-!
# Comma-separated values

A grammar of files of records after RFC 4180, where a row may end with LF as well as CRLF, over an
arbitrary alphabet with four marks. `parse` is an automaton: `parse_of_spellsFile` says that it reads
every text of the grammar, `spellsFile_write` that the writer's texts belong to the grammar.
-/

universe u

namespace Csv

/-- The characters with a meaning. -/
structure Marks (α : Type u) where
  comma : α
  quote : α
  cr : α
  lf : α
  nodup : [comma, quote, cr, lf].Nodup

variable {α : Type u} (marks : Marks α)

namespace Marks

def all : List α := [marks.comma, marks.quote, marks.cr, marks.lf]

theorem quote_ne : marks.quote ≠ marks.comma ∧ marks.quote ≠ marks.lf ∧ marks.quote ≠ marks.cr := by
  have hnodup := marks.nodup
  simp only [List.nodup_cons, List.mem_cons, not_or] at hnodup
  exact ⟨Ne.symm hnodup.1.1, hnodup.2.1.2.1, hnodup.2.1.1⟩

theorem cr_ne : marks.cr ≠ marks.comma ∧ marks.cr ≠ marks.lf := by
  have hnodup := marks.nodup
  simp only [List.nodup_cons, List.mem_cons, not_or] at hnodup
  exact ⟨Ne.symm hnodup.1.2.1, hnodup.2.2.1.1⟩

theorem lf_ne_comma : marks.lf ≠ marks.comma := by
  have hnodup := marks.nodup
  simp only [List.nodup_cons, List.mem_cons, not_or] at hnodup
  exact Ne.symm hnodup.1.2.2.1

end Marks

/-! ## The grammar -/

section Grammar

variable [DecidableEq α]

/-- The text between the quotes. -/
def doubled (cell : List α) : List α :=
  cell.flatMap fun c ↦ if c = marks.quote then [marks.quote, c] else [c]

def quoted (cell : List α) : List α := marks.quote :: (doubled marks cell ++ [marks.quote])

/-- A cell, and a text that stands for it. -/
inductive SpellsCell : List α → List α → Prop where
  | plain {cell : List α} : (∀ c ∈ cell, c ∉ marks.all) → SpellsCell cell cell
  | quoted (cell : List α) : SpellsCell cell (quoted marks cell)

inductive SpellsRow : List (List α) → List α → Prop where
  | last {cell text : List α} : SpellsCell marks cell text → SpellsRow [cell] text
  | cons {cell text rest : List α} {cells : List (List α)} : SpellsCell marks cell text →
      SpellsRow cells rest → SpellsRow (cell :: cells) (text ++ marks.comma :: rest)

inductive SpellsFile : List (List (List α)) → List α → Prop where
  | nil : SpellsFile [] []
  | last {cells : List (List α)} {text : List α} : SpellsRow marks cells text → text ≠ [] →
      SpellsFile [cells] text
  | lf {cells : List (List α)} {records : List (List (List α))} {text rest : List α} :
      SpellsRow marks cells text → SpellsFile records rest →
        SpellsFile (cells :: records) (text ++ marks.lf :: rest)
  | crlf {cells : List (List α)} {records : List (List (List α))} {text rest : List α} :
      SpellsRow marks cells text → SpellsFile records rest →
        SpellsFile (cells :: records) (text ++ marks.cr :: marks.lf :: rest)

end Grammar

/-! ## The parser -/

/-- Where the reader stands: before a row, before a cell, in a cell, between quotes, behind a quote that
closes unless it is one of two, behind a carriage return. -/
inductive Mode
  | row
  | cell
  | plain
  | quoted
  | closing
  | cr
  deriving DecidableEq

structure Reader (α : Type u) where
  records : List (List (List α)) := []
  cells : List (List α) := []
  text : List α := []
  mode : Mode := .row

namespace Reader

def endCell (reader : Reader α) : Reader α :=
  { reader with cells := reader.cells ++ [reader.text], text := [], mode := .cell }

def endRecord (reader : Reader α) : Reader α where
  records := reader.records ++ [reader.cells ++ [reader.text]]

end Reader

section Parser

variable [DecidableEq α]

def step (reader : Reader α) (c : α) : Option (Reader α) :=
  match reader.mode with
  | .quoted =>
    if c = marks.quote then some { reader with mode := .closing }
    else some { reader with text := reader.text ++ [c] }
  | .cr => if c = marks.lf then some reader.endRecord else none
  | mode =>
    if c = marks.comma then some reader.endCell
    else if c = marks.lf then some reader.endRecord
    else if c = marks.cr then some { reader with mode := .cr }
    else if c = marks.quote then
      match mode with
      | .closing => some { reader with text := reader.text ++ [c], mode := .quoted }
      | .plain => none
      | _ => some { reader with mode := .quoted }
    else if mode = .closing then none
    else some { reader with text := reader.text ++ [c], mode := .plain }

def run (reader : Reader α) (input : List α) : Option (Reader α) := input.foldlM (step marks) reader

/-- A last row may do without its end. -/
def Reader.finish (reader : Reader α) : Option (List (List (List α))) :=
  match reader.mode with
  | .row => some reader.records
  | .quoted => none
  | .cr => none
  | _ => some reader.endRecord.records

def parse (input : List α) : Option (List (List (List α))) := (run marks {} input).bind Reader.finish

end Parser

/-! ## Reading the grammar -/

section Reading

variable {marks} [DecidableEq α] (reader : Reader α)

theorem run_cons (c : α) (rest : List α) :
    run marks reader (c :: rest) = (step marks reader c).bind fun after ↦ run marks after rest :=
  List.foldlM_cons ..

theorem run_append (first second : List α) :
    run marks reader (first ++ second) =
      (run marks reader first).bind fun after ↦ run marks after second :=
  List.foldlM_append ..

theorem run_singleton (c : α) : run marks reader [c] = step marks reader c := by
  rw [run_cons]
  exact Option.bind_fun_some _

/-- Neither between quotes nor behind a carriage return. -/
def Outside (mode : Mode) : Prop := mode ≠ .quoted ∧ mode ≠ .cr

variable {reader} in
theorem step_comma (h : Outside reader.mode) : step marks reader marks.comma = some reader.endCell := by
  obtain ⟨hquoted, hcr⟩ := h
  cases hmode : reader.mode <;> simp_all [step]

variable {reader} in
theorem step_lf (h : Outside reader.mode) : step marks reader marks.lf = some reader.endRecord := by
  obtain ⟨hquoted, hcr⟩ := h
  cases hmode : reader.mode <;> simp_all [step, marks.lf_ne_comma]

variable {reader} in
theorem step_cr (h : Outside reader.mode) :
    step marks reader marks.cr = some { reader with mode := .cr } := by
  obtain ⟨hquoted, hcr⟩ := h
  cases hmode : reader.mode <;> simp_all [step, marks.cr_ne]

variable {reader} in
theorem run_crlf (h : Outside reader.mode) (rest : List α) :
    run marks reader (marks.cr :: marks.lf :: rest) = run marks reader.endRecord rest := by
  have hlf : step marks { reader with mode := .cr } marks.lf = some reader.endRecord := by
    simp [step, Reader.endRecord]
  rw [run_cons, step_cr h, Option.bind_some, run_cons, hlf, Option.bind_some]

/-- Characters without a meaning stay in the cell. -/
theorem run_plain {text : List α} (h : ∀ c ∈ text, c ∉ marks.all) (hmode : reader.mode = .plain) :
    run marks reader text = some { reader with text := reader.text ++ text } := by
  induction text generalizing reader with
  | nil => simp [run]
  | cons c rest ih =>
    obtain ⟨hc, hrest⟩ := List.forall_mem_cons.mp h
    have hstep : step marks reader c = some { reader with text := reader.text ++ [c] } := by
      simp_all [step, Marks.all]
    rw [run_cons, hstep, Option.bind_some, ih { reader with text := reader.text ++ [c] } hrest hmode,
      List.append_assoc, List.singleton_append]

/-- Between quotes every character stays in the cell. -/
theorem run_doubled (cell : List α) (hmode : reader.mode = .quoted) :
    run marks reader (doubled marks cell) = some { reader with text := reader.text ++ cell } := by
  induction cell generalizing reader with
  | nil => simp [run, doubled]
  | cons c rest ih =>
    have hchar : run marks reader (if c = marks.quote then [marks.quote, c] else [c]) =
        some { reader with text := reader.text ++ [c] } := by
      split_ifs with hc
      · have hclosing : step marks reader marks.quote = some { reader with mode := .closing } := by
          simp [step, hmode]
        rw [run_cons, hclosing, Option.bind_some, run_singleton, hc]
        simp [step, hmode, marks.quote_ne]
      · rw [run_singleton]
        simp [step, hmode, hc]
    rw [doubled, List.flatMap_cons, run_append, hchar, Option.bind_some]
    have hrest := ih { reader with text := reader.text ++ [c] } hmode
    rw [doubled] at hrest
    rw [hrest, List.append_assoc, List.singleton_append]

variable {reader}

/-- The reader stands before a cell. -/
structure Fresh (reader : Reader α) : Prop where
  text_eq : reader.text = []
  mode_eq : reader.mode = .row ∨ reader.mode = .cell

theorem run_cell {cell text : List α} (h : SpellsCell marks cell text) (hfresh : Fresh reader) :
    ∃ mode, run marks reader text = some { reader with text := cell, mode := mode } ∧ Outside mode ∧
      (mode = .row → text = [] ∧ reader.mode = .row) := by
  obtain ⟨htext, hmode⟩ := hfresh
  cases h with
  | plain hplain =>
    cases cell with
    | nil =>
      refine ⟨reader.mode, ?_, ?_, fun hrow ↦ ⟨rfl, hrow⟩⟩
      · rw [run, List.foldlM_nil, ← htext]
        rfl
      · rcases hmode with hmode | hmode <;> simp [Outside, hmode]
    | cons c rest =>
      obtain ⟨hc, hrest⟩ := List.forall_mem_cons.mp hplain
      have hstep : step marks reader c = some { reader with text := [c], mode := .plain } := by
        rcases hmode with hmode | hmode <;> simp_all [step, Marks.all]
      refine ⟨.plain, ?_, by simp [Outside], by simp⟩
      rw [run_cons, hstep, Option.bind_some, run_plain _ hrest rfl, List.singleton_append]
  | quoted =>
    have hopen : step marks reader marks.quote = some { reader with mode := .quoted } := by
      rcases hmode with hmode | hmode <;> simp [step, hmode, marks.quote_ne]
    refine ⟨.closing, ?_, by simp [Outside], by simp⟩
    rw [quoted, run_cons, hopen, Option.bind_some, run_append, run_doubled _ _ rfl, Option.bind_some,
      run_singleton, htext, List.nil_append]
    simp [step]

/-- All cells of a row but the last are ended. -/
theorem run_row {cells : List (List α)} {text : List α} (h : SpellsRow marks cells text)
    (hfresh : Fresh reader) :
    ∃ ended last mode, cells = ended ++ [last] ∧ run marks reader text =
        some { reader with cells := reader.cells ++ ended, text := last, mode := mode } ∧
      Outside mode ∧ (mode = .row → text = [] ∧ reader.mode = .row) := by
  induction h generalizing reader with
  | @last cell text hcell =>
    obtain ⟨mode, hrun, houtside, hrow⟩ := run_cell hcell hfresh
    exact ⟨[], cell, mode, rfl, by rw [hrun, List.append_nil], houtside, hrow⟩
  | @cons cell text rest cells hcell _ ih =>
    obtain ⟨mode, hrun, houtside, -⟩ := run_cell hcell hfresh
    have hnext : Fresh ({ reader with text := cell, mode := mode } : Reader α).endCell :=
      ⟨rfl, Or.inr rfl⟩
    obtain ⟨ended, last, mode', rfl, hrest, houtside', hrow⟩ := ih hnext
    refine ⟨cell :: ended, last, mode', rfl, ?_, houtside', fun hmode ↦ absurd (hrow hmode).2 ?_⟩
    · rw [run_append, hrun, Option.bind_some, run_cons, step_comma houtside, Option.bind_some, hrest]
      simp [Reader.endCell]
    · simp [Reader.endCell]

/-- The reader before a row. -/
def atRow (records : List (List (List α))) : Reader α := { records := records }

omit [DecidableEq α] in
theorem fresh_atRow (records : List (List (List α))) : Fresh (atRow records) := ⟨rfl, Or.inl rfl⟩

/-- The reader behind the text of a row, wherever the row ends. -/
theorem run_atRow {cells : List (List α)} {text : List α} (h : SpellsRow marks cells text)
    (records : List (List (List α))) :
    ∃ reader, run marks (atRow records) text = some reader ∧ Outside reader.mode ∧
      reader.endRecord = atRow (records ++ [cells]) ∧ (reader.mode = .row → text = []) := by
  obtain ⟨ended, last, mode, rfl, hrun, houtside, hrow⟩ := run_row h (fresh_atRow records)
  exact ⟨_, hrun, houtside, rfl, fun hmode ↦ (hrow hmode).1⟩

theorem run_file {added : List (List (List α))} {text : List α} (h : SpellsFile marks added text)
    (records : List (List (List α))) :
    (run marks (atRow records) text).bind Reader.finish = some (records ++ added) := by
  induction h generalizing records with
  | nil => rw [List.append_nil]; rfl
  | @last cells text hrow hne =>
    obtain ⟨reader, hrun, ⟨hquoted, hcr⟩, hend, hmode⟩ := run_atRow hrow records
    have hfinish : reader.finish = some reader.endRecord.records := by
      cases hcase : reader.mode <;> simp_all [Reader.finish]
    rw [hrun, Option.bind_some, hfinish, hend]
    rfl
  | @lf cells rows text rest hrow _ ih =>
    obtain ⟨reader, hrun, houtside, hend, -⟩ := run_atRow hrow records
    rw [run_append, hrun, Option.bind_some, run_cons, step_lf houtside, Option.bind_some, hend, ih,
      List.append_assoc, List.singleton_append]
  | @crlf cells rows text rest hrow _ ih =>
    obtain ⟨reader, hrun, houtside, hend, -⟩ := run_atRow hrow records
    rw [run_append, hrun, Option.bind_some, run_crlf houtside, hend, ih, List.append_assoc,
      List.singleton_append]

/-- Every text of the grammar is read. -/
theorem parse_of_spellsFile {records : List (List (List α))} {text : List α}
    (h : SpellsFile marks records text) : parse marks text = some records := by
  have hrun := run_file h []
  rw [List.nil_append] at hrun
  exact hrun

end Reading

/-! ## Writing -/

section Writing

variable [DecidableEq α]

/-- A cell is put between quotes where it has to be. -/
def writeCell (cell : List α) : List α :=
  if ∀ c ∈ cell, c ∉ marks.all then cell else quoted marks cell

def writeRow (cells : List (List α)) : List α :=
  [marks.comma].intercalate (cells.map (writeCell marks)) ++ [marks.lf]

theorem spellsCell_writeCell (cell : List α) : SpellsCell marks cell (writeCell marks cell) := by
  rw [writeCell]
  split_ifs with h
  · exact .plain h
  · exact .quoted cell

theorem spellsRow_intercalate (cells : List (List α)) (h : cells ≠ []) :
    SpellsRow marks cells ([marks.comma].intercalate (cells.map (writeCell marks))) := by
  induction cells with
  | nil => exact absurd rfl h
  | cons cell rest ih =>
    cases rest with
    | nil =>
      rw [List.map_singleton, List.intercalate_singleton]
      exact .last (spellsCell_writeCell marks cell)
    | cons next more =>
      rw [List.map_cons, List.map_cons, List.intercalate_cons_cons, ← List.map_cons,
        List.append_assoc, List.singleton_append]
      exact .cons (spellsCell_writeCell marks cell) (ih (List.cons_ne_nil _ _))

theorem spellsFile_write (records : List (List (List α))) (h : ∀ cells ∈ records, cells ≠ []) :
    SpellsFile marks records (records.flatMap (writeRow marks)) := by
  induction records with
  | nil => exact .nil
  | cons cells rest ih =>
    obtain ⟨hcells, hrest⟩ := List.forall_mem_cons.mp h
    rw [List.flatMap_cons, writeRow, List.append_assoc, List.singleton_append]
    exact .lf (spellsRow_intercalate marks cells hcells) (ih hrest)

theorem parse_write (records : List (List (List α))) (h : ∀ cells ∈ records, cells ≠ []) :
    parse marks (records.flatMap (writeRow marks)) = some records :=
  parse_of_spellsFile (spellsFile_write marks records h)

end Writing

end Csv
