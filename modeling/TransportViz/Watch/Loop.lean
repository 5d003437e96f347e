import TransportViz.Collect.ObservedRuns
import TransportViz.Csv.Render
import TransportViz.Diff.Exact
import TransportViz.Json.Text
import TransportViz.Watch.State

/-!
# The loop of `--watch`

A turn of the loop paints a frame when it is due or asked for, and then waits for a key. On a terminal
keys change the options of the frames to come, and the loop can be paused; a program that is told to
stop while it collects paints no frame any more. The frames that were painted are those of the highlight
state, however many turns lie between them.
-/

namespace TransportViz.Watch

open Collect Diff Web

open TransportViz.Observer (FastDds)

/-! ## Model -/

inductive Output
  | json
  | csv
  | table (terminal : Bool)
  deriving DecidableEq

/-- The options that keys change. -/
structure Toggles where
  all : Bool := false
  verbose : Bool := false
  explain : Bool := false
  locators : Bool := false
  advise : Bool := false
  deriving DecidableEq

/-- What happens in a turn of the loop. -/
structure Turn where
  /-- Whether the program is to go on, at the start of the turn and when everything is collected. -/
  ok : Bool := true
  okCollected : Bool := true
  /-- The time of the next frame has come. -/
  due : Bool := false
  found : Observation
  key : Option Char := none

def Turn.collect [Fnmatch] [HostNames] [FastDds] (t : Turn) (all : Bool) : Snapshot :=
  Observation.snapshot { t.found with view := { t.found.view with all := all } }

/-- A frame as it is rendered. -/
structure Painted where
  snap : Snapshot
  changes : Changes
  deco : WatchDecorations
  toggles : Toggles
  paused : Bool
  csvNoHeader : Bool

structure Loop where
  toggles : Toggles := {}
  state : WatchState := {}
  paused : Bool := false
  quit : Bool := false
  force : Bool := true
  csvNoHeader : Bool := false
  /-- The loop was left. -/
  ended : Bool := false
  painted : List Painted := []

namespace Loop

def press (l : Loop) (key : Char) : Loop :=
  if key ∈ ['q', 'Q', '\x03'] then { l with quit := true }
  else if key ∈ ['p', 'P'] then { l with paused := !l.paused, force := true }
  else if key ∈ ['v', 'V'] then
    { l with toggles := { l.toggles with verbose := !l.toggles.verbose }, force := true }
  else if key ∈ ['e', 'E'] then
    { l with toggles := { l.toggles with explain := !l.toggles.explain }, force := true }
  else if key ∈ ['a', 'A'] then
    { l with toggles := { l.toggles with all := !l.toggles.all }, force := true }
  else if key ∈ ['l', 'L'] then
    let locators := !l.toggles.locators
    { l with
      toggles := { l.toggles with locators := locators, verbose := l.toggles.verbose || locators }
      force := true }
  else if key ∈ ['f', 'F'] then
    let advise := !l.toggles.advise
    { l with
      toggles := { l.toggles with
        advise := advise
        verbose := l.toggles.verbose || advise
        explain := l.toggles.explain || advise }
      force := true }
  else l

/-- Only a terminal has keys. -/
def readKey (output : Output) (turn : Turn) (l : Loop) : Loop :=
  match turn.key with
  | some key => if output = .table true then l.press key else l
  | none => l

/-- The CSV header is written once. -/
def paint (output : Output) (opt : RenderOptions) (snap : Snapshot) (l : Loop) : Loop :=
  let diffed := diff l.state snap opt
  { l with
    state := keep diffed.1 snap
    csvNoHeader := l.csvNoHeader || output = .json || output = .csv
    painted := l.painted ++ [{
      snap := snap
      changes := diffed.2
      deco := diffed.1.deco
      toggles := l.toggles
      paused := l.paused
      csvNoHeader := l.csvNoHeader }] }

variable [Fnmatch] [HostNames] [FastDds]

def turn (output : Output) (opt : RenderOptions) (l : Loop) (t : Turn) : Loop :=
  if l.ended ∨ ¬t.ok ∨ l.quit then { l with ended := true }
  else if l.force ∨ (¬l.paused ∧ t.due) then
    if t.okCollected then
      readKey output t (paint output opt (t.collect l.toggles.all) { l with force := false })
    else { l with force := false, ended := true }
  else readKey output t l

def run (output : Output) (opt : RenderOptions) (toggles : Toggles) (turns : List Turn) : Loop :=
  turns.foldl (turn output opt) { toggles := toggles }

end Loop

section Texts

variable (opt : RenderOptions) (painted : List Painted)

/-- What `--watch --json` prints. -/
def jsonFrames : List Json.JsonFrame :=
  painted.map fun p ↦ { snap := p.snap, opt := opt, shown := some { changes := p.changes } }

/-- What `--watch --csv` prints. -/
def csvText [JsonReader.Dump] : String :=
  String.join (painted.map fun p ↦
    RenderCsv.renderCsv p.snap { toRenderOptions := opt, csvNoHeader := p.csvNoHeader })

end Texts

/-! ## Specification -/

/-- The frames that were painted, as frames of the highlight state. -/
def framesOf (opt : RenderOptions) (painted : List Painted) (n : ℕ) : Frame where
  snap := (painted[n]?.map Painted.snap).getD {}
  opt := opt

/-- Each frame has the changes since the one before it and the highlights of the events so far. -/
structure Watched (opt : RenderOptions) (painted : List Painted) : Prop where
  first : ∀ p ∈ painted.head?, isEmpty p.changes = true
  exact : painted.IsChain fun before after ↦
    ExactDiff (pairStates before.snap) (pairStates after.snap) after.changes
      (Diff.diff (pairStates after.snap) (pairStates before.snap))
  highlights : ∀ i p, painted[i]? = some p → p.deco = (renderedAt (framesOf opt painted) i).deco

/-! ## Runs of the highlight state -/

section Frames

variable {frames other : ℕ → Frame}

/-- The state before a frame depends on the frames before it. -/
theorem stateAt_congr {n : ℕ} (h : ∀ i < n, frames i = other i) :
    stateAt frames n = stateAt other n := by
  induction n with
  | zero => rfl
  | succ n ih =>
    rw [stateAt, stateAt, ih fun i hi ↦ h i (hi.trans n.lt_succ_self), h n n.lt_succ_self]

theorem diff_congr {n : ℕ} (h : ∀ i ≤ n, frames i = other i) :
    diff (stateAt frames n) (frames n).snap (frames n).opt =
      diff (stateAt other n) (other n).snap (other n).opt := by
  rw [stateAt_congr fun i hi ↦ h i hi.le, h n le_rfl]

variable (frames)

theorem changesAt_zero : changesAt frames 0 = {} := rfl

theorem changesAt_succ (n : ℕ) : changesAt frames (n + 1) =
    Diff.diff (pairStates (frames n).snap) (pairStates (frames (n + 1)).snap) := rfl

variable {opt : RenderOptions} {painted : List Painted}

theorem framesOf_append (more : List Painted) {i : ℕ} (hi : i < painted.length) :
    framesOf opt (painted ++ more) i = framesOf opt painted i := by
  rw [framesOf, List.getElem?_append_left hi, framesOf]

theorem framesOf_last (p : Painted) :
    framesOf opt (painted ++ [p]) painted.length = ⟨p.snap, opt⟩ := by
  rw [framesOf, List.getElem?_concat_length]
  rfl

/-- The state before the last frame does not depend on it. -/
theorem stateAt_framesOf_append (p : Painted) :
    stateAt (framesOf opt (painted ++ [p])) painted.length =
      stateAt (framesOf opt painted) painted.length :=
  stateAt_congr fun _ hi ↦ framesOf_append [p] hi

theorem eq_or_of_getElem?_append {p q : Painted} {i : ℕ} (h : (painted ++ [p])[i]? = some q) :
    painted[i]? = some q ∧ i < painted.length ∨ i = painted.length ∧ q = p := by
  rcases lt_or_ge i painted.length with hi | hi
  · rw [List.getElem?_append_left hi] at h
    exact .inl ⟨h, hi⟩
  · rw [List.getElem?_append_right hi, List.getElem?_singleton] at h
    split_ifs at h with hzero
    exact .inr ⟨by omega, (Option.some.inj h).symm⟩

theorem framesOf_snap {i : ℕ} {p : Painted} (h : painted[i]? = some p) :
    (framesOf opt painted i).snap = p.snap := by
  rw [framesOf, h]
  rfl

end Frames

/-! ## Runs of the loop -/

namespace Loop

/-- What holds of the loop after any turns. -/
structure Holds [Fnmatch] [HostNames] [FastDds] (output : Output) (opt : RenderOptions) (l : Loop) :
    Prop where
  found : ∀ p ∈ l.painted, ∃ x : Observation, p.snap = x.snapshot
  state_eq : l.state = stateAt (framesOf opt l.painted) l.painted.length
  painted_eq : ∀ i p, l.painted[i]? = some p → p.changes = changesAt (framesOf opt l.painted) i ∧
    p.deco = (renderedAt (framesOf opt l.painted) i).deco
  csvNoHeader_eq : output = .csv → l.csvNoHeader = !l.painted.isEmpty
  csvNoHeader_painted : output = .csv → ∀ i p, l.painted[i]? = some p → p.csvNoHeader = decide (i ≠ 0)

variable [Fnmatch] [HostNames] [FastDds] {output : Output} {opt : RenderOptions} {l m : Loop}

/-- Nothing else of the loop matters. -/
theorem Holds.congr (h : Holds output opt l) (hstate : m.state = l.state)
    (hpainted : m.painted = l.painted) (hheader : m.csvNoHeader = l.csvNoHeader) :
    Holds output opt m := by
  constructor
  · rw [hpainted]
    exact h.found
  · rw [hstate, hpainted, h.state_eq]
  · rw [hpainted]
    exact h.painted_eq
  · rw [hheader, hpainted]
    exact h.csvNoHeader_eq
  · rw [hpainted]
    exact h.csvNoHeader_painted

omit [Fnmatch] [HostNames] [FastDds] in
theorem press_frame (l : Loop) (key : Char) : (l.press key).state = l.state ∧
    (l.press key).painted = l.painted ∧ (l.press key).csvNoHeader = l.csvNoHeader := by
  unfold press
  split_ifs <;> exact ⟨rfl, rfl, rfl⟩

theorem Holds.readKey (h : Holds output opt l) (t : Turn) : Holds output opt (l.readKey output t) := by
  unfold Loop.readKey
  split
  · next key _ =>
    split_ifs
    · obtain ⟨hstate, hpainted, hheader⟩ := press_frame l key
      exact h.congr hstate hpainted hheader
    · exact h
  · exact h

theorem Holds.paint (h : Holds output opt l) (x : Observation) :
    Holds output opt (l.paint output opt x.snapshot) := by
  generalize hsnap : x.snapshot = snap
  obtain ⟨p, hp, hpainted⟩ : ∃ p : Painted, p = ⟨snap, (diff l.state snap opt).2,
      (diff l.state snap opt).1.deco, l.toggles, l.paused, l.csvNoHeader⟩ ∧
      (l.paint output opt snap).painted = l.painted ++ [p] := ⟨_, rfl, rfl⟩
  have hdiff : diff (stateAt (framesOf opt (l.painted ++ [p])) l.painted.length)
      (framesOf opt (l.painted ++ [p]) l.painted.length).snap
      (framesOf opt (l.painted ++ [p]) l.painted.length).opt = diff l.state snap opt := by
    rw [framesOf_last, stateAt_framesOf_append, ← h.state_eq, hp]
  constructor
  · rw [hpainted, List.forall_mem_append, List.forall_mem_singleton]
    refine ⟨h.found, x, ?_⟩
    rw [hp, hsnap]
  · rw [hpainted, List.length_append, List.length_singleton, stateAt, hdiff, framesOf_last, hp]
    rfl
  · rw [hpainted]
    intro i q hq
    rcases eq_or_of_getElem?_append hq with ⟨hq, hi⟩ | ⟨rfl, rfl⟩
    · rw [changesAt, renderedAt, diff_congr fun j hj ↦ framesOf_append [p] (hj.trans_lt hi)]
      exact h.painted_eq i q hq
    · rw [changesAt, renderedAt, hdiff, hp]
      exact ⟨rfl, rfl⟩
  · intro hcsv
    rw [hpainted, hcsv]
    simp [Loop.paint]
  · rw [hpainted]
    intro hcsv i q hq
    rcases eq_or_of_getElem?_append hq with ⟨hq, -⟩ | ⟨rfl, rfl⟩
    · exact h.csvNoHeader_painted hcsv i q hq
    · rw [hp, h.csvNoHeader_eq hcsv]
      cases l.painted <;> simp

theorem Holds.turn (h : Holds output opt l) (t : Turn) : Holds output opt (l.turn output opt t) := by
  unfold Loop.turn
  have hforced : Holds output opt { l with force := false } := h.congr rfl rfl rfl
  split_ifs
  · exact h.congr rfl rfl rfl
  · exact (hforced.paint _).readKey t
  · exact h.congr rfl rfl rfl
  · exact h.readKey t

theorem holds_run (output : Output) (opt : RenderOptions) (toggles : Toggles) (turns : List Turn) :
    Holds output opt (run output opt toggles turns) := by
  have hstart : Holds output opt { toggles := toggles } := by
    constructor <;> simp [stateAt]
  unfold run
  induction turns using List.reverseRecOn with
  | nil => exact hstart
  | append_singleton before t ih =>
    rw [List.foldl_append]
    exact ih.turn t

variable (output : Output) (opt : RenderOptions) (toggles : Toggles) (turns : List Turn)

/-- However the turns went, the frames tell what happened between them. -/
theorem watched_run : Watched opt (run output opt toggles turns).painted := by
  have hholds := holds_run output opt toggles turns
  generalize run output opt toggles turns = l at hholds
  constructor
  · intro p hp
    rw [List.head?_eq_getElem?] at hp
    rw [(hholds.painted_eq 0 p hp).1, changesAt_zero]
    rfl
  · rw [List.isChain_iff_getElem]
    intro i hi
    have hbefore := List.getElem?_eq_getElem (Nat.lt_of_succ_lt hi)
    have hafter := List.getElem?_eq_getElem hi
    have hchanges := (hholds.painted_eq _ _ hafter).1
    rw [changesAt_succ, framesOf_snap hbefore, framesOf_snap hafter] at hchanges
    rw [hchanges]
    exact exactDiff_of_keyed (keyed_pairStates _) (keyed_pairStates _)
  · exact fun i p hp ↦ (hholds.painted_eq i p hp).2

end Loop

/-! ## The CSV of a run -/

section CsvOutput

open RenderCsv

variable [Fnmatch] [HostNames] [FastDds] [JsonReader.Dump] (opt : RenderOptions) (toggles : Toggles)
  (turns : List Turn)

/-- The rows of a frame. -/
def frameRows (p : Painted) : List (List String) := pairRecords p.snap { toRenderOptions := opt }

/-- The header comes once, before the rows of all frames. -/
theorem parseCsv_csvText :
    parseCsv (csvText opt (Loop.run .csv opt toggles turns).painted) =
      some (if (Loop.run .csv opt toggles turns).painted = [] then []
        else columns :: (Loop.run .csv opt toggles turns).painted.flatMap (frameRows opt)) := by
  have hheader := (Loop.holds_run .csv opt toggles turns).csvNoHeader_painted rfl
  generalize (Loop.run .csv opt toggles turns).painted = painted at hheader
  have htext := toList_join_frames (painted.map fun p ↦
    (p.snap, ({ toRenderOptions := opt, csvNoHeader := p.csvNoHeader } : CsvOptions)))
  rw [List.map_map, List.flatMap_map] at htext
  cases painted with
  | nil => exact parseCsv_written _ (fun _ hrecord ↦ absurd hrecord List.not_mem_nil) _ htext
  | cons p rest =>
    have hfirst : p.csvNoHeader = false := hheader 0 p rfl
    have hrest : ∀ q ∈ rest, q.csvNoHeader = true := by
      intro q hq
      obtain ⟨i, hi⟩ := List.mem_iff_getElem?.mp hq
      exact hheader (i + 1) q hi
    have hrecords : ((p :: rest).flatMap fun p ↦
        records p.snap { toRenderOptions := opt, csvNoHeader := p.csvNoHeader }) =
        columns :: (p :: rest).flatMap (frameRows opt) := by
      rw [List.flatMap_cons, List.flatMap_cons, hfirst, List.flatMap_congr fun q hq ↦ by rw [hrest q hq]]
      rfl
    rw [if_neg (List.cons_ne_nil p rest), ← hrecords]
    refine parseCsv_written _ (fun record hrecord ↦ ?_) _ htext
    obtain ⟨q, -, hmem⟩ := List.mem_flatMap.mp hrecord
    exact ne_nil_of_mem_records q.snap _ hmem

end CsvOutput

/-- A frame of a talker and one of the pair that it is measured in. -/
def watchedTurns : List Turn :=
  [{ found := talkerObservation }, { due := true, found := measuredObservation }]

end TransportViz.Watch
