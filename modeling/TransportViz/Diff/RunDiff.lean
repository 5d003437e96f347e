import TransportViz.Collect.RenamedView
import TransportViz.Watch.Loop

/-!
# The `diff` command

`transport_viz diff` compares two documents that were saved, the last ones of files with several, after
applying the view options to both. It says what a comparison of the live snapshots would say, whichever
way they were saved, and its exit status tells whether anything changed.
-/

namespace TransportViz.Diff

open Collect Json Watch Web

/-! ## Model -/

structure DiffOptions where
  view : ViewOptions := {}
  key : KeyMode := .node
  changesOnly : Bool := false

/-- A document's file with its text, or with the reason why it cannot be read. -/
structure DocumentFile where
  path : String
  text : Except String (List Char)

/-- The exit status, what is written to stderr, and what is rendered. -/
structure DiffRun where
  status : ℕ
  errors : List String := []
  rendered : Option (Snapshot × ShownChanges × WatchDecorations) := none

/-- Drop the topics that carry no mark and no ghost. -/
def keepChangedTopics (snap : Snapshot) (deco : WatchDecorations) : Snapshot :=
  { snap with
    topics := snap.topics.filter fun t ↦
      (t.pairs.any fun p ↦ (deco.marks.find? (identOf (pairKey t p))).isSome) ||
        deco.ghosts.any fun g ↦ g.key.topic = t.displayTopic }

def viewed (o : DiffOptions) (snap : Snapshot) : Snapshot :=
  { snap with topics := applyViewFilters snap.topics o.view }

section Model

variable [JsonLibrary]

/-- A document with what is said about the file, or why there is none. Only the parser's own exceptions
are caught. -/
def load (file : DocumentFile) : Option (Except String (Snapshot × List String)) :=
  match file.text with
  | .error why => some (.error ("transport_viz diff: cannot read " ++ file.path ++ ": " ++ why ++ "\n"))
  | .ok text =>
      match parseText text with
      | .ok (snap, documents) =>
          some (.ok (snap,
            if 1 < documents then
              ["transport_viz diff: " ++ file.path ++ ": " ++ toString documents ++
                " documents (JSON Lines), comparing the last one\n"]
            else []))
      | .error (.parse what) =>
        some (.error ("transport_viz diff: " ++ file.path ++ ": " ++ what ++ "\n"))
      | .error (.other _) => none

def compare (o : DiffOptions) (before after : Snapshot) (errors : List String) : DiffRun :=
  let warning :=
    if before.domain ≠ after.domain then
      ["transport_viz diff: warning: the documents are from different domains (" ++
        toString before.domain ++ " and " ++ toString after.domain ++ ")\n"]
    else []
  let before := viewed o before
  let after := viewed o after
  let changes := diffSnapshots before after o.key
  let deco := decorationsFor changes before {}
  let after := if o.changesOnly then keepChangedTopics after deco else after
  { status := if isEmpty changes then 0 else 1
    errors := errors ++ warning
    rendered := some (after, { changes := changes, before := some before }, deco) }

/-- `none` is an exception that nobody catches. -/
def runDiff (o : DiffOptions) (first second : DocumentFile) : Option DiffRun :=
  match load first with
  | none => none
  | some (.error message) => some { status := 2, errors := [message] }
  | some (.ok (before, notes)) =>
      match load second with
      | none => none
      | some (.error message) => some { status := 2, errors := notes ++ [message] }
      | some (.ok (after, more)) => some (compare o before after (notes ++ more))

end Model

/-! ## Specification -/

/-- The keys that changes name. -/
def named (changes : Changes) : List PairKey :=
  changes.added ++ changes.removed ++ changes.changed.map PairChange.key

/-- The run tells the changes between two snapshots. -/
structure Tells (o : DiffOptions) (before after : Snapshot) (run : DiffRun) : Prop where
  status : run.status = if isEmpty (diffSnapshots (viewed o before) (viewed o after) o.key) then 0 else 1
  rendered : ∃ snap shown deco, run.rendered = some (snap, shown, deco) ∧
    shown.changes = diffSnapshots (viewed o before) (viewed o after) o.key ∧
    ∀ name, name ∈ snap.topics.map TopicSummary.displayTopic ↔
      name ∈ (viewed o after).topics.map TopicSummary.displayTopic ∧
        (o.changesOnly = true → ∃ key ∈ named shown.changes, key.topic = name)

section Printouts

variable [Fnmatch] [HostNames] [TransportViz.Observer.FastDds]

/-- What the tool prints with `--json`, once or on and on. -/
inductive Printout
  | once (x : Observation) (opt : RenderOptions)
  | watched (opt : RenderOptions) (toggles : Toggles) (turns : List Turn)

namespace Printout

def frames : Printout → List JsonFrame
  | once x opt => [{ snap := x.snapshot, opt := opt }]
  | watched opt toggles turns => jsonFrames opt (Loop.run .json opt toggles turns).painted

def text [JsonLibrary] : Printout → List Char
  | once x opt => renderText false x.snapshot opt none
  | p@(watched _ _ _) => framesText p.frames

end Printout

/-- With both documents the run tells their changes; otherwise it is an error. -/
def TellsPrintouts (o : DiffOptions) (first second : Printout) (run : DiffRun) : Prop :=
  match first.frames.getLast?, second.frames.getLast? with
  | some before, some after => Tells o before.snap after.snap run
  | _, _ => run.status = 2 ∧ run.rendered = none

end Printouts

/-! ## The pairs that changes name -/

section Named

variable {before after : Snapshot} {mode : KeyMode}

/-- The states that are compared. -/
def keyed (mode : KeyMode) (snap : Snapshot) : KeyedStates :=
  match mode with
  | .guid => pairStates snap
  | .node => nodeKeyed snap

/-- The keys of pairs that are still there. -/
def present (changes : Changes) : List PairKey :=
  changes.added ++ changes.changed.map PairChange.key

theorem diffSnapshots_eq (before after : Snapshot) (mode : KeyMode) : ∃ same,
    diffSnapshots before after mode =
      report mode (KeyedDiff.diff same (keyed mode before).entries (keyed mode after).entries) := by
  cases mode <;> exact ⟨_, rfl⟩

/-- Each state is that of a pair. -/
theorem ident_of_mem_keyed {snap : Snapshot} {e : Ident × PairKey × PairState}
    (he : e ∈ (keyed mode snap).entries) : identOf e.2.1 ∈ idents snap := by
  have hfind := (OrderedMap.mem_entries_iff _ e.1 e.2).mp he
  cases mode with
  | guid =>
    refine OrderedMap.forall_foldl_alter (fun _ value ↦ identOf value.1 ∈ idents snap)
      (realPairs snap) _ _ .empty (by simp) (fun item hitem old hold ↦ ?_) e.1 e.2 hfind
    cases old with
    | none => exact List.mem_map_of_mem (f := fun e : PairKey × PairState ↦ identOf e.1) hitem
    | some value => exact hold value rfl
  | node =>
    refine OrderedMap.forall_foldl_alter (fun _ value ↦ identOf value.1 ∈ idents snap)
      (nodePairs snap) _ _ .empty (by simp) (fun item hitem old hold ↦ ?_) e.1 e.2 hfind
    obtain ⟨t, ht, hpair⟩ := List.mem_flatMap.mp hitem
    obtain ⟨p, hp, rfl⟩ := List.mem_map.mp hpair
    have hreal : (pairKey t p, pairState p) ∈ realPairs snap :=
      List.mem_flatMap.mpr ⟨t, ht, List.mem_map_of_mem (f := fun p ↦ (pairKey t p, pairState p)) hp⟩
    exact List.mem_map_of_mem (f := fun e : PairKey × PairState ↦ identOf e.1) hreal

theorem ident_of_mem_filter {snap : Snapshot} {keep : Ident × PairKey × PairState → Bool}
    {key : PairKey} (h : key ∈ ((keyed mode snap).entries.filter keep).map fun e ↦ e.2.1) :
    identOf key ∈ idents snap := by
  obtain ⟨e, he, rfl⟩ := List.mem_map.mp h
  exact ident_of_mem_keyed (List.mem_of_mem_filter he)

theorem ident_of_mem_added {key : PairKey} (h : key ∈ (diffSnapshots before after mode).added) :
    identOf key ∈ idents after := by
  obtain ⟨same, hdiff⟩ := diffSnapshots_eq before after mode
  rw [hdiff] at h
  exact ident_of_mem_filter h

theorem ident_of_mem_removed {key : PairKey} (h : key ∈ (diffSnapshots before after mode).removed) :
    identOf key ∈ idents before := by
  obtain ⟨same, hdiff⟩ := diffSnapshots_eq before after mode
  rw [hdiff] at h
  exact ident_of_mem_filter h

theorem ident_of_mem_changed {change : PairChange}
    (h : change ∈ (diffSnapshots before after mode).changed) : identOf change.key ∈ idents after := by
  obtain ⟨same, hdiff⟩ := diffSnapshots_eq before after mode
  rw [hdiff] at h
  obtain ⟨found, hfound, rfl⟩ := List.mem_map.mp h
  obtain ⟨e, he, hentry⟩ := List.mem_filterMap.mp hfound
  obtain ⟨-, hvalue, -⟩ := KeyedDiff.mem_keys_of_changedEntry hentry
  have hkey : found.2.2.1 = e.2.1 := congrArg Prod.fst hvalue
  rw [hkey]
  exact ident_of_mem_keyed he

theorem ident_of_mem_present {key : PairKey} (h : key ∈ present (diffSnapshots before after mode)) :
    identOf key ∈ idents after := by
  rcases List.mem_append.mp h with hadded | hchanged
  · exact ident_of_mem_added hadded
  · obtain ⟨change, hchange, rfl⟩ := List.mem_map.mp hchanged
    exact ident_of_mem_changed hchange

theorem mem_idents_iff {snap : Snapshot} {ident : Ident} :
    ident ∈ idents snap ↔ ∃ t ∈ snap.topics, ∃ p ∈ t.pairs, identOf (pairKey t p) = ident := by
  simp [idents, realPairs, and_assoc]

/-- Identities have the name of the topic. -/
theorem topic_of_identOf {key other : PairKey} (h : identOf key = identOf other) :
    key.topic = other.topic :=
  congrArg (fun ident ↦ (ofLex ident).1) h

end Named

/-! ## The topics that are kept -/

section Kept

variable {changes : Changes}

theorem exists_mem_named_iff (name : String) : (∃ key ∈ named changes, key.topic = name) ↔
    (∃ key ∈ present changes, key.topic = name) ∨ ∃ key ∈ changes.removed, key.topic = name := by
  simp only [named, present, List.mem_append, or_and_right, exists_or]
  exact or_right_comm

theorem isSome_find?_marksFor (ident : Ident) :
    ((marksFor changes).find? ident).isSome = true ↔ ∃ key ∈ present changes, identOf key = ident := by
  have hpresent : (∃ key ∈ present changes, identOf key = ident) ↔
      ident ∈ changes.added.map identOf ∨ ident ∈ changes.changed.map fun c ↦ identOf c.key := by
    simp only [present, List.mem_append, or_and_right, exists_or, List.mem_map,
      exists_exists_and_eq_and]
  rw [hpresent, marksFor]
  simp only [OrderedMap.find?_foldl_set_const]
  split_ifs with hchanged hadded
  · exact iff_of_true rfl (.inr hchanged)
  · exact iff_of_true rfl (.inl hadded)
  · simp [hchanged, hadded]

/-- Every pair that is gone has a ghost. -/
theorem exists_ghost_iff {before : Snapshot} {opt : RenderOptions} {name : String}
    (h : ∀ key ∈ changes.removed, identOf key ∈ idents before) :
    (∃ g ∈ (decorationsFor changes before opt).ghosts, g.key.topic = name) ↔
      ∃ key ∈ changes.removed, key.topic = name := by
  simp only [decorationsFor, List.mem_flatMap, List.mem_map, List.mem_filter, decide_eq_true_eq]
  constructor
  · rintro ⟨g, ⟨key, hkey, t, ht, p, ⟨hp, hident⟩, rfl⟩, rfl⟩
    exact ⟨key, hkey, (topic_of_identOf hident).symm⟩
  · rintro ⟨key, hkey, rfl⟩
    obtain ⟨t, ht, p, hp, hident⟩ := mem_idents_iff.mp (h key hkey)
    exact ⟨ghostPair before t p opt, ⟨key, hkey, t, ht, p, ⟨hp, hident⟩, rfl⟩, topic_of_identOf hident⟩

theorem mem_keepChangedTopics_topics_iff (snap : Snapshot) (deco : WatchDecorations) (t : TopicSummary) :
    t ∈ (keepChangedTopics snap deco).topics ↔ t ∈ snap.topics ∧
      ((∃ p ∈ t.pairs, (deco.marks.find? (identOf (pairKey t p))).isSome = true) ∨
        ∃ g ∈ deco.ghosts, g.key.topic = t.displayTopic) := by
  simp [keepChangedTopics]

/-- Of the topics, those are kept that have the name of a pair that changes name. -/
theorem mem_keepChangedTopics_iff (before after : Snapshot) (mode : KeyMode) (opt : RenderOptions)
    (name : String) :
    name ∈ (keepChangedTopics after
        (decorationsFor (diffSnapshots before after mode) before opt)).topics.map
          TopicSummary.displayTopic ↔
      name ∈ after.topics.map TopicSummary.displayTopic ∧
        ∃ key ∈ named (diffSnapshots before after mode), key.topic = name := by
  have hremoved : ∀ key ∈ (diffSnapshots before after mode).removed, identOf key ∈ idents before :=
    fun _ ↦ ident_of_mem_removed
  have hghosts (name : String) :
      (∃ g ∈ (decorationsFor (diffSnapshots before after mode) before opt).ghosts, g.key.topic = name) ↔
        ∃ key ∈ (diffSnapshots before after mode).removed, key.topic = name := exists_ghost_iff hremoved
  simp only [List.mem_map, mem_keepChangedTopics_topics_iff, hghosts, exists_mem_named_iff]
  constructor
  · rintro ⟨t, ⟨ht, hkept⟩, rfl⟩
    refine ⟨⟨t, ht, rfl⟩, hkept.imp_left ?_⟩
    rintro ⟨p, hp, hmark⟩
    obtain ⟨key, hkey, hsame⟩ := (isSome_find?_marksFor _).mp hmark
    exact ⟨key, hkey, topic_of_identOf hsame⟩
  · rintro ⟨⟨t, ht, rfl⟩, ⟨key, hkey, htopic⟩ | hremoved⟩
    · obtain ⟨u, hu, p, hp, hsame⟩ := mem_idents_iff.mp (ident_of_mem_present hkey)
      have hmark := (isSome_find?_marksFor (identOf (pairKey u p))).mpr ⟨key, hkey, hsame.symm⟩
      exact ⟨u, ⟨hu, .inl ⟨p, hp, hmark⟩⟩, (topic_of_identOf hsame).trans htopic⟩
    · exact ⟨t, ⟨ht, .inr hremoved⟩, rfl⟩

end Kept

/-! ## Files that the tool printed -/

section Files

/-- Comparing what was saved tells what comparing the live snapshots would. -/
theorem tells_compare {o : DiffOptions} {before after : Snapshot} (hbefore : Lossless before.topics)
    (hafter : Lossless after.topics) (errors : List String) :
    Tells o before after (compare o (saved before) (saved after) errors) := by
  have hviewed {s : Snapshot} (h : Lossless s.topics) :
      List.Forall₂ (Renamed (readEndpoint s) (readPair s))
        (viewed o s).topics (viewed o (saved s)).topics :=
    forall₂_applyViewFilters (forall₂_renamed_saved h) o.view
  have hchanges := diffSnapshots_renamed (hviewed hbefore) (hviewed hafter) o.key
  have hnames := names_renamed (hviewed hafter)
  refine ⟨?_, ?_⟩
  · rw [← hchanges]
    rfl
  · refine ⟨_, _, _, rfl, hchanges, fun name ↦ ?_⟩
    cases o.changesOnly with
    | false => simp [hnames]
    | true =>
      simp only [if_true, forall_const]
      rw [mem_keepChangedTopics_iff, hnames]

variable [Fnmatch] [HostNames] [TransportViz.Observer.FastDds]

theorem lossless_of_mem_frames {p : Printout} {f : JsonFrame} (hf : f ∈ p.frames) :
    Lossless f.snap.topics := by
  cases p with
  | once x opt =>
    rw [List.mem_singleton.mp hf]
    exact lossless_snapshot x
  | watched opt toggles turns =>
    obtain ⟨painted, hpainted, rfl⟩ := List.mem_map.mp hf
    obtain ⟨x, hx⟩ := (Loop.holds_run .json opt toggles turns).found painted hpainted
    exact hx ▸ lossless_snapshot x

variable [JsonLibrary]

theorem parseText_text (p : Printout) : parseText p.text =
    match p.frames.getLast? with
    | some f => .ok (saved f.snap, p.frames.length)
    | none => .error (.parse "not valid JSON") := by
  have hsavable (f : JsonFrame) (hf : f ∈ p.frames) : Savable f.snap :=
    (lossless_of_mem_frames hf).savable
  cases p with
  | once x opt => exact parseText_renderText (lossless_snapshot x).savable false opt none
  | watched opt toggles turns =>
    generalize hframes : (Printout.watched opt toggles turns).frames = frames at hsavable
    have hstopped : JsonLines.Stopped (dump true) (frames.map JsonFrame.document)
        (frames.map JsonFrame.document).length true _ := .between le_rfl
    rw [List.take_length, ← framesText_eq_stream, List.length_map] at hstopped
    have hparse := parseText_whole hsavable hstopped
    rw [List.take_length] at hparse
    rw [Printout.text, hframes]
    refine hparse.trans ?_
    cases frames.getLast? <;> rfl

theorem load_text (p : Printout) (path : String) :
    (∃ notes, load ⟨path, .ok p.text⟩ =
      some (match p.frames.getLast? with
        | some f => .ok (saved f.snap, notes)
        | none => .error ("transport_viz diff: " ++ path ++ ": " ++ "not valid JSON" ++ "\n"))) := by
  rw [load]
  simp only [parseText_text]
  cases p.frames.getLast? with
  | none => exact ⟨[], rfl⟩
  | some f => exact ⟨_, rfl⟩

/-- The command tells the changes between two things the tool printed, or that one has no document. -/
theorem tells_runDiff (o : DiffOptions) (first second : Printout) (path path' : String) :
    ∃ run, runDiff o ⟨path, .ok first.text⟩ ⟨path', .ok second.text⟩ = some run ∧
      TellsPrintouts o first second run := by
  obtain ⟨notes, hfirst⟩ := load_text first path
  obtain ⟨more, hsecond⟩ := load_text second path'
  rw [runDiff, hfirst, hsecond]
  unfold TellsPrintouts
  cases hbefore : first.frames.getLast? with
  | none => exact ⟨_, rfl, rfl, rfl⟩
  | some before =>
    cases hafter : second.frames.getLast? with
    | none => exact ⟨_, rfl, rfl, rfl⟩
    | some after =>
      exact ⟨_, rfl, tells_compare (lossless_of_mem_frames (List.mem_of_getLast? hbefore))
        (lossless_of_mem_frames (List.mem_of_getLast? hafter)) _⟩

end Files

/-! ## Two printed documents -/

def savedOnce : Printout := .once talkerObservation {}

def savedWatch : Printout := .watched {} {} watchedTurns

/-- The pair that the last frame of the watch has is one that the first document lacks. -/
theorem tells_runDiff_watched :
    ∃ run, @runDiff decimalLibrary {}
        ⟨"before.json", .ok (@Printout.text literalFnmatch literalHostNames
          TransportViz.Observer.sampleFastDds decimalLibrary savedOnce)⟩
        ⟨"after.json", .ok (@Printout.text literalFnmatch literalHostNames
          TransportViz.Observer.sampleFastDds decimalLibrary savedWatch)⟩ = some run ∧
      @TellsPrintouts literalFnmatch literalHostNames TransportViz.Observer.sampleFastDds {} savedOnce
        savedWatch run ∧
      run.status = 1 := by
  obtain ⟨run, hrun, htells⟩ := @tells_runDiff literalFnmatch literalHostNames
    TransportViz.Observer.sampleFastDds decimalLibrary {} savedOnce savedWatch "before.json" "after.json"
  have hstatus := Tells.status htells
  refine ⟨run, hrun, htells, hstatus.trans ?_⟩
  decide +kernel

end TransportViz.Diff
