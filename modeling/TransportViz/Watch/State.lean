import TransportViz.Watch.Decorations

/-!
# The highlight state of the watch loop

A frame is `diff`, render, `keep`. The marks and the ghosts have their remaining frames in maps of
their own; `diff` ages both, then marks what was added and changed, turns what was removed into ghosts
and takes back the ghosts of what was added.
-/

namespace TransportViz

structure WatchState where
  lastRendered : Diff.KeyedStates := .empty
  lastSnapshot : Snapshot := {}
  havePrevious : Bool := false
  markTtl : OrderedMap Diff.Ident ℤ := .empty
  ghostTtl : OrderedMap Diff.Ident ℤ := .empty
  deco : WatchDecorations := {}
  current : Diff.KeyedStates := .empty

namespace Watch

open Diff Web

def kHoldFrames : ℤ := 3

def dropGhost (ghosts : List GhostPair) (key : Ident) : List GhostPair :=
  ghosts.filter fun g ↦ identOf g.key ≠ key

/-- The keys that have no frame left. -/
def expired (ttl : OrderedMap Ident ℤ) : List Ident :=
  (ttl.entries.filter fun e ↦ e.2 - 1 ≤ 0).map Prod.fst

/-- The others have one frame less. -/
def aged (ttl : OrderedMap Ident ℤ) : OrderedMap Ident ℤ :=
  ttl.filterMap fun left ↦ if left - 1 ≤ 0 then none else some (left - 1)

/-- The ghosts of the removed pairs, out of the frame that still had them. -/
def ghostsOf (previous : Snapshot) (removed : List Ident) (opt : RenderOptions) : List GhostPair :=
  previous.topics.flatMap fun t ↦
    (t.pairs.filter fun p ↦ identOf (pairKey t p) ∈ removed).map fun p ↦ ghostPair previous t p opt

def holdMarks (marks : OrderedMap Ident Char) (ttl : OrderedMap Ident ℤ) (changes : Changes) :
    OrderedMap Ident Char × OrderedMap Ident ℤ :=
  let marks := (expired ttl).foldl .erase marks
  let ttl := aged ttl
  let marks := changes.added.foldl (fun marks k ↦ marks.set (identOf k) '+') marks
  let ttl := changes.added.foldl (fun ttl k ↦ ttl.set (identOf k) kHoldFrames) ttl
  let marks := changes.changed.foldl (fun marks c ↦ marks.set (identOf c.key) '~') marks
  let ttl := changes.changed.foldl (fun ttl c ↦ ttl.set (identOf c.key) kHoldFrames) ttl
  (marks, ttl)

def holdGhosts (ghosts : List GhostPair) (ttl : OrderedMap Ident ℤ) (changes : Changes)
    (previous : Snapshot) (opt : RenderOptions) : List GhostPair × OrderedMap Ident ℤ :=
  let ghosts := (expired ttl).foldl dropGhost ghosts
  let ttl := aged ttl
  let removed := changes.removed.map identOf
  -- a pair that came back is no ghost any more
  let ghosts := removed.foldl dropGhost ghosts
  let gone := ghostsOf previous removed opt
  let ghosts := ghosts ++ gone
  let ttl := gone.foldl (fun ttl g ↦ ttl.set (identOf g.key) kHoldFrames) ttl
  let ghosts := changes.added.foldl (fun ghosts k ↦ dropGhost ghosts (identOf k)) ghosts
  let ttl := changes.added.foldl (fun ttl k ↦ ttl.erase (identOf k)) ttl
  (ghosts, ttl)

/-- The changes of the frame, which has none of its own before, and the new highlights. -/
def diff (state : WatchState) (snap : Snapshot) (opt : RenderOptions) : WatchState × Changes :=
  let current := pairStates snap
  let changes := if state.havePrevious then Diff.diff state.lastRendered current else {}
  let marks := holdMarks state.deco.marks state.markTtl changes
  let ghosts := holdGhosts state.deco.ghosts state.ghostTtl changes state.lastSnapshot opt
  ({ state with
      current := current
      markTtl := marks.2
      ghostTtl := ghosts.2
      deco := {
        marks := marks.1
        ghosts := ghosts.1
        summary := if state.havePrevious then changesSummary changes else "first frame" } },
    changes)

def keep (state : WatchState) (snap : Snapshot) : WatchState :=
  { state with
    lastRendered := state.current
    current := .empty
    lastSnapshot := snap
    havePrevious := true }

/-! ## Runs -/

/-- What one turn of the loop collects, and the options it is rendered with. -/
structure Frame where
  snap : Snapshot
  opt : RenderOptions

variable (frames : ℕ → Frame)

/-- The state before frame `n`. -/
def stateAt : ℕ → WatchState
  | 0 => {}
  | n + 1 => keep (diff (stateAt n) (frames n).snap (frames n).opt).1 (frames n).snap

/-- The state that frame `n` is rendered with. -/
def renderedAt (n : ℕ) : WatchState := (diff (stateAt frames n) (frames n).snap (frames n).opt).1

/-- The changes object of frame `n`. -/
def changesAt (n : ℕ) : Changes := (diff (stateAt frames n) (frames n).snap (frames n).opt).2

end Watch

end TransportViz
