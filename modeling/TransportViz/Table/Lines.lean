import TransportViz.Decision.DisplayRows
import TransportViz.Watch.Decorations

/-!
# The lines of the table

The lines of the rendered table in order, each by what it shows; the texts of the cells and the column
widths are left out. The verbose table has a line for every pair under the row it belongs to, and after
them the ghosts whose topic is the row's name. A ghost whose topic no listed topic is displayed as gets
a line of its own at the end.
-/

namespace TransportViz.Table

open Decision

inductive TableLine
  | header
  | row (r : DisplayRow)
  | pair (t : TopicPtr) (p : PairPtr)
  /-- A dimmed pair line that ends in `(removed)`. -/
  | ghost (g : GhostPair)
  /-- A dimmed topic line that ends in `(removed)`. -/
  | orphan (g : GhostPair)
  deriving DecidableEq

namespace TableLine

/-- The ghost of a `(removed)` line. -/
def removed? : TableLine → Option GhostPair
  | ghost g => some g
  | orphan g => some g
  | _ => none

end TableLine

/-- Whether a listed topic is displayed under the name. -/
def isDisplayed (topics : List TopicSummary) (name : String) : Bool :=
  topics.any fun t ↦ t.displayTopic = name

/-- The ghosts whose topic disappeared entirely. -/
def orphanGhosts (topics : List TopicSummary) (watch : Option WatchDecorations) : List GhostPair :=
  match watch with
  | none => []
  | some deco => deco.ghosts.filter fun g ↦ !isDisplayed topics g.key.topic

def ghostRowsFor (watch : Option WatchDecorations) (topic : String) : List GhostPair :=
  match watch with
  | none => []
  | some deco => deco.ghosts.filter fun g ↦ g.key.topic = topic

def pairLines (r : DisplayRow) : List TableLine :=
  match r.topic with
  | some t => (pairPointers t.toTopicSummary).map (.pair t)
  | none => (r.toServer ++ r.toClient).map fun m ↦ .pair m.1 m.2

/-- A row with what the verbose table puts under it. -/
def verboseRow (watch : Option WatchDecorations) (r : DisplayRow) : List TableLine :=
  .row r :: (pairLines r ++ (ghostRowsFor watch r.name).map .ghost)

def renderTable (topics : List TopicSummary) (verbose : Bool) (watch : Option WatchDecorations) :
    List TableLine :=
  .header :: ((displayRows topics).flatMap (if verbose then verboseRow watch else fun r ↦ [.row r]) ++
    (orphanGhosts topics watch).map .orphan)

end TransportViz.Table
