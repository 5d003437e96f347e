import TransportViz.Diff.Snapshots
import TransportViz.Web.Document

/-!
# Marks and ghosts

What the table shows of a comparison: a mark for every pair that appeared or changed, a ghost for every
pair that is gone, labelled as the last frame that had it would label it.
-/

namespace TransportViz

structure GhostPair where
  key : PairKey
  type : String
  writerLabel : String
  readerLabel : String
  transportLabel : String
  deriving DecidableEq

structure WatchDecorations where
  /-- `+` added, `~` changed. -/
  marks : OrderedMap Diff.Ident Char := .empty
  ghosts : List GhostPair := []
  summary : String := ""

namespace Watch

open Diff Web

/-- `/node@host(pid)`, with the head of the GUID for an endpoint without a node name. -/
def endpointLabel (snap : Snapshot) (e : Endpoint) (opt : RenderOptions) : String :=
  let who :=
    if e.nodeName = "" then "guid:" ++ String.ofList (e.guid.toList.take 11) ++ ".." else e.nodeName
  who ++ "@" ++ hostLabel snap e opt ++ if e.process ≠ "" then "(" ++ e.process ++ ")" else ""

/-- The ghost of a pair, taken from the frame that still had it. -/
def ghostPair (previous : Snapshot) (t : TopicSummary) (p : Pair) (opt : RenderOptions) :
    GhostPair where
  key := pairKey t p
  type := t.displayType
  writerLabel := endpointLabel previous p.writer.toEndpoint opt
  readerLabel := endpointLabel previous p.reader.toEndpoint opt
  transportLabel :=
    p.verdict.transport.text ++ if p.verdict.confidence = .likely then "?" else ""

/-- `+2 pairs  -1 pair  ~1 changed`, or `none`. -/
def changesSummary (c : Changes) : String :=
  let pairs (sign : String) (keys : List PairKey) : List String :=
    if keys = [] then []
    else [sign ++ toString keys.length ++ if keys.length = 1 then " pair" else " pairs"]
  let changed := if c.changed = [] then [] else ["~" ++ toString c.changed.length ++ " changed"]
  if c.added = [] ∧ c.removed = [] ∧ c.changed = [] then "none"
  else "  ".intercalate (pairs "+" c.added ++ pairs "-" c.removed ++ changed)

/-- Every added and changed pair marked. -/
def marksFor (changes : Changes) : OrderedMap Ident Char :=
  let added := changes.added.foldl (fun marks k ↦ marks.set (identOf k) '+') .empty
  changes.changed.foldl (fun marks c ↦ marks.set (identOf c.key) '~') added

/-- The decorations of one comparison, with a ghost out of `before` for every removed pair. -/
def decorationsFor (changes : Changes) (before : Snapshot) (opt : RenderOptions) :
    WatchDecorations where
  marks := marksFor changes
  ghosts := changes.removed.flatMap fun k ↦ before.topics.flatMap fun t ↦
    (t.pairs.filter fun p ↦ identOf (pairKey t p) = identOf k).map fun p ↦ ghostPair before t p opt
  summary := changesSummary changes

end Watch

end TransportViz
