import TransportViz.Library.SlotArray
import TransportViz.Web.DiffDocuments

/-!
# Recordings in the viewer

A recording keeps a few numbers per pair and frame, never the documents: `addFrame` writes one slot of
every series whose pair is in the document, `dropFrames` shifts the series down in place. `none` is a
document that `forEachIdent` cannot read.
-/

namespace TransportViz.Replay

open Script Web

/-- A single-precision number: finite or an infinity. -/
abbrev Single := WithBot (WithTop ℚ)

/-- `Math.fround` on finite numbers. -/
class Fround where
  fround : ℚ → Single

def TRANSPORTS : List String := ["UDPv4", "UDPv6", "TCPv4", "TCPv6", "SHM", "DATA_SHARING", "NONE"]

/-! ## Reading a document -/

/-- A pair of a document with its key and its identity. -/
structure IdentPair where
  pair : Value
  real : PairKey
  ident : PairKey

def identPair (topic : Value) (byNode : InsertionMap String (List String)) (key : KeyMode)
    (pair : Value) : Option IdentPair := do
  let real ← pairKey topic pair
  return { pair := pair, real := real, ident := ← identOf byNode key real }

def topicIdents (key : KeyMode) (topic : Value) : Option (List IdentPair) := do
  let byNode ← byNode topic key
  (← (← topic.get "pairs").spread).mapM (identPair topic byNode key)

/-- The pairs of a document in the order the callback sees them. -/
def forEachIdent (doc : Value) (key : KeyMode) : Option (List IdentPair) := do
  return (← (← (← doc.get "topics").spread).mapM (topicIdents key)).flatten

/-- Codes of the strip: 0 is an unknown transport, and a pair that is not in the frame. -/
def transportCode (t : Value) : ℕ :=
  match TRANSPORTS.findIdx? fun name ↦ (Value.string name).strictEq t with
  | some index => index + 1
  | none => 0

/-- FNV-1a over the UTF-16 code units. -/
def hash32 (s : String) : UInt32 :=
  (CodeUnits.units s).foldl (fun h unit ↦ (h ^^^ UInt32.ofNat unit) * 0x01000193) 0x811c9dc5

/-- `none` is NaN. -/
def num : Value → Option ℚ
  | .number x => some x
  | _ => none

/-- Whether `v.length` is truthy. -/
def lengthTruthy : Value → Bool
  | .array elements => elements ≠ []
  | .string s => s ≠ ""
  | .object members => ((members.lookup "length").getD .undefined).truthy
  | _ => false

def listsPairs (changes : Value) (name : String) : Option Bool := do
  return lengthTruthy ((← changes.get name).orElse (.array []))

/-- Whether the document's `changes` names a pair. -/
def tellsChanges (doc : Value) : Option Bool := do
  let c ← doc.get "changes"
  if c.truthy then
    return (← listsPairs c "added_pairs") || (← listsPairs c "removed_pairs") ||
      (← listsPairs c "changed_pairs")
  else return false

def observedAt (doc : Value) : Option String := do
  ((← doc.get "observed_at").orElse (.string "")).text

/-- What the callback writes for one pair. Where it writes nothing, `none`, the slot stays as it is. -/
structure Entry where
  id : String
  transport : ℕ
  guids : UInt32
  hz : Option (Option Single) := none
  latency : Option (Option ℚ × Option ℚ) := none
  lost : Option (Option ℚ) := none

variable [Fround]

def latencyOf (latency : Value) : Option (Option (Option ℚ × Option ℚ)) := do
  if latency.truthy then return some (num (← latency.get "mean"), num (← latency.get "samples"))
  else return none

def lostOf (reliability : Value) : Option (Option (Option ℚ)) := do
  if reliability.truthy then return some (num (← reliability.get "lost_packets")) else return none

def entryOf (e : IdentPair) : Option Entry := do
  let entry : Entry :=
    { id := keyId e.ident
      transport := transportCode (← e.pair.get "transport")
      guids := hash32 (keyId e.real) }
  let m ← e.pair.get "measured"
  if m.truthy then
    return { entry with
      hz := some ((num (← m.get "delivered_per_s")).map Fround.fround)
      latency := ← latencyOf (← m.get "latency_s")
      lost := ← lostOf (← m.get "reliability") }
  else return entry

/-! ## The recording -/

/-- One slot per frame. -/
structure Series where
  transport : List ℕ
  guids : List UInt32
  hz : List (Option Single)
  latencyMean : List (Option ℚ)
  latencySamples : List (Option ℚ)
  lost : List (Option ℚ)

structure Recording where
  key : KeyMode
  frames : ℕ := 0
  starts : List ℕ := []
  ends : List ℕ := []
  observedAt : List String := []
  changed : List Bool := []
  series : InsertionMap String Series := .empty
  capacity : ℕ := 16

def createRecording (key : KeyMode) : Recording := { key := key }

/-- Every slot is absent, so a pair gone for good reads absent to the end. -/
def newSeries (n : ℕ) : Series where
  transport := List.replicate n 0
  guids := List.replicate n 0
  hz := List.replicate n none
  latencyMean := List.replicate n none
  latencySamples := List.replicate n none
  lost := List.replicate n none

def growSeries (n : ℕ) (s : Series) : Series where
  transport := SlotArray.grow 0 n s.transport
  guids := SlotArray.grow 0 n s.guids
  hz := SlotArray.grow none n s.hz
  latencyMean := SlotArray.grow none n s.latencyMean
  latencySamples := SlotArray.grow none n s.latencySamples
  lost := SlotArray.grow none n s.lost

def growAll (rec : Recording) (n : ℕ) : Recording :=
  { rec with capacity := n, series := rec.series.mapValues (growSeries n) }

/-- Slot `i` is there. -/
def makeRoom (rec : Recording) (i : ℕ) : Recording :=
  if rec.capacity ≤ i then growAll rec (rec.capacity * 2) else rec

/-- Writes slot `i`. -/
def Series.write (i : ℕ) (s : Series) (e : Entry) : Series where
  transport := s.transport.set i e.transport
  guids := s.guids.set i e.guids
  hz := e.hz.elim s.hz (s.hz.set i)
  latencyMean := e.latency.elim s.latencyMean fun latency ↦ s.latencyMean.set i latency.1
  latencySamples := e.latency.elim s.latencySamples fun latency ↦ s.latencySamples.set i latency.2
  lost := e.lost.elim s.lost (s.lost.set i)

/-- A pair that is seen for the first time gets a series. -/
def notePair (capacity i : ℕ) (series : InsertionMap String Series) (e : Entry) :
    InsertionMap String Series :=
  series.set e.id (((series.get? e.id).getD (newSeries capacity)).write i e)

/-- Append one frame, found at bytes `[start, stop)`. -/
def addFrame (rec : Recording) (doc : Value) (start stop : ℕ) : Option Recording := do
  let i := rec.frames
  let observedAt ← observedAt doc
  let changed ← tellsChanges doc
  let grown := makeRoom
    { rec with
      starts := rec.starts ++ [start]
      ends := rec.ends ++ [stop]
      observedAt := rec.observedAt ++ [observedAt]
      changed := rec.changed ++ [changed] } i
  let entries ← (← forEachIdent doc rec.key).mapM entryOf
  return { grown with
    series := entries.foldl (notePair grown.capacity i) grown.series
    frames := i + 1 }

/-- One column of `old` frames without its first `n`. -/
def dropSlots {α : Type} (absent : α) (n old : ℕ) (slots : List α) : List α :=
  SlotArray.fill absent (old - n) old (SlotArray.copyWithin n old slots)

def dropSeries (n old : ℕ) (s : Series) : Series where
  transport := dropSlots 0 n old s.transport
  guids := dropSlots 0 n old s.guids
  hz := dropSlots none n old s.hz
  latencyMean := dropSlots none n old s.latencyMean
  latencySamples := dropSlots none n old s.latencySamples
  lost := dropSlots none n old s.lost

/-- A series without its oldest `n` frames goes when its pair is in none of the kept ones. -/
def keptSeries (n old : ℕ) (s : Series) : Option Series :=
  let s := dropSeries n old s
  if (s.transport.take (old - n)).any (· ≠ 0) then some s else none

/-- Drop the oldest `n` frames. -/
def dropFrames (rec : Recording) (n : ℤ) : Recording :=
  if min n rec.frames ≤ 0 then rec
  else
    let n := (min n rec.frames).toNat
    { rec with
      starts := rec.starts.drop n
      ends := rec.ends.drop n
      observedAt := rec.observedAt.drop n
      changed := rec.changed.drop n
      series := rec.series.filterMap (keptSeries n rec.frames)
      frames := rec.frames - n }

end TransportViz.Replay
