import Mathlib.Data.Finset.Lattice.Lemmas
import Mathlib.Data.List.Sort
import TransportViz.Library.CodeUnits
import TransportViz.Library.InsertionMap
import TransportViz.Library.KeyedDiff
import TransportViz.Web.Document

/-!
# Comparing two documents in the viewer

The viewer's port of the comparison of two snapshots. It reads documents, not snapshots: a locator is
null or an object, a key is one text joined by bars, and the pairs are an array that is sorted by
UTF-16 code units. `none` is a thrown `TypeError`, or a document in which something other than a text
stands where a key or a node name is expected.
-/

namespace TransportViz.Web

open Script

/-- Identity of a pair as the `changes` object names it. -/
def pairKey (topic pair : Value) : Option PairKey := do
  return {
    topic := ← (← topic.get "topic").text
    writerGuid := ← (← pair.get "writer_guid").text
    readerGuid := ← (← pair.get "reader_guid").text
    writerNode := ← ((← pair.get "writer_node").orElse (.string "")).text
    readerNode := ← ((← pair.get "reader_node").orElse (.string "")).text }

/-- String form of a key, for Maps. -/
def keyId (k : PairKey) : String := k.topic ++ "|" ++ k.writerGuid ++ "|" ++ k.readerGuid

def locatorId (l : Value) : Option LocatorObject := do
  return { kind := ← l.get "kind", address := ← l.get "address", port := ← l.get "port" }

/-- `l ? locatorId(l) : null`. -/
def selectedLocator (l : Value) : Option (Option LocatorObject) :=
  if l.truthy then (locatorId l).map some else some none

/-- The part of a pair whose change is worth highlighting. -/
def pairState (pair : Value) : Option StateObject := do
  let m := (← pair.get "measured").orElse (.object [])
  return {
    transport := ← pair.get "transport"
    confidence := ← pair.get "confidence"
    measured := ← ((← m.get "transports").orElse (.array [])).spread
    locator := ← selectedLocator (← pair.get "locator")
    measuredLocators := ←
      (← ((← m.get "locators").orElse (.array [])).elements).mapM locatorId
    warnings := ← ((← pair.get "warnings").orElse (.array [])).spread }

def sameLocatorId (a b : LocatorObject) (ignorePorts : Bool) : Bool :=
  a.kind.strictEq b.kind && a.address.strictEq b.address &&
    (ignorePorts || a.port.strictEq b.port)

def sameLocator (a b : Option LocatorObject) (ignorePorts : Bool) : Bool :=
  match a, b with
  | none, none => true
  | some a, some b => sameLocatorId a b ignorePorts
  | _, _ => false

/-- `a.length === b.length && a.every((x, i) => same(x, b[i]))`. -/
def sameElements {α : Type} (same : α → α → Bool) (a b : List α) : Bool :=
  a.length = b.length && (a.zip b).all fun x ↦ same x.1 x.2

/-- The node key ignores the port numbers a restart renumbers. -/
def sameState (a b : StateObject) (ignorePorts : Bool) : Bool :=
  a.transport.strictEq b.transport && a.confidence.strictEq b.confidence &&
    sameElements Value.strictEq a.measured b.measured &&
    sameLocator a.locator b.locator ignorePorts &&
    sameElements (sameLocatorId · · ignorePorts) a.measuredLocators b.measuredLocators &&
    sameElements Value.strictEq a.warnings b.warnings

def byteOrder (a b : String) : Ordering :=
  if CodeUnits.units a < CodeUnits.units b then .lt
  else if CodeUnits.units b < CodeUnits.units a then .gt
  else .eq

def compareKeys (a b : PairKey) : Ordering :=
  (byteOrder a.topic b.topic).then
    ((byteOrder a.writerGuid b.writerGuid).then (byteOrder a.readerGuid b.readerGuid))

structure KeyedPair where
  ident : PairKey
  key : PairKey
  state : StateObject

/-- The GUID of an endpoint with a node name is pushed to that node's. -/
def noteGuid (byNode : InsertionMap String (List String)) (ep : Value) :
    Option (InsertionMap String (List String)) := do
  let node ← ep.get "node"
  if node.truthy then
    let node ← node.text
    let guid ← (← ep.get "guid").text
    return byNode.set node ((byNode.get? node).getD [] ++ [guid])
  else return byNode

def sortGuids (guids : List String) : List String :=
  guids.insertionSort fun a b ↦ byteOrder a b ≠ .gt

def byNode (topic : Value) (key : KeyMode) : Option (InsertionMap String (List String)) :=
  match key with
  | .guid => some .empty
  | .node => do
    let writers ← (← topic.get "writers").spread
    let readers ← (← topic.get "readers").spread
    return (← (writers ++ readers).foldlM noteGuid .empty).mapValues sortGuids

/-- `<node>#<n>`, or `guid:<guid>` without a node name; `indexOf` is -1 for a GUID not listed. -/
def identity (byNode : InsertionMap String (List String)) (guid node : String) : Option String :=
  if node ≠ "" then do
    let guids ← byNode.get? node
    return node ++ "#" ++ ((guids.idxOf? guid).map toString).getD "-1"
  else some ("guid:" ++ guid)

def identOf (byNode : InsertionMap String (List String)) (key : KeyMode) (real : PairKey) :
    Option PairKey :=
  match key with
  | .guid => some real
  | .node => do
    return {
      topic := real.topic
      writerGuid := ← identity byNode real.writerGuid real.writerNode
      readerGuid := ← identity byNode real.readerGuid real.readerNode }

def keyedPair (topic : Value) (byNode : InsertionMap String (List String)) (key : KeyMode)
    (pair : Value) : Option KeyedPair := do
  let real ← pairKey topic pair
  return { ident := ← identOf byNode key real, key := real, state := ← pairState pair }

def topicPairs (key : KeyMode) (topic : Value) : Option (List KeyedPair) := do
  let byNode ← byNode topic key
  (← (← topic.get "pairs").spread).mapM (keyedPair topic byNode key)

/-- The pairs of a document keyed for comparison, sorted. -/
def keyedPairs (doc : Value) (key : KeyMode) : Option (List KeyedPair) := do
  let out ← (← (← doc.get "topics").spread).mapM (topicPairs key)
  return out.flatten.insertionSort fun a b ↦ compareKeys a.ident b.ident ≠ .gt

/-- The loop over the pairs of the second document. -/
structure DiffRun where
  added : List PairKey := []
  changed : List ChangedPair := []
  seen : Finset String := ∅

def DiffRun.note (prev : InsertionMap String KeyedPair) (key : KeyMode) (run : DiffRun)
    (e : KeyedPair) : DiffRun :=
  let id := keyId e.ident
  let run := { run with seen := insert id run.seen }
  match prev.get? id with
  | none => { run with added := run.added ++ [e.key] }
  | some p =>
    if sameState p.state e.state (key = .node) then run
    else
      { run with
        changed := run.changed ++ [{
          key := e.key
          before := p.state
          beforeWriterGuid := p.key.writerGuid
          beforeReaderGuid := p.key.readerGuid
          after := e.state }] }

def diffDocuments (before after : Value) (key : KeyMode) : Option ChangesObject := do
  let prev := InsertionMap.ofList ((← keyedPairs before key).map fun e ↦ (keyId e.ident, e))
  let cur ← keyedPairs after key
  let run := cur.foldl (DiffRun.note prev key) {}
  return {
    key := key.text
    before := (← before.get "observed_at", ← before.get "domain")
    addedPairs := run.added
    removedPairs := (prev.entries.filter fun e ↦ e.1 ∉ run.seen).map fun e ↦ e.2.key
    changedPairs := run.changed }

/-! ## The loop -/

section Loop

variable (prev : InsertionMap String KeyedPair) (key : KeyMode)

/-- What the loop leaves behind, in one reading. -/
theorem foldl_note (cur : List KeyedPair) (run : DiffRun) :
    cur.foldl (DiffRun.note prev key) run =
      { added := run.added ++
          (cur.filter fun e ↦ (prev.get? (keyId e.ident)).isNone).map KeyedPair.key
        changed := run.changed ++ cur.filterMap fun e ↦
          (prev.get? (keyId e.ident)).bind fun p ↦
            if sameState p.state e.state (key = .node) then none
            else some ⟨e.key, p.state, p.key.writerGuid, p.key.readerGuid, e.state⟩
        seen := run.seen ∪ (cur.map fun e ↦ keyId e.ident).toFinset } := by
  induction cur generalizing run with
  | nil => simp
  | cons e rest ih =>
    have hseen : insert (keyId e.ident) run.seen ∪ (rest.map fun e ↦ keyId e.ident).toFinset =
        run.seen ∪ ((e :: rest).map fun e ↦ keyId e.ident).toFinset := by
      rw [List.map_cons, List.toFinset_cons, Finset.insert_union, Finset.union_insert]
    rw [List.foldl_cons, ih, DiffRun.note]
    cases hprev : prev.get? (keyId e.ident) with
    | none => simp [hprev, hseen]
    | some p =>
      by_cases hsame : sameState p.state e.state (key = .node) = true
      · simp [hprev, hsame, hseen]
      · simp [hprev, hsame, hseen]

/-- A keyed pair as an entry under the text of its identity. -/
def entryOf (e : KeyedPair) : String × PairKey × StateObject := (keyId e.ident, e.key, e.state)

def changedOf (e : String × (PairKey × StateObject) × PairKey × StateObject) : ChangedPair where
  key := e.2.2.1
  before := e.2.1.2
  beforeWriterGuid := e.2.1.1.writerGuid
  beforeReaderGuid := e.2.1.1.readerGuid
  after := e.2.2.2

/-- What the viewer reports of a comparison of keyed states. -/
def reportObject (before : Value × Value) (d : KeyedDiff String (PairKey × StateObject)) :
    ChangesObject where
  key := key.text
  before := before
  addedPairs := d.added.map fun e ↦ e.2.1
  removedPairs := d.removed.map fun e ↦ e.2.1
  changedPairs := d.changed.map changedOf

omit prev in
theorem lookup_entryOf (pairs : List KeyedPair) (text : String) :
    (pairs.map entryOf).lookup text =
      ((pairs.map fun e ↦ (keyId e.ident, e)).lookup text).map fun e ↦ (e.key, e.state) := by
  rw [← KeyedDiff.lookup_map (fun text ↦ text) (fun e : KeyedPair ↦ (e.key, e.state))
    fun _ _ heq ↦ heq, List.map_map]
  rfl

section Report

variable {prev key} {prevs : List KeyedPair}
  (hprev : prev.entries = prevs.map fun e ↦ (keyId e.ident, e)) (cur : List KeyedPair)

include hprev

theorem get?_eq_lookup (text : String) :
    (prevs.map entryOf).lookup text = (prev.get? text).map fun e ↦ (e.key, e.state) := by
  rw [lookup_entryOf, InsertionMap.get?, hprev]

theorem added_eq :
    (cur.filter fun e ↦ (prev.get? (keyId e.ident)).isNone).map KeyedPair.key =
      (KeyedDiff.newEntries (prevs.map entryOf) (cur.map entryOf)).map fun e ↦ e.2.1 := by
  simp only [KeyedDiff.newEntries, get?_eq_lookup hprev, Option.isNone_map, List.filter_map,
    List.map_map]
  rfl

theorem removed_eq :
    (prev.entries.filter fun e ↦ e.1 ∉ (cur.map fun e ↦ keyId e.ident).toFinset).map
        (fun e ↦ e.2.key) =
      (KeyedDiff.newEntries (cur.map entryOf) (prevs.map entryOf)).map fun e ↦ e.2.1 := by
  rw [hprev, KeyedDiff.newEntries, List.filter_map, List.filter_map, List.map_map, List.map_map]
  refine congrArg _ (List.filter_congr fun e _ ↦ ?_)
  rw [Bool.eq_iff_iff]
  simp only [Function.comp_apply, KeyedDiff.isNone_lookup_iff, List.map_map, List.mem_toFinset,
    decide_eq_true_eq]
  rfl

theorem changed_eq :
    (cur.filterMap fun e ↦ (prev.get? (keyId e.ident)).bind fun p ↦
        if sameState p.state e.state (key = .node) then none
        else some ⟨e.key, p.state, p.key.writerGuid, p.key.readerGuid, e.state⟩) =
      ((cur.map entryOf).filterMap (KeyedDiff.changedEntry
        (fun a b ↦ sameState a.2 b.2 (key = .node)) (prevs.map entryOf))).map changedOf := by
  rw [List.filterMap_map, List.map_filterMap]
  refine List.filterMap_congr fun e _ ↦ ?_
  simp only [Function.comp_apply, KeyedDiff.changedEntry, entryOf, get?_eq_lookup hprev]
  cases prev.get? (keyId e.ident) with
  | none => rfl
  | some p =>
    by_cases hsame : sameState p.state e.state (key = .node) = true
    · simp [hsame]
    · simp [hsame, changedOf]

end Report

variable {key} in
/-- Without two pairs of one identity before, the loop compares keyed states. -/
theorem diffDocuments_eq {before after observedAt domain : Value} {prevs cur : List KeyedPair}
    (hprevs : keyedPairs before key = some prevs) (hcur : keyedPairs after key = some cur)
    (hobserved : before.get "observed_at" = some observedAt)
    (hdomain : before.get "domain" = some domain)
    (hnodup : (prevs.map fun e ↦ keyId e.ident).Nodup) :
    diffDocuments before after key = some (reportObject key (observedAt, domain)
      (KeyedDiff.diff (fun a b ↦ sameState a.2 b.2 (key = .node)) (prevs.map entryOf)
        (cur.map entryOf))) := by
  have hentries := InsertionMap.entries_ofList (prevs.map fun e ↦ (keyId e.ident, e))
    (by rwa [List.map_map])
  simp only [diffDocuments, hprevs, hcur, hobserved, hdomain, foldl_note, Option.bind_eq_bind,
    Option.bind_some, Option.pure_def, List.nil_append, Finset.empty_union, reportObject,
    KeyedDiff.diff, added_eq hentries, removed_eq hentries, changed_eq hentries]

end Loop

end TransportViz.Web
