import TransportViz.Web.DiffDocuments

/-!
# Marks and ghosts in the viewer

In live mode the viewer keeps every mark and ghost for some frames after its change, each with the
frames it has left. `none` is a thrown `TypeError`.
-/

namespace TransportViz.Web

open Script

/-- The `from` member of a changed pair. -/
structure FromObject where
  state : StateObject
  writerGuid : String
  readerGuid : String

structure Mark where
  mark : Char
  before : Option FromObject

/-- A removed pair, with the topic and the pair it was when the before document is at hand. -/
structure Ghost where
  key : PairKey
  id : String
  shown : Option (Value × Value)

def addedMark : Mark := { mark := '+', before := none }

def changedMark (c : ChangedPair) : Mark where
  mark := '~'
  before := some {
    state := c.before
    writerGuid := c.beforeWriterGuid
    readerGuid := c.beforeReaderGuid }

def ghostId (id : String) : String := "ghost|" ++ id

/-- The pairs of a document under their keys, with their topics. -/
def pairsById (doc : Value) : Option (InsertionMap String (Value × Value)) := do
  let topics ← (← doc.get "topics").spread
  let pairs ← topics.mapM fun topic ↦ do
    (← (← topic.get "pairs").spread).mapM fun pair ↦ do
      return (keyId (← pairKey topic pair), topic, pair)
  return .ofList pairs.flatten

def beforePairs (before : Option Value) : Option (InsertionMap String (Value × Value)) :=
  match before with
  | none => some .empty
  | some doc => pairsById doc

def marksOf (changes : ChangesObject) : InsertionMap String Mark :=
  let added := changes.addedPairs.foldl (fun marks k ↦ marks.set (keyId k) addedMark) .empty
  changes.changedPairs.foldl (fun marks c ↦ marks.set (keyId c.key) (changedMark c)) added

/-- Marks and ghosts of a `changes` object. -/
def decorations (changes : Option ChangesObject) (before : Option Value) :
    Option (InsertionMap String Mark × List Ghost) :=
  match changes with
  | none => some (.empty, [])
  | some changes => do
    let pairs ← beforePairs before
    return (marksOf changes, changes.removedPairs.map fun k ↦
      { key := k, id := ghostId (keyId k), shown := pairs.get? (keyId k) })

/-- Something with the frames it has left. -/
structure Held (α : Type) where
  item : α
  ttl : ℕ

structure Hold where
  marks : InsertionMap String (Held Mark) := .empty
  ghosts : InsertionMap String (Held Ghost) := .empty

/-- What the next frame still shows. -/
def agedHold {α : Type} (map : InsertionMap String (Held α)) : InsertionMap String (Held α) :=
  map.filterMap fun held ↦ if held.ttl > 1 then some { held with ttl := held.ttl - 1 } else none

def Hold.mark (hold : ℕ) (state : Hold) (id : String) (m : Mark) : Hold where
  marks := state.marks.set id { item := m, ttl := hold }
  ghosts := state.ghosts.erase (ghostId id)

def Hold.ghost (hold : ℕ) (state : Hold) (g : Ghost) : Hold where
  marks := state.marks.erase (keyId g.key)
  ghosts := state.ghosts.set g.id { item := g, ttl := hold }

/-- The new marks and ghosts over those that are left. -/
def holdChanges (prev : Option Hold) (changes : Option ChangesObject) (before : Option Value)
    (hold : ℕ) : Option Hold := do
  let left : Hold :=
    match prev with
    | none => {}
    | some prev => { marks := agedHold prev.marks, ghosts := agedHold prev.ghosts }
  let now ← decorations changes before
  let marked := now.1.entries.foldl (fun state e ↦ state.mark hold e.1 e.2) left
  return now.2.foldl (Hold.ghost hold) marked

/-- A hold state in the shape of `decorations`. -/
def heldDecorations (hold : Option Hold) : InsertionMap String (Held Mark) × List (Held Ghost) :=
  match hold with
  | none => (.empty, [])
  | some hold => (hold.marks, hold.ghosts.entries.map Prod.snd)

end TransportViz.Web
