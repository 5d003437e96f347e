import Mathlib.Algebra.Order.Ring.Rat
import Mathlib.Data.List.Basic

/-!
# The live stream

`serve.py` numbers the documents of its producer and sends the newest one to every client that
listens, each from a thread of its own, and the viewer tells from the numbers what it missed. The
producer, the threads and the viewer take their steps in any order, and a server may be started again
on the same port.
-/

namespace TransportViz.Live

variable {Doc : Type}

/-- Latest document plus what the subscribers wait for. -/
structure Stream (Doc : Type) where
  latest : Option Doc := none
  seq : ℕ := 0
  ended : Option String := none

namespace Stream

def push (s : Stream Doc) (doc : Doc) : Stream Doc :=
  { s with latest := some doc, seq := s.seq + 1 }

def «end» (s : Stream Doc) (message : String) : Stream Doc := { s with ended := some message }

/-- What a subscriber that saw the document `seenSeq` waits for. -/
def ready (s : Stream Doc) (seenSeq : ℕ) : Bool := s.seq ≠ seenSeq || s.ended.isSome

end Stream

/-- What is written to a client. -/
inductive Sse (Doc : Type) where
  | keepAlive
  | document (id : ℕ) (doc : Doc)
  | status (message : String)

/-- Where the loop of `serve_events` stands: in `wait`, with what `wait` returned, past the document
with the end that `wait` returned, or returned itself. -/
inductive Phase (Doc : Type) where
  | waiting
  | woken (seq : ℕ) (latest : Option Doc) (ended : Option String)
  | answered (ended : Option String)
  | gone

/-- A thread in `serve_events`, and what it has written to its client. -/
structure Connection (Doc : Type) where
  seen : ℕ := 0
  phase : Phase Doc := .waiting
  written : List (Sse Doc) := []

namespace Connection

/-- `wait` returns once the stream is ready or the time is up, and reads it under the lock. -/
def wake (s : Stream Doc) (timedOut : Bool) (c : Connection Doc) : Connection Doc :=
  match c.phase with
  | .waiting =>
    if s.ready c.seen || timedOut then { c with phase := .woken s.seq s.latest s.ended } else c
  | _ => c

/-- What the thread writes next. -/
def output (c : Connection Doc) : List (Sse Doc) :=
  match c.phase with
  | .woken seq latest ended =>
    match if seq ≠ c.seen then latest else none with
    | some doc => [.document seq doc]
    | none => if ended.isNone then [.keepAlive] else []
  | .answered (some message) => [.status message]
  | _ => []

/-- The thread writes and goes on to its next write or to `wait`. -/
def proceed (c : Connection Doc) : Connection Doc :=
  match c.phase with
  | .woken seq latest ended =>
    { seen := if seq ≠ c.seen ∧ latest.isSome then seq else c.seen
      phase := .answered ended
      written := c.written ++ c.output }
  | .answered none => { c with phase := .waiting }
  | .answered (some _) => { c with phase := .gone, written := c.written ++ c.output }
  | _ => c

/-- The client went away and a write fails. -/
def lose (c : Connection Doc) : Connection Doc := { c with phase := .gone }

end Connection

/-- The ids of a live stream; `none` is the `NaN` before the first one. -/
structure StreamIds where
  last : Option ℚ := none
  skipped : ℚ := 0
  restarts : ℕ := 0

inductive Kind where
  | new
  | duplicate
  | restart
  deriving DecidableEq

/-- What a document event is; an id that is not a finite number is `none`. -/
def trackId (t : StreamIds) (id : Option ℚ) : Kind × StreamIds :=
  match id with
  | none => (.new, t)
  | some id =>
    match t.last with
    | none => (.new, { t with last := some id })
    | some last =>
      if id = last then (.duplicate, t)
      else if id < last then (.restart, { t with last := some id, restarts := t.restarts + 1 })
      else (.new, { t with skipped := t.skipped + (id - last - 1), last := some id })

/-- A document event in the viewer: the run of the server it is from, and what `trackId` called it. -/
structure Receipt (Doc : Type) where
  run : ℕ
  id : ℕ
  doc : Doc
  kind : Kind

/-- The viewer: its connection, as long as that server runs, what was written to it and is not read
yet, and the document events so far. -/
structure Viewer (Doc : Type) where
  connection : Option ℕ := none
  run : ℕ := 0
  unread : List (Sse Doc) := []
  ids : StreamIds := {}
  received : List (Receipt Doc) := []

namespace Viewer

/-- The handler of the next event. A comment line is none, and a status names no document. -/
def read (v : Viewer Doc) : Viewer Doc :=
  match v.unread with
  | [] => v
  | .document id doc :: rest =>
    { v with
      unread := rest
      ids := (trackId v.ids (some id)).2
      received := v.received ++ [⟨v.run, id, doc, (trackId v.ids (some id)).1⟩] }
  | _ :: rest => { v with unread := rest }

end Viewer

/-- The server of the present run with the documents pushed so far, and the viewer. -/
structure World (Doc : Type) where
  run : ℕ := 0
  stream : Stream Doc := {}
  pushed : List Doc := []
  connections : List (Connection Doc) := []
  viewer : Viewer Doc := {}

/-- What happens while one server runs. `connect` is another client; a viewer that lost its
connection reads nothing until it reconnects. -/
inductive Step (Doc : Type) where
  | push (doc : Doc)
  | «end» (message : String)
  | connect
  | wake (i : ℕ) (timedOut : Bool)
  | proceed (i : ℕ)
  | lose (i : ℕ)
  | reconnect
  | read

namespace World

/-- The producer pushes a document, and none once it has stopped. -/
def push (w : World Doc) (doc : Doc) : World Doc :=
  if w.stream.ended.isSome then w
  else { w with stream := w.stream.push doc, pushed := w.pushed ++ [doc] }

/-- The `i`-th thread goes on. -/
def proceed (w : World Doc) (i : ℕ) : World Doc :=
  { w with
    connections := w.connections.modify i Connection.proceed
    viewer :=
      if w.viewer.connection = some i then
        { w.viewer with
          unread := w.viewer.unread ++ ((w.connections[i]?).map Connection.output).getD [] }
      else w.viewer }

/-- The viewer opens a connection; what it had not read of the one before is lost. -/
def reconnect (w : World Doc) : World Doc :=
  { w with
    connections := w.connections ++ [{}]
    viewer :=
      { w.viewer with connection := some w.connections.length, run := w.run, unread := [] } }

def perform (w : World Doc) : Step Doc → World Doc
  | .push doc => w.push doc
  | .end message => if w.stream.ended.isSome then w else { w with stream := w.stream.end message }
  | .connect => { w with connections := w.connections ++ [{}] }
  | .wake i timedOut =>
    { w with connections := w.connections.modify i (Connection.wake w.stream timedOut) }
  | .proceed i => w.proceed i
  | .lose i => { w with connections := w.connections.modify i Connection.lose }
  | .reconnect => w.reconnect
  | .read => { w with viewer := w.viewer.read }

/-- The server goes down with its threads, and another one takes its place. -/
def restart (w : World Doc) : World Doc :=
  { run := w.run + 1, viewer := { w.viewer with connection := none } }

end World

/-- One server. -/
def served (steps : List (Step Doc)) : World Doc := steps.foldl World.perform {}

/-- One server after the other. -/
def servedRuns (runs : List (List (Step Doc))) : World Doc :=
  runs.foldl (fun w steps ↦ steps.foldl World.perform w.restart) {}

end TransportViz.Live
