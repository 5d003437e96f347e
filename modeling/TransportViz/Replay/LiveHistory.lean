import TransportViz.Replay.Bounded

/-!
# The live history

With a history the viewer keeps the text of every document it receives, and a recording of them that the
timeline shows. A change of the key reads the kept texts again, one at a time and while documents go on
arriving, and another load ends the history until the next document. What is on screen is kept apart:
it is shown from the history and never changes it.
-/

namespace TransportViz.Replay

open Web

/-! ## The bound -/

/-- A tenth of the frames, at least one, and never the newest. -/
def dropStep (length n : ℕ) : ℕ := min (length - 1 - n) (max 1 ((length - n + 9) / 10))

/-- The loop of `dropCount`: `bytes` are those of the frames from `n` on. -/
def dropLoop (sizes : List ℚ) (limit bytes : ℚ) (n : ℕ) : ℕ :=
  if limit < bytes ∧ n < sizes.length - 1 then
    let step := dropStep sizes.length n
    dropLoop sizes limit (bytes - ((sizes.drop n).take step).sum) (n + step)
  else n
termination_by sizes.length - n
decreasing_by simp only [dropStep]; omega

/-- How many of the oldest frames to drop so that the kept bytes fit `limit`. -/
def dropCount (sizes : List ℚ) (limit : ℚ) : ℕ := dropLoop sizes limit sizes.sum 0

structure Shifted where
  index : ℤ
  dropped : Bool

/-- A frame index after the oldest `n` frames were dropped. -/
def shiftIndex (i n : ℤ) : Shifted := if i < n then ⟨0, true⟩ else ⟨i - n, false⟩

/-! ## The screen -/

/-- A text that is read to be shown: of frame `i`, or of the newest frame. -/
inductive Read where
  | frame (showToken : ℕ) (i : ℤ)
  | newest (showToken : ℕ)

structure Screen where
  following : Bool := true
  shownDropped : Bool := false
  index : ℤ := 0
  shown : ℤ := -1
  showToken : ℕ := 0
  reads : List Read := []

namespace Screen

/-- The newest request wins. -/
def showFrame (s : Screen) (frames : ℕ) (i : ℤ) : Screen :=
  if i < 0 ∨ frames ≤ i then s
  else if i = s.shown then { s with index := i }
  else
    { s with
      index := i
      showToken := s.showToken + 1
      reads := s.reads ++ [.frame (s.showToken + 1) i] }

def showNewest (s : Screen) (frames : ℕ) : Screen :=
  { s with showToken := s.showToken + 1, index := frames - 1, shown := frames - 1 }

def pauseLive (s : Screen) : Screen := { s with following := false, shownDropped := false }

/-- The frames move down, and a dropped frame on screen to the oldest kept one of `frames`. -/
def trim (s : Screen) (n frames : ℕ) : Screen :=
  let want := shiftIndex s.index n
  let shown := if 0 ≤ s.shown then shiftIndex s.shown n else ⟨0, true⟩
  let moved : Screen :=
    { s with
      showToken := s.showToken + 1
      index := want.index
      shown := if shown.dropped then -1 else shown.index
      shownDropped := s.shownDropped || (!s.following && want.dropped) }
  if s.following ∨ moved.shown = moved.index then moved else moved.showFrame frames moved.index

end Screen

/-! ## The history -/

/-- The text of a received document: what it parses to, and its bytes. -/
structure Blob where
  doc : Document Set.univ
  size : ℕ

/-- A call of `rescanLive` that awaits the text of `blob`. -/
structure Scan where
  token : ℕ
  recording : Recording
  j : ℕ
  blob : Blob

/-- The page: `state.key`, what `live` and `replay` hold, the scans and the loads that await a text, and
the blobs that `trimHistory` dropped. -/
structure Page where
  key : KeyMode
  limit : ℚ
  blobs : List Blob := []
  bytes : ℚ := 0
  trimmed : Bool := false
  scanning : Bool := false
  live : Bool := false
  recording : Option Recording := none
  token : ℕ := 0
  scans : List Scan := []
  loads : List ℕ := []
  screen : Screen := {}
  dropped : List Blob := []

def sizes (blobs : List Blob) : List ℚ := blobs.map fun b ↦ (b.size : ℚ)

namespace Page

def frames (p : Page) : ℕ := (p.recording.map Recording.frames).getD 0

/-- Leave replay mode. -/
def stopReplay (p : Page) : Page :=
  { p with
    token := p.token + 1
    live := false
    recording := none
    scanning := false
    screen := { p.screen with showToken := p.screen.showToken + 1, shown := -1, index := 0 } }

def dropOldest (p : Page) (n : ℕ) : Page :=
  let recording := p.recording.map (dropFrames · n)
  { p with
    recording := recording
    blobs := p.blobs.drop n
    bytes := p.bytes - (sizes (p.blobs.take n)).sum
    trimmed := true
    screen := p.screen.trim n ((recording.map Recording.frames).getD 0)
    dropped := p.dropped ++ p.blobs.take n }

/-- Drop the oldest frames over the bound. -/
def trimHistory (p : Page) : Page :=
  if p.bytes ≤ p.limit ∨ dropCount (sizes p.blobs) p.limit = 0 then p
  else p.dropOldest (dropCount (sizes p.blobs) p.limit)

/-- Back to the newest frame. A scan shows it when it ends. -/
def resumeLive (p : Page) : Page :=
  let screen := { p.screen with following := true, shownDropped := false }
  if !p.live || p.scanning || p.frames = 0 then { p with screen := screen }
  else
    { p with
      screen := { screen with
        showToken := screen.showToken + 1
        reads := screen.reads ++ [.newest (screen.showToken + 1)] } }

/-- Every kept frame was read. -/
def endScan (p : Page) (rec : Recording) : Page :=
  let p := trimHistory { p with scanning := false, recording := some rec }
  if p.screen.following then resumeLive p
  else
    let index := min p.screen.index (p.frames - 1)
    { p with screen := { p.screen with index := index, shown := -1 }.showFrame p.frames index }

/-- The loop of `rescanLive` at `j`. -/
def scanFrom (p : Page) (token : ℕ) (rec : Recording) (j : ℕ) : Page :=
  match p.blobs[j]? with
  | some blob => { p with scans := p.scans ++ [⟨token, rec, j, blob⟩] }
  | none => p.endScan rec

/-- Read every kept frame into a recording keyed by `state.key`. -/
def rescanLive (p : Page) : Page :=
  scanFrom
    { p with
      token := p.token + 1
      scanning := true
      screen := { p.screen with showToken := p.screen.showToken + 1 } }
    (p.token + 1) (createRecording p.key) 0

def startHistory (p : Page) : Page :=
  rescanLive { p.stopReplay with live := true, recording := some (createRecording p.key) }

variable [Fround]

/-- The text that the `k`-th scan awaits is there. A stale scan stops reading. -/
def resumeScan (p : Page) (k : ℕ) : Page :=
  match p.scans[k]? with
  | none => p
  | some scan =>
    let p := { p with scans := p.scans.eraseIdx k }
    if scan.token ≠ p.token then p
    else
      match addFrame scan.recording scan.blob.doc.value 0 scan.blob.size with
      | none => p
      | some rec => p.scanFrom scan.token rec (scan.j + 1)

/-- Keep a received frame. -/
def appendFrame (p : Page) (blob : Blob) : Page :=
  let p := { p with blobs := p.blobs ++ [blob], bytes := p.bytes + blob.size }
  if !p.live then startHistory p
  else if p.scanning then p
  else
    match p.recording.bind fun rec ↦ addFrame rec blob.doc.value 0 blob.size with
    | none => p
    | some rec =>
      let p := trimHistory { p with recording := some rec }
      if p.screen.following then { p with screen := p.screen.showNewest p.frames } else p

/-- Match by, which the timeline offers from two frames on. -/
def matchBy (p : Page) (key : KeyMode) : Page :=
  if p.frames < 2 then p
  else if p.live then rescanLive { p with key := key }
  else
    { p with
      key := key
      token := p.token + 1
      recording := some (createRecording key)
      loads := p.loads ++ [p.token + 1]
      screen := { p.screen with showToken := p.screen.showToken + 1, shown := -1 } }

/-- A move on the timeline. -/
def goTo (p : Page) (i : ℤ) : Page :=
  let screen := if p.live then p.screen.pauseLive else p.screen
  { p with screen := screen.showFrame p.frames i }

/-- A text that was read to be shown is there. -/
def showText (p : Page) (k : ℕ) : Page :=
  match p.screen.reads[k]? with
  | none => p
  | some read =>
    let screen := { p.screen with reads := p.screen.reads.eraseIdx k }
    match read with
    | .frame showToken i =>
      { p with
        screen := if showToken = screen.showToken then { screen with index := i, shown := i }
          else screen }
    | .newest showToken =>
      { p with
        screen := if showToken = screen.showToken then screen.showNewest p.frames else screen }

/-- Another load goes on reading its file, unless something was started since; `frame` is the frame it
shows. -/
def goOnLoading (p : Page) (k : ℕ) (rec : Recording) (frame : Option ℤ) : Page :=
  match p.loads[k]? with
  | none => p
  | some token =>
    if token ≠ p.token then p
    else
      { p with
        recording := some rec
        screen := frame.elim p.screen fun i ↦ { p.screen with index := i, shown := i } }

end Page

/-- The steps of the event loop. `load` is any other load, `diffKey` the key of a comparison. -/
inductive PageStep where
  | appendFrame (blob : Blob)
  | resumeScan (k : ℕ)
  | matchBy (key : KeyMode)
  | diffKey (key : KeyMode)
  | pauseLive
  | resumeLive
  | goTo (i : ℤ)
  | showText (k : ℕ)
  | load
  | goOnLoading (k : ℕ) (rec : Recording) (frame : Option ℤ)

def Page.perform [Fround] (p : Page) : PageStep → Page
  | .appendFrame blob => p.appendFrame blob
  | .resumeScan k => p.resumeScan k
  | .matchBy key => p.matchBy key
  | .diffKey key => { p with key := key }
  | .pauseLive => { p with screen := p.screen.pauseLive }
  | .resumeLive => p.resumeLive
  | .goTo i => p.goTo i
  | .showText k => p.showText k
  | .load => { p.stopReplay with loads := p.loads ++ [p.token + 1] }
  | .goOnLoading k rec frame => p.goOnLoading k rec frame

/-- The page that was opened with the key and the bound, after the steps. -/
def livePage [Fround] (key : KeyMode) (limit : ℚ) (steps : List PageStep) : Page :=
  steps.foldl Page.perform { key := key, limit := limit }

/-- The documents received. -/
def receivedIn (steps : List PageStep) : List Blob :=
  steps.filterMap fun
    | .appendFrame blob => some blob
    | _ => none

end TransportViz.Replay
