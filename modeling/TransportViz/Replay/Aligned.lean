import Mathlib.Tactic.Linarith
import TransportViz.Replay.LiveHistory
import TransportViz.Replay.Written

/-!
# The live history keeps in step

A scan that is current reads a recording of the first kept blobs, and nothing is trimmed while it does.
When it ends, and from then on, the recording is the one of the kept blobs: a scan that was superseded
carries an older token and stops, and no other load that is still current leaves the history live.
-/

namespace TransportViz.Replay

open Web

/-! ## The bound -/

section Bound

theorem dropStep_pos {length n : ℕ} (h : n < length - 1) :
    0 < dropStep length n ∧ n + dropStep length n < length := by
  simp only [dropStep]
  omega

theorem dropLoop_spec (sizes : List ℚ) (limit bytes : ℚ) (n : ℕ) (hn : n < sizes.length)
    (hbytes : bytes = (sizes.drop n).sum) :
    dropLoop sizes limit bytes n < sizes.length ∧
      ((sizes.drop (dropLoop sizes limit bytes n)).sum ≤ limit ∨
        dropLoop sizes limit bytes n + 1 = sizes.length) := by
  induction bytes, n using dropLoop.induct sizes limit with
  | case1 bytes n hover step ih =>
    rw [dropLoop, if_pos hover]
    apply ih (dropStep_pos hover.2).2
    have hsum := List.sum_take_add_sum_drop (sizes.drop n) step
    rw [List.drop_drop] at hsum
    rw [hbytes, ← hsum, add_sub_cancel_left]
  | case2 bytes n hfits =>
    rw [dropLoop, if_neg hfits]
    refine ⟨hn, ?_⟩
    rw [not_and_or, not_lt, not_lt] at hfits
    rcases hfits with hle | hlast
    · exact Or.inl (hbytes ▸ hle)
    · exact Or.inr (by omega)

/-- What is left fits the bound, or is the newest frame alone. -/
theorem dropCount_spec {sizes : List ℚ} (hsizes : sizes ≠ []) (limit : ℚ) :
    dropCount sizes limit < sizes.length ∧
      ((sizes.drop (dropCount sizes limit)).sum ≤ limit ∨
        dropCount sizes limit + 1 = sizes.length) :=
  dropLoop_spec sizes limit sizes.sum 0 (List.length_pos_of_ne_nil hsizes) (by rw [List.drop_zero])

end Bound

def Blob.frame (b : Blob) : Frame Set.univ := ⟨b.doc, 0, b.size⟩

section Steps

variable [Fround]

/-- The recording that is given the blobs in order. -/
def recordingOf (key : KeyMode) (blobs : List Blob) : Option Recording :=
  blobs.foldlM (fun rec b ↦ addFrame rec b.doc.value 0 b.size) (createRecording key)

theorem exists_recordingOf (key : KeyMode) (blobs : List Blob) :
    ∃ rec, recordingOf key blobs = some rec ∧ rec.key = key ∧
      Represents rec (blobs.map Blob.frame) := by
  induction blobs using List.reverseRecOn with
  | nil => exact ⟨_, rfl, rfl, represents_createRecording (Set.mem_univ key)⟩
  | append_singleton blobs b ih =>
    obtain ⟨rec, hrec, hkey, hrepresents⟩ := ih
    obtain ⟨next, hnext, hkey', hrepresents'⟩ := hrepresents.addFrame b.frame
    refine ⟨next, ?_, hkey'.trans hkey, by rwa [List.map_append]⟩
    rw [recordingOf] at hrec ⊢
    rw [List.foldlM_append, hrec]
    simp only [List.foldlM_cons, List.foldlM_nil, bind_pure]
    exact hnext

/-- The recording is one of the kept blobs. -/
def Whole (p : Page) : Prop :=
  ∃ rec, p.recording = some rec ∧ Represents rec (p.blobs.map Blob.frame)

/-- A current scan has read the blobs before the one it awaits. -/
structure Current (p : Page) (scan : Scan) : Prop where
  live : p.live = true
  scanning : p.scanning = true
  blob : p.blobs[scan.j]? = some scan.blob
  represents : Represents scan.recording ((p.blobs.take scan.j).map Blob.frame)

/-- The part of the invariant that says nothing of the recording. -/
structure Counted (received : List Blob) (p : Page) : Prop where
  received_eq : p.dropped ++ p.blobs = received
  bytes_eq : p.bytes = (sizes p.blobs).sum
  nonempty : p.live = true → p.blobs ≠ []
  tokens : ∀ scan ∈ p.scans, scan.token ≤ p.token
  nodup : (p.scans.map Scan.token).Nodup
  loads_le : ∀ token ∈ p.loads, token ≤ p.token

/-- The invariant of the page, apart from the bound. -/
structure Consistent (received : List Blob) (p : Page) : Prop extends Counted received p where
  current : ∀ scan ∈ p.scans, scan.token = p.token → Current p scan
  loads : ∀ token ∈ p.loads, token = p.token → p.live = false
  whole : p.live = true → p.scanning = false → Whole p

/-- The invariant of the page. -/
structure Kept (received : List Blob) (p : Page) : Prop extends Consistent received p where
  bounded : p.live = true → p.scanning = false → p.bytes ≤ p.limit ∨ p.blobs.length = 1

variable {received : List Blob} {p : Page}

omit [Fround] in
theorem sum_sizes_drop (blobs : List Blob) (n : ℕ) :
    (sizes (blobs.drop n)).sum = (sizes blobs).sum - (sizes (blobs.take n)).sum := by
  have hsum := List.sum_take_add_sum_drop (sizes blobs) n
  simp only [sizes, ← List.map_take, ← List.map_drop] at hsum ⊢
  linarith

/-- Dropping the oldest frames keeps the recording in step. -/
theorem Consistent.dropOldest (h : Consistent received p) (hscanning : p.scanning = false) {n : ℕ}
    (hn : n < p.blobs.length) : Consistent received (p.dropOldest n) where
  received_eq := by
    rw [Page.dropOldest, List.append_assoc, List.take_append_drop, h.received_eq]
  bytes_eq := by
    rw [Page.dropOldest, sum_sizes_drop, ← h.bytes_eq]
  nonempty _ := by
    rw [Page.dropOldest, ne_eq, List.drop_eq_nil_iff]
    omega
  tokens := h.tokens
  nodup := h.nodup
  loads_le := h.loads_le
  current scan hscan htoken :=
    absurd (h.current scan hscan htoken).scanning (by simp [hscanning])
  loads := h.loads
  whole hlive _ := by
    obtain ⟨rec, hrec, hrepresents⟩ := h.whole hlive hscanning
    refine ⟨Replay.dropFrames rec n, by simp [Page.dropOldest, hrec], ?_⟩
    have hdropped := hrepresents.dropFrames n
    rwa [Int.toNat_natCast, ← List.map_drop] at hdropped

/-- Trimming restores the bound. -/
theorem Consistent.trimHistory (h : Consistent received p) (hlive : p.live = true)
    (hscanning : p.scanning = false) : Kept received p.trimHistory := by
  have hne : sizes p.blobs ≠ [] := by
    simpa [sizes] using h.nonempty hlive
  have hlength : (sizes p.blobs).length = p.blobs.length := List.length_map _
  obtain ⟨hlt, hfits⟩ := dropCount_spec hne p.limit
  rw [hlength] at hlt hfits
  unfold Page.trimHistory
  split_ifs with hkeep
  · refine { h with bounded := fun _ _ ↦ ?_ }
    rcases hkeep with hle | hzero
    · exact Or.inl hle
    · rw [hzero, List.drop_zero, ← h.bytes_eq] at hfits
      exact hfits.imp_right Eq.symm
  · refine { h.dropOldest hscanning hlt with bounded := fun _ _ ↦ ?_ }
    simp only [Page.dropOldest, List.length_drop]
    rw [h.bytes_eq, ← sum_sizes_drop]
    rcases hfits with hle | hlast
    · left
      rwa [sizes, List.map_drop]
    · right
      omega

theorem Kept.screen (h : Kept received p) (screen : Screen) :
    Kept received { p with screen := screen } :=
  { h with current := fun scan hscan htoken ↦ { h.current scan hscan htoken with } }

omit [Fround] in
theorem resumeLive_eq (p : Page) : ∃ screen, p.resumeLive = { p with screen := screen } := by
  unfold Page.resumeLive
  split_ifs
  · exact ⟨_, rfl⟩
  · exact ⟨_, rfl⟩

theorem Kept.resumeLive (h : Kept received p) : Kept received p.resumeLive := by
  obtain ⟨screen, hscreen⟩ := resumeLive_eq p
  exact hscreen ▸ h.screen screen

/-! ## Scans -/

/-- No suspended scan is current. -/
def Alone (p : Page) : Prop := ∀ scan ∈ p.scans, scan.token ≠ p.token

theorem Consistent.endScan (h : Consistent received p) (hlive : p.live = true) (halone : Alone p)
    {rec : Recording} (hrec : Represents rec (p.blobs.map Blob.frame)) :
    Kept received (p.endScan rec) := by
  have hdone : Consistent received { p with scanning := false, recording := some rec } :=
    { h with
      current := fun scan hscan htoken ↦ absurd htoken (halone scan hscan)
      whole := fun _ _ ↦ ⟨rec, rfl, hrec⟩ }
  have hkept := hdone.trimHistory hlive rfl
  dsimp only [Page.endScan]
  split
  · exact hkept.resumeLive
  · exact hkept.screen _

theorem Consistent.scanFrom (h : Consistent received p) (hlive : p.live = true)
    (hscanning : p.scanning = true) (halone : Alone p) {rec : Recording} {j : ℕ}
    (hrec : Represents rec ((p.blobs.take j).map Blob.frame)) :
    Kept received (p.scanFrom p.token rec j) := by
  unfold Page.scanFrom
  split
  · rename_i blob hblob
    exact {
      received_eq := h.received_eq
      bytes_eq := h.bytes_eq
      nonempty := h.nonempty
      tokens := by
        simp only [List.mem_append, List.mem_singleton]
        intro scan hscan
        rcases hscan with hold | rfl
        · exact h.tokens scan hold
        · exact le_rfl
      nodup := by
        rw [List.map_append, List.nodup_append]
        refine ⟨h.nodup, List.nodup_singleton _, ?_⟩
        simpa [Alone] using halone
      loads_le := h.loads_le
      current := by
        simp only [List.mem_append, List.mem_singleton]
        intro scan hscan htoken
        rcases hscan with hold | rfl
        · exact absurd htoken (halone scan hold)
        · exact ⟨hlive, hscanning, hblob, hrec⟩
      loads := h.loads
      whole := fun _ hnot ↦ absurd hscanning (by simpa using hnot)
      bounded := fun _ hnot ↦ absurd hscanning (by simpa using hnot) }
  · rename_i hend
    rw [List.take_of_length_le (List.getElem?_eq_none_iff.mp hend)] at hrec
    exact h.endScan hlive halone hrec

omit [Fround] in
theorem Counted.stale (h : Counted received p) : ∀ scan ∈ p.scans, scan.token < p.token + 1 :=
  fun scan hscan ↦ Nat.lt_succ_of_le (h.tokens scan hscan)

omit [Fround] in
theorem Counted.loads_stale (h : Counted received p) : ∀ token ∈ p.loads, token < p.token + 1 :=
  fun token htoken ↦ Nat.lt_succ_of_le (h.loads_le token htoken)

/-- A scan that starts supersedes those that are suspended. -/
theorem Counted.rescanLive (h : Counted received p) (hlive : p.live = true) :
    Kept received p.rescanLive := by
  have hstarted : Consistent received
      { p with
        token := p.token + 1
        scanning := true
        screen := { p.screen with showToken := p.screen.showToken + 1 } } :=
    { h with
      tokens := fun scan hscan ↦ (h.stale scan hscan).le
      loads_le := fun token htoken ↦ (h.loads_stale token htoken).le
      current := fun scan hscan htoken ↦ absurd htoken (h.stale scan hscan).ne
      loads := fun token htoken heq ↦ absurd heq (h.loads_stale token htoken).ne
      whole := fun _ hnot ↦ absurd hnot (by simp) }
  exact hstarted.scanFrom hlive rfl (fun scan hscan ↦ (h.stale scan hscan).ne)
    (represents_createRecording (Set.mem_univ p.key))

/-- Leaving replay mode makes every suspended call stale. -/
theorem Counted.stopReplay (h : Counted received p) : Kept received p.stopReplay where
  received_eq := h.received_eq
  bytes_eq := h.bytes_eq
  nonempty hlive := absurd hlive (by simp [Page.stopReplay])
  tokens scan hscan := (h.stale scan hscan).le
  nodup := h.nodup
  loads_le token htoken := (h.loads_stale token htoken).le
  current scan hscan htoken := absurd htoken (h.stale scan hscan).ne
  loads _ _ _ := rfl
  whole hlive := absurd hlive (by simp [Page.stopReplay])
  bounded hlive := absurd hlive (by simp [Page.stopReplay])

theorem Counted.startHistory (h : Counted received p) (hne : p.blobs ≠ []) :
    Kept received p.startHistory := by
  have hlive : Counted received
      { p.stopReplay with live := true, recording := some (createRecording p.key) } :=
    { h.stopReplay.toCounted with nonempty := fun _ ↦ hne }
  exact hlive.rescanLive rfl

/-- Another load is current until something else is started. -/
theorem Kept.load (h : Kept received p) :
    Kept received { p.stopReplay with loads := p.loads ++ [p.token + 1] } := by
  have hstopped := h.stopReplay
  refine { hstopped with
    loads_le := ?_
    current := fun scan hscan htoken ↦ { hstopped.current scan hscan htoken with }
    loads := fun _ _ _ ↦ rfl }
  simp only [List.mem_append, List.mem_singleton]
  intro token htoken
  rcases htoken with hold | rfl
  · exact hstopped.loads_le token hold
  · exact le_rfl

theorem Kept.goOnLoading (h : Kept received p) (k : ℕ) (rec : Recording) (frame : Option ℤ) :
    Kept received (p.goOnLoading k rec frame) := by
  unfold Page.goOnLoading
  split
  · exact h
  · rename_i token htoken
    split_ifs with hstale
    · exact h
    · have hlive := h.loads token (List.mem_of_getElem? htoken) (not_not.mp hstale)
      exact { h with
        current := fun scan hscan hcurrent ↦ { h.current scan hscan hcurrent with }
        whole := fun hnot ↦ absurd hnot (by simp [hlive]) }

theorem Kept.matchBy (h : Kept received p) (key : KeyMode) : Kept received (p.matchBy key) := by
  unfold Page.matchBy
  split_ifs with hframes hlive
  · exact h
  · have hkey : Counted received { p with key := key } := { h with }
    exact hkey.rescanLive hlive
  · refine { h with
      tokens := fun scan hscan ↦ (h.stale scan hscan).le
      loads_le := ?_
      current := fun scan hscan htoken ↦ absurd htoken (h.stale scan hscan).ne
      loads := fun _ _ _ ↦ by simpa using hlive
      whole := fun hnot ↦ absurd hnot hlive }
    simp only [List.mem_append, List.mem_singleton]
    intro token htoken
    rcases htoken with hold | rfl
    · exact (h.loads_stale token hold).le
    · exact le_rfl

omit [Fround] in
/-- Tokens tell the scans apart. -/
theorem Counted.alone_eraseIdx (h : Counted received p) {k : ℕ} {scan : Scan}
    (hscan : p.scans[k]? = some scan) :
    ∀ other ∈ p.scans.eraseIdx k, other.token ≠ scan.token := by
  intro other hother heq
  obtain ⟨i, hne, hi⟩ := List.mem_eraseIdx_iff_getElem?.mp hother
  have hlt : i < (p.scans.map Scan.token).length := by
    rw [List.length_map]
    exact (List.getElem?_eq_some_iff.mp hi).1
  apply hne
  apply (List.getElem?_inj hlt h.nodup).mp
  rw [List.getElem?_map, List.getElem?_map, hi, hscan, Option.map_some, Option.map_some, heq]

theorem Kept.eraseIdx (h : Kept received p) (k : ℕ) :
    Kept received { p with scans := p.scans.eraseIdx k } :=
  { h with
    tokens := fun scan hscan ↦ h.tokens scan (List.mem_of_mem_eraseIdx hscan)
    nodup := h.nodup.sublist ((List.eraseIdx_sublist p.scans k).map _)
    current := fun scan hscan htoken ↦
      { h.current scan (List.mem_of_mem_eraseIdx hscan) htoken with } }

/-- A current scan adds the blob it awaited, a stale one stops. -/
theorem Kept.resumeScan (h : Kept received p) (k : ℕ) : Kept received (p.resumeScan k) := by
  unfold Page.resumeScan
  split
  · exact h
  · rename_i scan hscan
    have herased := h.eraseIdx k
    dsimp only
    split_ifs with hstale
    · exact herased
    · have htoken := not_not.mp hstale
      have hcurrent := h.current scan (List.mem_of_getElem? hscan) htoken
      obtain ⟨next, hnext, -, hrepresents⟩ := hcurrent.represents.addFrame scan.blob.frame
      have htake : (p.blobs.take (scan.j + 1)).map Blob.frame =
          (p.blobs.take scan.j).map Blob.frame ++ [scan.blob.frame] := by
        rw [List.take_add_one, hcurrent.blob, Option.toList_some, List.map_append, List.map_singleton]
      rw [← htake] at hrepresents
      have halone : Alone { p with scans := p.scans.eraseIdx k } := fun other hother ↦
        htoken ▸ h.alone_eraseIdx hscan other hother
      have hadd : addFrame scan.recording scan.blob.doc.value 0 scan.blob.size = some next := hnext
      rw [hadd, htoken]
      exact herased.scanFrom hcurrent.live hcurrent.scanning halone hrepresents

omit [Fround] in
theorem Counted.append (h : Counted received p) (blob : Blob) :
    Counted (received ++ [blob])
      { p with blobs := p.blobs ++ [blob], bytes := p.bytes + blob.size } :=
  { h with
    received_eq := by rw [← List.append_assoc, h.received_eq]
    bytes_eq := by simp [sizes, h.bytes_eq]
    nonempty := fun _ ↦ by simp }

/-- A document that arrives during a scan is left to the scan. -/
theorem Kept.append_scanning (h : Kept received p) (hscanning : p.scanning = true) (blob : Blob) :
    Kept (received ++ [blob])
      { p with blobs := p.blobs ++ [blob], bytes := p.bytes + blob.size } :=
  { h.append blob with
    current := fun scan hscan htoken ↦ by
      have hcurrent := h.current scan hscan htoken
      have hlt : scan.j < p.blobs.length := (List.getElem?_eq_some_iff.mp hcurrent.blob).1
      exact {
        live := hcurrent.live
        scanning := hcurrent.scanning
        blob := by rw [List.getElem?_append_left hlt, hcurrent.blob]
        represents := by
          rw [List.take_append_of_le_length hlt.le]
          exact hcurrent.represents }
    loads := h.loads
    whole := fun _ hnot ↦ absurd hscanning (by simpa using hnot)
    bounded := fun _ hnot ↦ absurd hscanning (by simpa using hnot) }

/-- A document that arrives otherwise is added to the recording. -/
theorem Kept.append_whole (h : Kept received p) (hlive : p.live = true)
    (hscanning : p.scanning = false) (blob : Blob) :
    ∃ next, (p.recording.bind fun rec ↦ addFrame rec blob.doc.value 0 blob.size) = some next ∧
      Consistent (received ++ [blob])
        { p with
          blobs := p.blobs ++ [blob]
          bytes := p.bytes + blob.size
          recording := some next } := by
  obtain ⟨rec, hrec, hrepresents⟩ := h.whole hlive hscanning
  obtain ⟨next, hnext, -, hrepresents'⟩ := hrepresents.addFrame blob.frame
  refine ⟨next, by rw [hrec]; exact hnext, ?_⟩
  exact { h.append blob with
    current := fun scan hscan htoken ↦
      absurd (h.current scan hscan htoken).scanning (by simp [hscanning])
    loads := h.loads
    whole := fun _ _ ↦ ⟨next, rfl, by rwa [List.map_append]⟩ }

theorem Kept.appendFrame (h : Kept received p) (blob : Blob) :
    Kept (received ++ [blob]) (p.appendFrame blob) := by
  dsimp only [Page.appendFrame]
  by_cases hlive : p.live = true
  · rw [if_neg (by simp [hlive])]
    by_cases hscanning : p.scanning = true
    · rw [if_pos hscanning]
      exact h.append_scanning hscanning blob
    · rw [Bool.not_eq_true] at hscanning
      obtain ⟨next, hnext, hconsistent⟩ := h.append_whole hlive hscanning blob
      rw [if_neg (by simp [hscanning]), hnext]
      have htrimmed := hconsistent.trimHistory hlive hscanning
      dsimp only
      split_ifs
      · exact htrimmed.screen _
      · exact htrimmed
  · rw [if_pos (by simp [hlive])]
    exact (h.append blob).startHistory (by simp)

/-! ## Every order of the steps -/

theorem Kept.showText (h : Kept received p) (k : ℕ) : Kept received (p.showText k) := by
  unfold Page.showText
  split
  · exact h
  · split <;> exact h.screen _

/-- A step that receives nothing. -/
theorem Kept.quiet (h : Kept received p) : Kept (received ++ []) p := by rwa [List.append_nil]

theorem Kept.perform (h : Kept received p) (step : PageStep) :
    Kept (received ++ receivedIn [step]) (p.perform step) := by
  cases step with
  | appendFrame blob => exact h.appendFrame blob
  | resumeScan k => exact (h.resumeScan k).quiet
  | matchBy key => exact (h.matchBy key).quiet
  | diffKey key =>
    exact Kept.quiet { h with
      current := fun scan hscan htoken ↦ { h.current scan hscan htoken with } }
  | pauseLive => exact (h.screen _).quiet
  | resumeLive => exact h.resumeLive.quiet
  | goTo i => exact (h.screen _).quiet
  | showText k => exact (h.showText k).quiet
  | load => exact h.load.quiet
  | goOnLoading k rec frame => exact (h.goOnLoading k rec frame).quiet

theorem Kept.foldl (h : Kept received p) (steps : List PageStep) :
    Kept (received ++ receivedIn steps) (steps.foldl Page.perform p) := by
  induction steps generalizing received p with
  | nil => exact h.quiet
  | cons step rest ih =>
    have hsplit : receivedIn (step :: rest) = receivedIn [step] ++ receivedIn rest := by
      rw [receivedIn, receivedIn, receivedIn, ← List.filterMap_append, List.singleton_append]
    rw [hsplit, ← List.append_assoc]
    exact ih (h.perform step)

/-- A page that was opened has received nothing. -/
theorem kept_open (key : KeyMode) (limit : ℚ) : Kept [] ({ key := key, limit := limit } : Page) where
  received_eq := rfl
  bytes_eq := rfl
  nonempty hlive := absurd hlive (by simp)
  tokens _ hscan := absurd hscan List.not_mem_nil
  nodup := List.nodup_nil
  loads_le _ htoken := absurd htoken List.not_mem_nil
  current _ hscan := absurd hscan List.not_mem_nil
  loads _ htoken := absurd htoken List.not_mem_nil
  whole hlive := absurd hlive (by simp)
  bounded hlive := absurd hlive (by simp)

/-- The recording is the one of the kept blobs, their bytes are counted and bounded. -/
structure InStep (p : Page) : Prop where
  recording : ∃ rec fresh, p.recording = some rec ∧ recordingOf rec.key p.blobs = some fresh ∧
    SameFrames rec fresh ∧ TailsAbsent rec
  bytes_eq : p.bytes = (sizes p.blobs).sum
  bounded : p.bytes ≤ p.limit ∨ p.blobs.length = 1

/-- Whatever the order of the steps, nothing received is lost but what was dropped from the front, and a
live history that is not being scanned is in step. -/
theorem inStep_livePage (key : KeyMode) (limit : ℚ) (steps : List PageStep) :
    (livePage key limit steps).dropped ++ (livePage key limit steps).blobs = receivedIn steps ∧
      ((livePage key limit steps).live = true → (livePage key limit steps).scanning = false →
        InStep (livePage key limit steps)) := by
  have hkept : Kept (receivedIn steps) (livePage key limit steps) :=
    (kept_open key limit).foldl steps
  refine ⟨hkept.received_eq, fun hlive hscanning ↦ ?_⟩
  obtain ⟨rec, hrec, hrepresents⟩ := hkept.whole hlive hscanning
  obtain ⟨fresh, hfresh, hkey, hrepresents'⟩ :=
    exists_recordingOf rec.key (livePage key limit steps).blobs
  exact {
    recording := ⟨rec, fresh, hrec, hfresh, hrepresents.sameFrames hrepresents' hkey.symm,
      hrepresents.tailsAbsent⟩
    bytes_eq := hkept.bytes_eq
    bounded := hkept.bounded hlive hscanning }

end Steps

/-- The third document arrives during a scan that a change of the key supersedes. -/
example :
    letI : Fround := ⟨fun x ↦ ((x : WithTop ℚ) : Single)⟩
    let blob : Blob := ⟨documentOf {} {} fun _ h ↦ absurd h List.not_mem_nil, 300⟩
    let page := livePage .node 1000 [.appendFrame blob, .resumeScan 0, .appendFrame blob,
      .matchBy .guid, .appendFrame blob, .matchBy .node, .resumeScan 0, .resumeScan 0, .resumeScan 0,
      .resumeScan 0]
    page.live = true ∧ page.scanning = false ∧ page.frames = 3 ∧ page.bytes = 900 := by
  decide +kernel

end TransportViz.Replay
