import TransportViz.Collect.ViewFilters
import TransportViz.Shm.Scan

/-!
# The data-sharing files of an observation

The ports the scan is told come from every discovered endpoint, the names of data-sharing files only
from those the view keeps. `countsIndependent_iff` says when the counts are those of everything
discovered all the same.
-/

namespace TransportViz.Collect

open Shm RosNames

/-! ## Model -/

/-- The tool at work: its own participants, the ports of which it holds the locks, and its host. -/
structure Observer where
  ownPrefixes : Finset String := ∅
  heldPorts : Finset ℕ := ∅
  localHost : HostId := List.Vector.replicate 4 0

def isOwn (observer : Observer) (e : Endpoint) : Bool :=
  e.participantGuidPrefix ∈ observer.ownPrefixes

def shmPorts (endpoints : List Endpoint) : Finset ℕ :=
  (endpoints.flatMap fun e ↦ (e.unicast.filter fun l ↦ l.kind = .shm).map Locator.port).toFinset

/-- The segment names of one side, with the GUIDs of their endpoints. -/
def segmentNames (endpoints : List Endpoint) (isWriter : Bool) : OrderedMap String String :=
  .ofList ((endpoints.filter fun e ↦ e.isWriter = isWriter).map fun e ↦
    (datasharingSegmentName e.guidBytes, e.guid))

def nodeEndpoints (observer : Observer) (endpoints : List Endpoint) : List Endpoint :=
  endpoints.filter fun e ↦ !isOwn observer e

/-- What the scan is told of the discovered endpoints. -/
def scanInput (observer : Observer) (endpoints : List Endpoint) (o : ViewOptions) :
    ShmScanInput :=
  let nodes := nodeEndpoints observer endpoints
  let kept := nodes.filter (keepsEndpoint o)
  { ownPorts := observer.heldPorts ∪ shmPorts (endpoints.filter (isOwn observer))
    nodePorts := shmPorts (nodes.filter fun e ↦ e.hostId = observer.localHost)
    otherHostParticipants :=
      ((nodes.filter fun e ↦ e.hostId ≠ observer.localHost).map
        Endpoint.participantGuidPrefix).toFinset.card
    datasharingWriters := segmentNames kept true
    datasharingReaders := segmentNames kept false }

/-- The shared memory of an observation's snapshot. -/
def collectShm (observer : Observer) (endpoints : List Endpoint)
    (directory : Option ShmDirectory) (o : ViewOptions) : ShmInfo :=
  scanShm (scanInput observer endpoints o) directory

/-! ## What the counts should be -/

/-- A data-sharing file; a file with the suffix of a lock is none. -/
def isDataSharingFile (f : ShmFile) : Bool :=
  f.regular && startsWith f.name kDataSharingPrefix && !endsWith f.name kLockSuffix

def dataSharingFiles (directory : Option ShmDirectory) : List ShmFile :=
  ((directory.bind ShmDirectory.files).getD []).filter isDataSharingFile

/-- The file is the segment of one of the endpoints. -/
def isSegmentOf (endpoints : List Endpoint) (f : ShmFile) : Bool :=
  endpoints.any fun e ↦ f.name = datasharingSegmentName e.guidBytes

def readersOf (endpoints : List Endpoint) : List Endpoint := endpoints.filter fun e ↦ !e.isWriter

/-- The counts of two views are equal, and they are about every discovered endpoint that is not the
tool's own. -/
structure CountsIndependent (observer : Observer) (endpoints : List Endpoint)
    (directory : Option ShmDirectory) (o o' : ViewOptions) : Prop where
  histories : (collectShm observer endpoints directory o).datasharingHistories =
    (collectShm observer endpoints directory o').datasharingHistories
  unmatched : (collectShm observer endpoints directory o).datasharingUnmatched =
    (collectShm observer endpoints directory o').datasharingUnmatched
  notifications : (collectShm observer endpoints directory o).datasharingNotifications =
    (collectShm observer endpoints directory o').datasharingNotifications
  unmatched_eq : (collectShm observer endpoints directory o).datasharingUnmatched =
    (dataSharingFiles directory).countP fun f ↦
      !isSegmentOf (nodeEndpoints observer endpoints) f
  notifications_eq : (collectShm observer endpoints directory o).datasharingNotifications =
    (dataSharingFiles directory).countP fun f ↦
      isSegmentOf (readersOf (nodeEndpoints observer endpoints)) f

/-- Every data-sharing file that is named after a discovered reader, or after any discovered endpoint,
is named after one that the view keeps. -/
structure FilesShown (observer : Observer) (endpoints : List Endpoint)
    (directory : Option ShmDirectory) (o : ViewOptions) : Prop where
  reader : ∀ f ∈ dataSharingFiles directory,
    isSegmentOf (readersOf (nodeEndpoints observer endpoints)) f = true →
    isSegmentOf (readersOf ((nodeEndpoints observer endpoints).filter (keepsEndpoint o))) f = true
  endpoint : ∀ f ∈ dataSharingFiles directory,
    isSegmentOf (nodeEndpoints observer endpoints) f = true →
    isSegmentOf ((nodeEndpoints observer endpoints).filter (keepsEndpoint o)) f = true

/-! ## What the scan counts -/

section Scan

variable {input : ShmScanInput} {scan : Scan} {f : ShmFile}

/-- Another Fast DDS file is none of data-sharing. -/
theorem prefixOf_datasharing (h : startsWith f.name kDataSharingPrefix = true) :
    prefixOf f.name kSegmentPrefixes = none ∧ prefixOf f.name kPortPrefixes = none := by
  obtain ⟨rest, hrest⟩ := List.isPrefixOf_iff_prefix.mp h
  have hname : kDataSharingPrefix.toList = 'f' :: 'a' :: 's' :: 't' :: '_' ::
      "datasharing_".toList := by decide
  rw [hname] at hrest
  have hother (s : String) (fifth : Char) (more : List Char)
      (hs : s.toList = 'f' :: 'a' :: 's' :: 't' :: fifth :: more) (hfifth : fifth ≠ '_') :
      startsWith f.name s = false := by
    rw [startsWith, hs, ← hrest]
    simp [List.isPrefixOf, hfifth]
  unfold prefixOf kSegmentPrefixes kPortPrefixes
  simp only [List.find?_cons, List.find?_nil]
  rw [hother "fastrtps_" 'r' "tps_".toList (by decide) (by decide),
    hother "fastdds_" 'd' "ds_".toList (by decide) (by decide),
    hother "fastrtps_port" 'r' "tps_port".toList (by decide) (by decide),
    hother "fastdds_port" 'd' "ds_port".toList (by decide) (by decide)]
  exact ⟨rfl, rfl⟩

/-- What a file adds to the counts of data-sharing files. -/
structure Counted (input : ShmScanInput) (f : ShmFile) (before after : ShmInfo) : Prop where
  notifications : after.datasharingNotifications = before.datasharingNotifications +
    if isDataSharingFile f && input.datasharingReaders.contains f.name then 1 else 0
  histories : after.datasharingHistories = before.datasharingHistories +
    if isDataSharingFile f && !input.datasharingReaders.contains f.name then 1 else 0
  unmatched : after.datasharingUnmatched = before.datasharingUnmatched +
    if isDataSharingFile f && (!input.datasharingReaders.contains f.name &&
      !input.datasharingWriters.contains f.name) then 1 else 0

theorem Counted.of_not {before after : ShmInfo} (h : isDataSharingFile f = false)
    (hnotifications : after.datasharingNotifications = before.datasharingNotifications)
    (hhistories : after.datasharingHistories = before.datasharingHistories)
    (hunmatched : after.datasharingUnmatched = before.datasharingUnmatched) :
    Counted input f before after := by
  constructor <;> simp [h, hnotifications, hhistories, hunmatched]

theorem counted_scanDataSharing (info : ShmInfo) (h : isDataSharingFile f = true) :
    Counted input f info (scanDataSharing input info f) := by
  unfold scanDataSharing
  cases hreader : input.datasharingReaders.find? f.name with
  | some reader => constructor <;> simp [OrderedMap.contains, hreader, h]
  | none =>
    cases hwriter : input.datasharingWriters.find? f.name with
    | some writer => constructor <;> simp [OrderedMap.contains, hreader, hwriter, h]
    | none => constructor <;> simp [OrderedMap.contains, hreader, hwriter, h]

theorem counted_scanFile (input : ShmScanInput) (scan : Scan) (f : ShmFile) :
    Counted input f scan.info (scanFile input scan f).info := by
  cases hstarts : startsWith f.name kDataSharingPrefix with
  | true =>
    obtain ⟨hsegment, hport⟩ := prefixOf_datasharing hstarts
    unfold scanFile
    rw [hsegment, hport, hstarts]
    cases hregular : f.regular with
    | false => exact .of_not (by simp [isDataSharingFile, hregular]) rfl rfl rfl
    | true =>
      cases hlock : endsWith f.name kLockSuffix with
      | true => exact .of_not (by simp [isDataSharingFile, hlock]) rfl rfl rfl
      | false =>
        have hfile : isDataSharingFile f = true := by
          simp [isDataSharingFile, hregular, hstarts, hlock]
        obtain ⟨hnotifications, hhistories, hunmatched⟩ := @counted_scanDataSharing input f
          { scan.info with fastddsBytes := scan.info.fastddsBytes + f.size } hfile
        exact ⟨hnotifications, hhistories, hunmatched⟩
  | false =>
    have hfile : isDataSharingFile f = false := by simp [isDataSharingFile, hstarts]
    -- no other branch counts data-sharing files
    unfold scanFile
    simp only [hstarts, Bool.false_eq_true, if_false]
    repeat' split
    all_goals exact .of_not hfile rfl rfl rfl

theorem counts_foldl_scanFile (input : ShmScanInput) (files : List ShmFile) (scan : Scan) :
    (files.foldl (scanFile input) scan).info.datasharingNotifications =
        scan.info.datasharingNotifications + files.countP (fun f ↦
          isDataSharingFile f && input.datasharingReaders.contains f.name) ∧
      (files.foldl (scanFile input) scan).info.datasharingHistories =
        scan.info.datasharingHistories + files.countP (fun f ↦
          isDataSharingFile f && !input.datasharingReaders.contains f.name) ∧
      (files.foldl (scanFile input) scan).info.datasharingUnmatched =
        scan.info.datasharingUnmatched + files.countP (fun f ↦
          isDataSharingFile f && (!input.datasharingReaders.contains f.name &&
            !input.datasharingWriters.contains f.name)) := by
  induction files generalizing scan with
  | nil => simp
  | cons f rest ih =>
    obtain ⟨hnotifications, hhistories, hunmatched⟩ := ih (scanFile input scan f)
    obtain ⟨hfirst, hsecond, hthird⟩ := counted_scanFile input scan f
    rw [List.foldl_cons, hnotifications, hhistories, hunmatched, hfirst, hsecond, hthird]
    simp only [List.countP_cons]
    omega

/-- Checking the ports leaves the counts alone. -/
theorem foldl_checkPort_counts (input : ShmScanInput) (scan : Scan) (ports : List ℕ)
    (info : ShmInfo) :
    (ports.foldl (checkPort input scan) info).datasharingNotifications =
        info.datasharingNotifications ∧
      (ports.foldl (checkPort input scan) info).datasharingHistories = info.datasharingHistories ∧
      (ports.foldl (checkPort input scan) info).datasharingUnmatched =
        info.datasharingUnmatched := by
  induction ports generalizing info with
  | nil => exact ⟨rfl, rfl, rfl⟩
  | cons port rest ih => exact ih (checkPort input scan info port)

theorem concludeScan_counts (input : ShmScanInput) (scan : Scan) :
    (concludeScan input scan).datasharingNotifications = scan.info.datasharingNotifications ∧
      (concludeScan input scan).datasharingHistories = scan.info.datasharingHistories ∧
      (concludeScan input scan).datasharingUnmatched = scan.info.datasharingUnmatched := by
  have hports := foldl_checkPort_counts input scan (input.nodePorts.sort (· ≤ ·)) scan.info
  revert hports
  unfold concludeScan addCapacityWarning
  generalize (input.nodePorts.sort (· ≤ ·)).foldl (checkPort input scan) scan.info = info
  intro hports
  simp only
  split_ifs <;> exact hports

/-- The counts of a scan, out of the data-sharing files. -/
theorem scanShm_counts (input : ShmScanInput) (directory : Option ShmDirectory) :
    (scanShm input directory).datasharingNotifications =
        (dataSharingFiles directory).countP (fun f ↦ input.datasharingReaders.contains f.name) ∧
      (scanShm input directory).datasharingHistories =
        (dataSharingFiles directory).countP (fun f ↦ !input.datasharingReaders.contains f.name) ∧
      (scanShm input directory).datasharingUnmatched =
        (dataSharingFiles directory).countP fun f ↦ !input.datasharingReaders.contains f.name &&
          !input.datasharingWriters.contains f.name := by
  unfold dataSharingFiles
  cases directory with
  | none => exact ⟨rfl, rfl, rfl⟩
  | some directory =>
    unfold scanShm
    cases hfiles : directory.files with
    | none => simp [hfiles]
    | some files =>
      simp only [hfiles, Option.bind_some, Option.getD_some, List.countP_filter]
      obtain ⟨hnotifications, hhistories, hunmatched⟩ := concludeScan_counts input
        (files.foldl (scanFile input) { info := {
          available := true
          totalBytes := directory.totalBytes
          usedBytes := directory.usedBytes
          freeBytes := directory.freeBytes
          listed := true } })
      have hcounts := counts_foldl_scanFile input files { info := {
          available := true
          totalBytes := directory.totalBytes
          usedBytes := directory.usedBytes
          freeBytes := directory.freeBytes
          listed := true } }
      rw [hnotifications, hhistories, hunmatched, hcounts.1, hcounts.2.1, hcounts.2.2]
      simp only [Nat.zero_add]
      refine ⟨?_, ?_, ?_⟩ <;> exact List.countP_congr fun f _ ↦ by rw [Bool.and_comm]

end Scan

/-! ## What a view reports -/

section View

variable {observer : Observer} {endpoints : List Endpoint} {directory : Option ShmDirectory}
  {o o' : ViewOptions}

theorem contains_segmentNames (endpoints : List Endpoint) (isWriter : Bool) (f : ShmFile) :
    (segmentNames endpoints isWriter).contains f.name =
      isSegmentOf (endpoints.filter fun e ↦ e.isWriter = isWriter) f := by
  rw [Bool.eq_iff_iff, OrderedMap.contains, Option.isSome_iff_exists, ← OrderedMap.mem_keys_iff,
    segmentNames, OrderedMap.mem_keys_ofList, isSegmentOf, List.any_eq_true]
  simp only [List.map_map, List.mem_map, Function.comp_apply, decide_eq_true_eq]
  exact exists_congr fun e ↦ and_congr_right fun _ ↦ eq_comm

theorem isSegmentOf_eq_or (endpoints : List Endpoint) (f : ShmFile) :
    isSegmentOf endpoints f =
      (isSegmentOf (readersOf endpoints) f ||
        isSegmentOf (endpoints.filter fun e ↦ e.isWriter = true) f) := by
  unfold isSegmentOf readersOf
  rw [Bool.eq_iff_iff, Bool.or_eq_true]
  simp only [List.any_eq_true, List.mem_filter, decide_eq_true_eq]
  constructor
  · rintro ⟨e, he, hname⟩
    cases hside : e.isWriter with
    | true => exact .inr ⟨e, ⟨he, hside⟩, hname⟩
    | false => exact .inl ⟨e, ⟨he, by simp [hside]⟩, hname⟩
  · rintro (⟨e, ⟨he, -⟩, hname⟩ | ⟨e, ⟨he, -⟩, hname⟩) <;> exact ⟨e, he, hname⟩

/-- The counts of a view, out of the endpoints it keeps. -/
theorem collectShm_counts (observer : Observer) (endpoints : List Endpoint)
    (directory : Option ShmDirectory) (o : ViewOptions) :
    (collectShm observer endpoints directory o).datasharingNotifications =
        (dataSharingFiles directory).countP (isSegmentOf (readersOf
          ((nodeEndpoints observer endpoints).filter (keepsEndpoint o)))) ∧
      (collectShm observer endpoints directory o).datasharingHistories =
        (dataSharingFiles directory).countP (fun f ↦ !isSegmentOf (readersOf
          ((nodeEndpoints observer endpoints).filter (keepsEndpoint o))) f) ∧
      (collectShm observer endpoints directory o).datasharingUnmatched =
        (dataSharingFiles directory).countP fun f ↦ !isSegmentOf
          ((nodeEndpoints observer endpoints).filter (keepsEndpoint o)) f := by
  have hreaders (kept : List Endpoint) :
      kept.filter (fun e ↦ e.isWriter = false) = readersOf kept :=
    List.filter_congr fun e _ ↦ by cases e.isWriter <;> rfl
  obtain ⟨hnotifications, hhistories, hunmatched⟩ :=
    scanShm_counts (scanInput observer endpoints o) directory
  unfold collectShm
  rw [hnotifications, hhistories, hunmatched]
  simp only [scanInput, contains_segmentNames, hreaders, true_and]
  refine List.countP_congr fun f _ ↦ ?_
  rw [isSegmentOf_eq_or ((nodeEndpoints observer endpoints).filter (keepsEndpoint o)) f,
    Bool.not_or]

theorem countP_eq_iff {α : Type} {p q : α → Bool} (entries : List α)
    (h : ∀ a ∈ entries, p a = true → q a = true) :
    entries.countP p = entries.countP q ↔ ∀ a ∈ entries, q a = true → p a = true := by
  induction entries with
  | nil => simp
  | cons a rest ih =>
    obtain ⟨hhead, hrest⟩ := List.forall_mem_cons.mp h
    have hle := List.countP_mono_left hrest
    rw [List.countP_cons, List.countP_cons, List.forall_mem_cons, ← ih hrest]
    cases hp : p a with
    | true => simp [hhead hp]
    | false =>
      cases hq : q a with
      | true =>
        simp only [Bool.false_eq_true, if_false, if_true, imp_false, not_true, false_and, iff_false]
        omega
      | false => simp

theorem isSegmentOf_mono {some all : List Endpoint} (hsub : some ⊆ all) (f : ShmFile)
    (h : isSegmentOf some f = true) : isSegmentOf all f = true := by
  obtain ⟨e, he, hname⟩ := List.any_eq_true.mp h
  exact List.any_eq_true.mpr ⟨e, hsub he, hname⟩

theorem readersOf_subset {some all : List Endpoint} (hsub : some ⊆ all) :
    readersOf some ⊆ readersOf all := fun e he ↦ by
  obtain ⟨hmem, hside⟩ := List.mem_filter.mp he
  exact List.mem_filter.mpr ⟨hsub hmem, hside⟩

theorem keptEndpoints_subset (observer : Observer) (endpoints : List Endpoint) (o : ViewOptions) :
    (nodeEndpoints observer endpoints).filter (keepsEndpoint o) ⊆
      nodeEndpoints observer endpoints := fun _ he ↦ (List.mem_filter.mp he).1

/-- A view reports the documented numbers when it keeps an endpoint for every such file. -/
theorem documented_iff (observer : Observer) (endpoints : List Endpoint)
    (directory : Option ShmDirectory) (o : ViewOptions) :
    (collectShm observer endpoints directory o).datasharingUnmatched =
          (dataSharingFiles directory).countP (fun f ↦
            !isSegmentOf (nodeEndpoints observer endpoints) f) ∧
        (collectShm observer endpoints directory o).datasharingNotifications =
          (dataSharingFiles directory).countP (fun f ↦
            isSegmentOf (readersOf (nodeEndpoints observer endpoints)) f) ↔
      FilesShown observer endpoints directory o := by
  have hsub := keptEndpoints_subset observer endpoints o
  obtain ⟨hnotifications, -, hunmatched⟩ := collectShm_counts observer endpoints directory o
  have hreaders := countP_eq_iff (dataSharingFiles directory) fun f _ ↦
    isSegmentOf_mono (readersOf_subset hsub) f
  have hnames := countP_eq_iff (dataSharingFiles directory)
    (p := fun f ↦ !isSegmentOf (nodeEndpoints observer endpoints) f)
    (q := fun f ↦ !isSegmentOf ((nodeEndpoints observer endpoints).filter (keepsEndpoint o)) f)
    fun f _ hnot ↦ by
      rw [Bool.not_eq_true', ← Bool.not_eq_true] at hnot ⊢
      exact fun hkept ↦ hnot (isSegmentOf_mono hsub f hkept)
  rw [hunmatched, hnotifications, hreaders, eq_comm, hnames]
  simp only [Bool.not_eq_true', ← Bool.not_eq_true, not_imp_not]
  constructor
  · rintro ⟨hendpoint, hreader⟩
    exact ⟨hreader, hendpoint⟩
  · rintro ⟨hreader, hendpoint⟩
    exact ⟨hendpoint, hreader⟩

/-- Every data-sharing file is a notification segment or a history. -/
theorem notifications_add_histories (observer : Observer) (endpoints : List Endpoint)
    (directory : Option ShmDirectory) (o : ViewOptions) :
    (dataSharingFiles directory).length =
      (collectShm observer endpoints directory o).datasharingNotifications +
        (collectShm observer endpoints directory o).datasharingHistories := by
  obtain ⟨hnotifications, hhistories, -⟩ := collectShm_counts observer endpoints directory o
  rw [hnotifications, hhistories]
  simpa using List.length_eq_countP_add_countP (l := dataSharingFiles directory)
    (isSegmentOf (readersOf ((nodeEndpoints observer endpoints).filter (keepsEndpoint o))))

/-- The counts of two views are those of everything discovered exactly when both views keep an endpoint
for every file that is named after a discovered one. -/
theorem countsIndependent_iff (observer : Observer) (endpoints : List Endpoint)
    (directory : Option ShmDirectory) (o o' : ViewOptions) :
    CountsIndependent observer endpoints directory o o' ↔
      FilesShown observer endpoints directory o ∧ FilesShown observer endpoints directory o' := by
  have hdocumented := documented_iff observer endpoints directory
  constructor
  · intro h
    refine ⟨(hdocumented o).mp ⟨h.unmatched_eq, h.notifications_eq⟩, (hdocumented o').mp ⟨?_, ?_⟩⟩
    · rw [← h.unmatched, h.unmatched_eq]
    · rw [← h.notifications, h.notifications_eq]
  · rintro ⟨hfirst, hsecond⟩
    obtain ⟨hunmatched, hnotifications⟩ := (hdocumented o).mpr hfirst
    obtain ⟨hunmatched', hnotifications'⟩ := (hdocumented o').mpr hsecond
    refine ⟨?_, hunmatched.trans hunmatched'.symm, hnotifications.trans hnotifications'.symm,
      hunmatched, hnotifications⟩
    have htotal := notifications_add_histories observer endpoints directory o
    have htotal' := notifications_add_histories observer endpoints directory o'
    omega

end View

/-! ## The files of distinct endpoints -/

section Names

/-- With distinct GUIDs a view must hide no endpoint that has a file here. -/
theorem filesShown_iff {endpoints : List Endpoint}
    (hguids : (endpoints.map Endpoint.guidBytes).Nodup) (observer : Observer)
    (directory : Option ShmDirectory) (o : ViewOptions) :
    FilesShown observer endpoints directory o ↔
      ∀ f ∈ dataSharingFiles directory, ∀ e ∈ nodeEndpoints observer endpoints,
        f.name = datasharingSegmentName e.guidBytes → keepsEndpoint o e = true := by
  constructor
  · intro h f hf e he hname
    obtain ⟨e', he', hname'⟩ := List.any_eq_true.mp
      (h.endpoint f hf (List.any_eq_true.mpr ⟨e, he, decide_eq_true hname⟩))
    obtain ⟨hmem, hkeeps⟩ := List.mem_filter.mp he'
    have hbytes : e'.guidBytes = e.guidBytes :=
      datasharingSegmentName_injective ((of_decide_eq_true hname').symm.trans hname)
    have hsame : e' = e := List.inj_on_of_nodup_map hguids (List.mem_filter.mp hmem).1
      (List.mem_filter.mp he).1 hbytes
    exact hsame ▸ hkeeps
  · intro h
    refine ⟨fun f hf hreader ↦ ?_, fun f hf hendpoint ↦ ?_⟩
    · obtain ⟨e, he, hname⟩ := List.any_eq_true.mp hreader
      obtain ⟨hmem, hside⟩ := List.mem_filter.mp he
      exact List.any_eq_true.mpr ⟨e, List.mem_filter.mpr ⟨List.mem_filter.mpr
        ⟨hmem, h f hf e hmem (of_decide_eq_true hname)⟩, hside⟩, hname⟩
    · obtain ⟨e, he, hname⟩ := List.any_eq_true.mp hendpoint
      exact List.any_eq_true.mpr ⟨e, List.mem_filter.mpr
        ⟨he, h f hf e he (of_decide_eq_true hname)⟩, hname⟩

end Names

section Hidden

def serviceWriter : Endpoint where
  isWriter := true
  guidBytes := guidOnHost 1 0x16
  ddsTopic := "rq/resetRequest"
  rosTopic := "/reset"

def historyOf (e : Endpoint) : ShmFile where
  name := datasharingSegmentName e.guidBytes
  size := 200

/-- The history of a service's writer is unmatched in the default view. -/
theorem serviceHistory_not_countsIndependent :
    ¬CountsIndependent {} [serviceWriter] (some { files := some [historyOf serviceWriter] })
      { all := true } {} := by
  intro h
  have hcounts : (collectShm {} [serviceWriter] (some { files := some [historyOf serviceWriter] })
        { all := true }).datasharingUnmatched = 0 ∧
      (collectShm {} [serviceWriter] (some { files := some [historyOf serviceWriter] })
        {}).datasharingUnmatched = 1 := by
    decide +kernel
  have hsame := h.unmatched
  rw [hcounts.1, hcounts.2] at hsame
  cases hsame

end Hidden

end TransportViz.Collect
