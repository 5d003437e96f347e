import TransportViz.Collect.DataSharingFiles
import TransportViz.Library.LastWrite

/-!
# Two views of the port locks

The probes of the port files feed two sets, from which the missing and the unknown ports are told, and a
map, from which the lock of each port is told. Two files can be of one port, as Fast DDS 2 and 3 name
them differently. The sets keep what both files say and the map keeps the file that is listed last.
-/

namespace TransportViz.Shm

open Collect LastWrite RosNames

/-! ## What a file adds -/

/-- The port whose ring buffer a file is, and the state of its lock. -/
def portEntry (f : ShmFile) : Option (String × LockState) :=
  if f.regular && !endsWith f.name kLockSuffix then
    (prefixOf f.name kPortPrefixes).bind fun first ↦
      if isDigits (restOf f.name first) then some (String.ofList (restOf f.name first), f.lock)
      else none
  else none

/-- The writer whose history a file is, and its size. -/
def historyEntry (input : ShmScanInput) (f : ShmFile) : Option (String × ℕ) :=
  if isDataSharingFile f && !input.datasharingReaders.contains f.name then
    (input.datasharingWriters.find? f.name).map fun writer ↦ (writer, f.size)
  else none

/-- What a file adds to the counts of a scan. -/
structure Found where
  bytes : ℕ := 0
  ports : ℕ := 0
  stalePorts : ℕ := 0
  segments : ℕ := 0
  staleSegments : ℕ := 0
  notifications : ℕ := 0
  histories : ℕ := 0
  unmatched : ℕ := 0
  readers : Finset String := ∅
  history : Option (String × ℕ) := none

def Found.addTo (found : Found) (info : ShmInfo) : ShmInfo :=
  { info with
    fastddsBytes := info.fastddsBytes + found.bytes
    ports := info.ports + found.ports
    stalePorts := info.stalePorts + found.stalePorts
    segments := info.segments + found.segments
    staleSegments := info.staleSegments + found.staleSegments
    datasharingNotifications := info.datasharingNotifications + found.notifications
    datasharingHistories := info.datasharingHistories + found.histories
    datasharingUnmatched := info.datasharingUnmatched + found.unmatched
    datasharingNotificationReaders := found.readers ∪ info.datasharingNotificationReaders
    datasharingByWriter := write info.datasharingByWriter found.history }

/-- The port of a file is noted in the two sets and in the map. -/
def notePort (scan : Scan) : Option (String × LockState) → Scan
  | some (port, lock) =>
      { scan with
        portsHeld := if lock = .held then insert port scan.portsHeld else scan.portsHeld
        portsUndecided := if lock = .free ∨ lock = .unknown then insert port scan.portsUndecided
          else scan.portsUndecided
        portStates := scan.portStates.set port lock }
  | none => scan

section Files

variable (input : ShmScanInput) (f : ShmFile)

theorem addTo_scanDataSharing (h : isDataSharingFile f = true) :
    ∃ found : Found, found.history = historyEntry input f ∧ ∀ info,
      scanDataSharing input { info with fastddsBytes := info.fastddsBytes + f.size } f =
        found.addTo info := by
  unfold scanDataSharing historyEntry
  cases hreader : input.datasharingReaders.find? f.name with
  | some reader =>
    refine ⟨{ bytes := f.size, notifications := 1, readers := {reader} }, ?_, fun info ↦ ?_⟩
    · simp [OrderedMap.contains, hreader]
    · simp only [Found.addTo, Finset.insert_eq, Nat.add_zero, write_none]
  | none =>
    cases hwriter : input.datasharingWriters.find? f.name with
    | some writer =>
      refine ⟨{ bytes := f.size, histories := 1, history := some (writer, f.size) }, ?_, fun info ↦ ?_⟩
      · simp [OrderedMap.contains, hreader, h]
      · simp [Found.addTo]
    | none =>
      refine ⟨{ bytes := f.size, histories := 1, unmatched := 1 }, ?_, fun info ↦ ?_⟩
      · simp
      · simp [Found.addTo]

theorem isSome_segment_of_port {first : String} (h : prefixOf f.name kPortPrefixes = some first) :
    (prefixOf f.name kSegmentPrefixes).isSome = true := by
  have hfirst := List.mem_of_find?_eq_some h
  have hstarts : startsWith f.name first = true := List.find?_some h
  rw [startsWith, List.isPrefixOf_iff_prefix] at hstarts
  have hsegment : ∃ segment ∈ kSegmentPrefixes, segment.toList <+: first.toList := by
    have hall : ∀ port ∈ kPortPrefixes, ∃ segment ∈ kSegmentPrefixes, segment.toList <+: port.toList := by
      decide
    exact hall first hfirst
  obtain ⟨segment, hmem, hbegins⟩ := hsegment
  rw [prefixOf, List.find?_isSome]
  exact ⟨segment, hmem, List.isPrefixOf_iff_prefix.mpr (hbegins.trans hstarts)⟩

theorem scanFile_datasharing (h : startsWith f.name kDataSharingPrefix = true) :
    ∃ found : Found, found.history = historyEntry input f ∧ ∀ scan : Scan,
      scanFile input scan f =
        notePort { scan with info := found.addTo scan.info } (portEntry f) := by
  obtain ⟨hsegment, hport⟩ := prefixOf_datasharing h
  have hentry : portEntry f = none := by simp [portEntry, hport]
  simp only [hentry, notePort, scanFile, hsegment, hport, h]
  cases hregular : f.regular with
  | false =>
    exact ⟨{}, by simp [historyEntry, isDataSharingFile, hregular], fun scan ↦ by simp [Found.addTo]⟩
  | true =>
    cases hlock : endsWith f.name kLockSuffix with
    | true =>
      exact ⟨{ bytes := f.size }, by simp [historyEntry, isDataSharingFile, hlock],
        fun scan ↦ by simp [Found.addTo]⟩
    | false =>
      obtain ⟨found, hhistory, hadd⟩ :=
        addTo_scanDataSharing input f (by simp [isDataSharingFile, hregular, h, hlock])
      exact ⟨found, hhistory, fun scan ↦ by simp [hadd]⟩

theorem scanFile_segment (h : startsWith f.name kDataSharingPrefix = false)
    (hport : prefixOf f.name kPortPrefixes = none) :
    ∃ found : Found, found.history = none ∧ ∀ scan : Scan,
      scanFile input scan f = { scan with info := found.addTo scan.info } := by
  simp only [scanFile, hport, h]
  by_cases hfile : (prefixOf f.name kSegmentPrefixes).isSome ∨ (prefixOf f.name kSemPrefixes).isSome
  · cases hregular : f.regular with
    | false => exact ⟨{}, rfl, fun scan ↦ by simp [Found.addTo]⟩
    | true =>
      cases hlock : endsWith f.name kLockSuffix with
      | true => exact ⟨{ bytes := f.size }, rfl, fun scan ↦ by simp [Found.addTo, hfile]⟩
      | false =>
        cases hsegment : prefixOf f.name kSegmentPrefixes with
        | none =>
          rw [hsegment] at hfile
          obtain ⟨sem, hsem⟩ := Option.isSome_iff_exists.mp (hfile.resolve_left Bool.false_ne_true)
          exact ⟨{ bytes := f.size }, rfl, fun scan ↦ by simp [Found.addTo, hsem]⟩
        | some first =>
          by_cases hhex : isHex (restOf f.name first) = true
          · exact ⟨{ bytes := f.size, segments := 1, staleSegments := if f.lock = .free then 1 else 0 },
              rfl, fun scan ↦ by simp [Found.addTo, hhex, scanSegment]⟩
          · exact ⟨{ bytes := f.size }, rfl, fun scan ↦ by simp [Found.addTo, hhex]⟩
  · exact ⟨{}, rfl, fun scan ↦ by simp [Found.addTo, hfile]⟩

theorem scanFile_port {first : String} (hport : prefixOf f.name kPortPrefixes = some first) :
    ∃ found : Found, found.history = none ∧ ∀ scan : Scan,
      scanFile input scan f =
        notePort { scan with info := found.addTo scan.info } (portEntry f) := by
  simp only [scanFile, hport, isSome_segment_of_port f hport, portEntry]
  cases hregular : f.regular with
  | false => exact ⟨{}, rfl, fun scan ↦ by simp [Found.addTo, notePort]⟩
  | true =>
    cases hlock : endsWith f.name kLockSuffix with
    | true => exact ⟨{ bytes := f.size }, rfl, fun scan ↦ by simp [Found.addTo, notePort]⟩
    | false =>
      by_cases hdigits : isDigits (restOf f.name first) = true
      · exact ⟨{ bytes := f.size, ports := 1, stalePorts := if f.lock = .free then 1 else 0 }, rfl,
          fun scan ↦ by simp [Found.addTo, notePort, scanPort, hdigits]⟩
      · exact ⟨{ bytes := f.size }, rfl, fun scan ↦ by simp [Found.addTo, notePort, hdigits]⟩

/-- A file adds to the counts whatever it adds, and notes its port. -/
theorem scanFile_spec :
    ∃ found : Found, found.history = historyEntry input f ∧ ∀ scan : Scan,
      scanFile input scan f =
        notePort { scan with info := found.addTo scan.info } (portEntry f) := by
  cases hstarts : startsWith f.name kDataSharingPrefix with
  | true => exact scanFile_datasharing input f hstarts
  | false =>
    have hhistory : historyEntry input f = none := by
      simp [historyEntry, isDataSharingFile, hstarts]
    rw [hhistory]
    cases hport : prefixOf f.name kPortPrefixes with
    | none =>
      have hentry : portEntry f = none := by simp [portEntry, hport]
      rw [hentry]
      exact scanFile_segment input f hstarts hport
    | some first => exact scanFile_port input f hport

end Files

/-! ## The files in some order -/

section Fold

variable (input : ShmScanInput) (files : List ShmFile) (scan : Scan)

theorem portStates_foldl (port : String) :
    (files.foldl (scanFile input) scan).portStates.find? port =
      (written portEntry port files).getLast?.or (scan.portStates.find? port) := by
  rw [← find?_foldl_write]
  refine congrArg (OrderedMap.find? · port) (List.foldl_hom Scan.portStates fun scan f ↦ ?_).symm
  obtain ⟨found, -, hstep⟩ := scanFile_spec input f
  rw [hstep]
  cases portEntry f <;> rfl

theorem mem_portsHeld_foldl (port : String) :
    port ∈ (files.foldl (scanFile input) scan).portsHeld ↔
      .held ∈ written portEntry port files ∨ port ∈ scan.portsHeld := by
  induction files generalizing scan with
  | nil => simp [written]
  | cons f rest ih =>
    obtain ⟨found, -, hstep⟩ := scanFile_spec input f
    rw [List.foldl_cons, ih, hstep, mem_written_iff, mem_written_iff]
    cases hentry : portEntry f with
    | none => simp [notePort, hentry]
    | some e =>
      simp only [notePort, List.mem_cons, exists_eq_or_imp, hentry, Option.some.injEq, Prod.ext_iff]
      split_ifs with hheld
      · grind
      · grind

theorem mem_portsUndecided_foldl (port : String) :
    port ∈ (files.foldl (scanFile input) scan).portsUndecided ↔
      (.free ∈ written portEntry port files ∨ .unknown ∈ written portEntry port files) ∨
        port ∈ scan.portsUndecided := by
  induction files generalizing scan with
  | nil => simp [written]
  | cons f rest ih =>
    obtain ⟨found, -, hstep⟩ := scanFile_spec input f
    rw [List.foldl_cons, ih, hstep]
    simp only [mem_written_iff]
    cases hentry : portEntry f with
    | none => simp [notePort, hentry]
    | some e =>
      simp only [notePort, List.mem_cons, exists_eq_or_imp, hentry, Option.some.injEq, Prod.ext_iff]
      split_ifs with hheld
      · grind
      · grind

/-- The counts of a scan, apart from the ports. -/
def scanInfo (info : ShmInfo) (f : ShmFile) : ShmInfo := (scanFile input { info := info } f).info

theorem exists_scanInfo (f : ShmFile) :
    ∃ found : Found, found.history = historyEntry input f ∧
      ∀ info, scanInfo input info f = found.addTo info := by
  obtain ⟨found, hhistory, hstep⟩ := scanFile_spec input f
  refine ⟨found, hhistory, fun info ↦ ?_⟩
  rw [scanInfo, hstep]
  cases portEntry f <;> rfl

theorem info_foldl :
    (files.foldl (scanFile input) scan).info = files.foldl (scanInfo input) scan.info := by
  refine (List.foldl_hom Scan.info fun scan f ↦ ?_).symm
  obtain ⟨found, -, hstep⟩ := scanFile_spec input f
  rw [scanInfo, hstep, hstep]
  cases portEntry f <;> rfl

theorem datasharingByWriter_foldl (info : ShmInfo) (writer : String) :
    (files.foldl (scanInfo input) info).datasharingByWriter.find? writer =
      (written (historyEntry input) writer files).getLast?.or
        (info.datasharingByWriter.find? writer) := by
  rw [← find?_foldl_write]
  refine congrArg (OrderedMap.find? · writer)
    (List.foldl_hom ShmInfo.datasharingByWriter fun info f ↦ ?_).symm
  obtain ⟨found, hhistory, hstep⟩ := exists_scanInfo input f
  rw [← hhistory, hstep]
  rfl

theorem ports_foldl (info : ShmInfo) :
    (files.foldl (scanInfo input) info).checkedPorts = info.checkedPorts ∧
      (files.foldl (scanInfo input) info).missingPorts = info.missingPorts ∧
      (files.foldl (scanInfo input) info).unknownPorts = info.unknownPorts ∧
      (files.foldl (scanInfo input) info).portLocks = info.portLocks := by
  induction files generalizing info with
  | nil => exact ⟨rfl, rfl, rfl, rfl⟩
  | cons f rest ih =>
    obtain ⟨found, -, hstep⟩ := exists_scanInfo input f
    rw [List.foldl_cons, hstep]
    exact ih (found.addTo info)

/-- Only sizes that are kept under one writer depend on the order. -/
theorem Found.addTo_comm (first second : Found) (info : ShmInfo)
    (h : ∀ e ∈ first.history, ∀ e' ∈ second.history, e.1 = e'.1 → e.2 = e'.2) :
    second.addTo (first.addTo info) = first.addTo (second.addTo info) := by
  have hmap : (second.addTo (first.addTo info)).datasharingByWriter =
      (first.addTo (second.addTo info)).datasharingByWriter := by
    apply OrderedMap.ext_find?
    intro writer
    simp only [Found.addTo]
    cases hfirst : first.history with
    | none => rfl
    | some e =>
      cases hsecond : second.history with
      | none => rfl
      | some e' =>
        have hsame := h e hfirst e' hsecond
        simp only [write_some, OrderedMap.find?_set]
        grind
  simp only [Found.addTo] at hmap ⊢
  rw [hmap]
  simp only [Nat.add_right_comm, Finset.union_left_comm]

/-- One size is kept under each writer. -/
def OneSize : Prop :=
  ∀ writer, ∀ size ∈ written (historyEntry input) writer files,
    ∀ size' ∈ written (historyEntry input) writer files, size = size'

theorem info_perm {other : List ShmFile} (hperm : other.Perm files) (hone : OneSize input files)
    (info : ShmInfo) : other.foldl (scanInfo input) info = files.foldl (scanInfo input) info := by
  apply hperm.foldl_eq'
  intro f hf g hg info
  obtain ⟨first, hfirst, hf'⟩ := exists_scanInfo input f
  obtain ⟨second, hsecond, hg'⟩ := exists_scanInfo input g
  have hcomm := Found.addTo_comm first second info (by
    intro e he e' he' hkey
    rw [hfirst] at he
    rw [hsecond] at he'
    refine hone e.1 e.2 (mem_written_iff.mpr ⟨f, hperm.mem_iff.mp hf, he⟩) e'.2
      (mem_written_iff.mpr ⟨g, hperm.mem_iff.mp hg, ?_⟩)
    rw [hkey]
    exact he')
  rw [hf', hg', hf', hg']
  exact hcomm

end Fold

/-! ## The ports -/

section Ports

variable (input : ShmScanInput) (scan : Scan)

/-- A port that is missing although its file is here. -/
def portUnknown (port : ℕ) : Bool :=
  portMissing input scan port ∧ port ∉ input.ownPorts ∧ toString port ∈ scan.portsUndecided

theorem foldl_checkPort (ports : List ℕ) (info : ShmInfo) :
    ports.foldl (checkPort input scan) info =
      { info with
        checkedPorts := info.checkedPorts ++ ports
        missingPorts := info.missingPorts ++ ports.filter (portMissing input scan)
        unknownPorts := info.unknownPorts ++ ports.filter (portUnknown input scan)
        portLocks := ports.foldl (fun locks port ↦ locks.set port (portLockOf input scan port))
          info.portLocks } := by
  induction ports generalizing info with
  | nil => simp
  | cons port rest ih =>
    rw [List.foldl_cons, ih]
    simp only [checkPort, List.append_assoc, List.singleton_append, List.filter_cons,
      List.foldl_cons, portUnknown, decide_eq_true_eq]
    split_ifs <;> rfl

/-- What follows the ports leaves them alone. -/
theorem concludeScan_ports :
    (concludeScan input scan).checkedPorts =
        scan.info.checkedPorts ++ input.nodePorts.sort (· ≤ ·) ∧
      (concludeScan input scan).missingPorts = scan.info.missingPorts ++
        (input.nodePorts.sort (· ≤ ·)).filter (portMissing input scan) ∧
      (concludeScan input scan).unknownPorts = scan.info.unknownPorts ++
        (input.nodePorts.sort (· ≤ ·)).filter (portUnknown input scan) ∧
      (concludeScan input scan).portLocks = (input.nodePorts.sort (· ≤ ·)).foldl
        (fun locks port ↦ locks.set port (portLockOf input scan port)) scan.info.portLocks ∧
      (concludeScan input scan).datasharingByWriter = scan.info.datasharingByWriter := by
  unfold concludeScan addCapacityWarning
  rw [foldl_checkPort]
  simp only
  split_ifs <;> exact ⟨rfl, rfl, rfl, rfl, rfl⟩

theorem concludeScan_congr {other : Scan} (hinfo : other.info = scan.info)
    (hport : ∀ port ∈ input.nodePorts, portMissing input other port = portMissing input scan port ∧
      portUnknown input other port = portUnknown input scan port ∧
      portLockOf input other port = portLockOf input scan port) :
    concludeScan input other = concludeScan input scan := by
  have hsorted (port : ℕ) (h : port ∈ input.nodePorts.sort (· ≤ ·)) : port ∈ input.nodePorts :=
    (Finset.mem_sort _).mp h
  unfold concludeScan
  rw [foldl_checkPort, foldl_checkPort, hinfo,
    List.filter_congr fun port h ↦ (hport port (hsorted port h)).1,
    List.filter_congr fun port h ↦ (hport port (hsorted port h)).2.1,
    List.foldl_ext _ _ _ fun locks port h ↦ by rw [(hport port (hsorted port h)).2.2]]

end Ports

/-! ## Specification -/

section Specification

variable (input : ShmScanInput)

/-- The two views tell the same of every checked port. -/
structure ViewsAgree (info : ShmInfo) : Prop where
  held_iff : ∀ port ∈ info.checkedPorts, port ∉ input.ownPorts →
    (info.portLocks.find? port = some .held ↔ port ∉ info.missingPorts)
  undecided_iff : ∀ port ∈ info.checkedPorts, port ∉ input.ownPorts →
    (info.portLocks.find? port = some .stale ∨ info.portLocks.find? port = some .unknown ↔
      port ∈ info.unknownPorts)
  absent_iff : ∀ port ∈ info.checkedPorts, port ∉ input.ownPorts →
    (info.portLocks.find? port = some .absent ↔
      port ∈ info.missingPorts ∧ port ∉ info.unknownPorts)
  own : ∀ port ∈ info.checkedPorts, port ∈ input.ownPorts →
    port ∈ info.missingPorts ∧ port ∉ info.unknownPorts ∧ info.portLocks.find? port = some .own

/-- The scan of a directory whose files are listed in the given order. -/
def scanListed (directory : ShmDirectory) (files : List ShmFile) : ShmInfo :=
  scanShm input (some { directory with files := some files })

/-- In whatever order the files are listed, the views agree and the result is the same. -/
structure LockViews (directory : ShmDirectory) (files : List ShmFile) : Prop where
  agree : ∀ order : List ShmFile, order.Perm files →
    ViewsAgree input (scanListed input directory order)
  order : ∀ order : List ShmFile, order.Perm files →
    scanListed input directory order = scanListed input directory files

/-- The states of the lock files of one port. -/
def locksOf (files : List ShmFile) (port : ℕ) : List LockState :=
  written portEntry (toString port) files

/-- No two files of a port of the nodes are in different states. -/
def OneLock (files : List ShmFile) : Prop :=
  ∀ port ∈ input.nodePorts, port ∉ input.ownPorts →
    ∀ lock ∈ locksOf files port, ∀ lock' ∈ locksOf files port, lock = lock'

end Specification

/-! ## What the two views tell -/

section Views

variable {input : ShmScanInput} (directory : ShmDirectory) (files : List ShmFile) {port : ℕ}

def lockText : Option LockState → PortLock
  | none => .absent
  | some .held => .held
  | some .free => .stale
  | some .missing => .absent
  | some .unknown => .unknown

/-- What the scan finds of a port. -/
structure PortSeen (input : ShmScanInput) (files : List ShmFile) (info : ShmInfo) (port : ℕ) :
    Prop where
  missing_iff : port ∈ info.missingPorts ↔ port ∈ input.ownPorts ∨ .held ∉ locksOf files port
  unknown_iff : port ∈ info.unknownPorts ↔ port ∉ input.ownPorts ∧ .held ∉ locksOf files port ∧
    (.free ∈ locksOf files port ∨ .unknown ∈ locksOf files port)
  lock_eq : info.portLocks.find? port =
    some (if port ∈ input.ownPorts then .own else lockText (locksOf files port).getLast?)

/-- The walk over the files of a directory. -/
def walkFiles (input : ShmScanInput) (directory : ShmDirectory) (files : List ShmFile) : Scan :=
  files.foldl (scanFile input) { info := {
    available := true
    totalBytes := directory.totalBytes
    usedBytes := directory.usedBytes
    freeBytes := directory.freeBytes
    listed := true } }

theorem scanListed_eq :
    scanListed input directory files = concludeScan input (walkFiles input directory files) := rfl

theorem portMissing_walk : portMissing input (walkFiles input directory files) port =
    decide (port ∈ input.ownPorts ∨ .held ∉ locksOf files port) := by
  simp [portMissing, walkFiles, mem_portsHeld_foldl, locksOf]

theorem portUnknown_walk : portUnknown input (walkFiles input directory files) port =
    decide (port ∉ input.ownPorts ∧ .held ∉ locksOf files port ∧
      (.free ∈ locksOf files port ∨ .unknown ∈ locksOf files port)) := by
  simp only [portUnknown, portMissing_walk]
  simp only [walkFiles, mem_portsUndecided_foldl, locksOf]
  grind

theorem portLockOf_walk : portLockOf input (walkFiles input directory files) port =
    if port ∈ input.ownPorts then .own else lockText (locksOf files port).getLast? := by
  unfold portLockOf walkFiles
  rw [portStates_foldl]
  simp only [OrderedMap.find?_empty, Option.or_none, locksOf]
  rfl

/-- The ports of a scan are those of the nodes. -/
theorem scanListed_ports :
    (scanListed input directory files).checkedPorts = input.nodePorts.sort (· ≤ ·) ∧
      (scanListed input directory files).missingPorts = (input.nodePorts.sort (· ≤ ·)).filter
        (portMissing input (walkFiles input directory files)) ∧
      (scanListed input directory files).unknownPorts = (input.nodePorts.sort (· ≤ ·)).filter
        (portUnknown input (walkFiles input directory files)) ∧
      (scanListed input directory files).portLocks = (input.nodePorts.sort (· ≤ ·)).foldl
        (fun locks port ↦ locks.set port
          (portLockOf input (walkFiles input directory files) port)) .empty ∧
      (scanListed input directory files).datasharingByWriter =
        (walkFiles input directory files).info.datasharingByWriter := by
  obtain ⟨hchecked, hmissing, hunknown, hlocks, hwriters⟩ :=
    concludeScan_ports input (walkFiles input directory files)
  obtain ⟨hchecked', hmissing', hunknown', hlocks'⟩ := ports_foldl input files {
    available := true
    totalBytes := directory.totalBytes
    usedBytes := directory.usedBytes
    freeBytes := directory.freeBytes
    listed := true }
  have hinfo := info_foldl input files { info := {
    available := true
    totalBytes := directory.totalBytes
    usedBytes := directory.usedBytes
    freeBytes := directory.freeBytes
    listed := true } }
  rw [scanListed_eq, hchecked, hmissing, hunknown, hlocks, hwriters, walkFiles, hinfo, hchecked',
    hmissing', hunknown', hlocks']
  exact ⟨rfl, rfl, rfl, rfl, rfl⟩

theorem mem_checkedPorts_iff :
    port ∈ (scanListed input directory files).checkedPorts ↔ port ∈ input.nodePorts := by
  rw [(scanListed_ports directory files).1, Finset.mem_sort]

theorem portSeen_scanListed (h : port ∈ input.nodePorts) :
    PortSeen input files (scanListed input directory files) port := by
  obtain ⟨-, hmissing, hunknown, hlocks, -⟩ := @scanListed_ports input directory files
  constructor
  · rw [hmissing, List.mem_filter, Finset.mem_sort, portMissing_walk, decide_eq_true_eq,
      and_iff_right h]
  · rw [hunknown, List.mem_filter, Finset.mem_sort, portUnknown_walk, decide_eq_true_eq,
      and_iff_right h]
  · rw [hlocks, find?_foldl_set, if_pos ((Finset.mem_sort _).mpr h), portLockOf_walk]

theorem find?_datasharingByWriter (writer : String) :
    (scanListed input directory files).datasharingByWriter.find? writer =
      (written (historyEntry input) writer files).getLast? := by
  rw [(scanListed_ports directory files).2.2.2.2, walkFiles, info_foldl, datasharingByWriter_foldl]
  exact Option.or_none

end Views

/-! ## When the views agree -/

section Agreement

variable {input : ShmScanInput} (directory : ShmDirectory) {files order : List ShmFile}

theorem oneLock_perm (h : OneLock input files) (hperm : order.Perm files) : OneLock input order := by
  intro port hport hown lock hlock lock' hlock'
  have hmem := written_perm portEntry (toString port) hperm
  exact h port hport hown lock (hmem.mem_iff.mp hlock) lock' (hmem.mem_iff.mp hlock')

/-- With one state per port the last one is the state of all. -/
theorem PortSeen.agree {info : ShmInfo} {port : ℕ} (hseen : PortSeen input files info port)
    (hown : port ∉ input.ownPorts)
    (hone : ∀ lock ∈ locksOf files port, ∀ lock' ∈ locksOf files port, lock = lock') :
    (info.portLocks.find? port = some .held ↔ port ∉ info.missingPorts) ∧
      (info.portLocks.find? port = some .stale ∨ info.portLocks.find? port = some .unknown ↔
        port ∈ info.unknownPorts) ∧
      (info.portLocks.find? port = some .absent ↔
        port ∈ info.missingPorts ∧ port ∉ info.unknownPorts) := by
  rw [hseen.missing_iff, hseen.unknown_iff, hseen.lock_eq, if_neg hown]
  cases hlast : (locksOf files port).getLast? with
  | none =>
    rw [List.getLast?_eq_none_iff.mp hlast]
    simp [lockText, hown]
  | some lock =>
    have hmem (other : LockState) : other ∈ locksOf files port ↔ other = lock := by
      have hlock := List.mem_of_getLast? hlast
      exact ⟨fun hother ↦ hone other hother lock hlock, fun heq ↦ heq ▸ hlock⟩
    simp only [hmem]
    cases lock <;> simp [lockText, hown]

theorem viewsAgree_of_oneLock (h : OneLock input files) :
    ViewsAgree input (scanListed input directory files) := by
  have hseen (port : ℕ) (hport : port ∈ (scanListed input directory files).checkedPorts) :=
    portSeen_scanListed directory files ((mem_checkedPorts_iff directory files).mp hport)
  have hone (port : ℕ) (hport : port ∈ (scanListed input directory files).checkedPorts) :=
    h port ((mem_checkedPorts_iff directory files).mp hport)
  constructor
  · intro port hport hown
    exact ((hseen port hport).agree hown (hone port hport hown)).1
  · intro port hport hown
    exact ((hseen port hport).agree hown (hone port hport hown)).2.1
  · intro port hport hown
    exact ((hseen port hport).agree hown (hone port hport hown)).2.2
  · intro port hport hown
    rw [(hseen port hport).missing_iff, (hseen port hport).unknown_iff, (hseen port hport).lock_eq,
      if_pos hown]
    exact ⟨Or.inl hown, fun hunknown ↦ hunknown.1 hown, rfl⟩

theorem scanListed_perm (hlock : OneLock input files) (hsize : OneSize input files)
    (hperm : order.Perm files) :
    scanListed input directory order = scanListed input directory files := by
  rw [scanListed_eq, scanListed_eq]
  apply concludeScan_congr
  · rw [walkFiles, walkFiles, info_foldl, info_foldl]
    exact info_perm input files hperm hsize _
  · intro port hport
    have hmem (lock : LockState) : lock ∈ locksOf order port ↔ lock ∈ locksOf files port :=
      (written_perm portEntry (toString port) hperm).mem_iff
    refine ⟨?_, ?_, ?_⟩
    · simp only [portMissing_walk, hmem]
    · simp only [portUnknown_walk, hmem]
    · rw [portLockOf_walk, portLockOf_walk]
      split_ifs with hown
      · rfl
      · rw [locksOf, locksOf, getLast?_eq_of_perm hperm (hlock port hport hown)]

theorem lockText_injective {lock lock' : LockState} (h : lockText (some lock) = lockText (some lock')) :
    lock = lock' := by
  cases lock <;> cases lock' <;> first | rfl | cases h

/-- Two states of one port are told in two orders. -/
theorem oneLock_of_order (h : ∀ order : List ShmFile, order.Perm files →
    scanListed input directory order = scanListed input directory files) : OneLock input files := by
  intro port hport hown lock hlock lock' hlock'
  have htold (state : LockState) (hstate : state ∈ locksOf files port) :
      (scanListed input directory files).portLocks.find? port = some (lockText (some state)) := by
    obtain ⟨order, hperm, hlast⟩ := exists_perm_getLast? hstate
    rw [← h order hperm, (portSeen_scanListed directory order hport).lock_eq, if_neg hown, locksOf, hlast]
  exact lockText_injective (Option.some.inj ((htold lock hlock).symm.trans (htold lock' hlock')))

theorem oneSize_of_order (h : ∀ order : List ShmFile, order.Perm files →
    scanListed input directory order = scanListed input directory files) : OneSize input files := by
  intro writer
  rw [← getLast?_perm_iff]
  intro order hperm
  rw [← find?_datasharingByWriter directory, h order hperm, find?_datasharingByWriter]

end Agreement

/-- The views agree and the order does not matter exactly when no port has files in different states, and
no writer files of different sizes. -/
theorem lockViews_iff (input : ShmScanInput) (directory : ShmDirectory) (files : List ShmFile) :
    LockViews input directory files ↔ OneLock input files ∧ OneSize input files := by
  constructor
  · intro h
    exact ⟨oneLock_of_order directory h.order, oneSize_of_order directory h.order⟩
  · intro ⟨hlock, hsize⟩
    exact ⟨fun order hperm ↦ viewsAgree_of_oneLock directory (oneLock_perm hlock hperm),
      fun order hperm ↦ scanListed_perm directory hlock hsize hperm⟩

/-- A port that a node of Fast DDS 2 listens on, and one of Fast DDS 3 has left. -/
def sharedPort : List ShmFile :=
  [{ name := "fastrtps_port7411", lock := .held }, { name := "fastdds_port7411" }]

/-- The port is not missing, and its lock is told to be absent. -/
theorem sharedPort_not_viewsAgree :
    ¬LockViews { nodePorts := {7411} } {} sharedPort ∧
      (scanListed { nodePorts := {7411} } {} sharedPort).missingPorts = [] ∧
      (scanListed { nodePorts := {7411} } {} sharedPort).portLocks.find? 7411 = some .absent := by
  have hmissing : (scanListed { nodePorts := {7411} } {} sharedPort).missingPorts = [] := by
    decide +kernel
  have hlock : (scanListed { nodePorts := {7411} } {} sharedPort).portLocks.find? 7411 =
      some .absent := by decide +kernel
  refine ⟨fun h ↦ ?_, hmissing, hlock⟩
  have habsent := (h.agree sharedPort (.refl _)).absent_iff 7411 (by decide +kernel) (by simp)
  rw [hmissing] at habsent
  exact absurd (habsent.mp hlock).1 List.not_mem_nil

end TransportViz.Shm
