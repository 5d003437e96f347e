import Mathlib.Data.Finset.Sort
import TransportViz.Library.Delimited
import TransportViz.Library.OrderedMap
import TransportViz.Model.RosNames
import TransportViz.Model.Text

/-!
# The shared memory directory

`scanShm` walks the files of the directory once: port ring buffers, segments and data-sharing files, in
this order of branches. The data-sharing files are told apart by two tables of names.
-/

namespace TransportViz.Shm

open RosNames

/-! ## Files and their names -/

def kSegmentPrefixes : List String := ["fastrtps_", "fastdds_"]

def kPortPrefixes : List String := ["fastrtps_port", "fastdds_port"]

def kSemPrefixes : List String := ["sem.fastrtps_", "sem.fastdds_"]

def kDataSharingPrefix : String := "fast_datasharing_"

def kLockSuffix : String := "_el"

/-- The prefix of `s` among the given ones. -/
def prefixOf (s : String) (prefixes : List String) : Option String := prefixes.find? (startsWith s)

/-- What follows a prefix. -/
def restOf (s first : String) : List Char := s.toList.drop first.toList.length

def isHex (s : List Char) : Bool :=
  !s.isEmpty && s.all fun c ↦ ('0' ≤ c && c ≤ '9') || ('a' ≤ c && c ≤ 'f')

def isDigits (s : List Char) : Bool := !s.isEmpty && s.all fun c ↦ '0' ≤ c && c ≤ '9'

/-- Whether somebody holds the lock file. -/
inductive LockState
  | held
  | free
  | missing
  | unknown
  deriving DecidableEq

/-- An entry of the listing, with the state of the lock file that is named after it. -/
structure ShmFile where
  name : String
  regular : Bool := true
  size : ℕ := 0
  lock : LockState := .missing

/-- What the file system says of the directory; `files` is `none` when it cannot be listed. -/
structure ShmDirectory where
  totalBytes : ℕ := 0
  usedBytes : ℕ := 0
  freeBytes : ℕ := 0
  files : Option (List ShmFile) := none

/-- `%x` of one byte. -/
def hexUnpadded (byte : UInt8) : List Char :=
  if byte.toNat < 16 then [hexDigit (Fin.ofNat 16 byte.toNat)] else hexByte byte

/-- Bytes without zero padding, with a dot between two of them. -/
def dottedUnpadded : List UInt8 → List Char
  | [] => []
  | byte :: rest => hexUnpadded byte ++ rest.flatMap fun next ↦ '.' :: hexUnpadded next

/-- The data-sharing file of an endpoint: a writer's history, a reader's notification segment. -/
def datasharingSegmentName (guid : GuidBytes) : String :=
  String.ofList (kDataSharingPrefix.toList ++ (dottedBytes (guid.toList.take 12) ++
    '_' :: dottedUnpadded (guid.toList.drop 12)))

section Names

theorem mem_hexUnpadded (byte : UInt8) (c : Char) (h : c ∈ hexUnpadded byte) :
    c ∈ "0123456789abcdef".toList := by
  have hdigit : ∀ n : Fin 16, hexDigit n ∈ "0123456789abcdef".toList := by decide
  unfold hexUnpadded hexByte at h
  split_ifs at h
  · rw [List.mem_singleton.mp h]
    exact hdigit _
  · simp only [List.mem_cons, List.not_mem_nil, or_false] at h
    rcases h with rfl | rfl <;> exact hdigit _

theorem dot_notMem_hexUnpadded (byte : UInt8) : '.' ∉ hexUnpadded byte := fun h ↦
  absurd (mem_hexUnpadded byte '.' h) (by decide)

theorem hexUnpadded_injective : Function.Injective hexUnpadded := by
  intro a b h
  unfold hexUnpadded at h
  split_ifs at h with ha hb hb
  · have hdigit := congrArg Fin.val (hexDigit_injective (List.singleton_inj.mp h))
    simp only [Fin.val_ofNat] at hdigit
    refine UInt8.toNat_inj.mp ?_
    omega
  · exact absurd (congrArg List.length h) (by simp [hexByte])
  · exact absurd (congrArg List.length h) (by simp [hexByte])
  · exact hexByte_injective h

/-- The bytes are read back at the dots between them. -/
theorem dottedUnpadded_injective : Function.Injective dottedUnpadded := by
  have hne (byte : UInt8) (rest : List Char) : hexUnpadded byte ++ rest ≠ [] := by
    unfold hexUnpadded hexByte
    split_ifs <;> simp
  intro a
  induction a with
  | nil =>
    intro b h
    cases b with
    | nil => rfl
    | cons byte rest => exact absurd h.symm (hne _ _)
  | cons byte rest ih =>
    intro b h
    cases b with
    | nil => exact absurd h (hne _ _)
    | cons other more =>
      cases rest with
      | nil =>
        cases more with
        | nil =>
          have hbyte : byte = other := hexUnpadded_injective (by simpa [dottedUnpadded] using h)
          rw [hbyte]
        | cons next last =>
          have hmem : '.' ∈ dottedUnpadded [byte] := by
            rw [h]
            simp [dottedUnpadded]
          exact absurd (by simpa [dottedUnpadded] using hmem) (dot_notMem_hexUnpadded byte)
      | cons next last =>
        cases more with
        | nil =>
          have hmem : '.' ∈ dottedUnpadded [other] := by
            rw [← h]
            simp [dottedUnpadded]
          exact absurd (by simpa [dottedUnpadded] using hmem) (dot_notMem_hexUnpadded other)
        | cons next' last' =>
          have hsplit : hexUnpadded byte ++ '.' :: dottedUnpadded (next :: last) =
              hexUnpadded other ++ '.' :: dottedUnpadded (next' :: last') := by
            simpa [dottedUnpadded] using h
          obtain ⟨hhead, hrest⟩ := Delimited.eq_of_append_cons_left (dot_notMem_hexUnpadded _)
            (dot_notMem_hexUnpadded _) hsplit
          rw [hexUnpadded_injective hhead, ih hrest]

/-- A segment name names its endpoint. -/
theorem datasharingSegmentName_injective : Function.Injective datasharingSegmentName := by
  intro a b h
  have hchars := String.ofList_injective h
  rw [List.append_right_inj] at hchars
  have hplain (bytes : List UInt8) : '_' ∉ dottedBytes bytes := fun hmem ↦
    absurd (mem_dottedBytes bytes '_' hmem) (by decide)
  obtain ⟨hparticipant, hentity⟩ := Delimited.eq_of_append_cons_left (hplain _) (hplain _) hchars
  refine Subtype.ext ?_
  have htake := dottedBytes_injective hparticipant
  have hdrop := dottedUnpadded_injective hentity
  calc
    a.toList = a.toList.take 12 ++ a.toList.drop 12 := (List.take_append_drop 12 _).symm
    _ = b.toList.take 12 ++ b.toList.drop 12 := by rw [htake, hdrop]
    _ = b.toList := List.take_append_drop 12 _

end Names

/-! ## The scan -/

/-- What discovery knows that the scan needs. -/
structure ShmScanInput where
  nodePorts : Finset ℕ := ∅
  ownPorts : Finset ℕ := ∅
  otherHostParticipants : ℕ := 0
  datasharingWriters : OrderedMap String String := .empty
  datasharingReaders : OrderedMap String String := .empty

/-- The scan while the files are walked. -/
structure Scan where
  info : ShmInfo
  portsHeld : Finset String := ∅
  /-- Ports whose lock is free or could not be probed. -/
  portsUndecided : Finset String := ∅
  portStates : OrderedMap String LockState := .empty

def scanPort (scan : Scan) (f : ShmFile) (port : String) : Scan :=
  let info := scan.info
  { info := { info with
      ports := info.ports + 1
      stalePorts := info.stalePorts + if f.lock = .free then 1 else 0 }
    portsHeld := if f.lock = .held then insert port scan.portsHeld else scan.portsHeld
    portsUndecided := if f.lock = .free ∨ f.lock = .unknown then insert port scan.portsUndecided
      else scan.portsUndecided
    portStates := scan.portStates.set port f.lock }

def scanSegment (info : ShmInfo) (f : ShmFile) : ShmInfo :=
  { info with
    segments := info.segments + 1
    staleSegments := info.staleSegments + if f.lock = .free then 1 else 0 }

/-- A notification segment of a reader of the table, or else a history. -/
def scanDataSharing (input : ShmScanInput) (info : ShmInfo) (f : ShmFile) : ShmInfo :=
  match input.datasharingReaders.find? f.name with
  | some reader =>
      { info with
        datasharingNotifications := info.datasharingNotifications + 1
        datasharingNotificationReaders := insert reader info.datasharingNotificationReaders }
  | none =>
      let info := { info with datasharingHistories := info.datasharingHistories + 1 }
      match input.datasharingWriters.find? f.name with
      | none => { info with datasharingUnmatched := info.datasharingUnmatched + 1 }
      | some writer =>
          { info with datasharingByWriter := info.datasharingByWriter.set writer f.size }

def scanFile (input : ShmScanInput) (scan : Scan) (f : ShmFile) : Scan :=
  let segmentPrefix := prefixOf f.name kSegmentPrefixes
  if ¬(segmentPrefix.isSome ∨ startsWith f.name kDataSharingPrefix ∨
      (prefixOf f.name kSemPrefixes).isSome) then scan
  else if ¬f.regular then scan
  else
    let scan := { scan with
      info := { scan.info with fastddsBytes := scan.info.fastddsBytes + f.size } }
    if endsWith f.name kLockSuffix then scan
    else
      match prefixOf f.name kPortPrefixes, segmentPrefix with
      | some first, _ =>
          if isDigits (restOf f.name first) then
            scanPort scan f (String.ofList (restOf f.name first))
          else scan
      | none, some first =>
          if isHex (restOf f.name first) then { scan with info := scanSegment scan.info f }
          else scan
      | none, none =>
          if startsWith f.name kDataSharingPrefix then
            { scan with info := scanDataSharing input scan.info f }
          else scan

/-! ## Ports and warnings -/

def portLockOf (input : ShmScanInput) (scan : Scan) (port : ℕ) : PortLock :=
  if port ∈ input.ownPorts then .own
  else
    match scan.portStates.find? (toString port) with
    | none => .absent
    | some .held => .held
    | some .free => .stale
    | some .missing => .absent
    | some .unknown => .unknown

/-- Nobody holds the port here, or it is one of the tool's own. -/
def portMissing (input : ShmScanInput) (scan : Scan) (port : ℕ) : Bool :=
  port ∈ input.ownPorts || toString port ∉ scan.portsHeld

def checkPort (input : ShmScanInput) (scan : Scan) (info : ShmInfo) (port : ℕ) : ShmInfo :=
  { info with
    checkedPorts := info.checkedPorts ++ [port]
    missingPorts := info.missingPorts ++ if portMissing input scan port then [port] else []
    unknownPorts := info.unknownPorts ++
      if portMissing input scan port ∧ port ∉ input.ownPorts ∧
        toString port ∈ scan.portsUndecided then [port] else []
    portLocks := info.portLocks.set port (portLockOf input scan port) }

def kNearlyFullFreeBytes : ℕ := 16 * 1024 * 1024

/-- 90 % used, in exact arithmetic, or hardly anything free. -/
def addCapacityWarning (info : ShmInfo) : ShmInfo :=
  if 0 < info.totalBytes ∧ (info.freeBytes < kNearlyFullFreeBytes ∨
      9 * info.totalBytes ≤ 10 * info.usedBytes) then
    { info with warnings := info.warnings ++ ["shm-nearly-full"] }
  else info

def concludeScan (input : ShmScanInput) (scan : Scan) : ShmInfo :=
  let info := (input.nodePorts.sort (· ≤ ·)).foldl (checkPort input scan) scan.info
  let info := { info with
    otherHostParticipants := input.otherHostParticipants
    nodesVisible := info.missingPorts = [] ∧ input.otherHostParticipants = 0 }
  let info := if info.nodesVisible then info
    else
      let info := { info with warnings := info.warnings ++ ["shm-not-visible"] }
      -- nothing here belongs to the observed nodes: leftovers are not their problem
      if info.missingPorts.length = info.checkedPorts.length then
        { info with
          staleSegments := 0
          stalePorts := 0 }
      else info
  let info := if 0 < info.staleSegments + info.stalePorts then
      { info with warnings := info.warnings ++ ["shm-stale-files"] }
    else info
  addCapacityWarning info

def scanShm (input : ShmScanInput) (directory : Option ShmDirectory) : ShmInfo :=
  match directory with
  | none => {}
  | some directory =>
    let info : ShmInfo :=
      { available := true
        totalBytes := directory.totalBytes
        usedBytes := directory.usedBytes
        freeBytes := directory.freeBytes }
    match directory.files with
    | none => info
    | some files =>
        concludeScan input (files.foldl (scanFile input) { info := { info with listed := true } })

end TransportViz.Shm
