import TransportViz.Collect.SegmentNames
import TransportViz.Library.Multimap
import TransportViz.Observer.Announcements
import TransportViz.Shm.Visibility

/-!
# The participants of an observation

Every discovered participant is reported with the SHM ports its endpoints announce: what the lock file of
the port says, how many participants announce the port, and whether it can prove anything. These are what
its visibility was judged by, so that the verdict can be found again from the report alone.
-/

namespace TransportViz.Collect

open Shm LastWrite

open TransportViz.Observer (ParticipantData)

/-! ## Ports -/

/-- The SHM ports announced by the endpoints that count, with their participants. -/
def announcedPorts (counts : Endpoint → Bool) (endpoints : List Endpoint) : List (String × ℕ) :=
  (endpoints.filter counts).flatMap fun e ↦
    (e.unicast.filter fun l ↦ l.kind = .shm).map fun l ↦ (e.participantGuidPrefix, l.port)

variable (observer : Observer)

def isLocal (e : Endpoint) : Bool := e.hostId = observer.localHost

def participantPorts (endpoints : List Endpoint) : OrderedMap String (Finset ℕ) :=
  Multimap.group (announcedPorts (isLocal observer) endpoints)

def shmPortsByParticipant (endpoints : List Endpoint) : OrderedMap String (Finset ℕ) :=
  Multimap.group (announcedPorts (fun e ↦ !isOwn observer e && isLocal observer e) endpoints)

/-- Without the ports that only the ros_discovery_info reader announces. -/
def shmProofPortsByParticipant (endpoints : List Endpoint) : OrderedMap String (Finset ℕ) :=
  Multimap.group (announcedPorts
    (fun e ↦ !isOwn observer e && isLocal observer e && (e.isWriter || e.ddsTopic ≠ "ros_discovery_info"))
    endpoints)

/-- How many participants announce each port. -/
def participantsPerPort (ports : OrderedMap String (Finset ℕ)) : OrderedMap ℕ ℕ :=
  Multimap.tally ports

/-! ## The endpoints -/

/-- Where the participant of an endpoint listens. -/
def attributePorts (endpoints : List Endpoint) (shm : ShmInfo) (e : Endpoint) : Endpoint :=
  match (shmPortsByParticipant observer endpoints).find? e.participantGuidPrefix with
  | none => e
  | some ports =>
    let proof := ((shmProofPortsByParticipant observer endpoints).find? e.participantGuidPrefix).getD ∅
    { e with
      participantShmPorts := ports
      participantShmVisibility := participantShmVisibility proof shm
        (participantsPerPort (shmPortsByParticipant observer endpoints)) ports }

/-- The kept endpoints, once the shared memory is scanned. -/
def attributedEndpoints (endpoints : List Endpoint) (shm : ShmInfo) (o : ViewOptions) :
    List Endpoint :=
  (keptEndpoints observer endpoints o).map fun e ↦
    attributePorts observer endpoints shm (attributeSegment observer shm e)

/-! ## The report -/

/-- What a live participant announced about itself. -/
def announcedParticipant (guidPrefix : String) (data : ParticipantData) : Participant where
  guidPrefix := guidPrefix
  hostId := data.hostId
  own := guidPrefix ∈ observer.ownPrefixes
  discoveryProtocol := data.discoveryProtocol
  name := data.name
  vendor := data.vendor
  metatrafficLocators := data.metatrafficLocators

/-- What an endpoint tells of its participant. -/
def noteParticipant (e : Endpoint) (p : Option Participant) : Participant :=
  { p.getD {} with
    guidPrefix := e.participantGuidPrefix
    hostId := e.hostId
    hostName := e.hostName
    own := isOwn observer e }

def discoveredParticipants (data : OrderedMap String ParticipantData) (endpoints : List Endpoint) :
    OrderedMap String Participant :=
  endpoints.foldl (fun map e ↦ map.alter e.participantGuidPrefix (noteParticipant observer e))
    (.ofList (data.entries.map fun row ↦ (row.1, announcedParticipant observer row.1 row.2)))

def shmPort (shm : ShmInfo) (announcing : OrderedMap ℕ ℕ) (proof : Finset ℕ) (own : Bool) (port : ℕ) :
    ShmPort where
  port := port
  lock := (shm.portLocks.find? port).getD (if own && shm.listed then .own else .unprobed)
  announcedBy := (announcing.find? port).getD 0
  proof := !own && port ∈ proof

def reportPorts (endpoints : List Endpoint) (shm : ShmInfo) (p : Participant) : Participant :=
  match (participantPorts observer endpoints).find? p.guidPrefix with
  | none => p
  | some ports =>
    let announcing := participantsPerPort (participantPorts observer endpoints)
    let proof := ((shmProofPortsByParticipant observer endpoints).find? p.guidPrefix).getD ∅
    { p with
      shmPorts := p.shmPorts ++ (ports.sort (· ≤ ·)).map (shmPort shm announcing proof p.own)
      shmVisibility :=
        if p.own then p.shmVisibility
        else participantShmVisibility proof shm
          (participantsPerPort (shmPortsByParticipant observer endpoints)) ports }

/-- The first name reported for each host id. -/
def hostNames (participants : List Participant) : OrderedMap HostId String :=
  (participants.filter fun p ↦ p.hostName ≠ "").foldl
    (fun names p ↦ names.alter p.hostId fun name ↦ name.getD p.hostName) .empty

/-- A participant without endpoints takes the name that others report for its host. -/
def fillHostName (names : OrderedMap HostId String) (p : Participant) : Participant :=
  if p.hostName = "" then { p with hostName := (names.find? p.hostId).getD p.hostName } else p

/-! ## Discovery Servers -/

def isDiscoveryServer (p : Participant) : Bool :=
  p.discoveryProtocol = "SERVER" || p.discoveryProtocol = "BACKUP"

def isDiscoveryClient (p : Participant) : Bool :=
  !p.own && (p.discoveryProtocol = "CLIENT" || p.discoveryProtocol = "SUPER_CLIENT")

/-- The only server, or under Easy Mode the only automatic one on the host. -/
def discoveryServerOf (servers : List Participant) (easyMode : Bool) (p : Participant) : Option String :=
  if ¬isDiscoveryClient p then none
  else if easyMode then
    match servers.filter fun s ↦ s.hostId = p.hostId && s.name = "DiscoveryServerAuto" with
    | [mine] => some mine.guidPrefix
    | _ => none
  else
    match servers with
    | [server] => some server.guidPrefix
    | _ => none

def attributeDiscoveryServers (participants : List Participant) (easyMode : Bool) :
    List Participant :=
  participants.map fun p ↦
    { p with discoveryServer := discoveryServerOf (participants.filter isDiscoveryServer) easyMode p }

/-- The participants of the snapshot. -/
def collectParticipants (data : OrderedMap String ParticipantData) (endpoints : List Endpoint)
    (shm : ShmInfo) (easyMode : Bool) : List Participant :=
  let participants := (discoveredParticipants observer data endpoints).values.map
    (reportPorts observer endpoints shm)
  attributeDiscoveryServers (participants.map (fillHostName (hostNames participants))) easyMode

/-! ## Specification -/

/-- The verdict that the reported ports support by themselves. -/
def verdictOf (ports : List ShmPort) : ShmVisibility :=
  if ports.any fun p ↦ p.lock = .own || p.lock = .absent then .notVisible
  else if !ports.isEmpty && (ports.all fun p ↦ p.lock = .held) &&
      ports.any fun p ↦ p.proof && p.announcedBy ≤ 1 then .visible
  else .unprobed

/-- Discovery leaves the shared memory of an endpoint's participant open. -/
def Unattributed (e : Endpoint) : Prop :=
  e.participantShmPorts = ∅ ∧ e.participantShmVisibility = .unprobed

/-- No two files of a port of the nodes are in different states. -/
def OneLockListed (endpoints : List Endpoint) (directory : Option ShmDirectory) (o : ViewOptions) :
    Prop :=
  OneLock (scanInput observer endpoints o) ((directory.bind ShmDirectory.files).getD [])

/-- The report explains the visibility of every participant and of the endpoints that are shown. -/
structure PortsExplained (shm : ShmInfo) (shown : List Endpoint) (report : List Participant) : Prop where
  sorted : (report.map Participant.guidPrefix).Pairwise (· < ·)
  ports_sorted : ∀ p ∈ report, (p.shmPorts.map ShmPort.port).Pairwise (· < ·)
  verdict : ∀ p ∈ report, p.own = false → p.shmVisibility = verdictOf p.shmPorts
  own : ∀ p ∈ report, p.own = true → p.shmVisibility = .unprobed ∧ ∀ port ∈ p.shmPorts,
    port.proof = false ∧ port.lock = if shm.listed then .own else .unprobed
  announcedBy : ∀ p ∈ report, ∀ port ∈ p.shmPorts,
    port.announcedBy = report.countP fun q ↦ port.port ∈ q.shmPorts.map ShmPort.port
  endpoint : ∀ e ∈ shown, ∃ p ∈ report, p.guidPrefix = e.participantGuidPrefix ∧ p.own = false ∧
    e.participantShmVisibility = p.shmVisibility ∧
    e.participantShmPorts.sort (· ≤ ·) = p.shmPorts.map ShmPort.port

/-! ## The announced ports -/

section Announced

variable {observer : Observer} {endpoints : List Endpoint} {guidPrefix : String} {port : ℕ}

theorem mem_announcedPorts {counts : Endpoint → Bool} :
    (guidPrefix, port) ∈ announcedPorts counts endpoints ↔
      ∃ e ∈ endpoints, counts e = true ∧ e.participantGuidPrefix = guidPrefix ∧
        ∃ l ∈ e.unicast, l.kind = .shm ∧ l.port = port := by
  simp only [announcedPorts, List.mem_flatMap, List.mem_filter, List.mem_map, Prod.mk.injEq,
    decide_eq_true_eq]
  constructor
  · intro ⟨e, ⟨he, hcounts⟩, l, ⟨hl, hkind⟩, hparticipant, hport⟩
    exact ⟨e, he, hcounts, hparticipant, l, hl, hkind, hport⟩
  · intro ⟨e, he, hcounts, hparticipant, l, hl, hkind, hport⟩
    exact ⟨e, ⟨he, hcounts⟩, l, ⟨hl, hkind⟩, hparticipant, hport⟩

theorem mem_shmPorts {es : List Endpoint} :
    port ∈ shmPorts es ↔ ∃ e ∈ es, ∃ l ∈ e.unicast, l.kind = .shm ∧ l.port = port := by
  simp only [shmPorts, List.mem_toFinset, List.mem_map, List.mem_flatMap, List.mem_filter,
    decide_eq_true_eq]
  constructor
  · intro ⟨e, he, l, ⟨hl, hkind⟩, hport⟩
    exact ⟨e, he, l, hl, hkind, hport⟩
  · intro ⟨e, he, l, hl, hkind, hport⟩
    exact ⟨e, he, l, ⟨hl, hkind⟩, hport⟩

/-- The ports of the nodes are those of the other participants. -/
theorem mem_announcedPorts_nodes :
    (guidPrefix, port) ∈ announcedPorts (fun e ↦ !isOwn observer e && isLocal observer e) endpoints ↔
      guidPrefix ∉ observer.ownPrefixes ∧
        (guidPrefix, port) ∈ announcedPorts (isLocal observer) endpoints := by
  simp only [mem_announcedPorts, isOwn, Bool.and_eq_true, Bool.not_eq_true', decide_eq_false_iff_not]
  constructor
  · intro ⟨e, he, ⟨hown, hlocal⟩, hparticipant, hport⟩
    exact ⟨hparticipant ▸ hown, e, he, hlocal, hparticipant, hport⟩
  · intro ⟨hown, e, he, hlocal, hparticipant, hport⟩
    exact ⟨e, he, ⟨hparticipant ▸ hown, hlocal⟩, hparticipant, hport⟩

theorem mem_ownPorts {o : ViewOptions} (hown : guidPrefix ∈ observer.ownPrefixes)
    (h : (guidPrefix, port) ∈ announcedPorts (isLocal observer) endpoints) :
    port ∈ (scanInput observer endpoints o).ownPorts := by
  obtain ⟨e, he, -, hparticipant, hport⟩ := mem_announcedPorts.mp h
  refine Finset.mem_union_right _ (mem_shmPorts.mpr ⟨e, List.mem_filter.mpr ⟨he, ?_⟩, hport⟩)
  rw [isOwn, hparticipant]
  exact decide_eq_true hown

theorem mem_nodePorts {o : ViewOptions} (hown : guidPrefix ∉ observer.ownPrefixes)
    (h : (guidPrefix, port) ∈ announcedPorts (isLocal observer) endpoints) :
    port ∈ (scanInput observer endpoints o).nodePorts := by
  obtain ⟨e, he, hlocal, hparticipant, hport⟩ := mem_announcedPorts.mp h
  refine mem_shmPorts.mpr ⟨e, List.mem_filter.mpr ⟨List.mem_filter.mpr ⟨he, ?_⟩, hlocal⟩, hport⟩
  rw [isOwn, hparticipant]
  simpa using hown

/-- What a participant announces has a group, whoever counts. -/
theorem find?_shmPortsByParticipant (hown : guidPrefix ∉ observer.ownPrefixes) :
    (shmPortsByParticipant observer endpoints).find? guidPrefix =
      (participantPorts observer endpoints).find? guidPrefix := by
  rw [shmPortsByParticipant, participantPorts, Multimap.find?_group, Multimap.find?_group]
  have hkey : (guidPrefix ∈ (announcedPorts (fun e ↦ !isOwn observer e && isLocal observer e)
      endpoints).map Prod.fst) ↔
      guidPrefix ∈ (announcedPorts (isLocal observer) endpoints).map Prod.fst := by
    simp [mem_announcedPorts_nodes, hown]
  have hports : (((announcedPorts (fun e ↦ !isOwn observer e && isLocal observer e) endpoints).filter
      fun pair ↦ pair.1 = guidPrefix).map Prod.snd).toFinset =
      (((announcedPorts (isLocal observer) endpoints).filter
        fun pair ↦ pair.1 = guidPrefix).map Prod.snd).toFinset := by
    ext port
    simp [mem_announcedPorts_nodes, hown]
  simp only [hkey, hports]

/-- A port that none of the tool's own participants announces is announced by nodes only. -/
theorem participantsPerPort_eq (h : ∀ p ∈ observer.ownPrefixes,
    (p, port) ∉ announcedPorts (isLocal observer) endpoints) :
    ((participantsPerPort (shmPortsByParticipant observer endpoints)).find? port).getD 0 =
      ((participantsPerPort (participantPorts observer endpoints)).find? port).getD 0 := by
  rw [participantsPerPort, participantsPerPort, shmPortsByParticipant, participantPorts,
    Multimap.find?_tally_group, Multimap.find?_tally_group]
  congr 1
  ext guidPrefix
  simp only [List.mem_toFinset, List.mem_map, List.mem_filter, Prod.exists, decide_eq_true_eq,
    mem_announcedPorts_nodes]
  constructor
  · intro ⟨p, other, ⟨⟨hown, hmem⟩, hport⟩, hparticipant⟩
    exact ⟨p, other, ⟨hmem, hport⟩, hparticipant⟩
  · intro ⟨p, other, ⟨hmem, hport⟩, hparticipant⟩
    exact ⟨p, other, ⟨⟨fun hown ↦ h p hown (hport ▸ hmem), hmem⟩, hport⟩, hparticipant⟩

end Announced

/-! ## What the lock files say -/

section Locks

variable {observer : Observer} {endpoints : List Endpoint} {directory : Option ShmDirectory}
  {o : ViewOptions} {port : ℕ}

variable (observer endpoints directory o) in
theorem shm_cases : (collectShm observer endpoints directory o).listed = false ∧
      (collectShm observer endpoints directory o).checkedPorts = [] ∧
      (collectShm observer endpoints directory o).portLocks = .empty ∨
    ∃ d files, (directory.bind ShmDirectory.files) = some files ∧
      collectShm observer endpoints directory o =
        scanListed (scanInput observer endpoints o) d files := by
  cases directory with
  | none => exact Or.inl ⟨rfl, rfl, rfl⟩
  | some d =>
    cases hfiles : d.files with
    | none => exact Or.inl (by simp [collectShm, scanShm, hfiles])
    | some files =>
      refine Or.inr ⟨d, files, hfiles, ?_⟩
      rw [collectShm, scanListed, ← hfiles]

theorem listed_foldl (input : ShmScanInput) (files : List ShmFile) (info : ShmInfo) :
    (files.foldl (scanInfo input) info).listed = info.listed := by
  induction files generalizing info with
  | nil => rfl
  | cons f rest ih =>
    obtain ⟨found, -, hstep⟩ := exists_scanInfo input f
    rw [List.foldl_cons, ih, hstep]
    rfl

theorem listed_scanListed (input : ShmScanInput) (d : ShmDirectory) (files : List ShmFile) :
    (scanListed input d files).listed = true := by
  have hconclude (scan : Scan) : (concludeScan input scan).listed = scan.info.listed := by
    unfold concludeScan addCapacityWarning
    rw [foldl_checkPort]
    simp only
    split_ifs <;> rfl
  rw [scanListed_eq, hconclude, walkFiles, info_foldl, listed_foldl]

theorem find?_portLocks (port : ℕ) (input : ShmScanInput) (d : ShmDirectory) (files : List ShmFile) :
    (scanListed input d files).portLocks.find? port =
      if port ∈ input.nodePorts then
        some (if port ∈ input.ownPorts then .own else lockText (locksOf files port).getLast?)
      else none := by
  split_ifs with hport hown
  · rw [(portSeen_scanListed d files hport).lock_eq, if_pos hown]
  · rw [(portSeen_scanListed d files hport).lock_eq, if_neg hown]
  · rw [(scanListed_ports d files).2.2.2.1, find?_foldl_set,
      if_neg fun hmem ↦ hport ((Finset.mem_sort _).mp hmem), OrderedMap.find?_empty]

/-- The lock of a port as it is reported, and what the scan concludes of the port. -/
structure LockTold (info : ShmInfo) (port : ℕ) : Prop where
  lost : Lost info port ↔ (info.portLocks.find? port).getD .unprobed = .own ∨
    (info.portLocks.find? port).getD .unprobed = .absent
  held : HeldHere info port ↔ (info.portLocks.find? port).getD .unprobed = .held

theorem lockTold (hone : OneLockListed observer endpoints directory o)
    (hport : port ∈ (scanInput observer endpoints o).nodePorts) :
    LockTold (collectShm observer endpoints directory o) port := by
  rcases shm_cases observer endpoints directory o with ⟨-, hchecked, hlocks⟩ | ⟨d, files, hfiles, hscan⟩
  · constructor
    · simp [Lost, hchecked, hlocks]
    · simp [HeldHere, hchecked, hlocks]
  · rw [OneLockListed, hfiles, Option.getD_some] at hone
    have hchecked := (mem_checkedPorts_iff d files).mpr hport
    have hlock := find?_portLocks port (scanInput observer endpoints o) d files
    have hagree := viewsAgree_of_oneLock d hone
    rw [hscan]
    rw [if_pos hport] at hlock
    by_cases hown : port ∈ (scanInput observer endpoints o).ownPorts
    · obtain ⟨hmissing, hunknown, hfind⟩ := hagree.own port hchecked hown
      constructor
      · simp [Lost, hchecked, hmissing, hunknown, hfind]
      · simp [HeldHere, hmissing, hfind]
    · have hheld := hagree.held_iff port hchecked hown
      have habsent := hagree.absent_iff port hchecked hown
      rw [if_neg hown] at hlock
      rw [hlock] at hheld habsent
      constructor
      · rw [Lost, and_iff_right hchecked, ← habsent, hlock]
        cases (locksOf files port).getLast? with
        | none => simp [lockText]
        | some lock => cases lock <;> simp [lockText]
      · rw [HeldHere, and_iff_right hchecked, ← hheld, hlock]
        simp

/-- A port of the tool's own is missing, whoever holds it. -/
theorem not_heldHere (hport : port ∈ (scanInput observer endpoints o).nodePorts)
    (hown : port ∈ (scanInput observer endpoints o).ownPorts) :
    ¬HeldHere (collectShm observer endpoints directory o) port := by
  intro ⟨hchecked, hheld⟩
  rcases shm_cases observer endpoints directory o with ⟨-, hnone, -⟩ | ⟨d, files, -, hscan⟩
  · rw [hnone] at hchecked
    exact List.not_mem_nil hchecked
  · rw [hscan, (portSeen_scanListed d files hport).missing_iff] at hheld
    exact hheld (Or.inl hown)

/-- The lock of a port of the tool's own. -/
theorem ownLock (hown : port ∈ (scanInput observer endpoints o).ownPorts) (announcing : OrderedMap ℕ ℕ)
    (proof : Finset ℕ) :
    (shmPort (collectShm observer endpoints directory o) announcing proof true port).lock =
      if (collectShm observer endpoints directory o).listed then .own else .unprobed := by
  rcases shm_cases observer endpoints directory o with ⟨hlisted, -, hlocks⟩ | ⟨d, files, -, hscan⟩
  · simp [shmPort, hlisted, hlocks]
  · rw [shmPort, hscan, find?_portLocks, listed_scanListed, if_pos hown]
    by_cases hport : port ∈ (scanInput observer endpoints o).nodePorts
    · simp [hport]
    · simp [hport]

end Locks

/-! ## The verdict from the report -/

section Verdict

variable {info : ShmInfo} {nodes announcing : OrderedMap ℕ ℕ} {proof ports : Finset ℕ}

theorem verdictOf_notVisible_iff {rows : List ShmPort} :
    verdictOf rows = .notVisible ↔ ∃ p ∈ rows, p.lock = .own ∨ p.lock = .absent := by
  unfold verdictOf
  split_ifs with hlost hheld
  · simpa using hlost
  · simpa using hlost
  · simpa using hlost

theorem verdictOf_visible_iff {rows : List ShmPort} (h : verdictOf rows ≠ .notVisible) :
    verdictOf rows = .visible ↔ rows ≠ [] ∧ (∀ p ∈ rows, p.lock = .held) ∧
      ∃ p ∈ rows, p.proof = true ∧ p.announcedBy ≤ 1 := by
  unfold verdictOf at h ⊢
  by_cases hlost : (rows.any fun p ↦ p.lock = .own || p.lock = .absent) = true
  · exact absurd (if_pos hlost) h
  rw [if_neg hlost]
  split_ifs with hheld
  · simpa [and_assoc] using hheld
  · simpa [and_assoc] using hheld

/-- Where nothing is lost, the count of the nodes and that of everybody are the same. -/
theorem participantShmVisibility_eq_verdictOf
    (htold : ∀ port ∈ ports, LockTold info port)
    (hcount : ∀ port ∈ ports, HeldHere info port →
      (nodes.find? port).getD 0 = (announcing.find? port).getD 0) :
    participantShmVisibility proof info nodes ports =
      verdictOf ((ports.sort (· ≤ ·)).map (shmPort info announcing proof false)) := by
  have hmem (p : ShmPort) : p ∈ (ports.sort (· ≤ ·)).map (shmPort info announcing proof false) ↔
      ∃ port ∈ ports, shmPort info announcing proof false port = p := by
    simp only [List.mem_map, Finset.mem_sort]
  have hnot : participantShmVisibility proof info nodes ports = .notVisible ↔
      verdictOf ((ports.sort (· ≤ ·)).map (shmPort info announcing proof false)) = .notVisible := by
    rw [notVisible_iff, verdictOf_notVisible_iff]
    constructor
    · rintro ⟨port, hport, hlost⟩
      exact ⟨_, (hmem _).mpr ⟨port, hport, rfl⟩, (htold port hport).lost.mp hlost⟩
    · rintro ⟨p, hp, hlock⟩
      obtain ⟨port, hport, rfl⟩ := (hmem p).mp hp
      exact ⟨port, hport, (htold port hport).lost.mpr hlock⟩
  by_cases hverdict : verdictOf ((ports.sort (· ≤ ·)).map (shmPort info announcing proof false)) =
      .notVisible
  · rw [hverdict, hnot.mpr hverdict]
  have hvisible : participantShmVisibility proof info nodes ports = .visible ↔
      verdictOf ((ports.sort (· ≤ ·)).map (shmPort info announcing proof false)) = .visible := by
    rw [visible_iff, verdictOf_visible_iff hverdict]
    have hempty : ports.Nonempty ↔
        (ports.sort (· ≤ ·)).map (shmPort info announcing proof false) ≠ [] := by
      rw [Ne, List.map_eq_nil_iff, ← List.length_eq_zero_iff, Finset.length_sort,
        Finset.card_eq_zero, Finset.nonempty_iff_ne_empty]
    have hheld : (∀ port ∈ ports, HeldHere info port) ↔
        ∀ p ∈ (ports.sort (· ≤ ·)).map (shmPort info announcing proof false), p.lock = .held := by
      constructor
      · intro h p hp
        obtain ⟨port, hport, rfl⟩ := (hmem p).mp hp
        exact (htold port hport).held.mp (h port hport)
      · intro h port hport
        exact (htold port hport).held.mpr (h _ ((hmem _).mpr ⟨port, hport, rfl⟩))
    rw [hempty, hheld]
    refine and_congr_right fun _ ↦ and_congr_right fun hall ↦ ?_
    have hsame (port : ℕ) (hport : port ∈ ports) : Proves proof nodes port ↔
        (shmPort info announcing proof false port).proof = true ∧
          (shmPort info announcing proof false port).announcedBy ≤ 1 := by
      rw [Proves, hcount port hport (hheld.mpr hall port hport)]
      simp [shmPort]
    constructor
    · rintro ⟨port, hport, hproves⟩
      exact ⟨_, (hmem _).mpr ⟨port, hport, rfl⟩, (hsame port hport).mp hproves⟩
    · rintro ⟨p, hp, hproves⟩
      obtain ⟨port, hport, rfl⟩ := (hmem p).mp hp
      exact ⟨port, hport, (hsame port hport).mpr hproves⟩
  cases hloop : participantShmVisibility proof info nodes ports with
  | visible => exact (hvisible.mp hloop).symm
  | notVisible => exact absurd (hnot.mp hloop) hverdict
  | unprobed =>
    cases hof : verdictOf ((ports.sort (· ≤ ·)).map (shmPort info announcing proof false)) with
    | visible => rw [hvisible.mpr hof] at hloop; exact absurd hloop (by decide)
    | notVisible => exact absurd hof hverdict
    | unprobed => rfl

end Verdict

/-! ## The participants -/

section Discovered

variable (observer : Observer) (data : OrderedMap String ParticipantData) (endpoints : List Endpoint)

/-- A participant before its ports are reported. -/
structure Bare (guidPrefix : String) (p : Participant) : Prop where
  guidPrefix_eq : p.guidPrefix = guidPrefix
  own_eq : p.own = decide (guidPrefix ∈ observer.ownPrefixes)
  shmPorts_eq : p.shmPorts = []
  shmVisibility_eq : p.shmVisibility = .unprobed

theorem bare_of_find? {guidPrefix : String} {p : Participant}
    (h : (discoveredParticipants observer data endpoints).find? guidPrefix = some p) :
    Bare observer guidPrefix p := by
  refine OrderedMap.forall_foldl_alter (Bare observer) endpoints Endpoint.participantGuidPrefix
    (noteParticipant observer) _ ?_ ?_ guidPrefix p h
  · intro other value hfind
    refine OrderedMap.forall_foldl_alter (Bare observer) _ Prod.fst (fun row _ ↦ row.2) .empty
      (fun _ _ h ↦ absurd h (by simp)) ?_ other value hfind
    intro row hrow _ _
    obtain ⟨entry, -, rfl⟩ := List.mem_map.mp hrow
    exact ⟨rfl, rfl, rfl, rfl⟩
  · intro e _ old hold
    cases old with
    | none => exact ⟨rfl, rfl, rfl, rfl⟩
    | some q =>
      obtain ⟨-, -, hports, hvisibility⟩ := hold q rfl
      exact ⟨rfl, rfl, hports, hvisibility⟩

theorem mem_keys_discovered (e : Endpoint) (he : e ∈ endpoints) :
    e.participantGuidPrefix ∈ (discoveredParticipants observer data endpoints).keys := by
  rw [discoveredParticipants, OrderedMap.mem_keys_foldl_alter]
  exact Or.inl (List.mem_map_of_mem he)

/-- What the report says of the ports of a discovered participant. -/
structure Reported (shm : ShmInfo) (p : Participant) : Prop where
  own_eq : p.own = decide (p.guidPrefix ∈ observer.ownPrefixes)
  silent : (participantPorts observer endpoints).find? p.guidPrefix = none →
    p.shmPorts = [] ∧ p.shmVisibility = .unprobed
  listening : ∀ ports, (participantPorts observer endpoints).find? p.guidPrefix = some ports →
    p.shmPorts = (ports.sort (· ≤ ·)).map (shmPort shm
      (participantsPerPort (participantPorts observer endpoints))
      (((shmProofPortsByParticipant observer endpoints).find? p.guidPrefix).getD ∅) p.own) ∧
    p.shmVisibility = if p.own then .unprobed
      else participantShmVisibility
        (((shmProofPortsByParticipant observer endpoints).find? p.guidPrefix).getD ∅) shm
        (participantsPerPort (shmPortsByParticipant observer endpoints)) ports

theorem reported_reportPorts {shm : ShmInfo} {guidPrefix : String} {p : Participant}
    (h : Bare observer guidPrefix p) :
    Reported observer endpoints shm (reportPorts observer endpoints shm p) := by
  obtain ⟨hparticipant, hown, hports, hvisibility⟩ := h
  rw [← hparticipant] at hown
  unfold reportPorts
  cases hfind : (participantPorts observer endpoints).find? p.guidPrefix with
  | none =>
    exact ⟨hown, fun _ ↦ ⟨hports, hvisibility⟩, fun ports h ↦ absurd (hfind.symm.trans h) (by simp)⟩
  | some ports =>
    refine ⟨hown, fun h ↦ absurd (hfind.symm.trans h) (by simp), fun other hother ↦ ?_⟩
    rw [hfind] at hother
    obtain rfl := Option.some.inj hother
    simp only [hports, hvisibility, List.nil_append, and_self]

theorem reported_fillHostName {shm : ShmInfo} {p : Participant} (h : Reported observer endpoints shm p)
    (names : OrderedMap HostId String) (server : Option String) :
    Reported observer endpoints shm { fillHostName names p with discoveryServer := server } := by
  obtain ⟨hown, hsilent, hlistening⟩ := h
  unfold fillHostName
  split_ifs
  · exact ⟨hown, hsilent, hlistening⟩
  · exact ⟨hown, hsilent, hlistening⟩

theorem reported_of_mem {shm : ShmInfo} {easyMode : Bool} {p : Participant}
    (hp : p ∈ collectParticipants observer data endpoints shm easyMode) :
    Reported observer endpoints shm p := by
  simp only [collectParticipants, attributeDiscoveryServers, OrderedMap.values, List.map_map,
    List.mem_map] at hp
  obtain ⟨entry, hentry, rfl⟩ := hp
  apply reported_fillHostName
  exact reported_reportPorts observer endpoints
    (bare_of_find? observer data endpoints ((OrderedMap.mem_entries_iff _ _ _).mp hentry))

theorem guidPrefix_reportPorts (shm : ShmInfo) (p : Participant) :
    (reportPorts observer endpoints shm p).guidPrefix = p.guidPrefix := by
  unfold reportPorts
  cases (participantPorts observer endpoints).find? p.guidPrefix <;> rfl

theorem guidPrefix_fillHostName (names : OrderedMap HostId String) (p : Participant) :
    (fillHostName names p).guidPrefix = p.guidPrefix := by
  unfold fillHostName
  split_ifs <;> rfl

/-- Every discovered participant is reported once. -/
theorem map_guidPrefix_collectParticipants (shm : ShmInfo) (easyMode : Bool) :
    (collectParticipants observer data endpoints shm easyMode).map Participant.guidPrefix =
      (discoveredParticipants observer data endpoints).keys := by
  simp only [collectParticipants, attributeDiscoveryServers, OrderedMap.values, OrderedMap.keys,
    List.map_map]
  apply List.map_congr_left
  intro entry hentry
  have hbare := bare_of_find? observer data endpoints ((OrderedMap.mem_entries_iff _ _ _).mp hentry)
  simp only [Function.comp_apply, guidPrefix_fillHostName, guidPrefix_reportPorts]
  exact hbare.guidPrefix_eq

end Discovered

/-! ## The report explains the verdicts -/

section Explained

variable {observer : Observer} {data : OrderedMap String ParticipantData} {endpoints : List Endpoint}
  {directory : Option ShmDirectory} {o : ViewOptions} {shm : ShmInfo} {p : Participant}

/-- The reported ports are the announced ones. -/
theorem Reported.mem_ports (h : Reported observer endpoints shm p) (port : ℕ) :
    port ∈ p.shmPorts.map ShmPort.port ↔
      (p.guidPrefix, port) ∈ announcedPorts (isLocal observer) endpoints := by
  rw [← Multimap.mem_getD_find?_group]
  cases hfind : (participantPorts observer endpoints).find? p.guidPrefix with
  | none =>
    rw [(h.silent hfind).1]
    simp only [participantPorts] at hfind
    simp [hfind]
  | some ports =>
    rw [(h.listening ports hfind).1]
    simp only [participantPorts] at hfind
    simp [hfind, shmPort, Function.comp_def]

theorem Reported.ports_sorted (h : Reported observer endpoints shm p) :
    (p.shmPorts.map ShmPort.port).Pairwise (· < ·) := by
  cases hfind : (participantPorts observer endpoints).find? p.guidPrefix with
  | none =>
    rw [(h.silent hfind).1]
    exact List.Pairwise.nil
  | some ports =>
    rw [(h.listening ports hfind).1, List.map_map]
    have hid : (ports.sort (· ≤ ·)).map (ShmPort.port ∘ shmPort shm
        (participantsPerPort (participantPorts observer endpoints))
        (((shmProofPortsByParticipant observer endpoints).find? p.guidPrefix).getD ∅) p.own) =
        ports.sort (· ≤ ·) := List.map_id _
    rw [hid]
    exact (Finset.sortedLT_sort ports).pairwise

theorem Reported.announcedBy_eq (h : Reported observer endpoints shm p) {port : ShmPort}
    (hport : port ∈ p.shmPorts) : port.announcedBy =
      ((participantsPerPort (participantPorts observer endpoints)).find? port.port).getD 0 := by
  cases hfind : (participantPorts observer endpoints).find? p.guidPrefix with
  | none =>
    rw [(h.silent hfind).1] at hport
    exact absurd hport List.not_mem_nil
  | some ports =>
    rw [(h.listening ports hfind).1] at hport
    obtain ⟨number, -, rfl⟩ := List.mem_map.mp hport
    rfl

theorem Reported.verdict (hone : OneLockListed observer endpoints directory o)
    (h : Reported observer endpoints (collectShm observer endpoints directory o) p)
    (hown : p.own = false) : p.shmVisibility = verdictOf p.shmPorts := by
  cases hfind : (participantPorts observer endpoints).find? p.guidPrefix with
  | none =>
    rw [(h.silent hfind).1, (h.silent hfind).2]
    rfl
  | some ports =>
    have hnot : p.guidPrefix ∉ observer.ownPrefixes := by
      rw [← decide_eq_false_iff_not, ← h.own_eq, hown]
    obtain ⟨hports, hvisibility⟩ := h.listening ports hfind
    have hannounced (port : ℕ) (hport : port ∈ ports) :
        port ∈ (scanInput observer endpoints o).nodePorts :=
      mem_nodePorts hnot ((Multimap.mem_of_find?_group hfind).mp hport)
    rw [hports, hvisibility, hown, if_neg Bool.false_ne_true]
    apply participantShmVisibility_eq_verdictOf
    · exact fun port hport ↦ lockTold hone (hannounced port hport)
    · -- a port that the tool announces as well is missing, so that the counts agree on the others
      intro port hport hheld
      apply participantsPerPort_eq
      intro other hother hmem
      exact not_heldHere (hannounced port hport) (mem_ownPorts hother hmem) hheld

theorem Reported.own (h : Reported observer endpoints (collectShm observer endpoints directory o) p)
    (hown : p.own = true) :
    p.shmVisibility = .unprobed ∧ ∀ port ∈ p.shmPorts, port.proof = false ∧
      port.lock = if (collectShm observer endpoints directory o).listed then .own else .unprobed := by
  cases hfind : (participantPorts observer endpoints).find? p.guidPrefix with
  | none =>
    rw [(h.silent hfind).1]
    exact ⟨(h.silent hfind).2, fun port hport ↦ absurd hport List.not_mem_nil⟩
  | some ports =>
    have hmine : p.guidPrefix ∈ observer.ownPrefixes := of_decide_eq_true (h.own_eq ▸ hown)
    obtain ⟨hports, hvisibility⟩ := h.listening ports hfind
    rw [hports, hvisibility, hown, if_pos rfl]
    refine ⟨rfl, fun port hport ↦ ?_⟩
    obtain ⟨number, hnumber, rfl⟩ := List.mem_map.mp hport
    have hannounced := (Multimap.mem_of_find?_group hfind).mp ((Finset.mem_sort _).mp hnumber)
    exact ⟨rfl, ownLock (mem_ownPorts hmine hannounced) _ _⟩

/-- A port is announced by as many participants as report it. -/
theorem announcedBy_eq_countP {easyMode : Bool} (port : ℕ) :
    ((participantsPerPort (participantPorts observer endpoints)).find? port).getD 0 =
      (collectParticipants observer data endpoints shm easyMode).countP
        fun q ↦ port ∈ q.shmPorts.map ShmPort.port := by
  have hcount : (collectParticipants observer data endpoints shm easyMode).countP
      (fun q ↦ port ∈ q.shmPorts.map ShmPort.port) =
      (discoveredParticipants observer data endpoints).keys.countP
        fun key ↦ (key, port) ∈ announcedPorts (isLocal observer) endpoints := by
    rw [← map_guidPrefix_collectParticipants observer data endpoints shm easyMode, List.countP_map]
    apply List.countP_congr
    intro q hq
    rw [decide_eq_true_eq, (reported_of_mem observer data endpoints hq).mem_ports, Function.comp_apply,
      decide_eq_true_eq]
  rw [hcount, participantsPerPort, participantPorts, Multimap.find?_tally_group,
    List.countP_eq_length_filter, ← List.toFinset_card_of_nodup
      ((OrderedMap.nodup_keys _).filter _)]
  congr 1
  ext key
  simp only [List.mem_toFinset, List.mem_map, List.mem_filter, Prod.exists, decide_eq_true_eq]
  constructor
  · intro ⟨other, number, ⟨hmem, hport⟩, hkey⟩
    obtain ⟨e, he, -, hparticipant, -⟩ := mem_announcedPorts.mp hmem
    rw [← hkey, ← hport]
    exact ⟨hparticipant ▸ mem_keys_discovered observer data endpoints e he, hmem⟩
  · rintro ⟨-, hmem⟩
    exact ⟨key, port, ⟨hmem, rfl⟩, rfl⟩

theorem participantGuidPrefix_attributeSegment (e : Endpoint) :
    (attributeSegment observer shm e).participantGuidPrefix = e.participantGuidPrefix := by
  unfold attributeSegment
  cases shm.datasharingByWriter.find? e.guid <;> simp only <;> split_ifs <;> rfl

theorem unattributed_attributeSegment {e : Endpoint} (h : Unattributed e) :
    Unattributed (attributeSegment observer shm e) := by
  unfold attributeSegment
  cases shm.datasharingByWriter.find? e.guid <;> simp only <;> split_ifs <;> exact h

/-- The participant of an endpoint is reported with the ports and the verdict of the endpoint. -/
theorem exists_reported {easyMode : Bool} (hopen : ∀ e ∈ endpoints, Unattributed e) {e : Endpoint}
    (he : e ∈ attributedEndpoints observer endpoints shm o) :
    ∃ p ∈ collectParticipants observer data endpoints shm easyMode,
      p.guidPrefix = e.participantGuidPrefix ∧ p.own = false ∧
        e.participantShmVisibility = p.shmVisibility ∧
        e.participantShmPorts.sort (· ≤ ·) = p.shmPorts.map ShmPort.port := by
  obtain ⟨kept, hkept, rfl⟩ := List.mem_map.mp he
  obtain ⟨hmem, hnot⟩ := List.mem_filter.mp (List.mem_filter.mp hkept).1
  have hown : kept.participantGuidPrefix ∉ observer.ownPrefixes := by simpa [isOwn] using hnot
  have hkey := mem_keys_discovered observer data endpoints kept hmem
  rw [← map_guidPrefix_collectParticipants observer data endpoints shm easyMode] at hkey
  obtain ⟨p, hp, hparticipant⟩ := List.mem_map.mp hkey
  have hreported := reported_of_mem observer data endpoints hp
  have hnone : p.own = false := by rw [hreported.own_eq, hparticipant, decide_eq_false hown]
  refine ⟨p, hp, ?_, hnone, ?_⟩
  · rw [hparticipant]
    unfold attributePorts
    cases (shmPortsByParticipant observer endpoints).find?
      (attributeSegment observer shm kept).participantGuidPrefix with
    | none => exact (participantGuidPrefix_attributeSegment kept).symm
    | some ports => exact (participantGuidPrefix_attributeSegment kept).symm
  · unfold attributePorts
    rw [participantGuidPrefix_attributeSegment, ← hparticipant,
      find?_shmPortsByParticipant (hparticipant.symm ▸ hown)]
    cases hports : (participantPorts observer endpoints).find? p.guidPrefix with
    | none =>
      obtain ⟨hsilent, hunprobed⟩ := hreported.silent hports
      obtain ⟨hnoports, hopen⟩ := @unattributed_attributeSegment observer shm kept (hopen kept hmem)
      simp [hsilent, hunprobed, hnoports, hopen]
    | some ports =>
      obtain ⟨hrows, hvisibility⟩ := hreported.listening ports hports
      rw [hvisibility, hrows, hnone, if_neg Bool.false_ne_true, List.map_map]
      exact ⟨rfl, (List.map_id _).symm⟩

/-- The report of an observation explains its verdicts. -/
theorem portsExplained_collectParticipants (observer : Observer) (data : OrderedMap String ParticipantData)
    (endpoints : List Endpoint) (directory : Option ShmDirectory) (o : ViewOptions) (easyMode : Bool)
    (hone : OneLockListed observer endpoints directory o) (hopen : ∀ e ∈ endpoints, Unattributed e) :
    PortsExplained (collectShm observer endpoints directory o)
      (attributedEndpoints observer endpoints (collectShm observer endpoints directory o) o)
      (collectParticipants observer data endpoints (collectShm observer endpoints directory o)
        easyMode) := by
  constructor
  · rw [map_guidPrefix_collectParticipants, OrderedMap.keys, List.pairwise_map]
    exact OrderedMap.sorted _
  · intro p hp
    exact (reported_of_mem observer data endpoints hp).ports_sorted
  · intro p hp hown
    exact (reported_of_mem observer data endpoints hp).verdict hone hown
  · intro p hp hown
    exact (reported_of_mem observer data endpoints hp).own hown
  · intro p hp port hport
    rw [(reported_of_mem observer data endpoints hp).announcedBy_eq hport, announcedBy_eq_countP]
  · exact fun e he ↦ exists_reported hopen he

end Explained

end TransportViz.Collect
