import Mathlib.Data.Finset.Lattice.Basic
import TransportViz.Model.Types

/-!
# Predicting the transport of one writer and reader

`decide` asks whether Fast DDS takes the two for one type, `decideSameType` whether it matches their
QoS and which transport it then selects: data-sharing, shared memory, or the first network locator
of the reader whose kind the writer speaks. Every verdict carries the codes of the rules that led to
it, in the order the rules are asked.

The pattern match of partition names is the C library's `fnmatch`, kept as a parameter.
-/

namespace TransportViz

/-- `fnmatch (pattern, name, 0) == 0` of the C library. -/
class Fnmatch where
  fnmatch : String → String → Bool

/-- `fnmatch` on names without pattern characters. -/
abbrev literalFnmatch : Fnmatch := ⟨fun pattern name ↦ pattern == name⟩

namespace Verdict

def addReasons (v : Verdict) (codes : List String) : Verdict :=
  { v with reasons := v.reasons ++ codes }

def addWarnings (v : Verdict) (codes : List String) : Verdict :=
  { v with warnings := v.warnings ++ codes }

@[simp] theorem addReasons_reasons (v : Verdict) (codes : List String) :
    (v.addReasons codes).reasons = v.reasons ++ codes := rfl

@[simp] theorem addReasons_warnings (v : Verdict) (codes : List String) :
    (v.addReasons codes).warnings = v.warnings := rfl

@[simp] theorem addReasons_transport (v : Verdict) (codes : List String) :
    (v.addReasons codes).transport = v.transport := rfl

@[simp] theorem addReasons_confidence (v : Verdict) (codes : List String) :
    (v.addReasons codes).confidence = v.confidence := rfl

@[simp] theorem addReasons_locator (v : Verdict) (codes : List String) :
    (v.addReasons codes).locator = v.locator := rfl

@[simp] theorem addWarnings_reasons (v : Verdict) (codes : List String) :
    (v.addWarnings codes).reasons = v.reasons := rfl

@[simp] theorem addWarnings_warnings (v : Verdict) (codes : List String) :
    (v.addWarnings codes).warnings = v.warnings ++ codes := rfl

@[simp] theorem addWarnings_transport (v : Verdict) (codes : List String) :
    (v.addWarnings codes).transport = v.transport := rfl

@[simp] theorem addWarnings_confidence (v : Verdict) (codes : List String) :
    (v.addWarnings codes).confidence = v.confidence := rfl

@[simp] theorem addWarnings_locator (v : Verdict) (codes : List String) :
    (v.addWarnings codes).locator = v.locator := rfl

end Verdict

namespace Decision

/-! ## Locators -/

def hasKind (e : Endpoint) (kind : LocatorKind) : Bool :=
  e.unicast.any (fun l ↦ l.kind = kind) || e.multicast.any (fun l ↦ l.kind = kind)

/-- The endpoint's first announced locator of `kind`, unicast before multicast. -/
def findLocator (e : Endpoint) (kind : LocatorKind) : Option Locator :=
  (e.unicast ++ e.multicast).find? fun l ↦ l.kind = kind

/-- Every kind that carries packets over a network. -/
def isNetwork : LocatorKind → Bool
  | .udpv4 | .udpv6 | .tcpv4 | .tcpv6 => true
  | .invalid | .shm => false

def ipAddresses (e : Endpoint) : Finset String :=
  ((e.unicast.filter fun l ↦ isNetwork l.kind).map Locator.address).toFinset

def transportFor : LocatorKind → Transport
  | .udpv4 => .udpv4
  | .udpv6 => .udpv6
  | .tcpv4 => .tcpv4
  | .tcpv6 => .tcpv6
  | .shm => .shm
  | .invalid => .none

def reasonFor : LocatorKind → String
  | .udpv4 => "common-udpv4-locator"
  | .udpv6 => "common-udpv6-locator"
  | .tcpv4 => "common-tcpv4-locator"
  | .tcpv6 => "common-tcpv6-locator"
  | .shm | .invalid => "no-common-transport"

/-- The network locator the writer will use to reach the reader, and whether it is a multicast one:
the first unicast, else multicast locator whose kind the writer can also speak. -/
def pickNetworkLocator (writer reader : Endpoint) : Option (Locator × Bool) :=
  let reachable := fun l : Locator ↦ isNetwork l.kind && hasKind writer l.kind
  match reader.unicast.find? reachable with
  | some l => some (l, false)
  | none => (reader.multicast.find? reachable).map fun l ↦ (l, true)

def domainsIntersect (a b : List ℕ) : Bool := a.any fun x ↦ b.contains x

/-! ## Request and offer -/

def durabilityRank (durability : String) : ℤ :=
  if durability = "VOLATILE" then 0
  else if durability = "TRANSIENT_LOCAL" then 1
  else if durability = "TRANSIENT" then 2
  else if durability = "PERSISTENT" then 3
  else -1

def livelinessRank (liveliness : String) : ℤ :=
  if liveliness = "AUTOMATIC" then 0
  else if liveliness = "MANUAL_BY_PARTICIPANT" then 1
  else if liveliness = "MANUAL_BY_TOPIC" then 2
  else -1

variable [Fnmatch]

/-- A name may be a pattern and matches the other side's plain name; an empty list is the default
partition. -/
def partitionsMatch (w r : List String) : Bool :=
  let ws := if w.isEmpty then [""] else w
  let rs := if r.isEmpty then [""] else r
  ws.any fun a ↦ rs.any fun b ↦ a = b || Fnmatch.fnmatch a b || Fnmatch.fnmatch b a

def qosIncompatibilities (writer reader : Endpoint) : List String :=
  let w := writer.qos
  let r := reader.qos
  (if w.reliability = "BEST_EFFORT" ∧ r.reliability = "RELIABLE" then ["reliability"] else []) ++
  (if 0 ≤ durabilityRank w.durability ∧ 0 ≤ durabilityRank r.durability ∧
      durabilityRank w.durability < durabilityRank r.durability then ["durability"] else []) ++
  (if r.deadlineS < w.deadlineS then ["deadline"] else []) ++
  (if (0 ≤ livelinessRank w.liveliness ∧ 0 ≤ livelinessRank r.liveliness ∧
      livelinessRank w.liveliness < livelinessRank r.liveliness) ∨
      r.livelinessLeaseS < w.livelinessLeaseS then ["liveliness"] else []) ++
  (if w.ownership ≠ r.ownership then ["ownership"] else []) ++
  (if ¬partitionsMatch w.partitions r.partitions then ["partition"] else [])

/-! ## Split IPC namespaces -/

def shmPorts (e : Endpoint) : Finset ℕ :=
  e.participantShmPorts ∪
    ((e.unicast.filter fun l ↦ l.kind = .shm).map Locator.port).toFinset

/-- The code for one side seen from the tool's namespace and the other not. -/
def visibilitySplit (w r : ShmVisibility) (readerCode writerCode : String) : List String :=
  if w = .visible ∧ r = .notVisible then [readerCode]
  else if w = .notVisible ∧ r = .visible then [writerCode]
  else []

/-- Evidence that two same-host participants listen for SHM in different IPC namespaces. -/
def ipcSplitReasons (writer reader : Endpoint) : List String :=
  if writer.participantGuidPrefix = reader.participantGuidPrefix then []
  else
    (if (shmPorts writer ∩ shmPorts reader).Nonempty then ["shm-port-collision"] else []) ++
    visibilitySplit writer.participantShmVisibility reader.participantShmVisibility
      "shm-reader-port-not-visible" "shm-writer-port-not-visible"

/-- Evidence that two data-sharing endpoints use different /dev/shm. -/
def datasharingSplitReasons (writer reader : Endpoint) : List String :=
  if writer.participantGuidPrefix = reader.participantGuidPrefix then []
  else visibilitySplit writer.datasharingSegmentVisibility reader.datasharingSegmentVisibility
    "datasharing-reader-segment-not-visible" "datasharing-writer-segment-not-visible"

/-- Replace the first `old` by `new`, or append `new` when `old` is not there. -/
def replaceCode : List String → String → String → List String
  | [], _, new => [new]
  | code :: rest, old, new =>
      if code = old then new :: rest else code :: replaceCode rest old new

/-! ## Two endpoints of one type -/

/-- Why data-sharing is out of the question for this QoS, or nothing when it is not. -/
def dataSharingRefusal (writer reader : Endpoint) : Option String :=
  let wd := writer.qos.dataSharing
  let rd := reader.qos.dataSharing
  if wd = .off then some "datasharing-disabled-writer"
  else if rd = .off then some "datasharing-disabled-reader"
  else if wd = .unknown ∨ rd = .unknown then some "datasharing-qos-unknown"
  else if (writer.qos.dataSharingDomains ≠ [] ∧ reader.qos.dataSharingDomains ≠ []) ∧
      ¬domainsIntersect writer.qos.dataSharingDomains reader.qos.dataSharingDomains then
    some "datasharing-domain-ids-mismatch"
  else none

/-- The endpoints of one host announce no common IP address. -/
def ipDiffers (writer reader : Endpoint) : Bool :=
  (ipAddresses writer).Nonempty && (ipAddresses reader).Nonempty &&
    ¬(ipAddresses writer ∩ ipAddresses reader).Nonempty

def bothShm (writer reader : Endpoint) : Bool := hasKind writer .shm && hasKind reader .shm

/-- The pair keeps no transport: what the writer sends ends in its own /dev/shm. -/
def splitVerdict (v : Verdict) (codes : List String) : Verdict :=
  { (v.addReasons codes).addWarnings ["shm-ipc-namespace-split"] with
    transport := .none
    confidence := .certain }

/-- Both sides are data-sharing capable: zero-copy delivery bypasses every transport. -/
def decideDataSharing (v : Verdict) (writer reader : Endpoint) : Verdict :=
  let haveDomains := writer.qos.dataSharingDomains ≠ [] ∧ reader.qos.dataSharingDomains ≠ []
  let v := v.addReasons ["datasharing-qos-enabled-both",
    if haveDomains then "datasharing-domain-ids-match" else "datasharing-domain-ids-unknown"]
  let split := (if bothShm writer reader then ipcSplitReasons writer reader else []) ++
    datasharingSplitReasons writer reader
  if split ≠ [] then
    splitVerdict v ((if bothShm writer reader then ["both-shm-locators"] else []) ++ split)
  else
    { v.addReasons ["datasharing-unverified-by-traffic"] with
      transport := .dataSharing
      confidence := .likely }

/-- Both announce a SHM locator: Fast DDS uses shared memory exclusively. -/
def decideShm (v : Verdict) (writer reader : Endpoint) : Verdict :=
  let v := v.addReasons ["both-shm-locators"]
  let split := ipcSplitReasons writer reader
  if split ≠ [] then splitVerdict v split
  else
    { v with
      transport := .shm
      locator := (findLocator reader .shm).getD {} }

/-- Older Fast DDS shows the tool only the SHM locator of a same-host participant. -/
def sameHostLocatorsHidden (writer reader : Endpoint) : Bool :=
  writer.hostId = reader.hostId &&
    (writer.sameHostLocatorsFiltered || reader.sameHostLocatorsFiltered) &&
    hasKind writer .shm != hasKind reader .shm

/-- No shared memory between the two: the first network locator the writer can reach. -/
def decideNetwork (v : Verdict) (writer reader : Endpoint) : Verdict :=
  match pickNetworkLocator writer reader with
  | some (selected, multicast) =>
      { v.addReasons [reasonFor selected.kind] with
        transport := transportFor selected.kind
        locator := selected
        locatorMulticast := multicast }
  | none =>
      if sameHostLocatorsHidden writer reader then
        { v.addReasons ["same-host-locators-hidden"] with
          transport := .udpv4
          confidence := .likely }
      else { v.addReasons ["no-common-transport"] with transport := .none }

/-- The verdict once the two endpoints are known to carry the same type. -/
def decideSameType (writer reader : Endpoint) : Verdict :=
  let incompatible := qosIncompatibilities writer reader
  if incompatible ≠ [] then
    { transport := .none
      confidence := .certain
      reasons := incompatible.map fun policy ↦ "qos-incompatible-" ++ policy
      warnings := ["qos-incompatible"] }
  else if writer.hostId = reader.hostId then
    let v : Verdict :=
      { reasons := ["same-host-guid"]
        warnings := if ipDiffers writer reader then ["host-id-match-but-ip-differs"] else [] }
    match dataSharingRefusal writer reader with
    | none => decideDataSharing v writer reader
    | some refusal =>
        let v := v.addReasons [refusal]
        if bothShm writer reader then decideShm v writer reader
        else
          decideNetwork (v.addReasons
            ((if hasKind writer .shm then [] else ["writer-no-shm-locator"]) ++
              if hasKind reader .shm then [] else ["reader-no-shm-locator"])) writer reader
  else
    let v : Verdict := { reasons := ["different-host"] }
    decideNetwork (v.addReasons
      (if bothShm writer reader then ["shm-locators-ignored-across-hosts"] else [])) writer reader

/-! ## Two endpoints of any type -/

/-- Whether Fast DDS delivers this pair inside one process: an eProsima prefix names the host, the
pid and a per-process random value in its first eight bytes. -/
def intraProcessPair (writer reader : Endpoint) : Bool :=
  writer.guidBytes.get 0 = 0x01 && writer.guidBytes.get 1 = 0x0f &&
    writer.guidBytes.toList.take 8 = reader.guidBytes.toList.take 8

/-- Whether Fast DDS 3.x takes the two for one type by their XTypes TypeInformation. -/
inductive TypeInformationMatch
  | unknown
  | same
  | different
  deriving DecidableEq

def typeInformationAnnounced (e : Endpoint) : Bool :=
  e.typeInformationHash ≠ "" || e.typeInformationMinimalHash ≠ ""

def typeInformationMatch (writer reader : Endpoint) : TypeInformationMatch :=
  if ¬typeInformationAnnounced writer ∨ ¬typeInformationAnnounced reader then .unknown
  else if (writer.typeInformationHash ≠ "" ∧
        writer.typeInformationHash = reader.typeInformationHash) ∨
      (writer.typeInformationMinimalHash ≠ "" ∧
        writer.typeInformationMinimalHash = reader.typeInformationMinimalHash) then .same
  else .different

/-- Same type name, different ROS 2 definition. -/
def rosHashesDiffer (writer reader : Endpoint) : Bool :=
  writer.ddsType = reader.ddsType && writer.typeHash ≠ "" && reader.typeHash ≠ "" &&
    writer.typeHash ≠ reader.typeHash

/-- Predict the transport for one writer and reader. -/
protected def decide (writer reader : Endpoint) : Verdict :=
  let typeMatch := typeInformationMatch writer reader
  let namesDiffer := writer.ddsType ≠ reader.ddsType
  let hashWarning := if rosHashesDiffer writer reader then ["type-hash-mismatch"] else []
  if typeMatch = .different ∨ (typeMatch = .unknown ∧ namesDiffer) then
    { transport := .none
      confidence := .certain
      reasons := [if namesDiffer then "type-name-mismatch" else "type-information-mismatch"]
      warnings := hashWarning }
  else
    let v := decideSameType writer reader
    let v := v.addReasons (if namesDiffer then ["type-names-differ-same-type"] else [])
    let v := if intraProcessPair writer reader ∧ "qos-incompatible" ∉ v.warnings then
      { v with reasons := replaceCode v.reasons "datasharing-unverified-by-traffic" "intra-process" }
      else v
    v.addWarnings hashWarning

end Decision

end TransportViz
