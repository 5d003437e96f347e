import TransportViz.Collect.SavedView
import TransportViz.Decision.CompanionLinks
import TransportViz.Diff.NodeKey
import TransportViz.Json.Produced
import TransportViz.Model.NodeNameTable

/-!
# What discovery announces

The announcement of an endpoint or of a participant is turned into a plain record once, in the callback
that delivers it. `Announced` says what every endpoint made this way has: texts that are those of its
bytes, ROS names that are those of its DDS names, and nothing yet of what is found out later.
-/

namespace TransportViz.Observer

open RosNames

/-! ## Locators -/

/-- The constants of `Locator_t::kind`. -/
inductive RtpsLocatorKind
  | invalid
  | udpv4
  | udpv6
  | tcpv4
  | tcpv6
  | shm
  | other
  deriving DecidableEq

structure RtpsLocator where
  kind : RtpsLocatorKind := .invalid
  port : UInt32 := 0
  address : List.Vector UInt8 16 := List.Vector.replicate 16 0
  deriving DecidableEq

/-- What the tool calls of `IPLocator`. -/
class IPLocator where
  toIPv4string : RtpsLocator → String
  toIPv6string : RtpsLocator → String
  getPhysicalPort : RtpsLocator → UInt16

section Locators

variable [IPLocator]

def convertLocator (l : RtpsLocator) : Locator :=
  match l.kind with
  | .udpv4 => { kind := .udpv4, address := IPLocator.toIPv4string l, port := l.port.toNat }
  | .udpv6 => { kind := .udpv6, address := IPLocator.toIPv6string l, port := l.port.toNat }
  | .tcpv4 =>
    { kind := .tcpv4
      address := IPLocator.toIPv4string l
      port := (IPLocator.getPhysicalPort l).toNat }
  | .tcpv6 =>
    { kind := .tcpv6
      address := IPLocator.toIPv6string l
      port := (IPLocator.getPhysicalPort l).toNat }
  | .shm => { kind := .shm, port := l.port.toNat }
  | .invalid | .other => { kind := .invalid, port := l.port.toNat }

end Locators

/-- The addresses as texts; an IPv6 address is written out. -/
abbrev plainAddresses : IPLocator where
  toIPv4string l := ".".intercalate ((l.address.toList.drop 12).map fun b ↦ toString b.toNat)
  toIPv6string l := ":".intercalate (l.address.toList.map fun b ↦ String.ofList (hexByte b))
  getPhysicalPort l := l.port.toUInt16

/-! ## QoS -/

inductive ReliabilityKind
  | bestEffort
  | reliable
  deriving DecidableEq

inductive DurabilityKind
  | volatile
  | transientLocal
  | transient
  | persistent
  | other
  deriving DecidableEq

inductive LivelinessKind
  | automatic
  | manualByParticipant
  | manualByTopic
  | other
  deriving DecidableEq

inductive OwnershipKind
  | shared
  | exclusive
  deriving DecidableEq

def reliabilityToString (kind : ReliabilityKind) : String :=
  if kind = .reliable then "RELIABLE" else "BEST_EFFORT"

def durabilityToString : DurabilityKind → String
  | .volatile => "VOLATILE"
  | .transientLocal => "TRANSIENT_LOCAL"
  | .transient => "TRANSIENT"
  | .persistent => "PERSISTENT"
  | .other => "UNKNOWN"

def livelinessToString : LivelinessKind → String
  | .automatic => "AUTOMATIC"
  | .manualByParticipant => "MANUAL_BY_PARTICIPANT"
  | .manualByTopic => "MANUAL_BY_TOPIC"
  | .other => "UNKNOWN"

def ownershipToString (kind : OwnershipKind) : String :=
  if kind = .exclusive then "EXCLUSIVE" else "SHARED"

structure Duration where
  seconds : Int32 := 0
  nanosec : UInt32 := 0
  deriving DecidableEq

def durationSeconds (d : Duration) : WithTop ℚ :=
  if d.seconds = 0x7fffffff ∨ d.nanosec = 0xffffffff then ⊤
  else ((d.seconds.toInt + d.nanosec.toNat / 10 ^ 9 : ℚ) : WithTop ℚ)

/-! ## Names -/

/-- "RIHS01_" and the 64 digits of a hash. -/
def isTypeHash (value : List Char) : Bool :=
  value.length = "RIHS01_".toList.length + 64 && "RIHS01_".toList.isPrefixOf value &&
    (value.drop "RIHS01_".toList.length).all fun c ↦
      ('0' ≤ c && c ≤ '9') || ('a' ≤ c && c ≤ 'f')

/-- The hash behind the first "typehash=" of a USER_DATA, a character for each of its bytes. -/
def parseTypeHash (userData : String) : String :=
  match (userData.toList.splitOn ';').find? fun field ↦ "typehash=".toList.isPrefixOf field with
  | none => ""
  | some field =>
    let value := field.drop "typehash=".toList.length
    if isTypeHash value then String.ofList value else ""

/-- Each "::" of a package and its namespace is a slash. -/
def slashed : List Char → List Char
  | ':' :: ':' :: rest => '/' :: slashed rest
  | c :: rest => c :: slashed rest
  | [] => []

def demangleType (ddsType : String) : String :=
  match splitAtFirst "::dds_::".toList ddsType.toList with
  | none => ""
  | some (pkgAndNs, name) =>
    if ¬endsWith ddsType "_" then ""
    else String.ofList (slashed pkgAndNs ++ '/' :: name.dropLast)

/-- The text of a participant, as each of its endpoints carries it. -/
def prefixText (participant : ParticipantPrefix) : String :=
  String.ofList (dottedBytes participant.toList)

theorem prefixText_injective : Function.Injective prefixText := fun _ _ h ↦
  Subtype.ext (dottedBytes_injective (String.ofList_injective h))

/-! ## Announcements -/

/-- The discovery data of a remote endpoint, as the accessors `disc_…` read it. -/
structure ProxyData where
  guid : GuidBytes
  topic : String := ""
  type : String := ""
  userData : String := ""
  typeInformationHash : String := ""
  typeInformationMinimalHash : String := ""
  unicast : List RtpsLocator := []
  multicast : List RtpsLocator := []
  reliability : ReliabilityKind := .bestEffort
  durability : DurabilityKind := .volatile
  dataSharing : DataSharingKind := .unknown
  domainIds : List UInt64 := []
  deadline : Duration := {}
  liveliness : LivelinessKind := .automatic
  leaseDuration : Duration := {}
  ownership : OwnershipKind := .shared
  partitions : List String := []

theorem name_of_notRos (ddsTopic : String) (h : (demangleTopic ddsTopic).kind = .notRos) :
    (demangleTopic ddsTopic).name = "" := by
  unfold demangleTopic at h ⊢
  split_ifs at h ⊢
  rfl

section Announced

variable [IPLocator]

/-- `sameHostLocatorsFiltered` is a constant of the Fast DDS the tool is built with. -/
def makeEndpoint (sameHostLocatorsFiltered : Bool) (data : ProxyData) (isWriter : Bool) :
    Endpoint where
  isWriter := isWriter
  guid := guidToString data.guid
  guidBytes := data.guid
  hostId := data.guid.take 4
  participantGuidPrefix := prefixToString data.guid
  ddsTopic := data.topic
  ddsType := data.type
  rosTopic :=
    if (demangleTopic data.topic).kind ≠ .notRos then (demangleTopic data.topic).name else ""
  rosType := demangleType data.type
  typeHash := parseTypeHash data.userData
  typeInformationHash := data.typeInformationHash
  typeInformationMinimalHash := data.typeInformationMinimalHash
  unicast := data.unicast.map convertLocator
  multicast := data.multicast.map convertLocator
  qos :=
    { reliability := reliabilityToString data.reliability
      durability := durabilityToString data.durability
      dataSharing := data.dataSharing
      dataSharingDomains := data.domainIds.map UInt64.toNat
      deadlineS := durationSeconds data.deadline
      liveliness := livelinessToString data.liveliness
      livelinessLeaseS := durationSeconds data.leaseDuration
      ownership := ownershipToString data.ownership
      partitions := data.partitions }
  sameHostLocatorsFiltered := sameHostLocatorsFiltered

/-- What a participant announced about itself. -/
structure ParticipantData where
  hostId : HostId := List.Vector.replicate 4 0
  discoveryProtocol : String := ""
  name : String := ""
  vendor : String := ""
  metatrafficLocators : List Locator := []
  deriving DecidableEq

structure ParticipantProxyData where
  guid : GuidBytes
  /-- Names and values. -/
  properties : List (String × String) := []
  name : String := ""
  vendor : UInt8 × UInt8 := (0, 0)
  metatraffic : List RtpsLocator := []

def makeParticipantData (data : ParticipantProxyData) : ParticipantData where
  hostId := data.guid.take 4
  discoveryProtocol := data.properties.foldl
    (fun protocol property ↦ if property.1 = "PARTICIPANT_TYPE" then property.2 else protocol) ""
  name := data.name
  vendor :=
    if data.vendor = (0x01, 0x0f) then "eProsima"
    else String.ofList (hexByte data.vendor.1 ++ '.' :: hexByte data.vendor.2)
  metatrafficLocators := data.metatraffic.map convertLocator

/-- The endpoint without what the tool finds out about it. -/
def announcement (e : Endpoint) : Endpoint :=
  { e with
    nodeName := ""
    hostName := ""
    process := ""
    datasharingHistoryAvailable := false
    datasharingHistoryBytes := 0
    participantShmPorts := ∅
    participantShmVisibility := .unprobed
    datasharingSegmentVisibility := .unprobed
    bufferParentGuid := ""
    bufferCompanionGuids := [] }

/-- An endpoint as its announcement has it. -/
structure Announced (e : Endpoint) : Prop where
  guid_eq : e.guid = guidToString e.guidBytes
  participant_eq : e.participantGuidPrefix = prefixToString e.guidBytes
  host_eq : e.hostId = e.guidBytes.take 4
  rosTopic_eq : e.rosTopic = (demangleTopic e.ddsTopic).name
  bare : announcement e = e
  port : ∀ l ∈ e.unicast ++ e.multicast, Json.PortFits l

omit [IPLocator] in
theorem Announced.unnamed {e : Endpoint} (h : Announced e) : e.nodeName = "" :=
  (congrArg Endpoint.nodeName h.bare).symm

theorem portFits_convertLocator (l : RtpsLocator) : Json.PortFits (convertLocator l) := by
  have hport : l.port.toNat < 2 ^ 32 := l.port.toNat_lt
  have hphysical : (IPLocator.getPhysicalPort l).toNat < 2 ^ 32 :=
    (IPLocator.getPhysicalPort l).toNat_lt.trans (by decide)
  unfold convertLocator Json.PortFits
  cases l.kind <;> assumption

theorem announced_makeEndpoint (sameHostLocatorsFiltered : Bool) (data : ProxyData)
    (isWriter : Bool) : Announced (makeEndpoint sameHostLocatorsFiltered data isWriter) where
  guid_eq := rfl
  participant_eq := rfl
  host_eq := rfl
  rosTopic_eq := by
    change (if (demangleTopic data.topic).kind ≠ .notRos then _ else "") =
      (demangleTopic data.topic).name
    split_ifs with h
    · rfl
    · rw [name_of_notRos _ (not_not.mp h)]
  bare := rfl
  port l hl := by
    change l ∈ data.unicast.map convertLocator ++ data.multicast.map convertLocator at hl
    rw [← List.map_append] at hl
    obtain ⟨announced, -, rfl⟩ := List.mem_map.mp hl
    exact portFits_convertLocator announced

end Announced

end TransportViz.Observer
