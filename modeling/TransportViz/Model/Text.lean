import TransportViz.Library.Delimited
import TransportViz.Model.Types

/-!
# The texts of the model

The names that the documents and the messages use for enumerations, host ids and GUIDs. A GUID text
is read back from its fixed shape, twelve bytes, a bar and four bytes, so two GUIDs with one text are
one GUID.
-/

namespace TransportViz

def LocatorKind.text : LocatorKind → String
  | .udpv4 => "UDPv4"
  | .udpv6 => "UDPv6"
  | .tcpv4 => "TCPv4"
  | .tcpv6 => "TCPv6"
  | .shm => "SHM"
  | .invalid => "INVALID"

def Transport.text : Transport → String
  | .udpv4 => "UDPv4"
  | .udpv6 => "UDPv6"
  | .tcpv4 => "TCPv4"
  | .tcpv6 => "TCPv6"
  | .shm => "SHM"
  | .dataSharing => "DATA_SHARING"
  | .none => "NONE"

def Confidence.text : Confidence → String
  | .certain => "certain"
  | .likely => "likely"

def TopicKind.text : TopicKind → String
  | .topic => "topic"
  | .service => "service"
  | .action => "action"
  | .other => "other"

def GroupDirection.text : GroupDirection → String
  | .toServer => "to_server"
  | .toClient => "to_client"
  | .none => ""

def DataSharingKind.text : DataSharingKind → String
  | .off => "OFF"
  | .on => "ON"
  | .auto => "AUTO"
  | .unknown => "UNKNOWN"

def KeyMode.text : KeyMode → String
  | .node => "node"
  | .guid => "guid"

def ShmVisibility.text : ShmVisibility → String
  | .visible => "visible"
  | .notVisible => "not-visible"
  | .unprobed => "unprobed"

def PortLock.text : PortLock → String
  | .held => "held"
  | .own => "own"
  | .absent => "absent"
  | .stale => "stale"
  | .unknown => "unknown"
  | .unprobed => "unprobed"

theorem LocatorKind.text_injective : Function.Injective LocatorKind.text := by
  intro a b h
  cases a <;> cases b <;> first | rfl | simp [LocatorKind.text] at h

theorem Transport.text_injective : Function.Injective Transport.text := by
  intro a b h
  cases a <;> cases b <;> first | rfl | simp [Transport.text] at h

theorem Confidence.text_injective : Function.Injective Confidence.text := by
  intro a b h
  cases a <;> cases b <;> first | rfl | simp [Confidence.text] at h

/-! ## Bytes -/

def hexDigit (n : Fin 16) : Char :=
  "0123456789abcdef".toList.getD n '0'

/-- `%02x` of one byte. -/
def hexByte (byte : UInt8) : List Char :=
  [hexDigit (Fin.ofNat 16 (byte.toNat / 16)), hexDigit (Fin.ofNat 16 byte.toNat)]

/-- Bytes with a dot between two of them. -/
def dottedBytes : List UInt8 → List Char
  | [] => []
  | byte :: rest => hexByte byte ++ rest.flatMap fun next ↦ '.' :: hexByte next

def hostIdHex (id : HostId) : String := String.ofList (id.toList.flatMap hexByte)

/-- "xx.xx.(12 bytes)|xx.xx.xx.xx". -/
def guidToString (guid : GuidBytes) : String :=
  String.ofList (dottedBytes (guid.toList.take 12) ++ '|' :: dottedBytes (guid.toList.drop 12))

/-- The text of the participant's prefix, the first twelve bytes. -/
def prefixToString (guid : GuidBytes) : String := String.ofList (dottedBytes (guid.toList.take 12))

theorem hexDigit_injective : Function.Injective hexDigit := by
  unfold Function.Injective
  decide

theorem hexByte_injective : Function.Injective hexByte := by
  intro a b h
  simp only [hexByte, List.cons.injEq, and_true] at h
  have hhigh := congrArg Fin.val (hexDigit_injective h.1)
  have hlow := congrArg Fin.val (hexDigit_injective h.2)
  simp only [Fin.val_ofNat] at hhigh hlow
  have ha := a.toNat_lt
  have hb := b.toNat_lt
  refine UInt8.toNat_inj.mp ?_
  omega

/-- The characters a GUID text is made of. -/
def guidChars : List Char := "0123456789abcdef.|".toList

theorem mem_hexByte (byte : UInt8) (c : Char) (h : c ∈ hexByte byte) :
    c ∈ "0123456789abcdef.".toList := by
  have hdigit : ∀ n : Fin 16, hexDigit n ∈ "0123456789abcdef.".toList := by decide
  simp only [hexByte, List.mem_cons, List.not_mem_nil, or_false] at h
  rcases h with rfl | rfl <;> exact hdigit _

theorem mem_dottedBytes (bytes : List UInt8) (c : Char) (h : c ∈ dottedBytes bytes) :
    c ∈ "0123456789abcdef.".toList := by
  cases bytes with
  | nil => simp [dottedBytes] at h
  | cons byte rest =>
    rw [dottedBytes, List.mem_append, List.mem_flatMap] at h
    rcases h with h | ⟨next, -, h⟩
    · exact mem_hexByte byte c h
    · rcases List.mem_cons.mp h with rfl | h
      · decide
      · exact mem_hexByte next c h

theorem flatMap_dotted_injective :
    Function.Injective fun bytes : List UInt8 ↦ bytes.flatMap fun next ↦ '.' :: hexByte next := by
  intro a
  induction a with
  | nil =>
    intro b h
    cases b with
    | nil => rfl
    | cons => simp at h
  | cons byte rest ih =>
    intro b h
    cases b with
    | nil => simp at h
    | cons other more =>
      simp only [List.flatMap_cons, List.cons_append, List.cons.injEq, true_and] at h
      obtain ⟨hhead, htail⟩ := List.append_inj h rfl
      rw [hexByte_injective hhead, ih htail]

theorem dottedBytes_injective : Function.Injective dottedBytes := by
  intro a b h
  cases a with
  | nil =>
    cases b with
    | nil => rfl
    | cons => simp [dottedBytes, hexByte] at h
  | cons byte rest =>
    cases b with
    | nil => simp [dottedBytes, hexByte] at h
    | cons other more =>
      obtain ⟨hhead, htail⟩ := List.append_inj h rfl
      rw [hexByte_injective hhead, flatMap_dotted_injective htail]

theorem bar_notMem_dottedBytes (bytes : List UInt8) : '|' ∉ dottedBytes bytes :=
  fun h ↦ absurd (mem_dottedBytes bytes '|' h) (by decide)

/-- A GUID text names its GUID. -/
theorem guidToString_injective : Function.Injective guidToString := by
  intro a b h
  have hchars := String.ofList_injective h
  obtain ⟨hparticipant, hentity⟩ := Delimited.eq_of_append_cons_left
    (bar_notMem_dottedBytes _) (bar_notMem_dottedBytes _) hchars
  refine Subtype.ext ?_
  have htake := dottedBytes_injective hparticipant
  have hdrop := dottedBytes_injective hentity
  calc
    a.toList = a.toList.take 12 ++ a.toList.drop 12 := (List.take_append_drop 12 _).symm
    _ = b.toList.take 12 ++ b.toList.drop 12 := by rw [htake, hdrop]
    _ = b.toList := List.take_append_drop 12 _

/-- The GUIDs of one host on which each process has one participant. -/
def guidOnHost (process entity : UInt8) : GuidBytes :=
  ⟨[1, 15, 7, 7, process, 0, 0, 0, 1, 0, 0, 0, 0, 0, entity, 3], rfl⟩

def sampleHostId : HostId := ⟨[1, 15, 7, 7], rfl⟩

theorem mem_guidToString (guid : GuidBytes) (c : Char) (h : c ∈ (guidToString guid).toList) :
    c ∈ guidChars := by
  have hdotted (bytes : List UInt8) (hmem : c ∈ dottedBytes bytes) : c ∈ guidChars :=
    (by decide : "0123456789abcdef.".toList ⊆ guidChars) (mem_dottedBytes bytes c hmem)
  rw [guidToString, String.toList_ofList, List.mem_append, List.mem_cons] at h
  rcases h with h | rfl | h
  · exact hdotted _ h
  · decide
  · exact hdotted _ h

/-- The endpoints have different GUIDs, and each GUID's text is that of its bytes. -/
structure DistinctGuids (endpoints : List Endpoint) : Prop where
  guid_eq : ∀ e ∈ endpoints, e.guid = guidToString e.guidBytes
  distinct : (endpoints.map Endpoint.guid).Nodup

theorem DistinctGuids.eq_of_guid {endpoints : List Endpoint} (h : DistinctGuids endpoints)
    {a b : Endpoint} (ha : a ∈ endpoints) (hb : b ∈ endpoints) (heq : a.guid = b.guid) : a = b :=
  List.inj_on_of_nodup_map h.distinct ha hb heq

end TransportViz
