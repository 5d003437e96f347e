import Mathlib.Data.List.Lex
import TransportViz.Library.LastWrite
import TransportViz.Model.Types

/-!
# The node names of the endpoints

Every participant announces its nodes and their endpoints in samples, each of which replaces what the
participant said before. As a participant announces only endpoints of its own, a name that is found among
all participants is the one of the endpoint's own participant.
-/

namespace TransportViz

open LastWrite

/-! ## Model -/

abbrev EndpointGid := GuidBytes

abbrev ParticipantPrefix := List.Vector UInt8 12

def byteValues {n : ℕ} (bytes : List.Vector UInt8 n) : List ℕ := bytes.toList.map UInt8.toNat

theorem byteValues_injective {n : ℕ} : Function.Injective (byteValues (n := n)) := fun _ _ h ↦
  Subtype.ext (List.map_injective_iff.mpr (fun _ _ ↦ UInt8.toNat_inj.mp) h)

/-- Byte arrays are compared byte by byte. -/
instance bytesLinearOrder (n : ℕ) : LinearOrder (List.Vector UInt8 n) where
  __ := PartialOrder.lift byteValues byteValues_injective
  le_total a b := le_total (byteValues a) (byteValues b)
  toDecidableLE a b := inferInstanceAs (Decidable (byteValues a ≤ byteValues b))
  toDecidableEq := inferInstance

/-- The participant that an endpoint's gid starts with. -/
def participantOf (gid : EndpointGid) : ParticipantPrefix := gid.take 12

/-- One node of a sample. -/
structure NodeEntities where
  nodeNamespace : String := ""
  nodeName : String := ""
  readerGids : List EndpointGid := []
  writerGids : List EndpointGid := []

namespace RosNames

def fullyQualifiedNodeName (ns name : String) : String :=
  if ns = "" ∨ ns = "/" then "/" ++ name else ns ++ "/" ++ name

end RosNames

namespace NodeEntities

def gids (node : NodeEntities) : List EndpointGid := node.readerGids ++ node.writerGids

def fullName (node : NodeEntities) : String :=
  RosNames.fullyQualifiedNodeName node.nodeNamespace node.nodeName

/-- The endpoints of the nodes of a sample, by their gids. -/
def addTo (entries : OrderedMap EndpointGid String) (node : NodeEntities) :
    OrderedMap EndpointGid String :=
  node.gids.foldl (fun entries gid ↦ entries.set gid node.fullName) entries

end NodeEntities

structure NodeNameTable where
  byParticipant : OrderedMap ParticipantPrefix (OrderedMap EndpointGid String) := .empty

namespace NodeNameTable

/-- A sample lists every node of its participant. -/
def update (table : NodeNameTable) (sample : ParticipantPrefix × List NodeEntities) : NodeNameTable where
  byParticipant := table.byParticipant.set sample.1 (sample.2.foldl NodeEntities.addTo .empty)

/-- The name of the first entry for `gid`, participant by participant. -/
def lookup (table : NodeNameTable) (gid : EndpointGid) : String :=
  (table.byParticipant.values.findSome? fun entries ↦ entries.find? gid).getD ""

def announcedByParticipant (table : NodeNameTable) : OrderedMap ParticipantPrefix (List EndpointGid) :=
  table.byParticipant.mapValues OrderedMap.keys

def size (table : NodeNameTable) : ℕ := (table.byParticipant.values.map OrderedMap.size).sum

end NodeNameTable

/-! ## Specification -/

abbrev Sample := ParticipantPrefix × List NodeEntities

/-- The endpoints of a participant start with its prefix. -/
def ListsOwn (sample : Sample) : Prop :=
  ∀ node ∈ sample.2, ∀ gid ∈ node.gids, participantOf gid = sample.1

/-- The last sample of a participant. -/
def latest (samples : List Sample) (participant : ParticipantPrefix) : Option (List NodeEntities) :=
  ((samples.filter fun sample ↦ sample.1 = participant).getLast?).map Prod.snd

/-- The name of the last node that lists the endpoint. -/
def nameIn (nodes : List NodeEntities) (gid : EndpointGid) : String :=
  (((nodes.filter fun node ↦ gid ∈ node.gids).getLast?).map NodeEntities.fullName).getD ""

/-- The table tells what the latest samples say. -/
structure TellsLatest (samples : List Sample) (table : NodeNameTable) : Prop where
  lookup_eq : ∀ gid, table.lookup gid =
    ((latest samples (participantOf gid)).map fun nodes ↦ nameIn nodes gid).getD ""
  announced_iff : ∀ participant, (table.announcedByParticipant.find? participant).isSome ↔
    ∃ sample ∈ samples, sample.1 = participant
  announced : ∀ participant nodes, latest samples participant = some nodes →
    ∃ gids, table.announcedByParticipant.find? participant = some gids ∧ gids.Nodup ∧
      ∀ gid, gid ∈ gids ↔ ∃ node ∈ nodes, gid ∈ node.gids
  size_eq : table.size = (table.announcedByParticipant.values.map List.length).sum
  others : ∀ sample, ListsOwn sample →
    (∀ gid, participantOf gid ≠ sample.1 → (table.update sample).lookup gid = table.lookup gid) ∧
      ∀ participant, participant ≠ sample.1 →
        (table.update sample).announcedByParticipant.find? participant =
          table.announcedByParticipant.find? participant

/-! ## One sample -/

section OneSample

variable (nodes : List NodeEntities) (gid : EndpointGid)

theorem find?_foldl_addTo :
    (nodes.foldl NodeEntities.addTo .empty).find? gid =
      ((nodes.filter fun node ↦ gid ∈ node.gids).getLast?).map NodeEntities.fullName := by
  induction nodes using List.reverseRecOn with
  | nil => rfl
  | append_singleton nodes node ih =>
    rw [List.foldl_append, List.foldl_cons, List.foldl_nil, NodeEntities.addTo,
      find?_foldl_set fun _ ↦ node.fullName, List.filter_append]
    by_cases h : gid ∈ node.gids
    · simp [h]
    · simpa [h] using ih

theorem mem_keys_foldl_addTo :
    gid ∈ (nodes.foldl NodeEntities.addTo .empty).keys ↔ ∃ node ∈ nodes, gid ∈ node.gids := by
  rw [OrderedMap.mem_keys_iff, ← Option.isSome_iff_exists, find?_foldl_addTo, Option.isSome_map,
    Option.isSome_iff_ne_none, Ne, List.getLast?_eq_none_iff, List.filter_eq_nil_iff]
  simp

end OneSample

/-! ## All samples -/

namespace NodeNameTable

section Samples

variable (samples : List Sample)

/-- The table after the samples. -/
def ofSamples : NodeNameTable := samples.foldl update {}

theorem find?_byParticipant (participant : ParticipantPrefix) :
    (ofSamples samples).byParticipant.find? participant =
      (latest samples participant).map fun nodes ↦ nodes.foldl NodeEntities.addTo .empty := by
  have hfold : (ofSamples samples).byParticipant = samples.foldl (fun map sample ↦
      write map (some (sample.1, sample.2.foldl NodeEntities.addTo .empty))) .empty :=
    (List.foldl_hom NodeNameTable.byParticipant fun _ _ ↦ rfl).symm
  rw [hfold, find?_foldl_write, written_some Prod.fst, OrderedMap.find?_empty, Option.or_none,
    List.getLast?_map, latest, Option.map_map]
  rfl

theorem find?_announced (table : NodeNameTable) (participant : ParticipantPrefix) :
    table.announcedByParticipant.find? participant =
      (table.byParticipant.find? participant).map OrderedMap.keys := by
  rw [announcedByParticipant, OrderedMap.find?_mapValues]

theorem mem_of_latest {participant : ParticipantPrefix} {nodes : List NodeEntities}
    (h : latest samples participant = some nodes) : (participant, nodes) ∈ samples := by
  obtain ⟨sample, hlast, hnodes⟩ := Option.map_eq_some_iff.mp h
  obtain ⟨hmem, hparticipant⟩ := List.mem_filter.mp (List.mem_of_getLast? hlast)
  rw [← of_decide_eq_true hparticipant, ← hnodes]
  exact hmem

theorem isSome_latest (participant : ParticipantPrefix) :
    (latest samples participant).isSome ↔ ∃ sample ∈ samples, sample.1 = participant := by
  rw [latest, Option.isSome_map, Option.isSome_iff_ne_none, Ne, List.getLast?_eq_none_iff,
    List.filter_eq_nil_iff]
  simp

variable {samples}

/-- Among the endpoints of a participant are only its own. -/
theorem participant_of_find? (hown : ∀ sample ∈ samples, ListsOwn sample)
    {participant : ParticipantPrefix} {entries : OrderedMap EndpointGid String}
    (hentries : (ofSamples samples).byParticipant.find? participant = some entries)
    {gid : EndpointGid} {name : String} (hname : entries.find? gid = some name) :
    participantOf gid = participant := by
  rw [find?_byParticipant] at hentries
  obtain ⟨nodes, hlatest, rfl⟩ := Option.map_eq_some_iff.mp hentries
  have hkey := (OrderedMap.mem_keys_iff _ _).mpr ⟨name, hname⟩
  obtain ⟨node, hnode, hgid⟩ := (mem_keys_foldl_addTo nodes gid).mp hkey
  exact hown _ (mem_of_latest samples hlatest) node hnode gid hgid

/-- A lookup is one in the participant's own entries. -/
theorem lookup_eq_find? (hown : ∀ sample ∈ samples, ListsOwn sample) (gid : EndpointGid) :
    (ofSamples samples).lookup gid =
      (((ofSamples samples).byParticipant.find? (participantOf gid)).bind (·.find? gid)).getD "" := by
  have hfound (entries : OrderedMap EndpointGid String)
      (hmem : entries ∈ (ofSamples samples).byParticipant.values) (name : String)
      (hname : entries.find? gid = some name) :
      (ofSamples samples).byParticipant.find? (participantOf gid) = some entries := by
    obtain ⟨⟨participant, _⟩, hentry, rfl⟩ := List.mem_map.mp hmem
    rw [OrderedMap.mem_entries_iff] at hentry
    rw [participant_of_find? hown hentry hname, hentry]
  rw [lookup]
  congr 1
  cases hsome : (ofSamples samples).byParticipant.values.findSome? (·.find? gid) with
  | some name =>
    obtain ⟨entries, hmem, hname⟩ := List.exists_of_findSome?_eq_some hsome
    rw [hfound entries hmem name hname, Option.bind_some, hname]
  | none =>
    rw [List.findSome?_eq_none_iff] at hsome
    symm
    rw [Option.bind_eq_none_iff]
    intro entries hentries
    have hentry := ((ofSamples samples).byParticipant.mem_entries_iff _ _).mpr hentries
    exact hsome entries (List.mem_map_of_mem hentry)

theorem ofSamples_update (sample : Sample) :
    (ofSamples samples).update sample = ofSamples (samples ++ [sample]) := by
  rw [ofSamples, ofSamples, List.foldl_append, List.foldl_cons, List.foldl_nil]

/-- A sample says nothing about other participants. -/
theorem latest_append_of_ne {sample : Sample} {participant : ParticipantPrefix}
    (h : participant ≠ sample.1) :
    latest (samples ++ [sample]) participant = latest samples participant := by
  simp [latest, List.filter_append, Ne.symm h]

end Samples

/-- Every answer of the table is that of the participant's latest sample. -/
theorem tellsLatest (samples : List Sample) (hown : ∀ sample ∈ samples, ListsOwn sample) :
    TellsLatest samples (ofSamples samples) where
  lookup_eq gid := by
    rw [lookup_eq_find? hown, find?_byParticipant, Option.bind_map]
    cases hlatest : latest samples (participantOf gid) with
    | none => rfl
    | some nodes =>
      rw [Option.bind_some, Function.comp_apply, find?_foldl_addTo, Option.map_some, Option.getD_some,
        nameIn]
  announced_iff participant := by
    rw [find?_announced, find?_byParticipant, Option.isSome_map, Option.isSome_map, isSome_latest]
  announced participant nodes hlatest := by
    refine ⟨(nodes.foldl NodeEntities.addTo .empty).keys, ?_, OrderedMap.nodup_keys _,
      mem_keys_foldl_addTo nodes⟩
    rw [find?_announced, find?_byParticipant, hlatest, Option.map_some, Option.map_some]
  size_eq := by
    simp only [size, announcedByParticipant, OrderedMap.values, OrderedMap.mapValues, List.map_map]
    congr 2
    funext entry
    rw [Function.comp_apply, Function.comp_apply, Function.comp_apply, OrderedMap.keys, List.length_map,
      OrderedMap.size]
  others sample hsample := by
    have hboth : ∀ other ∈ samples ++ [sample], ListsOwn other := by
      intro other hother
      rcases List.mem_append.mp hother with hmem | hmem
      · exact hown other hmem
      · rw [List.mem_singleton.mp hmem]
        exact hsample
    rw [ofSamples_update]
    constructor
    · intro gid hgid
      rw [lookup_eq_find? hboth, lookup_eq_find? hown, find?_byParticipant, find?_byParticipant,
        latest_append_of_ne hgid]
    · intro participant hparticipant
      rw [find?_announced, find?_announced, find?_byParticipant, find?_byParticipant,
        latest_append_of_ne hparticipant]

/-- Two samples of a participant, of which the second one tells. -/
theorem tellsLatest_renamed :
    let gid : EndpointGid := List.Vector.replicate 16 1
    let sample (name : String) : Sample :=
      (List.Vector.replicate 12 1, [{ nodeName := name, readerGids := [gid] }])
    let samples := [sample "talker", sample "listener"]
    (∀ sample ∈ samples, ListsOwn sample) ∧ (ofSamples samples).lookup gid = "/listener" ∧
      TellsLatest samples (ofSamples samples) := by
  intro gid sample samples
  have hsample (name : String) : ListsOwn (sample name) := by
    intro node hnode given hgiven
    rw [List.mem_singleton] at hnode
    subst hnode
    rw [List.mem_singleton.mp hgiven]
    rfl
  have hown : ∀ given ∈ samples, ListsOwn given := by
    intro given hgiven
    rcases List.mem_pair.mp hgiven with rfl | rfl
    · exact hsample "talker"
    · exact hsample "listener"
  exact ⟨hown, by decide, tellsLatest samples hown⟩

end NodeNameTable

end TransportViz
