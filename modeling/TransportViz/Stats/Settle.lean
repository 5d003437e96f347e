import TransportViz.Decision.Fresh
import TransportViz.Stats.Measure

/-!
# When a sample counts for the settle rule

A `--stats` one-shot waits while measurements keep arriving. `measuresAPair` asks of one RTPS_SENT
sample whether it went where some reader receives, on ports and groups collected beforehand;
`carries` asks the same of one pair, locator by locator. The first answers for the second.
-/

namespace TransportViz.Stats

open Decision

/-! ## Model -/

/-- Where the packets of a pair arrive: unicast by kind and port, a multicast group as a whole. -/
structure ReaderDestinations where
  unicastPorts : Finset (LocatorKind × ℕ) := ∅
  multicastLocators : Finset (LocatorKind × String × ℕ) := ∅
  deriving DecidableEq

/-- What one endpoint adds: nothing, unless it is a reader outside the tool's own participants. -/
def ReaderDestinations.note (ownPrefixes : Finset String) (out : ReaderDestinations)
    (e : Endpoint) : ReaderDestinations :=
  if e.isWriter ∨ e.participantGuidPrefix ∈ ownPrefixes then out
  else
    { unicastPorts := out.unicastPorts ∪ (e.unicast.map fun l ↦ (l.kind, l.port)).toFinset
      multicastLocators := out.multicastLocators ∪
        (e.multicast.map fun l ↦ (l.kind, l.address, l.port)).toFinset }

def readerDestinations (endpoints : List Endpoint) (ownPrefixes : Finset String) :
    ReaderDestinations :=
  endpoints.foldl (ReaderDestinations.note ownPrefixes) {}

/-- The counter moved since its first sample, and the destination is one of the readers'. -/
def measuresAPair (traffic : TrafficSample) (readers : ReaderDestinations) : Bool :=
  if traffic.packets ≤ traffic.packetsFirst then false
  else
    (traffic.dst.kind, traffic.dst.port) ∈ readers.unicastPorts ||
      (traffic.dst.kind, traffic.dst.address, traffic.dst.port) ∈ readers.multicastLocators

/-! ## The destinations -/

section Destinations

/-- A discovered reader outside the tool's own participants. -/
structure OthersReader (endpoints : List Endpoint) (ownPrefixes : Finset String) (e : Endpoint) :
    Prop where
  discovered : e ∈ endpoints
  reader : e.isWriter = false
  notOwn : e.participantGuidPrefix ∉ ownPrefixes

variable {ownPrefixes : Finset String}

/-- A set that every reader's locators are added to. -/
theorem mem_readerDestinations {α : Type} (part : ReaderDestinations → Finset α)
    (adds : Endpoint → α → Prop) (hempty : part {} = ∅)
    (hnote : ∀ out e a, a ∈ part (out.note ownPrefixes e) ↔
      a ∈ part out ∨ (e.isWriter = false ∧ e.participantGuidPrefix ∉ ownPrefixes ∧ adds e a))
    (endpoints : List Endpoint) (a : α) :
    a ∈ part (readerDestinations endpoints ownPrefixes) ↔
      ∃ e, OthersReader endpoints ownPrefixes e ∧ adds e a := by
  have hfold (rest : List Endpoint) (out : ReaderDestinations) :
      a ∈ part (rest.foldl (ReaderDestinations.note ownPrefixes) out) ↔
        a ∈ part out ∨ ∃ e ∈ rest, e.isWriter = false ∧
          e.participantGuidPrefix ∉ ownPrefixes ∧ adds e a := by
    induction rest generalizing out with
    | nil => simp
    | cons e rest ih => rw [List.foldl_cons, ih, hnote, List.exists_mem_cons_iff, or_assoc]
  rw [readerDestinations, hfold, hempty]
  simp only [Finset.notMem_empty, false_or]
  constructor
  · rintro ⟨e, he, hreader, hown, hadds⟩
    exact ⟨e, ⟨he, hreader, hown⟩, hadds⟩
  · rintro ⟨e, ⟨he, hreader, hown⟩, hadds⟩
    exact ⟨e, he, hreader, hown, hadds⟩

theorem mem_unicastPorts_iff (endpoints : List Endpoint) (kind : LocatorKind) (port : ℕ) :
    (kind, port) ∈ (readerDestinations endpoints ownPrefixes).unicastPorts ↔
      ∃ e, OthersReader endpoints ownPrefixes e ∧
        ∃ l ∈ e.unicast, l.kind = kind ∧ l.port = port := by
  refine mem_readerDestinations ReaderDestinations.unicastPorts
    (fun e a ↦ ∃ l ∈ e.unicast, l.kind = a.1 ∧ l.port = a.2) rfl (fun out e a ↦ ?_) endpoints
    (kind, port)
  unfold ReaderDestinations.note
  split_ifs with hskip
  · simp only [iff_self_or]
    rintro ⟨hreader, hown, -⟩
    simp [hreader, hown] at hskip
  · simp only [not_or, Bool.not_eq_true] at hskip
    simp [hskip, Prod.ext_iff]

theorem mem_multicastLocators_iff (endpoints : List Endpoint) (l : Locator) :
    (l.kind, l.address, l.port) ∈ (readerDestinations endpoints ownPrefixes).multicastLocators ↔
      ∃ e, OthersReader endpoints ownPrefixes e ∧ l ∈ e.multicast := by
  have hsame (own : Locator) :
      (own.kind, own.address, own.port) = (l.kind, l.address, l.port) ↔ own = l := by
    cases own
    cases l
    simp
  rw [mem_readerDestinations ReaderDestinations.multicastLocators
    (fun e a ↦ ∃ own ∈ e.multicast, (own.kind, own.address, own.port) = a) rfl ?_ endpoints]
  · simp [hsame]
  · intro out e a
    unfold ReaderDestinations.note
    split_ifs with hskip
    · simp only [iff_self_or]
      rintro ⟨hreader, hown, -⟩
      simp [hreader, hown] at hskip
    · simp only [not_or, Bool.not_eq_true] at hskip
      simp [hskip]

theorem measuresAPair_iff {s : TrafficSample} (hmoved : s.packetsFirst < s.packets)
    (endpoints : List Endpoint) :
    measuresAPair s (readerDestinations endpoints ownPrefixes) = true ↔
      ∃ e, OthersReader endpoints ownPrefixes e ∧
        ((∃ l ∈ e.unicast, l.kind = s.dst.kind ∧ l.port = s.dst.port) ∨ s.dst ∈ e.multicast) := by
  rw [measuresAPair, if_neg (not_le.mpr hmoved), Bool.or_eq_true, decide_eq_true_eq,
    decide_eq_true_eq, mem_unicastPorts_iff, mem_multicastLocators_iff, ← exists_or]
  simp only [and_or_left]

end Destinations

/-! ## The settle rule covers the measurement -/

section Covers

variable {endpoints : List Endpoint} {ownPrefixes localAddresses : Finset String}
  {s : TrafficSample}

/-- A multicast group is no address of this host, and a SHM locator has no address. -/
structure PlainAddresses (endpoints : List Endpoint) (ownPrefixes localAddresses : Finset String)
    (s : TrafficSample) : Prop where
  multicast : ∀ e, OthersReader endpoints ownPrefixes e → ∀ l ∈ e.multicast,
    isLoopback l.address = false ∧ l.address ∉ localAddresses
  shm : ∀ e, OthersReader endpoints ownPrefixes e → ∀ l ∈ e.multicast,
    l.kind = .shm → l.address = ""
  destination : s.dst.kind = .shm → s.dst.address = ""

theorem kind_port_of_sameLocatorLocal {a b : Locator}
    (h : sameLocatorLocal a b localAddresses = true) : a.kind = b.kind ∧ a.port = b.port := by
  simp only [sameLocatorLocal, sameLocator, Bool.or_eq_true, Bool.and_eq_true,
    decide_eq_true_eq] at h
  tauto

/-- A multicast group is matched as it stands: there is no loopback alias of it. -/
theorem eq_of_sameLocatorLocal {a b : Locator} (hloopback : isLoopback a.address = false)
    (hlocal : a.address ∉ localAddresses) (ha : a.kind = .shm → a.address = "")
    (hb : b.kind = .shm → b.address = "") (h : sameLocatorLocal a b localAddresses = true) :
    a = b := by
  obtain ⟨hkind, hport⟩ := kind_port_of_sameLocatorLocal h
  have haddress : a.address = b.address := by
    simp only [sameLocatorLocal, sameLocator, hloopback, hlocal, Bool.or_eq_true, Bool.and_eq_true,
      decide_eq_true_eq, Bool.false_eq_true, decide_false, false_and, and_false, or_false] at h
    rcases h.2 with hshm | haddress
    · rw [ha hshm, hb (hkind ▸ hshm)]
    · exact haddress
  cases a
  cases b
  simp_all

/-- What the settle rule says of a sample whose counter moved. -/
structure SettleCovers [Fnmatch] (endpoints : List Endpoint) (ownPrefixes : Finset String)
    (stats : StatsData) (s : TrafficSample) : Prop where
  /-- A sample that reaches a locator of some reader counts. -/
  reached : (∃ e, OthersReader endpoints ownPrefixes e ∧
      readerHasLocator e s.dst stats.localAddresses = true) →
    measuresAPair s (readerDestinations endpoints ownPrefixes) = true
  /-- So does one whose packets are those of a pair. -/
  attributed : ∀ t ∈ summarize endpoints, ∀ p ∈ t.pairs,
    p.reader.participantGuidPrefix ∉ ownPrefixes →
      carries stats p.writer.toEndpoint p.reader.toEndpoint s = true →
        measuresAPair s (readerDestinations endpoints ownPrefixes) = true
  /-- A sample that counts went to a unicast port of a reader, or to exactly a group of one. -/
  addressed : measuresAPair s (readerDestinations endpoints ownPrefixes) = true →
    ∃ e, OthersReader endpoints ownPrefixes e ∧
      ((∃ l ∈ e.unicast, l.kind = s.dst.kind ∧ l.port = s.dst.port) ∨ s.dst ∈ e.multicast)

theorem measuresAPair_of_readerHasLocator (hmoved : s.packetsFirst < s.packets)
    (hplain : PlainAddresses endpoints ownPrefixes localAddresses s) {e : Endpoint}
    (he : OthersReader endpoints ownPrefixes e)
    (hlocator : readerHasLocator e s.dst localAddresses = true) :
    measuresAPair s (readerDestinations endpoints ownPrefixes) = true := by
  rw [measuresAPair_iff hmoved]
  obtain ⟨own, hown, hsame⟩ := List.any_eq_true.mp hlocator
  refine ⟨e, he, (List.mem_append.mp hown).imp (fun hunicast ↦ ?_) fun hmulticast ↦ ?_⟩
  · exact ⟨own, hunicast, kind_port_of_sameLocatorLocal hsame⟩
  · obtain ⟨hloopback, hlocal⟩ := hplain.multicast e he own hmulticast
    rw [← eq_of_sameLocatorLocal hloopback hlocal (hplain.shm e he own hmulticast)
      hplain.destination hsame]
    exact hmulticast

variable [Fnmatch]

/-- The reader of a pair is a discovered reader. -/
theorem othersReader_of_mem_pairs {t : TopicSummary} (ht : t ∈ summarize endpoints) {p : Pair}
    (hp : p ∈ t.pairs) (hown : p.reader.participantGuidPrefix ∉ ownPrefixes) :
    OthersReader endpoints ownPrefixes p.reader.toEndpoint := by
  have hsummary := isSummary_of_mem endpoints t ht
  rw [hsummary.pairs_eq, mem_freshPairs, hsummary.readers_eq, mem_sideOf] at hp
  obtain ⟨-, ⟨hpointer, -, hreader⟩, -⟩ := hp
  exact ⟨mem_of_mem_pointers hpointer, hreader, hown⟩

theorem settleCovers (endpoints : List Endpoint) (ownPrefixes : Finset String) (stats : StatsData)
    (s : TrafficSample) (hmoved : s.packetsFirst < s.packets)
    (hplain : PlainAddresses endpoints ownPrefixes stats.localAddresses s) :
    SettleCovers endpoints ownPrefixes stats s where
  reached := fun ⟨_, he, hlocator⟩ ↦ measuresAPair_of_readerHasLocator hmoved hplain he hlocator
  attributed t ht p hp hown hcarries := by
    simp only [carries, Bool.and_eq_true] at hcarries
    exact measuresAPair_of_readerHasLocator hmoved hplain (othersReader_of_mem_pairs ht hp hown)
      hcarries.1.2
  addressed := (measuresAPair_iff hmoved endpoints).mp

omit [Fnmatch]

/-- A reader on this host, seen on the loopback address and on a group, and the packets that a writer
of another host sent to the real address. -/
def loopbackReader : Endpoint where
  guid := "r"
  participantGuidPrefix := "p2"
  unicast := [⟨.udpv4, "127.0.0.1", 7413⟩]
  multicast := [⟨.udpv4, "239.255.0.1", 7401⟩]

def remoteTraffic : TrafficSample where
  srcParticipantPrefix := "p1"
  dst := ⟨.udpv4, "192.168.1.5", 7413⟩
  packets := 12
  packetsFirst := 2

theorem settleCovers_loopback :
    @SettleCovers literalFnmatch [loopbackReader] {"own"} { localAddresses := {"192.168.1.5"} }
      remoteTraffic := by
  refine @settleCovers literalFnmatch [loopbackReader] {"own"}
    { localAddresses := {"192.168.1.5"} } remoteTraffic (by decide) ⟨?_, ?_, by decide⟩
  · rintro e ⟨he, -, -⟩
    rw [List.mem_singleton.mp he]
    decide
  · rintro e ⟨he, -, -⟩
    rw [List.mem_singleton.mp he]
    decide

end Covers

end TransportViz.Stats
