import TransportViz.Collect.SegmentNames
import TransportViz.Library.Interleaving
import TransportViz.Library.LastWrite
import TransportViz.Observer.Announcements

/-!
# The discovery observer

Fast DDS tells of every participant, writer and reader that appears, changes or goes away, one callback
at a time. The observer keeps what was announced last. Its snapshot therefore depends on the callbacks
about each endpoint only, and every snapshot of every run is one the later stages can rely on.
-/

namespace TransportViz.Observer

open Interleaving LastWrite

/-! ## Model -/

/-- The Fast DDS the tool is built with. -/
class FastDds extends IPLocator where
  version3 : Bool
  sameHostLocatorsFiltered : Bool

inductive ParticipantDiscoveryStatus
  | discovered
  | changedQos
  | removed
  | dropped
  | ignored
  | other
  deriving DecidableEq

/-- Of a reader or of a writer. -/
inductive EndpointDiscoveryStatus
  | discovered
  | changedQos
  | removed
  | other
  deriving DecidableEq

structure DiscoveryObserver where
  endpoints : OrderedMap String Endpoint := .empty
  participants : OrderedMap ParticipantPrefix ParticipantData := .empty
  lastEvent : ℚ
  eventCount : ℕ := 0

namespace DiscoveryObserver

def touch (o : DiscoveryObserver) (now : ℚ) : DiscoveryObserver :=
  { o with lastEvent := now, eventCount := o.eventCount + 1 }

def upsert (o : DiscoveryObserver) (now : ℚ) (e : Endpoint) : DiscoveryObserver :=
  { o with endpoints := o.endpoints.set e.guid e }.touch now

def erase (o : DiscoveryObserver) (now : ℚ) (guid : String) : DiscoveryObserver :=
  { o with endpoints := o.endpoints.erase guid }.touch now

def snapshot (o : DiscoveryObserver) : List Endpoint := o.endpoints.values

def liveParticipants (o : DiscoveryObserver) : Finset ParticipantPrefix := o.participants.keys.toFinset

/-- What each live participant announced, by the text of its prefix. -/
def participantData (o : DiscoveryObserver) : OrderedMap String ParticipantData :=
  .ofList (o.participants.entries.map fun row ↦ (prefixText row.1, row.2))

variable [FastDds]

/-- Fast DDS 2.x has no participant to ignore. -/
def onParticipantDiscovery (o : DiscoveryObserver) (now : ℚ) (status : ParticipantDiscoveryStatus)
    (data : ParticipantProxyData) : DiscoveryObserver :=
  let o := match status with
    | .discovered | .changedQos =>
      { o with participants := o.participants.set (participantOf data.guid) (makeParticipantData data) }
    | .removed | .dropped => { o with participants := o.participants.erase (participantOf data.guid) }
    | .ignored =>
      if FastDds.version3 then
        { o with participants := o.participants.erase (participantOf data.guid) }
      else o
    | .other => o
  o.touch now

def onEndpointDiscovery (isWriter : Bool) (o : DiscoveryObserver) (now : ℚ)
    (status : EndpointDiscoveryStatus) (data : ProxyData) : DiscoveryObserver :=
  match status with
  | .discovered | .changedQos =>
    o.upsert now (makeEndpoint FastDds.sameHostLocatorsFiltered data isWriter)
  | .removed => o.erase now (guidToString data.guid)
  | .other => o

def onDataReaderDiscovery := onEndpointDiscovery false

def onDataWriterDiscovery := onEndpointDiscovery true

end DiscoveryObserver

inductive DiscoveryCallback
  | participant (status : ParticipantDiscoveryStatus) (data : ParticipantProxyData)
  | reader (status : EndpointDiscoveryStatus) (data : ProxyData)
  | writer (status : EndpointDiscoveryStatus) (data : ProxyData)

section Runs

variable [FastDds]

/-- A callback at a time. -/
def receive (o : DiscoveryObserver) (event : ℚ × DiscoveryCallback) : DiscoveryObserver :=
  match event.2 with
  | .participant status data => o.onParticipantDiscovery event.1 status data
  | .reader status data => o.onDataReaderDiscovery event.1 status data
  | .writer status data => o.onDataWriterDiscovery event.1 status data

/-- The observer that was made at a time, after the callbacks. -/
def discovered (start : ℚ) (events : List (ℚ × DiscoveryCallback)) : DiscoveryObserver :=
  events.foldl receive { lastEvent := start }

/-! ## What the callbacks say -/

/-- How an endpoint is announced now, or that it went away. -/
def endpointNews : DiscoveryCallback → Option (GuidBytes × Option Endpoint)
  | .reader .removed data | .writer .removed data => some (data.guid, none)
  | .reader .discovered data | .reader .changedQos data =>
    some (data.guid, some (makeEndpoint FastDds.sameHostLocatorsFiltered data false))
  | .writer .discovered data | .writer .changedQos data =>
    some (data.guid, some (makeEndpoint FastDds.sameHostLocatorsFiltered data true))
  | .reader .other _ | .writer .other _ | .participant _ _ => none

/-- What a participant says of itself now, or that it went away. -/
def participantNews : DiscoveryCallback → Option (ParticipantPrefix × Option ParticipantData)
  | .participant .discovered data | .participant .changedQos data =>
    some (participantOf data.guid, some (makeParticipantData data))
  | .participant .removed data | .participant .dropped data => some (participantOf data.guid, none)
  | .participant .ignored data =>
    if FastDds.version3 then some (participantOf data.guid, none) else none
  | .participant .other _ | .reader _ _ | .writer _ _ => none

/-- The observer knows exactly what was announced last. -/
structure TellsLatest (callbacks : List DiscoveryCallback) (o : DiscoveryObserver) : Prop where
  sorted : (o.snapshot.map Endpoint.guid).Pairwise (· < ·)
  snapshot : ∀ e, e ∈ o.snapshot ↔ Latest endpointNews callbacks e.guidBytes (some e)
  live : ∀ p, p ∈ o.liveParticipants ↔ ∃ d, Latest participantNews callbacks p (some d)
  participantData : ∀ p d, o.participantData.find? (prefixText p) = some d ↔
    Latest participantNews callbacks p (some d)
  texts : ∀ text ∈ o.participantData.keys,
    ∃ p ∈ o.liveParticipants, prefixText p = text

/-- The endpoint or the participant that a callback is about; none when it has no effect. -/
def subject : DiscoveryCallback → Option (GuidBytes ⊕ ParticipantPrefix)
  | .participant _ data => some (.inr (participantOf data.guid))
  | .reader .other _ | .writer .other _ => none
  | .reader _ data | .writer _ data => some (.inl data.guid)

def concerns (x : GuidBytes ⊕ ParticipantPrefix) (c : DiscoveryCallback) : Bool := subject c = some x

/-- What discovery hands to the later stages: what they take for granted of endpoints. -/
structure HandsOut (endpoints : List Endpoint) : Prop where
  announced : ∀ e ∈ endpoints, Announced e
  guids : Decision.DiscoveredGuids endpoints
  segments : Collect.DistinctGuids endpoints
  names : Collect.NamesDemangled endpoints
  keys : Diff.Discovered endpoints
  plain : Json.Plain endpoints

/-! ## One callback -/

variable (o : DiscoveryObserver) (event : ℚ × DiscoveryCallback)

theorem receive_endpoints :
    (receive o event).endpoints =
      assign o.endpoints ((endpointNews event.2).map (Prod.map guidToString id)) := by
  obtain ⟨now, callback⟩ := event
  cases callback with
  | participant status data =>
    cases status with
    | ignored =>
      change ((if FastDds.version3 then _ else o : DiscoveryObserver).touch now).endpoints = _
      split_ifs <;> rfl
    | _ => rfl
  | reader status data => cases status <;> rfl
  | writer status data => cases status <;> rfl

theorem receive_participants :
    (receive o event).participants = assign o.participants (participantNews event.2) := by
  obtain ⟨now, callback⟩ := event
  cases callback with
  | participant status data =>
    cases status with
    | ignored =>
      change ((if FastDds.version3 then _ else o : DiscoveryObserver).touch now).participants = _
      simp only [participantNews]
      split_ifs <;> rfl
    | _ => rfl
  | reader status data => cases status <;> rfl
  | writer status data => cases status <;> rfl

theorem receive_eventCount :
    (receive o event).eventCount = o.eventCount + if (subject event.2).isSome then 1 else 0 := by
  obtain ⟨now, callback⟩ := event
  cases callback with
  | participant status data =>
    cases status with
    | ignored =>
      simp only [receive, DiscoveryObserver.onParticipantDiscovery, DiscoveryObserver.touch, subject,
        Option.isSome_some, if_true]
      split_ifs <;> rfl
    | _ => rfl
  | reader status data => cases status <;> rfl
  | writer status data => cases status <;> rfl

/-- A callback that is about nothing changes nothing. -/
theorem receive_of_subject_none (h : subject event.2 = none) : receive o event = o := by
  obtain ⟨now, callback⟩ := event
  cases callback with
  | participant status data => cases h
  | reader status data => cases status <;> first | rfl | cases h
  | writer status data => cases status <;> first | rfl | cases h

/-! ## All callbacks -/

variable (start : ℚ) (events : List (ℚ × DiscoveryCallback))

theorem discovered_endpoints :
    (discovered start events).endpoints =
      (events.map Prod.snd).foldl
        (fun map c ↦ assign map ((endpointNews c).map (Prod.map guidToString id))) .empty := by
  rw [discovered, List.foldl_map]
  exact (List.foldl_hom DiscoveryObserver.endpoints fun o event ↦ (receive_endpoints o event).symm).symm

theorem discovered_participants :
    (discovered start events).participants =
      (events.map Prod.snd).foldl (fun map c ↦ assign map (participantNews c)) .empty := by
  rw [discovered, List.foldl_map]
  exact (List.foldl_hom DiscoveryObserver.participants fun o event ↦
    (receive_participants o event).symm).symm

variable {start events}

theorem find?_participants (p : ParticipantPrefix) (d : ParticipantData) :
    (discovered start events).participants.find? p = some d ↔
      Latest participantNews (events.map Prod.snd) p (some d) := by
  rw [discovered_participants, find?_foldl_assign, OrderedMap.find?_empty,
    ← getLast?_written_eq_some_iff]
  cases (written participantNews p (events.map Prod.snd)).getLast? <;> simp

theorem find?_endpoints (guid : GuidBytes) (e : Endpoint) :
    (discovered start events).endpoints.find? (guidToString guid) = some e ↔
      Latest endpointNews (events.map Prod.snd) guid (some e) := by
  rw [discovered_endpoints, find?_foldl_assign, OrderedMap.find?_empty,
    written_mapKey guidToString_injective, ← getLast?_written_eq_some_iff]
  cases (written endpointNews guid (events.map Prod.snd)).getLast? <;> simp

theorem makeEndpoint_of_endpointNews {c : DiscoveryCallback} {guid : GuidBytes} {e : Endpoint}
    (h : endpointNews c = some (guid, some e)) :
    ∃ data isWriter, data.guid = guid ∧
      makeEndpoint FastDds.sameHostLocatorsFiltered data isWriter = e := by
  cases c with
  | participant status data => cases h
  | reader status data => cases status <;> cases h <;> exact ⟨data, false, rfl, rfl⟩
  | writer status data => cases status <;> cases h <;> exact ⟨data, true, rfl, rfl⟩

/-- Every entry is an announced endpoint under the text of its GUID. -/
theorem announced_of_find? {key : String} {e : Endpoint}
    (h : (discovered start events).endpoints.find? key = some e) : Announced e ∧ e.guid = key := by
  rw [discovered_endpoints, find?_foldl_assign, OrderedMap.find?_empty] at h
  have hlast : (written (fun c ↦ (endpointNews c).map (Prod.map guidToString id)) key
      (events.map Prod.snd)).getLast? = some (some e) := by
    cases hwritten : (written (fun c ↦ (endpointNews c).map (Prod.map guidToString id)) key
      (events.map Prod.snd)).getLast? with
    | none => simp [hwritten] at h
    | some news => rw [hwritten, Option.getD_some] at h; rw [h]
  obtain ⟨-, c, -, -, hc, -⟩ := getLast?_written_eq_some_iff.mp hlast
  obtain ⟨news, hnews, heq⟩ := Option.map_eq_some_iff.mp hc
  obtain ⟨guid, announcement⟩ := news
  simp only [Prod.map, id, Prod.mk.injEq] at heq
  obtain ⟨rfl, rfl⟩ := heq
  obtain ⟨data, isWriter, rfl, rfl⟩ := makeEndpoint_of_endpointNews hnews
  exact ⟨announced_makeEndpoint _ data isWriter, rfl⟩

theorem mem_snapshot_iff (e : Endpoint) :
    e ∈ (discovered start events).snapshot ↔
      (discovered start events).endpoints.find? e.guid = some e := by
  rw [← OrderedMap.mem_entries_iff, DiscoveryObserver.snapshot, OrderedMap.values, List.mem_map]
  constructor
  · rintro ⟨entry, hentry, he⟩
    have hfind := (OrderedMap.mem_entries_iff _ entry.1 entry.2).mp hentry
    rw [← he, (announced_of_find? hfind).2]
    exact hentry
  · intro h
    exact ⟨(e.guid, e), h, rfl⟩

theorem announced_of_mem {e : Endpoint} (h : e ∈ (discovered start events).snapshot) : Announced e :=
  (announced_of_find? ((mem_snapshot_iff e).mp h)).1

theorem guids_snapshot :
    (discovered start events).snapshot.map Endpoint.guid = (discovered start events).endpoints.keys := by
  rw [DiscoveryObserver.snapshot, OrderedMap.values, OrderedMap.keys, List.map_map]
  apply List.map_congr_left
  intro entry hentry
  exact (announced_of_find? ((OrderedMap.mem_entries_iff _ entry.1 entry.2).mp hentry)).2

variable (start events)

theorem sorted_guids_snapshot :
    ((discovered start events).snapshot.map Endpoint.guid).Pairwise (· < ·) := by
  rw [guids_snapshot, OrderedMap.keys, List.pairwise_map]
  exact (discovered start events).endpoints.sorted

theorem mem_snapshot_iff_latest (e : Endpoint) :
    e ∈ (discovered start events).snapshot ↔
      Latest endpointNews (events.map Prod.snd) e.guidBytes (some e) := by
  rw [mem_snapshot_iff]
  constructor
  · intro h
    rw [(announced_of_find? h).1.guid_eq] at h
    exact (find?_endpoints _ _).mp h
  · intro h
    have hfind := (@find?_endpoints _ start events e.guidBytes e).mpr h
    rwa [(announced_of_find? hfind).2]

/-- The data stand under the texts of the live participants. -/
theorem mem_keys_participantData (text : String) :
    text ∈ (discovered start events).participantData.keys ↔
      ∃ p d, Latest participantNews (events.map Prod.snd) p (some d) ∧ prefixText p = text := by
  rw [DiscoveryObserver.participantData, OrderedMap.mem_keys_ofList, List.map_map, List.mem_map]
  constructor
  · intro ⟨entry, hentry, heq⟩
    have hfind := (OrderedMap.mem_entries_iff _ entry.1 entry.2).mp hentry
    exact ⟨entry.1, entry.2, (find?_participants _ _).mp hfind, heq⟩
  · intro ⟨p, d, hlatest, heq⟩
    have hfind := (@find?_participants _ start events p d).mpr hlatest
    exact ⟨(p, d), (OrderedMap.mem_entries_iff _ p d).mpr hfind, heq⟩

/-- In every run the observer knows what was announced last, and lists it in GUID order. -/
theorem tellsLatest_discovered : TellsLatest (events.map Prod.snd) (discovered start events) where
  sorted := sorted_guids_snapshot start events
  snapshot := mem_snapshot_iff_latest start events
  live p := by
    rw [DiscoveryObserver.liveParticipants, List.mem_toFinset, OrderedMap.mem_keys_iff]
    exact exists_congr fun d ↦ find?_participants p d
  participantData p d := by
    rw [DiscoveryObserver.participantData,
      OrderedMap.find?_ofList_mapKeys prefixText_injective]
    exact find?_participants p d
  texts text htext := by
    obtain ⟨p, d, hlatest, heq⟩ := (mem_keys_participantData start events text).mp htext
    have hfind := (@find?_participants _ start events p d).mpr hlatest
    refine ⟨p, List.mem_toFinset.mpr ?_, heq⟩
    exact (OrderedMap.mem_keys_iff _ p).mpr ⟨d, hfind⟩

/-- What every snapshot of every run has. -/
theorem handsOut_snapshot : HandsOut (discovered start events).snapshot := by
  have hannounced : ∀ e ∈ (discovered start events).snapshot, Announced e := fun _ ↦ announced_of_mem
  have hguids : ((discovered start events).snapshot.map Endpoint.guid).Nodup := by
    rw [guids_snapshot]
    exact (discovered start events).endpoints.nodup_keys
  have hbytes : ((discovered start events).snapshot.map Endpoint.guidBytes).Nodup := by
    apply List.Nodup.of_map guidToString
    rw [List.map_map]
    rwa [List.map_congr_left fun e he ↦ (hannounced e he).guid_eq] at hguids
  exact
    { announced := hannounced
      guids :=
        { guid_eq := fun e he ↦ (hannounced e he).guid_eq
          distinct := hguids
          participant_eq := fun e he ↦ (hannounced e he).participant_eq }
      segments := ⟨fun e he ↦ (hannounced e he).guid_eq, hbytes⟩
      names := fun e he ↦ (hannounced e he).rosTopic_eq
      keys :=
        { distinct := hbytes
          guid := fun e he ↦ (hannounced e he).guid_eq
          rosTopic := fun e he ↦ (hannounced e he).rosTopic_eq }
      plain :=
        { distinct := hguids
          node := fun e he ↦ by rw [(hannounced e he).unnamed]; decide
          port := fun e he ↦ (hannounced e he).port } }

/-! ## The order of the callbacks -/

variable {events}

theorem subject_of_endpointNews {c : DiscoveryCallback} {guid : GuidBytes} {e : Option Endpoint}
    (h : endpointNews c = some (guid, e)) : concerns (.inl guid) c = true := by
  apply decide_eq_true
  cases c with
  | participant status data => cases h
  | reader status data => cases status <;> cases h <;> rfl
  | writer status data => cases status <;> cases h <;> rfl

theorem subject_of_participantNews {c : DiscoveryCallback} {p : ParticipantPrefix}
    {d : Option ParticipantData} (h : participantNews c = some (p, d)) :
    concerns (.inr p) c = true := by
  apply decide_eq_true
  cases c with
  | participant status data =>
    cases status with
    | ignored =>
      simp only [participantNews, Option.ite_none_right_eq_some, Option.some.injEq,
        Prod.mk.injEq] at h
      rw [subject, h.2.1]
    | other => cases h
    | _ => cases h; rfl
  | reader status data => cases status <;> cases h
  | writer status data => cases status <;> cases h

theorem eventCount_discovered :
    (discovered start events).eventCount =
      (events.map Prod.snd).countP fun c ↦ (subject c).isSome := by
  induction events using List.reverseRecOn with
  | nil => rfl
  | append_singleton events event ih =>
    have hlast : discovered start (events ++ [event]) = receive (discovered start events) event := by
      rw [discovered, List.foldl_append]
      rfl
    rw [hlast, receive_eventCount, ih, List.map_append, List.countP_append]
    simp [List.countP_cons]

/-- No event counted, nothing changed. -/
theorem discovered_append_of_eventCount (later : List (ℚ × DiscoveryCallback))
    (h : (discovered start (events ++ later)).eventCount = (discovered start events).eventCount) :
    discovered start (events ++ later) = discovered start events := by
  rw [eventCount_discovered, eventCount_discovered, List.map_append, List.countP_append,
    Nat.add_eq_left, List.countP_eq_zero] at h
  rw [discovered, List.foldl_append]
  change later.foldl receive (discovered start events) = _
  induction later with
  | nil => rfl
  | cons event rest ih =>
    rw [List.map_cons, List.forall_mem_cons, Option.not_isSome_iff_eq_none] at h
    rw [List.foldl_cons, receive_of_subject_none _ _ h.1]
    exact ih h.2

variable {start' : ℚ} {other : List (ℚ × DiscoveryCallback)}

/-- Callbacks about different endpoints and participants may come in any order. -/
theorem discovered_congr
    (h : SameOrder concerns (events.map Prod.snd) (other.map Prod.snd)) :
    (discovered start events).snapshot = (discovered start' other).snapshot ∧
      (discovered start events).liveParticipants = (discovered start' other).liveParticipants ∧
      (discovered start events).participantData = (discovered start' other).participantData ∧
      (discovered start events).eventCount = (discovered start' other).eventCount := by
  have hendpoints : (discovered start events).endpoints = (discovered start' other).endpoints := by
    rw [discovered_endpoints, discovered_endpoints]
    apply foldl_assign_congr
    intro key
    by_cases hkey : ∃ guid, guidToString guid = key
    · obtain ⟨guid, rfl⟩ := hkey
      rw [written_mapKey guidToString_injective, written_mapKey guidToString_injective,
        ← written_filter (p := concerns (.inl guid)) fun c e ↦ subject_of_endpointNews, h,
        written_filter fun c e ↦ subject_of_endpointNews]
    · have hnone (callbacks : List DiscoveryCallback) :
          written (fun c ↦ (endpointNews c).map (Prod.map guidToString id)) key callbacks = [] := by
        apply List.eq_nil_iff_forall_not_mem.mpr
        intro e he
        obtain ⟨c, -, hc⟩ := mem_written_iff.mp he
        obtain ⟨news, -, heq⟩ := Option.map_eq_some_iff.mp hc
        exact hkey ⟨news.1, congrArg Prod.fst heq⟩
      rw [hnone, hnone]
  have hparticipants :
      (discovered start events).participants = (discovered start' other).participants := by
    rw [discovered_participants, discovered_participants]
    apply foldl_assign_congr
    intro p
    rw [← written_filter (p := concerns (.inr p)) fun c d ↦ subject_of_participantNews, h,
      written_filter fun c d ↦ subject_of_participantNews]
  refine ⟨?_, ?_, ?_, ?_⟩
  · rw [DiscoveryObserver.snapshot, hendpoints]
    rfl
  · rw [DiscoveryObserver.liveParticipants, hparticipants]
    rfl
  · rw [DiscoveryObserver.participantData, hparticipants]
    rfl
  · rw [eventCount_discovered, eventCount_discovered, h.countP_eq]

end Runs

abbrev sampleFastDds : FastDds where
  toIPLocator := plainAddresses
  version3 := true
  sameHostLocatorsFiltered := false

def talkerFound : DiscoveryCallback :=
  .writer .discovered { guid := guidOnHost 1 1, topic := "rt/chatter", type := "std_msgs::msg::dds_::String_" }

def listenerFound : DiscoveryCallback :=
  .reader .discovered
    { guid := guidOnHost 2 2
      topic := "rt/chatter"
      type := "std_msgs::msg::dds_::String_"
      unicast := [{ kind := .shm, port := 7413 }] }

def listenerGone : DiscoveryCallback := .reader .removed { guid := guidOnHost 2 2, topic := "rt/chatter" }

theorem discovered_congr_swapped :
    (@discovered sampleFastDds 0 [(1, talkerFound), (2, listenerGone)]).snapshot =
      (@discovered sampleFastDds 0 [(1, listenerGone), (3, talkerFound)]).snapshot :=
  (@discovered_congr sampleFastDds 0 [(1, talkerFound), (2, listenerGone)] 0
    [(1, listenerGone), (3, talkerFound)]
    (SameOrder.swap [] [] fun x ⟨hx, hx'⟩ ↦ by
      have hx := of_decide_eq_true hx
      have hx' := of_decide_eq_true hx'
      rw [← hx] at hx'
      exact absurd hx' (by decide))).1

end TransportViz.Observer
