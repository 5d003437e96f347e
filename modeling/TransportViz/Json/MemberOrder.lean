import TransportViz.Json.Parse
import TransportViz.Library.JsonMembers

/-!
# Reading a document whatever the order of its members

The JSON library keeps the members of an object in the order of their keys, and a document that was
saved has them in that order. The reader asks for them by name: from both documents it reads the same
snapshot, or from neither one.
-/

namespace TransportViz.Json

open JsonMembers JsonReader
open Script (Value)

section Members

variable (j : Value) (key place : String)

@[simp]
theorem valueOr_string_ordered (fallback : String) :
    valueOr string (ordered j) key fallback = valueOr string j key fallback :=
  valueOr_ordered string_ordered j key fallback

@[simp]
theorem valueOr_bool_ordered (fallback : Bool) :
    valueOr JsonReader.bool (ordered j) key fallback = valueOr JsonReader.bool j key fallback :=
  valueOr_ordered bool_ordered j key fallback

@[simp]
theorem valueOr_double_ordered (fallback : ℚ) :
    valueOr double (ordered j) key fallback = valueOr double j key fallback :=
  valueOr_ordered double_ordered j key fallback

@[simp]
theorem valueOr_counter_ordered (fallback : ℕ) :
    valueOr unsignedLongLong (ordered j) key fallback = valueOr unsignedLongLong j key fallback :=
  valueOr_ordered unsignedLongLong_ordered j key fallback

@[simp]
theorem vector_string_ordered : vector string (ordered j) = vector string j :=
  vector_ordered string_ordered j

@[simp]
theorem valueOr_strings_ordered (fallback : List String) :
    valueOr (vector string) (ordered j) key fallback = valueOr (vector string) j key fallback :=
  valueOr_ordered vector_string_ordered j key fallback

@[simp]
theorem valueOr_uint64s_ordered (fallback : List ℕ) :
    valueOr (vector uint64) (ordered j) key fallback = valueOr (vector uint64) j key fallback :=
  valueOr_ordered (vector_ordered uint64_ordered) j key fallback

@[simp]
theorem valueOr_uint32s_ordered (fallback : List ℕ) :
    valueOr (vector uint32) (ordered j) key fallback = valueOr (vector uint32) j key fallback :=
  valueOr_ordered (vector_ordered uint32_ordered) j key fallback

@[simp]
theorem valueOr_null_ordered :
    valueOr json (ordered j) key .null = ordered <$> valueOr json j key .null := by
  simpa using valueOr_json_ordered j key .null

@[simp]
theorem valueOr_array_ordered :
    valueOr json (ordered j) key (.array []) = ordered <$> valueOr json j key (.array []) := by
  simpa using valueOr_json_ordered j key (.array [])

@[simp]
theorem valueOr_object_ordered :
    valueOr json (ordered j) key (.object []) = ordered <$> valueOr json j key (.object []) := by
  simpa using valueOr_json_ordered j key (.object [])

end Members

/-! ## Parts of a document -/

section Parts

variable (j : Value) (place : String)

@[simp]
theorem limit_ordered : limit (ordered j) = limit j := by rw [limit, number?_ordered, limit]

@[simp]
theorem counter_ordered : counter (ordered j) = counter j := by simp [counter]

@[simp]
theorem text?_ordered : text? (ordered j) = text? j := by cases j <;> simp [text?]

@[simp]
theorem flag?_ordered : flag? (ordered j) = flag? j := by cases j <;> simp [flag?]

@[simp]
theorem locator_ordered : locator (ordered j) place = locator j place := by simp [locator]

@[simp]
theorem locators_ordered : locators (ordered j) place = locators j place := by
  simp [locators, Function.comp_def]

@[simp]
theorem endpointQos_ordered : endpointQos (ordered j) place = endpointQos j place := by
  simp [endpointQos]

@[simp]
theorem endpoint_ordered (isWriter : Bool) :
    endpoint (ordered j) isWriter place = endpoint j isWriter place := by
  cases h : member? j "datasharing_history_bytes" <;> simp [endpoint, h]

@[simp]
theorem measuredLocator_ordered : measuredLocator (ordered j) place = measuredLocator j place := by
  simp [measuredLocator]

@[simp]
theorem latencyStat_ordered : latencyStat (ordered j) = latencyStat j := by simp [latencyStat]

@[simp]
theorem optionalLatency_ordered : optionalLatency (ordered j) = optionalLatency j := by
  simp [optionalLatency]

@[simp]
theorem reliability_ordered : reliability (ordered j) = reliability j := by simp [reliability]

@[simp]
theorem optionalReliability_ordered : optionalReliability (ordered j) = optionalReliability j := by
  simp [optionalReliability]

@[simp]
theorem measurement_ordered : measurement (ordered j) place = measurement j place := by
  simp [measurement, Function.comp_def]

@[simp]
theorem trafficSample_ordered (prefixKey locatorKey : String) :
    trafficSample (ordered j) prefixKey locatorKey place =
      trafficSample j prefixKey locatorKey place := by
  simp [trafficSample]

@[simp]
theorem lostSample_ordered : lostSample (ordered j) = lostSample j := by simp [lostSample]

theorem hostInfo_ordered (key : String) (v : Value) :
    hostInfo (key, ordered v) = hostInfo (key, v) := by simp [hostInfo]

theorem dataCountSample_ordered (key : String) (v : Value) :
    dataCountSample (key, ordered v) = dataCountSample (key, v) := by simp [dataCountSample]

@[simp]
theorem statisticsWriter_ordered : statisticsWriter (ordered j) = statisticsWriter j := by
  simp [statisticsWriter]

@[simp]
theorem shm_ordered : shm (ordered j) = shm j := by simp [shm]

@[simp]
theorem shmPort_ordered : shmPort (ordered j) place = shmPort j place := by simp [shmPort]

@[simp]
theorem optionalLocators_ordered (key : String) :
    optionalLocators (ordered j) key place = optionalLocators j key place := by
  rw [optionalLocators, optionalLocators, member?_ordered]
  cases h : member? j key with
  | none => rfl
  | some v =>
    cases v with
    | array values => simpa using locators_ordered (.array values) place
    | _ => simp

@[simp]
theorem participant_ordered (index : ℕ) : participant (ordered j) index = participant j index := by
  cases h : member? j "discovery_server" <;> simp [participant, Function.comp_def, h]

@[simp]
theorem discoveryStatus_ordered : discoveryStatus (ordered j) = discoveryStatus j := by
  simp [discoveryStatus]

end Parts

/-! ## Statistics -/

section Statistics

theorem fst_of_hostInfo {entry : String × Value} {out : String × HostInfo}
    (h : hostInfo entry = .ok out) : out.1 = entry.1 := by
  obtain ⟨host, -, h⟩ := bind_eq_ok_iff.mp h
  obtain ⟨user, -, h⟩ := bind_eq_ok_iff.mp h
  obtain ⟨process, -, h⟩ := bind_eq_ok_iff.mp h
  rw [← pure_eq_ok_iff.mp h]

theorem fst_of_dataCountSample {entry : String × Value} {out : String × DataCountSample}
    (h : dataCountSample entry = .ok out) : out.1 = entry.1 := by
  obtain ⟨first, -, h⟩ := bind_eq_ok_iff.mp h
  obtain ⟨last, -, h⟩ := bind_eq_ok_iff.mp h
  obtain ⟨samples, -, h⟩ := bind_eq_ok_iff.mp h
  rw [← pure_eq_ok_iff.mp h]

/-- The host infos and the data counts are stored by their keys. -/
theorem alike_stats (j : Value) : Alike Eq (stats (ordered j)) (stats j) := by
  have hphysical := alike_items hostInfo_ordered fun _ _ ↦ fst_of_hostInfo
  have hcounts := alike_items dataCountSample_ordered fun _ _ ↦ fst_of_dataCountSample
  unfold stats
  simp only [atKey_ordered, bind_map_left, bool_ordered, uint64_ordered, elements_ordered, List.mapM_map,
    Function.comp_def, string_ordered, trafficSample_ordered, valueOr_array_ordered, lostSample_ordered,
    valueOr_object_ordered, valueOr_counter_ordered, valueOr_bool_ordered, member?_ordered,
    Option.bind_map, number?_ordered, statisticsWriter_ordered]
  refine .bind_same _ fun _ ↦ .bind_same _ fun _ ↦ .bind_same _ fun _ ↦ .bind_same _ fun _ ↦
    .bind_same _ fun _ ↦ .bind_same _ fun _ ↦ .bind_same _ fun physical ↦
      (hphysical physical).bind fun _ _ hhosts ↦ ?_
  refine .bind_same _ fun _ ↦ .bind_same _ fun _ ↦ .bind_same _ fun _ ↦ .bind_same _ fun _ ↦
    .bind_same _ fun counts ↦ (hcounts counts).bind fun _ _ hsamples ↦ ?_
  rw [hhosts, hsamples]
  exact .refl _

end Statistics

/-! ## Topics -/

section Topics

variable (j : Value) (place : String)

@[simp]
theorem topicPlace_ordered : topicPlace (ordered j) = topicPlace j := by simp [topicPlace]

@[simp]
theorem addTopicEndpoints_ordered (state : List Endpoint × List TopicRefs) :
    addTopicEndpoints state (ordered j) = addTopicEndpoints state j := by
  simp [addTopicEndpoints, topicEndpoints, Function.comp_def]

@[simp]
theorem selectedLocator_ordered : selectedLocator (ordered j) place = selectedLocator j place := by
  simp [selectedLocator]

@[simp]
theorem pair_ordered (endpoints : List Endpoint) :
    pair endpoints (ordered j) place = pair endpoints j place := by
  simp [pair]

@[simp]
theorem classification_ordered : classification (ordered j) = classification j := by
  rw [classification, classification, member?_ordered, member?_ordered]
  cases member? j "kind" <;> cases member? j "direction" <;> simp

@[simp]
theorem topicSummary_ordered (endpoints : List Endpoint) (refs : TopicRefs) :
    topicSummary endpoints refs (ordered j) = topicSummary endpoints refs j := by
  simp [topicSummary, Function.comp_def]

end Topics

/-! ## The document -/

section Document

variable (doc : Value)

@[simp]
theorem objectMember_ordered {α : Type} {read : Value → Read α}
    (hread : ∀ v, read (ordered v) = read v) (key : String) (absent : α) :
    objectMember read (ordered doc) key absent = objectMember read doc key absent := by
  rw [objectMember, objectMember, member?_ordered]
  cases member? doc key with
  | none => rfl
  | some v => simp [hread]

@[simp]
theorem participants_ordered : participants (ordered doc) = participants doc := by
  rw [participants, participants, member?_ordered]
  cases member? doc "participants" with
  | none => rfl
  | some v =>
    cases v with
    | array values => simp [List.zipIdx_map, Function.comp_def]
    | _ => simp

variable [Dump]

theorem alike_checkVersion : Alike Eq (checkVersion (ordered doc)) (checkVersion doc) := by
  unfold checkVersion
  rw [atKey_ordered, bind_map_left]
  refine .bind_same _ fun version ↦ ?_
  rw [isInteger_ordered, int_ordered]
  split_ifs
  · refine .bind_same _ fun number ↦ ?_
    split_ifs
    · exact .error _ _
    · exact .refl _
  · exact .error _ _

theorem alike_snapshot : Alike Eq (snapshot (ordered doc)) (snapshot doc) := by
  have hshm : objectMember (fun v ↦ withinAll "shm: " (shm v)) (ordered doc) "shm" {} =
      objectMember (fun v ↦ withinAll "shm: " (shm v)) doc "shm" {} := by
    apply objectMember_ordered
    intro v
    rw [shm_ordered]
  have hstats : Alike Eq
      (within "stats: " (do stats (ordered (← atKey doc "stats" "document"))))
      (within "stats: " (do stats (← atKey doc "stats" "document"))) :=
    Alike.within (.bind_same _ alike_stats) "stats: "
  unfold snapshot
  simp only [isObject_ordered, atKey_ordered, bind_map_left, int_ordered, string_ordered, double_ordered,
    elements_ordered, List.foldlM_map, addTopicEndpoints_ordered, List.zip_map_left, List.mapM_map,
    Function.comp_def, Prod.map_fst, Prod.map_snd, id_eq, topicSummary_ordered,
    objectMember_ordered _ discoveryStatus_ordered, hshm, participants_ordered]
  split_ifs
  · refine (alike_checkVersion doc).bind fun _ _ _ ↦ .bind_same _ fun _ ↦ .bind_same _ fun _ ↦
      .bind_same _ fun _ ↦ .bind_same _ fun _ ↦ .bind_same _ fun _ ↦ .bind_same _ fun _ ↦
      .bind_same _ fun _ ↦ .bind_same _ fun _ ↦ .bind_same _ fun _ ↦ .bind_same _ fun _ ↦
      .bind_same _ fun _ ↦ .bind_same _ fun _ ↦ hstats.bind fun _ _ hsame ↦ ?_
    rw [hsame]
    exact .refl _
  · exact .error _ _

/-- A snapshot is read from the document as it was saved exactly when it is read from it as built. -/
theorem parseJson_ordered (s : Snapshot) : parseJson (ordered doc) = .ok s ↔ parseJson doc = .ok s :=
  ((alike_snapshot doc).within "unexpected value: ").eq_ok_iff s

end Document

end TransportViz.Json
