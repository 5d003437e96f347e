import TransportViz.Decision.Predict
import TransportViz.Library.GroupSums
import TransportViz.Library.OrderedMap
import TransportViz.Library.Words
import TransportViz.Model.Text

/-!
# The pairs that can be measured

A pair within one process never sends a packet. `countMeasurablePairs` counts the other pairs of each
topic without listing them: all combinations, less those within each process group. The groups are by
the first eight bytes of an eProsima GUID; an endpoint of another vendor is a group of its own.
-/

namespace TransportViz.Stats

open Decision

/-! ## Model -/

/-- How many writers and readers. -/
structure EndCounts where
  writers : ℕ := 0
  readers : ℕ := 0

def EndCounts.count (counts : EndCounts) (e : Endpoint) : EndCounts :=
  if e.isWriter then { counts with writers := counts.writers + 1 }
  else { counts with readers := counts.readers + 1 }

structure TopicCounts where
  all : EndCounts := {}
  byProcess : OrderedMap String EndCounts := .empty

def eprosima (e : Endpoint) : Bool := e.guidBytes.get 0 = 0x01 && e.guidBytes.get 1 = 0x0f

/-- Eight bytes as they are, one character each. -/
def rawText (bytes : List UInt8) : String :=
  String.ofList ((bytes.take 8).map fun byte ↦ Char.ofNat byte.toNat)

def processKey (e : Endpoint) : String := if eprosima e then rawText e.guidBytes.toList else e.guid

def TopicCounts.count (t : TopicCounts) (e : Endpoint) : TopicCounts where
  all := t.all.count e
  byProcess := t.byProcess.alter (processKey e) fun counts ↦ (counts.getD {}).count e

/-- The combinations within one process. -/
def TopicCounts.sameProcess (t : TopicCounts) : ℕ :=
  t.byProcess.values.foldl (fun same counts ↦ same + counts.writers * counts.readers) 0

def topicCounts (endpoints : List Endpoint) (ownPrefixes : Finset String) :
    OrderedMap String TopicCounts :=
  endpoints.foldl
    (fun topics e ↦
      if e.participantGuidPrefix ∈ ownPrefixes then topics
      else topics.alter e.ddsTopic fun t ↦ (t.getD {}).count e)
    .empty

def countMeasurablePairs (endpoints : List Endpoint) (ownPrefixes : Finset String) : ℕ :=
  (topicCounts endpoints ownPrefixes).values.foldl
    (fun out t ↦ out + Words.sub (t.all.writers * t.all.readers) t.sameProcess) 0

/-! ## Specification -/

/-- The endpoints outside the tool's own participants. -/
def othersEndpoints (endpoints : List Endpoint) (ownPrefixes : Finset String) : List Endpoint :=
  endpoints.filter fun e ↦ e.participantGuidPrefix ∉ ownPrefixes

def writersOf (endpoints : List Endpoint) : List Endpoint := endpoints.filter fun e ↦ e.isWriter

def readersOf (endpoints : List Endpoint) : List Endpoint := endpoints.filter fun e ↦ !e.isWriter

/-- The writers and readers of one topic that are not within one process. -/
def measurablePairs (endpoints : List Endpoint) (ownPrefixes : Finset String) :
    List (Endpoint × Endpoint) :=
  let others := othersEndpoints endpoints ownPrefixes
  ((writersOf others).product (readersOf others)).filter fun ends ↦
    ends.2.ddsTopic = ends.1.ddsTopic && !intraProcessPair ends.1 ends.2

/-- The count is that of the pairs, and no difference in it is negative. -/
structure CountsPairs (endpoints : List Endpoint) (ownPrefixes : Finset String) : Prop where
  count_eq : countMeasurablePairs endpoints ownPrefixes =
    (measurablePairs endpoints ownPrefixes).length
  no_wrap : ∀ t ∈ (topicCounts endpoints ownPrefixes).values,
    t.sameProcess ≤ t.all.writers * t.all.readers

/-! ## Process groups -/

section Groups

theorem rawText_injective {a b : List UInt8} (h : rawText a = rawText b) : a.take 8 = b.take 8 := by
  have hchar : Function.Injective fun byte : UInt8 ↦ Char.ofNat byte.toNat := by
    intro x y hxy
    have hvalid (byte : UInt8) : (Char.ofNat byte.toNat).toNat = byte.toNat := by
      have hlt := byte.toNat_lt
      have hchar : byte.toNat.isValidChar := .inl (by omega)
      rw [Char.ofNat, dif_pos hchar]
      rfl
    have hnat := congrArg Char.toNat hxy
    simp only [hvalid] at hnat
    exact UInt8.toNat_inj.mp hnat
  exact List.map_injective_iff.mpr hchar (String.ofList_injective h)

/-- An eProsima key starts with a byte that no GUID text contains. -/
theorem rawText_ne_guidToString {e : Endpoint} (h : eprosima e = true) (guid : GuidBytes) :
    rawText e.guidBytes.toList ≠ guidToString guid := by
  intro heq
  have hfirst : Char.ofNat 1 ∈ (rawText e.guidBytes.toList).toList := by
    rw [eprosima, Bool.and_eq_true, decide_eq_true_eq] at h
    rcases hbytes : e.guidBytes with ⟨bytes, hlength⟩
    rw [hbytes] at h
    cases bytes with
    | nil => simp at hlength
    | cons byte rest =>
      have hbyte : byte = 1 := h.1
      rw [hbyte, rawText, String.toList_ofList]
      exact List.mem_cons_self ..
  rw [heq] at hfirst
  exact absurd (mem_guidToString guid _ hfirst) (by decide)

/-- One group is one process, as far as the delivery within it is concerned. -/
theorem processKey_eq_iff {w r : Endpoint} (hw : w.guid = guidToString w.guidBytes)
    (hr : r.guid = guidToString r.guidBytes) (hne : w.guid ≠ r.guid) :
    processKey r = processKey w ↔ intraProcessPair w r = true := by
  have hintra : intraProcessPair w r = true ↔ eprosima w = true ∧
      w.guidBytes.toList.take 8 = r.guidBytes.toList.take 8 := by
    rw [intraProcessPair, eprosima, Bool.and_eq_true, decide_eq_true_eq]
  rw [hintra]
  have hvendor (h : w.guidBytes.toList.take 8 = r.guidBytes.toList.take 8) : eprosima r = eprosima w := by
    have hget (place : Fin 16) (hplace : place.val < 8) :
        w.guidBytes.get place = r.guidBytes.get place := by
      rw [List.Vector.get_eq_get_toList, List.Vector.get_eq_get_toList]
      have hopt := congrArg (fun l ↦ l[place.val]?) h
      simp only [List.getElem?_take_of_lt hplace] at hopt
      simpa using hopt
    rw [eprosima, eprosima, hget 0 (by decide), hget 1 (by decide)]
  cases hvw : eprosima w with
  | true =>
    cases hvr : eprosima r with
    | true =>
      rw [processKey, processKey, if_pos hvw, if_pos hvr]
      constructor
      · intro h
        exact ⟨rfl, (rawText_injective h).symm⟩
      · intro h
        rw [rawText, rawText, h.2]
    | false =>
      rw [processKey, processKey, if_pos hvw, if_neg (by simp [hvr]), hr]
      apply iff_of_false
      · exact (rawText_ne_guidToString hvw _).symm
      · intro h
        exact absurd (hvr.symm.trans ((hvendor h.2).trans hvw)) (by decide)
  | false =>
    apply iff_of_false
    · rw [processKey, processKey, if_neg (c := eprosima w = true) (by simp [hvw])]
      cases hvr : eprosima r with
      | true =>
        rw [if_pos rfl, hw]
        exact rawText_ne_guidToString hvr _
      | false =>
        rw [if_neg (by decide)]
        exact hne.symm
    · intro h
      exact absurd h.1 (by decide)

end Groups

/-! ## The counters -/

section Counters

/-- What the counters of a topic hold once the endpoints `added` are counted. -/
structure CountedInto (added : List Endpoint) (t : TopicCounts) : Prop where
  writers_eq : t.all.writers = (writersOf added).length
  readers_eq : t.all.readers = (readersOf added).length
  process_eq : ∀ key, (t.byProcess.find? key).getD {} =
    { writers := (writersOf added).countP fun e ↦ processKey e = key
      readers := (readersOf added).countP fun e ↦ processKey e = key }
  covered : ∀ e ∈ added, processKey e ∈ t.byProcess.keys

theorem countedInto_nil : CountedInto [] {} := ⟨rfl, rfl, fun _ ↦ rfl, by simp⟩

theorem CountedInto.count {added : List Endpoint} {t : TopicCounts} (h : CountedInto added t)
    (e : Endpoint) : CountedInto (added ++ [e]) (t.count e) := by
  have hall (counts : EndCounts) : counts.count e =
      { writers := counts.writers + (writersOf [e]).length
        readers := counts.readers + (readersOf [e]).length } := by
    unfold EndCounts.count writersOf readersOf
    cases hside : e.isWriter <;> simp [hside]
  have hwriters : writersOf (added ++ [e]) = writersOf added ++ writersOf [e] :=
    List.filter_append ..
  have hreaders : readersOf (added ++ [e]) = readersOf added ++ readersOf [e] :=
    List.filter_append ..
  refine ⟨?_, ?_, fun key ↦ ?_, fun other hother ↦ ?_⟩
  · rw [TopicCounts.count, hall, hwriters, List.length_append, h.writers_eq]
  · rw [TopicCounts.count, hall, hreaders, List.length_append, h.readers_eq]
  · have hside (side : List Endpoint) (hsub : ∀ other ∈ side, other = e) :
        (side.countP fun other ↦ processKey other = key) =
          if key = processKey e then side.length else 0 := by
      by_cases hkey : key = processKey e
      · rw [if_pos hkey, List.countP_eq_length]
        intro other hother
        rw [hsub other hother, hkey]
        exact decide_eq_true rfl
      · rw [if_neg hkey, List.countP_eq_zero]
        intro other hother
        rw [hsub other hother, decide_eq_true_iff]
        exact Ne.symm hkey
    have honly (other : Endpoint) (keep : Endpoint → Bool) (hother : other ∈ [e].filter keep) :
        other = e := List.mem_singleton.mp (List.mem_filter.mp hother).1
    rw [TopicCounts.count, OrderedMap.find?_alter, hwriters, hreaders, List.countP_append,
      List.countP_append, hside (writersOf [e]) fun other hother ↦ honly other _ hother,
      hside (readersOf [e]) fun other hother ↦ honly other _ hother]
    by_cases hkey : key = processKey e
    · rw [if_pos hkey, if_pos hkey, if_pos hkey, Option.getD_some, hall, hkey, h.process_eq]
    · rw [if_neg hkey, if_neg hkey, if_neg hkey, h.process_eq]
      rfl
  · rw [OrderedMap.mem_keys_iff, TopicCounts.count]
    simp only [OrderedMap.find?_alter]
    by_cases hkey : processKey other = processKey e
    · exact ⟨_, if_pos hkey⟩
    · have hold : other ∈ added := by
        rcases List.mem_append.mp hother with hold | hnew
        · exact hold
        · exact absurd (congrArg processKey (List.mem_singleton.mp hnew)) hkey
      rw [if_neg hkey]
      exact (OrderedMap.mem_keys_iff _ _).mp (h.covered other hold)

theorem exists_countedInto (group added : List Endpoint) (t : TopicCounts) (h : CountedInto added t) :
    ∃ result, group.foldl (fun t e ↦ some ((t.getD {}).count e)) (some t) = some result ∧
      CountedInto (added ++ group) result := by
  induction group generalizing added t with
  | nil => exact ⟨t, rfl, by simpa using h⟩
  | cons e rest ih =>
    obtain ⟨result, hresult, hcounted⟩ := ih (added ++ [e]) (t.count e) (h.count e)
    exact ⟨result, hresult, by simpa using hcounted⟩

/-- Combinations of two endpoints of the topic within one process, and apart. -/
theorem CountedInto.sameProcess_eq {added : List Endpoint} {t : TopicCounts}
    (h : CountedInto added t) : t.sameProcess =
      ((writersOf added).product (readersOf added)).countP fun ends ↦
        processKey ends.2 = processKey ends.1 := by
  have hcover : ∀ w ∈ writersOf added, processKey w ∈ t.byProcess.keys := fun w hw ↦
    h.covered w (List.mem_filter.mp hw).1
  calc
    t.sameProcess
        = (t.byProcess.values.map fun counts ↦ counts.writers * counts.readers).sum := by
      rw [TopicCounts.sameProcess, List.sum_eq_foldl, List.foldl_map]
    _ = (t.byProcess.keys.map fun key ↦ ((writersOf added).countP fun e ↦ processKey e = key) *
          (readersOf added).countP fun e ↦ processKey e = key).sum := by
      rw [t.byProcess.values_eq_map_keys {}, List.map_map]
      simp only [Function.comp_def, h.process_eq]
    _ = _ := GroupSums.sum_count_mul_count t.byProcess.nodup_keys processKey processKey _ _ hcover

theorem CountedInto.sameProcess_le {added : List Endpoint} {t : TopicCounts}
    (h : CountedInto added t) : t.sameProcess ≤ t.all.writers * t.all.readers := by
  rw [h.sameProcess_eq, h.writers_eq, h.readers_eq, ← List.length_product]
  exact List.countP_le_length

theorem CountedInto.sub_eq {added : List Endpoint} {t : TopicCounts} (h : CountedInto added t) :
    Words.sub (t.all.writers * t.all.readers) t.sameProcess =
      ((writersOf added).product (readersOf added)).countP fun ends ↦
        !decide (processKey ends.2 = processKey ends.1) := by
  have hsplit := List.length_eq_countP_add_countP
    (l := (writersOf added).product (readersOf added)) fun ends ↦
      decide (processKey ends.2 = processKey ends.1)
  have hlength : ((writersOf added).product (readersOf added)).length =
      t.all.writers * t.all.readers := by
    rw [h.writers_eq, h.readers_eq]
    exact List.length_product _ _
  rw [Words.sub_eq h.sameProcess_le, h.sameProcess_eq, ← hlength, hsplit, Nat.add_sub_cancel_left]
  simp only [Bool.not_eq_true, Bool.decide_eq_false]

end Counters

/-! ## All topics -/

section Topics

variable {endpoints : List Endpoint} {ownPrefixes : Finset String}

theorem topicCounts_eq_foldl : topicCounts endpoints ownPrefixes =
    (othersEndpoints endpoints ownPrefixes).foldl
      (fun topics e ↦ topics.alter e.ddsTopic fun t ↦ (t.getD {}).count e) .empty := by
  rw [topicCounts, othersEndpoints, List.foldl_filter]
  congr 1
  funext topics e
  by_cases hown : e.participantGuidPrefix ∈ ownPrefixes
  · simp [hown]
  · simp [hown]

theorem find?_topicCounts (ddsTopic : String) :
    (topicCounts endpoints ownPrefixes).find? ddsTopic =
      ((othersEndpoints endpoints ownPrefixes).filter fun e ↦ e.ddsTopic = ddsTopic).foldl
        (fun t e ↦ some ((t.getD {}).count e)) none := by
  rw [topicCounts_eq_foldl]
  exact OrderedMap.find?_foldl_alter _ Endpoint.ddsTopic (fun e (t : Option TopicCounts) ↦
    (t.getD {}).count e) .empty ddsTopic

theorem countedInto_of_find? {ddsTopic : String} {t : TopicCounts}
    (h : (topicCounts endpoints ownPrefixes).find? ddsTopic = some t) :
    CountedInto ((othersEndpoints endpoints ownPrefixes).filter fun e ↦ e.ddsTopic = ddsTopic) t := by
  rw [find?_topicCounts] at h
  revert h
  generalize (othersEndpoints endpoints ownPrefixes).filter (fun e ↦ e.ddsTopic = ddsTopic) = group
  intro h
  cases group with
  | nil => simp at h
  | cons e rest =>
    obtain ⟨result, hresult, hcounted⟩ :=
      exists_countedInto rest [e] (({} : TopicCounts).count e) (countedInto_nil.count e)
    have heq : result = t := Option.some.inj (hresult.symm.trans h)
    exact heq ▸ hcounted

theorem ddsTopic_mem_keys {e : Endpoint} (he : e ∈ othersEndpoints endpoints ownPrefixes) :
    e.ddsTopic ∈ (topicCounts endpoints ownPrefixes).keys := by
  rw [OrderedMap.mem_keys_iff, find?_topicCounts]
  have hmem : e ∈ (othersEndpoints endpoints ownPrefixes).filter fun o ↦ o.ddsTopic = e.ddsTopic :=
    List.mem_filter.mpr ⟨he, decide_eq_true rfl⟩
  cases hgroup : (othersEndpoints endpoints ownPrefixes).filter fun o ↦ o.ddsTopic = e.ddsTopic with
  | nil => simp [hgroup] at hmem
  | cons first rest =>
    obtain ⟨result, hresult, -⟩ :=
      exists_countedInto rest [first] (({} : TopicCounts).count first) (countedInto_nil.count first)
    exact ⟨result, hresult⟩

/-- The fast count is that of the combinations outside the process groups. -/
theorem countMeasurablePairs_eq_countP : countMeasurablePairs endpoints ownPrefixes =
    ((writersOf (othersEndpoints endpoints ownPrefixes)).product
      (readersOf (othersEndpoints endpoints ownPrefixes))).countP fun ends ↦
        ends.2.ddsTopic = ends.1.ddsTopic && !decide (processKey ends.2 = processKey ends.1) := by
  have hcover : ∀ w ∈ writersOf (othersEndpoints endpoints ownPrefixes),
      w.ddsTopic ∈ (topicCounts endpoints ownPrefixes).keys := fun w hw ↦
    ddsTopic_mem_keys (List.mem_filter.mp hw).1
  have hgroups := GroupSums.sum_countP_groups (topicCounts endpoints ownPrefixes).nodup_keys
    Endpoint.ddsTopic Endpoint.ddsTopic (writersOf (othersEndpoints endpoints ownPrefixes))
    (readersOf (othersEndpoints endpoints ownPrefixes)) hcover fun ends ↦
      !decide (processKey ends.2 = processKey ends.1)
  rw [← hgroups, countMeasurablePairs]
  calc
    (topicCounts endpoints ownPrefixes).values.foldl
        (fun out t ↦ out + Words.sub (t.all.writers * t.all.readers) t.sameProcess) 0
        = ((topicCounts endpoints ownPrefixes).values.map fun t ↦
            Words.sub (t.all.writers * t.all.readers) t.sameProcess).sum := by
      rw [List.sum_eq_foldl, List.foldl_map]
    _ = _ := by
      rw [(topicCounts endpoints ownPrefixes).values_eq_map_keys {}, List.map_map]
      congr 1
      apply List.map_congr_left
      intro ddsTopic hkey
      obtain ⟨t, ht⟩ := (OrderedMap.mem_keys_iff _ _).mp hkey
      rw [Function.comp_apply, ht, Option.getD_some, (countedInto_of_find? ht).sub_eq]
      simp only [writersOf, readersOf, List.filter_filter, Bool.and_comm]

end Topics

/-- Counting by process groups counts the pairs. -/
theorem countsPairs (endpoints : List Endpoint) (ownPrefixes : Finset String)
    (h : DistinctGuids endpoints) : CountsPairs endpoints ownPrefixes where
  count_eq := by
    rw [countMeasurablePairs_eq_countP, measurablePairs, ← List.countP_eq_length_filter]
    apply List.countP_congr
    intro ends hends
    obtain ⟨hw, hr⟩ := List.mem_product.mp hends
    have hwriter := List.mem_filter.mp hw
    have hreader := List.mem_filter.mp hr
    have hw' := (List.mem_filter.mp hwriter.1).1
    have hr' := (List.mem_filter.mp hreader.1).1
    have hne : ends.1.guid ≠ ends.2.guid := fun heq ↦ by
      have hsame := h.eq_of_guid hw' hr' heq
      simp [← hsame, hwriter.2] at hreader
    have hkey := processKey_eq_iff (h.guid_eq _ hw') (h.guid_eq _ hr') hne
    simp only [hkey, Bool.decide_eq_true]
  no_wrap t ht := by
    rw [(topicCounts endpoints ownPrefixes).values_eq_map_keys {}] at ht
    obtain ⟨ddsTopic, hkey, heq⟩ := List.mem_map.mp ht
    obtain ⟨found, hfound⟩ := (OrderedMap.mem_keys_iff _ _).mp hkey
    rw [hfound, Option.getD_some] at heq
    rw [← heq]
    exact (countedInto_of_find? hfound).sameProcess_le

/-- The endpoint `entity` of a process on one host. -/
def processMember (isWriter : Bool) (process entity : UInt8) : Endpoint where
  isWriter := isWriter
  guid := guidToString (guidOnHost process entity)
  guidBytes := guidOnHost process entity
  participantGuidPrefix := prefixToString (guidOnHost process entity)
  ddsTopic := "rt/chatter"

/-- A writer with one reader in its process and one outside. -/
def twoProcesses : List Endpoint :=
  [processMember true 1 1, processMember false 1 2, processMember false 2 3]

theorem distinctGuids_twoProcesses : DistinctGuids twoProcesses where
  guid_eq := by
    intro e he
    simp only [twoProcesses, List.mem_cons, List.not_mem_nil, or_false] at he
    rcases he with h | h | h <;> rw [h] <;> rfl
  distinct := by decide

/-- Only the reader of the other process counts. -/
theorem countsPairs_twoProcesses :
    CountsPairs twoProcesses ∅ ∧ countMeasurablePairs twoProcesses ∅ = 1 :=
  ⟨countsPairs twoProcesses ∅ distinctGuids_twoProcesses, by decide⟩

end TransportViz.Stats
