import TransportViz.Shm.PortViews

/-!
# Data-sharing segments and their endpoints

The name of a segment is put together by sixteen calls of `snprintf` behind its prefix. It determines the
GUID, so the tables by name hold every endpoint under a name of its own, and an endpoint is told of the
files that are named after it and of no others.
-/

namespace TransportViz.Collect

open Shm LastWrite RosNames

/-! ## Model -/

/-- The size of the buffer the name is written to. -/
def kNameBuffer : ℕ := 96

/-- What the calls of `snprintf` print, one after the other. -/
def namePieces (guid : GuidBytes) : List (List Char) :=
  kDataSharingPrefix.toList ::
    ((guid.toList.take 12).mapIdx fun i byte ↦ hexByte byte ++ if i < 11 then ['.'] else ['_']) ++
      (guid.toList.drop 12).mapIdx fun i byte ↦
        hexUnpadded byte ++ if 12 + i < 15 then ['.'] else []

/-- `n += snprintf(buf + n, size - n, piece)`: what does not fit before the final zero is cut. -/
def snprintf (size : ℕ) (state : List Char × ℕ) (piece : List Char) : List Char × ℕ :=
  (state.1.take state.2 ++ piece.take (size - state.2 - 1), state.2 + piece.length)

/-- The buffer and `n` after the calls of the given pieces. -/
def buffered (pieces : List (List Char)) : List Char × ℕ :=
  pieces.foldl (snprintf kNameBuffer) ([], 0)

def keptEndpoints (observer : Observer) (endpoints : List Endpoint) (o : ViewOptions) : List Endpoint :=
  (nodeEndpoints observer endpoints).filter (keepsEndpoint o)

/-- What the scan says about an endpoint's own segment. -/
def attributeSegment (observer : Observer) (shm : ShmInfo) (e : Endpoint) : Endpoint :=
  let e := match shm.datasharingByWriter.find? e.guid with
    | some bytes => { e with
        datasharingHistoryAvailable := true
        datasharingHistoryBytes := bytes }
    | none => e
  if shm.listed ∧ e.hostId = observer.localHost ∧ e.qos.dataSharing ≠ .off then
    let here := if e.isWriter then e.datasharingHistoryAvailable
      else e.guid ∈ shm.datasharingNotificationReaders
    { e with datasharingSegmentVisibility := if here then .visible else .notVisible }
  else e

/-! ## Specification -/

/-- Discovery writes the GUID of each endpoint as its text, and finds an endpoint once. -/
structure DistinctGuids (endpoints : List Endpoint) : Prop where
  text : ∀ e ∈ endpoints, e.guid = guidToString e.guidBytes
  nodup : (endpoints.map Endpoint.guidBytes).Nodup

/-- The data-sharing files that are named after an endpoint. -/
def ownSegments (directory : Option ShmDirectory) (e : Endpoint) : List ShmFile :=
  (dataSharingFiles directory).filter fun f ↦ f.name = datasharingSegmentName e.guidBytes

/-- An endpoint is told of its own files. -/
structure Attributed (observer : Observer) (shm : ShmInfo) (directory : Option ShmDirectory)
    (e : Endpoint) : Prop where
  history : shm.datasharingByWriter.find? e.guid =
    if e.isWriter then (ownSegments directory e).getLast?.map ShmFile.size else none
  notification : e.guid ∈ shm.datasharingNotificationReaders ↔
    e.isWriter = false ∧ ownSegments directory e ≠ []
  available : e.datasharingHistoryAvailable = false →
    (attributeSegment observer shm e).datasharingHistoryAvailable =
      (e.isWriter && !(ownSegments directory e).isEmpty)
  visible : shm.listed = true → e.hostId = observer.localHost → e.qos.dataSharing ≠ .off →
    e.datasharingHistoryAvailable = false →
      (attributeSegment observer shm e).datasharingSegmentVisibility =
        if (ownSegments directory e).isEmpty then .notVisible else .visible

structure SegmentsNamed (observer : Observer) (endpoints : List Endpoint)
    (directory : Option ShmDirectory) (o : ViewOptions) : Prop where
  injective : Function.Injective datasharingSegmentName
  fits : ∀ guid n, (buffered ((namePieces guid).take n)).2 < kNameBuffer
  whole : ∀ guid, String.ofList (buffered (namePieces guid)).1 = datasharingSegmentName guid
  /-- Under a name stands the endpoint of that side that has the GUID. -/
  table : ∀ isWriter guid,
    (segmentNames (keptEndpoints observer endpoints o) isWriter).find? (datasharingSegmentName guid) =
      (((keptEndpoints observer endpoints o).filter fun e ↦
        e.isWriter = isWriter ∧ e.guidBytes = guid).map Endpoint.guid).getLast?
  /-- No two GUIDs of a side share an entry. -/
  size : ∀ isWriter, (segmentNames (keptEndpoints observer endpoints o) isWriter).size =
    (((keptEndpoints observer endpoints o).filter fun e ↦ e.isWriter = isWriter).map
      Endpoint.guidBytes).toFinset.card
  /-- A name in both tables is that of one GUID. -/
  sides : ∀ name,
    (segmentNames (keptEndpoints observer endpoints o) true).contains name = true →
    (segmentNames (keptEndpoints observer endpoints o) false).contains name = true →
      ∃ writer ∈ keptEndpoints observer endpoints o, ∃ reader ∈ keptEndpoints observer endpoints o,
        writer.isWriter = true ∧ reader.isWriter = false ∧
          datasharingSegmentName writer.guidBytes = name ∧ writer.guidBytes = reader.guidBytes
  attributed : DistinctGuids endpoints → ∀ e ∈ keptEndpoints observer endpoints o,
    Attributed observer (collectShm observer endpoints directory o) directory e

/-! ## The name in its buffer -/

section Buffer

theorem foldl_snprintf (size : ℕ) (pieces : List (List Char)) (text : List Char)
    (h : text.length + pieces.flatten.length < size) :
    pieces.foldl (snprintf size) (text, text.length) =
      (text ++ pieces.flatten, text.length + pieces.flatten.length) := by
  induction pieces generalizing text with
  | nil => simp
  | cons piece rest ih =>
    rw [List.flatten_cons, List.length_append] at h
    have hstep : snprintf size (text, text.length) piece =
        (text ++ piece, (text ++ piece).length) := by
      rw [snprintf, List.take_length, List.take_of_length_le (by omega), List.length_append]
    rw [List.foldl_cons, hstep, ih (text ++ piece) (by rw [List.length_append]; omega),
      List.flatten_cons, List.append_assoc, List.length_append, List.length_append, Nat.add_assoc]

theorem flatten_mapIdx (print : UInt8 → List Char) (last : List Char) (byte : UInt8)
    (rest : List UInt8) :
    ((byte :: rest).mapIdx fun i b ↦ print b ++ if i < rest.length then ['.'] else last).flatten =
      print byte ++ (rest.flatMap fun next ↦ '.' :: print next) ++ last := by
  induction rest generalizing byte with
  | nil => simp
  | cons next rest ih =>
    rw [List.mapIdx_cons, List.flatten_cons]
    simp only [List.length_cons, Nat.zero_lt_succ, if_true, Nat.succ_lt_succ_iff]
    rw [ih next]
    simp

theorem flatten_namePieces (guid : GuidBytes) :
    String.ofList (namePieces guid).flatten = datasharingSegmentName guid := by
  obtain ⟨byte, rest, hparticipant⟩ := List.exists_cons_of_length_pos
    (l := guid.toList.take 12) (by simp)
  obtain ⟨byte', rest', hentity⟩ := List.exists_cons_of_length_pos
    (l := guid.toList.drop 12) (by simp)
  have hrest : rest.length = 11 := by
    have hlength := congrArg List.length hparticipant
    simpa using hlength.symm
  have hrest' : rest'.length = 3 := by
    have hlength := congrArg List.length hentity
    simpa using hlength.symm
  have hfirst := flatten_mapIdx hexByte ['_'] byte rest
  have hsecond := flatten_mapIdx hexUnpadded [] byte' rest'
  rw [hrest] at hfirst
  rw [hrest'] at hsecond
  have hindex (i : ℕ) : 12 + i < 15 ↔ i < 3 := by omega
  unfold namePieces datasharingSegmentName
  rw [hparticipant, hentity]
  simp only [hindex, List.flatten_append, List.flatten_cons]
  rw [hfirst, hsecond]
  simp [dottedBytes, dottedUnpadded]

theorem length_hexUnpadded_le (byte : UInt8) : (hexUnpadded byte).length ≤ 2 := by
  unfold hexUnpadded hexByte
  split_ifs <;> simp

/-- The longest name is shorter than the buffer. -/
theorem length_namePieces_lt (guid : GuidBytes) : (namePieces guid).flatten.length < kNameBuffer := by
  have hparticipant (i : ℕ) (byte : UInt8) :
      (hexByte byte ++ if i < 11 then ['.'] else ['_']).length ≤ 3 := by
    rw [List.length_append]
    split_ifs <;> simp [hexByte]
  have hentity (i : ℕ) (byte : UInt8) :
      (hexUnpadded byte ++ if 12 + i < 15 then ['.'] else []).length ≤ 3 := by
    have hbyte := length_hexUnpadded_le byte
    rw [List.length_append]
    split_ifs <;> simp <;> omega
  have hpieces (pieces : List (List Char)) (h : ∀ piece ∈ pieces, piece.length ≤ 3) :
      pieces.flatten.length ≤ 3 * pieces.length := by
    induction pieces with
    | nil => simp
    | cons piece rest ih =>
      have hrest := ih fun other hother ↦ h other (List.mem_cons_of_mem _ hother)
      have hpiece := h piece List.mem_cons_self
      rw [List.flatten_cons, List.length_append, List.length_cons]
      omega
  have hfirst := hpieces ((guid.toList.take 12).mapIdx fun i byte ↦
    hexByte byte ++ if i < 11 then ['.'] else ['_']) (by
      intro piece hpiece
      obtain ⟨i, hi, rfl⟩ := List.mem_mapIdx.mp hpiece
      exact hparticipant i _)
  have hsecond := hpieces ((guid.toList.drop 12).mapIdx fun i byte ↦
    hexUnpadded byte ++ if 12 + i < 15 then ['.'] else []) (by
      intro piece hpiece
      obtain ⟨i, hi, rfl⟩ := List.mem_mapIdx.mp hpiece
      exact hentity i _)
  have hlength : kDataSharingPrefix.toList.length = 17 := by decide
  rw [List.length_mapIdx, List.length_take, List.Vector.toList_length] at hfirst
  rw [List.length_mapIdx, List.length_drop, List.Vector.toList_length] at hsecond
  unfold namePieces kNameBuffer
  rw [List.flatten_append, List.flatten_cons, List.length_append, List.length_append, hlength]
  omega

theorem buffered_take (guid : GuidBytes) (n : ℕ) :
    buffered ((namePieces guid).take n) =
        (((namePieces guid).take n).flatten, ((namePieces guid).take n).flatten.length) ∧
      ((namePieces guid).take n).flatten.length < kNameBuffer := by
  have hlt : ((namePieces guid).take n).flatten.length < kNameBuffer := by
    refine lt_of_le_of_lt ?_ (length_namePieces_lt guid)
    conv_rhs => rw [← List.take_append_drop n (namePieces guid), List.flatten_append,
      List.length_append]
    exact Nat.le_add_right ..
  refine ⟨?_, hlt⟩
  rw [buffered, show (([], 0) : List Char × ℕ) = ([], ([] : List Char).length) from rfl,
    foldl_snprintf _ _ _ (by simpa using hlt)]
  simp

end Buffer

/-! ## The tables -/

section Tables

variable (endpoints : List Endpoint) (isWriter : Bool)

theorem find?_segmentNames (guid : GuidBytes) :
    (segmentNames endpoints isWriter).find? (datasharingSegmentName guid) =
      ((endpoints.filter fun e ↦ e.isWriter = isWriter ∧ e.guidBytes = guid).map
        Endpoint.guid).getLast? := by
  have hwritten : ((endpoints.filter fun e ↦ e.isWriter = isWriter).foldl (fun map e ↦
      write map (some (datasharingSegmentName e.guidBytes, e.guid))) .empty).find?
        (datasharingSegmentName guid) =
      (written (fun e ↦ some (datasharingSegmentName e.guidBytes, e.guid))
        (datasharingSegmentName guid) (endpoints.filter fun e ↦ e.isWriter = isWriter)).getLast? := by
    rw [find?_foldl_write, OrderedMap.find?_empty, Option.or_none]
  rw [written_some (fun e : Endpoint ↦ datasharingSegmentName e.guidBytes) Endpoint.guid,
    List.filter_filter] at hwritten
  rw [segmentNames, OrderedMap.ofList, List.foldl_map]
  refine hwritten.trans
    (congrArg (fun found : List Endpoint ↦ (found.map Endpoint.guid).getLast?) ?_)
  refine List.filter_congr fun e _ ↦ ?_
  rw [Bool.eq_iff_iff, Bool.and_eq_true, decide_eq_true_eq, decide_eq_true_eq, decide_eq_true_eq,
    datasharingSegmentName_injective.eq_iff, and_comm]

theorem size_segmentNames : (segmentNames endpoints isWriter).size =
    ((endpoints.filter fun e ↦ e.isWriter = isWriter).map Endpoint.guidBytes).toFinset.card := by
  have hkeys : (segmentNames endpoints isWriter).keys.toFinset =
      ((endpoints.filter fun e ↦ e.isWriter = isWriter).map
        Endpoint.guidBytes).toFinset.image datasharingSegmentName := by
    ext name
    rw [List.mem_toFinset, segmentNames, OrderedMap.mem_keys_ofList]
    simp
  rw [← Finset.card_image_of_injective _ datasharingSegmentName_injective, ← hkeys,
    List.toFinset_card_of_nodup (OrderedMap.nodup_keys _), OrderedMap.keys, List.length_map,
    OrderedMap.size]

variable {endpoints isWriter}

theorem exists_of_contains {name : String} (h : (segmentNames endpoints isWriter).contains name = true) :
    ∃ e ∈ endpoints, e.isWriter = isWriter ∧ datasharingSegmentName e.guidBytes = name := by
  rw [OrderedMap.contains, Option.isSome_iff_exists, ← OrderedMap.mem_keys_iff, segmentNames,
    OrderedMap.mem_keys_ofList] at h
  simpa [and_assoc] using h

/-- With GUIDs of their own, the endpoints are found by their names. -/
theorem find?_segmentNames_iff (h : (endpoints.map Endpoint.guidBytes).Nodup) (name guid : String) :
    (segmentNames endpoints isWriter).find? name = some guid ↔
      ∃ e ∈ endpoints, e.isWriter = isWriter ∧ name = datasharingSegmentName e.guidBytes ∧
        e.guid = guid := by
  have hkeys : (((endpoints.filter fun e ↦ e.isWriter = isWriter).map fun e ↦
      (datasharingSegmentName e.guidBytes, e.guid)).map Prod.fst).Nodup := by
    have hsub : ((endpoints.filter fun e ↦ e.isWriter = isWriter).map Endpoint.guidBytes).Sublist
        (endpoints.map Endpoint.guidBytes) := List.filter_sublist.map Endpoint.guidBytes
    have hside := (h.sublist hsub).map datasharingSegmentName_injective
    rw [List.map_map] at hside ⊢
    exact hside
  have hfound (e : Endpoint) (he : e ∈ endpoints) (hside : e.isWriter = isWriter) :
      (segmentNames endpoints isWriter).find? (datasharingSegmentName e.guidBytes) = some e.guid := by
    refine OrderedMap.find?_foldl_set_of_mem _ .empty hkeys
      (datasharingSegmentName e.guidBytes, e.guid) ?_
    exact List.mem_map_of_mem (List.mem_filter.mpr ⟨he, decide_eq_true hside⟩)
  constructor
  · intro hname
    obtain ⟨e, he, hside, rfl⟩ := exists_of_contains (Option.isSome_of_eq_some hname)
    rw [hfound e he hside] at hname
    exact ⟨e, he, hside, rfl, Option.some.inj hname⟩
  · rintro ⟨e, he, hside, rfl, rfl⟩
    exact hfound e he hside

end Tables

/-! ## The scan -/

section Scan

variable (input : ShmScanInput)

/-- The files that the scan walks over. -/
def filesOf (directory : Option ShmDirectory) : List ShmFile :=
  (directory.bind ShmDirectory.files).getD []

theorem find?_history_scanShm (directory : Option ShmDirectory) (guid : String) :
    (scanShm input directory).datasharingByWriter.find? guid =
      (written (historyEntry input) guid (filesOf directory)).getLast? := by
  cases directory with
  | none => rfl
  | some directory =>
    obtain ⟨total, used, free, files⟩ := directory
    cases files with
    | none => rfl
    | some files => exact find?_datasharingByWriter ⟨total, used, free, some files⟩ files guid

/-- What a file says about one writer. -/
theorem bind_historyEntry (f : ShmFile) (guid : String) :
    ((historyEntry input f).bind fun e ↦ if e.1 = guid then some e.2 else none) =
      if isDataSharingFile f = true ∧ input.datasharingReaders.find? f.name = none ∧
        input.datasharingWriters.find? f.name = some guid then some f.size else none := by
  unfold historyEntry
  cases isDataSharingFile f with
  | false => simp
  | true =>
    cases hreader : input.datasharingReaders.find? f.name with
    | some reader => simp [OrderedMap.contains, hreader]
    | none =>
      cases hwriter : input.datasharingWriters.find? f.name <;>
        simp [OrderedMap.contains, hreader]

/-- The reader that a file is named after. -/
def notificationEntry (f : ShmFile) : Option String :=
  if isDataSharingFile f then input.datasharingReaders.find? f.name else none

theorem readers_scanDataSharing (info : ShmInfo) (f : ShmFile) (guid : String) :
    guid ∈ (scanDataSharing input info f).datasharingNotificationReaders ↔
      input.datasharingReaders.find? f.name = some guid ∨
        guid ∈ info.datasharingNotificationReaders := by
  unfold scanDataSharing
  cases hreader : input.datasharingReaders.find? f.name with
  | some reader => simp only [Finset.mem_insert, Option.some.injEq, @eq_comm _ guid reader]
  | none =>
    rw [or_iff_right (Option.some_ne_none guid).symm]
    cases hwriter : input.datasharingWriters.find? f.name <;> rfl

theorem readers_scanFile (scan : Scan) (f : ShmFile) (guid : String) :
    guid ∈ (scanFile input scan f).info.datasharingNotificationReaders ↔
      notificationEntry input f = some guid ∨ guid ∈ scan.info.datasharingNotificationReaders := by
  cases hstarts : startsWith f.name kDataSharingPrefix with
  | true =>
    obtain ⟨hsegment, hport⟩ := prefixOf_datasharing hstarts
    unfold scanFile notificationEntry isDataSharingFile
    rw [hsegment, hport, hstarts]
    cases hregular : f.regular with
    | false => simp
    | true =>
      cases hlock : endsWith f.name kLockSuffix with
      | true => simp
      | false =>
        exact readers_scanDataSharing input
          { scan.info with fastddsBytes := scan.info.fastddsBytes + f.size } f guid
  | false =>
    have hentry : notificationEntry input f = none := by
      simp [notificationEntry, isDataSharingFile, hstarts]
    rw [hentry, or_iff_right (Option.some_ne_none guid).symm]
    -- no other branch adds a reader
    unfold scanFile
    simp only [hstarts, Bool.false_eq_true, if_false]
    repeat' split
    all_goals rfl

theorem readers_foldl (files : List ShmFile) (scan : Scan) (guid : String) :
    guid ∈ (files.foldl (scanFile input) scan).info.datasharingNotificationReaders ↔
      (∃ f ∈ files, notificationEntry input f = some guid) ∨
        guid ∈ scan.info.datasharingNotificationReaders := by
  induction files generalizing scan with
  | nil => simp
  | cons f rest ih =>
    rw [List.foldl_cons, ih, readers_scanFile]
    simp only [List.mem_cons, exists_eq_or_imp]
    rw [or_left_comm, or_assoc]

theorem readers_concludeScan (scan : Scan) :
    (concludeScan input scan).datasharingNotificationReaders =
      scan.info.datasharingNotificationReaders := by
  unfold concludeScan addCapacityWarning
  rw [foldl_checkPort]
  simp only
  split_ifs <;> rfl

theorem mem_readers_scanShm (directory : Option ShmDirectory) (guid : String) :
    guid ∈ (scanShm input directory).datasharingNotificationReaders ↔
      ∃ f ∈ filesOf directory, notificationEntry input f = some guid := by
  cases directory with
  | none => simp [scanShm, filesOf]
  | some directory =>
    obtain ⟨total, used, free, files⟩ := directory
    cases files with
    | none => simp [scanShm, filesOf]
    | some files =>
      unfold scanShm
      simp only [readers_concludeScan, readers_foldl, filesOf, Option.bind_some, Option.getD_some,
        Finset.notMem_empty, or_false]

end Scan

/-! ## What an endpoint is told -/

section Attribution

variable {observer : Observer} {endpoints kept : List Endpoint} {directory : Option ShmDirectory}
  {o : ViewOptions} {e : Endpoint}

theorem DistinctGuids.sublist (h : DistinctGuids endpoints) (hsub : kept.Sublist endpoints) :
    DistinctGuids kept where
  text e he := h.text e (hsub.subset he)
  nodup := h.nodup.sublist (hsub.map Endpoint.guidBytes)

theorem DistinctGuids.eq_of_guidBytes (h : DistinctGuids kept) {e' : Endpoint} (he : e ∈ kept)
    (he' : e' ∈ kept) (hbytes : e.guidBytes = e'.guidBytes) : e = e' :=
  List.inj_on_of_nodup_map h.nodup he he' hbytes

theorem keptEndpoints_sublist (observer : Observer) (endpoints : List Endpoint) (o : ViewOptions) :
    (keptEndpoints observer endpoints o).Sublist endpoints :=
  List.filter_sublist.trans List.filter_sublist

theorem DistinctGuids.find?_iff (h : DistinctGuids kept) (he : e ∈ kept) (isWriter : Bool)
    (name : String) : (segmentNames kept isWriter).find? name = some e.guid ↔
      e.isWriter = isWriter ∧ name = datasharingSegmentName e.guidBytes := by
  rw [find?_segmentNames_iff h.nodup]
  constructor
  · rintro ⟨e', he', hside, hname, hguid⟩
    rw [h.text e' he', h.text e he] at hguid
    obtain rfl := h.eq_of_guidBytes he' he (guidToString_injective hguid)
    exact ⟨hside, hname⟩
  · intro ⟨hside, hname⟩
    exact ⟨e, he, hside, hname, rfl⟩

/-- The name of a writer's segment is not that of a reader's. -/
theorem DistinctGuids.find?_other (h : DistinctGuids kept) (he : e ∈ kept) {isWriter : Bool}
    (hside : e.isWriter ≠ isWriter) :
    (segmentNames kept isWriter).find? (datasharingSegmentName e.guidBytes) = none := by
  by_contra hfound
  obtain ⟨guid, hguid⟩ := Option.ne_none_iff_exists'.mp hfound
  obtain ⟨e', he', hside', hname, -⟩ := (find?_segmentNames_iff h.nodup _ _).mp hguid
  obtain rfl := h.eq_of_guidBytes he he' (datasharingSegmentName_injective hname)
  exact hside hside'

theorem ownSegments_eq (directory : Option ShmDirectory) (e : Endpoint) :
    ownSegments directory e = (filesOf directory).filter fun f ↦
      f.name = datasharingSegmentName e.guidBytes && isDataSharingFile f := by
  rw [ownSegments, dataSharingFiles, List.filter_filter, filesOf]

/-- A file adds to an endpoint's history when the endpoint is a writer and the file is its own. -/
theorem DistinctGuids.bind_historyEntry (h : DistinctGuids (keptEndpoints observer endpoints o))
    (he : e ∈ keptEndpoints observer endpoints o) (f : ShmFile) :
    ((historyEntry (scanInput observer endpoints o) f).bind fun entry ↦
        if entry.1 = e.guid then some entry.2 else none) =
      if (e.isWriter && (f.name = datasharingSegmentName e.guidBytes && isDataSharingFile f)) = true
        then some f.size else none := by
  rw [Collect.bind_historyEntry]
  refine if_congr ?_ rfl rfl
  rw [Bool.and_eq_true, Bool.and_eq_true, decide_eq_true_eq]
  have hwriter := h.find?_iff he true f.name
  constructor
  · rintro ⟨hfile, -, hfound⟩
    obtain ⟨hside, hname⟩ := hwriter.mp hfound
    exact ⟨hside, hname, hfile⟩
  · rintro ⟨hside, hname, hfile⟩
    refine ⟨hfile, ?_, hwriter.mpr ⟨hside, hname⟩⟩
    rw [hname]
    exact h.find?_other he (by simp [hside])

theorem DistinctGuids.notificationEntry_iff
    (h : DistinctGuids (keptEndpoints observer endpoints o))
    (he : e ∈ keptEndpoints observer endpoints o) (f : ShmFile) :
    notificationEntry (scanInput observer endpoints o) f = some e.guid ↔
      isDataSharingFile f = true ∧ e.isWriter = false ∧
        f.name = datasharingSegmentName e.guidBytes := by
  rw [notificationEntry, Option.ite_none_right_eq_some]
  exact and_congr_right fun _ ↦ h.find?_iff he false f.name

theorem find?_collectShm (directory : Option ShmDirectory) (h : DistinctGuids endpoints)
    (he : e ∈ keptEndpoints observer endpoints o) :
    (collectShm observer endpoints directory o).datasharingByWriter.find? e.guid =
      if e.isWriter then (ownSegments directory e).getLast?.map ShmFile.size else none := by
  have hkept := h.sublist (keptEndpoints_sublist observer endpoints o)
  rw [collectShm, find?_history_scanShm, written_eq_map_filter (hkept.bind_historyEntry he),
    ownSegments_eq]
  cases e.isWriter with
  | true => simp [List.getLast?_map]
  | false => simp

theorem mem_readers_collectShm (directory : Option ShmDirectory) (h : DistinctGuids endpoints)
    (he : e ∈ keptEndpoints observer endpoints o) :
    e.guid ∈ (collectShm observer endpoints directory o).datasharingNotificationReaders ↔
      e.isWriter = false ∧ ownSegments directory e ≠ [] := by
  have hkept := h.sublist (keptEndpoints_sublist observer endpoints o)
  rw [collectShm, mem_readers_scanShm, ownSegments_eq]
  simp only [hkept.notificationEntry_iff he]
  constructor
  · rintro ⟨f, hf, hfile, hside, hname⟩
    refine ⟨hside, List.ne_nil_of_mem (List.mem_filter.mpr ⟨hf, ?_⟩)⟩
    rw [Bool.and_eq_true, decide_eq_true_eq]
    exact ⟨hname, hfile⟩
  · rintro ⟨hside, hne⟩
    obtain ⟨f, hmem⟩ := List.exists_mem_of_ne_nil _ hne
    rw [List.mem_filter, Bool.and_eq_true, decide_eq_true_eq] at hmem
    exact ⟨f, hmem.1, hmem.2.2, hside, hmem.2.1⟩

theorem attributeSegment_available (observer : Observer) (shm : ShmInfo) (e : Endpoint) :
    (attributeSegment observer shm e).datasharingHistoryAvailable =
      (e.datasharingHistoryAvailable || (shm.datasharingByWriter.find? e.guid).isSome) := by
  unfold attributeSegment
  cases shm.datasharingByWriter.find? e.guid <;> simp only <;> split_ifs <;> simp

/-- Where data-sharing is announced on the tool's own host, the files say what is visible. -/
theorem attributeSegment_visible {shm : ShmInfo} (hlisted : shm.listed = true)
    (hhost : e.hostId = observer.localHost) (hqos : e.qos.dataSharing ≠ .off) :
    (attributeSegment observer shm e).datasharingSegmentVisibility =
      if (if e.isWriter then
          e.datasharingHistoryAvailable || (shm.datasharingByWriter.find? e.guid).isSome
        else e.guid ∈ shm.datasharingNotificationReaders) then .visible else .notVisible := by
  unfold attributeSegment
  cases shm.datasharingByWriter.find? e.guid <;> simp [hlisted, hhost, hqos]

theorem attributed (h : DistinctGuids endpoints) (he : e ∈ keptEndpoints observer endpoints o) :
    Attributed observer (collectShm observer endpoints directory o) directory e := by
  have hhistory := find?_collectShm directory h he
  have hnotification := mem_readers_collectShm directory h he
  have hempty : (ownSegments directory e).getLast?.isSome = !(ownSegments directory e).isEmpty := by
    cases ownSegments directory e <;> simp
  refine ⟨hhistory, hnotification, fun hnone ↦ ?_, fun hlisted hhost hqos hnone ↦ ?_⟩
  · rw [attributeSegment_available, hnone, hhistory, ← hempty]
    cases e.isWriter <;> simp
  · rw [attributeSegment_visible hlisted hhost hqos, hnone, hhistory]
    cases hside : e.isWriter with
    | true => cases hown : ownSegments directory e <;> simp
    | false =>
      rw [hside] at hnotification
      cases hown : ownSegments directory e <;> simp [hnotification, hown]

end Attribution

/-- The segments of an observation are attributed to the endpoints they are named after. -/
theorem segmentsNamed (observer : Observer) (endpoints : List Endpoint)
    (directory : Option ShmDirectory) (o : ViewOptions) :
    SegmentsNamed observer endpoints directory o where
  injective := datasharingSegmentName_injective
  fits guid n := by
    obtain ⟨hbuffered, hlt⟩ := buffered_take guid n
    rw [hbuffered]
    exact hlt
  whole guid := by
    have hbuffered := (buffered_take guid (namePieces guid).length).1
    rw [List.take_length] at hbuffered
    rw [hbuffered, flatten_namePieces]
  table isWriter guid := find?_segmentNames _ isWriter guid
  size isWriter := size_segmentNames _ isWriter
  sides name hwriter hreader := by
    obtain ⟨writer, hmem, hside, hname⟩ := exists_of_contains hwriter
    obtain ⟨reader, hmem', hside', hname'⟩ := exists_of_contains hreader
    exact ⟨writer, hmem, reader, hmem', hside, hside', hname,
      datasharingSegmentName_injective (hname.trans hname'.symm)⟩
  attributed h e he := attributed h he

end TransportViz.Collect
