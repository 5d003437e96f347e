import TransportViz.Decision.RowTypes
import TransportViz.Json.Produced

/-!
# The rows of a saved snapshot

The document keeps the kind, the group and the direction of a topic, but not its type: the reader takes
the first writer's, or else the first reader's, while the summary took that of the first endpoint. So
the rows come back as they were, up to the type of an action's row.
-/

namespace TransportViz.Json

open Cabinet Decision RosNames Web

/-! ## What is seen of a row -/

structure RowView where
  kind : TopicKind
  name : String
  type : String
  requester : String
  replier : String
  /-- DDS topics with their labels. -/
  members : List (String × String)
  toServer : List (String × String × String)
  toClient : List (String × String × String)
  deriving DecidableEq

def memberView (t : TopicPtr) : String × String := (t.ddsTopic, memberLabel t.toTopicSummary)

/-- The topic of a pair and the GUIDs of its ends. -/
def pairView (m : TopicPtr × PairPtr) : String × String × String :=
  (m.1.ddsTopic, m.2.writer.guid, m.2.reader.guid)

def rowView (row : DisplayRow) : RowView where
  kind := row.kind
  name := row.name
  type := row.type
  requester := row.requester
  replier := row.replier
  members := row.members.map memberView
  toServer := row.toServer.map pairView
  toClient := row.toClient.map pairView

/-- The rows of the document are those of the snapshot. -/
def RowsSurvive [JsonReader.Dump] (s : Snapshot) (opt : RenderOptions) : Prop :=
  ∃ back, parseJson (renderJson s opt) = .ok back ∧
    (displayRows back.topics).map rowView = (displayRows s.topics).map rowView

/-- The members of an action's row name the same action types by their first writers, or else by their
first readers, as by their first endpoints. -/
def TypesNamedAlike (topics : List TopicSummary) : Prop :=
  ∀ group ends, (membersAt topics group ends).head?.map TopicSummary.kind = some .action →
    SpelledAlike
      (namedTypes (fun t ↦ firstType t.writers t.readers) (membersAt topics group ends))
      (namedTypes TopicSummary.ddsType (membersAt topics group ends))

/-! ## Entries of the document -/

section Entries

variable (seconds : ℚ) (endpoints : List Endpoint)

def savedTopicPtr (t : TopicPtr) : TopicPtr where
  toTopicSummary := savedTopic seconds endpoints t.toTopicSummary
  address := t.address

def savedPairPtr (p : PairPtr) : PairPtr where
  toPair := savedPair seconds endpoints p.toPair
  address := p.address

def savedEntry : Entry → Entry
  | .plain t => .plain (savedTopicPtr seconds endpoints t)
  | .pair t p => .pair (savedTopicPtr seconds endpoints t) (savedPairPtr seconds endpoints p)
  | .unpaired t e =>
      .unpaired (savedTopicPtr seconds endpoints t) (savedPointer endpoints e.toEndpoint)

theorem topicPointers_map_savedTopic (topics : List TopicSummary) :
    topicPointers (topics.map (savedTopic seconds endpoints)) =
      (topicPointers topics).map (savedTopicPtr seconds endpoints) := by
  unfold topicPointers
  rw [List.zipIdx_map, List.map_map, List.map_map]
  rfl

theorem pairPointers_savedTopic (t : TopicSummary) :
    pairPointers (savedTopic seconds endpoints t) =
      (pairPointers t).map (savedPairPtr seconds endpoints) := by
  unfold pairPointers savedTopic
  rw [List.zipIdx_map, List.map_map, List.map_map]
  rfl

theorem entriesOf_savedTopicPtr (t : TopicPtr) :
    entriesOf (savedTopicPtr seconds endpoints t) =
      (entriesOf t).map (savedEntry seconds endpoints) := by
  have hpairs : (savedTopicPtr seconds endpoints t).pairs ≠ [] ↔ t.pairs ≠ [] :=
    not_congr List.map_eq_nil_iff
  have hsame : isGrouped (savedTopicPtr seconds endpoints t).toTopicSummary =
      isGrouped t.toTopicSummary := rfl
  unfold entriesOf
  rw [hsame]
  by_cases hgrouped : isGrouped t.toTopicSummary = true
  · rw [if_neg (not_not.mpr hgrouped), if_neg (not_not.mpr hgrouped)]
    by_cases hnone : t.pairs ≠ []
    · rw [if_pos hnone, if_pos (hpairs.mpr hnone), List.map_map]
      change (pairPointers (savedTopic seconds endpoints t.toTopicSummary)).map _ = _
      rw [pairPointers_savedTopic, List.map_map]
      rfl
    · rw [if_neg hnone, if_neg (mt hpairs.mp hnone), List.map_map]
      simp only [savedTopicPtr, savedTopic, ← List.map_append, List.map_map]
      rfl
  · rw [if_pos hgrouped, if_pos hgrouped]
    rfl

theorem entries_map_savedTopic (topics : List TopicSummary) :
    entries (topics.map (savedTopic seconds endpoints)) =
      (entries topics).map (savedEntry seconds endpoints) := by
  rw [entries, topicPointers_map_savedTopic, List.flatMap_map, entries, List.map_flatMap]
  exact List.flatMap_congr fun t _ ↦ entriesOf_savedTopicPtr seconds endpoints t

end Entries

/-! ## Endpoints found again -/

/-- The document gives the endpoint back as far as a row is concerned. -/
structure FoundAgain (endpoints : List Endpoint) (e : EndpointPtr) : Prop where
  guid : (savedPointer endpoints e.toEndpoint).guid = e.guid
  isWriter : (savedPointer endpoints e.toEndpoint).isWriter = e.isWriter
  participant : (savedPointer endpoints e.toEndpoint).participantGuidPrefix = e.participantGuidPrefix
  ddsType : (savedPointer endpoints e.toEndpoint).ddsType = e.ddsType

/-- All that a row asks of a topic is in the document. -/
structure Reread (endpoints : List Endpoint) (t : TopicSummary) : Prop where
  writer : ∀ w ∈ t.writers, FoundAgain endpoints w
  reader : ∀ r ∈ t.readers, FoundAgain endpoints r
  pair : ∀ p ∈ t.pairs, FoundAgain endpoints p.writer ∧ FoundAgain endpoints p.reader

theorem foundAgain_of_mem {topics : List TopicSummary}
    (hdistinct : ((listed topics).map Endpoint.guid).Nodup) {e : EndpointPtr}
    (he : savedEndpoint e.isWriter e.toEndpoint ∈ listed topics) :
    FoundAgain (savedEndpoints topics) e := by
  obtain ⟨pointer, hpointer, hsame⟩ := exists_endpointOf hdistinct he
  change endpointOf (savedEndpoints topics) e.guid = some pointer at hpointer
  have hfound : savedPointer (savedEndpoints topics) e.toEndpoint = pointer := by
    rw [savedPointer, hpointer, Option.getD_some]
  exact ⟨hfound ▸ congrArg (fun e ↦ e.guid) hsame, hfound ▸ congrArg (fun e ↦ e.isWriter) hsame,
    hfound ▸ congrArg (fun e ↦ e.participantGuidPrefix) hsame,
    hfound ▸ congrArg (fun e ↦ e.ddsType) hsame⟩

theorem reread_of_mem_summarize [Fnmatch] {endpoints : List Endpoint}
    (hdistinct : ((listed (summarize endpoints)).map Endpoint.guid).Nodup) {t : TopicSummary}
    (ht : t ∈ summarize endpoints) : Reread (savedEndpoints (summarize endpoints)) t := by
  have hsummary := isSummary_of_mem endpoints t ht
  have hwriter : ∀ w ∈ t.writers, FoundAgain (savedEndpoints (summarize endpoints)) w := by
    intro w hw
    have hside := ((mem_sideOf _ _ _ _).mp (hsummary.writers_eq ▸ hw)).2.2
    exact foundAgain_of_mem hdistinct (hside ▸ mem_listed_writer ht hw)
  have hreader : ∀ r ∈ t.readers, FoundAgain (savedEndpoints (summarize endpoints)) r := by
    intro r hr
    have hside := ((mem_sideOf _ _ _ _).mp (hsummary.readers_eq ▸ hr)).2.2
    exact foundAgain_of_mem hdistinct (hside ▸ mem_listed_reader ht hr)
  refine ⟨hwriter, hreader, fun p hp ↦ ?_⟩
  obtain ⟨hw, hr, -⟩ := (mem_freshPairs _ _ p).mp (hsummary.pairs_eq ▸ hp)
  exact ⟨hwriter _ hw, hreader _ hr⟩

section Reread

variable {endpoints : List Endpoint} {t : TopicSummary} (h : Reread endpoints t) (seconds : ℚ)
include h

theorem savedTopic_ddsType :
    (savedTopic seconds endpoints t).ddsType = firstType t.writers t.readers := by
  unfold savedTopic firstType
  cases hwriters : t.writers with
  | cons w rest => exact (h.writer w (hwriters ▸ List.mem_cons_self ..)).ddsType
  | nil =>
    cases hreaders : t.readers with
    | cons r rest => exact (h.reader r (hreaders ▸ List.mem_cons_self ..)).ddsType
    | nil => rfl

theorem ends_savedPair {p : Pair} (hp : p ∈ t.pairs) :
    (clientOf (savedTopic seconds endpoints t) (savedPair seconds endpoints p)).participantGuidPrefix =
        (clientOf t p).participantGuidPrefix ∧
      (serverOf (savedTopic seconds endpoints t)
          (savedPair seconds endpoints p)).participantGuidPrefix =
        (serverOf t p).participantGuidPrefix := by
  have hway : toServer (savedTopic seconds endpoints t) = toServer t := rfl
  obtain ⟨hwriter, hreader⟩ := h.pair p hp
  unfold clientOf serverOf
  rw [hway]
  cases toServer t with
  | true => exact ⟨hwriter.participant, hreader.participant⟩
  | false => exact ⟨hreader.participant, hwriter.participant⟩

omit h in
theorem isClient_savedPointer {e : EndpointPtr} (he : FoundAgain endpoints e) :
    isClient (savedTopic seconds endpoints t) (savedPointer endpoints e.toEndpoint).toEndpoint =
      isClient t e.toEndpoint := by
  have hway : toServer (savedTopic seconds endpoints t) = toServer t := rfl
  unfold isClient
  rw [hway, he.isWriter]

theorem participantsOf_savedTopic :
    participantsOf (savedTopic seconds endpoints t) = participantsOf t := by
  have hpairs : (savedTopic seconds endpoints t).pairs ≠ [] ↔ t.pairs ≠ [] :=
    not_congr List.map_eq_nil_iff
  unfold participantsOf
  by_cases hnone : t.pairs ≠ []
  · rw [if_pos hnone, if_pos (hpairs.mpr hnone)]
    change (t.pairs.map (savedPair seconds endpoints)).map _ = _
    rw [List.map_map]
    refine List.map_congr_left fun p hp ↦ ?_
    obtain ⟨hclient, hserver⟩ := ends_savedPair h seconds hp
    exact Prod.ext hclient hserver
  · rw [if_neg hnone, if_neg (mt hpairs.mp hnone)]
    change (t.writers.map (fun w ↦ savedPointer endpoints w.toEndpoint) ++
      t.readers.map fun r ↦ savedPointer endpoints r.toEndpoint).map _ = _
    rw [← List.map_append, List.map_map]
    refine List.map_congr_left fun e he ↦ ?_
    have hfound := (List.mem_append.mp he).elim (h.writer e) (h.reader e)
    rw [Function.comp_apply, isClient_savedPointer seconds hfound, hfound.participant]

theorem joins_savedTopic (group : String) (ends : String × String) :
    joins group ends (savedTopic seconds endpoints t) = joins group ends t := by
  have hgrouped : isGrouped (savedTopic seconds endpoints t) = isGrouped t := rfl
  have hgroup : (savedTopic seconds endpoints t).group = t.group := rfl
  unfold joins
  rw [participantsOf_savedTopic h seconds, hgrouped, hgroup]

end Reread

/-! ## Rows of the document -/

section Rows

variable {endpoints : List Endpoint} {topics : List TopicSummary}
  (h : ∀ t ∈ topics, Reread endpoints t) (seconds : ℚ)
include h

theorem ends_savedEntry {entry : Entry} (hentry : entry ∈ entries topics) :
    prefixOf (savedEntry seconds endpoints entry).client = prefixOf entry.client ∧
      prefixOf (savedEntry seconds endpoints entry).server = prefixOf entry.server := by
  obtain ⟨htopic, hof⟩ := (mem_entries_iff topics entry).mp hentry
  have hread := h _ (mem_of_mem_topicPointers htopic)
  cases entry with
  | plain t => exact ⟨rfl, rfl⟩
  | pair t p =>
    obtain ⟨-, -, hp⟩ := (pair_mem_entriesOf_iff t t p).mp hof
    exact ends_savedPair hread seconds (toPair_mem_of_mem_pairPointers hp)
  | unpaired t e =>
    obtain ⟨-, -, -, he⟩ := (unpaired_mem_entriesOf_iff t t e).mp hof
    have hfound := (List.mem_append.mp he).elim (hread.writer e) (hread.reader e)
    have hside : isClient (savedTopicPtr seconds endpoints t).toTopicSummary
        (savedPointer endpoints e.toEndpoint).toEndpoint = isClient t.toTopicSummary e.toEndpoint :=
      isClient_savedPointer seconds hfound
    simp only [savedEntry, Entry.client, Entry.server, hside]
    cases isClient t.toTopicSummary e.toEndpoint with
    | true => exact ⟨hfound.participant, rfl⟩
    | false => exact ⟨rfl, hfound.participant⟩

theorem label_savedEntry {entry : Entry} (hentry : entry ∈ entries topics) :
    (savedEntry seconds endpoints entry).label = entry.label := by
  obtain ⟨hclient, hserver⟩ := ends_savedEntry h seconds hentry
  cases entry with
  | plain t => rfl
  | pair t p =>
    calc (savedEntry seconds endpoints (.pair t p)).label
        = some (toLex (t.group, toLex (prefixOf (savedEntry seconds endpoints (.pair t p)).client,
            prefixOf (savedEntry seconds endpoints (.pair t p)).server))) := rfl
      _ = (Entry.pair t p).label := by rw [hclient, hserver]; rfl
  | unpaired t e =>
    calc (savedEntry seconds endpoints (.unpaired t e)).label
        = some (toLex (t.group, toLex (prefixOf (savedEntry seconds endpoints (.unpaired t e)).client,
            prefixOf (savedEntry seconds endpoints (.unpaired t e)).server))) := rfl
      _ = (Entry.unpaired t e).label := by rw [hclient, hserver]; rfl

/-- The rows of the document hold what the live ones do. -/
theorem rowDrawers_map_savedTopic :
    rowDrawers (topics.map (savedTopic seconds endpoints)) =
      (rowDrawers topics).map (Drawer.map (savedEntry seconds endpoints)) := by
  rw [rowDrawers, entries_map_savedTopic]
  exact drawers_map _ Entry.label Entry.label fun entry hentry ↦ label_savedEntry h seconds hentry

theorem membersAt_map_savedTopic (group : String) (ends : String × String) :
    membersAt (topics.map (savedTopic seconds endpoints)) group ends =
      (membersAt topics group ends).map (savedTopic seconds endpoints) := by
  unfold membersAt
  rw [List.filter_map]
  refine congrArg _ (List.filter_congr fun t ht ↦ ?_)
  exact joins_savedTopic (h t ht) seconds group ends

/-- The pairs of a row that go one way. -/
theorem map_pairView_saved {drawer : Drawer Entry} (hdrawer : drawer ∈ rowDrawers topics)
    (way : TopicSummary → Bool) (hway : ∀ t, way (savedTopic seconds endpoints t) = way t)
    (held : Entry → Option (TopicPtr × PairPtr)) (hplain : ∀ t, held (.plain t) = none)
    (hpair : ∀ t p, held (.pair t p) = if way t.toTopicSummary then some (t, p) else none)
    (hunpaired : ∀ t e, held (.unpaired t e) = none) :
    ((drawer.map (savedEntry seconds endpoints)).items.filterMap held).map pairView =
      (drawer.items.filterMap held).map pairView := by
  rw [Drawer.items_map, List.filterMap_map, List.map_filterMap, List.map_filterMap]
  refine List.filterMap_congr fun entry hentry ↦ ?_
  rw [Function.comp_apply]
  cases entry with
  | plain t => rw [savedEntry, hplain, hplain]
  | unpaired t e => rw [savedEntry, hunpaired, hunpaired]
  | pair t p =>
    obtain ⟨htopic, hof⟩ :=
      (mem_entries_iff topics _).mp (mem_entries_of_mem_items hdrawer hentry)
    obtain ⟨-, -, hp⟩ := (pair_mem_entriesOf_iff t t p).mp hof
    obtain ⟨hwriter, hreader⟩ :=
      (h _ (mem_of_mem_topicPointers htopic)).pair _ (toPair_mem_of_mem_pairPointers hp)
    have hview : pairView (savedTopicPtr seconds endpoints t, savedPairPtr seconds endpoints p) =
        pairView (t, p) := Prod.ext rfl (Prod.ext hwriter.guid hreader.guid)
    have hsame : way (savedTopicPtr seconds endpoints t).toTopicSummary = way t.toTopicSummary :=
      hway t.toTopicSummary
    rw [savedEntry, hpair, hpair, hsame]
    cases way t.toTopicSummary with
    | true => exact congrArg some hview
    | false => rfl

theorem mem_rowDrawers_saved {drawer : Drawer Entry} (hdrawer : drawer ∈ rowDrawers topics) :
    drawer.map (savedEntry seconds endpoints) ∈
      rowDrawers (topics.map (savedTopic seconds endpoints)) := by
  rw [rowDrawers_map_savedTopic h]
  exact List.mem_map_of_mem hdrawer

theorem label_first_saved {drawer : Drawer Entry} (hdrawer : drawer ∈ rowDrawers topics) :
    (drawer.map (savedEntry seconds endpoints)).first.label = drawer.first.label :=
  label_savedEntry h seconds (mem_entries_of_mem_items hdrawer drawer.first_mem_items)

theorem map_memberView_saved {drawer : Drawer Entry} (hdrawer : drawer ∈ rowDrawers topics) :
    (drawerRow (drawer.map (savedEntry seconds endpoints))).members.map memberView =
      (drawerRow drawer).members.map memberView := by
  cases hkey : drawer.first.label with
  | none =>
    have hrest := rest_of_label_eq_none drawer hdrawer hkey
    obtain ⟨first, rest⟩ := drawer
    cases first with
    | plain t =>
      obtain rfl : rest = [] := hrest
      exact congrArg (fun view ↦ [view]) (Prod.ext rfl (memberLabel_congr rfl rfl rfl))
    | pair t p => cases hkey
    | unpaired t e => cases hkey
  | some key =>
    obtain ⟨group, ends, rfl⟩ := exists_rowKey key
    have hsaved := (label_first_saved h seconds hdrawer).trans hkey
    have hjoins : (topicPointers topics).filter
        ((fun t ↦ joins group ends t.toTopicSummary) ∘ savedTopicPtr seconds endpoints) =
          (topicPointers topics).filter fun t ↦ joins group ends t.toTopicSummary :=
      List.filter_congr fun t ht ↦
        joins_savedTopic (h _ (mem_of_mem_topicPointers ht)) seconds group ends
    rw [members_drawerRow (mem_rowDrawers_saved h seconds hdrawer) hsaved,
      members_drawerRow hdrawer hkey, topicPointers_map_savedTopic, List.filter_map, List.map_map,
      hjoins]
    exact List.map_congr_left fun t _ ↦ Prod.ext rfl (memberLabel_congr rfl rfl rfl)

/-- Of the whole row only the type can be another one. -/
theorem rowView_saved {drawer : Drawer Entry} (hdrawer : drawer ∈ rowDrawers topics) :
    rowView (drawerRow (drawer.map (savedEntry seconds endpoints))) =
      { rowView (drawerRow drawer) with
        type := (drawerRow (drawer.map (savedEntry seconds endpoints))).type } := by
  have hfirst := mem_entries_of_mem_items hdrawer drawer.first_mem_items
  obtain ⟨hclient, hserver⟩ := ends_savedEntry h seconds hfirst
  have hkind : (savedEntry seconds endpoints drawer.first).topic.kind = drawer.first.topic.kind := by
    cases drawer.first <;> rfl
  have hname : (drawerRow (drawer.map (savedEntry seconds endpoints))).name =
      (drawerRow drawer).name := by
    rw [drawerRow_eq, drawerRow_eq, Drawer.first_map]
    cases drawer.first <;> rfl
  have htoServer := map_pairView_saved h seconds hdrawer toServer (fun _ ↦ rfl) Entry.toServer?
    (fun _ ↦ rfl) (fun _ _ ↦ rfl) fun _ _ ↦ rfl
  have htoClient := map_pairView_saved h seconds hdrawer (fun t ↦ !toServer t) (fun _ ↦ rfl)
    Entry.toClient? (fun _ ↦ rfl)
    (fun t p ↦ by
      rw [Entry.toClient?]
      cases toServer t.toTopicSummary <;> rfl)
    fun _ _ ↦ rfl
  simp only [rowView, kind_drawerRow, Drawer.first_map, hkind, hname, requester_drawerRow,
    replier_drawerRow, hclient, hserver, map_memberView_saved h seconds hdrawer, toServer_drawerRow,
    toClient_drawerRow, htoServer, htoClient]

/-- The type of a row of the document. -/
theorem type_saved_iff {drawer : Drawer Entry} (hdrawer : drawer ∈ rowDrawers topics) :
    rowView (drawerRow (drawer.map (savedEntry seconds endpoints))) = rowView (drawerRow drawer) ↔
      (drawerRow (drawer.map (savedEntry seconds endpoints))).type = (drawerRow drawer).type := by
  rw [rowView_saved h seconds hdrawer]
  exact ⟨fun heq ↦ congrArg RowView.type heq, fun heq ↦ by rw [heq]; rfl⟩

omit h in
/-- Only an action's row looks at the types of its members. -/
theorem typePart_savedTopic {kind : TopicKind} (hkind : kind ≠ .action) (t : TopicSummary) :
    typePart kind (savedTopic seconds endpoints t) = typePart kind t := by
  unfold typePart
  rw [if_neg hkind, if_neg hkind]
  rfl

theorem foldl_typePart_saved (group : String) (ends : String × String) :
    (membersAt (topics.map (savedTopic seconds endpoints)) group ends).foldl
        (fun parts t ↦ addDistinct parts (typePart .action t)) [] =
      namedTypes (fun t ↦ firstType t.writers t.readers) (membersAt topics group ends) := by
  have hparts : (membersAt topics group ends).map
      (fun t ↦ typePart .action (savedTopic seconds endpoints t)) =
        (membersAt topics group ends).map fun t ↦
          (parseActionMember t.ddsTopic (firstType t.writers t.readers)).actionType := by
    refine List.map_congr_left fun t ht ↦ ?_
    rw [typePart, if_pos rfl, savedTopic_ddsType (h t (List.mem_of_mem_filter ht))]
    rfl
  calc (membersAt (topics.map (savedTopic seconds endpoints)) group ends).foldl
        (fun parts t ↦ addDistinct parts (typePart .action t)) []
      = ((membersAt topics group ends).map fun t ↦
          typePart .action (savedTopic seconds endpoints t)).foldl addDistinct [] := by
        rw [membersAt_map_savedTopic h, List.foldl_map, List.foldl_map]
    _ = ((membersAt topics group ends).map fun t ↦ (parseActionMember t.ddsTopic
          (firstType t.writers t.readers)).actionType).foldl addDistinct [] := by rw [hparts]
    _ = namedTypes (fun t ↦ firstType t.writers t.readers) (membersAt topics group ends) := by
        rw [List.foldl_map, namedTypes]

theorem type_saved_of_label {drawer : Drawer Entry} (hdrawer : drawer ∈ rowDrawers topics)
    {group : String} {ends : String × String}
    (hkey : drawer.first.label = some (toLex (group, toLex ends))) :
    (drawerRow (drawer.map (savedEntry seconds endpoints))).type = (drawerRow drawer).type ↔
      ((drawerRow drawer).kind = .action →
        SpelledAlike
          (namedTypes (fun t ↦ firstType t.writers t.readers) (membersAt topics group ends))
          (namedTypes TopicSummary.ddsType (membersAt topics group ends))) := by
  have hkind : (drawerRow (drawer.map (savedEntry seconds endpoints))).kind =
      (drawerRow drawer).kind := congrArg RowView.kind (rowView_saved h seconds hdrawer)
  rw [type_drawerRow (mem_rowDrawers_saved h seconds hdrawer)
    ((label_first_saved h seconds hdrawer).trans hkey), type_drawerRow hdrawer hkey, hkind]
  by_cases haction : (drawerRow drawer).kind = .action
  · rw [haction, foldl_typePart_saved h, ← spelledAlike_iff
      (fun name ↦ ne_empty_of_mem_namedTypes) fun name ↦ ne_empty_of_mem_namedTypes]
    exact ⟨fun heq _ ↦ heq, fun heq ↦ heq rfl⟩
  · rw [membersAt_map_savedTopic h, List.foldl_map]
    exact iff_of_true (by simp only [typePart_savedTopic seconds haction])
      fun hkind ↦ absurd hkind haction

theorem forall_rowView_saved_iff :
    (∀ drawer ∈ rowDrawers topics, rowView (drawerRow (drawer.map (savedEntry seconds endpoints))) =
        rowView (drawerRow drawer)) ↔ TypesNamedAlike topics := by
  constructor
  · intro hrows group ends haction
    obtain ⟨t, hhead, hkind⟩ := Option.map_eq_some_iff.mp haction
    obtain ⟨ht, hjoins⟩ := List.mem_filter.mp (List.mem_of_head? hhead)
    obtain ⟨pointer, hpointer, rfl⟩ := exists_pointer_of_mem ht
    obtain ⟨entry, hof, hlabel⟩ := (exists_label_iff pointer group ends).mpr hjoins
    obtain ⟨drawer, hdrawer, hitem⟩ := exists_drawer_of_mem Entry.label
      (List.mem_flatMap.mpr ⟨pointer, hpointer, hof⟩)
    have hkey := (label_of_mem_drawers drawer hdrawer entry hitem).symm.trans hlabel
    have hrow := (type_saved_iff h seconds hdrawer).mp (hrows drawer hdrawer)
    refine (type_saved_of_label h seconds hdrawer hkey).mp hrow ?_
    exact Option.some.inj ((head?_membersAt hdrawer hkey).symm.trans haction)
  · intro hnamed drawer hdrawer
    rw [type_saved_iff h seconds hdrawer]
    cases hkey : drawer.first.label with
    | none =>
      have hrest := rest_of_label_eq_none drawer hdrawer hkey
      obtain ⟨first, rest⟩ := drawer
      cases first with
      | plain t =>
        obtain rfl : rest = [] := hrest
        rfl
      | pair t p => cases hkey
      | unpaired t e => cases hkey
    | some key =>
      obtain ⟨group, ends, rfl⟩ := exists_rowKey key
      refine (type_saved_of_label h seconds hdrawer hkey).mpr fun hkind ↦ hnamed group ends ?_
      rw [head?_membersAt hdrawer hkey, hkind]

/-- Both lists of rows are sorted alike. -/
theorem map_rowView_displayRows_iff :
    (displayRows (topics.map (savedTopic seconds endpoints))).map rowView =
        (displayRows topics).map rowView ↔
      ∀ drawer ∈ rowDrawers topics,
        rowView (drawerRow (drawer.map (savedEntry seconds endpoints))) =
          rowView (drawerRow drawer) := by
  have hkey : ∀ drawer ∈ rowDrawers topics,
      sortKey (drawerRow (drawer.map (savedEntry seconds endpoints))) =
        sortKey (drawerRow drawer) := by
    intro drawer hdrawer
    have hview := rowView_saved h seconds hdrawer
    have hname := congrArg RowView.name hview
    have hrequester := congrArg RowView.requester hview
    have hreplier := congrArg RowView.replier hview
    simp only [rowView] at hname hrequester hreplier
    rw [sortKey, hname, hrequester, hreplier, sortKey]
  have hlive : displayRows topics = ((rowDrawers topics).insertionSort
      fun a b ↦ sortKey (drawerRow a) ≤ sortKey (drawerRow b)).map drawerRow := by
    rw [displayRows_eq, List.map_insertionSort (fun a b ↦ sortKey (drawerRow a) ≤ sortKey (drawerRow b))
      (fun a b ↦ sortKey a ≤ sortKey b) drawerRow _ fun a _ b _ ↦ Iff.rfl]
  have hsaved : displayRows (topics.map (savedTopic seconds endpoints)) =
      ((rowDrawers topics).insertionSort fun a b ↦
        sortKey (drawerRow a) ≤ sortKey (drawerRow b)).map
          fun drawer ↦ drawerRow (drawer.map (savedEntry seconds endpoints)) := by
    rw [displayRows_eq, rowDrawers_map_savedTopic h, List.map_map,
      List.map_insertionSort (fun a b ↦ sortKey (drawerRow a) ≤ sortKey (drawerRow b))
        (fun a b ↦ sortKey a ≤ sortKey b) _ _ fun a ha b hb ↦ by rw [hkey a ha, hkey b hb]]
    rfl
  rw [hlive, hsaved, List.map_map, List.map_map, List.map_inj_left]
  simp only [List.mem_insertionSort, Function.comp_apply]

end Rows

theorem savable_of_summarize [Fnmatch] {s : Snapshot}
    (hdistinct : (s.endpoints.map Endpoint.guid).Nodup) (hsummary : s.topics = summarize s.endpoints) :
    Savable s := by
  have hpair : ∀ t ∈ s.topics, ∀ p ∈ t.pairs,
      p.writer ∈ t.writers ∧ p.reader ∈ t.readers ∧ p = freshPair p.writer p.reader := by
    intro t ht p hp
    rw [hsummary] at ht
    exact (mem_freshPairs _ _ p).mp ((isSummary_of_mem s.endpoints t ht).pairs_eq ▸ hp)
  refine ⟨?_, fun t ht p hp ↦ (hpair t ht p hp).1, fun t ht p hp ↦ (hpair t ht p hp).2.1,
    fun t ht p hp ↦ ?_⟩
  · rw [map_guid_listed, hsummary]
    exact nodup_listedGuids_summarize hdistinct
  · rw [(hpair t ht p hp).2.2]
    exact fun hnone ↦ absurd hnone (by simp [freshPair])

/-- The rows of a saved summary are the live ones exactly when no action's row is named otherwise by
the types of its first writers. -/
theorem rowsSurvive_iff [Fnmatch] [JsonReader.Dump] {s : Snapshot}
    (hdistinct : (s.endpoints.map Endpoint.guid).Nodup) (hsummary : s.topics = summarize s.endpoints)
    (opt : RenderOptions) : RowsSurvive s opt ↔ TypesNamedAlike s.topics := by
  have hsavable := savable_of_summarize hdistinct hsummary
  have hparse := parseJson_renderJson hsavable opt
  have hreread : ∀ t ∈ s.topics, Reread (savedEndpoints s.topics) t := by
    have hlisted := hsavable.distinct
    rw [hsummary] at hlisted ⊢
    exact fun t ht ↦ reread_of_mem_summarize hlisted ht
  have hsurvive : RowsSurvive s opt ↔
      (displayRows (saved s).topics).map rowView = (displayRows s.topics).map rowView := by
    constructor
    · rintro ⟨back, hback, hrows⟩
      rw [hparse] at hback
      cases hback
      exact hrows
    · exact fun hrows ↦ ⟨saved s, hparse, hrows⟩
  rw [hsurvive, saved, map_rowView_displayRows_iff hreread, forall_rowView_saved_iff hreread]

section Forgery

/-- One end of the goal topic of `/fibonacci`. -/
def goalEndpoint (isWriter : Bool) (ddsType : String) (process entity : UInt8) : Endpoint :=
  let guid := guidOnHost process entity
  { isWriter := isWriter
    guid := guidToString guid
    guidBytes := guid
    hostId := sampleHostId
    participantGuidPrefix := prefixToString guid
    ddsTopic := "rq/fibonacci/_action/send_goalRequest"
    ddsType := ddsType
    rosTopic := "/fibonacci/_action/send_goal"
    nodeName := if isWriter then "/caller" else "/server" }

/-- The server is discovered first; the caller was built against another action. -/
def forgedSnapshot : Snapshot :=
  let endpoints := [goalEndpoint false "demo::action::dds_::Fibonacci_SendGoal_Request_" 1 4,
    goalEndpoint true "other::action::dds_::Countdown_SendGoal_Request_" 2 3]
  { endpoints := endpoints
    topics := @summarize literalFnmatch endpoints }

/-- The row is called after the server's type in the live table, after the caller's in the saved one. -/
theorem forged_not_rowsSurvive : ¬@RowsSurvive integerDump forgedSnapshot {} := by
  intro hrows
  have hsavable : Savable forgedSnapshot :=
    @savable_of_summarize literalFnmatch forgedSnapshot (by decide +kernel) rfl
  obtain ⟨back, hback, hrows⟩ := hrows
  rw [@parseJson_renderJson forgedSnapshot integerDump hsavable] at hback
  cases hback
  revert hrows
  decide +kernel

/-- Caller and server agree on the type. -/
def agreedSnapshot : Snapshot :=
  let endpoints := [goalEndpoint false "demo::action::dds_::Fibonacci_SendGoal_Request_" 1 4,
    goalEndpoint true "demo::action::dds_::Fibonacci_SendGoal_Request_" 2 3]
  { endpoints := endpoints
    topics := @summarize literalFnmatch endpoints }

theorem rowsSurvive_iff_agreed :
    @RowsSurvive integerDump agreedSnapshot {} ↔ TypesNamedAlike agreedSnapshot.topics :=
  @rowsSurvive_iff literalFnmatch integerDump agreedSnapshot (by decide +kernel) rfl {}

end Forgery

end TransportViz.Json
