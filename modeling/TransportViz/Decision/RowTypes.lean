import TransportViz.Decision.RowKinds
import TransportViz.Library.Delimited

/-!
# What the type of a row is made of

The members of a group's row are the topics of the group over which its two participants talk, each
once and in the order of the topics. The kind of the row is the first one's, and an action's row is
called after the action types its members name.
-/

namespace TransportViz.Decision

open Cabinet RosNames

/-- The topic is a member of the group, and these are participants of it. -/
def joins (group : String) (ends : String × String) (t : TopicSummary) : Bool :=
  isGrouped t ∧ t.group = group ∧ ends ∈ participantsOf t

def membersAt (topics : List TopicSummary) (group : String) (ends : String × String) :
    List TopicSummary := topics.filter (joins group ends)

/-- The action types that the members name when they have the given types, each once. -/
def namedTypes (typeOf : TopicSummary → String) (members : List TopicSummary) : List String :=
  members.foldl
    (fun out t ↦ addDistinct out (parseActionMember t.ddsTopic (typeOf t)).actionType) []

theorem toPair_mem_of_mem_pairPointers {t : TopicSummary} {p : PairPtr} (hp : p ∈ pairPointers t) :
    p.toPair ∈ t.pairs := by
  rw [← map_toPair_pairPointers]
  exact List.mem_map_of_mem hp

/-- The same names. Only a name with the separator in it lets two lists read alike. -/
def SpelledAlike (first second : List String) : Prop :=
  first = second ∨
    (∃ name ∈ first ++ second, '|' ∈ name.toList) ∧
      "|".intercalate first = "|".intercalate second

theorem ne_empty_of_mem_namedTypes {typeOf : TopicSummary → String} {members : List TopicSummary}
    {name : String} (h : name ∈ namedTypes typeOf members) : name ≠ "" := by
  have hfold (topics : List TopicSummary) (out : List String) (hout : ∀ name ∈ out, name ≠ "") :
      ∀ name ∈ topics.foldl
        (fun out t ↦ addDistinct out (parseActionMember t.ddsTopic (typeOf t)).actionType) out,
          name ≠ "" := by
    induction topics generalizing out with
    | nil => exact hout
    | cons t rest ih =>
      refine ih _ fun name hname ↦ ?_
      simp only [addDistinct] at hname
      split_ifs at hname with hnew
      · rcases List.mem_append.mp hname with hname | hname
        · exact hout name hname
        · exact List.mem_singleton.mp hname ▸ hnew.1
      · exact hout name hname
  exact hfold members [] (fun _ hnone ↦ absurd hnone List.not_mem_nil) name h

theorem spelledAlike_iff {first second : List String} (hfirst : ∀ name ∈ first, name ≠ "")
    (hsecond : ∀ name ∈ second, name ≠ "") :
    "|".intercalate first = "|".intercalate second ↔ SpelledAlike first second := by
  refine ⟨fun htext ↦ ?_, fun halike ↦ halike.elim (fun heq ↦ heq ▸ rfl) And.right⟩
  by_cases hfree : ∃ name ∈ first ++ second, '|' ∈ name.toList
  · exact .inr ⟨hfree, htext⟩
  · refine .inl (List.map_injective_iff.mpr (fun _ _ ↦ String.toList_injective) ?_)
    have hpart (names : List String) (hnames : names ⊆ first ++ second)
        (hne : ∀ name ∈ names, name ≠ "") :
        ∀ part ∈ names.map String.toList, part ≠ [] ∧ '|' ∉ part := by
      intro part hpart
      obtain ⟨name, hname, rfl⟩ := List.mem_map.mp hpart
      exact ⟨fun hempty ↦ hne name hname (String.toList_eq_nil_iff.mp hempty),
        fun hmem ↦ hfree ⟨name, hnames hname, hmem⟩⟩
    refine Delimited.eq_of_intercalate_eq (hpart first (List.subset_append_left _ _) hfirst)
      (hpart second (List.subset_append_right _ _) hsecond) ?_
    have hlists := congrArg String.toList htext
    rwa [String.toList_intercalate, String.toList_intercalate] at hlists

/-- The name alone says which member a topic is. -/
theorem parseActionMember_suffix (ddsTopic first second : String) :
    (parseActionMember ddsTopic first).matched = (parseActionMember ddsTopic second).matched ∧
      (parseActionMember ddsTopic first).suffix = (parseActionMember ddsTopic second).suffix := by
  rcases parseActionMember_cases ddsTopic with hnone | ⟨spec, action, suffix, hspec⟩
  · rw [hnone, hnone]
    exact ⟨rfl, rfl⟩
  · obtain ⟨hmatched, -, hsuffix⟩ := memberOf_name spec action suffix first
    obtain ⟨hmatched', -, hsuffix'⟩ := memberOf_name spec action suffix second
    rw [hspec, hspec]
    exact ⟨hmatched.trans hmatched'.symm, hsuffix.trans hsuffix'.symm⟩

/-- A label does not depend on the type. -/
theorem memberLabel_congr {t u : TopicSummary} (htopic : t.ddsTopic = u.ddsTopic)
    (hkind : t.kind = u.kind) (hdirection : t.direction = u.direction) :
    memberLabel t = memberLabel u := by
  obtain ⟨hmatched, hsuffix⟩ := parseActionMember_suffix u.ddsTopic t.ddsType u.ddsType
  unfold memberLabel isGrouped toServer
  simp only [htopic, hkind, hdirection, hmatched, hsuffix]

theorem exists_rowKey (key : RowKey) :
    ∃ (group : String) (ends : String × String), key = toLex (group, toLex ends) :=
  ⟨(ofLex key).1, ofLex (ofLex key).2, rfl⟩

section Members

variable {topics : List TopicSummary}

theorem exists_label_iff (t : TopicPtr) (group : String) (ends : String × String) :
    (∃ entry ∈ entriesOf t, entry.label = some (toLex (group, toLex ends))) ↔
      joins group ends t.toTopicSummary = true := by
  rw [joins, decide_eq_true_eq]
  constructor
  · rintro ⟨entry, hentry, hlabel⟩
    have hgrouped : isGrouped t.toTopicSummary = true := by
      cases entry with
      | plain u => cases hlabel
      | pair u p => exact ((pair_mem_entriesOf_iff u t p).mp hentry).1
      | unpaired u e => exact ((unpaired_mem_entriesOf_iff u t e).mp hentry).1
    obtain ⟨found, hfound, heq⟩ := label_mem_entriesOf hgrouped hentry
    have hsame : (t.group, found) = (group, ends) := by
      simpa [Prod.ext_iff] using Option.some.inj (heq.symm.trans hlabel)
    obtain ⟨hgroup, rfl⟩ := Prod.mk.inj hsame
    exact ⟨hgrouped, hgroup, hfound⟩
  · rintro ⟨hgrouped, rfl, hends⟩
    have hlabel := List.mem_map_of_mem (f := fun ends ↦ some (toLex (t.group, toLex ends))) hends
    rw [← map_label_entriesOf t hgrouped] at hlabel
    exact List.mem_map.mp hlabel

/-- One topic that comes several times is one member. -/
theorem foldl_addMember_same {t : TopicPtr} {same out : List TopicPtr} (hsame : ∀ u ∈ same, u = t)
    (hnew : t ∉ out) : same.foldl addMember out = if same = [] then out else out ++ [t] := by
  have hrest (rest : List TopicPtr) (hrest : ∀ u ∈ rest, u = t) :
      rest.foldl addMember (out ++ [t]) = out ++ [t] := by
    induction rest with
    | nil => rfl
    | cons u rest ih =>
      obtain ⟨rfl, hlater⟩ := List.forall_mem_cons.mp hrest
      rw [List.foldl_cons, addMember, if_pos (by simp), ih hlater]
  cases same with
  | nil => rfl
  | cons u rest =>
    obtain ⟨rfl, hlater⟩ := List.forall_mem_cons.mp hsame
    rw [List.foldl_cons, addMember, if_neg hnew, hrest rest hlater, if_neg (List.cons_ne_nil u rest)]

theorem foldl_addMember_flatMap (brought : TopicPtr → List TopicPtr)
    (hbrought : ∀ t, ∀ u ∈ brought t, u = t) {ts out : List TopicPtr} (hnodup : ts.Nodup)
    (hnew : ∀ t ∈ ts, t ∉ out) :
    (ts.flatMap brought).foldl addMember out = out ++ ts.filter fun t ↦ brought t ≠ [] := by
  induction ts generalizing out with
  | nil => simp
  | cons t rest ih =>
    obtain ⟨hfirst, hlater⟩ := List.forall_mem_cons.mp hnew
    obtain ⟨hnotin, hrest⟩ := List.nodup_cons.mp hnodup
    rw [List.flatMap_cons, List.foldl_append, foldl_addMember_same (hbrought t) hfirst]
    by_cases hnone : brought t = []
    · rw [if_pos hnone, ih hrest hlater, List.filter_cons_of_neg (by simpa using hnone)]
    · rw [if_neg hnone, List.filter_cons_of_pos (by simpa using hnone), ih hrest]
      · simp
      · intro u hu hmem
        rcases List.mem_append.mp hmem with hmem | hmem
        · exact hlater u hu hmem
        · exact hnotin (List.mem_singleton.mp hmem ▸ hu)

/-- Members that are there already stay in front. -/
theorem prefix_foldl_addMember (later out : List TopicPtr) : out <+: later.foldl addMember out := by
  induction later generalizing out with
  | nil => exact List.prefix_refl out
  | cons t rest ih =>
    refine List.IsPrefix.trans ?_ (ih (addMember out t))
    unfold addMember
    split_ifs
    · exact List.prefix_refl out
    · exact List.prefix_append out [t]

variable {drawer : Drawer Entry} (hdrawer : drawer ∈ rowDrawers topics) {group : String}
  {ends : String × String} (hkey : drawer.first.label = some (toLex (group, toLex ends)))
include hdrawer hkey

/-- The members of a row, as a part of the list of topics. -/
theorem members_drawerRow :
    (drawerRow drawer).members =
      (topicPointers topics).filter fun t ↦ joins group ends t.toTopicSummary := by
  have hbrought (t : TopicPtr) : ∀ u ∈ ((entriesOf t).filter fun entry ↦
      entry.label = some (toLex (group, toLex ends))).filterMap Entry.member?, u = t := by
    intro u hu
    obtain ⟨entry, hentry, hmember⟩ := List.mem_filterMap.mp hu
    obtain ⟨hof, hlabel⟩ := List.mem_filter.mp hentry
    rw [member?_of_label (of_decide_eq_true hlabel), topic_of_mem_entriesOf hof] at hmember
    exact (Option.some.inj hmember).symm
  have hsome (t : TopicPtr) : ((entriesOf t).filter fun entry ↦
      entry.label = some (toLex (group, toLex ends))).filterMap Entry.member? ≠ [] ↔
        joins group ends t.toTopicSummary = true := by
    rw [← exists_label_iff]
    constructor
    · intro hne
      obtain ⟨u, hu⟩ := List.exists_mem_of_ne_nil _ hne
      obtain ⟨entry, hentry, -⟩ := List.mem_filterMap.mp hu
      obtain ⟨hof, hlabel⟩ := List.mem_filter.mp hentry
      exact ⟨entry, hof, of_decide_eq_true hlabel⟩
    · rintro ⟨entry, hof, hlabel⟩
      exact List.ne_nil_of_mem (List.mem_filterMap.mpr
        ⟨entry, List.mem_filter.mpr ⟨hof, decide_eq_true hlabel⟩, member?_of_label hlabel⟩)
  rw [members_eq_foldl hkey, items_eq_filter hdrawer hkey, entries, List.filter_flatMap,
    List.filterMap_flatMap, foldl_addMember_flatMap _ hbrought (nodup_topicPointers topics)
      fun _ _ ↦ List.not_mem_nil, List.nil_append]
  refine List.filter_congr fun t _ ↦ ?_
  rw [Bool.eq_iff_iff, decide_eq_true_iff]
  exact hsome t

theorem map_members_drawerRow :
    (drawerRow drawer).members.map (·.toTopicSummary) = membersAt topics group ends := by
  rw [members_drawerRow hdrawer hkey, membersAt]
  conv_rhs => rw [← map_topicPointers topics]
  rw [List.filter_map]
  rfl

/-- The first member gives the row its kind. -/
theorem head?_membersAt :
    (membersAt topics group ends).head?.map TopicSummary.kind = some (drawerRow drawer).kind := by
  have hfirst : (drawerRow drawer).members.head? = some drawer.first.topic := by
    obtain ⟨later, hlater⟩ :=
      prefix_foldl_addMember (drawer.rest.filterMap Entry.member?) [drawer.first.topic]
    rw [members_eq_foldl hkey, Drawer.items, List.filterMap_cons_some (member?_of_label hkey)]
    change (List.foldl addMember [drawer.first.topic] _).head? = _
    rw [← hlater]
    rfl
  rw [← map_members_drawerRow hdrawer hkey, List.head?_map, hfirst, kind_drawerRow]
  rfl

/-- The type of a row, out of the topics. -/
theorem type_drawerRow :
    (drawerRow drawer).type = "|".intercalate ((membersAt topics group ends).foldl
      (fun parts t ↦ addDistinct parts (typePart (drawerRow drawer).kind t)) []) := by
  have htopic : (drawer.row Entry.start addEntry).topic = none :=
    (key_of_mem_items hdrawer drawer.first_mem_items hkey).1
  rw [← map_members_drawerRow hdrawer hkey, List.foldl_map]
  exact if_pos htopic

end Members

end TransportViz.Decision
