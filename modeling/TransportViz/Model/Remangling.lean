import TransportViz.Library.Delimited
import TransportViz.Model.RosNames

/-!
# DDS names out of ROS names

`remangle` writes a ROS name back as the DDS name it was read from, so two DDS names that are read alike
are one name. The prefix and the suffix of a service's topic cannot overlap, however short the name is.
-/

namespace TransportViz.RosNames

/-- The DDS name that the rmw makes of a ROS name. -/
def remangle (ros : RosName) : String :=
  match ros.kind with
  | .topic => "rt" ++ ros.name
  | .serviceRequest => "rq" ++ ros.name ++ "Request"
  | .serviceReply => "rr" ++ ros.name ++ "Reply"
  | .notRos => ""

/-- What is read from a name determines it, and what is cut off for that is there. -/
structure ReadsUnambiguously (ddsTopic ddsType : String) : Prop where
  remangled : (demangleTopic ddsTopic).kind ≠ .notRos → remangle (demangleTopic ddsTopic) = ddsTopic
  unambiguous : ∀ other, (demangleTopic ddsTopic).kind ≠ .notRos →
    (demangleTopic other).kind = (demangleTopic ddsTopic).kind →
      (demangleTopic other).name = (demangleTopic ddsTopic).name → other = ddsTopic
  topic_fits : startsWith ddsTopic "rt/" = true → 3 ≤ ddsTopic.length
  request_fits : startsWith ddsTopic "rq/" = true → endsWith ddsTopic "Request" = true →
    3 + 7 ≤ ddsTopic.length
  reply_fits : startsWith ddsTopic "rr/" = true → endsWith ddsTopic "Reply" = true →
    3 + 5 ≤ ddsTopic.length
  separator_fits : ∀ action suffix,
    splitAtLast "/_action/".toList (demangleTopic ddsTopic).name.toList = some (action, suffix) →
      action.length + 9 ≤ (demangleTopic ddsTopic).name.length
  type_fits : ∀ (pkg rest : List Char) (tail : String),
    splitAtFirst "::action::dds_::".toList ddsType.toList = some (pkg, rest) →
      tail.toList.isSuffixOf rest = true → tail.length ≤ rest.length
  action_ne : (parseActionMember ddsTopic ddsType).matched = true →
    (parseActionMember ddsTopic ddsType).action ≠ ""
  suffix_plain : (parseActionMember ddsTopic ddsType).matched = true →
    '/' ∉ (parseActionMember ddsTopic ddsType).suffix.toList
  action_name : (parseActionMember ddsTopic ddsType).matched = true →
    (parseActionMember ddsTopic ddsType).action ++ "/_action/" ++
      (parseActionMember ddsTopic ddsType).suffix = (demangleTopic ddsTopic).name

/-! ## Topics -/

section Topics

variable {s first last : String}

theorem substr_append_append (first middle last : String) :
    substr (first ++ middle ++ last) first.toList.length last.toList.length = middle := by
  apply String.toList_inj.mp
  rw [substr, String.toList_ofList]
  simp

theorem length_le_of_between (first middle last : String) :
    first.length + last.length ≤ (first ++ middle ++ last).length := by
  rw [String.length_append, String.length_append]
  omega

/-- A name with both ends has something between them, if only nothing. -/
theorem exists_between {head : List Char} (hfirst : first.toList = head ++ ['/'])
    (hlast : '/' ∉ last.toList) (hstarts : startsWith s first = true)
    (hends : endsWith s last = true) :
    ∃ middle, s = first ++ middle ++ last := by
  obtain ⟨rest, hrest⟩ := List.isPrefixOf_iff_prefix.mp hstarts
  obtain ⟨before, hbefore⟩ := List.isSuffixOf_iff_suffix.mp hends
  have hboth : head ++ '/' :: rest = before ++ last.toList := by
    rw [hbefore, ← hrest, hfirst, List.append_assoc, List.singleton_append]
  obtain ⟨middle, hmiddle⟩ := Delimited.exists_middle hlast hboth
  refine ⟨String.ofList middle, String.toList_inj.mp ?_⟩
  rw [← hrest, hmiddle, String.toList_append, String.toList_append, String.toList_ofList,
    List.append_assoc]

theorem request_head : "rq/".toList = ['r', 'q'] ++ ['/'] := by decide

theorem reply_head : "rr/".toList = ['r', 'r'] ++ ['/'] := by decide

/-- What a DDS name is when it is read as a ROS name. -/
inductive Demangled : String → RosName → Prop
  | topic (middle : String) : Demangled ("rt/" ++ middle) ⟨.topic, "/" ++ middle⟩
  | serviceRequest (middle : String) :
      Demangled ("rq/" ++ middle ++ "Request") ⟨.serviceRequest, "/" ++ middle⟩
  | serviceReply (middle : String) :
      Demangled ("rr/" ++ middle ++ "Reply") ⟨.serviceReply, "/" ++ middle⟩
  | notRos (ddsTopic : String) : Demangled ddsTopic {}

theorem demangled_demangleTopic (ddsTopic : String) : Demangled ddsTopic (demangleTopic ddsTopic) := by
  unfold demangleTopic
  split_ifs with htopic hrequest hreply
  · obtain ⟨rest, hrest⟩ := List.isPrefixOf_iff_prefix.mp htopic
    have hname : ddsTopic = "rt/" ++ String.ofList rest := by
      apply String.toList_inj.mp
      simpa using hrest.symm
    have hmiddle : substr ("rt/" ++ String.ofList rest ++ "") 3 0 = String.ofList rest :=
      substr_append_append "rt/" (String.ofList rest) ""
    rw [String.append_empty] at hmiddle
    rw [hname, hmiddle]
    exact .topic _
  · rw [Bool.and_eq_true] at hrequest
    obtain ⟨middle, rfl⟩ := exists_between request_head (by decide) hrequest.1 hrequest.2
    have hmiddle : substr ("rq/" ++ middle ++ "Request") 3 7 = middle :=
      substr_append_append "rq/" middle "Request"
    rw [hmiddle]
    exact .serviceRequest middle
  · rw [Bool.and_eq_true] at hreply
    obtain ⟨middle, rfl⟩ := exists_between reply_head (by decide) hreply.1 hreply.2
    have hmiddle : substr ("rr/" ++ middle ++ "Reply") 3 5 = middle :=
      substr_append_append "rr/" middle "Reply"
    rw [hmiddle]
    exact .serviceReply middle
  · exact .notRos ddsTopic

theorem Demangled.remangle_eq {ddsTopic : String} {ros : RosName} (h : Demangled ddsTopic ros)
    (hros : ros.kind ≠ .notRos) : remangle ros = ddsTopic := by
  cases h with
  | topic middle =>
    simp only [remangle]
    rw [← String.append_assoc]
    rfl
  | serviceRequest middle =>
    simp only [remangle]
    rw [← String.append_assoc]
    rfl
  | serviceReply middle =>
    simp only [remangle]
    rw [← String.append_assoc]
    rfl
  | notRos => exact absurd rfl hros

theorem eq_of_kind_of_name {first second : RosName} (hkind : first.kind = second.kind)
    (hname : first.name = second.name) : first = second := by
  cases first
  cases second
  rw [RosName.mk.injEq]
  exact ⟨hkind, hname⟩

end Topics

/-! ## Members of actions -/

section Members

theorem eq_of_splitAtLast {p s before after : List Char} (h : splitAtLast p s = some (before, after)) :
    s = before ++ p ++ after := by
  induction s generalizing before after with
  | nil => cases h
  | cons c rest ih =>
    rw [splitAtLast] at h
    cases hrest : splitAtLast p rest with
    | some parts =>
      rw [hrest] at h
      cases h
      rw [ih hrest]
      rfl
    | none =>
      rw [hrest] at h
      simp only at h
      split_ifs at h with hprefixed
      cases h
      obtain ⟨tail, htail⟩ := List.isPrefixOf_iff_prefix.mp hprefixed
      rw [← htail, List.drop_left, List.nil_append]

/-- A member is its action, the separator, and a name in one piece. -/
theorem parts_of_matched {ddsTopic ddsType : String}
    (h : (parseActionMember ddsTopic ddsType).matched = true) :
    ∃ action suffix : List Char,
      (demangleTopic ddsTopic).name.toList = action ++ "/_action/".toList ++ suffix ∧
        action ≠ [] ∧ '/' ∉ suffix ∧
        (parseActionMember ddsTopic ddsType).action = String.ofList action ∧
        (parseActionMember ddsTopic ddsType).suffix = String.ofList suffix := by
  unfold parseActionMember at h ⊢
  simp only at h ⊢
  split_ifs at h ⊢ with hkind
  · cases hsplit : splitAtLast "/_action/".toList (demangleTopic ddsTopic).name.toList with
    | none =>
      rw [hsplit] at h
      cases h
    | some parts =>
      obtain ⟨action, suffix⟩ := parts
      rw [hsplit] at h
      simp only at h ⊢
      split_ifs at h ⊢ with hparts
      · cases hspec : kMembers.find? fun m ↦
            m.kind = (demangleTopic ddsTopic).kind && m.suffix.toList = suffix with
        | none =>
          rw [hspec] at h
          cases h
        | some spec =>
          obtain ⟨-, haction, hsuffix⟩ := memberOf_name spec (String.ofList action)
            (String.ofList suffix) ddsType
          rw [Bool.or_eq_true, not_or] at hparts
          refine ⟨action, suffix, eq_of_splitAtLast hsplit, ?_, ?_, haction, hsuffix⟩
          · simpa using hparts.1
          · simpa using hparts.2

end Members

/-- Every name is read without ambiguity, and no length falls below zero on the way. -/
theorem readsUnambiguously (ddsTopic ddsType : String) : ReadsUnambiguously ddsTopic ddsType where
  remangled := (demangled_demangleTopic ddsTopic).remangle_eq
  unambiguous other hros hkind hname := by
    have hsame : demangleTopic other = demangleTopic ddsTopic := eq_of_kind_of_name hkind hname
    calc
      other = remangle (demangleTopic other) :=
        ((demangled_demangleTopic other).remangle_eq (hkind ▸ hros)).symm
      _ = remangle (demangleTopic ddsTopic) := by rw [hsame]
      _ = ddsTopic := (demangled_demangleTopic ddsTopic).remangle_eq hros
  topic_fits hstarts := by
    obtain ⟨rest, hrest⟩ := List.isPrefixOf_iff_prefix.mp hstarts
    rw [← String.length_toList, ← hrest, List.length_append]
    exact Nat.le_add_right ..
  request_fits hstarts hends := by
    obtain ⟨middle, rfl⟩ := exists_between request_head (by decide) hstarts hends
    exact length_le_of_between "rq/" middle "Request"
  reply_fits hstarts hends := by
    obtain ⟨middle, rfl⟩ := exists_between reply_head (by decide) hstarts hends
    exact length_le_of_between "rr/" middle "Reply"
  separator_fits action suffix hsplit := by
    rw [← String.length_toList, eq_of_splitAtLast hsplit, List.length_append, List.length_append]
    exact Nat.le_add_right ..
  type_fits pkg rest tail _ hends := by
    rw [← String.length_toList]
    exact (List.isSuffixOf_iff_suffix.mp hends).length_le
  action_ne h := by
    obtain ⟨action, suffix, -, hne, -, haction, -⟩ := parts_of_matched h
    rw [haction]
    intro hempty
    exact hne (String.ofList_injective hempty)
  suffix_plain h := by
    obtain ⟨action, suffix, -, -, hplain, -, hsuffix⟩ := parts_of_matched h
    rw [hsuffix, String.toList_ofList]
    exact hplain
  action_name h := by
    obtain ⟨action, suffix, hname, -, -, haction, hsuffix⟩ := parts_of_matched h
    rw [haction, hsuffix, ← String.ofList_toList (s := (demangleTopic ddsTopic).name), hname,
      String.ofList_append, String.ofList_append, String.ofList_toList]

end TransportViz.RosNames
