import Mathlib.Data.String.Basic

/-!
# ROS 2 names behind DDS names

`demangleTopic` reads the name conventions of `rt/`, `rq/…Request` and `rr/…Reply` topics;
`parseActionMember` recognises the eight topics an action is made of.
-/

namespace TransportViz

inductive RosEntityKind
  | notRos
  /-- rt/name -/
  | topic
  /-- rq/nameRequest -/
  | serviceRequest
  /-- rr/nameReply -/
  | serviceReply
  deriving DecidableEq

structure RosName where
  kind : RosEntityKind := .notRos
  name : String := ""
  deriving DecidableEq

namespace RosNames

def startsWith (s p : String) : Bool := p.toList.isPrefixOf s.toList

def endsWith (s p : String) : Bool := p.toList.isSuffixOf s.toList

/-- `s.substr(start, s.size() - start - tail)`. -/
def substr (s : String) (start tail : ℕ) : String :=
  String.ofList ((s.toList.drop start).take (s.toList.length - start - tail))

/-- What stands before and after the first occurrence of `p`, which is not empty. -/
def splitAtFirst (p : List Char) : List Char → Option (List Char × List Char)
  | [] => none
  | c :: rest =>
      if p.isPrefixOf (c :: rest) then some ([], (c :: rest).drop p.length)
      else (splitAtFirst p rest).map fun parts ↦ (c :: parts.1, parts.2)

/-- What stands before and after the last occurrence of `p`, which is not empty. -/
def splitAtLast (p : List Char) : List Char → Option (List Char × List Char)
  | [] => none
  | c :: rest =>
      match splitAtLast p rest with
      | some parts => some (c :: parts.1, parts.2)
      | none =>
          if p.isPrefixOf (c :: rest) then some ([], (c :: rest).drop p.length) else none

def demangleTopic (ddsTopic : String) : RosName :=
  if startsWith ddsTopic "rt/" then ⟨.topic, "/" ++ substr ddsTopic 3 0⟩
  else if startsWith ddsTopic "rq/" && endsWith ddsTopic "Request" then
    ⟨.serviceRequest, "/" ++ substr ddsTopic 3 7⟩
  else if startsWith ddsTopic "rr/" && endsWith ddsTopic "Reply" then
    ⟨.serviceReply, "/" ++ substr ddsTopic 3 5⟩
  else {}

/-- The action type out of a member that names it, empty when the type is not that member's. -/
def actionTypeFrom (ddsType tail : String) : String :=
  match splitAtFirst "::action::dds_::".toList ddsType.toList with
  | none => ""
  | some (pkg, rest) =>
      if pkg.isEmpty || pkg.contains ':' then ""
      else if ¬tail.toList.isSuffixOf rest ∨ rest.length = tail.toList.length then ""
      else String.ofList pkg ++ "/action/" ++
        String.ofList (rest.take (rest.length - tail.toList.length))

structure MemberSpec where
  suffix : String
  kind : RosEntityKind
  /-- A tail after "::action::dds_::", or the whole type when the member names no action. -/
  type : String
  namesAction : Bool

/-- `send_goal`, `get_result` and `feedback` name the action; `cancel_goal` and `status` carry the
`action_msgs` types every action shares. -/
def kMembers : List MemberSpec :=
  [⟨"send_goal", .serviceRequest, "_SendGoal_Request_", true⟩,
    ⟨"send_goal", .serviceReply, "_SendGoal_Response_", true⟩,
    ⟨"get_result", .serviceRequest, "_GetResult_Request_", true⟩,
    ⟨"get_result", .serviceReply, "_GetResult_Response_", true⟩,
    ⟨"feedback", .topic, "_FeedbackMessage_", true⟩,
    ⟨"cancel_goal", .serviceRequest, "action_msgs::srv::dds_::CancelGoal_Request_", false⟩,
    ⟨"cancel_goal", .serviceReply, "action_msgs::srv::dds_::CancelGoal_Response_", false⟩,
    ⟨"status", .topic, "action_msgs::msg::dds_::GoalStatusArray_", false⟩]

structure ActionMember where
  matched : Bool := false
  action : String := ""
  suffix : String := ""
  typeOk : Bool := false
  actionType : String := ""
  deriving DecidableEq

def memberOf (spec : MemberSpec) (action suffix ddsType : String) : ActionMember :=
  if spec.namesAction then
    { matched := true
      action := action
      suffix := suffix
      actionType := actionTypeFrom ddsType spec.type
      typeOk := actionTypeFrom ddsType spec.type ≠ "" }
  else
    { matched := true
      action := action
      suffix := suffix
      typeOk := ddsType = spec.type }

/-- Reads `<action>/_action/<member>` at the last separator; an empty action name is none. -/
def parseActionMember (ddsTopic ddsType : String) : ActionMember :=
  let ros := demangleTopic ddsTopic
  if ros.kind = .notRos then {}
  else
    match splitAtLast "/_action/".toList ros.name.toList with
    | none => {}
    | some (action, suffix) =>
        if action.isEmpty || suffix.contains '/' then {}
        else
          match kMembers.find? fun m ↦ m.kind = ros.kind && m.suffix.toList = suffix with
          | none => {}
          | some spec => memberOf spec (String.ofList action) (String.ofList suffix) ddsType

/-- The name alone says whether a topic is an action's member, and which one. -/
theorem parseActionMember_cases (ddsTopic : String) :
    (∀ ddsType, parseActionMember ddsTopic ddsType = {}) ∨
      ∃ spec action suffix, ∀ ddsType,
        parseActionMember ddsTopic ddsType = memberOf spec action suffix ddsType := by
  unfold parseActionMember
  simp only
  split_ifs with hkind
  · exact .inl fun _ ↦ rfl
  · cases splitAtLast "/_action/".toList (demangleTopic ddsTopic).name.toList with
    | none => exact .inl fun _ ↦ rfl
    | some parts =>
      simp only
      split_ifs
      · exact .inl fun _ ↦ rfl
      · cases kMembers.find? fun m ↦
            m.kind = (demangleTopic ddsTopic).kind && m.suffix.toList = parts.2 with
        | none => exact .inl fun _ ↦ rfl
        | some spec => exact .inr ⟨spec, _, _, fun _ ↦ rfl⟩

theorem memberOf_name (spec : MemberSpec) (action suffix ddsType : String) :
    (memberOf spec action suffix ddsType).matched = true ∧
      (memberOf spec action suffix ddsType).action = action ∧
      (memberOf spec action suffix ddsType).suffix = suffix := by
  unfold memberOf
  split_ifs <;> exact ⟨rfl, rfl, rfl⟩

/-- What a member names is never empty where the member has to name something. -/
theorem actionType_memberOf {spec : MemberSpec} {action suffix first second : String}
    (hfirst : (memberOf spec action suffix first).actionType ≠ "")
    (hsecond : (memberOf spec action suffix second).typeOk = true) :
    (memberOf spec action suffix second).actionType ≠ "" := by
  unfold memberOf at hfirst hsecond ⊢
  cases hnames : spec.namesAction with
  | false => simp [hnames] at hfirst
  | true => simpa [hnames] using hsecond

/-! ## Node names -/

/-- What the rmw reports for an endpoint whose `ros_discovery_info` it has not received. -/
def kUnknownNodeName : String := "_NODE_NAMESPACE_UNKNOWN_/_NODE_NAME_UNKNOWN_"

/-- An empty name keeps unresolved endpoints apart. -/
def normalizeNodeName (name : String) : String := if name = kUnknownNodeName then "" else name

theorem normalizeNodeName_normalizeNodeName (name : String) :
    normalizeNodeName (normalizeNodeName name) = normalizeNodeName name := by
  unfold normalizeNodeName
  split_ifs <;> rfl

example : demangleTopic "rq/add_two_intsRequest" = ⟨.serviceRequest, "/add_two_ints"⟩ := by decide

example : (parseActionMember "rt/fibonacci/_action/feedback"
    "example_interfaces::action::dds_::Fibonacci_FeedbackMessage_").actionType =
      "example_interfaces/action/Fibonacci" := by decide

end RosNames

end TransportViz
