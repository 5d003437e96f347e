import Mathlib.Data.List.TakeWhile
import TransportViz.Library.Delimited
import TransportViz.Library.Regex
import TransportViz.Model.Types

/-!
# The servers of `ROS_DISCOVERY_SERVER`

The entries between the semicolons are read one by one, by the first of three expressions that
matches. Every entry yields what it yields alone. Its port fits 16 bits and its kind fits its prefix,
unless it names a domain id from 233 on or a TCP prefix without a version.
-/

namespace TransportViz.DiscoveryServerEnv

open Regex Regex.Expr

/-! ## Model -/

def char (c : Char) : Expr Char := .one (· = c)

def digit : Expr Char := .one Char.isDigit

def hexDigit : Expr Char :=
  .one fun c ↦ c.isDigit || ('a' ≤ c && c ≤ 'f') || ('A' ≤ c && c ≤ 'F')

def wordChar (c : Char) : Bool := c.isAlphanum || c = '_'

/-- A colon and the second group, where they are there. -/
def portTail : Expr Char := .seq (optional (char ':')) (optional (.group 2 (plus digit)))

def ipv4 : Expr Char :=
  .seq (optional (.group 1
    (.seq (between (.seq (between digit 1 3) (char '.')) 3 3) (between digit 1 3)))) portTail

def ipv6 : Expr Char :=
  .seq (optional (char '[')) (.seq
    (.group 1 (.seq (between (.seq (between hexDigit 0 4) (char ':')) 1 7) (between hexDigit 0 4)))
    (.seq (optional (char ']')) portTail))

/-- A protocol with or without its version. -/
def protocol : Expr Char :=
  .alt (.seq (literal "UDPv".toList) (optional (.one fun c ↦ c = '4' || c = '6')))
    (.seq (literal "TCPv".toList) (optional (.one fun c ↦ c = '4' || c = '6')))

def bracketed : Expr Char :=
  .seq protocol (.seq (char ':') (.seq (char '[') (.seq
    (between (.one fun c ↦ wordChar c || c = '.' || c = ':' || c = '-') 0 63) (char ']'))))

def plainHost : Expr Char := between (.one fun c ↦ wordChar c || c = '.' || c = '-') 1 63

def named : Expr Char := .seq (.group 1 (.alt bracketed plainHost)) portTail

/-- `std::stoul` of a text of digits. -/
def stoul (text : List Char) : Option ℕ :=
  let digits := text.takeWhile Char.isDigit
  let n := digits.foldl (fun n c ↦ 10 * n + (c.toNat - '0'.toNat)) 0
  if digits = [] ∨ 2 ^ 64 ≤ n then none else some n

/-- The port of a discovery server: below 420 Fast DDS 3.x reads a domain id. -/
def toPort (text : List Char) (port : ℕ) : Option ℕ :=
  if text = [] then some port
  else
    match stoul text with
    | none => none
    | some n =>
      if 65535 < n then none
      else some (if n < 420 then 7400 + 250 * n + 2 else n)

/-- The text of a group, empty where it did not match. -/
def str (m : Groups Char) (number : ℕ) : List Char := (groupText m number).getD []

/-- The position of the first `:[`. -/
def findBracket (host : List Char) : Option ℕ :=
  host.tails.findIdx? fun rest ↦ ":[".toList.isPrefixOf rest

def protocolKind (proto : List Char) : LocatorKind :=
  if proto = "TCPv4".toList then .tcpv4
  else if proto = "TCPv6".toList then .tcpv6
  else if proto = "UDPv6".toList then .udpv6
  else .udpv4

/-- The locator of an entry, `none` for one that is skipped. -/
def entryLocator (entry : List Char) : Option Locator :=
  if entry = [] then none   -- a placeholder
  else
    match matchWhole ipv4 entry with
    | some m =>
      match groupText m 1 with
      | none => none
      | some address => (toPort (str m 2) 11811).map fun port ↦
          { kind := .udpv4, address := String.ofList address, port := port }
    | none =>
      match matchWhole ipv6 entry with
      | some m => (toPort (str m 2) 11811).map fun port ↦
          { kind := .udpv6, address := String.ofList (str m 1), port := port }
      | none =>
        match matchWhole named entry with
        | some m => (toPort (str m 2) 11811).map fun port ↦
            let host := str m 1
            match findBracket host with
            | some bracket =>
              { kind := protocolKind (host.take bracket)
                address := String.ofList ((host.drop (bracket + 2)).take (host.length - bracket - 3))
                port := port }
            | none => { kind := .udpv4, address := String.ofList host, port := port }
        | none => none

/-- The loop over the rest of the value. -/
def parseRest (rest : List Char) (out : List Locator) : List Locator :=
  let entry := rest.takeWhile (· ≠ ';')
  let out := out ++ (entryLocator entry).toList
  match h : rest.dropWhile (· ≠ ';') with
  | [] => out
  | _ :: next =>
    have : next.length < rest.length := by
      have hle := (List.dropWhile_suffix (· ≠ ';') (l := rest)).length_le
      rw [h, List.length_cons] at hle
      exact hle
    parseRest next out
  termination_by rest.length

def parseDiscoveryServerEnv (value : String) : List Locator := parseRest value.toList []

/-! ## Specification -/

/-- What stands between the semicolons. -/
def entries (value : String) : List String := (value.toList.splitOn ';').map String.ofList

/-- The entry is written with one of the protocols. -/
def Prefixed (protocols : List String) (entry : String) : Prop :=
  ∃ proto ∈ protocols, (proto ++ ":[").toList <+: entry.toList

/-- Every locator is usable, and comes from its own entry. -/
structure Usable (value : String) : Prop where
  in_order : parseDiscoveryServerEnv value = (entries value).flatMap parseDiscoveryServerEnv
  one_each : ∀ entry ∈ entries value, (parseDiscoveryServerEnv entry).length ≤ 1
  port_range : ∀ l ∈ parseDiscoveryServerEnv value, 1 ≤ l.port ∧ l.port ≤ 65535
  tcp : ∀ entry ∈ entries value, Prefixed ["TCPv", "TCPv4", "TCPv6"] entry →
    ∀ l ∈ parseDiscoveryServerEnv entry, l.kind = .tcpv4 ∨ l.kind = .tcpv6
  udp : ∀ entry ∈ entries value, Prefixed ["UDPv", "UDPv4", "UDPv6"] entry →
    ∀ l ∈ parseDiscoveryServerEnv entry, l.kind = .udpv4 ∨ l.kind = .udpv6

/-- The groups of the first expression that matches, unless it is an IPv4 one without an address. -/
def groupsOf (entry : String) : Option (Groups Char) :=
  match matchWhole ipv4 entry.toList with
  | some m => if (groupText m 1).isSome then some m else none
  | none => (matchWhole ipv6 entry.toList).or (matchWhole named entry.toList)

/-- The entry names a domain whose port does not fit 16 bits. -/
def DomainBeyond (entry : String) : Prop :=
  ∃ m, groupsOf entry = some m ∧ ∃ n, stoul (str m 2) = some n ∧ 233 ≤ n ∧ n < 420

/-- The entry names no port, or a number up to 65535. -/
def PortNumber (entry : String) : Prop :=
  ∃ m, groupsOf entry = some m ∧ (str m 2 = [] ∨ ∃ n, stoul (str m 2) = some n ∧ n ≤ 65535)

/-- The entry is written with a TCP prefix without a version. -/
def BareTcp (entry : String) : Prop := Prefixed ["TCPv"] entry ∧ PortNumber entry

/-! ## The entries -/

section Loop

variable (rest : List Char) (out : List Locator)

theorem semicolon_notMem : ';' ∉ rest.takeWhile (· ≠ ';') := fun hmem ↦ by
  simpa using List.mem_takeWhile_imp hmem

/-- The last entry has no semicolon behind it. -/
theorem splitOn_of_nil (h : rest.dropWhile (· ≠ ';') = []) :
    rest.splitOn ';' = [rest.takeWhile (· ≠ ';')] := by
  have hparts := List.takeWhile_append_dropWhile (p := (· ≠ ';')) (l := rest)
  have hnot := semicolon_notMem rest
  rw [h, List.append_nil] at hparts
  rw [hparts] at hnot ⊢
  exact List.splitOn_eq_singleton hnot

theorem splitOn_of_cons {head : Char} {next : List Char} (h : rest.dropWhile (· ≠ ';') = head :: next) :
    rest.splitOn ';' = rest.takeWhile (· ≠ ';') :: next.splitOn ';' := by
  have hparts := List.takeWhile_append_dropWhile (p := (· ≠ ';')) (l := rest)
  have hhead := List.head?_dropWhile_not (· ≠ ';') rest
  rw [h] at hparts hhead
  have hsemicolon : head = ';' := by simpa using hhead
  rw [hsemicolon] at hparts
  conv_lhs => rw [← hparts, List.splitOn_append_cons_self_of_not_mem (semicolon_notMem rest)]

theorem parseRest_of_nil (h : rest.dropWhile (· ≠ ';') = []) :
    parseRest rest out = out ++ (entryLocator (rest.takeWhile (· ≠ ';'))).toList := by
  rw [parseRest]
  split
  · rfl
  · rename_i hcons
    exact absurd (h.symm.trans hcons) (List.cons_ne_nil _ _).symm

theorem parseRest_of_cons {head : Char} {next : List Char} (h : rest.dropWhile (· ≠ ';') = head :: next) :
    parseRest rest out =
      parseRest next (out ++ (entryLocator (rest.takeWhile (· ≠ ';'))).toList) := by
  rw [parseRest]
  split
  · rename_i hnil
    exact absurd (h.symm.trans hnil) (List.cons_ne_nil _ _)
  · rename_i hcons
    rw [(List.cons.inj (h.symm.trans hcons)).2]

/-- The loop goes over the entries between the semicolons. -/
theorem parseRest_eq : parseRest rest out =
    out ++ (rest.splitOn ';').flatMap fun entry ↦ (entryLocator entry).toList := by
  induction rest, out using parseRest.induct with
  | case1 rest out hrest =>
    rw [parseRest_of_nil rest out hrest, splitOn_of_nil rest hrest, List.flatMap_singleton]
  | case2 rest out _ _ head next hrest hlt ih =>
    rw [parseRest_of_cons rest out hrest, splitOn_of_cons rest hrest, ih, List.flatMap_cons,
      List.append_assoc]

end Loop

theorem parse_eq (value : String) : parseDiscoveryServerEnv value =
    (value.toList.splitOn ';').flatMap fun entry ↦ (entryLocator entry).toList := by
  rw [parseDiscoveryServerEnv, parseRest_eq, List.nil_append]

/-- An entry by itself is a value with one entry. -/
theorem parse_entry {value entry : String} (h : entry ∈ entries value) :
    parseDiscoveryServerEnv entry = (entryLocator entry.toList).toList := by
  obtain ⟨text, htext, rfl⟩ := List.mem_map.mp h
  have hnot : ';' ∉ text := Delimited.notMem_of_mem_splitOn htext
  rw [parse_eq, String.toList_ofList, List.splitOn_eq_singleton hnot, List.flatMap_singleton]

theorem parse_eq_entries (value : String) :
    parseDiscoveryServerEnv value = (entries value).flatMap parseDiscoveryServerEnv := by
  rw [parse_eq, entries, List.flatMap_map]
  apply List.flatMap_congr
  intro text htext
  have hmem : String.ofList text ∈ entries value := List.mem_map_of_mem htext
  have hentry := parse_entry hmem
  rw [hentry, String.toList_ofList]

/-! ## The port of an entry -/

/-- A domain id from 233 on leaves the 16 bits. -/
theorem toPort_range {text : List Char} {port : ℕ} (h : toPort text 11811 = some port) :
    1 ≤ port ∧ (port ≤ 65535 ↔ ¬∃ n, stoul text = some n ∧ 233 ≤ n ∧ n < 420) := by
  rw [toPort] at h
  split_ifs at h with hempty
  · have hnone : stoul text = none := by rw [hempty]; rfl
    simp [hnone, ← Option.some_inj.mp h]
  · cases hnumber : stoul text with
    | none => simp [hnumber] at h
    | some n =>
      simp only [hnumber] at h
      split_ifs at h with hbig hdomain
      · have hport := Option.some_inj.mp h
        simp only [Option.some_inj, exists_eq_left']
        omega
      · have hport := Option.some_inj.mp h
        simp only [Option.some_inj, exists_eq_left']
        omega

theorem exists_toPort_iff {text : List Char} : (toPort text 11811).isSome ↔
    text = [] ∨ ∃ n, stoul text = some n ∧ n ≤ 65535 := by
  rw [toPort]
  split_ifs with hempty
  · simp [hempty]
  · cases hnumber : stoul text with
    | none => simp [hempty]
    | some n => by_cases hbig : 65535 < n <;> simp [hempty, hbig, Nat.le_of_not_lt]

theorem map_port_entryLocator (entry : String) : (entryLocator entry.toList).map Locator.port =
    (groupsOf entry).bind fun m ↦ toPort (str m 2) 11811 := by
  rw [entryLocator, groupsOf]
  split_ifs with hempty
  · rw [hempty]
    decide
  · cases matchWhole ipv4 entry.toList with
    | some m =>
      cases haddress : groupText m 1 with
      | none => simp [haddress]
      | some address => simp [haddress, Function.comp_def]
    | none =>
      cases matchWhole ipv6 entry.toList with
      | some m => simp [Function.comp_def]
      | none =>
        cases matchWhole named entry.toList with
        | some m =>
          have hport (port : ℕ) : Locator.port (match findBracket (str m 1) with
              | some bracket =>
                { kind := protocolKind ((str m 1).take bracket)
                  address := String.ofList
                    (((str m 1).drop (bracket + 2)).take ((str m 1).length - bracket - 3))
                  port := port }
              | none => { kind := .udpv4, address := String.ofList (str m 1), port := port }) = port := by
            cases findBracket (str m 1) <;> rfl
          simp only [Option.map_map, Option.none_or, Option.bind_some, Function.comp_def, hport,
            Option.map_id']
        | none => rfl

/-! ## The kind of an entry -/

theorem ipv4_over : ipv4.Over (· ≠ 'v') := by
  simp only [ipv4, portTail, between, Expr.optional, plus, digit, char, Over, decide_eq_true_eq]
  refine ⟨⟨⟨?_, ?_⟩, ?_⟩, ?_, ?_⟩ <;> · rintro c h rfl; exact absurd h (by decide)

theorem ipv6_over : ipv6.Over (· ≠ 'v') := by
  simp only [ipv6, portTail, between, Expr.optional, plus, digit, hexDigit, char, Over, decide_eq_true_eq]
  refine ⟨?_, ⟨⟨?_, ?_⟩, ?_⟩, ?_, ?_, ?_⟩ <;> · rintro c h rfl; exact absurd h (by decide)

theorem unbracketed_over : (Expr.seq plainHost portTail).Over (· ≠ '[') := by
  simp only [plainHost, portTail, between, Expr.optional, plus, digit, char, Over, decide_eq_true_eq]
  refine ⟨?_, ?_, ?_⟩ <;> · rintro c h rfl; exact absurd h (by decide)

def protocols : List String := ["UDPv", "UDPv4", "UDPv6", "TCPv", "TCPv4", "TCPv6"]

theorem mem_protocols {text : List Char} {groups : Groups Char} (h : Matches protocol text groups) :
    ∃ proto ∈ protocols, text = proto.toList := by
  have hversion {text : List Char} {groups : Groups Char}
      (h : Matches (optional (.one fun c ↦ c = '4' || c = '6')) text groups) :
      text = [] ∨ text = ['4'] ∨ text = ['6'] := by
    rcases matches_optional h with ⟨rfl, _⟩ | ⟨c, hc, rfl, _⟩
    · exact Or.inl rfl
    · simpa using hc
  rcases h with ⟨_, _, _, _, hname, hrest, rfl, _⟩ | ⟨_, _, _, _, hname, hrest, rfl, _⟩
  · rw [matches_literal hname]
    rcases hversion hrest with rfl | rfl | rfl
    · exact ⟨"UDPv", by simp [protocols], rfl⟩
    · exact ⟨"UDPv4", by simp [protocols], rfl⟩
    · exact ⟨"UDPv6", by simp [protocols], rfl⟩
  · rw [matches_literal hname]
    rcases hversion hrest with rfl | rfl | rfl
    · exact ⟨"TCPv", by simp [protocols], rfl⟩
    · exact ⟨"TCPv4", by simp [protocols], rfl⟩
    · exact ⟨"TCPv6", by simp [protocols], rfl⟩

theorem colon_notMem : ∀ proto ∈ protocols, ':' ∉ proto.toList := by decide

theorem v_mem : ∀ proto ∈ protocols, 'v' ∈ proto.toList := by decide

theorem tcpKind : ∀ proto ∈ ["TCPv", "TCPv4", "TCPv6"], proto ∈ protocols ∧ (proto ≠ "TCPv" →
    protocolKind proto.toList = .tcpv4 ∨ protocolKind proto.toList = .tcpv6) := by decide

theorem udpKind : ∀ proto ∈ ["UDPv", "UDPv4", "UDPv6"], proto ∈ protocols ∧
    (protocolKind proto.toList = .udpv4 ∨ protocolKind proto.toList = .udpv6) := by decide

/-- A host between brackets is the text of the first group, behind its protocol. -/
theorem named_bracketed {text : List Char} {m : Groups Char} (h : Matches named text m)
    (hmem : '[' ∈ text) :
    ∃ proto ∈ protocols, ∃ inner tail,
      str m 1 = proto.toList ++ ':' :: '[' :: inner ∧ text = str m 1 ++ tail := by
  obtain ⟨host, tail, _, groups, ⟨inner, hhost, rfl⟩, htail, rfl, rfl⟩ := h
  have hgroups : ∀ group ∈ groups, group.1 ≠ 1 := by
    intro group hgroup
    have hnumber := htail.numbers group hgroup
    have htwo : group.1 = 2 := by simpa [portTail, Expr.optional, plus, digit, char, numbers] using hnumber
    omega
  have hstr : str (inner ++ [(1, host)] ++ groups) 1 = host := by
    rw [str, groupText_append hgroups, Option.getD_some]
  rw [hstr]
  rcases hhost with hbracketed | hplain
  · obtain ⟨proto, _, _, _, hproto, ⟨_, _, _, _, ⟨_, hcolon, rfl, _⟩, ⟨_, rest, _, _, ⟨_, hopen, rfl, _⟩, _, rfl, _⟩,
      rfl, _⟩, rfl, _⟩ := hbracketed
    obtain ⟨name, hname, rfl⟩ := mem_protocols hproto
    refine ⟨name, hname, rest, tail, ?_, rfl⟩
    rw [of_decide_eq_true hcolon, of_decide_eq_true hopen]
    rfl
  · have hover := Matches.forall_mem unbracketed_over
      (⟨host, tail, _, _, hplain, htail, rfl, rfl⟩ : Matches (.seq plainHost portTail) _ _)
    exact absurd rfl (hover '[' hmem)

theorem findBracket_eq {proto rest : List Char} (h : ':' ∉ proto) :
    findBracket (proto ++ ':' :: '[' :: rest) = some proto.length := by
  induction proto with
  | nil => simp [findBracket, List.tails, List.findIdx?_cons]
  | cons c more ih =>
    rw [List.mem_cons, not_or] at h
    have hrest := ih h.2
    have hhead : ":[".toList.isPrefixOf (c :: (more ++ ':' :: '[' :: rest)) = false := by
      simp [List.isPrefixOf, h.1]
    rw [findBracket] at hrest ⊢
    rw [List.cons_append, List.tails, List.findIdx?_cons, hhead, if_neg Bool.false_ne_true, hrest]
    rfl

theorem matchWhole_eq_none_of_over {r : Expr Char} (hover : r.Over (· ≠ 'v')) {text : List Char}
    (h : 'v' ∈ text) : matchWhole r text = none := by
  rw [matchWhole_eq_none_iff]
  intro m hmatches
  exact hmatches.forall_mem hover 'v' h rfl

/-- The kind of a prefixed entry is the one of its protocol. -/
theorem kind_of_prefixed {entry proto : String} (hproto : proto ∈ protocols)
    (hbegins : (proto ++ ":[").toList <+: entry.toList) {l : Locator}
    (h : entryLocator entry.toList = some l) : l.kind = protocolKind proto.toList := by
  obtain ⟨rest, hrest⟩ := hbegins
  rw [String.toList_append, List.append_assoc] at hrest
  have hv : 'v' ∈ entry.toList := by
    rw [← hrest, List.mem_append]
    exact Or.inl (v_mem proto hproto)
  have hopen : '[' ∈ entry.toList := by
    rw [← hrest]
    simp
  have hempty : entry.toList ≠ [] := List.ne_nil_of_mem hv
  rw [entryLocator, if_neg hempty, matchWhole_eq_none_of_over ipv4_over hv,
    matchWhole_eq_none_of_over ipv6_over hv] at h
  cases hnamed : matchWhole named entry.toList with
  | none => simp [hnamed] at h
  | some m =>
    obtain ⟨name, hname, inner, tail, hhost, htext⟩ :=
      named_bracketed (matches_of_matchWhole hnamed) hopen
    have hbracket : findBracket (name.toList ++ ':' :: '[' :: inner) = some name.toList.length :=
      findBracket_eq (colon_notMem name hname)
    rw [← hhost] at hbracket
    have hsame : proto.toList = name.toList := by
      rw [hhost, ← hrest, List.append_assoc] at htext
      have hcolons := Delimited.eq_of_append_cons_left (colon_notMem proto hproto)
        (colon_notMem name hname) htext
      exact hcolons.1
    simp only [hnamed, hbracket, Option.map_eq_some_iff] at h
    obtain ⟨port, _, rfl⟩ := h
    rw [hsame, hhost, List.take_left]

theorem isSome_entryLocator_iff (entry : String) :
    (entryLocator entry.toList).isSome ↔ PortNumber entry := by
  have hport := congrArg Option.isSome (map_port_entryLocator entry)
  rw [Option.isSome_map] at hport
  rw [hport, PortNumber]
  cases groupsOf entry with
  | none => simp
  | some m => simp [← exists_toPort_iff]

theorem port_of_entryLocator {entry : String} {l : Locator} (h : entryLocator entry.toList = some l) :
    1 ≤ l.port ∧ (l.port ≤ 65535 ↔ ¬DomainBeyond entry) := by
  have hport := map_port_entryLocator entry
  rw [h, Option.map_some] at hport
  obtain ⟨m, hgroups, hm⟩ := Option.bind_eq_some_iff.mp hport.symm
  have hrange := toPort_range hm
  simpa [DomainBeyond, hgroups] using hrange

/-- A domain id below 420 has a port. -/
theorem DomainBeyond.portNumber {entry : String} (h : DomainBeyond entry) : PortNumber entry := by
  obtain ⟨m, hgroups, n, hn, _, hlt⟩ := h
  exact ⟨m, hgroups, Or.inr ⟨n, hn, by omega⟩⟩

/-! ## Usable locators -/

theorem mem_parse_iff {value : String} {l : Locator} : l ∈ parseDiscoveryServerEnv value ↔
    ∃ entry ∈ entries value, entryLocator entry.toList = some l := by
  rw [parse_eq_entries, List.mem_flatMap]
  apply exists_congr
  intro entry
  apply and_congr_right
  intro hentry
  rw [parse_entry hentry, Option.mem_toList]

theorem mem_parse_entry_iff {value entry : String} (hentry : entry ∈ entries value) {l : Locator} :
    l ∈ parseDiscoveryServerEnv entry ↔ entryLocator entry.toList = some l := by
  rw [parse_entry hentry, Option.mem_toList]

/-- Every locator is usable exactly when no entry names a domain from 233 on or a bare TCP prefix. -/
theorem usable_iff (value : String) :
    Usable value ↔ ∀ entry ∈ entries value, ¬DomainBeyond entry ∧ ¬BareTcp entry := by
  constructor
  · intro h entry hentry
    constructor
    · intro hbeyond
      obtain ⟨l, hl⟩ :=
        Option.isSome_iff_exists.mp ((isSome_entryLocator_iff entry).mpr hbeyond.portNumber)
      have hrange := h.port_range l (mem_parse_iff.mpr ⟨entry, hentry, hl⟩)
      exact (port_of_entryLocator hl).2.mp hrange.2 hbeyond
    · intro hbare
      obtain ⟨l, hl⟩ := Option.isSome_iff_exists.mp ((isSome_entryLocator_iff entry).mpr hbare.2)
      obtain ⟨proto, hproto, hbegins⟩ := hbare.1
      rw [List.mem_singleton] at hproto
      have hkind := kind_of_prefixed (by simp [protocols, hproto]) hbegins hl
      have htcp := h.tcp entry hentry ⟨proto, by simp [hproto], hbegins⟩ l
        ((mem_parse_entry_iff hentry).mpr hl)
      rw [hkind, hproto] at htcp
      exact absurd htcp (by decide)
  · intro h
    refine ⟨parse_eq_entries value, ?_, ?_, ?_, ?_⟩
    · intro entry hentry
      rw [parse_entry hentry]
      exact Option.length_toList_le
    · intro l hl
      obtain ⟨entry, hentry, hlocator⟩ := mem_parse_iff.mp hl
      obtain ⟨hpos, hle⟩ := port_of_entryLocator hlocator
      exact ⟨hpos, hle.mpr (h entry hentry).1⟩
    · rintro entry hentry ⟨proto, hproto, hbegins⟩ l hl
      obtain ⟨hmem, hkind⟩ := tcpKind proto hproto
      rw [mem_parse_entry_iff hentry] at hl
      have hport := (isSome_entryLocator_iff entry).mp (Option.isSome_of_eq_some hl)
      rw [kind_of_prefixed hmem hbegins hl]
      apply hkind
      rintro rfl
      exact (h entry hentry).2 ⟨⟨"TCPv", List.mem_singleton_self _, hbegins⟩, hport⟩
    · rintro entry hentry ⟨proto, hproto, hbegins⟩ l hl
      obtain ⟨hmem, hkind⟩ := udpKind proto hproto
      rw [mem_parse_entry_iff hentry] at hl
      rw [kind_of_prefixed hmem hbegins hl]
      exact hkind

/-- The port of domain 300 does not fit 16 bits. -/
theorem domain300_not_usable :
    parseDiscoveryServerEnv "10.0.0.1:300" = [{ kind := .udpv4, address := "10.0.0.1", port := 82402 }] ∧
      ¬Usable "10.0.0.1:300" := by
  have hparse : parseDiscoveryServerEnv "10.0.0.1:300" =
      [{ kind := .udpv4, address := "10.0.0.1", port := 82402 }] := by
    rw [parse_eq]
    decide
  refine ⟨hparse, fun h ↦ ?_⟩
  have hrange := h.port_range _ (hparse ▸ List.mem_singleton_self _)
  exact absurd hrange.2 (by decide)

example : parseDiscoveryServerEnv "TCPv:[server.local]:42100" =
    [{ kind := .udpv4, address := "server.local", port := 42100 }] := by
  rw [parse_eq]
  decide

end TransportViz.DiscoveryServerEnv
