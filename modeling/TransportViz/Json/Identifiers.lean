import TransportViz.Json.Saved
import TransportViz.Library.IntegerFields

/-!
# The identifiers of a saved document

`hostId` and `guidBytes` are meant to undo `hostIdHex` and `guidToString`, and to refuse every other
text. The first takes whatever `std::stoul` takes of two characters; the second skips separators
wherever they stand and does not look behind the sixteenth byte. `ownEncodings_iff` says which texts
that concerns.
-/

namespace TransportViz.Json

open JsonReader

/-! ## Letter case -/

section LetterCase

/-- The characters of a text, with small letters. -/
def lower (text : String) : List Char := text.toList.map Char.toLower

theorem toLower_of_le {c : Char} (h : 128 ≤ c.toNat) : c.toLower = c := by
  have hsmall : ¬ (c.val ≥ 'A'.val ∧ c.val ≤ 'Z'.val) := by
    intro hupper
    have hle : c.toNat ≤ 90 := hupper.2
    omega
  exact dif_neg hsmall

theorem hexValue_of_le {c : Char} (h : 128 ≤ c.toNat) : hexValue c = none := by
  have hval : c.toNat = c.val.toNat := rfl
  have habove (limit : Char) (hlimit : limit.val.toNat < 128) : ¬ c ≤ limit := by
    intro hle
    have hnat : c.val.toNat ≤ limit.val.toNat := hle
    omega
  unfold hexValue
  rw [if_neg fun h ↦ habove '9' (by decide) h.2, if_neg fun h ↦ habove 'f' (by decide) h.2,
    if_neg fun h ↦ habove 'F' (by decide) h.2]

/-- What holds of the first 128 characters and of every other one. -/
theorem forall_char {P : Char → Prop} (hascii : ∀ n : Fin 128, P (Char.ofNat n))
    (hother : ∀ c : Char, 128 ≤ c.toNat → P c) (c : Char) : P c := by
  by_cases h : c.toNat < 128
  · rw [← Char.ofNat_toNat c]
    exact hascii ⟨c.toNat, h⟩
  · exact hother c (not_lt.mp h)

theorem hexValue_toLower (c : Char) : hexValue c.toLower = hexValue c := by
  revert c
  refine forall_char (by decide +kernel) ?_
  intro c h
  rw [toLower_of_le h]

theorem toLower_eq_separator (c : Char) :
    (c.toLower = '.' ∨ c.toLower = '|') ↔ (c = '.' ∨ c = '|') := by
  revert c
  refine forall_char (by decide +kernel) ?_
  intro c h
  rw [toLower_of_le h]

/-- A digit is, but for its case, the one that is written for its value. -/
theorem hexValue_cases (c : Char) :
    hexValue c = none ∨
      ∃ digit : Fin 16, hexValue c = some digit.val ∧ c.toLower = hexDigit digit := by
  revert c
  refine forall_char (by decide +kernel) ?_
  intro c h
  exact .inl (hexValue_of_le h)

theorem toLower_eq_hexDigit {c : Char} (h : (hexValue c).isSome) :
    ∃ digit : Fin 16, hexValue c = some digit.val ∧ c.toLower = hexDigit digit := by
  refine (hexValue_cases c).resolve_left ?_
  intro hnone
  rw [hnone] at h
  cases h

theorem hexValue_hexDigit (digit : Fin 16) : hexValue (hexDigit digit) = some digit.val := by
  revert digit
  decide

end LetterCase

/-! ## Host ids -/

section HostIds

/-- The texts that the error message asks for. -/
def EightHexDigits (hex : String) : Prop :=
  hex.toList.length = 8 ∧ ∀ c ∈ hex.toList, (hexValue c).isSome

/-- Two characters that `std::stoul` takes a number from: a digit and anything, or a digit behind a
space or a sign. -/
def AcceptedPair (a b : Char) : Prop :=
  (hexValue a).isSome ∨ (isSpace a ∨ a = '+' ∨ a = '-') ∧ (hexValue b).isSome

def AcceptedPairs : List Char → Prop
  | [] => True
  | [_] => False
  | a :: b :: rest => AcceptedPair a b ∧ AcceptedPairs rest

/-- Eight characters of one byte each that are not all digits and yet are taken two by two. -/
def LooseHost (hex : String) : Prop :=
  hex.utf8ByteSize = 8 ∧ hex.toList.length = 8 ∧ AcceptedPairs hex.toList ∧ ¬ EightHexDigits hex

/-- A space or a sign is no digit. -/
theorem hexValue_of_lead {c : Char} (h : isSpace c ∨ c = '+' ∨ c = '-') : hexValue c = none := by
  simp only [isSpace, decide_eq_true_eq, List.mem_cons, List.not_mem_nil, or_false] at h
  rcases h with (rfl | rfl | rfl | rfl | rfl | rfl) | rfl | rfl <;> decide

def behindSign : List Char → List Char
  | '-' :: rest => rest
  | '+' :: rest => rest
  | text => text

/-- What `std::stoul` looks for digits in: the text behind its spaces and one sign. -/
def unsigned (s : List Char) : List Char := behindSign (s.dropWhile isSpace)

theorem behindSign_eq_self {text : List Char} (hminus : ∀ rest, text ≠ '-' :: rest)
    (hplus : ∀ rest, text ≠ '+' :: rest) : behindSign text = text := by
  unfold behindSign
  split
  · exact absurd rfl (hminus _)
  · exact absurd rfl (hplus _)
  · rfl

theorem isSome_hexNumber? (s : List Char) : (hexNumber? s).isSome = (s.head?.bind hexValue).isSome := by
  cases s with
  | nil => rfl
  | cons c rest => simp [hexNumber?]

theorem stoul_eq (s : List Char) : ∃ sign : ℤ, stoul s =
    (hexNumber? (unsigned s)).elim (.error (.other "stoul")) fun n ↦ .ok (sign * n) := by
  unfold stoul unsigned
  dsimp only
  generalize s.dropWhile isSpace = text
  split
  · rename_i rest
    refine ⟨-1, ?_⟩
    rw [behindSign]
    cases hexNumber? rest <;> rfl
  · rename_i rest
    refine ⟨1, ?_⟩
    rw [behindSign]
    cases hexNumber? rest <;> rfl
  · rename_i hminus hplus
    refine ⟨1, ?_⟩
    rw [behindSign_eq_self hminus hplus]
    cases hexNumber? text <;> rfl

theorem stoul_isOk_iff (s : List Char) :
    (∃ z, stoul s = .ok z) ↔ (((unsigned s).head?).bind hexValue).isSome := by
  obtain ⟨sign, heq⟩ := stoul_eq s
  rw [heq, ← isSome_hexNumber?]
  cases hexNumber? (unsigned s) <;> simp

theorem unsigned_of_not_lead {c : Char} (h : ¬ (isSpace c ∨ c = '+' ∨ c = '-')) (rest : List Char) :
    unsigned (c :: rest) = c :: rest := by
  obtain ⟨hspace, hsign⟩ := not_or.mp h
  obtain ⟨hplus, hminus⟩ := not_or.mp hsign
  rw [unsigned, List.dropWhile_cons_of_neg hspace]
  refine behindSign_eq_self (fun rest heq ↦ ?_) (fun rest heq ↦ ?_)
  · exact hminus (List.cons.inj heq).1
  · exact hplus (List.cons.inj heq).1

theorem unsigned_of_space {c : Char} (h : isSpace c) (rest : List Char) :
    unsigned (c :: rest) = unsigned rest := by
  rw [unsigned, List.dropWhile_cons_of_pos h, unsigned]

theorem unsigned_single (c : Char) : ((unsigned [c]).head?).bind hexValue = hexValue c := by
  by_cases hlead : isSpace c ∨ c = '+' ∨ c = '-'
  · rw [hexValue_of_lead hlead]
    rcases hlead with hspace | rfl | rfl
    · rw [unsigned_of_space hspace]
      rfl
    · rfl
    · rfl
  · rw [unsigned_of_not_lead hlead]
    rfl

theorem stoul_pair_isOk_iff (a b : Char) : (∃ z, stoul [a, b] = .ok z) ↔ AcceptedPair a b := by
  rw [stoul_isOk_iff, AcceptedPair]
  by_cases hlead : isSpace a ∨ a = '+' ∨ a = '-'
  · have hbehind : ((unsigned [a, b]).head?).bind hexValue = hexValue b := by
      rcases hlead with hspace | rfl | rfl
      · rw [unsigned_of_space hspace, unsigned_single]
      · rfl
      · rfl
    rw [hbehind, hexValue_of_lead hlead, and_iff_right hlead]
    simp
  · rw [unsigned_of_not_lead hlead]
    simp [hlead]

theorem stoul_of_not_lead {c : Char} (h : ¬ (isSpace c ∨ c = '+' ∨ c = '-')) {rest : List Char}
    {n : ℕ} (hn : hexNumber? (c :: rest) = some n) : stoul (c :: rest) = .ok n := by
  obtain ⟨hspace, hsign⟩ := not_or.mp h
  obtain ⟨hplus, hminus⟩ := not_or.mp hsign
  unfold stoul
  rw [List.dropWhile_cons_of_neg hspace]
  split
  · rename_i heq
    exact absurd (List.cons.inj heq).1 hminus
  · rename_i heq
    exact absurd (List.cons.inj heq).1 hplus
  · simp [hn]

theorem hexByte_toByte (high low : Fin 16) :
    hexByte (toByte (16 * high.val + low.val : ℕ)) = [hexDigit high, hexDigit low] := by
  revert high low
  decide +kernel

/-- Two digits are the number of the byte they are written for. -/
theorem stoul_of_digits {a b : Char} (ha : (hexValue a).isSome) (hb : (hexValue b).isSome) :
    ∃ z, stoul [a, b] = .ok z ∧ hexByte (toByte z) = [a.toLower, b.toLower] := by
  obtain ⟨high, hhigh, hupper⟩ := toLower_eq_hexDigit ha
  obtain ⟨low, hlow, hlower⟩ := toLower_eq_hexDigit hb
  have hlead : ¬ (isSpace a ∨ a = '+' ∨ a = '-') := by
    intro hlead
    rw [hexValue_of_lead hlead] at ha
    cases ha
  have hnumber : hexNumber? [a, b] = some (16 * high.val + low.val) := by
    simp [hexNumber?, hhigh, hlow]
  refine ⟨_, stoul_of_not_lead hlead hnumber, ?_⟩
  rw [hupper, hlower]
  exact hexByte_toByte high low

theorem hostId_of_toList {hex : String} (hsize : hex.utf8ByteSize = 8) {a b c d e f g h : Char}
    (hlist : hex.toList = [a, b, c, d, e, f, g, h]) :
    hostId hex = do
      let first ← stoul [a, b]
      let second ← stoul [c, d]
      let third ← stoul [e, f]
      let fourth ← stoul [g, h]
      return ⟨[toByte first, toByte second, toByte third, toByte fourth], rfl⟩ := by
  rw [hostId, if_neg (not_not.mpr hsize), hlist]

theorem length_of_hostId {hex : String} {id : HostId} (h : hostId hex = .ok id) :
    hex.toList.length = 8 := by
  unfold hostId at h
  generalize hex.toList = text at h ⊢
  split at h
  · cases h
  · rcases text with
      _ | ⟨a, _ | ⟨b, _ | ⟨c, _ | ⟨d, _ | ⟨e, _ | ⟨f, _ | ⟨g, _ | ⟨i, _ | ⟨j, rest⟩⟩⟩⟩⟩⟩⟩⟩⟩
    all_goals first | rfl | cases h

theorem size_of_hostId {hex : String} {id : HostId} (h : hostId hex = .ok id) :
    hex.utf8ByteSize = 8 := by
  unfold hostId at h
  split at h
  · cases h
  · rename_i hsize
    exact not_not.mp hsize

/-- What `hostId` accepts. -/
theorem hostId_isOk_iff (hex : String) :
    (∃ id, hostId hex = .ok id) ↔
      hex.utf8ByteSize = 8 ∧ hex.toList.length = 8 ∧ AcceptedPairs hex.toList := by
  constructor
  · rintro ⟨id, h⟩
    have hsize := size_of_hostId h
    have hlength := length_of_hostId h
    refine ⟨hsize, hlength, ?_⟩
    match hlist : hex.toList, hlength with
    | [a, b, c, d, e, f, g, i], _ =>
      rw [hostId_of_toList hsize hlist] at h
      obtain ⟨first, hfirst, h⟩ := bind_eq_ok_iff.mp h
      obtain ⟨second, hsecond, h⟩ := bind_eq_ok_iff.mp h
      obtain ⟨third, hthird, h⟩ := bind_eq_ok_iff.mp h
      obtain ⟨fourth, hfourth, -⟩ := bind_eq_ok_iff.mp h
      simp only [AcceptedPairs, ← stoul_pair_isOk_iff]
      exact ⟨⟨first, hfirst⟩, ⟨second, hsecond⟩, ⟨third, hthird⟩, ⟨fourth, hfourth⟩, trivial⟩
  · rintro ⟨hsize, hlength, hpairs⟩
    match hlist : hex.toList, hlength with
    | [a, b, c, d, e, f, g, h], _ =>
      simp only [hlist, AcceptedPairs, ← stoul_pair_isOk_iff] at hpairs
      obtain ⟨⟨first, hfirst⟩, ⟨second, hsecond⟩, ⟨third, hthird⟩, ⟨fourth, hfourth⟩, -⟩ := hpairs
      rw [hostId_of_toList hsize hlist, hfirst, hsecond, hthird, hfourth]
      exact ⟨_, rfl⟩

theorem utf8Size_of_hexValue {c : Char} (h : (hexValue c).isSome) : c.utf8Size = 1 := by
  rw [Char.utf8Size_eq_one_iff]
  by_contra hbeyond
  have hlt : 127 < c.val := UInt32.not_le.mp hbeyond
  have hle : 128 ≤ c.toNat := hlt
  rw [hexValue_of_le hle] at h
  cases h

/-- Eight digits are the text of the host id that is read from them. -/
theorem hostId_of_digits {hex : String} (h : EightHexDigits hex) :
    ∃ id, hostId hex = .ok id ∧ lower hex = (hostIdHex id).toList := by
  obtain ⟨hlength, hdigits⟩ := h
  match hlist : hex.toList, hlength with
  | [a, b, c, d, e, f, g, h], _ =>
    simp only [hlist, List.forall_mem_cons] at hdigits
    obtain ⟨ha, hb, hc, hd, he, hf, hg, hh, -⟩ := hdigits
    obtain ⟨first, hfirst, hfirst'⟩ := stoul_of_digits ha hb
    obtain ⟨second, hsecond, hsecond'⟩ := stoul_of_digits hc hd
    obtain ⟨third, hthird, hthird'⟩ := stoul_of_digits he hf
    obtain ⟨fourth, hfourth, hfourth'⟩ := stoul_of_digits hg hh
    have hsize : hex.utf8ByteSize = 8 := by
      rw [← String.ofList_toList (s := hex), hlist]
      simp [utf8Size_of_hexValue, *]
    refine ⟨⟨[toByte first, toByte second, toByte third, toByte fourth], rfl⟩, ?_, ?_⟩
    · rw [hostId_of_toList hsize hlist, hfirst, hsecond, hthird, hfourth]
      rfl
    · simp [lower, hlist, hostIdHex, hfirst', hsecond', hthird', hfourth', List.Vector.toList]

end HostIds

/-! ## GUIDs -/

section Guids

/-- The texts that begin with so many pairs of digits, separators skipped before each of them, and the
bytes of the pairs. -/
inductive Spells : ℕ → List Char → List UInt8 → Prop
  | done (rest : List Char) : Spells 0 rest []
  | separator {n : ℕ} {c : Char} {rest : List Char} {bytes : List UInt8} (h : c = '.' ∨ c = '|')
      (hrest : Spells (n + 1) rest bytes) : Spells (n + 1) (c :: rest) bytes
  | pair {n : ℕ} {c d : Char} {high low : ℕ} {rest : List Char} {bytes : List UInt8}
      (hhigh : hexValue c = some high) (hlow : hexValue d = some low) (hrest : Spells n rest bytes) :
      Spells (n + 1) (c :: d :: rest) (UInt8.ofNat (16 * high + low) :: bytes)

/-- A text, not the one written for its bytes, that begins with sixteen bytes which are not all zero. -/
def LooseGuid (guid : String) : Prop :=
  ∃ bytes, Spells 16 guid.toList bytes ∧ (∃ byte ∈ bytes, byte ≠ 0) ∧
    ∀ b, lower guid ≠ (guidToString b).toList

theorem Spells.length_eq {n : ℕ} {text : List Char} {bytes : List UInt8} (h : Spells n text bytes) :
    bytes.length = n := by
  induction h with
  | done => rfl
  | separator _ _ ih => exact ih
  | pair _ _ _ ih => rw [List.length_cons, ih]

/-- The scan reads what the text begins with. -/
theorem scanGuid_of_spells {n : ℕ} {text : List Char} {bytes : List UInt8} (h : Spells n text bytes)
    (out : List UInt8) (hout : out.length + n = 16) : scanGuid text out = some (out ++ bytes) := by
  induction h generalizing out with
  | done rest =>
    rw [List.append_nil]
    unfold scanGuid
    split
    · exact if_pos hout
    · rfl
  | @separator n c rest bytes h hrest ih =>
    cases rest with
    | nil => cases hrest
    | cons d rest =>
      rw [scanGuid, if_neg (by omega), if_pos h]
      exact ih out hout
  | @pair n c d high low rest bytes hhigh hlow hrest ih =>
    have hseparator : ¬ (c = '.' ∨ c = '|') := by
      rintro (rfl | rfl) <;> cases hhigh
    rw [scanGuid, if_neg (by omega), if_neg hseparator]
    simp only [hhigh, hlow]
    rw [ih _ (by rw [List.length_append, List.length_singleton]; omega), List.append_assoc,
      List.singleton_append]

/-- Sixteen bytes that the scan returns are those that the text begins with. -/
theorem spells_of_scanGuid (text : List Char) (out result : List UInt8)
    (h : scanGuid text out = some result) (hlength : result.length = 16) :
    ∃ bytes, Spells (16 - out.length) text bytes ∧ result = out ++ bytes := by
  fun_induction scanGuid text out with
  | case1 c d rest out hout =>
    cases h
    rw [hout]
    exact ⟨[], .done _, (List.append_nil _).symm⟩
  | case2 c d rest out hout hseparator ih =>
    obtain ⟨bytes, hspells, rfl⟩ := ih h
    have hbytes := hspells.length_eq
    rw [List.length_append] at hlength
    obtain ⟨n, hn⟩ : ∃ n, 16 - out.length = n + 1 := ⟨15 - out.length, by omega⟩
    rw [hn] at hspells ⊢
    exact ⟨bytes, .separator hseparator hspells, rfl⟩
  | case3 c d rest out hout hseparator high low hlow hhigh ih =>
    obtain ⟨bytes, hspells, rfl⟩ := ih h
    have hbytes := hspells.length_eq
    simp only [List.length_append, List.length_singleton] at hlength hspells hbytes
    obtain ⟨n, hn⟩ : ∃ n, 16 - out.length = n + 1 := ⟨15 - out.length, by omega⟩
    rw [show 16 - (out.length + 1) = n by omega] at hspells
    rw [hn]
    exact ⟨_, .pair hhigh hlow hspells, by rw [List.append_assoc, List.singleton_append]⟩
  | case4 => cases h
  | case5 text out =>
    cases h
    rw [hlength]
    exact ⟨[], .done _, (List.append_nil _).symm⟩

theorem scanGuid_map_toLower (text : List Char) (out : List UInt8) :
    scanGuid (text.map Char.toLower) out = scanGuid text out := by
  fun_induction scanGuid text out with
  | case1 c d rest out hout =>
    rw [List.map_cons, List.map_cons, scanGuid, if_pos hout]
  | case2 c d rest out hout hseparator ih =>
    rw [List.map_cons, List.map_cons, scanGuid, if_neg hout,
      if_pos ((toLower_eq_separator c).mpr hseparator)]
    exact ih
  | case3 c d rest out hout hseparator high low hlow hhigh ih =>
    rw [List.map_cons, List.map_cons, scanGuid, if_neg hout,
      if_neg (mt (toLower_eq_separator c).mp hseparator)]
    simp only [hexValue_toLower, hhigh, hlow]
    exact ih
  | case4 c d rest out hout hseparator =>
    rw [List.map_cons, List.map_cons, scanGuid, if_neg hout,
      if_neg (mt (toLower_eq_separator c).mp hseparator)]
    simp only [hexValue_toLower]
  | case5 text out hshort =>
    rcases text with _ | ⟨c, _ | ⟨d, rest⟩⟩
    · rfl
    · rfl
    · exact absurd rfl (hshort c d rest)

/-! ### The written text -/

theorem hexByte_eq_of_halves (byte : UInt8) :
    UInt8.ofNat (16 * (Fin.ofNat 16 (byte.toNat / 16)).val + (Fin.ofNat 16 byte.toNat).val) = byte := by
  have hbyte := byte.toNat_lt
  apply UInt8.toNat_inj.mp
  rw [UInt8.toNat_ofNat', Fin.val_ofNat, Fin.val_ofNat]
  omega

theorem Spells.hexByte (byte : UInt8) {n : ℕ} {rest : List Char} {bytes : List UInt8}
    (h : Spells n rest bytes) : Spells (n + 1) (hexByte byte ++ rest) (byte :: bytes) := by
  have hpair := Spells.pair (hexValue_hexDigit (Fin.ofNat 16 (byte.toNat / 16)))
    (hexValue_hexDigit (Fin.ofNat 16 byte.toNat)) h
  rw [hexByte_eq_of_halves] at hpair
  exact hpair

theorem Spells.dotted (written : List UInt8) {n : ℕ} {rest : List Char} {bytes : List UInt8}
    (h : Spells n rest bytes) :
    Spells (n + written.length) ((written.flatMap fun next ↦ '.' :: TransportViz.hexByte next) ++ rest)
      (written ++ bytes) := by
  induction written with
  | nil => exact h
  | cons byte more ih =>
    rw [List.flatMap_cons, List.cons_append, List.cons_append, List.append_assoc, List.cons_append]
    exact .separator (.inl rfl) (ih.hexByte byte)

theorem Spells.dottedBytes (written : List UInt8) {n : ℕ} {rest : List Char} {bytes : List UInt8}
    (h : Spells n rest bytes) :
    Spells (n + written.length) (dottedBytes written ++ rest) (written ++ bytes) := by
  cases written with
  | nil => exact h
  | cons byte more =>
    rw [TransportViz.dottedBytes, List.append_assoc, List.cons_append]
    exact (h.dotted more).hexByte byte

theorem spells_guidToString (b : GuidBytes) : Spells 16 (guidToString b).toList b.toList := by
  have hlength : b.toList.length = 16 := b.toList_length
  have hentity := (Spells.done []).dottedBytes (b.toList.drop 12)
  rw [show 0 + (b.toList.drop 12).length = 3 + 1 by rw [List.length_drop, hlength]] at hentity
  have hguid := (Spells.separator (c := '|') (.inr rfl) hentity).dottedBytes (b.toList.take 12)
  rw [show 3 + 1 + (b.toList.take 12).length = 16 by rw [List.length_take, hlength]; rfl] at hguid
  simpa [guidToString] using hguid

theorem guidBytes_of_scanGuid {guid : String} {b : GuidBytes}
    (h : scanGuid guid.toList [] = some b.toList) : guidBytes guid = b := by
  have hlength : b.toList.length = 16 := b.toList_length
  simp only [guidBytes, h]
  exact dif_pos hlength

/-- The text that is written for a GUID, in any case, is read back. -/
theorem guidBytes_of_lower {guid : String} {b : GuidBytes} (h : lower guid = (guidToString b).toList) :
    guidBytes guid = b := by
  refine guidBytes_of_scanGuid ?_
  calc
    scanGuid guid.toList [] = scanGuid (lower guid) [] := (scanGuid_map_toLower _ _).symm
    _ = scanGuid (guidToString b).toList [] := by rw [h]
    _ = some b.toList := scanGuid_of_spells (spells_guidToString b) [] rfl

/-- Bytes that are not all zero are those that the text begins with. -/
theorem spells_guidBytes {guid : String} (h : guidBytes guid ≠ List.Vector.replicate 16 0) :
    Spells 16 guid.toList (guidBytes guid).toList := by
  cases hscan : scanGuid guid.toList [] with
  | none => exact absurd (by rw [guidBytes, hscan]) h
  | some out =>
    by_cases hlength : out.length = 16
    · obtain ⟨bytes, hspells, hbytes⟩ := spells_of_scanGuid _ _ _ hscan hlength
      have heq : guidBytes guid = ⟨out, hlength⟩ := guidBytes_of_scanGuid hscan
      rw [heq]
      rw [List.nil_append] at hbytes
      subst hbytes
      exact hspells
    · refine absurd ?_ h
      simp only [guidBytes, hscan]
      exact dif_neg hlength

end Guids

/-! ## Own encodings -/

/-- What `hostId` and `guidBytes` do to the host ids and the GUIDs of a document, if they undo
`hostIdHex` and `guidToString` and take nothing else. -/
structure OwnEncodings (hosts guids : List String) : Prop where
  host_iff : ∀ hex ∈ hosts, (∃ id, hostId hex = .ok id) ↔ EightHexDigits hex
  host_text : ∀ hex ∈ hosts, ∀ id, hostId hex = .ok id → lower hex = (hostIdHex id).toList
  guid_own : ∀ guid ∈ guids, ∀ b, lower guid = (guidToString b).toList → guidBytes guid = b
  guid_other : ∀ guid ∈ guids, (∀ b, lower guid ≠ (guidToString b).toList) →
    guidBytes guid = List.Vector.replicate 16 0
  guid_distinct : ∀ first ∈ guids, ∀ second ∈ guids, lower first ≠ lower second →
    guidBytes first = guidBytes second → guidBytes first = List.Vector.replicate 16 0

theorem ne_zeros_iff (bytes : GuidBytes) :
    bytes ≠ List.Vector.replicate 16 0 ↔ ∃ byte ∈ bytes.toList, byte ≠ 0 := by
  have hzeros : bytes = List.Vector.replicate 16 0 ↔ ∀ byte ∈ bytes.toList, byte = 0 := by
    rw [← List.Vector.toList_injective.eq_iff]
    exact List.eq_replicate_iff.trans (and_iff_right bytes.toList_length)
  rw [Ne, hzeros]
  simp only [not_forall, exists_prop, ne_eq]

/-- A text that is written for no GUID gives zeros unless it is loose. -/
theorem guidBytes_eq_zeros_iff {guid : String} (h : ∀ b, lower guid ≠ (guidToString b).toList) :
    guidBytes guid = List.Vector.replicate 16 0 ↔ ¬ LooseGuid guid := by
  constructor
  · intro hzeros hloose
    obtain ⟨bytes, hspells, hnonzero, -⟩ := hloose
    have heq : guidBytes guid = ⟨bytes, hspells.length_eq⟩ :=
      guidBytes_of_scanGuid (scanGuid_of_spells hspells [] rfl)
    rw [heq] at hzeros
    exact (ne_zeros_iff ⟨bytes, hspells.length_eq⟩).mpr hnonzero hzeros
  · intro hloose
    by_contra hzeros
    exact hloose ⟨_, spells_guidBytes hzeros, (ne_zeros_iff _).mp hzeros, h⟩

/-- A text that is not loose and has bytes is the text of these bytes. -/
theorem lower_of_not_loose {guid : String} (hloose : ¬ LooseGuid guid)
    (hnonzero : guidBytes guid ≠ List.Vector.replicate 16 0) :
    lower guid = (guidToString (guidBytes guid)).toList := by
  by_contra hother
  refine hnonzero ((guidBytes_eq_zeros_iff fun b hb ↦ hother ?_).mpr hloose)
  rw [guidBytes_of_lower hb, hb]

theorem hostId_digits_iff (hex : String) :
    ((∃ id, hostId hex = .ok id) ↔ EightHexDigits hex) ↔ ¬ LooseHost hex := by
  have hdigits : EightHexDigits hex → ∃ id, hostId hex = .ok id := by
    intro h
    obtain ⟨id, hid, -⟩ := hostId_of_digits h
    exact ⟨id, hid⟩
  have hloose : LooseHost hex ↔ (∃ id, hostId hex = .ok id) ∧ ¬ EightHexDigits hex := by
    rw [hostId_isOk_iff, LooseHost, and_assoc, and_assoc]
  rw [hloose, not_and_not_right]
  exact ⟨Iff.mp, fun h ↦ ⟨h, hdigits⟩⟩

/-- Identifiers are decoded from their own encodings only, as long as no text of the document is
loose. -/
theorem ownEncodings_iff (hosts guids : List String) :
    OwnEncodings hosts guids ↔
      (∀ hex ∈ hosts, ¬ LooseHost hex) ∧ ∀ guid ∈ guids, ¬ LooseGuid guid := by
  constructor
  · intro h
    refine ⟨fun hex hmem ↦ (hostId_digits_iff hex).mp (h.host_iff hex hmem), ?_⟩
    intro guid hmem hloose
    obtain ⟨bytes, hspells, hnonzero, hother⟩ := hloose
    have hzeros := h.guid_other guid hmem hother
    exact (guidBytes_eq_zeros_iff hother).mp hzeros ⟨bytes, hspells, hnonzero, hother⟩
  · rintro ⟨hhosts, hguids⟩
    have hhost := fun hex hmem ↦ (hostId_digits_iff hex).mpr (hhosts hex hmem)
    exact {
      host_iff := hhost
      host_text := by
        intro hex hmem id hid
        obtain ⟨written, hwritten, htext⟩ := hostId_of_digits ((hhost hex hmem).mp ⟨id, hid⟩)
        rw [hwritten] at hid
        cases hid
        exact htext
      guid_own := fun guid _ b hb ↦ guidBytes_of_lower hb
      guid_other := fun guid hmem hother ↦ (guidBytes_eq_zeros_iff hother).mpr (hguids guid hmem)
      guid_distinct := by
        intro first hfirst second hsecond hne heq
        by_contra hnonzero
        apply hne
        rw [lower_of_not_loose (hguids first hfirst) hnonzero,
          lower_of_not_loose (hguids second hsecond) (heq ▸ hnonzero), heq] }

/-- Signs in a host id, and a byte too many behind a GUID. -/
theorem looseTexts_not_ownEncodings :
    ¬ OwnEncodings ["+1+1+1+1"] [] ∧
      ¬ OwnEncodings [] ["01.0f.07.07.01.00.00.00.01.00.00.00|00.00.01.03",
        "01.0f.07.07.01.00.00.00.01.00.00.00|00.00.01.03.04"] := by
  constructor
  · intro h
    have hread : hostId "+1+1+1+1" = .ok ⟨[1, 1, 1, 1], rfl⟩ := by decide +kernel
    have hdigits := (h.host_iff _ (List.mem_singleton.mpr rfl)).mp ⟨_, hread⟩
    exact absurd (hdigits.2 '+' (by decide)) (by decide)
  · intro h
    have hzeros := h.guid_distinct _ List.mem_cons_self _ (List.mem_cons_of_mem _ List.mem_cons_self)
      (by decide) (by decide +kernel)
    exact absurd hzeros (by decide +kernel)

end TransportViz.Json
