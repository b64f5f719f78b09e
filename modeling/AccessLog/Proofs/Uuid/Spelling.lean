import AccessLog.Proofs.Uuid

/-!
# Spellings of an identifier

What is read as an identifier is just what spells it: 32 hexadecimal digits of either letter case, as they are,
or in hyphenated groups, or these in braces or after the URN mark.
-/

namespace AccessLog

namespace Uuid

def alphabet : List Char := "0123456789abcdef".toList

/-- The number that hexadecimal digits denote on top of `n`, whatever their letter case. -/
def number (n : Nat) (digits : List Char) : Nat :=
  digits.foldl (fun n c => n * 16 + alphabet.idxOf c.toLower) n

structure Digits (u : Uuid) (digits : List Char) : Prop where
  length_eq : digits.length = 32
  mem_alphabet : ∀ c ∈ digits, c.toLower ∈ alphabet
  number_eq : number 0 digits = u.value

inductive Spelling (u : Uuid) : List Char → Prop where
  | simple {digits : List Char} : Digits u digits → Spelling u digits
  | hyphenated {digits : List Char} : Digits u digits → Spelling u (grouped digits)
  | braced {digits : List Char} : Digits u digits → Spelling u ('\x7b' :: (grouped digits ++ ['\x7d']))
  | urn {digits mark : List Char} : Digits u digits → mark.map Char.toLower = "urn:uuid:".toList →
      Spelling u (mark ++ grouped digits)

/-- The canonical text: lower-case digits in hyphenated groups. -/
def Canonical (u : Uuid) (text : String) : Prop :=
  ∃ digits, Digits u digits ∧ (∀ c ∈ digits, c ∈ alphabet) ∧ text.toList = grouped digits

theorem Canonical.spelling {u : Uuid} {text : String} (h : u.Canonical text) :
    Spelling u text.toList := by
  obtain ⟨digits, hd, -, ht⟩ := h
  rw [ht]
  exact .hyphenated hd

def byteChar (b : UInt8) : Char := Char.ofNat b.toNat

theorem forall_mem_of_all {l : List Char} {P : Char → Prop} [DecidablePred P]
    (h : l.all (fun c => P c) = true) : ∀ c ∈ l, P c :=
  fun c hc => of_decide_eq_true (List.all_eq_true.mp h c hc)

theorem forall_byte {P : UInt8 → Prop} (h : ∀ n < 256, P (UInt8.ofNat n)) (b : UInt8) : P b := by
  have := h b.toNat b.toNat_lt_size
  rwa [UInt8.ofNat_toNat] at this

theorem asciiByte_byteChar (b : UInt8) : asciiByte (byteChar b) = b := by
  revert b
  apply forall_byte
  decide +kernel

theorem byteChar_asciiByte {c : Char} (h : c.toNat < 0x80) : byteChar (asciiByte c) = c := by
  have hc : c = Char.ofNat c.toNat := c.ofNat_toNat.symm
  rw [byteChar, asciiByte, UInt8.toNat_ofNat', Nat.mod_eq_of_lt (by omega), ← hc]

theorem hexValue?_eq (b : UInt8) : hexValue? b =
    if (byteChar b).toLower ∈ alphabet then some (alphabet.idxOf (byteChar b).toLower) else none := by
  revert b
  apply forall_byte
  decide +kernel

theorem toLower_byteChar (b : UInt8) : (byteChar b).toLower = byteChar (smallByte b) := by
  revert b
  apply forall_byte
  decide +kernel

theorem map_asciiByte_byteChar (bytes : Bytes) : (bytes.map byteChar).map asciiByte = bytes := by
  simp [List.map_map, Function.comp_def, asciiByte_byteChar]

theorem spelled?_eq_some {n m : Nat} {bytes : Bytes} : spelled? n bytes = some m ↔
    (∀ c ∈ bytes.map byteChar, c.toLower ∈ alphabet) ∧ number n (bytes.map byteChar) = m := by
  induction bytes generalizing n with
  | nil => simp [spelled?, number]
  | cons b rest ih =>
    rw [spelled?, hexValue?_eq]
    by_cases hb : (byteChar b).toLower ∈ alphabet
    · rw [if_pos hb, Option.bind_some, ih]
      simp [hb, number]
    · simp [hb]

theorem number_lt {digits : List Char} (h : ∀ c ∈ digits, c.toLower ∈ alphabet) (n : Nat) :
    number n digits < (n + 1) * Nat.pow 16 digits.length := by
  induction digits generalizing n with
  | nil => exact Nat.lt_of_lt_of_eq (Nat.lt_succ_self n) (Nat.mul_one _).symm
  | cons c rest ih =>
    have hc : alphabet.idxOf c.toLower < 16 := List.idxOf_lt_length_of_mem (h c List.mem_cons_self)
    have hr := ih (fun d hd => h d (List.mem_cons_of_mem c hd)) (n * 16 + alphabet.idxOf c.toLower)
    refine Nat.lt_of_lt_of_le hr ?_
    calc (n * 16 + alphabet.idxOf c.toLower + 1) * Nat.pow 16 rest.length
        ≤ (n + 1) * 16 * Nat.pow 16 rest.length := Nat.mul_le_mul_right _ (by omega)
      _ = (n + 1) * Nat.pow 16 (rest.length + 1) := by
        rw [Nat.mul_assoc, Nat.mul_comm 16]; rfl

theorem toLower_ascii {c : Char} (h : c.toLower.toNat < 0x80) : c.toNat < 0x80 := by
  delta Char.toLower at h
  split at h
  · case isTrue hu => exact Nat.lt_of_le_of_lt (UInt32.le_iff_toNat_le.mp hu.2) (by decide)
  · exact h

theorem Digits.ascii {u : Uuid} {digits : List Char} (h : Digits u digits) :
    ∀ c ∈ digits, c.toNat < 0x80 := by
  have low : ∀ c ∈ alphabet, c.toNat < 0x80 := forall_mem_of_all (by decide)
  exact fun c hc => toLower_ascii (low _ (h.mem_alphabet c hc))

theorem simple?_eq_some {bytes : Bytes} (hl : bytes.length = 32) {u : Uuid} :
    simple? bytes = some u ↔ Digits u (bytes.map byteChar) := by
  rw [simple?, Option.map_eq_some_iff]
  constructor
  · rintro ⟨m, hm, rfl⟩
    obtain ⟨hx, rfl⟩ := spelled?_eq_some.mp hm
    refine ⟨by rw [List.length_map, hl], hx, ?_⟩
    have hlt := number_lt hx 0
    rw [List.length_map, hl] at hlt
    exact (Nat.mod_eq_of_lt hlt).symm
  · intro h
    exact ⟨u.value, spelled?_eq_some.mpr ⟨h.mem_alphabet, h.number_eq⟩, ofNat_value u⟩

theorem map_byteChar_asciiByte {cs : List Char} (h : ∀ c ∈ cs, c.toNat < 0x80) :
    (cs.map asciiByte).map byteChar = cs := by
  rw [List.map_map]
  exact (List.map_congr_left fun c hc => byteChar_asciiByte (h c hc)).trans (List.map_id cs)

theorem toNat_byteChar (b : UInt8) : (byteChar b).toNat = b.toNat := by
  revert b
  apply forall_byte
  decide +kernel

theorem utf8_eq_asciiBytes {s : String} (h : ∀ c ∈ s.toList, c.toNat < 0x80) : utf8 s = s.toList.map asciiByte := by
  have bytes := utf8_ofList_ascii h
  rwa [String.ofList_toList] at bytes

theorem utf8_of_ascii {s : String} (h : ∀ c ∈ s.toList, c.toNat < 0x80) :
    (utf8 s).map byteChar = s.toList := by
  rw [utf8_eq_asciiBytes h, map_byteChar_asciiByte h]

theorem hexDigit_mem_alphabet : ∀ d < 16, hexDigit d ∈ alphabet := by decide

theorem hexDigits_mem_alphabet {width n : Nat} {c : Char} (h : c ∈ hexDigits width n) :
    c ∈ alphabet := by
  induction width generalizing n with
  | zero => cases h
  | succ w ih =>
    rw [hexDigits, List.mem_append, List.mem_singleton] at h
    rcases h with h | rfl
    · exact ih h
    · exact hexDigit_mem_alphabet _ (Nat.mod_lt _ (by decide))

theorem canonical_text (u : Uuid) : u.Canonical u.text := by
  refine ⟨hexDigits 32 u.value, ?_, fun c => hexDigits_mem_alphabet, String.toList_ofList⟩
  have hs : simple? ((hexDigits 32 u.value).map asciiByte) = some u := by
    rw [simple?, spelled?_hexDigits 32 u.value u.value_lt, Option.map_some, ofNat_value]
  have hd := (simple?_eq_some (by simp)).mp hs
  rwa [map_byteChar_asciiByte fun c => hexDigits_ascii] at hd

theorem toLower_alphabet : ∀ c ∈ alphabet, c.toLower = c := forall_mem_of_all (by decide)

theorem idxOf_alphabet_inj {c d : Char} (hc : c ∈ alphabet) (hd : d ∈ alphabet)
    (h : alphabet.idxOf c = alphabet.idxOf d) : c = d := by
  have hi := List.idxOf_lt_length_of_mem hc
  have hj := List.idxOf_lt_length_of_mem hd
  calc c = alphabet[alphabet.idxOf c] := (List.getElem_idxOf hi).symm
    _ = alphabet[alphabet.idxOf d] := getElem_congr_idx h
    _ = d := List.getElem_idxOf hj

theorem number_inj {a b : List Char} (hl : a.length = b.length) (ha : ∀ c ∈ a, c ∈ alphabet)
    (hb : ∀ c ∈ b, c ∈ alphabet) {n m : Nat} (h : number n a = number m b) : n = m ∧ a = b := by
  induction a generalizing b n m with
  | nil =>
    obtain rfl := List.eq_nil_of_length_eq_zero hl.symm
    exact ⟨h, rfl⟩
  | cons c rest ih =>
    cases b with
    | nil => cases hl
    | cons d rest' =>
      have hc := ha c List.mem_cons_self
      have hd := hb d List.mem_cons_self
      obtain ⟨hn, rfl⟩ := ih (Nat.succ.inj hl) (fun x hx => ha x (List.mem_cons_of_mem c hx))
        (fun x hx => hb x (List.mem_cons_of_mem d hx)) h
      simp only [toLower_alphabet c hc, toLower_alphabet d hd] at hn
      have hi : alphabet.idxOf c < 16 := List.idxOf_lt_length_of_mem hc
      have hj : alphabet.idxOf d < 16 := List.idxOf_lt_length_of_mem hd
      obtain rfl := idxOf_alphabet_inj hc hd (by omega)
      exact ⟨by omega, rfl⟩

theorem Canonical.eq_text {u : Uuid} {text : String} (h : u.Canonical text) : text = u.text := by
  obtain ⟨digits, hd, ha, ht⟩ := h
  obtain ⟨digits', hd', ha', ht'⟩ := u.canonical_text
  have hn : number 0 digits = number 0 digits' := hd.number_eq.trans hd'.number_eq.symm
  have he := (number_inj (hd.length_eq.trans hd'.length_eq.symm) ha ha' hn).2
  rw [← String.ofList_toList (s := text), ht, he, ← ht', String.ofList_toList]

theorem groups_of_ungrouped? {bytes digits : Bytes} (h : ungrouped? bytes = some digits) :
    ∃ a b c d e, a.length = 8 ∧ b.length = 4 ∧ c.length = 4 ∧ d.length = 4 ∧ e.length = 12 ∧
      bytes = a ++ hyphen :: (b ++ hyphen :: (c ++ hyphen :: (d ++ hyphen :: e))) ∧
      digits = a ++ b ++ c ++ d ++ e := by
  rw [ungrouped?] at h
  split at h
  · case isTrue hs =>
    obtain ⟨hl, h8, h13, h18, h23⟩ := hs
    have cut : ∀ i n, bytes[i + n]? = some hyphen →
        bytes.drop i = (bytes.drop i).take n ++ hyphen :: bytes.drop (i + n + 1) := by
      intro i n hn
      obtain ⟨hi, hn⟩ := List.getElem?_eq_some_iff.mp hn
      rw [← hn, ← List.drop_eq_getElem_cons hi, ← List.drop_drop, List.take_append_drop]
    refine ⟨bytes.take 8, (bytes.drop 9).take 4, (bytes.drop 14).take 4, (bytes.drop 19).take 4,
      bytes.drop 24, ?_, ?_, ?_, ?_, ?_, ?_, (Option.some.inj h).symm⟩
    · simp [hl]
    · simp [hl]
    · simp [hl]
    · simp [hl]
    · simp [hl]
    · rw [← cut 19 4 h23, ← cut 14 4 h18, ← cut 9 4 h13]
      exact cut 0 8 h8
  · cases h

theorem grouped_groups {a b c d e : List Char} (ha : a.length = 8) (hb : b.length = 4)
    (hc : c.length = 4) (hd : d.length = 4) :
    grouped (a ++ b ++ c ++ d ++ e) =
      a ++ '-' :: (b ++ '-' :: (c ++ '-' :: (d ++ '-' :: e))) := by
  simp [grouped, ha, hb, hc, hd, List.take_append, List.drop_append]
  simp (disch := omega) [List.drop_of_length_le]

theorem hyphenated?_eq_some {bytes : Bytes} {u : Uuid} : hyphenated? bytes = some u ↔
    ∃ digits, Digits u digits ∧ bytes.map byteChar = grouped digits := by
  rw [hyphenated?, Option.bind_eq_some_iff]
  constructor
  · rintro ⟨digits, hg, hs⟩
    obtain ⟨a, b, c, d, e, ha, hb, hc, hd, he, rfl, rfl⟩ := groups_of_ungrouped? hg
    refine ⟨_, (simple?_eq_some (by simp [ha, hb, hc, hd, he])).mp hs, ?_⟩
    have hh : byteChar hyphen = '-' := rfl
    simp only [List.map_append, List.map_cons, hh]
    rw [grouped_groups (by simp [ha]) (by simp [hb]) (by simp [hc]) (by simp [hd])]
  · rintro ⟨digits, hd, hb⟩
    have hb' : bytes = (grouped digits).map asciiByte := by rw [← hb, map_asciiByte_byteChar]
    have hx : (digits.map asciiByte).map byteChar = digits := map_byteChar_asciiByte hd.ascii
    refine ⟨digits.map asciiByte, by rw [hb', ungrouped?_grouped hd.length_eq], ?_⟩
    exact (simple?_eq_some (by simp [hd.length_eq])).mpr (by rwa [hx])

theorem orDiagnose_eq_ok {o : Option Uuid} {shape : Shape} {bytes : Bytes} {u : Uuid} :
    orDiagnose o shape bytes = .ok u ↔ o = some u := by
  cases o <;> simp [orDiagnose]

theorem byteChar_inj {a b : Bytes} (h : a.map byteChar = b.map byteChar) : a = b := by
  rw [← map_asciiByte_byteChar a, h, map_asciiByte_byteChar]

theorem braced_eq {bytes : Bytes} (hl : bytes.length = 38) (h : isBraced bytes = true) :
    bytes = 123 :: ((bytes.drop 1).dropLast ++ [125]) := by
  cases bytes with
  | nil => cases hl
  | cons b rest =>
    obtain ⟨hb, ht⟩ : b = 123 ∧ (b :: rest).getLast? = some 125 := by simpa [isBraced] using h
    have hr : rest ≠ [] := by rintro rfl; cases hl
    have ht : rest.getLast hr = 125 := by
      simpa [List.getLast?_cons, List.getLast?_eq_some_getLast hr] using ht
    rw [hb, List.drop_one, List.tail_cons, ← ht, List.dropLast_concat_getLast]

theorem startsWithUrn_iff {mark rest : Bytes} (hl : mark.length = 9) :
    startsWithUrn (mark ++ rest) = true ↔
      (mark.map byteChar).map Char.toLower = "urn:uuid:".toList := by
  have hu : urnMark.map byteChar = "urn:uuid:".toList := by decide
  have hm : (mark.map byteChar).map Char.toLower = (mark.map smallByte).map byteChar := by
    simp only [List.map_map, Function.comp_def, toLower_byteChar]
  rw [startsWithUrn, beq_iff_eq, List.take_left' hl, hm, ← hu]
  exact ⟨congrArg _, byteChar_inj⟩

theorem spelling_of_parseBytes {bytes : Bytes} {u : Uuid} (h : parseBytes bytes = .ok u) :
    Spelling u (bytes.map byteChar) := by
  rw [parseBytes] at h
  split at h
  · case isTrue hl => exact .simple ((simple?_eq_some hl).mp (orDiagnose_eq_ok.mp h))
  split at h
  · obtain ⟨digits, hd, hb⟩ := hyphenated?_eq_some.mp (orDiagnose_eq_ok.mp h)
    rw [hb]
    exact .hyphenated hd
  split at h
  · case isTrue hl =>
    obtain ⟨digits, hd, hb⟩ := hyphenated?_eq_some.mp (orDiagnose_eq_ok.mp h)
    rw [braced_eq hl.1 hl.2, List.map_cons, List.map_append, hb]
    exact .braced hd
  split at h
  · case isTrue hl =>
    obtain ⟨digits, hd, hb⟩ := hyphenated?_eq_some.mp (orDiagnose_eq_ok.mp h)
    have hm : (bytes.take 9).length = 9 := by simp [hl.1]
    have hu : startsWithUrn (bytes.take 9 ++ bytes.drop 9) = true := by
      rw [List.take_append_drop]; exact hl.2
    rw [← List.take_append_drop 9 bytes, List.map_append, hb]
    exact .urn hd ((startsWithUrn_iff hm).mp hu)
  · cases h

theorem length_grouped {digits : List Char} (h : digits.length = 32) : (grouped digits).length = 36 := by
  simp [grouped, h]

theorem parseBytes_of_spelling {bytes : Bytes} {u : Uuid} (h : Spelling u (bytes.map byteChar)) :
    parseBytes bytes = .ok u := by
  have hyphened : ∀ {inner : Bytes} {digits : List Char}, Digits u digits →
      inner.map byteChar = grouped digits →
      inner.length = 36 ∧ hyphenated? inner = some u := by
    intro inner digits hd hi
    refine ⟨?_, hyphenated?_eq_some.mpr ⟨digits, hd, hi⟩⟩
    rw [← length_grouped hd.length_eq, ← hi, List.length_map]
  generalize hc : bytes.map byteChar = cs at h
  cases h with
  | simple hd =>
    subst hc
    have hl : bytes.length = 32 := by rw [← hd.length_eq, List.length_map]
    rw [parseBytes, if_pos hl]
    exact orDiagnose_eq_ok.mpr ((simple?_eq_some hl).mpr hd)
  | hyphenated hd =>
    obtain ⟨hl, hs⟩ := hyphened hd hc
    rw [parseBytes, if_neg (by omega), if_pos hl, orDiagnose_eq_ok]
    exact hs
  | braced hd =>
    obtain ⟨b, rest, rfl, hb, hr⟩ := List.map_eq_cons_iff.mp hc
    obtain ⟨inner, last, rfl, hi, hz⟩ := List.map_eq_append_iff.mp hr
    obtain rfl : last = [125] := byteChar_inj hz
    obtain ⟨hl, hs⟩ := hyphened hd hi
    obtain rfl : b = 123 := by rw [← asciiByte_byteChar b, hb]; rfl
    have hx : isBraced (123 :: (inner ++ [125])) = true := by simp [isBraced, List.getLast?_cons]
    have hn : (123 :: (inner ++ [125])).length = 38 := by simp [hl]
    rw [parseBytes, if_neg (by omega), if_neg (by omega), if_pos ⟨hn, hx⟩, orDiagnose_eq_ok]
    simpa using hs
  | urn hd hm =>
    obtain ⟨mark, inner, rfl, rfl, hi⟩ := List.map_eq_append_iff.mp hc
    obtain ⟨hl, hs⟩ := hyphened hd hi
    have hk : mark.length = 9 := by simpa using congrArg List.length hm
    have hn : (mark ++ inner).length = 45 := by rw [List.length_append, hk, hl]
    rw [parseBytes, if_neg (by omega), if_neg (by omega), if_neg (by omega),
      if_pos ⟨hn, (startsWithUrn_iff hk).mpr hm⟩, orDiagnose_eq_ok, List.drop_left' hk]
    exact hs

/-- What is read as an identifier is what spells it. -/
theorem parseBytes_eq_ok {bytes : Bytes} {u : Uuid} :
    parseBytes bytes = .ok u ↔ Spelling u (bytes.map byteChar) :=
  ⟨spelling_of_parseBytes, parseBytes_of_spelling⟩

end Uuid

end AccessLog
