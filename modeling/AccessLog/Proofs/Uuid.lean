import AccessLog.Proofs.Text.Utf8
import AccessLog.Uuid.Parser

/-!
# Reading back an identifier

The canonical text of an identifier is read as that identifier.
-/

namespace AccessLog

namespace Uuid

def asciiByte (c : Char) : UInt8 := UInt8.ofNat c.toNat

theorem hexValue?_hexDigit : ∀ d < 16, hexValue? (asciiByte (hexDigit d)) = some d := by decide

theorem hexDigit_ascii : ∀ d < 16, (hexDigit d).toNat < 0x80 := by decide

theorem spelled?_append {n m : Nat} {a b : Bytes} (h : spelled? n a = some m) :
    spelled? n (a ++ b) = spelled? m b := by
  induction a generalizing n with
  | nil => cases h; rfl
  | cons x a ih =>
    rw [spelled?] at h
    obtain ⟨d, hd, h⟩ := Option.bind_eq_some_iff.mp h
    rw [List.cons_append, spelled?, hd, Option.bind_some, ih h]

theorem spelled?_hexDigits (width m : Nat) (h : m < Nat.pow 16 width) :
    spelled? 0 ((hexDigits width m).map asciiByte) = some m := by
  induction width generalizing m with
  | zero =>
    obtain rfl : m = 0 := by simp at h; exact h
    rfl
  | succ w ih =>
    have hw : Nat.pow 16 (w + 1) = Nat.pow 16 w * 16 := rfl
    rw [hexDigits, List.map_append, spelled?_append (ih (m / 16) (by omega)), List.map_singleton,
      spelled?, hexValue?_hexDigit _ (Nat.mod_lt _ (by decide)), Option.bind_some, spelled?]
    congr 1
    omega

theorem ungrouped?_groups {a b c d e : Bytes} (ha : a.length = 8) (hb : b.length = 4)
    (hc : c.length = 4) (hd : d.length = 4) (he : e.length = 12) :
    ungrouped? (a ++ hyphen :: (b ++ hyphen :: (c ++ hyphen :: (d ++ hyphen :: e)))) =
      some (a ++ b ++ c ++ d ++ e) := by
  simp [ungrouped?, ha, hb, hc, hd, he, List.take_append, List.drop_append]
  simp (disch := omega) [List.drop_of_length_le]

theorem mem_grouped {digits : List Char} {c : Char} (h : c ∈ grouped digits) :
    c ∈ digits ∨ c = '-' := by
  have part : ∀ i n, c ∈ (digits.drop i).take n → c ∈ digits ∨ c = '-' :=
    fun i n hm => .inl (List.mem_of_mem_drop (List.mem_of_mem_take hm))
  simp only [grouped, List.mem_append, List.mem_cons] at h
  rcases h with (((h | rfl | h) | rfl | h) | rfl | h) | rfl | h
  · exact part 0 8 h
  · exact .inr rfl
  · exact part 8 4 h
  · exact .inr rfl
  · exact part 12 4 h
  · exact .inr rfl
  · exact part 16 4 h
  · exact .inr rfl
  · exact .inl (List.mem_of_mem_drop h)

theorem grouped_ascii {digits : List Char} (h : ∀ c ∈ digits, c.toNat < 0x80) :
    ∀ c ∈ grouped digits, c.toNat < 0x80 := by
  intro c hc
  rcases mem_grouped hc with hd | rfl
  · exact h c hd
  · decide

theorem take_drop_append (l : List Char) (i n : Nat) :
    (l.drop i).take n ++ l.drop (i + n) = l.drop i := by
  rw [← List.drop_drop, List.take_append_drop]

theorem ungrouped?_grouped {digits : List Char} (h : digits.length = 32) :
    ungrouped? ((grouped digits).map asciiByte) = some (digits.map asciiByte) := by
  have hh : asciiByte '-' = hyphen := rfl
  simp only [grouped, List.map_append, List.map_cons, hh, List.append_assoc, List.cons_append]
  rw [ungrouped?_groups (by simp [h]) (by simp [h]) (by simp [h]) (by simp [h]) (by simp [h])]
  simp only [← List.map_append, List.append_assoc, take_drop_append _ 16 4,
    take_drop_append _ 12 4, take_drop_append _ 8 4, List.take_append_drop]

theorem hexDigits_ascii {width n : Nat} {c : Char} (h : c ∈ hexDigits width n) :
    c.toNat < 0x80 := by
  induction width generalizing n with
  | zero => simp [hexDigits] at h
  | succ w ih =>
    rw [hexDigits, List.mem_append, List.mem_singleton] at h
    rcases h with h | rfl
    · exact ih h
    · exact hexDigit_ascii _ (Nat.mod_lt _ (by decide))

theorem ofNat_value (u : Uuid) : ofNat u.value = u := by
  apply ext_value
  show u.value % count = u.value
  exact Nat.mod_eq_of_lt u.value_lt

theorem parse_text (u : Uuid) : parse u.text = .ok u := by
  have hb : utf8 u.text = u.chars.map asciiByte :=
    utf8_ofList_ascii (grouped_ascii fun c hc => hexDigits_ascii hc)
  have hl : (u.chars.map asciiByte).length = 36 := by simp [chars, grouped]
  have hs : spelled? 0 ((hexDigits 32 u.value).map asciiByte) = some u.value :=
    spelled?_hexDigits 32 u.value u.value_lt
  rw [parse, hb, parseBytes, hl, if_neg (by decide), if_pos rfl, hyphenated?, chars,
    ungrouped?_grouped (length_hexDigits 32 u.value), Option.bind_some, simple?, hs,
    Option.map_some, ofNat_value, orDiagnose]

end Uuid

end AccessLog
