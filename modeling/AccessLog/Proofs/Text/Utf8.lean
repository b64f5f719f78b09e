import AccessLog.Text.Utf8

/-!
# Reading back the bytes of a text

The bytes of a text are read as that text, by the reader that repairs and by the one that refuses. A newline
byte stands only for a newline.
-/

namespace AccessLog

namespace Utf8

theorem toNat_ofNat {n : Nat} (h : n < 256) : (UInt8.ofNat n).toNat = n := by
  simp [Nat.mod_eq_of_lt h]

theorem lead?_ofNat {n : Nat} (h : n < 256) : lead? (UInt8.ofNat n) =
    if n < 0x80 then some ⟨0, 0x80, 0xBF, n⟩
    else if n < 0xC2 then none
    else if n < 0xE0 then some ⟨1, 0x80, 0xBF, n - 0xC0⟩
    else if n = 0xE0 then some ⟨2, 0xA0, 0xBF, 0⟩
    else if n = 0xED then some ⟨2, 0x80, 0x9F, 0xD⟩
    else if n < 0xF0 then some ⟨2, 0x80, 0xBF, n - 0xE0⟩
    else if n = 0xF0 then some ⟨3, 0x90, 0xBF, 0⟩
    else if n < 0xF4 then some ⟨3, 0x80, 0xBF, n - 0xF0⟩
    else if n = 0xF4 then some ⟨3, 0x80, 0x8F, 4⟩
    else none := by
  simp only [lead?, UInt8.lt_iff_toNat_lt, ← UInt8.toNat_inj, toNat_ofNat h]
  rfl

theorem scan_inside {l : Lead} {n : Nat} (hn : n < 64) (hl : l.low.toNat ≤ n + 0x80)
    (hh : n + 0x80 ≤ l.high.toNat) (rest : Bytes) :
    scan (.inside l) (UInt8.ofNat (n + 0x80) :: rest) =
      if l.more = 1 then some (Char.ofNat (l.bits * 64 + n)) :: scan .idle rest
      else scan (.inside ⟨l.more - 1, 0x80, 0xBF, l.bits * 64 + n⟩) rest := by
  have hb := toNat_ofNat (show n + 0x80 < 256 by omega)
  have hr : (l.low ≤ UInt8.ofNat (n + 0x80) && UInt8.ofNat (n + 0x80) ≤ l.high) = true := by
    simp only [UInt8.le_iff_toNat_le, hb, hl, hh, decide_true, Bool.and_self]
  rw [scan, if_pos hr, hb, Nat.add_sub_cancel]

theorem scan_lead {b : UInt8} {l : Lead} (hl : lead? b = some l) (hm : l.more ≠ 0) (rest : Bytes) :
    scan .idle (b :: rest) = scan (.inside l) rest := by
  rw [scan]
  simp only [hl, hm, if_false]

theorem scan_tail {bits n : Nat} (hn : n < 64) (rest : Bytes) :
    scan (.inside ⟨1, 0x80, 0xBF, bits⟩) (UInt8.ofNat (n + 0x80) :: rest) =
      some (Char.ofNat (bits * 64 + n)) :: scan .idle rest := by
  rw [scan_inside hn (by simp) (by simp; omega), if_pos rfl]

theorem scan_ascii {v : Nat} (h : v ≤ 0x7F) (rest : Bytes) :
    scan .idle (UInt8.ofNat v :: rest) = some (Char.ofNat v) :: scan .idle rest := by
  have hl := lead?_ofNat (show v < 256 by omega)
  rw [if_pos (by omega)] at hl
  rw [scan]
  simp only [hl, if_true]

theorem scan_two {v : Nat} (h : 0x7F < v) (h' : v ≤ 0x7FF) (rest : Bytes) :
    scan .idle (UInt8.ofNat (v / 64 % 0x20 + 0xC0) :: UInt8.ofNat (v % 0x40 + 0x80) :: rest) =
      some (Char.ofNat v) :: scan .idle rest := by
  have hl := lead?_ofNat (show v / 64 % 0x20 + 0xC0 < 256 by omega)
  rw [if_neg (by omega), if_neg (by omega), if_pos (by omega)] at hl
  rw [scan_lead hl (by simp), scan_tail (by omega)]
  congr 3
  omega

theorem scan_three {v : Nat} (h : 0x7FF < v) (h' : v ≤ 0xFFFF) (hs : v < 0xD800 ∨ 0xDFFF < v)
    (rest : Bytes) :
    scan .idle (UInt8.ofNat (v / 4096 % 0x10 + 0xE0) :: UInt8.ofNat (v / 64 % 0x40 + 0x80) ::
      UInt8.ofNat (v % 0x40 + 0x80) :: rest) = some (Char.ofNat v) :: scan .idle rest := by
  obtain ⟨l, hl, hm, hb, hlow, hhigh⟩ : ∃ l, lead? (UInt8.ofNat (v / 4096 % 0x10 + 0xE0)) = some l ∧
      l.more = 2 ∧ l.bits = v / 4096 ∧ l.low.toNat ≤ v / 64 % 0x40 + 0x80 ∧
      v / 64 % 0x40 + 0x80 ≤ l.high.toNat := by
    rw [lead?_ofNat (by omega), if_neg (by omega), if_neg (by omega), if_neg (by omega)]
    by_cases h0 : v / 4096 % 0x10 + 0xE0 = 0xE0
    · exact ⟨_, if_pos h0, rfl, by simp; omega, by simp; omega, by simp; omega⟩
    by_cases hd : v / 4096 % 0x10 + 0xE0 = 0xED
    · exact ⟨_, by rw [if_neg h0, if_pos hd], rfl, by simp; omega, by simp, by simp; omega⟩
    · exact ⟨_, by rw [if_neg h0, if_neg hd, if_pos (by omega)], rfl, by simp; omega, by simp,
        by simp; omega⟩
  rw [scan_lead hl (by omega), scan_inside (by omega) hlow hhigh, if_neg (by omega), hm,
    scan_tail (by omega), hb]
  congr 3
  omega

theorem scan_four {v : Nat} (h : 0xFFFF < v) (h' : v ≤ 0x10FFFF) (rest : Bytes) :
    scan .idle (UInt8.ofNat (v / 262144 % 0x08 + 0xF0) :: UInt8.ofNat (v / 4096 % 0x40 + 0x80) ::
      UInt8.ofNat (v / 64 % 0x40 + 0x80) :: UInt8.ofNat (v % 0x40 + 0x80) :: rest) =
      some (Char.ofNat v) :: scan .idle rest := by
  obtain ⟨l, hl, hm, hb, hlow, hhigh⟩ : ∃ l, lead? (UInt8.ofNat (v / 262144 % 0x08 + 0xF0)) = some l ∧
      l.more = 3 ∧ l.bits = v / 262144 ∧ l.low.toNat ≤ v / 4096 % 0x40 + 0x80 ∧
      v / 4096 % 0x40 + 0x80 ≤ l.high.toNat := by
    rw [lead?_ofNat (by omega), if_neg (by omega), if_neg (by omega), if_neg (by omega),
      if_neg (by omega), if_neg (by omega), if_neg (by omega)]
    by_cases h0 : v / 262144 % 0x08 + 0xF0 = 0xF0
    · exact ⟨_, if_pos h0, rfl, by simp; omega, by simp; omega, by simp; omega⟩
    by_cases h4 : v / 262144 % 0x08 + 0xF0 < 0xF4
    · exact ⟨_, by rw [if_neg h0, if_pos h4], rfl, by simp; omega, by simp, by simp; omega⟩
    · exact ⟨_, by rw [if_neg h0, if_neg h4, if_pos (by omega)], rfl, by simp; omega, by simp,
        by simp; omega⟩
  rw [scan_lead hl (by omega), scan_inside (by omega) hlow hhigh, if_neg (by omega), hm,
    scan_inside (by omega) (by simp) (by simp; omega), if_neg (by simp)]
  show scan (.inside ⟨1, 0x80, 0xBF, (l.bits * 64 + v / 4096 % 0x40) * 64 + v / 64 % 0x40⟩) _ = _
  rw [scan_tail (by omega), hb]
  congr 3
  omega

theorem scan_encodeChar (c : Char) (rest : Bytes) :
    scan .idle (String.utf8EncodeChar c ++ rest) = some c :: scan .idle rest := by
  have hc : Char.ofNat c.val.toNat = c := Char.ofNat_toNat c
  have hv : c.val.toNat < 0xD800 ∨ 0xDFFF < c.val.toNat ∧ c.val.toNat < 0x110000 := c.valid
  unfold String.utf8EncodeChar
  dsimp only
  split
  · case isTrue h1 => rw [List.singleton_append, scan_ascii h1, hc]
  · case isFalse h1 =>
    split
    · case isTrue h2 =>
      exact (scan_two (Nat.lt_of_not_le h1) h2 rest).trans (by rw [hc])
    · case isFalse h2 =>
      split
      · case isTrue h3 =>
        exact (scan_three (Nat.lt_of_not_le h2) h3 (by omega) rest).trans (by rw [hc])
      · case isFalse h3 =>
        exact (scan_four (Nat.lt_of_not_le h3) (by omega) rest).trans (by rw [hc])

theorem scan_encode (s : List Char) :
    scan .idle (s.flatMap String.utf8EncodeChar) = s.map some := by
  induction s with
  | nil => rfl
  | cons c rest ih => rw [List.flatMap_cons, scan_encodeChar, ih, List.map_cons]

theorem mapM_map_some (s : List Char) : (s.map some).mapM id = some s := by
  induction s with
  | nil => rfl
  | cons c rest ih => rw [List.map_cons, List.mapM_cons, ih]; rfl

end Utf8

@[simp] theorem textOfBytes_utf8 (s : String) : textOfBytes (utf8 s) = s := by
  simp [textOfBytes, Utf8.decodeLossy, utf8, Utf8.scan_encode, Function.comp_def]

@[simp] theorem textOfBytes?_utf8 (s : String) : textOfBytes? (utf8 s) = some s := by
  rw [textOfBytes?, Utf8.decode?, utf8, Utf8.scan_encode, Utf8.mapM_map_some]
  simp

theorem utf8_ofList_ascii {s : List Char} (h : ∀ c ∈ s, c.toNat < 0x80) :
    utf8 (String.ofList s) = s.map fun c => UInt8.ofNat c.toNat := by
  rw [utf8, String.toList_ofList]
  induction s with
  | nil => rfl
  | cons c rest ih =>
    have hc : c.val.toNat ≤ 0x7F := Nat.le_of_lt_succ (h c List.mem_cons_self)
    rw [List.flatMap_cons, ih fun d hd => h d (List.mem_cons_of_mem c hd), String.utf8EncodeChar]
    simp only [hc, if_true]
    rfl

theorem ascii_of_encodeChar {c : Char} (h : ∀ b ∈ String.utf8EncodeChar c, b.toNat < 0x80) :
    c.toNat < 0x80 := by
  unfold String.utf8EncodeChar at h
  dsimp only at h
  split at h
  · case isTrue h1 => exact Nat.lt_succ_of_le h1
  · split at h
    · have := h _ List.mem_cons_self
      rw [Utf8.toNat_ofNat (by omega)] at this
      omega
    · split at h
      · have := h _ List.mem_cons_self
        rw [Utf8.toNat_ofNat (by omega)] at this
        omega
      · have := h _ List.mem_cons_self
        rw [Utf8.toNat_ofNat (by omega)] at this
        omega

theorem ascii_of_utf8 {s : String} (h : ∀ b ∈ utf8 s, b.toNat < 0x80) : ∀ c ∈ s.toList, c.toNat < 0x80 :=
  fun c hc => ascii_of_encodeChar fun b hb => h b (List.mem_flatMap.mpr ⟨c, hc, hb⟩)

theorem newline_mem_encodeChar {c : Char} (h : 10 ∈ String.utf8EncodeChar c) : c = '\n' := by
  have hn : ∀ n, n < 256 → (10 : UInt8) = UInt8.ofNat n → n = 10 := by
    intro n hn he
    have := congrArg UInt8.toNat he
    rw [Utf8.toNat_ofNat hn] at this
    exact this.symm
  unfold String.utf8EncodeChar at h
  dsimp only at h
  split at h
  · case isTrue h1 =>
    have hc := hn _ (by omega) (List.mem_singleton.mp h)
    exact Char.ext (UInt32.toNat_inj.mp hc)
  · split at h
    · rcases List.mem_cons.mp h with h | h
      · have := hn _ (by omega) h
        omega
      · have := hn _ (by omega) (List.mem_singleton.mp h)
        omega
    · split at h
      · simp only [List.mem_cons, List.not_mem_nil, or_false] at h
        rcases h with h | h | h <;> have := hn _ (by omega) h <;> omega
      · simp only [List.mem_cons, List.not_mem_nil, or_false] at h
        rcases h with h | h | h | h <;> have := hn _ (by omega) h <;> omega

theorem newline_mem_utf8 {s : String} (h : 10 ∈ utf8 s) : '\n' ∈ s.toList := by
  obtain ⟨c, hc, hb⟩ := List.mem_flatMap.mp h
  exact newline_mem_encodeChar hb ▸ hc

end AccessLog
