import AccessLog.Address.Parser
import AccessLog.Proofs.Decimal.Written
import AccessLog.Proofs.Text.SmallLetters
import Mathlib.Data.List.Basic

/-!
# What network addresses are read from

A grammar of socket addresses says which address a text stands for, and nothing of how texts are read. Every reader takes
all the digits that it can, and tries a version 4 address before a group; no text of the grammar loses its reading by
that. So the texts of the grammar are read, each as its address, and no other text is.
-/

namespace AccessLog

namespace Address

open IpAddress (dottedText octetText)

/-! ## Grammar -/

def hexDigits : List Char := "0123456789abcdef".toList

def isHex (c : Char) : Bool := hexDigits.contains c.toLower

def hexOf (c : Char) : Nat := hexDigits.idxOf c.toLower

structure Group (t : List Char) (g : UInt16) : Prop where
  nonempty : t ≠ []
  short : t.length ≤ 4
  digits : t.all isHex = true
  value : t.foldl (fun n c => n * 16 + hexOf c) 0 = g.toNat

structure Numeral (t : List Char) (n : Nat) : Prop where
  nonempty : t ≠ []
  digits : t.all Decimal.isDigit = true
  value : Decimal.value t = n

def lead (isFirst : Bool) : List Char := if isFirst then [] else [':']

def embedded (a b c d : UInt8) : List UInt16 :=
  [a.toUInt16 * 256 + b.toUInt16, c.toUInt16 * 256 + d.toUInt16]

/-- Groups with colons between them, and perhaps a version 4 address at the end. -/
inductive Row : (isFirst dotted : Bool) → List Char → List UInt16 → Prop where
  | nil {isFirst : Bool} : Row isFirst false [] []
  | dotted {isFirst : Bool} (a b c d : UInt8) :
      Row isFirst true (lead isFirst ++ dottedText a b c d) (embedded a b c d)
  | cons {isFirst dotted : Bool} {t u : List Char} {g : UInt16} {gs : List UInt16} :
      Group t g → Row false dotted u gs → Row isFirst dotted (lead isFirst ++ (t ++ u)) (g :: gs)

/-- Eight groups, or at most seven with one `::` among them for all the zeros that are missing. A version 4 address stands
at the very end only. -/
inductive V6 : List Char → List UInt16 → Prop where
  | full {dotted : Bool} {t : List Char} {gs : List UInt16} :
      Row true dotted t gs → gs.length = 8 → V6 t gs
  | shortened {dotted : Bool} {t u : List Char} {front back : List UInt16} :
      Row true false t front → Row true dotted u back → front.length + back.length ≤ 7 →
      V6 (t ++ ':' :: ':' :: u) (front ++ List.replicate (8 - front.length - back.length) 0 ++ back)

inductive Scope : List Char → UInt32 → Prop where
  | absent : Scope [] 0
  | given {t : List Char} {n : UInt32} : Numeral t n.toNat → Scope ('%' :: t) n

/-- The text stands for the socket address. -/
inductive Socket : List Char → SocketAddress → Prop where
  | v4 {t : List Char} {p : UInt16} (a b c d : UInt8) :
      Numeral t p.toNat → Socket (dottedText a b c d ++ ':' :: t) ⟨.v4 a b c d, p, 0⟩
  | v6 {t u v : List Char} {gs : List UInt16} {n : UInt32} {p : UInt16} :
      V6 t gs → Scope u n → Numeral v p.toNat →
      Socket ('[' :: (t ++ (u ++ ']' :: ':' :: v))) ⟨.v6 gs, p, n⟩

/-! ## Digits -/

theorem hexValue?_beyond {c : Char} (h : 0x80 ≤ c.toNat) : hexValue? c = none := by
  have above {d : Char} (hd : d.toNat < 0x80) : ¬ c ≤ d := by
    intro hc
    have code : c.toNat ≤ d.toNat := UInt32.le_iff_toNat_le.mp hc
    omega
  have nine : ¬ c ≤ '9' := above (by decide)
  have small : ¬ c ≤ 'f' := above (by decide)
  have capital : ¬ c ≤ 'F' := above (by decide)
  simp [hexValue?, nine, small, capital]

theorem hexValue?_ascii : ∀ n < 0x80,
    hexValue? (Char.ofNat n) = if isHex (Char.ofNat n) then some (hexOf (Char.ofNat n)) else none := by
  decide +kernel

theorem hexValue?_eq (c : Char) : hexValue? c = if isHex c then some (hexOf c) else none := by
  rcases Nat.lt_or_ge c.toNat 0x80 with ascii | beyond
  · have h := hexValue?_ascii c.toNat ascii
    rwa [Char.ofNat_toNat] at h
  · have other : ¬ isHex c = true := by
      rw [isHex, toLower_of_not_capital (by omega), List.contains_iff_mem]
      intro hc
      have ascii : hexDigits.all (·.toNat < 0x80) = true := by decide
      exact Nat.not_lt.mpr beyond (of_decide_eq_true (List.all_eq_true.mp ascii c hc))
    rw [hexValue?_beyond beyond, if_neg other]

theorem digitValue?_sixteen (c : Char) : digitValue? 16 c = if isHex c then some (hexOf c) else none := by
  rw [digitValue?, hexValue?_eq]
  split
  · case isTrue h =>
    have below : hexOf c < 16 := List.idxOf_lt_length_of_mem (List.contains_iff_mem.mp h)
    rw [Option.filter_some, if_pos (decide_eq_true below)]
  · rw [Option.filter_none]

theorem digitValue?_ascii : ∀ n < 0x80, digitValue? 10 (Char.ofNat n) =
    if Decimal.isDigit (Char.ofNat n) then some (Decimal.digitValue (Char.ofNat n)) else none := by
  decide +kernel

theorem digitValue?_ten (c : Char) :
    digitValue? 10 c = if Decimal.isDigit c then some (Decimal.digitValue c) else none := by
  rcases Nat.lt_or_ge c.toNat 0x80 with ascii | beyond
  · have h := digitValue?_ascii c.toNat ascii
    rwa [Char.ofNat_toNat] at h
  · have other : ¬ Decimal.isDigit c = true := by
      simp only [Decimal.isDigit, Bool.and_eq_true, decide_eq_true_eq]
      omega
    rw [digitValue?, hexValue?_beyond beyond, if_neg other, Option.filter_none]

theorem isHex_of_isDigit {c : Char} (h : Decimal.isDigit c = true) : isHex c = true := by
  by_contra other
  have digit := digitValue?_ten c
  rw [if_pos h, digitValue?, hexValue?_eq, if_neg other] at digit
  cases digit

/-! ## Numbers -/

/-- No character of the kind comes next. -/
def Ends (kind : Char → Bool) (rest : List Char) : Prop := rest.head?.any kind = false

@[simp] theorem ends_nil {kind : Char → Bool} : Ends kind [] := rfl

@[simp] theorem ends_cons {kind : Char → Bool} {c : Char} {rest : List Char} :
    Ends kind (c :: rest) ↔ kind c = false := Iff.rfl

theorem not_ends_append {kind : Char → Bool} {t rest : List Char} (hne : t ≠ []) (ht : t.all kind = true) :
    ¬ Ends kind (t ++ rest) := by
  obtain ⟨c, t, rfl⟩ := List.exists_cons_of_ne_nil hne
  have hc : kind c = true := List.all_eq_true.mp ht c List.mem_cons_self
  rw [List.cons_append, ends_cons, hc]
  nofun

theorem Ends.of_hex {rest : List Char} (h : Ends isHex rest) : Ends Decimal.isDigit rest := by
  cases rest with
  | nil => exact ends_nil
  | cons c rest =>
    refine ends_cons.mpr (Bool.eq_false_iff.mpr fun digit => ?_)
    rw [ends_cons, isHex_of_isDigit digit] at h
    cases h

theorem span_iff {kind : Char → Bool} {s t rest : List Char} :
    (s.takeWhile kind = t ∧ s.dropWhile kind = rest) ↔ s = t ++ rest ∧ t.all kind = true ∧ Ends kind rest := by
  constructor
  · rintro ⟨rfl, rfl⟩
    refine ⟨List.takeWhile_append_dropWhile.symm, List.all_takeWhile, ?_⟩
    have next := List.head?_dropWhile_not (p := kind) s
    cases h : s.dropWhile kind with
    | nil => rfl
    | cons c rest =>
      rw [h] at next
      simpa using next
  · rintro ⟨rfl, ht, hr⟩
    have all : ∀ c ∈ t, kind c = true := List.all_eq_true.mp ht
    rw [List.takeWhile_append_of_pos all, List.dropWhile_append_of_pos all]
    cases rest with
    | nil => simp
    | cons c rest => simp [ends_cons.mp hr]

section Number

variable {base greatest : Nat} {most : Option Nat} {zeros : Bool} {s rest : List Char} {n : Nat}

theorem number_eq_some :
    number base greatest most zeros s = some (n, rest) ↔
      ∃ t, s = t ++ rest ∧ Ends (isDigitIn base) rest ∧ t.all (isDigitIn base) = true ∧ valueIn base t = n ∧
        t ≠ [] ∧ (∀ m ∈ most, t.length ≤ m) ∧ n ≤ greatest ∧
        (zeros = true ∨ (1 < t.length → t.head? ≠ some '0')) := by
  have fits (t : List Char) :
      ¬ (t.isEmpty || most.any (· < t.length) || decide (greatest < valueIn base t)
        || (!zeros && decide (1 < t.length) && t.head? == some '0')) = true ↔
      t ≠ [] ∧ (∀ m ∈ most, t.length ≤ m) ∧ valueIn base t ≤ greatest ∧
        (zeros = true ∨ (1 < t.length → t.head? ≠ some '0')) := by
    cases most <;> cases zeros <;> simp [and_assoc]
  constructor
  · intro h
    dsimp only [number] at h
    split at h
    · cases h
    · case isFalse taken =>
      obtain ⟨hn, hr⟩ := Prod.mk.inj (Option.some.inj h)
      obtain ⟨hs, hd, he⟩ := span_iff.mp ⟨rfl, hr⟩
      exact ⟨_, hs, he, hd, hn, hn ▸ (fits _).mp taken⟩
  · rintro ⟨t, hs, he, hd, rfl, hf⟩
    obtain ⟨ht, hr⟩ := span_iff.mpr ⟨hs, hd, he⟩
    rw [number, ht, hr, if_neg ((fits t).mpr hf)]

theorem isDigitIn_eq {kind : Char → Bool} {value : Char → Nat}
    (h : ∀ c, digitValue? base c = if kind c then some (value c) else none) : isDigitIn base = kind := by
  funext c
  rw [isDigitIn, h c]
  cases kind c <;> rfl

theorem valueIn_eq {kind : Char → Bool} {value : Char → Nat}
    (h : ∀ c, digitValue? base c = if kind c then some (value c) else none) {t : List Char}
    (ht : t.all kind = true) : valueIn base t = t.foldl (fun n c => n * base + value c) 0 := by
  refine List.foldl_ext _ _ _ fun n c hc => ?_
  rw [h c, if_pos (List.all_eq_true.mp ht c hc), Option.getD_some]

end Number

theorem isDigitIn_ten : isDigitIn 10 = Decimal.isDigit := isDigitIn_eq digitValue?_ten

theorem isDigitIn_sixteen : isDigitIn 16 = isHex := isDigitIn_eq digitValue?_sixteen

theorem number_ten_eq_some {greatest : Nat} {s rest : List Char} {n : Nat} :
    number 10 greatest none true s = some (n, rest) ↔
      ∃ t, s = t ++ rest ∧ Numeral t n ∧ n ≤ greatest ∧ Ends Decimal.isDigit rest := by
  rw [number_eq_some, isDigitIn_ten]
  constructor
  · rintro ⟨t, hs, he, hd, hv, hne, -, hg, -⟩
    exact ⟨t, hs, ⟨hne, hd, (valueIn_eq digitValue?_ten hd).symm.trans hv⟩, hg, he⟩
  · rintro ⟨t, hs, ⟨hne, hd, hv⟩, hg, he⟩
    exact ⟨t, hs, he, hd, (valueIn_eq digitValue?_ten hd).trans hv, hne, nofun, hg, .inl rfl⟩

/-! ## Parts of an address -/

theorem char_eq_some {c : Char} {s rest : List Char} {u : Unit} : char c s = some (u, rest) ↔ s = c :: rest := by
  cases s with
  | nil => simp [char]
  | cons d s =>
    by_cases h : d = c
    · simp [char, h]
    · simp [char, h]

theorem octetText_digits (a : UInt8) : (octetText a).all Decimal.isDigit = true :=
  List.all_eq_true.mpr fun _ => Decimal.isDigit_of_mem_ofNat

theorem octet_eq_some {s rest : List Char} {a : UInt8} :
    octet s = some (a, rest) ↔ s = octetText a ++ rest ∧ Ends Decimal.isDigit rest := by
  simp only [octet, Option.bind_eq_bind, Option.bind_eq_some_iff, Prod.exists, Option.some.injEq, Prod.mk.injEq]
  constructor
  · rintro ⟨n, _, h, rfl, rfl⟩
    obtain ⟨t, rfl, he, hd, rfl, hne, -, hg, hz⟩ := number_eq_some.mp h
    rw [isDigitIn_ten] at he hd
    have written : octetText (valueIn 10 t).toUInt8 = t := by
      have code : (valueIn 10 t).toUInt8.toNat = valueIn 10 t := UInt8.toNat_ofNat_of_lt' (Nat.lt_succ_of_le hg)
      rw [octetText, code, valueIn_eq digitValue?_ten hd]
      exact (Decimal.eq_ofNat hne hd (hz.resolve_left nofun)).symm
    rw [written]
    exact ⟨rfl, he⟩
  · rintro ⟨rfl, he⟩
    have number : valueIn 10 (octetText a) = a.toNat :=
      (valueIn_eq digitValue?_ten (octetText_digits a)).trans (Decimal.value_ofNat a.toNat)
    have short : (octetText a).length ≤ 3 :=
      Decimal.length_ofNat_le (Nat.lt_trans a.toNat_lt (by decide))
    refine ⟨a.toNat, rest, number_eq_some.mpr ⟨octetText a, rfl, ?_, ?_, number, Decimal.ofNat_ne_nil _, ?_,
      Nat.le_of_lt_succ a.toNat_lt, .inr ?_⟩, UInt8.ofNat_toNat, rfl⟩
    · rwa [isDigitIn_ten]
    · rw [isDigitIn_ten]
      exact octetText_digits a
    · rintro m ⟨⟩
      exact short
    · exact Decimal.head?_ofNat_of_long

theorem group_eq_some {s rest : List Char} {g : UInt16} :
    group s = some (g, rest) ↔ ∃ t, s = t ++ rest ∧ Group t g ∧ Ends isHex rest := by
  simp only [group, Option.bind_eq_bind, Option.bind_eq_some_iff, Prod.exists, Option.some.injEq, Prod.mk.injEq,
    number_eq_some, isDigitIn_sixteen]
  constructor
  · rintro ⟨n, _, ⟨t, rfl, he, hd, hv, hne, hm, hg, -⟩, rfl, rfl⟩
    rw [valueIn_eq digitValue?_sixteen hd] at hv
    have code : n.toUInt16.toNat = n := UInt16.toNat_ofNat_of_lt' (Nat.lt_succ_of_le hg)
    exact ⟨t, rfl, ⟨hne, hm 4 rfl, hd, hv.trans code.symm⟩, he⟩
  · rintro ⟨t, rfl, ⟨hne, hl, hd, hv⟩, he⟩
    rw [← valueIn_eq digitValue?_sixteen hd] at hv
    refine ⟨g.toNat, rest, ⟨t, rfl, he, hd, hv, hne, ?_, Nat.le_of_lt_succ g.toNat_lt, .inl trivial⟩, ?_, rfl⟩
    · rintro m ⟨⟩
      exact hl
    · exact UInt16.ofNat_toNat

theorem v4_eq_some {s rest : List Char} {a b c d : UInt8} :
    v4 s = some ((a, b, c, d), rest) ↔ s = dottedText a b c d ++ rest ∧ Ends Decimal.isDigit rest := by
  have dot (s : List Char) : Ends Decimal.isDigit ('.' :: s) := ends_cons.mpr (by decide)
  simp only [v4, Option.bind_eq_bind, Option.bind_eq_some_iff, Prod.exists, Option.some.injEq, Prod.mk.injEq,
    octet_eq_some, char_eq_some, dottedText]
  constructor
  · rintro ⟨_, _, ⟨rfl, -⟩, _, _, rfl, _, _, ⟨rfl, -⟩, _, _, rfl, _, _, ⟨rfl, -⟩, _, _, rfl, _, _, ⟨rfl, he⟩,
      ⟨rfl, rfl, rfl, rfl⟩, rfl⟩
    simp [he]
  · rintro ⟨rfl, he⟩
    simp [he, dot]

theorem separated_eq_some {α : Type} {isFirst : Bool} {item : Reader α} {s rest : List Char} {a : α} :
    separated isFirst item s = some (a, rest) ↔ ∃ t, s = lead isFirst ++ t ∧ item t = some (a, rest) := by
  cases isFirst with
  | true => simp [separated, lead]
  | false => simp [separated, lead, Option.bind_eq_some_iff, char_eq_some]

theorem separated_eq_none {α : Type} {isFirst : Bool} {item : Reader α} {s : List Char}
    (h : ∀ t, s = lead isFirst ++ t → item t = none) : separated isFirst item s = none := by
  cases hs : separated isFirst item s with
  | none => rfl
  | some read =>
    obtain ⟨t, ht, read⟩ := separated_eq_some.mp hs
    rw [h t ht] at read
    cases read

theorem port_eq_some {s rest : List Char} {p : UInt16} :
    port s = some (p, rest) ↔ ∃ t, s = ':' :: (t ++ rest) ∧ Numeral t p.toNat ∧ Ends Decimal.isDigit rest := by
  simp only [port, Option.bind_eq_bind, Option.bind_eq_some_iff, Prod.exists, Option.some.injEq, Prod.mk.injEq,
    char_eq_some, number_ten_eq_some]
  constructor
  · rintro ⟨_, _, rfl, n, _, ⟨t, rfl, ht, hg, he⟩, rfl, rfl⟩
    have code : n.toUInt16.toNat = n := UInt16.toNat_ofNat_of_lt' (Nat.lt_succ_of_le hg)
    exact ⟨t, rfl, code.symm ▸ ht, he⟩
  · rintro ⟨t, rfl, ht, he⟩
    exact ⟨(), _, rfl, p.toNat, rest, ⟨t, rfl, ht, Nat.le_of_lt_succ p.toNat_lt, he⟩, UInt16.ofNat_toNat, rfl⟩

theorem scope_sound {s rest : List Char} {n : UInt32} (h : scope s = some (n, rest)) :
    ∃ t, s = t ++ rest ∧ Scope t n := by
  unfold scope at h
  cases hc : char '%' s with
  | none =>
    rw [hc] at h
    obtain ⟨rfl, rfl⟩ := Prod.mk.inj (Option.some.inj h)
    exact ⟨[], rfl, .absent⟩
  | some read =>
    obtain rfl := char_eq_some.mp hc
    rw [hc] at h
    obtain ⟨⟨m, _⟩, hm, same⟩ := Option.map_eq_some_iff.mp h
    obtain ⟨rfl, rfl⟩ := Prod.mk.inj same
    obtain ⟨t, ht, number, hg, -⟩ := number_ten_eq_some.mp hm
    have code : m.toUInt32.toNat = m := UInt32.toNat_ofNat_of_lt' (Nat.lt_succ_of_le hg)
    exact ⟨'%' :: t, congrArg _ ht, .given (code.symm ▸ number)⟩

theorem scope_complete {t rest : List Char} {n : UInt32} (h : Scope t n) :
    scope (t ++ ']' :: rest) = some (n, ']' :: rest) := by
  cases h with
  | absent => rfl
  | @given t _ ht =>
    have ends : Ends Decimal.isDigit (']' :: rest) := ends_cons.mpr (by decide)
    have read := number_ten_eq_some.mpr ⟨t, rfl, ht, Nat.le_of_lt_succ n.toNat_lt, ends⟩
    have code : n.toNat.toUInt32 = n := UInt32.ofNat_toNat
    change (number 10 0xFFFFFFFF none true (t ++ ']' :: rest)).map _ = _
    rw [read, Option.map_some]
    dsimp only
    rw [code]

/-! ## Rows of groups -/

theorem octetText_hex (a : UInt8) : (octetText a).all isHex = true :=
  List.all_eq_true.mpr fun _ hc => isHex_of_isDigit (Decimal.isDigit_of_mem_ofNat hc)

theorem dottedText_append (a b c d : UInt8) (rest : List Char) :
    ∃ s, dottedText a b c d ++ rest = octetText a ++ '.' :: s :=
  ⟨octetText b ++ '.' :: octetText c ++ '.' :: octetText d ++ rest, by simp [dottedText]⟩

theorem v4_eq_none {s : List Char} (h : Ends isHex s) : v4 s = none := by
  cases hv : v4 s with
  | none => rfl
  | some read =>
    obtain ⟨rfl, -⟩ := v4_eq_some.mp hv
    obtain ⟨s, hs⟩ := dottedText_append read.1.1 read.1.2.1 read.1.2.2.1 read.1.2.2.2 read.2
    rw [hs] at h
    exact absurd h (not_ends_append (Decimal.ofNat_ne_nil _) (octetText_hex _))

theorem group_eq_none {s : List Char} (h : Ends isHex s) : group s = none := by
  cases hg : group s with
  | none => rfl
  | some read =>
    obtain ⟨t, rfl, hg, -⟩ := group_eq_some.mp hg
    exact absurd h (not_ends_append hg.nonempty hg.digits)

theorem v4_group_append {t rest : List Char} {g : UInt16} (h : Group t g) (he : Ends isHex rest)
    (hd : rest.head? ≠ some '.') : v4 (t ++ rest) = none := by
  cases hv : v4 (t ++ rest) with
  | none => rfl
  | some read =>
    obtain ⟨hs, -⟩ := v4_eq_some.mp hv
    obtain ⟨s, hdot⟩ := dottedText_append read.1.1 read.1.2.1 read.1.2.2.1 read.1.2.2.2 read.2
    have dot : Ends isHex ('.' :: s) := ends_cons.mpr (by decide)
    obtain ⟨-, after⟩ := span_iff.mpr ⟨hs.trans hdot, octetText_hex _, dot⟩
    obtain ⟨-, after'⟩ := span_iff.mpr ⟨rfl, h.digits, he⟩
    rw [after'] at after
    exact absurd (after ▸ rfl) hd

/-- What can follow a row, so that no more of it is read. -/
structure Stops (rest : List Char) : Prop where
  digit : Ends isHex rest
  dot : rest.head? ≠ some '.'
  colon : ∀ s, rest = ':' :: s → Ends isHex s

theorem Stops.lead {isFirst : Bool} {rest s : List Char} (h : Stops rest) (hs : rest = lead isFirst ++ s) :
    Ends isHex s := by
  cases isFirst with
  | true =>
    obtain rfl := hs
    exact h.digit
  | false => exact h.colon s hs

section Groups

variable {isFirst : Bool} {room : Nat} {s rest : List Char}

theorem groups_of_v4 {a b c d : UInt8} (h : separated isFirst v4 s = some ((a, b, c, d), rest)) (hr : 0 < room) :
    groups isFirst (room + 1) s = (embedded a b c d, true, rest) := by
  rw [groups, if_pos hr, h]
  rfl

theorem groups_of_group {g : UInt16} (hv : (if 0 < room then separated isFirst v4 s else none) = none)
    (hg : separated isFirst group s = some (g, rest)) :
    groups isFirst (room + 1) s =
      (g :: (groups false room rest).1, (groups false room rest).2.1, (groups false room rest).2.2) := by
  rw [groups, hv, hg]

theorem groups_of_none (hv : (if 0 < room then separated isFirst v4 s else none) = none)
    (hg : separated isFirst group s = none) : groups isFirst (room + 1) s = ([], false, s) := by
  rw [groups, hv, hg]

theorem groups_sound (isFirst : Bool) (room : Nat) (s : List Char) :
    ∃ t, s = t ++ (groups isFirst room s).2.2 ∧
      Row isFirst (groups isFirst room s).2.1 t (groups isFirst room s).1 ∧
      (groups isFirst room s).1.length ≤ room := by
  induction room generalizing isFirst s with
  | zero => exact ⟨[], rfl, .nil, Nat.le_refl 0⟩
  | succ room ih =>
    cases hv : (if 0 < room then separated isFirst v4 s else none) with
    | some read =>
      obtain ⟨⟨a, b, c, d⟩, rest⟩ := read
      by_cases hr : 0 < room
      · rw [if_pos hr] at hv
        obtain ⟨u, rfl, hu⟩ := separated_eq_some.mp hv
        obtain ⟨rfl, -⟩ := v4_eq_some.mp hu
        rw [groups_of_v4 hv hr]
        exact ⟨_, (List.append_assoc ..).symm, .dotted a b c d, Nat.succ_le_succ hr⟩
      · rw [if_neg hr] at hv
        cases hv
    | none =>
      cases hg : separated isFirst group s with
      | none =>
        rw [groups_of_none hv hg]
        exact ⟨[], rfl, .nil, Nat.zero_le _⟩
      | some read =>
        obtain ⟨g, rest⟩ := read
        obtain ⟨_, hs, hu⟩ := separated_eq_some.mp hg
        obtain ⟨t, rfl, ht, -⟩ := group_eq_some.mp hu
        obtain ⟨u, hrest, row, room⟩ := ih false rest
        rw [groups_of_group hv hg]
        refine ⟨lead isFirst ++ (t ++ u), ?_, .cons ht row, Nat.succ_le_succ room⟩
        rw [List.append_assoc, List.append_assoc, ← hrest, hs]

theorem groups_of_stops (h : Stops rest) (isFirst : Bool) (room : Nat) :
    groups isFirst room rest = ([], false, rest) := by
  have hv : separated isFirst v4 rest = none := separated_eq_none fun _ hs => v4_eq_none (h.lead hs)
  have hg : separated isFirst group rest = none := separated_eq_none fun _ hs => group_eq_none (h.lead hs)
  cases room with
  | zero => rfl
  | succ room => exact groups_of_none (by rw [hv, ite_self]) hg

theorem Row.ends {dotted : Bool} {t : List Char} {gs : List UInt16} (h : Row false dotted t gs) (stops : Stops rest) :
    Ends isHex (t ++ rest) ∧ (t ++ rest).head? ≠ some '.' := by
  have colon (s : List Char) : Ends isHex (':' :: s) ∧ (':' :: s).head? ≠ some '.' :=
    ⟨ends_cons.mpr (by decide), by simp⟩
  cases h with
  | nil => exact ⟨stops.digit, stops.dot⟩
  | dotted a b c d => exact colon _
  | cons hg more => exact colon _

theorem groups_complete {dotted : Bool} {t : List Char} {gs : List UInt16} (h : Row isFirst dotted t gs)
    (hr : gs.length ≤ room) (stops : Stops rest) : groups isFirst room (t ++ rest) = (gs, dotted, rest) := by
  induction h generalizing room with
  | nil => exact groups_of_stops stops _ room
  | @dotted isFirst a b c d =>
    obtain ⟨room, rfl⟩ : ∃ r, room = r + 1 := ⟨room - 1, by simp [embedded] at hr; omega⟩
    have read : v4 (dottedText a b c d ++ rest) = some ((a, b, c, d), rest) := v4_eq_some.mpr ⟨rfl, stops.digit.of_hex⟩
    exact groups_of_v4 (separated_eq_some.mpr ⟨_, List.append_assoc .., read⟩) (Nat.le_of_succ_le_succ hr)
  | @cons isFirst dotted t u g gs hg more ih =>
    obtain ⟨room, rfl⟩ : ∃ r, room = r + 1 := ⟨room - 1, by simp at hr; omega⟩
    obtain ⟨ends, dot⟩ := more.ends stops
    have text : lead isFirst ++ (t ++ u) ++ rest = lead isFirst ++ (t ++ (u ++ rest)) := by
      rw [List.append_assoc, List.append_assoc]
    -- a version 4 address is tried first, and finds no dot behind the digits of the group
    have hv : separated isFirst v4 (lead isFirst ++ (t ++ (u ++ rest))) = none := by
      refine separated_eq_none fun s hs => ?_
      obtain rfl := List.append_cancel_left hs
      exact v4_group_append hg ends dot
    have read : separated isFirst group (lead isFirst ++ (t ++ (u ++ rest))) = some (g, u ++ rest) :=
      separated_eq_some.mpr ⟨_, rfl, group_eq_some.mpr ⟨t, rfl, hg, ends⟩⟩
    rw [text, groups_of_group (by rw [hv, ite_self]) read, ih (Nat.le_of_succ_le_succ hr)]

end Groups

/-! ## Addresses -/

theorem v6_sound {s rest : List Char} {gs : List UInt16} (h : v6 s = some (gs, rest)) :
    ∃ t, s = t ++ rest ∧ V6 t gs := by
  obtain ⟨t, hs, row, room⟩ := groups_sound true 8 s
  dsimp only [v6] at h
  split at h
  · case isTrue eight =>
    obtain ⟨rfl, rfl⟩ := Prod.mk.inj (Option.some.inj h)
    exact ⟨t, hs, .full row eight⟩
  split at h
  · cases h
  · case isFalse fewer undotted =>
    simp only [Option.bind_eq_bind, Option.bind_eq_some_iff, Prod.exists, Option.some.injEq, Prod.mk.injEq,
      char_eq_some] at h
    obtain ⟨_, _, hr, _, more, rfl, rfl, rfl⟩ := h
    obtain ⟨u, hu, back, left⟩ := groups_sound true (7 - (groups true 8 s).1.length) more
    rw [Bool.not_eq_true] at undotted
    rw [undotted] at row
    refine ⟨t ++ ':' :: ':' :: u, ?_, .shortened row back (by omega)⟩
    rw [List.append_assoc, List.cons_append, List.cons_append, ← hu, ← hr]
    exact hs

theorem v6_complete {t rest : List Char} {gs : List UInt16} (h : V6 t gs) (stops : Stops rest) :
    v6 (t ++ rest) = some (gs, rest) := by
  cases h with
  | full row eight =>
    have read := groups_complete row (Nat.le_of_eq eight) stops
    rw [v6, read]
    exact if_pos eight
  | @shortened dotted t u front back first second most =>
    have colons : Stops (':' :: ':' :: (u ++ rest)) := by
      refine ⟨ends_cons.mpr (by decide), by simp, ?_⟩
      rintro _ ⟨⟩
      exact ends_cons.mpr (by decide)
    have head : groups true 8 (t ++ ':' :: ':' :: (u ++ rest)) = (front, false, ':' :: ':' :: (u ++ rest)) :=
      groups_complete first (by omega) colons
    have tail : groups true (7 - front.length) (u ++ rest) = (back, dotted, rest) :=
      groups_complete second (by omega) stops
    have fewer : ¬ front.length = 8 := by omega
    rw [List.append_assoc, List.cons_append, List.cons_append, v6, head]
    dsimp only
    rw [if_neg fewer, if_neg (by decide)]
    simp only [char, if_pos, Option.bind_eq_bind, Option.bind_some, tail]

theorem socketV4_eq_some {s : List Char} {socket : SocketAddress} :
    socketV4 s = some (socket, []) ↔ ∃ (a b c d : UInt8) (t : List Char) (p : UInt16),
      s = dottedText a b c d ++ ':' :: t ∧ Numeral t p.toNat ∧ socket = ⟨.v4 a b c d, p, 0⟩ := by
  have colon (s : List Char) : Ends Decimal.isDigit (':' :: s) := ends_cons.mpr (by decide)
  simp only [socketV4, Option.bind_eq_bind, Option.bind_eq_some_iff, Prod.exists, Option.some.injEq, Prod.mk.injEq,
    v4_eq_some, port_eq_some]
  constructor
  · rintro ⟨a, b, c, d, _, ⟨rfl, -⟩, p, _, ⟨t, rfl, ht, -⟩, rfl, rfl⟩
    exact ⟨a, b, c, d, t, p, by rw [List.append_nil], ht, rfl⟩
  · rintro ⟨a, b, c, d, t, p, rfl, ht, rfl⟩
    exact ⟨a, b, c, d, _, ⟨rfl, colon t⟩, p, [], ⟨t, by rw [List.append_nil], ht, ends_nil⟩, rfl, rfl⟩

theorem socketV6_eq_some {s : List Char} {socket : SocketAddress} :
    socketV6 s = some (socket, []) ↔ ∃ t u v gs n p,
      s = '[' :: (t ++ (u ++ ']' :: ':' :: v)) ∧ V6 t gs ∧ Scope u n ∧ Numeral v p.toNat ∧ socket = ⟨.v6 gs, p, n⟩ := by
  simp only [socketV6, Option.bind_eq_bind, Option.bind_eq_some_iff, Prod.exists, Option.some.injEq, Prod.mk.injEq,
    char_eq_some, port_eq_some]
  constructor
  · rintro ⟨_, _, rfl, gs, _, hg, n, _, hn, _, _, rfl, p, _, ⟨v, rfl, hv, -⟩, rfl, rfl⟩
    obtain ⟨t, rfl, ht⟩ := v6_sound hg
    obtain ⟨u, rfl, hu⟩ := scope_sound hn
    exact ⟨t, u, v, gs, n, p, by rw [List.append_nil], ht, hu, hv, rfl⟩
  · rintro ⟨t, u, v, gs, n, p, rfl, ht, hu, hv, rfl⟩
    have stops : Stops (u ++ ']' :: ':' :: v) := by
      cases hu with
      | absent => exact ⟨ends_cons.mpr (by decide), by simp, nofun⟩
      | given => exact ⟨ends_cons.mpr (by decide), by simp, nofun⟩
    exact ⟨(), _, rfl, gs, _, v6_complete ht stops, n, _, scope_complete hu, (), _, rfl, p, [],
      ⟨v, by rw [List.append_nil], hv, ends_nil⟩, rfl, rfl⟩

theorem whole_eq_some {α : Type} {read : Reader α} {s : List Char} {a : α} :
    whole read s = some a ↔ read s = some (a, []) := by
  unfold whole
  cases read s with
  | none => simp
  | some r =>
    obtain ⟨b, rest⟩ := r
    cases rest with
    | nil => simp
    | cons c rest => simp

theorem socketV4_bracket (s : List Char) : socketV4 ('[' :: s) = none := by
  rw [socketV4, v4_eq_none (ends_cons.mpr (by decide))]
  rfl

end Address

/-- What stands for an address is read as that address, and nothing else is read. -/
theorem SocketAddress.parse?_eq_some_iff {s : String} {a : SocketAddress} :
    parse? s = some a ↔ Address.Socket s.toList a := by
  rw [parse?, Address.whole_eq_some, Address.socket]
  generalize s.toList = text
  constructor
  · intro h
    cases h4 : Address.socketV4 text with
    | some read =>
      rw [h4] at h
      obtain rfl := Option.some.inj h
      obtain ⟨a, b, c, d, t, p, rfl, ht, rfl⟩ := Address.socketV4_eq_some.mp h4
      exact .v4 a b c d ht
    | none =>
      rw [h4] at h
      obtain ⟨t, u, v, gs, n, p, rfl, ht, hu, hv, rfl⟩ := Address.socketV6_eq_some.mp h
      exact .v6 ht hu hv
  · intro h
    cases h with
    | v4 a b c d ht =>
      rw [Address.socketV4_eq_some.mpr ⟨a, b, c, d, _, _, rfl, ht, rfl⟩]
      rfl
    | v6 ht hu hv =>
      rw [Address.socketV4_bracket, Address.socketV6_eq_some.mpr ⟨_, _, _, _, _, _, rfl, ht, hu, hv, rfl⟩]
      rfl

end AccessLog
