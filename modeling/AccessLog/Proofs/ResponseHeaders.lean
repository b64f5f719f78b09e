import AccessLog.Http.Response
import AccessLog.Proofs.BodySize
import Mathlib.Data.List.Induction

/-!
# Headers given to a response

Pairs of texts can be given to a response in the making, or to the response that was made: it comes out the same. Of all
pairs for a name the last one that is a header decides its only value. A pair that is no header changes nothing, and
everything else of the response stays as it is.
-/

namespace AccessLog

namespace Http

theorem toLower_of_not_ascii {c : Char} (h : ¬ c.toNat < 0x80) : c.toLower = c := by
  delta Char.toLower
  split
  · case isTrue capital =>
    exact absurd (Nat.lt_of_le_of_lt (UInt32.le_iff_toNat_le.mp capital.2) (by decide)) h
  · rfl

theorem isTokenChar_byteChar (b : UInt8) :
    isTokenChar (Uuid.byteChar b).toLower = isTokenChar (Uuid.byteChar b) := by
  revert b
  apply Uuid.forall_byte
  decide +kernel

theorem isTokenChar_toLower (c : Char) : isTokenChar c.toLower = isTokenChar c := by
  by_cases h : c.toNat < 0x80
  · rw [← Uuid.byteChar_asciiByte h]
    exact isTokenChar_byteChar _
  · rw [toLower_of_not_ascii h]

theorem ascii_of_isTokenChar {c : Char} (h : isTokenChar c = true) : c.toNat < 0x80 := by
  have marks : ∀ d ∈ "!#$%&'*+-.^_`|~".toList, d.toNat < 0x80 := Uuid.forall_mem_of_all (by decide)
  rw [isTokenChar, Bool.or_eq_true] at h
  rcases h with h | h
  · delta Char.isAlphanum Char.isAlpha Char.isUpper Char.isLower Char.isDigit at h
    simp only [Bool.or_eq_true, Bool.and_eq_true, decide_eq_true_eq, UInt32.le_iff_toNat_le, ge_iff_le] at h
    change ((65 ≤ c.toNat ∧ c.toNat ≤ 90) ∨ (97 ≤ c.toNat ∧ c.toNat ≤ 122)) ∨ (48 ≤ c.toNat ∧ c.toNat ≤ 57) at h
    omega
  · exact marks c (List.contains_iff_mem.mp h)

theorem isToken_congr {s t : String} (h : s.toList.map Char.toLower = t.toList.map Char.toLower) :
    isToken s = isToken t := by
  have chars (u : String) : u.toList.all isTokenChar = (u.toList.map Char.toLower).all isTokenChar := by
    rw [List.all_map]
    exact congrArg (u.toList.all ·) (funext fun c => (isTokenChar_toLower c).symm)
  have empty (u : String) : u.toList.isEmpty = (u.toList.map Char.toLower).isEmpty := by simp
  rw [isToken, isToken, chars s, chars t, empty s, empty t, h]

theorem byteLength_of_isToken {s : String} (h : isToken s = true) : byteLength s = s.toList.length := by
  rw [isToken, Bool.and_eq_true] at h
  have ascii : ∀ c ∈ s.toList, c.toNat < 0x80 := fun c hc => ascii_of_isTokenChar (List.all_eq_true.mp h.2 c hc)
  rw [byteLength, Uuid.utf8_eq_asciiBytes ascii, List.length_map]

end Http

theorem HeaderName.parse?_congr {s t : String} (h : s.toList.map Char.toLower = t.toList.map Char.toLower) :
    parse? s = parse? t := by
  have token := Http.isToken_congr h
  unfold parse?
  rw [h, token]
  by_cases ht : Http.isToken t = true
  · have length := congrArg List.length h
    rw [List.length_map, List.length_map] at length
    rw [Http.byteLength_of_isToken ht, Http.byteLength_of_isToken (token.trans ht), length]
  · simp [ht]

def VisibleText (text : String) : Prop := ∀ c ∈ text.toList, c = '\t' ∨ ' ' ≤ c ∧ c ≤ '~'

theorem VisibleText.ascii {text : String} (h : VisibleText text) : ∀ c ∈ text.toList, c.toNat < 0x80 := by
  intro c hc
  rcases h c hc with rfl | ⟨-, below⟩
  · decide
  · exact Nat.lt_of_le_of_lt (UInt32.le_iff_toNat_le.mp below) (by decide)

namespace HeaderValue

theorem visible_byteChar_iff (b : UInt8) :
    (b = 9 ∨ 32 ≤ b ∧ b ≤ 126) ↔ (Uuid.byteChar b = '\t' ∨ ' ' ≤ Uuid.byteChar b ∧ Uuid.byteChar b ≤ '~') := by
  revert b
  apply Uuid.forall_byte
  decide +kernel

theorem ascii_of_visible_utf8 {text : String} (h : ∀ b ∈ utf8 text, b = 9 ∨ 32 ≤ b ∧ b ≤ 126) :
    ∀ c ∈ text.toList, c.toNat < 0x80 := by
  apply ascii_of_utf8
  intro b hb
  rw [← Uuid.toNat_byteChar]
  exact ascii_of_visible ((isVisible_iff b).mpr (h b hb))

theorem visible_utf8_iff {text : String} : (∀ b ∈ utf8 text, b = 9 ∨ 32 ≤ b ∧ b ≤ 126) ↔ VisibleText text := by
  constructor
  · intro visible c hc
    rw [← Uuid.utf8_of_ascii (ascii_of_visible_utf8 visible)] at hc
    obtain ⟨b, hb, rfl⟩ := List.mem_map.mp hc
    exact (visible_byteChar_iff b).mp (visible b hb)
  · intro visible b hb
    apply (visible_byteChar_iff b).mpr
    apply visible
    rw [← Uuid.utf8_of_ascii visible.ascii]
    exact List.mem_map_of_mem hb

theorem visible?_utf8_eq_some_iff {text shown : String} :
    (⟨utf8 text⟩ : HeaderValue).visible? = some shown ↔ VisibleText text ∧ shown = text := by
  rw [visible?_eq_some_iff]
  constructor
  · rintro ⟨visible, chars⟩
    rw [Uuid.utf8_of_ascii (ascii_of_visible_utf8 visible)] at chars
    exact ⟨visible_utf8_iff.mp visible, String.toList_inj.mp chars⟩
  · rintro ⟨visible, rfl⟩
    exact ⟨visible_utf8_iff.mpr visible, (Uuid.utf8_of_ascii visible.ascii).symm⟩

end HeaderValue

namespace Headers

/-- The header that a pair of texts is, if it is one. -/
def pair? (p : String × String) : Option (HeaderName × HeaderValue) :=
  (HeaderName.parse? p.1).bind fun name => (HeaderValue.parse? (utf8 p.2)).map fun value => (name, value)

def given (pairs : List (String × String)) : Headers := ⟨pairs.filterMap pair?⟩

def insertAll (h : Headers) (pairs : List (String × String)) : Headers :=
  pairs.foldl (fun h p => h.insertText p.1 p.2) h

/-- A pair that is a header and after which no other pair is one of the same name. -/
def IsLast (pairs : List (String × String)) (name value : String) (n : HeaderName) : Prop :=
  ∃ front back v, pairs = front ++ (name, value) :: back ∧ pair? (name, value) = some (n, v) ∧ (given back).values n = []

theorem insertText_of_pair? {p : String × String} {header : HeaderName × HeaderValue} (hp : pair? p = some header)
    (h : Headers) : h.insertText p.1 p.2 = h.insert header.1 header.2 := by
  obtain ⟨name, hn, hp⟩ := Option.bind_eq_some_iff.mp hp
  obtain ⟨value, hv, rfl⟩ := Option.map_eq_some_iff.mp hp
  rw [insertText, hn, hv]

theorem insertText_of_no_pair {p : String × String} (hp : pair? p = none) (h : Headers) :
    h.insertText p.1 p.2 = h := by
  unfold insertText
  split
  · case h_1 hn hv =>
    rw [pair?, hn, hv] at hp
    cases hp
  · rfl

theorem eq_of_pair? {name value : String} {n : HeaderName} {v : HeaderValue} (hp : pair? (name, value) = some (n, v)) :
    HeaderName.parse? name = some n ∧ v = ⟨utf8 value⟩ := by
  obtain ⟨n', hn, hp⟩ := Option.bind_eq_some_iff.mp hp
  obtain ⟨v', hv, he⟩ := Option.map_eq_some_iff.mp hp
  cases he
  refine ⟨hn, ?_⟩
  rw [HeaderValue.parse?] at hv
  split at hv
  · exact (Option.some.inj hv).symm
  · cases hv

theorem insertAll_append_of_no_pair {p : String × String} (hp : pair? p = none) (h : Headers)
    (front back : List (String × String)) : h.insertAll (front ++ p :: back) = h.insertAll (front ++ back) := by
  simp only [insertAll, List.foldl_append, List.foldl_cons, insertText_of_no_pair hp]

theorem values_given_append (front back : List (String × String)) (name : HeaderName) :
    (given (front ++ back)).values name = (given front).values name ++ (given back).values name := by
  simp [given, values, List.filterMap_append]

theorem values_given_self {p : String × String} {header : HeaderName × HeaderValue} (hp : pair? p = some header) :
    (given [p]).values header.1 = [header.2] := by
  simp [given, values, hp]

theorem values_given_of_ne {p : String × String} {name : HeaderName}
    (h : ∀ header, pair? p = some header → header.1 ≠ name) : (given [p]).values name = [] := by
  cases hp : pair? p with
  | none => simp [given, values, hp]
  | some header => simp [given, values, hp, h header hp]

/-- The last header of a name decides; without any the name keeps its values. -/
theorem values_insertAll (h : Headers) (pairs : List (String × String)) (name : HeaderName) :
    (h.insertAll pairs).values name = ((given pairs).values name).getLast?.elim (h.values name) fun value => [value] := by
  induction pairs using List.reverseRecOn with
  | nil => rfl
  | append_singleton pairs p ih =>
    have step : h.insertAll (pairs ++ [p]) = (h.insertAll pairs).insertText p.1 p.2 := by
      rw [insertAll, List.foldl_append]
      rfl
    rw [step, values_given_append]
    cases hp : pair? p with
    | none =>
      rw [insertText_of_no_pair hp, values_given_of_ne (by simp [hp]), List.append_nil, ih]
    | some header =>
      rw [insertText_of_pair? hp]
      by_cases hn : header.1 = name
      · subst hn
        rw [values_given_self hp, values_insert_self, List.getLast?_concat]
        rfl
      · rw [values_insert_of_ne _ _ (Ne.symm hn), values_given_of_ne (by simp [hp, hn]), List.append_nil, ih]

theorem IsLast.parse?_eq {pairs : List (String × String)} {name value : String} {n : HeaderName}
    (h : IsLast pairs name value n) : HeaderName.parse? name = some n := by
  obtain ⟨front, back, v, -, hp, -⟩ := h
  exact (eq_of_pair? hp).1

theorem IsLast.values_insertAll {pairs : List (String × String)} {name value : String} {n : HeaderName}
    (last : IsLast pairs name value n) (h : Headers) : (h.insertAll pairs).values n = [⟨utf8 value⟩] := by
  obtain ⟨front, back, v, rfl, hp, later⟩ := last
  obtain ⟨-, rfl⟩ := eq_of_pair? hp
  rw [Headers.values_insertAll, List.append_cons, values_given_append, values_given_append, later, List.append_nil,
    values_given_self hp, List.getLast?_concat]
  rfl

theorem given_of_no_last {pairs : List (String × String)} {n : HeaderName}
    (no_last : ¬ ∃ name value, IsLast pairs name value n) : (given pairs).values n = [] := by
  induction pairs with
  | nil => rfl
  | cons p rest ih =>
    have none_later : (given rest).values n = [] := by
      apply ih
      rintro ⟨name, value, front, back, v, rfl, hp, later⟩
      exact no_last ⟨name, value, p :: front, back, v, rfl, hp, later⟩
    rw [← List.singleton_append, values_given_append, none_later, List.append_nil]
    apply values_given_of_ne
    intro header hp hn
    exact no_last ⟨p.1, p.2, [], rest, header.2, rfl, hn ▸ hp, none_later⟩

end Headers

namespace Response

theorem Builder.headers_header (b : Builder) (name value : String) :
    (b.header name value).headers.getD .empty = (b.headers.getD .empty).insertText name value := by
  rw [header, Headers.insertText]
  cases HeaderName.parse? name with
  | none => rfl
  | some n => cases HeaderValue.parse? (utf8 value) <;> rfl

theorem Builder.build_foldl_header (b : Builder) (pairs : List (String × String)) :
    (pairs.foldl (fun b p => b.header p.1 p.2) b).build =
      { b.build with headers := b.build.headers.insertAll pairs } := by
  induction pairs generalizing b with
  | nil => rfl
  | cons p rest ih =>
    rw [List.foldl_cons, ih]
    simp only [build, headers_header]
    rfl

theorem foldl_withHeader (r : Response) (pairs : List (String × String)) :
    pairs.foldl (fun r p => r.withHeader p.1 p.2) r = { r with headers := r.headers.insertAll pairs } := by
  induction pairs generalizing r with
  | nil => rfl
  | cons p rest ih =>
    rw [List.foldl_cons, ih]
    rfl

/-- What pairs of texts make of a response. -/
structure Carries (pairs : List (String × String)) (plain r : Response) : Prop where
  status_eq : r.status = plain.status
  body_eq : r.body = plain.body
  contentCount_eq : r.contentCount = plain.contentCount
  last_only : ∀ name value n, Headers.IsLast pairs name value n → r.headers.values n = [⟨utf8 value⟩]
  kept : ∀ n, (¬ ∃ name value, Headers.IsLast pairs name value n) → r.headers.values n = plain.headers.values n
  shown : ∀ name value n, Headers.IsLast pairs name value n →
    ∀ spelled : String, spelled.toList.map Char.toLower = name.toList.map Char.toLower →
    ∀ text, r.header spelled = some text ↔ VisibleText value ∧ text = value

theorem carries_insertAll (plain : Response) (pairs : List (String × String)) :
    Carries pairs plain { plain with headers := plain.headers.insertAll pairs } := by
  refine ⟨rfl, rfl, rfl, ?_, ?_, ?_⟩
  · intro name value n last
    exact last.values_insertAll plain.headers
  · intro n no_last
    rw [Headers.values_insertAll, Headers.given_of_no_last no_last]
    rfl
  · intro name value n last spelled same text
    have only := last.values_insertAll plain.headers
    rw [header, Headers.lookup, HeaderName.parse?_congr same, last.parse?_eq, Option.bind_some, Headers.get?, only]
    exact HeaderValue.visible?_utf8_eq_some_iff

/-- What holds of all pairs, given either way. -/
theorem headers_given_alike (b : Builder) (pairs : List (String × String)) :
    let built (pairs : List (String × String)) := (pairs.foldl (fun b p => b.header p.1 p.2) b).build
    built pairs = pairs.foldl (fun r p => r.withHeader p.1 p.2) b.build ∧
      Carries pairs b.build (built pairs) ∧
      ∀ front p back, pairs = front ++ p :: back → Headers.pair? p = none →
        built pairs = built (front ++ back) := by
  intro built
  have built_eq (pairs : List (String × String)) :
      built pairs = { b.build with headers := b.build.headers.insertAll pairs } := b.build_foldl_header pairs
  refine ⟨?_, ?_, ?_⟩
  · rw [built_eq, foldl_withHeader]
  · rw [built_eq]
    exact carries_insertAll b.build pairs
  · intro front p back parts hp
    rw [built_eq, built_eq, parts, Headers.insertAll_append_of_no_pair hp]

/-- Of four pairs two are headers, and both have the same name. -/
example : (Builder.build ([("X-A", "1"), ("x-a", "2"), ("bad name", "3"), ("X-a", "\n")].foldl
    (fun b p => b.header p.1 p.2) {})).headers.entries = [(⟨"x-a"⟩, ⟨utf8 "2"⟩)] := by decide +kernel

end Response

end AccessLog
