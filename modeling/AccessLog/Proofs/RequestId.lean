import AccessLog.Exchange
import AccessLog.Proofs.Uuid.Spelling

/-!
# Identifiers in headers

A message names an identifier when the first value of its identifier header spells one. That is what is read from
it; any other value, whatever its bytes, gives none.
-/

namespace AccessLog

namespace Uuid

def marks : List Char := "0123456789abcdef-\x7b\x7durn:i".toList

theorem toLower_mem_marks {u : Uuid} {cs : List Char} (h : Spelling u cs) {c : Char} (hc : c ∈ cs) :
    c.toLower ∈ marks := by
  have digit : ∀ {digits : List Char}, Digits u digits → c ∈ digits → c.toLower ∈ marks :=
    fun hd hm => List.mem_append_left _ (hd.mem_alphabet c hm)
  have group : ∀ {digits : List Char}, Digits u digits → c ∈ grouped digits → c.toLower ∈ marks := by
    intro digits hd hm
    rcases mem_grouped hm with hm | rfl
    · exact digit hd hm
    · decide
  cases h with
  | simple hd => exact digit hd hc
  | hyphenated hd => exact group hd hc
  | braced hd =>
    rcases List.mem_cons.mp hc with rfl | hc
    · decide
    rcases List.mem_append.mp hc with hc | hc
    · exact group hd hc
    · obtain rfl := List.mem_singleton.mp hc
      decide
  | urn hd hm =>
    rcases List.mem_append.mp hc with hc | hc
    · have low : ∀ d ∈ "urn:uuid:".toList, d ∈ marks := forall_mem_of_all (by decide)
      exact low _ (hm ▸ List.mem_map_of_mem hc)
    · exact group hd hc

theorem visible_of_marks (b : UInt8) :
    (byteChar b).toLower ∈ marks → HeaderValue.isVisible b = true := by
  revert b
  apply forall_byte
  decide +kernel

end Uuid

namespace HeaderValue

theorem visible?_eq {v : HeaderValue} (h : v.bytes.all isVisible = true) :
    v.visible? = some (String.ofList (v.bytes.map Uuid.byteChar)) := if_pos h

theorem ascii_of_visible {b : UInt8} (h : isVisible b = true) : (Uuid.byteChar b).toNat < 0x80 := by
  revert b
  apply Uuid.forall_byte
  decide +kernel

theorem parse_visible {v : HeaderValue} {raw : String} (h : v.visible? = some raw) :
    Uuid.parse raw = Uuid.parseBytes v.bytes := by
  rw [visible?] at h
  split at h
  · case isTrue hv =>
    cases h
    have ha : ∀ c ∈ v.bytes.map Uuid.byteChar, c.toNat < 0x80 := by
      intro c hc
      obtain ⟨b, hb, rfl⟩ := List.mem_map.mp hc
      exact ascii_of_visible (List.all_eq_true.mp hv b hb)
    change Uuid.parseBytes (utf8 (String.ofList (v.bytes.map Uuid.byteChar))) = _
    rw [utf8_ofList_ascii ha]
    exact congrArg Uuid.parseBytes (Uuid.map_asciiByte_byteChar v.bytes)
  · cases h

theorem visible?_of_spelling {v : HeaderValue} {u : Uuid}
    (h : Uuid.Spelling u (v.bytes.map Uuid.byteChar)) :
    v.visible? = some (String.ofList (v.bytes.map Uuid.byteChar)) := by
  refine visible?_eq (List.all_eq_true.mpr fun b hb => Uuid.visible_of_marks b ?_)
  exact Uuid.toLower_mem_marks h (List.mem_map_of_mem hb)

end HeaderValue

namespace Headers

def Names (h : Headers) (u : Uuid) : Prop :=
  ∃ v, h.get? HeaderName.requestId = some v ∧ Uuid.Spelling u (v.bytes.map Uuid.byteChar)

theorem lookup_requestId (h : Headers) :
    h.lookup HeaderName.requestId.text = (h.get? HeaderName.requestId).bind HeaderValue.visible? := by
  have hn : HeaderName.parse? HeaderName.requestId.text = some HeaderName.requestId := by decide
  rw [lookup, hn, Option.bind_some]

theorem Names.parse_eq {h : Headers} {u : Uuid} (hu : h.Names u) :
    RequestId.parse (h.lookup HeaderName.requestId.text) = .ok (some u) := by
  obtain ⟨v, hv, hs⟩ := hu
  have ht := HeaderValue.visible?_of_spelling hs
  rw [lookup_requestId, hv, Option.bind_some, ht, RequestId.parse, HeaderValue.parse_visible ht,
    Uuid.parseBytes_eq_ok.mpr hs]

theorem names_of_parse {h : Headers} {u : Uuid}
    (hp : RequestId.parse (h.lookup HeaderName.requestId.text) = .ok (some u)) : h.Names u := by
  rw [lookup_requestId] at hp
  cases hv : h.get? HeaderName.requestId with
  | none => rw [hv] at hp; cases hp
  | some v =>
    rw [hv, Option.bind_some] at hp
    cases ht : v.visible? with
    | none => rw [ht] at hp; cases hp
    | some raw =>
      rw [ht, RequestId.parse, HeaderValue.parse_visible ht] at hp
      cases hb : Uuid.parseBytes v.bytes with
      | error e => rw [hb] at hp; cases hp
      | ok id =>
        rw [hb] at hp
        cases hp
        exact ⟨v, hv, Uuid.parseBytes_eq_ok.mp hb⟩

theorem names_of_canonical {h : Headers} {u : Uuid} {text : String} (ht : u.Canonical text)
    (hv : h.get? HeaderName.requestId = some ⟨utf8 text⟩) : h.Names u := by
  have hs := ht.spelling
  obtain ⟨digits, hd, -, hg⟩ := ht
  have ha : ∀ c ∈ text.toList, c.toNat < 0x80 := hg ▸ Uuid.grouped_ascii hd.ascii
  refine ⟨⟨utf8 text⟩, hv, ?_⟩
  rwa [Uuid.utf8_of_ascii ha]

@[simp] theorem get?_insert_self (h : Headers) (name : HeaderName) (value : HeaderValue) :
    (h.insert name value).get? name = some value := by
  rw [get?, values_insert_self, List.head?_cons]

end Headers

end AccessLog
