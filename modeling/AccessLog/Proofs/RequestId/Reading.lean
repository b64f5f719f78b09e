import AccessLog.Proofs.RequestId

/-!
# Texts that are read as identifiers

A text is read as an identifier exactly if its characters spell one, and then as that one. Any other text, of whatever
characters, is an error that carries it, and reading it gives one warning with the text in it.
-/

namespace AccessLog

namespace Uuid

theorem Spelling.ascii {u : Uuid} {cs : List Char} (h : Spelling u cs) : ∀ c ∈ cs, c.toNat < 0x80 := by
  have low : ∀ c ∈ marks, c.toNat < 0x80 := forall_mem_of_all (by decide)
  exact fun c hc => toLower_ascii (low _ (toLower_mem_marks h hc))

theorem parse_eq_ok {raw : String} {u : Uuid} : parse raw = .ok u ↔ Spelling u raw.toList := by
  rw [parse, parseBytes_eq_ok]
  constructor
  · intro h
    have bytes : ∀ b ∈ utf8 raw, b.toNat < 0x80 := by
      intro b hb
      rw [← toNat_byteChar]
      exact h.ascii _ (List.mem_map_of_mem hb)
    rwa [utf8_of_ascii (ascii_of_utf8 bytes)] at h
  · intro h
    rwa [utf8_of_ascii h.ascii]

theorem Spelling.unique {u v : Uuid} {cs : List Char} (hu : Spelling u cs) (hv : Spelling v cs) : u = v := by
  rw [← String.toList_ofList (l := cs)] at hu hv
  exact Except.ok.inj ((parse_eq_ok.mpr hu).symm.trans (parse_eq_ok.mpr hv))

end Uuid

namespace MalformedRequestId

theorem recorded_warning (e : MalformedRequestId) :
    e.warning.level = .warn ∧ e.warning.recorded.message = some "Unable to parse purported request id" ∧
      e.warning.recorded.data = [("error", .text e.cause.message), ("raw", .text e.raw)] := by
  have order : ("error" : String) < "raw" := by decide
  refine ⟨rfl, rfl, ?_⟩
  simp [warning, Trace.note, Trace.recorded, Trace.record, Trace.insertSorted, Trace.messageName, Trace.textual?,
    Trace.scalar, order]

end MalformedRequestId

namespace RequestId

theorem parse_of_spelling {raw : String} {u : Uuid} (h : Uuid.Spelling u raw.toList) :
    parse (some raw) = .ok (some u) := by
  rw [parse, Uuid.parse_eq_ok.mpr h]

theorem parse_of_no_spelling {raw : String} (h : ∀ u, ¬ Uuid.Spelling u raw.toList) :
    ∃ cause, parse (some raw) = .error ⟨raw, cause⟩ := by
  cases hp : Uuid.parse raw with
  | ok u => exact absurd (Uuid.parse_eq_ok.mp hp) (h u)
  | error cause => exact ⟨cause, by rw [parse, hp]⟩

theorem parse_eq_ok_iff {raw : String} {id : Option Uuid} :
    parse (some raw) = .ok id ↔ ∃ u, id = some u ∧ Uuid.Spelling u raw.toList := by
  constructor
  · intro h
    by_cases hs : ∃ u, Uuid.Spelling u raw.toList
    · obtain ⟨u, hu⟩ := hs
      rw [parse_of_spelling hu] at h
      exact ⟨u, (Except.ok.inj h).symm, hu⟩
    · obtain ⟨cause, he⟩ := parse_of_no_spelling (not_exists.mp hs)
      rw [he] at h
      cases h
  · rintro ⟨u, rfl, hu⟩
    exact parse_of_spelling hu

/-- Which texts are read as identifiers and as which, and what becomes of all others; the URN mark may be in any letter
case. -/
theorem read_spellings (raw : String) :
    (∀ id, parse (some raw) = .ok id ↔ ∃ u, id = some u ∧ Uuid.Spelling u raw.toList) ∧
    (∀ u, Uuid.Spelling u raw.toList → read (some raw) = (some u, [])) ∧
    ((∀ u, ¬ Uuid.Spelling u raw.toList) →
      (∃ cause, parse (some raw) = .error ⟨raw, cause⟩) ∧
      ∃ w, read (some raw) = (none, [w]) ∧ w.level = .warn ∧
        w.recorded.message = some "Unable to parse purported request id" ∧
        w.recorded.data.lookup "raw" = some (.text raw)) ∧
    (∀ u v, Uuid.Spelling u raw.toList → Uuid.Spelling v raw.toList → u = v) ∧
    (∀ u : Uuid, u.Canonical u.text ∧ parse (some u.text) = .ok (some u)) ∧
    parse none = .ok none ∧ read none = (none, []) := by
  refine ⟨fun id => parse_eq_ok_iff, ?_, ?_, fun u v hu hv => hu.unique hv, ?_, rfl, rfl⟩
  · intro u hu
    rw [read, parse_of_spelling hu]
  · intro hs
    obtain ⟨cause, he⟩ := parse_of_no_spelling hs
    obtain ⟨level, message, data⟩ := MalformedRequestId.recorded_warning ⟨raw, cause⟩
    refine ⟨⟨cause, he⟩, _, by rw [read, he], level, message, ?_⟩
    rw [data]
    rfl
  · intro u
    exact ⟨u.canonical_text, parse_of_spelling u.canonical_text.spelling⟩

/-- The mark is in capitals, and the text none of the spellings with a mark in small letters. -/
theorem parse_capital_mark :
    let raw := "URN:UUID:3fa85f64-5717-4562-b3fc-2c963f66afa6"
    parse (some raw) = .ok (some ⟨0x3fa85f6457174562b3fc2c963f66afa6, by decide⟩) ∧
    ∀ u digits, Uuid.Digits u digits →
      raw.toList ≠ digits ∧ raw.toList ≠ Uuid.grouped digits ∧
      raw.toList ≠ '\x7b' :: (Uuid.grouped digits ++ ['\x7d']) ∧
      raw.toList ≠ "urn:uuid:".toList ++ Uuid.grouped digits := by
  intro raw
  constructor
  · have digits : Uuid.Digits ⟨0x3fa85f6457174562b3fc2c963f66afa6, by decide⟩
        "3fa85f6457174562b3fc2c963f66afa6".toList :=
      ⟨by decide, Uuid.forall_mem_of_all (by decide), by decide⟩
    have mark : "URN:UUID:".toList.map Char.toLower = "urn:uuid:".toList := by decide
    have spelled : raw.toList =
        "URN:UUID:".toList ++ Uuid.grouped "3fa85f6457174562b3fc2c963f66afa6".toList := by decide
    exact parse_of_spelling (spelled ▸ Uuid.Spelling.urn digits mark)
  · intro u digits hd
    have length : raw.toList.length = 45 := by decide
    have grouped := Uuid.length_grouped hd.length_eq
    refine ⟨?_, ?_, ?_, ?_⟩
    · intro he
      rw [he, hd.length_eq] at length
      cases length
    · intro he
      rw [he, grouped] at length
      cases length
    · intro he
      rw [he, List.length_cons, List.length_append, grouped] at length
      cases length
    · intro he
      have first : raw.toList.head? = "urn:uuid:".toList.head? := by rw [he]; rfl
      revert first
      decide

end RequestId

end AccessLog
