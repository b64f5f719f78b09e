import AccessLog.Proofs.Text.Pieces

/-!
# Lists written and read back

The commas of a text part it into pieces, and each piece with more than blanks in it gives one entry, in order. Entries
written with commas between them, and with or without blanks behind these, are read back as they were; what can be an
entry of some text is what a list can hold.
-/

namespace AccessLog

namespace Text

variable {separator : Char} {s : List Char} {ps es : List (List Char)}

/-- The text is these pieces, with a separator between each two and none in any of them. -/
structure Parted (separator : Char) (s : List Char) (ps : List (List Char)) : Prop where
  ne_nil : ps ≠ []
  not_mem : ∀ p ∈ ps, separator ∉ p
  joined : s = [separator].intercalate ps

theorem parted_pieces (separator : Char) (s : List Char) : Parted separator s (pieces separator s) := by
  refine ⟨pieces_ne_nil separator s, fun p hp => (between_of_mem_pieces hp).not_mem, ?_⟩
  rw [pieces_eq_splitOn, List.intercalate_splitOn]

theorem Parted.pieces_eq (h : Parted separator s ps) : pieces separator s = ps := by
  rw [pieces_eq_splitOn, h.joined]
  exact List.splitOn_intercalate separator h.not_mem h.ne_nil

inductive Kept : List (List Char) → List (List Char) → Prop
  | nil : Kept [] []
  | blank {p : List Char} {ps es : List (List Char)} : Blank p → Kept ps es → Kept (p :: ps) es
  | entry {left e right : List Char} {ps es : List (List Char)} : Blank left → Blank right → Trimmed e →
      e ≠ [] → Kept ps es → Kept ((left ++ e ++ right) :: ps) (e :: es)

theorem blank_nil : Blank [] := fun _ hc => absurd hc List.not_mem_nil

theorem trim_eq_nil_iff : trim s = [] ↔ Blank s := by
  rw [trim_eq_iff]
  constructor
  · rintro ⟨-, left, right, rfl, hl, hr⟩ c hc
    rw [List.append_nil, List.mem_append] at hc
    exact hc.elim (hl c) (hr c)
  · intro h
    exact ⟨trimmed_trim [], s, [], by simp, h, blank_nil⟩

theorem kept_trim (ps : List (List Char)) : Kept ps ((ps.map trim).filter (!·.isEmpty)) := by
  induction ps with
  | nil => exact .nil
  | cons p rest ih =>
    by_cases hp : trim p = []
    · rw [List.map_cons, List.filter_cons_of_neg (by simp [hp])]
      exact .blank (trim_eq_nil_iff.mp hp) ih
    · obtain ⟨ht, left, right, he, hl, hr⟩ := trim_eq_iff.mp (rfl : trim p = trim p)
      have kept := Kept.entry hl hr ht hp ih
      rw [List.map_cons, List.filter_cons_of_pos (by simp [hp])]
      rwa [← he] at kept

theorem Kept.eq_trim (h : Kept ps es) : (ps.map trim).filter (!·.isEmpty) = es := by
  induction h with
  | nil => rfl
  | blank hp _ ih =>
    rw [List.map_cons, trim_eq_nil_iff.mpr hp]
    exact ih
  | @entry left e right ps es hl hr ht hn _ ih =>
    have trimmed : trim (left ++ e ++ right) = e := trim_eq_iff.mpr ⟨ht, left, right, rfl, hl, hr⟩
    rw [List.map_cons, trimmed, List.filter_cons_of_pos (by simp [hn]), ih]

theorem entries_eq_iff : entries s = es ↔ ∃ ps, Parted ',' s ps ∧ Kept ps es := by
  constructor
  · rintro rfl
    exact ⟨_, parted_pieces ',' s, kept_trim _⟩
  · rintro ⟨ps, hp, hk⟩
    rw [entries, hp.pieces_eq, hk.eq_trim]

/-- What a list can hold: it is not empty, has no blank at either end and no comma. -/
structure Listable (e : List Char) : Prop where
  ne_nil : e ≠ []
  trimmed : Trimmed e
  comma_not_mem : ',' ∉ e

theorem Entry.listable {e : List Char} (h : Entry s e) : Listable e := by
  obtain ⟨left, right, between, -, -⟩ := h.between
  refine ⟨h.ne_nil, h.trimmed, fun hc => between.not_mem ?_⟩
  exact List.mem_append_left _ (List.mem_append_right _ hc)

theorem Blank.comma_not_mem (h : Blank s) : ',' ∉ s := by
  intro hc
  have blank : isBlank ',' = true := h ',' hc
  exact absurd blank (by decide)

theorem entries_append_comma (s rest : List Char) : entries (s ++ ',' :: rest) = entries s ++ entries rest := by
  simp only [entries, pieces_eq_splitOn]
  rw [List.splitOn_append_cons_self, List.map_append, List.filter_append]

theorem entries_of_blank (h : Blank s) : entries s = [] := by
  rw [entries, pieces_of_not_mem h.comma_not_mem, List.map_singleton, trim_eq_nil_iff.mpr h]
  rfl

theorem Listable.entries_padded {e pad : List Char} (h : Listable e) (hp : Blank pad) :
    entries (pad ++ e) = [e] := by
  have free : ',' ∉ pad ++ e := by
    rw [List.mem_append, not_or]
    exact ⟨hp.comma_not_mem, h.comma_not_mem⟩
  have trimmed : trim (pad ++ e) = e :=
    trim_eq_iff.mpr ⟨h.trimmed, pad, [], by simp, hp, blank_nil⟩
  rw [entries, pieces_of_not_mem free, List.map_singleton, trimmed,
    List.filter_cons_of_pos (by simp [h.ne_nil]), List.filter_nil]

/-- Entries with a comma and blanks between each two are read back, also with other blanks before the first. -/
theorem entries_joined {front pad : List Char} (hf : Blank front) (hp : Blank pad) (h : ∀ e ∈ es, Listable e) :
    entries (front ++ (',' :: pad).intercalate es) = es := by
  induction es generalizing front with
  | nil =>
    rw [List.intercalate_nil, List.append_nil]
    exact entries_of_blank hf
  | cons e rest ih =>
    have first : entries (front ++ e) = [e] := (h e List.mem_cons_self).entries_padded hf
    cases rest with
    | nil => rwa [List.intercalate_singleton]
    | cons f more =>
      have others : entries (pad ++ (',' :: pad).intercalate (f :: more)) = f :: more :=
        ih hp fun g hg => h g (List.mem_cons_of_mem _ hg)
      calc entries (front ++ (',' :: pad).intercalate (e :: f :: more))
          = entries ((front ++ e) ++ ',' :: (pad ++ (',' :: pad).intercalate (f :: more))) := by
            rw [List.intercalate_cons_cons]
            simp only [List.append_assoc, List.cons_append]
        _ = entries (front ++ e) ++ entries (pad ++ (',' :: pad).intercalate (f :: more)) :=
            entries_append_comma ..
        _ = e :: f :: more := by rw [first, others, List.singleton_append]

end Text

variable {text : String} {l : List String}

theorem listable_of_mem_commaList {e : String} (h : e ∈ commaList text) : Text.Listable e.toList :=
  (mem_commaList_iff.mp h).listable

theorem map_toList_commaList (text : String) :
    (commaList text).map String.toList = Text.entries text.toList := by
  rw [commaList, List.map_map]
  exact List.map_id'' (fun _ => String.toList_ofList) _

theorem map_toList_inj {m : List String} : l.map String.toList = m.map String.toList ↔ l = m :=
  List.map_inj_right fun _ _ => String.toList_inj.mp

theorem commaList_eq_iff :
    commaList text = l ↔ ∃ ps, Text.Parted ',' text.toList ps ∧ Text.Kept ps (l.map String.toList) := by
  rw [← Text.entries_eq_iff, ← map_toList_commaList, map_toList_inj]

theorem commaList_joined {separator : String} {pad : List Char} (hs : separator.toList = ',' :: pad)
    (hp : Text.Blank pad) (h : ∀ e ∈ l, Text.Listable e.toList) : commaList (separator.intercalate l) = l := by
  have listable : ∀ e ∈ l.map String.toList, Text.Listable e := List.forall_mem_map.mpr h
  rw [← map_toList_inj, map_toList_commaList, String.toList_intercalate, hs]
  exact Text.entries_joined Text.blank_nil hp listable

end AccessLog
