import AccessLog.Counters
import AccessLog.Proofs.Decimal.Whole
import AccessLog.Proofs.Text.Pieces

/-!
# What is read from exported counters

A reader of the text takes its lines, and from a line that has a name, a blank and a value the two of them. It finds the
counters without labels in their order and nothing else: no reason of a drop, whatever is in it, makes another.
-/

namespace AccessLog

namespace Exposition

def isNameChar (c : Char) : Bool := c.isAlphanum || c = '_'

def sample? (line : List Char) : Option (String × String) :=
  match line.dropWhile isNameChar with
  | ' ' :: value => some (String.ofList (line.takeWhile isNameChar), String.ofList value)
  | _ => none

def samples (text : String) : List (String × String) := (Text.pieces '\n' text.toList).filterMap sample?

/-- All values that the text gives for a name. -/
def valuesOf (name text : String) : List String := ((samples text).filter (·.1 = name)).map (·.2)

theorem sample?_of_name {name : String} (hn : name.toList.all isNameChar = true) {c : Char}
    (hc : isNameChar c = false) (rest : List Char) :
    sample? (name.toList ++ c :: rest) = if c = ' ' then some (name, String.ofList rest) else none := by
  have chars : ∀ d ∈ name.toList, isNameChar d = true := List.all_eq_true.mp hn
  have behind : (c :: rest).dropWhile isNameChar = c :: rest := List.dropWhile_cons_of_neg (by simp [hc])
  have ahead : (c :: rest).takeWhile isNameChar = [] := List.takeWhile_cons_of_neg (by simp [hc])
  unfold sample?
  rw [List.dropWhile_append_of_pos chars, List.takeWhile_append_of_pos chars, behind, ahead, List.append_nil,
    String.ofList_toList]
  by_cases blank : c = ' '
  · simp [blank]
  · rw [if_neg blank]
    split
    · simp_all
    · rfl

end Exposition

theorem NumberLayout.mem_render_plain {s : Decimal.Scaled} {c : Char} (h : c ∈ plain.render s) :
    Decimal.isDigit c = true ∨ c = '.' := by
  have zero : Decimal.isDigit '0' = true := by decide
  have written {d : Char} (hd : d ∈ Decimal.ofNat s.digits) : Decimal.isDigit d = true :=
    Decimal.isDigit_of_mem_ofNat hd
  simp only [render, plain] at h
  split at h
  · rw [List.mem_singleton.mp h]
    exact .inl zero
  · split at h
    · split at h
      · simp only [Bool.false_eq_true, if_false, List.append_nil, List.mem_append, List.mem_replicate] at h
        rcases h with h | ⟨-, rfl⟩
        · exact .inl (written h)
        · exact .inl zero
      · split at h
        · simp only [List.mem_append, List.mem_cons] at h
          rcases h with h | rfl | h
          · exact .inl (written (List.mem_of_mem_take h))
          · exact .inr rfl
          · exact .inl (written (List.mem_of_mem_drop h))
        · simp only [List.mem_cons, List.cons_append, List.mem_append, List.mem_replicate] at h
          rcases h with rfl | rfl | ⟨-, rfl⟩ | h
          · exact .inl zero
          · exact .inr rfl
          · exact .inl zero
          · exact .inl (written h)
    · simp_all

namespace Family

open Exposition (isNameChar sample?)

theorem newline_not_mem_countText (n : UInt64) : '\n' ∉ (countText n).toList := by
  unfold countText
  cases Double.ofFloat n.toFloat with
  | notANumber => simp [Double.text?]
  | infinite negative => simp [Double.text?]
  | finite negative mantissa power atPower =>
    simp only [Double.text?, Option.getD_some, String.toList_ofList, List.mem_append, not_or]
    constructor
    · cases negative <;> decide
    · intro h
      rcases NumberLayout.mem_render_plain h with h | h
      · revert h
        decide
      · revert h
        decide

theorem newline_not_mem_escapeLabel (c : Char) : '\n' ∉ escapeLabel c := by
  unfold escapeLabel
  split
  · simp
  · split
    · simp
    · split
      · simp
      · rename_i hn
        exact fun h => hn (List.mem_singleton.mp h).symm

def sampleLine (name : String) : Option String × UInt64 → List Char
  | (none, n) => name.toList ++ ' ' :: (countText n).toList
  | (some v, n) =>
    name.toList ++ '\x7b' :: ("reason=\"".toList ++ v.toList.flatMap escapeLabel ++ "\"\x7d ".toList
      ++ (countText n).toList)

def lines (f : Family) : List (List Char) :=
  if f.samples.isEmpty then []
  else ('#' :: " HELP ".toList ++ f.name.toList ++ ' ' :: f.help.toList) ::
    ('#' :: " TYPE ".toList ++ f.name.toList ++ " counter".toList) :: f.samples.map (sampleLine f.name)

theorem toList_sampleText (name : String) (sample : Option String × UInt64) :
    (sampleText name sample).toList = sampleLine name sample ++ ['\n'] := by
  obtain ⟨label, n⟩ := sample
  cases label <;> simp [sampleText, sampleLine]

theorem toList_text (f : Family) : f.text.toList = f.lines.flatMap (· ++ ['\n']) := by
  unfold text lines
  split
  · rfl
  · simp [String.toList_join, List.flatMap_map, toList_sampleText]

/-- A name of a metric, and a help text on one line. -/
structure Legible (f : Family) : Prop where
  name_chars : f.name.toList.all isNameChar = true
  help_line : '\n' ∉ f.help.toList

def unlabelled (f : Family) : List (String × String) :=
  f.samples.filterMap fun (label, n) => if label.isNone then some (f.name, countText n) else none

variable {f : Family}

theorem Legible.newline_not_mem_name (hf : f.Legible) : '\n' ∉ f.name.toList := by
  intro h
  have := List.all_eq_true.mp hf.name_chars _ h
  revert this
  decide

theorem newline_not_mem_lines (hf : f.Legible) : ∀ line ∈ f.lines, '\n' ∉ line := by
  have name := hf.newline_not_mem_name
  have help := hf.help_line
  unfold lines
  split
  · simp
  · simp only [List.mem_cons, List.mem_map]
    rintro line (rfl | rfl | ⟨⟨label, n⟩, -, rfl⟩)
    · simp [name, help]
    · simp [name]
    · cases label with
      | none => simp [sampleLine, name, newline_not_mem_countText]
      | some v => simp [sampleLine, name, newline_not_mem_countText, newline_not_mem_escapeLabel]

theorem filterMap_sample?_lines (hf : f.Legible) : f.lines.filterMap sample? = f.unlabelled := by
  have comment (rest : List Char) : sample? ('#' :: rest) = none := rfl
  have line (sample : Option String × UInt64) : sample? (sampleLine f.name sample) =
      if sample.1.isNone then some (f.name, countText sample.2) else none := by
    obtain ⟨label, n⟩ := sample
    cases label with
    | none => simp [sampleLine, Exposition.sample?_of_name hf.name_chars (c := ' ') (by decide)]
    | some v => simp [sampleLine, Exposition.sample?_of_name hf.name_chars (c := '\x7b') (by decide)]
  unfold lines unlabelled
  split
  · simp_all
  · simp only [List.cons_append, List.filterMap_cons_none (comment _), List.filterMap_map, Function.comp_def, line]

theorem samples_join_text {families : List Family} (h : ∀ f ∈ families, f.Legible) :
    Exposition.samples (String.join (families.map text)) = families.flatMap unlabelled := by
  have chars : (String.join (families.map text)).toList = (families.flatMap lines).flatMap (· ++ ['\n']) := by
    simp [String.toList_join, List.flatMap_map, toList_text, List.flatMap_assoc]
  have ended : ∀ line ∈ families.flatMap lines, '\n' ∉ line := by
    intro line hl
    obtain ⟨f, hf, hl⟩ := List.mem_flatMap.mp hl
    exact newline_not_mem_lines (h f hf) line hl
  have empty : [[]].filterMap sample? = [] := rfl
  unfold Exposition.samples
  rw [chars, Text.pieces_lines ended, List.filterMap_append, empty, List.append_nil, List.filterMap_flatMap]
  exact List.flatMap_congr fun f hf => filterMap_sample?_lines (h f hf)

/-- A label that holds another line of the text. -/
example : Exposition.samples (text ⟨"drops", "Drops", [(some "full\nothers 7", 1), (none, 2)]⟩) =
    [("drops", countText 2)] := by
  let f : Family := ⟨"drops", "Drops", [(some "full\nothers 7", 1), (none, 2)]⟩
  have legible : ∀ g ∈ [f], g.Legible := List.forall_mem_singleton.mpr ⟨by decide +kernel, by decide +kernel⟩
  have read := samples_join_text legible
  exact read

end Family

namespace Counters

theorem legible_of_mem_families {c : Counters} {f : Family} (h : f ∈ c.families) : f.Legible := by
  simp only [families, List.mem_cons, List.not_mem_nil, or_false] at h
  rcases h with rfl | rfl | rfl | rfl <;> exact ⟨by dsimp only; decide +kernel, by dsimp only; decide +kernel⟩

/-- The counters without labels are read back, whatever was dropped. -/
theorem samples_exportText (c : Counters) : Exposition.samples c.exportText =
    [("request_log_events_blacklisted_total", Family.countText c.blacklisted),
     ("request_log_events_emitted_total", Family.countText c.emitted),
     ("request_log_malformed_request_ids_total", Family.countText c.malformed)] := by
  rw [exportText, Family.samples_join_text fun f hf => legible_of_mem_families hf]
  simp [families, Family.unlabelled]

end Counters

end AccessLog
