import AccessLog.Proofs.Blacklist.Configured
import AccessLog.Proofs.Text.Lists

/-!
# The lists of the settings

A variable is read as the list of its entries, and the summary at the start tells both lists of paths, each in a line
of its own. Written as there, or with commas alone, the list of any text is read back, and so is every list that can be
one.
-/

namespace AccessLog

/-- Written with commas between the entries, with and without a blank behind each, the list is read back. -/
structure ReadBack (l : List String) : Prop where
  spaced : commaList (", ".intercalate l) = l
  tight : commaList (",".intercalate l) = l

theorem readBack_of_listable {l : List String} (h : ∀ e ∈ l, Text.Listable e.toList) : ReadBack l := by
  constructor
  · have blank : Text.Blank [' '] := by
      intro c hc
      rw [List.mem_singleton.mp hc]
      decide
    exact commaList_joined rfl blank h
  · exact commaList_joined rfl Text.blank_nil h

def Apart (a b : String) : Prop := ¬ (a.toList <+: b.toList ∨ b.toList <+: a.toList)

instance (a b : String) : Decidable (Apart a b) :=
  inferInstanceAs (Decidable (¬ (a.toList <+: b.toList ∨ b.toList <+: a.toList)))

theorem Apart.append_ne {a b : String} (h : Apart a b) (t u : String) : a ++ t ≠ b ++ u := by
  intro he
  have same : b.toList ++ u.toList = a.toList ++ t.toList := by
    rw [← String.toList_append, ← he, String.toList_append]
  have left : a.toList <+: a.toList ++ t.toList := List.prefix_append ..
  have right : b.toList <+: a.toList ++ t.toList := same ▸ List.prefix_append ..
  exact h (List.prefix_or_prefix_of_prefix left right)

namespace Settings

open RequestLogSettings (beginningsKey wholeKey)

def beginningsLabel : String := "  Prefix blacklist: "

def wholeLabel : String := "  Exact blacklist: "

/-- How the lines of the summary begin that tell of something else than a list. -/
def otherLabels : List String :=
  ["Configuration loaded:", "  Listen: ", "  Service type: ", "  Request log sink: ", "  Request log queue: "]

def listLine (label : String) (l : List String) : List String :=
  if l.isEmpty then [] else [label ++ ", ".intercalate l]

variable {v : Variables} {s : Settings} {l : List String} {label t : String}

theorem mem_listLine : t ∈ listLine label l ↔ l ≠ [] ∧ t = label ++ ", ".intercalate l := by
  unfold listLine
  by_cases h : l = []
  · simp [h]
  · simp [h]

theorem append_mem_listLine : label ++ t ∈ listLine label l ↔ l ≠ [] ∧ t = ", ".intercalate l := by
  rw [mem_listLine, String.append_right_inj]

theorem append_not_mem_listLine {other : String} (h : Apart label other) : label ++ t ∉ listLine other l := by
  intro hl
  exact h.append_ne _ _ (mem_listLine.mp hl).2

theorem summary_of_enabled (h : s.requestLog.enabled = true) :
    ∃ front, s.summary = front ++ listLine beginningsLabel s.requestLog.beginnings ++
        listLine wholeLabel s.requestLog.whole ∧
      ∀ line ∈ front, ∃ other ∈ otherLabels, ∃ u, line = other ++ u := by
  simp only [summary, h, Bool.not_true, Bool.false_eq_true, if_false, ← List.append_assoc]
  refine ⟨_, rfl, ?_⟩
  intro line hl
  simp only [List.mem_append, List.mem_cons, List.not_mem_nil, or_false] at hl
  rcases hl with (((rfl | rfl) | service) | rfl) | queue
  · exact ⟨_, by simp [otherLabels], "", String.append_empty.symm⟩
  · exact ⟨_, by simp [otherLabels], _, rfl⟩
  · cases ht : s.service.serviceType with
    | none => simp [ht] at service
    | some kind =>
      simp only [ht, List.mem_singleton] at service
      exact ⟨_, by simp [otherLabels], kind, service⟩
  · exact ⟨_, by simp [otherLabels], _, rfl⟩
  · split at queue
    · exact ⟨_, by simp [otherLabels], _, List.mem_singleton.mp queue⟩
    · cases queue

theorem mem_summary_iff (h : s.requestLog.enabled = true) (apart : ∀ other ∈ otherLabels, Apart label other) :
    label ++ t ∈ s.summary ↔
      label ++ t ∈ listLine beginningsLabel s.requestLog.beginnings ∨
        label ++ t ∈ listLine wholeLabel s.requestLog.whole := by
  obtain ⟨front, he, others⟩ := summary_of_enabled h
  have absent : label ++ t ∉ front := by
    intro hf
    obtain ⟨other, ho, u, hu⟩ := others _ hf
    exact (apart other ho).append_ne _ _ hu
  rw [he, List.mem_append, List.mem_append, or_assoc, or_iff_right absent]

/-- The summary tells the list behind the label, unless there is nothing to tell, and the list is read back from there. -/
structure Tells (s : Settings) (label : String) (l : List String) : Prop where
  mem_iff : ∀ t, label ++ t ∈ s.summary ↔ l ≠ [] ∧ t = ", ".intercalate l
  read : ∀ t, label ++ t ∈ s.summary → commaList t = l

theorem listable_of_mem_list {key e : String} (h : e ∈ v.list key) : Text.Listable e.toList := by
  obtain ⟨text, -, he⟩ := Variables.mem_list_iff.mp h
  exact he.listable

theorem Tells.of_listed (enabled : s.requestLog.enabled = true)
    (apart : ∀ other ∈ otherLabels, Apart label other) (listable : ∀ e ∈ l, Text.Listable e.toList)
    (listed : ∀ t, (label ++ t ∈ listLine beginningsLabel s.requestLog.beginnings ∨
      label ++ t ∈ listLine wholeLabel s.requestLog.whole) ↔ label ++ t ∈ listLine label l) :
    s.Tells label l := by
  have mem_iff (t : String) : label ++ t ∈ s.summary ↔ l ≠ [] ∧ t = ", ".intercalate l := by
    rw [mem_summary_iff enabled apart, listed, append_mem_listLine]
  refine ⟨mem_iff, ?_⟩
  intro t ht
  rw [((mem_iff t).mp ht).2]
  exact (readBack_of_listable listable).spaced

theorem tells_beginnings (h : load v = .ok s) (enabled : s.requestLog.enabled = true) :
    s.Tells beginningsLabel (v.list beginningsKey) := by
  refine .of_listed enabled (by decide) (fun e => listable_of_mem_list) ?_
  intro t
  rw [(RequestLogSettings.load_lists (load_requestLog h)).1]
  exact or_iff_left (append_not_mem_listLine (by decide))

theorem tells_whole (h : load v = .ok s) (enabled : s.requestLog.enabled = true) :
    s.Tells wholeLabel (v.list wholeKey) := by
  refine .of_listed enabled (by decide) (fun e => listable_of_mem_list) ?_
  intro t
  rw [(RequestLogSettings.load_lists (load_requestLog h)).2]
  exact or_iff_right (append_not_mem_listLine (by decide))

/-- The list of a text is what is kept of the pieces between its commas. The lists there are, of texts as well as of settings
in their summary, are those of entries that a list can hold, and they are read back as they were written. -/
theorem lists_read_back :
    (∀ text,
      (∀ e ∈ commaList text, Text.Listable e.toList) ∧
      (∀ l, commaList text = l ↔
        ∃ ps, Text.Parted ',' text.toList ps ∧ Text.Kept ps (l.map String.toList)) ∧
      ReadBack (commaList text)) ∧
    (∀ l,
      ((∀ e ∈ l, Text.Listable e.toList) ↔ ∃ text, commaList text = l) ∧
      ((∀ e ∈ l, Text.Listable e.toList) ↔ ReadBack l)) ∧
    ∀ v s, load v = .ok s → s.requestLog.enabled = true →
      s.Tells beginningsLabel (v.list beginningsKey) ∧ s.Tells wholeLabel (v.list wholeKey) := by
  have listable (text : String) : ∀ e ∈ commaList text, Text.Listable e.toList :=
    fun e he => listable_of_mem_commaList he
  refine ⟨?_, ?_, ?_⟩
  · intro text
    exact ⟨listable text, fun l => commaList_eq_iff, readBack_of_listable (listable text)⟩
  · intro l
    constructor
    · constructor
      · intro h
        exact ⟨_, (readBack_of_listable h).tight⟩
      · rintro ⟨text, rfl⟩
        exact listable text
    · constructor
      · exact readBack_of_listable
      · intro h
        rw [← h.tight]
        exact listable _
  · intro v s h enabled
    exact ⟨tells_beginnings h enabled, tells_whole h enabled⟩

/-- Blanks of four kinds around the entries, blank pieces, an entry twice and one with a blank inside; the other variable is
not set. -/
theorem lists_read_back_blanks :
    let text := "\u3000/a b ,, \t,/c\u00a0,/a b,"
    let v := Variables.ofPairs [(beginningsKey, text)]
    let l := ["/a b", "/c", "/a b"]
    commaList text = l ∧ ReadBack l ∧
      ∃ s, load v = .ok s ∧ s.requestLog.enabled = true ∧
        "  Prefix blacklist: /a b, /c, /a b" ∈ s.summary ∧
        (∀ t, beginningsLabel ++ t ∈ s.summary → commaList t = l) ∧
        ∀ t, wholeLabel ++ t ∉ s.summary := by
  intro text v l
  obtain ⟨texts, -, told⟩ := lists_read_back
  let settings : Settings :=
    { listen := ⟨.v4 0 0 0 0, 8080, 0⟩, requestLog := { beginnings := l }, service := {}, log := {} }
  have loaded : load v = .ok settings := load_of_toOption (by decide +kernel)
  have split : commaList text = l := by decide +kernel
  have unset : v.list wholeKey = [] := by decide +kernel
  have readBack : ReadBack l := split ▸ (texts text).2.2
  obtain ⟨beginnings, whole⟩ := told v settings loaded rfl
  rw [unset] at whole
  refine ⟨split, readBack, settings, loaded, rfl, ?_, ?_, ?_⟩
  · exact (beginnings.mem_iff "/a b, /c, /a b").mpr ⟨by decide +kernel, by decide +kernel⟩
  · intro t ht
    exact (beginnings.read t ht).trans split
  · intro t ht
    exact ((whole.mem_iff t).mp ht).1 rfl

end Settings

end AccessLog
