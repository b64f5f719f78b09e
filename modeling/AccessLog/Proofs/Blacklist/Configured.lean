import AccessLog.Proofs.Blacklist
import AccessLog.Proofs.Startup
import AccessLog.Proofs.Text.Pieces
import AccessLog.Proofs.Text.SmallLetters

/-!
# The blacklist that is configured

Two variables list the paths that are not logged, each as a text with commas. What is kept out depends on their entries
alone, and on these only up to their order, their repetition and their letter case.
-/

namespace AccessLog

namespace Variables

variable {v w : Variables} {key e : String}

def Lists (v : Variables) (key entry : String) : Prop :=
  ∃ text, v.get key = some text ∧ Text.Entry text.toList entry.toList

theorem mem_list_iff : e ∈ v.list key ↔ v.Lists key e := by
  unfold list Lists
  cases v.get key with
  | none => simp
  | some text => simp [mem_commaList_iff]

/-- The variable is not set, or its text has nothing but commas and blanks. -/
def Bare (v : Variables) (key : String) : Prop :=
  ∀ text, v.get key = some text → ∀ c ∈ text.toList, c = ',' ∨ isBlank c = true

theorem Bare.not_lists (h : v.Bare key) (e : String) : ¬ v.Lists key e := by
  rintro ⟨text, ht, he⟩
  exact Text.not_entry_of_bare (h text ht) e.toList he

end Variables

def SameLetters (a b : String) : Prop := lowercase a = lowercase b

theorem sameLetters_lowercase (s : String) : SameLetters s (lowercase s) := (lowercase_lowercase s).symm

/-- The variable has the same entries in both, but for order, repetition and letter case. -/
structure Variables.SameEntries (v w : Variables) (key : String) : Prop where
  left : ∀ e, v.Lists key e → ∃ e', w.Lists key e' ∧ SameLetters e e'
  right : ∀ e', w.Lists key e' → ∃ e, v.Lists key e ∧ SameLetters e e'

theorem Variables.SameEntries.exists_iff {v w : Variables} {key : String} (h : v.SameEntries w key)
    (p : String → Prop) :
    (∃ e, v.Lists key e ∧ p (lowercase e)) ↔ ∃ e, w.Lists key e ∧ p (lowercase e) := by
  constructor
  · rintro ⟨e, he, hp⟩
    obtain ⟨e', he', hs⟩ := h.left e he
    exact ⟨e', he', hs ▸ hp⟩
  · rintro ⟨e', he', hp⟩
    obtain ⟨e, he, hs⟩ := h.right e' he'
    exact ⟨e, he, hs.symm ▸ hp⟩

namespace RequestLogSettings

def beginningsKey : String := "REQUEST_LOG_STARTS_WITH_BLACKLIST"

def wholeKey : String := "REQUEST_LOG_EQUALITY_BLACKLIST"

theorem load_lists {v : Variables} {r : RequestLogSettings} (h : load v = .ok r) :
    r.beginnings = v.list beginningsKey ∧ r.whole = v.list wholeKey := by
  unfold load at h
  split at h
  · cases h
  · cases h
  · obtain rfl := Except.ok.inj h
    exact ⟨rfl, rfl⟩

end RequestLogSettings

namespace Blacklist

open RequestLogSettings (beginningsKey wholeKey)

/-- The check of a path, without the answer given beforehand where there are no entries. -/
def check (b : Blacklist) (path : String) : Bool :=
  !b.beginnings.any (begins · (lowercase path)) && !b.whole.contains (lowercase path)

/-- The variables keep the path out: in lower case it begins like an entry of the one, or is an entry of the other. -/
def KeptOut (v : Variables) (path : String) : Prop :=
  (∃ e, v.Lists beginningsKey e ∧ (lowercase e).toList <+: (lowercase path).toList) ∨
    ∃ e, v.Lists wholeKey e ∧ lowercase e = lowercase path

variable {v : Variables} {s : Settings}

theorem shouldLog_eq_false_iff_keptOut (h : Settings.load v = .ok s) (path : String) :
    s.requestLog.blacklist.shouldLog path = false ↔ KeptOut v path := by
  obtain ⟨hb, hw⟩ := RequestLogSettings.load_lists (Settings.load_requestLog h)
  rw [RequestLogSettings.blacklist, shouldLog_ofEntries, hb, hw]
  simp only [Variables.mem_list_iff, begins_iff, KeptOut]

theorem keptOut_congr {w : Variables} (hb : v.SameEntries w beginningsKey) (hw : v.SameEntries w wholeKey)
    (path : String) : KeptOut v path ↔ KeptOut w path :=
  or_congr (hb.exists_iff fun e => e.toList <+: (lowercase path).toList)
    (hw.exists_iff fun e => e = lowercase path)

/-- What an accepted configuration keeps out; that texts without entries keep nothing out, that no path is answered for
beforehand other than by the check, and that order, repetition and letter case of the entries do not matter. -/
theorem shouldLog_configured (h : Settings.load v = .ok s) :
    let b := s.requestLog.blacklist
    (∀ path, b.shouldLog path = false ↔ KeptOut v path) ∧
    (∀ key, v.Bare key → ∀ e, ¬ v.Lists key e) ∧
    (v.Bare beginningsKey → v.Bare wholeKey → ∀ path, b.shouldLog path = true) ∧
    (∀ path, b.shouldLog path = b.check path) ∧
    (∀ w t, Settings.load w = .ok t → v.SameEntries w beginningsKey → v.SameEntries w wholeKey →
      ∀ path, t.requestLog.blacklist.shouldLog path = b.shouldLog path) ∧
    ∀ e, SameLetters e (lowercase e) := by
  intro b
  have kept (path : String) : b.shouldLog path = false ↔ KeptOut v path :=
    shouldLog_eq_false_iff_keptOut h path
  refine ⟨kept, fun key hk e => hk.not_lists e, ?_, b.shouldLog_eq, ?_, sameLetters_lowercase⟩
  · intro hb hw path
    rw [← Bool.not_eq_false, kept]
    rintro (⟨e, he, -⟩ | ⟨e, he, -⟩)
    · exact hb.not_lists e he
    · exact hw.not_lists e he
  · intro w t ht hb hw path
    have same : t.requestLog.blacklist.shouldLog path = false ↔ b.shouldLog path = false := by
      rw [kept, keptOut_congr hb hw, shouldLog_eq_false_iff_keptOut ht]
    rwa [Bool.eq_iff_iff, ← not_iff_not, Bool.not_eq_true, Bool.not_eq_true]

/-- One entry with blanks of two kinds around it and again in capitals, against the same entry alone; the other variable has
blanks and commas, or is not set. -/
theorem shouldLog_configured_repeated :
    let v := Variables.ofPairs [(beginningsKey, " ,\u3000/Static/ ,, /STATIC/,"), (wholeKey, " , ,")]
    let w := Variables.ofPairs [(beginningsKey, "/static/")]
    ∃ s t, Settings.load v = .ok s ∧ Settings.load w = .ok t ∧
      s.requestLog.blacklist.shouldLog "/sTATIC/app.js" = false ∧
      (∀ path, t.requestLog.blacklist.shouldLog path = s.requestLog.blacklist.shouldLog path) ∧
      ∀ e, ¬ v.Lists wholeKey e := by
  intro v w
  let settings (beginnings : List String) : Settings :=
    { listen := ⟨.v4 0 0 0 0, 8080, 0⟩, requestLog := { beginnings }, service := {}, log := {} }
  have loaded : Settings.load v = .ok (settings ["/Static/", "/STATIC/"]) :=
    Settings.load_of_toOption (by decide +kernel)
  have loaded' : Settings.load w = .ok (settings ["/static/"]) :=
    Settings.load_of_toOption (by decide +kernel)
  have listed (e : String) : v.Lists beginningsKey e ↔ e = "/Static/" ∨ e = "/STATIC/" := by
    have entries : v.list beginningsKey = ["/Static/", "/STATIC/"] := by decide +kernel
    rw [← Variables.mem_list_iff, entries]
    simp
  have listed' (e : String) : w.Lists beginningsKey e ↔ e = "/static/" := by
    have entries : w.list beginningsKey = ["/static/"] := by decide +kernel
    rw [← Variables.mem_list_iff, entries]
    simp
  have small : lowercase "/Static/" = "/static/" ∧ lowercase "/STATIC/" = "/static/" ∧
      lowercase "/static/" = "/static/" := by decide +kernel
  have bare : v.Bare wholeKey := by
    intro text ht c hc
    obtain rfl : " , ," = text := Option.some.inj ht
    have all : " , ,".toList.all (fun c => c == ',' || isBlank c) = true := by decide
    simpa using List.all_eq_true.mp all c hc
  have unset : w.Bare wholeKey := by
    intro text ht
    cases ht
  obtain ⟨kept, none, -, -, same, -⟩ := shouldLog_configured loaded
  refine ⟨_, _, loaded, loaded', ?_, ?_, none wholeKey bare⟩
  · rw [kept]
    refine .inl ⟨"/Static/", (listed _).mpr (.inl rfl), ?_⟩
    decide +kernel
  · refine same w _ loaded' ⟨?_, ?_⟩ ⟨?_, ?_⟩
    · intro e he
      refine ⟨"/static/", (listed' _).mpr rfl, ?_⟩
      rcases (listed e).mp he with rfl | rfl
      · exact small.1.trans small.2.2.symm
      · exact small.2.1.trans small.2.2.symm
    · intro e he
      obtain rfl := (listed' e).mp he
      exact ⟨"/Static/", (listed _).mpr (.inl rfl), small.1.trans small.2.2.symm⟩
    · exact fun e he => absurd he (none wholeKey bare e)
    · exact fun e he => absurd he (unset.not_lists e)

end Blacklist

end AccessLog
