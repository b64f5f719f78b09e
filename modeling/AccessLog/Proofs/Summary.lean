import AccessLog.Event
import AccessLog.Proofs.Elapsed
import AccessLog.Proofs.Text.Pieces

/-!
# What a summary tells

The words of a summary are its parts: no method and no target has a blank in it. So a summary can be taken apart again,
and two exchanges have the same summary exactly if they agree in all that it tells: the method, the path, the query, the
status, the size of the response and the tenths of a millisecond it took.
-/

namespace AccessLog

theorem Decimal.ofNat_inj {a b : Nat} : Decimal.ofNat a = Decimal.ofNat b ↔ a = b := by
  constructor
  · intro h
    rw [← Decimal.value_ofNat a, h, Decimal.value_ofNat]
  · exact congrArg _

theorem Decimal.not_mem_ofNat {n : Nat} {c : Char} (h : Decimal.isDigit c = false) : c ∉ Decimal.ofNat n := by
  intro hc
  rw [Decimal.isDigit_of_mem_ofNat hc] at h
  cases h

/-- Microseconds to the nearest tenth of a millisecond; a half goes up. -/
def tenths (micros : Nat) : Nat := (micros + 50) / 100

def tenthsText (n : Nat) : List Char := Decimal.ofNat (n / 10) ++ '.' :: Decimal.ofNat (n % 10)

theorem prettyTime_eq {micros : Nat} (h : micros ≤ longestMicros) :
    prettyTime micros = tenthsText (tenths micros) ++ ' ' :: ['m', 's'] := by
  have same : min (micros + 50) longestMicros / 100 = tenths micros := by
    unfold longestMicros at h ⊢
    unfold tenths
    omega
  simp [prettyTime, tenthsText, same]

theorem tenthsText_inj {a b : Nat} : tenthsText a = tenthsText b ↔ a = b := by
  constructor
  · intro h
    have point {n : Nat} : '.' ∉ Decimal.ofNat n := Decimal.not_mem_ofNat (by decide)
    have parts := congrArg (Text.pieces '.') h
    rw [tenthsText, tenthsText, Text.pieces_append_separator point, Text.pieces_append_separator point,
      Text.pieces_of_not_mem point, Text.pieces_of_not_mem point] at parts
    obtain ⟨hq, hr⟩ := List.cons.inj parts
    have quotient := Decimal.ofNat_inj.mp hq
    have remainder := Decimal.ofNat_inj.mp (List.cons.inj hr).1
    omega
  · exact congrArg _

namespace Summary

/-- All that can be read from a summary. No bytes and an unknown number of bytes are told alike. -/
structure Told where
  method : String
  url : String
  status : Nat
  bytes : Nat
  tenths : Nat
  deriving DecidableEq

namespace Told

def bytesWords (bytes : Nat) : List (List Char) :=
  if bytes = 0 then [] else [Decimal.ofNat bytes, "bytes".toList, "in".toList]

def words (t : Told) : List (List Char) :=
  t.method.toList :: t.url.toList :: [':'] :: (Decimal.ofNat t.status ++ [',']) ::
    (bytesWords t.bytes ++ [tenthsText t.tenths, "ms".toList])

theorem words_inj {t u : Told} (h : t.words = u.words) : t = u := by
  simp only [words, List.cons.injEq, String.toList_inj, List.append_cancel_right_eq, Decimal.ofNat_inj, true_and] at h
  obtain ⟨method, url, status, rest⟩ := h
  have bytes : t.bytes = u.bytes ∧ t.tenths = u.tenths := by
    unfold bytesWords at rest
    split at rest <;> split at rest
    · simp_all [tenthsText_inj]
    · simp at rest
    · simp at rest
    · simp_all [tenthsText_inj, Decimal.ofNat_inj]
  cases t
  cases u
  simp_all

theorem words_ne_of_no_bytes {t : Told} (h : t.bytes = 0) {before after : List (List Char)} (hb : before ≠ [])
    (ha : after ≠ []) : t.words ≠ before ++ "bytes".toList :: "in".toList :: after := by
  intro he
  have status : Decimal.ofNat t.status ++ [','] ≠ "in".toList := by
    intro hs
    have last := congrArg List.getLast? hs
    simp at last
  have time : tenthsText t.tenths ≠ "in".toList := by
    intro ht
    have point : '.' ∈ tenthsText t.tenths := by simp [tenthsText]
    rw [ht] at point
    revert point
    decide
  have found : t.words[before.length + 1]? = some "in".toList := by simp [he]
  have size : before.length + 2 + after.length = 6 := by
    have count := congrArg List.length he
    simp [words, bytesWords, h] at count
    omega
  have front := List.length_pos_iff.mpr hb
  have back := List.length_pos_iff.mpr ha
  obtain place | place | place : before.length = 1 ∨ before.length = 2 ∨ before.length = 3 := by omega
  · simp [words, place] at found
  · simp only [words, place] at found
    exact status (Option.some.inj found)
  · simp only [words, bytesWords, h, place] at found
    exact time (Option.some.inj found)

end Told

def told (s : Summary) : Told := ⟨s.method, s.url, s.status, s.responseSize.getD 0, AccessLog.tenths s.micros⟩

/-- What every summary of an exchange has: a method and a target without blanks, and a duration that can be told. -/
structure Plain (s : Summary) : Prop where
  method : ' ' ∉ s.method.toList
  url : ' ' ∉ s.url.toList
  micros : s.micros ≤ longestMicros

theorem bytesClause_eq (size : Option Nat) :
    bytesClause size = if size.getD 0 = 0 then [] else Decimal.ofNat (size.getD 0) ++ " bytes in ".toList := by
  cases size with
  | none => rfl
  | some n => cases n <;> rfl

theorem pieces_chars {s : Summary} (h : s.Plain) : Text.pieces ' ' s.chars = s.told.words := by
  have number {n : Nat} : ' ' ∉ Decimal.ofNat n := Decimal.not_mem_ofNat (by decide)
  have time {n : Nat} : ' ' ∉ tenthsText n := by simp [tenthsText, number]
  have colon : ' ' ∉ [':'] := by decide
  have status : ' ' ∉ Decimal.ofNat s.status ++ [','] := by simp [number]
  have unit : ' ' ∉ ['m', 's'] := by decide
  have line : s.chars = s.method.toList ++ ' ' :: (s.url.toList ++ ' ' :: ([':'] ++ ' ' ::
      ((Decimal.ofNat s.status ++ [',']) ++ ' ' ::
        (bytesClause s.responseSize ++ (tenthsText (AccessLog.tenths s.micros) ++ ' ' :: ['m', 's']))))) := by
    simp [chars, prettyTime_eq h.micros]
  rw [line, Text.pieces_append_separator h.method, Text.pieces_append_separator h.url,
    Text.pieces_append_separator colon, Text.pieces_append_separator status, bytesClause_eq]
  by_cases hn : s.responseSize.getD 0 = 0
  · rw [if_pos hn, List.nil_append, Text.pieces_append_separator time, Text.pieces_of_not_mem unit]
    simp [Told.words, Told.bytesWords, told, hn]
  · have clause (rest : List Char) : Decimal.ofNat (s.responseSize.getD 0) ++ " bytes in ".toList ++ rest =
        Decimal.ofNat (s.responseSize.getD 0) ++ ' ' :: ("bytes".toList ++ ' ' :: ("in".toList ++ ' ' :: rest)) := by
      simp
    rw [if_neg hn, clause, Text.pieces_append_separator number, Text.pieces_append_separator (by decide),
      Text.pieces_append_separator (by decide), Text.pieces_append_separator time, Text.pieces_of_not_mem unit]
    simp [Told.words, Told.bytesWords, told, hn]

/-- Summaries are the same exactly if they tell the same. -/
theorem text_eq_iff {s t : Summary} (hs : s.Plain) (ht : t.Plain) : s.text = t.text ↔ s.told = t.told := by
  constructor
  · intro h
    have line : s.chars = t.chars := String.ofList_injective h
    exact Told.words_inj (by rw [← pieces_chars hs, ← pieces_chars ht, line])
  · intro h
    have joined {u : Summary} (hu : u.Plain) : [' '].intercalate u.told.words = u.chars := by
      rw [← pieces_chars hu, Text.pieces_eq_splitOn, List.intercalate_splitOn]
    rw [text, text, ← joined hs, ← joined ht, h]

theorem bytesClause_infix_iff {s : Summary} (h : s.Plain) :
    " bytes in ".toList <:+: s.text.toList ↔ 0 < s.told.bytes := by
  have shown : s.text.toList = s.chars := String.toList_ofList
  rw [shown]
  constructor
  · rintro ⟨before, after, he⟩
    have parts : s.told.words =
        Text.pieces ' ' before ++ "bytes".toList :: "in".toList :: Text.pieces ' ' after := by
      have line : s.chars = before ++ ' ' :: ("bytes".toList ++ ' ' :: ("in".toList ++ ' ' :: after)) := by
        rw [← he]
        simp
      have between : ' ' ∉ "bytes".toList ∧ ' ' ∉ "in".toList := by decide
      rw [← pieces_chars h, line, Text.pieces_eq_splitOn, List.splitOn_append_cons_self, ← Text.pieces_eq_splitOn,
        ← Text.pieces_eq_splitOn, Text.pieces_append_separator between.1, Text.pieces_append_separator between.2]
    refine Nat.pos_of_ne_zero fun none => ?_
    exact Told.words_ne_of_no_bytes none (Text.pieces_ne_nil _ _) (Text.pieces_ne_nil _ _) parts
  · intro hb
    have there : s.responseSize.getD 0 ≠ 0 := Nat.ne_of_gt hb
    refine ⟨s.method.toList ++ ' ' :: s.url.toList ++ " : ".toList ++ Decimal.ofNat s.status ++ ", ".toList ++
      Decimal.ofNat (s.responseSize.getD 0), prettyTime s.micros, ?_⟩
    rw [chars, bytesClause_eq, if_neg there]
    simp only [List.append_assoc]

end Summary

theorem Method.name_inj {a b : Method} : a.name = b.name ↔ a = b := by
  cases a
  cases b
  simp

theorem Status.code_inj {a b : Status} : a.code = b.code ↔ a = b := by
  cases a
  cases b
  simp

namespace Target

theorem not_mem_path (t : Target) {c : Char} (h : isPathChar c = false) : c ∉ t.path.toList := by
  intro hc
  rw [List.all_eq_true.mp t.path_valid c hc] at h
  cases h

theorem not_mem_query (t : Target) {c : Char} (h : isQueryChar c = false) : c ∉ (t.query.getD "").toList := by
  have valid := t.query_valid
  cases hq : t.query with
  | none => exact List.not_mem_nil
  | some q =>
    rw [hq] at valid
    intro hc
    rw [List.all_eq_true.mp valid c hc] at h
    cases h

end Target

namespace Exchange

def queryPart (query : String) : List Char := if query = "" then [] else '?' :: query.toList

theorem queryPart_inj {a b : String} : queryPart a = queryPart b ↔ a = b := by
  constructor
  · intro h
    unfold queryPart at h
    split at h <;> split at h
    · simp_all
    · cases h
    · cases h
    · exact String.toList_inj.mp (List.cons.inj h).2
  · exact congrArg _

theorem toList_fullUrl (path : String) (query : Option String) :
    (fullUrl path query).toList = path.toList ++ queryPart (query.getD "") := by
  cases query with
  | none => simp [fullUrl, givenQuery, queryPart]
  | some q =>
    by_cases hq : q = ""
    · subst hq
      have none : givenQuery (some "") = none := rfl
      simp [fullUrl, none, queryPart]
    · have given : givenQuery (some q) = some q := by simp [givenQuery, Option.filter, hq]
      simp [fullUrl, given, queryPart, hq]

theorem fullUrl_inj {a b : Target} :
    fullUrl a.path a.query = fullUrl b.path b.query ↔ a.path = b.path ∧ a.query.getD "" = b.query.getD "" := by
  have split (t : Target) : ((fullUrl t.path t.query).toList.takeWhile (· != '?'),
      (fullUrl t.path t.query).toList.dropWhile (· != '?')) = (t.path.toList, queryPart (t.query.getD "")) := by
    have path : ∀ c ∈ t.path.toList, (c != '?') = true := by
      intro c hc
      simp only [bne_iff_ne]
      rintro rfl
      exact t.not_mem_path (by decide) hc
    rw [toList_fullUrl, List.takeWhile_append_of_pos path, List.dropWhile_append_of_pos path]
    unfold queryPart
    split <;> simp
  constructor
  · intro h
    have parts := (split a).symm.trans (h ▸ split b)
    obtain ⟨path, query⟩ := Prod.mk.inj parts
    exact ⟨String.toList_inj.mp path, queryPart_inj.mp query⟩
  · rintro ⟨path, query⟩
    apply String.toList_inj.mp
    rw [toList_fullUrl, toList_fullUrl, path, query]

theorem space_not_mem_fullUrl (t : Target) : ' ' ∉ (fullUrl t.path t.query).toList := by
  rw [toList_fullUrl, List.mem_append, not_or]
  refine ⟨t.not_mem_path (by decide), ?_⟩
  unfold queryPart
  split
  · exact List.not_mem_nil
  · rw [List.mem_cons, not_or]
    exact ⟨by decide, t.not_mem_query (by decide)⟩

variable {req : Request} {res : Response} {now : Instant} {x : Exchange} {notes : List Trace}

theorem summarized_of_read (h : read req res now = .ok (x, notes)) :
    x.method = req.method.name ∧ x.url = fullUrl req.path req.query ∧ x.status = res.status.code ∧
    x.durationMicros ≤ longestMicros := by
  unfold read at h
  split at h
  · cases h
  split at h
  · cases h
  next micros clockNotes measured =>
    obtain ⟨rfl, -⟩ := Prod.mk.inj (Except.ok.inj h)
    exact ⟨rfl, rfl, rfl, elapsed_le measured⟩

end Exchange

namespace Event

variable {req req' : Request} {res res' : Response} {now now' : Instant} {x x' : Exchange} {notes notes' : List Trace}

theorem plain_of_read (h : Exchange.read req res now = .ok (x, notes)) (service : Service) (id : Uuid) :
    (assemble x service id).summary.Plain := by
  obtain ⟨method, url, -, micros⟩ := Exchange.summarized_of_read h
  refine ⟨?_, ?_, micros⟩
  · show ' ' ∉ x.method.toList
    rw [method]
    exact req.method.not_mem_name (by decide)
  · show ' ' ∉ x.url.toList
    rw [url]
    exact Exchange.space_not_mem_fullUrl req.target

/-- Two events have the same message exactly if their exchanges agree in all that a message tells; the clause on the
bytes is in it exactly if there were some. -/
theorem message_eq_iff (h : Exchange.read req res now = .ok (x, notes))
    (h' : Exchange.read req' res' now' = .ok (x', notes')) (service service' : Service) (id id' : Uuid) :
    let e := assemble x service id
    let e' := assemble x' service' id'
    (e.message = e'.message ↔
      req.method = req'.method ∧ req.path = req'.path ∧ req.query.getD "" = req'.query.getD "" ∧
      res.status = res'.status ∧ e.responseSize.getD 0 = e'.responseSize.getD 0 ∧
      tenths e.durationMicros = tenths e'.durationMicros) ∧
    (" bytes in ".toList <:+: e.message.toList ↔ ∃ n, 0 < n ∧ e.responseSize = some n) := by
  intro e e'
  have plain := plain_of_read h service id
  have plain' := plain_of_read h' service' id'
  obtain ⟨method, url, status, -⟩ := Exchange.summarized_of_read h
  obtain ⟨method', url', status', -⟩ := Exchange.summarized_of_read h'
  have methods : x.method = x'.method ↔ req.method = req'.method := by
    rw [method, method', Method.name_inj]
  have statuses : x.status = x'.status ↔ res.status = res'.status := by
    rw [status, status', Status.code_inj]
  have urls : x.url = x'.url ↔ req.path = req'.path ∧ req.query.getD "" = req'.query.getD "" := by
    rw [url, url']
    exact Exchange.fullUrl_inj
  have told : e.summary.told = e'.summary.told ↔
      x.method = x'.method ∧ x.url = x'.url ∧ x.status = x'.status ∧ e.responseSize.getD 0 = e'.responseSize.getD 0 ∧
      tenths e.durationMicros = tenths e'.durationMicros := iff_of_eq (Summary.Told.mk.injEq ..)
  constructor
  · exact (Summary.text_eq_iff plain plain').trans (by rw [told, methods, urls, statuses, and_assoc])
  · refine (Summary.bytesClause_infix_iff plain).trans ?_
    show 0 < x.responseSize.getD 0 ↔ ∃ n, 0 < n ∧ x.responseSize = some n
    cases x.responseSize <;> simp

/-- An empty query and none, no bytes and an unknown number of them, and 49 microseconds more. -/
theorem message_eq_empty_query :
    let req := Request.received .get ⟨"/a", some "", by decide, by decide⟩ .empty ⟨0⟩
    let req' := Request.received .get ⟨"/a", none, by decide, by decide⟩ .empty ⟨0⟩
    let res := (Response.empty .ok).withContentCount 0
    let res' := (Response.empty .ok).withContentCount (-1)
    ∃ x x' notes notes', Exchange.read req res ⟨1000000⟩ = .ok (x, notes) ∧
      Exchange.read req' res' ⟨1049000⟩ = .ok (x', notes') ∧
      (assemble x {} ⟨0, by decide⟩).message = (assemble x' {} ⟨1, by decide⟩).message ∧
      ¬ " bytes in ".toList <:+: (assemble x {} ⟨0, by decide⟩).message.toList := by
  intro req req' res res'
  obtain ⟨x, notes, read, size, micros⟩ : ∃ x notes, Exchange.read req res ⟨1000000⟩ = .ok (x, notes) ∧
      x.responseSize = some 0 ∧ x.durationMicros = 1000 := ⟨_, _, rfl, rfl, by decide⟩
  obtain ⟨x', notes', read', size', micros'⟩ : ∃ x notes, Exchange.read req' res' ⟨1049000⟩ = .ok (x, notes) ∧
      x.responseSize = none ∧ x.durationMicros = 1049 := ⟨_, _, rfl, rfl, by decide⟩
  obtain ⟨same, bytes⟩ := message_eq_iff read read' {} {} ⟨0, by decide⟩ ⟨1, by decide⟩
  refine ⟨x, x', notes, notes', read, read', same.mpr ⟨rfl, rfl, rfl, rfl, ?_, ?_⟩, mt bytes.mp ?_⟩
  · simp [assemble, size, size']
  · simp [assemble, micros, micros', tenths]
  · simp [assemble, size]

end Event

end AccessLog
