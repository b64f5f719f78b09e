import AccessLog.Proofs.Pipeline
import AccessLog.Proofs.Plain
import AccessLog.Proofs.RequestId

/-!
# Reports of malformed identifiers

A response that carries an identifier header whose first value spells no identifier is to be reported by one warning
and counted once. That happens exactly where the value can be read as visible text; any other bytes are taken
for no header at all, and nobody hears of them.
-/

namespace AccessLog

open Diagnostic (requestIdKey)

variable {σ : Type}

theorem HeaderValue.all_visible_of_visible? {v : HeaderValue} {raw : String}
    (h : v.visible? = some raw) : v.bytes.all isVisible = true := by
  rw [visible?] at h
  split at h
  · assumption
  · cases h

namespace Headers

/-- The first value of the identifier header spells no identifier. -/
def Misnames (h : Headers) : Prop :=
  ∃ v, h.get? HeaderName.requestId = some v ∧ ∀ u, ¬ Uuid.Spelling u (v.bytes.map Uuid.byteChar)

/-- The first value of the identifier header, if there is one, is visible text. -/
def Legible (h : Headers) : Prop :=
  ∀ v, h.get? HeaderName.requestId = some v → v.bytes.all HeaderValue.isVisible = true

theorem not_misnames_of_named {h : Headers}
    (hn : h.get? HeaderName.requestId = none ∨ ∃ u, h.Names u) : ¬ h.Misnames := by
  rintro ⟨v, hv, hs⟩
  rcases hn with hn | ⟨u, w, hw, hu⟩
  · rw [hn] at hv
    cases hv
  · obtain rfl := Option.some.inj (hv.symm.trans hw)
    exact hs u hu

theorem lookup_cases (h : Headers) :
    (h.Misnames ∧ h.Legible ∧ ∃ raw e, h.lookup HeaderName.requestId.text = some raw ∧
      RequestId.parse (some raw) = .error e) ∨
    (¬ (h.Misnames ∧ h.Legible) ∧ (h.lookup HeaderName.requestId.text = none ∨
      ∃ raw u, h.lookup HeaderName.requestId.text = some raw ∧
        RequestId.parse (some raw) = .ok (some u))) := by
  rw [lookup_requestId]
  cases hv : h.get? HeaderName.requestId with
  | none =>
    refine .inr ⟨?_, .inl rfl⟩
    rintro ⟨⟨v, hw, -⟩, -⟩
    rw [hv] at hw
    cases hw
  | some v =>
    have first {w : HeaderValue} (hw : h.get? HeaderName.requestId = some w) : v = w :=
      Option.some.inj (hv.symm.trans hw)
    rw [Option.bind_some]
    cases ht : v.visible? with
    | none =>
      refine .inr ⟨?_, .inl rfl⟩
      rintro ⟨-, hl⟩
      rw [HeaderValue.visible?_eq (hl v hv)] at ht
      cases ht
    | some raw =>
      cases hb : Uuid.parse raw with
      | ok u =>
        refine .inr ⟨?_, .inr ⟨raw, u, rfl, by rw [RequestId.parse, hb]⟩⟩
        rintro ⟨⟨w, hw, hs⟩, -⟩
        obtain rfl := first hw
        rw [HeaderValue.parse_visible ht] at hb
        exact hs u (Uuid.parseBytes_eq_ok.mp hb)
      | error cause =>
        refine .inl ⟨⟨v, hv, ?_⟩, ?_, raw, ⟨raw, cause⟩, rfl, by rw [RequestId.parse, hb]⟩
        · intro u hu
          rw [HeaderValue.parse_visible ht, Uuid.parseBytes_eq_ok.mpr hu] at hb
          cases hb
        · intro w hw
          obtain rfl := first hw
          exact HeaderValue.all_visible_of_visible? ht

end Headers

def Trace.isIdentifierReport (t : Trace) : Bool :=
  t.level = .warn && t.recorded.message = some "Unable to parse purported request id"

theorem MalformedRequestId.isIdentifierReport_warning (e : MalformedRequestId) :
    e.warning.isIdentifierReport = true := by
  rfl

theorem Exchange.isIdentifierReport_clockWarning (start now : Instant) :
    (clockWarning start now).isIdentifierReport = false := by
  rfl

def Scene.identifierReports (s : Scene σ) : List Entry :=
  s.journal.filter (·.trace.isIdentifierReport)

theorem Scene.identifierReports_of_journal {s after : Scene σ} {ts : List Trace} {id : Option String}
    (h : after.journal = s.journal ++ ts.map fun t => ⟨t, id⟩) :
    after.identifierReports =
      s.identifierReports ++ (ts.filter (·.isIdentifierReport)).map fun t => ⟨t, id⟩ := by
  rw [identifierReports, h, List.filter_append, List.filter_map]
  rfl

namespace Pipeline

/-- From one scene to another, `n` malformed identifiers more were reported and counted. -/
structure Reports (p : Pipeline σ) (n : Nat) (before after : Scene σ) : Prop where
  warned : ∃ new, after.identifierReports = before.identifierReports ++ new ∧ new.length = n
  counted : after.counters.malformed =
    before.counters.malformed + if p.counted then UInt64.ofNat n else 0

theorem reports_zero {p : Pipeline σ} {before after : Scene σ} (hj : after.journal = before.journal)
    (hc : after.counters.malformed = before.counters.malformed) : p.Reports 0 before after := by
  constructor
  · exact ⟨[], by simp [Scene.identifierReports, hj], rfl⟩
  · simp [hc]

theorem Reports.unique {p : Pipeline σ} {n m : Nat} {before after : Scene σ}
    (hn : p.Reports n before after) (hm : p.Reports m before after) : n = m := by
  obtain ⟨new, hw, rfl⟩ := hn.warned
  obtain ⟨new', hw', rfl⟩ := hm.warned
  rw [hw] at hw'
  rw [List.append_cancel_left hw']

/-- Building an event reports once what is malformed and legible, and nothing else. -/
theorem createEvent_reports {p : Pipeline σ} {req : Request} (res : Response) {s : Scene σ}
    (hd : Exchange.Dated req (p.clock s.own).1) :
    ∃ e, (p.createEvent req res s).1 = some e ∧
      ((res.headers.Misnames ∧ res.headers.Legible) ∧ e.requestId = none ∧
          p.Reports 1 s (p.createEvent req res s).2 ∨
        ¬ (res.headers.Misnames ∧ res.headers.Legible) ∧
          p.Reports 0 s (p.createEvent req res s).2) := by
  rcases p.createEvent_cases req res s with ⟨hn, -⟩ | ⟨-, e, clockNotes, hid, hc, he⟩
  · exact absurd hd hn
  refine ⟨e, by rw [he], ?_⟩
  have quiet : clockNotes.filter (·.isIdentifierReport) = [] := by
    rcases hc with rfl | rfl
    · rfl
    · simp [Exchange.isIdentifierReport_clockWarning]
  have warned := Scene.identifierReports_of_journal (congrArg (·.2.journal) he)
  rw [List.filter_append, quiet, List.nil_append] at warned
  have counters : (p.createEvent req res s).2.counters = p.recount res s.counters := by rw [he]
  rcases res.headers.lookup_cases with ⟨hm, hl, raw, err, ht, hp⟩ | ⟨hn, hr⟩
  · have ht : Exchange.purportedId res = some raw := ht
    rw [ht, RequestId.read, hp] at hid warned
    refine .inl ⟨⟨hm, hl⟩, hid, ⟨_, warned, ?_⟩, ?_⟩
    · simp [err.isIdentifierReport_warning]
    · rw [counters, recount, ht, RequestId.read, hp]
      cases p.counted <;> simp [Counters.countMalformed]
  · have silent : (RequestId.read (Exchange.purportedId res)).2 = [] ∧
        p.recount res s.counters = s.counters := by
      rcases hr with ht | ⟨raw, u, ht, hp⟩
      · have ht : Exchange.purportedId res = none := ht
        rw [recount, ht]
        exact ⟨rfl, rfl⟩
      · have ht : Exchange.purportedId res = some raw := ht
        rw [recount, ht, RequestId.read, hp]
        exact ⟨rfl, rfl⟩
    rw [silent.1] at warned
    refine .inr ⟨hn, ⟨[], by simpa using warned, rfl⟩, ?_⟩
    rw [counters, silent.2]
    simp

theorem createEvent_of_not_dated {p : Pipeline σ} {req : Request} (res : Response) {s : Scene σ}
    (hd : ¬ Exchange.Dated req (p.clock s.own).1) :
    (p.createEvent req res s).1 = none ∧ p.Reports 0 s (p.createEvent req res s).2 := by
  rcases p.createEvent_cases req res s with ⟨-, _, -, he⟩ | ⟨hd', -⟩
  · rw [he]
    exact ⟨rfl, reports_zero rfl rfl⟩
  · exact absurd hd' hd

theorem settle_malformed (p : Pipeline σ) (outcome : Outcome) (s : Scene σ) :
    (p.settle outcome s).counters.malformed = s.counters.malformed := by
  cases outcome with
  | returned =>
    simp only [settle, countIf]
    split <;> rfl
  | unwound => rfl

theorem emit_reports (p : Pipeline σ) (e : Event) (s : Scene σ) :
    p.Reports 0 s (opening e s) ∧ p.Reports 0 (p.sink e (opening e s)).2 (p.emit e s).2 := by
  constructor
  · exact reports_zero rfl rfl
  · apply reports_zero
    · exact p.emit_journal e s
    · rw [emit_counters, settle_malformed]

/-- Exactly when a malformed identifier is reported, that no other response is, and that logging an exchange reports
what building its event does, apart from what the sink does on its own. -/
theorem identifier_reported_iff (p : Pipeline σ) (req : Request) (res : Response) (s : Scene σ) :
    let made := p.createEvent req res s
    let logged := p.log req res s
    (res.headers.Misnames →
      ((∃ e, made.1 = some e ∧ e.requestId = none ∧ p.Reports 1 s made.2) ↔
        Exchange.Dated req (p.clock s.own).1 ∧ res.headers.Legible)) ∧
    (res.headers.get? HeaderName.requestId = none ∨ (∃ u, res.headers.Names u) →
      p.Reports 0 s made.2) ∧
    (p.blacklist.shouldLog req.path = true →
      (made.1 = none → logged = (none, made.2)) ∧
      ∀ e, made.1 = some e →
        let start := opening e made.2
        let left := p.sink e start
        p.Reports 0 made.2 start ∧ p.Reports 0 left.2 logged.2 ∧
          logged.1 = if left.1 = .returned then some .emitted else none) := by
  intro made logged
  refine ⟨?_, ?_, ?_⟩
  · intro hm
    constructor
    · rintro ⟨e, he, -, hr⟩
      by_cases hd : Exchange.Dated req (p.clock s.own).1
      · obtain ⟨-, -, ⟨⟨-, hl⟩, -⟩ | ⟨-, hz⟩⟩ := createEvent_reports res hd
        · exact ⟨hd, hl⟩
        · cases hr.unique hz
      · have hn : made.1 = none := (createEvent_of_not_dated res hd).1
        rw [hn] at he
        cases he
    · rintro ⟨hd, hl⟩
      obtain ⟨e, he, ⟨-, hid, hr⟩ | ⟨hn, -⟩⟩ := createEvent_reports res hd
      · exact ⟨e, he, hid, hr⟩
      · exact absurd ⟨hm, hl⟩ hn
  · intro hn
    by_cases hd : Exchange.Dated req (p.clock s.own).1
    · obtain ⟨-, -, ⟨⟨hm, -⟩, -⟩ | ⟨-, hz⟩⟩ := createEvent_reports res hd
      · exact absurd hm (Headers.not_misnames_of_named hn)
      · exact hz
    · exact (createEvent_of_not_dated res hd).2
  · intro hp
    constructor
    · intro hn
      exact log_of_not_built hp (Prod.ext hn rfl)
    · intro e he start left
      have hl : logged = _ := log_of_built hp (Prod.ext he rfl)
      rw [hl]
      exact ⟨(p.emit_reports e made.2).1, (p.emit_reports e made.2).2, rfl⟩

/-- The value is the one letter é, which is neither an identifier nor visible ASCII. -/
theorem illegible_identifier_unreported :
    let p : Pipeline (List Sighting) :=
      { clock := fun own => (⟨1000000⟩, own), sink := Sink.recording, counted := true }
    let req := Request.received .get .root .empty ⟨0⟩
    let res := { Response.empty .ok with headers := ⟨[(HeaderName.requestId, ⟨[0xC3, 0xA9]⟩)]⟩ }
    let scene := plainScene.withOwn []
    res.headers.Misnames ∧ p.blacklist.shouldLog req.path = true ∧
      (p.createEvent req res scene).1.isSome = true ∧
      (p.log req res scene).1 = some .emitted ∧
      (p.log req res scene).2.identifierReports = [] ∧
      (p.log req res scene).2.counters.malformed = 0 := by
  intro p req res scene
  have unread : Uuid.parseBytes [0xC3, 0xA9] = .error (.invalidCharacter 'é' 0) := rfl
  refine ⟨⟨_, rfl, fun u hu => ?_⟩, rfl, rfl, rfl, rfl, rfl⟩
  have hb : Uuid.parseBytes [0xC3, 0xA9] = .ok u := Uuid.parseBytes_eq_ok.mpr hu
  rw [unread] at hb
  cases hb

end Pipeline

end AccessLog
