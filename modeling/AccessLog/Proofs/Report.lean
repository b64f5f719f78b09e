import AccessLog.Proofs.Exposition
import AccessLog.Proofs.Logging
import AccessLog.Proofs.Plain
import AccessLog.Proofs.Text.Utf8

/-!
# What a host reports of earlier exchanges

A host serves exchanges one after another, and shows its counters where it is asked for them. What it then reports are
the exchanges before this one: how many were logged, and how many were not because of their path.
-/

namespace AccessLog

variable {σ : Type}

/-- An exchange that a host has served: what came and when, the instant at which it ended, and the response, if one was
sent. -/
structure Visit where
  incoming : Incoming
  at_ : Instant
  arrival : Arrival
  left : Instant
  sent : Option Response

namespace Visit

def request (v : Visit) : Request := Host.snapshot v.incoming v.at_

def answered (v : Visit) : Bool := v.sent.isSome

/-- The path is to be logged. -/
def logged (b : Blacklist) (v : Visit) : Bool := b.shouldLog v.request.path

end Visit

/-- The body is a text with these two numbers for the events that were emitted and blacklisted. -/
def Response.Reports (res : Response) (emitted blacklisted : Nat) : Prop :=
  ∃ text, textOfBytes? res.body = some text ∧
    Exposition.valuesOf "request_log_events_emitted_total" text = [natText emitted] ∧
    Exposition.valuesOf "request_log_events_blacklisted_total" text = [natText blacklisted]

theorem Family.countText_eq {n : UInt64} (few : n.toNat < 2 ^ 53) : countText n = natText n.toNat := by
  rw [countText, Double.text?_toFloat few]
  rfl

theorem Counters.reports_exportText {c : Counters} (emitted : c.emitted.toNat < 2 ^ 53)
    (blacklisted : c.blacklisted.toNat < 2 ^ 53) {res : Response} (hr : res.body = utf8 c.exportText) :
    res.Reports c.emitted.toNat c.blacklisted.toNat := by
  refine ⟨c.exportText, ?_, ?_, ?_⟩
  · rw [hr, textOfBytes?_utf8]
  · rw [Exposition.valuesOf, c.samples_exportText, Family.countText_eq emitted]
    rfl
  · rw [Exposition.valuesOf, c.samples_exportText, Family.countText_eq blacklisted]
    rfl

namespace Host

/-- From a scene on, a host has served these exchanges one after another. Between them anything may have happened that
leaves the counters as they are. -/
inductive Visited (p : Pipeline σ) (identifies : Bool) (start : Scene σ) : List Visit → Scene σ → Prop where
  | none : Visited p identifies start [] start
  | meanwhile {visits s s'} : Visited p identifies start visits s → s'.counters = s.counters →
      Visited p identifies start visits s'
  | visit {visits s} (i : Incoming) (at_ : Instant) (arrival : Arrival) :
      Visited p identifies start visits s →
      Visited p identifies start
        (visits ++ [⟨i, at_, arrival, (p.clock s.own).1, ((logging p identifies true).serve i arrival at_ s).1⟩])
        ((logging p identifies true).serve i arrival at_ s).2

theorem isHealth_of_isMetrics {req : Request} (hm : isMetrics req = true) : isHealth req = false := by
  have path : req.path = "/metrics" := by
    simp only [isMetrics, Bool.and_eq_true, beq_iff_eq] at hm
    exact hm.2
  have other : (req.path == "/health") = false := by
    rw [path]
    decide
  rw [isHealth, other, Bool.and_false]

theorem route_metrics {h : Host σ} (shown : h.exposesCounters = true) {req : Request}
    (hm : isMetrics req = true) (body : Bytes) (counters : Counters) :
    h.route req body counters = document expositionType counters.exportText := by
  simp [route, isHealth_of_isMetrics hm, hm, shown]

section Serving

variable {p : Pipeline σ} {identifies : Bool}

theorem serve_eq (p : Pipeline σ) (identifies : Bool) (i : Incoming) (at_ : Instant) (arrival : Arrival)
    (s : Scene σ) :
    let h := logging p identifies true
    ∃ found, s.Steady found ∧ h.serve i arrival at_ s = h.finish (h.begin i at_ s).1 arrival found :=
  ⟨_, begin_steady p identifies true i at_ s, rfl⟩

theorem sent_of_serve {i : Incoming} {at_ : Instant} {arrival : Arrival} {s : Scene σ} {sent : Response} :
    let h := logging p identifies true
    (h.serve i arrival at_ s).1 = some sent →
    ∃ found, s.Steady found ∧ sent = h.response identifies i at_ arrival s found := by
  intro h hs
  obtain ⟨found, steady, served⟩ := serve_eq p identifies i at_ arrival s
  rw [served, finish_begin] at hs
  obtain ⟨-, -, rfl⟩ := Option.map_eq_some_iff.mp hs
  exact ⟨found, steady, rfl⟩

theorem isSome_serve_eq (p : Pipeline σ) (identifies : Bool) (i : Incoming) (at_ : Instant) (arrival : Arrival)
    (s : Scene σ) :
    ∃ res found, found.own = s.own ∧
      ((logging p identifies true).serve i arrival at_ s).1.isSome = (p.log (snapshot i at_) res found).1.isSome := by
  let h := logging p identifies true
  obtain ⟨found, steady, served⟩ := serve_eq p identifies i at_ arrival s
  have answered := steady.trans (h.answer_steady (snapshot i at_) arrival found)
  refine ⟨h.response identifies i at_ arrival s found, _, answered.own_eq, ?_⟩
  rw [served, finish_begin, Option.isSome_map]

theorem isSome_serve_of_blocked {p : Pipeline σ} (identifies : Bool) {i : Incoming} {at_ : Instant}
    (blocked : p.blacklist.shouldLog (snapshot i at_).path = false) (arrival : Arrival) (s : Scene σ) :
    ((logging p identifies true).serve i arrival at_ s).1.isSome = true := by
  obtain ⟨res, found, -, answered⟩ := isSome_serve_eq p identifies i at_ arrival s
  rw [answered, Pipeline.log_of_blacklisted res found blocked]
  rfl

/-- Under a sink that returns, an exchange is sent nothing only if it is to be logged and one of its instants cannot be
written. -/
theorem isSome_serve (returns : p.sink.Returns) (identifies : Bool) (i : Incoming) (at_ : Instant)
    (arrival : Arrival) (s : Scene σ) :
    ((logging p identifies true).serve i arrival at_ s).1.isSome =
      (!p.blacklist.shouldLog (snapshot i at_).path ||
        decide (Exchange.Dated (snapshot i at_) (p.clock s.own).1)) := by
  obtain ⟨res, found, own, answered⟩ := isSome_serve_eq p identifies i at_ arrival s
  rw [answered, Pipeline.isSome_log, Pipeline.handings_returned returns, Bool.and_true, own]

/-- What an exchange that is answered adds to the counters. One that is not answered adds nothing. -/
theorem totals_serve (drops : p.sink.CountsDrops) (counted : p.counted = true) (i : Incoming) (at_ : Instant)
    (arrival : Arrival) (s : Scene σ) :
    let served := (logging p identifies true).serve i arrival at_ s
    let logged := p.blacklist.shouldLog (snapshot i at_).path
    Counters.Totals (logged && served.1.isSome).toNat (!logged && served.1.isSome).toNat s.counters
      served.2.counters := by
  intro served logged
  have skipped : (!logged && served.1.isSome) = !logged := by
    cases hl : logged with
    | true => rfl
    | false => exact isSome_serve_of_blocked identifies hl arrival s
  obtain ⟨found, steady, same⟩ := serve_eq p identifies i at_ arrival s
  have same : served = _ := same
  rw [skipped, same, ← steady.counters_eq]
  exact totals_finish identifies true drops counted i at_ s arrival found

theorem reports_of_serve {i : Incoming} {at_ : Instant} (asked : isMetrics (snapshot i at_) = true) {body : Bytes}
    {s : Scene σ} (few : s.counters.emitted.toNat < 2 ^ 53) (few' : s.counters.blacklisted.toNat < 2 ^ 53)
    {sent : Response} (hs : ((logging p identifies true).serve i (.whole body) at_ s).1 = some sent) :
    sent.Reports s.counters.emitted.toNat s.counters.blacklisted.toNat := by
  obtain ⟨found, steady, rfl⟩ := sent_of_serve hs
  apply Counters.reports_exportText few few'
  rw [response, Response.body_identified, ← steady.counters_eq, ← body_document expositionType]
  exact congrArg Response.body (route_metrics rfl asked body found.counters)

theorem unreadable_of_serve {i : Incoming} {at_ : Instant} {reason : String} {s : Scene σ} {sent : Response}
    (hs : ((logging p identifies true).serve i (.broken reason) at_ s).1 = some sent) :
    sent.status = .badRequest ∧ ∀ emitted blacklisted, ¬ sent.Reports emitted blacklisted := by
  obtain ⟨found, -, rfl⟩ := sent_of_serve hs
  rw [response, Response.status_identified]
  refine ⟨rfl, ?_⟩
  rintro emitted blacklisted ⟨text, read, value, -⟩
  rw [Response.body_identified] at read
  have read : textOfBytes? (utf8 "Failed to read request body") = some text := read
  rw [textOfBytes?_utf8] at read
  obtain rfl := Option.some.inj read
  have none : Exposition.valuesOf "request_log_events_emitted_total" "Failed to read request body" = [] := by
    decide
  rw [none] at value
  cases value

theorem Visited.split {start done : Scene σ} {earlier later : List Visit} {v : Visit}
    (run : Visited p identifies start (earlier ++ v :: later) done) :
    ∃ s, Visited p identifies start earlier s ∧ v.left = (p.clock s.own).1 ∧
      v.sent = ((logging p identifies true).serve v.incoming v.arrival v.at_ s).1 := by
  generalize all : earlier ++ v :: later = visits at run
  induction run generalizing later with
  | none => simp at all
  | meanwhile _ _ ih => exact ih all
  | @visit visits s i at_ arrival before ih =>
    rcases List.eq_nil_or_concat later with rfl | ⟨rest, last, rfl⟩
    · obtain ⟨rfl, same⟩ := List.append_inj' all rfl
      obtain rfl := List.head_eq_of_cons_eq same
      exact ⟨s, before, rfl, rfl⟩
    · rw [List.concat_eq_append, ← List.cons_append, ← List.append_assoc] at all
      exact ih (List.append_inj_left' all rfl)

theorem Visited.totals (drops : p.sink.CountsDrops) (counted : p.counted = true)
    {start s : Scene σ} {visits : List Visit} (run : Visited p identifies start visits s) :
    let answered := visits.filter Visit.answered
    Counters.Totals (answered.countP fun v => v.logged p.blacklist)
      (answered.countP fun v => !v.logged p.blacklist) start.counters s.counters := by
  simp only [List.countP_filter]
  induction run with
  | none => exact .refl start.counters
  | meanwhile _ same ih =>
    rw [same]
    exact ih
  | visit i at_ arrival _ ih => exact ih.concat (totals_serve drops counted i at_ arrival _)

theorem Visited.answered_eq (returns : p.sink.Returns) {start s : Scene σ} {visits : List Visit}
    (run : Visited p identifies start visits s) {v : Visit} (hv : v ∈ visits) :
    v.answered = (!v.logged p.blacklist || decide (Exchange.Dated v.request v.left)) := by
  obtain ⟨earlier, later, rfl⟩ := List.append_of_mem hv
  obtain ⟨found, -, left, sent⟩ := run.split
  rw [Visit.answered, sent, isSome_serve returns, left]
  rfl

end Serving

/-- Asked for its counters, a host answers with the numbers of the exchanges before this one: of those that were
answered, how many were logged and how many were not because of their path. Under a sink that returns it has answered
all whose instants can be written. A request whose body is lost is answered without the counters. -/
theorem reports_earlier {p : Pipeline σ} (drops : p.sink.CountsDrops) (counted : p.counted = true)
    (identifies : Bool) {start done : Scene σ} (unlogged : start.counters.emitted = 0)
    (unskipped : start.counters.blacklisted = 0) {earlier later : List Visit} {v : Visit}
    (run : Visited p identifies start (earlier ++ v :: later) done) (asked : isMetrics v.request = true) :
    let answered := earlier.filter Visit.answered
    let emitted := answered.countP fun w => w.logged p.blacklist
    let blacklisted := answered.countP fun w => !w.logged p.blacklist
    (∀ sent, v.sent = some sent →
      (∀ body, v.arrival = .whole body → emitted < 2 ^ 53 → blacklisted < 2 ^ 53 →
        sent.Reports emitted blacklisted) ∧
      ∀ reason, v.arrival = .broken reason →
        sent.status = .badRequest ∧ ∀ emitted blacklisted, ¬ sent.Reports emitted blacklisted) ∧
    emitted + blacklisted = answered.length ∧
    (p.sink.Returns → ∀ w ∈ v :: earlier,
      w.answered = (!w.logged p.blacklist || decide (Exchange.Dated w.request w.left))) := by
  intro answered emitted blacklisted
  obtain ⟨s, before, -, ended⟩ := run.split
  refine ⟨fun sent hs => ⟨fun body arrived few few' => ?_, fun reason lost => ?_⟩, ?_, fun returns w hw => ?_⟩
  · have totals := before.totals drops counted
    have emitted_eq : s.counters.emitted.toNat = emitted := by
      rw [totals.emitted_eq, unlogged, UInt64.zero_add]
      exact UInt64.toNat_ofNat_of_lt' (Nat.lt_trans few (by decide))
    have blacklisted_eq : s.counters.blacklisted.toNat = blacklisted := by
      rw [totals.blacklisted_eq, unskipped, UInt64.zero_add]
      exact UInt64.toNat_ofNat_of_lt' (Nat.lt_trans few' (by decide))
    rw [← emitted_eq] at few ⊢
    rw [← blacklisted_eq] at few' ⊢
    rw [hs, arrived] at ended
    exact reports_of_serve asked few few' ended.symm
  · rw [hs, lost] at ended
    exact unreadable_of_serve ended.symm
  · rw [List.length_eq_countP_add_countP fun w => w.logged p.blacklist]
    simp [emitted, blacklisted]
  · apply run.answered_eq returns
    rcases List.mem_cons.mp hw with rfl | hw
    · exact List.mem_append_right _ List.mem_cons_self
    · exact List.mem_append_left _ hw

/-- A path that is not logged, a body that is lost, and the counters twice: the second time they tell of the first. -/
theorem reports_earlier_twice :
    let p : Pipeline (List Sighting) :=
      { blacklist := .ofEntries ["/health"] [], clock := fun own => (⟨1000000⟩, own)
        sink := .recording, counted := true }
    let h := logging p true true
    let get (path : Target) : Incoming :=
      { method := .get, target := path, headers := .empty, remote := ⟨.v4 127 0 0 1, 8080, 0⟩ }
    let health := get ⟨"/health", none, by decide, by decide⟩
    let metrics := get ⟨"/metrics", none, by decide, by decide⟩
    let first := h.serve health (.whole []) ⟨0⟩ (plainScene.withOwn [])
    let second := h.serve (get .root) .lost ⟨0⟩ first.2
    let third := h.serve metrics (.whole []) ⟨0⟩ second.2
    let fourth := h.serve metrics (.whole []) ⟨0⟩ third.2
    ∃ sent, fourth.1 = some sent ∧ sent.Reports 2 1 := by
  intro p h get health metrics first second third fourth
  have returns : p.sink.Returns := fun _ _ => rfl
  have drops : p.sink.CountsDrops := fun _ s => ⟨s.counters.dropped, rfl⟩
  let visit (i : Incoming) (arrival : Arrival) (sent : Option Response) : Visit :=
    ⟨i, ⟨0⟩, arrival, ⟨1000000⟩, sent⟩
  let earlier := [visit health (.whole []) first.1, visit (get .root) .lost second.1,
    visit metrics (.whole []) third.1]
  let last := visit metrics (.whole []) fourth.1
  have run : Visited p true (plainScene.withOwn []) (earlier ++ [last]) fourth.2 :=
    .visit metrics ⟨0⟩ (.whole []) (.visit metrics ⟨0⟩ (.whole []) (.visit (get .root) ⟨0⟩ .lost
      (.visit health ⟨0⟩ (.whole []) .none)))
  have dated : ∀ v ∈ earlier ++ [last], Exchange.Dated v.request v.left := by decide +kernel
  have answered : ∀ v ∈ earlier ++ [last], v.answered = true := by
    intro v hv
    rw [run.answered_eq returns hv, decide_eq_true (dated v hv), Bool.or_true]
  have all : earlier.filter Visit.answered = earlier :=
    List.filter_eq_self.mpr fun v hv => answered v (List.mem_append_left _ hv)
  have logged : earlier.countP (·.logged p.blacklist) = 2 ∧ earlier.countP (!·.logged p.blacklist) = 1 := by
    decide +kernel
  have asked : isMetrics last.request = true := by decide
  obtain ⟨sent, hs⟩ := Option.isSome_iff_exists.mp (answered last List.mem_concat_self)
  obtain ⟨reports, -⟩ := (reports_earlier drops rfl true rfl rfl run asked).1 sent hs
  rw [all, logged.1, logged.2] at reports
  exact ⟨sent, hs, reports [] rfl (by decide) (by decide)⟩

/-- Asked for the counters in a request whose body is lost, a host does not show them. And an exchange that came after
the end of the calendar is neither answered nor counted, although its path is to be logged. -/
theorem unreported_of_lost :
    let p : Pipeline (List Sighting) :=
      { clock := fun own => (⟨1000000⟩, own), sink := .recording, counted := true }
    let h := logging p true true
    let get (path : Target) : Incoming :=
      { method := .get, target := path, headers := .empty, remote := ⟨.v4 127 0 0 1, 8080, 0⟩ }
    let metrics := get ⟨"/metrics", none, by decide, by decide⟩
    let scene := plainScene.withOwn []
    let late := h.serve (get .root) (.whole []) (.ofSeconds (Calendar.lastSecond + 1) 0) scene
    isMetrics (snapshot metrics ⟨0⟩) = true ∧ p.blacklist.shouldLog "/" = true ∧
      (∃ sent, (h.serve metrics .lost ⟨0⟩ scene).1 = some sent ∧
        ∀ emitted blacklisted, ¬ sent.Reports emitted blacklisted) ∧
      late.1.isSome = false ∧
      ∃ sent, (h.serve metrics (.whole []) ⟨0⟩ late.2).1 = some sent ∧ sent.Reports 0 0 := by
  intro p h get metrics scene late
  have returns : p.sink.Returns := fun _ _ => rfl
  have drops : p.sink.CountsDrops := fun _ s => ⟨s.counters.dropped, rfl⟩
  have asked : isMetrics (snapshot metrics ⟨0⟩) = true := by decide
  have answered (arrival : Arrival) (s : Scene (List Sighting)) :
      ∃ sent, (h.serve metrics arrival ⟨0⟩ s).1 = some sent :=
    Option.isSome_iff_exists.mp (isSome_serve returns true metrics ⟨0⟩ arrival s)
  have unanswered : late.1.isSome = false := isSome_serve returns true (get .root) _ (.whole []) scene
  have totals : Counters.Totals _ _ scene.counters late.2.counters :=
    totals_serve drops rfl (get .root) (.ofSeconds (Calendar.lastSecond + 1) 0) (.whole []) scene
  rw [unanswered, Bool.and_false, Bool.and_false] at totals
  have emitted : late.2.counters.emitted = 0 := totals.emitted_eq
  have blacklisted : late.2.counters.blacklisted = 0 := totals.blacklisted_eq
  obtain ⟨told, ht⟩ := answered .lost scene
  obtain ⟨shown, hs⟩ := answered (.whole []) late.2
  refine ⟨asked, rfl, ⟨told, ht, (unreadable_of_serve ht).2⟩, unanswered, shown, hs, ?_⟩
  have reports := reports_of_serve asked (by rw [emitted]; decide) (by rw [blacklisted]; decide) hs
  rw [emitted, blacklisted] at reports
  exact reports

end Host

namespace App

theorem returns_sinkFor (kind : SinkKind) : (sinkFor kind).Returns := by
  intro e s
  cases kind with
  | tracing => rfl
  | stdout => rfl
  | channel =>
    simp only [sinkFor, Sink.within, Sink.queue]
    split <;> rfl

theorem countsDrops_sinkFor (kind : SinkKind) : (sinkFor kind).CountsDrops := by
  intro e s
  cases kind with
  | tracing => exact ⟨_, rfl⟩
  | stdout => exact ⟨_, rfl⟩
  | channel =>
    simp only [sinkFor, Sink.within, Sink.queue]
    split <;> exact ⟨_, rfl⟩

theorem counters_writeAllQueued (s : Scene Store) : (writeAllQueued s).counters = s.counters := by
  have one (s : Scene Store) : (writeQueued s).counters = s.counters := by
    unfold writeQueued
    split <;> rfl
  unfold writeAllQueued
  generalize s.own.queue.items = items
  induction items generalizing s with
  | nil => rfl
  | cons e rest ih => exact (ih (writeQueued s)).trans (one s)

variable {settings : Settings}

theorem visited_serve (enabled : settings.requestLog.enabled = true) {start s : Scene Store} {visits : List Visit}
    (run : Host.Visited (pipelineFor settings) true start visits s) (i : Incoming) (arrival : Arrival) :
    let (at_, own) := readClock s.own
    let (sent, after) := serve (hostFor settings) i arrival s
    Host.Visited (pipelineFor settings) true start
      (visits ++ [⟨i, at_, arrival, (readClock own).1, sent⟩]) after := by
  have came : Host.Visited (pipelineFor settings) true start visits { s with own := (readClock s.own).2 } :=
    run.meanwhile rfl
  have served := came.visit i (readClock s.own).1 arrival
  rw [← hostFor_eq enabled] at served
  exact served.meanwhile (counters_writeAllQueued _)

theorem visited_foldl_serve (enabled : settings.requestLog.enabled = true) {start s : Scene Store}
    {visits : List Visit} (run : Host.Visited (pipelineFor settings) true start visits s)
    (came : List (Incoming × Arrival)) :
    ∃ more, more.map (fun v => (v.incoming, v.arrival)) = came ∧
      Host.Visited (pipelineFor settings) true start (visits ++ more)
        (came.foldl (fun s c => (serve (hostFor settings) c.1 c.2 s).2) s) := by
  induction came generalizing s visits with
  | nil => exact ⟨[], rfl, by rwa [List.append_nil]⟩
  | cons c rest ih =>
    obtain ⟨more, same, later⟩ := ih (visited_serve enabled run c.1 c.2)
    refine ⟨_ :: more, ?_, by rwa [List.append_assoc] at later⟩
    rw [List.map_cons, same]

/-- Whatever exchanges the application serves one after another, its counters tell how many of those that it has
answered were logged, and how many were not because of their path. It answers all whose instants can be written. -/
theorem totals_foldl_serve (enabled : settings.requestLog.enabled = true) (start : Scene Store)
    (came : List (Incoming × Arrival)) :
    let blacklist := settings.requestLog.blacklist
    let after := came.foldl (fun s c => (serve (hostFor settings) c.1 c.2 s).2) start
    ∃ visits : List Visit, visits.map (fun v => (v.incoming, v.arrival)) = came ∧
      Host.Visited (pipelineFor settings) true start visits after ∧
      Counters.Totals ((visits.filter Visit.answered).countP fun v => v.logged blacklist)
        ((visits.filter Visit.answered).countP fun v => !v.logged blacklist) start.counters after.counters ∧
      ∀ v ∈ visits, v.answered = (!v.logged blacklist || decide (Exchange.Dated v.request v.left)) := by
  intro blacklist after
  obtain ⟨visits, same, run⟩ := visited_foldl_serve enabled .none came
  exact ⟨visits, same, run, run.totals (countsDrops_sinkFor _) rfl, fun v => run.answered_eq (returns_sinkFor _)⟩

end App

end AccessLog
