import AccessLog.Proofs.Ledger
import AccessLog.Proofs.Logging

/-!
# Exchanges that are served at the same time

However the turns of any number of exchanges come between one another, the pipeline runs once for each that ends, also
where its body was lost, and each hands the sink the event that it hands it alone, with the same new identifiers and at
the same instant. Its response is the one that it has alone if the sink comes back from that event as it does alone. A
sink that always returns does so, and then the counters, too, depend on the exchanges only.
-/

namespace AccessLog

variable {σ : Type}

/-- From one scene to another the pipeline has run for these exchanges, one after the other, and nothing else has
changed what it reads. -/
inductive Pipeline.Ran (p : Pipeline σ) (start : Scene σ) : List (Request × Response) → Scene σ → Prop where
  | none : p.Ran start [] start
  | meanwhile {runs a b} : p.Ran start runs a → a.Steady b → p.Ran start runs b
  | log {runs a} (req res) : p.Ran start runs a → p.Ran start (runs ++ [(req, res)]) (p.log req res a).2

/-- What the sink was handed between two scenes, and how it came back. -/
def newHandings (before after : Scene (Minuted σ)) : List (Handing σ) :=
  after.own.2.drop before.own.2.length

def newEvents (before after : Scene (Minuted σ)) : List Event := (newHandings before after).map (·.event)

def newOutcomes (before after : Scene (Minuted σ)) : List Outcome := (newHandings before after).map (·.outcome)

theorem newHandings_eq {before after : Scene (Minuted σ)} {handed : List (Handing σ)}
    (h : after.own.2 = before.own.2 ++ handed) : newHandings before after = handed := by
  rw [newHandings, h, List.drop_left]

namespace Host

namespace Ended

def request (x : Ended σ) : Request := snapshot x.incoming x.at_

theorem request_eq {x y : Ended σ} (same : x.whole = y.whole) : x.request = y.request := by
  simp only [whole, Prod.mk.injEq] at same
  rw [request, request, same.2.1, same.2.2.1]

def now (p : Pipeline σ) (x : Ended (Minuted σ)) : Instant := (p.clock x.last.own.1).1

def events (h : Host (Minuted σ)) (x : Ended (Minuted σ)) : List Event := newEvents x.last (x.outcome h).2

def outcomes (h : Host (Minuted σ)) (x : Ended (Minuted σ)) : List Outcome := newOutcomes x.last (x.outcome h).2

/-- The exchange with the response that it had when the pipeline ran. -/
def run (identifies : Bool) (h : Host (Minuted σ)) (x : Ended (Minuted σ)) : Request × Response :=
  (x.request, h.response identifies x.incoming x.at_ x.arrival x.first x.last)

/-- A scene that gives an exchange the new identifiers and the instant that it had. -/
structure Supplies (p : Pipeline σ) (x : Ended (Minuted σ)) (s : Scene (Minuted σ)) : Prop where
  requestId_eq : x.first.requestIds.next.1 = s.requestIds.next.1
  eventId_eq : x.last.eventIds.next.1 = s.eventIds.next.1
  now_eq : x.now p = (p.clock s.own.1).1

/-- The exchange is as it is alone in a scene, except for the counters where they are shown. -/
structure AsAlone (p : Pipeline σ) (h : Host (Minuted σ)) (x : Ended (Minuted σ)) (s : Scene (Minuted σ)) : Prop where
  events_alike : List.Forall₂ (Event.Alike (!h.reveals x.incoming x.arrival)) (x.events h)
    (newEvents s (h.serve x.incoming x.arrival x.at_ s).2)
  response_alike : p.sink.Returns ∨ x.outcomes h = newOutcomes s (h.serve x.incoming x.arrival x.at_ s).2 →
    Option.Rel (Response.Alike (!h.reveals x.incoming x.arrival)) (x.outcome h).1
      (h.serve x.incoming x.arrival x.at_ s).1

end Ended

section Exchanges

variable {p : Pipeline σ} (identifies exposesCounters : Bool)

/-- The end of an exchange is one run of the pipeline, of which the minutes tell. -/
theorem Ended.outcome_eq (x : Ended (Minuted σ)) :
    let h := logging p.minuted identifies exposesCounters
    let res := (x.run identifies h).2
    ∃ found : Scene σ, found.own = x.last.own.1 ∧ found.eventIds = x.last.eventIds ∧
      (x.outcome h).1 = (p.log x.request res found).1.map (fun _ => res) ∧
      (x.outcome h).2.own.2 = x.last.own.2 ++ p.handings found (.log x.request res) := by
  intro h res
  have steady := h.answer_steady x.request x.arrival x.last
  have finished : x.outcome h = _ :=
    finish_minuted p identifies exposesCounters x.incoming x.at_ x.first x.arrival x.last
  refine ⟨(h.answer x.request x.arrival x.last).2.plain, congrArg (·.1) steady.own_eq, steady.eventIds_eq, ?_, ?_⟩
  · rw [finished]
    rfl
  · rw [finished]
    rfl

theorem Ended.events_eq (x : Ended (Minuted σ)) :
    let h := logging p.minuted identifies exposesCounters
    x.events h = p.eventsOf x.request (x.run identifies h).2 (x.now p) x.last.eventIds.next.1 := by
  intro h
  obtain ⟨found, own, ids, -, minutes⟩ := x.outcome_eq (p := p) identifies exposesCounters
  rw [events, newEvents, newHandings_eq minutes, Pipeline.map_event_handings, own, ids]
  rfl

theorem Ended.isSome_outcome (x : Ended (Minuted σ)) :
    let h := logging p.minuted identifies exposesCounters
    (x.outcome h).1.isSome =
      ((!p.blacklist.shouldLog x.request.path || decide (Exchange.Dated x.request (x.now p))) &&
        (x.outcomes h).all (· = .returned)) := by
  intro h
  obtain ⟨found, own, -, answered, minutes⟩ := x.outcome_eq (p := p) identifies exposesCounters
  rw [answered, Option.isSome_map, Pipeline.isSome_log, own, outcomes, newOutcomes, newHandings_eq minutes]
  rfl

theorem Ended.outcomes_returned (returns : p.sink.Returns) (x : Ended (Minuted σ)) :
    (x.outcomes (logging p.minuted identifies exposesCounters)).all (· = .returned) = true := by
  obtain ⟨found, -, -, -, minutes⟩ := x.outcome_eq (p := p) identifies exposesCounters
  rw [outcomes, newOutcomes, newHandings_eq minutes]
  exact Pipeline.handings_returned returns found _

theorem rel_map_const {α β γ : Type} {r : γ → γ → Prop} {a : Option α} {b : Option β} {x y : γ}
    (same : a.isSome = b.isSome) (alike : r x y) :
    Option.Rel r (a.map fun _ => x) (b.map fun _ => y) := by
  cases a with
  | none =>
    cases b with
    | none => exact .none
    | some => cases same
  | some =>
    cases b with
    | none => cases same
    | some => exact .some alike

/-- The exchange as it goes when it begins in a scene and nothing comes in between. -/
def Ended.alone (h : Host (Minuted σ)) (x : Ended (Minuted σ)) (s : Scene (Minuted σ)) : Ended (Minuted σ) :=
  { x with first := s, last := (h.begin x.incoming x.at_ s).2 }

theorem newHandings_alone (x : Ended (Minuted σ)) (s after : Scene (Minuted σ)) :
    let h := logging p.minuted identifies exposesCounters
    newHandings (x.alone h s).last after = newHandings s after := by
  intro h
  have steady : s.Steady (x.alone h s).last := begin_steady p.minuted identifies exposesCounters x.incoming x.at_ s
  rw [newHandings, newHandings, steady.own_eq]

theorem Ended.Supplies.now_alone {x : Ended (Minuted σ)} {s : Scene (Minuted σ)} (hs : x.Supplies p s) :
    (x.alone (logging p.minuted identifies exposesCounters) s).now p = x.now p := by
  have steady := begin_steady p.minuted identifies exposesCounters x.incoming x.at_ s
  rw [hs.now_eq, ← steady.own_eq]
  rfl

theorem Ended.Supplies.events_alike {x : Ended (Minuted σ)} {s : Scene (Minuted σ)} (hs : x.Supplies p s) :
    let h := logging p.minuted identifies exposesCounters
    List.Forall₂ (Event.Alike (!h.reveals x.incoming x.arrival)) (x.events h) ((x.alone h s).events h) := by
  intro h
  have steady : s.Steady (x.alone h s).last := begin_steady p.minuted identifies exposesCounters x.incoming x.at_ s
  have id : (x.alone h s).last.eventIds.next.1 = x.last.eventIds.next.1 := by
    rw [hs.eventId_eq, steady.eventIds_eq]
  rw [x.events_eq, (x.alone h s).events_eq, hs.now_alone, id]
  apply p.eventsOf_alike
  exact response_alike rfl identifies x.incoming x.at_ x.arrival hs.requestId_eq

theorem Ended.Supplies.response_alike {x : Ended (Minuted σ)} {s : Scene (Minuted σ)} (hs : x.Supplies p s) :
    let h := logging p.minuted identifies exposesCounters
    (x.outcomes h).all (· = .returned) = ((x.alone h s).outcomes h).all (· = .returned) →
    Option.Rel (Response.Alike (!h.reveals x.incoming x.arrival)) (x.outcome h).1 ((x.alone h s).outcome h).1 := by
  intro h back
  have answered : (x.outcome h).1.isSome = ((x.alone h s).outcome h).1.isSome := by
    rw [x.isSome_outcome, (x.alone h s).isSome_outcome, back, hs.now_alone]
    rfl
  obtain ⟨_, -, -, sent, -⟩ := x.outcome_eq (p := p) identifies exposesCounters
  obtain ⟨_, -, -, sent', -⟩ := (x.alone h s).outcome_eq (p := p) identifies exposesCounters
  rw [sent, sent', Option.isSome_map, Option.isSome_map] at answered
  rw [sent, sent']
  apply rel_map_const answered
  exact Host.response_alike rfl identifies x.incoming x.at_ x.arrival hs.requestId_eq

theorem as_alone {x : Ended (Minuted σ)} {s : Scene (Minuted σ)} (hs : x.Supplies p s) :
    x.AsAlone p (logging p.minuted identifies exposesCounters) s := by
  let h := logging p.minuted identifies exposesCounters
  have events : newEvents s (h.serve x.incoming x.arrival x.at_ s).2 = (x.alone h s).events h :=
    congrArg (List.map Handing.event) (newHandings_alone identifies exposesCounters x s _).symm
  have outcomes : newOutcomes s (h.serve x.incoming x.arrival x.at_ s).2 = (x.alone h s).outcomes h :=
    congrArg (List.map Handing.outcome) (newHandings_alone identifies exposesCounters x s _).symm
  constructor
  · rw [events]
    exact hs.events_alike identifies exposesCounters
  · rw [outcomes]
    intro came
    apply hs.response_alike identifies exposesCounters
    rcases came with returns | same
    · rw [x.outcomes_returned identifies exposesCounters returns,
        (x.alone h s).outcomes_returned identifies exposesCounters returns]
    · exact congrArg (·.all (· = .returned)) same

theorem finish_ran (i : Incoming) (at_ : Instant) (s₀ : Scene σ) (arrival : Arrival) {s start : Scene σ}
    {runs : List (Request × Response)} (ran : p.Ran start runs s) :
    let h := logging p identifies exposesCounters
    p.Ran start (runs ++ [(snapshot i at_, h.response identifies i at_ arrival s₀ s)])
      (h.finish (h.begin i at_ s₀).1 arrival s).2 := by
  intro h
  rw [finish_begin]
  exact .log _ _ (ran.meanwhile (h.answer_steady (snapshot i at_) arrival s))

end Exchanges

namespace Ledger

/-- What has become of the exchanges of a ledger. -/
structure Accounted (p : Pipeline σ) (identifies : Bool) (h : Host (Minuted σ)) (start : Scene (Minuted σ))
    (l : Ledger (Minuted σ)) : Prop where
  ran : p.minuted.Ran start (l.ended.map (Ended.run identifies h)) l.scene
  handed : newEvents start l.scene = l.ended.flatMap (Ended.events h)
  minutes : start.own.2 <+: l.scene.own.2

/-- The counters have counted the exchanges of a ledger: those that were logged and answered, and those that were not
logged because of their path. -/
def Counted (p : Pipeline σ) (h : Host (Minuted σ)) (start : Scene (Minuted σ)) (l : Ledger (Minuted σ)) : Prop :=
  Counters.Totals (l.ended.countP fun x => p.blacklist.shouldLog x.request.path && (x.outcome h).1.isSome)
    (l.ended.countP fun x => !p.blacklist.shouldLog x.request.path) start.counters l.scene.counters

section Runs

variable {p : Pipeline σ} {identifies exposesCounters : Bool} {start : Scene (Minuted σ)}
  {l : Ledger (Minuted σ)}

theorem accounted_start (s : Scene (Minuted σ)) :
    Accounted p identifies (logging p.minuted identifies exposesCounters) s ⟨s, [], []⟩ where
  ran := .none
  handed := by simp [newEvents, newHandings]
  minutes := List.prefix_refl _

theorem Accounted.addBegun
    (ha : l.Accounted p identifies (logging p.minuted identifies exposesCounters) start) (number : Nat)
    (i : Incoming) (at_ : Instant) :
    let h := logging p.minuted identifies exposesCounters
    (l.addBegun h number i at_).Accounted p identifies h start := by
  intro h
  have steady : l.scene.Steady (l.addBegun h number i at_).scene :=
    begin_steady p.minuted identifies exposesCounters i at_ l.scene
  constructor
  · exact ha.ran.meanwhile steady
  · rw [newEvents, newHandings, steady.own_eq]
    exact ha.handed
  · rw [steady.own_eq]
    exact ha.minutes

theorem Accounted.addEnded
    (ha : l.Accounted p identifies (logging p.minuted identifies exposesCounters) start) (b : Begun (Minuted σ))
    (arrival : Arrival) :
    let h := logging p.minuted identifies exposesCounters
    (l.addEnded h b arrival).Accounted p identifies h start := by
  intro h
  let x : Ended (Minuted σ) := ⟨b, arrival, l.scene⟩
  obtain ⟨found, -, -, -, minutes⟩ := x.outcome_eq (p := p) identifies exposesCounters
  obtain ⟨before, hb⟩ := ha.minutes
  have all : (x.outcome h).2.own.2 =
      start.own.2 ++ (before ++ p.handings found (.log x.request (x.run identifies h).2)) := by
    rw [minutes, ← hb, List.append_assoc]
  constructor
  · rw [Ledger.addEnded, List.map_append, List.map_singleton]
    exact finish_ran identifies exposesCounters x.incoming x.at_ x.first x.arrival ha.ran
  · have earlier := ha.handed
    rw [newEvents, newHandings_eq hb.symm] at earlier
    rw [Ledger.addEnded, List.flatMap_append, List.flatMap_singleton, ← earlier, newEvents, newHandings_eq all,
      List.map_append]
    exact congrArg (fun handed => _ ++ handed.map (·.event)) (newHandings_eq minutes).symm
  · exact ⟨_, all.symm⟩

theorem accounted_run (s : Scene (Minuted σ)) (turns : List Turn) :
    let h := logging p.minuted identifies exposesCounters
    ((⟨s, [], []⟩ : Ledger (Minuted σ)).run h turns).Accounted p identifies h s := by
  intro h
  apply run_induction
  · exact fun _ number i at_ ha => ha.addBegun number i at_
  · exact fun _ b arrival ha => ha.addEnded b arrival
  · exact accounted_start s

theorem counted_run (drops : p.sink.CountsDrops) (counted : p.counted = true) (s : Scene (Minuted σ))
    (turns : List Turn) :
    let h := logging p.minuted identifies exposesCounters
    ((⟨s, [], []⟩ : Ledger (Minuted σ)).run h turns).Counted p h s := by
  intro h
  apply run_induction
  · intro l number i at_ hl
    have steady : l.scene.Steady (l.addBegun h number i at_).scene :=
      begin_steady p.minuted identifies exposesCounters i at_ l.scene
    unfold Counted
    rw [steady.counters_eq]
    exact hl
  · intro l b arrival hl
    exact Counters.Totals.concat hl (totals_finish (p := p.minuted) identifies exposesCounters drops.minuted counted
      b.incoming b.at_ b.first arrival l.scene)
  · exact .refl s.counters

end Runs

theorem Counted.counters_eq {p : Pipeline σ} {h : Host (Minuted σ)} {s s' : Scene (Minuted σ)}
    {l l' : Ledger (Minuted σ)} {turns turns' : List Turn} (hl : l.Counted p h s) (hl' : l'.Counted p h s')
    (start : s'.counters = s.counters) (ht : l.Tells turns) (ht' : l'.Tells turns') (hp : turns'.Perm turns) :
    l'.scene.counters.blacklisted = l.scene.counters.blacklisted ∧
      l'.scene.counters.malformed = l.scene.counters.malformed ∧
      ((∀ x ∈ l.ended, ∀ y ∈ l'.ended, x.whole = y.whole →
          (x.outcome h).1.isSome = (y.outcome h).1.isSome) →
        l'.scene.counters.emitted = l.scene.counters.emitted) := by
  have counts {α : Type} (f : Ended (Minuted σ) → α) (which : α → Bool)
      (same : ∀ x ∈ l.ended, ∀ y ∈ l'.ended, x.whole = y.whole → f x = f y) :
      l'.ended.countP (which ∘ f) = l.ended.countP (which ∘ f) := by
    rw [← List.countP_map, ← List.countP_map, (ht.perm_map ht' hp same).countP_eq]
  have path : ∀ x ∈ l.ended, ∀ y ∈ l'.ended, x.whole = y.whole → x.request.path = y.request.path :=
    fun x _ y _ same => congrArg Request.path (Ended.request_eq same)
  have skipped : l'.ended.countP (fun y => !p.blacklist.shouldLog y.request.path) = _ :=
    counts (·.request.path) (!p.blacklist.shouldLog ·) path
  refine ⟨?_, ?_, fun answered => ?_⟩
  · rw [hl'.blacklisted_eq, hl.blacklisted_eq, start, skipped]
    rfl
  · rw [hl'.malformed_eq, hl.malformed_eq, start]
  · have logged : l'.ended.countP (fun y => p.blacklist.shouldLog y.request.path && (y.outcome h).1.isSome) = _ :=
      counts (fun x => (x.request.path, (x.outcome h).1.isSome)) (fun x => p.blacklist.shouldLog x.1 && x.2)
        fun x hx y hy same => Prod.ext (path x hx y hy same) (answered x hx y hy same)
    rw [hl'.emitted_eq, hl.emitted_eq, start, logged]
    rfl

end Ledger

section Plain

def Begun.plain (b : Begun (Minuted σ)) : Begun σ := ⟨b.number, b.incoming, b.at_, b.first.plain⟩

def Ended.plain (x : Ended (Minuted σ)) : Ended σ := ⟨x.toBegun.plain, x.arrival, x.last.plain⟩

def Ledger.plain (l : Ledger (Minuted σ)) : Ledger σ :=
  ⟨l.scene.plain, l.underway.map Begun.plain, l.ended.map Ended.plain⟩

variable (p : Pipeline σ) (identifies exposesCounters : Bool) (l : Ledger (Minuted σ))

theorem Ended.outcome_plain (x : Ended (Minuted σ)) :
    let outcome := x.outcome (logging p.minuted identifies exposesCounters)
    x.plain.outcome (logging p identifies exposesCounters) = (outcome.1, outcome.2.plain) :=
  (finish_plain p identifies exposesCounters x.incoming x.at_ x.first x.arrival x.last).symm

theorem Ledger.plain_addBegun (number : Nat) (i : Incoming) (at_ : Instant) :
    (l.addBegun (logging p.minuted identifies exposesCounters) number i at_).plain =
      l.plain.addBegun (logging p identifies exposesCounters) number i at_ := by
  have scene := begin_plain p identifies exposesCounters i at_ l.scene
  simp only [plain, addBegun, scene, List.map_append, List.map_singleton]
  rfl

theorem Ledger.plain_addEnded (b : Begun (Minuted σ)) (arrival : Arrival) :
    (l.addEnded (logging p.minuted identifies exposesCounters) b arrival).plain =
      l.plain.addEnded (logging p identifies exposesCounters) b.plain arrival := by
  let x : Ended (Minuted σ) := ⟨b, arrival, l.scene⟩
  have scene : (x.plain.outcome (logging p identifies exposesCounters)).2 =
      (x.outcome (logging p.minuted identifies exposesCounters)).2.plain :=
    congrArg (·.2) (x.outcome_plain p identifies exposesCounters)
  simp only [plain, addEnded, List.map_append, List.map_singleton, List.filter_map]
  exact congrArg (fun found => (⟨found, _, _⟩ : Ledger σ)) scene.symm

theorem Ledger.plain_next (t : Turn) :
    (l.next (logging p.minuted identifies exposesCounters) t).plain =
      l.plain.next (logging p identifies exposesCounters) t := by
  cases t with
  | begin number i at_ =>
    have numbers : l.plain.begun.map Begun.number = l.begun.map Begun.number := by
      simp [begun, plain, Function.comp_def, Begun.plain, Ended.plain]
    unfold next
    dsimp only
    rw [numbers]
    by_cases used : number ∈ l.begun.map Begun.number
    · rw [if_pos used, if_pos used]
    · rw [if_neg used, if_neg used]
      exact plain_addBegun ..
  | finish number arrival =>
    have found : l.plain.underway.find? (·.number = number) =
        (l.underway.find? (·.number = number)).map Begun.plain := List.find?_map ..
    unfold next
    dsimp only
    rw [found]
    cases l.underway.find? (·.number = number) with
    | none => rfl
    | some b => exact plain_addEnded ..

theorem Ledger.plain_run (turns : List Turn) :
    (l.run (logging p.minuted identifies exposesCounters) turns).plain =
      l.plain.run (logging p identifies exposesCounters) turns := by
  induction turns generalizing l with
  | nil => rfl
  | cons t rest ih =>
    show ((l.next _ t).run _ rest).plain = (l.plain.next _ t).run _ rest
    rw [ih, plain_next]

theorem Ledger.run_plain (s : Scene (Minuted σ)) (turns : List Turn) :
    let h := logging p.minuted identifies exposesCounters
    let l := (⟨s, [], []⟩ : Ledger (Minuted σ)).run h turns
    let done := (⟨s.plain, [], []⟩ : Running σ).run (logging p identifies exposesCounters) turns
    done.answers = l.ended.map (fun x => (x.number, (x.outcome h).1)) ∧ done.scene = l.scene.plain := by
  intro h l done
  have same : l.plain.running (logging p identifies exposesCounters) = done := by
    rw [plain_run, running_run]
    rfl
  rw [← same]
  refine ⟨?_, rfl⟩
  simp only [running, plain, List.map_map, Function.comp_def, Ended.outcome_plain]
  rfl

end Plain

/-- However the turns come, the pipeline has run once for each exchange that ends and for nothing else, and each hands
over what it hands over alone. It has the response that it has alone if the sink comes back as it does alone, and if the
sink does nothing to the other counters, these are the same for every order of the turns. The minutes have no part in it. -/
theorem run_interleaved (p : Pipeline σ) (identifies exposesCounters : Bool) (s : Scene (Minuted σ))
    (turns : List Turn) :
    let h := logging p.minuted identifies exposesCounters
    let l := (⟨s, [], []⟩ : Ledger (Minuted σ)).run h turns
    let done := (⟨s.plain, [], []⟩ : Running σ).run (logging p identifies exposesCounters) turns
    (done.answers = l.ended.map (fun x => (x.number, (x.outcome h).1)) ∧ done.scene = l.scene.plain) ∧
    ((⟨s, [], []⟩ : Running (Minuted σ)).Proper h turns → l.Tells turns) ∧
    l.Accounted p identifies h s ∧
    (∀ x ∈ l.ended, ∀ alone, x.Supplies p alone → x.AsAlone p h alone) ∧
    (p.sink.CountsDrops → p.counted = true → l.Counted p h s ∧
      ∀ (s' : Scene (Minuted σ)) (turns' : List Turn), s'.counters = s.counters → turns'.Perm turns →
        (⟨s, [], []⟩ : Running (Minuted σ)).Proper h turns →
        (⟨s', [], []⟩ : Running (Minuted σ)).Proper h turns' →
        let l' := (⟨s', [], []⟩ : Ledger (Minuted σ)).run h turns'
        l'.scene.counters.blacklisted = l.scene.counters.blacklisted ∧
          l'.scene.counters.malformed = l.scene.counters.malformed ∧
          (p.sink.Returns →
            (∀ x ∈ l.ended, ∀ y ∈ l'.ended, x.number = y.number →
              (Exchange.Dated x.request (x.now p) ↔ Exchange.Dated y.request (y.now p))) →
            l'.scene.counters.emitted = l.scene.counters.emitted)) := by
  intro h l done
  have tells (s : Scene (Minuted σ)) {turns : List Turn}
      (proper : (⟨s, [], []⟩ : Running (Minuted σ)).Proper h turns) :
      ((⟨s, [], []⟩ : Ledger (Minuted σ)).run h turns).Tells turns :=
    (Ledger.tells_nil s).run proper
  refine ⟨Ledger.run_plain p identifies exposesCounters s turns, tells s, Ledger.accounted_run s turns, ?_, ?_⟩
  · intro x _ alone supplies
    exact as_alone identifies exposesCounters supplies
  · intro drops counted
    have totals (s : Scene (Minuted σ)) (turns : List Turn) :
        ((⟨s, [], []⟩ : Ledger (Minuted σ)).run h turns).Counted p h s := Ledger.counted_run drops counted s turns
    refine ⟨totals s turns, fun s' turns' start perm proper proper' => ?_⟩
    obtain ⟨blacklisted, malformed, emitted⟩ :=
      (totals s turns).counters_eq (totals s' turns') start (tells s proper) (tells s' proper') perm
    refine ⟨blacklisted, malformed, fun returns dated => emitted fun x hx y hy same => ?_⟩
    rw [x.isSome_outcome, y.isSome_outcome, x.outcomes_returned identifies exposesCounters returns,
      y.outcomes_returned identifies exposesCounters returns, decide_eq_decide.mpr (dated x hx y hy (congrArg (·.1) same)),
      Ended.request_eq same]

/-- A path that is not logged, a body that is lost in the meantime, and the counters; and the same exchanges one after
the other. -/
theorem run_interleaved_mixed :
    let p : Pipeline (List Sighting) :=
      { blacklist := .ofEntries ["/health"] [], clock := fun own => (⟨1000000⟩, own)
        sink := .recording, counted := true }
    let h := logging p.minuted true true
    let get (path : Target) : Incoming :=
      { method := .get, target := path, headers := .empty, remote := ⟨.v4 127 0 0 1, 8080, 0⟩ }
    let first : Turn := .begin 0 (get ⟨"/health", none, by decide, by decide⟩) ⟨0⟩
    let second : List Turn := [.begin 1 (get .root) ⟨0⟩, .finish 1 .lost]
    let third : List Turn := [.begin 2 (get ⟨"/metrics", none, by decide, by decide⟩) ⟨0⟩, .finish 2 (.whole [])]
    let turns := first :: (second ++ [.finish 0 (.whole [])] ++ third)
    let turns' := first :: ([.finish 0 (.whole [])] ++ second ++ third)
    let scene := plainScene.withOwn ([], [])
    let l := (⟨scene, [], []⟩ : Ledger (Minuted (List Sighting))).run h turns
    let l' := (⟨scene, [], []⟩ : Ledger (Minuted (List Sighting))).run h turns'
    p.sink.Returns ∧ p.sink.CountsDrops ∧ l.ended.map (·.number) = [1, 0, 2] ∧
      l'.ended.map (·.number) = [0, 1, 2] ∧
      (∀ x ∈ l.ended, x.AsAlone p h scene) ∧
      l.scene.counters.emitted = 2 ∧ l.scene.counters.blacklisted = 1 ∧
      l'.scene.counters.emitted = 2 ∧ l'.scene.counters.blacklisted = 1 := by
  intro p h get first second third turns turns' scene l l'
  have returns : p.sink.Returns := fun _ _ => rfl
  have drops : p.sink.CountsDrops := fun _ s => ⟨s.counters.dropped, rfl⟩
  have same : h = ⟨⟨loggingHooks p.minuted true⟩, true⟩ := logging_eq p.minuted true true
  have perm : turns'.Perm turns := .cons first (List.Perm.append_right third List.perm_append_comm)
  have proper : ∀ given ∈ [turns, turns'],
      (⟨scene, [], []⟩ : Running (Minuted (List Sighting))).Proper h given := by
    rw [same]
    decide +kernel
  have dated : ∀ given ∈ [turns, turns'],
      ∀ x ∈ ((⟨scene, [], []⟩ : Ledger (Minuted (List Sighting))).run h given).ended,
        Exchange.Dated x.request (x.now p) := by
    rw [same]
    decide +kernel
  have ids : ∀ x ∈ l.ended, x.first.requestIds.next.1 = default ∧ x.last.eventIds.next.1 = default := by
    dsimp only [l]
    rw [same]
    decide +kernel
  have counted : l.scene.counters.emitted = 2 ∧ l.scene.counters.blacklisted = 1 := by
    dsimp only [l]
    rw [same]
    decide +kernel
  obtain ⟨-, -, -, alone, totals⟩ := run_interleaved p true true scene turns
  obtain ⟨blacklisted, -, emitted⟩ := (totals drops rfl).2 scene turns' rfl perm
    (proper turns (by simp)) (proper turns' (by simp))
  refine ⟨returns, drops, ?_, ?_, ?_, counted.1, counted.2, ?_, ?_⟩
  · dsimp only [l]
    rw [same]
    decide +kernel
  · dsimp only [l']
    rw [same]
    decide +kernel
  · exact fun x hx => alone x hx scene ⟨(ids x hx).1, (ids x hx).2, rfl⟩
  · rw [← counted.1]
    dsimp only [l, l', h]
    exact emitted returns fun x hx y hy _ =>
      iff_of_true (dated turns (by simp) x hx) (dated turns' (by simp) y hy)
  · rw [← counted.2]
    dsimp only [l, l', h]
    exact blacklisted

/-- A sink that unwinds with an event for `/b` that is not its first. Whether that exchange has a response, and how many
events are counted, is then a matter of which of two ends first. -/
theorem unanswered_out_of_turn :
    let sink : Sink Nat := fun e s =>
      (if s.own ≠ 0 ∧ e.url = "/b" then .unwound else .returned, { s with own := s.own + 1 })
    let p : Pipeline Nat := { clock := fun own => (⟨1000000⟩, own), sink, counted := true }
    let h := logging p.minuted true true
    let get (path : Target) : Incoming :=
      { method := .get, target := path, headers := .empty, remote := ⟨.v4 127 0 0 1, 8080, 0⟩ }
    let begun : List Turn := [.begin 0 (get ⟨"/a", none, by decide, by decide⟩) ⟨0⟩,
      .begin 1 (get ⟨"/b", none, by decide, by decide⟩) ⟨0⟩]
    let scene := plainScene.withOwn (0, [])
    let after (turns : List Turn) := (⟨scene, [], []⟩ : Ledger (Minuted Nat)).run h turns
    let l := after (begun ++ [.finish 0 (.whole []), .finish 1 (.whole [])])
    let l' := after (begun ++ [.finish 1 (.whole []), .finish 0 (.whole [])])
    (∃ x ∈ l.ended, x.Supplies p scene ∧ (x.outcome h).1.isSome = false ∧
      (h.serve x.incoming x.arrival x.at_ scene).1.isSome = true) ∧
      l.scene.counters.emitted = 1 ∧ l'.scene.counters.emitted = 2 := by
  intro sink p h get begun scene after l l'
  have same : h = ⟨⟨loggingHooks p.minuted true⟩, true⟩ := logging_eq p.minuted true true
  have lost : ∃ x ∈ l.ended, (x.first.requestIds.next.1 = default ∧ x.last.eventIds.next.1 = default) ∧
      (x.outcome h).1.isSome = false ∧ (h.serve x.incoming x.arrival x.at_ scene).1.isSome = true := by
    dsimp only [l, after]
    rw [same]
    decide +kernel
  obtain ⟨x, hx, ids, unanswered, answered⟩ := lost
  refine ⟨⟨x, hx, ⟨ids.1, ids.2, rfl⟩, unanswered, answered⟩, ?_⟩
  dsimp only [l, l', after]
  rw [same]
  decide +kernel

end Host

end AccessLog
