import AccessLog.Pipeline
import AccessLog.Proofs.Plain
import AccessLog.Proofs.Uuid.Spelling

/-!
# What an emission leaves in the diagnostic contexts

The sink finds the identifier of its event in the diagnostic context of the thread, whatever was there before,
and afterwards the key holds that again, whatever the sink has done and however it came back.
-/

namespace AccessLog

open Diagnostic (requestIdKey Threads)

variable {σ : Type}

/-- A value put under a key for a stretch of work: the scenes before, at the start of the work, at its end, and
after it. -/
structure Enclosed (key value : String) (before start left after : Scene σ) : Prop where
  shown : start.context.get key = some value
  start_other : ∀ k, k ≠ key → start.context.get k = before.context.get k
  start_own : start.own = before.own
  restored : after.context.get key = before.context.get key
  after_other : ∀ k, k ≠ key → after.context.get k = left.context.get k
  after_own : after.own = left.own

theorem enclosed_guard (key value : String) (s left : Scene σ) :
    Enclosed key value s { s with context := (s.context.enter key value).2 } left
      { left with context := left.context.release (s.context.enter key value).1 } where
  shown := Diagnostic.Context.get_put_self ..
  start_other _ hk := Diagnostic.Context.get_put_of_ne _ _ hk
  start_own := rfl
  restored := Diagnostic.Context.get_release_self ..
  after_other _ hk := Diagnostic.Context.get_release_of_ne _ _ hk
  after_own := rfl

namespace Pipeline

def opening (e : Event) (s : Scene σ) : Scene σ :=
  { s.enterSpan (emissionSpan e) with context := s.context.put requestIdKey e.correlationId.text }

theorem countIf_eq (p : Pipeline σ) (f : Counters → Counters) (s : Scene σ) :
    ∃ counters, p.countIf f s = { s with counters } := by
  unfold countIf
  split
  · exact ⟨f s.counters, rfl⟩
  · exact ⟨s.counters, rfl⟩

/-- Only the work of a sink that returned is counted. -/
def settle (p : Pipeline σ) (outcome : Outcome) (s : Scene σ) : Scene σ :=
  match outcome with
  | .returned => p.countIf Counters.countEmitted s
  | .unwound => s

theorem settle_eq (p : Pipeline σ) (outcome : Outcome) (s : Scene σ) :
    ∃ counters, p.settle outcome s = { s with counters } := by
  cases outcome with
  | returned => exact p.countIf_eq ..
  | unwound => exact ⟨s.counters, rfl⟩

/-- Counting apart, an emission is the work of its sink under a guard and inside a span. -/
theorem emit_eq (p : Pipeline σ) (e : Event) (s : Scene σ) :
    let left := (p.sink e (opening e s)).2
    ∃ counters, p.emit e s = ((p.sink e (opening e s)).1, { left with
      counters
      context := left.context.release (s.context.enter requestIdKey e.correlationId.text).1
      inside := s.inside }) := by
  intro left
  let settled := p.settle (p.sink e (opening e s)).1 left
  have he : p.emit e s = ((p.sink e (opening e s)).1, { settled with
      context := settled.context.release (s.context.enter requestIdKey e.correlationId.text).1
      inside := s.inside }) := rfl
  obtain ⟨counters, hc⟩ := p.settle_eq (p.sink e (opening e s)).1 left
  refine ⟨counters, he.trans ?_⟩
  rw [show settled = _ from hc]

theorem emit_outcome (p : Pipeline σ) (e : Event) (s : Scene σ) :
    (p.emit e s).1 = (p.sink e (opening e s)).1 := rfl

theorem emit_inside (p : Pipeline σ) (e : Event) (s : Scene σ) : (p.emit e s).2.inside = s.inside := rfl

theorem emit_enclosed (p : Pipeline σ) (e : Event) (s : Scene σ) :
    Enclosed requestIdKey e.correlationId.text s (opening e s) (p.sink e (opening e s)).2
      (p.emit e s).2 := by
  obtain ⟨counters, he⟩ := p.emit_eq e s
  have hg := enclosed_guard requestIdKey e.correlationId.text s (p.sink e (opening e s)).2
  rw [he]
  exact
    { shown := hg.shown
      start_other := hg.start_other
      start_own := hg.start_own
      restored := hg.restored
      after_other := hg.after_other
      after_own := hg.after_own }

end Pipeline

/-- What is done to the contexts of threads. What follows an inner stretch of work is told how that came back, so
it may go on or unwind in turn. -/
inductive Deeds where
  | done
  | unwind
  | put (key value : String) (rest : Deeds)
  | remove (key : String) (rest : Deeds)
  | look (key : String) (rest : Option String → Deeds)
  | guarded (key value : String) (body : Deeds) (rest : Outcome → Deeds)
  | emit (e : Event) (inside : Deeds) (rest : Outcome → Deeds)
  | elsewhere (thread : Nat) (body : Deeds) (rest : Outcome → Deeds)

/-- From thread `n` to thread `m`. The contexts of those that do not run are kept in the part of its own. -/
def Scene.switch (n m : Nat) (s : Scene Threads) : Scene Threads :=
  let parked := s.own.update n fun _ => s.context
  { s with context := parked.contexts m, own := parked }

def Scene.contextOf (n : Nat) (s : Scene Threads) (m : Nat) : Diagnostic.Context :=
  if m = n then s.context else s.own.contexts m

namespace Deeds

def run (p : Pipeline Threads) : Deeds → Nat → Scene Threads → Outcome × Scene Threads
  | .done, _, s => (.returned, s)
  | .unwind, _, s => (.unwound, s)
  | .put key value rest, n, s => rest.run p n { s with context := s.context.put key value }
  | .remove key rest, n, s => rest.run p n { s with context := s.context.remove key }
  | .look key rest, n, s => (rest (s.context.get key)).run p n s
  | .guarded key value body rest, n, s =>
    let (guard, context) := s.context.enter key value
    let (outcome, left) := body.run p n { s with context }
    (rest outcome).run p n { left with context := left.context.release guard }
  | .emit e inside rest, n, s =>
    let (outcome, after) := ({ p with sink := fun _ => inside.run p n } : Pipeline Threads).emit e s
    (rest outcome).run p n after
  | .elsewhere m body rest, n, s =>
    let (outcome, left) := body.run p m { s.switch n m with inside := [] }
    (rest outcome).run p n { left.switch m n with inside := s.inside }

/-- That thread `n` does nothing to a key of thread `m` except under guards of that key. -/
def Keeps (m : Nat) (k : String) : Deeds → Nat → Prop
  | .done, _ | .unwind, _ => True
  | .put key _ rest, n | .remove key rest, n => ¬ (n = m ∧ key = k) ∧ rest.Keeps m k n
  | .look _ rest, n => ∀ found, (rest found).Keeps m k n
  | .guarded key _ body rest, n =>
    (n = m ∧ key = k ∨ body.Keeps m k n) ∧ ∀ outcome, (rest outcome).Keeps m k n
  | .emit _ inside rest, n =>
    (n = m ∧ requestIdKey = k ∨ inside.Keeps m k n) ∧ ∀ outcome, (rest outcome).Keeps m k n
  | .elsewhere n' body rest, n => body.Keeps m k n' ∧ ∀ outcome, (rest outcome).Keeps m k n

def Visits (m : Nat) : Deeds → Prop
  | .done | .unwind => False
  | .put _ _ rest | .remove _ rest => rest.Visits m
  | .look _ rest => ∃ found, (rest found).Visits m
  | .guarded _ _ body rest | .emit _ body rest => body.Visits m ∨ ∃ outcome, (rest outcome).Visits m
  | .elsewhere n body rest => n = m ∨ body.Visits m ∨ ∃ outcome, (rest outcome).Visits m

end Deeds

section

variable {n m : Nat} {k : String}

@[simp] theorem Scene.contextOf_self (n : Nat) (s : Scene Threads) : s.contextOf n n = s.context :=
  if_pos rfl

theorem Scene.contextOf_of_ne (s : Scene Threads) (h : m ≠ n) : s.contextOf n m = s.own.contexts m :=
  if_neg h

theorem Scene.contextOf_changed (s : Scene Threads) {c : Diagnostic.Context}
    (h : m = n → c.get k = s.context.get k) :
    (({ s with context := c } : Scene Threads).contextOf n m).get k = (s.contextOf n m).get k := by
  by_cases hm : m = n
  · rw [hm, contextOf_self, contextOf_self]
    exact h hm
  · rw [contextOf_of_ne _ hm, contextOf_of_ne _ hm]

theorem Scene.contextOf_switch (n m : Nat) (s : Scene Threads) (k : Nat) :
    (s.switch n m).contextOf m k = s.contextOf n k := by
  by_cases hk : k = m
  · rw [hk, contextOf_self]
    rfl
  · rw [contextOf_of_ne _ hk]
    rfl

theorem Enclosed.contextOf_eq {key value : String} {before start left after : Scene Threads}
    (h : Enclosed key value before start left after)
    (kept : n = m ∧ key = k ∨ (left.contextOf n m).get k = (start.contextOf n m).get k) :
    (after.contextOf n m).get k = (before.contextOf n m).get k := by
  by_cases hm : m = n
  · subst hm
    simp only [Scene.contextOf_self] at kept ⊢
    by_cases hk : k = key
    · rw [hk, h.restored]
    · have hb := kept.resolve_left fun he => hk he.2.symm
      rw [h.after_other k hk, hb, h.start_other k hk]
  · have hb := kept.resolve_left fun he => hm he.1.symm
    rw [Scene.contextOf_of_ne _ hm, Scene.contextOf_of_ne _ hm] at hb ⊢
    rw [h.after_own, hb, h.start_own]

/-- On no path out of any work does a key remain changed that was changed under its own guards only. -/
theorem Deeds.run_keeps (p : Pipeline Threads) {d : Deeds} (h : d.Keeps m k n) (s : Scene Threads) :
    ((d.run p n s).2.contextOf n m).get k = (s.contextOf n m).get k := by
  induction d generalizing n s with
  | done => rfl
  | unwind => rfl
  | put key value rest ih =>
    refine (ih h.2 _).trans (Scene.contextOf_changed s ?_)
    exact fun hm => Diagnostic.Context.get_put_of_ne _ _ fun hk => h.1 ⟨hm.symm, hk.symm⟩
  | remove key rest ih =>
    refine (ih h.2 _).trans (Scene.contextOf_changed s ?_)
    exact fun hm => Diagnostic.Context.get_remove_of_ne _ fun hk => h.1 ⟨hm.symm, hk.symm⟩
  | look key rest ih => exact ih _ (h _) s
  | guarded key value body rest ihb ih =>
    refine (ih _ (h.2 _) _).trans ?_
    exact (enclosed_guard key value s _).contextOf_eq (h.1.imp_right fun hb => ihb hb _)
  | emit e inside rest ihb ih =>
    refine (ih _ (h.2 _) _).trans ?_
    let q : Pipeline Threads := { p with sink := fun _ => inside.run p n }
    exact (q.emit_enclosed e s).contextOf_eq (h.1.imp_right fun hb => ihb hb _)
  | elsewhere n' body rest ihb ih =>
    refine (ih _ (h.2 _) _).trans ?_
    have away := ihb h.1 { s.switch n n' with inside := [] }
    exact (congrArg (·.get k) (Scene.contextOf_switch ..)).trans
      (away.trans (congrArg (·.get k) (Scene.contextOf_switch ..)))

theorem Deeds.keeps_of_not_visits {d : Deeds} (h : ¬ d.Visits m) (hn : n ≠ m) (k : String) :
    d.Keeps m k n := by
  induction d generalizing n with
  | done => trivial
  | unwind => trivial
  | put key value rest ih => exact ⟨fun he => hn he.1, ih h hn⟩
  | remove key rest ih => exact ⟨fun he => hn he.1, ih h hn⟩
  | look key rest ih => exact fun found => ih found (fun hv => h ⟨found, hv⟩) hn
  | guarded key value body rest ihb ih =>
    exact ⟨.inr (ihb (fun hv => h (.inl hv)) hn), fun o => ih o (fun hv => h (.inr ⟨o, hv⟩)) hn⟩
  | emit e inside rest ihb ih =>
    exact ⟨.inr (ihb (fun hv => h (.inl hv)) hn), fun o => ih o (fun hv => h (.inr ⟨o, hv⟩)) hn⟩
  | elsewhere n' body rest ihb ih =>
    exact ⟨ihb (fun hv => h (.inr (.inl hv))) fun he => h (.inl he),
      fun o => ih o (fun hv => h (.inr (.inr ⟨o, hv⟩))) hn⟩

theorem Deeds.run_elsewhere (p : Pipeline Threads) {d : Deeds} (h : ¬ d.Visits m) (hn : m ≠ n)
    (s : Scene Threads) : (d.run p n s).2.own.contexts m = s.own.contexts m := by
  have hk (k : String) := d.run_keeps p (d.keeps_of_not_visits h hn.symm k) s
  simp only [Scene.contextOf_of_ne _ hn] at hk
  exact congrArg Diagnostic.Context.mk (funext hk)

end

/-- One scene is what every sink starts in, and shows the identifier in the context and in the span. Whatever the sink
makes of it, the key holds afterwards what it held before the emission. -/
theorem Pipeline.emit_restores (p : Pipeline Threads) (n : Nat) (e : Event) (s : Scene Threads) :
    ∃ start text, (e.requestId.getD e.eventId).Canonical text ∧
      start.context.get requestIdKey = some text ∧
      start.inside = ⟨"request_log", [("request_id", text)]⟩ :: s.inside ∧
      start.spans = s.spans ++ [⟨"request_log", [("request_id", text)]⟩] ∧
      (∀ k, k ≠ requestIdKey → start.context.get k = s.context.get k) ∧
      (∀ sink : Sink Threads,
        let left := sink e start
        let after := ({ p with sink } : Pipeline Threads).emit e s
        after.1 = left.1 ∧
        after.2.context.get requestIdKey = s.context.get requestIdKey ∧
        (∀ k, k ≠ requestIdKey → after.2.context.get k = left.2.context.get k) ∧
        after.2.inside = s.inside ∧ after.2.own = left.2.own) ∧
      ∀ deeds : Event → Deeds,
        let after := ({ p with sink := fun e => (deeds e).run p n } : Pipeline Threads).emit e s
        (∀ m, m ≠ n → ¬ (deeds e).Visits m → after.2.own.contexts m = s.own.contexts m) ∧
        ∀ m k, (deeds e).Keeps m k n → (after.2.contextOf n m).get k = (s.contextOf n m).get k := by
  have enclosed (sink : Sink Threads) := ({ p with sink } : Pipeline Threads).emit_enclosed e s
  have h := enclosed p.sink
  refine ⟨opening e s, e.correlationId.text, Uuid.canonical_text _, h.shown, rfl, rfl, h.start_other, ?_, ?_⟩
  · intro sink left after
    have h := enclosed sink
    exact ⟨emit_outcome _ e s, h.restored, h.after_other, emit_inside _ e s, h.after_own⟩
  · intro deeds after
    have h := enclosed fun e => (deeds e).run p n
    constructor
    · intro m hm hv
      rw [h.after_own]
      exact (Deeds.run_elsewhere p hv hm _).trans (congrArg (Threads.contexts · m) h.start_own)
    · intro m k hk
      apply h.contextOf_eq
      exact .inr (Deeds.run_keeps p hk _)

/-- The sink takes the identifier away, emits once more, and unwinds out of a guard of its own. -/
example :
    let deeds : Deeds := .guarded "user" "u" (.remove requestIdKey
      (.emit (plainEvent "/b") (.put requestIdKey "inner" .unwind) fun _ => .unwind)) fun _ => .unwind
    let idle : Pipeline Threads := { clock := fun own => (default, own), sink := Sink.unwinding }
    let before := { plainScene.withOwn Threads.start with context := .put .empty requestIdKey "outer" }
    let after := ({ idle with sink := fun _ => deeds.run idle 0 } : Pipeline Threads).emit
      (plainEvent "/a") before
    after.1 = .unwound ∧ after.2.context.get requestIdKey = some "outer" ∧
      after.2.context.get "user" = none := by
  decide

end AccessLog
