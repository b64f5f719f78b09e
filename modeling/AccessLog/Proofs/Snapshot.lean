import AccessLog.Proofs.Blocked
import AccessLog.Proofs.Correlation
import AccessLog.Proofs.Logged
import Mathlib.Data.List.Induction

/-!
# The request that was kept

The hook that logs finds its request in a store where any hook may have put something else under the same key. Whatever
was put there, and in whatever order, the response passes. What was put last decides the rest: a request is logged, once,
and in place of anything else one trace says that there was none, and nothing but that trace is left behind.
-/

namespace AccessLog

open Diagnostic (requestIdKey)

variable {σ : Type}

instance : Keepable Kept := ⟨id, some, fun _ => rfl⟩

theorem Kept.find?_eq_some_iff {kept : Kept} {req : Request} :
    Keepable.find? kept = some req ↔ kept = .request req := by
  cases kept <;> simp [Keepable.find?]

namespace Context

def setAll (c : Context) (sets : List (String × Kept)) : Context := sets.foldl (fun c x => c.set x.1 x.2) c

/-- What was put last under a key, or else what was there. -/
def latest? (c : Context) (sets : List (String × Kept)) (key : String) : Option Kept :=
  ((sets.filter (·.1 = key)).getLast?.map (·.2)).or (c.entries.lookup key)

theorem setAll_concat (c : Context) (sets : List (String × Kept)) (x : String × Kept) :
    c.setAll (sets ++ [x]) = (c.setAll sets).set x.1 x.2 := List.foldl_concat ..

theorem lookup_setAll (c : Context) (sets : List (String × Kept)) (key : String) :
    (c.setAll sets).entries.lookup key = c.latest? sets key := by
  induction sets using List.reverseRecOn with
  | nil => rfl
  | append_singleton sets x ih =>
    rw [setAll_concat, lookup_set, latest?, List.filter_append]
    by_cases hk : key = x.1
    · have last : [x].filter (·.1 = key) = [x] := by simp [hk]
      rw [if_pos hk, last, List.getLast?_concat]
      rfl
    · have other : [x].filter (·.1 = key) = [] := by simp [Ne.symm hk]
      rw [if_neg hk, ih, other, List.append_nil, latest?]

theorem get?_setAll_eq_some_iff {c : Context} {sets : List (String × Kept)} {key : String} {req : Request} :
    (c.setAll sets).get? Request key = some req ↔ c.latest? sets key = some (.request req) := by
  rw [get?, lookup_setAll, Option.bind_eq_some_iff]
  constructor
  · rintro ⟨kept, hk, found⟩
    rw [hk, Kept.find?_eq_some_iff.mp found]
  · intro hk
    exact ⟨_, hk, rfl⟩

end Context

namespace Pipeline

/-- From one scene to another an exchange was logged, once: the sink was handed its event and returned, unless its path
is kept out, which is counted only. -/
structure LoggedOnce (p : Pipeline σ) (req : Request) (res : Response) (s after : Scene (Minuted σ)) : Prop where
  log_eq : after = (p.minuted.log req res s).2
  handed : p.blacklist.shouldLog req.path = true →
    ∃ e own, p.eventAt req res (p.clock s.own.1).1 s.eventIds.next.1 = some e ∧
      after.own.2 = s.own.2 ++ [⟨e, own, .returned⟩]
  kept_out : p.blacklist.shouldLog req.path = false → after = p.minuted.keptOut 1 s

theorem loggedOnce_log {p : Pipeline σ} (returns : p.sink.Returns) {req : Request} {s : Scene (Minuted σ)}
    (dated : Exchange.Dated req (p.clock s.own.1).1) (res : Response) :
    p.LoggedOnce req res s (p.minuted.log req res s).2 := by
  refine ⟨rfl, ?_, ?_⟩
  · intro hp
    obtain ⟨e, own, handed, event⟩ := handings_of_log hp (isSome_log_of_dated (s := s.plain) returns dated res)
    refine ⟨e, own, event, ?_⟩
    rw [log_minuted, handed]
    rfl
  · intro blocked
    have blocked : p.minuted.blacklist.shouldLog req.path = false := blocked
    rw [log_of_blocked blocked]

end Pipeline

/-- Whatever was put into the context of an exchange, its response passes as it is. A request that was put last under the
key is logged with it, and otherwise a trace that names the hook is all that happens. -/
theorem RequestLogHook.onResponse_setAll (p : Pipeline σ) (returns : p.sink.Returns) (c : Context)
    (sets : List (String × Kept)) (res : Response) (s : Scene (Minuted σ))
    (dated : ∀ req, c.latest? sets key = some (.request req) → Exchange.Dated req (p.clock s.own.1).1) :
    let done := (hook p.minuted).onResponse res (c.setAll sets) s
    let missing : Trace := .note .requestLogHook .error "Request log skipped"
      [("error", .shown ("missing request snapshot for " ++ (hook p.minuted).name))]
    done.1 = some res ∧
      (∀ req, c.latest? sets key = some (.request req) → p.LoggedOnce req res s done.2) ∧
      ((∀ req, c.latest? sets key ≠ some (.request req)) →
        done.2 = { s with journal := s.journal ++ [⟨missing, s.context.get requestIdKey⟩] }) := by
  intro done missing
  cases hk : (c.setAll sets).get? Request key with
  | none =>
    have done_eq : done = (some res, s.note missing) := onResponse_of_not_kept p.minuted res s hk
    rw [done_eq]
    refine ⟨rfl, ?_, fun _ => rfl⟩
    intro req latest
    rw [Context.get?_setAll_eq_some_iff.mpr latest] at hk
    cases hk
  | some req =>
    have latest := Context.get?_setAll_eq_some_iff.mp hk
    have passed := p.minuted.isSome_log_of_dated returns.minuted (dated req latest) res
    have done_eq : done = _ := onResponse_of_kept p.minuted res s hk
    rw [done_eq]
    refine ⟨?_, ?_, ?_⟩
    · obtain ⟨outcome, ho⟩ := Option.isSome_iff_exists.mp passed
      rw [ho]
      rfl
    · intro other later
      obtain rfl : req = other := Kept.request.inj (Option.some.inj (latest.symm.trans later))
      exact p.loggedOnce_log returns (dated req latest) res
    · intro no_request
      exact absurd latest (no_request req)

/-- A text takes the place of the request, and another request that of the text. -/
theorem RequestLogHook.onResponse_setAll_replaced :
    let p := recordingAt ⟨1000000⟩
    let get (path : Target) : Request := .received .get path .empty ⟨0⟩
    let orders := get ⟨"/orders", none, by decide, by decide⟩
    let scene := (plainScene.withOwn []).minuted []
    let context := ((hook p.minuted).onRequest (get .root) .empty scene).1
    let lost : List (String × Kept) := [("user", .word32 7), (key, .text "gone")]
    let restored := lost ++ [(key, .request orders), ("user", .foreign "User")]
    let res := Response.ofBody (utf8 "body")
    let done (sets : List (String × Kept)) := (hook p.minuted).onResponse res (context.setAll sets) scene
    (done lost).1 = some res ∧ (done lost).2.own = scene.own ∧ (done lost).2.journal.length = 1 ∧
      (done restored).1 = some res ∧ (done restored).2.own.2.map (·.event.url) = ["/orders"] := by
  intro p get orders scene context lost restored res done
  have returns : p.sink.Returns := fun _ _ => rfl
  have text : context.latest? lost key = some (.text "gone") := rfl
  have request : context.latest? restored key = some (.request orders) := rfl
  have none_kept : ∀ req, context.latest? lost key ≠ some (.request req) := by
    intro req latest
    cases text.symm.trans latest
  obtain ⟨passed, -, missed⟩ := onResponse_setAll p returns context lost res scene fun req latest =>
    absurd latest (none_kept req)
  have dated : ∀ req, context.latest? restored key = some (.request req) → Exchange.Dated req ⟨1000000⟩ := by
    intro req latest
    cases request.symm.trans latest
    decide
  obtain ⟨passed', logged, -⟩ := onResponse_setAll p returns context restored res scene dated
  obtain ⟨e, own, event, handed⟩ := (logged orders request).handed rfl
  have url : (p.eventAt orders res ⟨1000000⟩ default).map (·.url) = some "/orders" := by decide +kernel
  have event : p.eventAt orders res ⟨1000000⟩ default = some e := event
  rw [event] at url
  refine ⟨passed, ?_, ?_, passed', ?_⟩
  · rw [missed none_kept]
  · rw [missed none_kept]
    rfl
  · rw [handed]
    exact congrArg ([·]) (Option.some.inj url)

end AccessLog
