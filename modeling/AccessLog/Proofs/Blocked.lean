import AccessLog.Proofs.Plain
import AccessLog.Proofs.Tally

/-!
# Exchanges that are kept out

The path is looked at before anything else. An exchange that the blacklist keeps out is counted, and nothing more
becomes of it: neither the clock nor the sink is asked, so neither its instants nor its headers can matter.
-/

namespace AccessLog

namespace Pipeline

variable {σ : Type}

/-- The scene with `n` more exchanges kept out, where the pipeline counts. -/
def keptOut (p : Pipeline σ) (n : Nat) (s : Scene σ) : Scene σ :=
  { s with counters := { s.counters with
      blacklisted := s.counters.blacklisted + if p.counted then UInt64.ofNat n else 0 } }

theorem keptOut_zero (p : Pipeline σ) (s : Scene σ) : p.keptOut 0 s = s := by
  cases hc : p.counted <;> simp [keptOut]

theorem keptOut_keptOut (p : Pipeline σ) (m n : Nat) (s : Scene σ) :
    p.keptOut n (p.keptOut m s) = p.keptOut (m + n) s := by
  cases hc : p.counted <;> simp [keptOut, hc, UInt64.ofNat_add, UInt64.add_assoc]

variable {p : Pipeline σ} {req : Request}

theorem log_of_blocked (blocked : p.blacklist.shouldLog req.path = false) (res : Response) (s : Scene σ) :
    p.log req res s = (some .blacklisted, p.keptOut 1 s) := by
  rw [log_of_blacklisted res s blocked]
  cases hc : p.counted with
  | false => simp [countIf, keptOut, hc]
  | true => simp [countIf, keptOut, hc, Scene.count, Counters.countBlacklisted]

theorem log_ne_blacklisted (hp : p.blacklist.shouldLog req.path = true) (res : Response) (s : Scene σ) :
    (p.log req res s).1 ≠ some .blacklisted := by
  cases hb : p.createEvent req res s with
  | mk made built =>
    cases made with
    | none => simp [log_of_not_built hp hb]
    | some e =>
      rw [log_of_built hp hb]
      split <;> simp

/-- Any number of them in a row, and their number is all that is left. -/
theorem run_of_blocked (s : Scene σ) {exchanges : List (Request × Response)}
    (blocked : ∀ x ∈ exchanges, p.blacklist.shouldLog x.1.path = false) :
    let ran := p.run s (exchanges.map fun x => .log x.1 x.2)
    (∀ d ∈ ran.1, d.answer = .logged (some .blacklisted)) ∧ ran.2 = p.keptOut exchanges.length s := by
  induction exchanges generalizing s with
  | nil => exact ⟨by simp [run], (p.keptOut_zero s).symm⟩
  | cons x rest ih =>
    have first := log_of_blocked (blocked x List.mem_cons_self) x.2 s
    obtain ⟨answers, left⟩ := ih (p.keptOut 1 s) fun y hy => blocked y (List.mem_cons_of_mem x hy)
    simp only [List.map_cons, run, performed, perform, first]
    constructor
    · simpa using answers
    · rw [left, keptOut_keptOut, List.length_cons, Nat.add_comm]

/-- Exactly the exchanges whose path is kept out are answered so. Whatever is wrong with their request and response, the
answer comes, and the scene is as it was but for the count; no other clock, sink or service would make a difference. -/
theorem blocked_only_counted (p : Pipeline σ) (req : Request) (res : Response) (s : Scene σ) :
    ((p.log req res s).1 = some .blacklisted ↔ p.blacklist.shouldLog req.path = false) ∧
    (p.blacklist.shouldLog req.path = false → ∀ clock sink service,
      ({ p with clock, sink, service } : Pipeline σ).log req res s =
        (some .blacklisted, { s with counters := { s.counters with
          blacklisted := s.counters.blacklisted + if p.counted then 1 else 0 } })) := by
  constructor
  · constructor
    · intro answered
      cases hp : p.blacklist.shouldLog req.path with
      | false => rfl
      | true => exact absurd answered (log_ne_blacklisted hp res s)
    · intro blocked
      rw [log_of_blocked blocked]
  · intro blocked clock sink service
    have blocked : ({ p with clock, sink, service } : Pipeline σ).blacklist.shouldLog req.path = false := blocked
    exact log_of_blocked blocked res s

/-- An instant outside the calendar under a clock that is behind, an identifier that is none, and a sink that unwinds:
the exchange is lost where its path is logged, and answered where it is not. -/
theorem blocked_only_counted_hostile :
    let p : Pipeline Unit :=
      { blacklist := .ofEntries [] ["/Health"], clock := fun own => (⟨0⟩, own), sink := .unwinding, counted := true }
    let get (path : Target) : Request := .received .get path .empty ⟨8210266876800000000000⟩
    let res := { Response.empty .ok with headers := ⟨[(HeaderName.requestId, ⟨utf8 "not-a-uuid"⟩)]⟩ }
    (p.log (get .root) res plainScene).1 = none ∧
    p.log (get ⟨"/HEALTH", none, by decide, by decide⟩) res plainScene =
      (some .blacklisted, { plainScene with counters := { blacklisted := 1 } }) := by
  intro p get res
  have blocked : p.blacklist.shouldLog "/HEALTH" = false := by decide +kernel
  constructor
  · decide +kernel
  · exact (blocked_only_counted p (get ⟨"/HEALTH", none, by decide, by decide⟩) res plainScene).2 blocked _ _ _

end Pipeline

end AccessLog
