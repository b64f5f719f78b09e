import AccessLog.Host

/-!
# Turns of a host

Exchanges that are served at the same time take turns: each begins when its request arrives and ends when its
body has come or is lost, and between the two any number of others begin and end. A number names an exchange.
-/

namespace AccessLog

namespace Host

/-- A host at work: the exchanges that have begun, and the answers of those that have ended, of which one
without a response sent nothing. -/
structure Running (σ : Type) where
  scene : Scene σ
  underway : List (Nat × Underway) := []
  answers : List (Nat × Option Response) := []

inductive Turn where
  | begin (number : Nat) (i : Incoming) (at_ : Instant)
  | finish (number : Nat) (arrival : Arrival)

namespace Running

variable {σ : Type}

def isUsed (r : Running σ) (number : Nat) : Bool :=
  r.underway.any (·.1 = number) || r.answers.any (·.1 = number)

def Enabled (r : Running σ) : Turn → Prop
  | .begin number .. => r.isUsed number = false
  | .finish number _ => (r.underway.lookup number).isSome

instance (r : Running σ) (t : Turn) : Decidable (Enabled r t) := by
  cases t <;> simp only [Enabled] <;> infer_instance

/-- The host after a turn; one that is not enabled changes nothing. -/
def next (h : Host σ) (r : Running σ) : Turn → Running σ
  | .begin number i at_ =>
    if r.isUsed number then r
    else
      let (u, s) := h.begin i at_ r.scene
      { r with scene := s, underway := r.underway ++ [(number, u)] }
  | .finish number arrival =>
    match r.underway.lookup number with
    | none => r
    | some u =>
      let (res, s) := h.finish u arrival r.scene
      { scene := s
        underway := r.underway.filter (·.1 ≠ number)
        answers := r.answers ++ [(number, res)] }

def run (h : Host σ) (r : Running σ) (turns : List Turn) : Running σ := turns.foldl (next h) r

theorem next_eq_self {h : Host σ} {r : Running σ} {t : Turn} (off : ¬ Enabled r t) :
    r.next h t = r := by
  cases t with
  | begin number i at_ =>
    have : r.isUsed number = true := by simpa [Enabled] using off
    simp [next, this]
  | finish number arrival =>
    cases hu : r.underway.lookup number with
    | none => simp [next, hu]
    | some u => simp [Enabled, hu] at off

end Running

end Host

end AccessLog
