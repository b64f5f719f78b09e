import AccessLog.App
import AccessLog.Host.Turns

/-!
# Turns of the application

The running application takes turns of three kinds, in any order: those of its exchanges, those of the writing
task, which writes one queued event at each, and those of the main task, which is interrupted and then leaves as
soon as no exchange is open. With it the program ends, and what is still queued is never written.
-/

namespace AccessLog

namespace App

inductive Phase where
  | serving
  | stopping
  | ended
  deriving DecidableEq, Repr

structure Running where
  host : Host.Running Store
  phase : Phase := .serving

inductive Turn where
  | exchange (t : Host.Turn)
  | write
  | interrupt
  | leave

namespace Running

def scene (r : Running) : Scene Store := r.host.scene

def withScene (r : Running) (s : Scene Store) : Running := { r with host := { r.host with scene := s } }

def Enabled (r : Running) : Turn → Prop
  | .exchange t => r.phase ≠ .ended ∧ r.host.Enabled t
  | .write => r.phase ≠ .ended ∧ r.scene.own.queue.items ≠ []
  | .interrupt => r.phase = .serving
  | .leave => r.phase = .stopping ∧ r.host.underway = []

instance (r : Running) (t : Turn) : Decidable (Enabled r t) := by
  cases t <;> simp only [Enabled] <;> infer_instance

def next (h : Host Store) (r : Running) : Turn → Running
  | .exchange t => { r with host := r.host.next h t }
  | .write => r.withScene (writeQueued r.scene)
  | .interrupt => { r.withScene (stop r.scene) with phase := .stopping }
  | .leave => { r with phase := .ended }

/-- Some order of turns, each enabled when it comes. -/
inductive Reaches (h : Host Store) : Running → Running → Prop where
  | refl (r : Running) : Reaches h r r
  | tail {r u : Running} {t : Turn} : Reaches h r u → Enabled u t → Reaches h r (u.next h t)

theorem Reaches.trans {h : Host Store} {a b c : Running} (ab : Reaches h a b) (bc : Reaches h b c) :
    Reaches h a c := by
  induction bc with
  | refl => exact ab
  | tail _ on ih => exact .tail ih on

end Running

end App

end AccessLog
