/-!
# Diagnostic context

Values that a thread publishes under keys while it works, so that whatever is written meanwhile can carry
them. A guard puts a value under a key and keeps the one it replaced; releasing the guard brings that one
back. Every thread has a context of its own.
-/

namespace AccessLog

namespace Diagnostic

structure Context where
  get : String → Option String

def requestIdKey : String := "requestId"

namespace Context

def empty : Context := ⟨fun _ => none⟩

instance : Inhabited Context := ⟨empty⟩

def put (c : Context) (key value : String) : Context :=
  ⟨fun k => if k = key then some value else c.get k⟩

def remove (c : Context) (key : String) : Context :=
  ⟨fun k => if k = key then none else c.get k⟩

end Context

/-- A guard holds what its key held before it. -/
structure Guard where
  key : String
  previous : Option String
  deriving DecidableEq, Repr

namespace Context

def enter (c : Context) (key value : String) : Guard × Context :=
  (⟨key, c.get key⟩, c.put key value)

def release (c : Context) (g : Guard) : Context :=
  match g.previous with
  | some value => c.put g.key value
  | none => c.remove g.key

@[simp] theorem get_put_self (c : Context) (key value : String) :
    (c.put key value).get key = some value := by simp [put]

theorem get_put_of_ne (c : Context) {k key : String} (value : String) (h : k ≠ key) :
    (c.put key value).get k = c.get k := by simp [put, h]

@[simp] theorem get_remove_self (c : Context) (key : String) : (c.remove key).get key = none := by
  simp [remove]

theorem get_remove_of_ne (c : Context) {k key : String} (h : k ≠ key) :
    (c.remove key).get k = c.get k := by simp [remove, h]

@[simp] theorem get_release_self (c : Context) (g : Guard) :
    (c.release g).get g.key = g.previous := by
  unfold release; split <;> simp_all

theorem get_release_of_ne (c : Context) (g : Guard) {k : String} (h : k ≠ g.key) :
    (c.release g).get k = c.get k := by
  unfold release; split <;> simp [put, remove, h]

end Context

/-- The contexts of all threads, by number. -/
structure Threads where
  contexts : Nat → Context

namespace Threads

def start : Threads := ⟨fun _ => Context.empty⟩

def update (t : Threads) (thread : Nat) (f : Context → Context) : Threads :=
  ⟨fun n => if n = thread then f (t.contexts n) else t.contexts n⟩

end Threads

end Diagnostic

end AccessLog
