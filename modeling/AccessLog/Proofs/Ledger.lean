import AccessLog.Host.Turns
import Mathlib.Data.List.Nodup

/-!
# A ledger of exchanges

A ledger says of a host at work which exchanges are under way and which have ended, with what came in for each and the
scenes in which it began and ended. The state of the host follows from it. Where no turn comes out of place, two orders
of the same turns end the same exchanges.
-/

namespace AccessLog

variable {σ τ : Type}

namespace Host

/-- An exchange that has begun, and the scene that it found. -/
structure Begun (σ : Type) where
  number : Nat
  incoming : Incoming
  at_ : Instant
  first : Scene σ

structure Ended (σ : Type) extends Begun σ where
  arrival : Arrival
  last : Scene σ

def Ended.outcome (h : Host σ) (x : Ended σ) : Option Response × Scene σ :=
  h.finish (h.begin x.incoming x.at_ x.first).1 x.arrival x.last

def Begun.given (b : Begun σ) : Nat × Incoming × Instant := (b.number, b.incoming, b.at_)

def Ended.arrived (x : Ended σ) : Nat × Arrival := (x.number, x.arrival)

def Ended.whole (x : Ended σ) : Nat × Incoming × Instant × Arrival := (x.number, x.incoming, x.at_, x.arrival)

structure Ledger (σ : Type) where
  scene : Scene σ
  underway : List (Begun σ) := []
  ended : List (Ended σ) := []

namespace Ledger

def begun (l : Ledger σ) : List (Begun σ) := l.underway ++ l.ended.map Ended.toBegun

def addBegun (h : Host σ) (l : Ledger σ) (number : Nat) (i : Incoming) (at_ : Instant) : Ledger σ :=
  { l with scene := (h.begin i at_ l.scene).2, underway := l.underway ++ [⟨number, i, at_, l.scene⟩] }

def addEnded (h : Host σ) (l : Ledger σ) (b : Begun σ) (arrival : Arrival) : Ledger σ :=
  let x : Ended σ := ⟨b, arrival, l.scene⟩
  ⟨(x.outcome h).2, l.underway.filter (·.number ≠ b.number), l.ended ++ [x]⟩

def next (h : Host σ) (l : Ledger σ) : Turn → Ledger σ
  | .begin number i at_ => if number ∈ l.begun.map Begun.number then l else l.addBegun h number i at_
  | .finish number arrival =>
    match l.underway.find? (·.number = number) with
    | none => l
    | some b => l.addEnded h b arrival

def run (h : Host σ) (l : Ledger σ) (turns : List Turn) : Ledger σ := turns.foldl (next h) l

/-- The host at work that the ledger is about. -/
def running (h : Host σ) (l : Ledger σ) : Running σ where
  scene := l.scene
  underway := l.underway.map fun b => (b.number, (h.begin b.incoming b.at_ b.first).1)
  answers := l.ended.map fun x => (x.number, (x.outcome h).1)

theorem lookup_map {α β : Type} (key : α → Nat) (f : α → β) (l : List α) (n : Nat) :
    (l.map fun a => (key a, f a)).lookup n = (l.find? (key · = n)).map f := by
  induction l with
  | nil => rfl
  | cons a rest ih =>
    by_cases hk : key a = n
    · simp [hk]
    · have hb : (n == key a) = false := by simpa using Ne.symm hk
      simp [List.lookup_cons, hk, hb, ih]

theorem isUsed_running (h : Host σ) (l : Ledger σ) (n : Nat) :
    (l.running h).isUsed n = true ↔ n ∈ l.begun.map Begun.number := by
  simp [Running.isUsed, running, begun, List.any_map]

theorem lookup_running (h : Host σ) (l : Ledger σ) (n : Nat) :
    (l.running h).underway.lookup n =
      (l.underway.find? (·.number = n)).map fun b => (h.begin b.incoming b.at_ b.first).1 :=
  lookup_map ..

/-- All that a turn can do. -/
theorem next_cases (h : Host σ) (l : Ledger σ) (t : Turn) :
    (∃ number i at_, t = .begin number i at_ ∧ number ∉ l.begun.map Begun.number ∧
      l.next h t = l.addBegun h number i at_) ∨
    (∃ b arrival, t = .finish b.number arrival ∧ l.underway.find? (·.number = b.number) = some b ∧
      l.next h t = l.addEnded h b arrival) ∨
    (l.next h t = l ∧ ¬ (l.running h).Enabled t) := by
  cases t with
  | begin number i at_ =>
    by_cases used : number ∈ l.begun.map Begun.number
    · refine .inr (.inr ⟨if_pos used, ?_⟩)
      simp [Running.Enabled, (isUsed_running h l number).mpr used]
    · exact .inl ⟨number, i, at_, rfl, used, if_neg used⟩
  | finish number arrival =>
    cases hb : l.underway.find? (·.number = number) with
    | none => exact .inr (.inr ⟨by simp [next, hb], by simp [Running.Enabled, lookup_running, hb]⟩)
    | some b =>
      have hn : b.number = number := by simpa using List.find?_some hb
      refine .inr (.inl ⟨b, arrival, by rw [hn], by rw [hn]; exact hb, ?_⟩)
      simp only [next, hb]

/-- What holds of a ledger and survives beginnings and ends holds after any turns. -/
theorem run_induction {h : Host σ} {motive : Ledger σ → Prop}
    (begun : ∀ l number i at_, motive l → motive (l.addBegun h number i at_))
    (ended : ∀ l b arrival, motive l → motive (l.addEnded h b arrival)) {l : Ledger σ} (start : motive l)
    (turns : List Turn) : motive (l.run h turns) := by
  induction turns generalizing l with
  | nil => exact start
  | cons t rest ih =>
    apply ih
    rcases l.next_cases h t with ⟨number, i, at_, -, -, hn⟩ | ⟨b, arrival, -, -, hn⟩ | ⟨hn, -⟩
    · rw [hn]
      exact begun l number i at_ start
    · rw [hn]
      exact ended l b arrival start
    · rw [hn]
      exact start

theorem running_addBegun (h : Host σ) (l : Ledger σ) {number : Nat} (i : Incoming) (at_ : Instant)
    (unused : number ∉ l.begun.map Begun.number) :
    (l.addBegun h number i at_).running h = (l.running h).next h (.begin number i at_) := by
  simp only [Running.next, isUsed_running, if_neg unused]
  simp [running, addBegun]

theorem running_addEnded (h : Host σ) (l : Ledger σ) {b : Begun σ} (arrival : Arrival)
    (hb : l.underway.find? (·.number = b.number) = some b) :
    (l.addEnded h b arrival).running h = (l.running h).next h (.finish b.number arrival) := by
  simp only [Running.next, lookup_running, hb, Option.map_some]
  simp [running, addEnded, Ended.outcome, List.filter_map, Function.comp_def]

theorem running_next (h : Host σ) (l : Ledger σ) (t : Turn) :
    (l.next h t).running h = (l.running h).next h t := by
  rcases l.next_cases h t with ⟨number, i, at_, rfl, unused, hn⟩ | ⟨b, arrival, rfl, hb, hn⟩ | ⟨hn, off⟩
  · rw [hn, running_addBegun h l i at_ unused]
  · rw [hn, running_addEnded h l arrival hb]
  · rw [hn, Running.next_eq_self off]

theorem running_run (h : Host σ) (l : Ledger σ) (turns : List Turn) :
    (l.run h turns).running h = (l.running h).run h turns := by
  induction turns generalizing l with
  | nil => rfl
  | cons t rest ih =>
    show ((l.next h t).run h rest).running h = ((l.running h).next h t).run h rest
    rw [ih, running_next]

end Ledger

/-- No turn comes out of place. -/
def Running.Proper (h : Host σ) : Running σ → List Turn → Prop
  | _, [] => True
  | r, t :: rest => r.Enabled t ∧ Proper h (r.next h t) rest

instance Running.decidableProper (h : Host σ) :
    (r : Running σ) → (turns : List Turn) → Decidable (r.Proper h turns)
  | _, [] => .isTrue trivial
  | r, t :: rest =>
    have := decidableProper h (r.next h t) rest
    inferInstanceAs (Decidable (r.Enabled t ∧ Proper h (r.next h t) rest))

/-- The ledger tells of these turns. -/
structure Ledger.Tells (l : Ledger σ) (turns : List Turn) : Prop where
  begun_iff n i at_ : .begin n i at_ ∈ turns ↔ (n, i, at_) ∈ l.begun.map Begun.given
  ended_iff n arrival : .finish n arrival ∈ turns ↔ (n, arrival) ∈ l.ended.map Ended.arrived
  nodup : (l.begun.map Begun.number).Nodup

namespace Ledger

variable {h : Host σ} {l : Ledger σ} {turns : List Turn}

theorem perm_of_find? {bs : List (Begun σ)} {b : Begun σ} {n : Nat} (hb : bs.find? (·.number = n) = some b)
    (nodup : (bs.map Begun.number).Nodup) : bs.Perm (b :: bs.filter (·.number ≠ n)) := by
  obtain ⟨hn, before, after, rfl, none⟩ := List.find?_eq_some_iff_append.mp hb
  have hn : b.number = n := by simpa using hn
  have none_before : ∀ a ∈ before, a.number ≠ n := by simpa using none
  have none_after : ∀ a ∈ after, a.number ≠ n := by
    intro a ha same
    rw [List.map_append, List.map_cons] at nodup
    have := (List.nodup_cons.mp (List.nodup_append.mp nodup).2.1).1
    exact this (List.mem_map.mpr ⟨a, ha, same.trans hn.symm⟩)
  rw [List.filter_append, List.filter_cons_of_neg (by simpa using hn),
    List.filter_eq_self.mpr (by simpa using none_before), List.filter_eq_self.mpr (by simpa using none_after)]
  exact List.perm_middle

theorem Tells.addBegun (ht : l.Tells turns) {number : Nat} (i : Incoming) (at_ : Instant)
    (unused : number ∉ l.begun.map Begun.number) :
    (l.addBegun h number i at_).Tells (turns ++ [.begin number i at_]) := by
  let b : Begun σ := ⟨number, i, at_, l.scene⟩
  have perm : (l.addBegun h number i at_).begun.Perm (b :: l.begun) := by
    rw [Ledger.addBegun, begun, begun, List.append_assoc]
    exact List.perm_middle
  refine ⟨fun n i' at' => ?_, fun n arrival => ?_, ?_⟩
  · rw [(perm.map Begun.given).mem_iff, List.mem_append, ht.begun_iff, List.map_cons, List.mem_cons]
    simp [b, Begun.given, or_comm]
  · simp [Ledger.addBegun, ht.ended_iff]
  · exact ((perm.map Begun.number).nodup_iff).mpr (List.nodup_cons.mpr ⟨unused, ht.nodup⟩)

theorem Tells.addEnded (ht : l.Tells turns) (arrival : Arrival) {b : Begun σ}
    (hb : l.underway.find? (·.number = b.number) = some b) :
    (l.addEnded h b arrival).Tells (turns ++ [.finish b.number arrival]) := by
  have perm : (l.addEnded h b arrival).begun.Perm l.begun := by
    have nodup := ht.nodup
    rw [begun, List.map_append] at nodup
    have found := perm_of_find? hb (List.nodup_append.mp nodup).1
    rw [Ledger.addEnded, begun, begun, List.map_append, List.map_singleton, ← List.append_assoc]
    exact List.perm_append_comm.trans (found.symm.append_right (l.ended.map Ended.toBegun))
  refine ⟨fun n i' at' => ?_, fun n arrival' => ?_, ?_⟩
  · rw [(perm.map Begun.given).mem_iff, List.mem_append, ht.begun_iff]
    simp
  · rw [Ledger.addEnded, List.mem_append, ht.ended_iff, List.map_append, List.mem_append]
    simp [Ended.arrived]
  · exact ((perm.map Begun.number).nodup_iff).mpr ht.nodup

theorem Tells.next (ht : l.Tells turns) {t : Turn} (enabled : (l.running h).Enabled t) :
    (l.next h t).Tells (turns ++ [t]) := by
  rcases l.next_cases h t with ⟨number, i, at_, rfl, unused, hn⟩ | ⟨b, arrival, rfl, hb, hn⟩ | ⟨-, off⟩
  · rw [hn]
    exact ht.addBegun i at_ unused
  · rw [hn]
    exact ht.addEnded arrival hb
  · exact absurd enabled off

theorem tells_nil (s : Scene σ) : (⟨s, [], []⟩ : Ledger σ).Tells [] := by
  constructor <;> simp [begun]

theorem Tells.run {seen : List Turn} (ht : l.Tells seen) (proper : (l.running h).Proper h turns) :
    (l.run h turns).Tells (seen ++ turns) := by
  induction turns generalizing l seen with
  | nil => rwa [List.append_nil]
  | cons t rest ih =>
    obtain ⟨enabled, proper⟩ := proper
    rw [← running_next] at proper
    have told := ih (ht.next enabled) proper
    rw [List.append_assoc] at told
    exact told

theorem Tells.nodup_ended (ht : l.Tells turns) : (l.ended.map Ended.whole).Nodup := by
  have nodup := ht.nodup
  rw [begun, List.map_append, List.map_map] at nodup
  refine List.Nodup.of_map (fun given : Nat × Incoming × Instant × Arrival => given.1) ?_
  rw [List.map_map]
  exact (List.nodup_append.mp nodup).2.1

theorem Tells.mem_ended_iff (ht : l.Tells turns) (n : Nat) (i : Incoming) (at_ : Instant) (arrival : Arrival) :
    (n, i, at_, arrival) ∈ l.ended.map Ended.whole ↔ .begin n i at_ ∈ turns ∧ .finish n arrival ∈ turns := by
  rw [ht.begun_iff, ht.ended_iff]
  constructor
  · intro gone
    obtain ⟨x, hx, he⟩ := List.mem_map.mp gone
    obtain ⟨rfl, rfl, rfl, rfl⟩ := he
    refine ⟨List.mem_map.mpr ⟨x.toBegun, ?_, rfl⟩, List.mem_map.mpr ⟨x, hx, rfl⟩⟩
    exact List.mem_append_right _ (List.mem_map_of_mem hx)
  · rintro ⟨came, gone⟩
    obtain ⟨b, hb, hg⟩ := List.mem_map.mp came
    obtain ⟨x, hx, ha⟩ := List.mem_map.mp gone
    obtain ⟨rfl, rfl, rfl⟩ := hg
    obtain ⟨hn, rfl⟩ := Prod.mk.inj ha
    have started : x.toBegun ∈ l.begun := List.mem_append_right _ (List.mem_map_of_mem hx)
    obtain rfl := List.inj_on_of_nodup_map ht.nodup started hb hn
    exact List.mem_map.mpr ⟨x, hx, rfl⟩

/-- Two orders of the same turns end the same exchanges. -/
theorem Tells.perm_map {α : Type} {l' : Ledger τ} {turns' : List Turn} (ht : l.Tells turns)
    (ht' : l'.Tells turns') (hp : turns'.Perm turns) {f : Ended σ → α} {f' : Ended τ → α}
    (same : ∀ x ∈ l.ended, ∀ y ∈ l'.ended, x.whole = y.whole → f x = f' y) :
    (l'.ended.map f').Perm (l.ended.map f) := by
  have members (given : Nat × Incoming × Instant × Arrival) :
      given ∈ l'.ended.map Ended.whole ↔ given ∈ l.ended.map Ended.whole := by
    obtain ⟨n, i, at_, arrival⟩ := given
    rw [ht.mem_ended_iff, ht'.mem_ended_iff, hp.mem_iff, hp.mem_iff]
  have nodup : (l.ended.map fun x => (x.whole, f x)).Nodup :=
    List.Nodup.of_map Prod.fst (by rw [List.map_map]; exact ht.nodup_ended)
  have nodup' : (l'.ended.map fun x => (x.whole, f' x)).Nodup :=
    List.Nodup.of_map Prod.fst (by rw [List.map_map]; exact ht'.nodup_ended)
  have perm : (l'.ended.map fun x => (x.whole, f' x)).Perm (l.ended.map fun x => (x.whole, f x)) := by
    rw [List.perm_ext_iff_of_nodup nodup' nodup]
    rintro ⟨given, value⟩
    simp only [List.mem_map, Prod.mk.injEq]
    constructor
    · rintro ⟨y, hy, rfl, rfl⟩
      obtain ⟨x, hx, he⟩ := List.mem_map.mp ((members y.whole).mp (List.mem_map_of_mem hy))
      exact ⟨x, hx, he, same x hx y hy he⟩
    · rintro ⟨x, hx, rfl, rfl⟩
      obtain ⟨y, hy, he⟩ := List.mem_map.mp ((members x.whole).mpr (List.mem_map_of_mem hx))
      exact ⟨y, hy, he, (same x hx y hy he.symm).symm⟩
  have mapped := perm.map Prod.snd
  rw [List.map_map, List.map_map] at mapped
  exact mapped

end Ledger

end Host

end AccessLog
