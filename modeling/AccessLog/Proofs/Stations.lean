import AccessLog.Proofs.Chain
import AccessLog.Proofs.Pipeline

/-!
# Chains that differ in what they log

A chain has stations for identifiers, for logs, and for hooks of others, which keep a state of their own. Two lists
of stations are alike if they are the same but for the logs. When the stations of either are added to a chain, each
goes to its place by its priority, and the two chains are alike again, wherever the logs are.
-/

namespace AccessLog

variable {σ υ τ : Type}

def Request.timeless (r : Request) : Request := { r with receivedAt := ⟨0⟩ }

def Kept.timeless : Kept → Kept
  | .request r => .request r.timeless
  | kept => kept

namespace Context

/-- The same is kept, apart from the entry of the log and from the moments of requests. -/
def Agree (c d : Context) : Prop :=
  ∀ key, key ≠ RequestLogHook.key →
    (c.entries.lookup key).map Kept.timeless = (d.entries.lookup key).map Kept.timeless

def Dated (c : Context) : Prop :=
  ∀ req, c.get? Request RequestLogHook.key = some req → req.receivedAt.inCalendar = true

end Context

def Supply.Alike {α : Type} (a b : Supply α) : Prop := ∀ n, a.item (a.taken + n) = b.item (b.taken + n)

/-- The same response, or the same but for the body where `whole` is false. -/
structure Response.Alike (whole : Bool) (a b : Response) : Prop where
  status_eq : a.status = b.status
  headers_eq : a.headers = b.headers
  whole_eq : whole = true → a = b

/-- A hook on a state of its own, which the log has nothing to do with. -/
def Hook.beside (h : Hook τ) : Hook (Scene (σ × τ)) where
  name := h.name
  priority := h.priority
  onRequest req ctx s :=
    let (ctx, own) := h.onRequest req ctx s.own.2
    (ctx, { s with own := (s.own.1, own) })
  onResponse res ctx s :=
    let (res, own) := h.onResponse res ctx s.own.2
    (res, { s with own := (s.own.1, own) })

/-- What the hook does depends neither on the moment of the request nor on what is kept for the log; nor on the body
of the response, where `whole` is false. -/
structure Hook.Unaware (whole : Bool) (h : Hook τ) : Prop where
  on_request {req req' : Request} {c d : Context} (own : τ) : req.timeless = req'.timeless → c.Agree d →
    (h.onRequest req c own).1.Agree (h.onRequest req' d own).1 ∧
      (h.onRequest req c own).2 = (h.onRequest req' d own).2
  dated {req : Request} {c : Context} (own : τ) : req.receivedAt.inCalendar = true → c.Dated →
    (h.onRequest req c own).1.Dated
  on_response {res res' : Response} {c d : Context} (own : τ) : res.Alike whole res' → c.Agree d →
    Option.Rel (Response.Alike whole) (h.onResponse res c own).1 (h.onResponse res' d own).1 ∧
      (h.onResponse res c own).2 = (h.onResponse res' d own).2

/-- The pipeline has a clock in the calendar and a sink that always returns, and keeps to its part of the state. -/
structure Pipeline.Quiet (p : Pipeline (σ × τ)) : Prop where
  clock_dated own : (p.clock own).1.inCalendar = true
  clock_apart own : (p.clock own).2.2 = own.2
  sink_returned e s : (p.sink e s).1 = .returned
  sink_apart e s : (p.sink e s).2.own.2 = s.own.2

inductive Station (σ τ : Type) where
  | identify
  | log (p : Pipeline (σ × τ))
  | other (h : Hook τ)

namespace Station

def hook : Station σ τ → Hook (Scene (σ × τ))
  | identify => RequestIdHook.hook
  | log p => RequestLogHook.hook p
  | other h => h.beside

inductive Alike (whole : Bool) : List (Station σ τ) → List (Station υ τ) → Prop where
  | nil : Alike whole [] []
  | identified {l l'} : Alike whole l l' → Alike whole (identify :: l) (identify :: l')
  | others {l l'} {h : Hook τ} : h.Unaware whole → Alike whole l l' →
    Alike whole (other h :: l) (other h :: l')
  | left {l l'} {p : Pipeline (σ × τ)} : p.Quiet → Alike whole l l' → Alike whole (log p :: l) l'
  | right {l l'} {p : Pipeline (υ × τ)} : p.Quiet → Alike whole l l' → Alike whole l (log p :: l')

def priority (x : Station σ τ) : Int := x.hook.priority

def insert (x : Station σ τ) (l : List (Station σ τ)) : List (Station σ τ) :=
  l.filter (·.priority ≤ x.priority) ++ x :: l.filter (x.priority < ·.priority)

def Arranged (l : List (Station σ τ)) : Prop := l.Pairwise fun a b => a.priority ≤ b.priority

section Arrangement

variable {l m : List (Station σ τ)} {l' m' : List (Station υ τ)} {whole : Bool}

theorem arranged_iff : Arranged l ↔ Chain.Ordered (l.map hook) := by
  unfold Arranged Chain.Ordered
  rw [List.pairwise_map]
  rfl

theorem add_hooks {c : Chain (Scene (σ × τ))} (hc : c.hooks = l.map hook) (hl : Arranged l)
    (x : Station σ τ) :
    (c.add x.hook).hooks = (insert x l).map hook ∧ Arranged (insert x l) := by
  have ho : Chain.Ordered c.hooks := by
    rw [hc]
    exact arranged_iff.mp hl
  have hx : (c.add x.hook).hooks = (insert x l).map hook := by
    rw [Chain.add_hooks ho, hc, List.filter_map, List.filter_map, insert, List.map_append, List.map_cons]
    rfl
  refine ⟨hx, arranged_iff.mpr ?_⟩
  rw [← hx]
  exact c.ordered_add x.hook

theorem Alike.symm (h : Alike whole l l') : Alike whole l' l := by
  induction h with
  | nil => exact .nil
  | identified _ ih => exact .identified ih
  | others hh _ ih => exact .others hh ih
  | left hp _ ih => exact .right hp ih
  | right hp _ ih => exact .left hp ih

theorem Alike.append (h : Alike whole l l') (hm : Alike whole m m') : Alike whole (l ++ m) (l' ++ m') := by
  induction h with
  | nil => exact hm
  | identified _ ih => exact .identified ih
  | others hh _ ih => exact .others hh ih
  | left hp _ ih => exact .left hp ih
  | right hp _ ih => exact .right hp ih

theorem Alike.reverse (h : Alike whole l l') : Alike whole l.reverse l'.reverse := by
  induction h with
  | nil => exact .nil
  | identified _ ih =>
    rw [List.reverse_cons, List.reverse_cons]
    exact ih.append (.identified .nil)
  | others hh _ ih =>
    rw [List.reverse_cons, List.reverse_cons]
    exact ih.append (.others hh .nil)
  | @left l l' p hp _ ih =>
    rw [List.reverse_cons, ← l'.reverse.append_nil]
    exact ih.append (.left hp .nil)
  | @right l l' p hp _ ih =>
    rw [List.reverse_cons, ← l.reverse.append_nil]
    exact ih.append (.right hp .nil)

theorem Alike.filter (h : Alike whole l l') (which : Int → Bool) :
    Alike whole (l.filter (which ·.priority)) (l'.filter (which ·.priority)) := by
  induction h with
  | nil => exact .nil
  | identified _ ih =>
    have same : (identify : Station υ τ).priority = (identify : Station σ τ).priority := rfl
    rw [List.filter_cons, List.filter_cons, same]
    by_cases hw : which (identify : Station σ τ).priority = true
    · rw [if_pos hw, if_pos hw]
      exact .identified ih
    · rw [if_neg hw, if_neg hw]
      exact ih
  | @others _ _ h hh _ ih =>
    have same : (other h : Station υ τ).priority = (other h : Station σ τ).priority := rfl
    rw [List.filter_cons, List.filter_cons, same]
    by_cases hw : which (other h : Station σ τ).priority = true
    · rw [if_pos hw, if_pos hw]
      exact .others hh ih
    · rw [if_neg hw, if_neg hw]
      exact ih
  | @left _ _ p hp _ ih =>
    rw [List.filter_cons]
    by_cases hw : which (log p).priority = true
    · rw [if_pos hw]
      exact .left hp ih
    · rw [if_neg hw]
      exact ih
  | @right _ _ p hp _ ih =>
    rw [List.filter_cons]
    by_cases hw : which (log p).priority = true
    · rw [if_pos hw]
      exact .right hp ih
    · rw [if_neg hw]
      exact ih

theorem Alike.insert_left (h : Alike whole l l') (hl' : Arranged l') {p : Pipeline (σ × τ)}
    (hp : p.Quiet) : Alike whole (insert (log p) l) l' := by
  -- The other list stays, but in two parts: what stands before the new log and what stands behind it.
  rw [← Chain.divide_of_pairwise hl' (log p).priority]
  exact (h.filter (· ≤ (log p).priority)).append (.left hp (h.filter ((log p).priority < ·)))

theorem Alike.insert_right (h : Alike whole l l') (hl : Arranged l) {p : Pipeline (υ × τ)}
    (hp : p.Quiet) : Alike whole l (insert (log p) l') :=
  (h.symm.insert_left hl hp).symm

theorem Alike.insert_identify (h : Alike whole l l') :
    Alike whole (insert identify l) (insert identify l') :=
  (h.filter (· ≤ (identify : Station σ τ).priority)).append
    (.identified (h.filter ((identify : Station σ τ).priority < ·)))

theorem Alike.insert_other (h : Alike whole l l') {x : Hook τ} (hh : x.Unaware whole) :
    Alike whole (insert (other x) l) (insert (other x) l') :=
  (h.filter (· ≤ x.priority)).append (.others hh (h.filter (x.priority < ·)))

end Arrangement

/-- Adding what is alike to chains that are alike gives chains that are alike, in whatever order it is added. -/
theorem Alike.foldl_add {l m : List (Station σ τ)} {l' m' : List (Station υ τ)} {whole : Bool}
    {c : Chain (Scene (σ × τ))} {c' : Chain (Scene (υ × τ))} (h : Alike whole l l')
    (hm : Alike whole m m') (hc : c.hooks = m.map hook) (hc' : c'.hooks = m'.map hook)
    (ho : Arranged m) (ho' : Arranged m') :
    ∃ n n', Alike whole n n' ∧ ((l.map hook).foldl Chain.add c).hooks = n.map hook ∧
      ((l'.map hook).foldl Chain.add c').hooks = n'.map hook := by
  induction h generalizing m m' c c' with
  | nil => exact ⟨m, m', hm, hc, hc'⟩
  | identified _ ih =>
    obtain ⟨hx, hox⟩ := add_hooks hc ho identify
    obtain ⟨hx', hox'⟩ := add_hooks hc' ho' identify
    exact ih hm.insert_identify hx hx' hox hox'
  | @others _ _ h hh _ ih =>
    obtain ⟨hx, hox⟩ := add_hooks hc ho (other h)
    obtain ⟨hx', hox'⟩ := add_hooks hc' ho' (other h)
    exact ih (hm.insert_other hh) hx hx' hox hox'
  | @left _ _ p hp _ ih =>
    obtain ⟨hx, hox⟩ := add_hooks hc ho (log p)
    exact ih (hm.insert_left ho' hp) hx hc' hox ho'
  | @right _ _ p hp _ ih =>
    obtain ⟨hx', hox'⟩ := add_hooks hc' ho' (log p)
    exact ih (hm.insert_right ho hp) hc hx' ho hox'

end Station

end AccessLog
