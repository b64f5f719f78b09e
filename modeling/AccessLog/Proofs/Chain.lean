import AccessLog.Chain

/-!
# The order of a chain

A chain is ordered by priority, and a hook that is added goes behind all hooks of its own priority and of lower ones,
and before all others, which keep their places.
-/

namespace AccessLog

namespace Chain

variable {σ : Type}

def Ordered (hooks : List (Hook σ)) : Prop := hooks.Pairwise fun a b => a.priority ≤ b.priority

theorem divide_of_pairwise {α : Type} {rank : α → Int} {l : List α}
    (h : l.Pairwise fun a b => rank a ≤ rank b) (n : Int) :
    l.filter (rank · ≤ n) ++ l.filter (n < rank ·) = l := by
  induction l with
  | nil => rfl
  | cons a rest ih =>
    obtain ⟨ha, hr⟩ := List.pairwise_cons.mp h
    by_cases hn : rank a ≤ n
    · have hn' : ¬ n < rank a := by omega
      rw [List.filter_cons_of_pos (by simpa using hn), List.filter_cons_of_neg (by simpa using hn'),
        List.cons_append, ih hr]
    · have none : ∀ b ∈ a :: rest, ¬ rank b ≤ n := by
        intro b hb
        rcases List.mem_cons.mp hb with rfl | hb
        · exact hn
        · have := ha b hb
          omega
      have all : ∀ b ∈ a :: rest, n < rank b := fun b hb => Int.not_le.mp (none b hb)
      rw [List.filter_eq_nil_iff.mpr (by simpa using none), List.filter_eq_self.mpr (by simpa using all),
        List.nil_append]

theorem ordered_mergeSort (hooks : List (Hook σ)) :
    Ordered (hooks.mergeSort fun a b => a.priority ≤ b.priority) := by
  have h : (hooks.mergeSort fun a b => a.priority ≤ b.priority).Pairwise
      fun a b => decide (a.priority ≤ b.priority) = true := by
    apply List.pairwise_mergeSort
    · simp only [decide_eq_true_eq]
      omega
    · simp only [Bool.or_eq_true, decide_eq_true_eq]
      omega
  exact h.imp of_decide_eq_true

theorem Ordered.sublist_mergeSort {part hooks : List (Hook σ)} (h : Ordered part)
    (hs : part.Sublist hooks) : part.Sublist (hooks.mergeSort fun a b => a.priority ≤ b.priority) := by
  refine List.sublist_mergeSort ?_ ?_ (h.imp decide_eq_true) hs
  · simp only [decide_eq_true_eq]
    omega
  · simp only [Bool.or_eq_true, decide_eq_true_eq]
    omega

theorem ordered_add (c : Chain σ) (h : Hook σ) : Ordered (c.add h).hooks := ordered_mergeSort _

theorem ordered_foldl_add {c : Chain σ} (hc : Ordered c.hooks) (hooks : List (Hook σ)) :
    Ordered (hooks.foldl add c).hooks := by
  induction hooks generalizing c with
  | nil => exact hc
  | cons h rest ih => exact ih (c.ordered_add h)

theorem ordered_ofHooks (hooks : List (Hook σ)) : Ordered (ofHooks hooks).hooks :=
  ordered_foldl_add .nil hooks

theorem perm_foldl_add (c : Chain σ) (hooks : List (Hook σ)) :
    (hooks.foldl add c).hooks.Perm (c.hooks ++ hooks) := by
  induction hooks generalizing c with
  | nil => rw [List.foldl_nil, List.append_nil]
  | cons h rest ih =>
    have added : (c.add h).hooks.Perm (c.hooks ++ [h]) := List.mergeSort_perm ..
    have all := (ih (c.add h)).trans (added.append_right rest)
    rw [List.append_assoc] at all
    exact all

theorem perm_ofHooks (hooks : List (Hook σ)) : (ofHooks hooks).hooks.Perm hooks := perm_foldl_add empty hooks

theorem filter_add {c : Chain σ} {h : Hook σ} {kind : Hook σ → Bool}
    (ho : Ordered ((c.hooks ++ [h]).filter kind)) :
    (c.add h).hooks.filter kind = (c.hooks ++ [h]).filter kind := by
  have hf : ((c.hooks ++ [h]).filter kind).filter kind = (c.hooks ++ [h]).filter kind := by simp
  have hs : ((c.hooks ++ [h]).filter kind).Sublist ((c.add h).hooks.filter kind) :=
    hf ▸ (ho.sublist_mergeSort List.filter_sublist).filter kind
  have hl : ((c.add h).hooks.filter kind).length = ((c.hooks ++ [h]).filter kind).length :=
    ((List.mergeSort_perm ..).filter kind).length_eq
  exact (hs.eq_of_length hl.symm).symm

theorem add_hooks {c : Chain σ} (hc : Ordered c.hooks) (h : Hook σ) :
    (c.add h).hooks = c.hooks.filter (·.priority ≤ h.priority) ++ h ::
      c.hooks.filter (h.priority < ·.priority) := by
  -- Both kinds are in order before the list is sorted, the new hook being the last of its own.
  have low : (c.hooks ++ [h]).filter (·.priority ≤ h.priority) =
      c.hooks.filter (·.priority ≤ h.priority) ++ [h] := by simp
  have high : (c.hooks ++ [h]).filter (h.priority < ·.priority) =
      c.hooks.filter (h.priority < ·.priority) := by simp
  have low_ordered : Ordered ((c.hooks ++ [h]).filter (·.priority ≤ h.priority)) := by
    rw [low]
    refine List.pairwise_append.mpr ⟨hc.filter _, List.pairwise_singleton .., ?_⟩
    intro a ha b hb
    obtain rfl := List.mem_singleton.mp hb
    exact of_decide_eq_true (List.mem_filter.mp ha).2
  have high_ordered : Ordered ((c.hooks ++ [h]).filter (h.priority < ·.priority)) := by
    rw [high]
    exact hc.filter _
  calc (c.add h).hooks
    _ = (c.add h).hooks.filter (·.priority ≤ h.priority) ++
        (c.add h).hooks.filter (h.priority < ·.priority) :=
      (divide_of_pairwise (c.ordered_add h) h.priority).symm
    _ = (c.hooks ++ [h]).filter (·.priority ≤ h.priority) ++
        (c.hooks ++ [h]).filter (h.priority < ·.priority) := by
      rw [filter_add low_ordered, filter_add high_ordered]
    _ = _ := by rw [low, high, List.append_assoc, List.singleton_append]

section Through

variable {ctx : Context} {h : Hook σ} {res : Response} {s : σ}

theorem responseThrough_of_some {answer : Response} (rest : List (Hook σ))
    (ha : (h.onResponse res ctx s).1 = some answer) :
    responseThrough ctx (h :: rest) res s =
      responseThrough ctx rest answer (h.onResponse res ctx s).2 := by
  rw [responseThrough, show h.onResponse res ctx s = (some answer, _) from Prod.ext ha rfl]

theorem responseThrough_of_none (rest : List (Hook σ)) (ha : (h.onResponse res ctx s).1 = none) :
    responseThrough ctx (h :: rest) res s = (none, (h.onResponse res ctx s).2) := by
  rw [responseThrough, show h.onResponse res ctx s = (none, _) from Prod.ext ha rfl]

theorem isSome_responseThrough {hooks : List (Hook σ)}
    (hs : ∀ h ∈ hooks, ∀ res s, (h.onResponse res ctx s).1.isSome = true) (res : Response) (s : σ) :
    (responseThrough ctx hooks res s).1.isSome = true := by
  induction hooks generalizing res s with
  | nil => rfl
  | cons h rest ih =>
    obtain ⟨first, others⟩ := List.forall_mem_cons.mp hs
    obtain ⟨answer, ha⟩ := Option.isSome_iff_exists.mp (first res s)
    rw [responseThrough_of_some rest ha]
    exact ih others answer _

end Through

section Along

variable {R : σ → σ → Prop} (refl : ∀ s, R s s) (trans : ∀ {a b c}, R a b → R b c → R a c) {hooks : List (Hook σ)}

include refl trans

theorem requestThrough_along {req : Request} (step : ∀ h ∈ hooks, ∀ ctx s, R s (h.onRequest req ctx s).2)
    (ctx : Context) (s : σ) : R s (requestThrough req hooks ctx s).2 := by
  induction hooks generalizing ctx s with
  | nil => exact refl s
  | cons h rest ih =>
    obtain ⟨first, others⟩ := List.forall_mem_cons.mp step
    exact trans (first ctx s) (ih others _ _)

theorem responseThrough_along {ctx : Context} (step : ∀ h ∈ hooks, ∀ res s, R s (h.onResponse res ctx s).2)
    (res : Response) (s : σ) : R s (responseThrough ctx hooks res s).2 := by
  induction hooks generalizing res s with
  | nil => exact refl s
  | cons h rest ih =>
    obtain ⟨first, others⟩ := List.forall_mem_cons.mp step
    cases ha : (h.onResponse res ctx s).1 with
    | none =>
      rw [responseThrough_of_none rest ha]
      exact first res s
    | some answer =>
      rw [responseThrough_of_some rest ha]
      exact trans (first res s) (ih others answer _)

end Along

end Chain

end AccessLog
