import AccessLog.Proofs.Chain

/-!
# Who is called when

However its hooks were added, a chain has them sorted by priority, with those of one priority in the order in which they
were added; there is one such order. A request is shown to each hook once in that order and a response in the
opposite one, and each hook is handed what the one before it made of it. Only a hook that unwinds keeps the
response from those behind it.
-/

namespace AccessLog

namespace Chain

variable {σ : Type}

/-- The same hooks, by priority; those of one priority have kept their order. -/
structure StablySorted (hooks sorted : List (Hook σ)) : Prop where
  perm : sorted.Perm hooks
  ordered : Ordered sorted
  stable : ∀ n, sorted.filter (·.priority = n) = hooks.filter (·.priority = n)

/-- What is in order is known by its hooks of each priority. -/
theorem Ordered.ext {a b : List (Hook σ)} (ha : Ordered a) (hb : Ordered b)
    (same : ∀ n, a.filter (·.priority = n) = b.filter (·.priority = n)) : a = b := by
  induction a generalizing b with
  | nil =>
    refine (List.eq_nil_iff_forall_not_mem.mpr fun h hm => ?_).symm
    have found : h ∈ b.filter (·.priority = h.priority) := List.mem_filter.mpr ⟨hm, by simp⟩
    rw [← same] at found
    cases found
  | cons x a ih =>
    have mem_iff (h : Hook σ) : h ∈ x :: a ↔ h ∈ b := by
      have here := congrArg (h ∈ ·) (same h.priority)
      simpa using here
    cases b with
    | nil => simpa using mem_iff x
    | cons y b =>
      obtain ⟨hx, restA⟩ := List.pairwise_cons.mp ha
      obtain ⟨hy, restB⟩ := List.pairwise_cons.mp hb
      have least : y.priority ≤ x.priority := by
        rcases List.mem_cons.mp ((mem_iff x).mp List.mem_cons_self) with rfl | hm
        · exact Int.le_refl _
        · exact hy x hm
      have least' : x.priority ≤ y.priority := by
        rcases List.mem_cons.mp ((mem_iff y).mpr List.mem_cons_self) with rfl | hm
        · exact Int.le_refl _
        · exact hx y hm
      have first := same x.priority
      rw [List.filter_cons_of_pos (by simp), List.filter_cons_of_pos (by simp; omega)] at first
      obtain ⟨rfl, -⟩ := List.cons.inj first
      refine congrArg (x :: ·) (ih restA restB fun n => ?_)
      have rest := same n
      by_cases hn : x.priority = n
      · rw [List.filter_cons_of_pos (by simpa), List.filter_cons_of_pos (by simpa)] at rest
        exact (List.cons.inj rest).2
      · rwa [List.filter_cons_of_neg (by simpa), List.filter_cons_of_neg (by simpa)] at rest

theorem StablySorted.unique {hooks a b : List (Hook σ)} (ha : StablySorted hooks a) (hb : StablySorted hooks b) : a = b :=
  ha.ordered.ext hb.ordered fun n => (ha.stable n).trans (hb.stable n).symm

theorem filter_priority_add (c : Chain σ) (h : Hook σ) (n : Int) :
    (c.add h).hooks.filter (·.priority = n) = (c.hooks ++ [h]).filter (·.priority = n) := by
  refine filter_add (List.pairwise_of_forall_mem_list fun a ha b hb => ?_)
  have left : a.priority = n := of_decide_eq_true (List.mem_filter.mp ha).2
  have right : b.priority = n := of_decide_eq_true (List.mem_filter.mp hb).2
  exact Int.le_of_eq (left.trans right.symm)

theorem filter_priority_foldl_add (c : Chain σ) (hooks : List (Hook σ)) (n : Int) :
    (hooks.foldl add c).hooks.filter (·.priority = n) = (c.hooks ++ hooks).filter (·.priority = n) := by
  induction hooks generalizing c with
  | nil => rw [List.foldl_nil, List.append_nil]
  | cons h rest ih =>
    rw [List.foldl_cons, ih, List.filter_append, filter_priority_add, ← List.filter_append, List.append_assoc,
      List.singleton_append]

theorem stablySorted_ofHooks (hooks : List (Hook σ)) : StablySorted hooks (ofHooks hooks).hooks where
  perm := perm_ofHooks hooks
  ordered := ordered_ofHooks hooks
  stable := filter_priority_foldl_add empty hooks

theorem ofHooks_eq_of_stable {hooks hooks' : List (Hook σ)}
    (same : ∀ n, hooks.filter (·.priority = n) = hooks'.filter (·.priority = n)) : ofHooks hooks = ofHooks hooks' := by
  refine congrArg Chain.mk ((ordered_ofHooks hooks).ext (ordered_ofHooks hooks') fun n => ?_)
  exact ((stablySorted_ofHooks hooks).stable n).trans ((same n).trans ((stablySorted_ofHooks hooks').stable n).symm)

end Chain

structure Hook.Call (σ ι α : Type) where
  hook : Hook σ
  about : ι
  received : α
  gave : α

/-- The calls of hooks, in their order. Where a hook unwinds, it gives no response. -/
structure Hook.Calls (σ : Type) where
  requests : List (Hook.Call σ Request (Context × σ)) := []
  responses : List (Hook.Call σ Context (Option Response × σ)) := []

/-- The hook, with a note of every call beside the state that it uses. -/
def Hook.watched {σ : Type} (h : Hook σ) : Hook (σ × Hook.Calls σ) where
  name := h.name
  priority := h.priority
  onRequest req ctx s :=
    let gave := h.onRequest req ctx s.1
    (gave.1, gave.2, { s.2 with requests := s.2.requests ++ [⟨h, req, (ctx, s.1), gave⟩] })
  onResponse res ctx s :=
    let gave := h.onResponse res ctx s.1
    (gave.1, gave.2, { s.2 with responses := s.2.responses ++ [⟨h, ctx, (some res, s.1), gave⟩] })

/-- From the first to the last, each call receives what the one before it gave. -/
def Hook.Handed {σ ι α : Type} (first : α) : List (Hook.Call σ ι α) → α → Prop
  | [], last => first = last
  | call :: rest, last => call.received = first ∧ Hook.Handed call.gave rest last

namespace Chain

variable {σ : Type}

theorem ofHooks_watched (hooks : List (Hook σ)) :
    (ofHooks (hooks.map Hook.watched)).hooks = (ofHooks hooks).hooks.map Hook.watched := by
  have sorted := stablySorted_ofHooks hooks
  have watched : StablySorted (hooks.map Hook.watched) ((ofHooks hooks).hooks.map Hook.watched) := by
    refine ⟨sorted.perm.map _, List.pairwise_map.mpr sorted.ordered, fun n => ?_⟩
    have kinds (l : List (Hook σ)) :
        (l.map Hook.watched).filter (·.priority = n) = (l.filter (·.priority = n)).map Hook.watched := List.filter_map ..
    rw [kinds, kinds, sorted.stable]
  exact (stablySorted_ofHooks _).unique watched

theorem requestThrough_cons (req : Request) (h : Hook σ) (rest : List (Hook σ)) (ctx : Context) (s : σ) :
    requestThrough req (h :: rest) ctx s =
      requestThrough req rest (h.onRequest req ctx s).1 (h.onRequest req ctx s).2 := rfl

theorem requestThrough_watched (req : Request) (hooks : List (Hook σ)) (ctx : Context) (s : σ) (before : Hook.Calls σ) :
    ∃ calls : List (Hook.Call σ Request (Context × σ)),
      requestThrough req (hooks.map Hook.watched) ctx (s, before) =
        ((requestThrough req hooks ctx s).1, (requestThrough req hooks ctx s).2,
          { before with requests := before.requests ++ calls }) ∧
      calls.map (·.hook) = hooks ∧ Hook.Handed (ctx, s) calls (requestThrough req hooks ctx s) ∧
      ∀ call ∈ calls, call.about = req ∧ call.gave = call.hook.onRequest req call.received.1 call.received.2 := by
  induction hooks generalizing ctx s before with
  | nil => exact ⟨[], by simp [requestThrough], rfl, rfl, List.forall_mem_nil _⟩
  | cons h rest ih =>
    let gave := h.onRequest req ctx s
    let call : Hook.Call σ Request (Context × σ) := ⟨h, req, (ctx, s), gave⟩
    obtain ⟨calls, run, called, handed, told⟩ :=
      ih gave.1 gave.2 { before with requests := before.requests ++ [call] }
    refine ⟨call :: calls, ?_, congrArg (h :: ·) called, ⟨rfl, handed⟩, List.forall_mem_cons.mpr ⟨⟨rfl, rfl⟩, told⟩⟩
    have noted : h.watched.onRequest req ctx (s, before) =
        (gave.1, gave.2, { before with requests := before.requests ++ [call] }) := rfl
    rw [List.append_assoc, List.singleton_append] at run
    rw [List.map_cons, requestThrough_cons, noted, run, requestThrough_cons]

theorem responseThrough_watched (ctx : Context) (hooks : List (Hook σ)) (res : Response) (s : σ) (before : Hook.Calls σ) :
    ∃ calls : List (Hook.Call σ Context (Option Response × σ)),
      responseThrough ctx (hooks.map Hook.watched) res (s, before) =
        ((responseThrough ctx hooks res s).1, (responseThrough ctx hooks res s).2,
          { before with responses := before.responses ++ calls }) ∧
      calls.map (·.hook) <+: hooks ∧
      ((∀ call ∈ calls, call.gave.1.isSome = true) → calls.map (·.hook) = hooks) ∧
      Hook.Handed (some res, s) calls (responseThrough ctx hooks res s) ∧
      ∀ call ∈ calls, call.about = ctx ∧
        ∃ shown, call.received.1 = some shown ∧ call.gave = call.hook.onResponse shown ctx call.received.2 := by
  induction hooks generalizing res s before with
  | nil => exact ⟨[], by simp [responseThrough], List.prefix_refl _, fun _ => rfl, rfl, List.forall_mem_nil _⟩
  | cons h rest ih =>
    let gave := h.onResponse res ctx s
    let call : Hook.Call σ Context (Option Response × σ) := ⟨h, ctx, (some res, s), gave⟩
    have noted : (h.watched.onResponse res ctx (s, before)).2 =
        (gave.2, { before with responses := before.responses ++ [call] }) := rfl
    cases hg : gave.1 with
    | none =>
      have unwound : (h.watched.onResponse res ctx (s, before)).1 = none := hg
      have result : responseThrough ctx (h :: rest) res s = (none, gave.2) := responseThrough_of_none rest hg
      have last : gave = (none, gave.2) := Prod.ext hg rfl
      refine ⟨[call], ?_, ⟨rest, rfl⟩, fun all => ?_, ?_, List.forall_mem_singleton.mpr ⟨rfl, res, rfl, rfl⟩⟩
      · rw [List.map_cons, responseThrough_of_none _ unwound, result, noted]
      · have returned : gave.1.isSome = true := all call (List.mem_singleton_self call)
        rw [hg] at returned
        cases returned
      · rw [result]
        exact ⟨rfl, last⟩
    | some answer =>
      have returned : (h.watched.onResponse res ctx (s, before)).1 = some answer := hg
      have result : responseThrough ctx (h :: rest) res s = responseThrough ctx rest answer gave.2 :=
        responseThrough_of_some rest hg
      have next : gave = (some answer, gave.2) := Prod.ext hg rfl
      obtain ⟨calls, run, called, all, handed, told⟩ :=
        ih answer gave.2 { before with responses := before.responses ++ [call] }
      refine ⟨call :: calls, ?_, (List.prefix_cons_inj h).mpr called, fun returned => ?_, ?_,
        List.forall_mem_cons.mpr ⟨⟨rfl, res, rfl, rfl⟩, told⟩⟩
      · rw [List.map_cons, responseThrough_of_some _ returned, result, noted, run]
        simp
      · exact congrArg (h :: ·) (all (List.forall_mem_cons.mp returned).2)
      · rw [result]
        refine ⟨rfl, ?_⟩
        show Hook.Handed gave calls _
        rw [next]
        exact handed

/-- A chain is in one order, the stable order by priority, whichever way its hooks came into it. Each hook is called once
on the way in, in this order, and once on the way back, in the opposite order, unless one before it unwinds; and it is
handed what the one before it gave. -/
theorem called_in_order (hooks : List (Hook σ)) :
    ∃ sorted, StablySorted hooks sorted ∧ (∀ other, StablySorted hooks other → other = sorted) ∧
      (ofHooks hooks).names = sorted.map (·.name) ∧
      (∀ req ctx s, ∃ calls : List (Hook.Call σ Request (Context × σ)),
        let gone := (ofHooks hooks).onRequest req ctx s
        (ofHooks (hooks.map Hook.watched)).onRequest req ctx (s, {}) = (gone.1, gone.2, { requests := calls }) ∧
        calls.map (·.hook) = sorted ∧ Hook.Handed (ctx, s) calls gone ∧
        ∀ call ∈ calls, call.about = req ∧ call.gave = call.hook.onRequest req call.received.1 call.received.2) ∧
      (∀ res ctx s, ∃ calls : List (Hook.Call σ Context (Option Response × σ)),
        let back := (ofHooks hooks).onResponse res ctx s
        (ofHooks (hooks.map Hook.watched)).onResponse res ctx (s, {}) = (back.1, back.2, { responses := calls }) ∧
        calls.map (·.hook) <+: sorted.reverse ∧
        ((∀ call ∈ calls, call.gave.1.isSome = true) → calls.map (·.hook) = sorted.reverse) ∧
        Hook.Handed (some res, s) calls back ∧
        ∀ call ∈ calls, call.about = ctx ∧
          ∃ shown, call.received.1 = some shown ∧ call.gave = call.hook.onResponse shown ctx call.received.2) ∧
      ∀ hooks', (∀ n, hooks'.filter (·.priority = n) = hooks.filter (·.priority = n)) →
        ofHooks hooks' = ofHooks hooks := by
  have sorted := stablySorted_ofHooks hooks
  refine ⟨(ofHooks hooks).hooks, sorted, fun other ho => ho.unique sorted, rfl, fun req ctx s => ?_, fun res ctx s => ?_,
    fun hooks' => ofHooks_eq_of_stable⟩
  · obtain ⟨calls, run, all⟩ := requestThrough_watched req (ofHooks hooks).hooks ctx s {}
    refine ⟨calls, ?_, all⟩
    rw [onRequest, ofHooks_watched]
    exact run
  · obtain ⟨calls, run, all⟩ := responseThrough_watched ctx (ofHooks hooks).hooks.reverse res s {}
    refine ⟨calls, ?_, all⟩
    rw [onResponse, ofHooks_watched, ← List.map_reverse]
    exact run

/-- Two hooks of one priority and one of a higher, which is added first or between them. -/
theorem called_in_order_ties :
    let inner : Hook Nat := { name := "inner", priority := 10 }
    let first : Hook Nat := { name := "first", onRequest := fun _ ctx s => (ctx, s + 1) }
    let second : Hook Nat := { name := "second", onRequest := fun _ ctx s => (ctx, s * 2) }
    (ofHooks [inner, first, second]).names = ["first", "second", "inner"] ∧
      ofHooks [first, inner, second] = ofHooks [inner, first, second] := by
  intro inner first second
  obtain ⟨sorted, -, unique, names, -, -, same⟩ := called_in_order [inner, first, second]
  have tied (n : Int) : [first, inner, second].filter (·.priority = n) = [inner, first, second].filter (·.priority = n) ∧
      [first, second, inner].filter (·.priority = n) = [inner, first, second].filter (·.priority = n) := by
    by_cases zero : 0 = n
    · subst zero
      exact ⟨rfl, rfl⟩
    · by_cases ten : 10 = n <;> simp [inner, first, second, zero, ten]
  have order : StablySorted [inner, first, second] [first, second, inner] := by
    refine ⟨(List.perm_append_comm : ([first, second] ++ [inner]).Perm ([inner] ++ [first, second])), ?_,
      fun n => (tied n).2⟩
    simp [Ordered, inner, first, second]
  refine ⟨?_, same _ fun n => (tied n).1⟩
  rw [names, ← unique _ order]
  rfl

end Chain

end AccessLog
