import AccessLog.Diagnostic
import Mathlib.Data.List.Induction
import Mathlib.Data.List.Nodup

/-!
# Guards that overlap

A guard is a value: it may be dropped while younger ones under the same key are alive. What a key should show is the
value of the youngest guard under it, or what was there before them all where none is alive. But each guard knows only
what it has replaced, so that holds throughout exactly if every drop brings the key back to where the creation of the
guard found it. Where the youngest is always dropped first it does, and where the values differ nothing else does.
-/

namespace AccessLog

namespace Diagnostic

/-- What happens to the guards of one thread. They are numbered in the order of their creation. -/
inductive GuardEvent where
  | create (key value : String)
  | drop (number : Nat)
  deriving DecidableEq, Repr

structure Holder where
  number : Nat
  value : String
  guard : Guard
  deriving DecidableEq, Repr

/-- The context of a thread with the guards that are alive, the youngest first. -/
structure Guarded where
  context : Context
  alive : List Holder := []
  made : Nat := 0

namespace Guarded

/-- A guard is dropped once; there is nothing to drop any more when that is over. -/
def next (g : Guarded) : GuardEvent → Guarded
  | .create key value =>
    let (guard, context) := g.context.enter key value
    { context, alive := ⟨g.made, value, guard⟩ :: g.alive, made := g.made + 1 }
  | .drop number =>
    match g.alive.find? (·.number = number) with
    | some h =>
      { g with context := g.context.release h.guard, alive := g.alive.filter (·.number ≠ number) }
    | none => g

def run (c : Context) (events : List GuardEvent) : Guarded := events.foldl next { context := c }

/-- The guards under a key that are alive, the youngest first. -/
def under (g : Guarded) (key : String) : List Holder := g.alive.filter (·.guard.key = key)

end Guarded

open Guarded (run)

/-- What the key should show after the events. -/
def due (c : Context) (events : List GuardEvent) (key : String) : Option String :=
  (((run c events).under key).head?.map (·.value)).or (c.get key)

def creations (events : List GuardEvent) : List (String × String) :=
  events.filterMap fun
    | .create key value => some (key, value)
    | .drop _ => none

/-- At every moment the key shows what it should. -/
def Shown (c : Context) (events : List GuardEvent) (key : String) : Prop :=
  ∀ moment, moment <+: events → (run c moment).context.get key = due c moment key

/-- Whenever a guard of the key is dropped, what the key should show is again what it should have shown before the
creation of the guard. -/
def Returns (c : Context) (events : List GuardEvent) (key : String) : Prop :=
  ∀ before value between rest,
    let number := (creations before).length
    events = before ++ .create key value :: (between ++ .drop number :: rest) → .drop number ∉ between →
    due c (before ++ .create key value :: (between ++ [.drop number])) key = due c before key

/-- Of the guards of the key only the youngest is dropped. -/
def YoungestFirst (c : Context) (events : List GuardEvent) (key : String) : Prop :=
  ∀ before rest h, events = before ++ .drop h.number :: rest → h ∈ (run c before).under key →
    ((run c before).under key).head? = some h

/-- Each guard of the key has a value of its own, which is not what was there before. -/
def Apart (c : Context) (events : List GuardEvent) (key : String) : Prop :=
  (∀ (i j : Nat) value, (creations events)[i]? = some (key, value) → (creations events)[j]? = some (key, value) → i = j) ∧
    ∀ value, (key, value) ∈ creations events → c.get key ≠ some value

/-- Where a guard that is alive comes from. -/
def Origin (c : Context) (events : List GuardEvent) (h : Holder) : Prop :=
  ∃ before between, events = before ++ .create h.guard.key h.value :: between ∧
    (creations before).length = h.number ∧ .drop h.number ∉ between ∧
    h.guard.previous = (run c before).context.get h.guard.key

structure Accounted (c : Context) (events : List GuardEvent) : Prop where
  made_eq : (run c events).made = (creations events).length
  descending : (run c events).alive.Pairwise fun a b => b.number < a.number
  origin : ∀ h ∈ (run c events).alive, Origin c events h

section

variable {c : Context} {events : List GuardEvent} {key value : String} {number : Nat} {h : Holder}

theorem run_concat (c : Context) (events : List GuardEvent) (e : GuardEvent) :
    run c (events ++ [e]) = (run c events).next e := by
  rw [run, List.foldl_append]
  rfl

theorem creations_append (a b : List GuardEvent) : creations (a ++ b) = creations a ++ creations b :=
  List.filterMap_append

theorem Origin.created (ho : Origin c events h) :
    (creations events)[h.number]? = some (h.guard.key, h.value) := by
  obtain ⟨before, between, rfl, hn, -, -⟩ := ho
  rw [creations_append, ← hn, List.getElem?_append_right (Nat.le_refl _), Nat.sub_self]
  rfl

theorem Origin.number_lt (ho : Origin c events h) : h.number < (creations events).length :=
  (List.getElem?_eq_some_iff.mp ho.created).1

theorem Origin.concat (ho : Origin c events h) {e : GuardEvent} (he : e ≠ .drop h.number) :
    Origin c (events ++ [e]) h := by
  obtain ⟨before, between, rfl, hn, hd, hp⟩ := ho
  refine ⟨before, between ++ [e], by simp, hn, ?_, hp⟩
  rw [List.mem_append, List.mem_singleton]
  rintro (hb | hb)
  · exact hd hb
  · exact he hb.symm

theorem next_drop_cases (g : Guarded) (number : Nat) :
    (g.next (.drop number) = g ∧ ∀ h ∈ g.alive, h.number ≠ number) ∨
    ∃ h ∈ g.alive, h.number = number ∧ g.next (.drop number) =
      { g with context := g.context.release h.guard, alive := g.alive.filter (·.number ≠ number) } := by
  cases hf : g.alive.find? (·.number = number) with
  | none =>
    refine .inl ⟨by simp [Guarded.next, hf], ?_⟩
    intro h hm hn
    have := List.find?_eq_none.mp hf h hm
    simp [hn] at this
  | some h =>
    have hn := List.find?_some hf
    exact .inr ⟨h, List.mem_of_find?_eq_some hf, by simpa using hn, by simp [Guarded.next, hf]⟩

theorem accounted (c : Context) (events : List GuardEvent) : Accounted c events := by
  induction events using List.reverseRecOn with
  | nil => exact ⟨rfl, .nil, fun h hm => nomatch hm⟩
  | append_singleton events e ih =>
    cases e with
    | create key value =>
      have made : (run c events).made = (creations events).length := ih.made_eq
      constructor
      · rw [run_concat, creations_append, List.length_append, ← made]
        rfl
      · rw [run_concat]
        refine List.pairwise_cons.mpr ⟨fun h hm => ?_, ih.descending⟩
        rw [made]
        exact (ih.origin h hm).number_lt
      · intro h hm
        rw [run_concat] at hm
        rcases List.mem_cons.mp hm with rfl | hm
        · exact ⟨events, [], rfl, made.symm, List.not_mem_nil, rfl⟩
        · exact (ih.origin h hm).concat nofun
    | drop number =>
      have same : creations (events ++ [.drop number]) = creations events := by
        rw [creations_append]
        exact List.append_nil _
      rcases next_drop_cases (run c events) number with ⟨stay, other⟩ | ⟨h, -, -, left⟩
      · rw [← run_concat] at stay
        refine ⟨by rw [stay, same, ih.made_eq], by rw [stay]; exact ih.descending, fun h hm => ?_⟩
        rw [stay] at hm
        refine (ih.origin h hm).concat fun hd => other h hm ?_
        exact (GuardEvent.drop.inj hd).symm
      · rw [← run_concat] at left
        refine ⟨by rw [left, same, ← ih.made_eq], ?_, fun h hm => ?_⟩
        · rw [left]
          exact ih.descending.filter _
        · rw [left] at hm
          obtain ⟨hm, hn⟩ := List.mem_filter.mp hm
          refine (ih.origin h hm).concat fun hd => ?_
          simp [GuardEvent.drop.inj hd] at hn

theorem number_inj {a b : Holder} (ha : a ∈ (run c events).alive) (hb : b ∈ (run c events).alive)
    (hn : a.number = b.number) : a = b := by
  have apart : ((run c events).alive.map (·.number)).Nodup :=
    List.pairwise_map.mpr ((accounted c events).descending.imp Nat.ne_of_gt)
  exact List.inj_on_of_nodup_map apart ha hb hn

theorem mem_under {g : Guarded} : h ∈ g.under key ↔ h ∈ g.alive ∧ h.guard.key = key := by
  rw [Guarded.under, List.mem_filter, decide_eq_true_eq]

theorem descending_under (c : Context) (events : List GuardEvent) (key : String) :
    ((run c events).under key).Pairwise fun a b => b.number < a.number :=
  (accounted c events).descending.filter _

theorem under_concat_create (c : Context) (events : List GuardEvent) (value : String) :
    (run c (events ++ [.create key value])).under key =
      ⟨(creations events).length, value, ⟨key, (run c events).context.get key⟩⟩ :: (run c events).under key := by
  rw [run_concat, ← (accounted c events).made_eq]
  exact List.filter_cons_of_pos (decide_eq_true rfl)

theorem under_concat_create_of_ne {other : String} (c : Context) (events : List GuardEvent) (value : String)
    (hk : other ≠ key) : (run c (events ++ [.create other value])).under key = (run c events).under key := by
  rw [run_concat]
  exact List.filter_cons_of_neg (by simpa using hk)

theorem under_filter_of_ne (hm : h ∈ (run c events).alive) (hk : h.guard.key ≠ key) :
    ((run c events).alive.filter (·.number ≠ h.number)).filter (·.guard.key = key) =
      (run c events).under key := by
  rw [List.filter_filter]
  apply List.filter_congr
  intro x hx
  by_cases hn : x.number = h.number
  · obtain rfl := number_inj hx hm hn
    simp [hk]
  · simp [hn]

theorem filter_youngest {others : List Holder} (hu : (run c events).under key = h :: others) :
    ((run c events).under key).filter (·.number ≠ h.number) = others := by
  have below := (List.pairwise_cons.mp (hu ▸ descending_under c events key)).1
  rw [hu, List.filter_cons_of_neg (by simp)]
  apply List.filter_eq_self.mpr
  intro x hx
  exact decide_eq_true (Nat.ne_of_lt (below x hx))

/-- All that a drop can mean for a key: nothing, or that one of its guards is gone and what it replaced is back. -/
theorem concat_drop_cases (c : Context) (events : List GuardEvent) (number : Nat) (key : String) :
    let after := run c (events ++ [.drop number])
    (after.under key = (run c events).under key ∧ after.context.get key = (run c events).context.get key ∧
      ∀ h ∈ (run c events).under key, h.number ≠ number) ∨
    ∃ h ∈ (run c events).under key, h.number = number ∧
      after.under key = ((run c events).under key).filter (·.number ≠ number) ∧
      after.context.get key = h.guard.previous := by
  intro after
  have step : after = (run c events).next (.drop number) := run_concat ..
  rcases next_drop_cases (run c events) number with ⟨stay, other⟩ | ⟨h, hm, rfl, left⟩
  · rw [step, stay]
    exact .inl ⟨rfl, rfl, fun h hu => other h (mem_under.mp hu).1⟩
  · rw [step, left]
    by_cases hk : h.guard.key = key
    · refine .inr ⟨h, mem_under.mpr ⟨hm, hk⟩, rfl, List.filter_comm .., ?_⟩
      rw [← hk]
      exact Context.get_release_self ..
    · refine .inl ⟨under_filter_of_ne hm hk, Context.get_release_of_ne _ _ (Ne.symm hk), ?_⟩
      intro x hx hn
      obtain ⟨hx, hxk⟩ := mem_under.mp hx
      exact hk (number_inj hx hm hn ▸ hxk)

theorem due_congr {a b : List GuardEvent} (hu : (run c a).under key = (run c b).under key) :
    due c a key = due c b key := by
  rw [due, due, hu]

theorem due_of_head? (hh : ((run c events).under key).head? = some h) : due c events key = some h.value := by
  rw [due, hh]
  rfl

theorem mem_under_of_undropped (c : Context) (key value : String) {before between : List GuardEvent}
    (hd : .drop (creations before).length ∉ between) :
    ⟨(creations before).length, value, ⟨key, (run c before).context.get key⟩⟩ ∈
      (run c (before ++ .create key value :: between)).under key := by
  induction between using List.reverseRecOn with
  | nil =>
    rw [under_concat_create]
    exact List.mem_cons_self
  | append_singleton between e ih =>
    rw [List.mem_append, List.mem_singleton, not_or] at hd
    have held := ih hd.1
    rw [← List.cons_append, ← List.append_assoc]
    cases e with
    | create other value =>
      by_cases hk : other = key
      · subst hk
        rw [under_concat_create]
        exact List.mem_cons_of_mem _ held
      · rw [under_concat_create_of_ne _ _ _ hk]
        exact held
    | drop number =>
      rcases concat_drop_cases c (before ++ .create key value :: between) number key with
        ⟨same, -, -⟩ | ⟨h, -, -, left, -⟩
      · rw [same]
        exact held
      · rw [left, List.mem_filter]
        refine ⟨held, decide_eq_true fun hn => hd.2 ?_⟩
        exact congrArg GuardEvent.drop hn

/-- In whatever order guards are dropped, a drop takes the key to what it showed when the guard was created. -/
theorem get_of_dropped {before between : List GuardEvent} (hd : .drop (creations before).length ∉ between) :
    (run c (before ++ .create key value :: (between ++ [.drop (creations before).length]))).context.get key =
      (run c before).context.get key := by
  have held := mem_under_of_undropped c key value hd
  rw [← List.cons_append, ← List.append_assoc]
  rcases concat_drop_cases c (before ++ .create key value :: between) (creations before).length key with
    ⟨-, -, other⟩ | ⟨h, hm, hn, -, back⟩
  · exact absurd rfl (other _ held)
  · rw [back, number_inj (mem_under.mp hm).1 (mem_under.mp held).1 hn]

theorem Shown.returns (hs : Shown c events key) : Returns c events key := by
  intro before value between rest number he hd
  have start : before <+: events := ⟨_, he.symm⟩
  have dropped : before ++ .create key value :: (between ++ [.drop number]) <+: events := ⟨rest, by simp [he]⟩
  rw [← hs _ start, ← hs _ dropped]
  exact get_of_dropped hd

theorem Returns.of_prefix {later : List GuardEvent} (hr : Returns c (events ++ later) key) :
    Returns c events key := by
  intro before value between rest number he hd
  apply hr before value between (rest ++ later)
  · rw [he]
    simp [number]
  · exact hd

theorem Returns.shown (hr : Returns c events key) : Shown c events key := by
  induction events using List.reverseRecOn with
  | nil =>
    intro moment hm
    rw [List.prefix_nil.mp hm]
    rfl
  | append_singleton events e ih =>
    have earlier := ih hr.of_prefix
    intro moment hm
    rcases List.prefix_concat_iff.mp hm with rfl | hm
    · have last := earlier events (List.prefix_refl _)
      cases e with
      | create other value =>
        by_cases hk : other = key
        · subst hk
          rw [due, under_concat_create, run_concat]
          exact Context.get_put_self ..
        · rw [due_congr (under_concat_create_of_ne c events value hk), ← last, run_concat]
          exact Context.get_put_of_ne _ _ (Ne.symm hk)
      | drop number =>
        rcases concat_drop_cases c events number key with ⟨same, stay, -⟩ | ⟨h, held, rfl, -, back⟩
        · rw [due_congr same, ← last, stay]
        · obtain ⟨ha, rfl⟩ := mem_under.mp held
          obtain ⟨before, between, he, hn, hd, hp⟩ := (accounted c events).origin h ha
          have returned := hr before h.value between [] (by rw [he, hn]; simp) (hn ▸ hd)
          have began := earlier before ⟨_, he.symm⟩
          rw [back, hp, began, ← returned, he, hn]
          simp
    · exact earlier moment hm

theorem YoungestFirst.under_suffix {before between rest : List GuardEvent} (hy : YoungestFirst c events key)
    (he : events = before ++ .create key value :: (between ++ rest))
    (hd : .drop (creations before).length ∉ between) :
    (⟨(creations before).length, value, ⟨key, (run c before).context.get key⟩⟩ :: (run c before).under key) <:+
      (run c (before ++ .create key value :: between)).under key := by
  induction between using List.reverseRecOn generalizing rest with
  | nil => exact ⟨[], (under_concat_create c before value).symm⟩
  | append_singleton between e ih =>
    rw [List.mem_append, List.mem_singleton, not_or] at hd
    have parts : events = before ++ .create key value :: (between ++ e :: rest) := by
      rw [he]
      simp
    have stands := ih parts hd.1
    rw [← List.cons_append, ← List.append_assoc]
    cases e with
    | create other later =>
      by_cases hk : other = key
      · subst hk
        rw [under_concat_create]
        exact stands.trans (List.suffix_cons ..)
      · rw [under_concat_create_of_ne _ _ _ hk]
        exact stands
    | drop number =>
      rcases concat_drop_cases c (before ++ .create key value :: between) number key with
        ⟨same, -, -⟩ | ⟨h, hm, rfl, left, -⟩
      · rw [same]
        exact stands
      · have youngest := hy (before ++ .create key value :: between) rest h (by rw [he]; simp) hm
        obtain ⟨others, hu⟩ := List.head?_eq_some_iff.mp youngest
        rw [left, filter_youngest hu]
        rw [hu] at stands
        rcases List.suffix_cons_iff.mp stands with hh | hs
        · exact absurd (congrArg GuardEvent.drop (congrArg Holder.number (List.cons.inj hh).1)) hd.2
        · exact hs

theorem YoungestFirst.returns (hy : YoungestFirst c events key) : Returns c events key := by
  intro before value between rest number he hd
  let created : Holder := ⟨number, value, ⟨key, (run c before).context.get key⟩⟩
  let held := before ++ .create key value :: between
  have hm : created ∈ (run c held).under key := mem_under_of_undropped c key value hd
  have youngest := hy held rest created (by rw [he]; simp [held, created]) hm
  obtain ⟨others, hu⟩ := List.head?_eq_some_iff.mp youngest
  have stands : (created :: (run c before).under key) <:+ (run c held).under key := hy.under_suffix he hd
  rw [hu] at stands
  have found : (run c before).under key = others := by
    rcases List.suffix_cons_iff.mp stands with hh | hs
    · exact (List.cons.inj hh).2
    · have below := (List.pairwise_cons.mp (hu ▸ descending_under c held key)).1
      exact absurd (below created (hs.subset List.mem_cons_self)) (Nat.lt_irrefl number)
  apply due_congr
  rw [found, ← List.cons_append, ← List.append_assoc]
  rcases concat_drop_cases c held number key with ⟨-, -, other⟩ | ⟨h, -, -, left, -⟩
  · exact absurd rfl (other created hm)
  · rw [left]
    exact filter_youngest hu

theorem created_of_under {moment : List GuardEvent} (hp : moment <+: events) (hm : h ∈ (run c moment).under key) :
    (creations events)[h.number]? = some (key, h.value) := by
  obtain ⟨later, rfl⟩ := hp
  obtain ⟨ha, rfl⟩ := mem_under.mp hm
  have origin := (accounted c moment).origin h ha
  rw [creations_append, List.getElem?_append_left origin.number_lt]
  exact origin.created

theorem due_of_elder_dropped {youngest : Holder} {elders : List Holder}
    (hu : (run c events).under key = youngest :: elders) (hm : h ∈ elders) :
    due c (events ++ [.drop h.number]) key = some youngest.value := by
  have older : h.number < youngest.number := (List.pairwise_cons.mp (hu ▸ descending_under c events key)).1 h hm
  rcases concat_drop_cases c events h.number key with ⟨-, -, other⟩ | ⟨_, -, -, left, -⟩
  · exact absurd rfl (other h (hu ▸ List.mem_cons_of_mem _ hm))
  · apply due_of_head?
    rw [left, hu, List.filter_cons_of_pos (by simpa using Nat.ne_of_gt older), List.head?_cons]

theorem due_cases (c : Context) (events : List GuardEvent) (key : String) :
    due c events key = c.get key ∨ ∃ h ∈ (run c events).under key, due c events key = some h.value := by
  cases hu : (run c events).under key with
  | nil =>
    left
    rw [due, hu]
    rfl
  | cons h elders =>
    right
    refine ⟨h, List.mem_cons_self, due_of_head? ?_⟩
    rw [hu, List.head?_cons]

theorem Shown.youngestFirst (hs : Shown c events key) (ha : Apart c events key) : YoungestFirst c events key := by
  intro held rest h he hm
  have now : held <+: events := ⟨_, he.symm⟩
  obtain ⟨y, elders, hu⟩ := List.exists_cons_of_ne_nil (List.ne_nil_of_mem hm)
  rw [hu, List.head?_cons]
  rcases List.mem_cons.mp (hu ▸ hm) with rfl | hold
  · rfl
  have older : h.number < y.number := (List.pairwise_cons.mp (hu ▸ descending_under c held key)).1 h hold
  have made := created_of_under now (hu ▸ List.mem_cons_self : y ∈ (run c held).under key)
  obtain ⟨hl, hk⟩ := mem_under.mp hm
  obtain ⟨before, between, hb, hn, hd, -⟩ := (accounted c held).origin h hl
  rw [hk] at hb
  have returned := hs.returns before h.value between rest (by rw [he, hb, hn]; simp) (hn ▸ hd)
  -- The value of the youngest is due when the older one is gone, but nothing could show it before that was created.
  have found : due c before key = some y.value := by
    rw [← returned, ← due_of_elder_dropped hu hold, hb, hn]
    simp
  have start : before <+: events := by
    refine List.IsPrefix.trans ?_ now
    rw [hb]
    exact List.prefix_append ..
  rcases due_cases c before key with bare | ⟨x, hx, shows⟩
  · rw [bare] at found
    exact absurd found (ha.2 y.value (List.mem_of_getElem? made))
  · have same : x.value = y.value := Option.some.inj (shows.symm.trans found)
    have number := ha.1 x.number y.number y.value (same ▸ created_of_under start hx) made
    have early := ((accounted c before).origin x (mem_under.mp hx).1).number_lt
    omega

end

/-- Whatever the order, a drop takes its key back to what it showed when the guard was created. So a key shows what it
should throughout exactly if every drop returns; it does where the youngest is dropped first, and then what was there
before is back in the end. Guards with values of their own must be dropped in that order. -/
theorem shown_iff_returns (c : Context) (events : List GuardEvent) (key : String) :
    (∀ before value between, .drop (creations before).length ∉ between →
      (run c (before ++ .create key value :: (between ++ [.drop (creations before).length]))).context.get key =
        (run c before).context.get key) ∧
    (Shown c events key ↔ Returns c events key) ∧
    (YoungestFirst c events key →
      Shown c events key ∧ ((run c events).under key = [] → (run c events).context.get key = c.get key)) ∧
    (Apart c events key → (Shown c events key ↔ YoungestFirst c events key)) := by
  refine ⟨fun _ _ _ => get_of_dropped, ⟨Shown.returns, Returns.shown⟩, ?_, ?_⟩
  · intro hy
    refine ⟨hy.returns.shown, fun none => ?_⟩
    rw [hy.returns.shown events (List.prefix_refl events), due, none]
    rfl
  · intro ha
    exact ⟨fun hs => hs.youngestFirst ha, fun hy => hy.returns.shown⟩

theorem youngestFirst_iff {c : Context} {events : List GuardEvent} {key : String} :
    YoungestFirst c events key ↔ ∀ i : Fin events.length, ∀ h ∈ (run c (events.take i)).under key,
      events[i] = .drop h.number → ((run c (events.take i)).under key).head? = some h := by
  constructor
  · intro hy i h hm he
    apply hy (events.take i) (events.drop (i + 1)) h
    · rw [← he]
      simp
    · exact hm
  · rintro hy before rest h rfl hm
    have first : before.length < (before ++ GuardEvent.drop h.number :: rest).length := by simp
    have found := hy ⟨before.length, first⟩ h
    simp only [List.take_left, Fin.getElem_fin] at found
    exact found hm (by simp)

instance (c : Context) (events : List GuardEvent) (key : String) : Decidable (YoungestFirst c events key) :=
  decidable_of_iff _ youngestFirst_iff.symm

/-- Guards of two keys that overlap crosswise, each key with its youngest dropped first. -/
theorem shown_iff_returns_crossed :
    let c := Context.empty.put "user" "0"
    let events : List GuardEvent :=
      [.create "user" "1", .create requestIdKey "1", .create "user" "2", .drop 1, .drop 2, .drop 0]
    (run c (events.take 4)).context.get "user" = some "2" ∧ (run c (events.take 5)).context.get "user" = some "1" ∧
    (run c events).context.get "user" = some "0" := by
  intro c events
  have first : YoungestFirst c events "user" := by decide
  obtain ⟨shown, back⟩ := (shown_iff_returns c events "user").2.2.1 first
  exact ⟨shown _ (List.take_prefix 4 events), shown _ (List.take_prefix 5 events), back (by decide)⟩

/-- The older of two guards is dropped first: the value of the younger is gone while that is alive, and when both are
gone, that of the older is back for good. -/
theorem elder_dropped_first :
    let events : List GuardEvent := [.create requestIdKey "1", .create requestIdKey "2", .drop 0, .drop 1]
    let between := run .empty (events.take 3)
    let after := run .empty events
    between.alive.map (·.value) = ["2"] ∧ between.context.get requestIdKey = none ∧
    after.alive = [] ∧ after.context.get requestIdKey = some "1" ∧
    ¬ Shown .empty events requestIdKey := by
  intro events between after
  refine ⟨rfl, rfl, rfl, rfl, fun shown => ?_⟩
  have last := shown events (List.prefix_refl events)
  exact absurd last (by decide)

end Diagnostic

end AccessLog
