import AccessLog.Host
import AccessLog.Proofs.Correlation
import AccessLog.Proofs.Stations

/-!
# Exchanges are the same with and without logging

Two hosts have the same hooks except that either may log, with pipelines of its own and at any places in its chain.
They get the same request, perhaps at different moments, and would give out the same new identifiers. What they send
is the same, except for the counters where they are asked for.
-/

namespace AccessLog

variable {σ υ τ : Type}

section Contexts

variable {c d : Context}

theorem Context.Agree.symm (h : c.Agree d) : d.Agree c := fun key hk => (h key hk).symm

theorem Context.Agree.set {α : Type} [Keepable α] (h : c.Agree d) (key : String) (a : α) :
    (c.set key a).Agree (d.set key a) := by
  intro other ho
  rw [lookup_set, lookup_set]
  by_cases hk : other = key
  · rw [if_pos hk, if_pos hk]
  · rw [if_neg hk, if_neg hk]
    exact h other ho

theorem Context.Agree.set_log (h : c.Agree d) (req : Request) :
    (c.set RequestLogHook.key req).Agree d := by
  intro other ho
  rw [lookup_set, if_neg ho]
  exact h other ho

theorem Context.Agree.get?_identifier (h : c.Agree d) {key : String} (hk : key ≠ RequestLogHook.key) :
    c.get? Uuid key = d.get? Uuid key := by
  have timeless (kept : Option Kept) :
      kept.bind (Keepable.find? : Kept → Option Uuid) = (kept.map Kept.timeless).bind Keepable.find? := by
    rcases kept with _ | kept
    · rfl
    · cases kept <;> rfl
  calc c.get? Uuid key
    _ = ((c.entries.lookup key).map Kept.timeless).bind Keepable.find? := timeless _
    _ = ((d.entries.lookup key).map Kept.timeless).bind Keepable.find? := by rw [h key hk]
    _ = d.get? Uuid key := (timeless _).symm

theorem Context.Dated.set_of_ne {α : Type} [Keepable α] (h : c.Dated) {key : String} (a : α)
    (hk : RequestLogHook.key ≠ key) : (c.set key a).Dated := by
  intro req hr
  rw [get?_set_of_ne c a hk] at hr
  exact h req hr

theorem Context.dated_set_log {req : Request} (c : Context) (hr : req.receivedAt.inCalendar = true) :
    (c.set RequestLogHook.key req).Dated := by
  intro other ho
  rw [get?_set_self] at ho
  obtain rfl := Option.some.inj ho
  exact hr

end Contexts

/-- Two exchanges under way, each with what was kept and with its scene. -/
structure Alongside (c : Context) (s : Scene (σ × τ)) (d : Context) (s' : Scene (υ × τ)) : Prop where
  agree : c.Agree d
  left_dated : c.Dated
  right_dated : d.Dated
  ids : s.requestIds.Alike s'.requestIds
  own_eq : s.own.2 = s'.own.2

section Requests

variable {c d : Context} {s : Scene (σ × τ)} {s' : Scene (υ × τ)} {req req' : Request} {whole : Bool}

theorem Alongside.symm (h : Alongside c s d s') : Alongside d s' c s where
  agree := h.agree.symm
  left_dated := h.right_dated
  right_dated := h.left_dated
  ids n := (h.ids n).symm
  own_eq := h.own_eq.symm

theorem Alongside.log (h : Alongside c s d s') (p : Pipeline (σ × τ))
    (hr : req.receivedAt.inCalendar = true) :
    let left := (RequestLogHook.hook p).onRequest req c s
    Alongside left.1 left.2 d s' where
  agree := h.agree.set_log req
  left_dated := c.dated_set_log hr
  right_dated := h.right_dated
  ids := h.ids
  own_eq := h.own_eq

theorem resolve_alike (hh : req.headers = req'.headers) (hs : s.requestIds.Alike s'.requestIds) :
    let found := RequestIdHook.resolve req s
    let found' := RequestIdHook.resolve req' s'
    found.1 = found'.1 ∧ found.2.requestIds.Alike found'.2.requestIds ∧
      found.2.own = s.own ∧ found'.2.own = s'.own := by
  have fresh : s.requestIds.next.1 = s'.requestIds.next.1 := hs 0
  have later : s.requestIds.next.2.Alike s'.requestIds.next.2 := by
    intro n
    have := hs (1 + n)
    rwa [← Nat.add_assoc, ← Nat.add_assoc] at this
  unfold RequestIdHook.resolve
  rw [hh]
  generalize RequestId.parse (req'.headers.lookup HeaderName.requestId.text) = parsed
  rcases parsed with e | _ | id
  · exact ⟨fresh, later, rfl, rfl⟩
  · exact ⟨fresh, later, rfl, rfl⟩
  · exact ⟨rfl, hs, rfl, rfl⟩

theorem Alongside.identify (h : Alongside c s d s') (hh : req.headers = req'.headers) :
    let left := RequestIdHook.hook.onRequest req c s
    let right := RequestIdHook.hook.onRequest req' d s'
    Alongside left.1 left.2 right.1 right.2 := by
  obtain ⟨hid, hids, hown, hown'⟩ := resolve_alike hh h.ids
  have hk : RequestLogHook.key ≠ RequestIdHook.key := by decide
  have agree : (c.set RequestIdHook.key (RequestIdHook.resolve req s).1).Agree
      (d.set RequestIdHook.key (RequestIdHook.resolve req' s').1) := by
    rw [hid]
    exact h.agree.set RequestIdHook.key _
  exact
    { agree := agree
      left_dated := h.left_dated.set_of_ne _ hk
      right_dated := h.right_dated.set_of_ne _ hk
      ids := hids
      own_eq := (congrArg (·.2) hown).trans (h.own_eq.trans (congrArg (·.2) hown').symm) }

theorem Alongside.other {h : Hook τ} (hh : h.Unaware whole) (ha : Alongside c s d s')
    (hr : req.receivedAt.inCalendar = true) (hr' : req'.receivedAt.inCalendar = true)
    (ht : req.timeless = req'.timeless) :
    let left := h.beside.onRequest req c s
    let right := h.beside.onRequest req' d s'
    Alongside left.1 left.2 right.1 right.2 := by
  have step : (h.onRequest req c s.own.2).1.Agree (h.onRequest req' d s'.own.2).1 ∧
      (h.onRequest req c s.own.2).2 = (h.onRequest req' d s'.own.2).2 := by
    rw [← ha.own_eq]
    exact hh.on_request s.own.2 ht ha.agree
  obtain ⟨agree, own⟩ := step
  exact
    { agree := agree
      left_dated := hh.dated _ hr ha.left_dated
      right_dated := hh.dated _ hr' ha.right_dated
      ids := ha.ids
      own_eq := own }

theorem requestThrough_alongside {l : List (Station σ τ)} {l' : List (Station υ τ)}
    (hl : Station.Alike whole l l') (hr : req.receivedAt.inCalendar = true)
    (hr' : req'.receivedAt.inCalendar = true) (ht : req.timeless = req'.timeless)
    (h : Alongside c s d s') :
    let left := Chain.requestThrough req (l.map Station.hook) c s
    let right := Chain.requestThrough req' (l'.map Station.hook) d s'
    Alongside left.1 left.2 right.1 right.2 := by
  induction hl generalizing c s d s' with
  | nil => exact h
  | identified _ ih => exact ih (h.identify (congrArg (·.headers) ht))
  | others hh _ ih => exact ih (h.other hh hr hr' ht)
  | @left _ _ p _ _ ih => exact ih (h.log p hr)
  | @right _ _ p _ _ ih => exact ih (h.symm.log p hr').symm

end Requests

section Responses

variable {c d : Context} {s : Scene (σ × τ)} {s' : Scene (υ × τ)} {a b : Response} {whole : Bool}

theorem Response.Alike.refl (whole : Bool) (a : Response) : a.Alike whole a := ⟨rfl, rfl, fun _ => rfl⟩

theorem Response.Alike.withHeader (h : a.Alike whole b) (name value : String) :
    (a.withHeader name value).Alike whole (b.withHeader name value) where
  status_eq := h.status_eq
  headers_eq := congrArg (Headers.insertText · name value) h.headers_eq
  whole_eq hw := by rw [h.whole_eq hw]

theorem Response.Alike.stamp (h : a.Alike whole b) (hc : c.Agree d) :
    (RequestIdHook.stamp a c).Alike whole (RequestIdHook.stamp b d) := by
  have hk : RequestIdHook.key ≠ RequestLogHook.key := by decide
  unfold RequestIdHook.stamp
  rw [h.headers_eq, hc.get?_identifier hk]
  by_cases hp : b.headers.contains HeaderName.requestId = true
  · rw [if_pos hp, if_pos hp]
    exact h
  · rw [if_neg hp, if_neg hp]
    cases d.get? Uuid RequestIdHook.key with
    | none => exact h
    | some id =>
      exact
        { status_eq := h.status_eq
          headers_eq := rfl
          whole_eq := fun hw => by rw [h.whole_eq hw] }

theorem Pipeline.Quiet.passes {p : Pipeline (σ × τ)} (hp : p.Quiet) (hc : c.Dated) (res : Response)
    (s : Scene (σ × τ)) :
    (RequestLogHook.onResponse p res c s).1 = some res ∧
      (RequestLogHook.onResponse p res c s).2.own.2 = s.own.2 := by
  cases hk : c.get? Request RequestLogHook.key with
  | none =>
    rw [RequestLogHook.onResponse_of_not_kept p res s hk]
    exact ⟨rfl, rfl⟩
  | some req =>
    rw [RequestLogHook.onResponse_of_kept p res s hk]
    cases hl : p.blacklist.shouldLog req.path with
    | false =>
      rw [Pipeline.log_of_blacklisted res s hl]
      exact ⟨rfl, congrArg (·.2) (p.countIf_own _ s)⟩
    | true =>
      obtain ⟨e, start, -, -, ho, ha, hb⟩ := p.log_ok res hl (hc req hk) (.inr (hp.clock_dated s.own))
      rw [ha, hb, hp.sink_returned, hp.sink_apart, ho, hp.clock_apart]
      exact ⟨rfl, rfl⟩

theorem Hook.Unaware.beside_response {h : Hook τ} (hh : h.Unaware whole) (hab : a.Alike whole b)
    (hc : c.Agree d) (ho : s.own.2 = s'.own.2) :
    Option.Rel (Response.Alike whole) (h.beside.onResponse a c s).1 (h.beside.onResponse b d s').1 ∧
      (h.beside.onResponse a c s).2.own.2 = (h.beside.onResponse b d s').2.own.2 := by
  change Option.Rel _ (h.onResponse a c s.own.2).1 (h.onResponse b d s'.own.2).1 ∧
    (h.onResponse a c s.own.2).2 = (h.onResponse b d s'.own.2).2
  rw [← ho]
  exact hh.on_response s.own.2 hab hc

theorem rel_cases {α β : Type} {r : α → β → Prop} {x : Option α} {y : Option β} (h : Option.Rel r x y) :
    (x = none ∧ y = none) ∨ ∃ a b, x = some a ∧ y = some b ∧ r a b := by
  cases h with
  | none => exact .inl ⟨rfl, rfl⟩
  | some h => exact .inr ⟨_, _, rfl, rfl, h⟩

/-- Two hosts do alike with two responses that are alike. -/
theorem responseThrough_alike {l : List (Station σ τ)} {l' : List (Station υ τ)}
    (hl : Station.Alike whole l l') (hc : c.Agree d) (hd : c.Dated) (hd' : d.Dated)
    (hab : a.Alike whole b) (ho : s.own.2 = s'.own.2) :
    Option.Rel (Response.Alike whole) (Chain.responseThrough c (l.map Station.hook) a s).1
      (Chain.responseThrough d (l'.map Station.hook) b s').1 := by
  induction hl generalizing a b s s' with
  | nil => exact .some hab
  | identified _ ih => exact ih (hab.stamp hc) ho
  | @others l l' h hh _ ih =>
    obtain ⟨answers, own⟩ := hh.beside_response hab hc ho
    rw [List.map_cons, List.map_cons, Station.hook, Station.hook]
    rcases rel_cases answers with ⟨ha, hb⟩ | ⟨a', b', ha, hb, h'⟩
    · rw [Chain.responseThrough_of_none _ ha, Chain.responseThrough_of_none _ hb]
      exact .none
    · rw [Chain.responseThrough_of_some _ ha, Chain.responseThrough_of_some _ hb]
      exact ih h' own
  | @left l l' p hp _ ih =>
    obtain ⟨hr, hown⟩ := hp.passes hd a s
    have hr : ((Station.log p).hook.onResponse a c s).1 = some a := hr
    rw [List.map_cons, Chain.responseThrough_of_some _ hr]
    exact ih hab (hown.trans ho)
  | @right l l' p hp _ ih =>
    obtain ⟨hr, hown⟩ := hp.passes hd' b s'
    have hr : ((Station.log p).hook.onResponse b d s').1 = some b := hr
    rw [List.map_cons, Chain.responseThrough_of_some _ hr]
    exact ih hab (ho.trans hown.symm)

end Responses

def Station.Returns : Station σ τ → Prop
  | other h => ∀ res ctx own, (h.onResponse res ctx own).1.isSome = true
  | identify | log _ => True

theorem Station.Alike.quiet {l : List (Station σ τ)} {l' : List (Station υ τ)} {whole : Bool}
    (h : Alike whole l l') : ∀ p, log p ∈ l → p.Quiet := by
  induction h with
  | nil => exact fun p hp => nomatch hp
  | identified _ ih => exact fun p hp => ih p ((List.mem_cons.mp hp).resolve_left nofun)
  | others _ _ ih => exact fun p hp => ih p ((List.mem_cons.mp hp).resolve_left nofun)
  | left hq _ ih =>
    intro p hp
    rcases List.mem_cons.mp hp with he | hp
    · cases he
      exact hq
    · exact ih p hp
  | right _ _ ih => exact ih

theorem Station.Returns.onResponse {x : Station σ τ} (hx : x.Returns) (hq : ∀ p, x = log p → p.Quiet)
    {c : Context} (hc : c.Dated) (res : Response) (s : Scene (σ × τ)) :
    (x.hook.onResponse res c s).1.isSome = true := by
  cases x with
  | identify => rfl
  | log p =>
    have passed : ((log p).hook.onResponse res c s).1 = some res := ((hq p rfl).passes hc res s).1
    rw [passed]
    rfl
  | other h => exact hx res c s.own.2

namespace Host

/-- A host to whose chain the stations were added in this order. -/
def ofStations (l : List (Station σ τ)) (exposesCounters : Bool) : Host (σ × τ) :=
  ⟨.ofHooks (l.map Station.hook), exposesCounters⟩

def showsCounters (exposesCounters : Bool) (i : Incoming) : Bool :=
  exposesCounters && isMetrics (snapshot i ⟨0⟩)

theorem answer_own (h : Host σ) (req : Request) (arrival : Arrival) (s : Scene σ) :
    (h.answer req arrival s).2.own = s.own := by
  cases arrival with
  | whole body => rfl
  | broken reason => rfl

theorem document_alike (contentType body body' : String) :
    (document contentType body).Alike false (document contentType body') := ⟨rfl, rfl, nofun⟩

theorem route_alike {h : Host σ} {h' : Host υ} (hx : h.exposesCounters = h'.exposesCounters) (i : Incoming)
    (body : Bytes) (at_ at' : Instant) (counters counters' : Counters) :
    (h.route (snapshot i at_) body counters).Alike (!showsCounters h.exposesCounters i)
      (h'.route (snapshot i at') body counters') := by
  have health (now : Instant) : isHealth (snapshot i now) = isHealth (snapshot i ⟨0⟩) := rfl
  have metrics (now : Instant) : isMetrics (snapshot i now) = isMetrics (snapshot i ⟨0⟩) := rfl
  have echoed (now : Instant) : echo (snapshot i now) body = echo (snapshot i ⟨0⟩) body := rfl
  unfold route showsCounters
  rw [health at_, health at', metrics at_, metrics at', echoed at_, echoed at', hx]
  by_cases hh : isHealth (snapshot i ⟨0⟩) = true
  · rw [if_pos hh, if_pos hh]
    exact .refl ..
  · rw [if_neg hh, if_neg hh]
    by_cases hm : isMetrics (snapshot i ⟨0⟩) = true
    · rw [if_pos hm, if_pos hm, hm]
      by_cases hs : h'.exposesCounters = true
      · rw [if_pos hs, if_pos hs, hs]
        exact document_alike ..
      · rw [if_neg hs, if_neg hs]
        exact .refl ..
    · rw [if_neg hm, if_neg hm]
      exact .refl ..

theorem answer_alike (h : Host σ) (h' : Host υ) (hx : h.exposesCounters = h'.exposesCounters) (i : Incoming)
    (arrival : Arrival) (at_ at' : Instant) (s : Scene σ) (s' : Scene υ) :
    (h.answer (snapshot i at_) arrival s).1.Alike (!showsCounters h.exposesCounters i)
      (h'.answer (snapshot i at') arrival s').1 := by
  cases arrival with
  | whole body => exact route_alike hx ..
  | broken reason => exact .refl ..

/-- Whoever logs, and with whatever pipelines, the response is the same, except for the counters where they are shown;
and it is sent unless a hook of others unwinds. -/
theorem serve_unaltered {l : List (Station σ τ)} {l' : List (Station υ τ)} {exposesCounters : Bool}
    {i : Incoming} (hl : Station.Alike (!showsCounters exposesCounters i) l l') (arrival : Arrival)
    {at_ at' : Instant} (ht : at_.inCalendar = true) (ht' : at'.inCalendar = true)
    (s : Scene (σ × τ)) (s' : Scene (υ × τ)) (hs : s.requestIds.Alike s'.requestIds)
    (ho : s.own.2 = s'.own.2) :
    let sent := ((ofStations l exposesCounters).serve i arrival at_ s).1
    let sent' := ((ofStations l' exposesCounters).serve i arrival at' s').1
    Option.Rel (Response.Alike (!showsCounters exposesCounters i)) sent sent' ∧
      ((∀ x ∈ l, x.Returns) → sent.isSome = true) := by
  intro sent sent'
  let host := ofStations l exposesCounters
  let host' := ofStations l' exposesCounters
  obtain ⟨n, n', hn, hooks, hooks'⟩ := Station.Alike.foldl_add hl .nil rfl rfl .nil .nil
  have hooks : host.chain.hooks = n.map Station.hook := hooks
  have hooks' : host'.chain.hooks = n'.map Station.hook := hooks'
  have fresh : Alongside .empty s .empty s' :=
    { agree := fun _ _ => rfl
      left_dated := fun _ h => nomatch h
      right_dated := fun _ h => nomatch h
      ids := hs
      own_eq := ho }
  have received : (snapshot i at_).receivedAt.inCalendar = true := ht
  have received' : (snapshot i at').receivedAt.inCalendar = true := ht'
  have same : (snapshot i at_).timeless = (snapshot i at').timeless := rfl
  have begun := requestThrough_alongside hn received received' same fresh
  rw [← hooks, ← hooks'] at begun
  constructor
  · have own := congrArg (·.2) (host.answer_own (snapshot i at_) arrival (host.begin i at_ s).2)
    have own' := congrArg (·.2) (host'.answer_own (snapshot i at') arrival (host'.begin i at' s').2)
    have made := host.answer_alike host' rfl i arrival at_ at' (host.begin i at_ s).2 (host'.begin i at' s').2
    have through := responseThrough_alike hn.reverse begun.agree begun.left_dated begun.right_dated made
      (own.trans (begun.own_eq.trans own'.symm))
    rw [List.map_reverse, List.map_reverse, ← hooks, ← hooks'] at through
    exact through
  · intro returns
    have quiet := hl.quiet
    apply Chain.isSome_responseThrough
    intro h hh res s
    have hl := (Chain.perm_ofHooks _).mem_iff.mp (List.mem_reverse.mp hh)
    obtain ⟨x, hx, rfl⟩ := List.mem_map.mp hl
    exact (returns x hx).onResponse (fun p hp => quiet p (hp ▸ hx)) begun.left_dated res s

def numbering : Hook Nat where
  name := "numbering"
  onResponse res _ n := (some (res.withHeader "X-Number" (toString n)), n + 1)

theorem unaware_numbering (whole : Bool) : numbering.Unaware whole where
  on_request _ _ hc := ⟨hc, rfl⟩
  dated _ _ hc := hc
  on_response n ha _ := ⟨.some (ha.withHeader "X-Number" (toString n)), rfl⟩

/-- A log that records, in a chain where another hook numbers the responses. -/
theorem serve_unaltered_recorded :
    let p : Pipeline (List Sighting × Nat) :=
      { clock := fun own => (⟨1000000⟩, own)
        sink := .within (·.1) (fun seen own => (seen, own.2)) .recording }
    let l : List (Station (List Sighting) Nat) := [.identify, .other numbering, .log p]
    let l' : List (Station Unit Nat) := [.identify, .other numbering]
    let i : Incoming :=
      { method := .get, target := .root, headers := .empty, remote := ⟨.v4 127 0 0 1, 8080, 0⟩ }
    ∃ answer, ((ofStations l true).serve i (.whole []) ⟨0⟩ (plainScene.withOwn ([], 7))).1 = some answer ∧
      ((ofStations l' true).serve i (.whole []) ⟨1⟩ (plainScene.withOwn ((), 7))).1 = some answer := by
  intro p l l' i
  have quiet : p.Quiet :=
    { clock_dated := fun _ => rfl
      clock_apart := fun _ => rfl
      sink_returned := fun _ _ => rfl
      sink_apart := fun _ _ => rfl }
  have whole : showsCounters true i = false := by decide
  have alike : Station.Alike (!showsCounters true i) l l' :=
    .identified (.others (unaware_numbering _) (.left quiet .nil))
  have start : Instant.inCalendar ⟨0⟩ = true := rfl
  have later : Instant.inCalendar ⟨1⟩ = true := rfl
  obtain ⟨same, sent⟩ := serve_unaltered alike (.whole []) start later (plainScene.withOwn ([], 7))
    (plainScene.withOwn ((), 7)) (fun _ => rfl) rfl
  have returns : ∀ x ∈ l, x.Returns := by
    simp only [l, List.forall_mem_cons]
    exact ⟨trivial, fun _ _ _ => rfl, trivial, nofun⟩
  rcases rel_cases same with ⟨hn, -⟩ | ⟨answer, answer', ha, ha', he⟩
  · rw [hn] at sent
    cases sent returns
  · obtain rfl := he.whole_eq (by rw [whole]; rfl)
    exact ⟨answer, ha, ha'⟩

end Host

end AccessLog
