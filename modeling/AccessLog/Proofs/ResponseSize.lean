import AccessLog.Proofs.Logging

/-!
# The response size and the bytes that are sent

The size of a response in its event is the length of its body, which is counted when the response is built. But the
body does not always travel: it is withheld in answer to `HEAD`, and to a `CONNECT` that succeeds. Then, and only then,
the event tells of bytes that the client never gets.
-/

namespace AccessLog

variable {σ : Type}

namespace Host

/-- The body of the answer stays with the host. A `CONNECT` succeeds if its own body could be read. -/
def Withholds (method : Method) (arrival : Arrival) : Prop :=
  method = .head ∨ (method = .connect ∧ ∃ body, arrival = .whole body)

theorem Withholds.ne_get {method : Method} {arrival : Arrival} (h : Withholds method arrival) :
    method.name ≠ "GET" := by
  rcases h with rfl | ⟨rfl, -⟩ <;> decide

theorem route_of_ne_get (h : Host σ) {req : Request} (hm : req.method.name ≠ "GET") (body : Bytes)
    (counters : Counters) : h.route req body counters = document jsonType (echo req body).text := by
  have health : isHealth req = false := by simp [isHealth, hm]
  have metrics : isMetrics req = false := by simp [isMetrics, hm]
  simp [route, health, metrics]

theorem utf8_members_ne_nil (members : Members) : utf8 members.text ≠ [] := by
  have hl : members.text.toList = '\x7b' :: _ := String.toList_ofList
  rw [utf8, hl, List.flatMap_cons]
  exact List.append_ne_nil_of_left_ne_nil (by decide) _

theorem isSuccess_document (contentType body : String) :
    (document contentType body).status.isSuccess = true := by
  show Status.ok.isSuccess = true
  decide

theorem Withholds.body_ne_nil (req : Request) {arrival : Arrival} (hw : Withholds req.method arrival)
    (h : Host σ) (s : Scene σ) : (h.answer req arrival s).1.body ≠ [] := by
  cases arrival with
  | broken reason =>
    show unreadable.body ≠ []
    decide
  | whole body =>
    show (h.route req body s.counters).body ≠ []
    rw [h.route_of_ne_get hw.ne_get, body_document]
    exact utf8_members_ne_nil _

theorem isSuccess_connect (h : Host σ) {req : Request} (hm : req.method = .connect) (arrival : Arrival)
    (s : Scene σ) :
    (h.answer req arrival s).1.status.isSuccess = true ↔ ∃ body, arrival = .whole body := by
  have other : req.method.name ≠ "GET" := by rw [hm]; decide
  cases arrival with
  | broken reason =>
    have failed : (h.answer req (.broken reason) s).1.status.isSuccess = false := by
      show unreadable.status.isSuccess = false
      decide
    simp [failed]
  | whole body =>
    have answered : (h.answer req (.whole body) s).1 = document jsonType (echo req body).text :=
      h.route_of_ne_get other body s.counters
    simp [answered, isSuccess_document]

def greatestCount : Nat := 0x7FFF_FFFF_FFFF_FFFF

theorem responseSizeOf_countOf (body : Bytes) :
    Exchange.responseSizeOf (Response.countOf body) = some (min body.length greatestCount) := by
  have positive : 0 ≤ Response.countOf body := by unfold Response.countOf; omega
  have same : (Response.countOf body).toNat = min body.length greatestCount := by
    unfold Response.countOf greatestCount
    omega
  rw [Exchange.responseSizeOf, if_pos positive, same]

/-- What is sent of a response is all of its body or nothing. -/
theorem sentBody_response (h : Host σ) (identifies : Bool) (i : Incoming) (at_ : Instant) (arrival : Arrival)
    (s₀ s : Scene σ) :
    let res := h.response identifies i at_ arrival s₀ s
    (Withholds i.method arrival → sentBody i.method res = []) ∧
      (¬ Withholds i.method arrival → sentBody i.method res = res.body) := by
  intro res
  have same : (i.method = .connect ∧ res.status.isSuccess = true) ↔
      (i.method = .connect ∧ ∃ body, arrival = .whole body) := by
    apply and_congr_right
    intro connect
    have status : res.status = (h.answer (snapshot i at_) arrival s).1.status := Response.status_identified ..
    rw [status]
    exact h.isSuccess_connect connect arrival s
  unfold Withholds sentBody
  rw [← same]
  exact ⟨fun held => if_pos held, fun sent => if_neg sent⟩

theorem min_length_eq_sent_iff (h : Host σ) (identifies : Bool) (i : Incoming) (at_ : Instant)
    (arrival : Arrival) (s₀ s : Scene σ) :
    let res := h.response identifies i at_ arrival s₀ s
    min res.body.length greatestCount = (sentBody i.method res).length ↔
      ¬ Withholds i.method arrival ∧ res.body.length ≤ greatestCount := by
  intro res
  obtain ⟨held, whole⟩ := h.sentBody_response identifies i at_ arrival s₀ s
  by_cases hw : Withholds i.method arrival
  · have body : res.body = (h.answer (snapshot i at_) arrival s).1.body := Response.body_identified ..
    have nonempty : res.body ≠ [] := body ▸ Withholds.body_ne_nil (snapshot i at_) hw h s
    have positive : 0 < min res.body.length greatestCount :=
      Nat.lt_min.mpr ⟨List.length_pos_iff.mpr nonempty, by decide⟩
    rw [held hw, List.length_nil]
    simp only [hw, not_true_eq_false, false_and, iff_false]
    exact Nat.ne_of_gt positive
  · rw [whole hw]
    simp only [hw, not_false_eq_true, true_and]
    exact ⟨fun same => same ▸ Nat.min_le_right .., Nat.min_eq_left⟩

theorem contentCount_response (h : Host σ) (identifies : Bool) (i : Incoming) (at_ : Instant)
    (arrival : Arrival) (s₀ s : Scene σ) :
    let res := h.response identifies i at_ arrival s₀ s
    res.contentCount = Response.countOf res.body := by
  intro res
  have body : res.body = (h.answer (snapshot i at_) arrival s).1.body := Response.body_identified ..
  rw [body, ← (h.fresh_answer (snapshot i at_) arrival s).counted]
  exact Response.contentCount_identified ..

/-- Of an exchange that is logged and answered there is one event, and it tells the size of the body up to the greatest
size. That is the number of bytes that are sent exactly if the body is not withheld and not longer. -/
theorem responseSize_eq_sent_iff (p : Pipeline σ) (identifies exposesCounters : Bool) (i : Incoming)
    (logged : p.blacklist.shouldLog i.target.path = true) (arrival : Arrival) (at_ : Instant)
    (s₀ s : Scene (Minuted σ)) {sent : Response} :
    let h := logging p.minuted identifies exposesCounters
    let ended := h.finish (h.begin i at_ s₀).1 arrival s
    ended.1 = some sent →
    ∃ e own, ended.2.own.2 = s.own.2 ++ [⟨e, own, .returned⟩] ∧
      e.responseSize = some (min sent.body.length greatestCount) ∧
      (e.responseSize = some (sentBody i.method sent).length ↔
        ¬ Withholds i.method arrival ∧ sent.body.length ≤ greatestCount) := by
  intro h ended answered
  have finished : ended = _ := finish_minuted p identifies exposesCounters i at_ s₀ arrival s
  rw [finished] at answered ⊢
  obtain ⟨outcome, returned, rfl⟩ := Option.map_eq_some_iff.mp answered
  have logged : p.blacklist.shouldLog (snapshot i at_).path = true := logged
  obtain ⟨e, own, handed, built⟩ := Pipeline.handings_of_log logged (by rw [returned]; rfl)
  have size := Pipeline.responseSize_of_eventAt built
  rw [h.contentCount_response, responseSizeOf_countOf] at size
  refine ⟨e, own, congrArg (s.own.2 ++ ·) handed, size, ?_⟩
  rw [size, Option.some.injEq]
  exact h.min_length_eq_sent_iff identifies i at_ arrival s₀ s

/-- The body of a `CONNECT` is lost, so that its answer is no success and travels with its body. -/
theorem responseSize_eq_sent_lost :
    let p := recordingAt ⟨1000000⟩
    let i : Incoming :=
      { method := .connect, target := .root, headers := .empty, remote := ⟨.v4 127 0 0 1, 8080, 0⟩ }
    let h := logging p.minuted true true
    let scene := plainScene.withOwn ([], [])
    let ended := h.finish (h.begin i ⟨0⟩ scene).1 .lost scene
    p.blacklist.shouldLog i.target.path = true ∧ ∃ sent e own, ended.1 = some sent ∧
      ended.2.own.2 = [⟨e, own, .returned⟩] ∧ e.responseSize = some 27 ∧
      e.responseSize = some (sentBody i.method sent).length := by
  intro p i h scene ended
  have logged : p.blacklist.shouldLog i.target.path = true := rfl
  have same : h = ⟨⟨loggingHooks p.minuted true⟩, true⟩ := logging_eq p.minuted true true
  have length : ended.1.map (·.body.length) = some 27 := by
    show (h.finish (h.begin i ⟨0⟩ scene).1 .lost scene).1.map (·.body.length) = some 27
    rw [same]
    decide +kernel
  obtain ⟨sent, answered, length⟩ := Option.map_eq_some_iff.mp length
  obtain ⟨e, own, minutes, size, sent_iff⟩ :=
    responseSize_eq_sent_iff p true true i logged .lost ⟨0⟩ scene scene answered
  have travels : ¬ Withholds i.method .lost := by
    rintro (head | ⟨-, body, whole⟩)
    · exact absurd head (by decide)
    · cases whole
  refine ⟨logged, sent, e, own, answered, minutes, ?_, sent_iff.mpr ⟨travels, ?_⟩⟩
  · rw [size, length]
    rfl
  · rw [length]
    decide

/-- The answer to a `HEAD` travels without its body, of which the event tells nevertheless. -/
theorem responseSize_of_head :
    let p := recordingAt ⟨1000000⟩
    let orders : Target := ⟨"/orders", none, by decide, by decide⟩
    let i : Incoming :=
      { method := .head, target := orders, headers := .empty, remote := ⟨.v4 127 0 0 1, 8080, 0⟩ }
    let ended := (logging p.minuted true true).serve i (.whole []) ⟨0⟩ (plainScene.withOwn ([], []))
    p.blacklist.shouldLog i.target.path = true ∧ ended.1.map (sentBody i.method) = some [] ∧
      ended.2.own.2.map (fun h => (h.event.responseSize, h.outcome)) = [(some 57, .returned)] := by
  intro p orders i ended
  have same : ended = _ := congrArg (·.serve i (.whole []) ⟨0⟩ (plainScene.withOwn ([], [])))
    (logging_eq p.minuted true true)
  rw [same]
  decide +kernel

end Host

end AccessLog
