import AccessLog.Proofs.Event
import AccessLog.Proofs.Plain

/-!
# Torn lines

A line that was given up leaves its beginning behind, and nothing ends it: the next emission goes on from there.
An event stands on a line of its own exactly if the last emission before it that left anything left its whole line.
-/

namespace AccessLog

/-- From `start` on the output holds the text on a line of its own. -/
structure OwnLine (output : Bytes) (start : Nat) (text : Bytes) : Prop where
  begins : start = 0 ∨ output[start - 1]? = some 10
  stands : text <+: output.drop start
  ends : output[start + text.length]? = some 10

theorem ownLine_iff_before {before text rest : Bytes} :
    OwnLine (before ++ (text ++ 10 :: rest)) before.length text ↔
      ∀ b ∈ before.getLast?, b = 10 := by
  have hs : text <+: (before ++ (text ++ 10 :: rest)).drop before.length := by
    rw [List.drop_left]
    exact List.prefix_append _ _
  have he : (before ++ (text ++ 10 :: rest))[before.length + text.length]? = some 10 := by
    rw [List.getElem?_append_right (by omega), Nat.add_sub_cancel_left,
      List.getElem?_append_right (by omega), Nat.sub_self]
    rfl
  cases hb : before.getLast? with
  | none =>
    obtain rfl : before = [] := List.getLast?_eq_none_iff.mp hb
    exact ⟨fun _ => by simp, fun _ => ⟨.inl rfl, hs, he⟩⟩
  | some b =>
    have hne : before ≠ [] := fun h => by simp [h] at hb
    have hpos : 0 < before.length := List.length_pos_iff.mpr hne
    have hlast : (before ++ (text ++ 10 :: rest))[before.length - 1]? = some b := by
      rw [List.getElem?_append_left (by omega), ← List.getLast?_eq_getElem?, hb]
    constructor
    · intro h c hc
      rcases h.begins with h0 | h1
      · omega
      · rw [hlast] at h1
        exact (Option.mem_some_iff.mp hc).symm.trans (Option.some.inj h1)
    · intro h
      obtain rfl : b = 10 := h b rfl
      exact ⟨.inr hlast, hs, he⟩

/-- After a beginning without a newline the text has no line of its own anywhere. -/
theorem not_ownLine {torn text : Bytes} (hne : torn ≠ []) (ht : 10 ∉ torn) (hn : 10 ∉ text)
    (start : Nat) : ¬ OwnLine (torn ++ text ++ [10]) start text := by
  intro h
  have only : ∀ i, (torn ++ text ++ [10])[i]? = some 10 → torn.length + text.length ≤ i := by
    intro i hi
    by_cases hlt : i < (torn ++ text).length
    · rw [List.getElem?_append_left hlt] at hi
      rcases List.mem_append.mp (List.mem_of_getElem? hi) with hm | hm
      · exact absurd hm ht
      · exact absurd hm hn
    · simpa using hlt
  have hlen : start + text.length < (torn ++ text ++ [10]).length :=
    (List.getElem?_eq_some_iff.mp h.ends).1
  have hend := only _ h.ends
  have hpos := List.length_pos_iff.mpr hne
  simp only [List.length_append, List.length_singleton] at hlen
  rcases h.begins with h0 | h1
  · omega
  · have := only _ h1
    omega

namespace Emission

/-- The last of some emissions to leave any byte left its whole line. -/
def Whole (xs : List Emission) : Prop :=
  ∀ x ∈ xs.reverse.find? (·.accepted ≠ []), x.accepted = x.event.lineBytes

theorem getLast?_accepted {x : Emission} (hk : x.Kept) (hne : x.accepted ≠ []) :
    (∀ b ∈ x.accepted.getLast?, b = 10) ↔ x.accepted = x.event.lineBytes := by
  constructor
  · intro h
    rcases List.prefix_concat_iff.mp hk.accepted_prefix with hw | hp
    · exact hw
    · have hl := List.getLast?_eq_some_getLast hne
      have h10 : x.accepted.getLast hne = 10 := h _ hl
      have hm := hp.subset (List.getLast_mem hne)
      rw [h10] at hm
      exact absurd hm x.event.newline_notMem_json
  · intro h b hb
    rw [h, Event.lineBytes, List.getLast?_concat] at hb
    exact (Option.mem_some_iff.mp hb).symm

theorem whole_iff {xs : List Emission} (hk : ∀ x ∈ xs, x.Kept) :
    (∀ b ∈ (xs.map accepted).flatten.getLast?, b = 10) ↔ Whole xs := by
  have last : ∀ ys : List Emission, (∀ y ∈ ys, y.Kept) →
      ((∀ b ∈ ys.findSome? fun y => y.accepted.getLast?, b = 10) ↔
        ∀ y ∈ ys.find? (·.accepted ≠ []), y.accepted = y.event.lineBytes) := by
    intro ys hys
    induction ys with
    | nil => simp
    | cons y ys ih =>
      have hy := hys y List.mem_cons_self
      by_cases hne : y.accepted = []
      · simpa [List.findSome?_cons, hne] using ih fun z hz => hys z (List.mem_cons_of_mem y hz)
      · rw [List.findSome?_cons, List.getLast?_eq_some_getLast hne,
          List.find?_cons_of_pos (by simpa using hne)]
        have := getLast?_accepted hy hne
        rw [List.getLast?_eq_some_getLast hne] at this
        simpa using this
  rw [List.getLast?_flatten, ← List.map_reverse, List.findSome?_map]
  exact last xs.reverse fun x hx => hk x (List.mem_reverse.mp hx)

end Emission

theorem writer_written {work : List (Event × Scene Unit)} {sink : Locked Writer}
    {pre post : List Emission} {x : Emission} (h : (emissions work sink).1 = pre ++ x :: post) :
    x.writer.written = sink.value.written ++ (pre.map Emission.accepted).flatten := by
  induction pre generalizing work sink with
  | nil =>
    cases work with
    | nil => exact absurd h (by simp [emissions])
    | cons step work =>
      obtain ⟨hx, -⟩ := List.cons.inj h
      subst hx
      simp [Emission.writer, Emission.of, Scene.withOwn]
  | cons y pre ih =>
    cases work with
    | nil => exact absurd h (by simp [emissions])
    | cons step work =>
      obtain ⟨hy, ht⟩ := List.cons.inj h
      rw [ih ht]
      subst hy
      rw [(Emission.of_kept _ _).written_eq, List.map_cons, List.flatten_cons, ← List.append_assoc]
      rfl

/-- An emission that went well leaves its whole line in one piece. It is a line of its own exactly if the
bytes before it end with a whole line. -/
theorem ownLine_iff_whole (work : List (Event × Scene Unit)) (sink : Locked Writer)
    (pre post : List Emission) (x : Emission) (hw : sink.value.written = [])
    (hs : (emissions work sink).1 = pre ++ x :: post) (hc : x.Clean) :
    let output := (emissions work sink).2.unlocked.written
    x.event.lineBytes <+: output.drop x.writer.written.length ∧
      (OwnLine output x.writer.written.length (utf8 x.event.json) ↔ Emission.Whole pre) := by
  have hk : ∀ y ∈ pre ++ x :: post, y.Kept := by
    intro y hy
    rw [← hs] at hy
    exact kept_of_mem_emissions work sink hy
  have hx := (hk x (by simp)).whole_of_clean hc
  have hb : x.writer.written = (pre.map Emission.accepted).flatten := by
    rw [writer_written hs, hw, List.nil_append]
  have ho : (emissions work sink).2.unlocked.written = x.writer.written ++
      (utf8 x.event.json ++ 10 :: (post.map Emission.accepted).flatten) := by
    rw [Locked.unlocked, Locked.recover_acquire, written_emissions, hs, hw, hb]
    simp [hx, Event.lineBytes]
  intro output
  rw [show output = _ from ho]
  constructor
  · rw [List.drop_left, Event.lineBytes]
    exact ⟨(post.map Emission.accepted).flatten, by simp⟩
  · rw [ownLine_iff_before, hb]
    exact Emission.whole_iff fun y hy => hk y (List.mem_append_left _ hy)

def Behaviour.tearing : Behaviour := .scripted [.accepts (some 1), .failed "gone"] none .done

theorem offer_tearing {b : UInt8} {rest : Bytes} (h : rest ≠ []) :
    Writer.offer .tearing 0 (b :: rest) = ⟨[b], 2, .failed "gone"⟩ := by
  have ht : Writer.share (some 1) (b :: rest) = [b] := rfl
  have hr : Behaviour.tearing.replies 0 = .accepts (some 1) := rfl
  rw [Writer.offer_accepts (by simp) hr (by simp [ht]), ht]
  rw [show (b :: rest).drop [b].length = rest from rfl, Writer.offer_failed h rfl]
  rfl

def tornRun (e e' : Event) (around : Scene Unit) : List Emission × Locked Writer :=
  emissions [(e, around), (e', around)] { value := { toBehaviour := .tearing } }

theorem tornRun_emissions (e e' : Event) (around : Scene Unit) :
    ∃ b x y, (tornRun e e' around).1 = [x, y] ∧ y.event = e' ∧ b ∈ utf8 e.json ∧
      x.accepted = [b] ∧ x.event = e ∧ y.Clean ∧
      (tornRun e e' around).2.unlocked.written = [b] ++ utf8 e'.json ++ [10] := by
  obtain ⟨b, rest, hj⟩ := List.exists_cons_of_ne_nil e.utf8_json_ne_nil
  have hl : e.lineBytes = b :: (rest ++ [10]) := by rw [Event.lineBytes, hj, List.cons_append]
  let x := Emission.of e (around.withOwn { value := { toBehaviour := .tearing } })
  let y := Emission.of e' (around.withOwn x.after.own)
  have hp : x.progress = ⟨[b], 2, .failed "gone"⟩ := by
    change Writer.offer .tearing 0 e.lineBytes = _
    rw [hl]
    exact offer_tearing (by simp)
  have hv : x.after.own.value = _ := Emission.of_after_value ..
  have hx : x.accepted = [b] := by rw [Emission.of_accepted, hp]
  have hy : y.Clean ∧ y.accepted = e'.lineBytes := by
    refine Emission.of_willing e' _ ?_ ?_
    · change x.after.own.value.replies x.after.own.value.calls = _
      rw [hv, hp]
      rfl
    · change x.after.own.value.flushes x.after.own.value.flushed = _
      rw [hv]
      rfl
  refine ⟨b, x, y, rfl, rfl, by simp [hj], hx, rfl, hy.1, ?_⟩
  rw [Locked.unlocked, Locked.recover_acquire, tornRun, written_emissions]
  change [] ++ [x.accepted, y.accepted].flatten = _
  simp [hx, hy.2, Event.lineBytes]

theorem tornRun_torn (e e' : Event) (around : Scene Unit) :
    ∃ x y, (tornRun e e' around).1 = [x, y] ∧ y.event = e' ∧ y.Clean ∧ ¬ Emission.Whole [x] ∧
      ∀ start, ¬ OwnLine (tornRun e e' around).2.unlocked.written start (utf8 e'.json) := by
  obtain ⟨b, x, y, hxs, hy, hb, hx, he, hc, ho⟩ := tornRun_emissions e e' around
  have hb10 : (10 : UInt8) ∉ [b] := by
    rw [List.mem_singleton]
    rintro rfl
    exact e.newline_notMem_json hb
  refine ⟨x, y, hxs, hy, hc, ?_, fun start => ?_⟩
  · intro h
    have hl := h x (by simp [hx])
    rw [hx, he] at hl
    exact hb10 (hl ▸ by simp [Event.lineBytes])
  · rw [ho]
    exact not_ownLine (by simp) hb10 e'.newline_notMem_json start

theorem ownLine_iff_whole_tornRun :
    let run := tornRun (plainEvent "/a") (plainEvent "/b") plainScene
    ∃ x y, run.1 = [x, y] ∧ y.Clean ∧ ¬ Emission.Whole [x] ∧
      ¬ OwnLine run.2.unlocked.written y.writer.written.length (utf8 y.event.json) := by
  obtain ⟨x, y, hxs, -, hc, hw, -⟩ := tornRun_torn (plainEvent "/a") (plainEvent "/b") plainScene
  exact ⟨x, y, hxs, hc, hw, fun h => hw ((ownLine_iff_whole _ _ [x] [] y rfl hxs hc).2.mp h)⟩

/-- Not every emission that went well stands on a line of its own: the line before it may have been torn. -/
theorem clean_without_ownLine :
    ¬ ∀ (work : List (Event × Scene Unit)) (sink : Locked Writer), sink.value.written = [] →
      ∀ x ∈ (emissions work sink).1, x.Clean →
        ∃ start, OwnLine (emissions work sink).2.unlocked.written start (utf8 x.event.json) := by
  intro h
  obtain ⟨x, y, hxs, hy, hc, -, hn⟩ :=
    tornRun_torn (plainEvent "/a") (plainEvent "/b") plainScene
  have hm : y ∈ (tornRun (plainEvent "/a") (plainEvent "/b") plainScene).1 := by simp [hxs]
  obtain ⟨start, hs⟩ := h [(plainEvent "/a", plainScene), (plainEvent "/b", plainScene)]
    { value := { toBehaviour := .tearing } } rfl y hm hc
  rw [hy] at hs
  exact hn start hs

end AccessLog
