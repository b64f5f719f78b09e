import AccessLog.Sink.Lines

/-!
# What reaches a writer of lines

A run of emissions through one sink of lines, with any behaviour of its writer. Each emission leaves a prefix of
its line, and the whole line when it neither warns nor unwinds; the warnings are those of the faults
that the writer shows; and a poisoned lock changes nothing.
-/

namespace AccessLog

namespace Reply

/-- The error with which a reply ends an offer. A call that takes nothing ends it too. -/
def fault? : Reply → Option String
  | .failed reason => some reason
  | .accepts (some 0) => some Writer.nothingAccepted
  | _ => none

end Reply

def Behaviour.willing : Behaviour where
  not_interrupted _ _ h := Reply.noConfusion h

def Behaviour.met (b : Behaviour) (call n : Nat) : List Reply := (List.range' call n).map b.replies

theorem Behaviour.met_succ (b : Behaviour) (call n : Nat) :
    b.met call (n + 1) = b.replies call :: b.met (call + 1) n := by
  simp [met, List.range'_succ]

namespace Writer

/-- What the offer of some bytes comes to, in terms of the replies that it met. -/
structure Offered (bytes : Bytes) (met : List Reply) (p : Progress) : Prop where
  accepted_prefix : p.accepted <+: bytes
  complete_iff : p.ending = .complete ↔ p.accepted = bytes
  failed_iff : ∀ reason, p.ending = .failed reason ↔ ∃ r ∈ met, r.fault? = some reason
  unwound_iff : p.ending = .unwound ↔ .unwinds ∈ met
  calls_le : p.calls ≤ p.accepted.length + met.count .interrupted + 1
  calls_le_of_complete :
    p.ending = .complete → p.calls ≤ p.accepted.length + met.count .interrupted

theorem share_isPrefix (most : Option Nat) (bytes : Bytes) : share most bytes <+: bytes := by
  cases most with
  | none => exact List.prefix_refl _
  | some n => exact List.take_prefix n bytes

theorem share_append_drop (most : Option Nat) (bytes : Bytes) :
    share most bytes ++ bytes.drop (share most bytes).length = bytes :=
  List.prefix_iff_eq_append.mp (share_isPrefix most bytes)

theorem share_eq_nil_iff {most : Option Nat} {bytes : Bytes} (h : bytes ≠ []) :
    share most bytes = [] ↔ most = some 0 := by
  cases most with
  | none => simp [share, h]
  | some n => simp [share, h]

theorem fault?_accepts {most : Option Nat} {bytes : Bytes} (ht : share most bytes ≠ [])
    (h : bytes ≠ []) : (Reply.accepts most).fault? = none := by
  have hm : most ≠ some 0 := fun hm => ht ((share_eq_nil_iff h).mpr hm)
  cases most with
  | none => rfl
  | some n =>
    cases n with
    | zero => exact absurd rfl hm
    | succ n => rfl

theorem Offered.after (taken : Bytes) {rest : Bytes} {met : List Reply} {p : Progress} {r : Reply}
    (hp : Offered rest met p) (hf : r.fault? = none) (hu : r ≠ .unwinds)
    (hc : 1 ≤ taken.length ∨ r = .interrupted) :
    Offered (taken ++ rest) (r :: met) (p.after taken) := by
  have hcount : met.count .interrupted + 1 ≤ taken.length + (r :: met).count .interrupted := by
    rcases hc with hc | rfl
    · have := List.count_le_count_cons (a := Reply.interrupted) (b := r) (l := met)
      omega
    · simp
  constructor
  · exact (List.prefix_append_right_inj taken).mpr hp.accepted_prefix
  · simpa [Progress.after] using hp.complete_iff
  · intro reason
    simpa [Progress.after, hf] using hp.failed_iff reason
  · simpa [Progress.after, hu.symm] using hp.unwound_iff
  · have := hp.calls_le
    simp only [Progress.after, List.length_append]
    omega
  · intro h
    have := hp.calls_le_of_complete h
    simp only [Progress.after, List.length_append]
    omega

theorem offer_offered (b : Behaviour) (call : Nat) (bytes : Bytes) :
    Offered bytes (b.met call (offer b call bytes).calls) (offer b call bytes) := by
  fun_induction offer b call bytes with
  | case1 call => constructor <;> simp [Behaviour.met]
  | case2 call bytes h most hr ht =>
    obtain rfl : most = some 0 := (share_eq_nil_iff h).mp ht
    constructor <;> simp [Behaviour.met, hr, Reply.fault?, eq_comm, h]
  | case3 call bytes h most hr ht ih =>
    rw [Progress.after, Behaviour.met_succ, hr]
    have hp := ih.after (share most bytes) (fault?_accepts ht h) (by simp)
      (.inl (List.length_pos_iff.mpr ht))
    rwa [share_append_drop] at hp
  | case4 call bytes h hr ih =>
    rw [Progress.after, Behaviour.met_succ, hr]
    exact ih.after [] rfl (by simp) (.inr rfl)
  | case5 call bytes h reason hr =>
    constructor <;> simp [Behaviour.met, hr, Reply.fault?, h, eq_comm]
  | case6 call bytes h hr =>
    constructor <;> simp [Behaviour.met, hr, Reply.fault?, h, eq_comm]

@[simp] theorem offer_nil (b : Behaviour) (call : Nat) :
    offer b call [] = ⟨[], 0, .complete⟩ := by
  rw [offer, dif_pos rfl]

section Offer

variable {b : Behaviour} {call : Nat} {bytes : Bytes}

theorem offer_accepts {most : Option Nat} (hb : bytes ≠ []) (hr : b.replies call = .accepts most)
    (ht : share most bytes ≠ []) : offer b call bytes =
      (offer b (call + 1) (bytes.drop (share most bytes).length)).after (share most bytes) := by
  rw [offer, dif_neg hb]
  split
  · case h_1 other h =>
    obtain rfl : other = most := by simpa [hr] using h.symm
    rw [dif_neg ht]
  · case h_2 h => simp [hr] at h
  · case h_3 reason h => simp [hr] at h
  · case h_4 h => simp [hr] at h

theorem offer_failed {reason : String} (hb : bytes ≠ []) (hr : b.replies call = .failed reason) :
    offer b call bytes = ⟨[], 1, .failed reason⟩ := by
  rw [offer, dif_neg hb]
  split
  · case h_1 most h => simp [hr] at h
  · case h_2 h => simp [hr] at h
  · case h_3 other h =>
    obtain rfl : other = reason := by simpa [hr] using h.symm
    rfl
  · case h_4 h => simp [hr] at h

theorem offer_willing (hb : bytes ≠ []) (hr : b.replies call = .accepts none) :
    offer b call bytes = ⟨bytes, 1, .complete⟩ := by
  have hs : share none bytes = bytes := rfl
  rw [offer_accepts hb hr hb, hs, List.drop_length, offer_nil, Progress.after, List.append_nil]

end Offer

/-- How the writing of a line ends: as the offer of its bytes, or as the flush after all of them. -/
def lineEnding (w : Writer) (p : Progress) : Ending :=
  match p.ending with
  | .complete => (w.flushes w.flushed).ending
  | ending => ending

theorem writeLine_eq (w : Writer) (line : Bytes) :
    let p := offer w.toBehaviour w.calls line
    w.writeLine line = (w.lineEnding p,
      { w with
        calls := w.calls + p.calls
        flushed := if p.ending = .complete then w.flushed + 1 else w.flushed
        written := w.written ++ p.accepted }) := by
  intro p
  cases h : p.ending <;> simp [writeLine, writeAll, flush, lineEnding, p, h]

end Writer

/-- One emission to a sink of lines: the scene it found, how it came back, and the scene it left. -/
structure Emission where
  event : Event
  before : Scene (Locked Writer)
  outcome : Outcome
  after : Scene (Locked Writer)

namespace Emission

def of (e : Event) (s : Scene (Locked Writer)) : Emission :=
  ⟨e, s, (Sink.lines e s).1, (Sink.lines e s).2⟩

def writer (x : Emission) : Writer := x.before.own.value

def accepted (x : Emission) : Bytes := x.after.own.value.written.drop x.writer.written.length

def calls (x : Emission) : Nat := x.after.own.value.calls - x.writer.calls

def notes (x : Emission) : List Entry := x.after.journal.drop x.before.journal.length

def met (x : Emission) : List Reply := x.writer.met x.writer.calls x.calls

def flushReply? (x : Emission) : Option FlushReply :=
  if x.accepted = x.event.lineBytes then some (x.writer.flushes x.writer.flushed) else none

/-- The writer refused bytes, took none of them, or failed to flush the complete line. -/
def Faulted (x : Emission) (reason : String) : Prop :=
  (∃ r ∈ x.met, r.fault? = some reason) ∨ x.flushReply? = some (.failed reason)

def Clean (x : Emission) : Prop := x.outcome = .returned ∧ x.notes = []

/-- What every emission keeps to, whatever came before it and whatever the writer does. -/
structure Kept (x : Emission) : Prop where
  journal_eq : x.after.journal = x.before.journal ++ x.notes
  written_eq : x.after.own.value.written = x.writer.written ++ x.accepted
  calls_eq : x.after.own.value.calls = x.writer.calls + x.calls
  accepted_prefix : x.accepted <+: x.event.lineBytes
  whole_of_clean : x.Clean → x.accepted = x.event.lineBytes
  warned : ∀ reason, x.Faulted reason →
    x.notes = [⟨Sink.writeWarning reason, x.before.context.get Diagnostic.requestIdKey⟩]
  silent : (∀ reason, ¬ x.Faulted reason) → x.notes = []
  unwound_iff : x.outcome = .unwound ↔ .unwinds ∈ x.met ∨ x.flushReply? = some .unwinds
  calls_le : x.calls ≤ x.event.lineBytes.length + x.met.count .interrupted + 1
  calls_le_of_clean : x.Clean → x.calls ≤ x.event.lineBytes.length + x.met.count .interrupted
  poison_irrelevant : ∀ poisoned,
    Sink.lines x.event (x.before.withOwn ⟨x.before.own.value, poisoned⟩) =
      (x.outcome, x.after.withOwn ⟨x.after.own.value, poisoned || x.outcome = .unwound⟩)

def progress (x : Emission) : Writer.Progress :=
  Writer.offer x.writer.toBehaviour x.writer.calls x.event.lineBytes

def ending (x : Emission) : Ending := x.writer.lineEnding x.progress

def notesOf (requestId : Option String) : Ending → List Entry
  | .failed reason => [⟨Sink.writeWarning reason, requestId⟩]
  | _ => []

def outcomeOf : Ending → Outcome
  | .unwound => .unwound
  | _ => .returned

theorem lines_eq (e : Event) (s : Scene (Locked Writer)) :
    let x := of e s
    Sink.lines e s = (outcomeOf x.ending,
      { s with
        own := s.own.release (outcomeOf x.ending) (x.writer.writeLine e.lineBytes).2
        journal := s.journal ++ notesOf (s.context.get Diagnostic.requestIdKey) x.ending }) := by
  intro x
  have hw : s.own.value.writeLine e.lineBytes =
      (x.ending, (x.writer.writeLine e.lineBytes).2) := by
    rw [Writer.writeLine_eq, Writer.writeLine_eq]
    rfl
  cases h : x.ending <;>
    simp [Sink.lines, Locked.recover_acquire, hw, h, notesOf, outcomeOf, Scene.note]

section Of

variable (e : Event) (s : Scene (Locked Writer))

theorem of_outcome : (of e s).outcome = outcomeOf (of e s).ending := congrArg Prod.fst (lines_eq e s)

theorem of_after : (of e s).after =
    { s with
      own := s.own.release (outcomeOf (of e s).ending) (s.own.value.writeLine e.lineBytes).2
      journal := s.journal ++ notesOf (s.context.get Diagnostic.requestIdKey) (of e s).ending } :=
  congrArg Prod.snd (lines_eq e s)

theorem of_after_value : (of e s).after.own.value =
    { s.own.value with
      calls := s.own.value.calls + (of e s).progress.calls
      flushed := if (of e s).progress.ending = .complete then s.own.value.flushed + 1
        else s.own.value.flushed
      written := s.own.value.written ++ (of e s).progress.accepted } := by
  rw [of_after]
  exact congrArg Prod.snd (Writer.writeLine_eq s.own.value e.lineBytes)

theorem of_written : (of e s).after.own.value.written =
    s.own.value.written ++ (of e s).progress.accepted := by
  rw [of_after_value]

theorem of_accepted : (of e s).accepted = (of e s).progress.accepted := by
  rw [accepted, of_written]
  exact List.drop_left

theorem of_calls : (of e s).calls = (of e s).progress.calls := by
  rw [calls, of_after_value]
  exact Nat.add_sub_cancel_left ..

theorem of_notes : (of e s).notes =
    notesOf (s.context.get Diagnostic.requestIdKey) (of e s).ending := by
  rw [notes, of_after]
  exact List.drop_left

theorem of_offered : Writer.Offered e.lineBytes (of e s).met (of e s).progress := by
  rw [met, of_calls]
  exact Writer.offer_offered ..

theorem of_flushReply? : (of e s).flushReply? =
    if (of e s).progress.ending = .complete then some (s.own.value.flushes s.own.value.flushed)
    else none := by
  simp only [flushReply?, of_accepted, (of_offered e s).complete_iff]
  rfl

theorem ending_failed_iff (reason : String) :
    (of e s).ending = .failed reason ↔ (of e s).Faulted reason := by
  have hf := (of_offered e s).failed_iff reason
  rw [Faulted, ← hf, of_flushReply?, ending, Writer.lineEnding]
  cases h : (of e s).progress.ending with
  | complete =>
    show (s.own.value.flushes s.own.value.flushed).ending = .failed reason ↔ _
    cases s.own.value.flushes s.own.value.flushed <;> simp [FlushReply.ending]
  | failed other => simp
  | unwound => simp

theorem ending_unwound_iff : (of e s).ending = .unwound ↔
    .unwinds ∈ (of e s).met ∨ (of e s).flushReply? = some .unwinds := by
  have hu := (of_offered e s).unwound_iff
  rw [← hu, of_flushReply?, ending, Writer.lineEnding]
  cases h : (of e s).progress.ending with
  | complete =>
    show (s.own.value.flushes s.own.value.flushed).ending = .unwound ↔ _
    cases s.own.value.flushes s.own.value.flushed <;> simp [FlushReply.ending]
  | failed other => simp
  | unwound => simp

theorem progress_complete_of_clean (hc : (of e s).Clean) :
    (of e s).progress.ending = .complete := by
  obtain ⟨ho, hn⟩ := hc
  rw [of_outcome] at ho
  rw [of_notes] at hn
  have he : (of e s).ending = .complete := by
    cases h : (of e s).ending with
    | complete => rfl
    | failed reason => simp [h, notesOf] at hn
    | unwound => simp [h, outcomeOf] at ho
  rw [ending, Writer.lineEnding] at he
  cases h : (of e s).progress.ending with
  | complete => rfl
  | failed reason => simp [h] at he
  | unwound => simp [h] at he

theorem of_kept : (of e s).Kept := by
  have ho := of_offered e s
  have hl := ho.accepted_prefix.length_le
  constructor
  · rw [of_notes, of_after]
    rfl
  · rw [of_accepted]
    exact of_written e s
  · rw [of_calls, of_after_value]
    rfl
  · rw [of_accepted]
    exact ho.accepted_prefix
  · intro hc
    rw [of_accepted]
    exact ho.complete_iff.mp (progress_complete_of_clean e s hc)
  · intro reason hf
    rw [of_notes, (ending_failed_iff e s reason).mpr hf]
    rfl
  · intro hf
    rw [of_notes]
    cases h : (of e s).ending with
    | failed reason => exact absurd ((ending_failed_iff e s reason).mp h) (hf reason)
    | complete => rfl
    | unwound => rfl
  · rw [of_outcome, ← ending_unwound_iff]
    cases (of e s).ending <;> simp [outcomeOf]
  · have := ho.calls_le
    rw [of_calls]
    change _ ≤ e.lineBytes.length + _ + 1
    omega
  · intro hc
    have := ho.calls_le_of_complete (progress_complete_of_clean e s hc)
    rw [of_calls]
    change _ ≤ e.lineBytes.length + _
    omega
  · intro poisoned
    rw [of_after, of_outcome]
    exact lines_eq e (s.withOwn ⟨s.own.value, poisoned⟩)

theorem of_willing (hr : s.own.value.replies s.own.value.calls = .accepts none)
    (hf : s.own.value.flushes s.own.value.flushed = .done) :
    (of e s).Clean ∧ (of e s).accepted = e.lineBytes := by
  have hp : (of e s).progress = ⟨e.lineBytes, 1, .complete⟩ :=
    Writer.offer_willing (by simp [Event.lineBytes]) hr
  have he : (of e s).ending = .complete := by
    rw [ending, Writer.lineEnding, hp]
    exact congrArg FlushReply.ending hf
  rw [Clean, of_outcome, of_notes, of_accepted, he, hp]
  exact ⟨⟨rfl, rfl⟩, rfl⟩

end Of

end Emission

/-- The emissions of a run, each in the surroundings it comes with and with what the one before it
left of the sink. An emission that unwound is followed by the next like any other. -/
def emissions : List (Event × Scene Unit) → Locked Writer → List Emission × Locked Writer
  | [], sink => ([], sink)
  | (e, around) :: rest, sink =>
    let x := Emission.of e (around.withOwn sink)
    let (xs, final) := emissions rest x.after.own
    (x :: xs, final)

variable (work : List (Event × Scene Unit)) (sink : Locked Writer)

theorem events_emissions : (emissions work sink).1.map (·.event) = work.map (·.1) := by
  induction work generalizing sink with
  | nil => rfl
  | cons step rest ih =>
    obtain ⟨e, around⟩ := step
    simp only [emissions, List.map_cons, ih]
    rfl

theorem written_emissions : (emissions work sink).2.value.written =
    sink.value.written ++ ((emissions work sink).1.map Emission.accepted).flatten := by
  induction work generalizing sink with
  | nil => simp [emissions]
  | cons step rest ih =>
    obtain ⟨e, around⟩ := step
    simp only [emissions, List.map_cons, List.flatten_cons, ih, Emission.of_written,
      ← Emission.of_accepted, ← List.append_assoc]
    rfl

theorem kept_of_mem_emissions {x : Emission} (h : x ∈ (emissions work sink).1) : x.Kept := by
  induction work generalizing sink with
  | nil => simp [emissions] at h
  | cons step rest ih =>
    obtain ⟨e, around⟩ := step
    rcases List.mem_cons.mp h with rfl | h
    · exact Emission.of_kept e (around.withOwn sink)
    · exact ih _ h

/-- Over a run nothing is lost and nothing is doubled: the writer holds what each emission left of its line,
in order, whatever the writer did. -/
theorem emissions_accounted :
    (emissions work sink).1.map (·.event) = work.map (·.1) ∧
    (emissions work sink).2.unlocked.written =
      sink.value.written ++ ((emissions work sink).1.map Emission.accepted).flatten ∧
    ∀ x ∈ (emissions work sink).1, x.Kept := by
  refine ⟨events_emissions work sink, ?_, fun x hx => kept_of_mem_emissions work sink hx⟩
  rw [Locked.unlocked, Locked.recover_acquire]
  exact written_emissions work sink

end AccessLog
