import AccessLog.Event
import AccessLog.Proofs.Decimal.Reader
import AccessLog.Proofs.Pipeline
import AccessLog.Proofs.RequestId
import AccessLog.Proofs.Text.Pieces

/-!
# The size of a request's body

The body size of an event is the number that the first `Content-Length` of its request declares, if it is positive and
fits in 63 bits. Whatever else stands there, the event has no body size; nothing fails, and nothing is reported.
-/

namespace AccessLog

open Uuid (byteChar)

namespace Decimal

theorem Spells.sign_or_digit {s : List Char} {n : Nat} (h : Spells s n) : ∀ c ∈ s, c = '+' ∨ isDigit c = true := by
  obtain ⟨digits, hs, -, hd, -⟩ := h
  intro c hc
  rcases hs with rfl | rfl
  · exact .inr (List.all_eq_true.mp hd c hc)
  · rcases List.mem_cons.mp hc with rfl | hc
    · exact .inl rfl
    · exact .inr (List.all_eq_true.mp hd c hc)

theorem not_blank_of_isDigit {c : Char} (h : isDigit c = true) : isBlank c = false := by
  simp only [isDigit, Bool.and_eq_true, decide_eq_true_eq] at h
  simp only [isBlank, CodeRanges.contains, blankRanges, List.any_cons, List.any_nil, Bool.or_false, Bool.or_eq_false_iff,
    Bool.and_eq_false_iff, decide_eq_false_iff_not]
  omega

theorem Spells.trimmed {s : List Char} {n : Nat} (h : Spells s n) : Text.Trimmed s := by
  have bare : ∀ c ∈ s, isBlank c = false := by
    intro c hc
    rcases h.sign_or_digit c hc with rfl | digit
    · decide
    · exact not_blank_of_isDigit digit
  exact ⟨fun c hc => bare c (List.mem_of_mem_head? hc), fun c hc => bare c (List.mem_of_mem_getLast? hc)⟩

end Decimal

namespace HeaderValue

/-- The value is visible ASCII, blanks and tabs, and without those around it, it spells the number in decimal, perhaps
behind a plus sign. -/
structure Declares (v : HeaderValue) (n : Nat) : Prop where
  visible : ∀ b ∈ v.bytes, b = 9 ∨ 32 ≤ b ∧ b ≤ 126
  spelled : ∃ left number right, v.bytes.map byteChar = left ++ number ++ right ∧
    (∀ c ∈ left ++ right, c = ' ' ∨ c = '\t') ∧ Decimal.Spells number n

theorem isVisible_iff (b : UInt8) : isVisible b = true ↔ b = 9 ∨ 32 ≤ b ∧ b ≤ 126 := by
  revert b
  apply Uuid.forall_byte
  decide +kernel

theorem isBlank_of_visible (b : UInt8) :
    isVisible b = true → isBlank (byteChar b) = true → byteChar b = ' ' ∨ byteChar b = '\t' := by
  revert b
  apply Uuid.forall_byte
  decide +kernel

theorem visible?_eq_some_iff {v : HeaderValue} {text : String} :
    v.visible? = some text ↔
      (∀ b ∈ v.bytes, b = 9 ∨ 32 ≤ b ∧ b ≤ 126) ∧ text.toList = v.bytes.map byteChar := by
  have all : v.bytes.all isVisible = true ↔ ∀ b ∈ v.bytes, b = 9 ∨ 32 ≤ b ∧ b ≤ 126 := by
    simp only [List.all_eq_true, isVisible_iff]
  rw [← all]
  constructor
  · intro h
    unfold visible? at h
    split at h
    · case isTrue visible =>
      obtain rfl := Option.some.inj h
      exact ⟨visible, String.toList_ofList⟩
    · cases h
  · rintro ⟨visible, chars⟩
    rw [visible?_eq visible, ← chars, String.ofList_toList]

theorem declares_iff {v : HeaderValue} {n : Nat} :
    v.Declares n ↔ ∃ text, v.visible? = some text ∧ Decimal.Spells (Text.trim text.toList) n := by
  constructor
  · rintro ⟨visible, left, number, right, parts, around, spells⟩
    have blank : ∀ c ∈ left ++ right, isBlank c = true := by
      intro c hc
      rcases around c hc with rfl | rfl <;> decide
    have trimmed : Text.trim (v.bytes.map byteChar) = number :=
      Text.trim_eq_iff.mpr ⟨spells.trimmed, left, right, parts, fun c hc => blank c (List.mem_append_left _ hc),
        fun c hc => blank c (List.mem_append_right _ hc)⟩
    refine ⟨_, visible?_eq_some_iff.mpr ⟨visible, String.toList_ofList⟩, ?_⟩
    rwa [String.toList_ofList, trimmed]
  · rintro ⟨text, shown, spells⟩
    obtain ⟨visible, chars⟩ := visible?_eq_some_iff.mp shown
    obtain ⟨-, left, right, parts, hl, hr⟩ := Text.trim_eq_iff.mp (rfl : Text.trim text.toList = _)
    rw [chars] at parts spells
    have around {c : Char} (inside : c ∈ v.bytes.map byteChar) (blank : isBlank c = true) : c = ' ' ∨ c = '\t' := by
      obtain ⟨b, hb, rfl⟩ := List.mem_map.mp inside
      exact isBlank_of_visible b ((isVisible_iff b).mpr (visible b hb)) blank
    refine ⟨visible, left, _, right, parts, fun c hc => ?_, spells⟩
    rcases List.mem_append.mp hc with hc | hc
    · exact around (parts ▸ List.mem_append_left _ (List.mem_append_left _ hc)) (hl c hc)
    · exact around (parts ▸ List.mem_append_right _ hc) (hr c hc)

end HeaderValue

namespace Request

def longestLength : Nat := 0x7FFF_FFFF_FFFF_FFFF

/-- The first `Content-Length` declares this length, and it is positive and not too great. -/
def HasLength (headers : Headers) (n : Nat) : Prop :=
  0 < n ∧ n ≤ longestLength ∧ ∃ v, headers.get? HeaderName.contentLength = some v ∧ v.Declares n

theorem declaredLength_eq_iff {headers : Headers} {n : Nat} (positive : 0 < n) :
    declaredLength headers = n ↔ HasLength headers n := by
  have unknown : unknownLength ≠ n := by
    unfold unknownLength
    omega
  have read (s : List Char) :
      (IntegerRange.signed 64).read s = .ok (n : Int) ↔ Decimal.Spells s n ∧ n ≤ longestLength := by
    rw [IntegerRange.read_eq_ok_of_pos (by decide) positive]
    exact and_congr_right fun _ => Int.ofNat_le
  simp only [HasLength, HeaderValue.declares_iff, declaredLength]
  cases headers.get? HeaderName.contentLength with
  | none => simp [unknown]
  | some v =>
    cases hv : v.visible? with
    | none => simp [hv, unknown]
    | some text =>
      simp only [Option.bind_some, hv, Option.some.injEq, exists_eq_left']
      have here := read (Text.trim text.toList)
      cases hr : (IntegerRange.signed 64).read (Text.trim text.toList) with
      | error e =>
        rw [hr] at here
        simp only [reduceCtorEq, false_iff] at here
        exact iff_of_false unknown fun ⟨_, fits, spells⟩ => here ⟨spells, fits⟩
      | ok m =>
        rw [hr, Except.ok.injEq] at here
        dsimp only
        rw [here]
        exact ⟨fun ⟨spells, fits⟩ => ⟨positive, fits, spells⟩, fun ⟨_, fits, spells⟩ => ⟨spells, fits⟩⟩

end Request

namespace Exchange

theorem bodySizeOf_eq_some_iff {length : Int} {n : Nat} : bodySizeOf length = some n ↔ 0 < n ∧ length = n := by
  unfold bodySizeOf
  split
  · rw [Option.some.injEq]
    omega
  · simp only [reduceCtorEq, false_iff]
    omega

theorem bodySizeOf_declaredLength {headers : Headers} {n : Nat} :
    bodySizeOf (Request.declaredLength headers) = some n ↔ Request.HasLength headers n := by
  rw [bodySizeOf_eq_some_iff]
  constructor
  · rintro ⟨positive, length⟩
    exact (Request.declaredLength_eq_iff positive).mp length
  · intro h
    exact ⟨h.1, (Request.declaredLength_eq_iff h.1).mpr h⟩

theorem read_of_receivedAt {req req' : Request} {res : Response} {now : Instant} {x : Exchange} {notes : List Trace}
    (h : read req res now = .ok (x, notes)) (same : req'.receivedAt = req.receivedAt) :
    ∃ x', read req' res now = .ok (x', notes) := by
  unfold read at h ⊢
  rw [same]
  split at h
  · cases h
  case isFalse dated =>
    rw [if_neg dated]
    cases measured : elapsed req.receivedAt now with
    | error e =>
      rw [measured] at h
      cases h
    | ok measure =>
      rw [measured] at h
      obtain ⟨-, rfl⟩ := Prod.mk.inj (Except.ok.inj h)
      exact ⟨_, rfl⟩

end Exchange

/-- The event of a request has a body size exactly if the first `Content-Length` declares it. With any headers there is an
event, and no headers are reported. -/
theorem Event.bodySize_eq_some_iff {at_ now : Instant} (dated : at_.HasDate)
    (clocked : at_.nanos ≤ now.nanos ∨ now.HasDate) (method : Method) (target : Target) (version : HttpVersion)
    (remote : Option SocketAddress) (res : Response) (service : Service) (id : Uuid) :
    ∃ notes, ∀ headers : Headers, ∃ x,
      Exchange.read { Request.received method target headers at_ with version, remote } res now = .ok (x, notes) ∧
      let e := assemble x service id
      (∀ n, e.bodySize = some n ↔ Request.HasLength headers n) ∧
      (e.bodySize = none ↔ ∀ n, ¬ Request.HasLength headers n) := by
  let bare := Request.received method target .empty at_
  have ready : Exchange.Dated bare now := Exchange.dated_iff.mpr ⟨dated, clocked⟩
  obtain ⟨_, notes, read⟩ := Exchange.read_of_dated res ready
  refine ⟨notes, fun headers => ?_⟩
  let req : Request := { Request.received method target headers at_ with version, remote }
  have same : req.receivedAt = bare.receivedAt := rfl
  obtain ⟨x, read⟩ := Exchange.read_of_receivedAt read same
  have size (n : Nat) : x.bodySize = some n ↔ Request.HasLength headers n := by
    rw [(Exchange.received_of_read read).2]
    exact Exchange.bodySizeOf_declaredLength
  refine ⟨x, read, size, ?_⟩
  show x.bodySize = none ↔ _
  rw [Option.eq_none_iff_forall_ne_some]
  exact forall_congr' fun n => not_congr (size n)

/-- A length with a plus sign, a zero in front and blanks around it, and another behind it; then a negative one. -/
theorem Event.bodySize_eq_some_iff_padded :
    let first := HeaderValue.mk (utf8 "\t+042 ")
    let twice : Headers := ⟨[(.contentLength, first), (.contentLength, ⟨utf8 "7"⟩)]⟩
    let negative : Headers := ⟨[(.contentLength, ⟨utf8 "-42"⟩)]⟩
    ∃ x x' notes,
      Exchange.read (.received .get .root twice ⟨0⟩) (Response.empty .ok) ⟨0⟩ = .ok (x, notes) ∧
      (assemble x {} ⟨0, by decide⟩).bodySize = some 42 ∧
      Exchange.read (.received .get .root negative ⟨0⟩) (Response.empty .ok) ⟨0⟩ = .ok (x', notes) ∧
      (assemble x' {} ⟨0, by decide⟩).bodySize = none := by
  intro first twice negative
  have dated : (⟨0⟩ : Instant).HasDate := by decide
  obtain ⟨notes, all⟩ := bodySize_eq_some_iff dated (.inl (Int.le_refl _)) .get .root .http11 none (Response.empty .ok) {}
    ⟨0, by decide⟩
  have declares : first.Declares 42 :=
    ⟨by decide +kernel, ['\t'], "+042".toList, [' '], by decide +kernel, by simp, "042".toList, .inr rfl, by decide,
      by decide +kernel, by decide +kernel⟩
  have undeclared (n : Nat) : ¬ Request.HasLength negative n := by
    have nothing : Exchange.bodySizeOf (Request.declaredLength negative) = none := by decide +kernel
    rw [← Exchange.bodySizeOf_declaredLength, nothing]
    nofun
  obtain ⟨x, read, size, -⟩ := all twice
  obtain ⟨x', read', -, absent⟩ := all negative
  exact ⟨x, x', notes, read, (size 42).mpr ⟨by decide, by decide, first, rfl, declares⟩, read', absent.mpr undeclared⟩

end AccessLog
