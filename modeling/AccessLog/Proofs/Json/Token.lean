import AccessLog.Json
import AccessLog.Proofs.Decimal.Written

/-!
# Tokens of JSON text

Any JSON text is cut into tokens: brackets, colons, commas, texts with their escapes undone, and words, which are
numbers and the three literals. What cannot stand in JSON becomes a fault. The cutting goes character by
character, from one mode to the next.
-/

namespace AccessLog

namespace Json

/-- A JSON value as it is read, with numbers exact: `mantissa` times ten to the `exponent`. -/
inductive Value where
  | null
  | flag (b : Bool)
  | number (mantissa exponent : Int)
  | text (s : String)
  | array (items : List Value)
  | object (members : List (String × Value))

inductive Bracket where
  | square
  | curly
  deriving DecidableEq, Repr

inductive Token where
  | opening (b : Bracket)
  | closing (b : Bracket)
  | colon
  | comma
  | text (s : String)
  | word (v : Value)
  | fault

def natural? (w : List Char) : Option Nat :=
  if w ≠ [] ∧ w.all Decimal.isDigit then some (Decimal.value w) else none

def exponent? : List Char → Option Int
  | [] => some 0
  | c :: w =>
    if c = 'e' ∨ c = 'E' then
      match w with
      | '-' :: digits => (natural? digits).map fun n => -n
      | '+' :: digits => (natural? digits).map fun n => n
      | digits => (natural? digits).map fun n => n
    else none

def unsigned? (w : List Char) : Option (Nat × Int) :=
  let whole := w.takeWhile Decimal.isDigit
  if whole = [] ∨ (whole.head? = some '0' ∧ whole ≠ ['0']) then none
  else match w.dropWhile Decimal.isDigit with
  | '.' :: rest =>
    let decimals := rest.takeWhile Decimal.isDigit
    if decimals = [] then none
    else (exponent? (rest.dropWhile Decimal.isDigit)).map fun e =>
      (Decimal.value (whole ++ decimals), e - decimals.length)
  | rest => (exponent? rest).map fun e => (Decimal.value whole, e)

def number? : List Char → Option Value
  | '-' :: w => (unsigned? w).map fun (m, e) => .number (-m) e
  | w => (unsigned? w).map fun (m, e) => .number m e

def literal? (w : List Char) : Option Value :=
  if w = ['n', 'u', 'l', 'l'] then some .null
  else if w = ['t', 'r', 'u', 'e'] then some (.flag true)
  else if w = ['f', 'a', 'l', 's', 'e'] then some (.flag false)
  else none

def wordToken (w : List Char) : Token :=
  match number? w <|> literal? w with
  | some v => .word v
  | none => .fault

def isSpace (c : Char) : Bool := c = ' ' || c = '\t' || c = '\n' || c = '\r'

def punctuation? (c : Char) : Option Token :=
  if c = '\x7b' then some (.opening .curly)
  else if c = '\x7d' then some (.closing .curly)
  else if c = '[' then some (.opening .square)
  else if c = ']' then some (.closing .square)
  else if c = ':' then some .colon
  else if c = ',' then some .comma
  else none

def isDelimiter (c : Char) : Bool := isSpace c || (punctuation? c).isSome || c = '"'

def hexValue? (c : Char) : Option Nat :=
  if Decimal.isDigit c then some (c.toNat - 48)
  else if 97 ≤ c.toNat ∧ c.toNat ≤ 102 then some (c.toNat - 87)
  else if 65 ≤ c.toNat ∧ c.toNat ≤ 70 then some (c.toNat - 55)
  else none

def escaped? (c : Char) : Option Char :=
  if c = '"' ∨ c = '\\' ∨ c = '/' then some c
  else if c = 'b' then some '\x08'
  else if c = 'f' then some '\x0c'
  else if c = 'n' then some '\n'
  else if c = 'r' then some '\r'
  else if c = 't' then some '\t'
  else none

/-- The first half of a character that is escaped in two, waiting for the second. -/
abbrev Half := Option Nat

inductive Mode where
  | between
  | word (read : List Char)
  | text (read : List Char) (half : Half)
  | escape (read : List Char) (half : Half)
  | code (read : List Char) (half : Half) (missing n : Nat)

def broken : List Token × Mode := ([.fault], .between)

def begin (c : Char) : List Token × Mode :=
  if isSpace c then ([], .between)
  else if c = '"' then ([], .text [] none)
  else match punctuation? c with
  | some t => ([t], .between)
  | none => ([], .word [c])

def decoded (read : List Char) (half : Half) (n : Nat) : List Token × Mode :=
  match half with
  | none =>
    if 0xD800 ≤ n ∧ n < 0xDC00 then ([], .text read (some n))
    else if 0xDC00 ≤ n ∧ n < 0xE000 then broken
    else ([], .text (read ++ [Char.ofNat n]) none)
  | some high =>
    if 0xDC00 ≤ n ∧ n < 0xE000 then
      ([], .text (read ++ [Char.ofNat (0x10000 + (high - 0xD800) * 0x400 + (n - 0xDC00))]) none)
    else broken

def Mode.next : Mode → Char → List Token × Mode
  | .between, c => begin c
  | .word read, c =>
    if isDelimiter c then (wordToken read :: (begin c).1, (begin c).2) else ([], .word (read ++ [c]))
  | .text read none, c =>
    if c = '"' then ([.text (String.ofList read)], .between)
    else if c = '\\' then ([], .escape read none)
    else if c.toNat < 0x20 then broken
    else ([], .text (read ++ [c]) none)
  | .text read (some high), c => if c = '\\' then ([], .escape read (some high)) else broken
  | .escape read half, c =>
    if c = 'u' then ([], .code read half 4 0)
    else match half, escaped? c with
    | none, some d => ([], .text (read ++ [d]) none)
    | _, _ => broken
  | .code read half missing n, c =>
    match hexValue? c with
    | none => broken
    | some d =>
      if missing ≤ 1 then decoded read half (n * 16 + d)
      else ([], .code read half (missing - 1) (n * 16 + d))

def Mode.finish : Mode → List Token
  | .between => []
  | .word read => [wordToken read]
  | _ => [.fault]

def tokens : Mode → List Char → List Token
  | m, [] => m.finish
  | m, c :: rest => (m.next c).1 ++ tokens (m.next c).2 rest

def Delimited (rest : List Char) : Prop := ∀ c ∈ rest.head?, isDelimiter c = true

theorem delimited_nil : Delimited [] := by simp [Delimited]

theorem delimited_cons {c : Char} (h : isDelimiter c = true) (rest : List Char) :
    Delimited (c :: rest) := by simpa [Delimited] using h

theorem begin_of_not_delimiter {c : Char} (h : isDelimiter c = false) :
    begin c = ([], .word [c]) := by
  simp only [isDelimiter, Bool.or_eq_false_iff, Option.isSome_eq_false_iff,
    Option.isNone_iff_eq_none, decide_eq_false_iff_not] at h
  simp [begin, h.1.1, h.1.2, h.2]

theorem tokens_word_end (read : List Char) {rest : List Char} (h : Delimited rest) :
    tokens (.word read) rest = wordToken read :: tokens .between rest := by
  cases rest with
  | nil => rfl
  | cons c rest =>
    have hc : isDelimiter c = true := h c rfl
    simp [tokens, Mode.next, hc]

theorem tokens_word_append (read : List Char) {w rest : List Char}
    (hw : ∀ c ∈ w, isDelimiter c = false) :
    tokens (.word read) (w ++ rest) = tokens (.word (read ++ w)) rest := by
  induction w generalizing read with
  | nil => simp
  | cons c w ih =>
    have hc := hw c List.mem_cons_self
    rw [List.cons_append, tokens]
    simp only [Mode.next, hc]
    rw [if_neg (by simp), List.nil_append, ih _ fun d hd => hw d (List.mem_cons_of_mem c hd), List.append_assoc]
    rfl

theorem tokens_word {w rest : List Char} (hn : w ≠ []) (hw : ∀ c ∈ w, isDelimiter c = false)
    (h : Delimited rest) :
    tokens .between (w ++ rest) = wordToken w :: tokens .between rest := by
  cases w with
  | nil => exact absurd rfl hn
  | cons c w =>
    rw [List.cons_append, tokens]
    simp only [Mode.next, begin_of_not_delimiter (hw c List.mem_cons_self), List.nil_append]
    rw [tokens_word_append _ fun d hd => hw d (List.mem_cons_of_mem c hd), tokens_word_end _ h]
    rfl

theorem unsigned?_ofNat (n : Nat) : unsigned? (Decimal.ofNat n) = some (n, 0) := by
  have hall : ∀ c ∈ Decimal.ofNat n, Decimal.isDigit c = true :=
    fun c hc => Decimal.isDigit_of_mem_ofNat hc
  have ht : (Decimal.ofNat n).takeWhile Decimal.isDigit = Decimal.ofNat n := by
    rw [← List.append_nil (Decimal.ofNat n), List.takeWhile_append_of_pos hall]
    rfl
  have hd : (Decimal.ofNat n).dropWhile Decimal.isDigit = [] := by
    rw [← List.append_nil (Decimal.ofNat n), List.dropWhile_append_of_pos hall]
    rfl
  have hz : ¬ ((Decimal.ofNat n).head? = some '0' ∧ Decimal.ofNat n ≠ ['0']) := by
    rintro ⟨h0, hne⟩
    rcases Nat.eq_zero_or_pos n with rfl | hn
    · exact hne (by rw [Decimal.ofNat]; rfl)
    · exact Decimal.head?_ofNat_ne_zero hn h0
  simp only [unsigned?, ht, hd, Decimal.ofNat_ne_nil, hz, or_false, if_false]
  simp [exponent?]

theorem number?_ofInt (n : Int) : number? (Decimal.ofInt n) = some (.number n 0) := by
  cases n with
  | ofNat n =>
    have hm : ∀ w, Decimal.ofNat n ≠ '-' :: w := by
      intro w h
      have := Decimal.isDigit_of_mem_ofNat (n := n) (c := '-') (by simp [h])
      simp [Decimal.isDigit] at this
    rw [Decimal.ofInt, number?]
    · rw [unsigned?_ofNat]; rfl
    · exact hm
  | negSucc n =>
    rw [Decimal.ofInt, number?, unsigned?_ofNat]
    rfl

theorem wordToken_ofInt (n : Int) : wordToken (Decimal.ofInt n) = .word (.number n 0) := by
  rw [wordToken, number?_ofInt]
  rfl

theorem isDelimiter_of_isDigit {c : Char} (h : Decimal.isDigit c = true) :
    isDelimiter c = false := by
  have ne : ∀ d, Decimal.isDigit d = false → c ≠ d := by
    intro d hd hcd
    rw [hcd, hd] at h
    exact Bool.false_ne_true h
  simp [isDelimiter, isSpace, punctuation?, ne ' ' rfl, ne '\t' rfl, ne '\n' rfl, ne '\r' rfl,
    ne '"' rfl, ne '\x7b' rfl, ne '\x7d' rfl, ne '[' rfl, ne ']' rfl, ne ':' rfl, ne ',' rfl]

theorem isDelimiter_of_mem_ofInt {n : Int} {c : Char} (h : c ∈ Decimal.ofInt n) :
    isDelimiter c = false := by
  cases n with
  | ofNat n => exact isDelimiter_of_isDigit (Decimal.isDigit_of_mem_ofNat h)
  | negSucc n =>
    rcases List.mem_cons.mp h with rfl | h
    · rfl
    · exact isDelimiter_of_isDigit (Decimal.isDigit_of_mem_ofNat h)

theorem ofInt_ne_nil (n : Int) : Decimal.ofInt n ≠ [] := by
  cases n with
  | ofNat n => exact Decimal.ofNat_ne_nil n
  | negSucc n => exact List.cons_ne_nil _ _

theorem hexValue?_digitChar : ∀ d < 16, hexValue? (Nat.digitChar d) = some d := by decide

theorem tokens_code (read : List Char) {c : Char} {d missing n : Nat} (hd : hexValue? c = some d)
    (hm : 1 < missing) (rest : List Char) :
    tokens (.code read none missing n) (c :: rest) =
      tokens (.code read none (missing - 1) (n * 16 + d)) rest := by
  simp [tokens, Mode.next, hd, Nat.not_le.mpr hm]

theorem tokens_code_last (read : List Char) {c : Char} {d n : Nat} (hd : hexValue? c = some d)
    (hn : n * 16 + d < 0xD800) (rest : List Char) :
    tokens (.code read none 1 n) (c :: rest) =
      tokens (.text (read ++ [Char.ofNat (n * 16 + d)]) none) rest := by
  have hh : ¬ 0xD800 ≤ n * 16 + d := Nat.not_le.mpr hn
  have hl : ¬ 0xDC00 ≤ n * 16 + d := by omega
  simp [tokens, Mode.next, hd, decoded, hh, hl]

theorem tokens_control (read : List Char) {c : Char} (h : c.toNat < 0x20) (rest : List Char) :
    tokens (.text read none) ('\\' :: 'u' :: '0' :: '0' :: Nat.digitChar (c.toNat / 16) ::
      Nat.digitChar (c.toNat % 16) :: rest) = tokens (.text (read ++ [c]) none) rest := by
  have h0 : hexValue? '0' = some 0 := by decide
  have h1 := hexValue?_digitChar (c.toNat / 16) (by omega)
  have h2 := hexValue?_digitChar (c.toNat % 16) (by omega)
  have hc : ((0 * 16 + 0) * 16 + c.toNat / 16) * 16 + c.toNat % 16 = c.toNat := by omega
  have hu : ∀ rest, tokens (.text read none) ('\\' :: 'u' :: rest) =
      tokens (.code read none 4 0) rest := fun rest => rfl
  rw [hu, tokens_code read h0 (by decide), tokens_code read h0 (by decide),
    tokens_code read h1 (by decide), tokens_code_last read h2 (by omega), hc, Char.ofNat_toNat]

theorem tokens_escape (read : List Char) (c : Char) (rest : List Char) :
    tokens (.text read none) (escape c ++ rest) = tokens (.text (read ++ [c]) none) rest := by
  unfold escape
  split
  · case isTrue h => subst h; rfl
  split
  · case isTrue h => subst h; rfl
  split
  · case isTrue h => subst h; rfl
  split
  · case isTrue h => subst h; rfl
  split
  · case isTrue h => subst h; rfl
  split
  · case isTrue h => subst h; rfl
  split
  · case isTrue h => subst h; rfl
  split
  · case isTrue h => exact tokens_control read h rest
  · case isFalse hq hb _ _ _ _ _ hc => simp [tokens, Mode.next, hq, hb, hc]

theorem tokens_string (s rest : List Char) :
    tokens .between (string s ++ rest) = .text (String.ofList s) :: tokens .between rest := by
  have go : ∀ read, tokens (.text read none) (s.flatMap escape ++ '"' :: rest) =
      .text (String.ofList (read ++ s)) :: tokens .between rest := by
    induction s with
    | nil => intro read; simp [tokens, Mode.next]
    | cons c s ih =>
      intro read
      rw [List.flatMap_cons, List.append_assoc, tokens_escape, ih, List.append_assoc]
      rfl
  simpa [string, tokens, Mode.next, begin, isSpace] using go []

end Json

end AccessLog
