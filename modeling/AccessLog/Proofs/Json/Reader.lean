import AccessLog.Proofs.Json.Token

/-!
# Reading JSON text

A reader of all JSON: it goes token by token with a stack of what is still open. What this library writes, objects of
scalars and objects of those, is read back member by member, in order and with nothing added.
-/

namespace AccessLog

namespace Json

/-- What is open around the place of reading: the values or members before it, and a key. -/
inductive Frame where
  | array (before : List Value)
  | object (before : List (String × Value)) (key : String)

inductive Point where
  | value
  | firstItem
  | firstKey
  | key (before : List (String × Value))
  | colon (before : List (String × Value)) (key : String)
  | after (v : Value)
  | failed

structure State where
  stack : List Frame
  point : Point

namespace State

def failure : State := ⟨[], .failed⟩

def startValue (stack : List Frame) : Token → State
  | .opening .square => ⟨stack, .firstItem⟩
  | .opening .curly => ⟨stack, .firstKey⟩
  | .text s => ⟨stack, .after (.text s)⟩
  | .word v => ⟨stack, .after v⟩
  | _ => failure

def next : State → Token → State
  | ⟨stack, .value⟩, t => startValue stack t
  | ⟨stack, .firstItem⟩, .closing .square => ⟨stack, .after (.array [])⟩
  | ⟨stack, .firstItem⟩, t => startValue stack t
  | ⟨stack, .firstKey⟩, .closing .curly => ⟨stack, .after (.object [])⟩
  | ⟨stack, .firstKey⟩, .text key => ⟨stack, .colon [] key⟩
  | ⟨stack, .key before⟩, .text key => ⟨stack, .colon before key⟩
  | ⟨stack, .colon before key⟩, .colon => ⟨.object before key :: stack, .value⟩
  | ⟨.array before :: stack, .after v⟩, .comma => ⟨.array (before ++ [v]) :: stack, .value⟩
  | ⟨.array before :: stack, .after v⟩, .closing .square =>
    ⟨stack, .after (.array (before ++ [v]))⟩
  | ⟨.object before key :: stack, .after v⟩, .comma => ⟨stack, .key (before ++ [(key, v)])⟩
  | ⟨.object before key :: stack, .after v⟩, .closing .curly =>
    ⟨stack, .after (.object (before ++ [(key, v)]))⟩
  | _, _ => failure

def result? : State → Option Value
  | ⟨[], .after v⟩ => some v
  | _ => none

def run (st : State) (s : List Char) : State := (tokens .between s).foldl next st

end State

def read? (s : String) : Option Value := (State.run ⟨[], .value⟩ s.toList).result?

/-- The text denotes the value, whatever stands around it. -/
def Reads (s : List Char) (v : Value) : Prop :=
  ∀ stack rest, Delimited rest →
    State.run ⟨stack, .value⟩ (s ++ rest) = State.run ⟨stack, .after v⟩ rest

theorem read?_of_reads {s : List Char} {v : Value} (h : Reads s v) :
    read? (String.ofList s) = some v := by
  have := h [] [] delimited_nil
  rw [List.append_nil] at this
  rw [read?, String.toList_ofList, this]
  rfl

namespace State

theorem run_punctuation (st : State) {c : Char} {t : Token} (hp : punctuation? c = some t)
    (hs : isSpace c = false) (hq : c ≠ '"') (rest : List Char) :
    run st (c :: rest) = run (st.next t) rest := by
  simp [run, tokens, Mode.next, begin, hp, hs, hq]

theorem run_string (st : State) (s rest : List Char) :
    run st (string s ++ rest) = run (st.next (.text (String.ofList s))) rest := by
  rw [run, tokens_string]
  rfl

theorem run_word (st : State) {w rest : List Char} {v : Value} (hv : wordToken w = .word v)
    (hn : w ≠ []) (hw : ∀ c ∈ w, isDelimiter c = false) (h : Delimited rest) :
    run st (w ++ rest) = run (st.next (.word v)) rest := by
  rw [run, tokens_word hn hw h, hv]
  rfl

end State

end Json

/-- Scalars that are read back as themselves: all but real numbers, which are written rounded. -/
def Scalar.Exact : Scalar → Prop
  | .real _ => False
  | _ => True

def Scalar.value : Scalar → Json.Value
  | .null => .null
  | .flag b => .flag b
  | .integer n => .number n 0
  | .real _ => .null
  | .text s => .text s

def Members.values (members : Members) : List (String × Json.Value) :=
  members.map fun m => (m.1, m.2.value)

namespace Json

def Exact : Json → Prop
  | .scalar s => s.Exact
  | .object members => ∀ m ∈ members, m.2.Exact

def value : Json → Value
  | .scalar s => s.value
  | .object members => .object members.values

theorem reads_scalar {s : Scalar} (h : s.Exact) : Reads s.render s.value := by
  intro stack rest hr
  cases s with
  | null =>
    exact State.run_word _ (v := .null) rfl (by simp [Scalar.render])
      (by simp [Scalar.render, isDelimiter, isSpace, punctuation?]) hr
  | flag b =>
    cases b <;>
      exact State.run_word _ rfl (by simp [Scalar.render])
        (by simp [Scalar.render, isDelimiter, isSpace, punctuation?]) hr
  | integer n =>
    exact State.run_word _ (wordToken_ofInt n) (ofInt_ne_nil n)
      (fun c hc => isDelimiter_of_mem_ofInt hc) hr
  | real x => exact h.elim
  | text s =>
    rw [Scalar.render, State.run_string, String.ofList_toList]
    rfl

variable {α : Type} {render : α → List Char} {value : α → Value}

theorem run_members {members : List (String × α)} (hne : members ≠ [])
    (hm : ∀ m ∈ members, Reads (render m.2) (value m.2)) (st : State) {stack : List Frame}
    (before : List (String × Value))
    (hst : ∀ key, st.next (.text key) = ⟨stack, .colon before key⟩) (rest : List Char) :
    st.run (List.intercalate [','] (members.map (member render)) ++ '\x7d' :: rest) =
      State.run ⟨stack, .after (.object (before ++ members.map fun m => (m.1, value m.2)))⟩
        rest := by
  induction members generalizing st before with
  | nil => exact absurd rfl hne
  | cons m more ih =>
    have first : ∀ {mark : List Char}, Delimited mark → st.run (member render m ++ mark) =
        State.run ⟨.object before m.1 :: stack, .after (value m.2)⟩ mark := by
      intro mark hd
      rw [member, List.append_assoc, State.run_string, String.ofList_toList, hst,
        List.cons_append, State.run_punctuation _ rfl rfl (by decide)]
      exact hm m List.mem_cons_self _ mark hd
    cases more with
    | nil =>
      rw [List.map_singleton, List.intercalate_singleton,
        first (delimited_cons rfl rest), State.run_punctuation _ rfl rfl (by decide)]
      rfl
    | cons m' more =>
      rw [List.map_cons, List.map_cons, List.intercalate_cons_cons, List.append_assoc,
        List.append_assoc, List.singleton_append, first (delimited_cons rfl _),
        State.run_punctuation _ rfl rfl (by decide)]
      change State.run ⟨stack, .key (before ++ [(m.1, value m.2)])⟩ _ = _
      have := ih (by simp) (fun x hx => hm x (List.mem_cons_of_mem m hx))
        ⟨stack, .key (before ++ [(m.1, value m.2)])⟩ (before ++ [(m.1, value m.2)])
        (fun key => rfl)
      simpa using this

theorem reads_objectOf {members : List (String × α)}
    (hm : ∀ m ∈ members, Reads (render m.2) (value m.2)) :
    Reads (objectOf render members) (.object (members.map fun m => (m.1, value m.2))) := by
  intro stack rest _
  rw [objectOf, List.cons_append, List.cons_append, State.run_punctuation _ rfl rfl (by decide)]
  cases members with
  | nil =>
    change State.run ⟨stack, .firstKey⟩ ('\x7d' :: rest) = _
    rw [State.run_punctuation _ rfl rfl (by decide)]
    rfl
  | cons m more =>
    rw [List.append_assoc]
    exact run_members (by simp) hm ⟨stack, .firstKey⟩ [] (fun key => rfl) rest

theorem reads_members {members : Members} (h : ∀ m ∈ members, m.2.Exact) :
    Reads members.render (.object members.values) :=
  reads_objectOf fun m hm => reads_scalar (h m hm)

theorem reads_json {j : Json} (h : j.Exact) : Reads j.render j.value := by
  cases j with
  | scalar s => exact reads_scalar h
  | object members => exact reads_members h

theorem read?_members {members : Members} (h : ∀ m ∈ members, m.2.Exact) :
    read? members.text = some (.object members.values) :=
  read?_of_reads (reads_members h)

theorem read?_document {members : List (String × Json)} (h : ∀ m ∈ members, m.2.Exact) :
    read? (documentText members) = some (.object (members.map fun m => (m.1, m.2.value))) :=
  read?_of_reads (reads_objectOf fun m hm => reads_json (h m hm))

def Visible (s : List Char) : Prop := ∀ c ∈ s, 0x20 ≤ c.toNat

theorem visible_cons {c : Char} {s : List Char} (hc : 0x20 ≤ c.toNat) (hs : Visible s) :
    Visible (c :: s) := by
  intro d hd
  rcases List.mem_cons.mp hd with rfl | hd
  · exact hc
  · exact hs d hd

theorem visible_append {s t : List Char} (hs : Visible s) (ht : Visible t) : Visible (s ++ t) := by
  intro c hc
  rcases List.mem_append.mp hc with hc | hc
  · exact hs c hc
  · exact ht c hc

theorem visible_intercalate {parts : List (List Char)} (h : ∀ s ∈ parts, Visible s) :
    Visible (List.intercalate [','] parts) := by
  induction parts with
  | nil => simp [Visible]
  | cons s rest ih =>
    have hs := h s List.mem_cons_self
    have hr := ih fun t ht => h t (List.mem_cons_of_mem s ht)
    cases rest with
    | nil => rwa [List.intercalate_singleton]
    | cons t rest =>
      rw [List.intercalate_cons_cons]
      exact visible_append (visible_append hs (by simp [Visible])) hr

theorem visible_digitChar : ∀ d < 16, 0x20 ≤ (Nat.digitChar d).toNat := by decide

theorem visible_escape (c : Char) : Visible (escape c) := by
  unfold escape
  repeat' split
  · simp [Visible]
  · simp [Visible]
  · simp [Visible]
  · simp [Visible]
  · simp [Visible]
  · simp [Visible]
  · simp [Visible]
  · case isTrue h =>
    have h1 := visible_digitChar (c.toNat / 16) (by omega)
    have h2 := visible_digitChar (c.toNat % 16) (by omega)
    simp [Visible, h1, h2]
  · case isFalse h =>
    simp only [Visible, List.mem_singleton, forall_eq]
    omega

theorem visible_string (s : List Char) : Visible (string s) := by
  refine visible_append (visible_cons (by decide) ?_) (visible_cons (by decide) (by simp [Visible]))
  intro c hc
  obtain ⟨d, _, hd⟩ := List.mem_flatMap.mp hc
  exact visible_escape d c hd

theorem visible_ofInt (n : Int) : Visible (Decimal.ofInt n) := by
  have hd : ∀ n, Visible (Decimal.ofNat n) := by
    intro n c hc
    have := Decimal.isDigit_of_mem_ofNat hc
    simp only [Decimal.isDigit, Bool.and_eq_true, decide_eq_true_eq] at this
    omega
  cases n with
  | ofNat n => exact hd n
  | negSucc n => exact visible_cons (by decide) (hd (n + 1))

theorem visible_scalar {s : Scalar} (h : s.Exact) : Visible s.render := by
  cases s with
  | null => simp [Visible, Scalar.render]
  | flag b => cases b <;> simp [Visible, Scalar.render]
  | integer n => exact visible_ofInt n
  | real x => exact h.elim
  | text s => exact visible_string s.toList

theorem visible_objectOf {members : List (String × α)}
    (hm : ∀ m ∈ members, Visible (render m.2)) : Visible (objectOf render members) := by
  refine visible_append (visible_cons (by decide) (visible_intercalate ?_))
    (visible_cons (by decide) (by simp [Visible]))
  intro s hs
  obtain ⟨m, hmem, rfl⟩ := List.mem_map.mp hs
  exact visible_append (visible_string m.1.toList) (visible_cons (by decide) (hm m hmem))

theorem visible_members {members : Members} (h : ∀ m ∈ members, m.2.Exact) :
    Visible members.render :=
  visible_objectOf fun m hm => visible_scalar (h m hm)

theorem visible_json {j : Json} (h : j.Exact) : Visible j.render := by
  cases j with
  | scalar s => exact visible_scalar h
  | object members => exact visible_members h

theorem visible_document {members : List (String × Json)} (h : ∀ m ∈ members, m.2.Exact) :
    Visible (renderDocument members) :=
  visible_objectOf fun m hm => visible_json (h m hm)

end Json

end AccessLog
