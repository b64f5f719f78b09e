import AccessLog.Text.CaseTable

/-!
# Lower case

Full lower-casing of a text. Every character goes to its small letter on its own, but for two: İ becomes
two characters, and a capital sigma becomes ς at the end of a word and σ elsewhere, which depends on the
text around it.
-/

namespace AccessLog

def isCased (c : Char) : Bool := casedRanges.contains c

def isCaseIgnorable (c : Char) : Bool := caseIgnorableRanges.contains c

def smallLetters (c : Char) : List Char :=
  if c.toNat < 0x80 then [c.toLower]
  else if c = 'İ' then ['i', '\u0307']
  else match capitalRuns.find? (·.contains c.toNat) with
    | some r => [Char.ofNat (c.toNat + r.shift).toNat]
    | none => [c]

namespace Text

def casedAhead (s : List Char) : Bool :=
  match s.dropWhile isCaseIgnorable with
  | c :: _ => isCased c
  | [] => false

/-- A letter stands before, read backwards, and none after. -/
def endsWord (before after : List Char) : Bool := casedAhead before && !casedAhead after

/-- Lower-cases `s`, where `before` is the text in front of it, read backwards. -/
def lowerAfter (before : List Char) : List Char → List Char
  | [] => []
  | c :: rest =>
    (if c = 'Σ' then [if endsWord before rest then 'ς' else 'σ'] else smallLetters c)
      ++ lowerAfter (c :: before) rest

def lower (s : List Char) : List Char := lowerAfter [] s

end Text

def lowercase (s : String) : String := String.ofList (Text.lower s.toList)

@[simp] theorem toList_lowercase (s : String) : (lowercase s).toList = Text.lower s.toList := by
  simp [lowercase]

end AccessLog
