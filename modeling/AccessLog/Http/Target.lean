import AccessLog.Text.Utf8

/-!
# Request targets

The path and the query that a request asks for. Nothing in them is decoded or normalised, and a fragment is
dropped. Besides the usual form, which begins with a slash, a target may be `*`, a whole
`scheme://authority/path?query`, or an authority alone.
-/

namespace AccessLog

namespace Target

inductive ParseError where
  | empty
  | tooLong
  | invalidCharacter
  | invalidAuthority
  | invalidFormat
  | schemeTooLong
  deriving DecidableEq, Repr

def ParseError.message : ParseError → String
  | .empty => "empty string"
  | .tooLong => "uri too long"
  | .invalidCharacter => "invalid uri character"
  | .invalidAuthority => "invalid authority"
  | .invalidFormat => "invalid format"
  | .schemeTooLong => "scheme too long"

def isPathChar (c : Char) : Bool :=
  let n := c.toNat
  n == 0x21 || n == 0x22 || (0x24 ≤ n && n ≤ 0x3B) || n == 0x3D || (0x40 ≤ n && n ≤ 0x5F)
    || (0x61 ≤ n && n ≤ 0x7E) || 0x80 ≤ n

def isQueryChar (c : Char) : Bool :=
  let n := c.toNat
  n == 0x21 || (0x24 ≤ n && n ≤ 0x3B) || n == 0x3D || (0x3F ≤ n && n ≤ 0x7E) || 0x80 ≤ n

end Target

/-- No path holds a space, a question mark or a hash sign, and no query a space or a hash sign. -/
structure Target where
  path : String
  query : Option String
  path_valid : path.toList.all Target.isPathChar = true
  query_valid : query.all (fun q => q.toList.all Target.isQueryChar) = true

namespace Target

def root : Target := ⟨"/", none, by decide, by decide⟩

def star : Target := ⟨"*", none, by decide, by decide⟩

/-- The target of an authority alone. -/
def bare : Target := ⟨"", none, by decide, by decide⟩

instance : Inhabited Target := ⟨root⟩

def ofParts? (path : String) (query : Option String) : Option Target :=
  if h : path.toList.all isPathChar = true ∧
      query.all (fun q => q.toList.all isQueryChar) = true then
    some ⟨path, query, h.1, h.2⟩
  else none

/-- The path reaches to the first question mark or hash sign, the query from there to a hash sign.
An empty path reads as the root. -/
def pathAndQuery (s : List Char) : Except ParseError Target :=
  let path := s.takeWhile fun c => c != '?' && c != '#'
  let path := if path.isEmpty then ['/'] else path
  let query :=
    match s.dropWhile fun c => c != '?' && c != '#' with
    | '?' :: rest => some (String.ofList (rest.takeWhile (· != '#')))
    | _ => none
  match ofParts? (String.ofList path) query with
  | some t => .ok t
  | none => .error .invalidCharacter

def isSchemeChar (c : Char) : Bool := c.isAlphanum || c == '+' || c == '-' || c == '.' || c == '~'

def endsAuthority (c : Char) : Bool := c == '/' || c == '?' || c == '#'

def isAuthorityChar (c : Char) : Bool :=
  c.isAlphanum || "!$&'()*+,-.:;=@[]_~".toList.contains c

/-- What an authority has shown so far. User information in front of an `@` counts for nothing, and
neither does what stands inside brackets. -/
structure AuthorityScan where
  colons : Nat
  opened : Bool
  closed : Bool
  percent : Bool
  endsWithAt : Bool

def AuthorityScan.step (a : AuthorityScan) (c : Char) : Except ParseError AuthorityScan :=
  let a := { a with endsWithAt := false }
  if c = ':' then
    if 8 ≤ a.colons then .error .invalidAuthority else .ok { a with colons := a.colons + 1 }
  else if c = '[' then
    if a.percent || a.opened then .error .invalidAuthority else .ok { a with opened := true }
  else if c = ']' then
    if !a.opened || a.closed then .error .invalidAuthority
    else .ok { a with closed := true, colons := 0, percent := false }
  else if c = '@' then .ok { a with colons := 0, percent := false, endsWithAt := true }
  else if c = '%' then .ok { a with percent := true }
  else if isAuthorityChar c then .ok a
  else .error .invalidCharacter

/-- Checks the authority in front of a text, and gives back what follows it. -/
def afterAuthority (s : List Char) : Except ParseError (List Char) := do
  let a ← (s.takeWhile (!endsAuthority ·)).foldlM AuthorityScan.step ⟨0, false, false, false, false⟩
  if a.opened != a.closed || 1 < a.colons || a.endsWithAt || a.percent then
    throw .invalidAuthority
  return s.dropWhile (!endsAuthority ·)

def afterScheme (s : List Char) : Except ParseError (Option (List Char)) :=
  match s.dropWhile isSchemeChar with
  | ':' :: '/' :: '/' :: rest =>
    if s.length ≤ 3 then .ok none
    else if 64 < (s.takeWhile isSchemeChar).length then .error .schemeTooLong
    else .ok (some rest)
  | _ => .ok none

def authorityForm (s : List Char) : Except ParseError Target := do
  match ← afterScheme s with
  | none =>
    match ← afterAuthority s with
    | [] => return bare
    | _ :: _ => throw (if s.length = 1 then .invalidCharacter else .invalidFormat)
  | some [] => throw .empty
  | some (c :: rest) =>
    let after ← afterAuthority (c :: rest)
    if endsAuthority c then throw .invalidFormat
    pathAndQuery after

def parse (s : String) : Except ParseError Target :=
  if 65534 < byteLength s then .error .tooLong
  else match s.toList with
  | [] => .error .empty
  | ['*'] => .ok star
  | '/' :: rest => pathAndQuery ('/' :: rest)
  | c :: rest => authorityForm (c :: rest)

end Target

end AccessLog
