import AccessLog.Decimal.Shortest

/-!
# JSON text

The JSON that is written here: objects whose values are scalars, and objects of those. Text is escaped only
where JSON requires it, nothing stands between the tokens, and a real number that is not finite is null.
-/

namespace AccessLog

inductive Scalar where
  | null
  | flag (b : Bool)
  | integer (n : Int)
  | real (x : Float)
  | text (s : String)

abbrev Members := List (String × Scalar)

inductive Json where
  | scalar (s : Scalar)
  | object (members : Members)

namespace Json

/-- Controls without a letter of their own are written `\u00xx`. -/
def escape (c : Char) : List Char :=
  if c = '"' then ['\\', '"']
  else if c = '\\' then ['\\', '\\']
  else if c = '\x08' then ['\\', 'b']
  else if c = '\x0c' then ['\\', 'f']
  else if c = '\n' then ['\\', 'n']
  else if c = '\r' then ['\\', 'r']
  else if c = '\t' then ['\\', 't']
  else if c.toNat < 0x20 then
    ['\\', 'u', '0', '0', Nat.digitChar (c.toNat / 16), Nat.digitChar (c.toNat % 16)]
  else [c]

def string (s : List Char) : List Char := '"' :: s.flatMap escape ++ ['"']

def member {α : Type} (render : α → List Char) (m : String × α) : List Char :=
  string m.1.toList ++ ':' :: render m.2

def objectOf {α : Type} (render : α → List Char) (members : List (String × α)) : List Char :=
  '\x7b' :: List.intercalate [','] (members.map (member render)) ++ ['\x7d']

end Json

def Scalar.render : Scalar → List Char
  | .null => ['n', 'u', 'l', 'l']
  | .flag true => ['t', 'r', 'u', 'e']
  | .flag false => ['f', 'a', 'l', 's', 'e']
  | .integer n => Decimal.ofInt n
  | .real x =>
    match (Double.ofFloat x).text? .json with
    | some s => s.toList
    | none => ['n', 'u', 'l', 'l']
  | .text s => Json.string s.toList

def Members.render (members : Members) : List Char := Json.objectOf Scalar.render members

def Members.text (members : Members) : String := String.ofList members.render

namespace Json

def render : Json → List Char
  | .scalar s => s.render
  | .object members => Members.render members

def renderDocument (members : List (String × Json)) : List Char := objectOf render members

def documentText (members : List (String × Json)) : String := String.ofList (renderDocument members)

end Json

end AccessLog
