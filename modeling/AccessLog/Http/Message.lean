import AccessLog.Calendar
import AccessLog.Decimal.Reader
import AccessLog.Http.Response
import AccessLog.Http.Target
import AccessLog.Text.Pieces

/-!
# Messages on a connection

Requests and answers as the bytes of HTTP/1.1. The head of a request ends with an empty line. Its body has
the length that `Content-Length` tells, comes in chunks, or is absent; it is read byte by byte, so that it may
arrive in any pieces.
-/

namespace AccessLog

structure Head where
  method : Method
  target : Target
  version : HttpVersion
  headers : Headers

namespace Head

def longest : Nat := 417792

def trimLine (reversed : Bytes) : Bytes :=
  match reversed with
  | 13 :: line => line.reverse
  | line => line.reverse

/-- The lines up to the first empty one that follows a line, and the bytes behind it. -/
def split (lines : List Bytes) (reversed : Bytes) : Bytes → Option (List Bytes × Bytes)
  | [] => none
  | 10 :: rest =>
    let line := trimLine reversed
    if !line.isEmpty then split (line :: lines) [] rest
    else if lines.isEmpty then split [] [] rest
    else some (lines.reverse, rest)
  | b :: rest => split lines (b :: reversed) rest

def version? (s : String) : Option HttpVersion :=
  match s with
  | "HTTP/1.0" => some .http10
  | "HTTP/1.1" => some .http11
  | _ => none

def isBlank (b : UInt8) : Bool := b = 32 || b = 9

def trimBlanks (b : Bytes) : Bytes :=
  ((b.dropWhile isBlank).reverse.dropWhile isBlank).reverse

def header? (line : Bytes) : Option (HeaderName × HeaderValue) := do
  let name ← HeaderName.parse? (← textOfBytes? (line.takeWhile (· ≠ 58)))
  match line.dropWhile (· ≠ 58) with
  | _ :: value => return (name, ← HeaderValue.parse? (trimBlanks value))
  | [] => none

def ofLines? : List Bytes → Option Head
  | [] => none
  | first :: rest => do
    let [method, target, version] := (← textOfBytes? first).splitOn " " | none
    return {
      method := ← Method.ofString? method
      target := ← (Target.parse target).toOption
      version := ← version? version
      headers := ⟨← rest.mapM header?⟩ }

def lists (h : Head) (name item : String) : Bool :=
  match h.headers.lookup name with
  | some value => (commaList value).any fun piece => piece.toList.map Char.toLower == item.toList
  | none => false

def keepsConnection (h : Head) : Bool :=
  if h.version = .http10 then h.lists "connection" "keep-alive"
  else !h.lists "connection" "close"

def asksLeave (h : Head) : Bool := h.version = .http11 && h.lists "expect" "100-continue"

end Head

inductive BodyStage where
  | counted (left : Nat)
  | chunkSize (size : Option Nat)
  | chunkExtension (size : Nat)
  | chunk (left : Nat)
  | chunkEnd
  | trailer (empty : Bool)
  | complete
  | broken
  deriving DecidableEq, Repr

/-- A body and the stage of its reading, the last byte first. -/
structure BodyReader where
  stage : BodyStage
  reversed : Bytes := []

namespace BodyReader

def ofLength (n : Nat) : BodyReader :=
  { stage := if n = 0 then .complete else .counted n }

/-- Nothing if the length is no number. Chunks count before a length. -/
def ofHead? (h : Head) : Option BodyReader :=
  if h.lists "transfer-encoding" "chunked" then some { stage := .chunkSize none }
  else match h.headers.lookup "content-length" with
  | none => some (ofLength 0)
  | some text =>
    match (IntegerRange.unsigned 64).read text.toList with
    | .ok n => some (ofLength n.toNat)
    | .error _ => none

def hexValue? (b : UInt8) : Option Nat :=
  if 48 ≤ b && b ≤ 57 then some (b.toNat - 48)
  else if 97 ≤ b && b ≤ 102 then some (b.toNat - 87)
  else if 65 ≤ b && b ≤ 70 then some (b.toNat - 55)
  else none

/-- A chunk that claims to be larger breaks the body. -/
def largestChunk : Nat := 0xFFFF_FFFF_FFFF_FFFF

def afterSize : Nat → BodyStage
  | 0 => .trailer true
  | n + 1 => .chunk (n + 1)

def stageAfter (stage : BodyStage) (b : UInt8) : BodyStage :=
  match stage with
  | .counted n => if n ≤ 1 then .complete else .counted (n - 1)
  | .chunkSize size =>
    match hexValue? b, size with
    | some d, _ =>
      let n := size.getD 0 * 16 + d
      if n ≤ largestChunk then .chunkSize (some n) else .broken
    | none, none => .broken
    | none, some n =>
      if b = 10 then afterSize n
      else if b = 13 || b = 59 || Head.isBlank b then .chunkExtension n
      else .broken
  | .chunkExtension n => if b = 10 then afterSize n else .chunkExtension n
  | .chunk n => if n ≤ 1 then .chunkEnd else .chunk (n - 1)
  | .chunkEnd => if b = 10 then .chunkSize none else if b = 13 then .chunkEnd else .broken
  | .trailer empty =>
    if b = 10 then (if empty then .complete else .trailer true)
    else if b = 13 then .trailer empty
    else .trailer false
  | .complete => .complete
  | .broken => .broken

def takes : BodyStage → Bool
  | .counted _ => true
  | .chunk _ => true
  | _ => false

def step (r : BodyReader) (b : UInt8) : BodyReader :=
  { stage := stageAfter r.stage b
    reversed := if takes r.stage then b :: r.reversed else r.reversed }

def ended (r : BodyReader) : Bool := r.stage = .complete || r.stage = .broken

/-- Reads on, and gives back what stands behind the end of the body. -/
def read (r : BodyReader) : Bytes → BodyReader × Bytes
  | [] => (r, [])
  | b :: rest => if r.ended then (r, b :: rest) else (r.step b).read rest

def body? (r : BodyReader) : Option Bytes :=
  if r.stage = .complete then some r.reversed.reverse else none

/-- It does not matter in which pieces the bytes come. -/
theorem read_append (r : BodyReader) (first second : Bytes) :
    r.read (first ++ second) = (r.read first).1.read ((r.read first).2 ++ second) := by
  induction first generalizing r with
  | nil => rfl
  | cons b rest ih =>
    by_cases h : r.ended
    · simp [read, h]
    · simpa [read, h] using ih (r.step b)

theorem read_of_ended {r : BodyReader} (h : r.ended) (bytes : Bytes) : r.read bytes = (r, bytes) := by
  cases bytes <;> simp [read, h]

theorem read_counted (body rest seen : Bytes) (ne : body ≠ []) :
    (⟨.counted body.length, seen⟩ : BodyReader).read (body ++ rest)
      = (⟨.complete, body.reverse ++ seen⟩, rest) := by
  induction body generalizing seen with
  | nil => exact absurd rfl ne
  | cons b more ih =>
    cases more with
    | nil => simp [read, ended, step, stageAfter, takes, read_of_ended]
    | cons c more =>
      have := ih (b :: seen) (by simp)
      simpa [read, ended, step, stageAfter, takes] using this

theorem body?_ofLength (body rest : Bytes) :
    ((ofLength body.length).read (body ++ rest)).1.body? = some body
      ∧ ((ofLength body.length).read (body ++ rest)).2 = rest := by
  cases body with
  | nil => simp [ofLength, read_of_ended, ended, body?]
  | cons b more =>
    have start : ofLength (b :: more).length = ⟨.counted (b :: more).length, []⟩ := by simp [ofLength]
    rw [start, read_counted (b :: more) rest [] (by simp)]
    simp [body?]

end BodyReader

namespace Instant

def weekdays : List String := ["Sun", "Mon", "Tue", "Wed", "Thu", "Fri", "Sat"]

def months : List String :=
  ["Jan", "Feb", "Mar", "Apr", "May", "Jun", "Jul", "Aug", "Sep", "Oct", "Nov", "Dec"]

def headerText (t : Instant) : String :=
  let day := t.seconds.fdiv 86400
  let date := Calendar.dateOfDay day
  weekdays.getD ((day + 4).fmod 7).toNat "" ++ ", " ++ String.ofList (Decimal.padded 2 date.day) ++ " "
    ++ months.getD (date.month - 1) "" ++ " " ++ String.ofList (Calendar.yearText date.year) ++ " "
    ++ String.ofList (Calendar.timeText (t.seconds.fmod 86400).toNat) ++ " GMT"

end Instant

namespace Response

def phrase (s : Status) : String :=
  match s.code with
  | 200 => "OK"
  | 400 => "Bad Request"
  | 404 => "Not Found"
  | _ => ""

def lineEnd : Bytes := [13, 10]

def headerLine (name : String) (value : Bytes) : Bytes := utf8 name ++ 58 :: 32 :: value ++ lineEnd

/-- The answer as it travels, with `sent` for the body; its length is told as that of the whole body. -/
def bytes (r : Response) (sent : Bytes) (at_ : Instant) (closes : Bool) : Bytes :=
  let headers := r.headers.insertText "content-length" (String.ofList (Decimal.ofNat r.body.length))
  utf8 (version.text ++ " " ++ String.ofList (Decimal.ofNat r.status.code) ++ " " ++ phrase r.status)
    ++ lineEnd
    ++ headers.entries.flatMap (fun (name, value) => headerLine name.text value.bytes)
    ++ (if closes then headerLine "connection" (utf8 "close") else [])
    ++ headerLine "date" (utf8 at_.headerText) ++ lineEnd ++ sent

def leave : Bytes := utf8 "HTTP/1.1 100 Continue" ++ lineEnd ++ lineEnd

end Response

end AccessLog
