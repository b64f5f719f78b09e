import AccessLog.Http.Header
import AccessLog.Http.Method

/-!
# Responses

A response with its body and the count of the body bytes that were written, which need not be the length of
the body: a negative count is unknown.
-/

namespace AccessLog

structure Status where
  code : Nat
  three_digits : 100 ≤ code ∧ code ≤ 999 := by decide
  deriving DecidableEq, Repr

namespace Status

def ofNat? (n : Nat) : Option Status :=
  if h : 100 ≤ n ∧ n ≤ 999 then some ⟨n, h⟩ else none

def ok : Status := { code := 200 }

def badRequest : Status := { code := 400 }

def notFound : Status := { code := 404 }

instance : Inhabited Status := ⟨ok⟩

def isSuccess (s : Status) : Bool := 200 ≤ s.code && s.code < 300

end Status

structure Response where
  status : Status
  headers : Headers
  body : Bytes
  contentCount : Int
  deriving DecidableEq, Repr

namespace Response

/-- A response in the making. Headers are made with the first that is given, and the count is the length of the body
unless one is given. -/
structure Builder where
  status : Status := Status.ok
  headers : Option Headers := none
  body : Bytes := []
  contentCount : Option Int := none

/-- A pair that is no header changes nothing. -/
def Builder.header (b : Builder) (name value : String) : Builder :=
  { b with headers :=
      match HeaderName.parse? name, HeaderValue.parse? (utf8 value) with
      | some n, some v => some ((b.headers.getD Headers.empty).insert n v)
      | _, _ => b.headers }

/-- A count fits in 63 bits. -/
def countOf (body : Bytes) : Int := min (body.length : Int) (0x7FFF_FFFF_FFFF_FFFF)

def Builder.build (b : Builder) : Response :=
  { status := b.status
    headers := b.headers.getD Headers.empty
    body := b.body
    contentCount := b.contentCount.getD (countOf b.body) }

def ofBody (body : Bytes) : Response := Builder.build { body }

def empty (status : Status) : Response := Builder.build { status }

def header (r : Response) (name : String) : Option String := r.headers.lookup name

def withHeader (r : Response) (name value : String) : Response :=
  { r with headers := r.headers.insertText name value }

def withContentCount (r : Response) (count : Int) : Response := { r with contentCount := count }

def version : HttpVersion := .http11

end Response

end AccessLog
