/-!
# Methods

A method is a token: one or more letters, digits and marks. Its letter case counts.
-/

namespace AccessLog

namespace Http

def isTokenChar (c : Char) : Bool :=
  c.isAlphanum || "!#$%&'*+-.^_`|~".toList.contains c

def isToken (s : String) : Bool := !s.toList.isEmpty && s.toList.all isTokenChar

end Http

structure Method where
  name : String
  isToken : Http.isToken name = true := by decide
  deriving DecidableEq, Repr

namespace Method

def ofString? (s : String) : Option Method :=
  if h : Http.isToken s = true then some ⟨s, h⟩ else none

def get : Method := { name := "GET" }

def head : Method := { name := "HEAD" }

def connect : Method := { name := "CONNECT" }

instance : Inhabited Method := ⟨get⟩

theorem not_mem_name (m : Method) {c : Char} (h : Http.isTokenChar c = false) :
    c ∉ m.name.toList := by
  intro hc
  have := m.isToken
  simp only [Http.isToken, Bool.and_eq_true, List.all_eq_true] at this
  simp [this.2 c hc] at h

end Method

inductive HttpVersion where
  | http09
  | http10
  | http11
  | http2
  | http3
  deriving DecidableEq, Repr

def HttpVersion.text : HttpVersion → String
  | .http09 => "HTTP/0.9"
  | .http10 => "HTTP/1.0"
  | .http11 => "HTTP/1.1"
  | .http2 => "HTTP/2.0"
  | .http3 => "HTTP/3.0"

end AccessLog
