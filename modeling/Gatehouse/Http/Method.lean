/-
# Request methods

A method is a token: one or more of the characters that HTTP allows in names.  Case matters, and
tokens beyond the nine standard ones are as good as any.
-/

namespace Gatehouse

/-! ## 1. Tokens -/

/-- A character that HTTP allows in a token. -/
def isTokenChar (c : Char) : Bool :=
  c.isAlphanum || "!#$%&'*+-.^_`|~".toList.contains c

/-- One or more token characters. -/
def isToken (s : String) : Bool := s ≠ "" && s.toList.all isTokenChar

/-! ## 2. Methods -/

/-- A request method, by its token. -/
structure Method where
  token : String
deriving DecidableEq, Repr

namespace Method

/-- The method a text names, if it is a token. -/
def ofToken? (s : String) : Option Method := if isToken s then some ⟨s⟩ else none

def GET : Method := ⟨"GET"⟩
def POST : Method := ⟨"POST"⟩
def PUT : Method := ⟨"PUT"⟩
def PATCH : Method := ⟨"PATCH"⟩
def HEAD : Method := ⟨"HEAD"⟩
def OPTIONS : Method := ⟨"OPTIONS"⟩
def DELETE : Method := ⟨"DELETE"⟩
def CONNECT : Method := ⟨"CONNECT"⟩
def TRACE : Method := ⟨"TRACE"⟩

/-- The methods of a route that answers any of them, in the order they are registered. -/
def every : List Method := [GET, POST, PUT, PATCH, HEAD, OPTIONS, DELETE, CONNECT, TRACE]

def isUpperLetter (c : Char) : Bool := 'A' ≤ c && c ≤ 'Z'

/-- A method that routes may be registered for by name: upper-case letters only.  This is
narrower than `ofToken?`, which also reads the methods of requests. -/
def ofName? (s : String) : Option Method :=
  if s ≠ "" && s.toList.all isUpperLetter then some ⟨s⟩ else none

end Method
end Gatehouse
