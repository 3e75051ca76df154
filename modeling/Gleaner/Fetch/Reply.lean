/-
  Gleaner/Fetch/Reply.lean
  ========================
  **Replies.**  What a server sent for one request: the address that answered, the
  status, the bytes of the body and the headers.  The text of a reply is for people
  to look at; pages are read from the bytes.
-/
import Gleaner.Text.Blank
import Gleaner.Text.Utf8

namespace Gleaner

structure Reply where
  url : String
  status : Int
  body : List UInt8
  headers : List (String × String)
deriving DecidableEq, Repr, Inhabited

namespace Reply

def isOk (r : Reply) : Bool := decide (200 ≤ r.status ∧ r.status < 300)

/-- The body as text; bytes that are no text are replaced. -/
def text (r : Reply) : String := String.ofList (Text.Utf8.decodeLenient r.body)

def preview (r : Reply) (limit : Int) : String := Text.clip r.text limit

/-- The value of a header, by its exact name. -/
def header? (r : Reply) (name : String) : Option String :=
  (r.headers.find? (·.1 == name)).map (·.2)

end Reply

end Gleaner
