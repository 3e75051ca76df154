/-
  Gleaner/Page/Receive.lean
  =========================
  **Reading what was fetched.**  A page is read as always; while it is, a warning is
  given about a body of which not everything can be read.
-/
import Gleaner.Fetch.Basic
import Gleaner.Page.Basic

namespace Gleaner.Page

/-- Read a body, with a warning if not everything in it can be read. -/
def receive {σ : Type} (body : Body) : Fetching σ Page := do
  if isLossy body then Fetching.happen (.warning lossyWarning)
  Fetching.ofResult (read body)

end Gleaner.Page
