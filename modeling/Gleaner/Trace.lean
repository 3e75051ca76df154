/-
  Gleaner/Trace.lean
  ==================
  **Traces.**  The lines that a run writes about itself, each with the stamp of a
  clock in front.  A clock can be finite; when it is exhausted nothing more can be
  logged.
-/
import Gleaner.Fault

namespace Gleaner

/-- What gives the stamps of lines. -/
inductive Clock where
  /-- The same stamp always. -/
  | steady (stamp : String)
  /-- These stamps, one after another. -/
  | stamps (left : List String)
deriving DecidableEq, Repr, Inhabited

def Clock.next? : Clock → Option (String × Clock)
  | .steady stamp => some (stamp, .steady stamp)
  | .stamps [] => none
  | .stamps (stamp :: left) => some (stamp, .stamps left)

structure Trace where
  clock : Clock
  lines : List String
deriving DecidableEq, Repr, Inhabited

namespace Trace

def start (clock : Clock) : Trace := ⟨clock, []⟩

def stamped (stamp message : String) : String := "[" ++ stamp ++ "] " ++ message

/-- Log a message: the line, and the trace with it. -/
def log (t : Trace) (message : String) : Except Fault (String × Trace) :=
  match t.clock.next? with
  | none => .error .clockExhausted
  | some (stamp, clock) =>
      let line := stamped stamp message
      .ok (line, ⟨clock, t.lines ++ [line]⟩)

def text (t : Trace) : String := "\n".intercalate t.lines

def size (t : Trace) : Nat := t.lines.length

end Trace

end Gleaner
