/-
  Gleaner/Debug/Basic.lean
  ========================
  **Debug runs.**  A run goes through four stages and tells a listener, line by line,
  what it does.  Who listens may ask, on any line, that the run stop at the next boundary
  between stages, or that another run start; that one is refused, for there is one run at
  a time.  This module holds what a run knows, how it ends, and how a line is logged.
-/
import Gleaner.Book.Basic
import Gleaner.Fetch.Basic
import Gleaner.Trace

namespace Gleaner

inductive Stage where
  | search
  | detail
  | toc
  | content
deriving DecidableEq, Repr, Inhabited

def Stage.name : Stage → String
  | .search => "search"
  | .detail => "detail"
  | .toc => "toc"
  | .content => "content"

inductive Ending where
  | completed
  /-- At a boundary, because that was asked for. -/
  | stopped
  /-- In a stage that failed or gave nothing for the next one. -/
  | aborted (stage : Stage)
  /-- Before it began, because another run was going on. -/
  | refused
deriving DecidableEq, Repr, Inhabited

structure Findings where
  search : List BookEntry
  detail : Option BookDetail
  chapters : List Chapter
  content : Option ChapterText
deriving DecidableEq, Repr, Inhabited

def Findings.none : Findings := ⟨[], .none, [], .none⟩

structure Report where
  findings : Findings
  ending : Ending
  lines : List String
deriving DecidableEq, Repr, Inhabited

namespace Report

def stopped (r : Report) : Bool := r.ending = .stopped

def abortedAt? (r : Report) : Option String :=
  match r.ending with
  | .aborted stage => some stage.name
  | .refused => some "busy"
  | _ => none

def completed (r : Report) : Bool :=
  !r.stopped && r.abortedAt?.isNone && r.findings.content.isSome

end Report

/-- What a listener asks for when it hears a line. -/
structure Wish where
  stop : Bool
  another : Bool
deriving DecidableEq, Repr, Inhabited

/-- What a run deals with.  Network and listener share one state. -/
structure Surroundings (σ : Type) where
  network : Network σ
  listener : String → σ → Wish × σ
  stamp : σ → String

/-- What stays between runs. -/
structure Debugger (σ : Type) where
  session : Session σ
  running : Bool
  stopRequested : Bool

namespace Debugger

variable {σ : Type}

def start (state : σ) : Debugger σ := ⟨.start state, false, false⟩

/-- Ask that the run stop; without a run there is nothing to stop. -/
def stop (d : Debugger σ) : Debugger σ := if d.running then { d with stopRequested := true } else d

def tell (env : Surroundings σ) (line : String) (d : Debugger σ) : Wish × Debugger σ :=
  let session := d.session.note (.traced line)
  let (wish, state) := env.listener line session.network
  let d := { d with session := { session with network := state } }
  (wish, if wish.stop then d.stop else d)

def busyMessage : String := "⚠ A debug run is already in progress; wait for it to finish"

/-- Refuse a run.  A listener that asks for one more when it hears so is not heard. -/
def refuse (env : Surroundings σ) (d : Debugger σ) : Report × Debugger σ :=
  let line := Trace.stamped (env.stamp d.session.network) busyMessage
  let (_, d) := d.tell env line
  (⟨.none, .refused, [line]⟩, d)

end Debugger

structure Run (σ : Type) where
  debugger : Debugger σ
  findings : Findings
  lines : List String
  /-- The reports of runs that were refused meanwhile. -/
  refusals : List Report

namespace Run

variable {σ : Type}

def log (env : Surroundings σ) (message : String) (r : Run σ) : Run σ :=
  let line := Trace.stamped (env.stamp r.debugger.session.network) message
  let (wish, debugger) := r.debugger.tell env line
  let lines := r.lines ++ [line]
  if wish.another then
    let (report, debugger) := debugger.refuse env
    { r with debugger, lines, refusals := r.refusals ++ [report] }
  else { r with debugger, lines }

end Run

/-- Why a run does not go on. -/
inductive Halt where
  | ended (ending : Ending)
  | fault (f : Fault)
deriving DecidableEq, Repr

abbrev Running (σ : Type) := ExceptT Halt (StateM (Run σ))

namespace Running

variable {σ : Type}

def log (env : Surroundings σ) (message : String) : Running σ Unit := modify (·.log env message)

def logAll (env : Surroundings σ) : List String → Running σ Unit
  | [] => pure ()
  | message :: more => do
      log env message
      logAll env more

def ofResult {α : Type} : Except Fault α → Running σ α
  | .ok a => pure a
  | .error f => throw (.fault f)

def ofFetching {α : Type} (work : Fetching σ α) : Running σ α := fun r =>
  let (result, session) := work r.debugger.session
  (result.mapError .fault, { r with debugger := { r.debugger with session } })

def found (f : Findings → Findings) : Running σ Unit :=
  modify fun r => { r with findings := f r.findings }

end Running

end Gleaner
