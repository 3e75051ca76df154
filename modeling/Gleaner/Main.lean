/-
  Gleaner/Main.lean
  =================
  **The program.**  It takes its settings from the environment, reads the files that its
  arguments name, runs the command and prints what it says.  It has no network: every
  request fails.
-/
import Gleaner.Command.Run
import Std.Time

namespace Gleaner

def entryOnDisk (path : Path) : IO Entry := do
  try
    return .file (← IO.FS.readBinFile path.text).toList
  catch e =>
    match e with
    | .inappropriateType _ _ details =>
        return if details.startsWith "Not" then .blocked else .folder
    | _ => return .missing

/-- The files that arguments can mean, in the working folder and among the sources. -/
def filesOnDisk (sources : Path) (args : List String) : IO Files := do
  let paths := args.flatMap fun arg => [Path.ofText arg, Files.below sources (Path.ofText arg)]
  let found ← paths.mapM fun path => return (path, ← entryOnDisk path)
  return fun path => ((found.find? (·.1 == path)).map (·.2)).getD .missing

def settingsHere : IO (Except Fault Settings) := do
  let names := ["REQUEST_TIMEOUT", "FETCH_RETRIES", "RETRY_BASE_DELAY", "MAX_REDIRECTS",
    "BOOKRULE_USER_AGENT", "PREVIEW_ITEMS", "PREVIEW_CHARS", "CONTENT_PREVIEW_CHARS",
    "BOOKRULE_SOURCES"]
  let values ← names.mapM fun name => return (name, ← IO.getEnv name)
  return Settings.ofValues fun name => (values.find? (·.1 == name)).bind (·.2)

/-- Where sources are looked for: where the settings say, or in the home of the user. -/
def sourcesHere (settings : Settings) : IO Path := do
  let home := (← IO.getEnv "HOME").getD ""
  return settings.sources.getD (Path.ofText home ++ Path.ofText ".bookrule/sources")

def timeHere : IO String := do
  let time ← Std.Time.PlainTime.now
  let two (n : Int) : String := if n < 10 then "0" ++ toString n else toString n
  return two time.hour.val ++ ":" ++ two time.minute.val ++ ":" ++ two time.second.val

def noNetwork : Network Unit := fun _ s => (.failed "ConnectError" "no network", s)

/-- Print what happened, as far as it is to be seen. -/
def showEvents : List Event → IO Unit
  | [] => pure ()
  | e :: more => do
      match e with
      | .notice line => IO.println line
      | .traced line => IO.println line
      | .warning line => IO.eprintln line
      | _ => pure ()
      showEvents more

end Gleaner

open Gleaner in
def main (args : List String) : IO UInt32 := do
  match ← settingsHere with
  | .error f =>
      IO.eprintln (f.label ++ ": " ++ f.text)
      return 1
  | .ok settings =>
      let sources ← sourcesHere settings
      let stamp ← timeHere
      let site : Site Unit :=
        ⟨← filesOnDisk sources args, { settings with sources := some sources }, noNetwork,
          fun _ => stamp⟩
      let (exit, session) := runArguments site args (.start ())
      showEvents session.events
      match exit with
      | .usage =>
          IO.eprintln "usage: demo | select | search | explore | debug, with their arguments"
      | .fault f => IO.eprintln (f.label ++ ": " ++ f.text)
      | _ => pure ()
      return UInt32.ofNat exit.code
