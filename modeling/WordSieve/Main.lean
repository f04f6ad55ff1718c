import WordSieve.CommandLine.Run

/-!
# The program

The thin layer around `CommandLine`: it reads the files, the clock and the standard input that a
command needs, and prints what the command answers. The prompt is answered line by line, so that
its answers are there before the next line is typed.
-/

set_option autoImplicit false

namespace WordSieve.Program

open CommandLine

/-- The error of the system as an error of files. -/
def fileError (e : IO.Error) : FileError :=
  match e with
  | .noFileOrDirectory _ _ _ => .notFound
  | .inappropriateType _ code _ => if code = 21 then .isADirectory else .notADirectory
  | e => .other (toString e)

/-- Runs an action on a file. -/
def attempt {α : Type} (action : IO α) : IO (Except FileError α) := do
  match ← action.toBaseIO with
  | .ok a => return .ok a
  | .error e => return .error (fileError e)

/-- Loads a word list. -/
def loadWords (source : WordSource) : IO (Except LoadError (List Word)) := do
  match source with
  | .embedded => return source.load fun _ => .error .notFound
  | .file path =>
    let bytes ← attempt (IO.FS.readBinFile path)
    return source.load fun _ => bytes.map fun b => b.data.toList

/-- Whether output has colours: forced on, turned off, or for a terminal alone. -/
def wantsColor : IO Bool := do
  if ((← IO.getEnv "CLICOLOR_FORCE").getD "0") ≠ "0" then return true
  if (← IO.getEnv "NO_COLOR").isSome then return false
  if ((← IO.getEnv "CLICOLOR").getD "1") = "0" then return false
  (← IO.getStdout).isTty

/-- Answers the lines of the prompt as they come. -/
partial def answerLines (color : Bool) (s : Session) : IO UInt32 := do
  let output ← IO.getStdout
  output.putStr promptText
  output.flush
  let bytes ← readLine (← IO.getStdin) ByteArray.empty
  let now := (← IO.monoNanosNow) / 1000
  if bytes.isEmpty then
    output.putStr (Report.print color closingReport)
    return 0
  match Text.decode bytes.data.toList with
  | none =>
    IO.eprint (errorText FileError.notText.message [])
    return 1
  | some line =>
    let r := reply s { change := now, tick := now } line
    output.putStr (Report.print color r.report)
    if r.quit then return 0 else answerLines color r.session
where
  /-- Reads bytes up to the end of a line. -/
  readLine (input : IO.FS.Stream) (line : ByteArray) : IO ByteArray := do
    let next ← input.read 1
    if next.isEmpty then return line
    let line := line ++ next
    if next.data[0]? = some '\n'.toUInt8 then return line else readLine input line

/-- Draws for a benchmark. -/
def drawsFor (count seed : Nat) : Benchmark.Draws :=
  ((List.range count).foldl (fun (ds, g) _ =>
    let (d, g) := randNat g 0 1073741824
    (d :: ds, g)) (([] : List Nat), mkStdGen seed)).1

/-- Runs a command and prints its answer. -/
def runRequest (r : Request) : IO UInt32 := do
  let color ← wantsColor
  let loaded ← loadWords r.source
  if r.verb = .simple then
    IO.eprint (loadWarning color loaded)
    let session := promptSession r.settings loaded
    IO.print (Report.print color (openingReport session))
    answerLines color session
  else
    let started ← IO.monoNanosNow
    let trials := r.settings.count.getD standardTrials
    let most := max 1 (r.settings.maxCriteria.getD standardCriteria)
    let seed ← IO.rand 0 1073741824
    let w : Surroundings :=
      { color, typed := [], seed, draws := drawsFor (trials * (1 + 6 * most)), duration := 0 }
    let finish := r.run w r.source loaded
    IO.eprint finish.errors
    let duration := ((← IO.monoNanosNow) - started) / 1000
    IO.print (if r.verb = .benchmark then (r.run { w with duration } r.source loaded).output
      else finish.output)
    return finish.code.toUInt32

end WordSieve.Program

open WordSieve in
/-- Runs the command of the arguments. -/
def main (args : List String) : IO UInt32 := do
  match CommandLine.readArguments args with
  | .error refusal =>
    let finish := refusal.finish
    IO.print finish.output
    IO.eprint finish.errors
    return finish.code.toUInt32
  | .ok r =>
    match r.settings.logFile with
    | none => Program.runRequest r
    | some path =>
      match ← Program.attempt (IO.FS.writeFile path "") with
      | .ok _ => Program.runRequest r
      | .error e =>
        IO.eprint (CommandLine.Finish.noLog path e).errors
        return 1
