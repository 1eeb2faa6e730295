import LispReader.CommandLine.Session

/-! The command line as a program: it gathers its arguments, the files they may name and standard
input, runs a session on them, and writes the session's output and exit code. -/

namespace LispReader

namespace CommandLine

/-- The string of a text, for naming a file. -/
def pathString (t : Text) : String :=
  String.ofList (t.map fun c => Char.ofNat c.val)

/-- What opening a path for reading gives: its bytes, or why it cannot be read. A path the system
refuses outright is never handed to it. -/
def openPath (path : Text) : IO (Except OpenError (List UInt8)) := do
  if let some e := OpenError.refusal path then return .error e
  try
    let bytes ← IO.FS.readBinFile (pathString path)
    pure (.ok bytes.toList)
  catch e =>
    match e with
    -- The system reports an error number or its negation: 21 is a directory, 20 is not one.
    | .inappropriateType _ code _ =>
      pure (.error (if code == 21 || code == 0 - 21 then .isDirectory else .notDirectory))
    -- 36 is a name too long.
    | .invalidArgument _ code _ =>
      pure (.error (if code == 36 || code == 0 - 36 then .nameTooLong else .notFound))
    | _ => pure (.error .notFound)

/-- The home directories: the user's own from the environment, the root when it is not set, and
every user's from the user table. -/
def readHomes : IO Homes := do
  let home := (← IO.getEnv "HOME").getD "/"
  let users ← try
      let bytes ← IO.FS.readBinFile "/etc/passwd"
      pure (match Utf8.decode bytes.toList with
        | .ok table => Homes.usersOf table
        | .error _ => [])
    catch _ => pure []
  pure ⟨Text.ofString home, users⟩

/-- The files that the arguments may name, each under its normalised and expanded path. -/
def openAll (homes : Homes) (args : List Text) : IO (List (Text × Except OpenError (List UInt8))) :=
  args.filterMapM fun arg => do
    match homes.expand (normalizePath arg) with
    | .ok path => pure (some (path, ← openPath path))
    | .error _ => pure none

/-- Standard input, when the run reads it and it is not a terminal. -/
def readStdin (args : List Text) : IO (Option (Except Utf8.DecodeError Text)) := do
  if wantsStdin args then
    let stdin ← IO.getStdin
    if ← stdin.isTty then pure none
    else
      let bytes ← stdin.readBinToEnd
      pure (some (Utf8.decode bytes.toList))
  else pure none

/-- Writes a text to a stream in UTF-8. -/
def writeText (stream : IO.FS.Stream) (t : Text) : IO Unit := do
  stream.write (ByteArray.mk (Utf8.encode t).toArray)
  stream.flush

end CommandLine

end LispReader

open LispReader CommandLine in
/-- Runs the command line on the process's arguments, files and standard input. -/
def main (argv : List String) : IO UInt32 := do
  let args := argv.map Text.ofString
  let homes ← readHomes
  let opened ← openAll homes args
  let stdin ← readStdin args
  let openFile : Text → Except OpenError (List UInt8) := fun path =>
    ((opened.find? (·.1 = path)).map (·.2)).getD (.error .notFound)
  let result := run args homes openFile stdin
  writeText (← IO.getStdout) result.stdout
  match result.ending with
  | .exit code none => pure code.toUInt32
  | .exit code (some message) =>
    writeText (← IO.getStderr) (message ++ [CodePoint.newline])
    pure code.toUInt32
  | .raised kind message =>
    writeText (← IO.getStderr) (Text.ofString (kind ++ ": ") ++ message ++ [CodePoint.newline])
    pure 1
