import LispReader.CommandLine.Arguments
import LispReader.CommandLine.Files
import LispReader.Reader.Program
import LispReader.Form.Printer

/-! A run of the command line. It reads each source in turn, a file for each path or standard
input when no path is given, and writes each source's forms, displayed or printed in shorthand;
a source that fails is remembered and reported after all sources, one line each. A file that
cannot be opened, or nesting too deep to read, ends the run at once. -/

namespace LispReader

namespace CommandLine

/-- How a run ends: with an exit code and maybe a message on standard error, or with an error
that nothing handled. -/
inductive Ending where
  /-- The run exits. -/
  | exit (code : Nat) (stderr : Option Text)
  /-- An error ends the run: its kind and message. -/
  | raised (kind : String) (message : Text)

/-- What a run writes to standard output, and how it ends. -/
structure Run where
  /-- The standard output. -/
  stdout : Text
  /-- How the run ends. -/
  ending : Ending

/-- The help text. -/
def helpText : String :=
  " sxrd read lisp programs\n\nUsage:\n    sxrd parse [options] [<path>...]\n\nOptions:\n" ++
  "    -p --print     print forms as text instead of as ast nodes\n" ++
  "    -s --strict    malformed numbers are errors instead of symbols\n" ++
  "    --fuzz\n    -d --debug"

/-- The usage shown with a usage error. -/
def usageText : String :=
  "Usage:\n    sxrd parse [options] [<path>...]"

/-- The version line. -/
def versionText : String :=
  "sxrd 0.0.1"

/-- How standard input is named in failure lines. -/
def stdinShown : String :=
  "<_io.TextIOWrapper name='<stdin>' mode='r' encoding='utf-8'>"

/-- A text with every carriage return made a line feed, and a line feed right after one
dropped; `afterReturn` tells whether the code point before was a carriage return. -/
def unifyNewlinesFrom (afterReturn : Bool) : Text → Text
  | [] => []
  | c :: rest =>
    if c = CodePoint.ofChar '\r' then CodePoint.newline :: unifyNewlinesFrom true rest
    else if c = CodePoint.newline ∧ afterReturn then unifyNewlinesFrom false rest
    else c :: unifyNewlinesFrom false rest

/-- A text with every carriage return, alone or before a line feed, made one line feed. -/
def unifyNewlines (t : Text) : Text :=
  unifyNewlinesFrom false t

/-- The table of options shown in debug mode: the command, the paths when there are some, and
the four options, set ones first, each group with words before options and options in
alphabetical order. -/
def optionsTable (print strict fuzz debug : Bool) (hasPaths : Bool) : String :=
  let options := [("--debug", debug), ("--fuzz", fuzz), ("--print", print), ("--strict", strict)]
  let cell (set : Bool) := if set then "x" else ""
  let rows : List (String × String) :=
    [("parse", "x")] ++ (if hasPaths then [("<path>", "_")] else []) ++
      (options.filter (·.2)).map (fun o => (o.1, cell true)) ++
      (options.filter (!·.2)).map (fun o => (o.1, cell false))
  let widthKey := (rows.map (·.1.length)).foldl max "arg".length + 1
  let widthValue := (rows.map (·.2.length)).foldl max 0 + 1
  let pad (s : String) (width : Nat) (fill : Char) := s ++ String.ofList (List.replicate (width - s.length) fill)
  let rule := "+" ++ pad "" (widthKey + 1) '-' ++ "+" ++ pad "" (widthValue + 1) '-' ++ "+"
  let line (key value : String) := "| " ++ pad key widthKey ' ' ++ "| " ++ pad value widthValue ' ' ++ "|"
  "\n".intercalate ([ "+-" ++ pad "docopt args" widthKey '-' ++ "+" ++ pad "" (widthValue + 1) '-' ++ "+",
    line "arg" "", rule] ++ rows.map (fun r => line r.1 r.2) ++ [rule])

/-- A source that failed: how it is shown, and why. -/
inductive Failure where
  /-- A syntax error in the source read. -/
  | invalid (shown : Text) (e : SyntaxError) (pos : Position)
  /-- Bytes that are no UTF-8. -/
  | undecodable (shown : Text) (e : Utf8.DecodeError)

/-- The line reporting a failed source. -/
def Failure.line : Failure → Text
  | .invalid shown e pos =>
    shown ++ Text.ofString (":" ++ toString pos.line ++ ":" ++ toString pos.linePoint ++ ": " ++
      e.kind.name ++ " expected ") ++
      Text.joinWith [CodePoint.ofChar ' '] (e.expected.map fun
        | .expression => Text.ofString "expression"
        | .character => Text.ofString "character"
        | .number => Text.ofString "number"
        | .token t => t.getD [])
  | .undecodable shown e => shown ++ Text.ofString ": " ++ e.message

/-- A source to read: a file at a path, or standard input with its text. -/
inductive Source where
  /-- A file at a normalised path. -/
  | file (path : Text)
  /-- Standard input, as its bytes decoded; its line endings are unified like a file's. -/
  | stdin (text : Except Utf8.DecodeError Text)

/-- The settings of a run that reads sources. -/
structure Settings where
  /-- Whether forms are printed in shorthand rather than displayed. -/
  print : Bool
  /-- The dialect read. -/
  dialect : Dialect
  /-- Whether debug traces and spans are shown. -/
  debug : Bool

/-- The lines written for forms, each displayed or printed in shorthand, up to the first form
with a character that has no name. -/
def formLines (st : Settings) : List (Form Span) → Text × Option PrintError
  | [] => ([], none)
  | f :: rest =>
    let line := if st.print then PrintStyle.print { shorthand := true } f else .ok (f.display st.debug)
    match line with
    | .error e => ([], some e)
    | .ok line =>
      let (more, unnamed) := formLines st rest
      (line ++ [CodePoint.newline] ++ more, unnamed)

/-- What reading one source gives: forms written, a failure remembered, or an ending. -/
def readSource (st : Settings) (openFile : Text → Except OpenError (List UInt8)) (source : Source) :
    Text × Option Failure × Option Ending :=
  let (shown, filename, text?) : Text × Text × Except Utf8.DecodeError Text :=
    match source with
    | .file path =>
      match openFile path with
      | .error _ => (path, path, .ok [])
      | .ok bytes => (path, path, (Utf8.decode bytes).map unifyNewlines)
    | .stdin text => (Text.ofString stdinShown, Text.ofString "<stdin>", text.map unifyNewlines)
  let opened : Option OpenError := match source with
    | .file path => match openFile path with
      | .error e => some e
      | .ok _ => none
    | .stdin _ => none
  match opened with
  | some e => ([], none, some (.raised e.kind (e.message shown)))
  | none =>
    match text? with
    | .error e => ([], some (.undecodable shown e), none)
    | .ok text =>
      let reading := st.dialect.read text
      let trace := if st.debug then reading.trace text (some filename) else []
      match reading.fault with
      | some .tooDeep =>
        (trace, none, some (.raised "RecursionError" (Text.ofString "maximum recursion depth exceeded")))
      | some (.invalid e) => (trace, some (.invalid shown e (e.positionIn text)), none)
      | none =>
        let (lines, unnamed) := formLines st reading.forms
        (trace ++ lines, none, unnamed.map fun e => .raised "TypeError" e.message)

/-- Reads sources in turn after the output and failures so far, and reports the failures at the
end unless an ending comes first. -/
def readSources (st : Settings) (openFile : Text → Except OpenError (List UInt8)) (out : Text)
    (failures : List Failure) : List Source → Run
  | [] =>
    ⟨out ++ (failures.map fun f => f.line ++ [CodePoint.newline]).flatten, .exit 0 none⟩
  | source :: rest =>
    match readSource st openFile source with
    | (written, _, some ending) => ⟨out ++ written, ending⟩
    | (written, failure, none) => readSources st openFile (out ++ written) (failures ++ failure.toList) rest

/-- A run of the command line with its arguments, the home directories, a way to open files, and
standard input when it holds something to read. -/
def run (args : List Text) (homes : Homes) (openFile : Text → Except OpenError (List UInt8))
    (stdin : Option (Except Utf8.DecodeError Text)) : Run :=
  match Request.ofArgs args with
  | .help => ⟨Text.ofString (helpText ++ "\n"), .exit 0 none⟩
  | .version => ⟨Text.ofString (versionText ++ "\n"), .exit 0 none⟩
  | .usage e =>
    let message := e.message
    let shown := if message.isEmpty then Text.ofString usageText
      else message ++ [CodePoint.newline] ++ Text.ofString usageText
    ⟨[], .exit 1 (some shown)⟩
  | .parse print strict fuzz debug paths =>
    let table := if debug then Text.ofString (optionsTable print strict fuzz debug (!paths.isEmpty) ++ "\n")
      else []
    if fuzz then ⟨table, .raised "ModuleNotFoundError" (Text.ofString "No module named 'afl'")⟩
    else
      -- Every path is expanded before any source is read.
      match paths.mapM fun p => homes.expand (normalizePath p) with
      | .error _ => ⟨table, .raised UnknownUser.kind UnknownUser.message⟩
      | .ok expanded =>
        let sources : List Source :=
          if paths.isEmpty then (stdin.map fun text => [Source.stdin text]).getD []
          else expanded.map .file
        let st : Settings := ⟨print, if strict then Dialect.strict else Dialect.standard, debug⟩
        readSources st openFile table [] sources

/-- Whether a run with these arguments reads standard input: it parses and names no path. -/
def wantsStdin (args : List Text) : Bool :=
  match Request.ofArgs args with
  | .parse _ _ fuzz _ paths => !fuzz && paths.isEmpty
  | _ => false

end CommandLine

end LispReader
