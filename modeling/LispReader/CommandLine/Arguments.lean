import LispReader.Text.CodePoint

/-! The arguments of the command line `parse [options] [<path>...]`. Arguments are split into
options and positional words: `--` makes every argument after it positional, `--name` or
`--name=value` is a long option that a unique prefix may abbreviate, and `-abc` is three short
options. An option not in the usage is remembered, so a later use of the same name is read the
same way. The words must then match the usage: the first positional word is the command `parse`,
each option of the usage is given at most once, the other positional words are paths, and
nothing else may remain. A help or version option wins over any mismatch. -/

namespace LispReader

namespace CommandLine

/-- An option the arguments may give: its short and long names and whether it takes a value. -/
structure OptionSpec where
  /-- The short name, as `-p`. -/
  short : Option Text
  /-- The long name, as `--print`. -/
  long : Option Text
  /-- Whether the option takes a value. -/
  takesValue : Bool

/-- The name an option is known by: its long name, else its short one. -/
def OptionSpec.name (o : OptionSpec) : Text :=
  o.long.getD (o.short.getD [])

/-- The options of the usage, in the order it lists them. -/
def usageOptions : List OptionSpec :=
  [⟨some (Text.ofString "-p"), some (Text.ofString "--print"), false⟩,
    ⟨some (Text.ofString "-s"), some (Text.ofString "--strict"), false⟩,
    ⟨none, some (Text.ofString "--fuzz"), false⟩,
    ⟨some (Text.ofString "-d"), some (Text.ofString "--debug"), false⟩]

/-- A word of the arguments: an option with its value, or a positional word. -/
inductive Word where
  /-- An option, with the value it was given: set, or a text. -/
  | option (spec : OptionSpec) (value : Option Text)
  /-- A positional word. -/
  | positional (value : Text)

/-- Whether a word is the option of the given name, given a value that counts as set: no text,
or a text that is not empty. -/
def Word.isSetOption (w : Word) (name : Text) : Bool :=
  match w with
  | .option spec value => spec.name = name && value.all (· ≠ [])
  | .positional _ => false

/-- Splits a text at its first `=`: the part before, and the part after when there is one. -/
def splitAtEquals (t : Text) : Text × Option Text :=
  match t.span (· ≠ CodePoint.ofChar '=') with
  | (before, _ :: after) => (before, some after)
  | (before, []) => (before, none)

/-- The usage messages of refused arguments. -/
inductive UsageError where
  /-- A long prefix shared by several options. -/
  | notUnique (pfx : Text) (candidates : List Text)
  /-- A value given to an option that takes none. -/
  | noValueAllowed (name : Text)
  /-- An option that takes a value and was given none. -/
  | valueRequired (name : Text)
  /-- Words that do not match the usage. -/
  | mismatch

/-- The line a usage error shows above the usage, if any. -/
def UsageError.message : UsageError → Text
  | .notUnique pfx candidates =>
    pfx ++ Text.ofString " is not a unique prefix: " ++
      Text.joinWith (Text.ofString ", ") candidates ++ Text.ofString "?"
  | .noValueAllowed name => name ++ Text.ofString " must not have an argument"
  | .valueRequired name => name ++ Text.ofString " requires argument"
  | .mismatch => []

/-- Reads a long option from its argument and the arguments after it, with the known options;
gives the word, the arguments left and the known options, a new option remembered. -/
def longOption (arg : Text) (rest : List Text) (known : List OptionSpec) :
    Except UsageError (Word × List Text × List OptionSpec) :=
  let (long, value) := splitAtEquals arg
  let exact := known.filter (·.long = some long)
  let similar := if exact.isEmpty then known.filter fun o => (o.long.map long.isPrefixOf).getD false
    else exact
  match similar with
  | [] =>
    let spec : OptionSpec := ⟨none, some long, value.isSome⟩
    .ok (.option spec value, rest, known ++ [spec])
  | [spec] =>
    if spec.takesValue then
      match value, rest with
      | some v, _ => .ok (.option spec (some v), rest, known)
      -- A long option takes the next argument as its value, even the separator.
      | none, next :: after => .ok (.option spec (some next), after, known)
      | none, [] => .error (.valueRequired spec.name)
    else if value.isSome then .error (.noValueAllowed spec.name)
    else .ok (.option spec none, rest, known)
  | _ => .error (.notUnique long (similar.map OptionSpec.name))

/-- Reads the short options of one argument, letters `letters` still to read, with the arguments
after it; gives the words, the arguments left and the known options. -/
def shortOptions (letters : Text) (rest : List Text) (known : List OptionSpec) (words : List Word) :
    Except UsageError (List Word × List Text × List OptionSpec) :=
  match letters with
  | [] => .ok (words, rest, known)
  | c :: more =>
    let short := [CodePoint.ofChar '-', c]
    match known.filter (·.short = some short) with
    | [] =>
      let spec : OptionSpec := ⟨some short, none, false⟩
      shortOptions more rest (known ++ [spec]) (words ++ [.option spec none])
    | spec :: _ =>
      let spec := { spec with short := some short }
      if spec.takesValue then
        match more, rest with
        | [], next :: after =>
          if next = Text.ofString "--" then .error (.valueRequired short)
          else .ok (words ++ [.option spec (some next)], after, known)
        | [], [] => .error (.valueRequired short)
        | _ :: _, _ => .ok (words ++ [.option spec (some more)], rest, known)
      else shortOptions more rest known (words ++ [.option spec none])

/-- Splits arguments into words, with the known options; `fuel` bounds the arguments read. -/
def words (fuel : Nat) (args : List Text) (known : List OptionSpec) : Except UsageError (List Word) :=
  match fuel, args with
  | 0, _ => .ok (args.map .positional)
  | _, [] => .ok []
  | fuel + 1, arg :: rest =>
    let dash := CodePoint.ofChar '-'
    if arg = Text.ofString "--" then .ok (args.map .positional)
    else if (Text.ofString "--").isPrefixOf arg then do
      let (word, rest, known) ← longOption arg rest known
      let more ← words fuel rest known
      pure (word :: more)
    else if arg.head? = some dash ∧ arg ≠ [dash] then do
      let (found, rest, known) ← shortOptions (arg.dropWhile (· = dash)) rest known []
      let more ← words fuel rest known
      pure (found ++ more)
    else do
      let more ← words fuel rest known
      pure (.positional arg :: more)

/-- What the arguments ask for. -/
inductive Request where
  /-- The help text. -/
  | help
  /-- The version. -/
  | version
  /-- A usage error. -/
  | usage (e : UsageError)
  /-- Parsing: the options set, and the paths. -/
  | parse (print strict fuzz debug : Bool) (paths : List Text)

/-- Takes the first option word of a name out of the words: whether there was one, and the rest. -/
def takeOption (name : Text) : List Word → Bool × List Word
  | [] => (false, [])
  | w :: rest =>
    match w with
    | .option spec _ =>
      if spec.name = name then (true, rest)
      else let (found, left) := takeOption name rest; (found, w :: left)
    | .positional _ => let (found, left) := takeOption name rest; (found, w :: left)

/-- Matches words against the usage: the command first among the positional words, each usage
option at most once, every other positional word a path, and nothing left. -/
def matchUsage (ws : List Word) : Request :=
  let positionals := ws.filterMap fun | .positional v => some v | .option .. => none
  match positionals with
  | cmd :: paths =>
    if cmd ≠ Text.ofString "parse" then .usage .mismatch
    else
      let options := ws.filter fun | .option .. => true | .positional _ => false
      let (print, options) := takeOption (Text.ofString "--print") options
      let (strict, options) := takeOption (Text.ofString "--strict") options
      let (fuzz, options) := takeOption (Text.ofString "--fuzz") options
      let (debug, options) := takeOption (Text.ofString "--debug") options
      if options.isEmpty then .parse print strict fuzz debug paths else .usage .mismatch
  | [] => .usage .mismatch

/-- What a list of arguments asks for. -/
def Request.ofArgs (args : List Text) : Request :=
  match words args.length args usageOptions with
  | .error e => .usage e
  | .ok ws =>
    if ws.any (·.isSetOption (Text.ofString "-h")) || ws.any (·.isSetOption (Text.ofString "--help"))
    then .help
    else if ws.any (·.isSetOption (Text.ofString "--version")) then .version
    else matchUsage ws

end CommandLine

end LispReader
