import LispReader.Text.Quoted

/-! Dialects of the reader. A dialect names the tokens of each role (brackets of lists and
vectors, the string delimiter, the comment start, three quote prefixes, the splice mark, the
escape inside strings and the prefix of char literals) and the blanks beyond the standard six.
Every key belongs to at most one role: a dialect where two roles claim one key is refused, and so
is a char literal prefix that does not start with a constituent. -/

namespace LispReader

/-- The text of a token, or none when the dialect turns its role off. -/
abbrev Token := Option Text

/-- What a key means to the reader. -/
inductive Category where
  /-- Separates forms. -/
  | blank
  /-- Opens a list. -/
  | listOpen
  /-- Closes a list. -/
  | listClose
  /-- Opens a vector. -/
  | vectorOpen
  /-- Closes a vector. -/
  | vectorClose
  /-- Opens and closes a string. -/
  | stringDelimiter
  /-- Starts a comment running to the end of the line. -/
  | commentStart
  /-- Quotes the form after it. -/
  | quotePrefix
  /-- Belongs to a symbol or number. -/
  | constituent
  deriving DecidableEq

/-- The name of a category. -/
def Category.name : Category → String
  | .blank => "whitespace"
  | .listOpen => "open-list"
  | .listClose => "close-list"
  | .vectorOpen => "open-vector"
  | .vectorClose => "close-vector"
  | .stringDelimiter => "string-delimiter"
  | .commentStart => "comment-start"
  | .quotePrefix => "quote-prefix"
  | .constituent => "constituent"

/-- Whether a category closes a list or a vector. -/
def Category.isCloser : Category → Bool
  | .listClose | .vectorClose => true
  | _ => false

/-- The four ways a form is quoted. -/
inductive QuoteKind where
  /-- Quoted. -/
  | quote
  /-- Quasiquoted. -/
  | quasiquote
  /-- Unquoted inside a quasiquote. -/
  | unquote
  /-- Unquoted and spliced into the list around it. -/
  | unquoteSplicing
  deriving DecidableEq

/-- The name of the head symbol a quote expands to. -/
def QuoteKind.name : QuoteKind → String
  | .quote => "quote"
  | .quasiquote => "quasiquote"
  | .unquote => "unquote"
  | .unquoteSplicing => "unquote-splicing"

/-- A dialect: its blanks beyond the standard six, whether malformed numbers are errors, whether
char literals are read, and a token for each role. -/
structure Dialect where
  /-- Blanks beyond space, tab, line feed, carriage return, form feed and vertical tab. -/
  extraBlanks : Token := some []
  /-- Whether a run that looks numeric and is no number is an error rather than a symbol. -/
  strictNumbers : Bool := false
  /-- Whether char literals are read. -/
  charLiterals : Bool := true
  /-- Opens a list. -/
  listOpen : Token := some (Text.ofString "(")
  /-- Closes a list. -/
  listClose : Token := some (Text.ofString ")")
  /-- Opens a vector. -/
  vectorOpen : Token := some (Text.ofString "[")
  /-- Closes a vector. -/
  vectorClose : Token := some (Text.ofString "]")
  /-- Opens and closes a string. -/
  stringDelimiter : Token := some (Text.ofString "\"")
  /-- Starts a comment. -/
  commentStart : Token := some (Text.ofString ";")
  /-- Quotes. -/
  quote : Token := some (Text.ofString "'")
  /-- Quasiquotes. -/
  quasiquote : Token := some (Text.ofString "`")
  /-- Unquotes. -/
  unquote : Token := some (Text.ofString ",")
  /-- After the unquote prefix, makes it splice. -/
  splice : Token := some (Text.ofString "@")
  /-- Escapes the next code point of a string. -/
  escape : Token := some (Text.ofString "\\")
  /-- Starts a char literal. -/
  charPrefix : Token := some (Text.ofString "#\\")

namespace Dialect

/-- The standard dialect. -/
def standard : Dialect := {}

/-- The standard dialect with malformed numbers as errors. -/
def strict : Dialect := { strictNumbers := true }

/-- The standard six blanks. -/
def standardBlanks : Text :=
  Text.ofString " \t\n\r\x0c\x0b"

/-- All blanks of a dialect. -/
def blanks (d : Dialect) : Text :=
  standardBlanks ++ d.extraBlanks.getD []

/-- The quote prefixes, each once, in the order of their first role. -/
def quotePrefixes (d : Dialect) : List Text :=
  ([d.quote, d.quasiquote, d.unquote].filterMap id).eraseDups

/-- The roles in the order they claim their keys, quote prefixes last. -/
def roles (d : Dialect) : List (Token × Category) :=
  [(d.listOpen, .listOpen), (d.listClose, .listClose), (d.vectorOpen, .vectorOpen),
    (d.vectorClose, .vectorClose), (d.stringDelimiter, .stringDelimiter),
    (d.commentStart, .commentStart)] ++ d.quotePrefixes.map fun key => (some key, .quotePrefix)

/-- Whether a key is a single blank. -/
def isBlankKey (d : Dialect) (key : Text) : Bool :=
  match key with
  | [c] => d.blanks.contains c
  | _ => false

/-- The category of a key: blank, the role whose token it is, or constituent. -/
def classify (d : Dialect) (key : Text) : Category :=
  if d.isBlankKey key then .blank
  else match d.roles.find? fun role => role.1 = some key with
    | some role => role.2
    | none => .constituent

/-- The category of a single code point. -/
def categoryOf (d : Dialect) (c : CodePoint) : Category :=
  d.classify [c]

/-- Whether a single code point is a constituent. -/
def isConstituent (d : Dialect) (c : CodePoint) : Bool :=
  d.categoryOf c == .constituent

/-- The kind of quote a quote prefix stands for; of two roles with one key the later wins. -/
def quoteKind (d : Dialect) (c : CodePoint) : QuoteKind :=
  if d.unquote = some [c] then .unquote
  else if d.quasiquote = some [c] then .quasiquote
  else .quote

end Dialect

/-- Why a dialect is refused. -/
inductive DialectError where
  /-- A key claimed by a second role. -/
  | clash (key : Text) (held claimed : Category)
  /-- A char literal prefix that is empty or does not start with a constituent. -/
  | charPrefix (key : Text)
  /-- Char literals read with their prefix turned off. -/
  | charPrefixOff
  /-- The extra blanks missing, not even an empty text. -/
  | blanksOff

/-- The words for a refused dialect. -/
def DialectError.message : DialectError → Text
  | .clash key held claimed =>
    Text.quoted key ++ Text.ofString (" is both <category " ++ held.name ++ "> and <category " ++
      claimed.name ++ ">")
  | .charPrefix key =>
    Text.ofString "char literal prefix " ++ Text.quoted key ++
      Text.ofString " must start with a symbol charachter"
  | .charPrefixOff => Text.ofString "'object' object is not subscriptable"
  | .blanksOff => Text.ofString "can only concatenate str (not \"NoneType\") to str"

namespace Dialect

/-- The first key of the roles claimed twice, given the keys already claimed. -/
def firstClash (d : Dialect) (claimed : List (Text × Category)) :
    List (Token × Category) → Option DialectError
  | [] => none
  | (none, _) :: rest => d.firstClash claimed rest
  | (some key, category) :: rest =>
    if d.isBlankKey key then some (.clash key .blank category)
    else match claimed.find? fun entry => entry.1 = key with
      | some entry => some (.clash key entry.2 category)
      | none => d.firstClash ((key, category) :: claimed) rest

/-- The dialect itself when it is accepted, or why it is refused. -/
def check (d : Dialect) : Except DialectError Dialect :=
  if d.extraBlanks.isNone then .error .blanksOff
  else match d.firstClash [] d.roles with
    | some refusal => .error refusal
    | none =>
      if d.charLiterals then
        match d.charPrefix with
        | none => .error .charPrefixOff
        | some [] => .error (.charPrefix [])
        | some (c :: rest) =>
          if d.isConstituent c then .ok d else .error (.charPrefix (c :: rest))
      else .ok d

end Dialect

end LispReader
