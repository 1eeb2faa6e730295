import LispReader.Form.Display
import LispReader.Char.Name

/-! Printing forms as source text. A print style names the tokens to write; a list prints its
items between its brackets, separated by single spaces, and in shorthand a two-item list headed by
`quote`, `quasiquote`, `unquote` or `unquote-splicing` prints as its prefix and its operand. An
unquoted operand that starts with the splice mark is set apart by a space, so that it does not
read back as unquote-splicing.

Printing can fail, and fails at the first fault in the order the text is built: a part's own
text before the tokens around it. A character prints by its name, which a text of other than one
code point may lack. A style may also lack a token, and joining a missing token to a text fails;
the prefix of unquote-splicing is joined when the style is made, so it fails before anything is
printed. -/

namespace LispReader

/-- The tokens a printer writes, and whether it writes quotes in shorthand; a token may be
missing. -/
structure PrintStyle where
  /-- Whether quoted forms print as prefix and operand. -/
  shorthand : Bool := false
  /-- Opens a list. -/
  listOpen : Option Text := some (Text.ofString "(")
  /-- Closes a list. -/
  listClose : Option Text := some (Text.ofString ")")
  /-- Opens a vector. -/
  vectorOpen : Option Text := some (Text.ofString "[")
  /-- Closes a vector. -/
  vectorClose : Option Text := some (Text.ofString "]")
  /-- Delimits a string. -/
  stringDelimiter : Option Text := some (Text.ofString "\"")
  /-- The quote prefix. -/
  quote : Option Text := some (Text.ofString "'")
  /-- The quasiquote prefix. -/
  quasiquote : Option Text := some (Text.ofString "`")
  /-- The unquote prefix. -/
  unquote : Option Text := some (Text.ofString ",")
  /-- The splice mark after the unquote prefix. -/
  splice : Option Text := some (Text.ofString "@")
  /-- The char literal prefix. -/
  charPrefix : Option Text := some (Text.ofString "#\\")

/-- Why a form cannot be printed. -/
inductive PrintError where
  /-- A character whose text has no name. -/
  | unnamed (e : CharName.NotOneChar)
  /-- A missing token joined before a text. -/
  | missingFirst
  /-- A missing token joined after a text. -/
  | missingSecond
  /-- Two missing tokens joined. -/
  | missingBoth

/-- The message of a form that cannot be printed. -/
def PrintError.message : PrintError → Text
  | .unnamed e => e.message
  | .missingFirst => Text.ofString "unsupported operand type(s) for +: 'NoneType' and 'str'"
  | .missingSecond => Text.ofString "can only concatenate str (not \"NoneType\") to str"
  | .missingBoth => Text.ofString "unsupported operand type(s) for +: 'NoneType' and 'NoneType'"

/-- Joins two texts, either of which may be a missing token. -/
def joinTokens : Option Text → Option Text → Except PrintError Text
  | some a, some b => .ok (a ++ b)
  | none, some _ => .error .missingFirst
  | some _, none => .error .missingSecond
  | none, none => .error .missingBoth

/-- A text between two tokens, the first joined first. -/
def enclose (before : Option Text) (t : Text) (after : Option Text) : Except PrintError Text := do
  let opened ← joinTokens before (some t)
  joinTokens (some opened) after

namespace PrintStyle

/-- The prefix of unquote-splicing, the unquote prefix and the splice mark joined. -/
def splicePrefix (st : PrintStyle) : Except PrintError Text :=
  joinTokens st.unquote st.splice

/-- Whether a style can be made: its prefix of unquote-splicing can be joined. -/
def check (st : PrintStyle) : Except PrintError Unit :=
  st.splicePrefix.map fun _ => ()

/-- The prefix a quote's head symbol prints as, none for any other symbol. -/
def prefixFor (st : PrintStyle) (name : Text) : Option (Option Text) :=
  if name = Text.ofString "quote" then some st.quote
  else if name = Text.ofString "quasiquote" then some st.quasiquote
  else if name = Text.ofString "unquote" then some st.unquote
  else if name = Text.ofString "unquote-splicing" then some st.splicePrefix.toOption
  else none

/-- The escape a code point of a string prints as: backslash, quote, line feed, tab, carriage
return and the null character are escaped, every other code point prints as itself. -/
def escapeInString (c : CodePoint) : Text :=
  if c.val = 0x5C then Text.ofString "\\\\"
  else if c.val = 0x22 then Text.ofString "\\\""
  else if c.val = 0x0A then Text.ofString "\\n"
  else if c.val = 0x09 then Text.ofString "\\t"
  else if c.val = 0x0D then Text.ofString "\\r"
  else if c.val = 0x00 then Text.ofString "\\0"
  else [c]

/-- The text of an atom. A number prints as it was written, or as its value when it was not
read; a string between its delimiters; a character as the prefix and its name. -/
def printAtom (st : PrintStyle) : Atom → Except PrintError Text
  | .symbol name => .ok name
  | .number n => .ok (n.lexeme.getD n.value.text)
  | .string value => enclose st.stringDelimiter (value.flatMap escapeInString) st.stringDelimiter
  | .bool b => .ok (Text.ofString (if b then "#t" else "#f"))
  | .nil => .ok (Text.ofString "nil")
  | .char c => do
    let name ← (CharName.nameOfText c).mapError .unnamed
    joinTokens st.charPrefix (some name)

/-- The prefix of a list that prints in shorthand, and whether it unquotes; none when the style is
not shorthand or the list is no two-item list headed by a quote's symbol. -/
def shorthandOf (st : PrintStyle) : List (Form α) → Option (Option Text × Bool)
  | [.atom (.symbol name) _, _] =>
    if st.shorthand then (st.prefixFor name).map fun p => (p, name = Text.ofString "unquote")
    else none
  | _ => none

mutual
/-- The text of a form, or the first fault in printing it. -/
def print (st : PrintStyle) : Form α → Except PrintError Text
  | .atom a _ => st.printAtom a
  | .list items _ => do
    let texts ← st.printAll items
    match st.shorthandOf items, texts with
    | some (p, unquotes), [_, operand] =>
      let spaced := unquotes && (st.splice.map (·.isPrefixOf operand)).getD false
      joinTokens p (some ((if spaced then [CodePoint.ofChar ' '] else []) ++ operand))
    | _, _ => enclose st.listOpen (Text.joinWith [CodePoint.ofChar ' '] texts) st.listClose
  | .vector items _ => do
    let texts ← st.printAll items
    enclose st.vectorOpen (Text.joinWith [CodePoint.ofChar ' '] texts) st.vectorClose

/-- The texts of forms, in order, or the first fault in printing them. -/
def printAll (st : PrintStyle) : List (Form α) → Except PrintError (List Text)
  | [] => .ok []
  | f :: rest => do
    let text ← st.print f
    let texts ← st.printAll rest
    pure (text :: texts)
end

end PrintStyle

end LispReader
