import LispReader.Text.Quoted

/-! Paths and the files they lead to. A path is normalised the way path objects are: empty parts
and `.` parts are dropped, a root of one or two slashes is kept, and nothing at all is `.`. A table
of files, each under a relative path, stands for a working directory: the directories are the
prefixes of those paths. A first part of a tilde and a user's name stands for that user's home
directory. -/

namespace LispReader

namespace CommandLine

/-- The parts of a text between slashes, empty parts included. -/
def splitSlashes (t : Text) : List Text :=
  t.splitOn (CodePoint.ofChar '/')

/-- A path in normal form: its root kept, empty and `.` parts dropped, `.` when nothing is left. -/
def normalizePath (t : Text) : Text :=
  let slash := CodePoint.ofChar '/'
  let root : Text :=
    if [slash, slash].isPrefixOf t ∧ ¬ [slash, slash, slash].isPrefixOf t then [slash, slash]
    else if [slash].isPrefixOf t then [slash]
    else []
  let parts := (splitSlashes t).filter fun part => part ≠ [] ∧ part ≠ [CodePoint.ofChar '.']
  let joined := root ++ Text.joinWith [slash] parts
  if joined = [] then [CodePoint.ofChar '.'] else joined

/-- Why a path cannot be opened for reading. -/
inductive OpenError where
  /-- Nothing is there. -/
  | notFound
  /-- A directory is there. -/
  | isDirectory
  /-- A part before the last is a file. -/
  | notDirectory
  /-- The path holds surrogates that stand for no byte: the first of them, where it is, and where
  the surrogates right after it end. -/
  | unencodable (first : CodePoint) (start stop : Nat)
  /-- The path holds a null character. -/
  | embeddedNull
  /-- The path, or a part of it, is longer than the system allows. -/
  | nameTooLong

/-- The name of the kind of error. -/
def OpenError.kind : OpenError → String
  | .notFound => "FileNotFoundError"
  | .isDirectory => "IsADirectoryError"
  | .notDirectory => "NotADirectoryError"
  | .unencodable .. => "UnicodeEncodeError"
  | .embeddedNull => "ValueError"
  | .nameTooLong => "OSError"

/-- The message of an error opening a path: the error number, its words and the quoted path; for
surrogates where they are, and for a null character words alone. -/
def OpenError.message (e : OpenError) (path : Text) : Text :=
  match e with
  | .notFound => Text.ofString "[Errno 2] No such file or directory: " ++ Text.quoted path
  | .isDirectory => Text.ofString "[Errno 21] Is a directory: " ++ Text.quoted path
  | .notDirectory => Text.ofString "[Errno 20] Not a directory: " ++ Text.quoted path
  | .nameTooLong => Text.ofString "[Errno 36] File name too long: " ++ Text.quoted path
  | .embeddedNull => Text.ofString "embedded null byte"
  | .unencodable first start stop =>
    let place :=
      if stop = start + 1 then
        Text.ofString "character '\\u" ++ Text.hex 4 first.val ++ Text.ofString "' in position " ++
          Text.ofNat start
      else Text.ofString "characters in position " ++ Text.ofNat start ++ Text.ofString "-" ++
        Text.ofNat (stop - 1)
    Text.ofString "'utf-8' codec can't encode " ++ place ++ Text.ofString ": surrogates not allowed"

/-- Whether a surrogate stands for a byte: those from `0xDC80` to `0xDCFF` stand for the bytes
from `0x80` to `0xFF`. -/
def escapesByte (c : CodePoint) : Bool :=
  0xDC80 ≤ c.val && c.val ≤ 0xDCFF

/-- The bytes a path takes on the system: its UTF-8, a surrogate that stands for a byte taking
that one byte. -/
def pathBytes (t : Text) : Nat :=
  (t.filter escapesByte).length + Text.utf8Size (t.filter (!escapesByte ·))

/-- The first surrogate of a path that stands for no byte, where it is, and where the surrogates
right after it end. -/
def firstUnencodable (t : Text) : Option (CodePoint × Nat × Nat) :=
  match t.findIdx? fun c => c.isSurrogate && !escapesByte c with
  | none => none
  | some start =>
    match t.drop start with
    | [] => none
    | first :: after => some (first, start, start + 1 + (after.takeWhile CodePoint.isSurrogate).length)

/-- The most bytes a part of a path may have. -/
def nameLimit : Nat := 255

/-- The bytes a whole path must stay below. -/
def pathLimit : Nat := 4096

/-- The error a path meets before any directory is searched: a surrogate that stands for no
byte, a null character, which no path can hold, or as many bytes as a path may not have. -/
def OpenError.refusal (path : Text) : Option OpenError :=
  if let some (first, start, stop) := firstUnencodable path then some (.unencodable first start stop)
  else if path.contains ⟨0, by decide⟩ then some .embeddedNull
  else if pathBytes path ≥ pathLimit then some .nameTooLong
  else none

/-- Where home directories are: the user's own, and each named user's. -/
structure Homes where
  /-- The user's own home directory. -/
  home : Text
  /-- Each user's name and home directory. -/
  users : List (Text × Text)

/-- The users and home directories of a user table, one user a line, fields divided by colons:
the name first and the home directory sixth. -/
def Homes.usersOf (table : Text) : List (Text × Text) :=
  (table.splitOn CodePoint.newline).filterMap fun line =>
    match line.splitOn (CodePoint.ofChar ':') with
    | name :: _ :: _ :: _ :: _ :: home :: _ => some (name, home)
    | _ => none

/-- Why a path cannot be expanded: its first part names no known user. -/
structure UnknownUser where
  /-- The name after the tilde. -/
  name : Text

/-- The kind of error of an unknown user. -/
def UnknownUser.kind : String := "RuntimeError"

/-- The message of an unknown user, the same for every name. -/
def UnknownUser.message : Text := Text.ofString "Could not determine home directory."

/-- A normalised path whose first part is a tilde and a user's name (none for the user's own),
with that part replaced by the home directory, and normalised again. A home directory written as
nothing stands for the root. -/
def Homes.expand (homes : Homes) (path : Text) : Except UnknownUser Text :=
  let slash := CodePoint.ofChar '/'
  match splitSlashes path with
  | (c :: name) :: rest =>
    if c = CodePoint.ofChar '~' then
      let dir? := if name.isEmpty then some homes.home
        else (homes.users.find? (·.1 = name)).map (·.2)
      match dir? with
      | none => .error ⟨name⟩
      | some dir =>
        let dir := if dir.isEmpty then [slash] else dir
        .ok (normalizePath (Text.joinWith [slash] (dir :: rest)))
    else .ok path
  | _ => .ok path

/-- Files under relative paths, each path as its parts; their prefixes are the directories. Outside
the working directory, the root and the directories listed are known to be there, and nothing else
is. -/
structure FileTable where
  /-- Each file's parts and bytes. -/
  files : List (List Text × List UInt8)
  /-- Directories known outside the working directory, each as its parts after the root. -/
  outside : List (List Text) := []

namespace FileTable

/-- The bytes of the file at the given parts, if one is there. -/
def fileAt (table : FileTable) (parts : List Text) : Option (List UInt8) :=
  (table.files.find? (·.1 = parts)).map (·.2)

/-- Whether a directory is at the given parts: the working directory, or a proper prefix of a
file's parts. -/
def isDirectoryAt (table : FileTable) (parts : List Text) : Bool :=
  parts.isEmpty || table.files.any fun file => parts.isPrefixOf file.1 && parts.length < file.1.length

/-- Walks the parts of an absolute path from the directory at `here`, outside the working
directory: `..` goes up and stays at the root, a known directory is entered, and nothing else is
there. -/
def walkOutside (table : FileTable) (here : List Text) : List Text → Except OpenError (List UInt8)
  | [] => .error .isDirectory
  | part :: rest =>
    let next := if part = Text.ofString ".." then here.dropLast else here ++ [part]
    if pathBytes part > nameLimit then .error .nameTooLong
    else if next.isEmpty || table.outside.any (next.isPrefixOf ·) then table.walkOutside next rest
    else .error .notFound

/-- Walks the parts of a relative path from the directory at `here`: every part but the last must
be a directory, `..` going up; the last is the file read. A part too long is refused by the
directory it is looked up in. Above the working directory only its ancestors are known, so nothing
but more `..` parts leads anywhere there. -/
def walk (table : FileTable) (here : List Text) : List Text → Except OpenError (List UInt8)
  | [] => if table.isDirectoryAt here then .error .isDirectory else .error .notFound
  | part :: rest =>
    let dotdot := Text.ofString ".."
    let next := if part = dotdot then here.dropLast else here ++ [part]
    if pathBytes part > nameLimit then .error .nameTooLong
    else if part = dotdot ∧ here.isEmpty then
      match rest.find? (· ≠ dotdot) with
      | none => .error .isDirectory
      | some name => if pathBytes name > nameLimit then .error .nameTooLong else .error .notFound
    else if rest.isEmpty then
      match table.fileAt next with
      | some bytes => .ok bytes
      | none => if table.isDirectoryAt next then .error .isDirectory else .error .notFound
    else if table.isDirectoryAt next then table.walk next rest
    else if (table.fileAt next).isSome then .error .notDirectory
    else .error .notFound

/-- The bytes of the file a normalised path leads to, or why it cannot be read. A path the system
refuses outright is refused first; an absolute path leads outside the working directory. -/
def read (table : FileTable) (path : Text) : Except OpenError (List UInt8) :=
  if let some e := OpenError.refusal path then .error e
  else if path.head? = some (CodePoint.ofChar '/') then
    table.walkOutside [] ((splitSlashes path).filter (· ≠ []))
  else if path = [CodePoint.ofChar '.'] then .error .isDirectory
  else table.walk [] (splitSlashes path)

/-- A table of files from their paths and bytes, each path normalised. -/
def ofList (entries : List (Text × List UInt8)) (outside : List Text := []) : FileTable :=
  ⟨entries.map (fun (path, bytes) => (splitSlashes (normalizePath path), bytes)),
    outside.map fun dir => (splitSlashes (normalizePath dir)).filter (· ≠ [])⟩

end FileTable

end CommandLine

end LispReader
