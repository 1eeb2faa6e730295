import LispReader.Reader.Read
import LispReader.Form.Display
import LispReader.Text.Utf8

/-! Reading a whole source: form after form until the source ends or a fault stops reading. The
forms read before a fault are kept, and a debug trace shows each form as it is read and the error
that stopped reading. -/

namespace LispReader

/-- What reading a source gives: the forms read, in order, and the fault that stopped reading
before the end, if one did. -/
structure Reading where
  /-- The forms read. -/
  forms : List (Form Span)
  /-- The fault that stopped reading, none when the source was read to its end. -/
  fault : Option Fault

namespace Dialect

/-- Reads the forms from `s` on, after the forms `read` so far, the last first, each form with
`limit` levels of nesting allowed. -/
def readFrom (d : Dialect) (limit : Nat) (s : Scan) (read : List (Form Span)) : Reading :=
  match (d.skipAtmosphere s).rest with
  | [] => ⟨read.reverse, none⟩
  | _ :: _ =>
    match d.readFormAt limit [.expression] (d.skipAtmosphere s)
      (d.skipAtmosphere_length_le s) with
    | .error fault => ⟨read.reverse, some fault⟩
    | .ok step => d.readFrom limit step.next (step.form :: read)
termination_by s.rest.length
decreasing_by exact step.shorter

/-- Reads a source from its start, with `limit` levels of nesting allowed in each form. -/
def readWithin (d : Dialect) (limit : Nat) (source : Text) : Reading :=
  d.readFrom limit ⟨0, source⟩ []

/-- Reads a source from its start, nesting no deeper than the reader's own recursion allows. -/
def read (d : Dialect) (source : Text) : Reading :=
  d.readWithin nestingLimit source

/-- Reads a source given as bytes of UTF-8, or gives the first refused stretch of bytes. -/
def readBytes (d : Dialect) (bytes : List UInt8) : Except Utf8.DecodeError Reading :=
  (Utf8.decode bytes).map d.read

end Dialect

namespace Reading

/-- The debug trace of reading a source: a line for each form read, showing it with its spans,
then a line with the syntax error that stopped reading, if one did. -/
def trace (r : Reading) (source : Text) (filename : Option Text) : Text :=
  (r.forms.map fun form =>
      Text.ofString "read: " ++ form.display true ++ [CodePoint.newline]).flatten ++
    match r.fault with
    | some (.invalid e) =>
      Text.ofString "fail: " ++ e.message (e.positionIn source) filename ++
        [CodePoint.newline]
    | _ => []

end Reading

end LispReader
