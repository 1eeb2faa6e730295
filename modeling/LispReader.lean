import LispReader.Char.Name
import LispReader.CommandLine.Arguments
import LispReader.CommandLine.Files
import LispReader.CommandLine.Session
import LispReader.Cursor
import LispReader.Decimal.Layout
import LispReader.Decimal.Shortest
import LispReader.Dialect
import LispReader.Form.Basic
import LispReader.Form.Display
import LispReader.Form.Distinct
import LispReader.Form.Printer
import LispReader.Main
import LispReader.Numeral.FromText
import LispReader.Numeral.Lexeme
import LispReader.Numeral.Loose
import LispReader.Reader.Atom
import LispReader.Reader.Error
import LispReader.Reader.Program
import LispReader.Reader.Read
import LispReader.Reader.Scan
import LispReader.Text.Blank
import LispReader.Text.CodePoint
import LispReader.Text.DecimalDigit
import LispReader.Text.Printable
import LispReader.Text.Quoted
import LispReader.Text.Utf8
import LispReader.Proofs.Reader.Cases
import LispReader.Proofs.Grammar
import LispReader.Proofs.Reader.Atoms
import LispReader.Proofs.Reader.Sound
import LispReader.Proofs.Reader.Complete
import LispReader.Proofs.Numeral.NotANumber
import LispReader.Proofs.Char.Names
import LispReader.Proofs.Printer.ReadBack
import LispReader.Proofs.Printer.RoundTrip
import LispReader.Proofs.Unfinished
import LispReader.Proofs.Reader.Faults
import LispReader.Proofs.Reader.Position
import LispReader.Proofs.Reader.Layout
import LispReader.Proofs.Reader.Nesting
import LispReader.Proofs.Reader.Reread
import LispReader.Proofs.Reader.Shift
import LispReader.Proofs.Reader.Append
import LispReader.Proofs.Reader.Strict
import LispReader.Proofs.Reader.StrictReading
import LispReader.Proofs.Cursor
import LispReader.Proofs.Reader.Progress
import LispReader.Proofs.Dialect.Check
import LispReader.Proofs.Printer.Delimiter
