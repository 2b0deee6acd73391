import TableCodegen.Formatter
import TableCodegen.Text.Blank
import TableCodegen.Text.Utf8

/-!
# Formatter programs

A source formatter can be a program that reads source text and writes the formatted text. A program that
ends without success refuses its source and says why on its error channel.
-/

namespace TableCodegen

open TableCodegen.Text

/-- What a program leaves behind. -/
structure ProgramResult where
  exitCode : Nat
  output : List UInt8
  errors : List UInt8
  deriving Repr, DecidableEq

/-- A program: its arguments and its input decide what it leaves behind. -/
abbrev Program := List String → List UInt8 → ProgramResult

/-- The text of an encoding fault. -/
def encodingFaultText (fault : Utf8.Fault) : String :=
  match fault.size? with
  | some size =>
    "invalid utf-8 sequence of " ++ toString size ++ " bytes from index " ++ toString fault.offset
  | none => "incomplete utf-8 byte sequence from index " ++ toString fault.offset

/-- The failure of a program that does not exist. -/
def missingProgram (path : String) : Failure :=
  (Failure.ofCause (.file .notFound)).within ("Failed to run " ++ path)

/-- The formatted text, or why there is none, from what the program at a path left behind. -/
def ProgramResult.toFormatted (path : String) (result : ProgramResult) : Except Failure String :=
  if result.exitCode ≠ 0 then
    .error (.ofText (path ++ " failed: " ++ trimmed (Utf8.decodeLossy result.errors)))
  else
    (Utf8.decode result.output).mapError fun fault =>
      (Failure.ofText (encodingFaultText fault)).within "gofmt produced invalid UTF-8"

/-- The formatter that runs the program at a path; there may be none. -/
def SourceFormatter.ofProgram (path : String) (program? : Option Program) : SourceFormatter :=
  fun source => match program? with
    | none => .error (missingProgram path)
    | some program => (program [] (Utf8.encode source)).toFormatted path

end TableCodegen
