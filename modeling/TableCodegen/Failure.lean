/-!
# Failures

What can go wrong in a run, as causes. A failure is a cause and the steps that were being taken when it
arose, outermost first; its message is the steps and the cause in one line.

Main definitions:

* `ConfigFault`: settings that a run cannot start from.
* `Cause`, `Failure`: all failures of the library.
* `Failure.message`: the text of a failure.
-/

namespace TableCodegen

/-- The names of the switches that can be turned on by name, in the order in which they are listed. -/
def serviceNames : List String := [
  "INITIALISM", "FIELD_COMMENT", "SQL_NULL", "GUREGU_NULL", "JSON_TAG", "XML_TAG", "GORM_TAG",
  "XORM_TAG", "BEEGO_TAG", "GOROSE_TAG", "GORM_V2_TAG", "DISABLE_UNSIGNED"]

/-- Settings that a run cannot start from. -/
inductive ConfigFault where
  | invalidDatabase
  | emptyTable
  | emptyServiceName
  | emptyDirectory
  | noTables
  | invalidService (name : String)
  | unsupportedFormat (extension : String)
  deriving Repr, DecidableEq

/-- The text of a fault of settings. -/
def ConfigFault.message : ConfigFault → String
  | invalidDatabase => "invalid db config: host, port, user and database are required"
  | emptyTable => "no table given"
  | emptyServiceName => "service_name must not be empty"
  | emptyDirectory => "dir must not be empty"
  | noTables => "tables must not be empty"
  | invalidService name =>
    "enabled service is invalid, service: " ++ name ++ " (must be one of [" ++
      ",".intercalate serviceNames ++ "])"
  | unsupportedFormat extension =>
    "unsupported config format '" ++ extension ++ "' (expected json, yaml, yml or toml)"

/-- The ways in which a file can be refused. -/
inductive FileFault where
  | notFound
  | alreadyExists
  | notADirectory
  | isADirectory
  | invalidData
  deriving Repr, DecidableEq

/-- The text of a fault of a file. -/
def FileFault.message : FileFault → String
  | notFound => "No such file or directory (os error 2)"
  | alreadyExists => "File exists (os error 17)"
  | notADirectory => "Not a directory (os error 20)"
  | isADirectory => "Is a directory (os error 21)"
  | invalidData => "stream did not contain valid UTF-8"

/-- What went wrong. -/
inductive Cause where
  /-- The settings do not allow the run. -/
  | config (fault : ConfigFault)
  /-- A route document is not well formed at a line and column. -/
  | rejected (line column : Nat) (detail : String)
  /-- The source formatter refused a block. -/
  | source (detail buffer : String)
  /-- A text is not in its format, or does not describe the value asked for. -/
  | undecodable
  /-- A file could not be read or written. -/
  | file (fault : FileFault)
  /-- Anything else, in words. -/
  | other (text : String)
  deriving Repr, DecidableEq

/-- The text of a cause; a decoding fault has none. -/
def Cause.message? : Cause → Option String
  | config fault => some fault.message
  | rejected line column detail =>
    some ("route document rejected at " ++ toString line ++ ":" ++ toString column ++ ": " ++ detail)
  | source detail buffer => some ("error formatting type block: " ++ detail ++ "\n" ++ buffer)
  | undecodable => none
  | file fault => some fault.message
  | other text => some text

/-- A cause and the steps that led to it, outermost first. -/
structure Failure where
  steps : List String
  cause : Cause
  deriving Repr, DecidableEq

namespace Failure

/-- A failure without a step around it. -/
def ofCause (cause : Cause) : Failure :=
  ⟨[], cause⟩

/-- A failure that is only described. -/
def ofText (text : String) : Failure :=
  ofCause (.other text)

/-- The failure inside one more step. -/
def within (step : String) (failure : Failure) : Failure :=
  ⟨step :: failure.steps, failure.cause⟩

/-- The steps and the cause, separated by colons. -/
def message (failure : Failure) : String :=
  ": ".intercalate (failure.steps ++ failure.cause.message?.toList)

end Failure

/-- The result with a failure seen inside one more step. -/
def inStep {α : Type} (step : String) (result : Except Failure α) : Except Failure α :=
  result.mapError (·.within step)

end TableCodegen
