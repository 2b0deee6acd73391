import TableCodegen.CommandLine.Flag
import TableCodegen.Text.Search

/-!
# Reading a command line

Arguments are read from left to right. A flag is only looked at closely when the next flag or the end is
reached, so that an argument that nobody knows is refused before a flag without its value.

Main definitions:

* `Given`: the flags that have been read, with their values.
* `readFlags?`: the flags that one argument holds.
* `readArguments`: the command that a command line names, and its flags.
-/

namespace TableCodegen.CommandLine

open TableCodegen.Text

/-! ## Values -/

/-- The digits of a number after an optional sign, and whether the sign is a minus. -/
def splitSign : List Char → Bool × List Char
  | '+' :: rest => (false, rest)
  | '-' :: rest => (true, rest)
  | cs => (false, cs)

/-- The value of decimal digits. -/
def digitsValue (cs : List Char) : Nat :=
  cs.foldl (fun total c => total * 10 + (c.toNat - 48)) 0

/-- The port that a text stands for: decimal digits after an optional sign. -/
def port? (text : String) : Option UInt16 :=
  let (negative, digits) := splitSign text.toList
  let value := digitsValue digits
  if digits.isEmpty || !digits.all Char.isDigit || 65535 < value || (negative && value ≠ 0) then none
  else some (UInt16.ofNat value)

/-- The values of a flag have the right form. -/
def checkValues (flag : Flag) (values : List String) : Except UsageFault Unit :=
  if flag.isPath && values.any (·.isEmpty) then .error .missingValue
  else if flag = .port && values.any fun value => (port? value).isNone then .error .malformedValue
  else .ok ()

/-- The items of a list with commas; nothing between two commas is an item, too. -/
def splitCommas (text : String) : List String :=
  (splitBy (· = ',') text.toList).map String.ofList

/-! ## Flags that have been read -/

/-- The flags that have been read. -/
structure Given where
  /-- The flags that have been looked at, with their values. -/
  values : List (Flag × List String) := []
  /-- The last flag, if it has not been looked at yet, with the value after it. -/
  pending : Option (Flag × Option String) := none
  deriving Repr, DecidableEq

namespace Given

/-- The flag waits for its value. -/
def isWaiting (given : Given) : Bool :=
  match given.pending with
  | some (_, none) => true
  | _ => false

/-- Takes one more flag with its value. -/
def accept (given : Given) (flag : Flag) (value : String) : Except UsageFault Given := do
  let values := if flag.isRepeated then splitCommas value else [value]
  if !flag.isRepeated && (given.values.lookup flag).isSome then throw .repeatedFlag
  checkValues flag values
  return { given with values := given.values ++ [(flag, values)] }

/-- Looks at the pending flag. -/
def settle (given : Given) : Except UsageFault Given :=
  match given.pending with
  | none => .ok given
  | some (_, none) => .error .missingValue
  | some (flag, some value) => accept { given with pending := none } flag value

/-- Reads a flag and the value attached to it, if there is one. -/
def read (given : Given) (flag : Flag) (attached : Option String) : Except UsageFault Given := do
  match flag.takesValue, attached with
  | true, some value => (← given.settle).accept flag value
  | true, none => return { ← given.settle with pending := some (flag, none) }
  | false, some _ => throw .needlessValue
  | false, none =>
    let _ ← given.settle
    throw (if flag = .version then .displayVersion else .displayHelp)

/-- Gives the waiting flag its value. -/
def supply (given : Given) (value : String) : Given :=
  { given with pending := given.pending.map fun entry => (entry.1, some value) }

/-- The value of a flag that occurs at most once. -/
def value? (given : Given) (flag : Flag) : Option String :=
  (given.values.lookup flag).bind (·.head?)

/-- All values of a flag that may be repeated. -/
def allValues (given : Given) (flag : Flag) : List String :=
  (given.values.filter (·.1 = flag)).flatMap (·.2)

end Given

/-! ## Arguments -/

/-- The flag with a letter at a place. -/
def CommandNode.shortFlag? (node : CommandNode) (letter : Char) : Option Flag :=
  node.flags.find? (·.short? = some letter)

/-- The flag with a name at a place. -/
def CommandNode.longFlag? (node : CommandNode) (name : String) : Option Flag :=
  node.flags.find? (·.long = name)

/-- Reads letters after one hyphen. The rest of the letters after a flag with a value is its value, with
    or without an equals sign. -/
def readLetters (node : CommandNode) (given : Given) : List Char → Except UsageFault Given
  | [] => .ok given
  | letter :: rest =>
    match node.shortFlag? letter with
    | none => .error .unknownArgument
    | some flag =>
      if flag.takesValue then
        match rest with
        | [] => given.read flag none
        | '=' :: value => given.read flag (some (String.ofList value))
        | value => given.read flag (some (String.ofList value))
      else do
        readLetters node (← given.read flag none) rest

/-- Reads what stands after two hyphens: a flag, and its value after an equals sign. -/
def readLong (node : CommandNode) (given : Given) (cs : List Char) : Except UsageFault Given :=
  let name := String.ofList (cs.takeWhile (· ≠ '='))
  match node.longFlag? name, cs.dropWhile (· ≠ '=') with
  | none, _ => .error .unknownArgument
  | some flag, [] => given.read flag none
  | some flag, _ :: value => given.read flag (some (String.ofList value))

/-- The flags that one argument holds; nothing, if it is no flag. -/
def readFlags? (node : CommandNode) (given : Given) (argument : String) :
    Option (Except UsageFault Given) :=
  match argument.toList with
  | '-' :: '-' :: cs => some (readLong node given cs)
  | ['-'] => none
  | '-' :: cs => some (readLetters node given cs)
  | _ => none

/-- The name is that of a command below a place. -/
def CommandNode.isMember (node : CommandNode) (name : String) : Bool :=
  (node.members.lookup name).isSome || (!node.members.isEmpty && name = helpName)

/-- Why an argument is refused that is no flag, no value and no command. -/
def strayFault (node : CommandNode) (afterHyphens : Bool) (argument : String) : UsageFault :=
  if node.members.isEmpty || (afterHyphens && node.isMember argument) then .unknownArgument
  else .unknownCommand

/-- The answer to a request to describe the command with some names. -/
def describe (node : CommandNode) : List String → UsageFault
  | [] => .displayHelp
  | name :: rest =>
    match node.members.lookup name with
    | some member => describe member rest
    | none => if node.isMember name && rest.isEmpty then .displayHelp else .unknownCommand

/-- The end of a command line. -/
def finish (node : CommandNode) (given : Given) : Except UsageFault (CommandKind × Given) :=
  match node with
  | .group _ => .error .missingCommand
  | .leaf kind => given.settle.map (kind, ·)

/-- The command that a command line names, and its flags. Each command has flags of its own, so that
    reading starts anew when one is named. -/
def readArguments (node : CommandNode) (given : Given) :
    List String → Except UsageFault (CommandKind × Given)
  | [] => finish node given
  | argument :: rest =>
    if given.isWaiting then
      if argument = "--" then afterHyphens node given rest
      else match readFlags? node given argument with
        | some result => result.bind fun given => readArguments node given rest
        | none => readArguments node (given.supply argument) rest
    else match node.members.lookup argument with
      | some member => readArguments member {} rest
      | none =>
        if node.isMember argument then .error (describe node rest)
        else if argument = "--" then afterHyphens node given rest
        else match readFlags? node given argument with
          | some result => result.bind fun given => readArguments node given rest
          | none => .error (strayFault node false argument)
where
  /-- What follows two hyphens: nothing is allowed there. -/
  afterHyphens (node : CommandNode) (given : Given) :
      List String → Except UsageFault (CommandKind × Given)
    | [] => finish node given
    | argument :: _ => .error (strayFault node true argument)

end TableCodegen.CommandLine
