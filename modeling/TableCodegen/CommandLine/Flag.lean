/-!
# Commands and flags

The commands of the command line and the flags that each of them takes.

Main definitions:

* `CommandGroup`, `CommandKind`, `CommandNode`: groups of commands and the commands in them.
* `Flag`, `CommandNode.flags`: flags and who takes them.
* `UsageFault`: ways in which a command line is refused.
-/

namespace TableCodegen.CommandLine

/-! ## Commands -/

/-- A group of commands. -/
inductive CommandGroup where
  /-- All commands. -/
  | root
  /-- The commands for projects. -/
  | api
  deriving Repr, DecidableEq

/-- A command that does something. -/
inductive CommandKind where
  /-- Print the model of one table. -/
  | convert
  /-- Write sample settings for conversions. -/
  | generate
  /-- Write sample settings for projects. -/
  | apiConfig
  /-- Generate a project. -/
  | apiGenerate
  deriving Repr, DecidableEq

/-- A place in the tree of commands. -/
inductive CommandNode where
  | group (group : CommandGroup)
  | leaf (kind : CommandKind)
  deriving Repr, DecidableEq

/-- The commands and groups right below a group. -/
def CommandGroup.members : CommandGroup → List (String × CommandNode)
  | root => [("convert", .leaf .convert), ("generate", .leaf .generate), ("api", .group .api)]
  | api => [("config", .leaf .apiConfig), ("generate", .leaf .apiGenerate)]

/-- The commands and groups right below a place. -/
def CommandNode.members : CommandNode → List (String × CommandNode)
  | group g => g.members
  | leaf _ => []

/-- The command that every group has besides its members: it describes what follows it. -/
def helpName : String := "help"

/-! ## Flags -/

/-- A flag. -/
inductive Flag where
  | help
  | version
  | name
  | host
  | port
  | user
  | password
  | database
  | table
  | package
  | struct
  | enable
  | catalog
  deriving Repr, DecidableEq

namespace Flag

/-- The flag after two hyphens. -/
def long : Flag → String
  | help => "help"
  | version => "version"
  | name => "name"
  | host => "host"
  | port => "port"
  | user => "user"
  | password => "password"
  | database => "database"
  | table => "table"
  | package => "package"
  | struct => "struct"
  | enable => "enable"
  | catalog => "catalog"

/-- The letter of the flag after one hyphen. -/
def short? : Flag → Option Char
  | help => some 'h'
  | version => some 'V'
  | name => some 'n'
  | host => some 'H'
  | port => some 'P'
  | user => some 'u'
  | password => some 'p'
  | database => some 'd'
  | table => some 't'
  | enable => some 'e'
  | package => none
  | struct => none
  | catalog => none

/-- The flag takes a value. -/
def takesValue (flag : Flag) : Bool :=
  flag ≠ help && flag ≠ version

/-- The flag may occur more than once, and each of its values is a list with commas. -/
def isRepeated (flag : Flag) : Bool :=
  flag = enable

/-- The value of the flag is a path. -/
def isPath (flag : Flag) : Bool :=
  flag = name || flag = catalog

end Flag

/-- The flags of a command. -/
def CommandKind.flags : CommandKind → List Flag
  | convert =>
    [.name, .host, .port, .user, .password, .database, .table, .package, .struct, .enable, .catalog, .help]
  | generate => [.name, .help]
  | apiConfig => [.name, .help]
  | apiGenerate => [.name, .catalog, .help]

/-- The flags at a place. -/
def CommandNode.flags : CommandNode → List Flag
  | group .root => [.help, .version]
  | group .api => [.help]
  | leaf kind => kind.flags

/-! ## Faults -/

/-- A way in which a command line is refused, or asks for a text instead of an action. -/
inductive UsageFault where
  | displayHelp
  | displayVersion
  /-- A group without one of its commands. -/
  | missingCommand
  | unknownCommand
  | unknownArgument
  /-- A flag without its value, or an empty path. -/
  | missingValue
  /-- A value for a flag that takes none. -/
  | needlessValue
  /-- A value that is not of its type. -/
  | malformedValue
  /-- A flag that occurs twice. -/
  | repeatedFlag
  deriving Repr, DecidableEq

end TableCodegen.CommandLine
