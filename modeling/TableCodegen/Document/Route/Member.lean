import TableCodegen.Document.Line
import TableCodegen.Entity

/-!
# Members of route types

A request or response type of a route document is a list of members. The tag of a member says where the
member travels and what a caller may leave out: a response member only has a key, a member of a request
also has rules and a label.

Main definitions:

* `MemberTag`: the tags of members.
* `RouteMember`: members, and `RouteMember.ofField` for the member of a field in a mode.
-/

namespace TableCodegen

/-! ## Tags -/

/-- Where a member of a request travels. -/
inductive RequestPlace where
  | body
  | query
  deriving Repr, DecidableEq

/-- The key under which a place is tagged. -/
def RequestPlace.key : RequestPlace → String
  | body => "json"
  | query => "form"

/-- Whether a caller may leave a member out. -/
inductive Presence where
  | mandatory
  | optional
  /-- A member that is left out has this value. -/
  | default (value : Nat)
  deriving Repr, DecidableEq

/-- What follows the name of a member in its key. -/
def Presence.toText : Presence → String
  | mandatory => ""
  | optional => ",optional"
  | default value => ",default=" ++ toString value

/-- A rule that the value of a member has to satisfy. -/
inductive Rule where
  | required
  /-- The other rules hold only for a value that is given. -/
  | omitEmpty
  /-- One of the space-separated values. -/
  | oneOf (values : String)
  | min (bound : Nat)
  | max (bound : Nat)
  deriving Repr, DecidableEq

/-- The spelling of a rule. -/
def Rule.toText : Rule → String
  | required => "required"
  | omitEmpty => "omitempty"
  | oneOf values => "oneof=" ++ values
  | min bound => "min=" ++ toString bound
  | max bound => "max=" ++ toString bound

/-- The tag of a member of a route type. -/
inductive MemberTag where
  /-- A member of a response. -/
  | response (key : String)
  /-- A member of a request that stands in the path. -/
  | path (key : String)
  /-- A member of a request that a caller gives; a label names it in messages. -/
  | request (place : RequestPlace) (key : String) (presence : Presence) (rules : List Rule)
      (label : Option String)
  deriving Repr, DecidableEq

namespace MemberTag

/-- The keys and values of a tag. -/
def toTags : MemberTag → List Tag
  | response key => [⟨"json", key⟩]
  | path key => [⟨"path", key⟩, ⟨"swaggerignore", "true"⟩]
  | request place key presence rules label =>
    [⟨place.key, key ++ presence.toText⟩] ++
      clauseIf (!rules.isEmpty) ⟨"validate", ",".intercalate (rules.map Rule.toText)⟩ ++
      (label.map fun text => ⟨"label", text⟩).toList

/-- The tag as it is written, between backticks. -/
def toText (tag : MemberTag) : String :=
  backtick.toString ++ " ".intercalate (tag.toTags.map Tag.toText) ++ backtick.toString

end MemberTag

/-! ## Types of members -/

/-- The type of a member of a route type. -/
inductive RouteType where
  | plain (type : MemberType)
  | listOf (type : MemberType)
  /-- A type that the document declares. -/
  | declared (name : String)
  | listOfDeclared (name : String)
  deriving Repr, DecidableEq

/-- The spelling of a type. -/
def RouteType.toText : RouteType → String
  | plain type => type.toText
  | listOf type => "[]" ++ type.toText
  | declared name => name
  | listOfDeclared name => "[]" ++ name

/-! ## Members -/

/-- A member of a route type. -/
structure RouteMember where
  name : String
  type : RouteType
  tag : MemberTag
  comment : String
  deriving Repr, DecidableEq

namespace RouteMember

/-- The line of a member. -/
def toText (member : RouteMember) : String :=
  withComment (member.name ++ " " ++ member.type.toText ++ " " ++ member.tag.toText) member.comment

/-- The rules of a member: a member that is not required is checked only when it is given, and then
    only if there is something to check. -/
def rulesOf (required : Bool) (enums : String) : List Rule :=
  if required then [.required] ++ clauseIf (!enums.isEmpty) (.oneOf enums)
  else if enums.isEmpty then []
  else [.omitEmpty, .oneOf enums]

/-- The tag of a field in a mode. A caller has to give a field only where values are stored, and only
    if the column has no value of its own. -/
def tagOf (mode : Mode) (field : Field) : MemberTag :=
  if mode = .model then .response field.rawName
  else if mode = .update && field.primaryKey then .path field.rawName
  else
    let required := mode.isWrite && field.isRequired
    .request (if mode = .get then .query else .body) field.rawName
      (if required then .mandatory else .optional) (rulesOf required field.enums)
      (if field.label.isEmpty then none else some (quotable field.label))

/-- The member of a field in a mode. -/
def ofField (mode : Mode) (field : Field) : RouteMember where
  name := field.name
  type := .plain (field.typeIn mode)
  tag := tagOf mode field
  comment := singleLine field.comment

end RouteMember

/-- The members of an entity's fields in a mode. -/
def Entity.membersIn (mode : Mode) (entity : Entity) : List RouteMember :=
  (entity.fieldsIn mode).map (RouteMember.ofField mode)

end TableCodegen
