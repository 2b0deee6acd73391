import TableCodegen.Naming.Words
import TableCodegen.Text.Search

/-!
# Exported names and initialisms

An exported name is made of the segments of a catalog name between underscores, each with a capital
in front. Segments such as `id` or `url` are initialisms: a name can have them in capitals throughout
(`UserID`) or treat them like any segment (`UserId`).

Main definitions:

* `initialisms`, `isInitialism`: the words that are written in capitals.
* `exportedName`: the exported name of a catalog name.
* `replaceInitialisms`: capitals for the initialisms of a name that is exported already.
-/

namespace TableCodegen.Naming

open TableCodegen.Text TableCodegen.Text.Unicode

/-- The initialisms in common use. -/
def initialisms : List String := [
  "ACL", "API", "ASCII", "CPU", "CSS", "DNS", "EOF", "GUID", "HTML", "HTTP", "HTTPS", "ID",
  "IP", "JSON", "LHS", "QPS", "RAM", "RHS", "RPC", "SLA", "SMTP", "SQL", "SSH", "TCP", "TLS",
  "TTL", "UDP", "UI", "UID", "UUID", "URI", "URL", "UTF8", "VM", "XML", "XMPP", "XSRF", "XSS"]

/-- The characters of the word, in capitals, are an initialism. -/
def isInitialismChars (cs : List Char) : Bool :=
  initialisms.any fun word => word.toList == upperText cs

/-- A word of any case is an initialism. -/
def isInitialism (word : String) : Bool :=
  isInitialismChars word.toList

/-! ## Names from catalog names -/

/-- A capital first, small letters after it. -/
def titleChars : List Char → List Char
  | [] => []
  | c :: rest => upper c ++ rest.flatMap lower

/-- One segment of an exported name. -/
def exportedSegment (enableInitialism : Bool) (cs : List Char) : List Char :=
  if enableInitialism && isInitialismChars cs then upperText cs else titleChars cs

/-- The segments of a catalog name: the pieces between underscores. -/
def segments (cs : List Char) : List (List Char) :=
  runs (· == '_') cs

/-- The exported form of a catalog name, on characters. -/
def exportedChars (enableInitialism : Bool) (cs : List Char) : List Char :=
  (segments cs).flatMap (exportedSegment enableInitialism)

/-- The exported form of a catalog name. -/
def exportedName (enableInitialism : Bool) (raw : String) : String :=
  String.ofList (exportedChars enableInitialism raw.toList)

/-! ## Initialisms in exported names -/

/-- A capital first, none after it. -/
def isTitleCase : List Char → Bool
  | [] => false
  | c :: rest => isUpper c && rest.all fun d => !isUpper d

/-- A word of an exported name: in capitals if it is an initialism in title case. -/
def replaceWord (word : List Char) : List Char :=
  if isTitleCase word && isInitialismChars word then upperText word else word

/-- An exported name with its title-case initialisms in capitals, on characters. -/
def replaceInitialismsChars (cs : List Char) : List Char :=
  (capitalWords cs).flatMap replaceWord

/-- An exported name with its title-case initialisms in capitals. -/
def replaceInitialisms (name : String) : String :=
  String.ofList (replaceInitialismsChars name.toList)

end TableCodegen.Naming
