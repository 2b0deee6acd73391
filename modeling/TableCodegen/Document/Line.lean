import TableCodegen.Text.Blank

/-!
# Lines of documents

Texts from a database go into documents on one line: a text with line breaks must not add lines, and a
text with double quotes must not end the literal that it stands in.

Main definitions:

* `singleLine`: a text on one line.
* `quotable`: a text that can stand between double quotes.
* `indented`, `textOfLines`: lines and the document that they make.
-/

namespace TableCodegen

/-- The words of a text with one space between neighbours. -/
def singleLine (text : String) : String :=
  String.ofList (Text.joinWords text.toList)

/-- A text on one line, with single quotes for double ones. -/
def quotable (text : String) : String :=
  String.ofList ((singleLine text).toList.map fun c => if c = '"' then '\x27' else c)

/-- A text between double quotes, as it is. -/
def inQuotes (text : String) : String :=
  "\"" ++ text ++ "\""

/-- A line behind a number of tabs. -/
def indented (depth : Nat) (line : String) : String :=
  String.ofList (List.replicate depth '\t') ++ line

/-- A member line: its parts, and a comment after them unless it is empty. -/
def withComment (line comment : String) : String :=
  if comment.isEmpty then line else line ++ " // " ++ comment

/-- The document of some lines: without blanks at its end, and with one line feed there. -/
def textOfLines (lines : List String) : String :=
  String.ofList (Text.trimEnd ("\n".intercalate lines).toList) ++ "\n"

end TableCodegen
