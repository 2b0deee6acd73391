/-!
# ASCII letter case

Keywords of catalogs are ASCII, and their case does not count. Letters outside ASCII stay as they are.
-/

namespace TableCodegen.Text

/-- A text with its ASCII capitals in small letters. -/
def asciiLower (text : String) : String :=
  String.ofList (text.toList.map Char.toLower)

/-- Two texts are the same but for ASCII case. -/
def equalIgnoringCase (a b : String) : Bool :=
  a.toList.map Char.toLower == b.toList.map Char.toLower

end TableCodegen.Text
