import TableCodegen.Naming.Words
import TableCodegen.Text.Blank

/-!
# Camel case, route names and abbreviations

The secondary names of a structure: its name in camel case, the name of a variable that holds it, the
name in its routes, and the receiver of its methods.

Main definitions:

* `camelName`: upper camel case of free text.
* `lowerCamelName`: the variable name for an exported name.
* `RouteStyle`, `routeName`: the words of a name in small letters, joined by a dash or an underscore.
* `abbreviation`: the initials.
-/

namespace TableCodegen.Naming

open TableCodegen.Text TableCodegen.Text.Unicode

/-- A word in small letters; a capital sigma is final when it is the last letter. -/
def lowerWord : List Char → List Char
  | [] => []
  | [c] => if c = 'Σ' then ['ς'] else lower c
  | c :: rest => lower c ++ lowerWord rest

/-- A word with a capital first. -/
def capitalizeWord : List Char → List Char
  | [] => []
  | c :: rest => upper c ++ lowerWord rest

/-- Upper camel case on characters. -/
def camelChars (cs : List Char) : List Char :=
  (mixedWords cs).flatMap capitalizeWord

/-- Upper camel case: every word with a capital first and nothing between the words. -/
def camelName (name : String) : String :=
  String.ofList (camelChars name.toList)

/-! ## Names of variables -/

/-- The word is one character. -/
def isSingle : List Char → Bool
  | [_] => true
  | _ => false

/-- Lower camel case from the words of a name: a first run of one-letter words goes to small letters,
    and if there is none the first word does. -/
def lowerCamelWords (ws : List (List Char)) : List Char :=
  match ws.takeWhile isSingle, ws.dropWhile isSingle with
  | [], [] => []
  | [], w :: rest => lowerText w ++ rest.flatten
  | singles, rest => singles.flatMap lowerText ++ rest.flatten

/-- Lower camel case on characters. -/
def lowerCamelChars (cs : List Char) : List Char :=
  lowerCamelWords (capitalWords cs)

/-- Lower camel case of an exported name, with initials in front of it in small letters as a whole. -/
def lowerCamelName (name : String) : String :=
  String.ofList (lowerCamelChars name.toList)

/-! ## Route names -/

/-- The character between the words of a route name. -/
inductive RouteStyle where
  | snake
  | kebab
  deriving Repr, DecidableEq, Inhabited

/-- The style that a text names; all that does not say snake is kebab. -/
def RouteStyle.ofText (text : String) : RouteStyle :=
  if lowerText (trim text.toList) = "snake".toList then .snake else .kebab

/-- The name of a style. -/
def RouteStyle.toText : RouteStyle → String
  | .snake => "snake"
  | .kebab => "kebab"

/-- The character that a style puts between words. -/
def RouteStyle.separator : RouteStyle → Char
  | .snake => '_'
  | .kebab => '-'

/-- The route name of a structure. -/
def routeName (style : RouteStyle) (name : String) : String :=
  String.ofList (List.intercalate [style.separator] ((mixedWords name.toList).map lowerWord))

/-! ## Abbreviations -/

/-- The ASCII capitals of the camel-case form, in small letters. -/
def abbreviation (name : String) : String :=
  String.ofList (((camelChars (trim name.toList)).filter Char.isUpper).map Char.toLower)

end TableCodegen.Naming
