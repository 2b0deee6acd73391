import TableCodegen.Text.Unicode.Case
import TableCodegen.Text.Unicode.Letters

/-!
# English plurals

The plural of an identifier. Words that name a mass or are plural already stay as they are, a list of
irregular words has its own plurals, and all other words follow the last rule of a list whose ending
they have. Case is ignored when words and endings are compared, and kept in what is written.

Main definitions:

* `EndingRule`, `EndingRule.pluralOf?`: an ending and what replaces it.
* `plural`: the plural of a word.
* `pluralName`: the plural of an identifier, which may end in capitals.
-/

namespace TableCodegen.Naming

open TableCodegen.Text.Unicode

/-- A character of an ending, compared without regard to case. -/
inductive LetterClass where
  | oneOf (letters : List Char)
  | noneOf (letters : List Char)
  | nonAscii
  deriving Repr, DecidableEq

/-- The form of a character in which capitals, small letters and the two ASCII letters with a second
    form outside ASCII, the long s and the sign of the kelvin, are the same. -/
def fold (c : Char) : List Char :=
  if c = 'ſ' then ['s'] else lower c

/-- A character belongs to a class. -/
def LetterClass.holds (cls : LetterClass) (c : Char) : Bool :=
  match cls with
  | .oneOf letters => letters.any fun d => fold d == fold c
  | .noneOf letters => !letters.any fun d => fold d == fold c
  | .nonAscii => (fold c).any (128 ≤ ·.toNat)

/-- A text as a sequence of classes of one letter each. -/
def exactly (text : String) : List LetterClass :=
  text.toList.map fun c => .oneOf [c]

/-- What must stand before an ending. -/
inductive Border where
  | anything
  | wordStart
  | textStart
  deriving Repr, DecidableEq

/-- A rule for words that end in a stem and a dropped ending: the stem stays, the ending is replaced by
    `added`. Stems and dropped endings are tried in order. -/
structure EndingRule where
  stems : List (List LetterClass)
  dropped : List String
  added : String
  border : Border

/-- The end of a reversed word matches the classes, given in reading order: the matched part in
    reading order and the rest of the word, last character first. -/
def matchEnd (classes : List LetterClass) (reversed : List Char) : Option (List Char × List Char) :=
  go classes.reverse reversed []
where
  /-- Matches reversed classes against a reversed word. -/
  go : List LetterClass → List Char → List Char → Option (List Char × List Char)
    | [], rest, matched => some (matched, rest)
    | _ :: _, [], _ => none
    | cls :: more, c :: rest, matched =>
      if cls.holds c then go more rest (c :: matched) else none

/-- The border condition on what stands before the match, last character first. -/
def Border.holds (border : Border) (before : List Char) : Bool :=
  match border, before with
  | .anything, _ => true
  | .textStart, before => before.isEmpty
  | .wordStart, [] => true
  | .wordStart, c :: _ => !isWordChar c

/-- What is written into a word takes its case from the word: small letters into a word of small
    letters, capitals into one of capitals. In all other words it begins with a small letter if the word
    does, and stays as it is otherwise. -/
def matchCase (word written : List Char) : List Char :=
  if word == lowerText word then lowerText written
  else if word == upperText word then upperText written
  else
    match word, written with
    | c :: _, w :: rest => if [c] == upper c then written else lower w ++ rest
    | _, _ => written

/-- A text without its dollar signs, each of which takes the character after it with it. -/
def dropPlaceholders : List Char → List Char
  | [] => []
  | ['$'] => []
  | '$' :: _ :: rest => dropPlaceholders rest
  | c :: rest => c :: dropPlaceholders rest

/-- The word with the rule applied to its end, if it has such an end. -/
def EndingRule.pluralOf? (rule : EndingRule) (word : List Char) : Option (List Char) :=
  let candidates := rule.stems.flatMap fun stem => rule.dropped.map fun ending => (stem, ending)
  candidates.findSome? fun (stem, ending) => do
    let (_, before) ← matchEnd (exactly ending) word.reverse
    let (kept, front) ← matchEnd stem before
    if !rule.border.holds front then none
    else some (dropPlaceholders (front.reverse ++ matchCase word (kept ++ rule.added.toList)))

/-- A rule on the ends `stems ++ dropped` of words. -/
def ending (stems : List String) (dropped : List String) (added : String) : EndingRule :=
  ⟨stems.map exactly, dropped, added, .anything⟩

/-- A rule that keeps a word with a given end. -/
def unchanged (stems : List (List LetterClass)) : EndingRule :=
  ⟨stems, [""], "", .anything⟩

/-- The vowels. -/
def vowels : List Char := ['a', 'e', 'i', 'o', 'u']

/-- The rules on endings. The last rule that fits a word decides. -/
def endingRules : List EndingRule := [
  ending [""] ["s", ""] "s",
  unchanged [[.nonAscii]],
  unchanged [.noneOf vowels :: exactly "ese"],
  ending ["ax", "test"] ["is"] "es",
  ⟨[exactly "alias", .noneOf ['a', 'o', 'u'] :: exactly "us",
    [.oneOf ['t'], .oneOf ['l', 'm'], .oneOf ['a'], .oneOf ['s']], exactly "gas", exactly "ris"],
    [""], "es", .anything⟩,
  ⟨[[.oneOf ['e'], .oneOf ['m', 'n'], .oneOf ['u']]], ["s", ""], "s", .anything⟩,
  unchanged [.noneOf ['l'] :: exactly "ias", .oneOf vowels :: exactly "las",
    .oneOf ['e', 'j', 'z', 'r'] :: exactly "as", .oneOf ['i', 'u'] :: exactly "am"],
  ending ["alumn", "syllab", "vir", "radi", "nucle", "fung", "cact", "stimul", "termin", "bacill",
    "foc", "uter", "loc", "strat"] ["us", "i"] "i",
  ending ["alumn", "alg", "vertebr"] ["a", "ae"] "ae",
  ending ["seraph", "cherub"] ["im", ""] "im",
  ending ["her", "at", "gr"] ["o"] "oes",
  ending ["agend", "addend", "millenni", "dat", "extrem", "bacteri", "desiderat", "strat",
    "candelabr", "errat", "ov", "symposi", "curricul", "automat", "quor"] ["a", "um"] "a",
  ending ["apheli", "hyperbat", "periheli", "asyndet", "noumen", "phenomen", "criteri", "organ",
    "prolegomen", "hedr", "automat"] ["a", "on"] "a",
  ending [""] ["sis"] "ses",
  ending ["kni", "wi", "li"] ["fe"] "ves",
  ending ["ar", "l", "ea", "eo", "oa", "hoo"] ["f"] "ves",
  ⟨[[.noneOf ('y' :: vowels)], exactly "qu"], ["y"], "ies", .anything⟩,
  ⟨[[.noneOf ['c', 'h'], .oneOf ['i', 'e', 'o'], .oneOf ['l', 'n']]], ["ey"], "ies", .anything⟩,
  ending ["x", "ch", "ss", "sh", "zz"] [""] "es",
  ending ["matr", "cod", "mur", "sil", "vert", "ind", "append"] ["ix", "ex"] "ices",
  ⟨[exactly "titm", exactly "m", exactly "l"], ["ice", "ouse"], "ice", .wordStart⟩,
  ending ["pe"] ["rson", "ople"] "ople",
  ending ["child"] ["ren", ""] "ren",
  unchanged [exactly "eaux"],
  ending [""] ["man", "men"] "men",
  ⟨[[]], ["thou"], "you", .textStart⟩,
  unchanged [exactly "pok" ++ [.oneOf ['e', 'é']] ++ exactly "mon"],
  unchanged [.noneOf vowels :: exactly "ese"],
  unchanged [exactly "deer"],
  unchanged [exactly "fish"],
  unchanged [exactly "measles"],
  unchanged [[.oneOf ['o'], .oneOf ['i', 'u'], .oneOf ['s']]],
  unchanged [exactly "pox"],
  unchanged [exactly "sheep"]]

/-- Words with plurals of their own. -/
def irregularWords : List (String × String) := [
  ("i", "we"), ("me", "us"), ("he", "they"), ("she", "they"), ("them", "them"),
  ("myself", "ourselves"), ("yourself", "yourselves"), ("itself", "themselves"),
  ("herself", "themselves"), ("himself", "themselves"), ("themself", "themselves"), ("is", "are"),
  ("was", "were"), ("has", "have"), ("this", "these"), ("that", "those"), ("my", "our"),
  ("its", "their"), ("his", "their"), ("her", "their"), ("echo", "echoes"), ("dingo", "dingoes"),
  ("volcano", "volcanoes"), ("tornado", "tornadoes"), ("torpedo", "torpedoes"),
  ("genus", "genera"), ("viscus", "viscera"), ("stigma", "stigmata"), ("stoma", "stomata"),
  ("dogma", "dogmata"), ("lemma", "lemmata"), ("schema", "schemata"), ("anathema", "anathemata"),
  ("ox", "oxen"), ("axe", "axes"), ("die", "dice"), ("yes", "yeses"), ("foot", "feet"),
  ("eave", "eaves"), ("goose", "geese"), ("tooth", "teeth"), ("quiz", "quizzes"),
  ("human", "humans"), ("proof", "proofs"), ("carve", "carves"), ("valve", "valves"),
  ("looey", "looies"), ("thief", "thieves"), ("groove", "grooves"), ("pickaxe", "pickaxes"),
  ("passerby", "passersby"), ("canvas", "canvases")]

/-- Words that are their own plurals. -/
def uncountableWords : List String := [
  "adulthood", "advice", "agenda", "aid", "aircraft", "alcohol", "ammo", "analytics", "anime",
  "athletics", "audio", "bison", "blood", "bream", "buffalo", "butter", "carp", "cash", "chassis",
  "chess", "clothing", "cod", "commerce", "cooperation", "corps", "debris", "diabetes",
  "digestion", "elk", "energy", "equipment", "excretion", "expertise", "firmware", "flounder",
  "fun", "gallows", "garbage", "graffiti", "hardware", "headquarters", "health", "herpes",
  "highjinks", "homework", "housework", "information", "jeans", "justice", "kudos", "labour",
  "literature", "machinery", "mackerel", "mail", "media", "mews", "moose", "music", "mud",
  "manga", "news", "only", "personnel", "pike", "plankton", "pliers", "police", "pollution",
  "premises", "rain", "research", "rice", "salmon", "scissors", "series", "sewage", "shambles",
  "shrimp", "software", "staff", "swine", "tennis", "traffic", "transportation", "trout", "tuna",
  "wealth", "welfare", "whiting", "wildebeest", "wildlife", "you"]

/-- The plural of a word by the first of four rules that fits: a plural of an irregular word stays, an
    irregular word has its plural, a mass noun stays, and endings follow the rules. -/
def plural (word : String) : String :=
  let cs := word.toList
  let key := String.ofList (lowerText cs)
  if irregularWords.any fun entry => entry.2 == key then
    String.ofList (matchCase cs key.toList)
  else match irregularWords.lookup key with
    | some image => String.ofList (matchCase cs image.toList)
    | none =>
      if uncountableWords.contains key then word
      else match endingRules.reverse.findSome? (·.pluralOf? cs) with
        | some image => String.ofList image
        | none => word

/-- The number of ASCII capitals and digits at the end. -/
def trailingCapitals (cs : List Char) : Nat :=
  (cs.reverse.takeWhile fun c => c.isUpper || c.isDigit).length

/-- The plural of an identifier. One that ends in two or more capitals or digits gets a bare `s`. -/
def pluralName (name : String) : String :=
  if name.isEmpty then ""
  else if trailingCapitals name.toList > 1 then name ++ "s"
  else plural name

end TableCodegen.Naming
