/-!
# Finding and replacing

Cuts at a separator, lines, and the first occurrences of one text in another.

Main definitions:

* `splitBy`: the pieces between the characters that satisfy a test, empty ones included.
* `lines`: the lines of a text, without their ends.
* `contains`, `replace`: occurrences of a text, found from the left and without overlap.
-/

namespace TableCodegen.Text

/-- The pieces between the separators, empty ones included; `piece` is the piece being read, last
    character first. -/
def splitFrom (sep : Char → Bool) (piece : List Char) : List Char → List (List Char)
  | [] => [piece.reverse]
  | c :: rest =>
    if sep c then piece.reverse :: splitFrom sep [] rest else splitFrom sep (c :: piece) rest

/-- The pieces of a text between the characters that satisfy `sep`, empty ones included. -/
def splitBy (sep : Char → Bool) (cs : List Char) : List (List Char) :=
  splitFrom sep [] cs

/-- A line without the carriage return at its end. -/
def dropReturn (cs : List Char) : List Char :=
  if cs.getLast? = some '\r' then cs.dropLast else cs

/-- The lines of a text: cut after each line feed, without the feed and a return before it. A text
    that ends with a feed has no empty line after it. -/
def lines (cs : List Char) : List (List Char) :=
  let pieces := splitBy (· == '\n') cs
  match pieces.getLast? with
  | some [] => pieces.dropLast.map dropReturn
  | some last => pieces.dropLast.map dropReturn ++ [last]
  | none => []

/-- The text starts with `pattern`: the rest after it. -/
def dropHead? : List Char → List Char → Option (List Char)
  | [], cs => some cs
  | _ :: _, [] => none
  | p :: ps, c :: cs => if p = c then dropHead? ps cs else none

/-- `pattern` occurs in the text. -/
def contains (pattern : List Char) : List Char → Bool
  | [] => pattern.isEmpty
  | c :: rest => (dropHead? pattern (c :: rest)).isSome || contains pattern rest

/-- What is left after an occurrence of a pattern is no longer than the text. -/
theorem length_dropHead? {pattern cs rest : List Char} (h : dropHead? pattern cs = some rest) :
    rest.length + pattern.length = cs.length := by
  induction pattern generalizing cs with
  | nil => simp [dropHead?] at h; simp [h]
  | cons p ps ih =>
    cases cs with
    | nil => simp [dropHead?] at h
    | cons c cs =>
      simp only [dropHead?] at h
      split at h
      · have := ih h; simp only [List.length_cons]; omega
      · simp at h

/-- Every occurrence of the pattern `p :: ps`, found from the left and without overlap, replaced. -/
def replaceCons (p : Char) (ps : List Char) (new : List Char) : List Char → List Char
  | [] => []
  | c :: rest =>
    match _h : dropHead? (p :: ps) (c :: rest) with
    | some after => new ++ replaceCons p ps new after
    | none => c :: replaceCons p ps new rest
termination_by cs => cs.length
decreasing_by
  · have := length_dropHead? _h; simp only [List.length_cons] at *; omega
  · simp

/-- Every occurrence of a non-empty pattern, found from the left and without overlap, replaced. -/
def replace (pattern new : List Char) (cs : List Char) : List Char :=
  match pattern with
  | [] => cs
  | p :: ps => replaceCons p ps new cs

/-- A pattern occurs in a text. -/
def occursIn (pattern text : String) : Bool :=
  contains pattern.toList text.toList

end TableCodegen.Text
