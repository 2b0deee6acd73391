import TableCodegen.Proofs.Document.RouteNames

/-!
# Literals in tags

The value of a tag stands between double quotes and is read as a literal: a backslash starts an escape, and
neither a double quote nor a line break stands for itself. The reading is a walk over the characters. A mark
that no escape can hold, such as the quote or the bracket around a text of the database, is read only between
two complete parts, so a value is a literal exactly when each text in it is one.

Results:

* `fitsTag_append_cons_iff`: two texts around such a mark.
* `fitsTag_append_iff`: a text behind one without marks of its own.
* `intercalate_iff`: texts joined by such a mark.
-/

namespace TableCodegen

open TableCodegen.Text

/-! ## Specification -/

/-- The ways to write a character by its number. -/
inductive CharCode where
  /-- Three octal digits, for one byte. -/
  | octal
  /-- Two hexadecimal digits, for one byte. -/
  | byte
  /-- Four or eight hexadecimal digits, for one character. -/
  | point
  deriving Repr, DecidableEq

namespace CharCode

def base : CharCode → Nat
  | octal => 8
  | byte | point => 16

/-- The number is one of those the code can stand for. -/
def allows : CharCode → Nat → Bool
  | octal, n | byte, n => n < 256
  | point, n => decide n.isValidChar

end CharCode

/-- The value of a digit. -/
def digit? (base : Nat) (c : Char) : Option Nat :=
  let value? :=
    if c.isDigit then some (c.toNat - '0'.toNat)
    else if 'a' ≤ c ∧ c ≤ 'f' then some (c.toNat - 'a'.toNat + 10)
    else if 'A' ≤ c ∧ c ≤ 'F' then some (c.toNat - 'A'.toNat + 10)
    else none
  value?.filter (· < base)

/-- What has been read of a part of a literal. -/
inductive LiteralState where
  /-- A complete part. -/
  | plain
  /-- The backslash of an escape. -/
  | escape
  /-- A code that lacks some digits, and its number so far. -/
  | code (kind : CharCode) (missing number : Nat)
  deriving Repr, DecidableEq

namespace LiteralState

/-- One more digit of a code. -/
def pushDigit (kind : CharCode) (missing number digit : Nat) : Option LiteralState :=
  let next := number * kind.base + digit
  if missing ≤ 1 then if kind.allows next then some plain else none
  else some (code kind (missing - 1) next)

/-- The part after one more character, unless no literal goes on with it. -/
def step : LiteralState → Char → Option LiteralState
  | plain, c =>
    if c = '\\' then some escape
    else if c ∈ ['"', '\n'] then none
    else some plain
  | escape, c =>
    if c ∈ ['a', 'b', 'f', 'n', 'r', 't', 'v', '\\', '"'] then some plain
    else if c = 'x' then some (code .byte 2 0)
    else if c = 'u' then some (code .point 4 0)
    else if c = 'U' then some (code .point 8 0)
    else (digit? 8 c).bind (pushDigit .octal 3 0)
  | code kind missing number, c => (digit? kind.base c).bind (pushDigit kind missing number)

end LiteralState

/-- The characters between the double quotes of a literal. -/
def IsLiteral (cs : List Char) : Prop :=
  cs.foldlM LiteralState.step .plain = some .plain

instance (cs : List Char) : Decidable (IsLiteral cs) :=
  inferInstanceAs (Decidable (_ = _))

/-- A text that can be a part of a value: it is a literal, and it ends neither the tag nor the line. -/
def FitsTag (cs : List Char) : Prop :=
  TagText cs ∧ IsLiteral cs

instance (cs : List Char) : Decidable (FitsTag cs) :=
  inferInstanceAs (Decidable (_ ∧ _))

/-- The characters that do not stand for themselves in a value, or not in a tag. -/
def valueMarks : List Char := ['"', '\\', '\x60', '\n', '\r']

/-- A text that stands for itself in a value. -/
def Unmarked (cs : List Char) : Prop :=
  ∀ c ∈ cs, c ∉ valueMarks

instance (cs : List Char) : Decidable (Unmarked cs) :=
  inferInstanceAs (Decidable (∀ c ∈ cs, c ∉ valueMarks))

/-- Marks that stand for themselves, and that no escape holds. -/
def barriers : List Char := [' ', '\'', '(', ')', ':', ';', ',']

example : IsLiteral "a\\\"b\\u00e9\\x7f\\101".toList := by decide
example : ¬ IsLiteral "a\"b".toList := by decide
example : ¬ IsLiteral "\\ud800".toList := by decide

/-! ## Steps -/

namespace LiteralState

theorem step_plain {c : Char} (h : c ∉ ['"', '\\', '\n']) : step plain c = some plain := by
  simp only [List.mem_cons, List.not_mem_nil, or_false, not_or] at h
  simp [step, h.1, h.2.1, h.2.2]

theorem step_plain_quote : step plain '"' = none := by
  decide

/-- In a code, the double quote is no digit. -/
theorem step_code_quote (kind : CharCode) (missing number : Nat) : step (code kind missing number) '"' = none := by
  have hdigit : digit? kind.base '"' = none := by
    cases kind <;> decide
  rw [step, hdigit, Option.bind_none]

theorem bind_pushDigit_ne_escape (digit : Option Nat) (kind : CharCode) (missing number : Nat) :
    digit.bind (pushDigit kind missing number) ≠ some escape := by
  cases digit with
  | none => simp
  | some d =>
    rw [Option.bind_some, pushDigit]
    split_ifs <;> simp

/-- An escape starts at a backslash only. -/
theorem eq_of_step_eq_escape {s : LiteralState} {c : Char} (h : s.step c = some escape) : c = '\\' := by
  cases s with
  | plain =>
    by_contra hc
    rw [step, if_neg hc] at h
    split_ifs at h
    simp at h
  | escape =>
    rw [step] at h
    split_ifs at h
    case neg => exact absurd h (bind_pushDigit_ne_escape _ _ _ _)
    all_goals simp at h
  | code kind missing number => exact absurd h (bind_pushDigit_ne_escape _ _ _ _)

theorem step_barrier_iff {s t : LiteralState} {c : Char} (hc : c ∈ barriers) :
    s.step c = some t ↔ s = plain ∧ t = plain := by
  cases s with
  | plain =>
    have hplain : ∀ d ∈ barriers, step plain d = some plain := by decide
    simp [hplain c hc, eq_comm]
  | escape =>
    have hescape : ∀ d ∈ barriers, step escape d = none := by decide
    simp [hescape c hc]
  | code kind missing number =>
    have hdigit : ∀ d ∈ barriers, digit? kind.base d = none := by
      cases kind <;> decide
    simp [step, hdigit c hc]

end LiteralState

/-! ## Literals -/

theorem isLiteral_nil : IsLiteral [] := rfl

theorem isLiteral_append_cons_iff {u v : List Char} {c : Char} (hc : c ∈ barriers) :
    IsLiteral (u ++ c :: v) ↔ IsLiteral u ∧ IsLiteral v := by
  simp only [IsLiteral, List.foldlM_append, List.foldlM_cons, Option.bind_eq_bind, Option.bind_eq_some_iff,
    LiteralState.step_barrier_iff hc]
  constructor
  · rintro ⟨s, hu, t, ⟨rfl, rfl⟩, hv⟩
    exact ⟨hu, hv⟩
  · rintro ⟨hu, hv⟩
    exact ⟨.plain, hu, .plain, ⟨rfl, rfl⟩, hv⟩

theorem Unmarked.isLiteral {cs : List Char} (h : Unmarked cs) : IsLiteral cs := by
  induction cs with
  | nil => rfl
  | cons c cs ih =>
    obtain ⟨hc, hcs⟩ := List.forall_mem_cons.mp h
    have hmarks : ∀ d ∈ ['"', '\\', '\n'], d ∈ valueMarks := by decide
    rw [IsLiteral, List.foldlM_cons, LiteralState.step_plain fun hmem => hc (hmarks c hmem)]
    exact ih hcs

theorem isLiteral_append_iff {u v : List Char} (hu : Unmarked u) : IsLiteral (u ++ v) ↔ IsLiteral v := by
  rw [IsLiteral, List.foldlM_append, show u.foldlM LiteralState.step .plain = _ from hu.isLiteral]
  rfl

/-! ## Parts of values -/

theorem Unmarked.fitsTag {cs : List Char} (h : Unmarked cs) : FitsTag cs := by
  have hmarks : ∀ d ∈ ['\x60', '\n', '\r'], d ∈ valueMarks := by decide
  exact ⟨fun c hc hmem => h c hc (hmarks c hmem), h.isLiteral⟩

theorem fitsTag_nil : FitsTag [] := ⟨List.forall_mem_nil _, isLiteral_nil⟩

theorem fitsTag_append_iff {u v : List Char} (hu : Unmarked u) : FitsTag (u ++ v) ↔ FitsTag v := by
  have htext : TagText (u ++ v) ↔ TagText v := by
    rw [TagText, List.forall_mem_append]
    exact and_iff_right hu.fitsTag.1
  rw [FitsTag, htext, isLiteral_append_iff hu]
  rfl

theorem fitsTag_append_cons_iff {u v : List Char} {c : Char} (hc : c ∈ barriers) :
    FitsTag (u ++ c :: v) ↔ FitsTag u ∧ FitsTag v := by
  have hbarriers : ∀ d ∈ barriers, d ∉ ['\x60', '\n', '\r'] := by decide
  have htext : TagText (u ++ c :: v) ↔ TagText u ∧ TagText v := by
    rw [TagText, List.forall_mem_append, List.forall_mem_cons]
    exact and_congr_right fun _ => and_iff_right (hbarriers c hc)
  rw [FitsTag, htext, isLiteral_append_cons_iff hc]
  exact and_and_and_comm

/-- What holds of two texts around a separator when it holds of both, holds of joined texts when it holds of all. -/
theorem intercalate_iff {P : List Char → Prop} {c : Char} (nil : P [])
    (append_cons : ∀ u v, P (u ++ c :: v) ↔ P u ∧ P v) {texts : List (List Char)} :
    P ([c].intercalate texts) ↔ ∀ text ∈ texts, P text := by
  induction texts with
  | nil => simp [nil]
  | cons text rest ih =>
    cases rest with
    | nil => simp
    | cons next rest =>
      rw [List.intercalate_cons_cons, List.append_assoc, List.singleton_append, append_cons, ih,
        List.forall_mem_cons (l := next :: rest)]

end TableCodegen
