import Mathlib.Data.List.DropRight
import Mathlib.Tactic.SplitIfs
import TableCodegen.Data.Json
import TableCodegen.Proofs.Data.Shown

/-!
# JSON comes back

The reader of JSON texts inverts the writer on trees of plain values: maps, lists, texts, truth values,
absent values, and integers of 64 bits. Blanks between the parts of a text are passed over, a text between
quotes is read character by character, and a number ends where a comma or the end of a line follows.

Results:

* `readNumber?_toDigits`: numbers.
* `readChars?_escapeChar`, `readString?_quoted`: texts between quotes.
* `readItems?_tail`, `readEntries?_tail`: lists and objects behind their first part.
* `parse?_render`: every plain tree comes back.
-/

namespace TableCodegen.Json

/-! ## Blanks -/

theorem skipSpace_append {blanks : List Char} (h : ∀ c ∈ blanks, isSpace c = true) (cs : List Char) :
    skipSpace (blanks ++ cs) = skipSpace cs :=
  List.dropWhile_append_of_pos h

theorem skipSpace_cons {c : Char} (h : isSpace c = false) (cs : List Char) :
    skipSpace (c :: cs) = c :: cs :=
  List.dropWhile_cons_of_neg (by simp [h])

/-! ## Numbers -/

/-- A number cannot go on here: a part or a line ends. -/
def Stops (rest : List Char) : Prop :=
  ∀ c ∈ rest.head?, c = ',' ∨ c = '\n'

theorem readDigits?_append {digits rest : List Char} (hdigits : ∀ c ∈ digits, c.isDigit = true)
    (hne : digits ≠ []) (hrest : Stops rest) : readDigits? (digits ++ rest) = some (digits, rest) := by
  have hnone : rest.takeWhile Char.isDigit = [] ∧ rest.dropWhile Char.isDigit = rest := by
    cases rest with
    | nil => exact ⟨rfl, rfl⟩
    | cons c rest =>
      have hc : c.isDigit = false := by
        rcases hrest c rfl with rfl | rfl <;> decide
      simp [hc]
  rw [readDigits?, List.takeWhile_append_of_pos hdigits, List.dropWhile_append_of_pos hdigits, hnone.1,
    hnone.2, List.append_nil]
  simp [hne]

theorem readFraction?_of_stops {rest : List Char} (hrest : Stops rest) :
    readFraction? rest = some ([], rest) := by
  unfold readFraction?
  split
  · rcases hrest '.' rfl with h | h <;> cases h
  · rfl

theorem readExponent?_of_stops {rest : List Char} (hrest : Stops rest) :
    readExponent? rest = some ([], rest) := by
  cases rest with
  | nil => rfl
  | cons c rest => rcases hrest c rfl with rfl | rfl <;> rfl

theorem digitValue?_of_isDigit {c : Char} (h : c.isDigit = true) :
    digitValue? 10 c = some (c.toNat - 48) := by
  have hle : 48 ≤ c.toNat ∧ c.toNat ≤ 57 := by
    simpa [Char.isDigit, UInt32.le_iff_toNat_le] using h
  have hlt : c.toNat - 48 < 10 := by omega
  simp [digitValue?, h, hlt]

theorem digitsValue?_of_isDigit {digits : List Char} (hdigits : ∀ c ∈ digits, c.isDigit = true)
    (hne : digits ≠ []) : digitsValue? 10 digits = some (Nat.ofDigitChars 10 digits 0) := by
  have hrun (acc : Nat) : digits.foldl (fun acc c => do
      let total ← acc
      let digit ← digitValue? 10 c
      return total * 10 + digit) (some acc) = some (Nat.ofDigitChars 10 digits acc) := by
    clear hne
    induction digits generalizing acc with
    | nil => rfl
    | cons c digits ih =>
      obtain ⟨hc, hrest⟩ := List.forall_mem_cons.mp hdigits
      rw [List.foldl_cons, Nat.ofDigitChars_cons, ← ih hrest, Nat.mul_comm]
      simp [digitValue?_of_isDigit hc]
  rw [digitsValue?, if_neg (by simp [hne])]
  exact hrun 0

theorem head?_toDigits_ne_zero {n : Nat} (h : 0 < n) : (Nat.toDigits 10 n).head? ≠ some '0' := by
  induction n using Nat.strongRecOn with
  | ind n ih =>
    by_cases hlt : n < 10
    · have hdigit : ∀ n < 10, 0 < n → [n.digitChar].head? ≠ some '0' := by decide
      rw [Nat.toDigits_of_lt_base hlt]
      exact hdigit n hlt h
    · rw [Nat.toDigits_of_base_le (by decide) (by omega), List.head?_append,
        List.head?_eq_some_head Nat.toDigits_ne_nil, Option.some_or, ← List.head?_eq_some_head]
      exact ih (n / 10) (by omega) (by omega)

theorem hasLeadingZero_toDigits (n : Nat) : hasLeadingZero (Nat.toDigits 10 n) = false := by
  obtain rfl | hpos := Nat.eq_zero_or_pos n
  · rfl
  · unfold hasLeadingZero
    split
    case h_1 hdigits => exact absurd (by rw [hdigits]; rfl) (head?_toDigits_ne_zero hpos)
    case h_2 => rfl

/-- The digits of an integer of 64 bits are read up to the end of its part or line. -/
theorem readNumber?_toDigits (n : Nat) (negative : Bool) {rest : List Char} (hrest : Stops rest)
    (hfits : fitsWord (if negative then -(n : Int) else n) = true) (hsign : negative = true → n ≠ 0) :
    readNumber? negative (Nat.toDigits 10 n ++ rest) =
      some (.int (if negative then -(n : Int) else n), rest) := by
  have hdigits : ∀ c ∈ Nat.toDigits 10 n, c.isDigit = true := fun _ hc =>
    Nat.isDigit_of_mem_toDigits (by decide) (by decide) hc
  have hsize : digitsValue? 10 (Nat.toDigits 10 n) = some n := by
    rw [digitsValue?_of_isDigit hdigits Nat.toDigits_ne_nil, Nat.ofDigitChars_ten_toDigits]
  have hzero : ¬(negative = true ∧ n = 0) := fun h => hsign h.1 h.2
  simp [readNumber?, readDigits?_append hdigits Nat.toDigits_ne_nil hrest, hasLeadingZero_toDigits,
    readFraction?_of_stops hrest, readExponent?_of_stops hrest, hsize, hfits, hzero]

theorem readScalar?_of_isDigit {c : Char} (h : c.isDigit = true) (cs : List Char) :
    readScalar? (c :: cs) = readNumber? false (c :: cs) := by
  unfold readScalar?
  split
  case h_6 => rfl
  all_goals
    rename_i heq
    cases heq
    exact absurd h (by decide)

/-! ## Texts between quotes -/

theorem digitsValue?_hexDigit :
    ∀ n < 32, digitsValue? 16 ['0', '0', hexDigit (n / 16), hexDigit (n % 16)] = some n := by
  decide

theorem readChars?_simple {letter c : Char} (h : simpleEscape? letter = some c) (fuel : Nat)
    (cs : List Char) :
    readChars? (fuel + 1) ('\\' :: letter :: cs) = (readChars? fuel cs).map (consChar (some c)) := by
  have hu : letter ≠ 'u' := by
    rintro rfl
    cases h
  rw [readChars?]
  · rw [h, Option.map_eq_bind]
    rfl
  · exact hu

theorem readChars?_numbered {c : Char} (h : c.toNat < 0x20) (fuel : Nat) (cs : List Char) :
    readChars? (fuel + 1)
        ('\\' :: 'u' :: '0' :: '0' :: hexDigit (c.toNat / 16) :: hexDigit (c.toNat % 16) :: cs) =
      (readChars? fuel cs).map (consChar (some c)) := by
  have hlow : isLowHalf c.toNat = false := by
    simp only [isLowHalf, Bool.and_eq_false_iff, decide_eq_false_iff_not]
    omega
  have hhigh : isHighHalf c.toNat = false := by
    simp only [isHighHalf, Bool.and_eq_false_iff, decide_eq_false_iff_not]
    omega
  cases hmore : readChars? fuel cs <;>
    simp [readChars?, readEscapedNumber?, readHex4?, digitsValue?_hexDigit _ h, hlow, hhigh, hmore]

theorem readChars?_plain {c : Char} (hquote : c ≠ '"') (hslash : c ≠ '\\') (h : ¬c.toNat < 0x20)
    (fuel : Nat) (cs : List Char) :
    readChars? (fuel + 1) (c :: cs) = (readChars? fuel cs).map (consChar (some c)) := by
  rw [readChars?]
  · simp [h, hslash]
  · exact hquote
  · exact fun _ hc => absurd hc hslash
  · exact fun _ _ hc => absurd hc hslash

/-- A character that was written is read in one step. -/
theorem readChars?_escapeChar (c : Char) (fuel : Nat) (cs : List Char) :
    readChars? (fuel + 1) (escapeChar c ++ cs) = (readChars? fuel cs).map (consChar (some c)) := by
  unfold escapeChar
  split_ifs with hquote hslash hn ht hr hb hf hcontrol
  · subst hquote
    exact readChars?_simple rfl fuel cs
  · subst hslash
    exact readChars?_simple rfl fuel cs
  · subst hn
    exact readChars?_simple rfl fuel cs
  · subst ht
    exact readChars?_simple rfl fuel cs
  · subst hr
    exact readChars?_simple rfl fuel cs
  · subst hb
    exact readChars?_simple rfl fuel cs
  · subst hf
    exact readChars?_simple rfl fuel cs
  · exact readChars?_numbered hcontrol fuel cs
  · exact readChars?_plain hquote hslash hcontrol fuel cs

theorem escapeChar_ne_nil (c : Char) : escapeChar c ≠ [] := by
  unfold escapeChar
  split_ifs <;> nofun

theorem readChars?_flatMap_escapeChar (text : List Char) {fuel : Nat}
    (hfuel : (text.flatMap escapeChar).length < fuel) (rest : List Char) :
    readChars? fuel (text.flatMap escapeChar ++ '"' :: rest) = some (some text, rest) := by
  induction text generalizing fuel with
  | nil =>
    obtain ⟨fuel, rfl⟩ := Nat.exists_eq_add_one.mpr (Nat.zero_lt_of_lt hfuel)
    rfl
  | cons c text ih =>
    obtain ⟨fuel, rfl⟩ := Nat.exists_eq_add_one.mpr (Nat.zero_lt_of_lt hfuel)
    have hpos : 0 < (escapeChar c).length := List.length_pos_iff.mpr (escapeChar_ne_nil c)
    rw [List.flatMap_cons, List.length_append] at hfuel
    rw [List.flatMap_cons, List.append_assoc, readChars?_escapeChar, ih (by omega)]
    rfl

theorem toList_quoted (s : String) :
    (quoted s).toList = '"' :: s.toList.flatMap escapeChar ++ ['"'] := by
  simp [quoted]

theorem readString?_quoted (s : String) (rest : List Char) :
    readString? (s.toList.flatMap escapeChar ++ '"' :: rest) = some (some s, rest) := by
  have hfuel : (s.toList.flatMap escapeChar).length <
      (s.toList.flatMap escapeChar ++ '"' :: rest).length + 1 := by
    rw [List.length_append]
    omega
  rw [readString?, readChars?_flatMap_escapeChar _ hfuel]
  simp

/-! ## Layout -/

/-- The blanks before a part of a list or an object: the end of a line and the indentation of a level. -/
def lineStart (level : Nat) : List Char :=
  '\n' :: (indentation level).toList

theorem isSpace_of_mem_lineStart (level : Nat) : ∀ c ∈ lineStart level, isSpace c = true := by
  intro c hc
  rcases List.mem_cons.mp hc with rfl | hc
  · rfl
  · rw [indentation, String.toList_ofList] at hc
    exact List.eq_of_mem_replicate hc ▸ rfl

theorem length_lineStart (level : Nat) : (lineStart level).length = 2 * level + 1 := by
  simp [lineStart, indentation]

/-- The text behind a part of a list or an object: the other parts and the end. The writer joins all parts
    at once; the reader takes them one by one, as they stand here. -/
def tailText (level : Nat) (closing : String) : List String → List Char
  | [] => lineStart level ++ closing.toList
  | part :: parts =>
    ',' :: (lineStart (level + 1) ++ (part.toList ++ tailText level closing parts))

theorem stops_tailText (level : Nat) (closing : String) (parts : List String) (rest : List Char) :
    Stops (tailText level closing parts ++ rest) := by
  intro c hc
  cases parts with
  | nil => exact Or.inr (Option.some.inj hc).symm
  | cons part parts => exact Or.inl (Option.some.inj hc).symm

theorem toList_bracketed_nil (level : Nat) (opening closing : String) :
    (bracketed level opening closing []).toList = opening.toList ++ closing.toList :=
  String.toList_append

theorem toList_bracketed_cons (level : Nat) (opening closing part : String) (parts : List String) :
    (bracketed level opening closing (part :: parts)).toList =
      opening.toList ++ (lineStart (level + 1) ++ (part.toList ++ tailText level closing parts)) := by
  have htail : '\n' :: ((",\n".intercalate ((part :: parts).map (indentation (level + 1) ++ ·))).toList ++
      (lineStart level ++ closing.toList)) =
        lineStart (level + 1) ++ (part.toList ++ tailText level closing parts) := by
    rw [String.toList_intercalate]
    induction parts generalizing part with
    | nil => simp [tailText, lineStart]
    | cons next parts ih =>
      rw [tailText, ← ih next]
      simp [lineStart]
  simp only [bracketed, List.isEmpty_cons, Bool.false_eq_true, if_false, String.toList_append]
  rw [← htail]
  simp [lineStart]

/-! ## Values -/

/-- The tree is read wherever it was written, in at most as many steps as its text has characters. -/
def ComesBack (tree : Tree) : Prop :=
  ∀ (level fuel : Nat) (blanks rest : List Char), (∀ c ∈ blanks, isSpace c = true) → Stops rest →
    (renderAt level tree).toList.length ≤ fuel →
    readValue? fuel (blanks ++ ((renderAt level tree).toList ++ rest)) = some (tree, rest)

theorem readValue?_skipSpace (fuel : Nat) (cs : List Char) :
    readValue? fuel (skipSpace cs) = readValue? fuel cs := by
  cases fuel with
  | zero => rfl
  | succ fuel =>
    have hidem : skipSpace (skipSpace cs) = skipSpace cs := List.dropWhile_idempotent _ _
    rw [readValue?, readValue?, hidem]

/-! ## Scalars -/

/-- What a value starts with that is no list and no object. -/
def startsScalar (c : Char) : Bool :=
  !isSpace c && c != '[' && c != '\x7b'

theorem readValue?_scalar {blanks : List Char} (hblanks : ∀ c ∈ blanks, isSpace c = true) {c : Char}
    (hstart : startsScalar c = true) (fuel : Nat) (cs : List Char) :
    readValue? (fuel + 1) (blanks ++ c :: cs) = readScalar? (c :: cs) := by
  obtain ⟨⟨hspace, hlist⟩, hobject⟩ : (isSpace c = false ∧ c ≠ '[') ∧ c ≠ '\x7b' := by
    simpa [startsScalar] using hstart
  rw [readValue?, skipSpace_append hblanks, skipSpace_cons hspace]
  split
  case h_1 heq => exact absurd (List.cons.inj heq).1 hlist
  case h_2 heq => exact absurd (List.cons.inj heq).1 hobject
  case h_3 => rfl

theorem comesBack_scalar {tree : Tree} {c : Char} {cs : List Char}
    (htext : ∀ level, (renderAt level tree).toList = c :: cs) (hstart : startsScalar c = true)
    (hread : ∀ rest, Stops rest → readScalar? (c :: (cs ++ rest)) = some (tree, rest)) :
    ComesBack tree := by
  intro level fuel blanks rest hblanks hrest hfuel
  rw [htext] at hfuel ⊢
  obtain ⟨fuel, rfl⟩ := Nat.exists_eq_add_one.mpr (Nat.lt_of_lt_of_le (Nat.succ_pos _) hfuel)
  rw [List.cons_append, readValue?_scalar hblanks hstart]
  exact hread rest hrest

theorem startsScalar_of_isDigit {c : Char} (h : c.isDigit = true) : startsScalar c = true := by
  have hne (other : Char) (hother : other.isDigit = false) : c ≠ other := by
    rintro rfl
    exact absurd h (by rw [hother]; decide)
  simp [startsScalar, isSpace, hne]

theorem comesBack_int {i : Int} (hfits : fitsWord i = true) : ComesBack (.int i) := by
  cases i with
  | ofNat n =>
    obtain ⟨c, digits, hdigits⟩ := List.exists_cons_of_ne_nil (Nat.toDigits_ne_nil (b := 10) (n := n))
    have hc : c.isDigit = true :=
      Nat.isDigit_of_mem_toDigits (by decide) (by decide) (hdigits ▸ List.mem_cons_self)
    have htext : (toString (n : Int)).toList = c :: digits := Nat.toList_repr.trans hdigits
    refine comesBack_scalar (fun _ => htext) (startsScalar_of_isDigit hc) fun rest hrest => ?_
    rw [readScalar?_of_isDigit hc, ← List.cons_append, ← hdigits]
    exact readNumber?_toDigits n false hrest hfits nofun
  | negSucc n =>
    have htext : (toString (Int.negSucc n)).toList = '-' :: Nat.toDigits 10 (n + 1) := by
      show ("-" ++ (n + 1).repr).toList = _
      rw [String.toList_append, Nat.toList_repr]
      rfl
    exact comesBack_scalar (fun _ => htext) (by decide) fun rest hrest =>
      readNumber?_toDigits (n + 1) true hrest hfits fun _ => Nat.succ_ne_zero n

/-! ## Lists -/

section Lists

variable {blanks : List Char} (hblanks : ∀ c ∈ blanks, isSpace c = true)
include hblanks

theorem readValue?_list (fuel : Nat) (cs : List Char) :
    readValue? (fuel + 1) (blanks ++ '[' :: cs) =
      (readItems? fuel true cs).map fun entry => (.list entry.1, entry.2) := by
  rw [readValue?, skipSpace_append hblanks, skipSpace_cons rfl]
  rfl

theorem readItems?_end (fuel : Nat) (first : Bool) (rest : List Char) :
    readItems? (fuel + 1) first (blanks ++ ']' :: rest) = some ([], rest) := by
  rw [readItems?, skipSpace_append hblanks, skipSpace_cons rfl]
  rfl

end Lists

section Items

variable {fuel : Nat} {cs rest : List Char} {item : Tree}
  (hitem : readValue? fuel cs = some (item, rest))
include hitem

theorem readItems?_first :
    readItems? (fuel + 1) true cs =
      (readItems? fuel false rest).map fun entry => (item :: entry.1, entry.2) := by
  rw [← readValue?_skipSpace] at hitem
  rw [readItems?]
  split
  case h_1 more hcs =>
    -- no value starts with the end of a list
    rw [hcs] at hitem
    cases fuel <;> cases hitem
  case h_2 => cases hmore : readItems? fuel false rest <;> simp [hitem, hmore]

theorem readItems?_next :
    readItems? (fuel + 1) false (',' :: cs) =
      (readItems? fuel false rest).map fun entry => (item :: entry.1, entry.2) := by
  rw [readItems?, skipSpace_cons rfl]
  cases hmore : readItems? fuel false rest <;> simp [hitem, hmore]

end Items

theorem readItems?_tail {items : List Tree} (h : ∀ item ∈ items, ComesBack item) {level fuel : Nat}
    (hfuel : (tailText level "]" (renderItems (level + 1) items)).length ≤ fuel) (rest : List Char) :
    readItems? fuel false (tailText level "]" (renderItems (level + 1) items) ++ rest) =
      some (items, rest) := by
  induction items generalizing fuel with
  | nil =>
    obtain ⟨fuel, rfl⟩ := Nat.exists_eq_add_one.mpr (Nat.lt_of_lt_of_le (Nat.succ_pos _) hfuel)
    rw [renderItems, tailText, List.append_assoc]
    exact readItems?_end (isSpace_of_mem_lineStart level) fuel false rest
  | cons item items ih =>
    obtain ⟨fuel, rfl⟩ := Nat.exists_eq_add_one.mpr (Nat.lt_of_lt_of_le (Nat.succ_pos _) hfuel)
    obtain ⟨hitem, hitems⟩ := List.forall_mem_cons.mp h
    simp only [renderItems, tailText, List.length_cons, List.length_append] at hfuel
    have hread := hitem (level + 1) fuel (lineStart (level + 1)) _ (isSpace_of_mem_lineStart (level + 1))
      (stops_tailText level "]" (renderItems (level + 1) items) rest) (by omega)
    simp only [renderItems, tailText, List.cons_append, List.append_assoc]
    rw [readItems?_next hread, ih hitems (by omega)]
    rfl

theorem comesBack_list {items : List Tree} (h : ∀ item ∈ items, ComesBack item) :
    ComesBack (.list items) := by
  intro level fuel blanks rest hblanks hrest hfuel
  rw [renderAt] at hfuel ⊢
  cases items with
  | nil =>
    rw [renderItems, toList_bracketed_nil] at hfuel ⊢
    obtain ⟨fuel, rfl⟩ := Nat.exists_eq_add_of_le' (show 2 ≤ fuel from hfuel)
    show readValue? (fuel + 2) (blanks ++ '[' :: ([] ++ ']' :: rest)) = _
    rw [readValue?_list hblanks, readItems?_end (by simp)]
    rfl
  | cons item items =>
    obtain ⟨hitem, hitems⟩ := List.forall_mem_cons.mp h
    rw [renderItems, toList_bracketed_cons] at hfuel ⊢
    have hopening : "[".toList = ['['] := rfl
    simp only [List.length_append, hopening, List.length_singleton, length_lineStart] at hfuel
    obtain ⟨fuel, rfl⟩ := Nat.exists_eq_add_of_le' (show 2 ≤ fuel by omega)
    have hread := hitem (level + 1) fuel (lineStart (level + 1)) _ (isSpace_of_mem_lineStart (level + 1))
      (stops_tailText level "]" (renderItems (level + 1) items) rest) (by omega)
    simp only [hopening, List.cons_append, List.nil_append, List.append_assoc]
    rw [readValue?_list hblanks, readItems?_first hread, readItems?_tail hitems (by omega)]
    rfl

/-! ## Objects -/

section Objects

variable {blanks : List Char} (hblanks : ∀ c ∈ blanks, isSpace c = true)
include hblanks

theorem readValue?_object (fuel : Nat) (cs : List Char) :
    readValue? (fuel + 1) (blanks ++ '\x7b' :: cs) =
      (readEntries? fuel true cs).map fun entry => (ofEntries entry.1, entry.2) := by
  rw [readValue?, skipSpace_append hblanks, skipSpace_cons rfl]
  rfl

theorem readEntries?_end (fuel : Nat) (first : Bool) (rest : List Char) :
    readEntries? (fuel + 1) first (blanks ++ '\x7d' :: rest) = some ([], rest) := by
  rw [readEntries?, skipSpace_append hblanks, skipSpace_cons rfl]
  rfl

variable {fuel : Nat} {cs rest : List Char} {value : Tree}
  (hvalue : readValue? fuel ([' '] ++ cs) = some (value, rest))
include hvalue

theorem readEntries?_first (key : String) :
    readEntries? (fuel + 1) true (blanks ++ ((quoted key).toList ++ ':' :: ' ' :: cs)) =
      (readEntries? fuel false rest).map fun entry => ((some key, value) :: entry.1, entry.2) := by
  rw [readEntries?, skipSpace_append hblanks, toList_quoted, List.append_assoc, List.cons_append,
    skipSpace_cons rfl]
  rw [List.singleton_append] at hvalue
  cases hmore : readEntries? fuel false rest <;>
    simp [readString?_quoted, skipSpace_cons, isSpace, hvalue, hmore]

theorem readEntries?_next (key : String) :
    readEntries? (fuel + 1) false (',' :: (blanks ++ ((quoted key).toList ++ ':' :: ' ' :: cs))) =
      (readEntries? fuel false rest).map fun entry => ((some key, value) :: entry.1, entry.2) := by
  rw [readEntries?, skipSpace_cons rfl]
  rw [List.singleton_append] at hvalue
  cases hmore : readEntries? fuel false rest <;>
    simp [skipSpace_append hblanks, toList_quoted, readString?_quoted, skipSpace_cons, isSpace, hvalue,
      hmore]

end Objects

theorem toList_entry (level : Nat) (key : String) (value : Tree) :
    (quoted key ++ ": " ++ renderAt level value).toList =
      (quoted key).toList ++ ':' :: ' ' :: (renderAt level value).toList := by
  rw [String.toList_append, String.toList_append, List.append_assoc]
  rfl

theorem readEntries?_tail {entries : List (String × Tree)} (h : ∀ entry ∈ entries, ComesBack entry.2)
    {level fuel : Nat}
    (hfuel : (tailText level "\x7d" (renderEntries (level + 1) entries)).length ≤ fuel)
    (rest : List Char) :
    readEntries? fuel false (tailText level "\x7d" (renderEntries (level + 1) entries) ++ rest) =
      some (entries.map fun entry => (some entry.1, entry.2), rest) := by
  induction entries generalizing fuel with
  | nil =>
    obtain ⟨fuel, rfl⟩ := Nat.exists_eq_add_one.mpr (Nat.lt_of_lt_of_le (Nat.succ_pos _) hfuel)
    rw [renderEntries, tailText, List.append_assoc]
    exact readEntries?_end (isSpace_of_mem_lineStart level) fuel false rest
  | cons entry entries ih =>
    obtain ⟨key, value⟩ := entry
    obtain ⟨fuel, rfl⟩ := Nat.exists_eq_add_one.mpr (Nat.lt_of_lt_of_le (Nat.succ_pos _) hfuel)
    obtain ⟨(hvalue : ComesBack value), hentries⟩ := List.forall_mem_cons.mp h
    simp only [renderEntries, toList_entry, tailText, List.length_cons, List.length_append] at hfuel
    have hread := hvalue (level + 1) fuel [' '] _ (by simp [isSpace])
      (stops_tailText level "\x7d" (renderEntries (level + 1) entries) rest) (by omega)
    simp only [renderEntries, toList_entry, tailText, List.cons_append, List.append_assoc]
    rw [readEntries?_next (isSpace_of_mem_lineStart (level + 1)) hread, ih hentries (by omega)]
    rfl

theorem ofEntries_of_keys (entries : List (String × Tree)) :
    ofEntries (entries.map fun entry => (some entry.1, entry.2)) = .map entries := by
  have hkeys : ((entries.map fun entry => (some entry.1, entry.2)).mapM fun entry =>
      entry.1.map (·, entry.2)) = some entries := by
    induction entries with
    | nil => rfl
    | cons entry entries ih =>
      rw [List.map_cons, List.mapM_cons, ih]
      rfl
  rw [ofEntries, hkeys]

theorem comesBack_map {entries : List (String × Tree)} (h : ∀ entry ∈ entries, ComesBack entry.2) :
    ComesBack (.map entries) := by
  intro level fuel blanks rest hblanks hrest hfuel
  have hopening : "\x7b".toList = ['\x7b'] := rfl
  rw [renderAt] at hfuel ⊢
  rw [← ofEntries_of_keys entries]
  cases entries with
  | nil =>
    rw [renderEntries, toList_bracketed_nil] at hfuel ⊢
    obtain ⟨fuel, rfl⟩ := Nat.exists_eq_add_of_le' (show 2 ≤ fuel from hfuel)
    show readValue? (fuel + 2) (blanks ++ '\x7b' :: ([] ++ '\x7d' :: rest)) = _
    rw [readValue?_object hblanks, readEntries?_end (by simp)]
    rfl
  | cons entry entries =>
    obtain ⟨key, value⟩ := entry
    obtain ⟨(hvalue : ComesBack value), hentries⟩ := List.forall_mem_cons.mp h
    rw [renderEntries, toList_bracketed_cons, toList_entry] at hfuel ⊢
    simp only [List.length_append, List.length_cons, hopening, length_lineStart] at hfuel
    obtain ⟨fuel, rfl⟩ := Nat.exists_eq_add_of_le' (show 2 ≤ fuel by omega)
    have hread := hvalue (level + 1) fuel [' '] _ (by simp [isSpace])
      (stops_tailText level "\x7d" (renderEntries (level + 1) entries) rest) (by omega)
    simp only [hopening, List.cons_append, List.nil_append, List.append_assoc]
    rw [readValue?_object hblanks, readEntries?_first (isSpace_of_mem_lineStart (level + 1)) hread,
      readEntries?_tail hentries (by omega)]
    rfl

/-! ## Main result -/

theorem comesBack_of_isPlain {tree : Tree} (h : tree.IsPlain) : ComesBack tree := by
  induction h with
  | null =>
    have htext (level : Nat) : (renderAt level .null).toList = ['n', 'u', 'l', 'l'] := by
      rw [renderAt]
      rfl
    exact comesBack_scalar htext (by decide) fun _ _ => rfl
  | bool b =>
    cases b with
    | false =>
      have htext (level : Nat) : (renderAt level (.bool false)).toList = ['f', 'a', 'l', 's', 'e'] := by
        rw [renderAt]
        rfl
      exact comesBack_scalar htext (by decide) fun _ _ => rfl
    | true =>
      have htext (level : Nat) : (renderAt level (.bool true)).toList = ['t', 'r', 'u', 'e'] := by
        rw [renderAt]
        rfl
      exact comesBack_scalar htext (by decide) fun _ _ => rfl
  | int i hfits => exact comesBack_int hfits
  | text s =>
    refine comesBack_scalar (fun _ => toList_quoted s) (by decide) fun rest _ => ?_
    show (readString? (s.toList.flatMap escapeChar ++ ['"'] ++ rest)).map _ = some (Tree.text s, rest)
    rw [List.append_assoc, List.singleton_append, readString?_quoted]
    rfl
  | list items _ ih => exact comesBack_list ih
  | map entries _ _ ih => exact comesBack_map ih

/-- **Round trip.** A tree of plain values is read from the text that it is written as. -/
theorem parse?_render {tree : Tree} (h : tree.IsPlain) : parse? (render tree) = some ⟨tree, limits⟩ := by
  have hread := comesBack_of_isPlain h 0 (2 * (render tree).toList.length + 2) [] [] nofun nofun
    (by rw [render]; omega)
  rw [List.nil_append, List.append_nil] at hread
  rw [parse?]
  simp only [render] at hread ⊢
  rw [hread]
  rfl

end TableCodegen.Json
