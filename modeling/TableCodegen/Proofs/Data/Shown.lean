import TableCodegen.Data.Decode
import TableCodegen.Data.Resolve

/-!
# Trees that come back from a document

A tree that was written in some format and read again need not be the same tree. A format can leave types
to the reader, list the entries of a map in another order, and have no word for what is absent. Here it is
said when a tree that was read still shows the one that was written, and that readers cannot tell the two
apart.

Results:

* `Tree.shows`: the tree that was read shows the one that was written.
* `Tree.Reads`, `reads_asText` and the facts after it: what readers make of trees that show others.
* `EntriesShow`, `Tree.entries_of_shows`: the entries of a map that shows another.
* `Tree.IsPlain.shows_self`: a tree of plain values shows itself.
* `ShownIn.field`, `EntriesShow.field_eq`: a field of a record, looked up by its names.
-/

namespace TableCodegen

/-! ## Specification -/

/-- The tree of a value that is absent. -/
def Tree.isNull : Tree → Bool
  | .null => true
  | _ => false

/-- The scalar is a tree to everybody: to who asks for its type, and to who asks for none. -/
def LooseScalar.isTree (scalar : LooseScalar) (tree : Tree) : Bool :=
  match tree, scalar.value? with
  | .null, some .null => scalar.isAbsent? == some true
  | .bool b, some (.bool b') => b' == b && scalar.bool? == some b
  | .int i, some (.int i') =>
    i' == i && scalar.int? == some i && scalar.nat? == (if 0 ≤ i then some i.toNat else none) &&
      scalar.isAbsent? == some false
  | .text s, some (.text s') => s' == s && scalar.text == s && scalar.isAbsent? == some false
  | _, _ => false

namespace Tree

/-- The tree that was read is a scalar that was written. -/
def isScalar : Tree → Tree → Bool
  | .null, .null => true
  | .bool b, .bool b' => b' == b
  | .int i, .int i' => i' == i
  | .text s, .text s' => s' == s
  | written, .loose scalar => scalar.isTree written
  | _, _ => false

/-- The items of a list that no type of the document's own changes. -/
def plainItems? : Tree → Option (List Tree)
  | .list items => some items
  | .plainList false items => some items
  | _ => none

/-- The text that a key is to everybody. -/
def keyText? : Tree → Option String
  | .text s => some s
  | .loose scalar => if scalar.isTree (.text scalar.text) then some scalar.text else none
  | _ => none

/-- The entries of a map with texts for keys that no type of the document's own changes. -/
def plainEntries? : Tree → Option (List (String × Tree))
  | .map entries => some entries
  | .looseMap false entries => entries.mapM fun entry => entry.1.keyText?.map (·, entry.2)
  | _ => none

mutual
/-- The tree that was read shows the one that was written: it is the same scalar, it has the same items
    in the same order, or it has the same entries in any order and possibly without those that are absent.
    What is no plain value shows nothing. -/
def shows : Tree → Tree → Bool
  | .list items, read =>
    match read.plainItems? with
    | some items' => itemsShow items items'
    | none => false
  | .map entries, read =>
    match read.plainEntries? with
    | some entries' =>
      entriesShow entries entries' &&
        entries'.all fun entry => (entries.map (·.1)).contains entry.1
    | none => false
  | .null, read => isScalar .null read
  | .bool b, read => isScalar (.bool b) read
  | .int i, read => isScalar (.int i) read
  | .text s, read => isScalar (.text s) read
  | .real _, _ | .loose _, _ | .plainList .., _ | .looseMap .., _ | .shared _, _ | .unreadable, _ => false

/-- The items that were read show those that were written, one by one. -/
def itemsShow : List Tree → List Tree → Bool
  | [], [] => true
  | item :: rest, item' :: rest' => item.shows item' && itemsShow rest rest'
  | _, _ => false

/-- Every entry that was written was read once, unless it is absent. -/
def entriesShow : List (String × Tree) → List (String × Tree) → Bool
  | [], _ => true
  | (key, value) :: rest, read =>
    (match read.filter (·.1 == key) with
    | [] => value.isNull
    | [entry] => value.shows entry.2
    | _ => false) && entriesShow rest read
end

/-- A tree of plain values: maps that repeat no key, lists, texts, truth values, absent values and integers
    of 64 bits. -/
inductive IsPlain : Tree → Prop
  | null : IsPlain .null
  | bool (b : Bool) : IsPlain (.bool b)
  | int (i : Int) (h : fitsWord i = true) : IsPlain (.int i)
  | text (s : String) : IsPlain (.text s)
  | list (items : List Tree) (h : ∀ item ∈ items, IsPlain item) : IsPlain (.list items)
  | map (entries : List (String × Tree)) (hkeys : (entries.map (·.1)).Nodup)
    (h : ∀ entry ∈ entries, IsPlain entry.2) : IsPlain (.map entries)

/-- A reader makes a value of every tree that shows a given one. -/
def Reads {α : Type} (read : Tree → Option α) (written : Tree) (value : α) : Prop :=
  ∀ tree, written.shows tree = true → read tree = some value

end Tree

/-! ## Scalars -/

namespace LooseScalar

variable {scalar : LooseScalar}

theorem isTree_null (h : scalar.isTree .null = true) :
    scalar.value? = some .null ∧ scalar.isAbsent? = some true := by
  unfold isTree at h
  split at h
  case h_1 hvalue => exact ⟨hvalue, by simpa using h⟩
  all_goals simp_all

theorem isTree_bool {b : Bool} (h : scalar.isTree (.bool b) = true) :
    scalar.value? = some (.bool b) ∧ scalar.bool? = some b := by
  unfold isTree at h
  split at h
  case h_2 heq hvalue =>
    cases heq
    simp only [Bool.and_eq_true, beq_iff_eq] at h
    exact ⟨h.1 ▸ hvalue, h.2⟩
  all_goals simp_all

theorem isTree_int {i : Int} (h : scalar.isTree (.int i) = true) :
    scalar.value? = some (.int i) ∧ scalar.int? = some i ∧
      scalar.nat? = (if 0 ≤ i then some i.toNat else none) ∧ scalar.isAbsent? = some false := by
  unfold isTree at h
  split at h
  case h_3 heq hvalue =>
    cases heq
    simp only [Bool.and_eq_true, beq_iff_eq] at h
    obtain ⟨⟨⟨rfl, hint⟩, hnat⟩, habsent⟩ := h
    exact ⟨hvalue, hint, hnat, habsent⟩
  all_goals simp_all

theorem isTree_text {s : String} (h : scalar.isTree (.text s) = true) :
    scalar.value? = some (.text s) ∧ scalar.text = s ∧ scalar.isAbsent? = some false := by
  unfold isTree at h
  split at h
  case h_4 heq hvalue =>
    cases heq
    simp only [Bool.and_eq_true, beq_iff_eq] at h
    obtain ⟨⟨rfl, htext⟩, habsent⟩ := h
    exact ⟨hvalue, htext, habsent⟩
  all_goals simp_all

end LooseScalar

namespace Tree

/-- A scalar comes back as itself or as a loose scalar that is the same to everybody. -/
theorem eq_or_loose_of_isScalar {written read : Tree} (h : isScalar written read = true) :
    read = written ∨ ∃ scalar, read = .loose scalar ∧ scalar.isTree written = true := by
  unfold isScalar at h
  split at h
  case h_5 => exact Or.inr ⟨_, rfl, h⟩
  all_goals simp_all

theorem reads_asText (s : String) : Reads asText (.text s) s := by
  intro tree h
  obtain rfl | ⟨scalar, rfl, hscalar⟩ := eq_or_loose_of_isScalar h
  · rfl
  · exact congrArg some (LooseScalar.isTree_text hscalar).2.1

theorem reads_asBool (b : Bool) : Reads asBool (.bool b) b := by
  intro tree h
  obtain rfl | ⟨scalar, rfl, hscalar⟩ := eq_or_loose_of_isScalar h
  · rfl
  · exact (LooseScalar.isTree_bool hscalar).2

theorem reads_asInt (i : Int) : Reads asInt (.int i) i := by
  intro tree h
  obtain rfl | ⟨scalar, rfl, hscalar⟩ := eq_or_loose_of_isScalar h
  · rfl
  · exact (LooseScalar.isTree_int hscalar).2.1

theorem reads_asNat (n : Nat) : Reads asNat (.int n) n := by
  intro tree h
  obtain rfl | ⟨scalar, rfl, hscalar⟩ := eq_or_loose_of_isScalar h
  · simp [asNat, deref]
  · exact (LooseScalar.isTree_int hscalar).2.2.1.trans (by simp)

theorem reads_asUInt16 (n : UInt16) : Reads asUInt16 (.int n.toNat) n := by
  intro tree h
  have hle : n.toNat ≤ 65535 := Nat.le_of_lt_succ n.toNat_lt
  rw [asUInt16, reads_asNat n.toNat tree h]
  simp [Option.filter, hle]

theorem reads_asUInt32 (n : UInt32) : Reads asUInt32 (.int n.toNat) n := by
  intro tree h
  have hle : n.toNat ≤ 4294967295 := Nat.le_of_lt_succ n.toNat_lt
  rw [asUInt32, reads_asNat n.toNat tree h]
  simp [Option.filter, hle]

theorem reads_asInt64 (i : Int64) : Reads asInt64 (.int i.toInt) i := by
  intro tree h
  have hle : -9223372036854775808 ≤ i.toInt := i.le_toInt
  have hlt : i.toInt ≤ 9223372036854775807 := Int.le_of_lt_add_one i.toInt_lt
  rw [asInt64, reads_asInt i.toInt tree h]
  simp [Option.filter, hle, hlt]

/-- A value that is there is not taken for an absent one. -/
def Present (written : Tree) : Prop :=
  Reads isAbsent? written false

theorem present_text (s : String) : Present (.text s) := by
  intro tree h
  obtain rfl | ⟨scalar, rfl, hscalar⟩ := eq_or_loose_of_isScalar h
  · rfl
  · exact (LooseScalar.isTree_text hscalar).2.2

theorem present_int (i : Int) : Present (.int i) := by
  intro tree h
  obtain rfl | ⟨scalar, rfl, hscalar⟩ := eq_or_loose_of_isScalar h
  · rfl
  · exact (LooseScalar.isTree_int hscalar).2.2.2

theorem reads_isAbsent?_null : Reads isAbsent? .null true := by
  intro tree h
  obtain rfl | ⟨scalar, rfl, hscalar⟩ := eq_or_loose_of_isScalar h
  · rfl
  · exact (LooseScalar.isTree_null hscalar).2

/-! ## Lists -/

theorem items?_of_plainItems? {tree : Tree} {items : List Tree} (h : tree.plainItems? = some items) :
    tree.items? = some items := by
  unfold plainItems? at h
  split at h
  · exact h
  · exact h
  · cases h

/-- A reader of lists makes a list of what shows a list, if the reader of items makes items. -/
theorem reads_asList {α : Type} {read : Tree → Option α} {write : α → Tree} {values : List α}
    (h : ∀ value ∈ values, Reads read (write value) value) :
    Reads (asList read) (.list (values.map write)) values := by
  intro tree hshows
  rw [shows] at hshows
  split at hshows
  case h_2 => cases hshows
  case h_1 items hitems =>
    rw [asList, items?_of_plainItems? hitems]
    show items.mapM read = some values
    clear hitems
    induction values generalizing items with
    | nil =>
      cases items with
      | nil => rfl
      | cons => cases hshows
    | cons value values ih =>
      cases items with
      | nil => cases hshows
      | cons item items =>
        obtain ⟨hitem, hrest⟩ := Bool.and_eq_true_iff.mp hshows
        obtain ⟨hvalue, hvalues⟩ := List.forall_mem_cons.mp h
        rw [List.mapM_cons, hvalue item hitem, ih hvalues items hrest]
        rfl

end Tree

/-! ## Maps -/

/-- The entry was read once, and what was read shows it; or it is absent and was not read. -/
def ShownIn (read : List (String × Tree)) (entry : String × Tree) : Prop :=
  (read.filter (·.1 == entry.1) = [] ∧ entry.2.isNull = true) ∨
    ∃ tree, read.filter (·.1 == entry.1) = [(entry.1, tree)] ∧ entry.2.shows tree = true

/-- The entries that were read show the ones that were written, and there are no others. -/
structure EntriesShow (written read : List (String × Tree)) : Prop where
  known : ∀ entry ∈ read, entry.1 ∈ written.map (·.1)
  shown : ∀ entry ∈ written, ShownIn read entry

namespace Tree

theorem entriesShow_of_eq_true {written read : List (String × Tree)}
    (hshow : entriesShow written read = true)
    (hknown : (read.all fun entry => (written.map (·.1)).contains entry.1) = true) :
    EntriesShow written read where
  known entry hentry := by simpa using List.all_eq_true.mp hknown entry hentry
  shown entry hmem := by
    clear hknown
    induction written with
    | nil => cases hmem
    | cons head rest ih =>
      obtain ⟨hhead, hrest⟩ := Bool.and_eq_true_iff.mp hshow
      rcases List.mem_cons.mp hmem with rfl | hmem
      · split at hhead
        case h_1 hfilter => exact Or.inl ⟨hfilter, hhead⟩
        case h_2 found hfilter =>
          have hfound : found ∈ read.filter (·.1 == entry.1) := hfilter ▸ List.mem_singleton_self found
          have hkey : found.1 = entry.1 := by simpa using (List.mem_filter.mp hfound).2
          exact Or.inr ⟨found.2, by rw [hfilter, ← hkey], hhead⟩
        case h_3 => cases hhead
      · exact ih hrest hmem

/-- A reader that gives what another one gives, gives it on lists too. -/
theorem mapM_eq_some_of_imp {α β : Type} {f g : α → Option β}
    (himp : ∀ a b, f a = some b → g a = some b) {list : List α} {results : List β}
    (h : list.mapM f = some results) : list.mapM g = some results := by
  induction list generalizing results with
  | nil => exact h
  | cons a list ih =>
    rw [List.mapM_cons] at h ⊢
    obtain ⟨b, hb, h⟩ := Option.bind_eq_some_iff.mp h
    obtain ⟨rest, hrest, h⟩ := Option.bind_eq_some_iff.mp h
    rw [himp a b hb, ih hrest]
    exact h

theorem asText_of_keyText? {tree : Tree} {key : String} (h : tree.keyText? = some key) :
    tree.asText = some key := by
  unfold keyText? at h
  split at h
  · exact h
  · split at h
    · exact h
    · cases h
  · cases h

theorem entries?_of_plainEntries? {tree : Tree} {entries : List (String × Tree)}
    (h : tree.plainEntries? = some entries) :
    tree.entries? = some entries ∧ ∀ fields, tree.recordEntries? fields = some entries := by
  unfold plainEntries? at h
  split at h
  · exact ⟨h, fun _ => h⟩
  · rename_i pairs
    have hread : (pairs.mapM fun pair => pair.1.asText.map (·, pair.2)) = some entries :=
      mapM_eq_some_of_imp (fun pair entry hpair => by
        obtain ⟨key, hkey, rfl⟩ := Option.map_eq_some_iff.mp hpair
        rw [asText_of_keyText? hkey]
        rfl) h
    exact ⟨hread, fun _ => hread⟩
  · cases h

/-- A map that shows another has entries that show the other's, also where a record is read. -/
theorem entries_of_shows {written : List (String × Tree)} {tree : Tree}
    (h : (Tree.map written).shows tree = true) :
    ∃ read, tree.entries? = some read ∧ (∀ fields, tree.recordEntries? fields = some read) ∧
      EntriesShow written read := by
  rw [shows] at h
  split at h
  case h_2 => cases h
  case h_1 read hread =>
    obtain ⟨hshow, hknown⟩ := Bool.and_eq_true_iff.mp h
    obtain ⟨hentries, hrecord⟩ := entries?_of_plainEntries? hread
    exact ⟨read, hentries, hrecord, entriesShow_of_eq_true hshow hknown⟩

end Tree

/-- Every entry that was read shows one that was written. -/
theorem EntriesShow.exists_value {written read : List (String × Tree)} (h : EntriesShow written read)
    {entry : String × Tree} (hentry : entry ∈ read) :
    ∃ value, (entry.1, value) ∈ written ∧ value.shows entry.2 = true := by
  obtain ⟨⟨key, value⟩, hwritten, rfl⟩ := List.mem_map.mp (h.known entry hentry)
  have hmem : entry ∈ read.filter (·.1 == entry.1) := List.mem_filter.mpr ⟨hentry, beq_self_eq_true _⟩
  obtain ⟨hnone, -⟩ | ⟨tree, hone, hshows⟩ := h.shown _ hwritten
  · rw [hnone] at hmem
    cases hmem
  · rw [hone, List.mem_singleton] at hmem
    exact ⟨value, hwritten, hmem ▸ hshows⟩

/-! ## Plain trees -/

namespace Tree

theorem filter_key_eq_singleton {entries : List (String × Tree)} (hkeys : (entries.map (·.1)).Nodup)
    {entry : String × Tree} (h : entry ∈ entries) : entries.filter (·.1 == entry.1) = [entry] := by
  induction entries with
  | nil => cases h
  | cons head rest ih =>
    obtain ⟨hhead, hrest⟩ := List.nodup_cons.mp hkeys
    have hother (other : String × Tree) (hother : other ∈ rest) : other.1 ≠ head.1 := fun hkey =>
      hhead (List.mem_map.mpr ⟨other, hother, hkey⟩)
    rw [List.filter_cons]
    rcases List.mem_cons.mp h with rfl | hmem
    · have hnone : rest.filter (·.1 == entry.1) = [] :=
        List.filter_eq_nil_iff.mpr fun other hmem => by simpa using hother other hmem
      rw [if_pos (beq_self_eq_true entry.1), hnone]
    · rw [if_neg (by simpa using (hother entry hmem).symm), ih hrest hmem]

theorem itemsShow_self {items : List Tree} (h : ∀ item ∈ items, item.shows item = true) :
    itemsShow items items = true := by
  induction items with
  | nil => rfl
  | cons item items ih =>
    obtain ⟨hitem, hitems⟩ := List.forall_mem_cons.mp h
    exact Bool.and_eq_true_iff.mpr ⟨hitem, ih hitems⟩

theorem entriesShow_self {entries : List (String × Tree)} (hkeys : (entries.map (·.1)).Nodup)
    (h : ∀ entry ∈ entries, entry.2.shows entry.2 = true) {part : List (String × Tree)}
    (hpart : part ⊆ entries) : entriesShow part entries = true := by
  induction part with
  | nil => rfl
  | cons entry part ih =>
    obtain ⟨hentry, hrest⟩ := List.cons_subset.mp hpart
    refine Bool.and_eq_true_iff.mpr ⟨?_, ih hrest⟩
    rw [filter_key_eq_singleton hkeys hentry]
    exact h entry hentry

/-- A plain tree shows itself. -/
theorem IsPlain.shows_self {tree : Tree} (h : tree.IsPlain) : tree.shows tree = true := by
  induction h with
  | null => rfl
  | bool b => exact beq_self_eq_true b
  | int i _ => exact beq_self_eq_true i
  | text s => exact beq_self_eq_true s
  | list items _ ih => exact itemsShow_self ih
  | map entries hkeys _ ih =>
    have hknown : (entries.all fun entry => (entries.map (·.1)).contains entry.1) = true :=
      List.all_eq_true.mpr fun entry hentry =>
        List.contains_iff_mem.mpr (List.mem_map_of_mem hentry)
    exact Bool.and_eq_true_iff.mpr ⟨entriesShow_self hkeys ih (List.Subset.refl entries), hknown⟩

end Tree

/-! ## Fields of records -/

section Fields

variable {read : List (String × Tree)} {α : Type} {name : String} {value : Tree}
  {reader : Tree → Option α} {a : α}

/-- A field that was written comes back. It can be left out only if its default is its value. -/
theorem ShownIn.field {default : α} (h : ShownIn read (name, value))
    (hread : Tree.Reads reader value a) (hnull : value.isNull = true → default = a) :
    Tree.field read [name] default reader = some a := by
  have hfilter : (read.filter fun entry => [name].contains entry.1) = read.filter (·.1 == name) := by
    simp only [List.contains_cons, List.contains_nil, Bool.or_false]
  rw [Tree.field, hfilter]
  obtain ⟨hnone, habsent⟩ | ⟨tree, hone, hshows⟩ := h
  · rw [hnone]
    exact congrArg some (hnull habsent)
  · rw [hone]
    exact hread tree hshows

/-- A field of which only one name was written is looked up under that name. -/
theorem EntriesShow.field_eq {written : List (String × Tree)} (h : EntriesShow written read)
    (name : String) {names : List String}
    (hnames : ∀ key ∈ written.map (·.1), names.contains key = [name].contains key)
    (default : α) : Tree.field read names default reader = Tree.field read [name] default reader := by
  rw [Tree.field, Tree.field, List.filter_congr fun entry hentry => hnames entry.1 (h.known entry hentry)]

namespace ShownIn

theorem textField {s : String} (h : ShownIn read (name, .text s)) (default : String) :
    Tree.field read [name] default Tree.asText = some s :=
  h.field (Tree.reads_asText s) nofun

theorem boolField {b : Bool} (h : ShownIn read (name, .bool b)) (default : Bool) :
    Tree.field read [name] default Tree.asBool = some b :=
  h.field (Tree.reads_asBool b) nofun

end ShownIn

end Fields

end TableCodegen
