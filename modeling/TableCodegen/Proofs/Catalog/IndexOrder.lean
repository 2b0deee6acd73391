import Mathlib.Data.List.Sort
import Mathlib.Data.String.Basic
import TableCodegen.Proofs.Catalog.Grouping

/-!
# Order of index groupings

The rows of a catalog come in any order, and the rows of one index may stand between those of another. The
groupings are the same for all of these orders: indexes are taken by their names, and the columns of an index by
their places in it. An order of indexes and columns with these two rules is the only one, so nothing is left that
could depend on the rows' own order.

Results:

* `pairwise_mergeSort_key`: sorted lists.
* `uniqueStrings_eq_eraseDups`, `pairwise_lt_uniqueStrings`: of equal texts the first is kept.
* `IndexOrder.names_eq`, `IndexOrder.columns_eq`: rows have no two orders of indexes and columns.
* `TableIndexes.indexOrder_columnsOf`: the order in which groupings are written.
* `TableIndexes.groupings_in_order`: the groupings of index rows in any order.
-/

namespace TableCodegen

/-! ## Specification -/

/-- No two rows of one index and uniqueness have the same place. -/
def DistinctPlaces (rows : List IndexRow) : Prop :=
  rows.Pairwise fun a b => a.indexName = b.indexName → a.isUnique = b.isUnique → a.seqInIndex ≠ b.seqInIndex

instance (rows : List IndexRow) : Decidable (DistinctPlaces rows) :=
  inferInstanceAs (Decidable (List.Pairwise _ _))

/-- The secondary indexes of one kind in the order of their names, and the rows of each in that of their places. -/
structure IndexOrder (rows : List IndexRow) (unique : Bool) (names : List String)
    (columns : String → List IndexRow) : Prop where
  ascending : names.Pairwise (· < ·)
  mem_names : ∀ name, name ∈ names ↔
    name ≠ primaryIndex ∧ ∃ row ∈ rows, row.indexName = name ∧ row.isUnique = unique
  perm : ∀ name ∈ names, (columns name).Perm
    (rows.filter fun row => row.indexName == name && row.isUnique == unique)
  places : ∀ name ∈ names, (columns name).Pairwise fun a b => a.seqInIndex < b.seqInIndex

/-- The groupings of one kind of index. -/
def TableIndexes.ofKind (indexes : TableIndexes) : Bool → List String
  | false => indexes.normal
  | true => indexes.unique

/-! ## Sorted lists -/

/-- A list that is sorted by keys has ascending keys. -/
theorem pairwise_mergeSort_key {α β : Type} [LE β] [DecidableLE β] [Std.IsLinearPreorder β] (key : α → β)
    (list : List α) : (list.mergeSort fun a b => key a ≤ key b).Pairwise fun a b => key a ≤ key b := by
  have htrans (a b c : α) (hab : decide (key a ≤ key b) = true) (hbc : decide (key b ≤ key c) = true) :
      decide (key a ≤ key c) = true :=
    decide_eq_true (Std.le_trans (of_decide_eq_true hab) (of_decide_eq_true hbc))
  have htotal (a b : α) : (decide (key a ≤ key b) || decide (key b ≤ key a)) = true := by
    rw [Bool.or_eq_true, decide_eq_true_iff, decide_eq_true_iff]
    exact Std.le_total
  exact (List.pairwise_mergeSort htrans htotal list).imp of_decide_eq_true

/-! ## Texts that are kept once -/

section

variable {values : List String}

/-- The texts that are kept so far hide the later ones. -/
theorem foldl_uniqueStrings (kept : List String) :
    values.foldl (fun kept value => if kept.contains value then kept else kept ++ [value]) kept =
      kept ++ (values.filter fun value => !kept.contains value).eraseDups := by
  induction values generalizing kept with
  | nil => simp
  | cons value values ih =>
    rw [List.foldl_cons, List.filter_cons]
    cases hkept : kept.contains value with
    | true => simpa using ih kept
    | false =>
      have hrest : (values.filter fun next => !(kept ++ [value]).contains next) =
          (values.filter fun next => !kept.contains next).filter fun next => !(next == value) := by
        rw [List.filter_filter]
        refine List.filter_congr fun next _ => ?_
        rw [List.contains_append, List.contains_cons, List.contains_nil, Bool.or_false, Bool.not_or, Bool.and_comm]
      simp only [Bool.false_eq_true, if_false, Bool.not_false, if_true]
      rw [ih, hrest, List.eraseDups_cons, List.append_assoc, List.singleton_append]

theorem uniqueStrings_eq_eraseDups (values : List String) : uniqueStrings values = values.eraseDups := by
  rw [uniqueStrings, foldl_uniqueStrings]
  simp

/-- Ascending texts are strictly ascending when each is kept once. -/
theorem pairwise_lt_uniqueStrings (h : values.Pairwise (· ≤ ·)) : (uniqueStrings values).Pairwise (· < ·) := by
  rw [uniqueStrings_eq_eraseDups]
  -- induction on the number of texts: those behind the first lose the ones equal to it
  induction hlength : values.length using Nat.strongRecOn generalizing values with
  | ind length ih =>
    cases values with
    | nil => simp
    | cons value rest =>
      obtain ⟨hfirst, hrest⟩ := List.pairwise_cons.mp h
      rw [List.eraseDups_cons, List.pairwise_cons]
      constructor
      · intro next hnext
        obtain ⟨hmem, hne⟩ := List.mem_filter.mp (List.mem_eraseDups.mp hnext)
        exact lt_of_le_of_ne (hfirst next hmem) fun heq => by simp [heq] at hne
      · have hshorter : (rest.filter fun next => !(next == value)).length < length := by
          rw [← hlength, List.length_cons]
          exact Nat.lt_succ_of_le (List.length_filter_le _ _)
        exact ih _ hshorter (hrest.filter _) rfl

end

/-! ## Orders of rows -/

section

variable {rows others : List IndexRow} {unique : Bool} {names names' : List String}
  {columns columns' : String → List IndexRow}

theorem DistinctPlaces.perm (h : DistinctPlaces rows) (hperm : rows.Perm others) : DistinctPlaces others :=
  hperm.pairwise h fun hdistinct hname hkind => (hdistinct hname.symm hkind.symm).symm

/-- Rows of one index and uniqueness, put in order. -/
theorem DistinctPlaces.pairwise_lt_mergeSort (h : DistinctPlaces rows)
    (hsame : ∀ row ∈ rows, ∀ other ∈ rows, row.indexName = other.indexName ∧ row.isUnique = other.isUnique) :
    (rows.mergeSort fun a b => a.seqInIndex ≤ b.seqInIndex).Pairwise fun a b => a.seqInIndex < b.seqInIndex := by
  have hperm := List.mergeSort_perm rows fun a b => a.seqInIndex ≤ b.seqInIndex
  have hle := pairwise_mergeSort_key IndexRow.seqInIndex rows
  refine List.Pairwise.imp_of_mem (fun ha hb hboth => ?_) (hle.and (h.perm hperm.symm))
  obtain ⟨hname, hkind⟩ := hsame _ (hperm.mem_iff.mp ha) _ (hperm.mem_iff.mp hb)
  exact Int64.lt_of_le_of_ne hboth.1 (hboth.2 hname hkind)

namespace IndexOrder

theorem of_perm (h : IndexOrder others unique names columns) (hperm : others.Perm rows) :
    IndexOrder rows unique names columns where
  ascending := h.ascending
  mem_names name := by simp only [h.mem_names, hperm.mem_iff]
  perm name hname := (h.perm name hname).trans (hperm.filter _)
  places := h.places

theorem columns_ne_nil (h : IndexOrder rows unique names columns) {name : String} (hname : name ∈ names) :
    columns name ≠ [] := by
  obtain ⟨-, row, hrow, hindex, hkind⟩ := (h.mem_names name).mp hname
  have hmem : row ∈ columns name := by
    rw [(h.perm name hname).mem_iff, List.mem_filter]
    exact ⟨hrow, by simp [hindex, hkind]⟩
  exact List.ne_nil_of_mem hmem

/-- The names of the indexes come in one order only. -/
theorem names_eq (h : IndexOrder rows unique names columns) (h' : IndexOrder rows unique names' columns') :
    names = names' := by
  have hnodup : names.Nodup := h.ascending.imp fun hlt => ne_of_lt hlt
  have hnodup' : names'.Nodup := h'.ascending.imp fun hlt => ne_of_lt hlt
  have hperm : names.Perm names' := (List.perm_ext_iff_of_nodup hnodup hnodup').mpr fun name => by
    rw [h.mem_names, h'.mem_names]
  exact hperm.eq_of_pairwise (fun a b _ _ hlt hgt => absurd hgt (lt_asymm hlt)) h.ascending h'.ascending

/-- So do the rows of an index. -/
theorem columns_eq (h : IndexOrder rows unique names columns) (h' : IndexOrder rows unique names' columns')
    {name : String} (hname : name ∈ names) : columns name = columns' name := by
  have hname' : name ∈ names' := h.names_eq h' ▸ hname
  have hperm : (columns name).Perm (columns' name) := (h.perm name hname).trans (h'.perm name hname').symm
  exact hperm.eq_of_pairwise (fun _ _ _ _ hlt hgt => absurd hgt (Int64.lt_asymm hlt)) (h.places name hname)
    (h'.places name hname')

end IndexOrder

end

/-! ## Groupings -/

namespace TableIndexes

variable {rows : List IndexRow} (enableInitialism unique : Bool)

/-- The rows that give the groupings of one kind. -/
def rowsOfKind (rows : List IndexRow) : List IndexRow :=
  (rows.filter (·.isSecondary)).filter fun row => row.isUnique == unique

/-- The rows of an index in the order in which its grouping is written. -/
def columnsOf (rows : List IndexRow) (name : String) : List IndexRow :=
  ((rowsOfKind unique rows).filter (·.indexName == name)).mergeSort fun a b => a.seqInIndex ≤ b.seqInIndex

theorem ofKind_ofRows (rows : List IndexRow) :
    (ofRows enableInitialism rows).ofKind unique = groupings enableInitialism (rowsOfKind unique rows) := by
  cases unique <;> simp [ofRows, ofKind, rowsOfKind]

theorem mem_indexNames_rowsOfKind {name : String} :
    name ∈ indexNames (rowsOfKind unique rows) ↔
      name ≠ primaryIndex ∧ ∃ row ∈ rows, row.indexName = name ∧ row.isUnique = unique := by
  simp only [indexNames, mem_uniqueStrings, List.mem_mergeSort, List.mem_map, rowsOfKind, List.mem_filter,
    IndexRow.isSecondary, bne_iff_ne, beq_iff_eq]
  constructor
  · rintro ⟨row, ⟨⟨hrow, hsecondary⟩, hkind⟩, rfl⟩
    exact ⟨hsecondary, row, hrow, rfl, hkind⟩
  · rintro ⟨hsecondary, row, hrow, rfl, hkind⟩
    exact ⟨row, ⟨⟨hrow, hsecondary⟩, hkind⟩, rfl⟩

/-- A secondary index has the rows with its name. -/
theorem filter_rowsOfKind {name : String} (h : name ≠ primaryIndex) :
    (rowsOfKind unique rows).filter (·.indexName == name) =
      rows.filter fun row => row.indexName == name && row.isUnique == unique := by
  rw [rowsOfKind, List.filter_filter, List.filter_filter]
  refine List.filter_congr fun row _ => ?_
  cases hname : row.indexName == name with
  | false => rfl
  | true =>
    have hsecondary : row.isSecondary = true := by
      rw [IndexRow.isSecondary, beq_iff_eq.mp hname, bne_iff_ne]
      exact h
    simp [hsecondary]

theorem indexOrder_columnsOf (h : DistinctPlaces rows) :
    IndexOrder rows unique (indexNames (rowsOfKind unique rows)) (columnsOf unique rows) where
  ascending := pairwise_lt_uniqueStrings (pairwise_mergeSort_key id _)
  mem_names _ := mem_indexNames_rowsOfKind unique
  perm name hname := by
    rw [columnsOf, filter_rowsOfKind unique ((mem_indexNames_rowsOfKind unique).mp hname).1]
    exact List.mergeSort_perm _ _
  places name hname := by
    rw [columnsOf, filter_rowsOfKind unique ((mem_indexNames_rowsOfKind unique).mp hname).1]
    have hsame {row : IndexRow}
        (hrow : row ∈ rows.filter fun row => row.indexName == name && row.isUnique == unique) :
        row.indexName = name ∧ row.isUnique = unique := by
      simpa using (List.mem_filter.mp hrow).2
    exact DistinctPlaces.pairwise_lt_mergeSort (h.filter _) fun row hrow other hother =>
      ⟨(hsame hrow).1.trans (hsame hother).1.symm, (hsame hrow).2.trans (hsame hother).2.symm⟩

/-- The groupings of one kind, for the order of the indexes and of their rows. -/
theorem ofKind_ofRows_eq {names : List String} {columns : String → List IndexRow}
    (horder : IndexOrder rows unique names columns) (h : DistinctPlaces rows) :
    (ofRows enableInitialism rows).ofKind unique =
      (names.map fun name => ",".intercalate ((columns name).map (quotedColumn enableInitialism))).eraseDups := by
  have hwritten := indexOrder_columnsOf unique h
  rw [ofKind_ofRows, groupings, uniqueStrings_eq_eraseDups, ← horder.names_eq hwritten]
  congr 1
  refine List.map_congr_left fun name hname => ?_
  rw [horder.columns_eq hwritten hname]
  rfl

theorem ofKind_ofRows_perm {others : List IndexRow} (h : DistinctPlaces rows) (hperm : others.Perm rows) :
    (ofRows enableInitialism others).ofKind unique = (ofRows enableInitialism rows).ofKind unique := by
  have hothers := h.perm hperm.symm
  have horder := indexOrder_columnsOf unique hothers
  rw [ofKind_ofRows_eq enableInitialism unique horder hothers,
    ofKind_ofRows_eq enableInitialism unique (horder.of_perm hperm) h]

/-- Rows in another order have the same groupings. -/
theorem ofRows_perm {others : List IndexRow} (h : DistinctPlaces rows) (hperm : others.Perm rows) :
    ofRows enableInitialism others = ofRows enableInitialism rows :=
  congrArg₂ TableIndexes.mk (ofKind_ofRows_perm enableInitialism false h hperm)
    (ofKind_ofRows_perm enableInitialism true h hperm)

/-- The groupings of index rows. Under distinct places, the rows of either kind have an order of indexes by their
names and of columns by their places. The groupings follow it: each is the quoted exported names of the columns,
and is read back as these names, and of equal ones the first is kept. So the order of the rows says nothing. -/
theorem groupings_in_order (rows : List IndexRow) (h : DistinctPlaces rows) :
    (∀ unique, ∃ names columns, IndexOrder rows unique names columns) ∧
    (∀ unique names columns, IndexOrder rows unique names columns →
      (ofRows enableInitialism rows).ofKind unique =
        (names.map fun name => ",".intercalate ((columns name).map (quotedColumn enableInitialism))).eraseDups ∧
      ∀ name ∈ names, readGrouping (",".intercalate ((columns name).map (quotedColumn enableInitialism))) =
        some ((columns name).map fun row => Naming.exportedName enableInitialism row.columnName)) ∧
    ∀ others : List IndexRow, others.Perm rows →
      ofRows enableInitialism others = ofRows enableInitialism rows := by
  refine ⟨fun unique => ⟨_, _, indexOrder_columnsOf unique h⟩, fun unique names columns horder => ?_,
    fun others hperm => ofRows_perm enableInitialism h hperm⟩
  exact ⟨ofKind_ofRows_eq enableInitialism unique horder h,
    fun name hname => readGrouping_quotedColumns enableInitialism (horder.columns_ne_nil hname)⟩

/-- Rows of three indexes among each other, two of which have one name. -/
def mixedRows : List IndexRow :=
  [⟨1, "by_name", 2, "last_name", ""⟩, ⟨0, "by_name", 1, "login", ""⟩, ⟨1, "a_owner", 1, "owner", ""⟩,
    ⟨0, "PRIMARY", 1, "user_id", ""⟩, ⟨1, "by_name", 1, "first_name", ""⟩, ⟨1, "z_owner", 1, "owner", ""⟩]

/-- The first name comes first, and the last index lists what that one has listed. -/
theorem mixedRows_in_order :
    DistinctPlaces mixedRows ∧
    (ofRows false mixedRows).normal = ["\"Owner\"", "\"FirstName\",\"LastName\""] ∧
    ofRows false mixedRows.reverse = ofRows false mixedRows := by
  have hdistinct : DistinctPlaces mixedRows := by decide
  obtain ⟨-, horders, hperm⟩ := groupings_in_order false mixedRows hdistinct
  have horder : IndexOrder mixedRows false ["a_owner", "by_name", "z_owner"] fun name =>
      mixedRows.reverse.filter fun row => row.indexName == name && row.isUnique == false := by
    constructor
    case ascending => decide
    case mem_names =>
      intro name
      have hnames : name = "a_owner" ∨ name = "by_name" ∨ name = "z_owner" ↔ ¬ name = "PRIMARY" ∧
          ("by_name" = name ∨ "a_owner" = name ∨ "by_name" = name ∨ "z_owner" = name) := by
        constructor
        · rintro (rfl | rfl | rfl) <;> decide
        · rintro ⟨-, rfl | rfl | rfl | rfl⟩ <;> decide
      simpa [mixedRows, IndexRow.isUnique, primaryIndex] using hnames
    case perm => exact fun name _ => (List.reverse_perm _).filter _
    case places => decide
  refine ⟨hdistinct, (horders false _ _ horder).1.trans ?_, hperm _ (List.reverse_perm _)⟩
  decide +kernel

end TableIndexes

end TableCodegen
