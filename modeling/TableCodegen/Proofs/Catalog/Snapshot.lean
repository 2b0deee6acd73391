import Mathlib.Data.List.Sort
import TableCodegen.Catalog.Snapshot
import TableCodegen.Proofs.Data.Shown

/-!
# Snapshots that come back from a document

A snapshot is read table by table, in the order in which the document has them, and each table is put in
its place among the others. Here rows, tables and snapshots are read from whatever shows the trees that
they were written as.

Results:

* `ShownIn.optionalField`: a value that may be absent, even one that was left out.
* `ColumnRow.reads_toTree`, `IndexRow.reads_toTree`, `SnapshotTable.reads_toTree`: rows and tables.
* `mem_keys_insertSorted`, `Snapshot.exists_foldlM_insert`: what a run over entries makes of tables.
* `Snapshot.isPlain_toTree`: a snapshot is written as plain values.
* `Snapshot.reads_toTree`: snapshots come back.
-/

namespace TableCodegen

/-! ## Rows -/

/-- What is never taken for an absent value is not the absent value. -/
theorem Tree.Present.isNull_eq_false {written : Tree} (h : written.Present) : written.isNull = false := by
  cases written with
  | null => cases h .null rfl
  | _ => rfl

section Fields

variable {read : List (String × Tree)} {name : String}

theorem ShownIn.optionalField {α : Type} {reader : Tree → Option α} {write : α → Tree} {value? : Option α}
    (h : ShownIn read (name, Tree.ofOptional write value?))
    (hread : ∀ value, Tree.Reads reader (write value) value)
    (hpresent : ∀ value, (write value).Present) :
    Tree.field read [name] none (Tree.asOptional reader) = some value? := by
  cases value? with
  | none =>
    refine h.field (fun tree hshows => ?_) fun _ => rfl
    rw [Tree.asOptional, Tree.reads_isAbsent?_null tree hshows]
    rfl
  | some value =>
    refine h.field (fun tree hshows => ?_) fun hnull => ?_
    · rw [Tree.asOptional, hpresent value tree hshows, hread value tree hshows]
      rfl
    · exact absurd ((hpresent value).isNull_eq_false.symm.trans hnull) Bool.false_ne_true

theorem ShownIn.optionalTextField {text? : Option String}
    (h : ShownIn read (name, Tree.ofOptional .text text?)) :
    Tree.field read [name] none (Tree.asOptional Tree.asText) = some text? :=
  h.optionalField Tree.reads_asText Tree.present_text

theorem ShownIn.optionalInt64Field {i? : Option Int64}
    (h : ShownIn read (name, Tree.ofOptional Tree.ofInt64 i?)) :
    Tree.field read [name] none (Tree.asOptional Tree.asInt64) = some i? :=
  h.optionalField Tree.reads_asInt64 fun i => Tree.present_int i.toInt

theorem ShownIn.int64Field {i : Int64} (h : ShownIn read (name, Tree.ofInt64 i)) (default : Int64) :
    Tree.field read [name] default Tree.asInt64 = some i :=
  h.field (Tree.reads_asInt64 i) nofun

end Fields

theorem Tree.isPlain_ofOptional {α : Type} {write : α → Tree} (h : ∀ value, (write value).IsPlain)
    (value? : Option α) : (ofOptional write value?).IsPlain := by
  cases value? with
  | none => exact .null
  | some value => exact h value

theorem Tree.isPlain_ofInt64 (i : Int64) : (ofInt64 i).IsPlain := by
  have hle : -9223372036854775808 ≤ i.toInt := i.le_toInt
  have hlt : i.toInt < 9223372036854775808 := i.toInt_lt
  refine .int i.toInt ?_
  simp only [fitsWord, Bool.and_eq_true, decide_eq_true_eq]
  omega

theorem ColumnRow.isPlain_toTree (row : ColumnRow) : row.toTree.IsPlain := by
  have hordinal : fitsWord row.ordinal.toNat = true := by
    have hlt : row.ordinal.toNat < 4294967296 := row.ordinal.toNat_lt
    simp only [fitsWord, Bool.and_eq_true, decide_eq_true_eq]
    omega
  have htext (text? : Option String) := Tree.isPlain_ofOptional .text text?
  have hint (i? : Option Int64) := Tree.isPlain_ofOptional Tree.isPlain_ofInt64 i?
  refine .map _ (by simp) ?_
  simp only [List.forall_mem_cons]
  exact ⟨.text _, .int _ hordinal, htext _, .text _, .text _, hint _, hint _, hint _, .text _, .text _,
    .text _, .text _, nofun⟩

theorem IndexRow.isPlain_toTree (row : IndexRow) : row.toTree.IsPlain := by
  refine .map _ (by simp) ?_
  simp only [List.forall_mem_cons]
  exact ⟨Tree.isPlain_ofInt64 _, .text _, Tree.isPlain_ofInt64 _, .text _, .text _, nofun⟩

theorem SnapshotTable.isPlain_toTree (table : SnapshotTable) : table.toTree.IsPlain := by
  refine .map _ (by simp) ?_
  simp only [List.forall_mem_cons]
  exact ⟨.text _, .list _ (List.forall_mem_map.mpr fun row _ => row.isPlain_toTree),
    .list _ (List.forall_mem_map.mpr fun row _ => row.isPlain_toTree), nofun⟩

theorem ColumnRow.reads_toTree (row : ColumnRow) : Tree.Reads ofTree? row.toTree row := by
  intro tree hshows
  obtain ⟨read, -, hrecord, h⟩ := Tree.entries_of_shows hshows
  have h := h.shown
  simp only [List.forall_mem_cons] at h
  obtain ⟨hname, hordinal, hdefault, hnullable, hdataType, hlength, hprecision, hscale, hcolumnType, hkey,
    hextra, hcomment, -⟩ := h
  have hordinal : Tree.field read ["ordinal"] 0 Tree.asUInt32 = some row.ordinal :=
    hordinal.field (Tree.reads_asUInt32 row.ordinal) nofun
  rw [ofTree?, hrecord, Option.bind_eq_bind, Option.bind_some]
  rw [hname.textField, hordinal, hdefault.optionalTextField, hnullable.textField, hdataType.textField,
    hlength.optionalInt64Field, hprecision.optionalInt64Field, hscale.optionalInt64Field,
    hcolumnType.textField, hkey.textField, hextra.textField, hcomment.textField]
  rfl

theorem IndexRow.reads_toTree (row : IndexRow) : Tree.Reads ofTree? row.toTree row := by
  intro tree hshows
  obtain ⟨read, -, hrecord, h⟩ := Tree.entries_of_shows hshows
  have h := h.shown
  simp only [List.forall_mem_cons] at h
  obtain ⟨hunique, hname, hsequence, hcolumn, hcomment, -⟩ := h
  rw [ofTree?, hrecord, Option.bind_eq_bind, Option.bind_some]
  rw [hunique.int64Field, hname.textField, hsequence.int64Field, hcolumn.textField, hcomment.textField]
  rfl

theorem SnapshotTable.reads_toTree (table : SnapshotTable) : Tree.Reads ofTree? table.toTree table := by
  intro tree hshows
  obtain ⟨read, -, hrecord, h⟩ := Tree.entries_of_shows hshows
  have h := h.shown
  simp only [List.forall_mem_cons] at h
  obtain ⟨hcomment, hcolumns, hindexes, -⟩ := h
  have hcolumns : Tree.field read ["columns"] [] (Tree.asList ColumnRow.ofTree?) = some table.columns :=
    hcolumns.field (Tree.reads_asList fun row _ => row.reads_toTree) nofun
  have hindexes : Tree.field read ["indexes"] [] (Tree.asList IndexRow.ofTree?) = some table.indexes :=
    hindexes.field (Tree.reads_asList fun row _ => row.reads_toTree) nofun
  rw [ofTree?, hrecord, Option.bind_eq_bind, Option.bind_some, hcomment.textField, hcolumns, hindexes]
  rfl

/-! ## Snapshots -/

/-- An insertion adds its key and keeps the others. -/
theorem mem_keys_insertSorted {α : Type} {name key : String} {value : α} {entries : List (String × α)} :
    name ∈ (insertSorted key value entries).map (·.1) ↔ name = key ∨ name ∈ entries.map (·.1) := by
  induction entries with
  | nil => simp [insertSorted]
  | cons head rest ih =>
    obtain ⟨k, v⟩ := head
    rw [insertSorted]
    split_ifs with hlt heq
    · simp
    · simp [heq]
    · rw [List.map_cons, List.mem_cons, ih, List.map_cons, List.mem_cons]
      exact or_left_comm

namespace Snapshot

/-- A run over entries that all show tables of one snapshot puts these tables into another one that has
    none but tables of the first. -/
theorem exists_foldlM_insert (snapshot : Snapshot) {entries : List (String × Tree)}
    (h : ∀ entry ∈ entries, ∃ table, (entry.1, table) ∈ snapshot.tables ∧
      SnapshotTable.ofTree? entry.2 = some table)
    (before : Snapshot) (hbefore : before.tables ⊆ snapshot.tables) :
    ∃ after : Snapshot,
      (entries.foldlM (fun snapshot entry => do
        return snapshot.insert entry.1 (← SnapshotTable.ofTree? entry.2)) before) = some after ∧
      after.tables ⊆ snapshot.tables ∧
      ∀ name, name ∈ before.tables.map (·.1) ∨ name ∈ entries.map (·.1) →
        name ∈ after.tables.map (·.1) := by
  induction entries generalizing before with
  | nil => exact ⟨before, rfl, hbefore, fun name hname => by simpa using hname⟩
  | cons entry entries ih =>
    obtain ⟨⟨table, htable, hread⟩, hrest⟩ := List.forall_mem_cons.mp h
    have hinserted : (before.insert entry.1 table).tables ⊆ snapshot.tables := by
      intro other hother
      rcases mem_insertSorted hother with rfl | hother
      · exact htable
      · exact hbefore hother
    obtain ⟨after, hafter, hsub, hnames⟩ := ih hrest (before.insert entry.1 table) hinserted
    refine ⟨after, ?_, hsub, fun name hname => hnames name ?_⟩
    · rw [List.foldlM_cons, hread]
      exact hafter
    · have hkeys : name ∈ (before.insert entry.1 table).tables.map (·.1) ↔
          name = entry.1 ∨ name ∈ before.tables.map (·.1) := mem_keys_insertSorted
      rw [hkeys]
      simpa [or_assoc, or_left_comm] using hname

theorem nodup_names (snapshot : Snapshot) : (snapshot.tables.map (·.1)).Nodup :=
  List.pairwise_map.mpr (snapshot.sorted.imp fun hlt => String.ne_of_lt hlt)

/-- Tables of one snapshot that have one name are the same. -/
theorem eq_of_mem {snapshot : Snapshot} {entry other : String × SnapshotTable}
    (h : entry ∈ snapshot.tables) (hother : other ∈ snapshot.tables) (hname : entry.1 = other.1) :
    entry = other :=
  List.inj_on_of_nodup_map snapshot.nodup_names h hother hname

/-- A snapshot is given by the tables that are in it. -/
theorem eq_of_subset {snapshot other : Snapshot} (h : snapshot.tables ⊆ other.tables)
    (hother : other.tables ⊆ snapshot.tables) : snapshot = other := by
  have : Std.Irrefl fun a b : String × SnapshotTable => a.1 < b.1 := ⟨fun a => String.lt_irrefl a.1⟩
  have : Std.Antisymm fun a b : String × SnapshotTable => a.1 < b.1 :=
    ⟨fun a b hab hba => absurd (String.lt_trans hab hba) (String.lt_irrefl a.1)⟩
  have htables : snapshot.tables = other.tables :=
    List.Subset.antisymm_of_pairwise snapshot.sorted other.sorted h hother
  obtain ⟨tables, sorted⟩ := snapshot
  obtain ⟨tables', sorted'⟩ := other
  cases htables
  rfl

theorem isPlain_toTree (snapshot : Snapshot) : snapshot.toTree.IsPlain := by
  have hkeys : ((snapshot.tables.map fun entry => (entry.1, entry.2.toTree)).map (·.1)).Nodup := by
    rw [List.map_map]
    exact snapshot.nodup_names
  have htables := Tree.IsPlain.map _ hkeys (List.forall_mem_map.mpr fun entry _ => entry.2.isPlain_toTree)
  exact .map _ (List.nodup_singleton _) fun _ hentry => List.mem_singleton.mp hentry ▸ htables

/-- Snapshots come back. -/
theorem reads_toTree (snapshot : Snapshot) : Tree.Reads ofTree? snapshot.toTree snapshot := by
  intro tree hshows
  obtain ⟨read, -, hrecord, h⟩ := Tree.entries_of_shows hshows
  have htables := h.shown _ List.mem_cons_self
  rw [ofTree?, hrecord, Option.bind_eq_bind, Option.bind_some]
  refine htables.field (fun tables hshows => ?_) nofun
  obtain ⟨entries, hentries, -, h⟩ := Tree.entries_of_shows hshows
  have hread : ∀ entry ∈ entries, ∃ table, (entry.1, table) ∈ snapshot.tables ∧
      SnapshotTable.ofTree? entry.2 = some table := by
    intro entry hentry
    obtain ⟨written, hwritten, hvalue⟩ := h.exists_value hentry
    obtain ⟨⟨name, table⟩, htable, heq⟩ := List.mem_map.mp hwritten
    cases heq
    exact ⟨table, htable, table.reads_toTree entry.2 hvalue⟩
  obtain ⟨after, hafter, hsub, hnames⟩ := snapshot.exists_foldlM_insert hread empty (List.nil_subset _)
  rw [hentries, Option.bind_some, ofEntries?, hafter]
  refine congrArg some (eq_of_subset hsub fun entry hentry => ?_)
  -- every table was written and is no absent value, so it was read
  have hname : entry.1 ∈ entries.map (·.1) := by
    obtain ⟨-, hnull⟩ | ⟨tree, hone, -⟩ := h.shown _ (List.mem_map_of_mem hentry)
    · cases hnull
    · have hmem : (entry.1, tree) ∈ entries :=
        List.mem_of_mem_filter (hone ▸ List.mem_singleton_self (entry.1, tree))
      exact List.mem_map_of_mem hmem
  obtain ⟨other, hother, heq⟩ := List.mem_map.mp (hnames entry.1 (Or.inr hname))
  exact eq_of_mem (hsub hother) hentry heq ▸ hother

end Snapshot

end TableCodegen
