import TableCodegen.Data.Format
import TableCodegen.Proofs.Catalog.Snapshot
import TableCodegen.Proofs.Config.Document
import TableCodegen.Proofs.Data.Json

/-!
# Round trips

Settings and snapshots are written as document trees, and trees as texts of a format. Where reading a text
gives back the tree that was written, reading a value gives back the value that was written. In JSON this is
so for all plain trees; YAML and TOML, which guess types and have no word for some trees, are asked for it
tree by tree.

Results:

* `DataFormat.restores`: reading inverts writing on a tree.
* `DataFormat.restores_json`: so it is in JSON.
* `DataFormat.one_le_depth`: every format admits that the items of a top-level map are read through.
* `stored_values_round_trip`: settings and snapshots come back in every format.
* `yaml_restores_samples`, `toml_restores_samples`, `samples_round_trip`: so do the sample settings and a
  snapshot of notes in YAML and TOML.
-/

namespace TableCodegen

namespace DataFormat

/-- The reader of the format inverts its writer on a tree: what is read shows what was written. -/
def restores (format : DataFormat) (tree : Tree) : Bool :=
  (format.parse? (format.render tree)).any fun document => tree.shows document.tree

theorem restores_json {tree : Tree} (h : tree.IsPlain) : json.restores tree = true :=
  (Option.any_eq_true _ _).mpr ⟨_, Json.parse?_render h, h.shows_self⟩

/-- A document may be read through at least one level down. -/
theorem one_le_depth {format : DataFormat} {text : String} {document : LimitedTree}
    (h : format.parse? text = some document) : 1 ≤ document.limits.depth := by
  cases format with
  | json =>
    rw [parse?, Json.parse?] at h
    obtain ⟨⟨tree, rest⟩, -, h⟩ := Option.bind_eq_some_iff.mp h
    dsimp only at h
    split at h
    · cases h
      show 1 ≤ Json.limits.depth
      decide
    · cases h
  | yaml =>
    have hdepth (anchors : Yaml.Anchors) (node : Yaml.Node) :
        1 ≤ (node.toLimitedTree anchors).limits.depth := by
      show 1 ≤ Yaml.maxDepth - 1
      decide
    rw [parse?, Yaml.parse?] at h
    obtain ⟨tokens, -, h⟩ := Option.bind_eq_some_iff.mp h
    split at h
    · cases h
      exact hdepth _ _
    · obtain ⟨⟨handles, start⟩, -, h⟩ := Option.bind_eq_some_iff.mp h
      dsimp only at h
      split at h
      · cases h
      · obtain ⟨⟨node, rest, scope⟩, -, h⟩ := Option.bind_eq_some_iff.mp h
        dsimp only at h
        split at h
        · cases h
          exact hdepth _ _
        · cases h
  | toml =>
    rw [parse?, Toml.parse?] at h
    obtain ⟨state, -, h⟩ := Option.bind_eq_some_iff.mp h
    cases h
    exact Nat.le_add_left 1 _

/-- Where reading inverts writing on the tree of a value, the value comes back, if its reader reads it from
    whatever shows the tree. JSON gives back every plain tree. -/
theorem decode?_encode_of_reads {α : Type} [Stored α] {format : DataFormat} {value : α}
    (hreads : ∀ limits : Limits, 1 ≤ limits.depth →
      Tree.Reads (Stored.ofTree? limits) (Stored.toTree value) value)
    (hplain : (Stored.toTree value).IsPlain)
    (h : format ≠ json → format.restores (Stored.toTree value) = true) :
    format.decode? (format.encode value) = some value := by
  have hrestores : format.restores (Stored.toTree value) = true := by
    cases format with
    | json => exact restores_json hplain
    | yaml => exact h nofun
    | toml => exact h nofun
  obtain ⟨document, hparse, hshows⟩ := (Option.any_eq_true _ _).mp hrestores
  rw [decode?, encode, hparse]
  exact hreads document.limits (one_le_depth hparse) document.tree hshows

end DataFormat

/-! ## Samples -/

/-- The characters of a text that is all ASCII, one for each byte. -/
def asciiChars (text : String) : List Char :=
  text.toByteArray.data.toList.map fun byte => Char.ofNat byte.toNat

theorem utf8EncodeChar_ofNat :
    ∀ n < 128, String.utf8EncodeChar (Char.ofNat n) = [UInt8.ofNat n] := by
  decide

theorem toList_eq_asciiChars {text : String}
    (h : text.toByteArray.data.toList.all (·.toNat < 128) = true) :
    text.toList = asciiChars text := by
  have hbyte : ∀ byte ∈ text.toByteArray.data.toList,
      String.utf8EncodeChar (Char.ofNat byte.toNat) = [byte] := by
    intro byte hmem
    rw [utf8EncodeChar_ofNat _ (of_decide_eq_true (List.all_eq_true.mp h byte hmem)),
      UInt8.ofNat_toNat]
  have hencode : (asciiChars text).flatMap String.utf8EncodeChar = text.toByteArray.data.toList := by
    rw [asciiChars, List.flatMap_map, List.flatMap_congr hbyte, List.flatMap_singleton']
  have htext : String.ofList (asciiChars text) = text := by
    rw [← String.toByteArray_inj, String.toByteArray_ofList, List.utf8Encode, hencode,
      ByteArray.ext_iff, List.data_toByteArray, Array.toArray_toList]
  exact (congrArg String.toList htext).symm.trans String.toList_ofList

/-- A snapshot of a table with an index, and with texts that only quotes tell from other scalars. -/
def noteSnapshot : Snapshot :=
  Snapshot.empty.insert "note"
    { comment := "notes: all"
      columns := [
        { name := "body", ordinal := 1, default := some "null", nullable := "YES", dataType := "text" }]
      indexes := [{ nonUnique := 1, indexName := "by_body" }] }

-- A text gives its characters one by one, each counted from the start again. For the samples they are
-- taken from the bytes at once.

theorem yaml_restores_samples :
    DataFormat.yaml.restores GenerationConfig.sample.db.toTree = true ∧
    DataFormat.yaml.restores GenerationConfig.sample.toTree = true ∧
    DataFormat.yaml.restores ProjectConfig.sample.api.toTree = true ∧
    DataFormat.yaml.restores ProjectConfig.sample.toTree = true ∧
    DataFormat.yaml.restores noteSnapshot.toTree = true := by
  simp only [DataFormat.restores, DataFormat.parse?, Yaml.parse?, Yaml.tokens?]
  refine ⟨?_, ?_, ?_, ?_, ?_⟩ <;> rw [toList_eq_asciiChars (by decide +kernel)] <;> decide +kernel

theorem toml_restores_samples :
    DataFormat.toml.restores GenerationConfig.sample.db.toTree = true ∧
    DataFormat.toml.restores GenerationConfig.sample.toTree = true ∧
    DataFormat.toml.restores ProjectConfig.sample.api.toTree = true ∧
    DataFormat.toml.restores ProjectConfig.sample.toTree = true ∧
    DataFormat.toml.restores noteSnapshot.toTree = true := by
  simp only [DataFormat.restores, DataFormat.parse?, Toml.parse?]
  refine ⟨?_, ?_, ?_, ?_, ?_⟩ <;> rw [toList_eq_asciiChars (by decide +kernel)] <;> decide +kernel

/-! ## Main result -/

/-- **Round trip.** In each of the three formats, database, model, route and project settings and snapshots
    come back from the text that they are written as. In YAML and in TOML this asks that the reader of the
    format inverts its writer on the tree that stands for the value; in JSON it asks for nothing. -/
theorem stored_values_round_trip (format : DataFormat) :
    (∀ config : DbConfig, (format ≠ .json → format.restores config.toTree = true) →
      format.decode? (format.encode config) = some config) ∧
    (∀ config : GenerationConfig, (format ≠ .json → format.restores config.toTree = true) →
      format.decode? (format.encode config) = some config) ∧
    (∀ config : ApiConfig, (format ≠ .json → format.restores config.toTree = true) →
      format.decode? (format.encode config) = some config) ∧
    (∀ config : ProjectConfig, (format ≠ .json → format.restores config.toTree = true) →
      format.decode? (format.encode config) = some config) ∧
    (∀ snapshot : Snapshot, (format ≠ .json → format.restores snapshot.toTree = true) →
      format.decode? (format.encode snapshot) = some snapshot) :=
  ⟨fun config => DataFormat.decode?_encode_of_reads (fun _ _ => config.reads_toTree)
      config.isPlain_toTree,
    fun config => DataFormat.decode?_encode_of_reads (fun _ hdepth => config.reads_toTree hdepth)
      config.isPlain_toTree,
    fun config => DataFormat.decode?_encode_of_reads (fun _ _ => config.reads_toTree)
      config.isPlain_toTree,
    fun config => DataFormat.decode?_encode_of_reads (fun _ hdepth => config.reads_toTree hdepth)
      config.isPlain_toTree,
    fun snapshot => DataFormat.decode?_encode_of_reads (fun _ _ => snapshot.reads_toTree)
      snapshot.isPlain_toTree⟩

/-- The sample settings, and a snapshot, come back from YAML, and from TOML, which has no word for what is
    absent. -/
theorem samples_round_trip :
    (DataFormat.yaml.decode? (DataFormat.yaml.encode GenerationConfig.sample.db) =
        some GenerationConfig.sample.db ∧
      DataFormat.yaml.decode? (DataFormat.yaml.encode GenerationConfig.sample) =
        some GenerationConfig.sample ∧
      DataFormat.yaml.decode? (DataFormat.yaml.encode ProjectConfig.sample.api) =
        some ProjectConfig.sample.api ∧
      DataFormat.yaml.decode? (DataFormat.yaml.encode ProjectConfig.sample) =
        some ProjectConfig.sample ∧
      DataFormat.yaml.decode? (DataFormat.yaml.encode noteSnapshot) = some noteSnapshot) ∧
    (DataFormat.toml.decode? (DataFormat.toml.encode GenerationConfig.sample.db) =
        some GenerationConfig.sample.db ∧
      DataFormat.toml.decode? (DataFormat.toml.encode GenerationConfig.sample) =
        some GenerationConfig.sample ∧
      DataFormat.toml.decode? (DataFormat.toml.encode ProjectConfig.sample.api) =
        some ProjectConfig.sample.api ∧
      DataFormat.toml.decode? (DataFormat.toml.encode ProjectConfig.sample) =
        some ProjectConfig.sample ∧
      DataFormat.toml.decode? (DataFormat.toml.encode noteSnapshot) = some noteSnapshot) := by
  constructor
  · obtain ⟨hdb, hgeneration, hapi, hproject, hsnapshot⟩ := stored_values_round_trip .yaml
    obtain ⟨rdb, rgeneration, rapi, rproject, rsnapshot⟩ := yaml_restores_samples
    exact ⟨hdb _ fun _ => rdb, hgeneration _ fun _ => rgeneration, hapi _ fun _ => rapi,
      hproject _ fun _ => rproject, hsnapshot _ fun _ => rsnapshot⟩
  · obtain ⟨hdb, hgeneration, hapi, hproject, hsnapshot⟩ := stored_values_round_trip .toml
    obtain ⟨rdb, rgeneration, rapi, rproject, rsnapshot⟩ := toml_restores_samples
    exact ⟨hdb _ fun _ => rdb, hgeneration _ fun _ => rgeneration, hapi _ fun _ => rapi,
      hproject _ fun _ => rproject, hsnapshot _ fun _ => rsnapshot⟩

end TableCodegen
