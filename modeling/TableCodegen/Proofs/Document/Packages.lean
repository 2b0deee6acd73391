import TableCodegen.Document.Model
import TableCodegen.Proofs.Catalog.IndexOrder
import TableCodegen.Proofs.Field.View

/-!
# Packages of model documents

A type that is written with the name of a package needs the package imported, and a package that no type names must
not be imported. What a document imports is decided from the types, and how a type is written is decided elsewhere.
Here the two are compared on the written text.

Results:

* `MemberType.package?_toText`: the package of a type is the one that its text names.
* `ModelView.family_of_mem_fields`: the family of the wrappers in a view.
* `ModelDocument.imports_of_members`: the imports of a model document.
-/

namespace TableCodegen

open TableCodegen.Text

/-! ## Specification -/

/-- The path under which a package with the name is imported. -/
def importPath? (name : String) : Option String :=
  [("sql", "database/sql"), ("null", "gopkg.in/guregu/null.v4"), ("time", "time"), ("gorm", "gorm.io/gorm"),
    ("datatypes", "gorm.io/datatypes")].lookup name

/-- The word in front of the dot in a type, behind the star of a pointer. -/
def qualifier? (type : String) : Option String :=
  match (type.toList.dropWhile (· == '*')).splitOn '.' with
  | [package, _] => some (String.ofList package)
  | _ => none

/-- The views of columns that model documents show. -/
inductive ModelView where
  | model
  | storage
  deriving Repr, DecidableEq

/-- The fields of columns in the view. -/
def ModelView.fields (config : GenerationConfig) (columns : List Column) : ModelView → List Field
  | model => buildFields config columns
  | storage => storageFields (buildFields config columns)

/-! ## Packages of types -/

namespace MemberType

variable {type : MemberType}

/-- The package of a type is the one that its text names, and every package that a text names is known. -/
theorem package?_toText (type : MemberType) :
    type.package? = (qualifier? type.toText).bind importPath? ∧
      ∀ name ∈ qualifier? type.toText, (importPath? name).isSome = true := by
  cases type with
  | scalar s | pointer s => cases s <;> decide
  | sqlNull w | gureguNull w => cases w <;> decide
  | unknown => decide

theorem package?_eq_some_iff {path : String} :
    type.package? = some path ↔ ∃ name, qualifier? type.toText = some name ∧ importPath? name = some path := by
  rw [(package?_toText type).1, Option.bind_eq_some_iff]

/-- The package of a wrapper family is that of no other type. -/
theorem wrapper?_of_package? {policy : NullPolicy} {path : String} (hpolicy : policy.package? = some path)
    (h : type.package? = some path) : type.wrapper? = some policy := by
  rw [← hpolicy] at h
  cases policy with
  | plain => cases hpolicy
  | sqlNull | gureguNull =>
    revert h
    cases type with
    | scalar s | pointer s => cases s <;> decide
    | sqlNull w | gureguNull w => cases w <;> decide
    | unknown => decide

/-! ## Wrappers in views -/

theorem wrapper?_stripUnsigned : type.stripUnsigned.wrapper? = type.wrapper? := by
  cases type <;> rfl

theorem wrapper?_toPointer : type.toPointer.wrapper? = type.wrapper? := by
  cases type with
  | scalar s => cases s <;> rfl
  | pointer | sqlNull | gureguNull | unknown => rfl

end MemberType

namespace Field

variable {field : Field} {policy : NullPolicy}

theorem wrapper?_storedType (h : field.storedType.wrapper? = some policy) : field.type.wrapper? = some policy := by
  simp only [storedType] at h
  split_ifs at h
  · cases h
  · cases h
  · cases h
  · rwa [MemberType.wrapper?_stripUnsigned] at h

/-- The storage view makes no wrappers. -/
theorem wrapper?_toStorage (h : field.toStorage.type.wrapper? = some policy) :
    field.type.wrapper? = some policy := by
  simp only [toStorage] at h
  split_ifs at h
  · rw [MemberType.wrapper?_toPointer] at h
    cases h
  · rw [MemberType.wrapper?_toPointer] at h
    exact wrapper?_storedType h
  · cases h
  · exact wrapper?_storedType h

end Field

/-- A view has no wrappers but those of the chosen family. -/
theorem ModelView.family_of_mem_fields {view : ModelView} {config : GenerationConfig} {columns : List Column}
    {field : Field} (hfield : field ∈ view.fields config columns) {policy : NullPolicy}
    (h : field.type.wrapper? = some policy) : policy = config.nullability := by
  cases view with
  | model => exact family_of_mem_buildFields hfield h
  | storage =>
    obtain ⟨source, hsource, rfl⟩ := List.mem_map.mp hfield
    exact family_of_mem_buildFields hsource (Field.wrapper?_toStorage h)

/-! ## Imports -/

theorem mem_packagesOf {fields : List Field} {path : String} :
    path ∈ packagesOf fields ↔ ∃ field ∈ fields, field.type.package? = some path := by
  rw [packagesOf, mem_uniqueStrings, List.mem_mergeSort, List.mem_filterMap]

/-- The imports of a model document. They are strictly ascending. They are the packages that the written types of
the members name, each of which has a path. The package of a wrapper family is among them only under the policy of
that family. -/
theorem ModelDocument.imports_of_members (view : ModelView) (table : Table) (structName : String)
    (config : GenerationConfig) :
    let document := ModelDocument.ofTable table structName (view.fields config table.columns) config
    document.imports.Pairwise (· < ·) ∧
    (∀ path, path ∈ document.imports ↔
      ∃ member ∈ document.members, ∃ name, qualifier? member.type.toText = some name ∧ importPath? name = some path) ∧
    (∀ member ∈ document.members, ∀ name ∈ qualifier? member.type.toText, (importPath? name).isSome = true) ∧
    ∀ policy path, NullPolicy.package? policy = some path → path ∈ document.imports → policy = config.nullability := by
  refine ⟨pairwise_lt_uniqueStrings (pairwise_mergeSort_key id _), fun path => ?_,
    fun member _ => (MemberType.package?_toText member.type).2, fun policy path hpolicy hpath => ?_⟩
  · refine mem_packagesOf.trans ?_
    simp only [MemberType.package?_eq_some_iff, ofTable, List.mem_map, exists_exists_and_eq_and, memberOf]
  · obtain ⟨field, hfield, hpackage⟩ := mem_packagesOf.mp hpath
    exact view.family_of_mem_fields hfield (MemberType.wrapper?_of_package? hpolicy hpackage)

end TableCodegen
