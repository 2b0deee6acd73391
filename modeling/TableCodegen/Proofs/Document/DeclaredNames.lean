import Mathlib.Data.List.Nodup
import Mathlib.Data.List.Perm.Basic
import TableCodegen.Proofs.Document.Exchange

/-!
# Names in many route documents

The route documents of a service are read together, so that no name may come from two of them. A handler is
named by a verb around the name of the model, and the types of its route by the handler. The only verb that two
actions share is that of reading one row and of reading a list, so that the model of a keyed entity can only
meet another one that it extends by `List`.

Results:

* `RouteAction.handler_eq_append_iff`: when the names of handlers meet.
* `nodup_handlerNames_iff`: when no two handlers of some entities have the same name.
* `nodup_typeNames_iff`: when no two types have the same name.
* `nodup_names_iff`: when no name at all comes twice.
-/

namespace TableCodegen

/-! ## Specification -/

/-- The names of all handlers in the route documents of some entities. -/
def handlerNames (entities : List Entity) : List String :=
  entities.flatMap fun entity => entity.actions.map (·.handler entity.modelName)

/-- The names of all types in the route documents of some entities. -/
def typeNames (entities : List Entity) : List String :=
  entities.flatMap fun entity => entity.modelName :: entity.actions.flatMap fun action =>
    [action.request entity.modelName, action.response entity.modelName]

/-- Models that do not share the name of a handler: they are different, and that of a keyed entity is not another
one with `List` behind it. -/
structure HandlersApart (entities : List Entity) : Prop where
  models : (entities.map (·.modelName)).Nodup
  lists : ∀ entity ∈ entities, entity.id.isSome → ∀ other ∈ entities,
    entity.modelName ≠ other.modelName ++ "List"

/-- Models that do not share the name of a type, either: none is the name of a request or a response. -/
structure TypesApart (entities : List Entity) : Prop extends HandlersApart entities where
  requests : ∀ entity ∈ entities, ∀ name ∈ handlerNames entities, entity.modelName ≠ name ++ "Req"
  responses : ∀ entity ∈ entities, ∀ name ∈ handlerNames entities, entity.modelName ≠ name ++ "Resp"

/-- Models that name no handler like a type with this ending: none is another one with the ending behind it, and
that of a keyed entity is not another one with `List` and the ending behind it. -/
structure EndsApart (entities : List Entity) (ending : String) : Prop where
  models : ∀ entity ∈ entities, ∀ other ∈ entities, entity.modelName ≠ other.modelName ++ ending
  lists : ∀ entity ∈ entities, entity.id.isSome → ∀ other ∈ entities,
    entity.modelName ≠ other.modelName ++ "List" ++ ending

/-- Models that do not share any name, be it of a type or of a handler. -/
structure NamesApart (entities : List Entity) : Prop extends TypesApart entities where
  handlers : ∀ entity ∈ entities, entity.modelName ∉ handlerNames entities
  requestEnds : EndsApart entities "Req"
  responseEnds : EndsApart entities "Resp"

instance (entities : List Entity) : Decidable (HandlersApart entities) :=
  decidable_of_iff ((entities.map (·.modelName)).Nodup ∧ ∀ entity ∈ entities, entity.id.isSome →
      ∀ other ∈ entities, entity.modelName ≠ other.modelName ++ "List")
    ⟨fun h => ⟨h.1, h.2⟩, fun h => ⟨h.models, h.lists⟩⟩

instance (entities : List Entity) : Decidable (TypesApart entities) :=
  decidable_of_iff (HandlersApart entities ∧
      (∀ entity ∈ entities, ∀ name ∈ handlerNames entities, entity.modelName ≠ name ++ "Req") ∧
      ∀ entity ∈ entities, ∀ name ∈ handlerNames entities, entity.modelName ≠ name ++ "Resp")
    ⟨fun h => ⟨h.1, h.2.1, h.2.2⟩, fun h => ⟨h.toHandlersApart, h.requests, h.responses⟩⟩

instance (entities : List Entity) (ending : String) : Decidable (EndsApart entities ending) :=
  decidable_of_iff
    ((∀ entity ∈ entities, ∀ other ∈ entities, entity.modelName ≠ other.modelName ++ ending) ∧
      ∀ entity ∈ entities, entity.id.isSome → ∀ other ∈ entities,
        entity.modelName ≠ other.modelName ++ "List" ++ ending)
    ⟨fun h => ⟨h.1, h.2⟩, fun h => ⟨h.models, h.lists⟩⟩

instance (entities : List Entity) : Decidable (NamesApart entities) :=
  decidable_of_iff (TypesApart entities ∧
      (∀ entity ∈ entities, entity.modelName ∉ handlerNames entities) ∧
      EndsApart entities "Req" ∧ EndsApart entities "Resp")
    ⟨fun h => ⟨h.1, h.2.1, h.2.2.1, h.2.2.2⟩,
      fun h => ⟨h.toTypesApart, h.handlers, h.requestEnds, h.responseEnds⟩⟩

/-! ## Handlers -/

namespace RouteAction

/-- What the name of a handler starts with. -/
def verb : RouteAction → String
  | create => "Create"
  | update => "Update"
  | batchUpdate => "BatchUpdate"
  | delete => "Delete"
  | batchDelete => "BatchDelete"
  | get => "Get"
  | list => "Get"
  | filter => "Filter"

/-- What stands behind the model in the name of a handler. -/
def ending (action : RouteAction) : String :=
  if action = list then "List" else ""

theorem handler_eq (action : RouteAction) (model : String) :
    action.handler model = action.verb ++ (model ++ action.ending) := by
  cases action <;> simp [handler, verb, ending, String.append_assoc]

theorem verb_eq_iff {a b : RouteAction} :
    a.verb = b.verb ↔ a = b ∨ (a = get ∧ b = list) ∨ (a = list ∧ b = get) := by
  cases a <;> cases b <;> decide

/-- No verb starts another one. -/
theorem verb_eq_of_isPrefix {a b : RouteAction} : a.verb.toList <+: b.verb.toList → a.verb = b.verb := by
  cases a <;> cases b <;> decide

theorem verb_append_inj {a b : RouteAction} {u v : String} :
    a.verb ++ u = b.verb ++ v ↔ a.verb = b.verb ∧ u = v := by
  constructor
  · intro h
    have hverb : a.verb = b.verb := by
      have hlist := congrArg String.toList h
      rw [String.toList_append, String.toList_append] at hlist
      rcases List.prefix_or_prefix_of_prefix (List.prefix_append _ u.toList) ⟨v.toList, hlist.symm⟩ with hab | hba
      · exact verb_eq_of_isPrefix hab
      · exact (verb_eq_of_isPrefix hba).symm
    rw [hverb, String.append_right_inj] at h
    exact ⟨hverb, h⟩
  · rintro ⟨hverb, rfl⟩
    rw [hverb]

theorem handler_eq_append_iff {a b : RouteAction} {model other ending : String} :
    a.handler model = b.handler other ++ ending ↔
      a.verb = b.verb ∧ model ++ a.ending = other ++ b.ending ++ ending := by
  rw [handler_eq, handler_eq, String.append_assoc, verb_append_inj]

/-- The actions of one model have different handlers. -/
theorem handler_inj {a b : RouteAction} {model : String} (h : a.handler model = b.handler model) : a = b := by
  rw [← String.append_empty (s := b.handler model), handler_eq_append_iff, String.append_empty,
    String.append_right_inj, verb_eq_iff] at h
  obtain ⟨rfl | ⟨rfl, rfl⟩ | ⟨rfl, rfl⟩, hending⟩ := h
  · rfl
  · exact absurd hending (by decide)
  · exact absurd hending (by decide)

end RouteAction

namespace Entity

theorem get_mem_actions {entity : Entity} : RouteAction.get ∈ entity.actions ↔ entity.id.isSome := by
  unfold actions
  cases entity.id.isSome <;> decide

theorem nodup_actions (entity : Entity) : entity.actions.Nodup := by
  unfold actions
  cases entity.id.isSome <;> decide

theorem create_mem_actions (entity : Entity) : RouteAction.create ∈ entity.actions := by
  simp [actions]

theorem list_mem_actions (entity : Entity) : RouteAction.list ∈ entity.actions := by
  simp [actions]

/-- When no handler of an entity is named by the handler of another one with an ending. -/
theorem forall_handler_ne_iff (entity other : Entity) (ending : String) :
    (∀ a ∈ entity.actions, ∀ b ∈ other.actions,
        a.handler entity.modelName ≠ b.handler other.modelName ++ ending) ↔
      (entity.modelName ≠ other.modelName ++ ending ∧
        entity.modelName ++ "List" ≠ other.modelName ++ "List" ++ ending) ∧
      (entity.id.isSome → entity.modelName ≠ other.modelName ++ "List" ++ ending) ∧
      (other.id.isSome → entity.modelName ++ "List" ≠ other.modelName ++ ending) := by
  constructor
  · intro h
    -- The four pairs of actions that share a verb, where reading one row needs a key.
    have hpair : ∀ {a b : RouteAction}, a ∈ entity.actions → b ∈ other.actions → a.verb = b.verb →
        entity.modelName ++ a.ending ≠ other.modelName ++ b.ending ++ ending :=
      fun ha hb hverb heq => h _ ha _ hb (RouteAction.handler_eq_append_iff.mpr ⟨hverb, heq⟩)
    have hcreate := hpair entity.create_mem_actions other.create_mem_actions rfl
    have hlist := hpair entity.list_mem_actions other.list_mem_actions rfl
    refine ⟨⟨?_, hlist⟩, fun hkeyed => ?_, fun hkeyed => ?_⟩
    · simpa [RouteAction.ending] using hcreate
    · simpa [RouteAction.ending] using hpair (get_mem_actions.mpr hkeyed) other.list_mem_actions rfl
    · simpa [RouteAction.ending] using hpair entity.list_mem_actions (get_mem_actions.mpr hkeyed) rfl
  · rintro ⟨⟨hplain, hlist⟩, hentity, hother⟩ a ha b hb h
    obtain ⟨hverb, h⟩ := RouteAction.handler_eq_append_iff.mp h
    rcases RouteAction.verb_eq_iff.mp hverb with rfl | ⟨rfl, rfl⟩ | ⟨rfl, rfl⟩
    · by_cases hread : a = .list
      · rw [RouteAction.ending, if_pos hread] at h
        exact hlist h
      · rw [RouteAction.ending, if_neg hread, String.append_empty, String.append_empty] at h
        exact hplain h
    · exact hentity (get_mem_actions.mp ha) (by simpa [RouteAction.ending] using h)
    · exact hother (get_mem_actions.mp hb) (by simpa [RouteAction.ending] using h)

/-- When no handler of an entity is a handler of another one. -/
theorem disjoint_handlers_iff {entity other : Entity} :
    (entity.actions.map (·.handler entity.modelName)).Disjoint (other.actions.map (·.handler other.modelName)) ↔
      entity.modelName ≠ other.modelName ∧
      (entity.id.isSome → entity.modelName ≠ other.modelName ++ "List") ∧
      (other.id.isSome → other.modelName ≠ entity.modelName ++ "List") := by
  have hpairs := forall_handler_ne_iff entity other ""
  simp only [String.append_empty, ne_eq, String.append_left_inj, and_self] at hpairs
  rw [List.disjoint_iff_ne, List.forall_mem_map]
  simp only [List.forall_mem_map, ne_eq]
  rw [hpairs, eq_comm (a := entity.modelName ++ "List")]

end Entity

/-! ## Handlers of many entities -/

/-- When no two handlers have the same name. -/
theorem nodup_handlerNames_iff {entities : List Entity} :
    (handlerNames entities).Nodup ↔ HandlersApart entities := by
  have hinner : ∀ entity ∈ entities, (entity.actions.map (·.handler entity.modelName)).Nodup :=
    fun entity _ => List.Nodup.map_on (fun _ _ _ _ h => RouteAction.handler_inj h) entity.nodup_actions
  -- No text is itself with `List` behind it, so that an entity may stand on both sides.
  have hself : ∀ entity ∈ entities, entity.id.isSome → entity.modelName ≠ entity.modelName ++ "List" := by
    intro entity _ _ h
    have hlength := congrArg String.length h
    simp at hlength
  have hmodels : (entities.map (·.modelName)).Nodup ↔
      entities.Pairwise fun entity other => entity.modelName ≠ other.modelName := List.pairwise_map
  rw [handlerNames, List.nodup_flatMap, and_iff_right hinner]
  unfold Function.onFun
  simp only [Entity.disjoint_handlers_iff]
  rw [List.pairwise_and_iff, List.pairwise_and_iff, ← hmodels]
  constructor
  · rintro ⟨hnodup, hlists, hflipped⟩
    refine ⟨hnodup, fun entity hentity hkeyed other hother => ?_⟩
    exact hlists.forall_of_forall_of_flip hself hflipped hentity hother hkeyed
  · rintro ⟨hnodup, hlists⟩
    refine ⟨hnodup, ?_, ?_⟩
    · exact List.pairwise_of_forall_mem_list fun entity hentity other hother hkeyed =>
        hlists entity hentity hkeyed other hother
    · exact List.pairwise_of_forall_mem_list fun entity hentity other hother hkeyed =>
        hlists other hother hkeyed entity hentity

/-! ## Types of many entities -/

/-- The names of all types, sorted by kind. -/
theorem perm_typeNames (entities : List Entity) : (typeNames entities).Perm
    (entities.map (·.modelName) ++
      ((handlerNames entities).map (· ++ "Req") ++ (handlerNames entities).map (· ++ "Resp"))) := by
  have hroutes : entities.flatMap (fun entity => entity.actions.flatMap fun action =>
      [action.request entity.modelName, action.response entity.modelName]) =
      (handlerNames entities).flatMap fun name => [name ++ "Req", name ++ "Resp"] := by
    rw [handlerNames, List.flatMap_assoc]
    refine List.flatMap_congr fun entity _ => ?_
    rw [List.flatMap_map]
    rfl
  refine (List.map_append_flatMap_perm entities _ _).symm.trans (List.Perm.append_left _ ?_)
  rw [hroutes]
  refine (List.map_append_flatMap_perm (handlerNames entities) (· ++ "Req") _).symm.trans ?_
  exact List.Perm.append_left _ (List.Perm.of_eq (List.flatMap_pure_eq_map _ _))

/-- The last characters tell the endings of names apart. -/
theorem append_ne_append {u v a b : String} {c d : Char} (ha : a.toList.getLast? = some c)
    (hb : b.toList.getLast? = some d) (hcd : c ≠ d) : u ++ a ≠ v ++ b := by
  intro h
  have hlast := congrArg (fun text : String => text.toList.getLast?) h
  simp only [String.toList_append, List.getLast?_append, ha, hb, Option.some_or, Option.some.injEq] at hlast
  exact hcd hlast

theorem nodup_map_append {names : List String} {ending : String} :
    (names.map (· ++ ending)).Nodup ↔ names.Nodup :=
  List.nodup_map_iff fun _ _ h => (String.append_left_inj ending).mp h

/-- When no two types have the same name. -/
theorem nodup_typeNames_iff {entities : List Entity} : (typeNames entities).Nodup ↔ TypesApart entities := by
  have hends : ∀ a ∈ (handlerNames entities).map (· ++ "Req"), ∀ b ∈ (handlerNames entities).map (· ++ "Resp"),
      a ≠ b := by
    simp only [List.forall_mem_map]
    intro name _ other _
    exact append_ne_append (c := 'q') (d := 'p') (by decide) (by decide) (by decide)
  rw [(perm_typeNames entities).nodup_iff, List.nodup_append, List.nodup_append, nodup_map_append,
    nodup_map_append, and_iff_left hends, and_self, nodup_handlerNames_iff]
  simp only [List.forall_mem_append, List.forall_mem_map]
  constructor
  · rintro ⟨-, hhandlers, happart⟩
    exact ⟨hhandlers, fun entity hentity => (happart entity hentity).1,
      fun entity hentity => (happart entity hentity).2⟩
  · intro h
    exact ⟨h.models, h.toHandlersApart,
      fun entity hentity => ⟨h.requests entity hentity, h.responses entity hentity⟩⟩

/-! ## All names -/

/-- When no handler is named like a request or a response. -/
theorem forall_handlerNames_ne_iff {entities : List Entity} {ending : String} {c : Char}
    (hending : ending.toList.getLast? = some c) (hc : c ≠ 't') :
    (∀ name ∈ handlerNames entities, ∀ other ∈ handlerNames entities, name ≠ other ++ ending) ↔
      EndsApart entities ending := by
  -- The ending is none of the lists' handlers.
  have hlist : ∀ u v : String, u ++ "List" ≠ v ++ ending := fun u v =>
    append_ne_append (c := 't') (by decide) hending hc.symm
  have hpairs : (∀ name ∈ handlerNames entities, ∀ other ∈ handlerNames entities, name ≠ other ++ ending) ↔
      ∀ entity ∈ entities, ∀ other ∈ entities, ∀ a ∈ entity.actions, ∀ b ∈ other.actions,
        a.handler entity.modelName ≠ b.handler other.modelName ++ ending := by
    simp only [handlerNames, List.forall_mem_flatMap, List.forall_mem_map]
    grind
  rw [hpairs]
  simp only [Entity.forall_handler_ne_iff, hlist, ne_eq, not_false_eq_true, and_true, implies_true]
  constructor
  · intro h
    exact ⟨fun entity hentity other hother => (h entity hentity other hother).1,
      fun entity hentity hkeyed other hother => (h entity hentity other hother).2 hkeyed⟩
  · intro h entity hentity other hother
    exact ⟨h.models entity hentity other hother, fun hkeyed => h.lists entity hentity hkeyed other hother⟩

/-- When no name comes twice, be it of a type or of a handler. -/
theorem nodup_names_iff {entities : List Entity} :
    (typeNames entities ++ handlerNames entities).Nodup ↔ NamesApart entities := by
  have hmem : (∀ a ∈ typeNames entities, ∀ b ∈ handlerNames entities, a ≠ b) ↔
      (∀ entity ∈ entities, entity.modelName ∉ handlerNames entities) ∧
        EndsApart entities "Req" ∧ EndsApart entities "Resp" := by
    rw [← forall_handlerNames_ne_iff (c := 'q') (by decide) (by decide),
      ← forall_handlerNames_ne_iff (c := 'p') (by decide) (by decide)]
    simp only [(perm_typeNames entities).mem_iff, List.forall_mem_append, List.forall_mem_map]
    grind
  rw [List.nodup_append, nodup_typeNames_iff, nodup_handlerNames_iff, hmem]
  constructor
  · rintro ⟨htypes, -, hhandlers, hrequests, hresponses⟩
    exact ⟨htypes, hhandlers, hrequests, hresponses⟩
  · intro h
    exact ⟨h.toTypesApart, h.toHandlersApart, h.handlers, h.requestEnds, h.responseEnds⟩

end TableCodegen
