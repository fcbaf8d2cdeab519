import FlowSpec.Document.Declaration
import FlowSpec.Proofs.Scope.Validity
import FlowSpec.Proofs.Text.Union
import FlowSpec.Proofs.Wit.Names
import FlowSpec.Wit.Generate

/-!
What the identifiers of a description stand for. Definitions, references and use clauses are written
by different functions, each of which makes identifiers out of names on its own. For a valid scope
they agree: whatever an interface mentions is built in, defined or used there, and what is used from
the shared interface is defined in it. The one exception is a keyed state whose normal name is not
normal itself. Its definitions are made from the normal name, so that references to it go astray;
this takes a character outside ASCII.
-/

set_option autoImplicit false

namespace FlowSpec.Wit

open Outcome

/-! ### Identifiers -/

/-- Types that need no definition. -/
def builtinNames : List String :=
  ["bool", "s8", "s16", "s32", "s64", "u8", "u16", "u32", "u64", "f32", "f64", "char", "string"]

def TypeExpr.identifiers : TypeExpr → List String
  | builtin kind => [kind.name]
  | name identifier => [identifier]
  | option inner => inner.identifiers
  | list item => item.identifiers
  | pair first second => first.identifiers ++ second.identifiers

def Body.identifiers : Body → List String
  | synonym target => target.identifiers
  | record fields => fields.flatMap fun field ↦ field.type.identifiers
  | variant cases => cases.flatMap fun case ↦ case.payload.toList.flatMap TypeExpr.identifiers

/-- The identifiers in a function's parameters and in its result, which can be an error text. -/
def Func.identifiers (func : Func) : List String :=
  func.params.flatMap (fun param ↦ param.type.identifiers)
    ++ func.result.toList.flatMap TypeExpr.identifiers ++ ["string"]

namespace Interface

/-- The identifiers of types that occur in definitions and in functions. -/
def mentioned (interface : Interface) : List String :=
  interface.types.flatMap (fun definition ↦ definition.body.identifiers)
    ++ interface.funcs.flatMap Func.identifiers

/-- The identifiers that are defined or used. -/
def bound (interface : Interface) : List String :=
  interface.types.map TypeDef.name ++ interface.uses.flatMap Use.items

end Interface

namespace Description

/-- The identifiers that the shared interface defines. -/
def sharedNames (description : Description) : List String :=
  (description.interfaces.filter fun interface ↦ interface.name = typesName).flatMap fun interface ↦
    interface.types.map TypeDef.name

/-- Every identifier stands for something, with the given exceptions. -/
structure ClosedExcept (description : Description) (exempt : String → Prop) : Prop where
  mentioned : ∀ interface ∈ description.interfaces, ∀ id ∈ interface.mentioned,
    id ∈ builtinNames ∨ id ∈ interface.bound ∨ exempt id
  used : ∀ interface ∈ description.interfaces, ∀ use ∈ interface.uses, use.target = typesName →
    ∀ id ∈ use.items, id ∈ description.sharedNames ∨ exempt id

theorem ClosedExcept.mono {description : Description} {exempt others : String → Prop}
    (h : description.ClosedExcept exempt) (hexempt : ∀ id, exempt id → others id) :
    description.ClosedExcept others where
  mentioned interface hinterface id hid :=
    (h.mentioned interface hinterface id hid).imp_right (.imp_right (hexempt id))
  used interface hinterface use huse htarget id hid :=
    (h.used interface hinterface use huse htarget id hid).imp_right (hexempt id)

end Description

/-! ### References -/

variable {name : String} {type : NamedType} {step : Step}

theorem mem_builtinNames {kind : Primitive} (h : kind ≠ .bytes) : kind.name ∈ builtinNames := by
  cases kind with
  | bytes => exact absurd rfl h
  | _ => decide

theorem eq_bytes_of_ofName? (h : Primitive.ofName? name = some .bytes) : name = "bytes" := by
  have hspelled : ∀ spelling ∈ Primitive.spellings, spelling.2 = .bytes → spelling.1 = "bytes" := by
    decide
  obtain ⟨before, after, heq, -⟩ := List.lookup_eq_some_iff.mp h
  exact hspelled (name, .bytes) (by simp [heq]) rfl

/-- A name is referred to as a built-in type, or by its identifier and then it is shared. -/
theorem mem_identifiers_typeRef {id : String} (hname : name ≠ "")
    (h : id ∈ (typeRef name).identifiers) :
    id ∈ builtinNames ∨ id = identifier name ∧ Primitive.isSharedName name := by
  unfold typeRef at h
  split_ifs at h
  · obtain rfl : id = "s64" := by simpa [TypeExpr.identifiers, Primitive.name] using h
    exact .inl (by decide)
  · split at h
    next hbytes =>
      rw [eq_bytes_of_ofName? hbytes] at h ⊢
      exact .inr ⟨by simpa [TypeExpr.identifiers] using h, rfl⟩
    next hnone =>
      have hforeign : name ∉ Primitive.nativeNames := by
        intro hnative
        simpa [hnone] using Primitive.isSome_ofName?_of_native hnative
      exact .inr ⟨by simpa [TypeExpr.identifiers] using h,
        by simp [Primitive.isSharedName, Primitive.isNativeName, hname, hforeign]⟩
    next kind hbytes hkind =>
      obtain rfl : id = kind.name := by simpa [TypeExpr.identifiers] using h
      exact .inl (mem_builtinNames hbytes)

/-- A reference finds a type under its own spelling or under the one with underscores, which have
one identifier. -/
theorem identifier_of_lookup? {scope : Scope} {reference : String}
    (h : scope.lookup? reference = some type) : identifier reference = identifier type.name := by
  rcases Option.or_eq_some_iff.mp (Option.orElse_eq_or.symm.trans h) with hexact | ⟨-, hspelled⟩
  · have hname : type.name = reference := by simpa using List.find?_some hexact
    rw [hname]
  · have hname : type.name = Text.replaceChar '-' '_' reference := by
      simpa using List.find?_some hspelled
    rw [hname, identifier_replaceChar]

/-- The type of a column is built in. -/
theorem mem_builtinNames_of_mem_columnTypes {id : String} (hname : name ∈ Document.columnTypes)
    (h : id ∈ (typeRef name).identifiers) : id ∈ builtinNames := by
  have hall : ∀ name ∈ Document.columnTypes, ∀ id ∈ (typeRef name).identifiers,
      id ∈ builtinNames := by decide
  exact hall name hname id h

/-! ### Definitions -/

/-- The identifier of a keyed state that is defined under another one. -/
def Displaced (scope : Scope) (id : String) : Prop :=
  ∃ type ∈ scope.types, (∃ state, type.shape = .keyedState state) ∧ identifier type.name = id ∧
    identifier (normalName type.name) ≠ id

theorem Displaced.exists_nonascii {scope : Scope} {id : String} (h : Displaced scope id) :
    ∃ type ∈ scope.types, identifier type.name = id ∧ ∃ c ∈ type.name.toList, 128 ≤ c.toNat := by
  obtain ⟨type, htype, -, hid, hne⟩ := h
  refine ⟨type, htype, hid, ?_⟩
  by_contra! hascii
  have hnormal : normalName (normalName type.name) = normalName type.name :=
    normalName_normalName fun c hc ↦ isSettled_of_ascii (hascii c hc)
  exact hne ((identifier_congr hnormal).trans hid)

/-- Unless it stands for nothing, a type is defined under its identifier, or under that of its
normal name. -/
theorem mem_typeDefs_of_shape (h : type.shape ≠ .null) :
    identifier type.name ∈ (typeDefs type).map TypeDef.name ∨
      (∃ state, type.shape = .keyedState state) ∧
      identifier (normalName type.name) ∈ (typeDefs type).map TypeDef.name := by
  obtain ⟨name, shape, _⟩ := type
  cases shape with
  | null => exact absurd rfl h
  | primitive kind => cases kind <;> exact .inl (by simp [typeDefs])
  | keyedState state => exact .inr ⟨⟨state, rfl⟩, by simp [typeDefs, keyedStateDefs]⟩
  | _ => exact .inl (by simp [typeDefs])

/-- Where an identifier in the definitions behind a type comes from. -/
inductive Provenance (type : NamedType) (id : String) : Prop
  | builtin (h : id ∈ builtinNames)
  | neighbour (h : id ∈ (typeDefs type).map TypeDef.name)
  | table (h : id = tableHandle) (huses : ∃ definition ∈ typeDefs type, usesTables definition)
  | reference {name : String} (hname : name ∈ type.shape.references)
      (h : id ∈ (typeRef name).identifiers)
  | column {column : Column} (hcolumn : column ∈ type.shape.columns)
      (h : id ∈ (typeRef column.type).identifiers)

theorem exists_column_of_rowRecord {columns : List Column} {id : String}
    (h : id ∈ (rowRecord columns).identifiers) :
    ∃ column ∈ columns, id ∈ (typeRef column.type).identifiers := by
  simpa [rowRecord, Body.identifiers] using h

theorem exists_field_of_objectRecord {fields : List Field} {id : String}
    (h : id ∈ (objectRecord fields).identifiers) :
    ∃ field ∈ fields, id ∈ (typeRef field.type).identifiers := by
  obtain ⟨param, hparam, h⟩ := List.mem_flatMap.mp h
  obtain ⟨field, hfield, rfl⟩ := List.mem_map.mp hparam
  refine ⟨field, hfield, ?_⟩
  cases hoptional : field.isOptional <;> simpa [hoptional, TypeExpr.identifiers] using h

theorem exists_payload_of_enumVariant {variants : List Variant} {id : String}
    (h : id ∈ (enumVariant variants).identifiers) :
    ∃ name ∈ variants.filterMap Variant.payload, id ∈ (typeRef name).identifiers := by
  obtain ⟨case, hcase, h⟩ := List.mem_flatMap.mp h
  obtain ⟨variant, hvariant, rfl⟩ := List.mem_map.mp hcase
  obtain ⟨expr, hexpr, h⟩ := List.mem_flatMap.mp h
  obtain ⟨name, hname, rfl⟩ := Option.map_eq_some_iff.mp (Option.mem_toList.mp hexpr)
  exact ⟨name, List.mem_filterMap.mpr ⟨variant, hvariant, hname⟩, h⟩

theorem provenance_of_keyedState {state : KeyedState} {origin : Origin} {definition : TypeDef}
    {id : String} (hdefinition : definition ∈ keyedStateDefs (normalName name) state)
    (h : id ∈ definition.body.identifiers) : Provenance ⟨name, .keyedState state, origin⟩ id := by
  obtain ⟨key, value⟩ := state
  have hkey : key ∈ (Shape.keyedState ⟨key, value⟩).references := by
    cases value <;> exact List.mem_cons_self
  -- An entry is made of the key and the definition of its value, whatever the value is.
  have hentry (hid : id ∈ (typeRef key).identifiers ++
        [identifier (normalName name ++ "-item-value")]) :
      Provenance ⟨name, .keyedState ⟨key, value⟩, origin⟩ id := by
    rcases List.mem_append.mp hid with hid | hid
    · exact .reference hkey hid
    · rw [List.mem_singleton] at hid
      exact .neighbour (by simp [hid, typeDefs, keyedStateDefs])
  cases value with
  | u32 =>
    simp only [keyedStateDefs, List.mem_cons, List.not_mem_nil, or_false] at hdefinition
    rcases hdefinition with rfl | rfl | rfl
    · obtain rfl := List.mem_singleton.mp h
      exact .builtin (by decide)
    · have hid : id = identifier (normalName name ++ "-item") := List.mem_singleton.mp h
      exact .neighbour (by simp [hid, typeDefs, keyedStateDefs])
    · exact hentry h
  | row columns =>
    simp only [keyedStateDefs, List.mem_cons, List.not_mem_nil, or_false] at hdefinition
    rcases hdefinition with rfl | rfl | rfl
    · obtain ⟨column, hcolumn, h⟩ := exists_column_of_rowRecord h
      exact .column hcolumn h
    · obtain rfl := List.mem_singleton.mp h
      exact .table rfl ⟨_, List.mem_cons_of_mem _ List.mem_cons_self, by simp [usesTables]⟩
    · exact hentry h
  | unresolved target =>
    simp only [keyedStateDefs, List.mem_cons, List.not_mem_nil, or_false] at hdefinition
    rcases hdefinition with rfl | rfl | rfl
    · exact .reference (List.mem_cons_of_mem _ List.mem_cons_self) h
    · exact .reference (List.mem_cons_of_mem _ List.mem_cons_self) h
    · exact hentry h

theorem provenance {definition : TypeDef} {id : String}
    (hdefinition : definition ∈ typeDefs type) (h : id ∈ definition.body.identifiers) :
    Provenance type id := by
  obtain ⟨name, shape, origin⟩ := type
  cases shape with
  | null => cases hdefinition
  | keyedState state => exact provenance_of_keyedState hdefinition h
  | primitive kind =>
    refine .builtin ?_
    cases kind <;> obtain rfl := List.mem_singleton.mp hdefinition <;> obtain rfl :=
      List.mem_singleton.mp h <;> decide
  | named | list | option =>
    obtain rfl := List.mem_singleton.mp hdefinition
    exact .reference (List.mem_singleton_self _) h
  | keyValue key value =>
    obtain rfl := List.mem_singleton.mp hdefinition
    rcases List.mem_append.mp h with h | h
    · exact .reference List.mem_cons_self h
    · exact .reference (List.mem_cons_of_mem _ List.mem_cons_self) h
  | object fields =>
    obtain rfl := List.mem_singleton.mp hdefinition
    obtain ⟨field, hfield, h⟩ := exists_field_of_objectRecord h
    exact .reference (List.mem_map_of_mem hfield) h
  | row columns =>
    obtain rfl := List.mem_singleton.mp hdefinition
    obtain ⟨column, hcolumn, h⟩ := exists_column_of_rowRecord h
    exact .column hcolumn h
  | enumeration variants =>
    obtain rfl := List.mem_singleton.mp hdefinition
    obtain ⟨name, hname, h⟩ := exists_payload_of_enumVariant h
    exact .reference hname h

/-! ### The shared interface -/

/-- A scope as it passes validation, if every type stands for something and columns are read from a
document. -/
structure Presentable (scope : Scope) : Prop where
  valid : scope.problems = []
  notNull : ∀ type ∈ scope.types, type.shape ≠ .null
  columns : ∀ type ∈ scope.types, ∀ column ∈ type.shape.columns, column.type ∈ Document.columnTypes

/-- The identifiers that the shared interface of a scope defines. -/
def definedNames (scope : Scope) : List String :=
  "bytes" :: (scope.types.flatMap typeDefs).map TypeDef.name

variable {scope : Scope} {interface : Interface} {names : List String} {id : String}

theorem mem_definedNames (htype : type ∈ scope.types)
    (h : id ∈ (typeDefs type).map TypeDef.name) : id ∈ definedNames scope := by
  obtain ⟨definition, hdefinition, rfl⟩ := List.mem_map.mp h
  exact List.mem_cons_of_mem _
    (List.mem_map_of_mem (List.mem_flatMap.mpr ⟨type, htype, hdefinition⟩))

/-- What is in scope and shared is defined under its identifier, whichever spelling finds it. -/
theorem Presentable.defined (h : Presentable scope) (hname : scope.contains name)
    (hshared : Primitive.isSharedName name) :
    identifier name ∈ definedNames scope ∨ Displaced scope (identifier name) := by
  by_cases hbytes : name = "bytes"
  · subst hbytes
    exact .inl List.mem_cons_self
  have hforeign : Primitive.nativeNames.contains name = false := by
    by_contra hnative
    rw [Bool.not_eq_false, List.contains_iff_mem] at hnative
    simp [Primitive.isSharedName, Primitive.isNativeName, hbytes, hnative] at hshared
  rw [Scope.contains, hforeign, Bool.false_or] at hname
  obtain ⟨type, hfound⟩ := Option.isSome_iff_exists.mp hname
  have htype : type ∈ scope.types := mem_of_lookupType hfound
  have hid : identifier type.name = identifier name := (identifier_of_lookup? hfound).symm
  rcases mem_typeDefs_of_shape (h.notNull type htype) with hmem | ⟨hstate, hmem⟩
  · exact .inl (hid ▸ mem_definedNames htype hmem)
  · by_cases hnormal : identifier (normalName type.name) = identifier name
    · exact .inl (hnormal ▸ mem_definedNames htype hmem)
    · exact .inr ⟨type, htype, hstate, hid, hnormal⟩

theorem bound_of_typesInterface (h : typesInterface scope = .ok interface) :
    interface.name = typesName ∧
      interface.types.map TypeDef.name = definedNames scope ∧ ∀ use ∈ interface.uses,
        use.target ≠ typesName := by
  obtain ⟨-, -, h⟩ := bind_eq_ok_iff.mp h
  cases h
  refine ⟨rfl, rfl, fun use huse ↦ ?_⟩
  dsimp only at huse
  split_ifs at huse
  · obtain rfl := List.mem_singleton.mp huse
    decide
  · cases huse

theorem mem_bound_of_usesTables (h : typesInterface scope = .ok interface)
    (htype : type ∈ scope.types) (huses : ∃ definition ∈ typeDefs type, usesTables definition) :
    tableHandle ∈ interface.bound := by
  obtain ⟨-, -, h⟩ := bind_eq_ok_iff.mp h
  cases h
  obtain ⟨definition, hdefinition, huses⟩ := huses
  have hany : (scope.types.flatMap typeDefs).any usesTables :=
    List.any_eq_true.mpr ⟨definition, List.mem_flatMap.mpr ⟨type, htype, hdefinition⟩, huses⟩
  simp only [Interface.bound, hany, if_true]
  simp

theorem mentioned_of_typesInterface (hscope : Presentable scope)
    (h : typesInterface scope = .ok interface) (hid : id ∈ interface.mentioned) :
    id ∈ builtinNames ∨ id ∈ interface.bound ∨ Displaced scope id := by
  have hbound {id : String} (hid : id ∈ definedNames scope) : id ∈ interface.bound :=
    List.mem_append_left _ ((bound_of_typesInterface h).2.1 ▸ hid)
  have hsource : id ∈ builtinNames ∨ ∃ type ∈ scope.types, Provenance type id := by
    obtain ⟨-, -, h⟩ := bind_eq_ok_iff.mp h
    cases h
    simp only [Interface.mentioned, List.flatMap_cons, List.flatMap_nil, List.append_nil,
      List.mem_append, List.mem_flatMap] at hid
    rcases hid with hid | ⟨definition, ⟨type, htype, hdefinition⟩, hid⟩
    · obtain rfl := List.mem_singleton.mp hid
      exact .inl (by decide)
    · exact .inr ⟨type, htype, provenance hdefinition hid⟩
  rcases hsource with hbuiltin | ⟨type, htype, hprovenance⟩
  · exact .inl hbuiltin
  have hreferences :=
    (Scope.silent_of_checkShape (Scope.checkShape_of_problems hscope.valid htype)).1
  cases hprovenance with
  | builtin hbuiltin => exact .inl hbuiltin
  | neighbour hneighbour => exact .inr (.inl (hbound (mem_definedNames htype hneighbour)))
  | table htable huses => exact .inr (.inl (htable ▸ mem_bound_of_usesTables h htype huses))
  | column hcolumn hid =>
    exact .inl (mem_builtinNames_of_mem_columnTypes (hscope.columns type htype _ hcolumn) hid)
  | reference hname hid =>
    have hcontains := hreferences _ hname
    have hne := Scope.ne_empty_of_contains hscope.valid hcontains
    rcases mem_identifiers_typeRef hne hid with hbuiltin | ⟨rfl, hshared⟩
    · exact .inl hbuiltin
    · exact .inr ((hscope.defined hcontains hshared).imp_left hbound)

/-! ### The interfaces of functions -/

/-- What a step's signature mentions is in scope, and so are the states that it uses. -/
structure InScope (scope : Scope) (step : Step) : Prop where
  inputs : ∀ input ∈ step.inputs, scope.contains input.type
  value : ∀ output ∈ step.output, scope.contains output.value
  key : ∀ output ∈ step.output, ∀ key ∈ output.key, scope.contains key
  states : ∀ state ∈ step.states, ∀ typed ∈ state.resolved, (scope.lookup? typed.name).isSome

theorem InScope.contains (h : InScope scope step) (hname : name ∈ stepTypeNames step) :
    scope.contains name := by
  simp only [stepTypeNames, List.mem_append] at hname
  rcases hname with (hname | hname) | hname
  · obtain ⟨input, hinput, rfl⟩ := List.mem_map.mp hname
    exact h.inputs input hinput
  · split at hname
    next output houtput =>
      rcases List.mem_cons.mp hname with rfl | hname
      · exact h.value output houtput
      · exact h.key output houtput name (Option.mem_toList.mp hname)
    next => cases hname
  · obtain ⟨state, hstate, hname⟩ := List.mem_filterMap.mp hname
    obtain ⟨typed, htyped, rfl⟩ := Option.map_eq_some_iff.mp hname
    simp [Scope.contains, h.states state hstate typed htyped]

theorem mem_items_typesUse : id ∈ (typesUse names).flatMap Use.items ↔
    ∃ name ∈ names, name ≠ "" ∧ Primitive.isSharedName name ∧ identifier name = id := by
  have hitems : (typesUse names).flatMap Use.items = Text.dropRepeats (Text.sortNames
      ((names.filter fun name ↦ name ≠ "" && Primitive.isSharedName name).map identifier)) := by
    unfold typesUse
    dsimp only
    split_ifs with hempty
    · exact (List.isEmpty_iff.mp hempty).symm
    · simp
  rw [hitems, Text.mem_dropRepeats, Text.sortNames, Text.mem_sortByName]
  simp [and_assoc]

theorem target_ne_of_mem_stateUses {operator : Operator} {use : Use}
    (h : use ∈ stateUses operator step) : use.target ≠ typesName := by
  rw [stateUses, Text.mem_dropRepeats, Text.mem_sortByName] at h
  obtain ⟨state, -, h⟩ := List.mem_filterMap.mp h
  obtain ⟨typed, -, h⟩ := Option.bind_eq_some_iff.mp h
  unfold stateUse at h
  dsimp only at h
  split at h
  · split_ifs at h <;> cases h <;> decide
  · cases h
    show valuesPackage ≠ typesName
    decide
  · cases h

/-- The interface mentions types of these names only, and takes them from the shared interface. -/
structure Draws (interface : Interface) (names : List String) : Prop where
  mentioned : ∀ id ∈ interface.mentioned, id ∈ builtinNames ∨ ∃ name ∈ names,
    id ∈ (typeRef name).identifiers
  uses : ∃ handles, interface.uses = typesUse names ++ handles ∧ ∀ use ∈ handles,
    use.target ≠ typesName

theorem Draws.mentioned_bound (h : Draws interface names) (hnames : "" ∉ names)
    (hid : id ∈ interface.mentioned) :
    id ∈ builtinNames ∨ id ∈ interface.bound := by
  rcases h.mentioned id hid with hbuiltin | ⟨name, hname, hid⟩
  · exact .inl hbuiltin
  have hne : name ≠ "" := by
    rintro rfl
    exact hnames hname
  refine (mem_identifiers_typeRef hne hid).imp_right ?_
  rintro ⟨rfl, hshared⟩
  obtain ⟨handles, huses, -⟩ := h.uses
  rw [Interface.bound, huses, List.flatMap_append]
  exact List.mem_append_right _
    (List.mem_append_left _ (mem_items_typesUse.mpr ⟨name, hname, hne, hshared, rfl⟩))

theorem Draws.used (h : Draws interface names) (hscope : Presentable scope)
    (hnames : ∀ name ∈ names, scope.contains name) {use : Use} (huse : use ∈ interface.uses)
    (htarget : use.target = typesName) (hid : id ∈ use.items) :
    id ∈ definedNames scope ∨ Displaced scope id := by
  obtain ⟨handles, huses, hhandles⟩ := h.uses
  rw [huses] at huse
  rcases List.mem_append.mp huse with huse | huse
  · obtain ⟨name, hname, -, hshared, rfl⟩ :=
      mem_items_typesUse.mp (List.mem_flatMap.mpr ⟨use, huse, hid⟩)
    exact hscope.defined (hnames name hname) hshared
  · exact absurd htarget (hhandles use huse)

@[simp]
theorem identifiers_inputParam (input : Parameter) :
    (inputParam input).type.identifiers = (typeRef input.type).identifiers := by
  unfold inputParam
  dsimp only
  split_ifs <;> rfl

theorem mem_identifiers_outputType {operator : Operator} {output : Output}
    (h : id ∈ (outputType operator output).identifiers) :
    ∃ name ∈ output.value :: output.key.toList, id ∈ (typeRef name).identifiers := by
  -- Options and lists around the type add no identifier.
  cases hkey : output.key with
  | none =>
    have hvalue : id ∈ (typeRef output.value).identifiers := by
      simp only [outputType, hkey] at h
      split_ifs at h <;> exact h
    exact ⟨output.value, List.mem_cons_self, hvalue⟩
  | some key =>
    have hpair : id ∈ (typeRef key).identifiers ++ (typeRef output.value).identifiers := by
      simp only [outputType, hkey] at h
      split_ifs at h <;> exact h
    rcases List.mem_append.mp hpair with hid | hid
    · exact ⟨key, List.mem_cons_of_mem _ List.mem_cons_self, hid⟩
    · exact ⟨output.value, List.mem_cons_self, hid⟩

theorem mem_identifiers_typeOrOctets {name : Option String} {names : List String}
    (hnames : name.toList ⊆ names) (h : id ∈ (typeOrOctets name).identifiers) :
    id ∈ builtinNames ∨ ∃ given ∈ names, id ∈ (typeRef given).identifiers := by
  cases name with
  | none =>
    obtain rfl := List.mem_singleton.mp h
    exact .inl (by decide)
  | some given => exact .inr ⟨given, hnames (List.mem_singleton_self given), h⟩

theorem draws_serviceInterface (operator : Operator) (step : Step) :
    Draws (serviceInterface operator step) (stepTypeNames step) where
  mentioned id hid := by
    simp only [Interface.mentioned, serviceInterface, Func.identifiers, List.flatMap_cons,
      List.flatMap_nil, List.nil_append, List.append_nil, List.mem_append, List.mem_flatMap,
      List.mem_map] at hid
    rcases hid with (⟨_, ⟨input, hinput, rfl⟩, hid⟩ | ⟨expr, hexpr, hid⟩) | hid
    · rw [identifiers_inputParam] at hid
      exact .inr ⟨input.type, by simpa [stepTypeNames] using .inl ⟨input, hinput, rfl⟩, hid⟩
    · obtain ⟨output, houtput, rfl⟩ := Option.map_eq_some_iff.mp (Option.mem_toList.mp hexpr)
      obtain ⟨name, hname, hid⟩ := mem_identifiers_outputType hid
      refine .inr ⟨name, ?_, hid⟩
      simp only [stepTypeNames, houtput, List.mem_append, hname, or_true, true_or]
    · obtain rfl := List.mem_singleton.mp hid
      exact .inl (by decide)
  uses := ⟨stateUses operator step, rfl, fun _ ↦ target_ne_of_mem_stateUses⟩

theorem mem_stepTypeNames_of_inputType {isKey : Bool}
    (h : name ∈ (inputType step isKey).toList) : name ∈ stepTypeNames step := by
  obtain ⟨input, hinput, rfl⟩ := Option.map_eq_some_iff.mp (Option.mem_toList.mp h)
  exact List.mem_append_left _
    (List.mem_append_left _ (List.mem_map_of_mem (List.mem_of_find?_eq_some hinput)))

theorem draws_deserializeInterface (step : Step) :
    ∃ names ⊆ stepTypeNames step, Draws (deserializeInterface step) names := by
  refine ⟨(inputType step true).toList ++ (inputType step false).toList, ?_, ?_, [], ?_, ?_⟩
  · exact List.append_subset.mpr ⟨fun _ ↦ mem_stepTypeNames_of_inputType,
      fun _ ↦ mem_stepTypeNames_of_inputType⟩
  · intro id hid
    have hplaces : id = "string" ∨ id ∈ (typeOrOctets (inputType step true)).identifiers ∨
        id ∈ (typeOrOctets (inputType step false)).identifiers := by
      simp only [Interface.mentioned, deserializeInterface, Func.identifiers, TypeExpr.identifiers,
        stringType, Primitive.name, List.flatMap_cons, List.flatMap_nil, List.nil_append,
        List.append_nil, Option.toList_some, List.mem_append, List.mem_singleton] at hid
      tauto
    rcases hplaces with rfl | hkey | hvalue
    · exact .inl (by decide)
    · exact mem_identifiers_typeOrOctets (List.subset_append_left _ _) hkey
    · exact mem_identifiers_typeOrOctets (List.subset_append_right _ _) hvalue
  · simp [deserializeInterface]
  · simp

theorem draws_serializeInterface (h : serializeInterface step = some interface) :
    ∃ names ⊆ stepTypeNames step, Draws interface names := by
  obtain ⟨output, houtput, rfl⟩ := Option.map_eq_some_iff.mp h
  refine ⟨output.value :: output.key.toList, ?_, ?_, [], ?_, ?_⟩
  · intro name hname
    simp only [stepTypeNames, houtput, List.mem_append, hname, or_true, true_or]
  · intro id hid
    have hplaces : id = "string" ∨ id = "u8" ∨ id ∈ (typeOrOctets output.key).identifiers ∨
        id ∈ (typeRef output.value).identifiers := by
      simp only [Interface.mentioned, Func.identifiers, TypeExpr.identifiers, TypeExpr.octets,
        Primitive.name, List.flatMap_cons, List.flatMap_nil, List.nil_append, List.append_nil,
        Option.toList_some, List.mem_append, List.mem_singleton] at hid
      tauto
    rcases hplaces with rfl | rfl | hkey | hvalue
    · exact .inl (by decide)
    · exact .inl (by decide)
    · exact mem_identifiers_typeOrOctets (List.subset_cons_self _ _) hkey
    · exact .inr ⟨output.value, List.mem_cons_self, hvalue⟩
  · simp
  · simp

/-! ### Descriptions -/

/-- The interfaces of a function. -/
def functionInterfaces (function : Operation) : List Interface :=
  [serviceInterface function.operator function.step, deserializeInterface function.step]
    ++ (serializeInterface function.step).toList

theorem interfaces_of_describe {package : Package} {description : Description}
    (h : describe package scope = .ok description) :
    ∃ types, typesInterface scope = .ok types ∧
      description.interfaces = types :: package.functions.flatMap functionInterfaces := by
  obtain ⟨services, -, h⟩ := bind_eq_ok_iff.mp h
  obtain ⟨types, htypes, h⟩ := bind_eq_ok_iff.mp h
  cases h
  refine ⟨types, htypes, ?_⟩
  simp only [Description.interfaces, List.filterMap_cons, List.filterMap_flatMap]
  refine congrArg _ (List.flatMap_congr fun function _ ↦ ?_)
  cases hoption : serializeInterface function.step <;> simp [functionItems, functionInterfaces,
    withWorld, hoption]

theorem draws_functionInterfaces {function : Operation}
    (h : interface ∈ functionInterfaces function) :
    ∃ names ⊆ stepTypeNames function.step, Draws interface names := by
  simp only [functionInterfaces, List.cons_append, List.nil_append, List.mem_cons,
    Option.mem_toList] at h
  rcases h with rfl | rfl | h
  · exact ⟨_, List.Subset.refl _, draws_serviceInterface _ _⟩
  · exact draws_deserializeInterface _
  · exact draws_serializeInterface h

/-- The description of a package is closed but for keyed states with letters outside ASCII in their
names, which are defined under another identifier than their own. -/
theorem closedExcept_of_describe {package : Package} {description : Description}
    (hscope : Presentable scope)
    (hfunctions : ∀ function ∈ package.functions, InScope scope function.step)
    (h : describe package scope = .ok description) :
    description.ClosedExcept (Displaced scope) ∧ ∀ id, Displaced scope id →
      ∃ type ∈ scope.types, identifier type.name = id ∧ ∃ c ∈ type.name.toList, 128 ≤ c.toNat := by
  refine ⟨?_, fun _ ↦ Displaced.exists_nonascii⟩
  obtain ⟨types, htypes, hinterfaces⟩ := interfaces_of_describe h
  obtain ⟨hname, hdefined, huses⟩ := bound_of_typesInterface htypes
  have hshared : definedNames scope ⊆ description.sharedNames := by
    rw [Description.sharedNames, hinterfaces, List.filter_cons_of_pos (by simpa using hname),
      List.flatMap_cons, hdefined]
    exact List.subset_append_left _ _
  have hcases {interface : Interface} (hinterface : interface ∈ description.interfaces) :
      interface = types ∨ ∃ names, (∀ name ∈ names, scope.contains name) ∧
      Draws interface names := by
    rw [hinterfaces] at hinterface
    refine (List.mem_cons.mp hinterface).imp_right fun hinterface ↦ ?_
    obtain ⟨function, hfunction, hinterface⟩ := List.mem_flatMap.mp hinterface
    obtain ⟨names, hnames, hdraws⟩ := draws_functionInterfaces hinterface
    exact ⟨names, fun name hname ↦ (hfunctions function hfunction).contains (hnames hname), hdraws⟩
  constructor
  · intro interface hinterface id hid
    rcases hcases hinterface with rfl | ⟨names, hnames, hdraws⟩
    · exact mentioned_of_typesInterface hscope htypes hid
    · have hnonempty : "" ∉ names :=
        fun hmem ↦ Scope.ne_empty_of_contains hscope.valid (hnames "" hmem) rfl
      exact (hdraws.mentioned_bound hnonempty hid).imp_right .inl
  · intro interface hinterface use huse htarget id hid
    rcases hcases hinterface with rfl | ⟨names, hnames, hdraws⟩
    · exact absurd htarget (huses use huse)
    · exact (hdraws.used hscope hnames huse htarget hid).imp_left fun hid ↦ hshared hid

/-- Types that refer to one another in both spellings, one of them a state. -/
def orderScope : Scope :=
  { types := [
      { name := "line_totals"
        shape :=
          .keyedState { key := "string", value := .row [⟨"net", "i32"⟩, ⟨"since", "timestamp"⟩] } },
      { name := "order",
        shape := .object [⟨"id", "bytes", false, {}⟩, ⟨"lines", "order-lines", true, {}⟩] },
      { name := "order_lines", shape := .list "string" },
      { name := "status",
        shape := .enumeration { variants := [⟨"open", none, {}⟩, ⟨"done", "line-totals", {}⟩] } }] }

/-- A function that reads orders with their keys, uses the state and writes pairs. -/
def orderFunction : Operation :=
  { operator := .aggregate
    step := {
      uses := "price-order"
      inputs :=
        [{ name := "order", type := "order" }, { name := "id", type := "bytes", isKey := true }]
      output := some { key := some "string", value := "status" }
      states := [{ name := "totals", resolved := some {
        name := "line_totals"
        type := { key := "string", value := .row [⟨"net", "i32"⟩, ⟨"since", "timestamp"⟩] } } }] } }

def orderPackage (functions : List Operation) : Package :=
  { apiVersion := "0.6.0", header := { owner := "shop", name := "orders", version := "1.0.0" },
    functions }

theorem presentable_orderScope : Presentable orderScope where
  valid := rfl
  notNull := by decide
  columns := by decide

theorem inScope_orderFunction : InScope orderScope orderFunction.step where
  inputs := by decide
  value := by
    rintro output ⟨⟩
    decide
  key := by
    rintro output ⟨⟩ key ⟨⟩
    decide
  states := by
    intro state hstate typed htyped
    obtain rfl := List.mem_singleton.mp hstate
    cases htyped
    decide

theorem closedExcept_orderPackage : Presentable orderScope ∧ InScope orderScope orderFunction.step ∧
    ∃ description, describe (orderPackage [orderFunction]) orderScope = .ok description ∧
      description.ClosedExcept fun _ ↦ False := by
  have hfunctions : ∀ function ∈ [orderFunction], InScope orderScope function.step :=
    List.forall_mem_singleton.mpr inScope_orderFunction
  obtain ⟨description, h⟩ : ∃ description, describe (orderPackage [orderFunction]) orderScope =
      .ok description :=
    ⟨_, rfl⟩
  obtain ⟨hclosed, hforeign⟩ := closedExcept_of_describe presentable_orderScope hfunctions h
  refine ⟨presentable_orderScope, inScope_orderFunction, description, h,
    hclosed.mono fun id hid ↦ ?_⟩
  obtain ⟨type, htype, -, c, hc, hlarge⟩ := hforeign id hid
  have hascii : ∀ type ∈ orderScope.types, type.name.toList.all fun c ↦ c.toNat < 128 := by decide
  have hsmall : c.toNat < 128 := of_decide_eq_true (List.all_eq_true.mp (hascii type htype) c hc)
  exact absurd hsmall (Nat.not_lt.mpr hlarge)

/-- A keyed state with a letter that has no lower case form, and a list of it. -/
def fieldScope : Scope :=
  { types := [
      { name := "Aℂ", shape := .keyedState { key := "string", value := .u32 } },
      { name := "history", shape := .list "Aℂ" }] }

/-- The list refers to the state by an identifier under which nothing is defined. -/
theorem reference_astray :
    Scope.ofTypes fieldScope.types = .ok fieldScope ∧ Presentable fieldScope ∧
      ∃ description, describe (orderPackage []) fieldScope = .ok description ∧
        ∃ interface ∈ description.interfaces, ∃ id ∈ interface.mentioned,
          id ∉ builtinNames ∧ id ∉ interface.bound := by
  refine ⟨?_, ⟨rfl, by decide, by decide⟩, _, rfl, _, List.mem_cons_self, "aℂ", ?_, by decide, ?_⟩
  · cbv
  · decide +kernel
  · decide +kernel

end FlowSpec.Wit
