import FlowSpec.Proofs.Scope.Declarations
import FlowSpec.Scope.Validation

/-!
What it means that a scope has no problems. A type is well formed if it has a name, its members have
names of their own, all names that it mentions are known, no variant carries the empty name and no
alias has the word for a composite shape as its target (`NamedType.WellFormed`). A check is silent
exactly on what is well formed: first the items of one type, which share a list of the names seen so
far, then a shape, and then a type with its heading.
-/

set_option autoImplicit false

namespace FlowSpec

namespace Shape

/-- The columns of a row, and of the row that a keyed state holds. -/
def columns : Shape → List Column
  | row columns => columns
  | keyedState { value := .row columns, .. } => columns
  | _ => []

/-- The names of fields, of variants and of columns. -/
def memberNames : Shape → List String
  | object fields => fields.map Field.name
  | enumeration variants => variants.variants.map Variant.name
  | shape => shape.columns.map Column.name

end Shape

theorem lineIf_eq_nil_iff {condition : Bool} {text : String} :
    lineIf condition text = [] ↔ condition = false := by
  cases condition <;> simp [lineIf]

theorem Report.groupUnlessEmpty_eq_none_iff {heading : String} {children : List Report} :
    groupUnlessEmpty heading children = none ↔ children = [] := by
  cases children <;> simp [groupUnlessEmpty]

/-- If a check is silent exactly on new items that have names and are valid, the check of all items
is silent exactly if their names are different, new and not empty, and all items are valid. -/
theorem checkItems_eq_nil_iff {α : Type} {name : α → String} {check : α → Bool → List Report}
    {valid : α → Prop}
    (hcheck : ∀ item isRepeated, check item isRepeated = [] ↔ isRepeated = false ∧ name item ≠ "" ∧
      valid item) {items : List α} {seen : List String} : checkItems name check items seen = [] ↔
      (items.map name).Nodup ∧ ∀ item ∈ items, name item ∉ seen ∧ name item ≠ "" ∧ valid item := by
  induction items generalizing seen with
  | nil => simp [checkItems]
  | cons item rest ih =>
    have hnew : seen.contains (name item) = false ↔ name item ∉ seen := by simp
    rw [checkItems, List.append_eq_nil_iff, hcheck, hnew, ih, List.map_cons, List.nodup_cons,
      List.forall_mem_cons]
    simp only [List.mem_cons, not_or, List.mem_map, not_exists, not_and]
    constructor
    · rintro ⟨hitem, hnodup, hrest⟩
      exact ⟨⟨fun other hother hname ↦ (hrest other hother).1.1 hname, hnodup⟩, hitem,
        fun other hother ↦ ⟨(hrest other hother).1.2, (hrest other hother).2⟩⟩
    · rintro ⟨⟨hdifferent, hnodup⟩, hitem, hrest⟩
      exact ⟨hitem, hnodup, fun other hother ↦
        ⟨⟨hdifferent other hother, (hrest other hother).1⟩, (hrest other hother).2⟩⟩

/-- The same for the items of a type, before which no name was seen. -/
theorem checkItems_nil_eq_nil_iff {α : Type} {name : α → String} {check : α → Bool → List Report}
    {valid : α → Prop}
    (hcheck : ∀ item isRepeated, check item isRepeated = [] ↔ isRepeated = false ∧ name item ≠ "" ∧
      valid item) {items : List α} : checkItems name check items [] = [] ↔
      "" ∉ items.map name ∧ (items.map name).Nodup ∧ ∀ item ∈ items, valid item := by
  rw [checkItems_eq_nil_iff hcheck, List.mem_map, not_exists]
  simp only [List.not_mem_nil, not_false_eq_true, true_and, not_and]
  constructor
  · rintro ⟨hnodup, hitems⟩
    exact ⟨fun item hitem ↦ (hitems item hitem).1, hnodup, fun item hitem ↦ (hitems item hitem).2⟩
  · rintro ⟨hnamed, hnodup, hvalid⟩
    exact ⟨hnodup, fun item hitem ↦ ⟨hnamed item hitem, hvalid item hitem⟩⟩

/-! ### Well-formed types -/

/-- The name is native, or a type is declared under it or under the name with underscores in place
of hyphens. -/
def Scope.Knows (scope : Scope) (name : String) : Prop :=
  name ∈ Primitive.nativeNames ∨
    ∃ type ∈ scope.types, type.name = name ∨ type.name = Text.replaceChar '-' '_' name

/-- What a shape must be like in a scope. -/
structure Shape.WellFormed (scope : Scope) (shape : Shape) : Prop where
  named : "" ∉ shape.memberNames
  distinct : shape.memberNames.Nodup
  known : ∀ name ∈ shape.references, scope.Knows name
  carried : ∀ e, shape = .enumeration e → ∀ variant ∈ e.variants, variant.payload ≠ some ""
  target : ∀ name, shape = .named name → name ∉ compositeNames

/-- What a type must be like in a scope. -/
structure NamedType.WellFormed (scope : Scope) (type : NamedType) : Prop where
  named : type.name ≠ ""
  shape : type.shape.WellFormed scope

namespace Scope

variable {scope : Scope} {type : NamedType} {name : String}

theorem contains_iff_knows : scope.contains name ↔ scope.Knows name := by
  have hlookup : (scope.lookup? name).isSome ↔
      ∃ type ∈ scope.types, type.name = name ∨ type.name = Text.replaceChar '-' '_' name := by
    rw [Option.isSome_iff_ne_none, lookup?, Ne, lookupType_eq_none_iff, ← not_or, not_not,
      List.mem_map, List.mem_map, ← exists_or]
    simp only [and_or_left]
  rw [contains, Bool.or_eq_true, hlookup, List.contains_iff_mem, Knows]

theorem unknownType_eq_nil_iff : scope.unknownType name = [] ↔ scope.Knows name := by
  rw [unknownType, lineIf_eq_nil_iff, Bool.not_eq_eq_eq_not, Bool.not_false, contains_iff_knows]

/-! ### Silent checks -/

theorem checkFields_eq_nil_iff {fields : List Field} : scope.checkFields fields = [] ↔
    "" ∉ fields.map Field.name ∧ (fields.map Field.name).Nodup ∧ ∀ field ∈ fields,
      scope.Knows field.type := by
  refine checkItems_nil_eq_nil_iff fun field isRepeated ↦ ?_
  simp only [List.append_eq_nil_iff, lineIf_eq_nil_iff, unknownType_eq_nil_iff,
    String.isEmpty_eq_false_iff]
  tauto

theorem checkVariants_eq_nil_iff {variants : List Variant} : scope.checkVariants variants = [] ↔
    "" ∉ variants.map Variant.name ∧ (variants.map Variant.name).Nodup ∧
      ∀ variant ∈ variants, ∀ payload ∈ variant.payload, payload ≠ "" ∧ scope.Knows payload := by
  refine checkItems_nil_eq_nil_iff fun variant isRepeated ↦ ?_
  simp only [List.append_eq_nil_iff, lineIf_eq_nil_iff, String.isEmpty_eq_false_iff]
  rw [and_comm (a := variant.name ≠ ""), and_assoc]
  refine and_congr_right fun _ ↦ and_congr_right fun _ ↦ ?_
  split
  next hnone => simp [hnone]
  next hempty => simp [hempty]
  next payload hother hpayload => simpa [hpayload, unknownType_eq_nil_iff] using fun _ ↦ hother

theorem checkColumns_eq_nil_iff {columns : List Column} : checkColumns columns = [] ↔
    "" ∉ columns.map Column.name ∧ (columns.map Column.name).Nodup := by
  have hitems : checkColumns columns = [] ↔
      "" ∉ columns.map Column.name ∧ (columns.map Column.name).Nodup ∧
      ∀ column ∈ columns, True := by
    refine checkItems_nil_eq_nil_iff fun column isRepeated ↦ ?_
    simp only [List.append_eq_nil_iff, lineIf_eq_nil_iff, String.isEmpty_eq_false_iff]
    tauto
  rw [hitems]
  simp only [implies_true, and_true]

/-- The check of a keyed state is silent if its key is known, and its value is a row with names or
is known. -/
theorem checkKeyedState_eq_nil_iff {state : KeyedState} : scope.checkKeyedState state = [] ↔
    "" ∉ (Shape.keyedState state).memberNames ∧ (Shape.keyedState state).memberNames.Nodup ∧
      ∀ name ∈ (Shape.keyedState state).references, scope.Knows name := by
  obtain ⟨key, value⟩ := state
  rw [checkKeyedState, List.append_eq_nil_iff, lineIf_eq_nil_iff, Bool.not_eq_eq_eq_not,
    Bool.not_false, contains_iff_knows]
  cases value with
  | u32 => simp [Shape.references, Shape.memberNames, Shape.columns]
  | unresolved value =>
    simp [Shape.references, Shape.memberNames, Shape.columns, unknownType_eq_nil_iff]
  | row columns =>
    simp only [Option.toList_eq_nil_iff, checkStateRow, Report.groupUnlessEmpty_eq_none_iff,
      checkColumns_eq_nil_iff, Shape.references, Shape.memberNames, Shape.columns,
      List.forall_mem_singleton]
    tauto

/-- A shape has no report exactly if it is well formed. -/
theorem checkShape_eq_none_iff {shape : Shape} :
    scope.checkShape shape = none ↔ shape.WellFormed scope := by
  -- shapes that are neither aliases nor enumerations are told by their members and references alone
  have hplain (halias : ∀ name, shape ≠ .named name) (henum : ∀ e, shape ≠ .enumeration e) :
      shape.WellFormed scope ↔ "" ∉ shape.memberNames ∧ shape.memberNames.Nodup ∧
        ∀ name ∈ shape.references, scope.Knows name :=
    ⟨fun h ↦ ⟨h.named, h.distinct, h.known⟩, fun ⟨hnamed, hdistinct, hknown⟩ ↦
      ⟨hnamed, hdistinct, hknown, fun e h ↦ absurd h (henum e),
        fun name h ↦ absurd h (halias name)⟩⟩
  cases shape with
  | null | primitive | list | option | keyValue =>
    simp [hplain, checkShape, Shape.references, Shape.memberNames, Shape.columns,
      unknownType_eq_nil_iff]
  | object fields =>
    rw [hplain (by simp) (by simp), checkShape, Report.groupUnlessEmpty_eq_none_iff,
      checkFields_eq_nil_iff]
    simp [Shape.references, Shape.memberNames]
  | row columns =>
    rw [hplain (by simp) (by simp), checkShape, Report.groupUnlessEmpty_eq_none_iff,
      checkColumns_eq_nil_iff]
    simp [Shape.references, Shape.memberNames, Shape.columns]
  | keyedState state =>
    rw [hplain (by simp) (by simp), checkShape, Report.groupUnlessEmpty_eq_none_iff,
      checkKeyedState_eq_nil_iff]
  | named target =>
    rw [checkShape]
    split_ifs with hcomposite
    · refine iff_of_false (by simp) fun h ↦ h.target target rfl (by simpa using hcomposite)
    · rw [List.head?_eq_none_iff, unknownType_eq_nil_iff]
      refine ⟨fun h ↦ ⟨?_, ?_, ?_, nofun, ?_⟩, fun h ↦ h.known target (by simp [Shape.references])⟩
      · simp [Shape.memberNames, Shape.columns]
      · simp [Shape.memberNames, Shape.columns]
      · simpa [Shape.references] using h
      · rintro name ⟨⟩
        simpa using hcomposite
  | enumeration e =>
    rw [checkShape, Report.groupUnlessEmpty_eq_none_iff, checkVariants_eq_nil_iff]
    constructor
    · rintro ⟨hnamed, hdistinct, hpayloads⟩
      refine ⟨hnamed, hdistinct, fun name hname ↦ ?_, ?_, nofun⟩
      · obtain ⟨variant, hvariant, hpayload⟩ := List.mem_filterMap.mp hname
        exact (hpayloads variant hvariant name hpayload).2
      · rintro _ ⟨⟩ variant hvariant hpayload
        exact (hpayloads variant hvariant "" hpayload).1 rfl
    · intro h
      refine ⟨h.named, h.distinct, fun variant hvariant payload hpayload ↦ ⟨?_, ?_⟩⟩
      · rintro rfl
        exact h.carried e rfl variant hvariant hpayload
      · exact h.known payload (List.mem_filterMap.mpr ⟨variant, hvariant, hpayload⟩)

/-- A type has no report exactly if it is well formed. -/
theorem checkType_eq_none_iff : scope.checkType type = none ↔ type.WellFormed scope := by
  rw [checkType, Report.groupUnlessEmpty_eq_none_iff, List.append_eq_nil_iff, lineIf_eq_nil_iff,
    String.isEmpty_eq_false_iff, Option.toList_eq_nil_iff, checkShape_eq_none_iff]
  exact ⟨fun ⟨hnamed, hshape⟩ ↦ ⟨hnamed, hshape⟩, fun h ↦ ⟨h.named, h.shape⟩⟩

/-- A type that passes its check mentions only names in scope, and its members have different
names. -/
theorem silent_of_checkShape {shape : Shape} (h : scope.checkShape shape = none) :
    (∀ name ∈ shape.references, scope.contains name) ∧ shape.memberNames.Nodup := by
  rw [checkShape_eq_none_iff] at h
  exact ⟨fun name hname ↦ contains_iff_knows.mpr (h.known name hname), h.distinct⟩

/-- The types of a scope without problems are well formed. -/
theorem wellFormed_of_problems (h : scope.problems = []) (htype : type ∈ scope.types) :
    type.WellFormed scope := by
  have hchecked := List.filterMap_eq_nil_iff.mp h type htype
  rwa [checkType_eq_none_iff] at hchecked

theorem checkShape_of_problems (h : scope.problems = []) (htype : type ∈ scope.types) :
    scope.checkShape type.shape = none := by
  rw [checkShape_eq_none_iff]
  exact (wellFormed_of_problems h htype).shape

/-- A valid scope has no type without a name. -/
theorem ne_empty_of_contains (hvalid : scope.problems = []) (h : scope.contains name) :
    name ≠ "" := by
  rintro rfl
  rw [contains_iff_knows] at h
  rcases h with hnative | ⟨type, htype, hname⟩
  · simp [Primitive.nativeNames] at hnative
  · have hempty : Text.replaceChar '-' '_' "" = "" := rfl
    rw [hempty, or_self] at hname
    exact (wellFormed_of_problems hvalid htype).named hname

/-- A scope has no problems if and only if all its types are well formed. -/
theorem problems_eq_nil_iff_wellFormed (scope : Scope) :
    scope.problems = [] ↔ ∀ type ∈ scope.types, type.WellFormed scope := by
  rw [problems, List.filterMap_eq_nil_iff]
  exact forall₂_congr fun _ _ ↦ checkType_eq_none_iff

end Scope

end FlowSpec
