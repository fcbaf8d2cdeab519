import FlowSpec.Proofs.Outcome
import FlowSpec.Proofs.Scope.Validity
import FlowSpec.Proofs.Wit.Names
import FlowSpec.Wit.Types

/-!
The members of generated definitions. A valid type gives different names to its members, but
identifiers are compared nowhere: two members have one identifier exactly if their names coincide.
-/

set_option autoImplicit false

namespace FlowSpec.Wit

open Outcome

/-- The names of the fields of a record, or of the cases of a variant. -/
def TypeDef.memberNames (definition : TypeDef) : List String :=
  match definition.body with
  | .synonym _ => []
  | .record fields => fields.map Param.name
  | .variant cases => cases.map Case.name

section Members

variable (name : String)

@[simp]
theorem memberNames_synonym (target : TypeExpr) :
    (TypeDef.mk name (.synonym target)).memberNames = [] := rfl

@[simp]
theorem memberNames_rowRecord (columns : List Column) :
    (TypeDef.mk name (rowRecord columns)).memberNames =
      (columns.map Column.name).map identifier := by
  simp [rowRecord, TypeDef.memberNames, Function.comp_def]

@[simp]
theorem memberNames_objectRecord (fields : List Field) :
    (TypeDef.mk name (objectRecord fields)).memberNames =
      (fields.map Field.name).map identifier := by
  simp [objectRecord, TypeDef.memberNames, Function.comp_def]

@[simp]
theorem memberNames_enumVariant (variants : List Variant) :
    (TypeDef.mk name (enumVariant variants)).memberNames =
      (variants.map Variant.name).map identifier := by
  simp [enumVariant, TypeDef.memberNames, Function.comp_def]

end Members

/-- Of the definitions behind a type at most one has members, and these are the members of the
type. -/
theorem nodup_memberNames_typeDefs (type : NamedType) :
    (∀ definition ∈ typeDefs type, definition.memberNames.Nodup) ↔
      (type.shape.memberNames.map identifier).Nodup := by
  obtain ⟨name, shape, -⟩ := type
  cases shape with
  | null | named | list | option | keyValue => simp [typeDefs, Shape.memberNames, Shape.columns]
  | primitive kind => cases kind <;> simp [typeDefs, Shape.memberNames, Shape.columns]
  | object fields => simp [typeDefs, Shape.memberNames]
  | row columns => simp [typeDefs, Shape.memberNames, Shape.columns]
  | enumeration variants => simp [typeDefs, Shape.memberNames]
  | keyedState state =>
    -- The row of a state stands in the definition of its values; the state itself and its entries
    -- are synonyms.
    obtain ⟨key, value⟩ := state
    cases value <;> simp [typeDefs, keyedStateDefs, Shape.memberNames, Shape.columns]

/-- The members of the definitions have different identifiers if and only if no type has two members
with names that coincide. -/
theorem nodup_memberNames_iff {scope : Scope} {interface : Interface} (hvalid : scope.problems = [])
    (h : typesInterface scope = .ok interface) :
    (∀ definition ∈ interface.types, definition.memberNames.Nodup) ↔
      ∀ type ∈ scope.types, ∀ first ∈ type.shape.memberNames, ∀ second ∈ type.shape.memberNames,
        Coincide first second → first = second := by
  obtain ⟨-, -, hinterface⟩ := bind_eq_ok_iff.mp h
  cases hinterface
  have hoctets : (TypeDef.mk "bytes" (.synonym .octets)).memberNames.Nodup := List.nodup_nil
  simp only [List.forall_mem_cons, hoctets, true_and, List.forall_mem_flatMap,
    nodup_memberNames_typeDefs]
  refine forall₂_congr fun type htype ↦ ?_
  have hnames := (Scope.silent_of_checkShape (Scope.checkShape_of_problems hvalid htype)).2
  rw [List.nodup_map_iff_inj_on hnames]
  simp only [identifier_eq_iff]

/-- Members of every kind: of an object, of an enumeration and of the row that a state holds. -/
def salesScope : Scope :=
  { types := [
      { name := "order",
        shape := .object [⟨"order-id", "string", false, {}⟩, ⟨"orderLine", "status", true, {}⟩] },
      { name := "status",
        shape := .enumeration { variants := [⟨"Open", none, {}⟩, ⟨"open-again", "u32", {}⟩] } },
      { name := "totals",
        shape :=
          .keyedState { key := "string", value := .row [⟨"net", "u32"⟩, ⟨"type", "s64"⟩] } }] }

theorem typesInterface_salesScope : ∃ interface, typesInterface salesScope = .ok interface ∧
    interface.types.map TypeDef.memberNames =
      [[], ["order-id", "order-line"], ["open", "open-again"], ["net", "%type"], [], []] :=
  ⟨_, rfl, by decide⟩

theorem nodup_memberNames_iff_salesScope : salesScope.problems = [] ∧
    ∃ interface, typesInterface salesScope = .ok interface ∧
      (∀ definition ∈ interface.types, definition.memberNames.Nodup) ∧
      ∀ type ∈ salesScope.types, ∀ first ∈ type.shape.memberNames,
        ∀ second ∈ type.shape.memberNames, Coincide first second → first = second := by
  obtain ⟨interface, h, hnames⟩ := typesInterface_salesScope
  have hnodup : ∀ definition ∈ interface.types, definition.memberNames.Nodup := by
    rw [← List.forall_mem_map (P := List.Nodup), hnames]
    decide
  exact ⟨rfl, interface, h, hnodup, (nodup_memberNames_iff rfl h).mp hnodup⟩

/-- An object whose fields differ in nothing but a hyphen before a digit. -/
def pageScope : Scope :=
  { types := [{ name := "page",
                shape :=
                  .object [⟨"line-0", "string", false, {}⟩, ⟨"line0", "string", false, {}⟩] }] }

/-- Both fields of the record have one identifier. -/
theorem fields_share_identifier :
    Scope.ofTypes pageScope.types = .ok pageScope ∧ pageScope.problems = [] ∧
      ∃ interface, typesInterface pageScope = .ok interface ∧
        ∃ definition ∈ interface.types, definition.memberNames = ["line0", "line0"] := by
  refine ⟨?_, rfl, _, rfl, _, List.mem_cons_of_mem _ List.mem_cons_self, by decide⟩
  cbv

end FlowSpec.Wit
