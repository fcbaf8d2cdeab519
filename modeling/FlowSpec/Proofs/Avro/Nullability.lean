import FlowSpec.Proofs.Avro.Provenance
import FlowSpec.Proofs.Scope.Settling
import FlowSpec.Scope.Validation

/-!
Fields that may be left out. A field of a record has a default exactly if it is written for an
optional field of an object, and the default is null. The type of such a field is a union. Its first
branch is null, as the default asks, unless the type of the object's field leads to an enumeration
in which values are carried: that is a union already, and it is taken as it is.
-/

set_option autoImplicit false

namespace FlowSpec.Avro

variable {scope : Scope} {root name owner : String} {node : Node} {title : Title}
  {fields : List (NodeField Node)}

/-- What the JSON of a field has for its default. -/
def NodeField.default? (owner : String) (field : NodeField Node) : Option Json :=
  match Node.fieldsJson owner [field] with
  | [.object members] => members.lookup "default"
  | _ => none

theorem NodeField.default?_eq (owner : String) (field : NodeField Node) :
    field.default? owner = if field.isOptional then some .null else none := by
  obtain ⟨name, type, isOptional⟩ := field
  cases isOptional <;> rfl

namespace Node

/-- A union whose first branch is null. -/
def AdmitsNull (node : Node) : Prop :=
  ∃ branches, node = union branches ∧ branches.head? = some null

theorem exists_optional_eq (node : Node) : ∃ branches, node.optional = union branches := by
  rcases node.optional_cases with ⟨branches, hunion, hsame⟩ | ⟨-, hnullable⟩
  · exact ⟨branches, hsame.trans hunion⟩
  · exact ⟨_, hnullable⟩

theorem not_admitsNull_of_records {branches : List Node}
    (h : ∀ branch ∈ branches, ∃ title fields, branch = record title fields) :
    ¬ (union branches).AdmitsNull := by
  rintro ⟨_, ⟨⟩, hnull⟩
  obtain ⟨title, fields, hrecord⟩ := h null (List.mem_of_mem_head? hnull)
  cases hrecord

end Node

/-- A name that does not lead to an enumeration in which values are carried admits null where it is
optional. -/
theorem Renders.admitsNull_optional (h : Renders scope name node)
    (hcarries : ¬ Carries scope name) :
    node.optional.AdmitsNull := by
  rcases node.optional_cases with ⟨branches, rfl, -⟩ | ⟨-, hnullable⟩
  · rcases h.union_cases with ⟨_, _, inner, -, -, -, rfl⟩ | ⟨hcarried, -⟩
    · exact ⟨_, rfl, rfl⟩
    · exact absurd hcarried hcarries
  · exact ⟨_, hnullable, rfl⟩

/-- The field of a record presents the field of an object: it has a default if that field is
optional, and then its type is a union with null in front, with one exception. -/
structure Presents (scope : Scope) (owner : String) (member : Field) (field : NodeField Node) :
    Prop where
  name : field.name = member.name
  default : field.default? owner = if member.isOptional then some .null else none
  union : member.isOptional → ∃ branches, field.type = .union branches
  admitsNull : member.isOptional → ¬ Carries scope member.type → field.type.AdmitsNull
  exception : member.isOptional → Unmasked scope → Carries scope member.type →
    ¬ field.type.AdmitsNull

/-- The fields of a record are those of the object that it is written for, or have no defaults. -/
inductive Presented (scope : Scope) (owner : String) : Title → List (NodeField Node) → Prop
  | object {type : NamedType} {members : List Field} {fields : List (NodeField Node)}
      (htype : scope.lookup? type.name = some type) (hshape : type.shape = .object members)
      (hfields : List.Forall₂ (Presents scope owner) members fields) :
      Presented scope owner (.declared type.name) fields
  | other {type : NamedType} {fields : List (NodeField Node)}
      (htype : scope.lookup? type.name = some type)
      (hshape : ∀ members, type.shape ≠ .object members)
      (hfields : ∀ field ∈ fields, field.default? owner = none) :
      Presented scope owner (.declared type.name) fields
  | variant {type variant : String} {fields : List (NodeField Node)}
      (hfields : ∀ field ∈ fields, field.default? owner = none) :
      Presented scope owner (.variant type variant) fields

theorem forall₂_zipWith {α β γ : Type} {f : α → β → γ} {relation : α → β → Prop}
    {spec : α → γ → Prop} {items : List α} {parts : List β} (h : List.Forall₂ relation items parts)
    (hspec : ∀ item part, relation item part → f item part ∈ List.zipWith f items parts →
      spec item (f item part)) :
    List.Forall₂ spec items (List.zipWith f items parts) := by
  induction h with
  | nil => exact .nil
  | cons hhead _ ih =>
    refine .cons (hspec _ _ hhead List.mem_cons_self) (ih fun item part hpart hmem ↦ ?_)
    exact hspec item part hpart (List.mem_cons_of_mem _ hmem)

section Built

variable {after : List String} (hrenders : Renders scope root node)
  (htrail : Trail scope [] node.marks after)

include hrenders htrail

theorem presents_fieldNode {member : Field} {type : Node} (htype : Renders scope member.type type)
    (hcontains : node.Contains type) : Presents scope owner member (fieldNode member type) := by
  have hoptional (hmember : member.isOptional) : (fieldNode member type).type = type.optional :=
    if_pos hmember
  refine ⟨rfl, NodeField.default?_eq owner _, fun hmember ↦ ?_, fun hmember hcarries ↦ ?_,
    fun hmember hclear hcarries ↦ ?_⟩
  · exact hoptional hmember ▸ type.exists_optional_eq
  · exact hoptional hmember ▸ htype.admitsNull_optional hcarries
  · obtain ⟨branches, rfl, hrecords⟩ :=
      exists_records_of_carries hrenders htrail hclear hcarries hcontains htype
    exact hoptional hmember ▸ Node.not_admitsNull_of_records hrecords

/-- Every record of a schema presents what it is written for. -/
theorem presented_of_contains (hcontains : node.Contains (.record title fields)) :
    Presented scope owner title fields := by
  have hplain {fields : List (NodeField Node)} (h : ∀ field ∈ fields, field.isOptional = false) :
      ∀ field ∈ fields, field.default? owner = none :=
    fun field hfield ↦ by rw [NodeField.default?_eq, h field hfield, if_neg Bool.false_ne_true]
  have hstems := hrenders.stems hcontains
  generalize hrecord : Node.record title fields = part at hstems hcontains
  cases hstems with
  | null => cases hrecord
  | timestamp => cases hrecord
  | @optional _ node =>
    obtain ⟨branches, hunion⟩ := node.exists_optional_eq
    cases hrecord.trans hunion
  | variant _ h =>
    cases hrecord
    cases h with
    | none => exact .variant (by simp)
    | some => exact .variant (hplain (by simp))
  | @mention name _ hname h =>
    rcases h.source with ⟨kind, rfl⟩ | ⟨type, rfl⟩ | ⟨type, hleads, hshape⟩
    · cases hrecord
    · cases hrecord
    · obtain ⟨last, -, hlast⟩ := hleads.exists_reached hname
      have htype := lookup?_name hlast.found
      obtain ⟨typeName, shape, origin⟩ := type
      cases hshape with
      | named => exact absurd rfl (hleads.ne_named _)
      | object hfields =>
        cases hrecord
        refine .object htype rfl (forall₂_zipWith hfields fun member type hmember hmem ↦ ?_)
        exact presents_fieldNode hrenders htrail hmember
          (hcontains.trans (.head (List.mem_map_of_mem hmem) (contains_fieldNode member type)))
      | row hcolumns =>
        cases hrecord
        refine .other htype nofun (hplain fun field hfield ↦ ?_)
        obtain ⟨column, -, type, -, rfl⟩ := exists_of_mem_zipWith hcolumns hfield
        rfl
      | keyValue =>
        cases hrecord
        exact .other htype nofun (hplain (by simp))
      | _ => cases hrecord

end Built

/-! ### Schemas -/

/-- In the schema of a type, the records of objects have a default of null for their optional
fields, and no other field of any record has a default. The type of an optional field is a union
with null in front, unless the object's field leads to an enumeration in which values are carried.
If no type has the name of a variant's record, it is not so in that case. -/
theorem schemaJson_presented (self : Exporter) (name : String) (json : Json)
    (h : self.schemaJson name = .ok json) :
    ∃ node, self.schemaTree name = .ok node ∧ json = node.toJson self.owner ∧
      ∀ title fields, node.Contains (.record title fields) →
      Presented self.scope self.owner title fields := by
  obtain ⟨node, hnode, hjson, hrenders, after, htrail⟩ := exists_of_schemaJson h
  exact ⟨node, hnode, hjson, fun title fields ↦ presented_of_contains hrenders htrail⟩

/-- Tickets with a remark, which is an option already, and a ticket that they belong to. -/
def tickets : Exporter where
  owner := "com.example.sdf"
  scope := ⟨[
    { name := "note", shape := .option "string" },
    { name := "remark", shape := .named "note" },
    { name := "ticket", shape := .object [{ name := "subject", type := "string" },
        { name := "remark", type := "remark", isOptional := true },
        { name := "parent", type := "ticket", isOptional := true }] }]⟩

/-- The fields in the schema of a ticket. -/
def ticketFields : List (NodeField Node) :=
  [{ name := "subject", type := .primitive .string },
    { name := "remark", type := (Node.primitive .string).nullable, isOptional := true },
    { name := "parent", type := (Node.reference "ticket").nullable, isOptional := true }]

theorem schemaJson_presented_tickets :
    tickets.schemaJson "ticket" =
      .ok ((Node.record (.declared "ticket") ticketFields).toJson tickets.owner) ∧
      Presented tickets.scope tickets.owner (.declared "ticket") ticketFields := by
  have htree : tickets.schemaTree "ticket" = .ok (.record (.declared "ticket") ticketFields) := rfl
  have hjson : tickets.schemaJson "ticket" =
      .ok ((Node.record (.declared "ticket") ticketFields).toJson tickets.owner) := rfl
  obtain ⟨node, hnode, -, hpresented⟩ := schemaJson_presented tickets "ticket" _ hjson
  cases htree.symm.trans hnode
  exact ⟨hjson, hpresented _ _ .refl⟩

/-- Orders that may tell an amount, where an amount is none or a count. -/
def shipments : Exporter where
  owner := "com.example.sdf"
  scope := ⟨[
    { name := "amount", shape := .enumeration {
        variants := [{ name := "none" }, { name := "count", payload := some "u32" }] } },
    { name := "order",
      shape := .object [{ name := "shipped", type := "amount", isOptional := true }] }]⟩

/-- The amount that may be left out has null for its default and a type that does not admit null. -/
theorem optional_amount_without_null :
    shipments.scope.Sealed ∧ shipments.scope.problems = [] ∧ ∃ field,
      shipments.schemaTree "order" = .ok (.record (.declared "order") [field]) ∧
        field.default? shipments.owner = some .null ∧ ¬ field.type.AdmitsNull := by
  have hsealed : shipments.scope.Sealed :=
    Scope.sealed_of_isSettled (by decide) (by decide) (by simp [NamedType.IsSettled])
  refine ⟨hsealed, rfl, _, rfl, rfl, Node.not_admitsNull_of_records fun branch hbranch ↦ ?_⟩
  rcases List.mem_pair.mp hbranch with rfl | rfl
  · exact ⟨_, _, rfl⟩
  · exact ⟨_, _, rfl⟩

end FlowSpec.Avro
