import FlowSpec.Proofs.Avro.Definitions
import Mathlib.Logic.Relation

/-!
Where the parts of a schema come from. A schema contains others (`Node.Contains`), and each of them
renders a name that is reached from the one that the schema was asked for, or is made from such a
schema in a way that can be told (`Stems`). What a mention is written as is told by the type at the
end of its aliases (`Leads`), unless it is written as a reference. References are the one thing that
the shapes of a scope do not determine: a type is referred to where its name is defined, and a name
can be defined by the record of a variant. If no type has the name of such a record (`Unmasked`),
every type that is reached is written out somewhere.
-/

set_option autoImplicit false

namespace FlowSpec.Avro

open Relation

/-! ### Parts of a schema -/

namespace Node

/-- The schemas that stand directly in a schema. -/
def inner : Node → List Node
  | array items => [items]
  | union branches => branches
  | record _ fields => fields.map NodeField.type
  | null | primitive _ | timestamp | reference _ | enumeration _ _ => []

/-- A schema contains itself and what stands in the schemas that it contains. -/
def Contains (whole part : Node) : Prop :=
  ReflTransGen (fun outer inner ↦ inner ∈ outer.inner) whole part

/-- The mark that a schema leaves itself, before those of the schemas in it. -/
def mark? : Node → Option Mark
  | reference type => some (.refers type)
  | enumeration title _ | record title _ => some (.defines title)
  | null | primitive _ | timestamp | array _ | union _ => none

theorem marks_eq (node : Node) : node.marks = node.mark?.toList ++ node.inner.flatMap marks := by
  cases node <;> simp [marks, mark?, inner, List.flatMap_map, branchMarks_eq, fieldMarks_eq]

theorem sizeOf_lt_of_mem_inner {part whole : Node} (h : part ∈ whole.inner) :
    sizeOf part < sizeOf whole := by
  cases whole with
  | array items => simp_all [inner]
  | union branches =>
    change part ∈ branches at h
    have hlt := List.sizeOf_lt_of_mem h
    simp only [union.sizeOf_spec]
    omega
  | record title fields =>
    obtain ⟨field, hfield, rfl⟩ := List.mem_map.mp h
    have hlt := List.sizeOf_lt_of_mem hfield
    have htype : sizeOf field.type < sizeOf field := by
      cases field
      simp only [NodeField.mk.sizeOf_spec]
      omega
    simp only [record.sizeOf_spec]
    omega
  | _ => cases h

theorem mem_marks_of_contains {whole part : Node} {mark : Mark} (h : whole.Contains part)
    (hmark : part.mark? = some mark) : mark ∈ whole.marks := by
  induction h using ReflTransGen.head_induction_on with
  | refl =>
    rw [marks_eq, hmark]
    exact List.mem_cons_self
  | head hinner _ ih =>
    rw [marks_eq]
    exact List.mem_append_right _ (List.mem_flatMap.mpr ⟨_, hinner, ih⟩)

theorem exists_contains_of_mem_marks {mark : Mark} (node : Node) (h : mark ∈ node.marks) :
    ∃ part, node.Contains part ∧ part.mark? = some mark := by
  rw [marks_eq, List.mem_append, List.mem_flatMap] at h
  rcases h with hown | ⟨inner, hinner, hmark⟩
  · exact ⟨node, .refl, by simpa using hown⟩
  · obtain ⟨part, hpart, hmark⟩ := exists_contains_of_mem_marks inner hmark
    exact ⟨part, .head hinner hpart, hmark⟩
termination_by sizeOf node
decreasing_by exact sizeOf_lt_of_mem_inner hinner

/-- Where a schema is optional, a union is taken as it is and anything else is put beside null. -/
theorem optional_cases (node : Node) : (∃ branches, node = union branches ∧ node.optional = node) ∨
    (∀ branches, node ≠ union branches) ∧ node.optional = node.nullable := by
  cases node with
  | union branches => exact .inl ⟨branches, rfl, rfl⟩
  | _ => exact .inr ⟨nofun, rfl⟩

theorem contains_optional (node : Node) : node.optional.Contains node := by
  rcases node.optional_cases with ⟨_, -, hsame⟩ | ⟨-, hnullable⟩
  · rw [hsame]
    exact .refl
  · rw [hnullable]
    exact .single (by simp [nullable, inner])

end Node

theorem contains_fieldNode (field : Field) (type : Node) :
    (fieldNode field type).type.Contains type := by
  unfold fieldNode
  dsimp only
  split_ifs
  · exact type.contains_optional
  · exact .refl

/-! ### Names and the types they stand for -/

variable {scope : Scope} {root name target : String} {type : NamedType} {node part : Node}

/-- A mention of the name means the type: the name spells no primitive type, and the type is found
under it. -/
structure Stands (scope : Scope) (name : String) (type : NamedType) : Prop where
  foreign : Primitive.ofName? name = none
  found : scope.lookup? name = some type

theorem Stands.unique {other : NamedType} (h : Stands scope name type)
    (hother : Stands scope name other) :
    type = other := Option.some.inj (h.found.symm.trans hother.found)

/-- A type that is found under some name is found under its own. -/
theorem lookup?_name (h : scope.lookup? name = some type) :
    scope.lookup? type.name = some type := by
  have hfound (other : String)
      (hother : (scope.types.find? fun type ↦ type.name == other) = some type) :
      scope.lookup? type.name = some type := by
    have hname : type.name = other := by simpa using List.find?_some hother
    rw [Scope.lookup?, lookupType, hname, hother, Option.orElse_some]
  rcases Option.or_eq_some_iff.mp (Option.orElse_eq_or.symm.trans h) with hexact | ⟨-, hspelled⟩
  · exact hfound name hexact
  · exact hfound _ hspelled

theorem eq_of_name_eq {other : NamedType} {otherName : String} (h : scope.lookup? name = some type)
    (hother : scope.lookup? otherName = some other) (hname : type.name = other.name) :
    type = other := by
  rw [← Option.some_inj, ← lookup?_name h, hname, lookup?_name hother]

/-- The names that the schema of a shape mentions. Time stamps have a schema of their own. -/
def mentioned : Shape → List String
  | .row columns => (columns.map Column.type).filter (· ≠ "timestamp")
  | shape => shape.references

/-- A name that a schema asked for by another name mentions, directly or through others. -/
inductive Reached (scope : Scope) (root : String) : String → Prop
  | root : Reached scope root root
  | mention {name other : String} {type : NamedType} (h : Reached scope root name)
      (htype : Stands scope name type) (hother : other ∈ mentioned type.shape) :
      Reached scope root other

/-- Following aliases from a name ends in a type that is none. -/
inductive Leads (scope : Scope) : String → NamedType → Prop
  | here {name : String} {type : NamedType} (h : Stands scope name type)
      (hend : ∀ target, type.shape ≠ .named target) : Leads scope name type
  | synonym {name target : String} {first type : NamedType} (h : Stands scope name first)
      (htarget : first.shape = .named target) (hrest : Leads scope target type) :
      Leads scope name type

/-- A statement about what a name is written as holds if it holds of primitive types, of references
and of the shapes of types that are no aliases, and of an alias whenever it holds of the alias's
target. -/
theorem Renders.alias_induction
    {motive : (name : String) → (node : Node) → Renders scope name node → Prop}
    (primitive : ∀ name kind (h : Primitive.ofName? name = some kind),
      motive name (.primitive kind) (.primitive h))
    (reference : ∀ name type (h : Stands scope name type),
      motive name (.reference type.name) (.reference h.foreign h.found))
    (synonym : ∀ name type target node (h : Stands scope name type)
      (hshape : RendersShape scope type.name type.shape node) (_ : type.shape = .named target)
      (htarget : Renders scope target node), motive target node htarget →
        motive name node (.declared h.foreign h.found hshape))
    (shape : ∀ name type node (h : Stands scope name type)
      (hshape : RendersShape scope type.name type.shape node)
      (_ : ∀ target, type.shape ≠ .named target),
        motive name node (.declared h.foreign h.found hshape))
    {name : String} {node : Node} (h : Renders scope name node) : motive name node h := by
  refine @Renders.rec scope motive
    (fun _ shape node _ ↦ ∀ target, shape = .named target → ∃ h : Renders scope target node,
      motive target node h)
    (fun _ _ _ ↦ True) (fun _ _ _ ↦ True) (fun _ _ _ ↦ True) (fun _ _ _ ↦ True) (fun _ _ _ ↦ True)
    (primitive _ _) (fun hforeign hfound ↦ reference _ _ ⟨hforeign, hfound⟩) ?declared ?_ ?named
    ?_ ?_ ?_ ?_ ?_ ?_ ?_ ?_ ?_ ?_ ?_ ?_ ?_ ?_ ?_ ?_ ?_ name node h
  case declared =>
    intro name type node hforeign hfound hshape htarget
    by_cases halias : ∃ target, type.shape = .named target
    · obtain ⟨target, halias⟩ := halias
      obtain ⟨hrenders, hmotive⟩ := htarget target halias
      exact synonym name type target node ⟨hforeign, hfound⟩ hshape halias hrenders hmotive
    · exact shape name type node ⟨hforeign, hfound⟩ hshape (not_exists.mp halias)
  case named =>
    rintro _ target node h hmotive _ ⟨⟩
    exact ⟨h, hmotive⟩
  all_goals simp

/-- A name is written as a primitive type, as a reference, or as the shape of the type at the end of
its aliases. -/
theorem Renders.source (h : Renders scope name node) : (∃ kind, node = .primitive kind) ∨
    (∃ type, node = .reference type) ∨
      ∃ type, Leads scope name type ∧ RendersShape scope type.name type.shape node := by
  induction h using Renders.alias_induction with
  | primitive name kind => exact .inl ⟨kind, rfl⟩
  | reference name type => exact .inr (.inl ⟨type.name, rfl⟩)
  | synonym name type target node h _ halias _ ih =>
    refine ih.imp_right (Or.imp_right ?_)
    rintro ⟨last, hleads, hlast⟩
    exact ⟨last, .synonym h halias hleads, hlast⟩
  | shape name type node h hshape hend => exact .inr (.inr ⟨type, .here h hend, hshape⟩)

theorem Leads.ne_named (h : Leads scope name type) (target : String) :
    type.shape ≠ .named target := by
  induction h with
  | here _ hend => exact hend target
  | synonym _ _ _ ih => exact ih

/-- The end of the aliases of a name that is reached is the type of a name that is reached. -/
theorem Leads.exists_reached (h : Leads scope name type) (hname : Reached scope root name) :
    ∃ last, Reached scope root last ∧ Stands scope last type := by
  induction h with
  | here h _ => exact ⟨_, hname, h⟩
  | synonym h htarget _ ih =>
    exact ih (hname.mention h (by simp [htarget, mentioned, Shape.references]))

/-! ### Unions -/

section Zip

variable {α β γ : Type} {relation : α → β → Prop} {items : List α} {parts : List β}

theorem exists_of_mem_zipWith {f : α → β → γ} {result : γ} (h : List.Forall₂ relation items parts)
    (hmem : result ∈ List.zipWith f items parts) :
    ∃ item ∈ items, ∃ part, relation item part ∧ result = f item part := by
  induction h with
  | nil => cases hmem
  | cons hhead _ ih =>
    rcases List.mem_cons.mp hmem with rfl | hmem
    · exact ⟨_, List.mem_cons_self, _, hhead, rfl⟩
    · obtain ⟨item, hitem, found⟩ := ih hmem
      exact ⟨item, List.mem_cons_of_mem _ hitem, found⟩

theorem exists_mem_zipWith {item : α} (f : α → β → γ) (h : List.Forall₂ relation items parts)
    (hitem : item ∈ items) :
    ∃ part, relation item part ∧ f item part ∈ List.zipWith f items parts := by
  induction h with
  | nil => cases hitem
  | cons hhead _ ih =>
    rcases List.mem_cons.mp hitem with rfl | hitem
    · exact ⟨_, hhead, List.mem_cons_self⟩
    · obtain ⟨part, hpart, hmem⟩ := ih hitem
      exact ⟨part, hpart, List.mem_cons_of_mem _ hmem⟩

end Zip

/-- Following aliases from a name ends in an enumeration in which values are carried. -/
def Carries (scope : Scope) (name : String) : Prop :=
  ∃ type e, Leads scope name type ∧ type.shape = .enumeration e ∧ ∃ variant ∈ e.variants,
    variant.payload ≠ none

/-- A shape is written as a union if it is an option or an enumeration in which values are carried.
The first branch of an option is null, and the branches of an enumeration are records. -/
theorem RendersShape.union_cases {shape : Shape} {branches : List Node}
    (hend : ∀ target, shape ≠ .named target) (h : RendersShape scope name shape (.union branches)) :
    (∃ value inner, shape = .option value ∧ Renders scope value inner ∧ branches = [.null, inner]) ∨
      (∃ e, shape = .enumeration e ∧ ∃ variant ∈ e.variants, variant.payload ≠ none) ∧
        ∀ branch ∈ branches, ∃ title fields, branch = .record title fields := by
  generalize hnode : Node.union branches = node at h
  cases h with
  | named => exact absurd rfl (hend _)
  | @option _ value inner h => exact .inl ⟨value, inner, rfl, h, Node.union.inj hnode⟩
  | @variants _ e payloads hpayload h =>
    refine .inr ⟨⟨e, rfl, hpayload⟩, fun branch hbranch ↦ ?_⟩
    rw [Node.union.inj hnode] at hbranch
    obtain ⟨variant, -, fields, -, rfl⟩ :=
      exists_of_mem_zipWith (List.forall₂_map_left_iff.mp h) hbranch
    exact ⟨_, fields, rfl⟩
  | _ => cases hnode

/-- A name that is written as a union leads to an option or to an enumeration in which values are
carried. -/
theorem Renders.union_cases {branches : List Node} (h : Renders scope name (.union branches)) :
    (∃ type value inner, Leads scope name type ∧ type.shape = .option value ∧
      Renders scope value inner ∧
        branches = [.null, inner]) ∨
      Carries scope name ∧ ∀ branch ∈ branches, ∃ title fields, branch = .record title fields := by
  rcases h.source with ⟨kind, hkind⟩ | ⟨type, htype⟩ | ⟨type, hleads, hshape⟩
  · cases hkind
  · cases htype
  · rcases hshape.union_cases hleads.ne_named with
      ⟨value, inner, hvalue, hinner, hbranches⟩ | ⟨⟨e, he, hpayload⟩, hrecords⟩
    · exact .inl ⟨type, value, inner, hleads, hvalue, hinner, hbranches⟩
    · exact .inr ⟨⟨type, e, hleads, he, hpayload⟩, hrecords⟩

/-! ### Where parts come from -/

/-- Where a part of a schema comes from: it renders a name that is reached, or it is the type of an
optional field or the record of a variant that is made from such a name. -/
inductive Stems (scope : Scope) (root : String) : Node → Prop
  | null : Stems scope root .null
  | timestamp : Stems scope root .timestamp
  | mention {name : String} {node : Node} (hname : Reached scope root name)
      (h : Renders scope name node) :
      Stems scope root node
  | optional {name : String} {node : Node} (hname : Reached scope root name)
      (h : Renders scope name node) :
      Stems scope root node.optional
  | variant {type variant : String} {payload : Option String} {fields : List (NodeField Node)}
      (hpayload : ∀ name ∈ payload, Reached scope root name)
      (h : RendersPayload scope payload fields) :
      Stems scope root (.record (.variant type variant) fields)

/-- What stands in the schema of a shape stems from the names that the shape mentions. -/
theorem RendersShape.stems_inner {shape : Shape} (h : RendersShape scope name shape node)
    (hend : ∀ target, shape ≠ .named target)
    (hmentioned : ∀ other ∈ mentioned shape, Reached scope root other) (hpart : part ∈ node.inner) :
    Stems scope root part := by
  cases h with
  | primitive => cases hpart
  | named => exact absurd rfl (hend _)
  | list h =>
    obtain rfl := List.mem_singleton.mp hpart
    exact .mention (hmentioned _ List.mem_cons_self) h
  | option h =>
    rcases List.mem_pair.mp hpart with rfl | rfl
    · exact .null
    · exact .mention (hmentioned _ List.mem_cons_self) h
  | object h =>
    obtain ⟨written, hwritten, rfl⟩ := List.mem_map.mp hpart
    obtain ⟨field, hfield, type, htype, rfl⟩ := exists_of_mem_zipWith h hwritten
    have hname := hmentioned field.type (List.mem_map_of_mem hfield)
    unfold fieldNode
    dsimp only
    split_ifs
    · exact .optional hname htype
    · exact .mention hname htype
  | row h =>
    obtain ⟨written, hwritten, rfl⟩ := List.mem_map.mp hpart
    obtain ⟨column, hcolumn, type, htype, rfl⟩ := exists_of_mem_zipWith h hwritten
    cases htype with
    | timestamp => exact .timestamp
    | mention hother h =>
      refine .mention (hmentioned column.type ?_) h
      simpa [mentioned, hother] using ⟨column, hcolumn, rfl⟩
  | @keyValue _ key value _ _ hkey hvalue =>
    rcases List.mem_pair.mp hpart with rfl | rfl
    · exact .mention (hmentioned key (by simp [mentioned, Shape.references])) hkey
    · exact .mention (hmentioned value (by simp [mentioned, Shape.references])) hvalue
  | symbols => cases hpart
  | variants _ h =>
    obtain ⟨variant, hvariant, fields, hfields, rfl⟩ :=
      exists_of_mem_zipWith (List.forall₂_map_left_iff.mp h) hpart
    refine .variant (fun other hother ↦ hmentioned other ?_) hfields
    exact List.mem_filterMap.mpr ⟨variant, hvariant, hother⟩

theorem Renders.stems_inner (h : Renders scope name node) (hname : Reached scope root name)
    (hpart : part ∈ node.inner) : Stems scope root part := by
  rcases h.source with ⟨kind, rfl⟩ | ⟨type, rfl⟩ | ⟨type, hleads, hshape⟩
  · cases hpart
  · cases hpart
  · obtain ⟨last, hlast, hstands⟩ := hleads.exists_reached hname
    exact hshape.stems_inner hleads.ne_named (fun _ hother ↦ hlast.mention hstands hother) hpart

/-- What stands in a part of a schema is a part of the schema as well. -/
theorem Stems.inner (h : Stems scope root node) (hpart : part ∈ node.inner) :
    Stems scope root part := by
  cases h with
  | null => cases hpart
  | timestamp => cases hpart
  | mention hname h => exact h.stems_inner hname hpart
  | @optional _ node hname h =>
    rcases node.optional_cases with ⟨_, -, hsame⟩ | ⟨-, hnullable⟩
    · rw [hsame] at hpart
      exact h.stems_inner hname hpart
    · rw [hnullable] at hpart
      rcases List.mem_pair.mp hpart with rfl | rfl
      · exact .null
      · exact .mention hname h
  | variant hpayload h =>
    cases h with
    | none => cases hpart
    | some h =>
      obtain rfl := List.mem_singleton.mp hpart
      exact .mention (hpayload _ rfl) h

/-- Every part of a schema that renders a name stems from it. -/
theorem Renders.stems (h : Renders scope root node) (hcontains : node.Contains part) :
    Stems scope root part := by
  induction hcontains with
  | refl => exact .mention .root h
  | tail _ hinner ih => exact ih.inner hinner

/-! ### Types that are written out -/

/-- No type has the name of a record that a variant is written as. -/
def Unmasked (scope : Scope) : Prop :=
  ∀ type variant, Sourced scope (.variant type variant) →
    (Title.variant type variant).name ∉ scope.types.map NamedType.name

/-- A shape other than an alias is defined under the name of its type, if it is defined at all. -/
theorem RendersShape.eq_declared {shape : Shape} {title : Title}
    (h : RendersShape scope name shape node) (hend : ∀ target, shape ≠ .named target)
    (hmark : node.mark? = some (.defines title)) : title = .declared name := by
  cases h with
  | named => exact absurd rfl (hend _)
  | object | row | keyValue | symbols => exact (Mark.defines.inj (Option.some.inj hmark)).symm
  | _ => cases hmark

theorem RendersShape.exists_contains {shape : Shape} {other : String}
    (h : RendersShape scope name shape node) (hother : other ∈ mentioned shape) :
    ∃ part, node.Contains part ∧ Renders scope other part := by
  cases h with
  | primitive => cases hother
  | named h =>
    obtain rfl := List.mem_singleton.mp hother
    exact ⟨_, .refl, h⟩
  | list h =>
    obtain rfl := List.mem_singleton.mp hother
    exact ⟨_, .single List.mem_cons_self, h⟩
  | option h =>
    obtain rfl := List.mem_singleton.mp hother
    exact ⟨_, .single (by simp [Node.nullable, Node.inner]), h⟩
  | object h =>
    obtain ⟨field, hfield, rfl⟩ := List.mem_map.mp hother
    obtain ⟨type, htype, hmem⟩ := exists_mem_zipWith fieldNode h hfield
    exact ⟨type, .head (List.mem_map_of_mem hmem) (contains_fieldNode field type), htype⟩
  | row h =>
    obtain ⟨hcolumn, htimestamp⟩ := List.mem_filter.mp hother
    obtain ⟨column, hmem, rfl⟩ := List.mem_map.mp hcolumn
    obtain ⟨type, htype, hmem⟩ := exists_mem_zipWith columnNode h hmem
    cases htype with
    | timestamp h => simp [h] at htimestamp
    | mention _ h => exact ⟨type, .single (List.mem_map.mpr ⟨_, hmem, rfl⟩), h⟩
  | keyValue hkey hvalue =>
    rcases List.mem_pair.mp hother with rfl | rfl
    · exact ⟨_, .single (by simp [Node.inner]), hkey⟩
    · exact ⟨_, .single (by simp [Node.inner]), hvalue⟩
  | symbols h =>
    obtain ⟨variant, hvariant, hpayload⟩ := List.mem_filterMap.mp hother
    cases (h variant hvariant).symm.trans hpayload
  | @variants _ e _ _ h =>
    obtain ⟨variant, hvariant, hpayload⟩ := List.mem_filterMap.mp hother
    obtain ⟨fields, hfields, hmem⟩ := exists_mem_zipWith
      (fun variant fields ↦ Node.record (.variant name variant.name) fields)
      (List.forall₂_map_left_iff.mp h) hvariant
    rw [hpayload] at hfields
    cases hfields with
    | some h => exact ⟨_, .head hmem (.single (by simp [Node.inner])), h⟩

section Built

variable {after : List String} (hrenders : Renders scope root node)
  (htrail : Trail scope [] node.marks after) (hclear : Unmasked scope)

include hrenders htrail hclear

/-- A type that is referred to is defined somewhere in the schema. -/
theorem exists_of_reference (hfound : scope.lookup? name = some type)
    (hreference : node.Contains (.reference type.name)) :
    (∀ target, type.shape ≠ .named target) ∧ ∃ part, node.Contains part ∧
      RendersShape scope type.name type.shape part ∧
      part.mark? = some (.defines (.declared type.name)) := by
  obtain ⟨first, last, hmarks⟩ := List.append_of_mem (Node.mem_marks_of_contains hreference rfl)
  obtain ⟨title, htitle, hname⟩ := (htrail.exists_title hmarks).resolve_left List.not_mem_nil
  have hdefined : .defines title ∈ node.marks := hmarks ▸ List.mem_append_left _ htitle
  cases title with
  | variant owner variant =>
    have hnone := hclear owner variant (htrail.sourced hdefined)
    rw [hname] at hnone
    exact absurd (List.mem_map_of_mem (mem_of_lookupType hfound)) hnone
  | declared other =>
    obtain rfl : other = type.name := hname
    obtain ⟨part, hpart, hmark⟩ := Node.exists_contains_of_mem_marks node hdefined
    cases hrenders.stems hpart with
    | null => cases hmark
    | timestamp => cases hmark
    | @optional _ node => cases node <;> cases hmark
    | variant => cases hmark
    | mention hreached h =>
      rcases h.source with ⟨kind, rfl⟩ | ⟨type, rfl⟩ | ⟨last, hleads, hshape⟩
      · cases hmark
      · cases hmark
      · obtain ⟨lastName, -, hlast⟩ := hleads.exists_reached hreached
        have hsame : type.name = last.name :=
          Title.declared.inj (hshape.eq_declared hleads.ne_named hmark)
        obtain rfl := eq_of_name_eq hfound hlast.found hsame
        exact ⟨hleads.ne_named, part, hpart, hshape, hmark⟩

/-- A mention of a type is written as the type's shape, or is a reference to it. -/
theorem shape_or_defined (hpart : node.Contains part) (h : Renders scope name part)
    (htype : Stands scope name type) :
    RendersShape scope type.name type.shape part ∨ (∀ target, type.shape ≠ .named target) ∧
      ∃ other, node.Contains other ∧ RendersShape scope type.name type.shape other ∧
        other.mark? = some (.defines (.declared type.name)) := by
  cases h with
  | primitive hkind => cases htype.foreign.symm.trans hkind
  | reference hforeign hfound =>
    obtain rfl := htype.unique ⟨hforeign, hfound⟩
    exact .inr (exists_of_reference hrenders htrail hclear hfound hpart)
  | declared hforeign hfound hshape =>
    obtain rfl := htype.unique ⟨hforeign, hfound⟩
    exact .inl hshape

/-- Every type that is reached is written out. -/
theorem exists_written (hname : Reached scope root name) (htype : Stands scope name type) :
    ∃ part, node.Contains part ∧ RendersShape scope type.name type.shape part := by
  have hwritten {name : String} {type : NamedType} {part : Node} (hpart : node.Contains part)
      (h : Renders scope name part) (htype : Stands scope name type) :
      ∃ part, node.Contains part ∧ RendersShape scope type.name type.shape part := by
    rcases shape_or_defined hrenders htrail hclear hpart h htype with hshape |
      ⟨-, other, hother, hshape, -⟩
    · exact ⟨part, hpart, hshape⟩
    · exact ⟨other, hother, hshape⟩
  induction hname generalizing type with
  | root => exact hwritten .refl hrenders htype
  | mention _ howner hother ih =>
    obtain ⟨part, hpart, hshape⟩ := ih howner
    obtain ⟨inner, hinner, h⟩ := hshape.exists_contains hother
    exact hwritten (hpart.trans hinner) h htype

/-- If the shape at the end of a name's aliases is never defined under a title, the name is written
as that shape. -/
theorem shape_of_leads (hleads : Leads scope name type)
    (hplain : ∀ node, RendersShape scope type.name type.shape node → node.mark? = none)
    (hpart : node.Contains part) (h : Renders scope name part) :
    RendersShape scope type.name type.shape part := by
  induction hleads with
  | here htype _ =>
    rcases shape_or_defined hrenders htrail hclear hpart h htype with hshape |
      ⟨-, other, -, hshape, hmark⟩
    · exact hshape
    · cases (hplain other hshape).symm.trans hmark
  | synonym hfirst htarget _ ih =>
    rcases shape_or_defined hrenders htrail hclear hpart h hfirst with hshape | ⟨hend, -⟩
    · rw [htarget] at hshape
      cases hshape with
      | named h => exact ih hplain h
    · exact absurd htarget (hend _)

/-- A name that leads to a shape that is written as a union is written as that union wherever it
stands. -/
theorem exists_union_of_leads (hleads : Leads scope name type)
    (hunion : ∀ node, RendersShape scope type.name type.shape node → ∃ branches,
      node = .union branches)
    (hpart : node.Contains part) (h : Renders scope name part) :
    ∃ branches, part = .union branches ∧
      RendersShape scope type.name type.shape (.union branches) := by
  have hplain (node : Node) (hnode : RendersShape scope type.name type.shape node) :
      node.mark? = none := by
    obtain ⟨branches, rfl⟩ := hunion node hnode
    rfl
  have hshape := shape_of_leads hrenders htrail hclear hleads hplain hpart h
  obtain ⟨branches, rfl⟩ := hunion part hshape
  exact ⟨branches, rfl, hshape⟩

/-- A name that leads to an enumeration in which values are carried is written as the records of the
variants. -/
theorem exists_records_of_carries (hcarries : Carries scope name) (hpart : node.Contains part)
    (h : Renders scope name part) :
    ∃ branches, part = .union branches ∧ ∀ branch ∈ branches, ∃ title fields,
      branch = .record title fields := by
  obtain ⟨type, e, hleads, he, variant, hvariant, hpayload⟩ := hcarries
  have hunion (node : Node) (hnode : RendersShape scope type.name type.shape node) :
      ∃ branches, node = .union branches := by
    rw [he] at hnode
    cases hnode with
    | symbols hnone => exact absurd (hnone variant hvariant) hpayload
    | variants => exact ⟨_, rfl⟩
  obtain ⟨branches, rfl, hshape⟩ :=
    exists_union_of_leads hrenders htrail hclear hleads hunion hpart h
  rcases hshape.union_cases hleads.ne_named with ⟨value, inner, hvalue, -⟩ | ⟨-, hrecords⟩
  · cases he.symm.trans hvalue
  · exact ⟨branches, rfl, hrecords⟩

end Built

/-- A schema is the tree of its name, and that renders the name and leaves the marks of a
builder. -/
theorem exists_of_schemaJson {self : Exporter} {json : Json} (h : self.schemaJson name = .ok json) :
    ∃ node, self.schemaTree name = .ok node ∧ json = node.toJson self.owner ∧
      Renders self.scope name node ∧ ∃ after, Trail self.scope [] node.marks after := by
  obtain ⟨node, hnode, hjson⟩ := Outcome.bind_eq_ok_iff.mp h
  cases hjson
  exact ⟨node, hnode, rfl, Exporter.renders_of_schemaTree hnode⟩

end FlowSpec.Avro
