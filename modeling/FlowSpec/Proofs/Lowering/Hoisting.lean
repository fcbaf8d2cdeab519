import FlowSpec.Proofs.Lowering.Table
import FlowSpec.Proofs.Scope.Declarations
import Mathlib.Logic.Relation

/-!
Hoisting is faithful. A declaration has a name by which others refer to it (`refName`) and a shape
in which its parts stand by their names (`lowered`); both are functions of the declaration alone.
Hoisting a declaration gives these, whatever the table holds, and takes in the composite
declarations inside it at every depth, each under its name and with its shape (`visits_shapeOf`).
The table that declared types leave behind follows: it holds them and what stands inside them,
nothing else, and two declarations that share a name agree.
-/

set_option autoImplicit false

namespace FlowSpec

open Document (Declaration Property Alternative)
open Lowering

variable {declaration inner : Declaration}

/-! ### What a declaration stands for -/

namespace Document.Declaration

/-- The name by which a declaration is referred to. -/
def refName : Declaration → String
  | plain _ type => Primitive.normalize type
  | list info items => if info.typeName = "" then listName items.refName else info.typeName
  | other => other.info.typeName

/-- What a keyed state holds by a declaration. Counters and rows without a name are embedded. -/
def held : Declaration → StateValue
  | plain _ type =>
    if Primitive.normalize type = "u32" then .u32 else .unresolved (Primitive.normalize type)
  | row info columns =>
    if info.typeName = "" then .row (lowerColumns columns) else .unresolved info.typeName
  | other => .unresolved other.refName

/-- The declarations that a declaration refers to by name, in order. -/
def parts : Declaration → List Declaration
  | plain .. | row .. => []
  | object _ properties => properties.map Property.type
  | enumeration _ _ alternatives => alternatives.filterMap Alternative.payload
  | list _ items => [items]
  | option _ value => [value]
  | keyedState _ key value => key :: if value.held.isResolved then [] else [value]
  | keyValue _ key value => [key, value]

def loweredField (isV5 : Bool) (property : Property Declaration) : Field :=
  { name := property.name, type := property.type.refName, isOptional := property.isOptional
    serde := serde isV5 property.name property.serialize property.deserialize }

def loweredVariant (isV5 : Bool) (alternative : Alternative Declaration) : Variant :=
  { name := alternative.name, payload := alternative.payload.map refName
    serde := serde isV5 alternative.name alternative.serialize alternative.deserialize }

/-- The shape of a declaration, in which its parts stand by their names. -/
def lowered (isV5 : Bool) : Declaration → Shape
  | plain _ type => plainShape type
  | object _ properties => .object (properties.map (loweredField isV5))
  | enumeration _ tagging alternatives =>
    .enumeration
      { variants := alternatives.map (loweredVariant isV5), tagging, bare := alternatives.isEmpty }
  | list _ items => .list items.refName
  | option _ value => .option value.refName
  | keyedState _ key value => .keyedState { key := key.refName, value := value.held }
  | keyValue _ key value => .keyValue key.refName value.refName
  | row _ columns => .row (lowerColumns columns)

/-- Only declarations without parts can do without a name. -/
def IsTitled (declaration : Declaration) : Prop :=
  declaration.isComposite → declaration.refName ≠ ""

theorem listName_ne_empty (item : String) : listName item ≠ "" := by
  simp [listName]

theorem sizeOf_lt_of_mem_parts {part : Declaration} (h : part ∈ declaration.parts) :
    sizeOf part < sizeOf declaration := by
  cases declaration with
  | plain | row => simp [parts] at h
  | object info properties =>
    obtain ⟨property, hproperty, rfl⟩ := List.mem_map.mp h
    have hlt := List.sizeOf_lt_of_mem hproperty
    have htype : sizeOf property.type < sizeOf property := by
      cases property
      simp only [Property.mk.sizeOf_spec]
      omega
    simp only [object.sizeOf_spec]
    omega
  | enumeration info tagging alternatives =>
    obtain ⟨alternative, halternative, hpayload⟩ := List.mem_filterMap.mp h
    have hlt := List.sizeOf_lt_of_mem halternative
    have htype : sizeOf part < sizeOf alternative := by
      cases alternative
      cases hpayload
      simp only [Alternative.mk.sizeOf_spec, Option.some.sizeOf_spec]
      omega
    simp only [enumeration.sizeOf_spec]
    omega
  | list info items =>
    cases List.mem_singleton.mp h
    simp only [list.sizeOf_spec]
    omega
  | option info value =>
    cases List.mem_singleton.mp h
    simp only [option.sizeOf_spec]
    omega
  | keyedState info key value =>
    have hor : part = key ∨ part = value := by
      simp only [parts, List.mem_cons] at h
      refine h.imp_right fun h ↦ ?_
      split at h <;> simp_all
    simp only [keyedState.sizeOf_spec]
    rcases hor with rfl | rfl <;> omega
  | keyValue info key value =>
    have hor : part = key ∨ part = value := by simpa [parts] using h
    simp only [keyValue.sizeOf_spec]
    rcases hor with rfl | rfl <;> omega

/-- What holds of a declaration whenever it holds of its parts holds of all. -/
theorem induction_parts {motive : Declaration → Prop}
    (h : ∀ declaration, (∀ part ∈ declaration.parts, motive part) → motive declaration)
    (declaration : Declaration) : motive declaration :=
  h declaration fun part _hpart ↦ induction_parts h part
termination_by sizeOf declaration
decreasing_by exact sizeOf_lt_of_mem_parts _hpart

end Document.Declaration

namespace Lowering

/-- One of the declarations, or one that stands inside one of them at some depth. -/
def Among (declarations : List Declaration) (inner : Declaration) : Prop :=
  ∃ outer ∈ declarations,
    Relation.ReflTransGen (fun whole part : Declaration ↦ part ∈ whole.parts) outer inner

theorem not_among_nil (inner : Declaration) : ¬ Among [] inner := by
  simp [Among]

theorem among_append_iff {first last : List Declaration} :
    Among (first ++ last) inner ↔ Among first inner ∨ Among last inner := by
  simp only [Among, List.mem_append, or_and_right, exists_or]

theorem among_singleton_iff :
    Among [declaration] inner ↔ inner = declaration ∨ Among declaration.parts inner := by
  simp only [Among, List.mem_singleton, exists_eq_left]
  rw [Relation.ReflTransGen.cases_head_iff, eq_comm]

theorem among_trans {declarations : List Declaration}
    (h : Among declarations declaration) (hinner : Among [declaration] inner) :
    Among declarations inner := by
  obtain ⟨outer, houter, hpath⟩ := h
  obtain ⟨middle, hmem, hpath'⟩ := hinner
  cases List.mem_singleton.mp hmem
  exact ⟨outer, houter, hpath.trans hpath'⟩

/-- The entries of composite declarations, those inside them included. -/
def entriesOf (isV5 : Bool) (declarations : List Declaration) : Set (String × Shape) :=
  {entry | ∃ inner, Among declarations inner ∧ inner.isComposite ∧
    entry = (inner.refName, inner.lowered isV5)}

theorem entriesOf_nil (isV5 : Bool) : entriesOf isV5 [] = ∅ := by
  ext entry
  simp [entriesOf, not_among_nil]

theorem entriesOf_append (isV5 : Bool) (first last : List Declaration) :
    entriesOf isV5 (first ++ last) = entriesOf isV5 first ∪ entriesOf isV5 last := by
  ext entry
  simp only [entriesOf, among_append_iff, or_and_right, exists_or]
  rfl

theorem entriesOf_plain (isV5 : Bool) (h : declaration.isComposite = false) :
    entriesOf isV5 [declaration] = entriesOf isV5 declaration.parts := by
  ext entry
  simp only [entriesOf, among_singleton_iff, or_and_right, exists_or, exists_eq_left, h]
  simp

theorem entriesOf_composite (isV5 : Bool) (h : declaration.isComposite = true) :
    entriesOf isV5 [declaration] =
      entriesOf isV5 declaration.parts ∪ {(declaration.refName, declaration.lowered isV5)} := by
  ext entry
  simp only [entriesOf, among_singleton_iff, or_and_right, exists_or, exists_eq_left, h, true_and]
  exact or_comm

/-! ### Hoisting one declaration -/

/-- A composite declaration stands in the table under its name. -/
def Found (isV5 : Bool) (table : Table) (declaration : Declaration) : Prop :=
  declaration.isComposite → declaration.refName ≠ "" ∧
    table.lookup declaration.refName = some (declaration.lowered isV5)

/-- The action hoists the declarations and what stands inside them, all of which have names. Where
they are found already it changes nothing. -/
structure Visits {α : Type} (isV5 : Bool) (action : Lower α) (declarations : List Declaration)
    (property : α → Prop) : Prop where
  lowers : Lowers action (entriesOf isV5 declarations)
    fun value ↦ property value ∧ ∀ inner, Among declarations inner → inner.IsTitled
  rests : ∀ table, (∀ inner, Among declarations inner → Found isV5 table inner) →
    ∃ value, property value ∧ action.run table = .ok (value, table)

namespace Visits

variable {α β : Type} {isV5 : Bool} {action : Lower α} {next : α → Lower β}
  {declarations others : List Declaration} {property : α → Prop} {later : β → Prop}

theorem pure {value : α} (h : property value) : Visits isV5 (pure value) [] property where
  lowers := by
    rw [entriesOf_nil]
    exact .pure ⟨h, fun inner hinner ↦ absurd hinner (not_among_nil inner)⟩
  rests table _ := ⟨value, h, rfl⟩

theorem bind (haction : Visits isV5 action declarations property)
    (hnext : ∀ value, property value → Visits isV5 (next value) others later) :
    Visits isV5 (action >>= next) (declarations ++ others) later where
  lowers := by
    rw [entriesOf_append]
    refine haction.lowers.bind fun value hvalue ↦
      (hnext value hvalue.1).lowers.mono fun result hresult ↦ ?_
    refine ⟨hresult.1, fun inner hinner ↦ ?_⟩
    exact (among_append_iff.mp hinner).elim (hvalue.2 inner) (hresult.2 inner)
  rests table hfound := by
    obtain ⟨value, hvalue, hrun⟩ := haction.rests table
      fun inner hinner ↦ hfound inner (among_append_iff.mpr (.inl hinner))
    obtain ⟨result, hresult, hrun'⟩ := (hnext value hvalue).rests table
      fun inner hinner ↦ hfound inner (among_append_iff.mpr (.inr hinner))
    refine ⟨result, hresult, ?_⟩
    rw [StateT.run_bind]
    exact Outcome.bind_eq_ok_iff.mpr ⟨_, hrun, hrun'⟩

theorem map {f : α → β} (haction : Visits isV5 action declarations property)
    (h : ∀ value, property value → later (f value)) :
    Visits isV5 (f <$> action) declarations later := by
  rw [← bind_pure_comp, ← List.append_nil declarations]
  exact haction.bind fun value hvalue ↦ .pure (h value hvalue)

theorem inContext (context : String) (haction : Visits isV5 action declarations property) :
    Visits isV5 (inContext context action) declarations property where
  lowers := haction.lowers.inContext context
  rests table hfound := by
    obtain ⟨value, hvalue, hrun⟩ := haction.rests table hfound
    exact ⟨value, hvalue, Outcome.mapError_eq_ok_iff.mpr hrun⟩

/-- A second visit finds everything where the first has put it. -/
theorem again {value result : α} {before after : Table}
    (h : Visits isV5 action declarations (· = value))
    (hrun : action.run before = .ok (result, after)) : action.run after = .ok (result, after) := by
  obtain ⟨⟨rfl, htitled⟩, hhoisted⟩ := h.lowers.ok _ _ _ hrun
  have hfound (inner : Declaration) (hinner : Among declarations inner) : Found isV5 after inner :=
    fun hcomposite ↦
      ⟨htitled inner hinner hcomposite, hhoisted.found _ _ ⟨inner, hinner, hcomposite, rfl⟩⟩
  obtain ⟨_, hvalue, hagain⟩ := h.rests after hfound
  exact hvalue ▸ hagain

end Visits

variable {isV5 : Bool}

/-- A composite declaration is hoisted under its name after the declarations inside. -/
theorem visits_hoist {action : Lower Shape} (name : Shape → String)
    (hcomposite : declaration.isComposite = true)
    (hname : name (declaration.lowered isV5) = declaration.refName) (hne : declaration.refName ≠ "")
    (haction : Visits isV5 action declaration.parts (· = declaration.lowered isV5)) :
    Visits isV5 (do let shape ← action; hoist (name shape) shape; return name shape) [declaration]
      (· = declaration.refName) where
  lowers := by
    rw [entriesOf_composite isV5 hcomposite]
    refine haction.lowers.bind ?_
    rintro - ⟨rfl, htitled⟩
    rw [bind_pure_comp, hname]
    refine (Lowers.hoist _ _).map fun _ _ ↦ ⟨rfl, fun inner hinner ↦ ?_⟩
    rcases among_singleton_iff.mp hinner with rfl | hinner
    · exact fun _ ↦ hne
    · exact htitled inner hinner
  rests table hfound := by
    obtain ⟨-, rfl, hrun⟩ := haction.rests table
      fun inner hinner ↦ hfound inner (among_singleton_iff.mpr (.inr hinner))
    have hlookup := (hfound declaration (among_singleton_iff.mpr (.inl rfl)) hcomposite).2
    have hhoist : (hoist declaration.refName (declaration.lowered isV5)).run table =
        .ok ((), table) := by
      rw [run_hoist, hlookup]
      exact if_pos rfl
    refine ⟨declaration.refName, rfl, ?_⟩
    rw [StateT.run_bind]
    refine Outcome.bind_eq_ok_iff.mpr ⟨_, hrun, ?_⟩
    rw [hname, StateT.run_bind]
    exact Outcome.bind_eq_ok_iff.mpr ⟨_, hhoist, rfl⟩

/-- What a reference to a declaration does, from what its shape does. -/
theorem visits_reference
    (h : Visits isV5 (shapeOf isV5 declaration) declaration.parts (· = declaration.lowered isV5)) :
    Visits isV5 (reference declaration (shapeOf isV5 declaration)) [declaration]
      (· = declaration.refName) := by
  generalize shapeOf isV5 declaration = shape at h
  unfold reference
  split
  next info type =>
    refine ⟨?_, fun table _ ↦ ⟨_, rfl, rfl⟩⟩
    rw [entriesOf_plain isV5 rfl, Declaration.parts, entriesOf_nil]
    refine .pure ⟨rfl, fun inner hinner ↦ ?_⟩
    rcases among_singleton_iff.mp hinner with rfl | hinner
    · exact fun hcomposite ↦ nomatch hcomposite
    · exact absurd hinner (not_among_nil inner)
  next line items =>
    exact visits_hoist (fun shape ↦ Declaration.listName shape.refName) rfl rfl
      (Declaration.listName_ne_empty _) h
  next hplain hlist =>
    have hcomposite : declaration.isComposite = true := by
      cases declaration with
      | plain info type => exact absurd rfl (hplain info type)
      | _ => rfl
    have href : declaration.refName = declaration.info.typeName := by
      cases declaration with
      | plain info type => exact absurd rfl (hplain info type)
      | list info items =>
        obtain ⟨line, typeName⟩ := info
        exact if_neg fun hname ↦ hlist line items (by rw [show typeName = "" from hname])
      | _ => rfl
    dsimp only
    split
    next hname =>
      have hname : declaration.refName = "" := by rw [href]; simpa using hname
      refine ⟨.fail fun _ ↦ Cause.noConfusion, fun table hfound ↦ ?_⟩
      exact absurd hname (hfound declaration (among_singleton_iff.mpr (.inl rfl)) hcomposite).1
    next hname =>
      have hname : declaration.refName ≠ "" := by rw [href]; simpa using hname
      exact visits_hoist (fun _ ↦ declaration.info.typeName) hcomposite href.symm hname
        (h.inContext _)

/-- What the value of a keyed state does; an embedded one hoists nothing. -/
theorem visits_stateValue {value : Declaration}
    (h : value.held.isResolved = false →
      Visits isV5 (reference value (shapeOf isV5 value)) [value] (· = value.refName)) :
    Visits isV5 (stateValue value (shapeOf isV5 value)) (if value.held.isResolved then
      [] else [value]) (· = value.held) := by
  unfold stateValue
  split
  next line columns => exact .pure rfl
  next info type =>
    by_cases hcounter : Primitive.normalize type = "u32"
    · have hheld : (Declaration.plain info type).held = .u32 := if_pos hcounter
      rw [hheld, if_pos (by simpa using hcounter)]
      exact .pure rfl
    · have hheld : (Declaration.plain info type).held = .unresolved (Primitive.normalize type) :=
        if_neg hcounter
      rw [hheld] at h ⊢
      rw [if_neg (by simpa using hcounter)]
      exact (h rfl).map fun name hname ↦ hname ▸ rfl
  next hrow hplain =>
    have hheld : value.held = .unresolved value.refName := by
      cases value with
      | plain info type => exact absurd rfl (hplain info type)
      | row info columns =>
        obtain ⟨line, typeName⟩ := info
        exact if_neg fun hname ↦ hrow line columns (by rw [show typeName = "" from hname])
      | _ => rfl
    rw [hheld] at h ⊢
    exact ((h rfl).inContext _).map fun name hname ↦ hname ▸ rfl

theorem visits_fieldsOf (properties : List (Property Declaration))
    (h : ∀ part ∈ properties.map Property.type,
      Visits isV5 (reference part (shapeOf isV5 part)) [part] (· = part.refName)) :
    Visits isV5 (fieldsOf isV5 properties) (properties.map Property.type)
      (· = properties.map (Declaration.loweredField isV5)) := by
  induction properties with
  | nil =>
    rw [fieldsOf]
    exact .pure rfl
  | cons property rest ih =>
    obtain ⟨hhead, hrest⟩ := List.forall_mem_cons.mp h
    obtain ⟨name, type, isOptional, serialize, deserialize⟩ := property
    rw [fieldsOf]
    refine (hhead.inContext _).bind ?_
    rintro - rfl
    rw [bind_pure_comp]
    exact (ih hrest).map fun fields hfields ↦ hfields ▸ rfl

theorem visits_variantsOf (alternatives : List (Alternative Declaration))
    (h : ∀ part ∈ alternatives.filterMap Alternative.payload,
      Visits isV5 (reference part (shapeOf isV5 part)) [part] (· = part.refName)) :
    Visits isV5 (variantsOf isV5 alternatives) (alternatives.filterMap Alternative.payload)
      (· = alternatives.map (Declaration.loweredVariant isV5)) := by
  induction alternatives with
  | nil =>
    rw [variantsOf]
    exact .pure rfl
  | cons alternative rest ih =>
    obtain ⟨name, payload, serialize, deserialize⟩ := alternative
    cases payload with
    | none =>
      rw [variantsOf, pure_bind]
      dsimp only
      rw [bind_pure_comp]
      exact (ih h).map fun variants hvariants ↦ hvariants ▸ rfl
    | some type =>
      obtain ⟨hhead, hrest⟩ := List.forall_mem_cons.mp h
      have hpayload : Visits isV5 (some <$> inContext (named "variant" name)
          (reference type (shapeOf isV5 type))) [type] (· = some type.refName) :=
        (hhead.inContext _).map fun payload hpayload ↦ congrArg some hpayload
      rw [variantsOf]
      refine hpayload.bind ?_
      rintro - rfl
      dsimp only
      rw [bind_pure_comp]
      exact (ih hrest).map fun variants hvariants ↦ hvariants ▸ rfl

/-- Hoisting a declaration gives its shape and takes in the declarations inside it. -/
theorem visits_shapeOf (isV5 : Bool) (declaration : Declaration) :
    Visits isV5 (shapeOf isV5 declaration) declaration.parts (· = declaration.lowered isV5) := by
  induction declaration using Declaration.induction_parts with
  | h declaration ih =>
    replace ih := fun part hpart ↦ visits_reference (ih part hpart)
    cases declaration with
    | plain info type =>
      rw [shapeOf]
      exact .pure rfl
    | row info columns =>
      rw [shapeOf]
      exact .pure rfl
    | object info properties =>
      rw [shapeOf]
      exact (visits_fieldsOf properties ih).map fun fields hfields ↦ hfields ▸ rfl
    | enumeration info tagging alternatives =>
      rw [shapeOf, bind_pure_comp]
      refine (visits_variantsOf alternatives ih).map ?_
      rintro - rfl
      simp [Declaration.lowered]
    | list info items =>
      rw [shapeOf]
      exact (ih items List.mem_cons_self).map fun name hname ↦ hname ▸ rfl
    | option info value =>
      rw [shapeOf]
      exact (ih value List.mem_cons_self).map fun name hname ↦ hname ▸ rfl
    | keyedState info key value =>
      rw [shapeOf]
      refine ((ih key List.mem_cons_self).inContext _).bind ?_
      rintro - rfl
      rw [bind_pure_comp]
      refine (visits_stateValue fun hopen ↦ ih value ?_).map fun held hheld ↦ hheld ▸ rfl
      simp [Declaration.parts, hopen]
    | keyValue info key value =>
      rw [shapeOf]
      refine (ih key List.mem_cons_self).bind ?_
      rintro - rfl
      rw [bind_pure_comp]
      exact (ih value (by simp [Declaration.parts])).map fun name hname ↦ hname ▸ rfl

/-- The items of a list without a name may be visited for the name first and then for the shape once
more. -/
theorem reference_unnamedList (isV5 : Bool) (line : Nat) (items : Declaration) :
    reference (.list { line } items) (shapeOf isV5 (.list { line } items)) = do
      let name := Declaration.listName (← reference items (shapeOf isV5 items))
      let shape ← inContext (named "type" name) (shapeOf isV5 (.list { line } items))
      hoist name shape
      return name := by
  have hvisits := visits_reference (visits_shapeOf isV5 items)
  rw [shapeOf]
  generalize reference items (shapeOf isV5 items) = visit at hvisits ⊢
  ext table
  cases hvisit : visit.run table with
  | error error =>
    simp only [reference, StateT.run_bind, StateT.run_map, hvisit]
    rfl
  | ok result =>
    simp only [reference, StateT.run_bind, StateT.run_map, run_inContext, hvisit, Outcome.ok_bind,
      hvisits.again hvisit]
    rfl

/-! ### Declared types -/

/-- The entries of declared types and of the composite declarations inside them. -/
def declaredEntries (isV5 : Bool) (declarations : List (String × Declaration)) :
    Set (String × Shape) :=
  {entry | ∃ outer ∈ declarations,
    entry = (outer.1, outer.2.lowered isV5) ∨ entry ∈ entriesOf isV5 outer.2.parts}

theorem lowers_declare (isV5 : Bool) (declarations : List (String × Declaration)) :
    Lowers (declare isV5 declarations) (declaredEntries isV5 declarations)
      fun _ ↦ ∀ outer ∈ declarations, ∀ inner, Among outer.2.parts inner → inner.IsTitled := by
  have hentries : declaredEntries isV5 declarations =
      ⋃ outer ∈ Text.sortByName Prod.fst declarations,
        entriesOf isV5 outer.2.parts ∪ {(outer.1, outer.2.lowered isV5)} := by
    ext entry
    simp [declaredEntries, Text.mem_sortByName]
  have hsteps : ∀ outer ∈ Text.sortByName Prod.fst declarations,
      Lowers (do
        let shape ← inContext (named "type" outer.1) do
          if outer.2.info.typeName ≠ "" then fail .topLevelTypeName
          shapeOf isV5 outer.2
        hoist outer.1 shape)
        (entriesOf isV5 outer.2.parts ∪ {(outer.1, outer.2.lowered isV5)})
        fun _ ↦ ∀ inner, Among outer.2.parts inner → inner.IsTitled := by
    rintro ⟨name, declaration⟩ -
    have hshape := (visits_shapeOf isV5 declaration).lowers
    refine ((hshape.guard fun _ ↦ Cause.noConfusion).inContext _).bind ?_
    rintro - ⟨rfl, htitled⟩
    exact (Lowers.hoist _ _).mono fun _ _ ↦ htitled
  rw [hentries]
  exact (Lowers.forM hsteps).mono fun _ h outer houter ↦ h outer (Text.mem_sortByName.mpr houter)

/-- What declaring types at the top level leaves behind. Each type has the shape of its declaration.
A declaration inside one is referred to by its name, and if it is composite its shape is found under
that name. There are no other entries, no entry is overwritten, and a redefinition is told only of a
name that two declarations give to different shapes. -/
theorem declare_hoists (isV5 : Bool) (declarations : List (String × Declaration)) :
    (∀ before after, (declare isV5 declarations).run before = .ok ((), after) → before <+: after) ∧
    match (declare isV5 declarations).run [] with
    | .ok (_, table) =>
      (∀ outer ∈ declarations, table.lookup outer.1 = some (outer.2.lowered isV5) ∧
        ∀ inner, Among outer.2.parts inner → Found isV5 table inner ∧
          (∀ before name after, (reference inner (shapeOf isV5 inner)).run before =
            .ok (name, after) → name = inner.refName ∧ before <+: after) ∧
          (reference inner (shapeOf isV5 inner)).run table = .ok (inner.refName, table)) ∧
      (∀ entry ∈ table, entry ∈ declaredEntries isV5 declarations) ∧
      (table.map Prod.fst).Nodup
    | .error error => ∀ name, error.cause = .redefined name →
        Clashes (declaredEntries isV5 declarations) name := by
  have hlowers := lowers_declare isV5 declarations
  refine ⟨fun before after hrun ↦ (hlowers.ok _ _ _ hrun).2.kept, ?_⟩
  cases hrun : (declare isV5 declarations).run [] with
  | error error =>
    intro name hcause
    exact (hlowers.error _ _ _ hrun hcause).mono (by simp)
  | ok result =>
    obtain ⟨value, table⟩ := result
    obtain ⟨htitled, hhoisted⟩ := hlowers.ok _ _ _ hrun
    have hfound : ∀ outer ∈ declarations, ∀ inner, Among outer.2.parts inner →
        Found isV5 table inner :=
      fun outer houter inner hinner hcomposite ↦ ⟨htitled outer houter inner hinner hcomposite,
        hhoisted.found _ _ ⟨outer, houter, .inr ⟨inner, hinner, hcomposite, rfl⟩⟩⟩
    refine ⟨fun outer houter ↦ ⟨hhoisted.found _ _ ⟨outer, houter, .inl rfl⟩,
      fun inner hinner ↦ ⟨hfound outer houter inner hinner, ?_, ?_⟩⟩,
      fun entry hentry ↦ (hhoisted.added entry hentry).resolve_left List.not_mem_nil,
      hhoisted.nodup List.nodup_nil⟩
    · intro before name after hreference
      obtain ⟨⟨hname, -⟩, hgrown⟩ :=
        (visits_reference (visits_shapeOf isV5 inner)).lowers.ok _ _ _ hreference
      exact ⟨hname, hgrown.kept⟩
    · obtain ⟨-, rfl, hreference⟩ := (visits_reference (visits_shapeOf isV5 inner)).rests table
        fun deeper hdeeper ↦ hfound outer houter deeper (among_trans hinner hdeeper)
      exact hreference

example : (declare false [("order", .object {}
      [{ name := "lines", isOptional := true
         type :=
           .list {} (.object { typeName := "line" }
               [{ name := "count", type := .plain {} "i32" }]) }])]).run
      [] =
    .ok ((),
      [("line", .object
        [{ name := "count", type := "s32", serde := ⟨some "count", some "count"⟩ }]),
        ("list-line-gen-type", .list "line"),
        ("order", .object [{ name := "lines", type := "list-line-gen-type", isOptional := true
                             serde := ⟨some "lines", some "lines"⟩ }])]) := by
  cbv

end Lowering

end FlowSpec
