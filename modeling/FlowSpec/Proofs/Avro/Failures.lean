import FlowSpec.Document.Declaration
import FlowSpec.Proofs.Avro.Provenance
import FlowSpec.Proofs.Scope.Validity
import Mathlib.Data.List.Perm.Subperm

/-!
Building a schema ends, and it fails for a reason. The builder is told without a bound first
(`Builds`): a type that is neither defined nor being visited is visited, and the names that it
mentions are built with one more type visited. A visit is of a type that is not visited yet, so
building ends on every scope, with cycles as well, and the builder with fuel is that builder. Where
it fails, the way that it came by tells why (`Reason`): a name that stands for nothing, a type
without a representation, or a cycle. The types on that way that are written as records are defined
by then, so what closes a cycle is an alias, a list, an option or an enumeration in which values are
carried.
-/

set_option autoImplicit false

namespace FlowSpec.Avro

open Exporter (Mention)
open Outcome

variable {scope : Scope} {root name : String} {type : NamedType} {visited defined : List String}
  {outcome : Except ExportError (Node × List String)}

/-! ### Building without a bound -/

/-- What comes of a mention while some types are being visited and some names are defined: a schema
with the names that are defined then, or an error. What a type mentions is built whatever is defined
when it is reached. -/
inductive Builds (scope : Scope) :
    List String → String → List String → Except ExportError (Node × List String) → Prop
  | primitive {visited defined : List String} {name : String} {kind : Primitive}
      (h : Primitive.ofName? name = some kind) :
      Builds scope visited name defined (.ok (.primitive kind, defined))
  | unknown {visited defined : List String} {name : String}
      (hforeign : Primitive.ofName? name = none) (h : scope.lookup? name = none) :
      Builds scope visited name defined (.error (.unknownType name))
  | reference {visited defined : List String} {name : String} {type : NamedType}
      (h : Stands scope name type) (hdefined : type.name ∈ defined) :
      Builds scope visited name defined (.ok (.reference type.name, defined))
  | cycle {visited defined : List String} {name : String} {type : NamedType}
      (h : Stands scope name type) (hnew : type.name ∉ defined) (hvisited : type.name ∈ visited) :
      Builds scope visited name defined (.error (.selfReference type.name))
  | visit {visited defined : List String} {name : String} {type : NamedType} {mention : Mention}
      (h : Stands scope name type) (hnew : type.name ∉ defined) (hfresh : type.name ∉ visited)
      (hparts : ∀ other ∈ mentioned type.shape, ∀ before,
        Builds scope (type.name :: visited) other before ((mention other).run before)) :
      Builds scope visited name defined
        ((Exporter.shapeNode mention type.name type.shape).run defined)

/-- The schema of a shape depends on no more than the names that the shape mentions. -/
theorem shapeNode_congr {first second : Mention} {shape : Shape}
    (h : ∀ other ∈ mentioned shape, first other = second other) :
    Exporter.shapeNode first name shape = Exporter.shapeNode second name shape := by
  cases shape with
  | primitive | null | keyedState => rfl
  | named target => exact h target List.mem_cons_self
  | list item => rw [Exporter.shapeNode, Exporter.shapeNode, h item List.mem_cons_self]
  | option value => rw [Exporter.shapeNode, Exporter.shapeNode, h value List.mem_cons_self]
  | keyValue key value =>
    rw [Exporter.shapeNode, Exporter.shapeNode, h key (by simp [mentioned, Shape.references]),
      h value (by simp [mentioned, Shape.references])]
  | object fields =>
    have hfields : fields.mapM (Exporter.objectField first name) =
        fields.mapM (Exporter.objectField second name) :=
      mapM_congr fun field hfield ↦ by
        rw [Exporter.objectField, Exporter.objectField, h field.type (List.mem_map_of_mem hfield)]
    rw [Exporter.shapeNode, Exporter.shapeNode, hfields]
  | row columns =>
    have hcolumns : columns.mapM (Exporter.columnField first name) =
        columns.mapM (Exporter.columnField second name) := by
      refine mapM_congr fun column hcolumn ↦ ?_
      unfold Exporter.columnField
      split_ifs with htimestamp
      · rfl
      · rw [h column.type
            (by simpa [mentioned] using ⟨⟨column, hcolumn, rfl⟩, by simpa using htimestamp⟩)]
    rw [Exporter.shapeNode, Exporter.shapeNode, hcolumns]
  | enumeration e =>
    have hvariants : e.variants.mapM (Exporter.variantRecord first name) =
        e.variants.mapM (Exporter.variantRecord second name) := by
      refine mapM_congr fun variant hvariant ↦ ?_
      rw [Exporter.variantRecord, Exporter.variantRecord]
      cases hpayload : variant.payload with
      | none => rfl
      | some payload =>
        dsimp only
        rw [h payload (List.mem_filterMap.mpr ⟨variant, hvariant, hpayload⟩)]
    rw [Exporter.shapeNode, Exporter.shapeNode, hvariants]

/-- Building has one outcome. -/
theorem Builds.unique {other : Except ExportError (Node × List String)}
    (h : Builds scope visited name defined outcome)
    (hother : Builds scope visited name defined other) : outcome = other := by
  induction h generalizing other with
  | primitive hkind =>
    cases hother with
    | primitive hother => rw [Option.some.inj (hkind.symm.trans hother)]
    | unknown hforeign => cases hkind.symm.trans hforeign
    | reference hstands | cycle hstands | visit hstands => cases hkind.symm.trans hstands.foreign
  | unknown hforeign hnone =>
    cases hother with
    | primitive hkind => cases hforeign.symm.trans hkind
    | unknown => rfl
    | reference hstands | cycle hstands | visit hstands => cases hnone.symm.trans hstands.found
  | reference hstands hdefined =>
    cases hother with
    | primitive hkind => cases hkind.symm.trans hstands.foreign
    | unknown _ hnone => cases hnone.symm.trans hstands.found
    | reference hsame => rw [hstands.unique hsame]
    | cycle hsame hnew | visit hsame hnew => exact absurd (hstands.unique hsame ▸ hdefined) hnew
  | cycle hstands hnew hvisited =>
    cases hother with
    | primitive hkind => cases hkind.symm.trans hstands.foreign
    | unknown _ hnone => cases hnone.symm.trans hstands.found
    | reference hsame hdefined => exact absurd (hsame.unique hstands ▸ hdefined) hnew
    | cycle hsame => rw [hstands.unique hsame]
    | visit hsame _ hfresh => exact absurd (hstands.unique hsame ▸ hvisited) hfresh
  | visit hstands hnew hfresh _ ih =>
    cases hother with
    | primitive hkind => cases hkind.symm.trans hstands.foreign
    | unknown _ hnone => cases hnone.symm.trans hstands.found
    | reference hsame hdefined => exact absurd (hsame.unique hstands ▸ hdefined) hnew
    | cycle hsame _ hvisited => exact absurd (hsame.unique hstands ▸ hvisited) hfresh
    | visit hsame _ _ hparts =>
      obtain rfl := hstands.unique hsame
      rw [shapeNode_congr fun part hpart ↦
        StateT.ext fun before ↦ ih part hpart before (hparts part hpart before)]

/-- While these types are being visited there is fuel for all that are left. -/
structure Fuelled (scope : Scope) (fuel : Nat) (visited : List String) : Prop where
  nodup : visited.Nodup
  subset : visited ⊆ scope.types.map NamedType.name
  enough : scope.size < fuel + visited.length

theorem Fuelled.positive {fuel : Nat} (h : Fuelled scope fuel visited) : 0 < fuel := by
  have hlength : visited.length ≤ (scope.types.map NamedType.name).length :=
    (h.nodup.subperm h.subset).length_le
  have henough := h.enough
  rw [List.length_map] at hlength
  rw [Scope.size] at henough
  omega

theorem Fuelled.visit {fuel : Nat} (h : Fuelled scope (fuel + 1) visited)
    (htype : type ∈ scope.types) (hfresh : type.name ∉ visited) :
    Fuelled scope fuel (type.name :: visited) where
  nodup := List.nodup_cons.mpr ⟨hfresh, h.nodup⟩
  subset := List.cons_subset.mpr ⟨List.mem_map_of_mem htype, h.subset⟩
  enough := by
    have henough := h.enough
    rw [List.length_cons]
    omega

/-- With fuel for all types that are left, the builder is the one without a bound. -/
theorem builds_mention (self : Exporter) (fuel : Nat) (name : String) (defined : List String)
    (h : Fuelled self.scope fuel visited) :
    Builds self.scope visited name defined ((self.mention fuel visited name).run defined) := by
  induction fuel generalizing visited name defined with
  | zero => exact absurd h.positive (Nat.lt_irrefl 0)
  | succ fuel ih =>
    rw [Exporter.mention]
    cases hkind : Primitive.ofName? name with
    | some kind => exact .primitive hkind
    | none =>
      cases hlookup : self.scope.lookup? name with
      | none => exact .unknown hkind hlookup
      | some type =>
        have hstands : Stands self.scope name type := ⟨hkind, hlookup⟩
        rw [StateT.run_bind]
        change Builds _ _ _ _ (StateT.run (if defined.contains type.name then _ else _) defined)
        by_cases hdefined : type.name ∈ defined
        · rw [if_pos (List.contains_iff_mem.mpr hdefined)]
          exact .reference hstands hdefined
        · rw [if_neg (mt List.contains_iff_mem.mp hdefined)]
          by_cases hvisited : type.name ∈ visited
          · rw [if_pos (List.contains_iff_mem.mpr hvisited)]
            exact .cycle hstands hdefined hvisited
          · rw [if_neg (mt List.contains_iff_mem.mp hvisited)]
            have hfuelled := h.visit (mem_of_lookupType hlookup) hvisited
            exact .visit hstands hdefined hvisited fun other _ before ↦ ih other before hfuelled

/-! ### Reasons -/

/-- The error that the parts of types and topics were wrapped around. -/
def ExportError.cause : ExportError → ExportError
  | inPart _ _ inner | inTopic _ _ inner => inner.cause
  | error => error

/-- The error says that a type has no representation. -/
def ExportError.IsNotExportable (error : ExportError) : Prop :=
  (∃ name, error.cause = .selfReference name) ∨ ∃ name kind, error.cause = .noSchema name kind

/-- Types that are written through another type, without a record of their own: aliases, lists,
options, and enumerations in which values are carried. -/
def PassesOn : Shape → Prop
  | .named _ | .list _ | .option _ => True
  | .enumeration e => ∃ variant ∈ e.variants, variant.payload ≠ none
  | _ => False

/-- A keyed state or a null type is reached. -/
def Barred (scope : Scope) (root : String) : Prop :=
  ∃ name type, Reached scope root name ∧ Stands scope name type ∧
    (type.shape = .null ∨ ∃ state, type.shape = .keyedState state)

/-- A cycle is reached that passes through an alias, a list, an option or an enumeration in which
values are carried. -/
def Circles (scope : Scope) (root : String) : Prop :=
  ∃ name type, Reached scope root name ∧ Stands scope name type ∧ PassesOn type.shape ∧
    ∃ other ∈ mentioned type.shape, Reached scope other name

/-- What an error of the builder tells about the names that are reached. -/
def Reason (scope : Scope) (root : String) : ExportError → Prop
  | .unknownType name =>
    Reached scope root name ∧ Primitive.ofName? name = none ∧ scope.lookup? name = none
  | .selfReference _ => Barred scope root ∨ Circles scope root
  | .noSchema _ _ => Barred scope root
  | _ => False

/-! ### Actions that fail for a reason -/

section Blames

variable {α β : Type} {reason : ExportError → Prop} {start more : List String} {action : Build α}
  {next : α → Build β}

/-- Where these names are defined, the action keeps what is defined, and if it fails it is for the
reason. -/
structure Blames (reason : ExportError → Prop) (start : List String) (action : Build α) : Prop where
  grows : ∀ before value after, start ⊆ before → action.run before = .ok (value, after) →
    before ⊆ after
  fails : ∀ before error, start ⊆ before → action.run before = .error error → reason error.cause

namespace Blames

theorem pure (value : α) : Blames reason start (pure value) where
  grows before result after _ hrun := by
    cases hrun
    exact List.Subset.refl before
  fails before error _ hrun := by cases hrun

theorem throw {error : ExportError} (h : reason error.cause) :
    Blames reason start (throw error : Build α) where
  grows before result after _ hrun := by cases hrun
  fails before other _ hrun := by
    cases hrun
    exact h

theorem mono (haction : Blames reason start action) (h : start ⊆ more) :
    Blames reason more action where
  grows before value after hmore := haction.grows before value after (List.Subset.trans h hmore)
  fails before error hmore := haction.fails before error (List.Subset.trans h hmore)

theorem bind (haction : Blames reason start action)
    (hnext : ∀ value, Blames reason start (next value)) :
    Blames reason start (action >>= next) where
  grows before result after hstart hrun := by
    obtain ⟨⟨value, between⟩, hvalue, hresult⟩ := bind_eq_ok_iff.mp hrun
    have hbetween := haction.grows before value between hstart hvalue
    have hresult :=
      (hnext value).grows between result after (List.Subset.trans hstart hbetween) hresult
    exact List.Subset.trans hbetween hresult
  fails before error hstart hrun := by
    rcases bind_eq_error_iff.mp hrun with herror | ⟨⟨value, between⟩, hvalue, herror⟩
    · exact haction.fails before error hstart herror
    · have hbetween := haction.grows before value between hstart hvalue
      exact (hnext value).fails between error (List.Subset.trans hstart hbetween) herror

/-- What comes after a definition can count on it. -/
theorem define (title : Title) {action : Build α}
    (haction : Blames reason (title.name :: start) action) :
    Blames reason start (Exporter.define title >>= fun _ ↦ action) where
  grows before value after hstart hrun :=
    List.Subset.trans (List.subset_cons_self title.name before)
      (haction.grows (title.name :: before) value after (List.cons_subset_cons _ hstart) hrun)
  fails before error hstart hrun :=
    haction.fails (title.name :: before) error (List.cons_subset_cons _ hstart) hrun

theorem inPart (part : Part) (type : String) (haction : Blames reason start action) :
    Blames reason start (Build.inPart part type action) where
  grows before value after hstart hrun :=
    haction.grows before value after hstart (mapError_eq_ok_iff.mp hrun)
  fails before error hstart hrun := by
    obtain ⟨inner, hinner, rfl⟩ := mapError_eq_error_iff.mp hrun
    exact haction.fails before inner hstart hinner

theorem mapM {items : List α} {step : α → Build β}
    (h : ∀ item ∈ items, Blames reason start (step item)) :
    Blames reason start (items.mapM step) := by
  induction items with
  | nil => exact .pure []
  | cons item rest ih =>
    obtain ⟨hitem, hrest⟩ := List.forall_mem_cons.mp h
    rw [List.mapM_cons]
    exact hitem.bind fun result ↦ (ih hrest).bind fun results ↦ .pure _

end Blames

/-- The names that are defined when the parts of a shape are built: a record is defined before its
fields. -/
def inside (name : String) : Shape → List String → List String
  | .object _, defined | .row _, defined | .keyValue _ _, defined => name :: defined
  | _, defined => defined

theorem subset_inside (name : String) (shape : Shape) (defined : List String) :
    defined ⊆ inside name shape defined := by
  cases shape with
  | object | row | keyValue => exact List.subset_cons_self name defined
  | _ => exact List.Subset.refl defined

theorem inside_mono (name : String) (shape : Shape) (h : start ⊆ more) :
    inside name shape start ⊆ inside name shape more := by
  cases shape with
  | object | row | keyValue => exact List.cons_subset_cons name h
  | _ => exact h

/-- The schema of a shape fails for a reason if what the shape mentions does, and if there is one
for a shape that has no representation. -/
theorem Blames.shapeNode {mention : Mention} {shape : Shape}
    (h : ∀ other ∈ mentioned shape, Blames reason (inside name shape start) (mention other))
    (hnone : shape = .null ∨ (∃ state, shape = .keyedState state) → ∀ kind,
      reason (.noSchema name kind)) :
    Blames reason start (Exporter.shapeNode mention name shape) := by
  cases shape with
  | primitive kind => exact .pure _
  | named target => exact h target List.mem_cons_self
  | list item => exact (h item List.mem_cons_self).bind fun _ ↦ .pure _
  | option value => exact (h value List.mem_cons_self).bind fun _ ↦ .pure _
  | object fields =>
    refine .define (.declared name) (.bind (.mapM fun field hfield ↦ ?_) fun _ ↦ .pure _)
    exact ((h field.type (List.mem_map_of_mem hfield)).inPart _ _).bind fun _ ↦ .pure _
  | row columns =>
    refine .define (.declared name) (.bind (.mapM fun column hcolumn ↦ ?_) fun _ ↦ .pure _)
    unfold Exporter.columnField
    split_ifs with htimestamp
    · exact .pure _
    · have hother : column.type ∈ mentioned (.row columns) := by
        simpa [mentioned] using ⟨⟨column, hcolumn, rfl⟩, by simpa using htimestamp⟩
      exact ((h column.type hother).inPart _ _).bind fun _ ↦ .pure _
  | keyValue key value =>
    have hkey := h key (by simp [mentioned, Shape.references])
    have hvalue := h value (by simp [mentioned, Shape.references])
    exact .define (.declared name) ((hkey.inPart _ _).bind fun _ ↦
        (hvalue.inPart _ _).bind fun _ ↦ .pure _)
  | enumeration e =>
    unfold Exporter.shapeNode
    dsimp only
    split_ifs
    · exact .define (.declared name) (.pure _)
    · refine .bind (.mapM fun variant hvariant ↦ .define _ ?_) fun _ ↦ .pure _
      cases hpayload : variant.payload with
      | none => exact .pure _
      | some payload =>
        have hother := h payload (List.mem_filterMap.mpr ⟨variant, hvariant, hpayload⟩)
        exact ((hother.mono (List.subset_cons_self _ _)).inPart _ _).bind fun _ ↦ .pure _
  | keyedState state => exact .throw (hnone (.inr ⟨state, rfl⟩) _)
  | null => exact .throw (hnone (.inl rfl) _)

end Blames

/-! ### The way to a failure -/

/-- The way that a mention was reached by. What is visited has led to the name, and is defined if it
is a record. -/
structure OnWay (scope : Scope) (root : String) (visited : List String) (name : String)
    (defined : List String) : Prop where
  reached : Reached scope root name
  leads : ∀ first type, Stands scope first type → type.name ∈ visited →
    ∃ other ∈ mentioned type.shape, Reached scope other name
  records : ∀ first type, Stands scope first type → type.name ∈ visited →
    inside type.name type.shape [] ⊆ defined

/-- One more type is visited. -/
theorem OnWay.visit {other : String} {before : List String}
    (h : OnWay scope root visited name defined) (hstands : Stands scope name type)
    (hother : other ∈ mentioned type.shape)
    (hbefore : inside type.name type.shape defined ⊆ before) :
    OnWay scope root (type.name :: visited) other before where
  reached := h.reached.mention hstands hother
  leads first another hfirst hvisited := by
    rcases List.mem_cons.mp hvisited with hname | hvisited
    · obtain rfl := eq_of_name_eq hfirst.found hstands.found hname
      exact ⟨other, hother, .root⟩
    · obtain ⟨part, hpart, hreached⟩ := h.leads first another hfirst hvisited
      exact ⟨part, hpart, hreached.mention hstands hother⟩
  records first another hfirst hvisited := by
    rcases List.mem_cons.mp hvisited with hname | hvisited
    · obtain rfl := eq_of_name_eq hfirst.found hstands.found hname
      exact List.Subset.trans (inside_mono _ _ (List.nil_subset _)) hbefore
    · have hdefined := List.Subset.trans (subset_inside type.name type.shape defined) hbefore
      exact List.Subset.trans (h.records first another hfirst hvisited) hdefined

/-- A type that is visited again, and not defined, closes a cycle unless it has no
representation. -/
theorem OnWay.circles (h : OnWay scope root visited name defined) (hstands : Stands scope name type)
    (hnew : type.name ∉ defined) (hvisited : type.name ∈ visited) :
    Barred scope root ∨ Circles scope root := by
  obtain ⟨other, hother, hback⟩ := h.leads name type hstands hvisited
  have hrecord := h.records name type hstands hvisited
  have hcircles (hpasses : PassesOn type.shape) : Circles scope root :=
    ⟨name, type, h.reached, hstands, hpasses, other, hother, hback⟩
  cases hshape : type.shape with
  | null => exact .inl ⟨name, type, h.reached, hstands, .inl hshape⟩
  | keyedState state => exact .inl ⟨name, type, h.reached, hstands, .inr ⟨state, hshape⟩⟩
  | object | row | keyValue =>
    rw [hshape] at hrecord
    exact absurd (hrecord List.mem_cons_self) hnew
  | primitive kind =>
    rw [hshape] at hother
    cases hother
  | named | list | option => exact .inr (hcircles (by rw [hshape]; trivial))
  | enumeration e =>
    rw [hshape] at hother
    obtain ⟨variant, hvariant, hpayload⟩ := List.mem_filterMap.mp hother
    refine .inr (hcircles ?_)
    rw [hshape]
    exact ⟨variant, hvariant, by simp [hpayload]⟩

/-- Building keeps what is defined, and it fails for a reason. By induction on the building without
a bound; the way to a mention is the invariant. -/
theorem Builds.blames (h : Builds scope visited name defined outcome)
    (hway : OnWay scope root visited name defined) :
    (∀ node after, outcome = .ok (node, after) → defined ⊆ after) ∧
      ∀ error, outcome = .error error → Reason scope root error.cause := by
  induction h with
  | primitive =>
    refine ⟨?_, nofun⟩
    rintro _ _ ⟨⟩
    exact List.Subset.refl _
  | reference =>
    refine ⟨?_, nofun⟩
    rintro _ _ ⟨⟩
    exact List.Subset.refl _
  | unknown hforeign hnone =>
    refine ⟨nofun, ?_⟩
    rintro _ ⟨⟩
    exact ⟨hway.reached, hforeign, hnone⟩
  | cycle hstands hnew hvisited =>
    refine ⟨nofun, ?_⟩
    rintro _ ⟨⟩
    exact hway.circles hstands hnew hvisited
  | @visit visited defined name type mention hstands hnew hfresh _ ih =>
    have hparts (other : String) (hother : other ∈ mentioned type.shape) :
        Blames (Reason scope root) (inside type.name type.shape defined) (mention other) :=
      ⟨fun before node after hbefore ↦
          (ih other hother before (hway.visit hstands hother hbefore)).1 node after,
        fun before error hbefore ↦
          (ih other hother before (hway.visit hstands hother hbefore)).2 error⟩
    have hshape := Blames.shapeNode hparts fun hnone _ ↦ ⟨name, type, hway.reached, hstands, hnone⟩
    exact ⟨fun node after ↦ hshape.grows defined node after (List.Subset.refl _),
      fun error ↦ hshape.fails defined error (List.Subset.refl _)⟩

/-! ### Valid scopes -/

/-- The columns of rows have types that documents can give to them. -/
def HasColumnTypes (scope : Scope) : Prop :=
  ∀ type ∈ scope.types, ∀ columns, type.shape = .row columns → ∀ column ∈ columns,
    column.type ∈ Document.columnTypes

theorem isSome_ofName?_of_columnTypes : ∀ column ∈ Document.columnTypes, column ≠ "timestamp" →
    (Primitive.ofName? column).isSome := by
  decide

theorem exists_lookup?_of_knows (h : scope.Knows name) (hforeign : Primitive.ofName? name = none) :
    ∃ type, scope.lookup? name = some type := by
  rw [← Scope.contains_iff_knows, Scope.contains, Bool.or_eq_true, List.contains_iff_mem] at h
  rcases h with hnative | hfound
  · have hsome := Primitive.isSome_ofName?_of_native hnative
    rw [hforeign] at hsome
    cases hsome
  · exact Option.isSome_iff_exists.mp hfound

/-- In a valid scope every name that is reached from a known one stands for something. -/
theorem Reached.exists_lookup? (hvalid : scope.problems = []) (hcolumns : HasColumnTypes scope)
    (hroot : scope.Knows root) (h : Reached scope root name)
    (hforeign : Primitive.ofName? name = none) :
    ∃ type, scope.lookup? name = some type := by
  cases h with
  | root => exact exists_lookup?_of_knows hroot hforeign
  | @mention _ _ type _ hstands hother =>
    have htype := mem_of_lookupType hstands.found
    by_cases hrow : ∃ columns, type.shape = .row columns
    · obtain ⟨columns, hrow⟩ := hrow
      rw [hrow, mentioned, List.mem_filter, List.mem_map] at hother
      obtain ⟨⟨column, hcolumn, rfl⟩, htimestamp⟩ := hother
      have hsome :=
        isSome_ofName?_of_columnTypes _ (hcolumns type htype columns hrow column hcolumn)
          (of_decide_eq_true htimestamp)
      rw [hforeign] at hsome
      cases hsome
    · have hreferences : mentioned type.shape = type.shape.references := by
        unfold mentioned
        split
        next columns hshape => exact absurd ⟨columns, hshape⟩ hrow
        next => rfl
      rw [hreferences] at hother
      exact exists_lookup?_of_knows
        ((Scope.wellFormed_of_problems hvalid htype).shape.known name hother) hforeign

/-! ### Schemas -/

/-- What the builder comes to for a name, when nothing is visited and nothing is defined. -/
theorem builds_schemaTree (self : Exporter) (name : String) :
    Builds self.scope [] name [] ((self.mention (self.scope.size + 1) [] name).run []) :=
  builds_mention self _ name [] ⟨List.nodup_nil, List.nil_subset _, by simp⟩

theorem schemaJson_eq (self : Exporter) (name : String) : self.schemaJson name =
    ((self.mention (self.scope.size + 1) [] name).run []).map fun built ↦
      built.1.toJson self.owner := by
  rw [Exporter.schemaJson, Exporter.schemaTree]
  cases (self.mention (self.scope.size + 1) [] name).run [] <;> rfl

/-- Building the schema of a name ends with one outcome, on every scope. If it fails, the names that
are reached tell why. In a valid scope a known name fails only because the type has no
representation: a keyed state or a null type is reached, or a cycle through an alias, a list, an
option or an enumeration in which values are carried. -/
theorem schemaJson_ends_with_reason (self : Exporter) (name : String) :
    (∃ outcome, (∀ result, Builds self.scope [] name [] result ↔ result = outcome) ∧
        self.schemaJson name = outcome.map fun built ↦ built.1.toJson self.owner) ∧
      ∀ error, self.schemaJson name = .error error → Reason self.scope name error.cause ∧
        (self.scope.problems = [] → HasColumnTypes self.scope → self.scope.Knows name →
          error.IsNotExportable ∧ (Barred self.scope name ∨ Circles self.scope name)) := by
  have hbuilds := builds_schemaTree self name
  refine ⟨⟨_, fun result ↦ ⟨fun hresult ↦ hresult.unique hbuilds, ?_⟩, schemaJson_eq self name⟩,
    fun error herror ↦ ?_⟩
  · rintro rfl
    exact hbuilds
  · have hreason : Reason self.scope name error.cause := by
      rw [schemaJson_eq] at herror
      refine (hbuilds.blames ⟨.root, by simp, by simp⟩).2 error ?_
      cases hrun : (self.mention (self.scope.size + 1) [] name).run [] with
      | error other =>
        rw [hrun] at herror
        rw [Except.error.inj herror]
      | ok built =>
        rw [hrun] at herror
        cases herror
    refine ⟨hreason, fun hvalid hcolumns hknown ↦ ?_⟩
    unfold ExportError.IsNotExportable
    cases hcause : error.cause with
    | unknownType other =>
      rw [hcause] at hreason
      obtain ⟨hreached, hforeign, hnone⟩ := hreason
      obtain ⟨type, htype⟩ := hreached.exists_lookup? hvalid hcolumns hknown hforeign
      cases hnone.symm.trans htype
    | selfReference other =>
      rw [hcause] at hreason
      exact ⟨.inl ⟨other, rfl⟩, hreason⟩
    | noSchema other kind =>
      rw [hcause] at hreason
      exact ⟨.inr ⟨other, kind, rfl⟩, .inl hreason⟩
    | _ =>
      rw [hcause] at hreason
      cases hreason

/-- People have children, and the children of a person are people. -/
def families : Exporter where
  owner := "com.example.sdf"
  scope := ⟨[
    { name := "people", shape := .list "person" },
    { name := "person",
      shape :=
        .object [{ name := "visits", type := "visit" }, { name := "children", type := "people" }] },
    { name := "visit",
      shape := .row [{ name := "at", type := "timestamp" }, { name := "count", type := "u32" }] }]⟩

/-- A person is a record and may mention itself. People are a list, which cannot. -/
theorem schemaJson_ends_with_reason_families :
    families.scope.problems = [] ∧ HasColumnTypes families.scope ∧ families.scope.Knows "people" ∧
      (∃ json, families.schemaJson "person" = .ok json) ∧
      families.schemaJson "people" =
        .error (.inPart (.field "children") "person" (.selfReference "people")) ∧
      (Barred families.scope "people" ∨ Circles families.scope "people") := by
  have hvalid : families.scope.problems = [] := rfl
  have hcolumns : HasColumnTypes families.scope := by
    intro type htype columns hshape column hcolumn
    simp only [families, List.mem_cons, List.not_mem_nil, or_false] at htype
    rcases htype with rfl | rfl | rfl <;> cases hshape
    rcases List.mem_pair.mp hcolumn with rfl | rfl <;> decide
  have hknown : families.scope.Knows "people" := .inr ⟨_, List.mem_cons_self, .inl rfl⟩
  have herror : families.schemaJson "people" =
      .error (.inPart (.field "children") "person" (.selfReference "people")) := rfl
  obtain ⟨-, hreasons⟩ := schemaJson_ends_with_reason families "people"
  exact ⟨hvalid, hcolumns, hknown, ⟨_, rfl⟩, herror,
    ((hreasons _ herror).2 hvalid hcolumns hknown).2⟩

end FlowSpec.Avro
