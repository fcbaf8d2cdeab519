import FlowSpec.Avro.Export
import FlowSpec.Proofs.Scope.Declarations

/-!
What the schema of a type looks like. A schema renders a name (`Renders`): the name of a type is
written as a reference or as the schema of its shape, whatever has been written before. What has
been written before shows in the marks that a schema leaves, its definitions and references in the
order of the document. A reference is written only to a name that is defined, and a declared type is
defined only under a name that is not (`Trail`); the records of variants are defined in any case.
-/

set_option autoImplicit false

namespace FlowSpec.Avro

/-! ### What a schema renders -/

/-- The field that an object's field is written as, given the schema of its type. -/
def fieldNode (field : Field) (type : Node) : NodeField Node :=
  { name := field.name, type := if field.isOptional then type.optional
      else type, isOptional := field.isOptional }

/-- The field that a column is written as. -/
def columnNode (column : Column) (type : Node) : NodeField Node := { name := column.name, type }

mutual

/-- The schema renders a mention of a type. -/
inductive Renders (scope : Scope) : String → Node → Prop
  | primitive {name : String} {kind : Primitive} (h : Primitive.ofName? name = some kind) :
      Renders scope name (.primitive kind)
  | reference {name : String} {type : NamedType} (h : Primitive.ofName? name = none)
      (hlookup : scope.lookup? name = some type) : Renders scope name (.reference type.name)
  | declared {name : String} {type : NamedType} {node : Node} (h : Primitive.ofName? name = none)
      (hlookup : scope.lookup? name = some type)
      (hshape : RendersShape scope type.name type.shape node) :
      Renders scope name node

/-- The schema renders the shape of a type. -/
inductive RendersShape (scope : Scope) : String → Shape → Node → Prop
  | primitive {name : String} {kind : Primitive} :
      RendersShape scope name (.primitive kind) (.primitive kind)
  | named {name target : String} {node : Node} (h : Renders scope target node) :
      RendersShape scope name (.named target) node
  | list {name item : String} {node : Node} (h : Renders scope item node) :
      RendersShape scope name (.list item) (.array node)
  | option {name value : String} {node : Node} (h : Renders scope value node) :
      RendersShape scope name (.option value) node.nullable
  | object {name : String} {fields : List Field} {types : List Node}
      (h : List.Forall₂ (fun field type ↦ Renders scope field.type type) fields types) :
      RendersShape scope name (.object fields)
        (.record (.declared name) (List.zipWith fieldNode fields types))
  | row {name : String} {columns : List Column} {types : List Node}
      (h : List.Forall₂ (RendersColumn scope) columns types) :
      RendersShape scope name (.row columns)
        (.record (.declared name) (List.zipWith columnNode columns types))
  | keyValue {name key value : String} {keyNode valueNode : Node} (hkey : Renders scope key keyNode)
      (hvalue : Renders scope value valueNode) :
      RendersShape scope name (.keyValue key value)
        (.record (.declared name) [{ name := "key", type := keyNode },
        { name := "value", type := valueNode }])
  | symbols {name : String} {e : Enumeration} (h : ∀ variant ∈ e.variants, variant.payload = none) :
      RendersShape scope name (.enumeration e)
        (.enumeration (.declared name) (e.variants.map Variant.name))
  | variants {name : String} {e : Enumeration} {payloads : List (List (NodeField Node))}
      (hpayload : ∃ variant ∈ e.variants, variant.payload ≠ none)
      (h : List.Forall₂ (RendersPayload scope) (e.variants.map Variant.payload) payloads) :
      RendersShape scope name (.enumeration e) (.union (List.zipWith
        (fun variant fields ↦ .record (.variant name variant.name) fields) e.variants payloads))

/-- The schema renders the type of a column. -/
inductive RendersColumn (scope : Scope) : Column → Node → Prop
  | timestamp {column : Column} (h : column.type = "timestamp") :
      RendersColumn scope column .timestamp
  | mention {column : Column} {node : Node} (hother : column.type ≠ "timestamp")
      (h : Renders scope column.type node) : RendersColumn scope column node

/-- The fields render what a variant carries. -/
inductive RendersPayload (scope : Scope) : Option String → List (NodeField Node) → Prop
  | none : RendersPayload scope none []
  | some {payload : String} {node : Node} (h : Renders scope payload node) :
      RendersPayload scope (some payload) [{ name := "value", type := node }]

end

/-! ### Marks -/

/-- A definition or a reference in a schema. -/
inductive Mark where
  | defines (title : Title)
  | refers (type : String)
deriving DecidableEq

mutual

/-- The definitions and references of a schema, in the order of the document. -/
def Node.marks : Node → List Mark
  | .null | .primitive _ | .timestamp => []
  | .reference type => [.refers type]
  | .array items => items.marks
  | .union branches => branchMarks branches
  | .enumeration title _ => [.defines title]
  | .record title fields => .defines title :: fieldMarks fields

def fieldMarks : List (NodeField Node) → List Mark
  | [] => []
  | { type, .. } :: rest => type.marks ++ fieldMarks rest

def branchMarks : List Node → List Mark
  | [] => []
  | branch :: rest => branch.marks ++ branchMarks rest

end

theorem fieldMarks_eq (fields : List (NodeField Node)) :
    fieldMarks fields = fields.flatMap fun field ↦ field.type.marks := by
  induction fields with
  | nil => rfl
  | cons field rest ih => rw [fieldMarks, ih, List.flatMap_cons]

theorem branchMarks_eq (branches : List Node) :
    branchMarks branches = branches.flatMap Node.marks := by
  induction branches with
  | nil => rfl
  | cons branch rest ih => rw [branchMarks, ih, List.flatMap_cons]

namespace Node

@[simp]
theorem marks_union (branches : List Node) : (union branches).marks = branches.flatMap marks := by
  rw [marks, branchMarks_eq]

@[simp]
theorem marks_record (title : Title) (fields : List (NodeField Node)) :
    (record title fields).marks = .defines title :: fields.flatMap fun field ↦
      field.type.marks := by
  rw [marks, fieldMarks_eq]

@[simp]
theorem marks_nullable (node : Node) : node.nullable.marks = node.marks := by
  simp [nullable, marks_union, marks]

@[simp]
theorem marks_optional (node : Node) : node.optional.marks = node.marks := by
  cases node <;> simp [optional]

end Node

/-! ### Trails -/

/-- What a title stands for in a scope: a type, or a variant of an enumeration in which values are
carried. -/
inductive Sourced (scope : Scope) : Title → Prop
  | declared {type : NamedType} (h : type ∈ scope.types) : Sourced scope (.declared type.name)
  | variant {type : NamedType} {e : Enumeration} {variant : Variant} (h : type ∈ scope.types)
      (hshape : type.shape = .enumeration e) (hpayload : ∃ other ∈ e.variants, other.payload ≠ none)
      (hvariant : variant ∈ e.variants) : Sourced scope (.variant type.name variant.name)

variable {scope : Scope}

/-- Marks that a builder can leave in a scope, from the names that are defined at first to those at
last. -/
inductive Trail (scope : Scope) : List String → List Mark → List String → Prop
  | nil {defined : List String} : Trail scope defined [] defined
  | refers {type : String} {marks : List Mark} {before after : List String}
      (hsource : Sourced scope (.declared type)) (h : type ∈ before)
      (hrest : Trail scope before marks after) : Trail scope before (.refers type :: marks) after
  | defines {title : Title} {marks : List Mark} {before after : List String}
      (hsource : Sourced scope title) (h : ∀ type, title = .declared type → type ∉ before)
      (hrest : Trail scope (title.name :: before) marks after) :
      Trail scope before (.defines title :: marks) after

theorem Trail.append {first last : List Mark} {before between after : List String}
    (h : Trail scope before first between) (hlast : Trail scope between last after) :
    Trail scope before (first ++ last) after := by
  induction h with
  | nil => exact hlast
  | refers hsource hmem _ ih => exact .refers hsource hmem (ih hlast)
  | defines hsource hnew _ ih => exact .defines hsource hnew (ih hlast)

/-! ### Actions -/

variable {α β : Type}

/-- An action that starts with these names defined leaves a trail, and its value and marks are as
specified. -/
def Leaves (scope : Scope) (before : List String) (action : Build α) (spec : α → List Mark → Prop) :
    Prop :=
  ∀ value after, action.run before = .ok (value, after) → ∃ marks, Trail scope before marks after ∧
    spec value marks

namespace Leaves

variable {before : List String} {action : Build α} {next : α → Build β}
  {spec : α → List Mark → Prop} {last : β → List Mark → Prop}

theorem pure {value : α} (h : spec value []) : Leaves scope before (pure value) spec := by
  intro result after hrun
  cases hrun
  exact ⟨[], .nil, h⟩

theorem throw (error : ExportError) : Leaves scope before (throw error) spec := by
  intro value after hrun
  cases hrun

theorem bind (haction : Leaves scope before action spec)
    (hnext : ∀ value marks between, spec value marks →
      Leaves scope between (next value) fun result others ↦ last result (marks ++ others)) :
    Leaves scope before (action >>= next) last := by
  intro result after hrun
  obtain ⟨⟨value, between⟩, hvalue, hresult⟩ := Outcome.bind_eq_ok_iff.mp hrun
  obtain ⟨marks, htrail, hspec⟩ := haction value between hvalue
  obtain ⟨others, hothers, hlast⟩ := hnext value marks between hspec result after hresult
  exact ⟨marks ++ others, htrail.append hothers, hlast⟩

theorem get {next : List String → Build α} (h : Leaves scope before (next before) spec) :
    Leaves scope before (MonadState.get >>= next) spec := h

theorem mono {weaker : α → List Mark → Prop} (haction : Leaves scope before action spec)
    (h : ∀ value marks, spec value marks → weaker value marks) :
    Leaves scope before action weaker := by
  intro value after hrun
  obtain ⟨marks, htrail, hspec⟩ := haction value after hrun
  exact ⟨marks, htrail, h value marks hspec⟩

theorem inPart (part : Part) (type : String) (haction : Leaves scope before action spec) :
    Leaves scope before (Build.inPart part type action) spec :=
  fun value after hrun ↦ haction value after (Outcome.mapError_eq_ok_iff.mp hrun)

theorem mapM {ι : Type} {items : List ι} {step : ι → Build β} {relation : ι → β → Prop}
    {marks : β → List Mark}
    (h : ∀ item ∈ items, ∀ before, Leaves scope before (step item) fun result left ↦
      relation item result ∧ left = marks result) :
    Leaves scope before (items.mapM step) fun results left ↦
      List.Forall₂ relation items results ∧ left = results.flatMap marks := by
  induction items generalizing before with
  | nil => exact .pure ⟨.nil, rfl⟩
  | cons item rest ih =>
    obtain ⟨hitem, hrest⟩ := List.forall_mem_cons.mp h
    rw [List.mapM_cons]
    refine (hitem before).bind fun result left between hresult ↦ ?_
    refine (ih hrest).bind fun results others _ hresults ↦ .pure ⟨.cons hresult.1 hresults.1, ?_⟩
    rw [hresult.2, hresults.2, List.append_nil, List.flatMap_cons]

end Leaves

theorem leaves_define {before : List String} {title : Title} (hsource : Sourced scope title)
    (h : ∀ type, title = .declared type → type ∉ before) :
    Leaves scope before (Exporter.define title) fun _ left ↦ left = [.defines title] := by
  intro value after hrun
  cases hrun
  exact ⟨_, .defines hsource h .nil, rfl⟩

/-- Results that are made from items and from parts of their own are made from a list of parts. -/
theorem exists_zipWith_of_forall₂ {ι : Type} {f : ι → α → β} {relation : ι → α → Prop}
    {items : List ι} {results : List β}
    (h : List.Forall₂ (fun item result ↦ ∃ part, relation item part ∧
      result = f item part) items results) :
    ∃ parts, List.Forall₂ relation items parts ∧ results = List.zipWith f items parts := by
  induction h with
  | nil => exact ⟨[], .nil, rfl⟩
  | cons hhead _ ih =>
    obtain ⟨part, hpart, rfl⟩ := hhead
    obtain ⟨parts, hparts, rfl⟩ := ih
    exact ⟨part :: parts, .cons hpart hparts, rfl⟩

/-! ### The exporter -/

namespace Exporter

variable {mention : Mention}

/-- Mentions are rendered, and the trail of a mention is the marks of its schema. -/
def Mentions (scope : Scope) (mention : Mention) : Prop :=
  ∀ name before, Leaves scope before (mention name) fun node left ↦ Renders scope name node ∧
    left = node.marks

theorem Mentions.objectField (h : Mentions scope mention) (owner : String) (field : Field)
    (before : List String) :
    Leaves scope before (objectField mention owner field) fun result left ↦
      (∃ type, Renders scope field.type type ∧ result = fieldNode field type) ∧
        left = result.type.marks := by
  refine ((h field.type before).inPart _ _).bind fun type left _ hrenders ↦ ?_
  refine .pure ⟨⟨type, hrenders.1, rfl⟩, ?_⟩
  rw [List.append_nil, hrenders.2]
  dsimp only
  split_ifs <;> simp

theorem Mentions.columnField (h : Mentions scope mention) (owner : String) (column : Column)
    (before : List String) :
    Leaves scope before (columnField mention owner column) fun result left ↦
      (∃ type, RendersColumn scope column type ∧ result = columnNode column type) ∧
        left = result.type.marks := by
  unfold Exporter.columnField
  split_ifs with htimestamp
  · exact .pure ⟨⟨.timestamp, .timestamp (beq_iff_eq.mp htimestamp), rfl⟩, rfl⟩
  · refine ((h column.type before).inPart _ _).bind fun type left _ hrenders ↦ ?_
    refine .pure ⟨⟨type, .mention (by simpa using htimestamp) hrenders.1, rfl⟩, ?_⟩
    rw [List.append_nil, hrenders.2]

theorem Mentions.variantRecord (h : Mentions scope mention) {owner : String} {variant : Variant}
    (hsource : Sourced scope (.variant owner variant.name)) (before : List String) :
    Leaves scope before (variantRecord mention owner variant) fun result left ↦
      (∃ fields, RendersPayload scope variant.payload fields ∧
        result = .record (.variant owner variant.name) fields) ∧ left = result.marks := by
  refine (leaves_define hsource nofun).bind fun _ left between hleft ↦ ?_
  subst hleft
  cases variant.payload with
  | none => exact .pure ⟨⟨[], .none, rfl⟩, by simp⟩
  | some payload =>
    refine ((h payload between).inPart _ _).bind fun type left _ hrenders ↦ ?_
    refine .pure ⟨⟨_, .some hrenders.1, rfl⟩, ?_⟩
    simp [hrenders.2]

/-- The schema of a shape, built where the name of its type is not defined. -/
theorem Mentions.shapeNode (h : Mentions scope mention) {type : NamedType} {before : List String}
    (htype : type ∈ scope.types) (hnew : type.name ∉ before) :
    Leaves scope before (shapeNode mention type.name type.shape) fun node left ↦
      RendersShape scope type.name type.shape node ∧ left = node.marks := by
  -- a type is defined before its parts are built, so that they can refer to it
  have hdefine : Leaves scope before (define (.declared type.name)) fun _ left ↦
      left = [.defines (.declared type.name)] :=
    leaves_define (.declared htype) fun name hname ↦ (Title.declared.inj hname) ▸ hnew
  cases hshape : type.shape with
  | primitive kind => exact .pure ⟨.primitive, rfl⟩
  | named target =>
    exact (h target before).mono fun node left hrenders ↦ ⟨.named hrenders.1, hrenders.2⟩
  | list item =>
    refine (h item before).bind fun node left _ hrenders ↦ .pure ⟨.list hrenders.1, ?_⟩
    rw [List.append_nil, hrenders.2, Node.marks]
  | option value =>
    refine (h value before).bind fun node left _ hrenders ↦ .pure ⟨.option hrenders.1, ?_⟩
    rw [List.append_nil, hrenders.2, Node.marks_nullable]
  | object fields =>
    refine hdefine.bind fun _ _ between hdefined ↦ ?_
    refine (Leaves.mapM fun field _ ↦ h.objectField type.name field).bind
      fun results left _ hresults ↦ ?_
    obtain ⟨types, htypes, rfl⟩ := exists_zipWith_of_forall₂ hresults.1
    refine .pure ⟨.object htypes, ?_⟩
    rw [hdefined, hresults.2, List.append_nil, Node.marks_record, List.singleton_append]
  | row columns =>
    refine hdefine.bind fun _ _ between hdefined ↦ ?_
    refine (Leaves.mapM fun column _ ↦ h.columnField type.name column).bind
      fun results left _ hresults ↦ ?_
    obtain ⟨types, htypes, rfl⟩ := exists_zipWith_of_forall₂ hresults.1
    refine .pure ⟨.row htypes, ?_⟩
    rw [hdefined, hresults.2, List.append_nil, Node.marks_record, List.singleton_append]
  | keyValue key value =>
    refine hdefine.bind fun _ _ between hdefined ↦ ?_
    refine ((h key between).inPart _ _).bind fun keyNode _ between hkey ↦ ?_
    refine ((h value between).inPart _ _).bind fun valueNode _ _ hvalue ↦ ?_
    refine .pure ⟨.keyValue hkey.1 hvalue.1, ?_⟩
    simp [hdefined, hkey.2, hvalue.2]
  | enumeration e =>
    unfold Exporter.shapeNode
    dsimp only
    split_ifs with hbare
    · refine hdefine.bind fun _ _ _ hdefined ↦ .pure ⟨.symbols ?_, ?_⟩
      · simpa using hbare
      · rw [hdefined, List.append_nil, Node.marks]
    · have hpayload : ∃ variant ∈ e.variants, variant.payload ≠ none := by
        simpa [Option.ne_none_iff_isSome] using hbare
      have hvariants (variant : Variant) (hvariant : variant ∈ e.variants) :=
        h.variantRecord (.variant htype hshape hpayload hvariant)
      refine (Leaves.mapM hvariants).bind fun results left _ hresults ↦ ?_
      obtain ⟨payloads, hpayloads, rfl⟩ := exists_zipWith_of_forall₂ hresults.1
      refine .pure ⟨.variants hpayload (List.forall₂_map_left_iff.mpr hpayloads), ?_⟩
      rw [hresults.2, List.append_nil, Node.marks_union]
  | keyedState _ => exact .throw _
  | null => exact .throw _

/-- Every mention of the exporter is rendered. By induction on how deep types are visited; inside a
visit the name of the visited type is not yet defined. -/
theorem mentions_mention (self : Exporter) (fuel : Nat) (visited : List String) :
    Mentions self.scope (self.mention fuel visited) := by
  induction fuel generalizing visited with
  | zero => exact fun name before ↦ .throw _
  | succ fuel ih =>
    intro name before
    rw [mention]
    split
    next kind hkind => exact .pure ⟨.primitive hkind, rfl⟩
    next hname =>
      split
      next => exact .throw _
      next type htype =>
        have hmem := mem_of_lookupType htype
        refine .get ?_
        split_ifs with hdefined hvisited
        · intro node after hrun
          cases hrun
          exact ⟨_, .refers (.declared hmem) (List.contains_iff_mem.mp hdefined) .nil,
            .reference hname htype, by rw [Node.marks]⟩
        · exact .throw _
        · have hnew : type.name ∉ before := fun hmem ↦ hdefined (List.contains_iff_mem.mpr hmem)
          exact ((ih (type.name :: visited)).shapeNode hmem hnew).mono fun node left hshape ↦
            ⟨.declared hname htype hshape.1, hshape.2⟩

/-- A schema renders the name that it is asked for, and its marks are a trail. -/
theorem renders_of_schemaTree {self : Exporter} {name : String} {node : Node}
    (h : self.schemaTree name = .ok node) :
    Renders self.scope name node ∧ ∃ after, Trail self.scope [] node.marks after := by
  obtain ⟨⟨result, after⟩, hrun, hresult⟩ := Outcome.bind_eq_ok_iff.mp h
  cases hresult
  obtain ⟨left, htrail, hrenders, rfl⟩ := mentions_mention self _ [] name [] result after hrun
  exact ⟨hrenders, after, htrail⟩

end Exporter

end FlowSpec.Avro
