import FlowSpec.Proofs.Avro.Rendering

/-!
Names that are defined once. In a schema every reference stands behind a definition of its name, and
a declared type is defined at most once. That the full names of all definitions are different, and
that every reference means the type that it is made from, takes more: no variant is written twice,
no two definitions differ in hyphens alone, and no type that is referred to has the name of a
variant's record. An enumeration in which values are carried is written out at each of its mentions,
so a scope with different names does not settle the first of these.
-/

set_option autoImplicit false

namespace FlowSpec.Avro

/-! ### Definitions -/

def Mark.title? : Mark → Option Title
  | .defines title => some title
  | .refers _ => none

/-- The definitions of a schema, in the order of the document. -/
def Node.titles (node : Node) : List Title := node.marks.filterMap Mark.title?

/-- No full name has two definitions, and a reference stands behind the definition of its type. -/
structure DefinedOnce (owner : String) (node : Node) : Prop where
  once : (node.titles.map fun title ↦ fullName owner title.name).Nodup
  behind : ∀ first type last, node.marks = first ++ .refers type :: last →
    .defines (.declared type) ∈ first

/-- Names are kept apart: every variant is written once, different definitions have different names
in the schema, and no reference has the name of a variant's record. -/
structure Apart (node : Node) : Prop where
  variants : ∀ type name, node.marks.count (.defines (.variant type name)) ≤ 1
  names : ∀ first second, .defines first ∈ node.marks → .defines second ∈ node.marks →
    schemaName first.name = schemaName second.name → first = second
  references : ∀ type name, .defines (.variant type name) ∈ node.marks →
    .refers (Title.variant type name).name ∉ node.marks

theorem mem_titles_iff {node : Node} {title : Title} :
    title ∈ node.titles ↔ .defines title ∈ node.marks := by
  rw [Node.titles, List.mem_filterMap]
  constructor
  · rintro ⟨mark, hmark, htitle⟩
    cases mark <;> cases htitle
    exact hmark
  · exact fun hmark ↦ ⟨_, hmark, rfl⟩

theorem count_titles (node : Node) (title : Title) :
    node.titles.count title = node.marks.count (.defines title) := by
  rw [Node.titles]
  induction node.marks with
  | nil => rfl
  | cons mark rest ih =>
    cases mark with
    | refers type => rw [List.filterMap_cons_none rfl, List.count_cons_of_ne (by simp), ih]
    | defines other =>
      have htitle : (Mark.defines other).title? = some other := rfl
      rw [List.filterMap_cons_some htitle, List.count_cons, List.count_cons, ih]
      simp

theorem fullName_eq_iff {owner first second : String} :
    fullName owner first = fullName owner second ↔ schemaName first = schemaName second := by
  simp [fullName]

/-! ### Trails -/

namespace Trail

variable {scope : Scope} {before after : List String} {marks : List Mark} {type : String}

theorem sourced {title : Title} (h : Trail scope before marks after)
    (hmark : .defines title ∈ marks) :
    Sourced scope title := by
  induction h with
  | nil => simp at hmark
  | refers _ _ _ ih => exact ih (by simpa using hmark)
  | defines hsource _ _ ih =>
    rcases List.mem_cons.mp hmark with hsame | hrest
    · cases hsame
      exact hsource
    · exact ih hrest

/-- A reference stands behind a definition of its name, unless the name was defined at first. -/
theorem exists_title {first last : List Mark} (h : Trail scope before marks after)
    (hmarks : marks = first ++ .refers type :: last) :
    type ∈ before ∨ ∃ title, .defines title ∈ first ∧ title.name = type := by
  induction h generalizing first with
  | nil => simp at hmarks
  | refers _ hmem _ ih =>
    rcases List.cons_eq_append_iff.mp hmarks with ⟨rfl, hrest⟩ | ⟨others, rfl, hrest⟩
    · cases hrest
      exact .inl hmem
    · exact (ih hrest).imp_right fun ⟨title, htitle, hname⟩ ↦
        ⟨title, List.mem_cons_of_mem _ htitle, hname⟩
  | @defines title _ _ _ _ _ _ ih =>
    rcases List.cons_eq_append_iff.mp hmarks with ⟨rfl, hrest⟩ | ⟨others, rfl, hrest⟩
    · cases hrest
    · rcases ih hrest with hmem | ⟨other, hother, hname⟩
      · exact (List.mem_cons.mp hmem).elim (fun hsame ↦
            .inr ⟨title, List.mem_cons_self, hsame.symm⟩) .inl
      · exact .inr ⟨other, List.mem_cons_of_mem _ hother, hname⟩

/-- A declared type is defined under a name that was not defined at first. -/
theorem notMem_of_declared (h : Trail scope before marks after)
    (hmark : .defines (.declared type) ∈ marks) :
    type ∉ before := by
  induction h with
  | nil => simp at hmark
  | refers _ _ _ ih => exact ih (by simpa using hmark)
  | defines _ hnew _ ih =>
    rcases List.mem_cons.mp hmark with hsame | hrest
    · exact hnew type (Mark.defines.inj hsame).symm
    · exact fun hmem ↦ ih hrest (List.mem_cons_of_mem _ hmem)

/-- A declared type is defined at most once. -/
theorem count_declared_le (h : Trail scope before marks after) (type : String) :
    marks.count (.defines (.declared type)) ≤ 1 := by
  induction h with
  | nil => simp
  | refers _ _ _ ih => simpa using ih
  | @defines title marks _ _ _ _ hrest ih =>
    by_cases hsame : title = .declared type
    · subst hsame
      have hnone : .defines (.declared type) ∉ marks :=
        fun hmark ↦ hrest.notMem_of_declared hmark List.mem_cons_self
      rw [List.count_cons_self, List.count_eq_zero.mpr hnone]
    · rw [List.count_cons_of_ne (by simpa using hsame)]
      exact ih

/-- A schema whose names are kept apart is defined once, and the other way round. -/
theorem definedOnce_iff {node : Node} (h : Trail scope [] node.marks after) (owner : String) :
    DefinedOnce owner node ↔ Apart node := by
  constructor
  · rintro ⟨honce, hbehind⟩
    have hnames (first second : Title) (hfirst : .defines first ∈
          node.marks) (hsecond : .defines second ∈ node.marks)
        (hsame : schemaName first.name = schemaName second.name) : first = second :=
      List.inj_on_of_nodup_map honce (mem_titles_iff.mpr hfirst) (mem_titles_iff.mpr hsecond)
        (fullName_eq_iff.mpr hsame)
    refine ⟨fun type name ↦ ?_, hnames, fun type name hvariant hrefers ↦ ?_⟩
    · rw [← count_titles]
      exact List.nodup_iff_count_le_one.mp honce.of_map _
    · -- the type that is referred to would be defined under the name of the variant's record
      obtain ⟨first, last, hmarks⟩ := List.append_of_mem hrefers
      have hdeclared : .defines (.declared (Title.variant type name).name) ∈ node.marks := by
        rw [hmarks]
        exact List.mem_append_left _ (hbehind first _ last hmarks)
      cases hnames _ _ hvariant hdeclared rfl
  · rintro ⟨hvariants, hnames, hreferences⟩
    have hnodup : node.titles.Nodup := by
      refine List.nodup_iff_count_le_one.mpr fun title ↦ ?_
      rw [count_titles]
      cases title with
      | declared type => exact h.count_declared_le type
      | variant type name => exact hvariants type name
    refine ⟨hnodup.map_on fun first hfirst second hsecond hsame ↦ ?_,
      fun first type last hmarks ↦ ?_⟩
    · exact hnames first second (mem_titles_iff.mp hfirst) (mem_titles_iff.mp hsecond)
        (fullName_eq_iff.mp hsame)
    · -- some definition of that name stands before the reference, and it is not a variant's
      obtain ⟨title, htitle, rfl⟩ := (h.exists_title hmarks).resolve_left List.not_mem_nil
      cases title with
      | declared type => exact htitle
      | variant type name =>
        refine absurd ?_ (hreferences type name ?_)
        · simp [hmarks]
        · simp [hmarks, htitle]

end Trail

/-! ### Schemas -/

/-- The schema of a type renders it. Every reference stands behind a definition of its name, and no
declared type is defined twice. The full names of all definitions are different, with every
reference behind the definition of its own type, exactly if names are kept apart. -/
theorem schemaJson_definedOnce_iff (self : Exporter) (name : String) (json : Json)
    (h : self.schemaJson name = .ok json) :
    ∃ node, self.schemaTree name = .ok node ∧ json = node.toJson self.owner ∧
      Renders self.scope name node ∧
      (∀ first type last, node.marks = first ++ .refers type :: last →
        ∃ title, .defines title ∈ first ∧ title.name = type) ∧
      (∀ type, node.marks.count (.defines (.declared type)) ≤ 1) ∧
      (DefinedOnce self.owner node ↔ Apart node) := by
  obtain ⟨node, hnode, hjson⟩ := Outcome.bind_eq_ok_iff.mp h
  cases hjson
  obtain ⟨hrenders, after, htrail⟩ := Exporter.renders_of_schemaTree hnode
  refine ⟨node, hnode, rfl, hrenders, fun first type last hmarks ↦ ?_, htrail.count_declared_le,
    htrail.definedOnce_iff self.owner⟩
  exact (htrail.exists_title hmarks).resolve_left List.not_mem_nil

/-- Pages that link to each other. -/
def pages : Exporter where
  owner := "com.example.sdf"
  scope := ⟨[
    { name := "link", shape := .object [{ name := "target", type := "page" }] },
    { name := "page", shape := .object [{ name := "parent", type := "page", isOptional := true },
        { name := "first-link", type := "link" }, { name := "last-link", type := "link" }] }]⟩

/-- The schema of a page: the second link refers to the definition in the first. -/
def page : Node := .record (.declared "page") [
  { name := "parent", type := (Node.reference "page").nullable, isOptional := true },
  { name := "first-link",
    type := .record (.declared "link") [{ name := "target", type := .reference "page" }] },
  { name := "last-link", type := .reference "link" }]

theorem schemaJson_definedOnce_iff_pages : pages.schemaJson "page" = .ok (page.toJson pages.owner) ∧
    Renders pages.scope "page" page ∧ DefinedOnce pages.owner page := by
  have htree : pages.schemaTree "page" = .ok page := by rfl
  have hjson : pages.schemaJson "page" = .ok (page.toJson pages.owner) := by rfl
  obtain ⟨node, hnode, -, hrenders, -, -, honce⟩ := schemaJson_definedOnce_iff pages "page" _ hjson
  cases htree.symm.trans hnode
  have hmarks : page.marks =
      [.defines (.declared "page"), .refers "page", .defines (.declared "link"),
      .refers "page", .refers "link"] := by rfl
  refine ⟨hjson, hrenders,
    honce.mpr ⟨by simp [hmarks], fun first second hfirst hsecond ↦ ?_, by simp [hmarks]⟩⟩
  simp only [hmarks, List.mem_cons, Mark.defines.injEq, reduceCtorEq, List.not_mem_nil,
    or_false, false_or] at hfirst hsecond
  rcases hfirst with rfl | rfl <;> rcases hsecond with rfl | rfl <;> decide

/-- Orders with two amounts, where an amount is none or a count. -/
def orders : Exporter where
  owner := "com.example.sdf"
  scope := ⟨[
    { name := "amount", shape := .enumeration {
        variants := [{ name := "none" }, { name := "count", payload := some "u32" }] } },
    { name := "order", shape := .object [{ name := "ordered", type := "amount" },
        { name := "shipped", type := "amount" }] }]⟩

/-- The schema of an order has the records of the two variants twice. -/
theorem order_defines_amounts_twice : ∃ node, orders.schemaTree "order" = .ok node ∧
    orders.schemaJson "order" = .ok (node.toJson orders.owner) ∧
    node.titles = [.declared "order", .variant "amount" "none", .variant "amount" "count",
      .variant "amount" "none", .variant "amount" "count"] ∧ ¬ DefinedOnce orders.owner node := by
  refine ⟨_, rfl, rfl, rfl, fun h ↦ ?_⟩
  exact absurd h.once (by decide)

end FlowSpec.Avro
