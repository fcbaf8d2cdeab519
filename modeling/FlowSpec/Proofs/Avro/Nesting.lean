import FlowSpec.Proofs.Avro.Provenance
import FlowSpec.Proofs.Scope.Settling
import FlowSpec.Scope.Validation

/-!
Unions in unions. A schema has them only from options whose value is written as a union itself, that
is, from an option of an option or of an enumeration in which values are carried, through any number
of aliases. Optional fields and variants add none. If no type has the name of a variant's record,
every such option that is reached is written out, so the shapes that are reached tell exactly
whether the schema is flat.
-/

set_option autoImplicit false

namespace FlowSpec.Avro

variable {scope : Scope} {root name : String} {node part : Node} {branches inner : List Node}

/-- No union has a union for one of its branches. -/
def Node.Flat (node : Node) : Prop :=
  ∀ branches, node.Contains (.union branches) → ∀ inner, .union inner ∉ branches

/-- Following aliases from a name ends in a shape that is written as a union. -/
def Forks (scope : Scope) (name : String) : Prop :=
  Carries scope name ∨ ∃ type value, Leads scope name type ∧ type.shape = .option value

/-- An option is reached whose value is written as a union. -/
def Doubles (scope : Scope) (root : String) : Prop :=
  ∃ name type value, Reached scope root name ∧ Stands scope name type ∧ type.shape = .option value ∧
    Forks scope value

theorem Renders.forks (h : Renders scope name (.union branches)) : Forks scope name := by
  rcases h.union_cases with ⟨type, value, -, hleads, hshape, -⟩ | ⟨hcarries, -⟩
  · exact .inr ⟨type, value, hleads, hshape⟩
  · exact .inl hcarries

/-- A name that is reached is written as a union in a union only if it leads to an option of a
union. -/
theorem Renders.doubles (hname : Reached scope root name) (h : Renders scope name (.union branches))
    (hinner : .union inner ∈ branches) : branches = [.null, .union inner] ∧ Doubles scope root := by
  rcases h.union_cases with ⟨type, value, _, hleads, hshape, hvalue, rfl⟩ | ⟨-, hrecords⟩
  · obtain rfl : Node.union inner = _ := by simpa using hinner
    obtain ⟨last, hlast, htype⟩ := hleads.exists_reached hname
    exact ⟨rfl, last, type, value, hlast, htype, hshape, hvalue.forks⟩
  · obtain ⟨title, fields, hrecord⟩ := hrecords _ hinner
    cases hrecord

/-- A union in a union is an option of a union. -/
theorem Renders.doubles_of_contains (h : Renders scope root node)
    (hcontains : node.Contains (.union branches)) (hinner : .union inner ∈ branches) :
    branches = [.null, .union inner] ∧ Doubles scope root := by
  have hstems := h.stems hcontains
  generalize hunion : Node.union branches = part at hstems
  cases hstems with
  | null => cases hunion
  | timestamp => cases hunion
  | variant => cases hunion
  | mention hname h =>
    subst hunion
    exact h.doubles hname hinner
  | @optional _ type hname h =>
    -- what is put beside null is no union, so nothing is nested here
    rcases type.optional_cases with ⟨others, rfl, -⟩ | ⟨hplain, hnullable⟩
    · cases hunion
      exact h.doubles hname hinner
    · cases hunion.trans hnullable
      obtain rfl : .union inner = type := by simpa using hinner
      exact absurd rfl (hplain inner)

section Built

variable {after : List String} (hrenders : Renders scope root node)
  (htrail : Trail scope [] node.marks after) (hclear : Unmasked scope)

include hrenders htrail hclear

theorem exists_union_of_forks (hforks : Forks scope name) (hpart : node.Contains part)
    (h : Renders scope name part) :
    ∃ branches, part = .union branches := by
  rcases hforks with hcarries | ⟨type, value, hleads, hvalue⟩
  · obtain ⟨branches, hbranches, -⟩ :=
      exists_records_of_carries hrenders htrail hclear hcarries hpart h
    exact ⟨branches, hbranches⟩
  · have hunion (node : Node) (hnode : RendersShape scope type.name type.shape node) :
        ∃ branches, node = .union branches := by
      rw [hvalue] at hnode
      cases hnode with
      | option => exact ⟨_, rfl⟩
    obtain ⟨branches, hbranches, -⟩ :=
      exists_union_of_leads hrenders htrail hclear hleads hunion hpart h
    exact ⟨branches, hbranches⟩

/-- An option that is reached is written out, and its value in it. -/
theorem not_flat_of_doubles (hdoubles : Doubles scope root) : ¬ node.Flat := by
  obtain ⟨name, type, value, hname, htype, hshape, hforks⟩ := hdoubles
  obtain ⟨part, hpart, hwritten⟩ := exists_written hrenders htrail hclear hname htype
  rw [hshape] at hwritten
  cases hwritten with
  | @option _ _ inner h =>
    have hinner : node.Contains inner := hpart.tail (by simp [Node.nullable, Node.inner])
    obtain ⟨branches, rfl⟩ := exists_union_of_forks hrenders htrail hclear hforks hinner h
    exact fun hflat ↦ hflat _ hpart branches (by simp)

end Built

/-! ### Schemas -/

/-- In the schema of a type, a union that is a branch of a union stands beside null and comes from
an option that is reached and whose value is written as a union. If no type has the name of a
variant's record, the schema is flat exactly if no such option is reached. -/
theorem schemaJson_flat_iff (self : Exporter) (name : String) (json : Json)
    (h : self.schemaJson name = .ok json) :
    ∃ node, self.schemaTree name = .ok node ∧ json = node.toJson self.owner ∧
      (∀ branches inner, node.Contains (.union branches) → .union inner ∈ branches →
        branches = [.null, .union inner] ∧ Doubles self.scope name) ∧
      (Unmasked self.scope → (node.Flat ↔ ¬ Doubles self.scope name)) := by
  obtain ⟨node, hnode, hjson, hrenders, after, htrail⟩ := exists_of_schemaJson h
  refine ⟨node, hnode, hjson, fun branches inner ↦ hrenders.doubles_of_contains,
    fun hclear ↦ ⟨?_, ?_⟩⟩
  · exact fun hflat hdoubles ↦ not_flat_of_doubles hrenders htrail hclear hdoubles hflat
  · exact fun hsingle branches hcontains inner hinner ↦
      hsingle (hrenders.doubles_of_contains hcontains hinner).2

/-- Prices that may be missing, in an offer whose price may be left out as well. -/
def offers : Exporter where
  owner := "com.example.sdf"
  scope := ⟨[
    { name := "amount", shape := .enumeration {
        variants := [{ name := "none" }, { name := "count", payload := some "u32" }] } },
    { name := "money", shape := .named "f64" },
    { name := "offer", shape := .object [{ name := "amount", type := "amount" },
        { name := "price", type := "price", isOptional := true }] },
    { name := "price", shape := .option "money" }]⟩

/-- The schema of an offer. -/
def offer : Node := .record (.declared "offer") [
  { name := "amount", type := .union [.record (.variant "amount" "none") [],
      .record (.variant "amount" "count") [{ name := "value", type := .primitive .u32 }]] },
  { name := "price", type := (Node.primitive .f64).nullable, isOptional := true }]

theorem schemaJson_flat_iff_offers : offers.scope.problems = [] ∧
    offers.schemaJson "offer" = .ok (offer.toJson offers.owner) ∧ Unmasked offers.scope ∧
      ¬ Doubles offers.scope "offer" ∧ offer.Flat := by
  have htree : offers.schemaTree "offer" = .ok offer := rfl
  have hjson : offers.schemaJson "offer" = .ok (offer.toJson offers.owner) := rfl
  have hclear : Unmasked offers.scope := by
    intro _ _ hsource
    cases hsource with
    | variant htype hshape hpayload hvariant =>
      simp only [offers, List.mem_cons, List.not_mem_nil, or_false] at htype
      rcases htype with rfl | rfl | rfl | rfl <;> cases hshape
      rcases List.mem_pair.mp hvariant with rfl | rfl <;> decide
  have hmoney (type : NamedType) : ¬ Leads offers.scope "money" type := by
    intro hleads
    cases hleads with
    | here h hend =>
      cases h.found
      exact hend _ rfl
    | synonym h htarget hrest =>
      cases h.found
      cases htarget
      cases hrest with
      | here h _ => cases h.foreign
      | synonym h _ _ => cases h.foreign
  have hsingle : ¬ Doubles offers.scope "offer" := by
    rintro ⟨name, type, value, -, hstands, hshape, hforks⟩
    have htype := mem_of_lookupType hstands.found
    simp only [offers, List.mem_cons, List.not_mem_nil, or_false] at htype
    rcases htype with rfl | rfl | rfl | rfl <;> cases hshape
    rcases hforks with ⟨last, _, hleads, -⟩ | ⟨last, _, hleads, -⟩
    · exact hmoney last hleads
    · exact hmoney last hleads
  obtain ⟨node, hnode, -, -, hflat⟩ := schemaJson_flat_iff offers "offer" _ hjson
  cases htree.symm.trans hnode
  exact ⟨rfl, hjson, hclear, hsingle, (hflat hclear).mpr hsingle⟩

/-- Remarks that may be missing, made of notes that may be missing. -/
def remarks : Exporter where
  owner := "com.example.sdf"
  scope :=
    ⟨[{ name := "note", shape := .option "string" }, { name := "remark", shape := .option "note" }]⟩

/-- The schema of a remark is a union of null and a union. -/
theorem remark_nests_unions : remarks.scope.Sealed ∧ remarks.scope.problems = [] ∧ ∃ node,
    remarks.schemaTree "remark" = .ok node ∧
      node = .union [.null, .union [.null, .primitive .string]] ∧ ¬ node.Flat := by
  have hsealed : remarks.scope.Sealed :=
    Scope.sealed_of_isSettled (by decide) (by decide) (by simp [NamedType.IsSettled])
  refine ⟨hsealed, rfl, _, rfl, rfl, fun hflat ↦ ?_⟩
  exact hflat _ .refl [.null, .primitive .string] (List.mem_cons_of_mem _ List.mem_cons_self)

end FlowSpec.Avro
