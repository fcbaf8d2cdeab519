import FlowSpec.Document.Declaration
import FlowSpec.Proofs.Outcome
import Mathlib.Logic.Relation

/-!
What a declaration keeps of the node that it was read from. Members correspond to entries one to one
and in order (`Corresponds`), and so they do in every declaration inside: the levels of a
declaration are reached by steps from a node and its declaration to an entry and its member's
(`Nests`), and a step leads to what was read from there again. Where the members of a level are lost
all the same is told exactly (`Overlooks`): a row takes anything else than a mapping for one without
entries, and an enumeration takes an alias for an entry without a payload.
-/

set_option autoImplicit false

namespace FlowSpec.Document

open Yaml (Node)
open Outcome
open Declaration (ofNode blank)

/-! ### Entries and members -/

/-- The node an alias stands for, or the node itself. -/
def standsFor : Node → Node
  | .reference _ _ (some target) => target
  | node => node

/-- A node declares a type, in place or through an alias. -/
def DeclaresType (node : Node) : Prop := ∃ type, (standsFor node).find? "type" = some type

/-- A node is an alias of one that declares a type. -/
def AliasesType (node : Node) : Prop :=
  ∃ line name target type, node = .reference line name (some target) ∧
    target.find? "type" = some type

/-- The entries of the mapping under a key; where anything else stands there are none. -/
def entriesUnder (node : Node) (key : String) : List (Node × Node) :=
  ((node.find? key).map Node.pairs).getD []

/-- What a property takes from its entry. -/
structure IsMember (entry : Node × Node) (member : Property Declaration) : Prop where
  name : member.name = entry.1.text
  type : ofNode entry.2 = .ok member.type
  isOptional : readOptional entry.2 = .ok member.isOptional
  serialize : readSerde entry.2 "serialize" = .ok member.serialize
  deserialize : readSerde entry.2 "deserialize" = .ok member.deserialize

/-- What an alternative takes from its entry. It has no payload where a `type` is missing in the
entry itself. -/
structure IsAlternative (entry : Node × Node) (alternative : Alternative Declaration) : Prop where
  name : alternative.name = entry.1.text
  payload : ∀ part, alternative.payload = some part → ofNode entry.2 = .ok part
  unit : alternative.payload = none ↔ entry.2.find? "type" = none
  serialize : readSerde entry.2 "serialize" = .ok alternative.serialize
  deserialize : readSerde entry.2 "deserialize" = .ok alternative.deserialize

/-- What a column takes from its entry. -/
structure IsColumn (entry : Node × Node) (column : Column) : Prop where
  name : column.name = entry.1.text
  type : (entry.2.find? "type").map Node.text = some column.type
  supported : column.type ∈ columnTypes

/-- A declaration is read from what stands there, behind an alias or in place; nothing is read as a
blank one. -/
def IsReadFrom (place : Option Node) (part : Declaration) : Prop :=
  ∃ node, place = some node ∧
    (ofNode (standsFor node) = .ok part ∨ (standsFor node).tag = "!!null" ∧ part = blank)

/-- What stands under a key of the node's `properties`. -/
def propertyAt (node : Node) (key : String) : Option Node :=
  (node.find? "properties").bind (·.find? key)

/-- Nothing but a mapping stands under a key. -/
def HoldsMapping (node : Node) (key : String) : Prop :=
  ∀ value, node.find? key = some value → value.isMapping = true

/-- The members of a declaration are the entries that its node lists, in the same order. -/
def Corresponds (node : Node) : Declaration → Prop
  | .plain .. => True
  | .object _ members =>
    HoldsMapping node "properties" ∧ List.Forall₂ IsMember (entriesUnder node "properties") members
  | .enumeration _ _ alternatives =>
    node.find? "oneOf" ≠ none ∧ HoldsMapping node "oneOf" ∧
      List.Forall₂ IsAlternative (entriesUnder node "oneOf") alternatives
  | .list _ items => IsReadFrom (node.find? "items") items
  | .option _ value => IsReadFrom (node.find? "value") value
  | .keyedState _ key value | .keyValue _ key value =>
    IsReadFrom (propertyAt node "key") key ∧ IsReadFrom (propertyAt node "value") value
  | .row _ columns => List.Forall₂ IsColumn (entriesUnder node "properties") columns

/-- A step from a declaration to one inside, each with its node. -/
inductive Nests : Node × Declaration → Node × Declaration → Prop
  | property {node : Node} {info : DeclarationInfo} {members : List (Property Declaration)}
      {entry : Node × Node} {member : Property Declaration}
      (h : (entry, member) ∈ (entriesUnder node "properties").zip members) :
      Nests (node, .object info members) (entry.2, member.type)
  | payload {node : Node} {info : DeclarationInfo} {tagging : String}
      {alternatives : List (Alternative Declaration)} {entry : Node × Node}
      {alternative : Alternative Declaration} {part : Declaration}
      (h : (entry, alternative) ∈ (entriesUnder node "oneOf").zip alternatives)
      (hpart : alternative.payload = some part) :
      Nests (node, .enumeration info tagging alternatives) (entry.2, part)
  | items {node items : Node} {info : DeclarationInfo} {part : Declaration}
      (h : node.find? "items" = some items) :
      Nests (node, .list info part) (standsFor items, part)
  | value {node value : Node} {info : DeclarationInfo} {part : Declaration}
      (h : node.find? "value" = some value) :
      Nests (node, .option info part) (standsFor value, part)
  | stateKey {node place : Node} {info : DeclarationInfo} {key value : Declaration}
      (h : propertyAt node "key" = some place) :
      Nests (node, .keyedState info key value) (standsFor place, key)
  | stateValue {node place : Node} {info : DeclarationInfo} {key value : Declaration}
      (h : propertyAt node "value" = some place) :
      Nests (node, .keyedState info key value) (standsFor place, value)
  | pairKey {node place : Node} {info : DeclarationInfo} {key value : Declaration}
      (h : propertyAt node "key" = some place) :
      Nests (node, .keyValue info key value) (standsFor place, key)
  | pairValue {node place : Node} {info : DeclarationInfo} {key value : Declaration}
      (h : propertyAt node "value" = some place) :
      Nests (node, .keyValue info key value) (standsFor place, value)

/-- No member is lost: what lists the columns of a row is a mapping, and an alternative is without a
payload only where its entry declares no type. -/
def KeepsMembers (node : Node) : Declaration → Prop
  | .row .. => HoldsMapping node "properties"
  | .enumeration _ _ alternatives =>
    List.Forall₂ (fun entry alternative ↦ alternative.payload = none → ¬ DeclaresType entry.2)
      (entriesUnder node "oneOf") alternatives
  | _ => True

/-- Where members are lost: a row is listed by something else than a mapping, or an entry of an
enumeration is an alias of a node that declares a type. -/
def Overlooks (node : Node) : Declaration → Prop
  | .row .. =>
    ∃ properties, node.find? "properties" = some properties ∧ properties.isMapping = false
  | .enumeration .. => ∃ entry ∈ entriesUnder node "oneOf", AliasesType entry.2
  | _ => False

variable {node place : Node} {declaration part : Declaration} {pairs : List (Node × Node)}
  {key word : String}

theorem find?_eq_none_of_not_isMapping (h : node.isMapping = false) : node.find? key = none := by
  cases node with
  | mapping => cases h
  | scalar | sequence | reference => rfl

theorem declaresType_iff : DeclaresType node ↔ node.find? "type" ≠ none ∨ AliasesType node := by
  rw [Option.ne_none_iff_exists']
  constructor
  · rintro ⟨type, htype⟩
    cases node with
    | scalar | sequence | mapping => exact .inl ⟨type, htype⟩
    | reference line name target =>
      cases target with
      | none => exact .inl ⟨type, htype⟩
      | some target => exact .inr ⟨line, name, target, type, rfl, htype⟩
  · rintro (⟨type, htype⟩ | ⟨line, name, target, type, rfl, htype⟩)
    · cases node with
      | scalar | sequence | mapping => exact ⟨type, htype⟩
      | reference => cases htype
    · exact ⟨type, htype⟩

theorem AliasesType.find?_eq_none (h : AliasesType node) : node.find? key = none := by
  obtain ⟨line, name, target, type, rfl, -⟩ := h
  rfl

/-! ### Reading one level -/

theorem forall₂_isColumn {columns : List Column} (h : pairs.mapM readColumn = .ok columns) :
    List.Forall₂ IsColumn pairs columns := by
  refine (mapM_eq_ok_iff.mp h).imp fun entry column hcolumn ↦ ?_
  unfold readColumn at hcolumn
  split at hcolumn
  · cases hcolumn
  · next type htype =>
    split at hcolumn
    · next hsupported =>
      cases hcolumn
      exact ⟨rfl, by rw [htype]; rfl, List.contains_iff_mem.mp hsupported⟩
    · cases hcolumn

theorem forall₂_isColumn_of_readColumns {columns : List Column}
    (h : readColumns node = .ok columns) :
    List.Forall₂ IsColumn (entriesUnder node "properties") columns := by
  unfold readColumns at h
  split at h
  · next properties hproperties =>
    rw [entriesUnder, hproperties]
    exact forall₂_isColumn h
  · next hproperties =>
    cases h
    rw [entriesUnder, hproperties]
    exact .nil

namespace Declaration

theorem forall₂_isMember {found : List (Property Declaration)} (h : members pairs = .ok found) :
    List.Forall₂ IsMember pairs found := by
  induction pairs generalizing found with
  | nil =>
    rw [members] at h
    cases h
    exact .nil
  | cons entry rest ih =>
    obtain ⟨key, value⟩ := entry
    rw [members] at h
    obtain ⟨type, htype, h⟩ := bind_eq_ok_iff.mp h
    obtain ⟨isOptional, hoptional, h⟩ := bind_eq_ok_iff.mp h
    obtain ⟨serialize, hserialize, h⟩ := bind_eq_ok_iff.mp h
    obtain ⟨deserialize, hdeserialize, h⟩ := bind_eq_ok_iff.mp h
    obtain ⟨others, hothers, h⟩ := bind_eq_ok_iff.mp h
    cases h
    exact .cons ⟨rfl, htype, hoptional, hserialize, hdeserialize⟩ (ih hothers)

/-- The test for a payload asks for a mapping with a `type`, which is to ask for the `type`
alone. -/
theorem exists_payload {α : Type} {value : Node} {next : Option Declaration → Outcome α}
    {result : α}
    (h : (if value.isMapping && (value.find? "type").isSome then some <$> ofNode value >>= next
      else .ok none >>= next) = .ok result) :
    ∃ payload, next payload = .ok result ∧ (∀ part, payload = some part → ofNode value = .ok part) ∧
      (payload = none ↔ value.find? "type" = none) := by
  split at h
  · next htype =>
    obtain ⟨payload, hpayload, h⟩ := bind_eq_ok_iff.mp h
    obtain ⟨part, hpart, rfl⟩ := map_eq_ok_iff.mp hpayload
    have hsome : value.find? "type" ≠ none := by
      rw [← Option.isSome_iff_ne_none]
      exact (Bool.and_eq_true_iff.mp htype).2
    refine ⟨some part, h, fun other hother ↦ ?_, ?_⟩
    · cases hother
      exact hpart
    · simp [hsome]
  · next htype =>
    refine ⟨none, h, nofun, fun _ ↦ ?_, fun _ ↦ rfl⟩
    cases hmapping : value.isMapping with
    | false => exact find?_eq_none_of_not_isMapping hmapping
    | true => simpa [hmapping] using htype

theorem forall₂_isAlternative {found : List (Alternative Declaration)}
    (h : alternatives pairs = .ok found) :
    List.Forall₂ IsAlternative pairs found := by
  induction pairs generalizing found with
  | nil =>
    rw [alternatives] at h
    cases h
    exact .nil
  | cons entry rest ih =>
    obtain ⟨key, value⟩ := entry
    rw [alternatives] at h
    obtain ⟨payload, h, hpart, hunit⟩ := exists_payload h
    obtain ⟨serialize, hserialize, h⟩ := bind_eq_ok_iff.mp h
    obtain ⟨deserialize, hdeserialize, h⟩ := bind_eq_ok_iff.mp h
    obtain ⟨others, hothers, h⟩ := bind_eq_ok_iff.mp h
    cases h
    exact .cons ⟨rfl, hpart, hunit, hserialize, hdeserialize⟩ (ih hothers)

/-- A reading for which no kind of node has a value leaves what was there. -/
theorem fst_eq_of_readKinds {α ε : Type} {wanted : String} {old : α} {result : α × Bool}
    {before after : List Yaml.Mismatch}
    (h : (Yaml.readKinds wanted (·, false) (fun _ _ ↦ none) none none node old :
      Yaml.Reading ε _).run before = .ok (result, after)) : result.1 = old := by
  rw [Yaml.readKinds, StateT.run_bind] at h
  obtain ⟨⟨target, between⟩, -, h⟩ := bind_eq_ok_iff.mp h
  cases target with
  | scalar tag line value =>
    simp only at h
    split at h
    · cases h
    · cases h
      rfl
    · cases h
      rfl
  | sequence tag line items =>
    cases h
    rfl
  | mapping tag line pairs =>
    simp only at h
    split at h
    · cases h
      rfl
    · rw [StateT.run_bind] at h
      obtain ⟨⟨_, _⟩, -, h⟩ := bind_eq_ok_iff.mp h
      cases h
      rfl
  | reference line name target =>
    cases h
    rfl

theorem eq_blank_of_decode {wanted : String} {rule : Node → Outcome Declaration}
    (h : node.tag = "!!null")
    (hread : (Yaml.Reader.custom wanted blank rule).decode node = .ok part) : part = blank := by
  have htarget : (node.target : Yaml.Reading Malformed Node) = pure node := by
    cases node with
    | scalar | sequence | mapping => rfl
    | reference => simp [Node.tag] at h
  rw [Yaml.Reader.decode, Yaml.Reading.finish] at hread
  split at hread
  · cases hread
  · next value hrun =>
    cases hread
    rw [StateT.run_bind] at hrun
    obtain ⟨⟨result, between⟩, hresult, hrun⟩ := bind_eq_ok_iff.mp hrun
    cases hrun
    simp only [Yaml.Reader.custom, htarget, pure_bind, h, beq_self_eq_true, if_true] at hresult
    exact fst_eq_of_readKinds hresult
  · cases hread

theorem isReadFrom_of_settle (h : settle (standsFor place) = .ok part) :
    IsReadFrom (some place) part := by
  rw [settle] at h
  refine ⟨place, rfl, ?_⟩
  split at h
  · next hnull => exact .inr ⟨beq_iff_eq.mp hnull, eq_blank_of_decode (beq_iff_eq.mp hnull) h⟩
  · exact .inl h

theorem isReadFrom_of_follow (h : follow place = .ok part) : IsReadFrom (some place) part := by
  apply isReadFrom_of_settle
  cases place with
  | scalar | sequence | mapping => simpa only [follow, standsFor] using h
  | reference line name target =>
    cases target with
    | none =>
      rw [follow] at h
      cases h
    | some target => simpa only [follow, standsFor] using h

/-- A declaration of two parts is made of what stands under `key` and `value`. -/
theorem exists_of_pair {make : Declaration → Declaration → Declaration}
    (h : pair make word node = .ok declaration) :
    ∃ first second, declaration = make first second ∧ IsReadFrom (propertyAt node "key") first ∧
      IsReadFrom (propertyAt node "value") second := by
  rw [pair] at h
  split at h
  · cases h
  · next properties hproperties =>
    split at h
    · next key value hkey hvalue =>
      obtain ⟨first, hfirst, h⟩ := bind_eq_ok_iff.mp h
      obtain ⟨second, hsecond, h⟩ := bind_eq_ok_iff.mp h
      cases h
      simp only [propertyAt, hproperties, Option.bind_some, hkey, hvalue]
      exact ⟨first, second, rfl, isReadFrom_of_follow hfirst, isReadFrom_of_follow hsecond⟩
    · cases h

/-- The kinds of declarations one by one, in the order in which `ofNode` tells them apart. -/
theorem corresponds_of_ofNode (h : ofNode node = .ok declaration) :
    Corresponds node declaration := by
  rw [ofNode] at h
  split at h
  case isFalse => cases h
  split at h
  · cases h
  split at h
  · cases h
  simp only at h
  split at h
  -- an object
  · split at h
    · next hproperties =>
      cases h
      simp [Corresponds, HoldsMapping, entriesUnder, hproperties]
    · next properties hproperties =>
      split at h
      · next hmapping =>
        obtain ⟨found, hfound, rfl⟩ := map_eq_ok_iff.mp h
        simpa [Corresponds, HoldsMapping, entriesUnder, hproperties,
          hmapping] using forall₂_isMember hfound
      · cases h
  -- an enumeration
  · obtain ⟨tagging, -, h⟩ := bind_eq_ok_iff.mp h
    split at h
    · cases h
    · next oneOf honeOf =>
      split at h
      · next hmapping =>
        obtain ⟨found, hfound, rfl⟩ := map_eq_ok_iff.mp h
        simpa [Corresponds, HoldsMapping, entriesUnder, honeOf,
          hmapping] using forall₂_isAlternative hfound
      · cases h
  -- a list
  · split at h
    · cases h
    · next items hitems =>
      obtain ⟨part, hpart, rfl⟩ := map_eq_ok_iff.mp h
      rw [Corresponds, hitems]
      exact isReadFrom_of_follow hpart
  -- an option
  · split at h
    · cases h
    · next value hvalue =>
      obtain ⟨part, hpart, rfl⟩ := map_eq_ok_iff.mp h
      rw [Corresponds, hvalue]
      exact isReadFrom_of_follow hpart
  -- a keyed state, a pair of a key and a value
  · obtain ⟨key, value, rfl, hparts⟩ := exists_of_pair h
    exact hparts
  · obtain ⟨key, value, rfl, hparts⟩ := exists_of_pair h
    exact hparts
  -- a row
  · obtain ⟨columns, hcolumns, rfl⟩ := map_eq_ok_iff.mp h
    exact forall₂_isColumn_of_readColumns hcolumns
  -- any other word
  · cases h
    trivial

end Declaration

/-! ### Reading at every level -/

theorem IsReadFrom.corresponds (h : IsReadFrom (some place) part) :
    Corresponds (standsFor place) part := by
  obtain ⟨node, hplace, hread⟩ := h
  cases hplace
  rcases hread with hread | ⟨-, rfl⟩
  · exact Declaration.corresponds_of_ofNode hread
  · trivial

/-- A step: what is read from inside a node corresponds to the place where it stands. -/
theorem Corresponds.of_nests {level below : Node × Declaration} (h : Corresponds level.1 level.2)
    (hstep : Nests level below) : Corresponds below.1 below.2 := by
  cases hstep with
  | property hmem => exact Declaration.corresponds_of_ofNode (List.forall₂_zip h.2 hmem).type
  | payload hmem hpart =>
    exact Declaration.corresponds_of_ofNode ((List.forall₂_zip h.2.2 hmem).payload _ hpart)
  | items hplace | value hplace =>
    rw [Corresponds, hplace] at h
    exact h.corresponds
  | stateKey hplace | pairKey hplace =>
    rw [Corresponds, hplace] at h
    exact h.1.corresponds
  | stateValue hplace | pairValue hplace =>
    rw [Corresponds, hplace] at h
    exact h.2.corresponds

theorem corresponds_of_reflTransGen {level below : Node × Declaration}
    (h : Corresponds level.1 level.2) (hsteps : Relation.ReflTransGen Nests level below) :
    Corresponds below.1 below.2 := by
  induction hsteps with
  | refl => exact h
  | tail _ hstep ih => exact ih.of_nests hstep

/-! ### Where members are lost -/

theorem IsAlternative.keeps_iff {entry : Node × Node} {alternative : Alternative Declaration}
    (h : IsAlternative entry alternative) :
    (alternative.payload = none → ¬ DeclaresType entry.2) ↔ ¬ AliasesType entry.2 := by
  rw [h.unit, declaresType_iff]
  constructor
  · exact fun hkeeps halias ↦ hkeeps halias.find?_eq_none (.inr halias)
  · intro halias hnone htype
    exact htype.elim (· hnone) halias

theorem forall₂_keeps_iff {alternatives : List (Alternative Declaration)}
    (h : List.Forall₂ IsAlternative pairs alternatives) :
    List.Forall₂ (fun entry alternative ↦ alternative.payload = none →
      ¬ DeclaresType entry.2) pairs alternatives ↔ ∀ entry ∈ pairs, ¬ AliasesType entry.2 := by
  induction h with
  | nil => simp
  | cons hfirst _ ih => rw [List.forall₂_cons, List.forall_mem_cons, hfirst.keeps_iff, ih]

theorem Corresponds.keepsMembers_iff (h : Corresponds node declaration) :
    KeepsMembers node declaration ↔ ¬ Overlooks node declaration := by
  cases declaration with
  | row info columns => simp [KeepsMembers, HoldsMapping, Overlooks]
  | enumeration info tagging alternatives =>
    simp only [KeepsMembers, Overlooks, forall₂_keeps_iff h.2.2, not_exists, not_and]
  | _ => simp [KeepsMembers, Overlooks]

/-- At every level of a declaration that is read, the members are the entries in their order, and
none is lost unless a row is listed by something else than a mapping or an entry of an enumeration
is an alias that declares a type. In these cases members are lost. -/
theorem ofNode_keepsMembers_iff {inner : Node} (h : ofNode node = .ok declaration)
    (hinside : Relation.ReflTransGen Nests (node, declaration) (inner, part)) :
    Corresponds inner part ∧ (KeepsMembers inner part ↔ ¬ Overlooks inner part) := by
  have hcorresponds : Corresponds inner part :=
    corresponds_of_reflTransGen (Declaration.corresponds_of_ofNode h) hinside
  exact ⟨hcorresponds, hcorresponds.keepsMembers_iff⟩

/-- A mapping that declares a number. -/
def sizeNode : Node := .mapping "!!map" 10 [(.scalar "!!str" 11 "type", .scalar "!!str" 11 "f64")]

/-- An enumeration in which an alias stands for the mapping of an earlier entry. -/
def figureNode : Node :=
  .mapping "!!map" 8
    [(.scalar "!!str" 8 "type", .scalar "!!str" 8 "enum"),
      (.scalar "!!str" 9 "oneOf", .mapping "!!map" 10
        [(.scalar "!!str" 10 "circle", sizeNode),
          (.scalar "!!str" 12 "square", .reference 12 "size" (some sizeNode))])]

/-- The enumeration as it is read. -/
def figure : Declaration :=
  .enumeration { line := 8 } ""
    [{ name := "circle", payload := some (.plain { line := 10 } "f64") }, { name := "square" }]

theorem ofNode_figureNode : ofNode figureNode = .ok figure := by
  have hsize : ofNode sizeNode = .ok (.plain { line := 10 } "f64") := by
    rw [ofNode]
    rfl
  rw [ofNode]
  change Declaration.enumeration { line := 8 } "" <$> Declaration.alternatives
    [(.scalar "!!str" 10 "circle", sizeNode),
      (.scalar "!!str" 12 "square", .reference 12 "size" (some sizeNode))] = _
  simp only [Declaration.alternatives, hsize]
  rfl

/-- A list whose items are an alias of the enumeration. -/
def figuresNode : Node :=
  .mapping "!!map" 14
    [(.scalar "!!str" 14 "type", .scalar "!!str" 14 "list"),
      (.scalar "!!str" 15 "items", .reference 15 "figure" (some figureNode))]

theorem ofNode_figuresNode : ofNode figuresNode = .ok (.list { line := 14 } figure) := by
  have hfollow : Declaration.follow (.reference 15 "figure" (some figureNode)) = .ok figure := by
    rw [Declaration.follow, Declaration.settle]
    exact ofNode_figureNode
  rw [ofNode]
  change Declaration.list { line := 14 } <$>
    Declaration.follow (.reference 15 "figure" (some figureNode)) = _
  rw [hfollow]
  rfl

theorem ofNode_keepsMembers_iff_figures :
    ofNode figuresNode = .ok (.list { line := 14 } figure) ∧
      Corresponds figureNode figure ∧
      (KeepsMembers figureNode figure ↔ ¬ Overlooks figureNode figure) := by
  have hitems : figuresNode.find? "items" = some (.reference 15 "figure" (some figureNode)) := rfl
  exact ⟨ofNode_figuresNode, ofNode_keepsMembers_iff ofNode_figuresNode (.single (.items hitems))⟩

/-- A row whose columns are listed by a sequence. -/
def readingNode : Node :=
  .mapping "!!map" 8
    [(.scalar "!!str" 8 "type", .scalar "!!str" 8 "arrow-row"),
      (.scalar "!!str" 9 "properties", .sequence "!!seq" 10 [sizeNode])]

/-- An alias that declares a type is read without a payload, and a row that lists its columns in a
sequence without columns. -/
theorem figure_and_reading_lose_members :
    (ofNode figureNode = .ok figure ∧ ¬ KeepsMembers figureNode figure) ∧
      ofNode readingNode = .ok (.row { line := 8 } []) ∧
      ¬ KeepsMembers readingNode (.row { line := 8 } []) := by
  refine ⟨⟨ofNode_figureNode, fun hkeeps ↦ ?_⟩, ?_, fun hkeeps ↦ ?_⟩
  · cases hkeeps with
    | cons _ hrest =>
      cases hrest with
      | cons hsquare _ => exact hsquare rfl ⟨_, rfl⟩
  · rw [ofNode]
    rfl
  · have hmapping : Node.isMapping (.sequence "!!seq" 10 [sizeNode]) = true := hkeeps _ rfl
    cases hmapping

end FlowSpec.Document
