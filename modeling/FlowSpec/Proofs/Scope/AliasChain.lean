import Mathlib.Data.Finset.Card
import FlowSpec.Proofs.Scope.Settling

/-!
Chains of aliases. The chain of a name begins with the name itself, and behind each alias comes its
target; it ends with a name under which nothing is declared, or no alias. Two names may stand for
one type, but behind one type comes one name: so a name that stands at no earlier place of the chain
has different aliases before it, and no more of them than are declared (`le_aliases_of_first`). The
bounded walks along aliases therefore come to the end of every chain that has one, even if it passes
through all types of the scope, and tell the others apart (`alias_walks_exact`).
-/

set_option autoImplicit false

namespace FlowSpec

def NamedType.isAlias (type : NamedType) : Bool :=
  match type.shape with
  | .named _ => true
  | _ => false

namespace Scope

variable {scope : Scope} {name target last : String} {count place fuel : Nat}

/-! ### Chains -/

/-- What an alias is declared to be. -/
def aliasTarget? (scope : Scope) (name : String) : Option String :=
  match scope.shape? name with
  | some (.named target) => some target
  | _ => none

/-- The name at a place of the chain. -/
def aliasChain (scope : Scope) (name : String) : Nat → Option String
  | 0 => some name
  | place + 1 => (aliasChain scope name place).bind scope.aliasTarget?

/-- So many aliases lead from a name to another one, which is no alias. -/
structure ChainEnds (scope : Scope) (name : String) (count : Nat) (last : String) : Prop where
  reaches : scope.aliasChain name count = some last
  stops : scope.aliasTarget? last = none

/-- The chain never ends. -/
def Endless (scope : Scope) (name : String) : Prop := ∀ place, (scope.aliasChain name place).isSome

theorem aliasTarget?_eq_some_iff :
    scope.aliasTarget? name = some target ↔ scope.shape? name = some (.named target) := by
  unfold aliasTarget?
  split <;> simp_all

theorem aliasChain_add (name : String) (place further : Nat) :
    scope.aliasChain name (place + further) =
      (scope.aliasChain name place).bind fun middle ↦ scope.aliasChain middle further := by
  induction further with
  | zero => exact (Option.bind_fun_some _).symm
  | succ further ih =>
    rw [← Nat.add_assoc, aliasChain, ih, Option.bind_assoc]
    rfl

/-- Behind an alias, the chain is that of its target. -/
theorem aliasChain_succ_of_target (h : scope.aliasTarget? name = some target) (place : Nat) :
    scope.aliasChain name (place + 1) = scope.aliasChain target place := by
  rw [Nat.add_comm, aliasChain_add, aliasChain, aliasChain, Option.bind_some, h, Option.bind_some]

theorem aliasChain_succ_of_end (h : scope.aliasTarget? name = none) (place : Nat) :
    scope.aliasChain name (place + 1) = none := by
  rw [Nat.add_comm, aliasChain_add, aliasChain, aliasChain, Option.bind_some, h, Option.bind_none]

theorem exists_chainEnds_or_endless (scope : Scope) (name : String) :
    (∃ count last, scope.ChainEnds name count last) ∨ scope.Endless name := by
  by_contra hneither
  obtain ⟨hends, hendless⟩ := not_or.mp hneither
  refine hendless fun place ↦ ?_
  induction place with
  | zero => rfl
  | succ place ih =>
    obtain ⟨last, hlast⟩ := Option.isSome_iff_exists.mp ih
    rw [aliasChain, hlast, Option.bind_some, Option.isSome_iff_ne_none]
    exact fun hstops ↦ hends ⟨place, last, hlast, hstops⟩

/-! ### The types on the way -/

/-- The type that the name at a place stands for. -/
def typeAt (scope : Scope) (name : String) (place : Nat) : Option NamedType :=
  (scope.aliasChain name place).bind scope.lookup?

def aliases (scope : Scope) : List NamedType := scope.types.filter NamedType.isAlias

/-- Every place of a chain but the last has an alias, which leads to the next place. -/
theorem exists_typeAt_of_lt (hlast : scope.aliasChain name count = some last)
    (hplace : place < count) :
    ∃ type target, scope.typeAt name place = some type ∧ type.shape = .named target ∧
      scope.aliasChain name (place + 1) = some target := by
  obtain ⟨further, rfl⟩ := Nat.exists_eq_add_of_lt hplace
  rw [Nat.add_right_comm, aliasChain_add] at hlast
  obtain ⟨target, hnext, -⟩ := Option.bind_eq_some_iff.mp hlast
  obtain ⟨middle, hmiddle, htarget⟩ := Option.bind_eq_some_iff.mp hnext
  rw [aliasTarget?_eq_some_iff, shape?, Option.map_eq_some_iff] at htarget
  obtain ⟨type, htype, hshape⟩ := htarget
  exact ⟨type, target, by rw [typeAt, hmiddle, Option.bind_some, htype], hshape, hnext⟩

/-- Where one type stands at two places, what comes later in the chain has come before. -/
theorem typeAt_injOn_of_first (hlast : scope.aliasChain name count = some last)
    (hfirst : ∀ place < count, scope.aliasChain name place ≠ some last) :
    Set.InjOn (scope.typeAt name) (Finset.range count) := by
  have hdifferent (first second : Nat) (horder : first < second) (hsecond : second < count) :
      scope.typeAt name first ≠ scope.typeAt name second := by
    intro hsame
    obtain ⟨type, target, htype, hshape, hnext⟩ := exists_typeAt_of_lt hlast (horder.trans hsecond)
    obtain ⟨other, found, hother, hfound, hafter⟩ := exists_typeAt_of_lt hlast hsecond
    obtain rfl : type = other := Option.some.inj (htype.symm.trans (hsame.trans hother))
    obtain rfl : target = found := Shape.named.inj (hshape.symm.trans hfound)
    -- both places lead to one name, and from there it is equally far to the last one
    obtain ⟨further, rfl⟩ := Nat.exists_eq_add_of_lt hsecond
    refine hfirst (first + 1 + further) (by omega) ?_
    rw [Nat.add_right_comm, aliasChain_add, hafter] at hlast
    rw [aliasChain_add, hnext, hlast]
  intro first hfirst second hsecond hsame
  rw [Finset.mem_coe, Finset.mem_range] at hfirst hsecond
  rcases Nat.lt_trichotomy first second with horder | horder | horder
  · exact absurd hsame (hdifferent first second horder hsecond)
  · exact horder
  · exact absurd hsame.symm (hdifferent second first horder hfirst)

theorem typeAt_mem_aliases (hlast : scope.aliasChain name count = some last)
    (hplace : place < count) :
    scope.typeAt name place ∈ (scope.aliases.map some).toFinset := by
  obtain ⟨type, target, htype, hshape, -⟩ := exists_typeAt_of_lt hlast hplace
  obtain ⟨middle, -, hlookup⟩ := Option.bind_eq_some_iff.mp htype
  have halias : type.isAlias = true := by rw [NamedType.isAlias, hshape]
  rw [htype, List.mem_toFinset]
  exact List.mem_map_of_mem (List.mem_filter.mpr ⟨mem_of_lookupType hlookup, halias⟩)

/-- A name that has not occurred before stands behind no more aliases than are declared. -/
theorem le_aliases_of_first (hlast : scope.aliasChain name count = some last)
    (hfirst : ∀ place < count, scope.aliasChain name place ≠ some last) :
    count ≤ scope.aliases.length := by
  calc count = (Finset.range count).card := (Finset.card_range count).symm
    _ ≤ (scope.aliases.map some).toFinset.card :=
      Finset.card_le_card_of_injOn _ (fun _ hplace ↦
          typeAt_mem_aliases hlast (Finset.mem_range.mp hplace))
        (typeAt_injOn_of_first hlast hfirst)
    _ ≤ (scope.aliases.map some).length := List.toFinset_card_le _
    _ = scope.aliases.length := List.length_map _

/-- The last name of a chain has not occurred before: the chain would not end there. -/
theorem ChainEnds.first (h : scope.ChainEnds name count last) (hplace : place < count) :
    scope.aliasChain name place ≠ some last := by
  intro hbefore
  obtain ⟨-, target, -, -, hnext⟩ := exists_typeAt_of_lt h.reaches hplace
  rw [aliasChain, hbefore, Option.bind_some, h.stops] at hnext
  cases hnext

/-- The chain passes every type once at most. -/
theorem ChainEnds.le_size (h : scope.ChainEnds name count last) : count ≤ scope.size :=
  (le_aliases_of_first h.reaches fun _ hplace ↦ h.first hplace).trans (List.length_filter_le ..)

/-! ### Bounded walks -/

theorem innerNameAux_succ_of_target (h : scope.aliasTarget? name = some target) (fuel : Nat) :
    scope.innerNameAux (fuel + 1) name = scope.innerNameAux fuel target := by
  rw [innerNameAux, aliasTarget?_eq_some_iff.mp h]

theorem innerNameAux_succ_of_end (h : scope.aliasTarget? name = none) (fuel : Nat) :
    scope.innerNameAux (fuel + 1) name = (name, scope.contains name) := by
  unfold innerNameAux contains
  cases hlookup : scope.lookup? name with
  | none => simp [shape?, hlookup]
  | some type =>
    cases hshape : type.shape <;> simp_all [aliasTarget?, shape?]

/-- The usual name of a primitive type that is declared under the name, unless it is `bytes`; else
the name itself. -/
def scalarName (scope : Scope) (name : String) : String :=
  match scope.shape? name with
  | some (.primitive kind) => if kind = .bytes then name else kind.name
  | _ => name

theorem resolveAliasAux_succ_of_target (h : scope.aliasTarget? name = some target) (fuel : Nat) :
    scope.resolveAliasAux (fuel + 1) name = scope.resolveAliasAux fuel target := by
  rw [resolveAliasAux, aliasTarget?_eq_some_iff.mp h]

theorem resolveAliasAux_succ_of_end (h : scope.aliasTarget? name = none) (fuel : Nat) :
    scope.resolveAliasAux (fuel + 1) name = scope.scalarName name := by
  unfold resolveAliasAux scalarName
  cases hshape : scope.shape? name with
  | none => rfl
  | some shape =>
    cases shape with
    | named target => simp [aliasTarget?, hshape] at h
    | primitive kind => cases kind <;> rfl
    | _ => rfl

/-- Both walks come to the end of a chain that is not longer than they may go. -/
theorem ChainEnds.walks (h : scope.ChainEnds name count last) (hfuel : count < fuel) :
    scope.innerNameAux fuel name = (last, scope.contains last) ∧
      scope.resolveAliasAux fuel name = scope.scalarName last := by
  induction fuel generalizing name count with
  | zero => omega
  | succ fuel ih =>
    cases count with
    | zero =>
      obtain rfl := Option.some.inj h.reaches
      exact ⟨innerNameAux_succ_of_end h.stops fuel, resolveAliasAux_succ_of_end h.stops fuel⟩
    | succ count =>
      cases htarget : scope.aliasTarget? name with
      | none =>
        have hnone := aliasChain_succ_of_end htarget count
        rw [h.reaches] at hnone
        cases hnone
      | some target =>
        rw [innerNameAux_succ_of_target htarget, resolveAliasAux_succ_of_target htarget]
        exact ih ⟨aliasChain_succ_of_target htarget count ▸ h.reaches,
          h.stops⟩ (Nat.lt_of_succ_lt_succ hfuel)

/-- A walk that has to go further than it may finds nothing. -/
theorem innerNameAux_of_isSome (h : (scope.aliasChain name fuel).isSome) :
    scope.innerNameAux fuel name = ("", false) := by
  induction fuel generalizing name with
  | zero => rfl
  | succ fuel ih =>
    cases htarget : scope.aliasTarget? name with
    | none => simp [aliasChain_succ_of_end htarget] at h
    | some target =>
      rw [innerNameAux_succ_of_target htarget]
      exact ih (aliasChain_succ_of_target htarget fuel ▸ h)

/-- The chain of a name ends or goes on forever. Where it ends, it has passed no more aliases than
there are types. The walk for the inner name then tells the last name, with a flag that it is native
or declared, and the walk for the scalar tells the usual name of a primitive type from `u8` to
`string` that is declared there, else the last name; neither finds more if it may go further. Where
the chain never ends, the walk for the inner name finds nothing. -/
theorem alias_walks_exact (scope : Scope) (name : String) :
    ((∃ count last, scope.ChainEnds name count last) ∨ scope.Endless name) ∧
    (∀ count last, scope.ChainEnds name count last →
      count ≤ scope.size ∧
      (last ∈ Primitive.nativeNames ∨ (scope.shape? last).isSome →
        scope.innerName name = (last, true)) ∧
      (last ∉ Primitive.nativeNames → scope.shape? last = none →
        scope.innerName name = (last, false)) ∧
      (∀ kind, scope.shape? last = some (.primitive kind) → kind.code ≤ Primitive.string.code →
        scope.resolveAlias name = kind.name) ∧
      ((¬∃ kind, scope.shape? last = some (.primitive kind) ∧ kind.code ≤ Primitive.string.code) →
        scope.resolveAlias name = last) ∧
      ∀ fuel, scope.size < fuel → scope.innerNameAux fuel name = scope.innerName name ∧
        scope.resolveAliasAux fuel name = scope.resolveAlias name) ∧
    (scope.Endless name → scope.innerName name = ("", false)) := by
  refine ⟨exists_chainEnds_or_endless scope name, fun count last hends ↦ ?_,
    fun hendless ↦ innerNameAux_of_isSome (hendless _)⟩
  have hsize := hends.le_size
  obtain ⟨hinner, hscalar⟩ := hends.walks (Nat.lt_succ_of_le hsize)
  have hcontains : scope.contains last = true ↔ last ∈ Primitive.nativeNames ∨
      (scope.shape? last).isSome := by
    simp [contains, shape?]
  have hbytes : ∀ kind : Primitive, kind.code ≤ Primitive.string.code ↔ kind ≠ .bytes := by
    intro kind
    cases kind <;> decide
  refine ⟨hsize, fun hknown ↦ ?_, fun hforeign hfree ↦ ?_, fun kind hkind hcode ↦ ?_,
    fun hother ↦ ?_, fun fuel hfuel ↦ ?_⟩
  · exact hinner.trans (by rw [hcontains.mpr hknown])
  · have hunknown : scope.contains last = false := by
      rw [← Bool.not_eq_true, hcontains, hfree]
      simp [hforeign]
    exact hinner.trans (by rw [hunknown])
  · exact hscalar.trans (by simp [scalarName, hkind, (hbytes kind).mp hcode])
  · refine hscalar.trans ?_
    unfold scalarName
    split
    next kind hkind =>
      have hbyte : kind = .bytes := by
        by_contra hne
        exact hother ⟨kind, hkind, (hbytes kind).mpr hne⟩
      simp [hbyte]
    next => rfl
  · obtain ⟨hfurther, hscalar'⟩ := hends.walks (hsize.trans_lt hfuel)
    exact ⟨hfurther.trans hinner.symm, hscalar'.trans hscalar.symm⟩

/-- A handle is a nickname, by another spelling, and a nickname a string: all types are on the
way. -/
def handleScope : Scope :=
  { types := [{ name := "handle", shape := .named "nick-name" },
      { name := "nick_name", shape := .named "string" }] }

/-- An alias of an alias of itself. -/
def ringScope : Scope :=
  { types := [{ name := "heads", shape := .named "tails" },
      { name := "tails", shape := .named "heads" }] }

theorem endless_ringScope : ringScope.Endless "heads" := by
  have hsides : ∀ place, ringScope.aliasChain "heads" place = some "heads" ∨
      ringScope.aliasChain "heads" place = some "tails" := by
    intro place
    induction place with
    | zero => exact .inl rfl
    | succ place ih =>
      rcases ih with hheads | htails
      · exact .inr (by rw [aliasChain, hheads]; decide)
      · exact .inl (by rw [aliasChain, htails]; decide)
  intro place
  rcases hsides place with hheads | htails
  · simp [hheads]
  · simp [htails]

theorem alias_walks_exact_handle :
    handleScope.ChainEnds "handle" handleScope.size "string" ∧
      handleScope.innerName "handle" = ("string", true) ∧
      handleScope.resolveAlias "handle" = "string" ∧
      ringScope.Endless "heads" ∧ ringScope.innerName "heads" = ("", false) := by
  have hends : handleScope.ChainEnds "handle" handleScope.size "string" := ⟨by decide, by decide⟩
  obtain ⟨-, hexact, -⟩ := alias_walks_exact handleScope "handle"
  obtain ⟨-, -, hendless⟩ := alias_walks_exact ringScope "heads"
  obtain ⟨-, hinner, -, -, hscalar, -⟩ := hexact _ _ hends
  have hfree : handleScope.shape? "string" = none := by decide
  refine ⟨hends, hinner (.inl (by decide)), hscalar ?_, endless_ringScope,
    hendless endless_ringScope⟩
  rintro ⟨kind, hkind, -⟩
  cases hfree.symm.trans hkind

end Scope

end FlowSpec
