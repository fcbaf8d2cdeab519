import Mathlib.Tactic.SplitIfs
import FlowSpec.Proofs.Service.Typing

/-!
What validation knows of a pair. It may have lost the key on the way and may spell the types
otherwise, but all that it knows is true: its pair is a sketch of the pair that flows. A step that
takes a sketch takes the pair, and sketches stay sketches behind transforms. So transforms without
problems flow, and the declared output of the last of them is a sketch of what leaves them.
-/

set_option autoImplicit false

namespace FlowSpec

open Validation

variable {step : Step} {operation : Operation} {operations : List Operation} {kind : String}

/-! ### Names of types -/

theorem sameTypeName_refl (a : String) : sameTypeName a a := by
  simp [sameTypeName]

theorem sameTypeName.symm {a b : String} (h : sameTypeName a b) : sameTypeName b a := by
  rw [sameTypeName, beq_iff_eq] at h ⊢
  exact h.symm

theorem sameTypeName.trans {a b c : String} (h : sameTypeName a b) (h' : sameTypeName b c) :
    sameTypeName a c := by
  rw [sameTypeName, beq_iff_eq] at h h' ⊢
  exact h.trans h'

/-! ### What transforms pass on -/

theorem Operation.passOn_of_filter (h : operation.operator = .filter) (pair : Pair) :
    operation.passOn pair = pair := by
  rw [Operation.passOn, h]

theorem Operation.passOn_of_output {output : Output} (hfilter : operation.operator ≠ .filter)
    (houtput : operation.step.output = some output) (pair : Pair) :
    operation.passOn pair = pair.apply output := by
  rw [Operation.passOn, houtput]
  split <;> simp_all

/-! ### Sketches -/

/-- All that a sketch tells of a pair is true of it, up to spelling. -/
structure Pair.Sketches (sketch pair : Pair) : Prop where
  value : sameTypeName sketch.value pair.value
  key : ∀ key, sketch.key = some key → ∃ found, pair.key = some found ∧ sameTypeName key found

namespace Pair.Sketches

variable {sketch pair : Pair}

theorem refl (pair : Pair) : pair.Sketches pair where
  value := sameTypeName_refl pair.value
  key := fun key hkey ↦ ⟨key, hkey, sameTypeName_refl key⟩

theorem findsKey (h : sketch.Sketches pair) (hstep : step.FindsKey sketch) :
    step.FindsKey pair := by
  intro key hkey
  obtain ⟨middle, hmiddle, hsame⟩ := hstep key hkey
  obtain ⟨found, hfound, hsame'⟩ := h.key middle hmiddle
  exact ⟨found, hfound, sameTypeName.trans hsame hsame'⟩

theorem takes (h : sketch.Sketches pair) (hstep : step.Takes sketch) : step.Takes pair := by
  obtain ⟨⟨parameter, hparameter, hsame⟩, hkey⟩ := hstep
  exact ⟨⟨parameter, hparameter, sameTypeName.trans hsame h.value⟩, h.findsKey hkey⟩

theorem apply (h : sketch.Sketches pair) (output : Output) :
    (sketch.apply output).Sketches (pair.apply output) where
  value := sameTypeName_refl output.value
  key := by
    unfold Pair.apply
    cases output.key with
    | none => exact h.key
    | some key => exact fun found hfound ↦ ⟨found, hfound, sameTypeName_refl found⟩

theorem passOn (h : sketch.Sketches pair) (operation : Operation) :
    (operation.passOn sketch).Sketches (operation.passOn pair) := by
  unfold Operation.passOn
  split
  · exact h
  · exact h
  · exact h.apply _

theorem passThrough (h : sketch.Sketches pair) (operations : List Operation) :
    (passThrough operations sketch).Sketches (passThrough operations pair) := by
  induction operations generalizing sketch pair with
  | nil => exact h
  | cons operation rest ih => exact ih (h.passOn operation)

theorem flows (h : sketch.Sketches pair) (hflows : Flows operations sketch) :
    Flows operations pair := by
  induction operations generalizing sketch pair with
  | nil => trivial
  | cons operation rest ih => exact ⟨h.takes hflows.1, ih (h.passOn operation) hflows.2⟩

theorem keyedPair (h : sketch.Sketches pair) (partition : Partition) :
    (keyedPair partition sketch).Sketches (keyedPair partition pair) := by
  unfold Validation.keyedPair
  cases partition.assignKey.output with
  | none => exact h
  | some output =>
    exact ⟨h.value, fun key hkey ↦ ⟨key, hkey, sameTypeName_refl key⟩⟩

end Pair.Sketches

namespace Validation

/-! ### Steps -/

theorem inputCount_eq_nil_iff {count : Nat} :
    inputCount count kind step = [] ↔ step.inputs.length = if step.requiresKey then count + 1
      else count := by
  unfold inputCount
  dsimp only
  split_ifs <;> simp_all

theorem exists_valueInput_of_inputCount {count : Nat} (hcount : 0 < count)
    (h : inputCount count kind step = []) : ∃ parameter, step.valueInput = some parameter := by
  rw [inputCount_eq_nil_iff] at h
  unfold Step.valueInput
  split_ifs at h ⊢ with hkey
  · have hlt : 1 < step.inputs.length := by omega
    exact ⟨step.inputs[1], List.getElem?_eq_getElem hlt⟩
  · have hlt : 0 < step.inputs.length := by omega
    exact ⟨step.inputs[0], List.getElem?_eq_getElem hlt⟩

/-- Every operator but the aggregate takes a value. -/
theorem exists_valueInput_of_stepProblems {scope : Scope} {operator : Operator}
    (hoperator : operator ≠ .aggregate) (h : stepProblems scope operator step = []) :
    ∃ parameter, step.valueInput = some parameter := by
  have hsignature := (List.append_eq_nil_iff.mp h).1
  have hcount : ∃ count, 0 < count ∧ inputCount count operator.name step = [] := by
    cases operator with
    | aggregate => exact absurd rfl hoperator
    | assignTimestamp =>
      simp only [signature, List.append_assoc, List.append_eq_nil_iff] at hsignature
      exact ⟨2, by decide, hsignature.1⟩
    | map | filter | filterMap | flatMap | assignKey | updateState =>
      simp only [signature, List.append_assoc, List.append_eq_nil_iff] at hsignature
      exact ⟨1, by decide, hsignature.1⟩
  obtain ⟨count, hpositive, hcount⟩ := hcount
  exact exists_valueInput_of_inputCount hpositive hcount

theorem output_of_outputPresent (h : outputPresent kind step = []) : step.output.isSome := by
  unfold outputPresent at h
  split_ifs at h with houtput
  exact houtput

/-! ### Transforms -/

theorem keyProblems_eq_nil_iff {pair : Pair} :
    keyProblems operation pair = [] ↔ operation.step.FindsKey pair := by
  unfold keyProblems Step.FindsKey keyInput
  cases operation.step.inputs with
  | nil => simp
  | cons first rest =>
    by_cases hkey : first.isKey
    · cases pair.key <;> simp [hkey]
    · simp [hkey]

theorem valueProblems_eq_nil_iff {pair : Pair} {provider : String}
    {parameter : Parameter} (h : operation.step.valueInput = some parameter) :
    valueProblems operation pair provider = [] ↔ sameTypeName parameter.type pair.value := by
  simp [valueProblems, h]

/-- Transforms that are found free of problems take what reaches them. -/
theorem flows_of_transformProblems {scope : Scope} {pair : Pair}
    {provider : String} (hoperators : ∀ operation ∈ operations, operation.operator.isTransform)
    (h : transformProblems scope operations pair provider = []) : Flows operations pair := by
  induction operations generalizing pair provider with
  | nil => trivial
  | cons operation rest ih =>
    simp only [transformProblems, List.append_eq_nil_iff] at h
    obtain ⟨⟨⟨hstep, hkey⟩, hvalue⟩, hrest⟩ := h
    obtain ⟨htransform, hoperators⟩ := List.forall_mem_cons.mp hoperators
    have hoperator : operation.operator ≠ .aggregate := by
      intro hoperator
      rw [hoperator] at htransform
      cases htransform
    obtain ⟨parameter, hparameter⟩ := exists_valueInput_of_stepProblems hoperator hstep
    refine ⟨(Step.takes_iff_of_valueInput hparameter).mpr ⟨?_, ?_⟩, ih hoperators hrest⟩
    · exact keyProblems_eq_nil_iff.mp hkey
    · exact (valueProblems_eq_nil_iff hparameter).mp hvalue

theorem eq_passThrough_of_transformsOutput {pair output : Pair}
    (h : transformsOutput operations pair = some output) :
    output = passThrough operations pair := by
  induction operations generalizing pair with
  | nil => exact (Option.some.inj h).symm
  | cons operation rest ih =>
    unfold transformsOutput at h
    split at h
    · split_ifs at h
      exact ih h
    · cases h

theorem sketches_of_transformsOutput {sketch pair output : Pair}
    (hsketch : sketch.Sketches pair) (h : transformsOutput operations sketch = some output) :
    output.Sketches (passThrough operations pair) := by
  rw [eq_passThrough_of_transformsOutput h]
  exact hsketch.passThrough operations

/-- The declared output of the last transform tells nothing but the truth of what leaves them. -/
theorem sketches_of_chainOutput {last : Operation} {pair sketch : Pair}
    (hflows : Flows operations pair) (hlast : operations.getLast? = some last)
    (h : chainOutput last = .ok sketch) : sketch.Sketches (passThrough operations pair) := by
  obtain ⟨before, rfl⟩ := List.getLast?_eq_some_iff.mp hlast
  rw [passThrough_append]
  obtain ⟨htakes, -⟩ := (flows_append_iff.mp hflows).2
  obtain ⟨parameter, hparameter, hsame⟩ := htakes.value
  change sketch.Sketches (last.passOn (passThrough before pair))
  generalize passThrough before pair = reaching at htakes hsame
  unfold chainOutput at h
  rw [Step.inputPair_eq, hparameter, Option.map_some] at h
  split_ifs at h with hfilter
  · -- A filter passes on what it takes, and it takes what it declares.
    obtain rfl := Except.ok.inj h
    rw [Operation.passOn_of_filter hfilter]
    exact ⟨hsame, htakes.key⟩
  · cases houtput : last.step.output with
    | none =>
      rw [houtput] at h
      cases h
    | some output =>
      rw [houtput] at h
      obtain rfl := Except.ok.inj h
      rw [Operation.passOn_of_output hfilter houtput]
      refine ⟨sameTypeName_refl output.value, fun key hkey ↦ ⟨key, ?_, sameTypeName_refl key⟩⟩
      have hkey : output.key = some key := hkey
      simp [Pair.apply, hkey]

end Validation

end FlowSpec
