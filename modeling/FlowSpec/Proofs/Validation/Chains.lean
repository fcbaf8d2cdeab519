import FlowSpec.Proofs.Inference.Typing
import FlowSpec.Proofs.Validation.Sketch

/-!
Three walks through a chain of transforms agree. Validation looks for problems and goes on behind
them, the pair that leaves a chain is computed without a look at keys, and inference stops at the
first step that does not take what reaches it. Where all steps take what reaches them (`Flows`), the
pair leaves the chain and validation finds the problems of the single steps only. Inference succeeds
exactly then, so that a chain without problems is inferred, and a chain that is inferred has no
problems but those of its steps (`chain_checks_agree`).
-/

set_option autoImplicit false

namespace FlowSpec.Validation

open Inference

section Flows

variable {scope : Scope} {operation : Operation} {operations : List Operation} {pair : Pair}
  {provider : String}

theorem keyProblems_of_takes (h : operation.step.Takes pair) : keyProblems operation pair = [] :=
  keyProblems_eq_nil_iff.mpr h.key

theorem valueProblems_of_takes (h : operation.step.Takes pair) :
    valueProblems operation pair provider = [] := by
  obtain ⟨parameter, hparameter, hsame⟩ := h.value
  exact (valueProblems_eq_nil_iff hparameter).mpr hsame

/-- A step that takes the pair passes it on. -/
theorem transformsOutput_cons_of_takes (h : operation.step.Takes pair) :
    transformsOutput (operation :: operations) pair =
      transformsOutput operations (operation.passOn pair) := by
  obtain ⟨parameter, hparameter, hsame⟩ := h.value
  rw [transformsOutput, hparameter]
  exact if_pos hsame

theorem transformsOutput_of_flows (h : Flows operations pair) :
    transformsOutput operations pair = some (passThrough operations pair) := by
  induction operations generalizing pair with
  | nil => rfl
  | cons operation rest ih =>
    rw [transformsOutput_cons_of_takes h.1, ih h.2]
    rfl

theorem transformProblems_of_flows (h : Flows operations pair) :
    transformProblems scope operations pair provider =
      operations.flatMap fun operation ↦ stepProblems scope operation.operator operation.step := by
  induction operations generalizing pair provider with
  | nil => rfl
  | cons operation rest ih =>
    rw [transformProblems, keyProblems_of_takes h.1, valueProblems_of_takes h.1, ih h.2,
      List.append_nil, List.append_nil, List.flatMap_cons]

end Flows

/-- Transforms without problems are inferred, with the pair that leaves them. Transforms that are
inferred put out that pair and have no problems but those of their steps. -/
theorem chain_checks_agree (scope : Scope) (service position provider : String) (index : Nat)
    (operations : List Operation) (pair : Pair) :
    ((∀ operation ∈ operations, operation.operator.isTransform) →
      transformProblems scope operations pair provider = [] →
        ∃ trace, chain service position index operations pair = .ok trace ∧
          transformsOutput operations pair = some trace.pair) ∧
      ∀ trace, chain service position index operations pair = .ok trace →
        transformsOutput operations pair = some trace.pair ∧
          transformProblems scope operations pair provider =
            operations.flatMap fun operation ↦
              stepProblems scope operation.operator operation.step := by
  constructor
  · intro hoperators hproblems
    have hflows := flows_of_transformProblems hoperators hproblems
    obtain ⟨trace, htrace, hpair⟩ := (yields_chain_iff service position index).mpr ⟨hflows, rfl⟩
    exact ⟨trace, htrace, by rw [hpair, transformsOutput_of_flows hflows]⟩
  · intro trace htrace
    obtain ⟨hflows, hpair⟩ := (yields_chain_iff service position index).mp ⟨trace, htrace, rfl⟩
    exact ⟨by rw [hpair, transformsOutput_of_flows hflows], transformProblems_of_flows hflows⟩

namespace Dispatch

/-- Orders by number, whose sums are put out by shop and told in words. -/
def operations : List Operation :=
  [⟨.filter, { uses := "large"
               inputs :=
                 [{ name := "id", type := "order-id", isKey := true },
                   { name := "amount", type := "u32" }]
               output := some { value := "bool" } }⟩,
   ⟨.map, { uses := "by-shop", inputs := [{ name := "amount", type := "u32" }]
            output := some { key := some "string", value := "u64" } }⟩,
   ⟨.filterMap, { uses := "tell"
                  inputs :=
                    [{ name := "shop", type := "string", isKey := true },
                      { name := "sum", type := "u64" }]
                  output := some { value := "string", isOptional := true } }⟩]

def scope : Scope := { types := [{ name := "order_id", shape := .primitive .u64 }] }

def orders : Pair := { key := some "order_id", value := "u32" }

end Dispatch

/-- Where the key has no type, the filter has a problem and the chain is inferred. -/
theorem chain_checks_agree_dispatch :
    (∀ operation ∈ Dispatch.operations, operation.operator.isTransform) ∧
      transformProblems Dispatch.scope Dispatch.operations Dispatch.orders "orders" = [] ∧
      (∃ trace, chain "dispatch" "transforms" 0 Dispatch.operations Dispatch.orders = .ok trace ∧
        trace.pair = { key := some "string", value := "string" }) ∧
      transformProblems { types := [] } Dispatch.operations Dispatch.orders "orders" =
        ["function `large` has invalid input type, "
          ++ "Referenced type `order-id` not found in config or imported types"] := by
  have hoperators : ∀ operation ∈ Dispatch.operations, operation.operator.isTransform := by decide
  have hproblems : transformProblems Dispatch.scope Dispatch.operations Dispatch.orders "orders" =
      [] := by decide
  obtain ⟨hvalid, -⟩ :=
    chain_checks_agree Dispatch.scope "dispatch" "transforms" "orders" 0 Dispatch.operations
      Dispatch.orders
  obtain ⟨-, hinferred⟩ :=
    chain_checks_agree { types := [] } "dispatch" "transforms" "orders" 0 Dispatch.operations
      Dispatch.orders
  obtain ⟨trace, htrace, houtput⟩ := hvalid hoperators hproblems
  have hpair : transformsOutput Dispatch.operations Dispatch.orders =
      some { key := some "string", value := "string" } := by decide
  exact ⟨hoperators, hproblems, ⟨trace, htrace, Option.some.inj (houtput.symm.trans hpair)⟩,
    (hinferred trace htrace).2.trans (by decide)⟩

end FlowSpec.Validation
