import FlowSpec.Path
import FlowSpec.Proofs.Text.Splitting

/-!
Paths that start at a place. A place is a stack of parts, last first, and a path leads from one
place to another, part by part. Joining paths that are not rooted shows the place they lead to one
after the other (`join_of_relative`). The shown place leads back to its parts (`placed_shown`), so
paths may be joined one at a time (`join_join`).
-/

set_option autoImplicit false

namespace FlowSpec.Path

variable {stack paths : List String} {first part : String}

/-- The path begins with a slash. -/
def IsRooted (path : String) : Prop := path.toList.head? = some '/'

/-- The place a path leads to. -/
def placed (stack : List String) (path : String) : List String :=
  (Text.split "/" path).foldl (push false) stack

/-- The path of a place. -/
def shown (stack : List String) : String :=
  if (Text.join "/" stack.reverse).isEmpty then "." else Text.join "/" stack.reverse

/-! ### Places -/

theorem toList_slash : "/".toList = ['/'] := by decide

/-- No part can be left out of a place: the parts `..` stand before all others. -/
structure Reduced (stack : List String) : Prop where
  parts : ∀ part ∈ stack, part ≠ "" ∧ part ≠ "." ∧ '/' ∉ part.toList
  upward : stack.Pairwise fun upper lower ↦ upper = ".." → lower = ".."

theorem Reduced.nil : Reduced [] := ⟨by simp, .nil⟩

theorem Reduced.tail (h : Reduced (part :: stack)) : Reduced stack :=
  ⟨(List.forall_mem_cons.mp h.parts).2, h.upward.of_cons⟩

theorem Reduced.push (h : Reduced stack) (hpart : '/' ∉ part.toList) :
    Reduced (push false stack part) := by
  unfold Path.push
  split
  case isTrue => exact h
  case isFalse hkept =>
    obtain ⟨hempty, hdot⟩ : part ≠ "" ∧ part ≠ "." := by simpa using hkept
    split
    case isTrue hup =>
      split
      · exact ⟨by decide, List.pairwise_singleton _ _⟩
      · have hbelow := (List.pairwise_cons.mp h.upward).1
        exact ⟨List.forall_mem_cons.mpr ⟨by decide, h.parts⟩,
          .cons (fun lower hlower _ ↦ (List.mem_cons.mp hlower).elim id (hbelow lower · rfl))
            h.upward⟩
      · exact h.tail
    case isFalse hup =>
      exact ⟨List.forall_mem_cons.mpr ⟨⟨hempty, hdot, hpart⟩, h.parts⟩,
        .cons (fun _ _ heq ↦ absurd heq (by simpa using hup)) h.upward⟩

theorem Reduced.placed (h : Reduced stack) (path : String) : Reduced (placed stack path) := by
  have hparts : ∀ part ∈ Text.split "/" path, '/' ∉ part.toList :=
    fun _ hpart ↦ Text.notMem_of_mem_split toList_slash hpart
  unfold Path.placed
  generalize Text.split "/" path = parts at hparts
  induction parts generalizing stack with
  | nil => exact h
  | cons part parts ih =>
    obtain ⟨hpart, hrest⟩ := List.forall_mem_cons.mp hparts
    exact ih (h.push hpart) hrest

theorem Reduced.foldl_placed (h : Reduced stack) (paths : List String) :
    Reduced (paths.foldl Path.placed stack) := by
  induction paths generalizing stack with
  | nil => exact h
  | cons path paths ih => exact ih (h.placed path)

/-- Each part of a reduced place goes on top of those below it. -/
theorem Reduced.push_eq_cons (h : Reduced (part :: stack)) :
    Path.push false stack part = part :: stack := by
  obtain ⟨hempty, hdot, -⟩ := h.parts part List.mem_cons_self
  by_cases hup : part = ".."
  · subst hup
    cases stack with
    | nil => rfl
    | cons lower stack =>
      obtain rfl : lower = ".." := (List.pairwise_cons.mp h.upward).1 lower List.mem_cons_self rfl
      rfl
  · simp [Path.push, hempty, hdot, hup]

theorem Reduced.foldl_push_reverse (h : Reduced stack) :
    stack.reverse.foldl (Path.push false) [] = stack := by
  induction stack with
  | nil => rfl
  | cons part stack ih => rw [List.reverse_cons, List.foldl_concat, ih h.tail, h.push_eq_cons]

/-! ### Places shown as paths -/

/-- A joined text begins as its first part does. -/
theorem head?_join (h : first ≠ "") (rest : List String) :
    (Text.join "/" (first :: rest)).toList.head? = first.toList.head? := by
  cases rest with
  | nil => simp [Text.join]
  | cons next rest =>
    obtain ⟨c, cs, hfirst⟩ := List.exists_cons_of_ne_nil (mt String.toList_eq_nil_iff.mp h)
    simp [Text.join, String.intercalate_cons_cons, hfirst]

theorem join_ne_empty (h : first ≠ "") (rest : List String) :
    Text.join "/" (first :: rest) ≠ "" := by
  intro hempty
  have hhead := head?_join h rest
  rw [hempty] at hhead
  exact h (String.toList_eq_nil_iff.mp (List.head?_eq_none_iff.mp hhead.symm))

/-- A reduced place is the start, or its path is that of its parts, the first of which is not
empty. -/
theorem Reduced.shown_cases (h : Reduced stack) : stack = [] ∨ ∃ first rest,
    stack.reverse = first :: rest ∧ first ≠ "" ∧ '/' ∉ first.toList ∧
      shown stack = Text.join "/" (first :: rest) := by
  cases hparts : stack.reverse with
  | nil => exact .inl (List.reverse_eq_nil_iff.mp hparts)
  | cons first rest =>
    have hmem : first ∈ stack := List.mem_reverse.mp (hparts ▸ List.mem_cons_self)
    obtain ⟨hempty, -, hslash⟩ := h.parts first hmem
    refine .inr ⟨first, rest, rfl, hempty, hslash, ?_⟩
    rw [shown, hparts, if_neg (by simpa using join_ne_empty hempty rest)]

/-- The path of a reduced place is not empty and not rooted. -/
theorem Reduced.shown_relative (h : Reduced stack) :
    shown stack ≠ "" ∧ ¬ IsRooted (shown stack) := by
  unfold IsRooted
  rcases h.shown_cases with rfl | ⟨first, rest, -, hempty, hslash, hshown⟩
  · decide
  · rw [hshown, head?_join hempty rest]
    exact ⟨join_ne_empty hempty rest, fun hhead ↦ hslash (List.mem_of_head? hhead)⟩

theorem Reduced.placed_shown (h : Reduced stack) : Path.placed [] (shown stack) = stack := by
  rcases h.shown_cases with rfl | ⟨first, rest, hparts, -, -, hshown⟩
  · decide
  · have hsingle : ∀ part ∈ stack.reverse, Text.split "/" part = [part] := fun part hpart ↦
      Text.split_of_notMem toList_slash (h.parts part (List.mem_reverse.mp hpart)).2.2
    rw [Path.placed, hshown, ← hparts, Text.split_join toList_slash (by simp [hparts]),
      List.flatMap_congr hsingle, List.flatMap_singleton', h.foldl_push_reverse]

/-! ### Joining -/

theorem foldl_placed_filter (paths stack : List String) :
    (paths.filter (· ≠ "")).foldl placed stack = paths.foldl placed stack := by
  induction paths generalizing stack with
  | nil => rfl
  | cons path paths ih =>
    by_cases hpath : path = ""
    · subst hpath
      exact ih stack
    · rw [List.filter_cons_of_pos (by simpa using hpath)]
      exact ih (placed stack path)

/-- Paths that are not rooted lead from one to the next. -/
theorem join_of_relative (hne : first ≠ "") (hroot : ¬ IsRooted first) (rest : List String) :
    join (first :: rest) = shown ((first :: rest).foldl placed []) := by
  have hgiven : (first :: rest).filter (· ≠ "") = first :: rest.filter (· ≠ "") :=
    List.filter_cons_of_pos (by simpa using hne)
  have hsplit : (Text.split "/" (Text.join "/" (first :: rest.filter (· ≠ "")))).foldl
      (push false) [] = (first :: rest).foldl placed [] := by
    rw [Text.split_join toList_slash (List.cons_ne_nil _ _),
      List.foldl_flatMap, ← foldl_placed_filter, hgiven]
    rfl
  rw [IsRooted] at hroot
  rw [join, hgiven]
  simp only [clean, head?_join hne, hroot, decide_false, hsplit, if_false]
  rfl

/-- Paths joined behind the start. -/
theorem join_dot (paths : List String) : join ("." :: paths) = shown (paths.foldl placed []) := by
  rw [join_of_relative (by decide) (by unfold IsRooted; decide), List.foldl_cons]
  rfl

/-- The start adds nothing before a path that is not rooted. -/
theorem join_dot_of_relative (h : paths ≠ [])
    (hfirst : ∀ path ∈ paths.head?, path ≠ "" ∧ ¬ IsRooted path) :
    join ("." :: paths) = join paths := by
  obtain ⟨first, rest, rfl⟩ := List.exists_cons_of_ne_nil h
  obtain ⟨hne, hroot⟩ := hfirst first rfl
  rw [join_dot, join_of_relative hne hroot]

theorem join_join (paths : List String) (path : String) :
    join [join ("." :: paths), path] = join ("." :: (paths ++ [path])) := by
  have hreduced := Reduced.nil.foldl_placed paths
  obtain ⟨hne, hroot⟩ := hreduced.shown_relative
  rw [join_dot, join_dot, join_of_relative hne hroot, List.foldl_cons, hreduced.placed_shown,
    List.foldl_concat]
  rfl

end FlowSpec.Path
