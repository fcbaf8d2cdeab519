import FlowSpec.Text.Split
import Mathlib.Data.List.Infix

/-!
What splitting gives. The parts of a text are told without the search for them: the separator ends
every part but the last where it first can, and does not occur in the last. A text has its parts in
one way only (`Parts.unique`), and the search finds them (`splitAux_eq_iff`), so that splitting
undoes joining wherever no separator begins inside a part.
-/

set_option autoImplicit false

namespace FlowSpec.Text

variable {sep cs part : List Char} {parts : List (List Char)}

/-! ### Occurrences -/

theorem dropFront?_eq_some_iff {front cs rest : List Char} :
    dropFront? front cs = some rest ↔ cs = front ++ rest := by
  induction front generalizing cs with
  | nil => simp [dropFront?, eq_comm]
  | cons p front ih =>
    cases cs with
    | nil => simp [dropFront?]
    | cons c cs =>
      by_cases hp : p = c
      · simp [dropFront?, hp, ih]
      · simp [dropFront?, hp, Ne.symm hp]

theorem contains_iff : contains part cs = true ↔ part <:+: cs := by
  induction cs with
  | nil => simp [contains]
  | cons c cs ih =>
    have hstart : (dropFront? part (c :: cs)).isSome ↔ part <+: c :: cs := by
      rw [Option.isSome_iff_exists]
      exact exists_congr fun rest ↦ dropFront?_eq_some_iff.trans eq_comm
    rw [contains, Bool.or_eq_true, ih, hstart, List.infix_cons_iff]

/-- Two ways to part a list at a character are the same, or one of them leaves the character
behind. -/
theorem append_cons_eq_iff {c : Char} {first second third fourth : List Char} :
    first ++ c :: second = third ++ c :: fourth ↔ first = third ∧ second = fourth ∨
      (∃ middle, first = third ++ c :: middle ∧ fourth = middle ++ c :: second) ∨
      ∃ middle, third = first ++ c :: middle ∧ second = middle ++ c :: fourth := by
  constructor
  · intro h
    rcases List.append_eq_append_iff.mp h with ⟨middle, hthird, hrest⟩ | ⟨middle, hfirst, hrest⟩
    · cases middle with
      | nil =>
        rw [List.append_nil] at hthird
        exact .inl ⟨hthird.symm, (List.cons.inj hrest).2⟩
      | cons d middle =>
        obtain ⟨rfl, hsecond⟩ := List.cons.inj hrest
        exact .inr (.inr ⟨middle, hthird, hsecond⟩)
    · cases middle with
      | nil =>
        rw [List.append_nil] at hfirst
        exact .inl ⟨hfirst, (List.cons.inj hrest).2.symm⟩
      | cons d middle =>
        obtain ⟨rfl, hfourth⟩ := List.cons.inj hrest
        exact .inr (.inl ⟨middle, hfirst, hfourth⟩)
  · rintro (⟨rfl, rfl⟩ | ⟨middle, rfl, rfl⟩ | ⟨middle, rfl, rfl⟩) <;> simp

/-- Behind the part, the separator stands for the first time. -/
def EndsPart (sep part : List Char) : Prop :=
  ∀ before after, part ++ sep = before ++ sep ++ after → after = []

theorem endsPart_singleton_iff {c : Char} : EndsPart [c] part ↔ c ∉ part := by
  constructor
  · intro h hmem
    obtain ⟨before, after, rfl⟩ := List.append_of_mem hmem
    have hafter := h before (after ++ [c]) (by simp)
    simp at hafter
  · intro h before after heq
    rcases List.eq_nil_or_concat' after with hnil | ⟨front, last, rfl⟩
    · exact hnil
    · rw [← List.append_assoc] at heq
      have hpart := List.append_inj_left' heq rfl
      exact absurd (by simp [hpart]) h

/-- Two characters end a part that does not contain them and does not end with the first of them. -/
theorem endsPart_pair {c d : Char} (hinside : ¬ [c, d] <:+: part) (hlast : part.getLast? ≠ some c) :
    EndsPart [c, d] part := by
  intro before after heq
  rcases List.eq_nil_or_concat' after with hnil | ⟨front, last, rfl⟩
  · exact hnil
  · rw [← List.append_assoc, show part ++ [c, d] = part ++ [c] ++ [d] by simp] at heq
    have heq := List.append_inj_left' heq rfl
    rcases List.eq_nil_or_concat' front with rfl | ⟨front, last, rfl⟩
    · have hpart : part ++ [c] = before ++ [c] ++ [d] := by simpa using heq
      have hpart := List.append_inj_left' hpart rfl
      exact absurd (by simp [hpart]) hlast
    · rw [← List.append_assoc] at heq
      have hpart := List.append_inj_left' heq rfl
      exact absurd ⟨before, front, hpart.symm⟩ hinside

/-! ### Parts -/

/-- The list holds the parts of a text between the occurrences of a separator. -/
inductive Parts (sep : List Char) : List Char → List (List Char) → Prop
  | last {part : List Char} (h : ¬ sep <:+: part) : Parts sep part [part]
  | cons {part cs : List Char} {parts : List (List Char)} (h : EndsPart sep part)
      (hrest : Parts sep cs parts) :
      Parts sep (part ++ sep ++ cs) (part :: parts)

namespace Parts

theorem unique {others : List (List Char)} (h : Parts sep cs parts) (h' : Parts sep cs others) :
    parts = others := by
  induction h generalizing others with
  | last hnone =>
    cases h' with
    | last => rfl
    | cons _ _ => exact absurd ⟨_, _, rfl⟩ hnone
  | @cons part cs parts hend hrest ih =>
    generalize htext : part ++ sep ++ cs = text at h'
    cases h' with
    | last hnone => exact absurd ⟨part, cs, htext⟩ hnone
    | @cons other rest others hother hothers =>
      -- of the two first separators, neither can stand before the other
      have hsame : part = other := by
        have hfirst : part ++ sep <+: other ++ sep ++ rest := ⟨cs, htext⟩
        have hsecond : other ++ sep <+: other ++ sep ++ rest := ⟨rest, rfl⟩
        rcases List.prefix_or_prefix_of_prefix hfirst hsecond with ⟨after, hafter⟩ | ⟨after, hafter⟩
        · have hnil := hother part after hafter.symm
          rw [hnil, List.append_nil] at hafter
          exact List.append_cancel_right hafter
        · have hnil := hend other after hafter.symm
          rw [hnil, List.append_nil] at hafter
          exact (List.append_cancel_right hafter).symm
      subst hsame
      rw [ih (List.append_cancel_left htext ▸ hothers)]

/-- Every character of the text stands in a part or in the separator. -/
theorem mem_or_mem {c : Char} (h : Parts sep cs parts) (hc : c ∈ cs) :
    c ∈ sep ∨ ∃ part ∈ parts, c ∈ part := by
  induction h with
  | last => exact .inr ⟨_, List.mem_singleton_self _, hc⟩
  | cons _ _ ih =>
    rw [List.mem_append, List.mem_append] at hc
    rcases hc with (hpart | hsep) | hrest
    · exact .inr ⟨_, List.mem_cons_self, hpart⟩
    · exact .inl hsep
    · exact (ih hrest).imp_right fun ⟨part, hpart, hc⟩ ↦ ⟨part, List.mem_cons_of_mem _ hpart, hc⟩

/-- No part holds a separator of one character. -/
theorem notMem {c : Char} (h : Parts [c] cs parts) : ∀ part ∈ parts, c ∉ part := by
  induction h with
  | last hnone =>
    exact List.forall_mem_singleton.mpr fun hc ↦ hnone ((List.singleton_infix_iff _ _).mpr hc)
  | cons hend _ ih => exact List.forall_mem_cons.mpr ⟨endsPart_singleton_iff.mp hend, ih⟩

/-- The parts of two texts with a separator of one character between them. -/
theorem append {c : Char} {ds : List Char} {others : List (List Char)} (h : Parts [c] cs parts)
    (h' : Parts [c] ds others) : Parts [c] (cs ++ [c] ++ ds) (parts ++ others) := by
  induction h with
  | last hnone =>
    exact .cons (endsPart_singleton_iff.mpr fun hc ↦
        hnone ((List.singleton_infix_iff _ _).mpr hc)) h'
  | @cons part cs parts hend _ ih =>
    have hwhole := Parts.cons hend ih
    simp only [List.append_assoc, List.cons_append] at hwhole ⊢
    exact hwhole

end Parts

/-! ### The search -/

theorem splitAux_skip (skipped : List Char) :
    splitAux sep (skipped ++ cs) skipped.length part = splitAux sep cs 0 part := by
  induction skipped with
  | nil => rfl
  | cons c skipped ih => exact ih

theorem splitAux_separator (hsep : sep ≠ []) :
    splitAux sep (sep ++ cs) 0 part = part.reverse :: splitAux sep cs 0 [] := by
  obtain ⟨s, more, rfl⟩ := List.exists_cons_of_ne_nil hsep
  have hdrop : dropFront? (s :: more) (s :: (more ++ cs)) = some cs :=
    dropFront?_eq_some_iff.mpr rfl
  rw [List.cons_append, splitAux, hdrop]
  dsimp only
  rw [List.length_cons, Nat.add_sub_cancel, splitAux_skip]

theorem splitAux_cons {c : Char} (h : ¬ sep <+: c :: cs) :
    splitAux sep (c :: cs) 0 part = splitAux sep cs 0 (c :: part) := by
  rw [splitAux]
  cases hdrop : dropFront? sep (c :: cs) with
  | none => rfl
  | some rest => exact absurd ⟨rest, (dropFront?_eq_some_iff.mp hdrop).symm⟩ h

/-- The search reads on in a part as long as no separator has begun in it. -/
theorem parts_splitAux (hsep : sep ≠ []) (cs part : List Char)
    (hpart : ∀ before after, part.reverse ++ cs = before ++ sep ++ after →
      part.length ≤ before.length) :
    Parts sep (part.reverse ++ cs) (splitAux sep cs 0 part) := by
  have hpositive : 0 < sep.length := List.length_pos_iff.mpr hsep
  -- on the length of what is left, since a separator is passed in one step
  induction hleft : cs.length using Nat.strong_induction_on generalizing cs part with
  | h left ih =>
    by_cases hstart : sep <+: cs
    · obtain ⟨rest, rfl⟩ := hstart
      rw [List.length_append] at hleft
      have hrest := ih rest.length (by omega) rest [] (by simp) rfl
      rw [splitAux_separator hsep, ← List.append_assoc]
      refine .cons (fun before after heq ↦ ?_) hrest
      have hlength :=
        hpart before (after ++ rest) (by rw [← List.append_assoc, heq, List.append_assoc])
      have htotal := congrArg List.length heq
      simp only [List.length_append, List.length_reverse] at htotal
      exact List.eq_nil_of_length_eq_zero (by omega)
    · cases cs with
      | nil =>
        rw [splitAux, List.append_nil]
        refine .last fun ⟨before, after, heq⟩ ↦ ?_
        have hlength := hpart before after (by rw [List.append_nil, heq])
        have htotal := congrArg List.length heq
        simp only [List.length_append, List.length_reverse] at htotal
        omega
      | cons c cs =>
        rw [List.length_cons] at hleft
        have hnext (before after : List Char) (heq : (c :: part).reverse ++ cs =
              before ++ sep ++ after) :
            (c :: part).length ≤ before.length := by
          have htext : part.reverse ++ c :: cs = before ++ (sep ++ after) := by simpa using heq
          have hlength := hpart before after (by rw [htext, List.append_assoc])
          rcases Nat.lt_or_ge part.length before.length with hlt | hge
          · exact hlt
          · -- the separator would begin right here
            have hrest := List.append_inj_right htext (by rw [List.length_reverse]; omega)
            exact absurd ⟨after, hrest.symm⟩ hstart
        have hparts := ih cs.length (by omega) cs (c :: part) hnext rfl
        rw [splitAux_cons hstart]
        simpa using hparts

theorem splitAux_eq_iff (hsep : sep ≠ []) : splitAux sep cs 0 [] = parts ↔ Parts sep cs parts := by
  have hfound : Parts sep cs (splitAux sep cs 0 []) := parts_splitAux hsep cs [] (by simp)
  exact ⟨fun h ↦ h ▸ hfound, fun h ↦ hfound.unique h⟩

theorem split_eq_iff {sep text : String} {parts : List String} (hsep : sep.toList ≠ []) :
    split sep text = parts ↔ Parts sep.toList text.toList (parts.map String.toList) := by
  rw [split, ← splitAux_eq_iff hsep]
  constructor
  · rintro rfl
    simp
  · intro h
    rw [h]
    simp

section Separator

variable {sep : String} {c : Char} (hsep : sep.toList = [c])

include hsep

theorem parts_split (text : String) :
    Parts [c] text.toList ((split sep text).map String.toList) := by
  rw [← hsep]
  exact (split_eq_iff (by simp [hsep])).mp rfl

theorem notMem_of_mem_split {text part : String} (h : part ∈ split sep text) : c ∉ part.toList :=
  (parts_split hsep text).notMem _ (List.mem_map_of_mem h)

/-- A text without a separator is its only part. -/
theorem split_of_notMem {text : String} (h : c ∉ text.toList) : split sep text = [text] := by
  rw [split_eq_iff (by simp [hsep]), hsep]
  exact .last fun hc ↦ h ((List.singleton_infix_iff _ _).mp hc)

theorem split_append (first second : String) :
    split sep (first ++ sep ++ second) = split sep first ++ split sep second := by
  have hboth := (parts_split hsep first).append (parts_split hsep second)
  rw [split_eq_iff (by simp [hsep]), List.map_append, String.toList_append,
    String.toList_append, hsep]
  exact hboth

/-- Splitting undoes joining, but for the separators inside the parts. -/
theorem split_join {parts : List String} (h : parts ≠ []) :
    split sep (join sep parts) = parts.flatMap (split sep) := by
  induction parts with
  | nil => exact absurd rfl h
  | cons part rest ih =>
    cases rest with
    | nil => simp [join]
    | cons next rest =>
      have hrest := ih (List.cons_ne_nil next rest)
      rw [join] at hrest ⊢
      rw [String.intercalate_cons_cons, split_append hsep, hrest, ← List.flatMap_cons]

end Separator

/-- Two parts with one separator between them. -/
theorem split_eq_pair_iff {sep text first second : String} (hsep : sep.toList ≠ []) :
    split sep text = [first, second] ↔ text = first ++ sep ++ second ∧
      EndsPart sep.toList first.toList ∧ ¬ sep.toList <:+: second.toList := by
  rw [split_eq_iff hsep, ← String.toList_inj, String.toList_append, String.toList_append]
  constructor
  · intro h
    rw [List.map_cons, List.map_cons, List.map_nil] at h
    generalize text.toList = cs at h ⊢
    cases h with
    | cons hend hrest =>
      cases hrest with
      | last hnone => exact ⟨rfl, hend, hnone⟩
      | cons _ hrest => cases hrest
  · rintro ⟨htext, hend, hnone⟩
    rw [htext]
    exact .cons hend (.last hnone)

/-- Three parts with two separators between them. -/
theorem split_eq_triple_iff {sep text first second third : String} (hsep : sep.toList ≠ []) :
    split sep text = [first, second, third] ↔ text = first ++ sep ++ second ++ sep ++ third ∧
      EndsPart sep.toList first.toList ∧ EndsPart sep.toList second.toList ∧
        ¬ sep.toList <:+: third.toList := by
  rw [split_eq_iff hsep, ← String.toList_inj]
  simp only [String.toList_append]
  constructor
  · intro h
    rw [List.map_cons, List.map_cons, List.map_cons, List.map_nil] at h
    generalize text.toList = cs at h ⊢
    cases h with
    | cons hfirst hrest =>
      cases hrest with
      | cons hsecond hrest =>
        cases hrest with
        | last hnone => exact ⟨by simp, hfirst, hsecond, hnone⟩
        | cons _ hrest => cases hrest
  · rintro ⟨htext, hfirst, hsecond, hnone⟩
    have hparts : Parts sep.toList _ _ := .cons hfirst (.cons hsecond (.last hnone))
    rw [htext]
    simpa using hparts

end FlowSpec.Text
