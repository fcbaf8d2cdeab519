import FlowSpec.Proofs.Text.Splitting
import FlowSpec.Text.Number

/-!
Texts that stand on one line. A text that is put together holds a line break only if one of its
parts does, so the wording of a message has to be looked at once, and beyond that only the names in
it. Numbers and quoted texts never hold one, and neither does a part of a text without any.
-/

set_option autoImplicit false

namespace FlowSpec.Text

/-- Holds no line break. -/
def OneLine (text : String) : Prop := '\n' ∉ text.toList

variable {first second text sep : String} {texts : List String}

theorem oneLine_append_iff : OneLine (first ++ second) ↔ OneLine first ∧ OneLine second := by
  simp [OneLine]

/-- A text that is written out is looked at character by character. -/
theorem OneLine.fixed {cs : List Char} (h : (cs.all fun c ↦ c != '\n') = true) :
    OneLine (String.ofList cs) := by
  rw [OneLine, String.toList_ofList]
  intro hbreak
  simpa using List.all_eq_true.mp h '\n' hbreak

theorem OneLine.append (hfirst : OneLine first) (hsecond : OneLine second) :
    OneLine (first ++ second) :=
  oneLine_append_iff.mpr ⟨hfirst, hsecond⟩

/-- A text that goes on with a name and words that are written out. -/
theorem OneLine.naming {words : List Char} (hfirst : OneLine first) (htext : OneLine text)
    (hwords : (words.all fun c ↦ c != '\n') = true) :
    OneLine (first ++ text ++ String.ofList words) :=
  (hfirst.append htext).append (.fixed hwords)

theorem OneLine.not_fixed {cs : List Char} (h : (cs.all fun c ↦ c != '\n') = false) :
    ¬OneLine (String.ofList cs) := by
  rw [OneLine, String.toList_ofList, not_not]
  simpa using h

theorem OneLine.of_subset {part : List Char} (h : OneLine text) (hpart : part ⊆ text.toList) :
    OneLine (String.ofList part) := by
  rw [OneLine, String.toList_ofList]
  exact fun hbreak ↦ h (hpart hbreak)

theorem oneLine_join (hsep : OneLine sep) (htexts : ∀ text ∈ texts, OneLine text) :
    OneLine (join sep texts) := by
  induction texts with
  | nil => exact .fixed rfl
  | cons text rest ih =>
    obtain ⟨htext, hrest⟩ := List.forall_mem_cons.mp htexts
    cases rest with
    | nil => simpa [join] using htext
    | cons next rest =>
      rw [join, String.intercalate_cons_cons, oneLine_append_iff, oneLine_append_iff]
      exact ⟨⟨htext, hsep⟩, ih hrest⟩

/-! ### Numbers and quoted texts -/

theorem oneLine_natText (n : Nat) : OneLine (toString n) := by
  rw [OneLine, Nat.toString_eq_repr, Nat.toList_repr]
  intro hbreak
  exact absurd (Nat.isDigit_of_mem_toDigits (by decide) (by decide) hbreak) (by decide)

theorem oneLine_intText (n : Int) : OneLine (toString n) := by
  cases n with
  | ofNat n => exact oneLine_natText n
  | negSucc n => exact oneLine_append_iff.mpr ⟨.fixed rfl, oneLine_natText (n + 1)⟩

theorem break_notMem_hexDigits (width n : Nat) : '\n' ∉ hexDigits width n := by
  have hdigit : ∀ k < 16, '\n' ≠ Nat.digitChar k := by decide
  have hdigits : '\n' ∉ Nat.toDigits 16 n := by
    induction n using Nat.strong_induction_on with
    | h n ih =>
      rw [Nat.toDigits_eq_if (by decide)]
      split_ifs with hsmall
      · rw [List.mem_singleton]
        exact hdigit n hsmall
      · have hlast := hdigit (n % 16) (Nat.mod_lt n (by decide))
        have hrest := ih (n / 16) (by omega)
        simp [hrest, hlast]
  simp [hexDigits, hdigits]

theorem break_notMem_quoteChar (c : Char) : '\n' ∉ quoteChar c := by
  have hhex (mark : Char) (width : Nat) (hmark : '\n' ≠ mark) :
      '\n' ∉ '\\' :: mark :: hexDigits width c.toNat := by
    simp [hmark, break_notMem_hexDigits]
  unfold quoteChar
  split
  next hmark =>
    rcases (Bool.or_eq_true_iff.mp hmark).imp beq_iff_eq.mp beq_iff_eq.mp with rfl | rfl <;> decide
  next =>
    split
    next hprints =>
      intro hbreak
      rw [← List.mem_singleton.mp hbreak] at hprints
      cases hprints
    next =>
      split
      case h_8 =>
        split
        · exact hhex 'x' 2 (by decide)
        · split
          · exact hhex 'u' 4 (by decide)
          · exact hhex 'U' 8 (by decide)
      all_goals decide

theorem oneLine_quoted (text : String) : OneLine (quoted text) := by
  rw [OneLine, quoted, String.toList_ofList]
  simp [List.mem_flatMap, break_notMem_quoteChar]

theorem oneLine_readingMessage {reader : String} (hreader : OneLine reader) (text : String)
    (error : NumberError) :
    OneLine (readingMessage reader text error) := by
  have herror : OneLine error.text := by cases error <;> exact .fixed rfl
  simp only [readingMessage, oneLine_append_iff, and_assoc]
  exact ⟨.fixed rfl, hreader, .fixed rfl, oneLine_quoted text, .fixed rfl, herror⟩

/-! ### Parts of a text -/

theorem Parts.subset {separator cs part : List Char} {parts : List (List Char)}
    (h : Parts separator cs parts) (hpart : part ∈ parts) : part ⊆ cs := by
  induction h with
  | last => exact List.mem_singleton.mp hpart ▸ List.Subset.refl _
  | cons _ _ ih =>
    rcases List.mem_cons.mp hpart with rfl | hrest
    · exact List.subset_append_of_subset_left _ (List.subset_append_left ..)
    · exact List.subset_append_of_subset_right _ (ih hrest)

theorem OneLine.of_mem_split {part : String} (h : OneLine text) (hsep : sep.toList ≠ [])
    (hpart : part ∈ split sep text) : OneLine part := by
  have hparts := (split_eq_iff hsep).mp (rfl : split sep text = split sep text)
  exact fun hbreak ↦ h (hparts.subset (List.mem_map_of_mem hpart) hbreak)

theorem subset_of_mem_runsAux {p : Char → Bool} {cs run part : List Char}
    (h : part ∈ runsAux p cs run) :
    part ⊆ run.reverse ++ cs := by
  induction cs generalizing run with
  | nil =>
    rw [runsAux] at h
    split_ifs at h
    · cases h
    · simp [List.mem_singleton.mp h]
  | cons c cs ih =>
    rw [runsAux] at h
    have hrest (hpart : part ∈ runsAux p cs []) : part ⊆ run.reverse ++ c :: cs :=
      List.subset_append_of_subset_right _ (List.subset_cons_of_subset c (ih hpart))
    split_ifs at h
    · exact hrest h
    · rcases List.mem_cons.mp h with rfl | h
      · exact List.subset_append_left ..
      · exact hrest h
    · simpa using ih h

theorem OneLine.of_mem_runs {p : Char → Bool} {part : List Char} (h : OneLine text)
    (hpart : part ∈ runsAux p text.toList []) : OneLine (String.ofList part) :=
  h.of_subset (subset_of_mem_runsAux hpart)

theorem OneLine.of_mem_words {part : String} (h : OneLine text) (hpart : part ∈ words text) :
    OneLine part := by
  obtain ⟨run, hrun, rfl⟩ := List.mem_map.mp hpart
  exact h.of_mem_runs hrun

end FlowSpec.Text
