import FlowSpec.Wit.Name
import Mathlib.Data.String.Basic

/-!
What becomes of names. Hyphens and underscores are alike, and a name that is normal already stays as
it is, at least where no upper case letter survives in it: there are letters that have no lower case
form, and beside one that has been folded such a letter begins a word of its own. Two names have one
identifier if they have one normal form, or if one of them carries the mark of keywords itself.
-/

set_option autoImplicit false

namespace FlowSpec.Wit

variable {c : Char} {cs word : List Char} {words : List (List Char)}

/-! ### Marks -/

/-- The first name is normal for the second with the mark of keywords in front, and the second is a
keyword. -/
def IsMarkOf (marked name : String) : Prop :=
  isKeyword (normalName name) ∧ normalName marked = "%" ++ normalName name

/-- The two names have one identifier. -/
def Coincide (first second : String) : Prop :=
  normalName first = normalName second ∨ IsMarkOf first second ∨ IsMarkOf second first

theorem isKeyword_mark (name : String) : isKeyword ("%" ++ name) = false := by
  have hunmarked : ∀ keyword ∈ keywords, keyword.toList.head? ≠ some '%' := by decide
  rw [isKeyword, List.contains_eq_mem, decide_eq_false_iff_not]
  intro hmem
  exact hunmarked _ hmem (by rw [String.toList_append]; rfl)

theorem identifier_congr {first second : String} (h : normalName first = normalName second) :
    identifier first = identifier second := by
  rw [identifier, h, identifier]

theorem identifier_of_isMarkOf {marked name : String} (h : IsMarkOf marked name) :
    identifier marked = identifier name := by
  obtain ⟨hkeyword, hmarked⟩ := h
  simp [identifier, hkeyword, hmarked, isKeyword_mark]

theorem identifier_eq_iff {first second : String} :
    identifier first = identifier second ↔ Coincide first second := by
  constructor
  · intro h
    unfold identifier at h
    dsimp only at h
    split_ifs at h with hfirst hsecond hsecond
    · exact .inl ((String.append_right_inj _).mp h)
    · exact .inr (.inr ⟨hfirst, h.symm⟩)
    · exact .inr (.inl ⟨hsecond, h⟩)
    · exact .inl h
  · rintro (h | h | h)
    · exact identifier_congr h
    · exact identifier_of_isMarkOf h
    · exact (identifier_of_isMarkOf h).symm

/-! ### Underscores -/

theorem splitWords_map_underscore (cs word : List Char) :
    splitWords (cs.map fun c ↦ if c = '-' then '_' else c) word = splitWords cs word := by
  induction cs generalizing word with
  | nil => rfl
  | cons c rest ih =>
    by_cases hhyphen : c = '-'
    · subst hhyphen
      simp [splitWords, isSeparator, ih]
    · have hnext (before : Char) : isBoundary before ((rest.map fun c ↦ if c = '-' then '_'
          else c).head?) = isBoundary before rest.head? := by
        cases rest with
        | nil => rfl
        | cons next more =>
          by_cases hnext : next = '-'
          · subst hnext
            rfl
          · simp [hnext]
      rw [List.map_cons, if_neg hhyphen]
      simp only [splitWords, ih, hnext]

theorem identifier_replaceChar (name : String) :
    identifier (Text.replaceChar '-' '_' name) = identifier name := by
  have hnormal : normalName (Text.replaceChar '-' '_' name) = normalName name := by
    rw [normalName, Text.replaceChar, String.toList_ofList, splitWords_map_underscore, normalName]
  exact identifier_congr hnormal

/-! ### Words -/

/-- Belongs to a word and is what it is folded to. -/
structure IsSettled (c : Char) : Prop where
  inWord : isSeparator c = false
  notUpper : Text.isUpper c = false
  folded : Text.lowerChar c = c

theorem IsSettled.ne_hyphen (h : IsSettled c) : c ≠ '-' := by
  rintro rfl
  cases h.inWord

/-- A separator ends the word; any other character is added to it or begins the next. -/
theorem splitWords_cons (c : Char) (rest word : List Char) :
    isSeparator c ∧ splitWords (c :: rest) word = finishWord word ++ splitWords rest [] ∨
      isSeparator c = false ∧ (splitWords (c :: rest) word = splitWords rest (c :: word) ∨
        splitWords (c :: rest) word = finishWord word ++ splitWords rest [c]) := by
  by_cases hseparator : isSeparator c
  · exact .inl ⟨hseparator, by rw [splitWords.eq_def]; simp [hseparator]⟩
  · rw [Bool.not_eq_true] at hseparator
    refine .inr ⟨hseparator, ?_⟩
    cases word with
    | nil => exact .inl (by simp [splitWords, hseparator])
    | cons before more =>
      by_cases hboundary : Text.isUpper c && isBoundary before rest.head?
      · exact .inr (by simp [splitWords, hseparator, hboundary, finishWord])
      · exact .inl (by simp [splitWords, hseparator, hboundary])

/-- Words are not empty, and what holds of all characters but separators holds of the characters of
words. -/
theorem forall_mem_splitWords {p : Char → Prop} (hword : ∀ c ∈ word, p c)
    (hcs : ∀ c ∈ cs, isSeparator c = false → p c) :
    ∀ found ∈ splitWords cs word, found ≠ [] ∧ ∀ c ∈ found, p c := by
  have hfinish {word : List Char} (hword : ∀ c ∈ word, p c) :
      ∀ found ∈ finishWord word, found ≠ [] ∧ ∀ c ∈ found, p c := by
    cases word with
    | nil => simp [finishWord]
    | cons c rest => simpa [finishWord, or_comm] using hword
  induction cs generalizing word with
  | nil => exact hfinish hword
  | cons c rest ih =>
    obtain ⟨hc, hrest⟩ := List.forall_mem_cons.mp hcs
    rcases splitWords_cons c rest word with ⟨-, h⟩ | ⟨hseparator, h | h⟩ <;> rw [h]
    · exact List.forall_mem_append.mpr ⟨hfinish hword, ih (by simp) hrest⟩
    · exact ih (List.forall_mem_cons.mpr ⟨hc hseparator, hword⟩) hrest
    · exact List.forall_mem_append.mpr ⟨hfinish hword, ih (by simpa using hc hseparator) hrest⟩

theorem ne_nil_of_mem_splitWords {found : List Char} (h : found ∈ splitWords cs word) :
    found ≠ [] :=
  (forall_mem_splitWords (p := fun _ ↦ True) (fun _ _ ↦ trivial) (fun _ _ _ ↦ trivial) found h).1

/-! ### Normal forms -/

/-- Settled characters with hyphens between them, none of which stands before a digit. -/
def Hyphenated : List Char → Prop
  | [] => True
  | c :: rest =>
    (IsSettled c ∨ c = '-' ∧ ∃ next ∈ rest.head?, IsSettled next ∧ ¬ ('0' ≤ next ∧ next ≤ '9')) ∧
      Hyphenated rest

theorem Hyphenated.isSettled (h : Hyphenated cs) (hc : c ∈ cs)
    (hseparator : isSeparator c = false) : IsSettled c := by
  induction cs with
  | nil => cases hc
  | cons first rest ih =>
    obtain ⟨hfirst, hrest⟩ := h
    rcases List.mem_cons.mp hc with rfl | hc
    · rcases hfirst with hfirst | ⟨rfl, -⟩
      · exact hfirst
      · cases hseparator
    · exact ih hrest hc

theorem hyphenated_append {rest : List Char} (hword : ∀ c ∈ word, IsSettled c)
    (hrest : Hyphenated rest) :
    Hyphenated (word ++ rest) := by
  induction word with
  | nil => exact hrest
  | cons c more ih =>
    obtain ⟨hc, hmore⟩ := List.forall_mem_cons.mp hword
    exact ⟨.inl hc, ih hmore⟩

theorem joinWords_cons_cons (word : List Char) (c : Char) (more : List Char)
    (rest : List (List Char)) :
    joinWords (word :: (c :: more) :: rest) =
      word ++ (if '0' ≤ c ∧ c ≤ '9' then [] else ['-']) ++ joinWords ((c :: more) :: rest) := by
  by_cases hdigit : '0' ≤ c ∧ c ≤ '9'
  · simp [joinWords, hdigit]
  · simp [joinWords, hdigit]

/-- Words that do not begin with a digit follow behind a hyphen. -/
theorem joinWords_cons_of_head {next : Char}
    (hwords : ∀ other ∈ words, other ≠ []) (hnext : next ∈ (joinWords words).head?)
    (hdigit : ¬ ('0' ≤ next ∧ next ≤ '9')) :
    joinWords (word :: words) = word ++ '-' :: joinWords words := by
  rcases words with - | ⟨- | ⟨c, others⟩, rest⟩
  · cases hnext
  · exact absurd rfl (hwords [] List.mem_cons_self)
  · obtain rfl : c = next := by simpa [joinWords] using hnext
    rw [joinWords_cons_cons, if_neg hdigit, List.append_assoc, List.singleton_append]

theorem hyphenated_joinWords
    (h : ∀ word ∈ words, word ≠ [] ∧ ∀ c ∈ word, IsSettled c) : Hyphenated (joinWords words) := by
  induction words with
  | nil => trivial
  | cons word rest ih =>
    obtain ⟨⟨-, hword⟩, hrest⟩ := List.forall_mem_cons.mp h
    cases rest with
    | nil => exact hyphenated_append hword trivial
    | cons next others =>
      obtain ⟨⟨hne, hnext⟩, -⟩ := List.forall_mem_cons.mp hrest
      cases next with
      | nil => exact absurd rfl hne
      | cons c more =>
        rw [joinWords_cons_cons, List.append_assoc]
        refine hyphenated_append hword ?_
        split_ifs with hdigit
        · exact ih hrest
        · exact ⟨.inr ⟨rfl, c, rfl, hnext c List.mem_cons_self, hdigit⟩, ih hrest⟩

theorem head?_joinWords_ne (h : ∀ word ∈ words, word ≠ [] ∧ ∀ c ∈ word, IsSettled c) :
    (joinWords words).head? ≠ some '-' := by
  rcases words with - | ⟨- | ⟨c, others⟩, rest⟩
  · simp [joinWords]
  · exact absurd rfl (h [] List.mem_cons_self).1
  · have hc := (h (c :: others) List.mem_cons_self).2 c List.mem_cons_self
    simpa [joinWords] using hc.ne_hyphen

/-- Reading the words of a hyphenated text and joining them gives the text back. -/
theorem joinWords_splitWords (h : Hyphenated cs) (hstart : word = [] → cs.head? ≠ some '-') :
    joinWords (splitWords cs word) = word.reverse ++ cs := by
  induction cs generalizing word with
  | nil => cases word <;> simp [splitWords, finishWord, joinWords]
  | cons c rest ih =>
    obtain ⟨hc | ⟨rfl, next, hnext, hsettled, hdigit⟩, hrest⟩ := h
    · have hstep : splitWords (c :: rest) word = splitWords rest (c :: word) := by
        cases word <;> simp [splitWords, hc.inWord, hc.notUpper]
      rw [hstep, ih hrest (by simp)]
      simp
    · cases word with
      | nil => exact absurd rfl (hstart rfl)
      | cons before more =>
        have hhead : rest.head? ≠ some '-' := by
          rw [hnext]
          exact fun heq ↦ hsettled.ne_hyphen (Option.some.inj heq)
        have hjoin : joinWords (splitWords rest []) = rest := ih hrest fun _ ↦ hhead
        have hsplit : splitWords ('-' :: rest) (before :: more) =
            (before :: more).reverse :: splitWords rest [] := by
          simp [splitWords, isSeparator, finishWord]
        rw [hsplit, joinWords_cons_of_head (fun _ ↦ ne_nil_of_mem_splitWords) (hjoin.symm ▸ hnext)
            hdigit, hjoin]

theorem Hyphenated.map_lowerChar (h : Hyphenated cs) :
    (splitWords cs []).map (List.map Text.lowerChar) = splitWords cs [] := by
  have hsettled := forall_mem_splitWords (List.forall_mem_nil IsSettled) fun _ ↦ h.isSettled
  have hword (word : List Char) (hword : word ∈ splitWords cs []) :
      word.map Text.lowerChar = id word :=
    (List.map_congr_left fun c hc ↦ ((hsettled word hword).2 c hc).folded).trans (List.map_id word)
  rw [List.map_congr_left hword, List.map_id]

/-- The words of a name in lower case. -/
def loweredWords (name : String) : List (List Char) :=
  (splitWords name.toList []).map (List.map Text.lowerChar)

theorem normalName_eq (name : String) :
    normalName name = String.ofList (joinWords (loweredWords name)) := rfl

theorem ne_nil_of_mem_loweredWords {name : String} (h : word ∈ loweredWords name) : word ≠ [] := by
  obtain ⟨found, hfound, rfl⟩ := List.mem_map.mp h
  simpa using ne_nil_of_mem_splitWords hfound

/-- Words in lower case with hyphens between them, and digits attached to the word before them. -/
structure IsNormal (name : String) : Prop where
  hyphenated : Hyphenated name.toList
  head?_ne : name.toList.head? ≠ some '-'

theorem IsNormal.normalName_eq {name : String} (h : IsNormal name) : normalName name = name := by
  rw [Wit.normalName_eq, loweredWords, h.hyphenated.map_lowerChar,
    joinWords_splitWords h.hyphenated fun _ ↦ h.head?_ne, List.reverse_nil, List.nil_append,
    String.ofList_toList]

section Folding

variable {name : String}
  (h : ∀ c ∈ name.toList, isSeparator c = false → IsSettled (Text.lowerChar c))

include h

/-- Names become normal, if folding settles every character of their words. -/
theorem isNormal_normalName : IsNormal (normalName name) := by
  have hwords : ∀ word ∈ loweredWords name, word ≠ [] ∧ ∀ c ∈ word, IsSettled c := by
    intro word hword
    refine ⟨ne_nil_of_mem_loweredWords hword, ?_⟩
    obtain ⟨found, hfound, rfl⟩ := List.mem_map.mp hword
    have hsettled :=
      forall_mem_splitWords (p := fun c ↦ IsSettled (Text.lowerChar c)) (by simp) h found hfound
    exact List.forall_mem_map.mpr hsettled.2
  rw [normalName_eq]
  constructor
  · rw [String.toList_ofList]
    exact hyphenated_joinWords hwords
  · rw [String.toList_ofList]
    exact head?_joinWords_ne hwords

/-- A name that is normal stays as it is. -/
theorem normalName_normalName : normalName (normalName name) = normalName name :=
  (isNormal_normalName h).normalName_eq

/-- Nothing but normal names stays as it is. -/
theorem normalName_eq_self_iff : normalName name = name ↔ IsNormal name := by
  constructor
  · intro heq
    have hnormal := isNormal_normalName h
    rwa [heq] at hnormal
  · exact IsNormal.normalName_eq

end Folding

theorem forall_ascii {p : Char → Prop} (h : ∀ n < 128, p (Char.ofNat n)) (hc : c.toNat < 128) :
    p c := by
  rw [← Char.ofNat_toNat c]
  exact h c.toNat hc

/-- Folding settles every character of ASCII. -/
theorem isSettled_of_ascii (h : c.toNat < 128) (hseparator : isSeparator c = false) :
    IsSettled (Text.lowerChar c) := by
  have hfacts :=
    forall_ascii (p := fun c ↦ isSeparator c = false → isSeparator (Text.lowerChar c) = false ∧
        Text.isUpper (Text.lowerChar c) = false ∧
        Text.lowerChar (Text.lowerChar c) = Text.lowerChar c) (by decide) h
  obtain ⟨hword, hupper, hfolded⟩ := hfacts hseparator
  exact ⟨hword, hupper, hfolded⟩

end FlowSpec.Wit
