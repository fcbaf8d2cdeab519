import FlowSpec.Proofs.Wit.Names
import Mathlib.Tactic.SplitIfs

/-!
Conventions for names. The words of a name, each of at least two letters and some digits, are
written in one of the usual conventions, and a separator may stand before the digits of a word.
Reading finds the letters and the digits of every word again (`splitWords_write`), whatever the
convention, since each word ends at a separator or before an upper case letter that follows a lower
case one. So all spellings have one normal name, the words with hyphens between them.
-/

set_option autoImplicit false

namespace FlowSpec.Wit

/-! ### Words and their spellings -/

/-- A word of a name: letters, at least two of them, and digits. -/
structure NameWord where
  letters : List Char
  digits : List Char := []
  two_le_length : 2 ≤ letters.length
  letter : ∀ c ∈ letters, 'a' ≤ c ∧ c ≤ 'z'
  digit : ∀ c ∈ digits, '0' ≤ c ∧ c ≤ '9'

def NameWord.text (word : NameWord) : String := String.ofList (word.letters ++ word.digits)

/-- How the letters of a word are written. -/
inductive LetterStyle where
  | lower
  | capitalized
  | upper
deriving DecidableEq

def LetterStyle.write (letters : List Char) : LetterStyle → List Char
  | lower => letters
  | capitalized => (letters.take 1).map Char.toUpper ++ letters.drop 1
  | upper => letters.map Char.toUpper

/-- What stands between the letters and the digits of a word. -/
inductive Joint where
  | none
  | hyphen
  | underscore
deriving DecidableEq

def Joint.text : Joint → List Char
  | none => []
  | hyphen => ['-']
  | underscore => ['_']

/-- A word as it stands in a name. There is no joint where there are no digits. -/
def NameWord.write (style : LetterStyle) (joint : Joint) (word : NameWord) : List Char :=
  style.write word.letters ++ if word.digits = [] then [] else joint.text ++ word.digits

inductive Convention where
  | kebab
  | snake
  | camel
  | pascal
  | train
  | ada
  | upperSnake

namespace Convention

/-- How the letters of the first word are written. -/
def firstStyle : Convention → LetterStyle
  | kebab | snake | camel => .lower
  | pascal | train | ada => .capitalized
  | upperSnake => .upper

/-- How the letters of the other words are written. -/
def laterStyle : Convention → LetterStyle
  | kebab | snake => .lower
  | camel | pascal | train | ada => .capitalized
  | upperSnake => .upper

/-- What stands between two words. -/
def separator : Convention → List Char
  | kebab | train => ['-']
  | snake | ada | upperSnake => ['_']
  | camel | pascal => []

/-- The words behind the first. -/
def spellLater (convention : Convention) (words : List (NameWord × Joint)) : List Char :=
  words.flatMap fun word ↦ convention.separator ++ word.1.write convention.laterStyle word.2

/-- The spelling of a name, each word of which has its own joint. -/
def spell (convention : Convention) : List (NameWord × Joint) → String
  | [] => ""
  | (word, joint) :: rest =>
    String.ofList (word.write convention.firstStyle joint ++ convention.spellLater rest)

end Convention

/-! ### Characters -/

/-- A letter that begins a word behind a lower case letter or a digit. -/
structure IsCapital (c : Char) : Prop where
  inWord : isSeparator c = false
  upper : Text.isUpper c = true
  notLower : Text.isLower c = false
  notDigit : Text.isDigit c = false

section Letters

variable {c : Char} (h : 'a' ≤ c ∧ c ≤ 'z')

include h

theorem toNat_letter_lt : c.toNat < 128 := Nat.lt_of_le_of_lt h.2 (by decide)

theorem isSettled_letter : IsSettled c := by
  have hfacts := forall_ascii (p := fun c ↦ 'a' ≤ c ∧ c ≤ 'z' →
    isSeparator c = false ∧ Text.isUpper c = false ∧
    Text.lowerChar c = c) (by decide) (toNat_letter_lt h) h
  exact ⟨hfacts.1, hfacts.2.1, hfacts.2.2⟩

theorem isLower_letter : Text.isLower c = true :=
  forall_ascii (p := fun c ↦ 'a' ≤ c ∧
      c ≤ 'z' → Text.isLower c = true) (by decide) (toNat_letter_lt h) h

theorem not_digit_letter : ¬ ('0' ≤ c ∧ c ≤ '9') :=
  forall_ascii (p := fun c ↦ 'a' ≤ c ∧
      c ≤ 'z' → ¬ ('0' ≤ c ∧ c ≤ '9')) (by decide) (toNat_letter_lt h) h

theorem isCapital_toUpper : IsCapital c.toUpper := by
  have hfacts := forall_ascii (p := fun c ↦ 'a' ≤ c ∧ c ≤ 'z' → isSeparator c.toUpper = false ∧
    Text.isUpper c.toUpper = true ∧ Text.isLower c.toUpper = false ∧
    Text.isDigit c.toUpper = false) (by decide) (toNat_letter_lt h) h
  exact ⟨hfacts.1, hfacts.2.1, hfacts.2.2.1, hfacts.2.2.2⟩

theorem lowerChar_toUpper : Text.lowerChar c.toUpper = c :=
  forall_ascii (p := fun c ↦ 'a' ≤ c ∧
      c ≤ 'z' → Text.lowerChar c.toUpper = c) (by decide) (toNat_letter_lt h) h

end Letters

theorem digit_facts {c : Char} (h : '0' ≤ c ∧ c ≤ '9') :
    IsSettled c ∧ Text.isDigit c = true ∧ Text.isLower c = false := by
  have hascii : c.toNat < 128 := Nat.lt_of_le_of_lt h.2 (by decide)
  have hfacts :=
    forall_ascii (p := fun c ↦ '0' ≤ c ∧ c ≤ '9' → (isSeparator c = false ∧ Text.isUpper c = false ∧
        Text.lowerChar c = c) ∧ Text.isDigit c = true ∧ Text.isLower c = false) (by decide) hascii h
  obtain ⟨⟨hword, hupper, hfolded⟩, hdigit⟩ := hfacts
  exact ⟨⟨hword, hupper, hfolded⟩, hdigit⟩

/-! ### Reading on -/

theorem splitWords_of_settled {cs : List Char} (h : ∀ c ∈ cs, IsSettled c) (rest word : List Char) :
    splitWords (cs ++ rest) word = splitWords rest (cs.reverse ++ word) := by
  induction cs generalizing word with
  | nil => rfl
  | cons c cs ih =>
    obtain ⟨hc, hcs⟩ := List.forall_mem_cons.mp h
    have hstep : splitWords (c :: (cs ++ rest)) word = splitWords (cs ++ rest) (c :: word) := by
      cases word <;> simp [splitWords, hc.inWord, hc.notUpper]
    rw [List.cons_append, hstep, ih hcs]
    simp

/-- Upper case letters belong to one word unless a lower case letter follows. -/
theorem splitWords_of_capitals {cs rest word : List Char} (h : ∀ c ∈ cs, IsCapital c)
    (hrest : ∀ next ∈ rest.head?, Text.isLower next = false)
    (hword : ∀ before ∈ word.head?, IsCapital before) :
    splitWords (cs ++ rest) word = splitWords rest (cs.reverse ++ word) := by
  induction cs generalizing word with
  | nil => rfl
  | cons c cs ih =>
    obtain ⟨hc, hcs⟩ := List.forall_mem_cons.mp h
    have hnext : (cs ++ rest).head?.any Text.isLower = false := by
      cases cs with
      | nil => cases rest <;> simp_all
      | cons next more => simp [(hcs next List.mem_cons_self).notLower]
    have hstep : splitWords (c :: (cs ++ rest)) word = splitWords (cs ++ rest) (c :: word) := by
      cases word with
      | nil => simp [splitWords, hc.inWord]
      | cons before more =>
        have hbefore := hword before rfl
        have hboundary : isBoundary before (cs ++ rest).head? = false := by
          simp only [isBoundary, hbefore.notLower, hbefore.notDigit, hnext,
            Bool.and_false, Bool.or_self]
        simp only [splitWords, hc.inWord, hboundary, Bool.and_false, Bool.false_eq_true, if_false]
    rw [List.cons_append, hstep, ih hcs (by simpa using hc)]
    simp

theorem splitWords_separator {c : Char} (h : c = '-' ∨ c = '_') (rest : List Char) :
    splitWords (c :: rest) [] = splitWords rest [] := by
  rcases h with rfl | rfl <;> simp [splitWords, isSeparator, finishWord]

/-! ### Words that are read -/

/-- What follows ends a word that is written in the style. -/
def Delimits (style : LetterStyle) (rest : List Char) : Prop :=
  ∀ next ∈ rest.head?, (next = '-' ∨ next = '_') ∨ IsCapital next ∧ style ≠ .upper

theorem Delimits.notLower {style : LetterStyle} {rest : List Char} (h : Delimits style rest) :
    ∀ next ∈ rest.head?, Text.isLower next = false := by
  intro next hnext
  rcases h next hnext with (rfl | rfl) | ⟨hcapital, -⟩
  · rfl
  · rfl
  · exact hcapital.notLower

/-- A word ends before a separator, and before an upper case letter that follows a lower case letter
or a digit. -/
theorem Delimits.splitWords {style : LetterStyle} {rest : List Char} (h : Delimits style rest)
    {last : Char} (hlast : style ≠ .upper → Text.isLower last = true ∨ Text.isDigit last = true)
    (more : List Char) :
    splitWords rest (last :: more) = (last :: more).reverse :: splitWords rest [] := by
  cases rest with
  | nil => simp [Wit.splitWords, finishWord]
  | cons next rest =>
    rcases h next rfl with hseparator | ⟨hcapital, hstyle⟩
    · have hnext : isSeparator next = true := by rcases hseparator with rfl | rfl <;> rfl
      simp [Wit.splitWords, finishWord, hnext]
    · have hboundary : isBoundary last rest.head? = true := by
        rcases hlast hstyle with h | h <;> simp [isBoundary, h]
      simp [Wit.splitWords, hcapital.inWord, hcapital.upper, hboundary]

/-- The parts in which a word is read: its digits are apart if there is a joint before them. -/
def NameWord.pieces (style : LetterStyle) (joint : Joint) (word : NameWord) : List (List Char) :=
  if word.digits = [] ∨ joint = .none then [style.write word.letters ++ word.digits]
  else [style.write word.letters, word.digits]

variable {style : LetterStyle} {rest : List Char}

theorem NameWord.exists_letters_eq (word : NameWord) :
    ∃ first middle last, word.letters = first :: (middle ++ [last]) := by
  obtain ⟨letters, digits, hlength, hletter, hdigit⟩ := word
  rcases letters with - | ⟨first, more⟩
  · simp at hlength
  · rcases List.eq_nil_or_concat' more with rfl | ⟨middle, last, rfl⟩
    · simp at hlength
    · exact ⟨first, middle, last, rfl⟩

theorem splitWords_letters (word : NameWord) (style : LetterStyle)
    (hrest : ∀ next ∈ rest.head?, Text.isLower next = false) :
    splitWords (style.write word.letters ++ rest) [] =
      splitWords rest (style.write word.letters).reverse := by
  cases style with
  | lower =>
    rw [LetterStyle.write, splitWords_of_settled fun c hc ↦ isSettled_letter (word.letter c hc),
      List.append_nil]
  | capitalized =>
    obtain ⟨first, middle, last, hletters⟩ := word.exists_letters_eq
    obtain ⟨hfirst, hmore⟩ := List.forall_mem_cons.mp (hletters ▸ word.letter)
    have hstep : splitWords (first.toUpper :: (middle ++ [last] ++ rest)) [] =
        splitWords (middle ++ [last] ++ rest) [first.toUpper] := by
      simp [splitWords, (isCapital_toUpper hfirst).inWord]
    have hwritten : LetterStyle.capitalized.write word.letters =
        first.toUpper :: (middle ++ [last]) := by
      simp [LetterStyle.write, hletters]
    rw [hwritten, List.cons_append, hstep,
      splitWords_of_settled fun c hc ↦ isSettled_letter (hmore c hc)]
    simp
  | upper =>
    have hcapitals : ∀ c ∈ word.letters.map Char.toUpper, IsCapital c := by
      intro c hc
      obtain ⟨letter, hletter, rfl⟩ := List.mem_map.mp hc
      exact isCapital_toUpper (word.letter letter hletter)
    rw [LetterStyle.write, splitWords_of_capitals hcapitals hrest (by simp), List.append_nil]

/-- The last of the letters is a lower case one unless all are upper case. -/
theorem NameWord.exists_reverse_write (word : NameWord) (style : LetterStyle) : ∃ last more,
    (style.write word.letters).reverse = last :: more ∧
      (style ≠ .upper → Text.isLower last = true) := by
  obtain ⟨first, middle, last, hletters⟩ := word.exists_letters_eq
  have hlast := isLower_letter (word.letter last (by simp [hletters]))
  cases style with
  | lower =>
    exact ⟨last, middle.reverse ++ [first], by simp [LetterStyle.write, hletters], fun _ ↦ hlast⟩
  | capitalized =>
    exact ⟨last,
      middle.reverse ++ [first.toUpper], by simp [LetterStyle.write, hletters], fun _ ↦ hlast⟩
  | upper =>
    exact ⟨last.toUpper, (middle.map Char.toUpper).reverse ++ [first.toUpper],
      by simp [LetterStyle.write, hletters], fun h ↦ absurd rfl h⟩

/-- The letters of a word are a part of the name where the word ends behind them. -/
theorem splitWords_lettersEnd (word : NameWord) (hrest : Delimits style rest) :
    splitWords (style.write word.letters ++ rest) [] =
      style.write word.letters :: splitWords rest [] := by
  obtain ⟨last, more, hreverse, hlast⟩ := word.exists_reverse_write style
  rw [splitWords_letters word style hrest.notLower, hreverse,
    hrest.splitWords fun hstyle ↦ .inl (hlast hstyle), ← hreverse, List.reverse_reverse]

/-- The digits of a word belong to the part that is being read. -/
theorem splitWords_digits (word : NameWord) (hdigits : word.digits ≠ [])
    (hrest : Delimits style rest) (front : List Char) :
    splitWords (word.digits ++ rest) front.reverse =
      (front ++ word.digits) :: splitWords rest [] := by
  obtain ⟨before, last, hconcat⟩ := (List.eq_nil_or_concat' word.digits).resolve_left hdigits
  have hlast := (digit_facts (word.digit last (by simp [hconcat]))).2.1
  have hreverse : word.digits.reverse ++ front.reverse =
      last :: (before.reverse ++ front.reverse) := by simp [hconcat]
  rw [splitWords_of_settled fun c hc ↦ (digit_facts (word.digit c hc)).1, hreverse,
    hrest.splitWords fun _ ↦ .inr hlast, ← hreverse]
  simp

theorem Joint.exists_text_eq {joint : Joint} (h : joint ≠ .none) :
    ∃ c, joint.text = [c] ∧ (c = '-' ∨ c = '_') := by
  cases joint with
  | none => exact absurd rfl h
  | hyphen => exact ⟨'-', rfl, .inl rfl⟩
  | underscore => exact ⟨'_', rfl, .inr rfl⟩

/-- A word is read in its parts, however it is written, and what follows is read on its own. -/
theorem splitWords_write (word : NameWord) (joint : Joint) (hrest : Delimits style rest) :
    splitWords (word.write style joint ++ rest) [] =
      word.pieces style joint ++ splitWords rest [] := by
  by_cases hdigits : word.digits = []
  · simp [NameWord.write, NameWord.pieces, hdigits, splitWords_lettersEnd word hrest]
  · have hread := splitWords_digits word hdigits hrest
    by_cases hjoint : joint = .none
    · have hhead : ∀ next ∈ (word.digits ++ rest).head?, Text.isLower next = false := by
        intro next hnext
        rw [List.head?_append_of_ne_nil _ hdigits] at hnext
        exact (digit_facts (word.digit next (List.mem_of_mem_head? hnext))).2.2
      have hwritten : word.write style joint = style.write word.letters ++ word.digits := by
        simp [NameWord.write, hdigits, hjoint, Joint.text]
      rw [hwritten, List.append_assoc, splitWords_letters word style hhead, hread]
      simp [NameWord.pieces, hjoint]
    · obtain ⟨c, htext, hc⟩ := Joint.exists_text_eq hjoint
      have hwritten : word.write style joint = style.write word.letters ++ c :: word.digits := by
        simp [NameWord.write, hdigits, htext]
      have hjoined : Delimits style (c :: (word.digits ++ rest)) :=
        fun next hnext ↦ .inl (Option.some.inj hnext ▸ hc)
      rw [hwritten, List.append_assoc, List.cons_append, splitWords_lettersEnd word hjoined,
        splitWords_separator hc]
      have hapart := hread []
      rw [List.reverse_nil] at hapart
      rw [hapart]
      simp [NameWord.pieces, hdigits, hjoint]

/-! ### Names that are read -/

/-- Words have a separator between them, or upper case letters in front and not throughout. -/
theorem Convention.separator_cases (convention : Convention) :
    (∃ c, convention.separator = [c] ∧ (c = '-' ∨ c = '_')) ∨
      convention.separator = [] ∧ convention.laterStyle = .capitalized ∧
      convention.firstStyle ≠ .upper := by
  cases convention with
  | kebab | train => exact .inl ⟨'-', rfl, .inl rfl⟩
  | snake | ada | upperSnake => exact .inl ⟨'_', rfl, .inr rfl⟩
  | camel | pascal => exact .inr ⟨rfl, rfl, by decide⟩

theorem NameWord.exists_capital (word : NameWord) (joint : Joint) :
    ∃ c more, word.write .capitalized joint = c :: more ∧ IsCapital c := by
  obtain ⟨first, middle, last, hletters⟩ := word.exists_letters_eq
  have hfirst := isCapital_toUpper (word.letter first (by simp [hletters]))
  refine ⟨first.toUpper, middle ++ [last] ++ if word.digits = [] then []
      else joint.text ++ word.digits, ?_, hfirst⟩
  simp [write, LetterStyle.write, hletters]

/-- Every word ends where the next one begins. -/
theorem Convention.delimits_spellLater (convention : Convention) (words : List (NameWord × Joint)) :
    Delimits convention.firstStyle (convention.spellLater words) ∧
      Delimits convention.laterStyle (convention.spellLater words) := by
  cases words with
  | nil => simp [Delimits, spellLater]
  | cons word rest =>
    rcases convention.separator_cases with ⟨c, hseparator, hc⟩ | ⟨hseparator, hlater, hfirst⟩
    · simp [Delimits, spellLater, hseparator, hc]
    · obtain ⟨c, more, hwrite, hcapital⟩ := word.1.exists_capital word.2
      simp [Delimits, spellLater, hseparator, hlater, hwrite, hcapital, hfirst]

theorem splitWords_spellLater (convention : Convention) (words : List (NameWord × Joint)) :
    splitWords (convention.spellLater words) [] =
      words.flatMap fun word ↦ word.1.pieces convention.laterStyle word.2 := by
  induction words with
  | nil => rfl
  | cons word rest ih =>
    have hstep : convention.spellLater (word :: rest) =
        convention.separator ++
          (word.1.write convention.laterStyle word.2 ++ convention.spellLater rest) := by
      simp [Convention.spellLater]
    have hskip (cs : List Char) : splitWords (convention.separator ++ cs) [] =
        splitWords cs [] := by
      rcases convention.separator_cases with ⟨c, hseparator, hc⟩ | ⟨hseparator, -, -⟩
      · rw [hseparator, List.singleton_append, splitWords_separator hc]
      · rw [hseparator, List.nil_append]
    rw [hstep, hskip, splitWords_write word.1 word.2 (convention.delimits_spellLater rest).2, ih,
      List.flatMap_cons]

theorem NameWord.map_lowerChar_write (word : NameWord) (style : LetterStyle) :
    (style.write word.letters).map Text.lowerChar = word.letters := by
  have hlower {cs : List Char} (hcs : ∀ c ∈ cs, 'a' ≤ c ∧ c ≤ 'z') : cs.map Text.lowerChar = cs :=
    (List.map_congr_left fun c hc ↦ (isSettled_letter (hcs c hc)).folded).trans (List.map_id cs)
  have hupper {cs : List Char} (hcs : ∀ c ∈ cs, 'a' ≤ c ∧ c ≤ 'z') :
      (cs.map Char.toUpper).map Text.lowerChar = cs := by
    rw [List.map_map]
    exact (List.map_congr_left fun c hc ↦ lowerChar_toUpper (hcs c hc)).trans (List.map_id cs)
  cases style with
  | lower => exact hlower word.letter
  | capitalized =>
    rw [LetterStyle.write, List.map_append,
      hupper fun c hc ↦ word.letter c (List.mem_of_mem_take hc),
      hlower fun c hc ↦ word.letter c (List.mem_of_mem_drop hc), List.take_append_drop]
  | upper => exact hupper word.letter

theorem NameWord.map_lowerChar_pieces (word : NameWord) (style : LetterStyle) (joint : Joint) :
    (word.pieces style joint).map (List.map Text.lowerChar) = word.pieces .lower joint := by
  have hletters := word.map_lowerChar_write style
  have hdigits : word.digits.map Text.lowerChar = word.digits :=
    (List.map_congr_left fun c hc ↦ (digit_facts (word.digit c hc)).1.folded).trans (List.map_id _)
  unfold pieces
  split_ifs
  · rw [List.map_singleton, List.map_append, hletters, hdigits]
    rfl
  · rw [List.map_cons, List.map_singleton, hletters, hdigits]
    rfl

/-- In lower case, the parts of a name are those of its words, whatever the convention is. -/
theorem Convention.map_lowerChar_splitWords (convention : Convention)
    (words : List (NameWord × Joint)) :
    (splitWords (convention.spell words).toList []).map (List.map Text.lowerChar) =
      words.flatMap fun word ↦ word.1.pieces .lower word.2 := by
  cases words with
  | nil => rfl
  | cons word rest =>
    have hpieces : (fun word : NameWord × Joint ↦ (word.1.pieces convention.laterStyle word.2).map
        (List.map Text.lowerChar)) = fun word ↦ word.1.pieces .lower word.2 := by
      funext word
      exact word.1.map_lowerChar_pieces convention.laterStyle word.2
    rw [spell, String.toList_ofList,
      splitWords_write word.1 word.2 (convention.delimits_spellLater rest).1, splitWords_spellLater,
      List.map_append, word.1.map_lowerChar_pieces, List.map_flatMap, hpieces, List.flatMap_cons]

/-! ### Names that are joined -/

theorem joinWords_append (front word : List Char) (words : List (List Char)) :
    joinWords ((front ++ word) :: words) = front ++ joinWords (word :: words) := by
  simp [joinWords]

/-- Digits that were read apart are attached to the letters again. -/
theorem joinWords_pieces (word : NameWord) (joint : Joint) (words : List (List Char)) :
    joinWords (word.pieces .lower joint ++ words) =
      joinWords ((word.letters ++ word.digits) :: words) := by
  unfold NameWord.pieces
  split_ifs with hwhole
  · rfl
  · obtain ⟨hdigits, -⟩ := not_or.mp hwhole
    obtain ⟨d, ds, hcons⟩ := List.exists_cons_of_ne_nil hdigits
    have hd := word.digit d (by simp [hcons])
    rw [joinWords_append, hcons]
    exact (joinWords_cons_cons _ d ds words).trans (by simp [LetterStyle.write, hd])

theorem NameWord.exists_pieces_eq (word : NameWord) (joint : Joint) :
    ∃ c more others, word.pieces .lower joint = (c :: more) :: others ∧ ¬ ('0' ≤ c ∧ c ≤ '9') := by
  obtain ⟨first, middle, last, hletters⟩ := word.exists_letters_eq
  have hdigit := not_digit_letter (word.letter first (by simp [hletters]))
  unfold pieces
  split_ifs
  · exact ⟨first, middle ++ [last] ++ word.digits,
      [], by simp [LetterStyle.write, hletters], hdigit⟩
  · exact ⟨first, middle ++ [last], [word.digits], by simp [LetterStyle.write, hletters], hdigit⟩

/-- Hyphens stand between the words and nowhere else. -/
theorem joinWords_flatMap_pieces (words : List (NameWord × Joint)) :
    joinWords (words.flatMap fun word ↦ word.1.pieces .lower word.2) =
      (Text.join "-" (words.map fun word ↦ word.1.text)).toList := by
  induction words with
  | nil => rfl
  | cons word rest ih =>
    rw [List.flatMap_cons, joinWords_pieces]
    cases rest with
    | nil => simp [joinWords, Text.join, NameWord.text]
    | cons next rest =>
      obtain ⟨c, more, others, hpieces, hdigit⟩ := next.1.exists_pieces_eq next.2
      rw [List.flatMap_cons, hpieces, List.cons_append] at ih ⊢
      rw [joinWords_cons_cons, if_neg hdigit, ih]
      simp [Text.join, NameWord.text]

/-- All spellings of a name have one normal name, which is its words with hyphens between them. -/
theorem normalName_spell (convention : Convention) (words : List (NameWord × Joint)) :
    normalName (convention.spell words) = Text.join "-" (words.map fun word ↦ word.1.text) := by
  have hfold := convention.map_lowerChar_splitWords words
  rw [normalName, hfold, joinWords_flatMap_pieces, String.ofList_toList]

example : Convention.ada.spell
    [(⟨['o', 'r', 'd', 'e', 'r'], [], by decide, by simp, by simp⟩, .none),
      (⟨['l', 'i', 'n', 'e'], ['0'], by decide, by simp, by simp⟩, .underscore)] =
    "Order_Line_0" := by decide

end FlowSpec.Wit
