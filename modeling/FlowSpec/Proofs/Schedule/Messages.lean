import Mathlib.Tactic.SplitIfs
import FlowSpec.Proofs.Outcome
import FlowSpec.Proofs.Text.Lines
import FlowSpec.Schedule

/-!
What is said of cron expressions. A message shows the expression or a part of it, so on an
expression of one line it is one line (`toldOnOneLine_checkCron`). The check of a range is taken
apart for this into the reading of its ends, the reading of its step and the comparison with the
bounds (`checkRange_eq`).
-/

set_option autoImplicit false

namespace FlowSpec.Schedule

open Text (OneLine oneLine_append_iff)
open Outcome

variable {bounds : Bounds} {text expr field : String} {parts limits : List String}
  {start stop step : Nat} {error : CronError}

/-! ### Ranges in stages -/

/-- The checks on a range whose ends and step are read. -/
def checkEnds (bounds : Bounds) (expr : String) (start stop step : Nat) :
    Except CronError Unit := do
  if start < bounds.least then throw (.belowMinimum start bounds.least expr)
  if stop > bounds.greatest then throw (.aboveMaximum stop bounds.greatest expr)
  if start > stop then throw (.inverted start stop expr)
  if step = 0 then throw (.zeroStep expr)

/-- The checks on a range whose ends are read; the step is the second of the parts, and a single end
is open. -/
def checkStep (bounds : Bounds) (expr : String) (parts limits : List String) (start stop : Nat) :
    Except CronError Unit :=
  match parts with
  | [_] => checkEnds bounds expr start stop 1
  | [_, step] =>
    checkNumber step >>= checkEnds bounds expr start (if limits.length = 1 then
        bounds.greatest else stop)
  | _ => .error (.slashes expr)

/-- The checks on a range that is split into its ends and its step. -/
def checkLimits (bounds : Bounds) (expr : String) (parts limits : List String) :
    Except CronError Unit :=
  if limits.headD "" == "*" || limits.headD "" == "?" then
    checkStep bounds expr parts limits bounds.least bounds.greatest
  else do
    let start ← checkNumberOrName bounds (limits.headD "")
    match limits with
    | [_] => checkStep bounds expr parts limits start start
    | [_, high] => checkNumberOrName bounds high >>= checkStep bounds expr parts limits start
    | _ => .error (.hyphens expr)

theorem checkEnds_eq (bounds : Bounds) (expr : String) (start stop step : Nat) :
    checkEnds bounds expr start stop step =
      if start < bounds.least then .error (.belowMinimum start bounds.least expr)
      else if stop > bounds.greatest then .error (.aboveMaximum stop bounds.greatest expr)
      else if start > stop then .error (.inverted start stop expr)
      else if step = 0 then .error (.zeroStep expr)
      else .ok () := by
  unfold checkEnds
  split_ifs <;> rfl

theorem checkRange_eq (bounds : Bounds) (expr : String) : checkRange bounds expr =
    checkLimits bounds expr (Text.split "/" expr)
      (Text.split "-" ((Text.split "/" expr).headD "")) := by
  unfold checkRange
  generalize Text.split "/" expr = parts
  dsimp only
  generalize Text.split "-" (parts.headD "") = limits
  unfold checkLimits
  by_cases hlow : (limits.headD "" == "*" || limits.headD "" == "?") = true
  · rw [if_pos hlow, if_pos hlow]
    rfl
  · rw [if_neg hlow, if_neg hlow]
    cases checkNumberOrName bounds (limits.headD "") with
    | error error => rfl
    | ok start =>
      rcases limits with _ | ⟨low, _ | ⟨high, _ | ⟨other, rest⟩⟩⟩
      · rfl
      · rfl
      · change (checkNumberOrName bounds high >>= _) = checkNumberOrName bounds high >>= _
        cases checkNumberOrName bounds high with
        | error error => rfl
        | ok stop => rfl
      · rfl

/-! ### Messages -/

/-- Whatever is found wrong is told on one line. -/
def ToldOnOneLine {α : Type} (outcome : Except CronError α) : Prop :=
  ∀ error, outcome = .error error → OneLine error.message

theorem toldOnOneLine_error {α : Type} (h : OneLine error.message) :
    ToldOnOneLine (.error error : Except CronError α) :=
  fun _ herror ↦ Except.error.inj herror ▸ h

theorem toldOnOneLine_ok {α : Type} (a : α) : ToldOnOneLine (.ok a) := fun _ herror ↦ by
  cases herror

theorem ToldOnOneLine.bind {α β : Type} {first : Except CronError α} {next : α → Except CronError β}
    (hfirst : ToldOnOneLine first) (hnext : ∀ a, ToldOnOneLine (next a)) :
    ToldOnOneLine (first >>= next) := by
  intro error herror
  rcases bind_eq_error_iff.mp herror with herror | ⟨a, -, herror⟩
  · exact hfirst error herror
  · exact hnext a error herror

theorem toldOnOneLine_checkNumber (h : OneLine text) : ToldOnOneLine (checkNumber text) := by
  unfold checkNumber
  split
  next cause _ =>
    refine toldOnOneLine_error ?_
    unfold CronError.message
    exact .append (.naming (.fixed rfl) h rfl) (Text.oneLine_readingMessage (.fixed rfl) text cause)
  next value _ =>
    split
    · refine toldOnOneLine_error ?_
      unfold CronError.message
      exact .append (.naming (.fixed rfl) (Text.oneLine_intText value) rfl) h
    · exact toldOnOneLine_ok _

theorem toldOnOneLine_checkNumberOrName (h : OneLine text) :
    ToldOnOneLine (checkNumberOrName bounds text) := by
  unfold checkNumberOrName
  split
  · exact toldOnOneLine_ok _
  · exact toldOnOneLine_checkNumber h

theorem toldOnOneLine_checkEnds (h : OneLine expr) :
    ToldOnOneLine (checkEnds bounds expr start stop step) := by
  have hnumber := Text.oneLine_natText
  rw [checkEnds_eq]
  split_ifs
  case pos | pos | pos =>
    refine toldOnOneLine_error ?_
    unfold CronError.message
    exact .append (.naming (.naming (.fixed rfl) (hnumber _) rfl) (hnumber _) rfl) h
  case pos => exact toldOnOneLine_error (oneLine_append_iff.mpr ⟨.fixed rfl, h⟩)
  case neg => exact toldOnOneLine_ok _

theorem toldOnOneLine_checkStep (h : OneLine expr) (hparts : ∀ part ∈ parts, OneLine part) :
    ToldOnOneLine (checkStep bounds expr parts limits start stop) := by
  unfold checkStep
  split
  next => exact toldOnOneLine_checkEnds h
  next first second =>
    exact (toldOnOneLine_checkNumber (hparts second (by simp))).bind fun _ ↦
      toldOnOneLine_checkEnds h
  next => exact toldOnOneLine_error (oneLine_append_iff.mpr ⟨.fixed rfl, h⟩)

theorem toldOnOneLine_checkRange (h : OneLine expr) : ToldOnOneLine (checkRange bounds expr) := by
  have hhead {texts : List String} (htexts : ∀ text ∈ texts, OneLine text) :
      OneLine (texts.headD "") := by
    cases texts with
    | nil => exact .fixed rfl
    | cons text rest => exact htexts text List.mem_cons_self
  have hparts : ∀ part ∈ Text.split "/" expr, OneLine part := fun part ↦ h.of_mem_split (by decide)
  have hlimits : ∀ limit ∈ Text.split "-" ((Text.split "/" expr).headD ""), OneLine limit :=
    fun limit ↦ (hhead hparts).of_mem_split (by decide)
  rw [checkRange_eq]
  generalize Text.split "/" expr = parts at hparts hlimits
  generalize Text.split "-" (parts.headD "") = limits at hlimits
  unfold checkLimits
  split
  · exact toldOnOneLine_checkStep h hparts
  · refine (toldOnOneLine_checkNumberOrName (hhead hlimits)).bind fun start ↦ ?_
    split
    next => exact toldOnOneLine_checkStep h hparts
    next high _ =>
      exact (toldOnOneLine_checkNumberOrName (hlimits high (by simp))).bind fun _ ↦
        toldOnOneLine_checkStep h hparts
    next => exact toldOnOneLine_error (oneLine_append_iff.mpr ⟨.fixed rfl, h⟩)

theorem toldOnOneLine_forM {α : Type} {items : List α} {check : α → Except CronError Unit}
    (h : ∀ item ∈ items, ToldOnOneLine (check item)) : ToldOnOneLine (items.forM check) := by
  intro error herror
  obtain ⟨item, hitem, herror⟩ := exists_of_forM_eq_error herror
  exact h item hitem error herror

theorem toldOnOneLine_checkField (h : OneLine field) : ToldOnOneLine (checkField bounds field) := by
  refine toldOnOneLine_forM fun expr hexpr ↦ ?_
  obtain ⟨run, hrun, rfl⟩ := List.mem_map.mp hexpr
  exact toldOnOneLine_checkRange (h.of_mem_runs hrun)

theorem oneLine_octetQuoted (text : String) : OneLine (octetQuoted text) := by
  have hchar (c : Char) : '\n' ∉ (if c < ' ' || c.toNat ≥ 0x80 then
      (toString c).toUTF8.toList.flatMap fun b => '\\' :: 'x' :: Text.hexDigits 2 b.toNat
      else if c == '\x22' || c == '\\' then ['\\', c] else [c]) := by
    split
    next => simp [List.mem_flatMap, Text.break_notMem_hexDigits]
    next hprints =>
      have hc : '\n' ≠ c := by
        rintro rfl
        exact hprints (by decide)
      split <;> simp [hc]
  rw [OneLine, octetQuoted, String.toList_ofList, List.mem_append, List.mem_cons, List.mem_flatMap]
  rintro ((hquote | ⟨c, -, hc⟩) | hquote)
  · cases hquote
  · exact hchar c hc
  · cases List.mem_singleton.mp hquote

theorem toldOnOneLine_checkDescriptor (h : OneLine text) :
    ToldOnOneLine (checkDescriptor text) := by
  unfold checkDescriptor
  split
  · exact toldOnOneLine_ok _
  · split
    next rest _ =>
      split
      next => exact toldOnOneLine_ok _
      next cause _ =>
        have hcause : OneLine (cause.message octetQuoted (String.ofList rest)) := by
          cases cause <;> unfold Duration.ParseError.message <;>
            simp only [oneLine_append_iff, and_assoc]
          case malformed | missingUnit => exact ⟨.fixed rfl, oneLine_octetQuoted _⟩
          case unknownUnit unit =>
            exact ⟨.fixed rfl, oneLine_octetQuoted _, .fixed rfl, oneLine_octetQuoted _⟩
        refine toldOnOneLine_error ?_
        unfold CronError.message
        exact .append (.naming (.fixed rfl) h rfl) hcause
    next => exact toldOnOneLine_error (oneLine_append_iff.mpr ⟨.fixed rfl, h⟩)

/-- On an expression of one line, whatever is found wrong is told on one line. -/
theorem toldOnOneLine_checkCron (h : OneLine text) : ToldOnOneLine (checkCron text) := by
  have hfield {fields : List Bounds} (item : Bounds × String)
      (hitem : item ∈ fields.zip (Text.words text)) :
      ToldOnOneLine (checkField item.1 item.2) :=
    toldOnOneLine_checkField (h.of_mem_words (List.of_mem_zip hitem).2)
  unfold checkCron
  split
  next => exact toldOnOneLine_error (.fixed rfl)
  next => exact toldOnOneLine_checkDescriptor h
  next =>
    dsimp only
    split
    · exact toldOnOneLine_forM hfield
    · split
      · exact toldOnOneLine_forM hfield
      · refine toldOnOneLine_error ?_
        unfold CronError.message
        simp only [oneLine_append_iff, and_assoc]
        exact ⟨.fixed rfl, Text.oneLine_natText _, .fixed rfl,
          Text.oneLine_join (.fixed rfl) fun word hword ↦ h.of_mem_words hword, .fixed rfl⟩

end FlowSpec.Schedule
