import FlowSpec.Proofs.Text.Lines
import FlowSpec.Report

/-!
Reports one level deeper. A report is an outline: texts in order, each with its depth, which grows
by one where the report is rendered one level deeper. So every text gets one unit of nesting more.
The lines of the rendered report all get one exactly if every text is one line
(`render_succ_eq_indented_iff`): a line break in a text begins a line that no unit is put in front
of.
-/

set_option autoImplicit false

namespace FlowSpec.Report

open Text (OneLine)

variable {report : Report} {depth : Nat} {entries : List (Nat × String)}

/-- What holds of a node if it holds of its children holds of all reports. -/
theorem induction_on_children {motive : Report → Prop} (line : ∀ text, motive (.line text))
    (lines : ∀ texts, motive (.lines texts))
    (group : ∀ heading children, (∀ child ∈ children, motive child) →
      motive (.group heading children))
    (service : ∀ name children, (∀ child ∈ children, motive child) →
      motive (.service name children))
    (report : Report) : motive report :=
  @Report.rec motive (fun children ↦ ∀ child ∈ children, motive child) line lines group service
    (fun _ hchild ↦ absurd hchild List.not_mem_nil)
    (fun _ _ hfirst hrest ↦ List.forall_mem_cons.mpr ⟨hfirst, hrest⟩) report

/-! ### Outlines -/

mutual

/-- The texts of a node with their depths. -/
def outline (depth : Nat) : Report → List (Nat × String)
  | line text => [(depth, text)]
  | lines texts => texts.map fun text => (depth, text)
  | group heading children => (depth, heading) :: outlineAll (depth + 1) children
  | service name children => (depth, serviceHeading name) :: outlineAll (depth + 1) children

def outlineAll (depth : Nat) : List Report → List (Nat × String)
  | [] => []
  | node :: rest => outline depth node ++ outlineAll depth rest

end

/-- The texts of a node and of all nodes below it. -/
def texts (report : Report) : List String := (report.outline 0).map Prod.snd

def renderEntries : List (Nat × String) → String
  | [] => ""
  | (depth, text) :: rest => renderLine depth text ++ renderEntries rest

def deeper (entries : List (Nat × String)) : List (Nat × String) := entries.map fun entry =>
      (entry.1 + 1, entry.2)

theorem renderEntries_append (first second : List (Nat × String)) :
    renderEntries (first ++ second) = renderEntries first ++ renderEntries second := by
  induction first with
  | nil => simp [renderEntries]
  | cons entry rest ih => simp [renderEntries, ih, String.append_assoc]

theorem outlineAll_eq_flatMap (depth : Nat) (children : List Report) :
    outlineAll depth children = children.flatMap (outline depth) := by
  induction children with
  | nil => rfl
  | cons child rest ih => rw [outlineAll, ih, List.flatMap_cons]

theorem render_eq_renderEntries (report : Report) (depth : Nat) :
    report.render depth = renderEntries (report.outline depth) := by
  have hall {depth : Nat} {children : List Report}
      (ih : ∀ child ∈ children, ∀ depth, child.render depth = renderEntries (child.outline depth)) :
      renderAll depth children = renderEntries (outlineAll depth children) := by
    induction children with
    | nil => rfl
    | cons child rest ihrest =>
      obtain ⟨hchild, hrest⟩ := List.forall_mem_cons.mp ih
      rw [renderAll, outlineAll, renderEntries_append, hchild depth, ihrest hrest]
  induction report using induction_on_children generalizing depth with
  | line text => simp [render, outline, renderEntries]
  | lines texts =>
    rw [render, outline]
    induction texts with
    | nil => rfl
    | cons text rest ih => rw [renderLines, List.map_cons, renderEntries, ih]
  | group heading children ih => rw [render, outline, renderEntries, hall ih]
  | service name children ih => rw [render, outline, renderEntries, hall ih]

theorem outline_succ (report : Report) (depth : Nat) :
    report.outline (depth + 1) = deeper (report.outline depth) := by
  have hall {depth : Nat} {children : List Report}
      (ih : ∀ child ∈ children, ∀ depth, child.outline (depth + 1) = deeper (child.outline depth)) :
      outlineAll (depth + 1) children = deeper (outlineAll depth children) := by
    rw [outlineAll_eq_flatMap, outlineAll_eq_flatMap, deeper, List.map_flatMap]
    exact List.flatMap_congr fun child hchild ↦ ih child hchild depth
  induction report using induction_on_children generalizing depth with
  | line text => rfl
  | lines texts => simp [outline, deeper]
  | group heading children ih =>
    rw [outline, outline, hall ih]
    rfl
  | service name children ih =>
    rw [outline, outline, hall ih]
    rfl

theorem map_snd_outline (report : Report) (depth : Nat) :
    (report.outline depth).map Prod.snd = report.texts := by
  induction depth with
  | zero => rfl
  | succ depth ih => rw [outline_succ, ← ih, deeper, List.map_map]; rfl

/-! ### Lines -/

/-- Puts the unit of nesting in front of every line; `fresh` tells whether a line begins here. -/
def indentedFrom : Bool → List Char → List Char
  | _, [] => []
  | fresh, c :: rest =>
    (if fresh then indentUnit.toList else []) ++ c :: indentedFrom (c == '\n') rest

/-- The text with the unit of nesting in front of every line. -/
def indented (text : String) : String := String.ofList (indentedFrom true text.toList)

theorem indentedFrom_append {line : List Char} (h : '\n' ∉ line) (fresh : Bool) (rest : List Char) :
    indentedFrom fresh (line ++ '\n' :: rest) =
      (if fresh then indentUnit.toList else []) ++ line ++ '\n' :: indentedFrom true rest := by
  induction line generalizing fresh with
  | nil => simp [indentedFrom]
  | cons c line ih =>
    obtain ⟨hc, hline⟩ := not_or.mp (mt List.mem_cons.mpr h)
    have hinside : (c == '\n') = false := beq_false_of_ne (Ne.symm hc)
    rw [List.cons_append, indentedFrom, hinside, ih hline]
    simp

/-- Every line break ends a line, which has got a unit of nesting if it began here. -/
theorem length_indentedFrom_append (part : List Char) (fresh : Bool) (rest : List Char) :
    (indentedFrom fresh (part ++ '\n' :: rest)).length =
      part.length + 1 + 4 * (part.count '\n' + if fresh then 1
        else 0) + (indentedFrom true rest).length := by
  have hunit : indentUnit.toList.length = 4 := rfl
  induction part generalizing fresh with
  | nil => cases fresh <;> simp [indentedFrom, hunit] <;> omega
  | cons c part ih =>
    rw [List.cons_append, indentedFrom, List.length_append, List.length_cons, ih, List.length_cons,
      List.count_cons]
    cases fresh <;> cases c == '\n' <;> simp [hunit] <;> omega

theorem toList_indent (depth : Nat) : (indent depth).toList = List.replicate (4 * depth) ' ' := by
  induction depth with
  | zero => rfl
  | succ depth ih =>
    have hunit : indentUnit.toList = List.replicate 4 ' ' := rfl
    rw [indent, String.toList_append, ih, hunit, List.replicate_append_replicate,
      Nat.mul_succ, Nat.add_comm]

theorem toList_renderLine (depth : Nat) (text : String) :
    (renderLine depth text).toList = List.replicate (4 * depth) ' ' ++ text.toList ++ ['\n'] := by
  rw [renderLine, String.toList_append, String.toList_append, toList_indent]
  rfl

theorem toList_renderEntries_deeper (h : ∀ entry ∈ entries, OneLine entry.2) :
    (renderEntries (deeper entries)).toList = indentedFrom true (renderEntries entries).toList := by
  induction entries with
  | nil => rfl
  | cons entry rest ih =>
    obtain ⟨hentry, hrest⟩ := List.forall_mem_cons.mp h
    obtain ⟨depth, text⟩ := entry
    have hline : '\n' ∉ List.replicate (4 * depth) ' ' ++ text.toList := by
      simp only [List.mem_append, List.mem_replicate, not_or]
      exact ⟨by simp, hentry⟩
    have hunit : indentUnit.toList = List.replicate 4 ' ' := rfl
    rw [renderEntries, String.toList_append, toList_renderLine, List.append_assoc,
      List.singleton_append, indentedFrom_append hline, ← ih hrest]
    change (renderEntries ((depth + 1, text) :: deeper rest)).toList = _
    rw [renderEntries, String.toList_append, toList_renderLine, if_pos rfl, hunit,
      ← List.append_assoc (List.replicate 4 ' '), List.replicate_append_replicate, Nat.mul_succ,
      Nat.add_comm 4]
    simp

/-- The breaks inside texts. -/
def innerBreaks : List (Nat × String) → Nat
  | [] => 0
  | entry :: rest => entry.2.toList.count '\n' + innerBreaks rest

theorem oneLine_of_innerBreaks (h : innerBreaks entries = 0) :
    ∀ entry ∈ entries, OneLine entry.2 := by
  induction entries with
  | nil => exact List.forall_mem_nil _
  | cons entry rest ih =>
    obtain ⟨hentry, hrest⟩ := Nat.add_eq_zero_iff.mp h
    exact List.forall_mem_cons.mpr ⟨List.count_eq_zero.mp hentry, ih hrest⟩

theorem length_indentedFrom_renderEntries (entries : List (Nat × String)) :
    (indentedFrom true (renderEntries entries).toList).length =
      (renderEntries (deeper entries)).toList.length + 4 * innerBreaks entries := by
  induction entries with
  | nil => rfl
  | cons entry rest ih =>
    obtain ⟨depth, text⟩ := entry
    have hspaces : (List.replicate (4 * depth) ' ' ++ text.toList).count '\n' =
        text.toList.count '\n' := by
      simp [List.count_replicate]
    rw [renderEntries, String.toList_append, toList_renderLine, List.append_assoc,
      List.singleton_append, length_indentedFrom_append, ih, hspaces, innerBreaks]
    change _ = (renderEntries ((depth + 1, text) :: deeper rest)).toList.length + _
    rw [renderEntries, String.toList_append, toList_renderLine]
    simp only [List.length_append, List.length_replicate, List.length_singleton, if_pos]
    omega

/-- A report that is rendered one level deeper has the unit of nesting in front of every line
exactly if its texts are single lines. -/
theorem render_succ_eq_indented_iff (report : Report) (depth : Nat) :
    report.render (depth + 1) = indented (report.render depth) ↔
      ∀ text ∈ report.texts, OneLine text := by
  have htexts : (∀ text ∈ report.texts, OneLine text) ↔ ∀ entry ∈ report.outline depth,
      OneLine entry.2 := by
    rw [← map_snd_outline report depth, List.forall_mem_map]
  have hrender : report.render (depth + 1) = indented (report.render depth) ↔
      (renderEntries (deeper (report.outline depth))).toList =
        indentedFrom true (renderEntries (report.outline depth)).toList := by
    rw [render_eq_renderEntries, render_eq_renderEntries, outline_succ,
      indented, ← String.toList_inj, String.toList_ofList]
  rw [htexts, hrender]
  refine ⟨fun h ↦ oneLine_of_innerBreaks ?_, toList_renderEntries_deeper⟩
  -- the lengths differ by the units in front of the lines that begin inside texts
  have hlength := length_indentedFrom_renderEntries (report.outline depth)
  rw [← h] at hlength
  omega

/-! ### What the texts of a report are like -/

variable {P Q : String → Prop} {text heading name : String} {texts : List String}
  {children : List Report}

/-- All texts of the report are like this. -/
def Says (P : String → Prop) (report : Report) : Prop := ∀ text ∈ report.texts, P text

theorem Says.imp (h : report.Says P) (himp : ∀ text, P text → Q text) : report.Says Q :=
  fun text htext ↦ himp text (h text htext)

theorem says_line_iff : (line text).Says P ↔ P text := List.forall_mem_singleton

theorem says_lines_iff : (lines texts).Says P ↔ ∀ text ∈ texts, P text := by
  simp [Says, Report.texts, outline]

theorem forall_mem_outlineAll_iff (depth : Nat) :
    (∀ text ∈ (outlineAll depth children).map Prod.snd, P text) ↔
      ∀ child ∈ children, child.Says P := by
  rw [outlineAll_eq_flatMap, List.map_flatMap, List.forall_mem_flatMap]
  simp only [map_snd_outline, Says]

theorem says_group_iff :
    (group heading children).Says P ↔ P heading ∧ ∀ child ∈ children, child.Says P := by
  rw [Says, Report.texts, outline, List.map_cons, List.forall_mem_cons, forall_mem_outlineAll_iff]

theorem says_service_iff :
    (service name children).Says P ↔ P (serviceHeading name) ∧ ∀ child ∈ children,
      child.Says P := by
  rw [Says, Report.texts, outline, List.map_cons, List.forall_mem_cons, forall_mem_outlineAll_iff]

theorem forall_mem_toList {P : Report → Prop} {found : Option Report}
    (h : ∀ report ∈ found, P report) :
    ∀ report ∈ found.toList, P report :=
  fun report hreport ↦ h report (Option.mem_toList.mp hreport)

theorem says_groupUnlessEmpty (hheading : P heading)
    (hchildren : ∀ child ∈ children, child.Says P) :
    ∀ report ∈ groupUnlessEmpty heading children, report.Says P := by
  intro report hreport
  unfold groupUnlessEmpty at hreport
  split at hreport
  · cases hreport
  · exact Option.some.inj hreport ▸ says_group_iff.mpr ⟨hheading, hchildren⟩

theorem says_linesUnlessEmpty (htexts : ∀ text ∈ texts, P text) :
    ∀ report ∈ linesUnlessEmpty texts, report.Says P := by
  intro report hreport
  unfold linesUnlessEmpty at hreport
  split at hreport
  · cases hreport
  · exact Option.some.inj hreport ▸ says_lines_iff.mpr htexts

end FlowSpec.Report
