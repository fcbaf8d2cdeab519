import FlowSpec.Text.Split

/-!
Validation reports as trees. Every node renders to whole lines, indented by its depth, and the
children of a group stand one level deeper than its heading.
-/

set_option autoImplicit false

namespace FlowSpec

inductive Report where
  | line (text : String)
  | lines (texts : List String)
  | group (heading : String) (children : List Report)
  | service (name : String) (children : List Report)
deriving Repr, Inhabited

namespace Report

/-- The unit of nesting. -/
def indentUnit : String := "    "

def indent : Nat → String
  | 0 => ""
  | depth + 1 => indentUnit ++ indent depth

def renderLine (depth : Nat) (text : String) : String := indent depth ++ text ++ "\n"

def renderLines (depth : Nat) : List String → String
  | [] => ""
  | text :: rest => renderLine depth text ++ renderLines depth rest

def serviceHeading (name : String) : String := "Service `" ++ name ++ "` is invalid:"

mutual

/-- The lines of a node at a depth. -/
def render (depth : Nat) : Report → String
  | line text => renderLine depth text
  | lines texts => renderLines depth texts
  | group heading children => renderLine depth heading ++ renderAll (depth + 1) children
  | service name children =>
    renderLine depth (serviceHeading name) ++ renderAll (depth + 1) children

/-- The lines of several nodes at one depth. -/
def renderAll (depth : Nat) : List Report → String
  | [] => ""
  | node :: rest => render depth node ++ renderAll depth rest

end

/-- The text of a node on its own. -/
def text : Report → String
  | line text => text
  | lines texts => Text.join "\n" texts
  | node => Text.trimLines (node.render 0)

/-- The text of all nodes together. -/
def combined (nodes : List Report) : String := Text.trimLines (renderAll 0 nodes)

/-- A group, unless it would have no children. -/
def groupUnlessEmpty (heading : String) (children : List Report) : Option Report :=
  if children.isEmpty then none else some (group heading children)

/-- Lines of one check, unless there are none. -/
def linesUnlessEmpty (texts : List String) : Option Report :=
  if texts.isEmpty then none else some (lines texts)

/-- Puts a context in front of every line. -/
def inContext (context : String) (texts : List String) : List String :=
  texts.map fun text => context ++ " " ++ text

end Report

end FlowSpec
