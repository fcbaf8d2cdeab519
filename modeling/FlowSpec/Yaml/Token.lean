import FlowSpec.Yaml.Fault

/-! The tokens of a YAML text, each with the marks it lies between. -/

set_option autoImplicit false

namespace FlowSpec.Yaml

inductive TokenKind where
  | streamStart
  | streamEnd
  | versionDirective (major minor : Nat)
  | tagDirective (handle expansion : String)
  | documentStart
  | documentEnd
  | blockSequenceStart
  | blockMappingStart
  | blockEnd
  | flowSequenceStart
  | flowSequenceEnd
  | flowMappingStart
  | flowMappingEnd
  | blockEntry
  | flowEntry
  | key
  | value
  | reference (name : String)
  | anchor (name : String)
  | tag (handle suffix : String)
  | scalar (text : String) (plain : Bool)
deriving Repr, DecidableEq, Inhabited

structure Token where
  kind : TokenKind
  start : Mark
  stop : Mark
deriving Repr, DecidableEq, Inhabited

end FlowSpec.Yaml
