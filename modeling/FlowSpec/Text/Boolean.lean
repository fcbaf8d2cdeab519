import FlowSpec.Text.Number

/-! Truth values in text. -/

set_option autoImplicit false

namespace FlowSpec.Text

/-- The words for true and false. -/
def readBool (text : String) : Except NumberError Bool :=
  if ["1", "t", "T", "TRUE", "true", "True"].contains text then .ok true
  else if ["0", "f", "F", "FALSE", "false", "False"].contains text then .ok false
  else .error .malformed

end FlowSpec.Text
