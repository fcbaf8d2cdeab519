import FlowSpec.Document.Parse

/-!
Documents that lie in a file of their own. What is wrong with the content is told with the path in
front, and a file that is not there is told by its path alone.
-/

set_option autoImplicit false

namespace FlowSpec.Document

inductive FileError where
  | missing (path : String)
  | content (path : String) (error : Error)
deriving Repr, Inhabited

def FileError.message : FileError → String
  | missing path => "open " ++ path ++ ": no such file or directory"
  | content path error => path ++ ": " ++ error.message

/-- Parses the text of a file, if there is one. -/
def fromFile {α : Type} (parse : String → Except Error α) (path : String) :
    Option String → Except FileError α
  | none => .error (.missing path)
  | some text => (parse text).mapError (FileError.content path)

end FlowSpec.Document
