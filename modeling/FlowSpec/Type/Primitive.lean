/-!
Primitive types and their names. Signed integers, floating point numbers and strings have second
spellings, which are normalized away wherever a document names a type.
-/

set_option autoImplicit false

namespace FlowSpec

inductive Primitive where
  | u8 | u16 | u32 | u64
  | s8 | s16 | s32 | s64
  | f32 | f64
  | bool | string | bytes
deriving Repr, DecidableEq, Inhabited

namespace Primitive

def name : Primitive → String
  | u8 => "u8"
  | u16 => "u16"
  | u32 => "u32"
  | u64 => "u64"
  | s8 => "s8"
  | s16 => "s16"
  | s32 => "s32"
  | s64 => "s64"
  | f32 => "f32"
  | f64 => "f64"
  | bool => "bool"
  | string => "string"
  | bytes => "bytes"

/-- The numbers of the primitives among all kinds of types. -/
def code : Primitive → Nat
  | u8 => 1
  | u16 => 2
  | u32 => 3
  | u64 => 4
  | s8 => 5
  | s16 => 6
  | s32 => 7
  | s64 => 8
  | f32 => 9
  | f64 => 10
  | bool => 11
  | string => 12
  | bytes => 13

/-- Every spelling of a primitive. -/
def spellings : List (String × Primitive) :=
  [("u8", u8), ("u16", u16), ("u32", u32), ("u64", u64),
    ("s8", s8), ("s16", s16), ("s32", s32), ("s64", s64),
    ("i8", s8), ("i16", s16), ("i32", s32), ("i64", s64),
    ("f32", f32), ("f64", f64), ("float32", f32), ("float64", f64),
    ("bool", bool), ("string", string), ("String", string), ("bytes", bytes)]

/-- The primitive that a name spells. -/
def ofName? (name : String) : Option Primitive := spellings.lookup name

/-- May be used as a key. -/
def isHashable : Primitive → Bool
  | bytes => false
  | _ => true

/-- The usual spelling of a primitive's name; other names are left as they are. -/
def normalize (name : String) : String :=
  match ofName? name with
  | some primitive => primitive.name
  | none => name

/-- Names that need no declaration. -/
def nativeNames : List String :=
  ["u8", "u16", "u32", "u64", "i8", "i16", "i32", "i64", "s8", "s16", "s32", "s64",
    "f32", "f64", "bool", "string", "bytes"]

/-- The empty name counts as native. -/
def isNativeName (name : String) : Bool := name == "" || nativeNames.contains name

/-- Names that stand in the shared interface of types. -/
def isSharedName (name : String) : Bool := !isNativeName name || name == "bytes"

end Primitive

end FlowSpec
