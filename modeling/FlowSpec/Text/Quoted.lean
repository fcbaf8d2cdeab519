import FlowSpec.Text.Printable

/-!
Quoted text as messages show it: double quotes around the text, a backslash before quotes and
backslashes, short escapes for the usual control characters and numbered escapes for all else that
does not print.
-/

set_option autoImplicit false

namespace FlowSpec.Text

def hexDigits (width n : Nat) : List Char :=
  let digits := Nat.toDigits 16 n
  List.replicate (width - digits.length) '0' ++ digits

def quoteChar (c : Char) : List Char :=
  if c == '\x22' || c == '\\' then ['\\', c]
  else if isPrintable c then [c]
  else match c with
    | '\x07' => ['\\', 'a']
    | '\x08' => ['\\', 'b']
    | '\x0c' => ['\\', 'f']
    | '\n' => ['\\', 'n']
    | '\r' => ['\\', 'r']
    | '\t' => ['\\', 't']
    | '\x0b' => ['\\', 'v']
    | _ =>
      if c < ' ' || c == '\x7f' then '\\' :: 'x' :: hexDigits 2 c.toNat
      else if c.toNat < 0x10000 then '\\' :: 'u' :: hexDigits 4 c.toNat
      else '\\' :: 'U' :: hexDigits 8 c.toNat

/-- The text in double quotes. -/
def quoted (text : String) : String :=
  String.ofList ('\x22' :: text.toList.flatMap quoteChar ++ ['\x22'])

end FlowSpec.Text
