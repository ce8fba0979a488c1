import KvTables.Text.Printable

/-! Text between double quotes, as messages quote it. -/

set_option autoImplicit false

namespace KvTables.Text

def hexDigits (n : Nat) : List Char := Nat.toDigits 16 n

/-- One character inside double quotes; hidden ones are written by their number. -/
def quotedChar (c : Char) : List Char :=
  match c with
  | '\x00' => ['\\', '0']
  | '\t' => ['\\', 't']
  | '\n' => ['\\', 'n']
  | '\r' => ['\\', 'r']
  | '"' => ['\\', '"']
  | '\\' => ['\\', '\\']
  | c =>
    if isHidden c then ['\\', 'u', '\x7b'] ++ hexDigits c.toNat ++ ['\x7d']
    else [c]

def quoted (text : String) : String :=
  String.ofList ('"' :: text.toList.flatMap quotedChar ++ ['"'])

end KvTables.Text
