import ThemeSwitch.Unicode.Property

/-! # Quoted texts

The quoted form of a text, in which messages show names: double quotes around it, a backslash
before a quote or a backslash, letters for the common control characters, and the number of every
other character that cannot be seen. -/
namespace ThemeSwitch.Text

/-- Hexadecimal digits, lower case and as few as possible. -/
def hexDigits (n : Nat) : List Char := Nat.toDigits 16 n

def quotedChar (c : Char) : List Char :=
  match c with
  | '\x00' => ['\\', '0']
  | '\t' => ['\\', 't']
  | '\r' => ['\\', 'r']
  | '\n' => ['\\', 'n']
  | '\\' => ['\\', '\\']
  | '"' => ['\\', '"']
  | c => if Unicode.isUnprinted c then "\\u\x7b".toList ++ hexDigits c.toNat ++ ['}'] else [c]

def quoted (s : String) : String :=
  String.ofList ('"' :: s.toList.flatMap quotedChar ++ ['"'])

end ThemeSwitch.Text
