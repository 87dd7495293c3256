import ProtoSchema.Json.Basic
import ProtoSchema.Decimal.Shortest

set_option autoImplicit false

namespace ProtoSchema.Json

def hexDigit (n : Nat) : Char := Nat.digitChar n

-- One character of a string. Only the quote, the backslash and the controls are escaped.
def escapedChar (c : Char) : List Char :=
  match c with
  | '"' => ['\\', '"']
  | '\\' => ['\\', '\\']
  | '\x08' => ['\\', 'b']
  | '\x0c' => ['\\', 'f']
  | '\n' => ['\\', 'n']
  | '\r' => ['\\', 'r']
  | '\t' => ['\\', 't']
  | c =>
    if c.toNat < 0x20 then
      ['\\', 'u', '0', '0', hexDigit (c.toNat / 16), hexDigit (c.toNat % 16)]
    else [c]

def stringChars (s : String) : List Char := '"' :: (s.toList.flatMap escapedChar ++ ['"'])

def newLine (depth : Nat) : List Char := '\n' :: List.replicate (2 * depth) ' '

mutual

def prettyChars (depth : Nat) : Json → List Char
  | .null => ['n', 'u', 'l', 'l']
  | .bool true => ['t', 'r', 'u', 'e']
  | .bool false => ['f', 'a', 'l', 's', 'e']
  | .int n => (Decimal.intText n).toList
  | .float x => (Decimal.FloatFormat.standard.write x).toList
  | .string s => stringChars s
  | .array [] => ['[', ']']
  | .array (first :: others) =>
    '[' :: (newLine (depth + 1) ++ prettyChars (depth + 1) first ++
      prettyElements (depth + 1) others ++ newLine depth ++ [']'])
  | .object [] => ['\x7b', '\x7d']
  | .object ((key, value) :: others) =>
    '\x7b' :: (newLine (depth + 1) ++ stringChars key ++ [':', ' '] ++
      prettyChars (depth + 1) value ++ prettyMembers (depth + 1) others ++ newLine depth ++ ['\x7d'])

def prettyElements (depth : Nat) : List Json → List Char
  | [] => []
  | element :: others =>
    ',' :: (newLine depth ++ prettyChars depth element ++ prettyElements depth others)

def prettyMembers (depth : Nat) : List (String × Json) → List Char
  | [] => []
  | (key, value) :: others =>
    ',' :: (newLine depth ++ stringChars key ++ [':', ' '] ++ prettyChars depth value ++
      prettyMembers depth others)

end

def pretty (value : Json) : String := String.ofList (prettyChars 0 value)

end ProtoSchema.Json
