import JupyterWorkloads.Json.Basic

/-! The compact JSON text of a value: no blanks, members in the order they are held, and only the
quote, the backslash and control characters escaped. -/
namespace JupyterWorkloads.Json

def escapeChar (c : Char) : List Char :=
  if c = '"' then ['\\', '"']
  else if c = '\\' then ['\\', '\\']
  else if c = '\x08' then ['\\', 'b']
  else if c = '\x0c' then ['\\', 'f']
  else if c = '\n' then ['\\', 'n']
  else if c = '\r' then ['\\', 'r']
  else if c = '\t' then ['\\', 't']
  else if c.toNat < 0x20 then
    ['\\', 'u', '0', '0', Nat.digitChar (c.toNat / 16), Nat.digitChar (c.toNat % 16)]
  else [c]

def stringChars (s : String) : List Char := '"' :: s.toList.flatMap escapeChar ++ ['"']

mutual

def chars : Json → List Char
  | .null => ['n', 'u', 'l', 'l']
  | .bool true => ['t', 'r', 'u', 'e']
  | .bool false => ['f', 'a', 'l', 's', 'e']
  | .int n => Text.intChars n
  | .float x => x.chars
  | .str s => stringChars s
  | .arr items => '[' :: itemsChars items ++ [']']
  | .obj fields => '\x7b' :: fieldsChars fields ++ ['\x7d']

def itemsChars : List Json → List Char
  | [] => []
  | item :: rest =>
    chars item ++ match rest with
      | [] => []
      | _ :: _ => ',' :: itemsChars rest

def fieldsChars : List (String × Json) → List Char
  | [] => []
  | (name, value) :: rest =>
    stringChars name ++ ':' :: chars value ++ match rest with
      | [] => []
      | _ :: _ => ',' :: fieldsChars rest

end

def text (v : Json) : String := String.ofList v.chars

end JupyterWorkloads.Json
