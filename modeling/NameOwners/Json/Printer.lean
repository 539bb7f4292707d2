import NameOwners.Json.Value

/-!
JSON values as text, either without any blanks or with an entry to a line and two blanks for each
level. In a string only quotes, backslashes and the controls below the blank are escaped.
-/

namespace NameOwners.Json

def hexDigit (n : Nat) : Char :=
  Nat.digitChar n

def stringChar (c : Char) : List Char :=
  if c = '"' then ['\\', '"']
  else if c = '\\' then ['\\', '\\']
  else if c = '\x08' then ['\\', 'b']
  else if c = '\t' then ['\\', 't']
  else if c = '\n' then ['\\', 'n']
  else if c = '\x0c' then ['\\', 'f']
  else if c = '\r' then ['\\', 'r']
  else if c.toNat < 0x20 then
    ['\\', 'u', '0', '0', hexDigit (c.toNat / 16), hexDigit (c.toNat % 16)]
  else [c]

def stringChars (s : String) : List Char :=
  '"' :: s.toList.flatMap stringChar ++ ['"']

def numberChars (n : Number) : List Char :=
  n.text.toList

mutual

def chars : Json → List Char
  | null => ['n', 'u', 'l', 'l']
  | bool true => ['t', 'r', 'u', 'e']
  | bool false => ['f', 'a', 'l', 's', 'e']
  | number n => numberChars n
  | string s => stringChars s
  | array elements => '[' :: elementsChars elements ++ [']']
  | object entries => '{' :: entriesChars entries ++ ['}']

def elementsChars : List Json → List Char
  | [] => []
  | [v] => chars v
  | v :: w :: rest => chars v ++ ',' :: elementsChars (w :: rest)

def entriesChars : List (String × Json) → List Char
  | [] => []
  | [(k, v)] => stringChars k ++ ':' :: chars v
  | (k, v) :: w :: rest => stringChars k ++ ':' :: chars v ++ ',' :: entriesChars (w :: rest)

end

def render (v : Json) : String :=
  String.ofList (chars v)

def newline (level : Nat) : List Char :=
  '\n' :: List.replicate (2 * level) ' '

mutual

def prettyChars (level : Nat) : Json → List Char
  | null => ['n', 'u', 'l', 'l']
  | bool true => ['t', 'r', 'u', 'e']
  | bool false => ['f', 'a', 'l', 's', 'e']
  | number n => numberChars n
  | string s => stringChars s
  | array [] => ['[', ']']
  | array (v :: rest) =>
    '[' :: newline (level + 1) ++ prettyElements (level + 1) (v :: rest) ++ newline level ++ [']']
  | object [] => ['{', '}']
  | object (e :: rest) =>
    '{' :: newline (level + 1) ++ prettyEntries (level + 1) (e :: rest) ++ newline level ++ ['}']

def prettyElements (level : Nat) : List Json → List Char
  | [] => []
  | [v] => prettyChars level v
  | v :: w :: rest =>
    prettyChars level v ++ ',' :: newline level ++ prettyElements level (w :: rest)

def prettyEntries (level : Nat) : List (String × Json) → List Char
  | [] => []
  | [(k, v)] => stringChars k ++ ':' :: ' ' :: prettyChars level v
  | (k, v) :: w :: rest =>
    stringChars k ++ ':' :: ' ' :: prettyChars level v ++ ',' :: newline level ++
      prettyEntries level (w :: rest)

end

def pretty (v : Json) : String :=
  String.ofList (prettyChars 0 v)

end NameOwners.Json
