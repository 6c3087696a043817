import TableWrite.Json.Basic
import TableWrite.Text.Hex

set_option autoImplicit false

namespace TableWrite.Json

open Text

/-- A character inside a string. As `serde_json` writes it, only quotes, backslashes and control
characters are escaped, those of a short escape by it. -/
def escape (c : Char) : List Char :=
  if c = '"' then ['\\', '"']
  else if c = '\\' then ['\\', '\\']
  else if c = '\x08' then ['\\', 'b']
  else if c = '\x0c' then ['\\', 'f']
  else if c = '\n' then ['\\', 'n']
  else if c = '\r' then ['\\', 'r']
  else if c = '\t' then ['\\', 't']
  else if c.toNat < 0x20 then ['\\', 'u', '0', '0'] ++ lowerHex (.ofNat c.toNat)
  else [c]

def quoted (s : String) : List Char := '"' :: (s.toList.flatMap escape ++ ['"'])

/-- What is written for a garbled document: half of a surrogate pair. -/
def garbledChars : List Char := ['"', '\\', 'u', 'd', '8', '0', '0', '"']

mutual

/-- The text without any spaces. -/
def chars : Json → List Char
  | null => ['n', 'u', 'l', 'l']
  | bool true => ['t', 'r', 'u', 'e']
  | bool false => ['f', 'a', 'l', 's', 'e']
  | number n => n.chars
  | string s => quoted s
  | array items => '[' :: (itemChars items ++ [']'])
  | object fields => '{' :: (fieldChars fields ++ ['}'])
  | garbled => garbledChars

def itemChars : List Json → List Char
  | [] => []
  | [j] => chars j
  | j :: k :: rest => chars j ++ ',' :: itemChars (k :: rest)

def fieldChars : List (String × Json) → List Char
  | [] => []
  | [(key, j)] => quoted key ++ ':' :: chars j
  | (key, j) :: f :: rest => quoted key ++ ':' :: chars j ++ ',' :: fieldChars (f :: rest)

end

/-- A new line at a depth. -/
def newLine (depth : Nat) : List Char := '\n' :: List.replicate (2 * depth) ' '

mutual

/-- The text with a line for every item and field, as the pretty printer of `serde_json` indents
it; an empty container stays on one line. -/
def prettyChars (depth : Nat) : Json → List Char
  | array (j :: rest) =>
    '[' :: (prettyItems (depth + 1) (j :: rest) ++ newLine depth ++ [']'])
  | object (f :: rest) =>
    '{' :: (prettyFields (depth + 1) (f :: rest) ++ newLine depth ++ ['}'])
  | j => chars j

def prettyItems (depth : Nat) : List Json → List Char
  | [] => []
  | [j] => newLine depth ++ prettyChars depth j
  | j :: k :: rest => newLine depth ++ prettyChars depth j ++ ',' :: prettyItems depth (k :: rest)

def prettyFields (depth : Nat) : List (String × Json) → List Char
  | [] => []
  | [(key, j)] => newLine depth ++ quoted key ++ ':' :: ' ' :: prettyChars depth j
  | (key, j) :: f :: rest =>
    newLine depth ++ quoted key ++ ':' :: ' ' :: prettyChars depth j ++
      ',' :: prettyFields depth (f :: rest)

end

def text (j : Json) : String := .ofList j.chars

def prettyText (j : Json) : String := .ofList (j.prettyChars 0)

end TableWrite.Json
