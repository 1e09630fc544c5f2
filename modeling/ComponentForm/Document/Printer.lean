import ComponentForm.Document.Basic
import ComponentForm.Text.Numeral
import ComponentForm.Text.Quoted

/-! The three written forms of a document: compact text, indented text, and the annotated form that
names the kind of each value. -/
namespace ComponentForm.Document

open Text

def escapedChar (c : Char) : List Char :=
  if c = '"' then ['\\', '"']
  else if c = '\\' then ['\\', '\\']
  else if c = '\x08' then ['\\', 'b']
  else if c = '\t' then ['\\', 't']
  else if c = '\n' then ['\\', 'n']
  else if c = '\x0c' then ['\\', 'f']
  else if c = '\r' then ['\\', 'r']
  else if c < ' ' then
    '\\' :: 'u' :: '0' :: '0' :: [lowerHexDigit (c.toNat / 16), lowerHexDigit (c.toNat % 16)]
  else [c]

/-- A string as documents hold it: quotes, backslashes and controls are escaped, nothing else. -/
def stringText (s : String) : String :=
  String.ofList ('"' :: s.toList.flatMap escapedChar ++ ['"'])

mutual
def compact : Document → String
  | .null => "null"
  | .bool b => if b then "true" else "false"
  | .number n => n.text
  | .string s => stringText s
  | .array xs => "[" ++ compactItems xs ++ "]"
  | .object ms => "\x7b" ++ compactMembers ms ++ "\x7d"

def compactItems : List Document → String
  | [] => ""
  | x :: xs => compact x ++ compactItemsAfter xs

def compactItemsAfter : List Document → String
  | [] => ""
  | x :: xs => "," ++ compact x ++ compactItemsAfter xs

def compactMembers : List (String × Document) → String
  | [] => ""
  | (k, v) :: ms => stringText k ++ ":" ++ compact v ++ compactMembersAfter ms

def compactMembersAfter : List (String × Document) → String
  | [] => ""
  | (k, v) :: ms => "," ++ stringText k ++ ":" ++ compact v ++ compactMembersAfter ms
end

def margin (depth : Nat) : String :=
  "\n" ++ String.ofList (List.replicate (2 * depth) ' ')

mutual
/-- The text with every item and member on a line of its own, two spaces deeper than its holder;
empty arrays and objects stay on one line. -/
def indented (depth : Nat) : Document → String
  | .array [] => "[]"
  | .array (x :: xs) =>
    "[" ++ margin (depth + 1) ++ indented (depth + 1) x ++ indentedItems depth xs ++
      margin depth ++ "]"
  | .object [] => "\x7b\x7d"
  | .object ((k, v) :: ms) =>
    "\x7b" ++ margin (depth + 1) ++ stringText k ++ ": " ++ indented (depth + 1) v ++
      indentedMembers depth ms ++ margin depth ++ "\x7d"
  | .null => "null"
  | .bool b => if b then "true" else "false"
  | .number n => n.text
  | .string s => stringText s

def indentedItems (depth : Nat) : List Document → String
  | [] => ""
  | x :: xs => "," ++ margin (depth + 1) ++ indented (depth + 1) x ++ indentedItems depth xs

def indentedMembers (depth : Nat) : List (String × Document) → String
  | [] => ""
  | (k, v) :: ms =>
    "," ++ margin (depth + 1) ++ stringText k ++ ": " ++ indented (depth + 1) v ++
      indentedMembers depth ms
end

mutual
/-- The text in which each value carries the name of its kind. -/
def annotated : Document → String
  | .null => "Null"
  | .bool b => if b then "Bool(true)" else "Bool(false)"
  | .number n => "Number(" ++ n.text ++ ")"
  | .string s => "String(" ++ quoted s ++ ")"
  | .array [] => "Array []"
  | .array (x :: xs) => "Array [" ++ annotated x ++ annotatedItems xs ++ "]"
  | .object ms => "Object " ++ annotatedMembers ms

def annotatedItems : List Document → String
  | [] => ""
  | x :: xs => ", " ++ annotated x ++ annotatedItems xs

def annotatedMembers : List (String × Document) → String
  | [] => "\x7b\x7d"
  | (k, v) :: ms => "\x7b" ++ quoted k ++ ": " ++ annotated v ++ annotatedMembersAfter ms ++ "\x7d"

def annotatedMembersAfter : List (String × Document) → String
  | [] => ""
  | (k, v) :: ms => ", " ++ quoted k ++ ": " ++ annotated v ++ annotatedMembersAfter ms
end

end ComponentForm.Document
