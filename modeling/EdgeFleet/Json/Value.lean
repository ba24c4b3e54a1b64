import EdgeFleet.Text.Decimal
import EdgeFleet.Text.Hex
/-!
# JSON documents to be written

A document holds whole numbers only. It has two written forms: `Value.compact` without blanks,
and `Value.pretty` with one member or item a line, indented by two spaces a level. In texts, the
quote, the backslash and the control characters are escaped and everything else stands for itself.
-/

namespace EdgeFleet.Json

inductive Value where
  | null
  | bool (b : Bool)
  | int (n : Int)
  | str (s : String)
  | arr (items : List Value)
  | obj (members : List (String × Value))
deriving Inhabited, Repr

namespace Value

/-- A document, or `null` where there is none. -/
def ofOption (v : Option Value) : Value := v.getD .null

end Value

/-- A character inside a text. -/
def escape (c : Char) : List Char :=
  if c = '"' then ['\\', '"']
  else if c = '\\' then ['\\', '\\']
  else if c = '\n' then ['\\', 'n']
  else if c = '\r' then ['\\', 'r']
  else if c = '\t' then ['\\', 't']
  else if c.toNat = 8 then ['\\', 'b']
  else if c.toNat = 12 then ['\\', 'f']
  else if c.toNat < 32 then ['\\', 'u', '0', '0', Hex.digit (c.toNat / 16), Hex.digit (c.toNat % 16)]
  else [c]

/-- A text between its quotes. -/
def quote (s : String) : List Char := '"' :: s.toList.flatMap escape ++ ['"']

namespace Value

mutual

/-- The written form without blanks. -/
def compact : Value → List Char
  | .null => ['n', 'u', 'l', 'l']
  | .bool true => ['t', 'r', 'u', 'e']
  | .bool false => ['f', 'a', 'l', 's', 'e']
  | .int n => Decimal.write n
  | .str s => quote s
  | .arr items => '[' :: compactItems items
  | .obj members => '{' :: compactMembers members

/-- Items up to the closing bracket. -/
def compactItems : List Value → List Char
  | [] => [']']
  | v :: r => compact v ++ match r with
    | [] => [']']
    | _ :: _ => ',' :: compactItems r

/-- Members up to the closing brace. -/
def compactMembers : List (String × Value) → List Char
  | [] => ['}']
  | (k, v) :: r => quote k ++ ':' :: compact v ++ match r with
    | [] => ['}']
    | _ :: _ => ',' :: compactMembers r

end

/-- A line break and the indentation of a level. -/
def lineBreak (level : Nat) : List Char := '\n' :: List.replicate (2 * level) ' '

mutual

/-- The written form with one member or item a line, from a level of indentation on. -/
def prettyAt (level : Nat) : Value → List Char
  | .arr [] => ['[', ']']
  | .arr (v :: r) => '[' :: prettyItems level (v :: r)
  | .obj [] => ['{', '}']
  | .obj (m :: r) => '{' :: prettyMembers level (m :: r)
  | .null => ['n', 'u', 'l', 'l']
  | .bool true => ['t', 'r', 'u', 'e']
  | .bool false => ['f', 'a', 'l', 's', 'e']
  | .int n => Decimal.write n
  | .str s => quote s

/-- Items, each on its line, up to the closing bracket on a line of its own. -/
def prettyItems (level : Nat) : List Value → List Char
  | [] => [']']
  | v :: r => lineBreak (level + 1) ++ prettyAt (level + 1) v ++ match r with
    | [] => lineBreak level ++ [']']
    | _ :: _ => ',' :: prettyItems level r

/-- Members, each on its line, up to the closing brace on a line of its own. -/
def prettyMembers (level : Nat) : List (String × Value) → List Char
  | [] => ['}']
  | (k, v) :: r =>
    lineBreak (level + 1) ++ quote k ++ ':' :: ' ' :: prettyAt (level + 1) v ++ match r with
      | [] => lineBreak level ++ ['}']
      | _ :: _ => ',' :: prettyMembers level r

end

/-- The indented form. -/
def pretty (v : Value) : String := String.ofList (prettyAt 0 v)

def text (v : Value) : String := String.ofList (compact v)

end Value

end EdgeFleet.Json
