import EdgeFleet.Store.Error
/-!
# Tokens

The database reads a statement token by token: names, which may be quoted, and marks, with blanks
and comments between them. What is neither a name nor a mark is a token that it does not know.
-/

namespace EdgeFleet

/-- What a token can be taken for. -/
inductive TokenKind where
  | name
  | mark
  | unknown
deriving DecidableEq, Repr

/-- A token as it is written, what it can be taken for, and what is behind it. -/
structure Token where
  text : List Char
  kind : TokenKind
  rest : List Char
deriving DecidableEq, Repr

namespace Token

/-- The blanks between tokens. -/
def isBlank (c : Char) : Bool := c = ' ' || c = '\t' || c = '\n' || c = '\r' || c.toNat = 12

/-- Whether a character can start a name. -/
def startsName (c : Char) : Bool := c.isAlpha || c = '_' || 0x80 ≤ c.toNat

/-- Whether a character can go on with a name. -/
def inName (c : Char) : Bool := startsName c || c.isDigit || c = '$'

/-- What is behind the first occurrence of a text, if there is one. -/
def behind? (mark : List Char) : List Char → Option (List Char)
  | [] => none
  | c :: r => if mark.isPrefixOf (c :: r) then some (r.drop (mark.length - 1)) else behind? mark r

theorem length_behind? {mark s r : List Char} (h : behind? mark s = some r) : r.length < s.length := by
  fun_induction behind? mark s with
  | case1 => cases h
  | case2 c t hm => cases h; simp only [List.length_drop, List.length_cons]; omega
  | case3 c t hm ih => have := ih h; simp only [List.length_cons]; omega

/-- The mark that ends the comment at the front of a text, if there is one. -/
def commentEnd? : List Char → Option (List Char)
  | '-' :: '-' :: _ => some ['\n']
  | '/' :: '*' :: _ => some ['*', '/']
  | _ => none

/-- Skips blanks and comments; a comment without an end takes the statement with it. -/
def skip (s : List Char) : Option (List Char) :=
  match s with
  | [] => some []
  | c :: r =>
    if isBlank c then skip r
    else match commentEnd? (c :: r) with
      | none => some (c :: r)
      | some mark =>
        match _h : behind? mark (r.drop 1) with
        | none => none
        | some t => skip t
termination_by s.length
decreasing_by
  · simp only [List.length_cons]; omega
  · have := length_behind? _h
    simp only [List.length_drop, List.length_cons] at this ⊢
    omega

/-- The rest of a token between marks, with its closing mark, which stands twice where it does not
close, and what is behind it. -/
def quotedRest (mark : Char) : List Char → Option (List Char × List Char)
  | [] => none
  | c :: r =>
    if c ≠ mark then (quotedRest mark r).map (fun p => (c :: p.1, p.2))
    else match r with
      | d :: t =>
        if d = mark ∧ mark ≠ ']' then (quotedRest mark t).map (fun p => (c :: d :: p.1, p.2))
        else some ([c], r)
      | [] => some ([c], [])

/-- What stands behind the name of the column in the statement. -/
def tail : List Char := " = ? WHERE id = ?".toList

/-- The marks of more than one character. -/
def longMarks : List (List Char) :=
  ["->>", "->", "==", "<=", "<>", "<<", ">=", ">>", "!=", "||"].map String.toList

/-- The marks of one character. -/
def shortMarks : List Char :=
  ['=', ',', '.', ';', '(', ')', '+', '-', '*', '/', '%', '<', '>', '|', '&', '~']

/-- The digits of a number at the front of a text, with its fraction and its exponent. -/
def numberText (s : List Char) : List Char :=
  let whole := s.takeWhile Char.isDigit
  let point := match s.drop whole.length with
    | '.' :: r => '.' :: r.takeWhile Char.isDigit
    | _ => []
  let exponent := match s.drop (whole.length + point.length) with
    | c :: d :: r =>
      let ds := (if d = '+' ∨ d = '-' then r else d :: r).takeWhile Char.isDigit
      if (c = 'e' ∨ c = 'E') ∧ ds ≠ [] then
        c :: (if d = '+' ∨ d = '-' then [d] else []) ++ ds
      else []
    | _ => []
  whole ++ point ++ exponent

/-- A token that takes some characters off the front. -/
def taking (s : List Char) (length : Nat) (kind : TokenKind) : Token := ⟨s.take length, kind, s.drop length⟩

/-- The token at the front of a text that starts with neither blank nor comment. -/
def ofFront (s : List Char) : Token :=
  match s with
  | [] => ⟨['='], .mark, []⟩
  | c :: r =>
    if c = '"' ∨ c = '\'' ∨ c.toNat = 96 ∨ c = '[' then
      match quotedRest (if c = '[' then ']' else c) r with
      | some (t, rest) => ⟨c :: t, .name, rest⟩
      | none => ⟨s ++ tail, .unknown, []⟩
    else if startsName c then taking s (s.takeWhile inName).length .name
    else if c.isDigit ∨ (c = '.' ∧ (r.head?.map Char.isDigit).getD false) then
      let length := (numberText s).length
      let run := ((s.drop length).takeWhile inName).length
      taking s (length + run) (if run = 0 then .mark else .unknown)
    else if c = '?' then taking s (1 + (r.takeWhile Char.isDigit).length) .mark
    else if c = '$' ∨ c = '@' ∨ c = ':' ∨ c = '#' then
      let run := (r.takeWhile inName).length
      taking s (1 + run) (if run = 0 then .unknown else .mark)
    else match longMarks.find? (fun m => m.isPrefixOf s) with
      | some m => taking s m.length .mark
      | none => taking s 1 (if shortMarks.contains c then .mark else .unknown)

/-- The objection to a token. -/
def objection (t : Token) : NameFault :=
  if t.kind = .unknown then .unknownToken (String.ofList t.text) else .near (String.ofList t.text)

/-- Undoes the doubling of a mark in a quoted name. -/
def undouble (mark : Char) : List Char → List Char
  | [] => []
  | c :: r => c :: undouble mark (if c = mark ∧ mark ≠ ']' then r.tail else r)
termination_by s => s.length
decreasing_by split <;> simp only [List.length_cons, List.length_tail] <;> omega

/-- The name that a token is. -/
def name (t : Token) : String :=
  match t.text with
  | [] => ""
  | c :: r =>
    String.ofList
      (if startsName c then c :: r else undouble (if c = '[' then ']' else c) r.dropLast)

/-- The next token of a text behind blanks and comments. -/
def next (s : List Char) : Except NameFault Token :=
  match skip s with
  | some s => .ok (ofFront s)
  | none => .error .incomplete

end Token

end EdgeFleet
