/-! The outline of a value: a tree of tagged groups, written on one line or one item a line. A block
of lines can be brought back to one line. -/

namespace ClassAssembly

/-- How the items of a group are enclosed. -/
inductive Bracket
  | braces
  | parens
  | squares
  deriving DecidableEq

namespace Bracket

/-- What follows the tag of a group that has items. -/
def opening : Bracket → List Char
  | .braces => [' ', '{']
  | .parens => ['(']
  | .squares => ['[']

def closing : Bracket → Char
  | .braces => '}'
  | .parens => ')'
  | .squares => ']'

/-- What stands between a bracket and the items on one line: braces stand free. -/
def gap : Bracket → List Char
  | .braces => [' ']
  | .parens | .squares => []

end Bracket

inductive Outline
  | atom (text : List Char)
  | labelled (label : String) (value : Outline)
  | group (tag : String) (bracket : Bracket) (items : List Outline)

namespace Outline

def word (s : String) : Outline := .atom s.toList

def list (items : List Outline) : Outline := .group "" .squares items

/-- A tag applied to values. -/
def tuple (tag : String) (items : List Outline) : Outline := .group tag .parens items

/-- A tag with labelled values. -/
def record (tag : String) (fields : List (String × Outline)) : Outline :=
  .group tag .braces (fields.map fun f => .labelled f.1 f.2)

/-- An absent value is a word, a present one is wrapped. -/
def option {α : Type} (f : α → Outline) : Option α → Outline
  | none => word "None"
  | some a => tuple "Some" [f a]

def truth (b : Bool) : Outline := word (if b then "true" else "false")

/-- The step by which nested lines are set in. -/
def margin : List Char := [' ', ' ', ' ', ' ']

/-- Sets in every line that holds a character, its end included; `fresh` says whether one starts. -/
def indent (fresh : Bool) : List Char → List Char
  | [] => []
  | c :: r => (if fresh then margin else []) ++ c :: indent (c == '\n') r

mutual

/-- The whole tree on one line. -/
def line : Outline → List Char
  | .atom t => t
  | .labelled l v => l.toList ++ ':' :: ' ' :: v.line
  | .group tag b [] => tag.toList ++ b.opening ++ [b.closing]
  | .group tag b (x :: xs) =>
    tag.toList ++ b.opening ++ b.gap ++ x.line ++ linesAfter xs ++ b.gap ++ [b.closing]

def linesAfter : List Outline → List Char
  | [] => []
  | x :: xs => ',' :: ' ' :: x.line ++ linesAfter xs

end

mutual

/-- One item a line, set in under its group, with a comma behind each. -/
def block : Outline → List Char
  | .atom t => t
  | .labelled l v => l.toList ++ ':' :: ' ' :: v.block
  | .group tag b [] => tag.toList ++ b.opening ++ [b.closing]
  | .group tag b (x :: xs) =>
    tag.toList ++ b.opening ++ '\n' :: indent true (x.block ++ ',' :: '\n' :: blocksAfter xs)
      ++ [b.closing]

def blocksAfter : List Outline → List Char
  | [] => []
  | x :: xs => x.block ++ ',' :: '\n' :: blocksAfter xs

end

/-- The lines of a text without the spaces that they start with. -/
def flushLines (t : List Char) : List (List Char) :=
  (t.splitOn '\n').map fun l => l.dropWhile (· == ' ')

/-- A line as it stands before the next one on the same line. It must end in an opening bracket or
in a comma, and the comma goes if a bracket closes next. -/
def joint? (l next : List Char) : Option (List Char) :=
  match l.getLast? with
  | some '{' => some (l ++ [' '])
  | some '(' | some '[' => some l
  | some ',' =>
    match next.head? with
    | some '}' => some (l.dropLast ++ [' '])
    | some ')' | some ']' => some l.dropLast
    | _ => some (l ++ [' '])
  | _ => none

def joinLines? : List (List Char) → Option (List Char)
  | [] => some []
  | [l] => some l
  | l :: next :: ls => do return (← joint? l next) ++ (← joinLines? (next :: ls))

/-- The text on one line, if its lines can be joined. -/
def flatten? (t : List Char) : Option (List Char) := joinLines? (flushLines t)

end Outline

end ClassAssembly
