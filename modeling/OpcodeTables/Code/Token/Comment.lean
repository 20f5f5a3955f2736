import OpcodeTables.Code.Token
import OpcodeTables.Text.Blank
import OpcodeTables.Text.Quoted

/-!
# White space and comments

What may stand between two tokens.  A comment is white space, unless it is a
documentation comment, which stands for an attribute with the comment's text.
-/

namespace OpcodeTables.Code

/-- White space of source code: that of any text and the two invisible marks
that set the direction of writing. -/
def isSpace (c : Char) : Bool :=
  Text.isBlank c || c == '\u200e' || c == '\u200f'

/-- The rest of a line, and what is left from its line feed on. -/
def splitLine : List Char → List Char × List Char
  | [] => ([], [])
  | '\n' :: rest => ([], '\n' :: rest)
  | '\r' :: '\n' :: rest => ([], '\n' :: rest)
  | c :: rest => ((c :: (splitLine rest).1), (splitLine rest).2)

/-- The inside of a block comment, and what is left after it. Block comments
nest; `depth` is the number of those that are open inside the first one. -/
def splitBlock? : (depth : Nat) → List Char → Option (List Char × List Char)
  | depth, '/' :: '*' :: rest =>
      (splitBlock? (depth + 1) rest).map fun (inside, after) => ('/' :: '*' :: inside, after)
  | 0, '*' :: '/' :: rest => some ([], rest)
  | depth + 1, '*' :: '/' :: rest =>
      (splitBlock? depth rest).map fun (inside, after) => ('*' :: '/' :: inside, after)
  | depth, c :: rest =>
      (splitBlock? depth rest).map fun (inside, after) => (c :: inside, after)
  | _, [] => none

theorem length_splitLine_le (text : List Char) : (splitLine text).2.length ≤ text.length := by
  fun_induction splitLine text with
  | case1 | case2 => simp
  | case3 rest =>
      simp only [List.length_cons]
      omega
  | case4 c rest _ _ ih =>
      simp only [List.length_cons]
      omega

theorem length_of_splitBlock? {depth : Nat} {text inside after : List Char}
    (split : splitBlock? depth text = some (inside, after)) : after.length ≤ text.length := by
  fun_induction splitBlock? depth text generalizing inside
  case case2 rest =>
    simp only [Option.some.injEq, Prod.mk.injEq] at split
    simp only [split.2, List.length_cons]
    omega
  case case5 => simp at split
  all_goals
    obtain ⟨⟨inner, left⟩, found, same⟩ := Option.map_eq_some_iff.mp split
    cases same
    grind

/-- Drops white space and comments that document nothing. A block comment that
is never closed stays. -/
def skipSpace (text : List Char) : List Char :=
  match text with
  | '/' :: '/' :: rest =>
      if (rest.head? = some '/' ∧ rest[1]? ≠ some '/') ∨ rest.head? = some '!' then text
      else skipSpace (splitLine rest).2
  | '/' :: '*' :: '*' :: '/' :: rest => skipSpace rest
  | '/' :: '*' :: rest =>
      if (rest.head? = some '*' ∧ rest[1]? ≠ some '*') ∨ rest.head? = some '!' then text
      else
        match _split : splitBlock? 0 rest with
        | some (_, after) => skipSpace after
        | none => text
  | c :: rest => if isSpace c then skipSpace rest else text
  | [] => []
termination_by text.length
decreasing_by
  · have := length_splitLine_le rest
    simp only [List.length_cons]
    omega
  · simp only [List.length_cons]
    omega
  · have := length_of_splitBlock? _split
    simp only [List.length_cons]
    omega
  · simp

/-- A documentation comment: whether it documents what encloses it, its text,
and what is left after it. -/
def docComment? : List Char → Option (Bool × List Char × List Char)
  | '/' :: '/' :: '!' :: rest => some (true, splitLine rest)
  | '/' :: '/' :: '/' :: rest =>
      if rest.head? = some '/' then none else some (false, splitLine rest)
  | '/' :: '*' :: '!' :: rest => (splitBlock? 0 rest).map (true, ·)
  | '/' :: '*' :: '*' :: rest =>
      if rest.head? = some '*' then none else (splitBlock? 0 rest).map (false, ·)
  | _ => none

/-- Whether every carriage return stands before a line feed. -/
def wholeLines : List Char → Bool
  | [] => true
  | '\r' :: '\n' :: rest => wholeLines rest
  | '\r' :: _ => false
  | _ :: rest => wholeLines rest

/-- The inside of a string literal for a text. Single quotes need no escape
there, and NUL is written so that no digit after it can be read as part of its
number. -/
def literalChars : List Char → List Char
  | [] => []
  | '\x00' :: c :: rest =>
      (if '0' ≤ c ∧ c ≤ '7' then ['\\', 'x', '0', '0'] else ['\\', '0']) ++
        literalChars (c :: rest)
  | c :: rest => Text.escapeChar c ++ literalChars rest

/-- The string literal for a text. -/
def stringLiteral (text : List Char) : Token :=
  .literal (String.ofList (['"'] ++ literalChars text ++ ['"']))

/-- The attribute that a documentation comment stands for. -/
def docAttribute (encloses : Bool) (text : List Char) : List Token :=
  [Token.mark '#'] ++ (if encloses then [Token.mark '!'] else []) ++
    Token.enclose .square [.word "doc", Token.mark '=', stringLiteral text]

end OpcodeTables.Code
