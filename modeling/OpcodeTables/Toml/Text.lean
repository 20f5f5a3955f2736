import OpcodeTables.Text.CodePoint
import OpcodeTables.Text.Numeral

/-!
# Texts of TOML

White space, comments and the four kinds of strings.  Every reader takes what
is left of a text and gives what it read with what is left after it, or nothing
where the text breaks the rules.

Basic strings stand between double quotes and know escapes, literal strings
stand between single quotes and know none.  Either becomes a string of several
lines when its quotes are tripled.
-/

namespace OpcodeTables.Toml

/-- White space inside a line. -/
def isGap (c : Char) : Bool :=
  c == ' ' || c == '\t'

/-- Whether a character may stand in a comment or in a string of one line:
anything but control characters, of which the tab alone is allowed. -/
def isInline (c : Char) : Bool :=
  c == '\t' || (0x20 ≤ c.toNat && c.toNat != 0x7F)

/-- Drops white space inside a line. -/
def skipGap (text : List Char) : List Char :=
  text.dropWhile isGap

/-- Drops white space and a comment. -/
def skipComment (text : List Char) : List Char :=
  match skipGap text with
  | '#' :: rest => rest.dropWhile isInline
  | rest => rest

/-- What is left after a line break. -/
def newline? : List Char → Option (List Char)
  | '\n' :: rest => some rest
  | '\r' :: '\n' :: rest => some rest
  | _ => none

/-- What is left after the end of a line, which a comment may take up. -/
def lineEnd? (text : List Char) : Option (List Char) :=
  match skipComment text with
  | [] => some []
  | rest => newline? rest

theorem length_of_newline? {text rest : List Char} (found : newline? text = some rest) :
    rest.length < text.length := by
  unfold newline? at found
  split at found
  · cases found; simp
  · cases found; simp only [List.length_cons]; omega
  · contradiction

theorem length_dropWhile_le {α : Type} (test : α → Bool) (items : List α) :
    (items.dropWhile test).length ≤ items.length :=
  (List.dropWhile_sublist test).length_le

theorem length_skipComment_le (text : List Char) :
    (skipComment text).length ≤ text.length := by
  have gap := length_dropWhile_le isGap text
  unfold skipComment
  split
  · next rest same =>
      have := length_dropWhile_le isInline rest
      have := congrArg List.length same
      simp only [skipGap, List.length_cons] at this
      omega
  · exact gap

/-- Drops white space, comments and line breaks. -/
def skipLines (text : List Char) : List Char :=
  match _found : newline? (skipComment text) with
  | some after => skipLines after
  | none => skipComment text
termination_by text.length
decreasing_by
  have := length_of_newline? _found
  have := length_skipComment_le text
  omega

/-- Drops white space and line breaks. -/
def skipBlankLines (text : List Char) : List Char :=
  match _found : newline? (skipGap text) with
  | some after => skipBlankLines after
  | none => skipGap text
termination_by text.length
decreasing_by
  have := length_of_newline? _found
  have : (skipGap text).length ≤ text.length := length_dropWhile_le isGap text
  omega

theorem length_skipBlankLines_le (text : List Char) :
    (skipBlankLines text).length ≤ text.length := by
  fun_induction skipBlankLines text with
  | case1 text after found ih =>
      have := length_of_newline? found
      have : (skipGap text).length ≤ text.length := length_dropWhile_le isGap text
      omega
  | case2 text found => exact length_dropWhile_le isGap text

/-- A character by exactly `count` hexadecimal digits. -/
def readCode (count : Nat) (text : List Char) : Option (Char × List Char) := do
  let digits ← (text.take count).mapM (Text.digitValue? 16)
  if digits.length = count then
    let c ← Text.charOfCode? (digits.foldl (fun value digit => value * 16 + digit) 0)
    some (c, text.drop count)
  else none

/-- The character that an escape stands for, after its backslash. -/
def readEscape : List Char → Option (Char × List Char)
  | 'b' :: rest => some ('\x08', rest)
  | 't' :: rest => some ('\t', rest)
  | 'n' :: rest => some ('\n', rest)
  | 'f' :: rest => some ('\x0c', rest)
  | 'r' :: rest => some ('\r', rest)
  | '"' :: rest => some ('"', rest)
  | '\\' :: rest => some ('\\', rest)
  | 'u' :: rest => readCode 4 rest
  | 'U' :: rest => readCode 8 rest
  | _ => none

theorem length_of_readCode {count : Nat} {text rest : List Char} {c : Char}
    (read : readCode count text = some (c, rest)) : rest.length ≤ text.length := by
  simp only [readCode, Option.bind_eq_bind, Option.bind_eq_some_iff] at read
  obtain ⟨digits, _, read⟩ := read
  split at read
  · obtain ⟨_, _, read⟩ := Option.bind_eq_some_iff.mp read
    cases read
    simp
  · contradiction

theorem length_of_readEscape {text rest : List Char} {c : Char}
    (read : readEscape text = some (c, rest)) : rest.length < text.length := by
  unfold readEscape at read
  split at read
  case h_8 => exact Nat.lt_succ_of_le (length_of_readCode read)
  case h_9 => exact Nat.lt_succ_of_le (length_of_readCode read)
  case h_10 => contradiction
  all_goals
    cases read
    exact Nat.lt_succ_self _

/-- A basic string of one line, after its opening quote. -/
def readBasic : List Char → Option (List Char × List Char)
  | [] => none
  | '"' :: rest => some ([], rest)
  | '\\' :: rest =>
      match _read : readEscape rest with
      | some (c, after) => (readBasic after).map fun (inside, left) => (c :: inside, left)
      | none => none
  | c :: rest =>
      if isInline c then (readBasic rest).map fun (inside, left) => (c :: inside, left)
      else none
termination_by text => text.length
decreasing_by
  · have := length_of_readEscape _read
    simp only [List.length_cons]
    omega
  · simp

/-- A literal string of one line, after its opening quote. -/
def readLiteral : List Char → Option (List Char × List Char)
  | [] => none
  | '\'' :: rest => some ([], rest)
  | c :: rest =>
      if isInline c then (readLiteral rest).map fun (inside, left) => (c :: inside, left)
      else none

/-- The end of a string of several lines, after three quotes: up to two more
belong to the string, and the last three close it. -/
def closeTripled (quote : Char) (text : List Char) : List Char × List Char :=
  let inside := (text.take 2).takeWhile (· == quote)
  (inside, text.drop inside.length)

/-- A basic string of several lines, after its opening quotes. A backslash at
the end of a line takes away all white space up to the next character. -/
def readBasicLines : List Char → Option (List Char × List Char)
  | [] => none
  | '"' :: '"' :: '"' :: rest => some (closeTripled '"' rest)
  | '\\' :: rest =>
      match _broken : newline? (skipGap rest) with
      | some after => readBasicLines (skipBlankLines after)
      | none =>
          match _read : readEscape rest with
          | some (c, after) =>
              (readBasicLines after).map fun (inside, left) => (c :: inside, left)
          | none => none
  | '\r' :: '\n' :: rest =>
      (readBasicLines rest).map fun (inside, left) => ('\n' :: inside, left)
  | c :: rest =>
      if isInline c || c == '\n' then
        (readBasicLines rest).map fun (inside, left) => (c :: inside, left)
      else none
termination_by text => text.length
decreasing_by
  · have := length_of_newline? _broken
    have : (skipGap rest).length ≤ rest.length := length_dropWhile_le isGap rest
    have := length_skipBlankLines_le after
    simp only [List.length_cons]
    omega
  · have := length_of_readEscape _read
    simp only [List.length_cons]
    omega
  · simp only [List.length_cons]
    omega
  · simp

/-- A literal string of several lines, after its opening quotes. -/
def readLiteralLines : List Char → Option (List Char × List Char)
  | [] => none
  | '\'' :: '\'' :: '\'' :: rest => some (closeTripled '\'' rest)
  | '\r' :: '\n' :: rest =>
      (readLiteralLines rest).map fun (inside, left) => ('\n' :: inside, left)
  | c :: rest =>
      if isInline c || c == '\n' then
        (readLiteralLines rest).map fun (inside, left) => (c :: inside, left)
      else none

/-- Drops the line break that may follow the quotes of a string of several
lines. -/
def skipFirstBreak (text : List Char) : List Char :=
  (newline? text).getD text

/-- A string of any kind. -/
def readString (text : List Char) : Option (String × List Char) :=
  let read :=
    match text with
    | '"' :: '"' :: '"' :: rest => readBasicLines (skipFirstBreak rest)
    | '"' :: rest => readBasic rest
    | '\'' :: '\'' :: '\'' :: rest => readLiteralLines (skipFirstBreak rest)
    | '\'' :: rest => readLiteral rest
    | _ => none
  read.map fun (inside, left) => (String.ofList inside, left)

end OpcodeTables.Toml
