import OpcodeTables.Text.CodePoint
import OpcodeTables.Text.Numeral
import OpcodeTables.Text.WordClass

/-!
# Literals of source code

Where a number, character or string literal at the start of a text ends.  Each
function takes the text from where it stands and gives what is left after the
literal or the part of one that it is named for, or nothing when there is none.

Strings come in three kinds: of characters, of bytes (`b"…"`), and of
characters other than NUL (`c"…"`).  Each kind has a raw form without escapes
(`r"…"`), which any number of `#` may enclose.
-/

namespace OpcodeTables.Code

/-- What a string literal may hold. -/
inductive StringKind where
  | text
  | bytes
  | withoutNul
  deriving DecidableEq, Repr

namespace StringKind

/-- Whether a character may stand for itself. -/
def allows : StringKind → Char → Bool
  | .text, _ => true
  | .bytes, c => c.toNat < 0x80
  | .withoutNul, c => c != '\x00'

/-- Whether two hexadecimal digits may follow `\x`. -/
def allowsHex : StringKind → (high low : Nat) → Bool
  | .text, high, _ => high < 8
  | .bytes, _, _ => true
  | .withoutNul, high, low => high != 0 || low != 0

/-- Whether a character may be written by its number. -/
def allowsCode : StringKind → Char → Bool
  | .text, _ => true
  | .bytes, _ => false
  | .withoutNul, c => c != '\x00'

/-- Whether a letter after a backslash stands for a character. -/
def allowsLetter (kind : StringKind) (letter : Char) : Bool :=
  ['n', 'r', 't', '\\', '\'', '"'].contains letter ||
    (letter == '0' && kind != .withoutNul)

end StringKind

/-- The number of a character between curly brackets: one to six hexadecimal
digits, after the first of which underscores are skipped. -/
def afterCode? : (count value : Nat) → List Char → Option (Char × List Char)
  | _, _, [] => none
  | count, value, c :: rest =>
      if c = '\x7d' ∧ 0 < count then (Text.charOfCode? value).map (·, rest)
      else if c = '_' ∧ 0 < count then afterCode? count value rest
      else
        match Text.digitValue? 16 c with
        | some digit => if count < 6 then afterCode? (count + 1) (value * 16 + digit) rest else none
        | none => none

/-- What follows a backslash, other than a line break. -/
def afterEscape? (kind : StringKind) : List Char → Option (List Char)
  | 'x' :: high :: low :: rest =>
      match Text.digitValue? 16 high, Text.digitValue? 16 low with
      | some high, some low => if kind.allowsHex high low then some rest else none
      | _, _ => none
  | 'u' :: '\x7b' :: rest =>
      match afterCode? 0 0 rest with
      | some (c, rest) => if kind.allowsCode c then some rest else none
      | none => none
  | letter :: rest => if kind.allowsLetter letter then some rest else none
  | [] => none

/-- White space that a backslash at the end of a line takes away. A carriage
return needs its line feed, and the string has to go on. -/
def afterLineBreak? : List Char → Option (List Char)
  | [] => none
  | '\r' :: '\n' :: rest => afterLineBreak? rest
  | '\r' :: _ => none
  | c :: rest =>
      if c = ' ' ∨ c = '\t' ∨ c = '\n' then afterLineBreak? rest else some (c :: rest)

/-- The inside and the closing quote of a string with escapes. -/
def afterQuoted? (kind : StringKind) : List Char → Option (List Char)
  | [] => none
  | '"' :: rest => some rest
  | '\r' :: '\n' :: rest => afterQuoted? kind rest
  | '\r' :: _ => none
  | '\\' :: rest =>
      let escaped :=
        match rest with
        | '\n' :: _ | '\r' :: _ => afterLineBreak? rest
        | _ => afterEscape? kind rest
      match escaped with
      -- An escape takes at least one character.
      | some after => if after.length < rest.length then afterQuoted? kind after else none
      | none => none
  | c :: rest => if kind.allows c then afterQuoted? kind rest else none
termination_by text => text.length
decreasing_by all_goals simp only [List.length_cons]; omega

/-- The inside of a raw string, its closing quote and the `#`s after it. -/
def afterRawQuoted? (kind : StringKind) (hashes : Nat) : List Char → Option (List Char)
  | [] => none
  | '"' :: rest =>
      if rest.take hashes = List.replicate hashes '#' then some (rest.drop hashes)
      else afterRawQuoted? kind hashes rest
  | '\r' :: '\n' :: rest => afterRawQuoted? kind hashes rest
  | '\r' :: _ => none
  | c :: rest => if kind.allows c then afterRawQuoted? kind hashes rest else none

/-- A raw string from its first `#` or its quote. At most 255 `#`s enclose it. -/
def afterRaw? (kind : StringKind) (text : List Char) : Option (List Char) :=
  let hashes := (text.takeWhile (· == '#')).length
  match text.drop hashes with
  | '"' :: rest => if hashes ≤ 255 then afterRawQuoted? kind hashes rest else none
  | _ => none

/-- One character or escape and the closing quote. -/
def afterCharacter? (kind : StringKind) (text : List Char) : Option (List Char) :=
  let inside :=
    match text with
    | '\\' :: rest => afterEscape? kind rest
    | c :: rest => if kind.allows c then some rest else none
    | [] => none
  match inside with
  | some ('\'' :: rest) => some rest
  | _ => none

/-- A word that may follow a literal directly. -/
def afterSuffix (text : List Char) : List Char :=
  match text with
  | c :: rest => if Text.isWordStart c then rest.dropWhile Text.isWordPart else text
  | [] => []

/-- Whether a character is a decimal digit or the underscore between two. -/
def isDigitOrGap (c : Char) : Bool :=
  c.isDigit || c == '_'

/-- The exponent of a number after its letter: a digit at least, and a sign
before the first one. -/
def afterExponent? (text : List Char) : Option (List Char) :=
  let unsigned :=
    match text.dropWhile (· == '_') with
    | '+' :: rest | '-' :: rest => rest
    | _ => text
  if (unsigned.takeWhile isDigitOrGap).any Char.isDigit then
    some (unsigned.dropWhile isDigitOrGap)
  else none

/-- A number with a point or an exponent. Two points are a range and a word
after a point is a member, so neither makes the number a fractional one; an
exponent that is none counts as a suffix. -/
def afterFraction? (text : List Char) : Option (List Char) :=
  match text with
  | first :: _ =>
      if first.isDigit then
        match text.dropWhile isDigitOrGap with
        | '.' :: rest =>
            if rest.head?.any fun c => c == '.' || Text.isWordStart c then none
            else
              match rest.dropWhile isDigitOrGap with
              | 'e' :: exponent => some ((afterExponent? exponent).getD ('e' :: exponent))
              | 'E' :: exponent => some ((afterExponent? exponent).getD ('E' :: exponent))
              | after => some after
        | 'e' :: exponent | 'E' :: exponent => afterExponent? exponent
        | _ => none
      else none
  | [] => none

/-- Digits of a whole number; `found` tells whether there was one before. A
decimal digit past the base spoils the number, a letter past it ends it. -/
def afterDigits? (base : Nat) : (found : Bool) → List Char → Option (List Char)
  | found, [] => if found then some [] else none
  | found, c :: rest =>
      if c = '_' then
        if !found && base == 10 then none else afterDigits? base found rest
      else
        match Text.digitValue? 16 c with
        | some digit =>
            if digit < base then afterDigits? base true rest
            else if c.isDigit then none
            else if found then some (c :: rest)
            else none
        | none => if found then some (c :: rest) else none

/-- A whole number in one of the four bases. -/
def afterWhole? : List Char → Option (List Char)
  | '0' :: 'x' :: rest => afterDigits? 16 false rest
  | '0' :: 'o' :: rest => afterDigits? 8 false rest
  | '0' :: 'b' :: rest => afterDigits? 2 false rest
  | text => afterDigits? 10 false text

/-- The suffix of a number, after which no word may go on. -/
def afterNumberSuffix? (text : List Char) : Option (List Char) :=
  let after := afterSuffix text
  if after.head?.any Text.isWordPart then none else some after

/-- What is left after a literal at the start of a text. -/
def afterLiteral? (text : List Char) : Option (List Char) :=
  match text with
  | '"' :: rest => (afterQuoted? .text rest).map afterSuffix
  | 'r' :: rest => (afterRaw? .text rest).map afterSuffix
  | 'b' :: '"' :: rest => (afterQuoted? .bytes rest).map afterSuffix
  | 'b' :: 'r' :: rest => (afterRaw? .bytes rest).map afterSuffix
  | 'b' :: '\'' :: rest => (afterCharacter? .bytes rest).map afterSuffix
  | 'c' :: '"' :: rest => (afterQuoted? .withoutNul rest).map afterSuffix
  | 'c' :: 'r' :: rest => (afterRaw? .withoutNul rest).map afterSuffix
  | '\'' :: rest => (afterCharacter? .text rest).map afterSuffix
  | text =>
      ((afterFraction? text).bind afterNumberSuffix?) <|>
        ((afterWhole? text).bind afterNumberSuffix?)

end OpcodeTables.Code
