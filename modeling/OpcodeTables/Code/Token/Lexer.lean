import OpcodeTables.Code.Token.Comment
import OpcodeTables.Code.Token.Literal
import OpcodeTables.Identifier

/-!
# Reading tokens

Texts of options become part of emitted code, so they are read as tokens
first.  A text is refused when a literal or comment is not closed, when a
character begins no token, or when its brackets do not match.
-/

namespace OpcodeTables.Code

/-- Characters that are tokens on their own. -/
def isPunctuation (c : Char) : Bool :=
  "~!@#$%^&*-=+|;:,<.>/?'".toList.contains c

/-- Whether a punctuation character begins a text. One that begins a comment is
none. -/
def startsPunctuation : List Char → Bool
  | '/' :: '/' :: _ => false
  | '/' :: '*' :: _ => false
  | c :: _ => isPunctuation c
  | [] => false

/-- A word and what is left after it. -/
def splitWord? : List Char → Option (List Char × List Char)
  | c :: rest =>
      if Text.isWordStart c then
        some (c :: rest.takeWhile Text.isWordPart, rest.dropWhile Text.isWordPart)
      else none
  | [] => none

/-- Words that stay keywords behind `r#`. -/
def unescapableWords : List String := "_" :: reservedNames

/-- A word, or a keyword made a name by `r#`, and what is left after it. -/
def splitName? : List Char → Option (String × List Char)
  | 'r' :: '#' :: rest =>
      match splitWord? rest with
      | some (word, after) =>
          if String.ofList word ∈ unescapableWords then none
          else some ("r#" ++ String.ofList word, after)
      | none => none
  | text => (splitWord? text).map fun (word, after) => (String.ofList word, after)

/-- Beginnings of string literals, which no word has. -/
def stringStarts : List String :=
  ["r\"", "r#\"", "r##", "b\"", "b'", "br\"", "br#", "c\"", "cr\"", "cr#"]

/-- Whether a text begins like a string literal. -/
def startsString (text : List Char) : Bool :=
  stringStarts.any fun start => start.toList.isPrefixOf text

/-- A punctuation character and what is left after it. A single quote is one
where it begins the name of a lifetime. -/
def splitPunctuation? : List Char → Option (Token × List Char)
  | '\'' :: rest =>
      match splitName? rest with
      | none => none
      | some (_, after) =>
          let escaped := ['r', '#'].isPrefixOf rest
          if after.head? = some '\'' ∨ (after.head? = some '#' ∧ !escaped) then none
          else some (.punct '\'' true, rest)
  | text =>
      if startsPunctuation text then
        match text with
        | c :: rest => some (.punct c (startsPunctuation rest), rest)
        | [] => none
      else none

/-- What stands for code that could not be printed. -/
def errorMark : List Char := "(/*ERROR*/)".toList

/-- Whether a character is a bracket, and the token that it is. -/
def bracketToken? : Char → Option Token
  | '(' => some (.opening .round)
  | '[' => some (.opening .square)
  | '\x7b' => some (.opening .curly)
  | ')' => some (.closing .round)
  | ']' => some (.closing .square)
  | '\x7d' => some (.closing .curly)
  | _ => none

/-- The tokens that a text begins with, and what is left after them. -/
def splitToken? (text : List Char) : Option (List Token × List Char) :=
  if errorMark.isPrefixOf text then
    some ([.literal (String.ofList errorMark)], text.drop errorMark.length)
  else
    match text.head?.bind bracketToken? with
    | some bracket => some ([bracket], text.tail)
    | none =>
        match afterLiteral? text with
        | some after =>
            some ([.literal (String.ofList (text.take (text.length - after.length)))], after)
        | none =>
            match splitPunctuation? text with
            | some (mark, after) => some ([mark], after)
            | none =>
                if startsString text then none
                else (splitName? text).map fun (name, after) => ([.word name], after)

/-- The tokens at the start of a text, where a documentation comment counts as
its attribute. -/
def splitTokens? (text : List Char) : Option (List Token × List Char) :=
  match docComment? text with
  | some (encloses, comment, after) =>
      if wholeLines comment then some (docAttribute encloses comment, after) else none
  | none => splitToken? text

/-- The tokens of a text, whether or not its brackets match. -/
def scan? (text : List Char) : Option (List Token) :=
  match skipSpace text with
  | [] => some []
  | start =>
      match splitTokens? start with
      -- Every token takes at least one character.
      | some (tokens, after) =>
          if after.length < text.length then (scan? after).map (tokens ++ ·) else none
      | none => none
termination_by text.length

/-- The tokens of a text. A byte order mark at its start is none. -/
def Token.ofString? (text : String) : Option (List Token) :=
  let chars :=
    match text.toList with
    | '\ufeff' :: rest => rest
    | chars => chars
  (scan? chars).filter (Token.balanced [])

end OpcodeTables.Code
