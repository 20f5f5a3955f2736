/-!
# Tokens

The tokens of emitted code, and how they are written out.  Two tokens have a
space between them, save where that would change or spread out what they say:
inside the edges of round and square brackets, and after a punctuation
character that belongs together with the next one.
-/

namespace OpcodeTables.Code

/-- Kinds of brackets. -/
inductive Bracket where
  | round
  | square
  | curly
  deriving DecidableEq, Repr

namespace Bracket

/-- The bracket that opens. -/
def opening : Bracket → String
  | .round => "("
  | .square => "["
  | .curly => "\x7b"

/-- The bracket that closes. -/
def closing : Bracket → String
  | .round => ")"
  | .square => "]"
  | .curly => "\x7d"

end Bracket

/-- One token. -/
inductive Token where
  /-- A keyword or a name. -/
  | word (text : String)
  /-- A number, character or string as it is written. -/
  | literal (text : String)
  /-- A punctuation character; a joint one goes together with what follows. -/
  | punct (character : Char) (joint : Bool)
  | opening (bracket : Bracket)
  | closing (bracket : Bracket)
  deriving DecidableEq, Repr

namespace Token

/-- A token on its own. -/
def text : Token → String
  | .word text => text
  | .literal text => text
  | .punct character _ => character.toString
  | .opening bracket => bracket.opening
  | .closing bracket => bracket.closing

/-- Whether a space separates two tokens that follow each other. -/
def spaced : Token → Token → Bool
  | .opening .curly, _ => true
  | _, .closing .curly => true
  | .punct _ true, _ => false
  | .opening _, _ => false
  | _, .closing _ => false
  | _, _ => true

/-- Tokens on one line. -/
def print : List Token → String
  | [] => ""
  | [token] => token.text
  | token :: next :: rest =>
      token.text ++ (if spaced token next then " " else "") ++ print (next :: rest)

/-- A punctuation character that stands alone. -/
def mark (character : Char) : Token :=
  .punct character false

/-- An operator: its characters go together. -/
def operator : List Char → List Token
  | [] => []
  | [last] => [mark last]
  | character :: rest => .punct character true :: operator rest

/-- Tokens between brackets. -/
def enclose (bracket : Bracket) (inside : List Token) : List Token :=
  .opening bracket :: inside ++ [.closing bracket]

/-- Whether every bracket is closed by one of its kind; `unclosed` are those
still open, the innermost first. -/
def balanced : (unclosed : List Bracket) → List Token → Bool
  | unclosed, [] => unclosed.isEmpty
  | unclosed, .opening bracket :: rest => balanced (bracket :: unclosed) rest
  | [], .closing _ :: _ => false
  | inner :: outer, .closing bracket :: rest => inner == bracket && balanced outer rest
  | unclosed, _ :: rest => balanced unclosed rest

end Token

end OpcodeTables.Code
