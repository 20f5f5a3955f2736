import OpcodeTables.Code.Token
import OpcodeTables.Fault

/-!
# Names in emitted code

Handlers, fields, functions and types appear in emitted code under names of
their own choice.  A name is a free identifier; one that is also a keyword is
written behind `r#`, which makes it a name.
-/

namespace OpcodeTables.Code

/-- Keywords that become names behind `r#`. -/
def keywords : List String :=
  ["abstract", "as", "async", "await", "become", "box", "break", "const", "continue", "do",
    "dyn", "else", "enum", "extern", "false", "final", "fn", "for", "gen", "if", "impl", "in",
    "let", "loop", "macro", "match", "mod", "move", "mut", "override", "priv", "pub", "ref",
    "return", "static", "struct", "trait", "true", "try", "type", "typeof", "unsafe", "unsized",
    "use", "virtual", "where", "while", "yield"]

/-- A name that can be written in emitted code. -/
structure Name where
  text : String
  valid : isFreeName text = true
  deriving DecidableEq, Repr

namespace Name

/-- The name of a text. -/
def ofString? (text : String) : Option Name :=
  if valid : isFreeName text then some ⟨text, valid⟩ else none

/-- The name of a text that an option or a table decides. -/
def check (part : RenderPart) (text : String) : Except Fault Name :=
  match ofString? text with
  | some name => .ok name
  | none => .error (.invalidPart part text)

/-- A name as it is written. -/
def written (name : Name) : String :=
  if name.text ∈ keywords then "r#" ++ name.text else name.text

/-- The token of a name. -/
def token (name : Name) : Token :=
  .word name.written

@[simp] theorem ofString?_text (name : Name) : ofString? name.text = some name := by
  simp [ofString?, name.valid]

theorem check_eq_ok {part : RenderPart} {text : String} {name : Name} :
    check part text = .ok name ↔ name.text = text := by
  constructor
  · intro checked
    unfold check ofString? at checked
    split at checked
    · next found =>
        split at found
        · cases found; cases checked; rfl
        · contradiction
    · contradiction
  · rintro rfl
    simp [check]

end Name

end OpcodeTables.Code
