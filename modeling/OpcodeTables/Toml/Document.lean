import OpcodeTables.Toml.Number
import OpcodeTables.Toml.Table
import OpcodeTables.Toml.Text

/-!
# Documents of TOML

A document is a list of statements, one a line: a key with its value, the
header of a table, or the header of an item of an array of tables.  Statements
apply in order, each key to the table of the header before it.
-/

namespace OpcodeTables.Toml

/-- Characters of a key without quotes. -/
def isBareKey (c : Char) : Bool :=
  c.isAlphanum || c == '_' || c == '-'

/-- One part of a key. -/
def readKeyPart (text : List Char) : Option (String × List Char) :=
  match text with
  | '"' :: rest => (readBasic rest).map fun (name, left) => (String.ofList name, left)
  | '\'' :: rest => (readLiteral rest).map fun (name, left) => (String.ofList name, left)
  | _ =>
      let name := text.takeWhile isBareKey
      if name.isEmpty then none else some (String.ofList name, text.dropWhile isBareKey)

/-- A key of at most `limit` parts, with dots between them. -/
def readKey : (limit : Nat) → List Char → Option (Key × List Char)
  | 0, _ => none
  | limit + 1, text => do
      let (name, left) ← readKeyPart (skipGap text)
      match skipGap left with
      | '.' :: rest =>
          let (key, left) ← readKey limit rest
          some (⟨name :: key.path, key.name⟩, left)
      | left => some (⟨[], name⟩, left)

/-- The number of parts that a key may have, and the number of arrays and
tables that may be inside each other. -/
def nestingLimit : Nat := 79

/-- The items of an array, after its opening bracket. Lines may break between
them, and a comma may follow the last one. -/
def readItems (readValue : List Char → Option (Value × List Char)) (text : List Char) :
    Option (List Value × List Char) :=
  match skipLines text with
  | ']' :: rest => some ([], rest)
  | start =>
      match readValue start with
      | none => none
      | some (item, left) =>
          match skipLines left with
          | ']' :: rest => some ([item], rest)
          | ',' :: rest =>
              -- A value takes at least one character.
              if rest.length < text.length then
                (readItems readValue rest).map fun (items, left) => (item :: items, left)
              else none
          | _ => none
termination_by text.length

/-- The pairs of a table on one line, from its first key on. -/
def readPairs (readValue : List Char → Option (Value × List Char)) (text : List Char) :
    Option (List (Key × Value) × List Char) :=
  match readKey nestingLimit text with
  | some (key, '=' :: rest) =>
      match readValue (skipGap rest) with
      | none => none
      | some (value, left) =>
          match skipGap left with
          | '\x7d' :: rest => some ([(key, value)], rest)
          | ',' :: rest =>
              -- A pair takes at least one character.
              if rest.length < text.length then
                (readPairs readValue rest).map fun (pairs, left) => ((key, value) :: pairs, left)
              else none
          | _ => none
  | _ => none
termination_by text.length

/-- A value in which at most `limit` arrays and tables are inside each other. -/
def readValue : (limit : Nat) → List Char → Option (Value × List Char)
  | limit + 1, '[' :: rest =>
      (readItems (readValue limit) rest).map fun (items, left) => (.array items, left)
  | limit + 1, '\x7b' :: rest =>
      match skipGap rest with
      | '\x7d' :: rest => some (.table [], rest)
      | start => do
          let (pairs, left) ← readPairs (readValue limit) start
          let value ← Value.ofPairs? pairs
          some (value, left)
  | _, 't' :: 'r' :: 'u' :: 'e' :: rest => some (.bool true, rest)
  | _, 'f' :: 'a' :: 'l' :: 's' :: 'e' :: rest => some (.bool false, rest)
  | _, text =>
      ((readString text).map fun (content, left) => (.text content, left)) <|> readNumber text

/-- One line of a document. -/
inductive Statement where
  /-- A key of the table whose header came last. -/
  | pair (key : Key) (value : Value)
  /-- The header of a table. -/
  | header (key : Key)
  /-- The header of an item of an array of tables. -/
  | itemHeader (key : Key)
  deriving Repr

/-- A statement, up to the end of its line. -/
def readStatement (text : List Char) : Option (Statement × List Char) :=
  match text with
  | '[' :: '[' :: rest =>
      match readKey nestingLimit rest with
      | some (key, ']' :: ']' :: left) => some (.itemHeader key, left)
      | _ => none
  | '[' :: rest =>
      match readKey nestingLimit rest with
      | some (key, ']' :: left) => some (.header key, left)
      | _ => none
  | _ =>
      match readKey nestingLimit text with
      | some (key, '=' :: rest) =>
          (readValue nestingLimit (skipGap rest)).map fun (value, left) =>
            (.pair key value, left)
      | _ => none

/-- The statements of a document. -/
def readStatements (text : List Char) : Option (List Statement) :=
  match skipLines text with
  | [] => some []
  | start =>
      match readStatement start with
      | none => none
      | some (statement, left) =>
          match lineEnd? left with
          | none => none
          | some rest =>
              -- A statement takes at least one character.
              if rest.length < text.length then
                (readStatements rest).map (statement :: ·)
              else none
termination_by text.length

/-- A document some of whose statements were applied. -/
structure Draft where
  entries : Entries
  /-- The table that pairs go to. -/
  current : List String

namespace Draft

/-- Nothing but the document's own table. -/
def empty : Draft := ⟨[], []⟩

/-- Applies one statement. -/
def apply (draft : Draft) : Statement → Option Draft
  | .pair key value => do
      let entries ← draft.entries.edit false (Entries.assign key.path key.name value)
        draft.current .defined
      some { draft with entries }
  | .header key => do
      let entries ← draft.entries.define key.path key.name
      some ⟨entries, key.path ++ [key.name]⟩
  | .itemHeader key => do
      let entries ← draft.entries.append key.path key.name
      some ⟨entries, key.path ++ [key.name]⟩

end Draft

/-- The fields of a document. A byte order mark at its start is skipped. -/
def parse? (text : String) : Option (List (String × Value)) := do
  let chars :=
    match text.toList with
    | '\ufeff' :: rest => rest
    | chars => chars
  let statements ← readStatements chars
  let draft ← statements.foldlM Draft.apply .empty
  some (toFields draft.entries)

end OpcodeTables.Toml
