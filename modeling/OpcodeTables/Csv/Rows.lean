import OpcodeTables.Fault

/-!
# Rows of comma-separated values

The bytes of a file as rows of cells.  A row ends at a line feed or a carriage
return; empty lines are no rows.  A cell that begins with a quote runs to the
next quote that stands alone, two quotes being one; what follows the closing
quote belongs to the cell as it is.  The end of the file ends the last row.

A row carries the number of the line at which reading it starts.  Lines are
counted at line feeds, and reading a row starts right after the one byte that
ended the row before, so empty lines before a row belong to it.
-/

namespace OpcodeTables.Csv

/-- A row as bytes. -/
structure RawRow where
  line : Nat
  cells : List (List UInt8)
  deriving DecidableEq, Repr

/-- A row as texts. -/
structure Row where
  line : Nat
  cells : List String
  deriving DecidableEq, Repr

/-- Where in a row the reader is. -/
inductive Place where
  | betweenRows
  | cellStart
  | bare
  | quoted
  | afterQuote
  deriving DecidableEq, Repr

/-- The state of the reader. The open cell and the closed cells of the row are
kept last first. -/
structure Reader where
  place : Place
  /-- Lines begun so far. -/
  line : Nat
  /-- Line at which reading the row started. -/
  start : Nat
  cell : List UInt8
  cells : List (List UInt8)
  deriving Repr

namespace Reader

/-- Before the first row. -/
def initial : Reader := ⟨.betweenRows, 1, 1, [], []⟩

/-- Whether a byte ends a row. -/
def endsRow (byte : UInt8) : Bool :=
  byte == 0x0A || byte == 0x0D

/-- Adds a byte to the open cell. -/
def push (reader : Reader) (place : Place) (byte : UInt8) : Reader :=
  { reader with place, cell := byte :: reader.cell }

/-- Closes the open cell. -/
def closeCell (reader : Reader) : Reader :=
  { reader with place := .cellStart, cell := [], cells := reader.cell.reverse :: reader.cells }

/-- The row that ends here. -/
def row (reader : Reader) : RawRow :=
  ⟨reader.start, (reader.cell.reverse :: reader.cells).reverse⟩

/-- Takes a byte of a cell that is not quoted. -/
def takeBare (reader : Reader) (byte : UInt8) : Reader × Option RawRow :=
  if byte = 0x2C then (reader.closeCell, none)
  else if endsRow byte then (⟨.betweenRows, reader.line, reader.line, [], []⟩, some reader.row)
  else (reader.push .bare byte, none)

/-- Takes the first byte of a cell. -/
def takeFirst (reader : Reader) (byte : UInt8) : Reader × Option RawRow :=
  if byte = 0x22 then ({ reader with place := .quoted }, none)
  else reader.takeBare byte

/-- Takes a byte, the line count being up to date. -/
def take (reader : Reader) (byte : UInt8) : Reader × Option RawRow :=
  match reader.place with
  | .betweenRows => if endsRow byte then (reader, none) else reader.takeFirst byte
  | .cellStart => reader.takeFirst byte
  | .bare => reader.takeBare byte
  | .quoted =>
      if byte = 0x22 then ({ reader with place := .afterQuote }, none)
      else (reader.push .quoted byte, none)
  | .afterQuote =>
      if byte = 0x22 then (reader.push .quoted byte, none)
      else reader.takeBare byte

/-- Counts a line feed. -/
def count (reader : Reader) (byte : UInt8) : Reader :=
  if byte = 0x0A then { reader with line := reader.line + 1 } else reader

/-- The rows that the rest of the input ends. -/
def rows : Reader → List UInt8 → List RawRow
  | reader, [] =>
      match reader.place with
      | .betweenRows => []
      | _ => [reader.row]
  | reader, byte :: rest =>
      match (reader.count byte).take byte with
      | (reader, none) => rows reader rest
      | (reader, some row) => row :: rows reader rest

end Reader

/-- Drops a byte order mark at the start of a file. -/
def dropMark : List UInt8 → List UInt8
  | 0xEF :: 0xBB :: 0xBF :: rest => rest
  | bytes => bytes

/-- A cell as text. -/
def cellText? (cell : List UInt8) : Option String :=
  String.fromUTF8? ⟨cell.toArray⟩

/-- A row as texts, unless one of its cells is not UTF-8. -/
def RawRow.decode (row : RawRow) : Except RowFault Row :=
  match row.cells.mapM cellText? with
  | some cells => .ok ⟨row.line, cells⟩
  | none => .error .notUtf8

/-- The rows of a file, each of which may be unreadable. -/
def rows (bytes : List UInt8) : List (Except RowFault Row) :=
  (Reader.initial.rows (dropMark bytes)).map RawRow.decode

end OpcodeTables.Csv
