import OpcodeTables.Text.Numeral

/-!
# Instruction words as arguments

A word is given in hexadecimal after `0x` or `0X`, otherwise in decimal.
Underscores are ignored wherever they stand.
-/

namespace OpcodeTables.CommandLine

/-- Why an argument is no instruction word. -/
structure WordFault where
  /-- The argument without its underscores. -/
  text : String
  cause : Text.NumeralFault
  deriving DecidableEq, Repr

/-- The reason in words. -/
def WordFault.message (fault : WordFault) : String :=
  s!"`{fault.text}` is not a 32 bit instruction word: {fault.cause.message}"

/-- Reads a word whose underscores are gone. -/
def readPlainWord : List Char → Except Text.NumeralFault UInt32
  | '0' :: 'x' :: digits | '0' :: 'X' :: digits => Text.readWord 16 digits
  | digits => Text.readWord 10 digits

/-- Reads an instruction word. -/
def readWord (argument : String) : Except WordFault UInt32 :=
  let text := argument.toList.filter (· ≠ '_')
  (readPlainWord text).mapError fun cause => ⟨String.ofList text, cause⟩

end OpcodeTables.CommandLine
