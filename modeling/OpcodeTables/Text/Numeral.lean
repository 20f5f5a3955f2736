/-!
# Numerals

Reading bounded whole numbers in a base up to 36, with the reason when a text
is not one, and writing 32 bit words with eight hexadecimal digits.

A numeral is an optional sign and at least one digit.  Digits are taken from
the left, and the first thing wrong decides the reason: a character that is
no digit, or a digit that carries the number past its bound.
-/

namespace OpcodeTables.Text

/-- Why a text is not a number of the wanted kind. -/
inductive NumeralFault where
  | empty
  | invalidDigit
  | tooLarge
  | tooSmall
  deriving DecidableEq, Repr

namespace NumeralFault

/-- The reason in words. -/
def message : NumeralFault → String
  | .empty => "cannot parse integer from empty string"
  | .invalidDigit => "invalid digit found in string"
  | .tooLarge => "number too large to fit in target type"
  | .tooSmall => "number too small to fit in target type"

end NumeralFault

/-- The value of a digit or letter, letters of either case counting from ten,
when it is below the base. -/
def digitValue? (base : Nat) (c : Char) : Option Nat :=
  let n := c.toNat
  let value? :=
    if '0'.toNat ≤ n ∧ n ≤ '9'.toNat then some (n - '0'.toNat)
    else if 'a'.toNat ≤ n ∧ n ≤ 'z'.toNat then some (n - 'a'.toNat + 10)
    else if 'A'.toNat ≤ n ∧ n ≤ 'Z'.toNat then some (n - 'A'.toNat + 10)
    else none
  value?.filter (· < base)

/-- Takes digits onto `value` while the number stays below `bound`. -/
def readDigits (base bound : Nat) : (value : Nat) → List Char → Except NumeralFault Nat
  | value, [] => .ok value
  | value, c :: rest =>
      match digitValue? base c with
      | none => .error .invalidDigit
      | some digit =>
          if value * base + digit < bound then
            readDigits base bound (value * base + digit) rest
          else
            .error .tooLarge

/-- Reads a number below `bound`: an optional `+` and at least one digit. A
sign that stands alone is refused as a character that is no digit. -/
def readNatural (base bound : Nat) : List Char → Except NumeralFault Nat
  | [] => .error .empty
  | ['+'] => .error .invalidDigit
  | '+' :: digits => readDigits base bound 0 digits
  | digits => readDigits base bound 0 digits

/-- Reads a number of at least `-bound` and below `bound`: an optional sign
and at least one decimal digit. -/
def readInteger (bound : Nat) : List Char → Except NumeralFault Int
  | ['-'] => .error .invalidDigit
  | '-' :: digits =>
      match readDigits 10 (bound + 1) 0 digits with
      | .ok value => .ok (-value)
      | .error .tooLarge => .error .tooSmall
      | .error fault => .error fault
  | text => (readNatural 10 bound text).map Int.ofNat

/-- Reads a 32 bit word in a base. -/
def readWord (base : Nat) (text : List Char) : Except NumeralFault UInt32 :=
  (readNatural base UInt32.size text).map UInt32.ofNat

/-- The least whole number that a signed number of 64 bits cannot hold. -/
def signedBound : Nat := 0x8000000000000000

/-- Reads a 64 bit signed number in base ten. -/
def readSigned (text : List Char) : Except NumeralFault Int :=
  readInteger signedBound text

/-- The hexadecimal digit of a number below sixteen, in lower case. -/
def hexDigit (value : Nat) : Char :=
  if value < 10 then Char.ofNat ('0'.toNat + value)
  else Char.ofNat ('a'.toNat + (value - 10))

/-- Exactly eight hexadecimal digits, the most significant first. -/
def hexDigits (word : UInt32) : List Char :=
  [7, 6, 5, 4, 3, 2, 1, 0].map fun place => hexDigit (word.toNat >>> (4 * place) % 16)

/-- A word as `0x` and eight hexadecimal digits. -/
def hexWord (word : UInt32) : String :=
  String.ofList ('0' :: 'x' :: hexDigits word)

@[simp] theorem length_hexDigits (word : UInt32) : (hexDigits word).length = 8 := rfl

end OpcodeTables.Text
