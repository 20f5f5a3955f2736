import OpcodeTables.Text.Numeral
import OpcodeTables.Toml.Value

/-!
# Numbers, dates and times of TOML

Whole numbers have 64 bits and a sign; decimal ones have no needless zero in
front.  An underscore may stand between two digits.  Fractional numbers have a
point or an exponent and are within the range of binary floating point.
-/

namespace OpcodeTables.Toml

/-- Digits after the first one, with an underscore between any two of them. -/
def readMoreDigits (isDigit : Char → Bool) : List Char → Option (List Char × List Char)
  | '_' :: c :: rest =>
      if isDigit c then
        (readMoreDigits isDigit rest).map fun (digits, left) => (c :: digits, left)
      else none
  | ['_'] => none
  | c :: rest =>
      if isDigit c then
        (readMoreDigits isDigit rest).map fun (digits, left) => (c :: digits, left)
      else some ([], c :: rest)
  | [] => some ([], [])

/-- At least one digit, with an underscore between any two of them. -/
def readDigits (isDigit : Char → Bool) : List Char → Option (List Char × List Char)
  | c :: rest =>
      if isDigit c then
        (readMoreDigits isDigit rest).map fun (digits, left) => (c :: digits, left)
      else none
  | [] => none

/-- Decimal digits without a needless zero in front. -/
def readDecimal : List Char → Option (List Char × List Char)
  | '0' :: rest => some (['0'], rest)
  | text => readDigits Char.isDigit text

/-- The sign in front of a number: whether it is negative. -/
def readSign : List Char → Bool × List Char
  | '+' :: rest => (false, rest)
  | '-' :: rest => (true, rest)
  | text => (false, text)

/-- A whole number of 64 bits in a base, which has no sign. -/
def readInBase (base : Nat) (text : List Char) : Option (Value × List Char) := do
  let (digits, left) ← readDigits (fun c => (Text.digitValue? base c).isSome) text
  let value ← (Text.readNatural base Text.signedBound digits).toOption
  some (.integer value, left)

/-- A whole number. -/
def readInteger : List Char → Option (Value × List Char)
  | '0' :: 'x' :: rest => readInBase 16 rest
  | '0' :: 'o' :: rest => readInBase 8 rest
  | '0' :: 'b' :: rest => readInBase 2 rest
  | text => do
      let (negative, unsigned) := readSign text
      let (digits, left) ← readDecimal unsigned
      let value ← (Text.readSigned (if negative then '-' :: digits else digits)).toOption
      some (.integer value, left)

/-- The value of decimal digits. -/
def decimalValue (digits : List Char) : Nat :=
  digits.foldl (fun value c => value * 10 + (c.toNat - '0'.toNat)) 0

/-- Whether `mantissa` times ten to the `exponent` is so large that binary
floating point of 64 bits rounds it to infinity: from half a step above the
largest finite number on. -/
def roundsToInfinity (mantissa : Nat) (exponent : Int) : Bool :=
  let bound := 1 <<< 1024 - 1 <<< 970
  let magnitude : Int := (Nat.toDigits 10 mantissa).length + exponent
  if mantissa = 0 then false
  else if magnitude < 300 then false
  else if 320 < magnitude then true
  else if 0 ≤ exponent then bound ≤ mantissa * Nat.pow 10 exponent.toNat
  else bound * Nat.pow 10 (-exponent).toNat ≤ mantissa

/-- The exponent of a number, with its letter, where there is one. -/
def readExponent : List Char → Option (Option Int × List Char)
  | 'e' :: rest | 'E' :: rest => do
      let (negative, unsigned) := readSign rest
      let (digits, left) ← readDigits Char.isDigit unsigned
      let size : Int := decimalValue digits
      some (some (if negative then -size else size), left)
  | text => some (none, text)

/-- The digits after the point of a number, with the point, where there are
any. -/
def readPlaces : List Char → Option (Option (List Char) × List Char)
  | '.' :: rest => do
      let (digits, left) ← readDigits Char.isDigit rest
      some (some digits, left)
  | text => some (none, text)

/-- A number with a point or an exponent, infinity, or the number that is
none. -/
def readFractional (text : List Char) : Option (Value × List Char) :=
  let (negative, unsigned) := readSign text
  match unsigned with
  | 'i' :: 'n' :: 'f' :: rest | 'n' :: 'a' :: 'n' :: rest => some (.other, rest)
  | _ => do
      let (whole, left) ← readDecimal unsigned
      let (places, left) ← readPlaces left
      let (exponent, left) ← readExponent left
      if places.isNone && exponent.isNone then none
      else
        let digits := places.getD []
        let power := exponent.getD 0 - digits.length
        if !negative && roundsToInfinity (decimalValue (whole ++ digits)) power then none
        else some (.other, left)

/-- Two digits whose value is from `low` to `high`. -/
def readTwo (low high : Nat) : List Char → Option (Nat × List Char)
  | tens :: ones :: rest =>
      let value := decimalValue [tens, ones]
      if tens.isDigit ∧ ones.isDigit ∧ low ≤ value ∧ value ≤ high then some (value, rest)
      else none
  | _ => none

/-- One given character. -/
def skipChar (expected : Char) : List Char → Option (List Char)
  | c :: rest => if c = expected then some rest else none
  | [] => none

/-- The number of days of a month. -/
def daysOf (year month : Nat) : Nat :=
  if month = 2 then
    if year % 4 = 0 ∧ (year % 100 ≠ 0 ∨ year % 400 = 0) then 29 else 28
  else if [4, 6, 9, 11].contains month then 30
  else 31

/-- What is left after a date. -/
def afterDate? (text : List Char) : Option (List Char) := do
  let year := text.take 4
  if year.length = 4 ∧ year.all Char.isDigit then
    let left ← skipChar '-' (text.drop 4)
    let (month, left) ← readTwo 1 12 left
    let left ← skipChar '-' left
    let (day, left) ← readTwo 1 31 left
    if day ≤ daysOf (decimalValue year) month then some left else none
  else none

/-- What is left after a time of day. -/
def afterTime? (text : List Char) : Option (List Char) := do
  let (_, left) ← readTwo 0 23 text
  let left ← skipChar ':' left
  let (_, left) ← readTwo 0 59 left
  let left ← skipChar ':' left
  let (_, left) ← readTwo 0 60 left
  match left with
  | '.' :: c :: rest => if c.isDigit then some (rest.dropWhile Char.isDigit) else none
  | left => some left

/-- What is left after the distance from universal time, where there is one. -/
def afterOffset? : List Char → Option (List Char)
  | 'Z' :: rest | 'z' :: rest => some rest
  | '+' :: rest | '-' :: rest => do
      let (_, left) ← readTwo 0 23 rest
      let left ← skipChar ':' left
      let (_, left) ← readTwo 0 59 left
      some left
  | text => some text

/-- What is left after a date, a time, or a date with a time. -/
def afterDateTime? (text : List Char) : Option (List Char) :=
  match afterDate? text with
  | none => afterTime? text
  | some left =>
      match left with
      | c :: rest =>
          if c = 'T' ∨ c = 't' ∨ c = ' ' then
            match afterTime? rest with
            | some left => afterOffset? left
            | none => some left
          else some left
      | [] => some []

/-- A number, a date or a time. -/
def readNumber (text : List Char) : Option (Value × List Char) :=
  ((afterDateTime? text).map fun left => (.other, left)) <|>
    readFractional text <|> readInteger text

end OpcodeTables.Toml
