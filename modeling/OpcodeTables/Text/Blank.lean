/-!
# White space

The characters that trimming removes, which are those of the Unicode property
`White_Space`.  Trimming works on lists of characters, so that reading a text
is a function on its characters; `trim` is the same on strings.
-/

namespace OpcodeTables.Text

/-- The Unicode property `White_Space`. -/
def isBlank (c : Char) : Bool :=
  let n := c.toNat
  (0x09 ≤ n && n ≤ 0x0D) || n == 0x20 || n == 0x85 || n == 0xA0 || n == 0x1680 ||
    (0x2000 ≤ n && n ≤ 0x200A) || n == 0x2028 || n == 0x2029 || n == 0x202F ||
    n == 0x205F || n == 0x3000

/-- Drops white space at both ends. -/
def trimChars (text : List Char) : List Char :=
  ((text.dropWhile isBlank).reverse.dropWhile isBlank).reverse

/-- Drops white space at both ends. -/
def trim (text : String) : String :=
  String.ofList (trimChars text.toList)

/-- Whether nothing is left of a text once it is trimmed. -/
def allBlank (text : String) : Bool :=
  text.toList.all isBlank

@[simp] theorem trimChars_nil : trimChars [] = [] := rfl

@[simp] theorem toList_trim (text : String) :
    (trim text).toList = trimChars text.toList := by
  simp [trim]

end OpcodeTables.Text
