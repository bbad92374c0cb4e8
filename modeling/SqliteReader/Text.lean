/-!
# Texts

The characters that count as white space in Unicode, with the trimming and splitting that go by them, and
letter case: names of tables, columns and commands are compared without regard to the case of ASCII
letters.
-/
namespace SqliteReader.Text

/-! ## Blanks and words -/

/-- The white space characters of Unicode. -/
def isBlank (c : Char) : Bool :=
  let n := c.toNat
  (0x09 ≤ n && n ≤ 0x0D) || n == 0x20 || n == 0x85 || n == 0xA0 || n == 0x1680 ||
    (0x2000 ≤ n && n ≤ 0x200A) || n == 0x2028 || n == 0x2029 || n == 0x202F || n == 0x205F ||
    n == 0x3000

/-- `text` without the blanks at its end. -/
def trimEnd (text : String) : String :=
  String.ofList (text.toList.reverse.dropWhile isBlank).reverse

/-- `text` without the blanks at its two ends. -/
def trim (text : String) : String :=
  String.ofList ((text.toList.dropWhile isBlank).reverse.dropWhile isBlank).reverse

/-- The first run of characters that are not blank, empty when all are. -/
def firstWord (text : String) : String :=
  String.ofList ((text.toList.dropWhile isBlank).takeWhile fun c => !isBlank c)

/-- The lines of a text. What stands behind the last line break is a line if it is not empty. -/
def lines (text : String) : List String :=
  match text.splitOn "\n" with
  | [] => []
  | pieces => if pieces.getLast? = some "" then pieces.dropLast else pieces

/-! ## Letter case -/

/-- `text` with its ASCII capitals made small, character by character. -/
def lowered (text : String) : List Char := text.toList.map Char.toLower

/-- Whether two names are equal up to the case of ASCII letters. -/
def sameName (a b : String) : Bool := lowered a == lowered b

/-- `text` with its ASCII capitals made small. -/
def lower (text : String) : String := String.ofList (lowered text)

/-- `text` with its small ASCII letters made capital. -/
def upper (text : String) : String := String.ofList (text.toList.map Char.toUpper)

/-- The upper case of a character as far as ASCII goes: besides the small letters, a few letters and
ligatures beyond ASCII have capitals that are ASCII letters. -/
def asciiUpper (c : Char) : List Char :=
  match c.toNat with
  | 0x00DF => ['S', 'S']
  | 0x0131 => ['I']
  | 0x017F => ['S']
  | 0xFB00 => ['F', 'F']
  | 0xFB01 => ['F', 'I']
  | 0xFB02 => ['F', 'L']
  | 0xFB03 => ['F', 'F', 'I']
  | 0xFB04 => ['F', 'F', 'L']
  | 0xFB05 => ['S', 'T']
  | 0xFB06 => ['S', 'T']
  | _ => [c.toUpper]

end SqliteReader.Text
