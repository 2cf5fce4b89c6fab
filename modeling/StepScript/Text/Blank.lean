/-
# White space

The characters that separate the tokens of a tag and that trimming removes, in every script.
-/
import StepScript.Text.Ranges

namespace StepScript.Text

/-- The white-space characters. -/
def blankRanges : CodeRanges :=
  [(0x9, 0xD), (0x20, 0x20), (0x85, 0x85), (0xA0, 0xA0), (0x1680, 0x1680), (0x2000, 0x200A),
   (0x2028, 0x2029), (0x202F, 0x202F), (0x205F, 0x205F), (0x3000, 0x3000)]

/-- A white-space character. -/
def isBlank (c : Char) : Bool :=
  blankRanges.mem c

/-- A text without its leading white space. -/
def trimStart (s : List Char) : List Char :=
  s.dropWhile isBlank

/-- A text without its trailing white space. -/
def trimEnd (s : List Char) : List Char :=
  (s.reverse.dropWhile isBlank).reverse

/-- A text without the white space around it. -/
def trim (s : List Char) : List Char :=
  trimEnd (trimStart s)

/-- A string without the white space around it. -/
def trimmed (s : String) : String :=
  String.ofList (trim s.toList)

end StepScript.Text
