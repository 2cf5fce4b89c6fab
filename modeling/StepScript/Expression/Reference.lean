/-
# References and names

What the arguments of a tag may look like: names of variables and recordsets, references to
session and environment variables, and literals.
-/
import StepScript.Text.Blank
import StepScript.Text.Letter
import StepScript.Text.Search
import StepScript.Text.Word

namespace StepScript.Reference

/-- What follows `pat` in a text that starts with it up to letter case. -/
def afterFolded? : List Char → List Char → Option (List Char)
  | [], s => some s
  | _ :: _, [] => none
  | p :: ps, c :: cs => if Text.foldChar p = Text.foldChar c then afterFolded? ps cs else none

/-- How a reference to an environment variable starts, in any letter case. -/
def environmentMark : List Char := [':', 'e', 'n', 'v', '_']

/-- The name in `:env_name`. -/
def environment? (s : List Char) : Option (List Char) :=
  (afterFolded? environmentMark s).filter Text.isName

/-- The name in `:name`. -/
def session? : List Char → Option (List Char)
  | ':' :: name => if Text.isName name then some name else none
  | _ => none

/-- The name in the older form with braces. -/
def braced? : List Char → Option (List Char)
  | '{' :: rest =>
    if rest.getLast? = some '}' && Text.isName rest.dropLast then some rest.dropLast else none
  | _ => none

/-- What stands between the quotes of a literal. -/
def literal? : List Char → Option (List Char)
  | '\'' :: rest => if rest.getLast? = some '\'' then some rest.dropLast else none
  | _ => none

/-- A name a session variable may have: it does not start with an ASCII digit, nor with what marks
an environment variable. -/
def isVariableName (name : String) : Bool :=
  let s := name.toList
  Text.isName s && !(s.head?.map Char.isDigit).getD false &&
    !Text.startsWith ['e', 'n', 'v', '_'] (Text.asciiLower s)

/-- A name a recordset may have; white space around it does not count. -/
def isRecordsetName (name : String) : Bool :=
  Text.isName (Text.trim name.toList)

/-- A number without its sign: digits, and behind a point any digits or none. -/
def isUnsigned (s : List Char) : Bool :=
  let rest := s.dropWhile Text.isDecimal
  s.head?.any Text.isDecimal &&
    match rest with
    | [] => true
    | '.' :: fraction => fraction.all Text.isDecimal
    | _ => false

/-- A number with an optional sign. -/
def isNumber : List Char → Bool
  | '-' :: rest => isUnsigned rest
  | s => isUnsigned s

/-- An expression an argument may be: a number, a literal on one line, a reference or a truth
value; white space around it does not count. -/
def isExpression (text : String) : Bool :=
  let s := Text.trim text.toList
  isNumber s || (literal? s).any (·.all (· != '\n')) || (session? s).isSome || (braced? s).isSome ||
    Text.sameLetters s ['t', 'r', 'u', 'e'] || Text.sameLetters s ['f', 'a', 'l', 's', 'e']

end StepScript.Reference
