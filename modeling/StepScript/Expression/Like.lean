/-
# Pattern matching

In a pattern `%` stands for any text, `_` for any one character, and every other character for
itself.  A pattern is short for a regular expression.  To match it, it is read once from the left;
after each of its characters it is known which prefixes of the text the part read so far matches.
-/
import StepScript.Expression.Regular

namespace StepScript.Like

/-! ## As a regular expression -/

/-- The part of the expression that a character of a pattern is short for. -/
def part (p : Char) : List Char :=
  if p = '%' then ['.', '*'] else if p = '_' then ['.'] else Regular.escape p

/-- The regular expression that a pattern is short for. -/
def expression (pattern : List Char) : List Char :=
  "(?s)^".toList ++ pattern.flatMap part ++ ['$']

/-! ## Matching -/

/-- For each prefix of a text, the shortest first, whether the pattern read so far matches it. -/
abbrev Reached := List Bool

/-- Before the pattern is read: only the empty prefix. -/
def start (text : List Char) : Reached :=
  true :: text.map fun _ => false

/-- After one more character that an `accept`ed one matches. -/
def one (accept : Char → Bool) (text : List Char) (reached : Reached) : Reached :=
  false :: List.zipWith (fun c r => accept c && r) text reached

/-- After any text: every prefix from the first one reached on. -/
def any (seen : Bool) : Reached → Reached
  | [] => []
  | r :: rest => (seen || r) :: any (seen || r) rest

/-- After one more character of the pattern. -/
def step (text : List Char) (reached : Reached) (p : Char) : Reached :=
  if p = '%' then any false reached
  else if p = '_' then one (fun _ => true) text reached
  else one (· == p) text reached

/-- Whether a pattern matches a whole text. -/
def holds (text pattern : List Char) : Bool :=
  ((pattern.foldl (step text) (start text)).getLast?).getD false

end StepScript.Like
