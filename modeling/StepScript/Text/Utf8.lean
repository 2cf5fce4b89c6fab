/-
# Characters from octets

Octets as characters in UTF-8.  A part that starts no character, or starts one and does not go on
with it, is malformed.
-/

namespace StepScript.Utf8

/-- The ranges of the octets behind a leading octet; none if the octet leads no character. -/
def tails? (lead : Nat) : Option (List (Nat × Nat)) :=
  let tail := (0x80, 0xBF)
  if lead < 0x80 then some []
  else if 0xC2 ≤ lead && lead ≤ 0xDF then some [tail]
  else if lead = 0xE0 then some [(0xA0, 0xBF), tail]
  else if lead = 0xED then some [(0x80, 0x9F), tail]
  else if 0xE1 ≤ lead && lead ≤ 0xEF then some [tail, tail]
  else if lead = 0xF0 then some [(0x90, 0xBF), tail, tail]
  else if 0xF1 ≤ lead && lead ≤ 0xF3 then some [tail, tail, tail]
  else if lead = 0xF4 then some [(0x80, 0x8F), tail, tail]
  else none

/-- The octets at the start of a list that lie in the given ranges, one after the other. -/
def takeTails : List (Nat × Nat) → List UInt8 → List UInt8
  | (low, high) :: ranges, octet :: rest =>
    if low ≤ octet.toNat && octet.toNat ≤ high then octet :: takeTails ranges rest else []
  | _, _ => []

/-- The bits that a leading octet contributes to a character with a number of further octets. -/
def leadBits (lead : Nat) : Nat → Nat
  | 0 => lead
  | 1 => lead % 32
  | 2 => lead % 16
  | _ => lead % 8

/-- The first character of a list of octets, none if it is malformed, and how many octets behind the
first one belong to it. -/
def first (lead : UInt8) (rest : List UInt8) : Option Char × Nat :=
  match tails? lead.toNat with
  | none => (none, 0)
  | some ranges =>
    let tail := takeTails ranges rest
    if tail.length = ranges.length then
      let code := tail.foldl (fun n octet => n * 64 + octet.toNat % 64)
        (leadBits lead.toNat ranges.length)
      (some (Char.ofNat code), tail.length)
    else (none, tail.length)

/-- The characters of octets; each malformed part is a single none.  At most `fuel` octets are
read. -/
def charactersFrom : Nat → List UInt8 → List (Option Char)
  | _, [] => []
  | 0, _ => []
  | fuel + 1, lead :: rest =>
    let (c, used) := first lead rest
    c :: charactersFrom fuel (rest.drop used)

/-- The characters of octets; each malformed part is a single none. -/
def characters (octets : List UInt8) : List (Option Char) :=
  charactersFrom octets.length octets

/-- The text that octets hold; none if a part is malformed. -/
def read? (octets : List UInt8) : Option String :=
  ((characters octets).mapM id).map String.ofList

/-- The text that octets hold, with a replacement character for each malformed part. -/
def readLossy (octets : List UInt8) : String :=
  String.ofList ((characters octets).map fun c => c.getD (Char.ofNat 0xFFFD))

/-- The octets of a text. -/
def write (s : String) : List UInt8 :=
  s.toUTF8.toList

end StepScript.Utf8
