/-
# A scripted database

A database that follows a script: the first rule that still applies and whose text occurs in the
statement gives the answer.  It keeps a log of everything it is asked.
-/
import StepScript.Database.Dialogue

namespace StepScript.Scripted

/-- What the script says about statements in which a text occurs. -/
structure Rule where
  occurring : String
  error : Option String
  rows : Nat
  value : Value
  records : List Record
  /-- How many more times the rule applies; always, if not given. -/
  remaining : Option Nat
  deriving DecidableEq

/-- A call and the number of the session it belongs to; a connection has a number even if it
fails. -/
structure Entry where
  session : Session
  call : Call
  deriving DecidableEq

/-- The database between two calls. -/
structure State where
  rules : List Rule
  /-- What becomes of the connections still to come, in order; those that are not listed succeed. -/
  connections : List (Option String)
  closeError : Option String
  /-- The number of connections asked for so far. -/
  connected : Nat
  log : List Entry
  deriving DecidableEq

/-- Takes the first rule that applies to a statement. -/
def take (sql : String) : List Rule → Option Rule × List Rule
  | [] => (none, [])
  | rule :: rest =>
    if rule.remaining != some 0 && Text.contains sql rule.occurring then
      (some rule, { rule with remaining := rule.remaining.map (· - 1) } :: rest)
    else
      let (found, rest) := take sql rest
      (found, rule :: rest)

/-- The answer to a statement: what a rule gives, unless it says that the statement fails. -/
def reply {α : Type} (fallback : α) (given : Rule → α) : Option Rule → Except Error α
  | none => .ok fallback
  | some rule =>
    match rule.error with
    | some text => .error (.database text)
    | none => .ok (given rule)

/-- Adds an entry to the log. -/
def State.note (s : State) (session : Session) (call : Call) : State :=
  { s with log := s.log ++ [⟨session, call⟩] }

/-- Answers a statement of a session. -/
def State.statement {α : Type} (s : State) (session : Session) (call : Call) (sql : String)
    (fallback : α) (given : Rule → α) : Except Error α × State :=
  let (rule, rules) := take sql s.rules
  (reply fallback given rule, { s.note session call with rules := rules })

/-- The database that follows the script in its state. -/
def backend : Backend State where
  answer
    | .connect connector target, s =>
      let number := s.connected
      let next := { s.note number (.connect connector target) with
        connected := number + 1
        connections := s.connections.drop 1 }
      match s.connections.head? with
      | some (some text) => (.error (.database text), next)
      | _ => (.ok number, next)
    | .execute session sql, s => s.statement session (.execute session sql) sql 0 (·.rows)
    | .queryValue session sql, s =>
      s.statement session (.queryValue session sql) sql .null (·.value)
    | .queryRows session sql, s => s.statement session (.queryRows session sql) sql [] (·.records)
    | .close session, s =>
      (match s.closeError with
        | some text => .error (.database text)
        | none => .ok (), s.note session (.close session))

end StepScript.Scripted
