/-
# DuckDB instances

One instance serves all connections of a run.  The first connection opens it, by its URL, and later
ones have to give the very same URL.  What the engine behind it makes of statements is a parameter.
-/
import StepScript.Database.Dialogue
import StepScript.Duckdb.Cell

namespace StepScript.Duckdb

/-- The file that a URL names; none for an instance in memory. -/
def target? (url : String) : Option String :=
  let url := Text.trim url.toList
  let rest := (Text.after? "duckdb:".toList url).getD url
  let rest := String.ofList ((Text.after? ['/', '/'] rest).getD rest)
  if rest == "" || rest == "memory" || rest == ":memory:" then none else some rest

/-! ## The engine -/

section

variable {σ α : Type}

/-- Something that an engine does.  It may fail, for a reason in words. -/
abbrev EngineAction (σ α : Type) := ExceptT String (StateM σ) α

/-- What a query gives: the names of its columns, and its rows. -/
structure Rows where
  columns : List String
  rows : List (List Cell)

namespace Rows

/-- The values of a row with the names of their columns.  A column without a name is named by its
number. -/
def named (r : Rows) (row : List Cell) : List (String × Value) :=
  row.zipIdx.map fun (cell, i) => ((r.columns[i]?).getD ("column" ++ toString i), cell.value)

/-- The rows as records. -/
def records (r : Rows) : List Record :=
  r.rows.map fun row => Table.ofList (r.named row)

/-- The first value of the first row, null without one. -/
def firstValue (r : Rows) : Value :=
  ((r.rows.head?.bind List.head?).map Cell.value).getD .null

end Rows

/-- The engine behind an instance. -/
structure Engine (σ : Type) where
  /-- Opens a database: the one in a file, or one in memory. -/
  start : Option String → EngineAction σ Unit
  /-- Opens a session of the database that is open. -/
  join : Session → EngineAction σ Unit
  /-- Runs a statement: the number of rows affected. -/
  execute : Session → String → EngineAction σ Nat
  /-- Runs a query. -/
  query : Session → String → EngineAction σ Rows
  /-- Closes a session. -/
  leave : Session → EngineAction σ Unit

/-! ## The instance -/

/-- An instance and its engine. -/
structure Instance (σ : Type) where
  /-- The URL by which the instance was opened. -/
  url : Option String
  /-- Whether the sessions are open, by their numbers. -/
  sessions : List Bool
  engine : σ

/-- Something done with an instance. -/
abbrev Access (σ α : Type) := ExceptT Error (StateM (Instance σ)) α

namespace Access

/-- What the engine does, as a part of what is done with its instance. -/
def ofEngine (action : EngineAction σ α) : Access σ α :=
  ExceptT.mk fun i =>
    let (result, engine) := action.run.run i.engine
    (result.mapError .database, { i with engine })

variable (engine : Engine σ)

/-- Opens a session. -/
def connect (url : String) : Access σ Session := do
  if (← get).url.isNone then
    ofEngine (engine.start (target? url))
    modify ({ · with url := some url })
  let i ← get
  match i.url with
  | some bound =>
    if bound = url then
      ofEngine (engine.join i.sessions.length)
      modify ({ · with sessions := i.sessions ++ [true] })
      pure i.sessions.length
    else
      throw (.configuration
        ("connector is bound to '" ++ bound ++ "', cannot open '" ++ url ++ "'"))
  | none => throw (.database "DuckDB database is not open")

/-- Does something in an open session. -/
def inSession (session : Session) (action : EngineAction σ α) : Access σ α := do
  if (← get).sessions[session]? = some true then ofEngine action
  else throw (.database "connection is closed")

/-- Closes a session if it is open. -/
def close (session : Session) : Access σ Unit := do
  let i ← get
  if i.sessions[session]? = some true then
    set { i with sessions := i.sessions.set session false }
    ofEngine (engine.leave session)

end Access

/-- DuckDB as a database; nothing else can be connected to. -/
def backend (engine : Engine σ) : Backend (Instance σ) where
  answer
    | .connect .duckdb target, i => (Access.connect engine target.url).run i
    | .connect connector _, i => (.error (.database ("cannot connect to " ++ connector.name)), i)
    | .execute session sql, i => (Access.inSession session (engine.execute session sql)).run i
    | .queryValue session sql, i =>
      (Rows.firstValue <$> Access.inSession session (engine.query session sql)).run i
    | .queryRows session sql, i =>
      (Rows.records <$> Access.inSession session (engine.query session sql)).run i
    | .close session, i => (Access.close engine session).run i

/-- An instance that is not open yet. -/
def Instance.new (engine : σ) : Instance σ := ⟨none, [], engine⟩

end

end StepScript.Duckdb
