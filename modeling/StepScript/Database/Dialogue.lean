/-
# Dialogues with databases

Everything the program does with databases is a dialogue: it asks for a connection, for the
execution of a statement, for a query or for the end of a session, and how it goes on depends on the
answer.  A dialogue says nothing about the answers; run against a database it gives a result.  So a
statement about a dialogue and every database is a statement about every behaviour of the databases.
-/
import StepScript.Database.Target
import StepScript.Value

namespace StepScript

/-- An open session, by its number. -/
abbrev Session := Nat

/-- One thing asked of a database. -/
inductive Call where
  | connect (connector : Connector) (target : Target)
  /-- Runs a statement; the answer is the number of rows it affected. -/
  | execute (session : Session) (sql : String)
  /-- The first column of the first row, null without rows. -/
  | queryValue (session : Session) (sql : String)
  | queryRows (session : Session) (sql : String)
  | close (session : Session)
  deriving DecidableEq, Repr

/-- What the answer to a call consists of when it succeeds. -/
@[reducible]
def Call.Reply : Call → Type
  | .connect .. => Session
  | .execute .. => Nat
  | .queryValue .. => Value
  | .queryRows .. => List Record
  | .close _ => Unit

/-- An answer to a call. -/
abbrev Answer (call : Call) := Except Error call.Reply

/-- A dialogue that ends in a result. -/
inductive Dialogue (α : Type) where
  | done (result : α)
  | ask (call : Call) (next : Answer call → Dialogue α)

namespace Dialogue

variable {α β σ : Type}

/-- A dialogue, and then another one that depends on its result. -/
def bind : Dialogue α → (α → Dialogue β) → Dialogue β
  | .done result, f => f result
  | .ask call next, f => .ask call fun answer => (next answer).bind f

instance : Monad Dialogue where
  pure := .done
  bind := bind

@[simp]
theorem pure_eq (a : α) : (pure a : Dialogue α) = .done a := rfl

@[simp]
theorem done_bind (a : α) (f : α → Dialogue β) : (Dialogue.done a >>= f) = f a := rfl

@[simp]
theorem ask_bind (call : Call) (next : Answer call → Dialogue α) (f : α → Dialogue β) :
    (Dialogue.ask call next >>= f) = .ask call fun answer => next answer >>= f := rfl

theorem bind_done (d : Dialogue α) : (d >>= Dialogue.done) = d := by
  induction d with
  | done result => rfl
  | ask call next ih => exact congrArg _ (funext ih)

theorem bind_bind {γ : Type} (d : Dialogue α) (f : α → Dialogue β) (g : β → Dialogue γ) :
    (d >>= f >>= g) = d >>= fun a => f a >>= g := by
  induction d with
  | done result => rfl
  | ask call next ih => exact congrArg _ (funext ih)

instance : LawfulMonad Dialogue :=
  LawfulMonad.mk' Dialogue (fun d => bind_done d) (fun _ _ => rfl) (fun d f g => bind_bind d f g)

/-- Asks one thing. -/
def call (c : Call) : Dialogue (Answer c) :=
  .ask c .done

end Dialogue

/-- A database with a state: what it answers to a call, and its state afterwards. -/
structure Backend (σ : Type) where
  answer : (call : Call) → σ → Answer call × σ

/-- Runs a dialogue against a database: the result and the state of the database afterwards. -/
def Dialogue.run {α σ : Type} (db : Backend σ) : Dialogue α → σ → α × σ
  | .done result, s => (result, s)
  | .ask call next, s =>
    let (answer, s) := db.answer call s
    (next answer).run db s

@[simp]
theorem Dialogue.run_done {α σ : Type} (db : Backend σ) (a : α) (s : σ) :
    (Dialogue.done a).run db s = (a, s) := rfl

theorem Dialogue.run_ask {α σ : Type} (db : Backend σ) (call : Call)
    (next : Answer call → Dialogue α) (s : σ) :
    (Dialogue.ask call next).run db s = (next (db.answer call s).1).run db (db.answer call s).2 :=
  rfl

theorem Dialogue.run_bind {α β σ : Type} (db : Backend σ) (d : Dialogue α) (f : α → Dialogue β)
    (s : σ) : (d >>= f).run db s = (f (d.run db s).1).run db (d.run db s).2 := by
  induction d generalizing s with
  | done result => rfl
  | ask call next ih => exact ih _ _

/-- A dialogue that may fail. -/
abbrev Attempt := ExceptT Error Dialogue

namespace Attempt

/-- Opens a session. -/
def connect (connector : Connector) (target : Target) : Attempt Session :=
  ExceptT.mk (Dialogue.call (.connect connector target))

/-- Runs a statement. -/
def execute (session : Session) (sql : String) : Attempt Nat :=
  ExceptT.mk (Dialogue.call (.execute session sql))

/-- Asks for a single value. -/
def queryValue (session : Session) (sql : String) : Attempt Value :=
  ExceptT.mk (Dialogue.call (.queryValue session sql))

/-- Asks for rows. -/
def queryRows (session : Session) (sql : String) : Attempt (List Record) :=
  ExceptT.mk (Dialogue.call (.queryRows session sql))

/-- Something without a dialogue that may fail. -/
def lift {α : Type} (result : Except Error α) : Attempt α :=
  ExceptT.mk (.done result)

/-- Ends a session; whether that succeeds does not matter. -/
def close (session : Session) : Dialogue Unit := do
  let _ ← Dialogue.call (.close session)
  pure ()

end Attempt

end StepScript
