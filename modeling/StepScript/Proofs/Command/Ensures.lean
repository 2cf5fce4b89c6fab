/-
# What actions ensure

Actions and runs may fail, have a state and talk to databases.  `Ensures` is what holds of their
exchanges, their result and their state however the databases answer.  There is one rule for each
way of building actions, so the body of a command is followed rule by rule.
-/
import StepScript.Command.Run
import StepScript.Proofs.Database.Dialogue

namespace StepScript

/-- Something that may fail, has a state and talks to databases. -/
abbrev Stateful (σ : Type) := ExceptT Error (StateT σ Dialogue)

/-- A property of the exchanges, the result and the state afterwards holds whatever the databases
answer. -/
def Ensures {σ α : Type} (x : Stateful σ α) (s : σ)
    (Q : List Exchange → Except Error α → σ → Prop) : Prop :=
  (x.run.run s).Always fun exchanges r => Q exchanges r.1 r.2

namespace Ensures

variable {σ α β : Type} {s : σ}

theorem mono {x : Stateful σ α} {P Q : List Exchange → Except Error α → σ → Prop}
    (h : Ensures x s P) (hPQ : ∀ exchanges r s', P exchanges r s' → Q exchanges r s') :
    Ensures x s Q :=
  Dialogue.Always.mono h fun exchanges r => hPQ exchanges r.1 r.2

/-- What is ensured holds whichever way it goes. -/
theorem of_leads {x : Stateful σ α} {Q : List Exchange → Except Error α → σ → Prop}
    (h : Ensures x s Q) {exchanges : List Exchange} {r : Except Error α} {s' : σ}
    (hleads : (x.run.run s).Leads exchanges (r, s')) : Q exchanges r s' :=
  Dialogue.always_iff.1 h exchanges (r, s') hleads

@[simp]
theorem pure_iff {a : α} {Q : List Exchange → Except Error α → σ → Prop} :
    Ensures (pure a) s Q ↔ Q [] (.ok a) s := Iff.rfl

@[simp]
theorem throw_iff {e : Error} {Q : List Exchange → Except Error α → σ → Prop} :
    Ensures (throw e) s Q ↔ Q [] (.error e) s := Iff.rfl

@[simp]
theorem get_iff {Q : List Exchange → Except Error σ → σ → Prop} :
    Ensures get s Q ↔ Q [] (.ok s) s := Iff.rfl

@[simp]
theorem set_iff {s' : σ} {Q : List Exchange → Except Error Unit → σ → Prop} :
    Ensures (set s') s Q ↔ Q [] (.ok ()) s' := Iff.rfl

@[simp]
theorem modify_iff {f : σ → σ} {Q : List Exchange → Except Error Unit → σ → Prop} :
    Ensures (modify f) s Q ↔ Q [] (.ok ()) (f s) := Iff.rfl

/-- A failure ends a sequence; otherwise its second part goes on from what the first one left. -/
@[simp]
theorem bind_iff {x : Stateful σ α} {f : α → Stateful σ β}
    {Q : List Exchange → Except Error β → σ → Prop} :
    Ensures (x >>= f) s Q ↔ Ensures x s fun before r s' =>
      match r with
      | .ok a => Ensures (f a) s' fun after => Q (before ++ after)
      | .error e => Q before (.error e) s' := by
  unfold Ensures
  rw [ExceptT.run_bind, StateT.run_bind, Dialogue.always_bind]
  refine iff_of_eq (congrArg _ (funext fun before => funext fun r => ?_))
  obtain ⟨e | a, s'⟩ := r
  · simp
  · rfl

@[simp]
theorem map_iff {x : Stateful σ α} {f : α → β} {Q : List Exchange → Except Error β → σ → Prop} :
    Ensures (f <$> x) s Q ↔ Ensures x s fun exchanges r => Q exchanges (r.map f) := by
  rw [← bind_pure_comp, bind_iff]
  refine iff_of_eq (congrArg _ (funext fun before => funext fun r => funext fun s' => ?_))
  cases r with
  | ok a => simp [Except.map]
  | error e => rfl

/-- A failure is handed to the handler together with the state it left. -/
@[simp]
theorem tryCatch_iff {x : Stateful σ α} {f : Error → Stateful σ α}
    {Q : List Exchange → Except Error α → σ → Prop} :
    Ensures (tryCatch x f) s Q ↔ Ensures x s fun before r s' =>
      match r with
      | .ok a => Q before (.ok a) s'
      | .error e => Ensures (f e) s' fun after => Q (before ++ after) := by
  unfold Ensures
  rw [ExceptT.run_tryCatch, StateT.run_bind, Dialogue.always_bind]
  refine iff_of_eq (congrArg _ (funext fun before => funext fun r => ?_))
  obtain ⟨e | a, s'⟩ := r
  · rfl
  · simp

end Ensures

/-! ## Actions -/

namespace Action

variable {α : Type} {w : Workspace}

@[simp]
theorem ensures_ofExcept {r : Except Error α}
    {Q : List Exchange → Except Error α → Workspace → Prop} :
    Ensures (ofExcept r) w Q ↔ Q [] r w := Iff.rfl

theorem ensures_ofAttempt {attempt : Attempt α}
    {Q : List Exchange → Except Error α → Workspace → Prop} :
    Ensures (ofAttempt attempt) w Q ↔ attempt.run.Always fun exchanges r => Q exchanges r w := by
  show (attempt.run >>= fun r => Dialogue.done (r, w)).Always _ ↔ _
  rw [Dialogue.always_bind]
  simp only [Dialogue.always_done, List.append_nil]

/-- A call to the database can be answered by anything. -/
theorem ensures_call {call : Call} {Q : List Exchange → Answer call → Workspace → Prop} :
    Ensures (ofAttempt (ExceptT.mk (Dialogue.call call))) w Q ↔
      ∀ answer : Answer call, Q [⟨call, answer⟩] answer w := Iff.rfl

@[simp]
theorem ensures_execute {session : Session} {sql : String}
    {Q : List Exchange → Except Error Nat → Workspace → Prop} :
    Ensures (ofAttempt (Attempt.execute session sql)) w Q ↔
      ∀ answer : Answer (.execute session sql), Q [⟨_, answer⟩] answer w := ensures_call

@[simp]
theorem ensures_queryValue {session : Session} {sql : String}
    {Q : List Exchange → Except Error Value → Workspace → Prop} :
    Ensures (ofAttempt (Attempt.queryValue session sql)) w Q ↔
      ∀ answer : Answer (.queryValue session sql), Q [⟨_, answer⟩] answer w := ensures_call

@[simp]
theorem ensures_queryRows {session : Session} {sql : String}
    {Q : List Exchange → Except Error (List Record) → Workspace → Prop} :
    Ensures (ofAttempt (Attempt.queryRows session sql)) w Q ↔
      ∀ answer : Answer (.queryRows session sql), Q [⟨_, answer⟩] answer w := ensures_call

/-- The workspace after the number of affected rows was noted. -/
def noted (w : Workspace) (rows : Nat) : Workspace :=
  { w with evaluator := { w.evaluator with
      session := w.evaluator.session.insert rowsVariable (.integer (min rows maxInteger)) } }

/-- The number of affected rows can always be noted. -/
@[simp]
theorem ensures_noteRows {rows : Nat} {Q : List Exchange → Except Error Unit → Workspace → Prop} :
    Ensures (noteRows rows) w Q ↔ Q [] (.ok ()) (noted w rows) := by
  have hname : Reference.isVariableName rowsVariable = true := by decide
  unfold noteRows assign Evaluator.assign
  simp only [Ensures.bind_iff, Ensures.get_iff, ensures_ofExcept, if_pos hname, Ensures.set_iff]
  exact Iff.rfl

end Action

section

variable {α : Type} {w : Workspace} {arguments : List Value} {index : Nat}
  {Q : List Exchange → Except Error α → Workspace → Prop}

/-- What is behind an argument is looked at with that argument. -/
theorem ensures_argument_bind {f : Value → Action α}
    (hmissing : ∀ detail, Q [] (.error (.statement detail)) w)
    (hf : ∀ value, arguments[index]? = some value → Ensures (f value) w Q) :
    Ensures (argument arguments index >>= f) w Q := by
  unfold argument
  cases hvalue : arguments[index]? with
  | none =>
    rw [Ensures.bind_iff, Ensures.throw_iff]
    exact hmissing _
  | some value =>
    rw [Ensures.bind_iff, Ensures.pure_iff]
    exact hf value hvalue

/-- What is behind the text of an argument is looked at with that text. -/
theorem ensures_argumentText_bind {f : String → Action α}
    (hmissing : ∀ detail, Q [] (.error (.statement detail)) w)
    (hf : ∀ text, arguments[index]?.map Value.display = some text → Ensures (f text) w Q) :
    Ensures (argumentText arguments index >>= f) w Q := by
  rw [argumentText, ← bind_pure_comp, bind_assoc]
  refine ensures_argument_bind hmissing fun value hvalue => ?_
  rw [pure_bind]
  exact hf value.display (by rw [hvalue]; rfl)

/-- What is behind the need for a session is looked at with the session. -/
theorem ensures_need_bind {around : Surroundings} {f : Session → Action α}
    (hnone : ∀ detail, Q [] (.error (.database detail)) w)
    (hf : ∀ session, around.session = some session → Ensures (f session) w Q) :
    Ensures (around.need >>= f) w Q := by
  unfold Surroundings.need
  cases hsession : around.session with
  | none =>
    rw [Ensures.bind_iff, Ensures.throw_iff]
    exact hnone _
  | some session =>
    rw [Ensures.bind_iff, Ensures.pure_iff]
    exact hf session hsession

end

end StepScript
