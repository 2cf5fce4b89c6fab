/-
# What a dialogue leads to

A dialogue leads to a result by a list of exchanges: what was asked, and what was answered.  Since
every answer is possible, what holds however a dialogue goes holds for every behaviour of the
databases.  `Always` says so by recursion on the dialogue, `Leads` gives the single ways it can go,
and `recorded` lets a dialogue tell its own exchanges.
-/
import StepScript.Database.Dialogue

namespace StepScript

/-- One thing asked of a database, and the answer. -/
structure Exchange where
  call : Call
  answer : Answer call

namespace Dialogue

variable {α β σ : Type}

/-- A dialogue leads to a result by exchanges. -/
inductive Leads : Dialogue α → List Exchange → α → Prop
  | done (a : α) : Leads (.done a) [] a
  | ask {call : Call} {next : Answer call → Dialogue α} {answer : Answer call}
      {exchanges : List Exchange} {a : α} (h : Leads (next answer) exchanges a) :
      Leads (.ask call next) (⟨call, answer⟩ :: exchanges) a

/-- A property of the exchanges and the result holds whatever the answers are. -/
def Always : Dialogue α → (List Exchange → α → Prop) → Prop
  | .done a, Q => Q [] a
  | .ask call next, Q =>
    ∀ answer, (next answer).Always fun exchanges a => Q (⟨call, answer⟩ :: exchanges) a

/-- What always holds, holds whichever way the dialogue goes. -/
theorem always_iff {d : Dialogue α} {Q : List Exchange → α → Prop} :
    d.Always Q ↔ ∀ exchanges a, d.Leads exchanges a → Q exchanges a := by
  induction d generalizing Q with
  | done a =>
    constructor
    · intro h exchanges b hb
      cases hb
      exact h
    · intro h
      exact h [] a (.done a)
  | ask call next ih =>
    constructor
    · intro h exchanges b hb
      cases hb with
      | ask hb => exact (ih _).1 (h _) _ _ hb
    · intro h answer
      exact (ih answer).2 fun exchanges b hb => h _ _ (.ask hb)

@[simp]
theorem leads_done {a b : α} {exchanges : List Exchange} :
    (Dialogue.done a).Leads exchanges b ↔ exchanges = [] ∧ b = a := by
  constructor
  · rintro ⟨⟩
    exact ⟨rfl, rfl⟩
  · rintro ⟨rfl, rfl⟩
    exact .done b

/-- A dialogue goes as its first call is answered. -/
theorem leads_ask {call : Call} {next : Answer call → Dialogue α} {exchanges : List Exchange}
    {a : α} : (Dialogue.ask call next).Leads exchanges a ↔
      ∃ answer rest, exchanges = ⟨call, answer⟩ :: rest ∧ (next answer).Leads rest a := by
  constructor
  · rintro ⟨⟩
    exact ⟨_, _, rfl, ‹_›⟩
  · rintro ⟨answer, rest, rfl, h⟩
    exact .ask h

/-- No way that a dialogue can go is the start of another one. -/
theorem Leads.eq_of_append {d : Dialogue α} {xs ys us vs : List Exchange} {a b : α}
    (h : d.Leads xs a) (h' : d.Leads ys b) (heq : xs ++ us = ys ++ vs) : xs = ys ∧ a = b := by
  induction h generalizing ys with
  | done a =>
    obtain ⟨rfl, rfl⟩ := leads_done.1 h'
    exact ⟨rfl, rfl⟩
  | ask h ih =>
    obtain ⟨answer, rest, rfl, hrest⟩ := leads_ask.1 h'
    obtain ⟨hfirst, hothers⟩ := List.cons.inj heq
    cases hfirst
    obtain ⟨rfl, rfl⟩ := ih hrest hothers
    exact ⟨rfl, rfl⟩

/-- A dialogue behind another one goes on where that one ended. -/
theorem leads_bind {d : Dialogue α} {f : α → Dialogue β} {exchanges : List Exchange} {b : β} :
    (d >>= f).Leads exchanges b ↔
      ∃ before after a, exchanges = before ++ after ∧ d.Leads before a ∧ (f a).Leads after b := by
  induction d generalizing exchanges with
  | done a =>
    constructor
    · intro h
      exact ⟨[], exchanges, a, rfl, .done a, h⟩
    · rintro ⟨before, after, a', rfl, hd, h⟩
      obtain ⟨rfl, rfl⟩ := leads_done.1 hd
      exact h
  | ask call next ih =>
    rw [ask_bind, leads_ask]
    constructor
    · rintro ⟨answer, rest, rfl, h⟩
      obtain ⟨before, after, a, rfl, hd, hf⟩ := (ih answer).1 h
      exact ⟨_ :: before, after, a, rfl, .ask hd, hf⟩
    · rintro ⟨before, after, a, rfl, hd, hf⟩
      obtain ⟨answer, rest, rfl, hrest⟩ := leads_ask.1 hd
      exact ⟨answer, rest ++ after, rfl, (ih answer).2 ⟨rest, after, a, rfl, hrest, hf⟩⟩

theorem leads_map {d : Dialogue α} {f : α → β} {exchanges : List Exchange} {b : β} :
    (f <$> d).Leads exchanges b ↔ ∃ a, d.Leads exchanges a ∧ b = f a := by
  rw [← bind_pure_comp, leads_bind]
  simp only [pure_eq, leads_done]
  constructor
  · rintro ⟨before, after, a, rfl, hd, rfl, rfl⟩
    rw [List.append_nil]
    exact ⟨a, hd, rfl⟩
  · rintro ⟨a, hd, rfl⟩
    exact ⟨exchanges, [], a, (List.append_nil _).symm, hd, rfl, rfl⟩

theorem Always.mono {d : Dialogue α} {P Q : List Exchange → α → Prop} (h : d.Always P)
    (hPQ : ∀ exchanges a, P exchanges a → Q exchanges a) : d.Always Q :=
  always_iff.2 fun exchanges a ha => hPQ exchanges a (always_iff.1 h exchanges a ha)

@[simp]
theorem always_done {a : α} {Q : List Exchange → α → Prop} :
    (Dialogue.done a).Always Q ↔ Q [] a := Iff.rfl

@[simp]
theorem always_call {c : Call} {Q : List Exchange → Answer c → Prop} :
    (Dialogue.call c).Always Q ↔ ∀ answer, Q [⟨c, answer⟩] answer := Iff.rfl

/-- What is asked behind a dialogue is asked behind its exchanges. -/
@[simp]
theorem always_bind {d : Dialogue α} {f : α → Dialogue β} {Q : List Exchange → β → Prop} :
    (d >>= f).Always Q ↔
      d.Always fun before a => (f a).Always fun after b => Q (before ++ after) b := by
  induction d generalizing Q with
  | done a => exact Iff.rfl
  | ask call next ih => exact forall_congr' fun answer => ih answer

@[simp]
theorem always_map {d : Dialogue α} {f : α → β} {Q : List Exchange → β → Prop} :
    (f <$> d).Always Q ↔ d.Always fun exchanges a => Q exchanges (f a) := by
  rw [← bind_pure_comp, always_bind]
  simp

/-! ## What is asked at all -/

/-- Every call of a dialogue has a property, whatever the answers are. -/
def Asks (P : Call → Prop) : Dialogue α → Prop
  | .done _ => True
  | .ask call next => P call ∧ ∀ answer, (next answer).Asks P

theorem Asks.bind {P : Call → Prop} {d : Dialogue α} {f : α → Dialogue β} (hd : d.Asks P)
    (hf : ∀ a, (f a).Asks P) : (d >>= f).Asks P := by
  induction d with
  | done a => exact hf a
  | ask call next ih => exact ⟨hd.1, fun answer => ih answer (hd.2 answer)⟩

theorem Asks.of_leads {P : Call → Prop} {d : Dialogue α} (hd : d.Asks P) {exchanges : List Exchange}
    {a : α} (h : d.Leads exchanges a) : ∀ x ∈ exchanges, P x.call := by
  induction h with
  | done a =>
    intro x hx
    cases hx
  | ask h ih =>
    intro x hx
    rcases List.mem_cons.1 hx with rfl | hx
    · exact hd.1
    · exact ih (hd.2 _) x hx

/-! ## Recording -/

/-- A dialogue that also gives its exchanges. -/
def recorded : Dialogue α → Dialogue (α × List Exchange)
  | .done a => .done (a, [])
  | .ask call next => .ask call fun answer =>
    (next answer).recorded >>= fun r => .done (r.1, ⟨call, answer⟩ :: r.2)

/-- Recording changes nothing else. -/
theorem fst_recorded (d : Dialogue α) : Prod.fst <$> d.recorded = d := by
  induction d with
  | done a => rfl
  | ask call next ih =>
    refine congrArg (Dialogue.ask call) (funext fun answer => ?_)
    calc Prod.fst <$> ((next answer).recorded >>= fun r =>
            Dialogue.done (r.1, (⟨call, answer⟩ : Exchange) :: r.2))
        = (next answer).recorded >>= fun r => Dialogue.done r.1 := by rw [map_bind]; rfl
      _ = Prod.fst <$> (next answer).recorded := rfl
      _ = next answer := ih answer

/-- What is recorded is how the dialogue went. -/
theorem always_recorded {d : Dialogue α} {Q : List Exchange → α × List Exchange → Prop} :
    d.recorded.Always Q ↔ d.Always fun exchanges a => Q exchanges (a, exchanges) := by
  induction d generalizing Q with
  | done a => exact Iff.rfl
  | ask call next ih =>
    refine forall_congr' fun answer => ?_
    rw [always_bind, ih answer]
    simp only [always_done, List.append_nil]

/-- Run against a database, a dialogue goes one of its ways. -/
theorem leads_run (db : Backend σ) (d : Dialogue α) (s : σ) :
    d.Leads (d.recorded.run db s).1.2 (d.recorded.run db s).1.1 := by
  induction d generalizing s with
  | done a => exact .done a
  | ask call next ih =>
    rw [recorded, run_ask, run_bind]
    exact .ask (ih _ _)

/-- The exchanges of a dialogue with a database. -/
def log (d : Dialogue α) (db : Backend σ) (s : σ) : List Exchange :=
  (d.recorded.run db s).1.2

/-- Recording does not change what a database makes of a dialogue. -/
theorem run_recorded (db : Backend σ) (d : Dialogue α) (s : σ) :
    ((d.recorded.run db s).1.1, (d.recorded.run db s).2) = d.run db s := by
  induction d generalizing s with
  | done a => rfl
  | ask call next ih =>
    rw [recorded, run_ask, run_bind, run_ask]
    exact ih _ _

/-- With a database, a dialogue leads to its result by its exchanges. -/
theorem leads_log (db : Backend σ) (d : Dialogue α) (s : σ) :
    d.Leads (d.log db s) (d.run db s).1 := by
  rw [← run_recorded]
  exact leads_run db d s

theorem run_map (db : Backend σ) (f : α → β) (d : Dialogue α) (s : σ) :
    (f <$> d).run db s = (f (d.run db s).1, (d.run db s).2) := by
  rw [← bind_pure_comp, run_bind]
  rfl

theorem recorded_map (f : α → β) (d : Dialogue α) :
    (f <$> d).recorded = (fun r => (f r.1, r.2)) <$> d.recorded := by
  induction d with
  | done a => rfl
  | ask call next ih =>
    refine congrArg (Dialogue.ask call) (funext fun answer => ?_)
    show ((f <$> next answer).recorded >>= fun r =>
        Dialogue.done (r.1, (⟨call, answer⟩ : Exchange) :: r.2)) =
      (fun r : α × List Exchange => (f r.1, r.2)) <$> ((next answer).recorded >>= fun r =>
        Dialogue.done (r.1, (⟨call, answer⟩ : Exchange) :: r.2))
    rw [ih answer, bind_map_left, map_bind]
    rfl

end Dialogue

/-! ## Attempts -/

namespace Attempt

variable {α β : Type}

/-- A sequence succeeds if both of its parts do. -/
theorem leads_bind_ok {x : Attempt α} {f : α → Attempt β} {log : List Exchange} {b : β}
    (h : (x >>= f).run.Leads log (.ok b)) :
    ∃ before after a, log = before ++ after ∧ x.run.Leads before (.ok a) ∧
      (f a).run.Leads after (.ok b) := by
  rw [ExceptT.run_bind] at h
  obtain ⟨before, after, r, rfl, hx, hf⟩ := Dialogue.leads_bind.1 h
  cases r with
  | error e => exact absurd (Dialogue.leads_done.1 hf).2 nofun
  | ok a => exact ⟨before, after, a, rfl, hx, hf⟩

/-- A sequence succeeds exactly if both of its parts do. -/
theorem leads_bind_iff {x : Attempt α} {f : α → Attempt β} {log : List Exchange} {b : β} :
    (x >>= f).run.Leads log (.ok b) ↔
      ∃ before after a, log = before ++ after ∧ x.run.Leads before (.ok a) ∧
        (f a).run.Leads after (.ok b) := by
  refine ⟨leads_bind_ok, ?_⟩
  rintro ⟨before, after, a, rfl, hx, hf⟩
  rw [ExceptT.run_bind]
  exact Dialogue.leads_bind.2 ⟨before, after, .ok a, rfl, hx, hf⟩

theorem leads_lift {r : Except Error α} {log : List Exchange} {result : Except Error α} :
    (lift r).run.Leads log result ↔ log = [] ∧ result = r :=
  Dialogue.leads_done

theorem eq_ok_of_leads_lift {r : Except Error α} {log : List Exchange} {a : α}
    (h : (lift r).run.Leads log (.ok a)) : r = .ok a :=
  (Dialogue.leads_done.1 h).2.symm

end Attempt

end StepScript
