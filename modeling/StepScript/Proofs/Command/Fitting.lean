/-
# Arguments that fit their command

A command looks at its arguments again when it is run, by then as values.  The values of accepted
arguments fit the command: names are names, operators can be read, conditions come in complete
groups, and the action of an error handler is one.
-/
import StepScript.Proofs.Command.Ensures
import StepScript.Proofs.Expression.Argument
import StepScript.Proofs.Registry

namespace StepScript

/-- The values of the arguments of a tag. -/
abbrev Evaluated (e : Evaluator) : List String → List Value → Prop :=
  List.Forall₂ fun a v => e.evaluate (.text a) = .ok v

/-! ## Single arguments -/

/-- The value of an argument is one that a command can use as an argument of a kind. -/
def ArgumentKind.Fits : ArgumentKind → Value → Prop
  | .variableName, v => Reference.isVariableName v.display = true
  | .operator, v => ∃ op, Operator.read v.display = .ok op
  | .expression, _ => True
  | .recordsetName, _ => True

theorem exists_of_isSome_toOption {α : Type} {x : Except Error α} (h : x.toOption.isSome = true) :
    ∃ a, x = .ok a := by
  cases x with
  | ok a => exact ⟨a, rfl⟩
  | error e => cases h

theorem ArgumentKind.fits_of_accepts {kind : ArgumentKind} {a : String} (ht : IsToken a.toList)
    (h : kind.accepts a = true) {e : Evaluator} {v : Value} (hv : e.evaluate (.text a) = .ok v) :
    kind.Fits v := by
  unfold ArgumentKind.accepts at h
  rw [ht.trimmed] at h
  cases kind with
  | variableName =>
    obtain ⟨v', hv', hname⟩ := e.evaluate_variableName ht h
    rw [hv] at hv'
    cases hv'
    exact hname
  | operator =>
    obtain ⟨op, hop⟩ := exists_of_isSome_toOption h
    rw [e.evaluate_operator ht hop] at hv
    cases hv
    exact ⟨op, hop⟩
  | expression => trivial
  | recordsetName => trivial

/-- One accepted argument of each kind gives one fitting value of each kind. -/
theorem fits_of_acceptsArguments {kinds : List ArgumentKind} {arguments : List String}
    {values : List Value} (ht : ∀ a ∈ arguments, IsToken a.toList)
    (h : acceptsArguments kinds arguments = true) {e : Evaluator}
    (hv : Evaluated e arguments values) : List.Forall₂ ArgumentKind.Fits kinds values := by
  induction hv generalizing kinds with
  | nil =>
    cases kinds with
    | nil => exact .nil
    | cons kind kinds => cases h
  | @cons a v arguments values hav _ ih =>
    cases kinds with
    | nil => cases h
    | cons kind kinds =>
      rw [acceptsArguments, Bool.and_eq_true] at h
      refine .cons (ArgumentKind.fits_of_accepts (ht a List.mem_cons_self) h.1 hav) (ih ?_ h.2)
      intro a' ha'
      exact ht a' (List.mem_cons_of_mem a ha')

/-! ## Conditions -/

/-- Complete groups of a mode, a field, an operator and an expression. -/
def ConditionsFit : List Value → Prop
  | [] => True
  | mode :: _ :: operator :: _ :: rest =>
    (∃ m, Condition.readMode mode.display = .ok m) ∧
      (∃ op, Operator.read operator.display = .ok op) ∧ ConditionsFit rest
  | _ => False

theorem conditionsFit_of_accepts {arguments : List String} {values : List Value}
    (ht : ∀ a ∈ arguments, IsToken a.toList) (h : Command.acceptsConditions arguments = true)
    {e : Evaluator} (hv : Evaluated e arguments values) : ConditionsFit values := by
  fun_induction Command.acceptsConditions arguments generalizing values with
  | case1 =>
    cases hv
    trivial
  | case2 mode field operator expression rest ih =>
    simp only [Bool.and_eq_true] at h
    obtain ⟨⟨⟨⟨hmode, _⟩, hoperator⟩, _⟩, hrest⟩ := h
    obtain ⟨m, hm⟩ := exists_of_isSome_toOption hmode
    obtain ⟨op, hop⟩ := exists_of_isSome_toOption hoperator
    cases hv with
    | cons h₁ hv =>
    cases hv with
    | cons h₂ hv =>
    cases hv with
    | cons h₃ hv =>
    cases hv with
    | cons h₄ hv =>
      rw [e.evaluate_conditionMode (ht mode (by simp)) hm] at h₁
      rw [e.evaluate_operator (ht operator (by simp)) hop] at h₃
      cases h₁
      cases h₃
      refine ⟨⟨m, hm⟩, ⟨op, hop⟩, ih ?_ hrest hv⟩
      intro a ha
      exact ht a (by simp [ha])
  | case3 => cases h

theorem ConditionsFit.exists_readGroups {values : List Value} (h : ConditionsFit values) :
    values.length % 4 = 0 ∧ ∃ conditions, Condition.readGroups values = .ok conditions ∧
      ∀ c ∈ conditions, ∃ op, Operator.read c.operator = .ok op := by
  fun_induction ConditionsFit values with
  | case1 =>
    refine ⟨rfl, [], rfl, ?_⟩
    intro c hc
    cases hc
  | case2 mode field operator expression rest ih =>
    obtain ⟨⟨m, hm⟩, hop, hrest⟩ := h
    obtain ⟨hlength, conditions, hconditions, hoperators⟩ := ih hrest
    constructor
    · simp only [List.length_cons]
      omega
    · refine ⟨⟨m, field.display, operator.display, expression⟩ :: conditions, ?_, ?_⟩
      · rw [Condition.readGroups, hm, hconditions]
        rfl
      · intro c hc
        rcases List.mem_cons.1 hc with rfl | hc
        · exact hop
        · exact hoperators c hc
  | case3 => exact h.elim

/-- Complete groups can be read. -/
theorem ConditionsFit.exists_readAll {values : List Value} (h : ConditionsFit values) :
    ∃ conditions, Condition.readAll values = .ok conditions ∧
      ∀ c ∈ conditions, ∃ op, Operator.read c.operator = .ok op := by
  obtain ⟨hlength, conditions, hconditions, hoperators⟩ := h.exists_readGroups
  refine ⟨conditions, ?_, hoperators⟩
  rw [Condition.readAll, if_pos hlength, hconditions]

/-! ## All arguments of a command -/

/-- The values of its arguments are ones that a command can use. -/
def Command.Fits (c : Command) (values : List Value) : Prop :=
  match c with
  | .iterate => ∃ name conditions, values = name :: conditions ∧ ConditionsFit conditions
  | .onError => ∃ argument action, values = [argument] ∧
    HandlerAction.read argument.display = .ok action
  | c => List.Forall₂ ArgumentKind.Fits c.argumentKinds values

/-- **The values of accepted arguments fit.** -/
theorem Statement.Accepted.fits {s : Statement} {c : Command} (h : s.Accepted c) {e : Evaluator}
    {values : List Value} (hv : Evaluated e s.arguments values) : c.Fits values := by
  obtain ⟨_, ht, haccepts⟩ := h
  generalize s.arguments = arguments at ht haccepts hv
  cases c with
  | iterate =>
    cases hv with
    | nil => cases haccepts
    | @cons target name conditions values _ hv =>
      simp only [Command.accepts, Bool.and_eq_true] at haccepts
      refine ⟨name, values, rfl, conditionsFit_of_accepts ?_ haccepts.2 hv⟩
      intro a ha
      exact ht a (List.mem_cons_of_mem target ha)
  | onError =>
    cases hv with
    | nil => cases haccepts
    | @cons a v rest values ha hv =>
      cases hv with
      | nil =>
        rw [Command.accepts] at haccepts
        obtain ⟨action, haction⟩ := exists_of_isSome_toOption haccepts
        rw [e.evaluate_handlerAction (ht a List.mem_cons_self) haction] at ha
        cases ha
        exact ⟨.text a, action, rfl, haction⟩
      | cons _ _ => simp [Command.accepts] at haccepts
  | _ => exact fits_of_acceptsArguments ht haccepts hv

end StepScript
