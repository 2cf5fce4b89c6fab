/-
# One ordering behind six operators

Expressions are compared as operands of one type.  Operands that are no floating-point numbers stand
in exactly one ordering, the usual one of their type, and the operators `=`, `!=`, `>`, `<`, `>=`
and `<=` all read off that one.  Exchanging the expressions turns the ordering round, and it keeps a
comparison from failing or from succeeding.
-/
import Mathlib.Data.String.Basic
import Mathlib.Order.Compare
import StepScript.Expression.Evaluator
import StepScript.Proofs.Outcome

namespace StepScript

/-! ## Orderings of operands -/

/-- A timestamp is earlier than another one: by its day, or by the second of the same day, or by the
fraction of the same second. -/
def Timestamp.Before (a b : Timestamp) : Prop :=
  a.day < b.day ∨ a.day = b.day ∧
    (a.second < b.second ∨ a.second = b.second ∧ a.nano < b.nano)

theorem Timestamp.order_eq_lt {a b : Timestamp} : a.order b = .lt ↔ a.Before b := by
  rw [order, Ordering.then_eq_lt, Ordering.then_eq_lt]
  simp only [compare_lt_iff_lt, compare_eq_iff_eq]
  exact Iff.rfl

theorem Timestamp.order_eq_eq {a b : Timestamp} : a.order b = .eq ↔ a = b := by
  rw [order, Ordering.then_eq_eq, Ordering.then_eq_eq]
  simp only [compare_eq_iff_eq]
  constructor
  · rintro ⟨hday, hsecond, hnano⟩
    cases a
    cases b
    cases hday
    cases hsecond
    cases hnano
    rfl
  · rintro rfl
    exact ⟨rfl, rfl, rfl⟩

theorem Timestamp.order_swap (a b : Timestamp) : (a.order b).swap = b.order a := by
  rw [order, Ordering.swap_then, Ordering.swap_then, ← Std.OrientedCmp.eq_swap,
    ← Std.OrientedCmp.eq_swap, ← Std.OrientedCmp.eq_swap]
  rfl

theorem Double.compare?_swap (x y : Double) :
    (x.compare? y).map Ordering.swap = y.compare? x := by
  cases x with
  | nan => cases y <;> rfl
  | infinite a =>
    cases y with
    | nan => rfl
    | infinite b => cases a <;> cases b <;> rfl
    | finite => cases a <;> rfl
  | finite negative mantissa exponent =>
    cases y with
    | nan => rfl
    | infinite b => cases b <;> rfl
    | finite negative' mantissa' exponent' =>
      rw [compare?, compare?, Option.map_some, ← Std.OrientedCmp.eq_swap, min_comm]

namespace Operands

variable {a b : Value} {operands : Operands}

/-- The operands the other way round. -/
def swap : Operands → Operands
  | .booleans a b => .booleans b a
  | .timestamps a b => .timestamps b a
  | .floats a b => .floats b a
  | .integers a b => .integers b a
  | .texts a b => .texts b a

def AreFloats : Operands → Prop
  | .floats _ _ => True
  | _ => False

/-- The first operand is less than the second, in the usual order of their type.  Nothing is said
of floating-point numbers. -/
def Less : Operands → Prop
  | .booleans a b => a = false ∧ b = true
  | .timestamps a b => a.Before b
  | .floats _ _ => False
  | .integers a b => a < b
  | .texts a b => a < b

/-- The operands are the same. -/
def Same : Operands → Prop
  | .booleans a b => a = b
  | .timestamps a b => a = b
  | .floats _ _ => False
  | .integers a b => a = b
  | .texts a b => a = b

theorem order?_swap (operands : Operands) :
    operands.swap.order? = operands.order?.map Ordering.swap := by
  cases operands with
  | booleans a b => exact congrArg some Std.OrientedCmp.eq_swap
  | timestamps a b => exact congrArg some (Timestamp.order_swap a b).symm
  | floats a b => exact (Double.compare?_swap a b).symm
  | integers a b => exact congrArg some Std.OrientedCmp.eq_swap
  | texts a b => exact congrArg some Std.OrientedCmp.eq_swap

/-- Operands that are no floating-point numbers have an ordering, the usual one of their type. -/
theorem exists_order (h : ¬ operands.AreFloats) :
    ∃ o, operands.order? = some o ∧ (o = .lt ↔ operands.Less) ∧ (o = .eq ↔ operands.Same) := by
  cases operands with
  | booleans a b => exact ⟨_, rfl, compare_lt_iff_lt.trans Bool.lt_iff, compare_eq_iff_eq⟩
  | timestamps a b => exact ⟨_, rfl, Timestamp.order_eq_lt, Timestamp.order_eq_eq⟩
  | floats a b => exact absurd trivial h
  | integers a b => exact ⟨_, rfl, compare_lt_iff_lt, compare_eq_iff_eq⟩
  | texts a b => exact ⟨_, rfl, compare_lt_iff_lt, compare_eq_iff_eq⟩

/-! ## Operands of two values -/

theorem orTexts_swap {α : Type} {make : α → α → Operands}
    (hmake : ∀ x y, (make x y).swap = make y x) (a b : Value) (x y : Option α) :
    (orTexts make a b x y).swap = orTexts make b a y x := by
  cases x with
  | none => cases y <;> rfl
  | some x =>
    cases y with
    | none => rfl
    | some y => exact hmake x y

/-- Values exchanged give operands exchanged. -/
theorem unify_swap (h : unify a b = .ok operands) : unify b a = .ok operands.swap := by
  unfold unify at h ⊢
  rw [Bool.or_comm b.isBoolean, Bool.or_comm b.isTimestamp, Bool.or_comm b.isFloat,
    Bool.or_comm b.isInteger]
  split at h
  · rename_i hboolean
    -- as truth values, both values have to be read
    obtain ⟨x, hx, h⟩ := Outcome.bind_eq_ok.1 h
    obtain ⟨y, hy, h⟩ := Outcome.bind_eq_ok.1 h
    cases h
    rw [if_pos hboolean, hx, hy]
    rfl
  · rename_i hboolean
    rw [if_neg hboolean]
    split at h
    · rename_i htimestamp
      cases h
      rw [if_pos htimestamp, orTexts_swap fun _ _ => rfl]
    · rename_i htimestamp
      rw [if_neg htimestamp]
      split at h
      · rename_i hfloat
        cases h
        rw [if_pos hfloat, orTexts_swap fun _ _ => rfl]
      · rename_i hfloat
        rw [if_neg hfloat]
        split at h
        · rename_i hinteger
          cases h
          rw [if_pos hinteger, orTexts_swap fun _ _ => rfl]
        · rename_i hinteger
          cases h
          rw [if_neg hinteger]
          rfl

theorem not_areFloats_orTexts {α : Type} {make : α → α → Operands}
    (hmake : ∀ x y, ¬ (make x y).AreFloats) (a b : Value) (x y : Option α) :
    ¬ (orTexts make a b x y).AreFloats := by
  cases x with
  | none => exact id
  | some x =>
    cases y with
    | none => exact id
    | some y => exact hmake x y

/-- Operands become floating-point numbers if one of the values is one. -/
theorem not_areFloats_of_unify (ha : a.isFloat = false) (hb : b.isFloat = false)
    (h : unify a b = .ok operands) : ¬ operands.AreFloats := by
  unfold unify at h
  rw [ha, hb] at h
  split at h
  · obtain ⟨x, -, h⟩ := Outcome.bind_eq_ok.1 h
    obtain ⟨y, -, h⟩ := Outcome.bind_eq_ok.1 h
    cases h
    exact id
  · split at h
    · cases h
      exact not_areFloats_orTexts (fun _ _ => id) a b _ _
    · split at h
      · contradiction
      · split at h
        · cases h
          exact not_areFloats_orTexts (fun _ _ => id) a b _ _
        · cases h
          exact id

end Operands

/-! ## The operators -/

/-- An operator that reads off an order. -/
def Operator.ReadsOrder (op : Operator) : Prop :=
  op ≠ .like ∧ op ≠ .notLike

theorem Operator.read_symbol (op : Operator) : Operator.read op.symbol = .ok op := by
  cases op <;> decide

namespace Evaluator

variable (e : Evaluator) {left right : Value} {ops : Operands} {error : Error} {o : Ordering}

/-- The operands of a comparison. -/
def operands (left right : Value) : Except Error Operands := do
  let a ← e.evaluate left
  let b ← e.evaluate right
  Operands.unify a b

/-- A comparison by an operator that reads off an order. -/
theorem compare_symbol {op : Operator} (hop : op.ReadsOrder) (left right : Value) :
    e.compare op.symbol left right =
      (e.operands left right).map fun operands => op.holds operands.order? := by
  unfold compare operands
  rw [op.read_symbol]
  cases e.evaluate left with
  | error _ => rfl
  | ok a =>
    cases e.evaluate right with
    | error _ => rfl
    | ok b =>
      cases op with
      | like => exact absurd rfl hop.1
      | notLike => exact absurd rfl hop.2
      | _ => rfl

/-- All six operators say of two expressions what one ordering of them says. -/
structure Orders (left right : Value) (o : Ordering) : Prop where
  eq : e.compare "=" left right = .ok o.isEq
  ne : e.compare "!=" left right = .ok o.isNe
  gt : e.compare ">" left right = .ok o.isGT
  lt : e.compare "<" left right = .ok o.isLT
  ge : e.compare ">=" left right = .ok o.isGE
  le : e.compare "<=" left right = .ok o.isLE

/-- All six operators fail for two expressions with one error. -/
structure FailsToOrder (left right : Value) (error : Error) : Prop where
  eq : e.compare "=" left right = .error error
  ne : e.compare "!=" left right = .error error
  gt : e.compare ">" left right = .error error
  lt : e.compare "<" left right = .error error
  ge : e.compare ">=" left right = .error error
  le : e.compare "<=" left right = .error error

variable {e}

theorem orders_of_operands (h : e.operands left right = .ok ops)
    (ho : ops.order? = some o) : e.Orders left right o := by
  have hop : ∀ op : Operator, op.ReadsOrder →
      e.compare op.symbol left right = .ok (op.holds (some o)) := by
    intro op hreads
    rw [e.compare_symbol hreads, h, ← ho]
    rfl
  refine ⟨?_, ?_, ?_, ?_, ?_, ?_⟩
  · exact (hop .eq ⟨nofun, nofun⟩).trans (by cases o <;> rfl)
  · exact (hop .ne ⟨nofun, nofun⟩).trans (by cases o <;> rfl)
  · exact (hop .gt ⟨nofun, nofun⟩).trans (by cases o <;> rfl)
  · exact (hop .lt ⟨nofun, nofun⟩).trans (by cases o <;> rfl)
  · exact (hop .ge ⟨nofun, nofun⟩).trans (by cases o <;> rfl)
  · exact (hop .le ⟨nofun, nofun⟩).trans (by cases o <;> rfl)

theorem failsToOrder_of_operands (h : e.operands left right = .error error) :
    e.FailsToOrder left right error := by
  have hop : ∀ op : Operator, op.ReadsOrder → e.compare op.symbol left right = .error error := by
    intro op hreads
    rw [e.compare_symbol hreads, h]
    rfl
  exact ⟨hop .eq ⟨nofun, nofun⟩, hop .ne ⟨nofun, nofun⟩, hop .gt ⟨nofun, nofun⟩,
    hop .lt ⟨nofun, nofun⟩, hop .ge ⟨nofun, nofun⟩, hop .le ⟨nofun, nofun⟩⟩

/-- Expressions are in one ordering at most. -/
theorem Orders.unique {o' : Ordering} (h : e.Orders left right o) (h' : e.Orders left right o') :
    o = o' := by
  have heq : o.isEq = o'.isEq := Except.ok.inj (h.eq.symm.trans h'.eq)
  have hlt : o.isLT = o'.isLT := Except.ok.inj (h.lt.symm.trans h'.lt)
  revert heq hlt
  cases o <;> cases o' <;> decide

theorem Orders.not_failsToOrder (h : e.Orders left right o) :
    ¬ ∃ error, e.FailsToOrder left right error := by
  rintro ⟨error, hfails⟩
  exact nomatch h.eq.symm.trans hfails.eq

theorem operands_eq_ok : e.operands left right = .ok ops ↔
    ∃ a b, e.evaluate left = .ok a ∧ e.evaluate right = .ok b ∧
      Operands.unify a b = .ok ops := by
  unfold Evaluator.operands
  constructor
  · intro h
    obtain ⟨a, ha, h⟩ := Outcome.bind_eq_ok.1 h
    obtain ⟨b, hb, h⟩ := Outcome.bind_eq_ok.1 h
    exact ⟨a, b, ha, hb, h⟩
  · rintro ⟨a, b, ha, hb, h⟩
    rw [ha, hb]
    exact h

/-- Expressions exchanged have operands exchanged. -/
theorem operands_swap (h : e.operands left right = .ok ops) :
    e.operands right left = .ok ops.swap := by
  obtain ⟨a, b, ha, hb, hunify⟩ := operands_eq_ok.1 h
  exact operands_eq_ok.2 ⟨b, a, hb, ha, Operands.unify_swap hunify⟩

section

variable (hleft : ∀ x, e.evaluate left ≠ .ok (.float x))
  (hright : ∀ x, e.evaluate right ≠ .ok (.float x))
include hleft hright

/-- The operands of expressions without floating-point numbers are ordered as usual. -/
theorem orders_of_ok (h : e.operands left right = .ok ops) :
    ∃ o, ops.order? = some o ∧ e.Orders left right o ∧ (o = .lt ↔ ops.Less) ∧
      (o = .eq ↔ ops.Same) := by
  obtain ⟨a, b, ha, hb, hunify⟩ := operands_eq_ok.1 h
  have hnot : ∀ {v w : Value}, (∀ x, e.evaluate v ≠ .ok (.float x)) → e.evaluate v = .ok w →
      w.isFloat = false := by
    intro v w hv hw
    cases w with
    | float x => exact absurd hw (hv x)
    | _ => rfl
  have hfloats := Operands.not_areFloats_of_unify (hnot hleft ha) (hnot hright hb) hunify
  obtain ⟨o, ho, hless, hsame⟩ := Operands.exists_order hfloats
  exact ⟨o, ho, orders_of_operands h ho, hless, hsame⟩

theorem orders_or_failsToOrder :
    (∃ error, e.FailsToOrder left right error) ∨ ∃ o, e.Orders left right o := by
  cases h : e.operands left right with
  | error error => exact .inl ⟨error, failsToOrder_of_operands h⟩
  | ok ops =>
    obtain ⟨o, -, ho, -⟩ := orders_of_ok hleft hright h
    exact .inr ⟨o, ho⟩

theorem Orders.swap (h : e.Orders left right o) : e.Orders right left o.swap := by
  cases hoperands : e.operands left right with
  | error error => exact absurd ⟨error, failsToOrder_of_operands hoperands⟩ h.not_failsToOrder
  | ok ops =>
    obtain ⟨o', ho', hordered, -⟩ := orders_of_ok hleft hright hoperands
    rw [h.unique hordered]
    refine orders_of_operands (operands_swap hoperands) ?_
    rw [Operands.order?_swap, ho']
    rfl

end

/-- **The six operators describe one ordering.**  For two expressions neither of which has a
floating-point number as its value, either all six operators fail with one error, or there is
exactly one ordering from which all six give their answers; it is the usual one of the operands that
the values are read as.  Exchanging the expressions turns the ordering round and fails exactly when
the original fails.  And `notlike` is the opposite of `like`. -/
theorem compare_describes_ordering (hleft : ∀ x, e.evaluate left ≠ .ok (.float x))
    (hright : ∀ x, e.evaluate right ≠ .ok (.float x)) :
    ((∃ error, e.FailsToOrder left right error) ∨ ∃! o, e.Orders left right o) ∧
    (∀ o, e.Orders right left o.swap ↔ e.Orders left right o) ∧
    ((∃ error, e.FailsToOrder right left error) ↔ ∃ error, e.FailsToOrder left right error) ∧
    (∀ a b operands, e.evaluate left = .ok a → e.evaluate right = .ok b →
      Operands.unify a b = .ok operands →
        (e.Orders left right .lt ↔ operands.Less) ∧ (e.Orders left right .eq ↔ operands.Same)) ∧
    ∀ b, e.compare "notlike" left right = .ok b ↔ e.compare "like" left right = .ok (!b) := by
  have hswap : ∀ o, e.Orders right left o.swap ↔ e.Orders left right o := by
    intro o
    constructor
    · intro h
      have hback := h.swap hright hleft
      rwa [Ordering.swap_swap] at hback
    · exact Orders.swap hleft hright
  refine ⟨?_, hswap, ?_, ?_, ?_⟩
  · rcases orders_or_failsToOrder hleft hright with hfails | ⟨o, ho⟩
    · exact .inl hfails
    · exact .inr ⟨o, ho, fun o' ho' => ho'.unique ho⟩
  · -- each of the two comparisons fails or has an ordering, and orderings go over
    constructor
    · intro hfails
      refine (orders_or_failsToOrder hleft hright).resolve_right ?_
      rintro ⟨o, ho⟩
      exact ((hswap o).2 ho).not_failsToOrder hfails
    · intro hfails
      refine (orders_or_failsToOrder hright hleft).resolve_right ?_
      rintro ⟨o, ho⟩
      exact (ho.swap hright hleft).not_failsToOrder hfails
  · intro a b operands ha hb hunify
    obtain ⟨o, -, ho, hless, hsame⟩ :=
      orders_of_ok hleft hright (operands_eq_ok.2 ⟨a, b, ha, hb, hunify⟩)
    have hiff : ∀ o', e.Orders left right o' ↔ o = o' := by
      intro o'
      exact ⟨fun ho' => ho.unique ho', fun heq => heq ▸ ho⟩
    exact ⟨(hiff .lt).trans hless, (hiff .eq).trans hsame⟩
  · intro b
    unfold compare
    rw [show Operator.read "notlike" = .ok .notLike from Operator.read_symbol .notLike,
      show Operator.read "like" = .ok .like from Operator.read_symbol .like]
    cases e.evaluate left with
    | error _ => exact ⟨nofun, nofun⟩
    | ok a =>
      cases e.evaluate right with
      | error _ => exact ⟨nofun, nofun⟩
      | ok b' =>
        show Except.ok _ = Except.ok _ ↔ Except.ok _ = Except.ok _
        rw [Except.ok.injEq, Except.ok.injEq, Bool.not_eq_eq_eq_not]

/-- A number and the text of a greater one, which as texts would be the other way round. -/
theorem compare_describes_ordering_mixed_types :
    let e : Evaluator := ⟨Table.empty, Table.empty.insert "n" (.integer 5)⟩
    (∀ x, e.evaluate (.text ":n") ≠ .ok (.float x)) ∧
    (∀ x, e.evaluate (.text "'12'") ≠ .ok (.float x)) ∧
    e.Orders (.text ":n") (.text "'12'") .lt ∧ e.Orders (.text "'12'") (.text ":n") .gt := by
  intro e
  have hn : e.evaluate (.text ":n") = .ok (.integer 5) := by decide +kernel
  have htwelve : e.evaluate (.text "'12'") = .ok (.text "12") := by decide +kernel
  have hleft : ∀ x, e.evaluate (.text ":n") ≠ .ok (.float x) := by
    intro x
    rw [hn]
    exact nofun
  have hright : ∀ x, e.evaluate (.text "'12'") ≠ .ok (.float x) := by
    intro x
    rw [htwelve]
    exact nofun
  have hunify : Operands.unify (.integer 5) (.text "12") = .ok (.integers 5 12) := by
    decide +kernel
  obtain ⟨-, hswap, -, husual, -⟩ := compare_describes_ordering hleft hright
  have hless : e.Orders (.text ":n") (.text "'12'") .lt := by
    refine (husual _ _ _ hn htwelve hunify).1.2 ?_
    show (5 : Int) < 12
    decide
  exact ⟨hleft, hright, hless, (hswap .lt).2 hless⟩

end Evaluator

end StepScript
