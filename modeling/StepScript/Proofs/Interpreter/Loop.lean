/-
# The loop over scripts

What holds of performing statements and scripts after each other, whatever performs them.  A
property that entering a script, each statement and leaving a script keep is kept by the loop.  And
a loop that keeps more than another one does to what they share what the other one does.
-/
import StepScript.Interpreter
import StepScript.Proofs.Command.Ensures

namespace StepScript

/-! ## Forgetting a part of the state -/

section

variable {σ ρ α β : Type}

/-- Something with a state does to what is seen of its state what something else does. -/
def Projects (view : σ → ρ) (x : Stateful σ α) (y : Stateful ρ α) : Prop :=
  ∀ s, (fun r => (r.1, view r.2)) <$> x.run.run s = y.run.run (view s)

namespace Projects

variable {view : σ → ρ} {x : Stateful σ α} {y : Stateful ρ α}

theorem pure (view : σ → ρ) (a : α) : Projects view (Pure.pure a) (Pure.pure a) := by
  intro s
  rfl

theorem bind {f : α → Stateful σ β} {g : α → Stateful ρ β} (hx : Projects view x y)
    (hf : ∀ a, Projects view (f a) (g a)) : Projects view (x >>= f) (y >>= g) := by
  intro s
  rw [ExceptT.run_bind, StateT.run_bind, ExceptT.run_bind, StateT.run_bind, ← hx s, map_bind,
    bind_map_left]
  refine congrArg _ (funext fun r => ?_)
  obtain ⟨e | a, s'⟩ := r
  · rfl
  · exact hf a s'

/-- Both go the same ways. -/
theorem leads_iff (h : Projects view x y) {s : σ} {exchanges : List Exchange} {r : Except Error α}
    {t : ρ} : (y.run.run (view s)).Leads exchanges (r, t) ↔
      ∃ s', (x.run.run s).Leads exchanges (r, s') ∧ t = view s' := by
  rw [← h s, Dialogue.leads_map]
  constructor
  · rintro ⟨⟨r', s'⟩, hx, heq⟩
    cases heq
    exact ⟨s', hx, rfl⟩
  · rintro ⟨s', hx, rfl⟩
    exact ⟨(r, s'), hx, rfl⟩

/-- Against any database both go the same way. -/
theorem run_recorded {τ : Type} (h : Projects view x y) (s : σ) (db : Backend τ) (state : τ)
    {result : Except Error α} {s' : σ} {exchanges : List Exchange} {state' : τ}
    (hx : (x.run.run s).recorded.run db state = (((result, s'), exchanges), state')) :
    (y.run.run (view s)).recorded.run db state = (((result, view s'), exchanges), state') := by
  rw [← h s, Dialogue.recorded_map, Dialogue.run_map, hx]

end Projects

variable {view : σ → ρ} {enter : Script → Stateful σ Unit} {enter' : Script → Stateful ρ Unit}
  {perform : Nat → Statement → Stateful σ (Option Signal)}
  {perform' : Nat → Statement → Stateful ρ (Option Signal)} {leave : Stateful σ Unit}
  {leave' : Stateful ρ Unit}

theorem projects_performEach
    (hperform : ∀ number s, Projects view (perform number s) (perform' number s))
    (number : Nat) (statements : List Statement) :
    Projects view (performEach perform number statements)
      (performEach perform' number statements) := by
  induction statements generalizing number with
  | nil => exact Projects.pure view none
  | cons s rest ih =>
    refine (hperform number s).bind fun signal => ?_
    cases signal with
    | none => exact ih (number + 1)
    | some signal => exact Projects.pure view _

theorem projects_performAll (henter : ∀ script, Projects view (enter script) (enter' script))
    (hperform : ∀ number s, Projects view (perform number s) (perform' number s))
    (hleave : Projects view leave leave') (list : List Script) :
    Projects view (performAll enter perform leave list)
      (performAll enter' perform' leave' list) := by
  induction list with
  | nil => exact Projects.pure view ()
  | cons script rest ih =>
    refine (henter script).bind fun _ => ?_
    refine (projects_performEach hperform 1 script.statements).bind fun signal => ?_
    match signal with
    | none => exact hleave.bind fun _ => ih
    | some .stepExit => exact ih
    | some .transformExit => exact Projects.pure view ()

end

/-! ## What the loop keeps -/

/-- The member of a list where a rest of it starts, and the rest behind it. -/
theorem getElem?_of_drop_eq_cons {α : Type} {list rest : List α} {k : Nat} {a : α}
    (h : a :: rest = list.drop k) :
    list[k]? = some a ∧ k < list.length ∧ rest = list.drop (k + 1) := by
  have ha : list[k]? = some a := by
    rw [← List.head?_drop, ← h]
    rfl
  refine ⟨ha, (List.getElem?_eq_some_iff.1 ha).1, ?_⟩
  rw [← List.tail_drop, ← h]
  rfl

theorem eq_length_of_drop_eq_nil {α : Type} {list : List α} {k : Nat} (hk : k ≤ list.length)
    (h : [] = list.drop k) : k = list.length :=
  Nat.le_antisymm hk (List.drop_eq_nil_iff.1 h.symm)

section

variable {σ : Type} {perform : Nat → Statement → Stateful σ (Option Signal)}
  {Fails : Error → List Exchange → σ → Prop}

/-- What every statement of a script keeps, the script keeps; `k` counts the statements before. -/
theorem ensures_performEach {statements : List Statement}
    (Within : Nat → List Exchange → σ → Prop) (Exits : Signal → List Exchange → σ → Prop)
    (hperform : ∀ k s before t, statements[k]? = some s → Within k before t →
      Ensures (perform (k + 1) s) t fun exchanges r t' =>
        match r with
        | .ok none => Within (k + 1) (before ++ exchanges) t'
        | .ok (some signal) => Exits signal (before ++ exchanges) t'
        | .error e => Fails e (before ++ exchanges) t')
    {k : Nat} (hk : k ≤ statements.length) {rest : List Statement}
    (hrest : rest = statements.drop k) {before : List Exchange} {t : σ} (h : Within k before t) :
    Ensures (performEach perform (k + 1) rest) t fun exchanges r t' =>
      match r with
      | .ok none => Within statements.length (before ++ exchanges) t'
      | .ok (some signal) => Exits signal (before ++ exchanges) t'
      | .error e => Fails e (before ++ exchanges) t' := by
  induction rest generalizing k before t with
  | nil =>
    rw [performEach, Ensures.pure_iff, List.append_nil, ← eq_length_of_drop_eq_nil hk hrest]
    exact h
  | cons s rest ih =>
    obtain ⟨hs, hlt, htail⟩ := getElem?_of_drop_eq_cons hrest
    -- the exchanges so far grow by those of this statement
    rw [performEach, Ensures.bind_iff]
    refine (hperform k s before t hs h).mono ?_
    intro exchanges r t' h'
    match r with
    | .ok none =>
      refine (ih hlt htail h').mono ?_
      intro exchanges' r' t'' h''
      rw [List.append_assoc] at h''
      exact h''
    | .ok (some signal) =>
      show Ensures (pure (some signal)) t' _
      rw [Ensures.pure_iff, List.append_nil]
      exact h'
    | .error e => exact h'

/-- What entering a script, its statements and leaving it keep, all scripts keep; `i` counts the
scripts before.  At the end of the loop all scripts are behind it, or a statement exited. -/
theorem ensures_performAll {enter : Script → Stateful σ Unit} {leave : Stateful σ Unit}
    {scripts : List Script} (Between : Nat → List Exchange → σ → Prop)
    (Within : Nat → Nat → List Exchange → σ → Prop) (Exited : List Exchange → σ → Prop)
    (henter : ∀ i script before t, scripts[i]? = some script → Between i before t →
      Ensures (enter script) t fun exchanges r t' =>
        match r with
        | .ok () => Within i 0 (before ++ exchanges) t'
        | .error e => Fails e (before ++ exchanges) t')
    (hperform : ∀ i script k s before t, scripts[i]? = some script →
      script.statements[k]? = some s → Within i k before t →
      Ensures (perform (k + 1) s) t fun exchanges r t' =>
        match r with
        | .ok none => Within i (k + 1) (before ++ exchanges) t'
        | .ok (some .stepExit) => Between (i + 1) (before ++ exchanges) t'
        | .ok (some .transformExit) => Exited (before ++ exchanges) t'
        | .error e => Fails e (before ++ exchanges) t')
    (hleave : ∀ i script before t, scripts[i]? = some script →
      Within i script.statements.length before t →
      Ensures leave t fun exchanges r t' =>
        match r with
        | .ok () => Between (i + 1) (before ++ exchanges) t'
        | .error e => Fails e (before ++ exchanges) t')
    {i : Nat} (hi : i ≤ scripts.length) {rest : List Script} (hrest : rest = scripts.drop i)
    {before : List Exchange} {t : σ} (h : Between i before t) :
    Ensures (performAll enter perform leave rest) t fun exchanges r t' =>
      match r with
      | .ok () => Between scripts.length (before ++ exchanges) t' ∨ Exited (before ++ exchanges) t'
      | .error e => Fails e (before ++ exchanges) t' := by
  induction rest generalizing i before t with
  | nil =>
    rw [performAll, Ensures.pure_iff, List.append_nil, ← eq_length_of_drop_eq_nil hi hrest]
    exact .inl h
  | cons script rest ih =>
    obtain ⟨hscript, hlt, htail⟩ := getElem?_of_drop_eq_cons hrest
    -- the scripts behind this one
    have hbehind : ∀ {before t}, Between (i + 1) before t →
        Ensures (performAll enter perform leave rest) t fun exchanges r t' =>
          match r with
          | .ok () =>
            Between scripts.length (before ++ exchanges) t' ∨ Exited (before ++ exchanges) t'
          | .error e => Fails e (before ++ exchanges) t' := fun h => ih hlt htail h
    rw [performAll, Ensures.bind_iff]
    refine (henter i script before t hscript h).mono ?_
    intro entering r t₁ h₁
    cases r with
    | error e => exact h₁
    | ok _ =>
      dsimp only at h₁ ⊢
      rw [Ensures.bind_iff]
      -- what a signal of this script leads to
      let Exits : Signal → List Exchange → σ → Prop := fun signal exchanges t =>
        (signal = .stepExit → Between (i + 1) exchanges t) ∧
          (signal = .transformExit → Exited exchanges t)
      have hstatement : ∀ k s before t, script.statements[k]? = some s → Within i k before t →
          Ensures (perform (k + 1) s) t fun exchanges r t' =>
            match r with
            | .ok none => Within i (k + 1) (before ++ exchanges) t'
            | .ok (some signal) => Exits signal (before ++ exchanges) t'
            | .error e => Fails e (before ++ exchanges) t' := by
        intro k s before t hs hw
        refine (hperform i script k s before t hscript hs hw).mono ?_
        intro exchanges r t' h'
        match r with
        | .ok none => exact h'
        | .ok (some .stepExit) => exact ⟨fun _ => h', nofun⟩
        | .ok (some .transformExit) => exact ⟨nofun, fun _ => h'⟩
        | .error e => exact h'
      refine (ensures_performEach (Within i) Exits hstatement (Nat.zero_le _) List.drop_zero.symm
        h₁).mono ?_
      intro during r t₂ h₂
      match r with
      | .error e =>
        rw [List.append_assoc] at h₂
        exact h₂
      | .ok none =>
        dsimp only
        rw [Ensures.bind_iff]
        refine (hleave i script _ t₂ hscript h₂).mono ?_
        intro leaving r t₃ h₃
        cases r with
        | error e => simpa only [List.append_assoc] using h₃
        | ok _ =>
          refine (hbehind h₃).mono ?_
          intro exchanges r t' h'
          simpa only [List.append_assoc] using h'
      -- both exits leave out the check at the end of the script
      | .ok (some .stepExit) =>
        refine (hbehind (h₂.1 rfl)).mono ?_
        intro exchanges r t' h'
        simpa only [List.append_assoc] using h'
      | .ok (some .transformExit) =>
        show Ensures (pure ()) t₂ _
        rw [Ensures.pure_iff, List.append_nil]
        exact .inr (by simpa only [List.append_assoc] using h₂.2 rfl)

end

/-! ## The parts of a run -/

theorem Run.ensures_ofAction {α : Type} {x : Action α} {p : Progress}
    {Q : List Exchange → Except Error α → Progress → Prop} :
    Ensures (Run.ofAction x) p Q ↔
      Ensures x p.workspace fun exchanges r w => Q exchanges r { p with workspace := w } := by
  show (x.run.run p.workspace >>= fun r => Dialogue.done (r.1, { p with workspace := r.2 })).Always
    _ ↔ _
  rw [Dialogue.always_bind]
  simp only [Dialogue.always_done, List.append_nil]
  exact Iff.rfl

/-- The failure in the channel is raised, and the channel is empty afterwards. -/
theorem Action.ensures_raisePending {w : Workspace}
    {Q : List Exchange → Except Error Unit → Workspace → Prop} :
    Ensures Action.raisePending w Q ↔
      Q [] (match w.channel.pending with
        | some e => .error (.unhandled e)
        | none => .ok ()) { w with channel := ErrorChannel.empty } := by
  unfold Action.raisePending
  simp only [Ensures.bind_iff, Ensures.get_iff, Ensures.set_iff, List.nil_append]
  cases w.channel.pending with
  | some e => exact Ensures.throw_iff
  | none => exact Ensures.pure_iff

/-- What is ensured holds of a run against any database. -/
theorem Ensures.of_run {σ τ α : Type} {x : Stateful σ α} {s : σ}
    {Q : List Exchange → Except Error α → σ → Prop} (h : Ensures x s Q) (db : Backend τ)
    (state : τ) :
    Q ((x.run.run s).recorded.run db state).1.2 ((x.run.run s).recorded.run db state).1.1.1
      ((x.run.run s).recorded.run db state).1.1.2 :=
  Dialogue.always_iff.1 h _ _ (Dialogue.leads_run db (x.run.run s) state)

end StepScript
