/-
# The lock around a run

A transform that runs under its lock opens its session only with the lock taken, and then gives the
lock back once, behind the last statement and before the session is closed, whatever the run came
to.  A run that did not get the lock gives nothing back, and a run without a lock never asks for
one.  Whether the lock can be given back does not matter to the report.
-/
import StepScript.Proofs.Transform.Course
import StepScript.Proofs.Transform.Sessions

namespace StepScript

/-! ## The session of a run -/

theorem opened_append (first second : List Exchange) :
    opened (first ++ second) = opened first ++ opened second :=
  List.filterMap_append

theorem callsOn_append (session : Session) (first second : List Exchange) :
    callsOn session (first ++ second) = callsOn session first ++ callsOn session second := by
  unfold callsOn
  rw [List.map_append, List.filter_append]

theorem Call.IsStatementOn.session? {session : Session} {call : Call}
    (h : call.IsStatementOn session) : call.session? = some session := by
  cases call with
  | connect connector target => exact h.elim
  | close s => exact h.elim
  | execute s sql => exact congrArg some h
  | queryValue s sql => exact congrArg some h
  | queryRows s sql => exact congrArg some h

theorem callsOn_of_isStatementOn {session : Session} {log : List Exchange}
    (h : ∀ x ∈ log, x.call.IsStatementOn session) :
    callsOn session log = log.map Exchange.call := by
  unfold callsOn
  rw [List.filter_eq_self]
  intro call hcall
  obtain ⟨x, hx, rfl⟩ := List.mem_map.1 hcall
  exact decide_eq_true (h x hx).session?

namespace Course

/-- The statements of a run and its other exchanges are apart: nothing else was asked in the session
of the transform, if the database tells its sessions apart. -/
theorem callsOn_log {c : Course} {session : Session} {connector : Connector} {target : Target}
    {answer : Answer (.close session)} (hpreparation : openAfter [] c.preparation = some [])
    (hacquisition : openAfter [] c.acquisition = some [])
    (hrelease : openAfter [] c.release = some [])
    (hopening : c.opening = [⟨.connect connector target, .ok session⟩])
    (hwork : ∀ x ∈ c.work, x.call.IsStatementOn session)
    (hclosing : c.closing = [⟨.close session, answer⟩]) (hfresh : (opened c.log).Nodup) :
    callsOn session c.log = c.work.map Exchange.call ++ [.close session] := by
  have hsession : opened c.opening = [session] := by
    rw [hopening]
    rfl
  simp only [log, opened_append, hsession] at hfresh
  have hnot : session ∉ opened c.preparation ∧ session ∉ opened c.acquisition ∧
      session ∉ opened c.release := by
    grind [List.nodup_append]
  have hclose : callsOn session c.closing = [.close session] := by
    rw [hclosing, callsOn_cons_of_eq rfl]
    rfl
  have hconnect : callsOn session c.opening = [] := by
    rw [hopening, callsOn_cons_of_ne (by simp [Call.session?])]
    rfl
  simp only [log, callsOn_append, hclose, hconnect, callsOn_of_isStatementOn hwork,
    callsOn_eq_nil hpreparation List.not_mem_nil hnot.1,
    callsOn_eq_nil hacquisition List.not_mem_nil hnot.2.1,
    callsOn_eq_nil hrelease List.not_mem_nil hnot.2.2, List.nil_append]

end Course

theorem Dialogue.Leaves.openAfter {α : Type} {d : Dialogue α} {sessions sessions' : List Session}
    (h : d.Leaves sessions sessions') {log : List Exchange} {a : α} (hlog : d.Leads log a) :
    openAfter sessions log = some sessions' :=
  Dialogue.always_iff.1 h log a hlog

/-! ## The lock of a run -/

namespace Transform

variable {t : Transform} {host : Host} {ground : Ground} {log : List Exchange}

/-- What a run makes of the attempt to take its lock. -/
def heldOr (name : String) : Except Error Bool → Except Error Unit
  | .ok true => .ok ()
  | .ok false => .error (.locked name)
  | .error e => .error e

theorem leads_takeLock (hlocked : t.config.locked = true) {r : Except Error Unit} :
    (t.takeLock ground).run.Leads log r ↔
      ∃ taken, ((t.lockTable ground).acquire t.config.transformName t.config.lockId).run.Leads log
        taken ∧ r = heldOr t.config.transformName taken := by
  have htake : (t.takeLock ground).run = heldOr t.config.transformName <$>
      ((t.lockTable ground).acquire t.config.transformName t.config.lockId).run := by
    unfold takeLock
    rw [if_pos hlocked, ExceptT.run_bind, map_eq_pure_bind]
    refine congrArg _ (funext fun taken => ?_)
    match taken with
    | .ok true => rfl
    | .ok false => rfl
    | .error e => rfl
  rw [htake, Dialogue.leads_map]

theorem takeLock_of_unlocked (hlocked : t.config.locked = false) :
    t.takeLock ground = pure () := by
  rw [takeLock, hlocked]
  rfl

theorem giveLockBack_of_locked (hlocked : t.config.locked = true) : t.giveLockBack ground =
    (t.lockTable ground).release t.config.transformName t.config.lockId :=
  if_pos hlocked

theorem giveLockBack_of_unlocked (hlocked : t.config.locked = false) :
    t.giveLockBack ground = .done () := by
  rw [giveLockBack, hlocked]
  rfl

/-- How a run with a course and a report uses the lock. -/
structure Bracketed (t : Transform) (host : Host)
    (prepared : Except Error (Ground × List Script)) (c : Course) (report : Report) : Prop where
  prepares : (t.prepared host).run.Leads c.preparation prepared
  /-- A transform that is not prepared does nothing else. -/
  unprepared : ∀ e, prepared = .error e → c.acquisition = [] ∧ c.opening = [] ∧ c.work = [] ∧
    c.release = [] ∧ c.closing = []
  /-- There is no session of the transform, none that opened, or one with statements up to its
  close. -/
  session : ∀ ground scripts, prepared = .ok (ground, scripts) →
    (c.opening = [] ∧ c.work = [] ∧ c.closing = []) ∨
    (∃ e, c.opening = [⟨.connect ground.connector t.config.target, .error e⟩] ∧ c.work = [] ∧
      c.closing = []) ∨
    (∃ session answer, c.opening = [⟨.connect ground.connector t.config.target, .ok session⟩] ∧
      (∀ x ∈ c.work, x.call.IsStatementOn session) ∧ c.closing = [⟨.close session, answer⟩] ∧
      ((opened c.log).Nodup →
        callsOn session c.log = c.work.map Exchange.call ++ [.close session]))
  /-- Without a lock, nothing is asked about one. -/
  unlocked : t.config.locked = false → c.acquisition = [] ∧ c.release = []
  /-- With a lock, the session is opened only if the lock was taken; then the lock is given back
  once, and otherwise not at all. -/
  locked : t.config.locked = true → ∀ ground scripts, prepared = .ok (ground, scripts) →
    ∃ taken, ((t.lockTable ground).acquire t.config.transformName t.config.lockId).run.Leads
        c.acquisition taken ∧
      (taken ≠ .ok true → c.opening = [] ∧ c.release = []) ∧
      (taken = .ok true → c.opening ≠ [] ∧
        (t.lockTable ground).Released t.config.transformName t.config.lockId c.release ∧
        -- however giving it back goes, the report is the same
        ∀ release, (t.lockTable ground).Released t.config.transformName t.config.lockId release →
          (t.run host).Leads ({ c with release := release } : Course).log report)

theorem heldOr_eq_ok {name : String} {taken : Except Error Bool} :
    heldOr name taken = .ok () ↔ taken = .ok true := by
  match taken with
  | .ok true => exact ⟨fun _ => rfl, fun _ => rfl⟩
  | .ok false => exact ⟨nofun, nofun⟩
  | .error e => exact ⟨nofun, nofun⟩

theorem bracketed_of_unprepared {preparation : List Exchange} {e : Error} {report : Report}
    (hprepared : (t.prepared host).run.Leads preparation (.error e)) :
    t.Bracketed host (.error e) ⟨preparation, [], [], [], [], []⟩ report where
  prepares := hprepared
  unprepared := fun _ _ => ⟨rfl, rfl, rfl, rfl, rfl⟩
  session := nofun
  unlocked := fun _ => ⟨rfl, rfl⟩
  locked := nofun

theorem bracketed_of_refused {preparation acquisition : List Exchange} {scripts : List Script}
    {e : Error} {report : Report}
    (hprepared : (t.prepared host).run.Leads preparation (.ok (ground, scripts)))
    (htaken : (t.takeLock ground).run.Leads acquisition (.error e)) :
    t.Bracketed host (.ok (ground, scripts)) ⟨preparation, acquisition, [], [], [], []⟩ report
    where
  prepares := hprepared
  unprepared := nofun
  session := fun _ _ _ => .inl ⟨rfl, rfl, rfl⟩
  unlocked := by
    intro hlocked
    rw [takeLock_of_unlocked hlocked] at htaken
    exact absurd (Dialogue.leads_done.1 htaken).2 nofun
  locked := by
    rintro hlocked _ _ ⟨⟩
    obtain ⟨taken, hacquired, hresult⟩ := (leads_takeLock hlocked).1 htaken
    refine ⟨taken, hacquired, fun _ => ⟨rfl, rfl⟩, ?_⟩
    rintro rfl
    cases hresult

/-- Once the lock is taken, or none is needed, the session is opened and the lock given back. -/
theorem bracketed_of_taken {c : Course} {scripts : List Script} {report : Report}
    (hprepared : (t.prepared host).run.Leads c.preparation (.ok (ground, scripts)))
    (htaken : (t.takeLock ground).run.Leads c.acquisition (.ok ()))
    (hreleased : (t.giveLockBack ground).Leads c.release ())
    (hsession : (∃ e, c.opening = [⟨.connect ground.connector t.config.target, .error e⟩] ∧
        c.work = [] ∧ c.closing = []) ∨
      ∃ session answer, c.opening = [⟨.connect ground.connector t.config.target, .ok session⟩] ∧
        (∀ x ∈ c.work, x.call.IsStatementOn session) ∧ c.closing = [⟨.close session, answer⟩])
    (hreport : ∀ release, (t.giveLockBack ground).Leads release () →
      (t.run host).Leads ({ c with release := release } : Course).log report) :
    t.Bracketed host (.ok (ground, scripts)) c report where
  prepares := hprepared
  unprepared := nofun
  session := by
    rintro _ _ ⟨⟩
    refine .inr (hsession.imp_right ?_)
    rintro ⟨session, answer, hopening, hwork, hclosing⟩
    refine ⟨session, answer, hopening, hwork, hclosing, ?_⟩
    exact Course.callsOn_log ((t.leaves_prepare _ _ []).openAfter hprepared)
      ((t.leaves_takeLock ground []).openAfter htaken)
      ((t.leaves_giveLockBack ground []).openAfter hreleased) hopening hwork hclosing
  unlocked := by
    intro hlocked
    rw [takeLock_of_unlocked hlocked] at htaken
    rw [giveLockBack_of_unlocked hlocked] at hreleased
    exact ⟨(Dialogue.leads_done.1 htaken).1, (Dialogue.leads_done.1 hreleased).1⟩
  locked := by
    rintro hlocked _ _ ⟨⟩
    obtain ⟨taken, hacquired, hresult⟩ := (leads_takeLock hlocked).1 htaken
    have htrue : taken = .ok true := heldOr_eq_ok.1 hresult.symm
    rw [giveLockBack_of_locked hlocked] at hreleased hreport
    refine ⟨taken, hacquired, fun hne => absurd htrue hne, fun _ => ⟨?_, ?_, ?_⟩⟩
    · rcases hsession with ⟨e, hopening, _⟩ | ⟨session, answer, hopening, _⟩
      · rw [hopening]
        exact List.cons_ne_nil _ _
      · rw [hopening]
        exact List.cons_ne_nil _ _
    · exact (LockTable.leads_release _ _ _).1 hreleased
    · intro release hrelease
      exact hreport release ((LockTable.leads_release _ _ _).2 hrelease)

/-- Every course of a run has the lock around it. -/
theorem Goes.bracketed {c : Course} {ending : Ending} (h : t.Goes host c ending) :
    ∃ prepared, t.Bracketed host prepared c ending.report := by
  cases h with
  | unprepared hprepared => exact ⟨_, bracketed_of_unprepared hprepared⟩
  | refused hprepared htaken => exact ⟨_, bracketed_of_refused hprepared htaken⟩
  | unconnected e hprepared htaken hreleased =>
    refine ⟨_, bracketed_of_taken hprepared htaken hreleased (.inl ⟨e, rfl, rfl, rfl⟩) ?_⟩
    intro release hrelease
    exact leads_run.2 ⟨_, _, .unconnected e hprepared htaken hrelease, rfl, rfl⟩
  | @unswitched _ _ _ ground scripts statement e session answer hprepared htaken hstatement
      hreleased =>
    refine ⟨_, bracketed_of_taken hprepared htaken hreleased
      (.inr ⟨session, answer, rfl, ?_, rfl⟩) ?_⟩
    · intro x hx
      rw [List.mem_singleton.1 hx]
      rfl
    · intro release hrelease
      exact leads_run.2 ⟨_, _, .unswitched e session answer hprepared htaken hstatement hrelease,
        rfl, rfl⟩
  | looped session answer hprepared htaken hswitched hlooped hreleased =>
    refine ⟨_, bracketed_of_taken hprepared htaken hreleased
      (.inr ⟨session, answer, rfl, ?_, rfl⟩) ?_⟩
    · have hwork := leads_runIn.2 (.inr ⟨_, _, _, hswitched, rfl, hlooped, rfl⟩)
      exact (t.asks_runIn _ _ _ session).of_leads hwork
    · intro release hrelease
      exact leads_run.2 ⟨_, _, .looped session answer hprepared htaken hswitched hlooped hrelease,
        rfl, rfl⟩

end Transform

/-- **The lock is around the run.**  Against every database, the exchanges of a run are those of its
stages in order, and the lock is taken before the session is opened and given back before it is
closed. -/
theorem run_bracketed (t : Transform) (host : Host) {τ : Type} (db : Backend τ) (state : τ) :
    ∃ c prepared, (t.run host).log db state = c.log ∧
      t.Bracketed host prepared c ((t.run host).run db state).1 := by
  have hleads := (t.run host).leads_run db state
  obtain ⟨c, ending, hgoes, hlog, hreport⟩ := Transform.leads_run.1 hleads
  obtain ⟨prepared, hbracketed⟩ := hgoes.bracketed
  refine ⟨c, prepared, hlog, ?_⟩
  rw [← Dialogue.run_recorded, hreport]
  exact hbracketed

end StepScript
