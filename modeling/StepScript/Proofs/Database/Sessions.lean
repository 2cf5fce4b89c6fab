/-
# Open sessions

A session is opened by a connection that succeeds and ended by a close.  A log of exchanges is
followed by keeping account of the sessions that are open: every call must be made on one of them.
If none is open at the start and at the end, and no two connections gave the same session, then
every session of the log was closed once, by the last call on it.
-/
import Mathlib.Data.List.Nodup
import StepScript.Proofs.Command.Asking

namespace StepScript

/-! ## Calls and sessions -/

/-- The session that a call is made on; a connection is made on none. -/
def Call.session? : Call → Option Session
  | .connect _ _ => none
  | .execute session _ => some session
  | .queryValue session _ => some session
  | .queryRows session _ => some session
  | .close session => some session

/-- The session that an exchange opens. -/
def Exchange.opens? : Exchange → Option Session
  | ⟨.connect _ _, .ok session⟩ => some session
  | _ => none

/-- The sessions opened in a log, in order. -/
def opened (log : List Exchange) : List Session :=
  log.filterMap Exchange.opens?

/-- The calls made on a session, in order. -/
def callsOn (session : Session) (log : List Exchange) : List Call :=
  (log.map Exchange.call).filter fun call => call.session? = some session

/-- The log of a program that uses sessions well. -/
structure Tidy (log : List Exchange) : Prop where
  /-- A call is made on a session that was opened before, so never on one that failed to open. -/
  within : ∀ before x after session, log = before ++ x :: after → x.call.session? = some session →
    session ∈ opened before
  /-- A session that was opened is closed once, by the last call on it. -/
  closed : ∀ session ∈ opened log, ∃ uses, callsOn session log = uses ++ [.close session] ∧
    .close session ∉ uses

/-! ## Following a log -/

/-- The open sessions behind an exchange, or none if its call is made on a session that is not
open. -/
def Exchange.follow (sessions : List Session) : Exchange → Option (List Session)
  | ⟨.connect _ _, .ok session⟩ => some (session :: sessions)
  | ⟨.connect _ _, .error _⟩ => some sessions
  | ⟨.execute session _, _⟩ => if session ∈ sessions then some sessions else none
  | ⟨.queryValue session _, _⟩ => if session ∈ sessions then some sessions else none
  | ⟨.queryRows session _, _⟩ => if session ∈ sessions then some sessions else none
  | ⟨.close session, _⟩ => if session ∈ sessions then some (sessions.erase session) else none

/-- The open sessions behind a log. -/
def openAfter (sessions : List Session) (log : List Exchange) : Option (List Session) :=
  log.foldlM Exchange.follow sessions

theorem openAfter_cons {sessions sessions' : List Session} {x : Exchange} {log : List Exchange} :
    openAfter sessions (x :: log) = some sessions' ↔
      ∃ between, x.follow sessions = some between ∧ openAfter between log = some sessions' := by
  unfold openAfter
  rw [List.foldlM_cons]
  exact Option.bind_eq_some_iff

theorem openAfter_append {sessions sessions' : List Session} {before after : List Exchange} :
    openAfter sessions (before ++ after) = some sessions' ↔
      ∃ between, openAfter sessions before = some between ∧
        openAfter between after = some sessions' := by
  unfold openAfter
  rw [List.foldlM_append]
  exact Option.bind_eq_some_iff

/-- **All an exchange can do**: it opens a session, it opens none, it is a statement in an open
session, or it closes one. -/
theorem follow_cases {sessions sessions' : List Session} {x : Exchange}
    (h : x.follow sessions = some sessions') :
    (∃ session, x.opens? = some session ∧ x.call.session? = none ∧
      sessions' = session :: sessions) ∨
    (x.opens? = none ∧ x.call.session? = none ∧ sessions' = sessions) ∨
    (∃ session, x.opens? = none ∧ x.call.session? = some session ∧ x.call ≠ .close session ∧
      session ∈ sessions ∧ sessions' = sessions) ∨
    (∃ session, x.opens? = none ∧ x.call = .close session ∧ session ∈ sessions ∧
      sessions' = sessions.erase session) := by
  obtain ⟨call, answer⟩ := x
  cases call with
  | connect connector target =>
    cases answer with
    | ok session =>
      cases h
      exact .inl ⟨session, rfl, rfl, rfl⟩
    | error e =>
      cases h
      exact .inr (.inl ⟨rfl, rfl, rfl⟩)
  | close session =>
    obtain ⟨hmem, heq⟩ := Option.ite_none_right_eq_some.1 h
    cases heq
    exact .inr (.inr (.inr ⟨session, rfl, rfl, hmem, rfl⟩))
  | execute session sql =>
    obtain ⟨hmem, heq⟩ := Option.ite_none_right_eq_some.1 h
    cases heq
    exact .inr (.inr (.inl ⟨session, rfl, rfl, by simp, hmem, rfl⟩))
  | queryValue session sql =>
    obtain ⟨hmem, heq⟩ := Option.ite_none_right_eq_some.1 h
    cases heq
    exact .inr (.inr (.inl ⟨session, rfl, rfl, by simp, hmem, rfl⟩))
  | queryRows session sql =>
    obtain ⟨hmem, heq⟩ := Option.ite_none_right_eq_some.1 h
    cases heq
    exact .inr (.inr (.inl ⟨session, rfl, rfl, by simp, hmem, rfl⟩))

/-! ## What a log that can be followed says -/

section

variable {sessions sessions' : List Session} {session : Session} {x : Exchange}
  {log : List Exchange}

theorem opened_cons_of_none (h : x.opens? = none) : opened (x :: log) = opened log := by
  rw [opened, List.filterMap_cons_none h]
  rfl

theorem opened_cons_of_some (h : x.opens? = some session) :
    opened (x :: log) = session :: opened log := by
  rw [opened, List.filterMap_cons_some h]
  rfl

theorem callsOn_cons_of_eq (h : x.call.session? = some session) :
    callsOn session (x :: log) = x.call :: callsOn session log := by
  unfold callsOn
  rw [List.map_cons, List.filter_cons_of_pos (by simpa using h)]

theorem callsOn_cons_of_ne (h : x.call.session? ≠ some session) :
    callsOn session (x :: log) = callsOn session log := by
  unfold callsOn
  rw [List.map_cons, List.filter_cons_of_neg (by simpa using h)]

/-- A session that is open was open before or has been opened. -/
theorem mem_of_openAfter (h : openAfter sessions log = some sessions')
    (hmem : session ∈ sessions') : session ∈ sessions ∨ session ∈ opened log := by
  induction log generalizing sessions with
  | nil =>
    cases h
    exact .inl hmem
  | cons x log ih =>
    obtain ⟨between, hx, hlog⟩ := openAfter_cons.1 h
    have hbetween := ih hlog
    rcases follow_cases hx with ⟨s, hopens, _, rfl⟩ | ⟨hopens, _, rfl⟩ | ⟨s, hopens, _, _, _, rfl⟩ |
      ⟨s, hopens, _, _, rfl⟩
    · rw [opened_cons_of_some hopens]
      rcases hbetween with hbetween | hbetween
      · rcases List.mem_cons.1 hbetween with rfl | hbetween
        · exact .inr List.mem_cons_self
        · exact .inl hbetween
      · exact .inr (List.mem_cons_of_mem _ hbetween)
    · rw [opened_cons_of_none hopens]
      exact hbetween
    · rw [opened_cons_of_none hopens]
      exact hbetween
    · rw [opened_cons_of_none hopens]
      exact hbetween.imp_left List.mem_of_mem_erase

/-- No call is made on a session that is never open. -/
theorem callsOn_eq_nil (h : openAfter sessions log = some sessions') (hmem : session ∉ sessions)
    (hopened : session ∉ opened log) : callsOn session log = [] := by
  induction log generalizing sessions with
  | nil => rfl
  | cons x log ih =>
    obtain ⟨between, hx, hlog⟩ := openAfter_cons.1 h
    rcases follow_cases hx with ⟨s, hopens, hcall, rfl⟩ | ⟨hopens, hcall, rfl⟩ |
      ⟨s, hopens, hcall, _, hs, rfl⟩ | ⟨s, hopens, hcall, hs, rfl⟩
    · rw [opened_cons_of_some hopens, List.mem_cons, not_or] at hopened
      rw [callsOn_cons_of_ne (by rw [hcall]; simp)]
      refine ih hlog ?_ hopened.2
      rw [List.mem_cons, not_or]
      exact ⟨hopened.1, hmem⟩
    · rw [opened_cons_of_none hopens] at hopened
      rw [callsOn_cons_of_ne (by rw [hcall]; simp)]
      exact ih hlog hmem hopened
    · rw [opened_cons_of_none hopens] at hopened
      have hne : s ≠ session := fun heq => hmem (heq ▸ hs)
      rw [callsOn_cons_of_ne (by rw [hcall]; simpa using hne)]
      exact ih hlog hmem hopened
    · rw [opened_cons_of_none hopens] at hopened
      have hne : s ≠ session := fun heq => hmem (heq ▸ hs)
      rw [callsOn_cons_of_ne (by rw [hcall]; simpa [Call.session?] using hne)]
      exact ih hlog (fun herase => hmem (List.mem_of_mem_erase herase)) hopened

/-- A session that is open at some time and not at the end is closed once, by the last call on it,
if no session is opened a second time. -/
theorem exists_close (h : openAfter sessions log = some sessions')
    (hfresh : (sessions ++ opened log).Nodup) (hmem : session ∈ sessions ∨ session ∈ opened log)
    (hend : session ∉ sessions') :
    ∃ uses, callsOn session log = uses ++ [.close session] ∧ .close session ∉ uses := by
  induction log generalizing sessions with
  | nil =>
    cases h
    rcases hmem with hmem | hmem
    · exact absurd hmem hend
    · cases hmem
  | cons x log ih =>
    obtain ⟨between, hx, hlog⟩ := openAfter_cons.1 h
    rcases follow_cases hx with ⟨s, hopens, hcall, rfl⟩ | ⟨hopens, hcall, rfl⟩ |
      ⟨s, hopens, hcall, hclose, hs, rfl⟩ | ⟨s, hopens, hcall, hs, rfl⟩
    · rw [opened_cons_of_some hopens] at hfresh hmem
      rw [callsOn_cons_of_ne (by rw [hcall]; simp)]
      refine ih hlog (List.nodup_middle.1 hfresh) ?_
      rcases hmem with hmem | hmem
      · exact .inl (List.mem_cons_of_mem _ hmem)
      · rcases List.mem_cons.1 hmem with rfl | hmem
        · exact .inl List.mem_cons_self
        · exact .inr hmem
    · rw [opened_cons_of_none hopens] at hfresh hmem
      rw [callsOn_cons_of_ne (by rw [hcall]; simp)]
      exact ih hlog hfresh hmem
    · rw [opened_cons_of_none hopens] at hfresh hmem
      obtain ⟨uses, huses, hnot⟩ := ih hlog hfresh hmem
      by_cases heq : s = session
      · subst heq
        refine ⟨x.call :: uses, ?_, ?_⟩
        · rw [callsOn_cons_of_eq hcall, huses]
          rfl
        · rw [List.mem_cons, not_or]
          exact ⟨hclose.symm, hnot⟩
      · rw [callsOn_cons_of_ne (by rw [hcall]; simpa using heq)]
        exact ⟨uses, huses, hnot⟩
    · rw [opened_cons_of_none hopens] at hfresh hmem
      by_cases heq : s = session
      · -- behind its close the session is neither open nor opened again
        subst heq
        have hdisjoint := List.nodup_append.1 hfresh
        have hlater : callsOn s log = [] := by
          refine callsOn_eq_nil hlog ?_ ?_
          · exact (List.Nodup.mem_erase_iff hdisjoint.1).not.2 fun hne => hne.1 rfl
          · exact fun hopened => hdisjoint.2.2 s hs s hopened rfl
        refine ⟨[], ?_, List.not_mem_nil⟩
        rw [callsOn_cons_of_eq (by rw [hcall]; rfl), hlater, hcall]
        rfl
      · rw [callsOn_cons_of_ne (by rw [hcall]; simpa [Call.session?] using heq)]
        refine ih hlog ?_ ?_
        · exact hfresh.sublist ((List.erase_sublist).append_right _)
        · exact hmem.imp_left (List.mem_erase_of_ne fun h => heq h.symm).2

end

/-- **A log that leaves no session open is tidy**, if no two connections gave the same session. -/
theorem tidy_of_openAfter {log : List Exchange} (h : openAfter [] log = some [])
    (hfresh : (opened log).Nodup) : Tidy log where
  within := by
    intro before x after session hlog hsession
    rw [hlog] at h
    obtain ⟨sessions, hbefore, h⟩ := openAfter_append.1 h
    obtain ⟨sessions', hx, _⟩ := openAfter_cons.1 h
    have hmem : session ∈ sessions := by
      rcases follow_cases hx with ⟨s, _, hcall, _⟩ | ⟨_, hcall, _⟩ | ⟨s, _, hcall, _, hs, _⟩ |
        ⟨s, _, hcall, hs, _⟩
      · rw [hcall] at hsession
        cases hsession
      · rw [hcall] at hsession
        cases hsession
      · rw [hcall] at hsession
        cases hsession
        exact hs
      · rw [hcall] at hsession
        cases hsession
        exact hs
    rcases mem_of_openAfter hbefore hmem with hmem | hmem
    · cases hmem
    · exact hmem
  closed := by
    intro session hsession
    exact exists_close h (by simpa using hfresh) (.inr hsession) List.not_mem_nil

/-! ## Dialogues and open sessions -/

namespace Dialogue

variable {α β : Type} {d : Dialogue α} {sessions sessions' sessions'' : List Session}

/-- With some sessions open at its start, a dialogue leaves others open at its end. -/
def Leaves (d : Dialogue α) (sessions sessions' : List Session) : Prop :=
  d.Always fun log _ => openAfter sessions log = some sessions'

theorem leaves_done (a : α) : (Dialogue.done a).Leaves sessions sessions := rfl

theorem Leaves.bind {f : α → Dialogue β} (hd : d.Leaves sessions sessions')
    (hf : ∀ a, (f a).Leaves sessions' sessions'') : (d >>= f).Leaves sessions sessions'' := by
  unfold Leaves at *
  rw [always_bind]
  refine hd.mono fun before a hbefore => (hf a).mono fun after b hafter => ?_
  exact openAfter_append.2 ⟨sessions', hbefore, hafter⟩

theorem leaves_connect {connector : Connector} {target : Target}
    {next : Answer (.connect connector target) → Dialogue α}
    (herror : ∀ e, (next (.error e)).Leaves sessions sessions')
    (hok : ∀ session : Session, (next (.ok session)).Leaves (session :: sessions) sessions') :
    (Dialogue.ask (.connect connector target) next).Leaves sessions sessions' := by
  intro answer
  cases answer with
  | error e => exact (herror e).mono fun log _ hlog => openAfter_cons.2 ⟨sessions, rfl, hlog⟩
  | ok session => exact (hok session).mono fun log _ hlog => openAfter_cons.2 ⟨_, rfl, hlog⟩

theorem leaves_close {session : Session} (hmem : session ∈ sessions) :
    (Attempt.close session).Leaves sessions (sessions.erase session) := by
  intro answer
  exact openAfter_cons.2 ⟨sessions.erase session, if_pos hmem, rfl⟩

/-- Statements in an open session leave the sessions as they are. -/
theorem Asks.leaves {session : Session} (h : d.Asks (Call.IsStatementOn session))
    (hmem : session ∈ sessions) : d.Leaves sessions sessions := by
  induction d with
  | done a => exact leaves_done a
  | ask call next ih =>
    intro answer
    refine (ih answer (h.2 answer)).mono fun log _ hlog => ?_
    refine openAfter_cons.2 ⟨sessions, ?_, hlog⟩
    have hcall := h.1
    cases call with
    | connect connector target => exact hcall.elim
    | close s => exact hcall.elim
    | execute s sql => exact if_pos (hcall ▸ hmem)
    | queryValue s sql => exact if_pos (hcall ▸ hmem)
    | queryRows s sql => exact if_pos (hcall ▸ hmem)

end Dialogue

end StepScript
