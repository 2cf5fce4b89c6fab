/-
# Texts as values of statements

A database finds the values of a statement between single quotes: a literal runs to the next quote
that is not doubled, and a doubled quote stands for one.  The statements about locks, steps and
transforms double the quotes of the texts they are given.  Read by this rule, each of them has the
given texts as its literals, and around the literals always the same text.
-/
import StepScript.Bookkeeping
import StepScript.Proofs.Integer
import StepScript.Proofs.Lock.Sql
import StepScript.Step

namespace StepScript

namespace Sql

open Locking (doubleQuotes_cons readLiteral readLiteral_replace toList_doubleQuotes)

/-! ## Reading -/

/-- A statement taken apart at its literals: the text in front of the first one, and each literal
with the text behind it. -/
structure Parts where
  front : List Char
  quoted : List (List Char × List Char)
  deriving DecidableEq, Repr

namespace Parts

/-- The literals. -/
def literals (p : Parts) : List (List Char) := p.quoted.map (·.1)

/-- The texts around the literals, one more than there are literals. -/
def around (p : Parts) : List (List Char) := p.front :: p.quoted.map (·.2)

/-- The parts with a text in front. -/
def behindText (text : List Char) (p : Parts) : Parts := { p with front := text ++ p.front }

/-- The parts with a literal in front. -/
def behindLiteral (literal : List Char) (p : Parts) : Parts := ⟨[], (literal, p.front) :: p.quoted⟩

end Parts

theorem length_readLiteral {s literal rest : List Char} (h : readLiteral s = some (literal, rest)) :
    rest.length < s.length := by
  fun_induction readLiteral s generalizing literal with
  | case1 s ih =>
    obtain ⟨found, hfound, heq⟩ := Option.map_eq_some_iff.1 h
    cases heq
    have := ih hfound
    simp only [List.length_cons]
    omega
  | case2 s hnext =>
    cases h
    exact Nat.lt_succ_self _
  | case3 c s hdoubled hquote ih =>
    obtain ⟨found, hfound, heq⟩ := Option.map_eq_some_iff.1 h
    cases heq
    exact Nat.lt_succ_of_lt (ih hfound)
  | case4 => cases h

/-- Takes a statement apart; none if its last literal is not closed. -/
def takeApart : List Char → Option Parts
  | [] => some ⟨[], []⟩
  | c :: rest =>
    if c = '\'' then
      match h : readLiteral rest with
      | some (literal, behind) =>
        have : behind.length < rest.length + 1 := Nat.lt_succ_of_lt (length_readLiteral h)
        (takeApart behind).map (.behindLiteral literal)
      | none => none
    else (takeApart rest).map (.behindText [c])
termination_by sql => sql.length

/-- Text without quotes is outside of literals. -/
theorem takeApart_text {text : List Char} (h : '\'' ∉ text) (rest : List Char) :
    takeApart (text ++ rest) = (takeApart rest).map (.behindText text) := by
  induction text with
  | nil => exact (Option.map_id_apply).symm
  | cons c text ih =>
    rw [List.mem_cons, not_or] at h
    rw [List.cons_append, takeApart, if_neg (Ne.symm h.1), ih h.2, Option.map_map]
    rfl

/-- A text in quotes, with its own ones doubled, is a literal, unless another quote follows. -/
theorem takeApart_literal (text rest : List Char) (hrest : rest.head? ≠ some '\'') :
    takeApart ('\'' :: (Text.replace ['\''] ['\'', '\''] text ++ '\'' :: rest)) =
      (takeApart rest).map (.behindLiteral text) := by
  rw [takeApart, if_pos rfl]
  split
  next literal behind h =>
    rw [readLiteral_replace text rest hrest] at h
    cases h
    rfl
  next h =>
    rw [readLiteral_replace text rest hrest] at h
    cases h

/-! ## Writing -/

/-- A text without quotes. -/
def Quoteless (s : String) : Prop := '\'' ∉ s.toList

instance (s : String) : Decidable (Quoteless s) :=
  inferInstanceAs (Decidable (¬ _))

theorem Quoteless.append {s t : String} (hs : Quoteless s) (ht : Quoteless t) :
    Quoteless (s ++ t) := by
  unfold Quoteless
  rw [String.toList_append, List.mem_append, not_or]
  exact ⟨hs, ht⟩

theorem quoteless_intercalate {separator : String} {texts : List String}
    (hseparator : Quoteless separator) (htexts : ∀ text ∈ texts, Quoteless text) :
    Quoteless (separator.intercalate texts) := by
  induction texts with
  | nil => exact (by decide : Quoteless "")
  | cons text texts ih =>
    obtain ⟨htext, hrest⟩ := List.forall_mem_cons.1 htexts
    cases texts with
    | nil => rwa [String.intercalate_singleton]
    | cons next texts =>
      rw [String.intercalate_cons_cons]
      exact (htext.append hseparator).append (ih hrest)

/-- An integer is written without quotes. -/
theorem quoteless_toString (n : Int) : Quoteless (toString n) := by
  have hdigits : ∀ n : Nat, Quoteless n.repr := fun n h =>
    ne_of_isDigit (isDigit_of_mem_repr h) (by decide : '\''.isDigit = false) rfl
  cases n with
  | ofNat n => exact hdigits n
  | negSucc n =>
    show Quoteless ("-" ++ (n + 1).repr)
    exact .append (by decide) (hdigits (n + 1))

/-- A statement with values: the text in front of the first one, and each value with the text behind
it. -/
def write (front : String) : List (String × String) → String
  | [] => front
  | (value, behind) :: more => front ++ "'" ++ Text.doubleQuotes value ++ "'" ++ write behind more

theorem toList_write_cons (front value behind : String) (more : List (String × String)) :
    (write front ((value, behind) :: more)).toList = front.toList ++ '\'' ::
      (Text.replace ['\''] ['\'', '\''] value.toList ++ '\'' :: (write behind more).toList) := by
  have hquote : "'".toList = ['\''] := by decide
  simp only [write, String.toList_append, toList_doubleQuotes, hquote, List.append_assoc,
    List.cons_append, List.nil_append]

/-- A statement starts with the text in front of its values. -/
theorem front_prefix_write (front : String) (more : List (String × String)) :
    front.toList <+: (write front more).toList := by
  cases more with
  | nil => exact List.prefix_rfl
  | cons v more => exact toList_write_cons front v.1 v.2 more ▸ List.prefix_append _ _

/-- No quote follows a value if there is text without quotes behind it. -/
theorem head?_write_ne {behind : String} (hquotes : Quoteless behind) (hne : behind ≠ "")
    (more : List (String × String)) : (write behind more).toList.head? ≠ some '\'' := by
  obtain ⟨rest, hrest⟩ := front_prefix_write behind more
  obtain ⟨c, cs, hcs⟩ := List.exists_cons_of_ne_nil fun h => hne (String.toList_eq_nil_iff.1 h)
  rw [← hrest, hcs]
  intro hhead
  apply hquotes
  rw [hcs, Option.some.inj hhead]
  exact List.mem_cons_self

/-- **A statement is taken apart as it was written**, whatever its values are, if the texts around
them have no quotes and values do not follow each other at once. -/
theorem takeApart_write {front : String} {more : List (String × String)} (hfront : Quoteless front)
    (hmore : ∀ v ∈ more, Quoteless v.2 ∧ v.2 ≠ "") :
    takeApart (write front more).toList =
      some ⟨front.toList, more.map fun v => (v.1.toList, v.2.toList)⟩ := by
  induction more generalizing front with
  | nil =>
    have htext := takeApart_text hfront []
    rw [List.append_nil, takeApart, Option.map_some] at htext
    rw [write, htext, Parts.behindText, List.append_nil]
    rfl
  | cons v more ih =>
    obtain ⟨⟨hquotes, hne⟩, hrest⟩ := List.forall_mem_cons.1 hmore
    have hnext := head?_write_ne hquotes hne more
    rw [toList_write_cons, takeApart_text hfront, takeApart_literal _ _ hnext, ih hquotes hrest]
    simp [Parts.behindText, Parts.behindLiteral]

/-! ## Statements that isolate their values -/

/-- A statement in different forms isolates the texts that it is given as values.  Read as SQL, all
statements of one form have the same text around their literals, and their literals are the texts.
Statements of whatever forms differ if their texts do. -/
structure Isolates {κ α : Type} (values : α → List String) (statement : κ → α → String) : Prop where
  reads : ∀ k, ∃ around, ∀ a, ∃ parts, takeApart (statement k a).toList = some parts ∧
    parts.around = around ∧ parts.literals = (values a).map String.toList
  determines : ∀ {k k' a a'}, statement k a = statement k' a' → values a = values a'

/-- Texts with quotes doubled between texts without quotes are isolated. -/
theorem Isolates.of_write {κ α : Type} {values : α → List String} {statement : κ → α → String}
    {front : κ → String} (behind : κ → List String) (hfront : ∀ k, Quoteless (front k))
    (hbehind : ∀ k, ∀ text ∈ behind k, Quoteless text ∧ text ≠ "")
    (hlength : ∀ k a, (values a).length = (behind k).length)
    (hwrite : ∀ k a, statement k a = write (front k) ((values a).zip (behind k))) :
    Isolates values statement := by
  have hreads : ∀ k a, ∃ parts, takeApart (statement k a).toList = some parts ∧
      parts.around = (front k).toList :: (behind k).map String.toList ∧
      parts.literals = (values a).map String.toList := by
    intro k a
    have hmore : ∀ v ∈ (values a).zip (behind k), Quoteless v.2 ∧ v.2 ≠ "" := fun v hv =>
      hbehind k v.2 (List.of_mem_zip hv).2
    have hvalues : ((values a).zip (behind k)).map Prod.fst = values a :=
      List.map_fst_zip (hlength k a).le
    have hbehinds : ((values a).zip (behind k)).map Prod.snd = behind k :=
      List.map_snd_zip (hlength k a).ge
    refine ⟨_, hwrite k a ▸ takeApart_write (hfront k) hmore, ?_, ?_⟩
    · conv_rhs => rw [← hbehinds]
      simp [Parts.around]
    · conv_rhs => rw [← hvalues]
      simp [Parts.literals]
  constructor
  · intro k
    exact ⟨_, fun a => hreads k a⟩
  · intro k k' a a' heq
    obtain ⟨parts, hparts, _, hliterals⟩ := hreads k a
    obtain ⟨parts', hparts', _, hliterals'⟩ := hreads k' a'
    rw [heq, hparts'] at hparts
    cases hparts
    have hsame := hliterals.symm.trans hliterals'
    exact List.map_injective_iff.2 (fun _ _ h => String.toList_injective h) hsame

/-- A text with quotes doubled between two texts without quotes is isolated. -/
theorem Isolates.of_append {κ : Type} {statement : κ → String → String} {front behind : κ → String}
    (hfront : ∀ k, Quoteless (front k)) (hbehind : ∀ k, Quoteless (behind k) ∧ behind k ≠ "")
    (hwrite : ∀ k text,
      statement k text = front k ++ "'" ++ Text.doubleQuotes text ++ "'" ++ behind k) :
    Isolates (fun text => [text]) statement := by
  refine .of_write (fun k => [behind k]) hfront (fun k text htext => ?_) (fun _ _ => rfl) hwrite
  rw [List.mem_singleton.1 htext]
  exact hbehind k

/-- The text behind `where transform_name=` is isolated. -/
theorem Isolates.of_condition {κ : Type} {statement : κ → String → String}
    {opening table : String} {behind : κ → String} (hopening : Quoteless opening)
    (htable : Quoteless table) (hbehind : ∀ k, Quoteless (behind k) ∧ behind k ≠ "")
    (hwrite : ∀ k text, statement k text = opening ++ table ++ " where transform_name='" ++
      Text.doubleQuotes text ++ ("'" ++ behind k)) :
    Isolates (fun text => [text]) statement := by
  have hquote : " where transform_name='" = " where transform_name=" ++ "'" := by decide +kernel
  have hfront : Quoteless (opening ++ table ++ " where transform_name=") :=
    (hopening.append htable).append (by decide +kernel)
  refine .of_append (fun _ => hfront) hbehind fun k text => ?_
  rw [hwrite, hquote]
  simp only [String.append_assoc]

end Sql

open Sql

/-! ## The statements of the lock -/

namespace LockTable

variable {l : LockTable} (htable : Quoteless l.table)

include htable

theorem isolates_countStatement :
    Isolates (fun name => [name]) fun (holder : Int) name => l.countStatement name holder := by
  have hclose : "' and transform_lock_id!=" = "'" ++ " and transform_lock_id!=" := by
    decide +kernel
  have hbehind : ∀ holder : Int,
      Quoteless (" and transform_lock_id!=" ++ toString holder ++ ";") := fun holder =>
    .append (.append (by decide +kernel) (quoteless_toString holder)) (by decide)
  refine .of_condition (by decide +kernel : Quoteless "select count(*) from ") htable
    (fun holder => ⟨hbehind holder, by simp⟩) fun holder name => ?_
  unfold countStatement
  rw [hclose]
  simp only [String.append_assoc]

theorem isolates_deleteStatement :
    Isolates (fun name => [name]) fun (holder : Int) name => l.deleteStatement name holder := by
  have hclose : "' and transform_lock_id=" = "'" ++ " and transform_lock_id=" := by
    decide +kernel
  have hbehind : ∀ holder : Int,
      Quoteless (" and transform_lock_id=" ++ toString holder ++ ";") := fun holder =>
    .append (.append (by decide +kernel) (quoteless_toString holder)) (by decide)
  refine .of_condition (by decide +kernel : Quoteless "delete from ") htable
    (fun holder => ⟨hbehind holder, by simp⟩) fun holder name => ?_
  unfold deleteStatement
  rw [hclose]
  simp only [String.append_assoc]

theorem isolates_holdersStatement :
    Isolates (fun name => [name]) fun (_ : Unit) name => l.holdersStatement name := by
  have hclose : "' order by transform_lock_id;" = "'" ++ " order by transform_lock_id;" := by
    decide +kernel
  have hbehind : Quoteless " order by transform_lock_id;" := by decide +kernel
  refine .of_condition (by decide +kernel : Quoteless "select transform_lock_id from ") htable
    (fun _ => ⟨hbehind, by simp⟩) fun _ name => ?_
  unfold holdersStatement
  rw [hclose]

/-- The statement that adds a row has the name behind the holder. -/
theorem isolates_insertStatement :
    Isolates (fun name => [name]) fun (holder : Int) name => l.insertStatement name holder := by
  have hopen : ", '" = ", " ++ "'" := by decide +kernel
  have hclose : "', current_timestamp);" = "'" ++ ", current_timestamp);" := by decide +kernel
  have hfront : ∀ holder : Int, Quoteless ("insert into " ++ l.table ++
      " (transform_lock_id, transform_name, transform_lock_time) values (" ++ toString holder ++
      ", ") := fun holder =>
    .append (.append (.append (.append (by decide +kernel) htable) (by decide +kernel))
      (quoteless_toString holder)) (by decide)
  have hbehind : Quoteless ", current_timestamp);" := by decide +kernel
  refine .of_append hfront (fun _ => ⟨hbehind, by simp⟩) fun holder name => ?_
  unfold insertStatement
  rw [hopen, hclose]
  simp only [String.append_assoc]

end LockTable

/-! ## The statements about steps and transforms -/

theorem Dialect.quoteless_booleanLiteral (d : Dialect) (b : Bool) :
    Quoteless (d.booleanLiteral b) := by
  unfold booleanLiteral
  split <;> decide

theorem Step.isolates_query {config : Config} (htable : Quoteless config.stepsTable) :
    Isolates (fun name => [name])
      fun (d : Dialect) name => query { config with transformName := name } d := by
  have hclose : "' and is_active=" = "'" ++ " and is_active=" := by decide +kernel
  have hbehind : ∀ d : Dialect, Quoteless
      (" and is_active=" ++ d.booleanLiteral true ++ " order by transform_step asc;") := fun d =>
    .append (.append (by decide +kernel) (d.quoteless_booleanLiteral true)) (by decide +kernel)
  refine .of_condition
    (by decide +kernel : Quoteless "select transform_step, sql_file_path_in_repo from ") htable
    (fun d => ⟨hbehind d, by simp⟩) fun d name => ?_
  unfold query
  rw [hclose]
  simp only [String.append_assoc]

namespace Bookkeeping

/-- The texts of an entry, in the order of their columns. -/
def texts (e : TransformEntry) : List String :=
  [e.name, e.repositoryType, e.repository, e.branch]

/-- An entry with the texts of one entry and the flags of another. -/
def mixed (flags e : TransformEntry) : TransformEntry :=
  { flags with
    name := e.name, repositoryType := e.repositoryType, repository := e.repository,
    branch := e.branch }

/-- The end of the row of an entry: its flags, and the time. -/
def rowEnd (d : Dialect) (e : TransformEntry) : String :=
  ", " ++ d.booleanLiteral e.isActive ++ ", " ++ d.booleanLiteral e.notifyOnSuccess ++ ", " ++
    d.booleanLiteral e.notifyOnFailure ++ ", " ++
    d.booleanLiteral e.notifyOnPreconditionFailure ++ ", current_timestamp);"

theorem quoteless_rowEnd (d : Dialect) (e : TransformEntry) : Quoteless (rowEnd d e) := by
  have hcomma : Quoteless ", " := by decide
  have hflag := d.quoteless_booleanLiteral
  unfold rowEnd
  exact .append (.append (.append (.append (.append (.append (.append (.append hcomma (hflag _))
    hcomma) (hflag _)) hcomma) (hflag _)) hcomma) (hflag _)) (by decide +kernel)

theorem isolates_insertStatement {table : String} (htable : Quoteless table) :
    Isolates texts fun (k : Dialect × TransformEntry) e =>
      insertStatement k.1 table (mixed k.2 e) := by
  have hcolumns : ∀ d, Quoteless (", ".intercalate ((columns d .transforms).map (·.1))) := by
    refine fun d => quoteless_intercalate (by decide) ?_
    show ∀ column ∈ ["transform_name", "repository_type", "sql_repository",
      "sql_repository_branch", "is_active", "notify_on_success",
      "notify_on_non_precondition_failure", "notify_on_precondition_failure", "updated_ts"],
      Quoteless column
    decide +kernel
  have hfront : ∀ d, Quoteless ("insert into " ++ table ++ " (" ++
      ", ".intercalate ((columns d .transforms).map (·.1)) ++ ") values (") := fun d =>
    .append (.append (.append (.append (by decide +kernel) htable) (by decide)) (hcolumns d))
      (by decide +kernel)
  have hend : ", " ++ "current_timestamp" ++ ");" = ", current_timestamp);" := by decide +kernel
  refine .of_write (fun k => [", ", ", ", ", ", rowEnd k.1 k.2]) (fun k => hfront k.1)
    (fun k text htext => ?_) (fun _ _ => show 4 = 4 from rfl) fun k e => ?_
  · have hcomma : Quoteless ", " ∧ ", " ≠ "" := by decide
    have hrow : Quoteless (rowEnd k.1 k.2) ∧ rowEnd k.1 k.2 ≠ "" :=
      ⟨quoteless_rowEnd k.1 k.2, by simp [rowEnd]⟩
    simp only [List.mem_cons, List.not_mem_nil, or_false] at htext
    rcases htext with rfl | rfl | rfl | rfl
    · exact hcomma
    · exact hcomma
    · exact hcomma
    · exact hrow
  · unfold insertStatement
    simp only [texts, mixed, rowEnd, ← hend, List.map_cons, List.map_nil, List.cons_append,
      List.nil_append, String.intercalate_cons_cons, String.intercalate_singleton,
      List.zip_cons_cons, List.zip_nil_right, write, String.append_assoc]

end Bookkeeping

/-- **No text breaks out of its place in a statement.**  The statements about a lock, the query for
the steps of a transform and the statement that adds a transform isolate the texts they are given,
if the names of their tables have no quotes. -/
theorem statements_isolate_texts {l : LockTable} {config : Config} {table : String}
    (hlocks : Quoteless l.table) (hsteps : Quoteless config.stepsTable)
    (htransforms : Quoteless table) :
    Isolates (fun name => [name]) (fun (holder : Int) name => l.countStatement name holder) ∧
    Isolates (fun name => [name]) (fun (holder : Int) name => l.insertStatement name holder) ∧
    Isolates (fun name => [name]) (fun (holder : Int) name => l.deleteStatement name holder) ∧
    Isolates (fun name => [name]) (fun (_ : Unit) name => l.holdersStatement name) ∧
    Isolates (fun name => [name])
      (fun (d : Dialect) name => Step.query { config with transformName := name } d) ∧
    Isolates Bookkeeping.texts (fun (k : Dialect × TransformEntry) e =>
      Bookkeeping.insertStatement k.1 table (Bookkeeping.mixed k.2 e)) :=
  ⟨LockTable.isolates_countStatement hlocks, LockTable.isolates_insertStatement hlocks,
    LockTable.isolates_deleteStatement hlocks, LockTable.isolates_holdersStatement hlocks,
    Step.isolates_query hsteps, Bookkeeping.isolates_insertStatement htransforms⟩

/-- A name that starts and ends as a literal does, and asks for more in between. -/
theorem statements_isolate_texts_open_name :
    let l : LockTable := ⟨.duckdb, ⟨"duckdb:memory", none, none⟩, .new "duckdb", "transform_lock"⟩
    Quoteless l.table ∧ Quoteless ({} : Config).stepsTable ∧ Quoteless "transforms" ∧
    l.countStatement "' or '1'='1'" 7 = "select count(*) from transform_lock " ++
      "where transform_name=''' or ''1''=''1''' and transform_lock_id!=7;" ∧
    ∃ parts, takeApart (l.countStatement "' or '1'='1'" 7).toList = some parts ∧
      parts.literals = ["' or '1'='1'".toList] := by
  intro l
  have hlocks : Quoteless l.table := by decide +kernel
  have hsteps : Quoteless ({} : Config).stepsTable := by decide +kernel
  have htransforms : Quoteless "transforms" := by decide +kernel
  obtain ⟨hcount, _⟩ := statements_isolate_texts hlocks hsteps htransforms
  obtain ⟨around, hreads⟩ := hcount.reads 7
  obtain ⟨parts, hparts, _, hliterals⟩ := hreads "' or '1'='1'"
  exact ⟨hlocks, hsteps, htransforms, by decide +kernel, parts, hparts, hliterals⟩

end StepScript
