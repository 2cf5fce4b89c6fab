/-
# Statements of a lock table as a database reads them

A reader for the statements that the lock sends, which undoes what their texts do to a name and a
holder: quotes inside a literal are doubled, and integers are decimal.  With it, the lock tables of
every known dialect with transactions and table locks are understood.
-/
import StepScript.Proofs.Lock.System
import StepScript.Proofs.Text.Search

namespace StepScript.Locking

/-! ## Literals -/

/-- Reads a literal behind its opening quote: its text, and what follows the closing quote. -/
def readLiteral : List Char → Option (List Char × List Char)
  | '\'' :: '\'' :: rest => (readLiteral rest).map fun (text, rest) => ('\'' :: text, rest)
  | '\'' :: rest => some ([], rest)
  | c :: rest => (readLiteral rest).map fun (text, rest) => (c :: text, rest)
  | [] => none

/-- Doubling the quotes of a text, character by character. -/
theorem doubleQuotes_cons (c : Char) (cs : List Char) :
    Text.replace ['\''] ['\'', '\''] (c :: cs) =
      (if c = '\'' then ['\'', '\''] else [c]) ++ Text.replace ['\''] ['\'', '\''] cs := by
  unfold Text.replace
  by_cases hc : c = '\''
  · subst hc
    rw [if_pos rfl]
    refine @Text.replaceWith_of_some _ _ [] cs _ (if_pos ?_)
    exact Text.startsWith_append ['\''] cs
  · rw [if_neg hc]
    refine Text.replaceWith_cons_of_none (if_neg ?_)
    rw [Text.startsWith_cons_ne hc]
    exact Bool.false_ne_true

/-- **A literal is read as the text that was quoted**, unless another quote follows it. -/
theorem readLiteral_replace (text rest : List Char) (hrest : rest.head? ≠ some '\'') :
    readLiteral (Text.replace ['\''] ['\'', '\''] text ++ '\'' :: rest) = some (text, rest) := by
  induction text with
  | nil =>
    cases rest with
    | nil => rfl
    | cons c cs =>
      have hc : c ≠ '\'' := by
        rintro rfl
        exact hrest rfl
      show readLiteral ('\'' :: c :: cs) = some ([], c :: cs)
      rw [readLiteral]
      intro _ h
      exact hc (List.cons.inj h).1
  -- a quote was doubled and is read as one; anything else was copied
  | cons c cs ih =>
    rw [doubleQuotes_cons]
    by_cases hc : c = '\''
    · subst hc
      rw [if_pos rfl, List.append_assoc, List.cons_append, List.cons_append, List.nil_append,
        readLiteral, ih]
      rfl
    · rw [if_neg hc, List.append_assoc, List.singleton_append, readLiteral, ih]
      · rfl
      · intro _ h
        exact absurd h hc
      · exact hc

/-! ## Integers -/

/-- Reads a number, and what follows it. -/
def readNat (s : List Char) : Nat × List Char :=
  (Nat.ofDigitChars 10 (s.takeWhile Char.isDigit) 0, s.dropWhile Char.isDigit)

/-- Reads an integer, and what follows it. -/
def readInt : List Char → Int × List Char
  | '-' :: s => (-(readNat s).1, (readNat s).2)
  | s => ((readNat s).1, (readNat s).2)

/-- A number is read as itself, unless another digit follows it. -/
theorem readNat_repr (n : Nat) {c : Char} (hc : c.isDigit = false) (rest : List Char) :
    readNat (n.repr.toList ++ c :: rest) = (n, c :: rest) := by
  have hdigits : ∀ d ∈ Nat.toDigits 10 n, d.isDigit = true := fun d hd =>
    Nat.isDigit_of_mem_toDigits (by decide) (by decide) hd
  have hstop : ¬c.isDigit = true := Bool.eq_false_iff.1 hc
  rw [readNat, Nat.toList_repr, List.takeWhile_append_of_pos hdigits,
    List.dropWhile_append_of_pos hdigits, List.takeWhile_cons_of_neg hstop,
    List.dropWhile_cons_of_neg hstop, List.append_nil, Nat.ofDigitChars_ten_toDigits]

/-- **An integer is read as itself**, unless another digit follows it. -/
theorem readInt_toString (n : Int) {c : Char} (hc : c.isDigit = false) (rest : List Char) :
    readInt ((toString n).toList ++ c :: rest) = (n, c :: rest) := by
  cases n with
  | ofNat n =>
    -- a number starts with a digit, which is no sign
    have hsign : ∀ s, n.repr.toList ++ c :: rest ≠ '-' :: s := by
      intro s h
      cases hdigits : Nat.toDigits 10 n with
      | nil => exact Nat.toDigits_ne_nil hdigits
      | cons d ds =>
        have hd : d.isDigit = true :=
          Nat.isDigit_of_mem_toDigits (by decide) (by decide) (hdigits ▸ List.mem_cons_self)
        rw [Nat.toList_repr, hdigits] at h
        cases (List.cons.inj h).1
        exact absurd hd (by decide)
    show readInt (n.repr.toList ++ c :: rest) = _
    rw [readInt]
    · rw [readNat_repr n hc rest]
      rfl
    · exact hsign
  | negSucc n =>
    show readInt (("-" ++ (n + 1).repr).toList ++ c :: rest) = _
    rw [String.toList_append, List.append_assoc]
    -- behind the sign there is the number without it
    show readInt ('-' :: ((n + 1).repr.toList ++ c :: rest)) = _
    rw [readInt, readNat_repr (n + 1) hc rest]
    rfl

/-! ## Statements -/

/-- Reads the row of a condition on a name and a holder: an opening that ends in the quote of the
name, the name, a text between them, and the holder. -/
def readCondition (opening between : String) (s : List Char) : Option Row := do
  let s ← Text.after? opening.toList s
  let (name, s) ← readLiteral s
  let s ← Text.after? between.toList s
  if (readInt s).2 = [';'] then some (String.ofList name, (readInt s).1) else none

/-- Reads the row of a list of values: an opening, the holder, a text that ends in the quote of the
name, the name, and an ending. -/
def readValues (opening between ending : String) (s : List Char) : Option Row := do
  let s ← Text.after? opening.toList s
  let holder := (readInt s).1
  let s ← Text.after? between.toList (readInt s).2
  let (name, s) ← readLiteral s
  if s = ending.toList then some (String.ofList name, holder) else none

/-- Reads the statements about one lock table, which differ in their first letters. -/
def readSql (table : String) : Reading := fun sql =>
  if sql.toList.head? = some 's' then
    (readCondition ("select count(*) from " ++ table ++ " where transform_name='")
      " and transform_lock_id!=" sql.toList).map .count
  else if sql.toList.head? = some 'i' then
    (readValues ("insert into " ++ table ++
      " (transform_lock_id, transform_name, transform_lock_time) values (") ", '"
      ", current_timestamp);" sql.toList).map fun row => .change (.insert row)
  else if sql.toList.head? = some 'd' then
    (readCondition ("delete from " ++ table ++ " where transform_name='")
      " and transform_lock_id=" sql.toList).map fun row => .change (.delete row)
  else if sql = "begin;" then some .begin
  else if sql = "commit;" then some .commit
  else if sql = "rollback;" then some .rollback
  else if sql = "lock table " ++ table ++ ";" then some .lockTable
  else none

theorem toList_doubleQuotes (name : String) :
    (Text.doubleQuotes name).toList = Text.replace ['\''] ['\'', '\''] name.toList :=
  String.toList_ofList

/-- A condition is read as the row it is about. -/
theorem readCondition_append (opening between closing name : String) (holder : Int)
    (hclosing : closing.toList = '\'' :: between.toList) {c : Char}
    (hbetween : between.toList.head? = some c) (hc : c ≠ '\'') :
    readCondition opening between
      (opening ++ Text.doubleQuotes name ++ closing ++ toString holder ++ ";").toList =
        some (name, holder) := by
  have hend : ";".toList = [';'] := by decide
  have hhead : (between.toList ++ ((toString holder).toList ++ [';'])).head? ≠ some '\'' := by
    rw [List.head?_append, hbetween, Option.some_or]
    exact fun h => hc (Option.some.inj h)
  unfold readCondition
  simp only [String.toList_append, toList_doubleQuotes, hclosing, hend, List.append_assoc,
    List.cons_append, Option.bind_eq_bind]
  rw [Text.after?_eq_some.2 rfl, Option.bind_some, readLiteral_replace _ _ hhead, Option.bind_some,
    Text.after?_eq_some.2 rfl, Option.bind_some, readInt_toString holder (by decide) [], if_pos rfl,
    String.ofList_toList]

/-- A list of values is read as the row it gives. -/
theorem readValues_append (opening between closing ending name : String) (holder : Int)
    (hclosing : closing.toList = '\'' :: ending.toList) {c d : Char} {cs : List Char}
    (hbetween : between.toList = c :: cs) (hc : c.isDigit = false)
    (hending : ending.toList.head? = some d) (hd : d ≠ '\'') :
    readValues opening between ending
      (opening ++ toString holder ++ between ++ Text.doubleQuotes name ++ closing).toList =
        some (name, holder) := by
  have hhead : ending.toList.head? ≠ some '\'' := by
    rw [hending]
    exact fun h => hd (Option.some.inj h)
  have hafter : ∀ s, Text.after? (c :: cs) (c :: (cs ++ s)) = some s := fun s =>
    Text.after?_eq_some.2 rfl
  unfold readValues
  simp only [String.toList_append, toList_doubleQuotes, hclosing, hbetween, List.append_assoc,
    List.cons_append, Option.bind_eq_bind]
  rw [Text.after?_eq_some.2 rfl, Option.bind_some, readInt_toString holder hc]
  dsimp only
  rw [hafter, Option.bind_some, readLiteral_replace _ _ hhead, Option.bind_some]
  exact (if_pos rfl).trans (by rw [String.ofList_toList])

/-- The first character of a text is that of its first part. -/
theorem head?_append {s t : String} {c : Char} (h : s.toList.head? = some c) :
    (s ++ t).toList.head? = some c := by
  rw [String.toList_append, List.head?_append, h]
  rfl

/-- The lock of the table is read as such. -/
theorem readSql_lockTable (table : String) :
    readSql table ("lock table " ++ table ++ ";") = some .lockTable := by
  have hhead : ("lock table " ++ table ++ ";").toList.head? = some 'l' := by
    iterate 2 apply head?_append
    decide +kernel
  -- the other statements start with other letters
  have hne : ∀ c, 'l' ≠ c → ("lock table " ++ table ++ ";").toList.head? ≠ some c := by
    intro c hc
    rw [hhead]
    exact fun h => hc (Option.some.inj h)
  have htext : ∀ {s : String} {c}, s.toList.head? = some c → 'l' ≠ c →
      "lock table " ++ table ++ ";" ≠ s := by
    rintro s c hs hc rfl
    exact hne c hc hs
  unfold readSql
  rw [if_neg (hne 's' (by decide)), if_neg (hne 'i' (by decide)), if_neg (hne 'd' (by decide)),
    if_neg (htext (by decide +kernel : "begin;".toList.head? = some 'b') (by decide)),
    if_neg (htext (by decide +kernel : "commit;".toList.head? = some 'c') (by decide)),
    if_neg (htext (by decide +kernel : "rollback;".toList.head? = some 'r') (by decide)),
    if_pos rfl]

/-- The count of the rows of others is read as such. -/
theorem readSql_countStatement (l : LockTable) (name : String) (holder : Int) :
    readSql l.table (l.countStatement name holder) = some (.count (name, holder)) := by
  have hhead : (l.countStatement name holder).toList.head? = some 's' := by
    unfold LockTable.countStatement
    iterate 6 apply head?_append
    decide +kernel
  have hread := readCondition_append ("select count(*) from " ++ l.table ++
    " where transform_name='") " and transform_lock_id!=" "' and transform_lock_id!=" name holder
    (by decide +kernel) (by decide +kernel : _ = some ' ') (by decide)
  unfold readSql
  rw [if_pos hhead]
  unfold LockTable.countStatement
  rw [hread]
  rfl

/-- A new row is read as such. -/
theorem readSql_insertStatement (l : LockTable) (name : String) (holder : Int) :
    readSql l.table (l.insertStatement name holder) = some (.change (.insert (name, holder))) := by
  have hhead : (l.insertStatement name holder).toList.head? = some 'i' := by
    unfold LockTable.insertStatement
    iterate 6 apply head?_append
    decide +kernel
  have hread := readValues_append ("insert into " ++ l.table ++
    " (transform_lock_id, transform_name, transform_lock_time) values (") ", '"
    "', current_timestamp);" ", current_timestamp);" name holder (by decide +kernel)
    (by decide +kernel : _ = [',', ' ', '\'']) (by decide) (by decide +kernel : _ = some ',')
    (by decide)
  unfold readSql
  rw [hhead, if_neg (by decide), if_pos rfl]
  unfold LockTable.insertStatement
  rw [hread]
  rfl

/-- The removal of a row is read as such. -/
theorem readSql_deleteStatement (l : LockTable) (name : String) (holder : Int) :
    readSql l.table (l.deleteStatement name holder) = some (.change (.delete (name, holder))) := by
  have hhead : (l.deleteStatement name holder).toList.head? = some 'd' := by
    unfold LockTable.deleteStatement
    iterate 6 apply head?_append
    decide +kernel
  have hread := readCondition_append ("delete from " ++ l.table ++
    " where transform_name='") " and transform_lock_id=" "' and transform_lock_id=" name holder
    (by decide +kernel) (by decide +kernel : _ = some ' ') (by decide)
  unfold readSql
  rw [hhead, if_neg (by decide), if_neg (by decide), if_pos rfl]
  unfold LockTable.deleteStatement
  rw [hread]
  rfl

/-- The known dialects begin and end transactions alike. -/
theorem transactionStatements_of_mem_builtins : ∀ d ∈ Dialect.builtins,
    d.beginStatement = "begin;" ∧ d.commitStatement = "commit;" ∧
      d.rollbackStatement = "rollback;" := by
  decide +kernel

/-- **The lock tables of the known dialects are understood**, if their dialect has transactions and
table locks. -/
theorem understood_readSql {l : LockTable} (hdialect : l.dialect ∈ Dialect.builtins)
    (htransactions : l.dialect.transactions = true) (hlocking : l.dialect.tableLocking = true) :
    l.Understood (readSql l.table) where
  transactions := htransactions
  tableLocking := hlocking
  beginning := by
    rw [(transactionStatements_of_mem_builtins _ hdialect).1]
    rfl
  locking := readSql_lockTable l.table
  committing := by
    rw [(transactionStatements_of_mem_builtins _ hdialect).2.1]
    rfl
  undoing := by
    rw [(transactionStatements_of_mem_builtins _ hdialect).2.2]
    rfl
  counting := readSql_countStatement l
  inserting := readSql_insertStatement l
  deleting := readSql_deleteStatement l

end StepScript.Locking
