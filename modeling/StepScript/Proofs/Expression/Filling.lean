/-
# Filling in all references at once

A body is filled in by one pass for each session variable, names in descending order, each pass
over what the pass before it wrote.  `fillOnce` is a single pass over the body that takes the
longest name at each colon.  The two agree on texts in which no reference runs into another one and
no value brings a reference of its own: `fill_eq_fillOnce`.
-/
import Mathlib.Data.List.Chain
import Mathlib.Data.List.MinMax
import Mathlib.Data.List.Nodup
import Mathlib.Data.List.TakeWhile
import StepScript.Expression.Evaluator
import StepScript.Proofs.Text.Search

namespace StepScript

/-- A table has one entry for each name. -/
theorem Table.eq_of_fst_eq {α : Type} (t : Table α) {v w : String × α} (hv : v ∈ t.entries)
    (hw : w ∈ t.entries) (h : v.1 = w.1) : v = w := by
  have hnodup : (t.entries.map Prod.fst).Nodup := by
    refine List.pairwise_map.2 (t.ascending.imp ?_)
    intro a b hlt heq
    exact String.lt_irrefl b.1 (heq ▸ hlt)
  exact List.inj_on_of_nodup_map hnodup hv hw h

theorem Table.lookupEntry_eq_some {α : Type} {entries : List (String × α)} {name : String}
    {value : α} (hdistinct : entries.Pairwise fun a b => a.1 < b.1) :
    lookupEntry name entries = some value ↔ (name, value) ∈ entries := by
  induction entries with
  | nil => simp [lookupEntry]
  | cons head rest ih =>
    obtain ⟨key, old⟩ := head
    obtain ⟨hhead, hrest⟩ := List.pairwise_cons.1 hdistinct
    rw [lookupEntry, List.mem_cons]
    by_cases hkey : key = name
    · subst hkey
      rw [if_pos rfl, Option.some.injEq, Prod.mk.injEq]
      constructor
      · intro heq
        exact .inl ⟨rfl, heq.symm⟩
      · rintro (⟨_, rfl⟩ | hmem)
        · rfl
        · exact absurd (hhead _ hmem) (String.lt_irrefl _)
    · rw [if_neg hkey, ih hrest]
      constructor
      · exact .inr
      · rintro (heq | hmem)
        · exact absurd (congrArg Prod.fst heq).symm hkey
        · exact hmem

/-- The value under a name is that of its entry. -/
theorem Table.get?_eq_some {α : Type} {t : Table α} {name : String} {value : α} :
    t.get? name = some value ↔ (name, value) ∈ t.entries :=
  lookupEntry_eq_some t.ascending

/-! ## Evaluators as they are built -/

namespace Evaluator

/-- Every session variable has a name that a variable may have. -/
def WellNamed (e : Evaluator) : Prop :=
  ∀ v ∈ e.session.entries, Reference.isVariableName v.1 = true

instance (e : Evaluator) : Decidable e.WellNamed :=
  inferInstanceAs (Decidable (∀ v ∈ e.session.entries, _))

/-- A new evaluator has no session variables. -/
theorem wellNamed_new {options : CaptureOptions} {environment : Table String} {e : Evaluator}
    (h : Evaluator.new options environment = .ok e) : e.WellNamed := by
  unfold Evaluator.new at h
  cases hc : Environment.capture options environment with
  | error _ => rw [hc] at h; exact absurd h (by simp [Except.map])
  | ok captured =>
    rw [hc] at h
    cases h
    intro v hv
    exact absurd hv (by simp [Table.empty])

/-- A variable is bound only under a name it may have. -/
theorem wellNamed_assign {e e' : Evaluator} {name : String} {value : Value} (he : e.WellNamed)
    (h : e.assign name value = .ok e') : e'.WellNamed := by
  unfold Evaluator.assign at h
  split at h
  next hname =>
    cases h
    intro v hv
    rcases Table.fst_mem_insertEntry hv with hv | ⟨v', hv', heq⟩
    · rw [hv]; exact hname
    · rw [← heq]; exact he v' hv'
  next => exact absurd h (by simp)

/-! ## One pass -/

/-- Of the bindings whose names a text starts with, the one with the longest name. -/
def longest? (bindings : List (String × Value)) (text : List Char) : Option (String × Value) :=
  (bindings.filter fun v => Text.startsWith v.1.toList text).argmax fun v => v.1.toList.length

/-- One left-to-right pass.  At a colon it takes the binding with the longest name, unless a
reference to a field of a reserved name starts there. -/
def fillOnce (reserved : List String) (bindings : List (String × Value)) : List Char → List Char
  | [] => []
  | c :: rest =>
    if c = ':' then
      if isFieldReference reserved rest then ':' :: fillOnce reserved bindings rest
      else
        match longest? bindings rest with
        | some v =>
          v.2.display.toList ++ fillOnce reserved bindings (rest.drop v.1.toList.length)
        | none => ':' :: fillOnce reserved bindings rest
    else c :: fillOnce reserved bindings rest
termination_by text => text.length

/-- Every colon is at the start or behind a character that is neither part of a name nor a colon. -/
def ColonsApart (text : List Char) : Prop :=
  text.IsChain fun c d => d = ':' → Text.isWord c = false ∧ c ≠ ':'

instance (text : List Char) : Decidable (ColonsApart text) :=
  inferInstanceAs (Decidable (text.IsChain _))

/-- Every colon is at the start or behind a character that is neither of a kind nor a colon. -/
def ColonsBehind (kind : Char → Bool) (text : List Char) : Prop :=
  text.IsChain fun c d => d = ':' → kind c = false ∧ c ≠ ':'

instance (kind : Char → Bool) (text : List Char) : Decidable (ColonsBehind kind text) :=
  inferInstanceAs (Decidable (text.IsChain _))

theorem colonsApart_iff {text : List Char} : ColonsApart text ↔ ColonsBehind Text.isWord text :=
  Iff.rfl

section

variable {kind : Char → Bool}

theorem ColonsBehind.suffix {xs ys : List Char} (h : ColonsBehind kind (xs ++ ys)) :
    ColonsBehind kind ys :=
  List.IsChain.right_of_append h

theorem ColonsBehind.drop {s : List Char} (h : ColonsBehind kind s) (n : Nat) :
    ColonsBehind kind (s.drop n) :=
  List.IsChain.drop h n

theorem ColonsBehind.before_colon (xs : List Char) {ys : List Char} {c : Char}
    (h : ColonsBehind kind (xs ++ c :: ':' :: ys)) : kind c = false ∧ c ≠ ':' :=
  (List.isChain_cons_cons.1 h.suffix).1 rfl

/-! ## What can be seen behind a colon -/

/-- How a reference to a field of a name starts. -/
def fieldMark (name : String) : List Char :=
  ':' :: (name.toList ++ ['.'])

theorem fieldMark_append (name : String) (rest : List Char) :
    fieldMark name ++ rest = ':' :: (name.toList ++ ['.'] ++ rest) := rfl

/-- A name that starts a text lies in the run of characters of its kind at the start. -/
theorem prefix_run_append {name run tail : List Char} (hname : ∀ c ∈ name, kind c = true)
    (htail : ∀ c ∈ tail.head?, kind c = false) :
    name <+: run ++ tail ↔ name <+: run := by
  induction name generalizing run with
  | nil => simp
  | cons n name ih =>
    have hn : kind n = true := hname n List.mem_cons_self
    have hrest : ∀ c ∈ name, kind c = true := fun c hc => hname c (List.mem_cons_of_mem n hc)
    cases run with
    | nil =>
      rw [List.nil_append]
      constructor
      -- the name would go on where the run has ended
      · intro h
        obtain ⟨t, rfl⟩ := h
        rw [htail n (by simp)] at hn
        exact absurd hn (by simp)
      · intro h
        exact absurd h (by simp)
    | cons w run =>
      rw [List.cons_append, List.cons_prefix_cons, List.cons_prefix_cons, ih hrest]

/-- A name and a point start a text exactly if the name is its run of word characters and the point
ends the run. -/
theorem prefix_run_append_point {name run tail : List Char}
    (hname : ∀ c ∈ name, Text.isWord c = true) (hrun : ∀ c ∈ run, Text.isWord c = true)
    (htail : ∀ c ∈ tail.head?, Text.isWord c = false) :
    name ++ ['.'] <+: run ++ tail ↔ name = run ∧ tail.head? = some '.' := by
  have hpoint : Text.isWord '.' = false := by decide
  constructor
  · rintro ⟨rest, h⟩
    have hsame : name <+: run := by
      rw [← prefix_run_append hname htail, ← h, List.append_assoc]
      exact List.prefix_append _ _
    obtain ⟨more, rfl⟩ := hsame
    rw [List.append_assoc, List.append_assoc, List.append_cancel_left_eq] at h
    -- a longer run would have the point as one of its word characters
    cases more with
    | nil => rw [List.append_nil, ← List.nil_append tail, ← h]; exact ⟨rfl, rfl⟩
    | cons c more =>
      have hc : Text.isWord '.' = true := by
        have hhead : '.' = c := (List.cons.inj h).1
        rw [hhead]
        exact hrun c (by simp)
      rw [hpoint] at hc
      exact absurd hc (by simp)
  · rintro ⟨rfl, h⟩
    obtain ⟨rest, rfl⟩ : ∃ rest, tail = '.' :: rest := by
      cases tail with
      | nil => simp at h
      | cons c rest => exact ⟨rest, by simpa using h⟩
    exact ⟨rest, by simp⟩

/-- Two texts show the same names at their start if they have the same run of characters of one kind
and the same character, of another kind, behind it. -/
theorem startsWith_run_congr {name run tail tail' : List Char}
    (hname : ∀ c ∈ name, kind c = true) (htail : ∀ c ∈ tail.head?, kind c = false)
    (hhead : tail'.head? = tail.head?) :
    Text.startsWith name (run ++ tail') = Text.startsWith name (run ++ tail) := by
  rw [Bool.eq_iff_iff, Text.startsWith_iff, Text.startsWith_iff,
    prefix_run_append hname (hhead ▸ htail), prefix_run_append hname htail]

theorem isFieldReference_run_congr {reserved : List String} {run tail tail' : List Char}
    (hreserved : ∀ r ∈ reserved, ∀ c ∈ r.toList, Text.isWord c = true)
    (hrun : ∀ c ∈ run, Text.isWord c = true) (htail : ∀ c ∈ tail.head?, Text.isWord c = false)
    (hhead : tail'.head? = tail.head?) :
    isFieldReference reserved (run ++ tail') = isFieldReference reserved (run ++ tail) := by
  unfold isFieldReference
  rw [Bool.eq_iff_iff, List.any_eq_true, List.any_eq_true]
  refine exists_congr fun r => and_congr_right fun hr => ?_
  rw [Text.startsWith_iff, Text.startsWith_iff,
    prefix_run_append_point (hreserved r hr) hrun (hhead ▸ htail),
    prefix_run_append_point (hreserved r hr) hrun htail, hhead]

end

/-! ## The pass on pieces of text -/

section

variable {kind : Char → Bool} {reserved : List String} {bindings : List (String × Value)}

theorem fillOnce_nil : fillOnce reserved bindings [] = [] := by
  rw [fillOnce]

theorem fillOnce_cons_of_ne {c : Char} (h : c ≠ ':') (rest : List Char) :
    fillOnce reserved bindings (c :: rest) = c :: fillOnce reserved bindings rest := by
  rw [fillOnce, if_neg h]

/-- At a colon that starts a reference to a field, the pass copies the colon. -/
theorem fillOnce_field {rest : List Char} (h : isFieldReference reserved rest = true) :
    fillOnce reserved bindings (':' :: rest) = ':' :: fillOnce reserved bindings rest := by
  rw [fillOnce, if_pos rfl, if_pos h]

/-- At a colon that no name follows, the pass copies the colon. -/
theorem fillOnce_unbound {rest : List Char} (h : isFieldReference reserved rest = false)
    (hnone : longest? bindings rest = none) :
    fillOnce reserved bindings (':' :: rest) = ':' :: fillOnce reserved bindings rest := by
  rw [fillOnce, if_pos rfl, if_neg (by rw [h]; simp), hnone]

/-- At a colon that a name follows, the pass writes the value of the longest one. -/
theorem fillOnce_bound {rest : List Char} {v : String × Value}
    (h : isFieldReference reserved rest = false) (hsome : longest? bindings rest = some v) :
    fillOnce reserved bindings (':' :: rest) =
      v.2.display.toList ++ fillOnce reserved bindings (rest.drop v.1.toList.length) := by
  rw [fillOnce, if_pos rfl, if_neg (by rw [h]; simp), hsome]

/-- The pass copies a stretch without colons. -/
theorem fillOnce_append {xs : List Char} (h : ':' ∉ xs) (ys : List Char) :
    fillOnce reserved bindings (xs ++ ys) = xs ++ fillOnce reserved bindings ys := by
  induction xs with
  | nil => rfl
  | cons x xs ih =>
    have hx : x ≠ ':' := fun hx => h (by rw [hx]; exact List.mem_cons_self)
    rw [List.cons_append, fillOnce_cons_of_ne hx, ih fun hxs => h (List.mem_cons_of_mem x hxs)]
    rfl

/-- The pass keeps the first character of a text if it is no colon. -/
theorem head?_fillOnce {text : List Char} (h : text.head? ≠ some ':') :
    (fillOnce reserved bindings text).head? = text.head? := by
  cases text with
  | nil => rw [fillOnce_nil]
  | cons c rest =>
    have hc : c ≠ ':' := fun hc => h (by rw [hc]; rfl)
    rw [fillOnce_cons_of_ne hc]
    rfl

/-- Behind a colon there is a run of characters of the kind, and behind the run neither one of the
kind nor a colon. -/
theorem ColonsBehind.exists_run {rest : List Char} (h : ColonsBehind kind (':' :: rest)) :
    ∃ run tail, rest = run ++ tail ∧ (∀ c ∈ run, kind c = true) ∧
      (∀ c ∈ tail.head?, kind c = false) ∧ tail.head? ≠ some ':' := by
  refine ⟨rest.takeWhile kind, rest.dropWhile kind,
    List.takeWhile_append_dropWhile.symm, fun c hc => List.mem_takeWhile_imp hc, ?_, ?_⟩
  · intro c hc
    have hnot := List.head?_dropWhile_not kind rest
    rw [Option.mem_def.1 hc] at hnot
    simpa using hnot
  · intro hhead
    obtain ⟨more, hmore⟩ : ∃ more, rest.dropWhile kind = ':' :: more := by
      cases htail : rest.dropWhile kind with
      | nil => rw [htail] at hhead; simp at hhead
      | cons c more => rw [htail] at hhead; exact ⟨more, by simpa using hhead⟩
    have hrest : rest = rest.takeWhile kind ++ ':' :: more := by
      rw [← hmore, List.takeWhile_append_dropWhile]
    -- in front of that colon there is the first colon, or the last character of the run
    rcases List.eq_nil_or_concat (rest.takeWhile kind) with hrun | ⟨init, w, hrun⟩
    · rw [hrest, hrun] at h
      have hcolon := ColonsBehind.before_colon [] h
      exact hcolon.2 rfl
    · have hw : kind w = true :=
        List.mem_takeWhile_imp (p := kind) (l := rest) (by rw [hrun]; simp)
      rw [hrest, hrun, List.concat_eq_append, List.append_assoc] at h
      have hw' := (ColonsBehind.before_colon (':' :: init) h).1
      rw [hw] at hw'
      exact absurd hw' (by simp)

theorem colon_not_mem {s : List Char} (hcolon : kind ':' = false) (h : ∀ c ∈ s, kind c = true) :
    ':' ∉ s := by
  intro hmem
  rw [h ':' hmem] at hcolon
  exact absurd hcolon (by simp)

theorem colon_not_mem_of_words {s : List Char} (h : ∀ c ∈ s, Text.isWord c = true) : ':' ∉ s :=
  colon_not_mem (by decide) h

/-- The pass changes nothing that a name behind a colon could depend on. -/
theorem startsWith_fillOnce (reserved : List String) (bindings : List (String × Value))
    {name rest : List Char} (hkind : kind ':' = false) (h : ColonsBehind kind (':' :: rest))
    (hname : ∀ c ∈ name, kind c = true) :
    Text.startsWith name (fillOnce reserved bindings rest) = Text.startsWith name rest := by
  obtain ⟨run, tail, rfl, hrun, htail, hcolon⟩ := h.exists_run
  rw [fillOnce_append (colon_not_mem hkind hrun)]
  exact startsWith_run_congr hname htail (head?_fillOnce hcolon)

theorem isFieldReference_fillOnce (bindings : List (String × Value)) {rest : List Char}
    (h : ColonsBehind Text.isWord (':' :: rest))
    (hreserved : ∀ r ∈ reserved, ∀ c ∈ r.toList, Text.isWord c = true) :
    isFieldReference reserved (fillOnce reserved bindings rest) =
      isFieldReference reserved rest := by
  obtain ⟨run, tail, rfl, hrun, htail, hcolon⟩ := h.exists_run
  rw [fillOnce_append (colon_not_mem_of_words hrun)]
  exact isFieldReference_run_congr hreserved hrun htail (head?_fillOnce hcolon)

/-! ## One pass of many -/

variable {name value : String}

/-- The pass for one variable copies a stretch without colons. -/
theorem fillSession_append {xs : List Char} (h : ':' ∉ xs) (ys : List Char) :
    fillSession reserved name value (xs ++ ys) = xs ++ fillSession reserved name value ys := by
  refine Text.replaceWith_append_of_none ys fun x hx rest => ?_
  have hx : x ≠ ':' := fun hcolon => h (hcolon ▸ hx)
  rw [if_neg (by rw [Text.startsWith_cons_ne hx]; simp)]

/-- A colon that the name does not follow is copied. -/
theorem fillSession_colon {rest : List Char} (h : Text.startsWith name.toList rest = false) :
    fillSession reserved name value (':' :: rest) =
      ':' :: fillSession reserved name value rest := by
  refine Text.replaceWith_cons_of_none ?_
  rw [if_neg (by rw [Text.startsWith_cons_self, h]; simp)]

/-- A reference to the variable is replaced. -/
theorem fillSession_reference {rest : List Char}
    (h : isFieldReference reserved (name.toList ++ rest) = false) :
    fillSession reserved name value (':' :: (name.toList ++ rest)) =
      value.toList ++ fillSession reserved name value rest := by
  refine Text.replaceWith_of_some (c := ':') ?_
  rw [List.cons_append,
    if_pos (by rw [Text.startsWith_cons_self]; exact Text.startsWith_append _ _),
    List.drop_one, List.tail_cons, if_neg (by rw [h]; simp)]
  rfl

/-- The start of a reference to a field stays as it is. -/
theorem fillSession_field {rest : List Char} (hname : ':' ∉ name.toList)
    (h : isFieldReference reserved rest = true) :
    fillSession reserved name value (':' :: rest) =
      ':' :: fillSession reserved name value rest := by
  cases hstart : Text.startsWith name.toList rest with
  | false => exact fillSession_colon hstart
  | true =>
    obtain ⟨more, rfl⟩ := Text.startsWith_iff.1 hstart
    rw [fillSession_append hname]
    show _ = (':' :: name.toList) ++ fillSession reserved name value more
    refine Text.replaceWith_of_some ?_
    rw [List.cons_append,
      if_pos (by rw [Text.startsWith_cons_self]; exact Text.startsWith_append _ _),
      List.drop_one, List.tail_cons, if_pos h]
    rfl

end

/-! ## The longest name -/

section

variable {bindings : List (String × Value)} {text : List Char}

theorem longest?_eq_none :
    longest? bindings text = none ↔
      ∀ v ∈ bindings, Text.startsWith v.1.toList text = false := by
  unfold longest?
  rw [List.argmax_eq_none, List.filter_eq_nil_iff]
  simp

/-- What is found is bound, starts the text and is longer than any other name that does. -/
theorem mem_of_longest? {v : String × Value} (h : longest? bindings text = some v) :
    v ∈ bindings ∧ v.1.toList <+: text ∧
      ∀ w ∈ bindings, w.1.toList <+: text → w.1.toList.length ≤ v.1.toList.length := by
  have hmem := List.mem_filter.1 (List.argmax_mem (Option.mem_def.2 h))
  refine ⟨hmem.1, Text.startsWith_iff.1 hmem.2, fun w hw hstart => ?_⟩
  have hw' : w ∈ bindings.filter fun v => Text.startsWith v.1.toList text :=
    List.mem_filter.2 ⟨hw, Text.startsWith_iff.2 hstart⟩
  exact List.le_of_mem_argmax (f := fun v : String × Value => v.1.toList.length) hw' h

/-- Two bound names of one length that start the same text are the same binding. -/
theorem longest?_eq_some (hinj : ∀ v ∈ bindings, ∀ w ∈ bindings, v.1 = w.1 → v = w)
    {v : String × Value} :
    longest? bindings text = some v ↔ v ∈ bindings ∧ v.1.toList <+: text ∧
      ∀ w ∈ bindings, w.1.toList <+: text → w.1.toList.length ≤ v.1.toList.length := by
  refine ⟨mem_of_longest?, fun ⟨hv, hstart, hmax⟩ => ?_⟩
  cases hfound : longest? bindings text with
  | none =>
    have hnot := longest?_eq_none.1 hfound v hv
    rw [Text.startsWith_iff.2 hstart] at hnot
    exact absurd hnot (by simp)
  | some w =>
    obtain ⟨hw, hstart', hmax'⟩ := mem_of_longest? hfound
    have hlen : v.1.toList.length = w.1.toList.length :=
      le_antisymm (hmax' v hv hstart) (hmax w hw hstart')
    have hsame : v.1.toList = w.1.toList :=
      (List.prefix_of_prefix_length_le hstart hstart' hlen.le).eq_of_length hlen
    rw [hinj v hv w hw (String.toList_inj.1 hsame)]

/-- Of two names that start the same text, the one that comes first in descending order is the
longer one. -/
theorem length_lt_of_lt_of_prefix {short long : String} (hlt : short < long)
    (hshort : short.toList <+: text) (hlong : long.toList <+: text) :
    short.toList.length < long.toList.length := by
  by_contra hle
  have hprefix := List.prefix_of_prefix_length_le hlong hshort (not_lt.1 hle)
  exact List.IsPrefix.le hprefix (String.lt_iff.1 hlt)

/-- A binding at the end of a list in descending order is found only where no other one is. -/
theorem longest?_concat {v : String × Value} (hlt : ∀ w ∈ bindings, v.1 < w.1)
    (text : List Char) :
    longest? (bindings ++ [v]) text =
      (longest? bindings text).or (if Text.startsWith v.1.toList text then some v else none) := by
  cases hstart : Text.startsWith v.1.toList text with
  | false => simp [longest?, List.filter_append, hstart]
  | true =>
    have hfilter : (bindings ++ [v]).filter (fun w => Text.startsWith w.1.toList text) =
        bindings.filter (fun w => Text.startsWith w.1.toList text) ++ [v] := by
      simp [List.filter_append, hstart]
    rw [longest?, hfilter, List.argmax_concat]
    cases hfound : longest? bindings text with
    | none =>
      rw [longest?] at hfound
      rw [hfound]
      rfl
    | some w =>
      obtain ⟨hw, hstart', -⟩ := mem_of_longest? hfound
      have hlen := length_lt_of_lt_of_prefix (hlt w hw) (Text.startsWith_iff.1 hstart) hstart'
      rw [longest?] at hfound
      rw [hfound]
      exact if_neg (Nat.lt_asymm hlen)

/-- The order of the bindings does not matter. -/
theorem longest?_reverse (hinj : ∀ v ∈ bindings, ∀ w ∈ bindings, v.1 = w.1 → v = w) :
    longest? bindings.reverse text = longest? bindings text := by
  have hinj' : ∀ v ∈ bindings.reverse, ∀ w ∈ bindings.reverse, v.1 = w.1 → v = w := by
    intro v hv w hw
    exact hinj v (List.mem_reverse.1 hv) w (List.mem_reverse.1 hw)
  refine Option.ext fun v => ?_
  rw [longest?_eq_some hinj, longest?_eq_some hinj']
  simp only [List.mem_reverse]

end

/-! ## All passes -/

section

variable {kind : Char → Bool} {reserved : List String} {bindings : List (String × Value)}

/-- The pass for one more variable, behind the passes for all variables with greater names, takes
that variable at exactly the colons where none of the others was taken. -/
theorem fillSession_fillOnce {v : String × Value} (hkind : kind ':' = false)
    (hlt : ∀ w ∈ bindings, v.1 < w.1) (hname : ∀ c ∈ v.1.toList, kind c = true)
    (hvalues : ∀ w ∈ bindings, ':' ∉ w.2.display.toList)
    (hfields : ∀ rest, ColonsBehind kind (':' :: rest) →
      isFieldReference reserved (fillOnce reserved bindings rest) = isFieldReference reserved rest)
    (text : List Char) (htext : ColonsBehind kind text) :
    fillSession reserved v.1 v.2.display (fillOnce reserved bindings text) =
      fillOnce reserved (bindings ++ [v]) text := by
  -- the length of the text decreases by a whole name where a reference is taken
  induction hlen : text.length using Nat.strong_induction_on generalizing text with
  | _ n ih =>
  subst hlen
  cases text with
  | nil => rw [fillOnce_nil, fillOnce_nil]; rfl
  | cons c rest =>
  have hrest : ColonsBehind kind rest := htext.drop 1
  have ihrest := ih rest.length (by simp) rest hrest rfl
  by_cases hc : c = ':'
  · subst hc
    cases hfield : isFieldReference reserved rest with
    | true =>
      have hfield' := hfields rest htext
      rw [hfield] at hfield'
      rw [fillOnce_field hfield, fillOnce_field hfield,
        fillSession_field (colon_not_mem hkind hname) hfield', ihrest]
    | false =>
      have hconcat := longest?_concat hlt rest
      cases hfound : longest? bindings rest with
      -- a greater name was taken before, and its value has no colon for this pass
      | some w =>
        rw [hfound, Option.some_or] at hconcat
        have hw := (mem_of_longest? hfound).1
        have ihdrop := ih (rest.drop w.1.toList.length).length
          (by simp only [List.length_drop, List.length_cons]; omega) _ (hrest.drop _) rfl
        rw [fillOnce_bound hfield hfound, fillOnce_bound hfield hconcat,
          fillSession_append (hvalues w hw), ihdrop]
      | none =>
        -- the colon is still there, and behind it what this pass looks at
        rw [hfound, Option.none_or] at hconcat
        have hstart' := startsWith_fillOnce reserved bindings hkind htext hname
        rw [fillOnce_unbound hfield hfound]
        cases hstart : Text.startsWith v.1.toList rest with
        | false =>
          rw [hstart, if_neg (by simp)] at hconcat
          rw [fillSession_colon (hstart'.trans hstart), fillOnce_unbound hfield hconcat, ihrest]
        | true =>
          rw [hstart, if_pos rfl] at hconcat
          obtain ⟨more, rfl⟩ := Text.startsWith_iff.1 hstart
          have hfield' := hfields _ htext
          have hlength : more.length < (':' :: (v.1.toList ++ more)).length := by
            rw [List.length_cons, List.length_append]
            omega
          have ihmore := ih more.length hlength more hrest.suffix rfl
          rw [hfield, fillOnce_append (colon_not_mem hkind hname)] at hfield'
          rw [fillOnce_append (colon_not_mem hkind hname), fillSession_reference hfield',
            fillOnce_bound hfield hconcat, List.drop_left, ihmore]
  · have hsingle : ':' ∉ [c] := by simpa using fun h : ':' = c => hc h.symm
    rw [fillOnce_cons_of_ne hc, fillOnce_cons_of_ne hc]
    exact (fillSession_append hsingle _).trans (by rw [ihrest]; rfl)

/-- The passes for all variables, names in descending order, amount to one pass. -/
theorem foldl_fillSession (hkind : kind ':' = false) (bindings later : List (String × Value))
    (hdesc : (bindings ++ later).Pairwise fun v w => w.1 < v.1)
    (hnames : ∀ v ∈ bindings ++ later, ∀ c ∈ v.1.toList, kind c = true)
    (hvalues : ∀ v ∈ bindings ++ later, ':' ∉ v.2.display.toList)
    (hfields : ∀ bindings rest, ColonsBehind kind (':' :: rest) →
      isFieldReference reserved (fillOnce reserved bindings rest) = isFieldReference reserved rest)
    {text : List Char} (htext : ColonsBehind kind text) :
    later.foldl (fun sql v => fillSession reserved v.1 v.2.display sql)
      (fillOnce reserved bindings text) = fillOnce reserved (bindings ++ later) text := by
  induction later generalizing bindings with
  | nil => rw [List.append_nil, List.foldl_nil]
  | cons v later ih =>
    have happend : bindings ++ v :: later = (bindings ++ [v]) ++ later := by simp
    have hlt : ∀ w ∈ bindings, v.1 < w.1 := fun w hw =>
      (List.pairwise_append.1 hdesc).2.2 w hw v List.mem_cons_self
    rw [List.foldl_cons, fillSession_fillOnce hkind hlt (hnames v (by simp))
      (fun w hw => hvalues w (List.mem_append_left _ hw)) (hfields bindings) text htext]
    rw [happend] at hdesc hnames hvalues ⊢
    exact ih _ hdesc hnames hvalues

/-- Without bindings the pass changes nothing. -/
theorem fillOnce_of_no_bindings (text : List Char) : fillOnce reserved [] text = text := by
  induction text with
  | nil => exact fillOnce_nil
  | cons c rest ih =>
    by_cases hc : c = ':'
    · subst hc
      cases hfield : isFieldReference reserved rest with
      | true => rw [fillOnce_field hfield, ih]
      | false => rw [fillOnce_unbound hfield rfl, ih]
    · rw [fillOnce_cons_of_ne hc, ih]

theorem fillOnce_reverse (hinj : ∀ v ∈ bindings, ∀ w ∈ bindings, v.1 = w.1 → v = w)
    (text : List Char) :
    fillOnce reserved bindings.reverse text = fillOnce reserved bindings text := by
  have hlongest : longest? bindings.reverse = longest? bindings :=
    funext fun _ => longest?_reverse hinj
  fun_induction fillOnce reserved bindings text with
  | case1 => exact fillOnce_nil
  | case2 rest hfield ih => rw [fillOnce_field hfield, ih]
  | case3 rest hfield v hfound ih =>
    rw [fillOnce_bound (by simpa using hfield) (hlongest ▸ hfound), ih]
  | case4 rest hfield hfound ih =>
    rw [fillOnce_unbound (by simpa using hfield) (hlongest ▸ hfound), ih]
  | case5 c rest hc ih => rw [fillOnce_cons_of_ne hc, ih]

/-- The pass writes only characters of the text and of the values. -/
theorem not_mem_fillOnce {c : Char} (hvalues : ∀ v ∈ bindings, c ∉ v.2.display.toList)
    {text : List Char} (htext : c ∉ text) : c ∉ fillOnce reserved bindings text := by
  fun_induction fillOnce reserved bindings text with
  | case1 => exact htext
  | case2 rest hfield ih =>
    simp only [List.mem_cons, not_or] at htext ⊢
    exact ⟨htext.1, ih htext.2⟩
  | case3 rest hfield v hfound ih =>
    simp only [List.mem_cons, not_or] at htext
    rw [List.mem_append, not_or]
    exact ⟨hvalues v (mem_of_longest? hfound).1, ih fun hc => htext.2 (List.mem_of_mem_drop hc)⟩
  | case4 rest hfield hfound ih =>
    simp only [List.mem_cons, not_or] at htext ⊢
    exact ⟨htext.1, ih htext.2⟩
  | case5 d rest hd ih =>
    simp only [List.mem_cons, not_or] at htext ⊢
    exact ⟨htext.1, ih htext.2⟩

/-- Nothing is in braces in a text without braces. -/
theorem foldl_fillBraced {text : List Char} (h : '{' ∉ text) :
    bindings.foldl (fun sql v => fillBraced v.1 v.2.display sql) text = text := by
  induction bindings with
  | nil => rfl
  | cons v bindings ih =>
    have hsame : fillBraced v.1 v.2.display text = text := by
      refine Text.replaceWith_eq_self fun c hc rest => ?_
      have hc : c ≠ '{' := fun hbrace => h (hbrace ▸ hc)
      rw [List.cons_append, if_neg (by rw [Text.startsWith_cons_ne hc]; simp)]
    rw [List.foldl_cons, hsame, ih]

/-! ## References one by one -/

theorem longest?_congr {text text' : List Char}
    (h : ∀ v ∈ bindings, Text.startsWith v.1.toList text = Text.startsWith v.1.toList text') :
    longest? bindings text = longest? bindings text' := by
  unfold longest?
  rw [List.filter_congr h]

/-- The run of characters of the kind behind a colon ends before the next colon. -/
theorem ColonsBehind.exists_run_before {text rest : List Char} (hkind : kind ':' = false)
    (h : ColonsBehind kind (':' :: (text ++ ':' :: rest))) :
    ∃ run tail, text = run ++ tail ∧ (∀ c ∈ run, kind c = true) ∧
      (∀ c ∈ tail.head?, kind c = false) ∧
      (tail ++ ':' :: rest).head? = tail.head? := by
  obtain ⟨run, tail, heq, hrun, htail, hcolon⟩ := h.exists_run
  rcases List.append_eq_append_iff.1 heq with ⟨more, rfl, hmore⟩ | ⟨more, rfl, rfl⟩
  -- the run cannot reach the colon
  · exfalso
    cases more with
    | nil => exact hcolon (by rw [← List.nil_append tail, ← hmore]; rfl)
    | cons c more =>
      have hc : ':' = c := (List.cons.inj hmore).1
      exact colon_not_mem hkind hrun (by rw [hc]; simp)
  · cases more with
    | nil => exact absurd rfl hcolon
    | cons c more => exact ⟨run, c :: more, rfl, hrun, htail, rfl⟩

/-- What stands in front of a colon is filled in without regard to what stands behind it. -/
theorem fillOnce_append_colon
    (hnames : ∀ v ∈ bindings, ∀ c ∈ v.1.toList, Text.isWord c = true)
    (hreserved : ∀ r ∈ reserved, ∀ c ∈ r.toList, Text.isWord c = true)
    (text rest : List Char) (h : ColonsBehind Text.isWord (text ++ ':' :: rest)) :
    fillOnce reserved bindings (text ++ ':' :: rest) =
      fillOnce reserved bindings text ++ fillOnce reserved bindings (':' :: rest) := by
  have hkind : Text.isWord ':' = false := by decide
  -- both decisions at a colon look at the run of word characters and one character more
  have hfields : ∀ text, ColonsBehind Text.isWord (':' :: (text ++ ':' :: rest)) →
      isFieldReference reserved (text ++ ':' :: rest) = isFieldReference reserved text := by
    intro text h
    obtain ⟨run, tail, rfl, hrun, htail, hhead⟩ := h.exists_run_before hkind
    rw [List.append_assoc]
    exact isFieldReference_run_congr hreserved hrun htail hhead
  have hlongest : ∀ text, ColonsBehind Text.isWord (':' :: (text ++ ':' :: rest)) →
      longest? bindings (text ++ ':' :: rest) = longest? bindings text := by
    intro text h
    obtain ⟨run, tail, rfl, hrun, htail, hhead⟩ := h.exists_run_before hkind
    rw [List.append_assoc]
    exact longest?_congr fun v hv => startsWith_run_congr (hnames v hv) htail hhead
  fun_induction fillOnce reserved bindings text with
  | case1 => rfl
  | case2 text hfield ih =>
    rw [List.cons_append, fillOnce_field ((hfields text h).trans hfield), ih (h.drop 1)]
    rfl
  | case3 text hfield v hfound ih =>
    have hprefix := (mem_of_longest? hfound).2.1
    have hdrop : (text ++ ':' :: rest).drop v.1.toList.length =
        text.drop v.1.toList.length ++ ':' :: rest :=
      List.drop_append_of_le_length hprefix.length_le
    have ih := ih (hdrop ▸ (h.drop 1).drop v.1.toList.length)
    rw [List.cons_append, fillOnce_bound ((hfields text h).trans (by simpa using hfield))
      ((hlongest text h).trans hfound), hdrop, ih, List.append_assoc]
  | case4 text hfield hfound ih =>
    rw [List.cons_append, fillOnce_unbound ((hfields text h).trans (by simpa using hfield))
      ((hlongest text h).trans hfound), ih (h.drop 1)]
    rfl
  | case5 c text hc ih =>
    rw [List.cons_append, fillOnce_cons_of_ne hc, ih (h.drop 1)]
    rfl

end

theorem words_of_isName {name : List Char} (h : Text.isName name = true) :
    ∀ c ∈ name, Text.isWord c = true := by
  unfold Text.isName at h
  exact List.all_eq_true.1 (Bool.and_eq_true_iff.1 h).2

theorem words_of_isVariableName {name : String} (h : Reference.isVariableName name = true) :
    ∀ c ∈ name.toList, Text.isWord c = true := by
  unfold Reference.isVariableName at h
  simp only [Bool.and_eq_true] at h
  exact words_of_isName h.1.1

/-- All passes over a body, the environment being empty and nothing being in braces, are one. -/
theorem fillChars_eq_fillOnce {e : Evaluator} {reserved : List String} {text : List Char}
    (henvironment : e.environment = Table.empty)
    (hwords : ∀ v ∈ e.session.entries, ∀ c ∈ v.1.toList, Text.isWord c = true)
    (hreserved : ∀ r ∈ reserved, ∀ c ∈ r.toList, Text.isWord c = true)
    (hvalues : ∀ v ∈ e.session.entries, ':' ∉ v.2.display.toList ∧ '{' ∉ v.2.display.toList)
    (hbrace : '{' ∉ text) (hcolons : ColonsApart text) :
    e.fillChars reserved text = fillOnce reserved e.session.entries text := by
  have hinj : ∀ v ∈ e.session.entries, ∀ w ∈ e.session.entries, v.1 = w.1 → v = w :=
    fun v hv w hw => e.session.eq_of_fst_eq hv hw
  have hpasses := foldl_fillSession (by decide) [] e.session.entries.reverse
    (List.pairwise_reverse.2 e.session.ascending) (by simpa using hwords)
    (by simpa using fun v hv => (hvalues v hv).1)
    (fun bindings _ h => isFieldReference_fillOnce bindings h hreserved)
    (colonsApart_iff.1 hcolons)
  rw [fillOnce_of_no_bindings, List.nil_append, fillOnce_reverse hinj] at hpasses
  unfold fillChars
  rw [henvironment]
  show e.session.entries.reverse.foldl _ (e.session.entries.reverse.foldl _ text) = _
  rw [hpasses]
  exact foldl_fillBraced (not_mem_fillOnce (fun v hv => (hvalues v hv).2) hbrace)

/-- **Filling in a body name by name is filling it in at once.**  The passes over the session
variables, names in descending order, write what a single pass with the longest names writes, and a
reference to a variable is never taken by a variable with a shorter name. -/
theorem fill_eq_fillOnce (e : Evaluator) (henvironment : e.environment = Table.empty)
    (hnamed : e.WellNamed) (reserved : List String)
    (hreserved : ∀ r ∈ reserved, Text.isName r.toList = true) (sql : String)
    (hvalues : ∀ v ∈ e.session.entries, ':' ∉ v.2.display.toList ∧ '{' ∉ v.2.display.toList)
    (hbrace : '{' ∉ sql.toList) (hcolons : ColonsApart sql.toList) :
    e.fill reserved sql = String.ofList (fillOnce reserved e.session.entries sql.toList) ∧
      ∀ v ∈ e.session.entries, ∀ before after,
        sql.toList = before ++ ':' :: (v.1.toList ++ after) →
        isFieldReference reserved (v.1.toList ++ after) = false →
        ∃ w ∈ e.session.entries, ∃ rest, v.1.toList <+: w.1.toList ∧
          v.1.toList ++ after = w.1.toList ++ rest ∧
          e.fill reserved sql = String.ofList (fillOnce reserved e.session.entries before ++
            w.2.display.toList ++ fillOnce reserved e.session.entries rest) := by
  have hwords : ∀ v ∈ e.session.entries, ∀ c ∈ v.1.toList, Text.isWord c = true := fun v hv =>
    words_of_isVariableName (hnamed v hv)
  have hreserved' : ∀ r ∈ reserved, ∀ c ∈ r.toList, Text.isWord c = true := fun r hr =>
    words_of_isName (hreserved r hr)
  have hfill : e.fill reserved sql =
      String.ofList (fillOnce reserved e.session.entries sql.toList) := by
    rw [fill, fillChars_eq_fillOnce henvironment hwords hreserved' hvalues hbrace hcolons]
  refine ⟨hfill, fun v hv before after hsql hfield => ?_⟩
  rw [hfill, hsql]
  rw [hsql] at hcolons
  rw [fillOnce_append_colon hwords hreserved' before _ hcolons]
  cases hfound : longest? e.session.entries (v.1.toList ++ after) with
  | none =>
    have hnot := longest?_eq_none.1 hfound v hv
    rw [Text.startsWith_append] at hnot
    exact absurd hnot (by simp)
  | some w =>
    obtain ⟨hw, ⟨rest, hrest⟩, hmax⟩ := mem_of_longest? hfound
    have hprefix : v.1.toList <+: w.1.toList :=
      List.prefix_of_prefix_length_le (List.prefix_append _ after) ⟨rest, hrest⟩
        (hmax v hv (List.prefix_append _ after))
    refine ⟨w, hw, rest, hprefix, hrest.symm, ?_⟩
    rw [fillOnce_bound hfield hfound, ← hrest, List.drop_left, List.append_assoc]

/-- Two names, one of which starts the other, and a reference to a field. -/
theorem fill_eq_fillOnce_nested_names :
    let e : Evaluator :=
      ⟨Table.empty, (Table.empty.insert "var" (.integer 1)).insert "var_foo" (.text "x")⟩
    let sql := "select :var_foo, :var_fo, :var.f;"
    e.fill ["var"] sql = String.ofList (fillOnce ["var"] e.session.entries sql.toList) ∧
      String.ofList (fillOnce ["var"] e.session.entries sql.toList) =
        "select x, 1_fo, :var.f;" := by
  intro e sql
  have h := fill_eq_fillOnce e rfl (by decide) ["var"] (by decide) sql (by decide) (by decide)
    (by decide)
  exact ⟨h.1, h.1 ▸ (by decide)⟩

end Evaluator
end StepScript
