/-
# The details of a failure in the body of a handler

The body of an error handler refers to the message and the kind of the failure and to the fields of
the record at which it happened.  It goes through the passes for the session variables first, and
then through one replacement for each field, one for the message and one for the kind, each of which
reads what the others wrote.  The handler executes the body with every reference replaced by what it
refers to, unless one of these passes takes a part of a reference, or of a text that another one
wrote, for its own.
-/
import StepScript.Database.Scripted
import StepScript.Proofs.Command.Channel
import StepScript.Proofs.Command.RecordFilling
import StepScript.Proofs.Registry

namespace StepScript

/-! ## Bodies of handlers -/

/-- What the body of an error handler can refer to. -/
inductive FailureDetail where
  | message
  | kind
  /-- A field of the record at which an iteration failed. -/
  | field (name : String)
  deriving DecidableEq

namespace FailureDetail

/-- How references to the fields of the record start, behind the colon. -/
def fieldMark : List Char := ['e', 'r', 'r', '_', 'r', 'e', 'c', 'o', 'r', 'd', '.']

/-- The reference without its colon. -/
def label : FailureDetail → List Char
  | .message => ['e', 'r', 'r', '_', 'm', 'e', 's', 's', 'a', 'g', 'e']
  | .kind => ['e', 'r', 'r', '_', 't', 'y', 'p', 'e']
  | .field name => fieldMark ++ name.toList

/-- The reference to a detail. -/
def reference (d : FailureDetail) : List Char :=
  ':' :: d.label

/-- The text of a field of a record. -/
def fieldText (record : Record) (name : String) : List Char :=
  (((record.get? name).map Value.display).getD "").toList

/-- What a reference stands for. -/
def text (e : Error) (record : Record) : FailureDetail → List Char
  | .message => (Text.doubleQuotes e.message).toList
  | .kind => e.qualifiedName.toList
  | .field name => fieldText record name

/-- Whether a detail is a field. -/
def isField : FailureDetail → Bool
  | .field _ => true
  | _ => false

end FailureDetail

/-- The body of an error handler: a text, and references with the texts behind them. -/
structure HandlerBody where
  first : List Char
  parts : List (FailureDetail × List Char)

namespace HandlerBody

/-- References, each in one spelling, and the texts behind them. -/
def spell (f : FailureDetail → List Char) : List (FailureDetail × List Char) → List Char
  | [] => []
  | (d, text) :: rest => f d ++ (text ++ spell f rest)

/-- A body with one spelling of its references. -/
def write (b : HandlerBody) (f : FailureDetail → List Char) : List Char :=
  b.first ++ spell f b.parts

/-- The body as it stands in its statement. -/
def source (b : HandlerBody) : String :=
  String.ofList (b.write FailureDetail.reference)

/-- The body with the details of a failure in the place of its references. -/
def filled (b : HandlerBody) (e : Error) (record : Record) : String :=
  String.ofList (b.write (FailureDetail.text e record))

end HandlerBody

/-- A detail that a failure at a record has. -/
def FailureDetail.IsOf (record : Record) : FailureDetail → Prop
  | .field name => Text.isName name.toList = true ∧ record.contains name = true
  | _ => True

instance (record : Record) : DecidablePred (FailureDetail.IsOf record)
  | .field _ => inferInstanceAs (Decidable (_ ∧ _))
  | .message => .isTrue trivial
  | .kind => .isTrue trivial

/-- A reference is made of word characters and points. -/
theorem FailureDetail.IsOf.isWord_or_point {record : Record} {d : FailureDetail}
    (h : d.IsOf record) : (d.label.all fun c => Text.isWord c || c == '.') = true := by
  cases d with
  | message => decide
  | kind => decide
  | field name =>
    have hmark : (fieldMark.all fun c => Text.isWord c || c == '.') = true := by decide
    rw [label, List.all_append, hmark, Bool.true_and, List.all_eq_true]
    intro c hc
    rw [Evaluator.words_of_isName h.1 c hc, Bool.true_or]

theorem FailureDetail.IsOf.colon_not_mem {record : Record} {d : FailureDetail}
    (h : d.IsOf record) : ':' ∉ d.label := fun hc =>
  absurd (List.all_eq_true.1 h.isWord_or_point ':' hc) (by decide)

theorem FailureDetail.IsOf.brace_not_mem {record : Record} {d : FailureDetail}
    (h : d.IsOf record) : '{' ∉ d.reference := fun hc => by
  rcases List.mem_cons.1 hc with hc | hc
  · cases hc
  · exact absurd (List.all_eq_true.1 h.isWord_or_point '{' hc) (by decide)

/-- No text has a mark of a reference, every reference is one to a detail of the failure, and it
ends where its name ends. -/
structure HandlerBody.WellFormed (b : HandlerBody) (record : Record) : Prop where
  plain : ∀ text ∈ b.first :: b.parts.map Prod.snd, ':' ∉ text ∧ '{' ∉ text ∧ '}' ∉ text
  known : ∀ p ∈ b.parts, p.1.IsOf record
  ended : ∀ p ∈ b.parts, (p.2.head?.any fun c => Text.isWord c || c == '.') = false

theorem HandlerBody.WellFormed.first_colon {b : HandlerBody} {record : Record}
    (h : b.WellFormed record) : ':' ∉ b.first :=
  (h.plain b.first List.mem_cons_self).1

theorem HandlerBody.WellFormed.text_colon {b : HandlerBody} {record : Record}
    (h : b.WellFormed record) {p : FailureDetail × List Char} (hp : p ∈ b.parts) : ':' ∉ p.2 :=
  (h.plain p.2 (List.mem_cons_of_mem _ (List.mem_map_of_mem hp))).1

theorem HandlerBody.WellFormed.isWord_head {b : HandlerBody} {record : Record}
    (h : b.WellFormed record) {p : FailureDetail × List Char} (hp : p ∈ b.parts) :
    ∀ c ∈ p.2.head?, Text.isWord c = false := by
  intro c hc
  have hended := h.ended p hp
  rw [Option.mem_def.1 hc, Option.any_some, Bool.or_eq_false_iff] at hended
  exact hended.1

/-- No other pass takes a part of the reference to a detail, or of what is written for it. -/
def FailureDetail.Undisturbed (session : Table Value) (record : Record) (e : Error) :
    FailureDetail → Prop
  | .message => (∀ v ∈ session.entries, ¬ v.1.toList <+: message.label) ∧
    Text.Clear kind.reference (Text.doubleQuotes e.message).toList
  | .kind => ∀ v ∈ session.entries, ¬ v.1.toList <+: kind.label
  | .field name =>
    (∀ v ∈ record.entries, name.toList <+: v.1.toList → Text.isName v.1.toList = true) ∧
    Text.Clear [':', 'e', 'r', 'r', '_'] (fieldText record name)

instance (session : Table Value) (record : Record) (e : Error) :
    DecidablePred (FailureDetail.Undisturbed session record e)
  | .message => inferInstanceAs (Decidable (_ ∧ _))
  | .kind => inferInstanceAs (Decidable (∀ v ∈ session.entries, _))
  | .field _ => inferInstanceAs (Decidable (_ ∧ _))

/-- No reference is disturbed, and no two references to fields touch. -/
structure HandlerBody.Undisturbed (b : HandlerBody) (session : Table Value) (record : Record)
    (e : Error) : Prop where
  details : ∀ p ∈ b.parts, p.1.Undisturbed session record e
  apart : b.parts.IsChain fun p q => p.1.isField = true → q.1.isField = true → p.2 ≠ []

/-! ## Spellings -/

namespace HandlerBody

/-- A pass leaves the texts behind the references alone. -/
theorem replace_spell {pat new : List Char} {f g : FailureDetail → List Char}
    {parts : List (FailureDetail × List Char)} (htexts : ∀ p ∈ parts, ':' ∉ p.2)
    (hparts : ∀ d text rest, (d, text) :: rest <:+ parts →
      Text.replace (':' :: pat) new (f d ++ (text ++ spell f rest)) =
        g d ++ Text.replace (':' :: pat) new (text ++ spell f rest)) :
    Text.replace (':' :: pat) new (spell f parts) = spell g parts := by
  induction parts with
  | nil => rfl
  | cons p parts ih =>
    obtain ⟨d, text⟩ := p
    have htext : ':' ∉ text := htexts (d, text) List.mem_cons_self
    have hrest := ih (fun p hp => htexts p (List.mem_cons_of_mem _ hp)) fun d' text' rest hsuffix =>
      hparts d' text' rest (hsuffix.trans (List.suffix_cons _ parts))
    rw [spell, hparts d text parts List.suffix_rfl,
      Text.replace_append_of_clear (Text.clear_of_not_mem htext pat), hrest, spell]

/-- A pass over a body is a pass over its references. -/
theorem replace_write {pat new : List Char} {f g : FailureDetail → List Char} {b : HandlerBody}
    {record : Record} (hb : b.WellFormed record)
    (hparts : ∀ d text rest, (d, text) :: rest <:+ b.parts →
      Text.replace (':' :: pat) new (f d ++ (text ++ spell f rest)) =
        g d ++ Text.replace (':' :: pat) new (text ++ spell f rest)) :
    Text.replace (':' :: pat) new (b.write f) = b.write g := by
  have hspell := replace_spell (fun p hp => hb.text_colon hp) hparts
  rw [write, Text.replace_append_of_clear (Text.clear_of_not_mem hb.first_colon pat), hspell, write]

/-- A pass replaces the references that it looks for if all others are clear of them. -/
theorem replace_write_of_clear {pat new : List Char} {f g : FailureDetail → List Char}
    {b : HandlerBody} {record : Record} (hb : b.WellFormed record)
    (hparts : ∀ p ∈ b.parts, f p.1 = ':' :: pat ∧ g p.1 = new ∨
      Text.Clear (':' :: pat) (f p.1) ∧ g p.1 = f p.1) :
    Text.replace (':' :: pat) new (b.write f) = b.write g := by
  refine replace_write hb fun d text rest hsuffix => ?_
  rcases hparts (d, text) (hsuffix.subset List.mem_cons_self) with ⟨hf, hg⟩ | ⟨hclear, hg⟩
  · rw [hf, hg, Text.replace_append_self]
  · rw [hg, Text.replace_append_of_clear hclear]

/-- What follows a reference does not go on with its name, if a reference that follows it directly
still has its colon. -/
theorem isWord_of_head? {f : FailureDetail → List Char} {text : List Char}
    {rest : List (FailureDetail × List Char)} (htext : ∀ c ∈ text.head?, Text.isWord c = false)
    (hrest : text = [] → ∀ p ∈ rest.head?, f p.1 = p.1.reference) :
    ∀ c ∈ (text ++ spell f rest).head?, Text.isWord c = false := by
  intro c hc
  cases text with
  | cons d text => exact htext c hc
  | nil =>
    cases rest with
    | nil => cases hc
    | cons p rest =>
      have hcolon : c = ':' := by
        rw [List.nil_append, spell, hrest rfl p rfl] at hc
        exact (Option.some.inj hc).symm
      rw [hcolon]
      decide

/-! ## The passes for the session variables -/

/-- The references to the fields of the record are kept for the handler. -/
theorem isFieldReference_label {reserved : List String} (hreserved : failedRecordName ∈ reserved)
    {d : FailureDetail} (h : d.isField = true) (rest : List Char) :
    Evaluator.isFieldReference reserved (d.label ++ rest) = true := by
  cases d with
  | message => cases h
  | kind => cases h
  | field name =>
    refine List.any_eq_true.2 ⟨failedRecordName, hreserved, Text.startsWith_iff.2 ?_⟩
    have hmark : failedRecordName.toList ++ ['.'] = FailureDetail.fieldMark := by decide
    rw [hmark, FailureDetail.label, List.append_assoc]
    exact List.prefix_append _ _

/-- A session variable whose name starts neither a message nor a kind that is referred to is not
taken for a detail. -/
theorem fillSession_spell {reserved : List String} {name : String} {record : Record}
    {parts : List (FailureDetail × List Char)} (hreserved : failedRecordName ∈ reserved)
    (hname : ∀ c ∈ name.toList, Text.isWord c = true) (htexts : ∀ p ∈ parts, ':' ∉ p.2)
    (hknown : ∀ p ∈ parts, p.1.IsOf record)
    (hended : ∀ p ∈ parts, ∀ c ∈ p.2.head?, Text.isWord c = false)
    (hstarts : ∀ p ∈ parts, p.1.isField = false → ¬ name.toList <+: p.1.label) (value : String) :
    Evaluator.fillSession reserved name value (spell FailureDetail.reference parts) =
      spell FailureDetail.reference parts := by
  induction parts with
  | nil => rfl
  | cons p parts ih =>
    obtain ⟨d, text⟩ := p
    have ih := ih (fun p hp => htexts p (List.mem_cons_of_mem _ hp))
      (fun p hp => hknown p (List.mem_cons_of_mem _ hp))
      (fun p hp => hended p (List.mem_cons_of_mem _ hp))
      (fun p hp => hstarts p (List.mem_cons_of_mem _ hp))
    have htext : ':' ∉ text := htexts _ List.mem_cons_self
    have hlabel : ':' ∉ d.label := (hknown _ List.mem_cons_self).colon_not_mem
    have hcolon : Evaluator.fillSession reserved name value
        (':' :: (d.label ++ (text ++ spell FailureDetail.reference parts))) =
          ':' :: Evaluator.fillSession reserved name value
            (d.label ++ (text ++ spell FailureDetail.reference parts)) := by
      cases hfield : d.isField with
      | true =>
        refine Evaluator.fillSession_field (Evaluator.colon_not_mem_of_words hname) ?_
        exact isFieldReference_label hreserved hfield _
      | false =>
        have htail : ∀ c ∈ (text ++ spell FailureDetail.reference parts).head?,
            Text.isWord c = false :=
          isWord_of_head? (hended (d, text) List.mem_cons_self) fun _ _ _ => rfl
        refine Evaluator.fillSession_colon (Bool.eq_false_iff.2 fun hstart => ?_)
        refine hstarts (d, text) List.mem_cons_self hfield ?_
        exact (Evaluator.prefix_run_append hname htail).1 (Text.startsWith_iff.1 hstart)
    show Evaluator.fillSession reserved name value (':' :: (d.label ++ _)) = _
    rw [hcolon, Evaluator.fillSession_append hlabel, Evaluator.fillSession_append htext, ih]
    rfl

theorem not_mem_spell {c : Char} {f : FailureDetail → List Char}
    {parts : List (FailureDetail × List Char)} (h : ∀ p ∈ parts, c ∉ f p.1 ∧ c ∉ p.2) :
    c ∉ spell f parts := by
  induction parts with
  | nil => exact List.not_mem_nil
  | cons p parts ih =>
    obtain ⟨hf, htext⟩ := h p List.mem_cons_self
    have hrest := ih fun q hq => h q (List.mem_cons_of_mem p hq)
    rw [spell, List.mem_append, List.mem_append, not_or, not_or]
    exact ⟨hf, htext, hrest⟩

/-- The body has no reference to a variable in braces. -/
theorem WellFormed.brace_not_mem {b : HandlerBody} {record : Record} (h : b.WellFormed record) :
    '{' ∉ b.write FailureDetail.reference := by
  rw [write, List.mem_append, not_or]
  refine ⟨(h.plain b.first List.mem_cons_self).2.1, not_mem_spell fun p hp => ?_⟩
  exact ⟨(h.known p hp).brace_not_mem,
    (h.plain p.2 (List.mem_cons_of_mem _ (List.mem_map_of_mem hp))).2.1⟩

/-- Passes that leave a text alone one by one leave it alone together. -/
theorem foldl_eq_self {α β : Type} {f : β → α → β} {b : β} {list : List α}
    (h : ∀ a ∈ list, f b a = b) : list.foldl f b = b := by
  induction list with
  | nil => rfl
  | cons a list ih =>
    rw [List.foldl_cons, h a List.mem_cons_self]
    exact ih fun x hx => h x (List.mem_cons_of_mem a hx)

/-- Filling in the session variables leaves the body to the handler. -/
theorem fill_source {e : Evaluator} (henvironment : e.environment = Table.empty)
    (hnamed : e.WellNamed) {b : HandlerBody} {record : Record} (hb : b.WellFormed record)
    (hstarts : ∀ v ∈ e.session.entries, ∀ p ∈ b.parts, p.1.isField = false →
      ¬ v.1.toList <+: p.1.label) (recordsets : RecordsetStore) :
    e.fill (reservedNames recordsets) b.source = b.source := by
  have hreserved : failedRecordName ∈ reservedNames recordsets :=
    List.mem_append_right recordsets.names List.mem_cons_self
  have hpass : ∀ v ∈ e.session.entries.reverse, Evaluator.fillSession (reservedNames recordsets) v.1
      v.2.display (b.write FailureDetail.reference) = b.write FailureDetail.reference := by
    intro v hv
    have hv := List.mem_reverse.1 hv
    have hspell := fillSession_spell hreserved (Evaluator.words_of_isVariableName (hnamed v hv))
      (fun p hp => hb.text_colon hp) hb.known (fun p hp => hb.isWord_head hp)
      (hstarts v hv) v.2.display
    rw [write, Evaluator.fillSession_append hb.first_colon, hspell]
  unfold Evaluator.fill Evaluator.fillChars source
  rw [henvironment, String.toList_ofList]
  show String.ofList (e.session.entries.reverse.foldl _ (e.session.entries.reverse.foldl _
    (b.write FailureDetail.reference))) = _
  have hpasses : e.session.entries.reverse.foldl (fun sql v => Evaluator.fillSession
      (reservedNames recordsets) v.1 v.2.display sql) (b.write FailureDetail.reference) =
      b.write FailureDetail.reference := foldl_eq_self hpass
  rw [hpasses, Evaluator.foldl_fillBraced hb.brace_not_mem]

/-! ## The passes for the fields -/

/-- The spelling of a detail once some fields are filled in. -/
def withFields (record : Record) (done : List (String × Value)) : FailureDetail → List Char
  | .field name => if name ∈ done.map Prod.fst then FailureDetail.fieldText record name
    else (FailureDetail.field name).reference
  | d => d.reference

theorem withFields_of_not_isField {d : FailureDetail} (h : d.isField = false) (record : Record)
    (done : List (String × Value)) : withFields record done d = d.reference := by
  cases d with
  | field name => cases h
  | message => rfl
  | kind => rfl

theorem withFields_nil (record : Record) : withFields record [] = FailureDetail.reference := by
  funext d
  cases d <;> rfl

theorem fieldText_of_mem {record : Record} {v : String × Value} (h : v ∈ record.entries) :
    FailureDetail.fieldText record v.1 = v.2.display.toList := by
  rw [FailureDetail.fieldText, Table.get?_eq_some.2 h]
  rfl

/-- A reference to a field is not taken for one to a field with a greater name. -/
theorem not_prefix_of_lt {name greater : String} {rest : List Char} (hlt : name < greater)
    (hwords : name.toList <+: greater.toList → Text.isName greater.toList = true)
    (hrest : ∀ c ∈ rest.head?, Text.isWord c = false) :
    ¬ greater.toList <+: name.toList ++ rest := by
  intro hgreater
  have hname : name.toList <+: name.toList ++ rest := List.prefix_append name.toList rest
  have hlength := Evaluator.length_lt_of_lt_of_prefix hlt hname hgreater
  have hprefix := List.prefix_of_prefix_length_le hname hgreater hlength.le
  -- the greater name would go on behind the end of the reference
  have hgreaterWords := Evaluator.words_of_isName (hwords hprefix)
  have hback := (Evaluator.prefix_run_append hgreaterWords hrest).1 hgreater
  exact absurd hback.length_le (not_le.2 hlength)

/-- Of the fields that are not filled in yet, the next one is the greatest. -/
theorem lt_of_not_mem_done {record : Record} {done later : List (String × Value)}
    {v : String × Value} (hsplit : record.entries.reverse = done ++ v :: later) {name : String}
    (hcontains : record.contains name = true) (hdone : name ∉ done.map Prod.fst)
    (hne : name ≠ v.1) : name < v.1 := by
  obtain ⟨value, hvalue⟩ := Option.isSome_iff_exists.1 hcontains
  have hmem : (name, value) ∈ done ++ v :: later := by
    rw [← hsplit]
    exact List.mem_reverse.2 (Table.get?_eq_some.1 hvalue)
  have hdescending : (done ++ v :: later).Pairwise fun a b => b.1 < a.1 := by
    rw [← hsplit]
    exact List.pairwise_reverse.2 record.ascending
  rcases List.mem_append.1 hmem with hmem | hmem
  · exact absurd (List.mem_map_of_mem hmem) hdone
  rcases List.mem_cons.1 hmem with heq | hmem
  · exact absurd (congrArg Prod.fst heq) hne
  · have htail := (List.pairwise_append.1 hdescending).2.1
    exact (List.pairwise_cons.1 htail).1 _ hmem

/-- What is no reference to a field is clear of the mark of one. -/
theorem clear_fieldMark {d : FailureDetail} (h : d.isField = false) :
    Text.Clear (':' :: FailureDetail.fieldMark) d.reference := by
  cases d with
  | field name => cases h
  | message => decide
  | kind => decide

/-- The replacement for a field leaves the reference to another one alone unless its own name is
there. -/
theorem replace_other_field {record : Record} {name : String}
    (h : (FailureDetail.field name).IsOf record) {other rest : List Char}
    (hnot : ¬ other <+: name.toList ++ rest) (new : List Char) :
    Text.replace (':' :: (FailureDetail.fieldMark ++ other)) new
        ((FailureDetail.field name).reference ++ rest) =
      (FailureDetail.field name).reference ++
        Text.replace (':' :: (FailureDetail.fieldMark ++ other)) new rest := by
  refine Text.replace_cons_append_of_not_prefix h.colon_not_mem ?_ new
  rw [FailureDetail.label, List.append_assoc, List.prefix_append_right_inj]
  exact hnot

/-- The replacement for one field, once those with greater names are filled in, fills in this field
alone. -/
theorem replace_field {b : HandlerBody} {record : Record} (hb : b.WellFormed record)
    {session : Table Value} {e : Error} (hundisturbed : b.Undisturbed session record e)
    {done later : List (String × Value)} {v : String × Value}
    (hsplit : record.entries.reverse = done ++ v :: later) :
    Text.replace (':' :: (FailureDetail.fieldMark ++ v.1.toList)) v.2.display.toList
      (b.write (withFields record done)) = b.write (withFields record (done ++ [v])) := by
  refine replace_write hb fun d text rest hsuffix => ?_
  have hmem : (d, text) ∈ b.parts := hsuffix.subset List.mem_cons_self
  cases d with
  | message => exact Text.replace_append_of_clear ((clear_fieldMark rfl).append v.1.toList) _ _
  | kind => exact Text.replace_append_of_clear ((clear_fieldMark rfl).append v.1.toList) _ _
  | field name =>
    obtain ⟨hwords, hvalue⟩ := hundisturbed.details _ hmem
    have hknown := hb.known _ hmem
    by_cases hdone : name ∈ done.map Prod.fst
    · have hdone' : name ∈ (done ++ [v]).map Prod.fst := by
        rw [List.map_append]
        exact List.mem_append_left _ hdone
      have hclear : Text.Clear (':' :: (FailureDetail.fieldMark ++ v.1.toList))
          (FailureDetail.fieldText record name) :=
        hvalue.append (['r', 'e', 'c', 'o', 'r', 'd', '.'] ++ v.1.toList)
      rw [withFields, if_pos hdone, withFields, if_pos hdone', Text.replace_append_of_clear hclear]
    have hv : v ∈ record.entries := by
      rw [← List.mem_reverse, hsplit]
      exact List.mem_append_right done List.mem_cons_self
    by_cases heq : name = v.1
    · have hdone' : name ∈ (done ++ [v]).map Prod.fst := by simp [heq]
      rw [withFields, if_neg hdone, withFields, if_pos hdone', heq, fieldText_of_mem hv]
      exact Text.replace_append_self ':' _ _ _
    · have hdone' : name ∉ (done ++ [v]).map Prod.fst := by simpa [heq] using hdone
      -- a reference that follows directly is none to a field, so it still has its colon
      have hrest : ∀ c ∈ (text ++ spell (withFields record done) rest).head?,
          Text.isWord c = false := by
        refine isWord_of_head? (hb.isWord_head hmem) fun hempty p hp => ?_
        have hchain := (List.isChain_cons.1 (hundisturbed.apart.suffix hsuffix)).1 p hp
        refine withFields_of_not_isField (Bool.eq_false_iff.2 fun hfield => ?_) record done
        exact hchain rfl hfield hempty
      have hlt := lt_of_not_mem_done hsplit hknown.2 hdone heq
      rw [withFields, if_neg hdone, withFields, if_neg hdone',
        replace_other_field hknown (not_prefix_of_lt hlt (hwords v hv) hrest)]

/-- The replacements for all fields fill in the fields. -/
theorem foldl_replace_fields {b : HandlerBody} {record : Record} (hb : b.WellFormed record)
    {session : Table Value} {e : Error} (hundisturbed : b.Undisturbed session record e)
    {done later : List (String × Value)} (hsplit : record.entries.reverse = done ++ later) :
    later.foldl (fun sql v => Text.replace (':' :: (FailureDetail.fieldMark ++ v.1.toList))
      v.2.display.toList sql) (b.write (withFields record done)) =
      b.write (withFields record record.entries.reverse) := by
  induction later generalizing done with
  | nil => rw [hsplit, List.append_nil, List.foldl_nil]
  | cons v later ih =>
    rw [List.foldl_cons, replace_field hb hundisturbed hsplit]
    exact ih (by rw [hsplit, List.append_assoc]; rfl)

/-! ## The message and the kind -/

/-- The spelling of a detail once everything but the kind is filled in. -/
def withoutKind (e : Error) (record : Record) : FailureDetail → List Char
  | .kind => FailureDetail.kind.reference
  | d => d.text e record

section

variable {b : HandlerBody} {record : Record} {session : Table Value} {e : Error}

theorem replace_message (hb : b.WellFormed record)
    (hundisturbed : b.Undisturbed session record e) :
    Text.replace FailureDetail.message.reference (Text.doubleQuotes e.message).toList
      (b.write (withFields record record.entries.reverse)) = b.write (withoutKind e record) := by
  refine replace_write_of_clear hb fun p hp => ?_
  obtain ⟨d, text⟩ := p
  cases d with
  | message => exact .inl ⟨rfl, rfl⟩
  | kind =>
    have hclear : Text.Clear FailureDetail.message.reference FailureDetail.kind.reference := by
      decide
    exact .inr ⟨hclear, rfl⟩
  | field name =>
    obtain ⟨_, hvalue⟩ := hundisturbed.details _ hp
    obtain ⟨value, hget⟩ := Option.isSome_iff_exists.1 (hb.known _ hp).2
    have hmem : name ∈ record.entries.reverse.map Prod.fst :=
      List.mem_map.2 ⟨(name, value), List.mem_reverse.2 (Table.get?_eq_some.1 hget), rfl⟩
    rw [withFields, if_pos hmem]
    exact .inr ⟨hvalue.append ['m', 'e', 's', 's', 'a', 'g', 'e'], rfl⟩

theorem replace_kind (hb : b.WellFormed record) (hundisturbed : b.Undisturbed session record e) :
    Text.replace FailureDetail.kind.reference e.qualifiedName.toList
      (b.write (withoutKind e record)) = b.write (FailureDetail.text e record) := by
  refine replace_write_of_clear hb fun p hp => ?_
  obtain ⟨d, text⟩ := p
  cases d with
  | message => exact .inr ⟨(hundisturbed.details _ hp).2, rfl⟩
  | kind => exact .inl ⟨rfl, rfl⟩
  | field name =>
    obtain ⟨_, hvalue⟩ := hundisturbed.details _ hp
    exact .inr ⟨hvalue.append ['t', 'y', 'p', 'e'], rfl⟩

end

/-- The replacements of the handler put every detail into its place. -/
theorem fillFailure_source {b : HandlerBody} {record : Record} {session : Table Value} {e : Error}
    (hb : b.WellFormed record) (hundisturbed : b.Undisturbed session record e) :
    fillFailure b.source (some record) e = b.filled e record := by
  have hfields : (fillRecord failedRecordName record b.source).toList =
      b.write (withFields record record.entries.reverse) := by
    have hmark : Evaluator.fieldMark failedRecordName = ':' :: FailureDetail.fieldMark := by decide
    rw [toList_fillRecord, hmark, source, String.toList_ofList, ← withFields_nil record]
    exact foldl_replace_fields hb hundisturbed (List.nil_append _).symm
  have hmessage : (Text.replaceAll ":err_message" (Text.doubleQuotes e.message)
      (fillRecord failedRecordName record b.source)).toList = b.write (withoutKind e record) := by
    rw [Text.replaceAll, String.toList_ofList, hfields]
    exact replace_message hb hundisturbed
  show Text.replaceAll ":err_type" e.qualifiedName (Text.replaceAll ":err_message" _
    (fillRecord failedRecordName record b.source)) = _
  rw [Text.replaceAll, hmessage]
  exact congrArg String.ofList (replace_kind hb hundisturbed)

end HandlerBody

/-! ## Running the handler -/

/-- A statement that handles a failure by executing its body. -/
structure Statement.ExecutesOnError (s : Statement) : Prop where
  command : s.command = Command.onError.name
  arguments : s.arguments = ["execute"]

/-- Such a statement executes one statement: its body with the session variables and then the
details of the failure filled in. -/
theorem Action.ensures_handler {s : Statement} (hs : s.ExecutesOnError) {w : Workspace} {e : Error}
    (hpending : w.channel.pending = some e) (session : Session) (files : Files) :
    Ensures (runStatement Registry.withBuiltins (some session) files s) w fun exchanges _ _ =>
      ∃ answer, exchanges = [⟨.execute session (fillFailure
        (w.evaluator.fill (reservedNames w.recordsets) s.body) w.channel.lastRecord e),
        answer⟩] := by
  have harguments : s.arguments.mapM (fun text => w.evaluator.evaluate (.text text)) =
      .ok [.text "execute"] := by
    rw [hs.arguments]
    rfl
  have haction : HandlerAction.read (Value.text "execute").display = .ok .execute := by decide
  have hcommand : Registry.withBuiltins.command s.command = .ok .onError :=
    Registry.command_withBuiltins.2 hs.command.symm
  unfold runStatement evaluateArguments runNamed
  simp only [Ensures.bind_iff, Ensures.get_iff, ensures_ofExcept, harguments, hcommand]
  refine Dialogue.always_iff.2 fun exchanges r h => ?_
  exact Command.exchanges_of_runHandler haction hpending h

theorem Action.log_handler {s : Statement} (hs : s.ExecutesOnError) {w : Workspace} {e : Error}
    (hpending : w.channel.pending = some e) (session : Session) (files : Files) {τ : Type}
    (db : Backend τ) (state : τ) :
    ∃ answer, ((runStatement Registry.withBuiltins (some session) files s).run.run w).log db state =
      [⟨.execute session (fillFailure (w.evaluator.fill (reservedNames w.recordsets) s.body)
        w.channel.lastRecord e), answer⟩] :=
  Dialogue.always_iff.1 (ensures_handler hs hpending session files) _ _
    (Dialogue.leads_log db _ state)

/-- There is only one statement that such a statement can have executed. -/
theorem Action.eq_of_log_handler {s : Statement} (hs : s.ExecutesOnError) {w : Workspace}
    {e : Error} (hpending : w.channel.pending = some e) {session : Session} {files : Files}
    {τ : Type} {db : Backend τ} {state : τ} {sql : String} {answer : Answer (.execute session sql)}
    (h : ((runStatement Registry.withBuiltins (some session) files s).run.run w).log db state =
      [⟨.execute session sql, answer⟩]) :
    sql = fillFailure (w.evaluator.fill (reservedNames w.recordsets) s.body) w.channel.lastRecord
      e := by
  obtain ⟨answer', hlog⟩ := log_handler hs hpending session files db state
  have hcalls := congrArg (List.map Exchange.call) (h.symm.trans hlog)
  exact (Call.execute.inj (List.cons.inj hcalls).1).2

/-- **A handler executes its body with the details of the failure in their places**, whatever
recordsets there are and whatever the database answers, if no session variable, no field and no text
that is filled in disturbs a reference. -/
theorem handler_executes_filled_body {w : Workspace} {e : Error} {record : Record} {b : HandlerBody}
    (henvironment : w.evaluator.environment = Table.empty) (hnamed : w.evaluator.WellNamed)
    (hpending : w.channel.pending = some e) (hrecord : w.channel.lastRecord = some record)
    (hb : b.WellFormed record) (hundisturbed : b.Undisturbed w.evaluator.session record e)
    {s : Statement} (hs : s.ExecutesOnError) (hbody : s.body = b.source) (session : Session)
    (files : Files) {τ : Type} (db : Backend τ) (state : τ) :
    ∃ answer, ((Action.runStatement Registry.withBuiltins (some session) files s).run.run w).log db
      state = [⟨.execute session (b.filled e record), answer⟩] := by
  have hstarts : ∀ v ∈ w.evaluator.session.entries, ∀ p ∈ b.parts, p.1.isField = false →
      ¬ v.1.toList <+: p.1.label := by
    intro v hv p hp hfield
    obtain ⟨d, behind⟩ := p
    have hdetail := hundisturbed.details _ hp
    cases d with
    | message =>
      obtain ⟨hvariables, _⟩ := hdetail
      exact hvariables v hv
    | kind => exact hdetail v hv
    | field name => cases hfield
  have hlog := Action.log_handler hs hpending session files db state
  rwa [hrecord, hbody, HandlerBody.fill_source henvironment hnamed hb hstarts,
    HandlerBody.fillFailure_source hb hundisturbed] at hlog

/-- A handler that keeps failures in a table. -/
def keepFailure : HandlerBody where
  first := "insert into errors values (".toList
  parts := [(.field "id", ", '".toList), (.kind, "', '".toList), (.message, "');".toList)]

/-- The workspace after an iteration failed at a record, with a session variable. -/
def failedIteration (variableName : String) : Workspace where
  evaluator := ⟨Table.empty, Table.empty.insert variableName (.text "oops")⟩
  channel := ⟨some (.database "key 'id' is taken"), some (Table.ofList [("id", .integer 1),
    ("id2", .integer 2)])⟩
  recordsets := Table.empty

/-- A field whose name starts another one, a message with quotes, and a variable whose name starts
that of the record. -/
theorem handler_executes_filled_body_keepFailure :
    ∃ s : Statement, s.ExecutesOnError ∧
      s.body = "insert into errors values (:err_record.id, ':err_type', ':err_message');" ∧
      ∃ answer, ((Action.runStatement Registry.withBuiltins (some 0) Files.none s).run.run
        (failedIteration "err_rec")).log Scripted.backend ⟨[], [], none, 1, []⟩ = [⟨.execute 0
          ("insert into errors values (1, 'sneaql_core::error::SneaqlError::Database', " ++
            "'Database error: key ''id'' is taken');"), answer⟩] := by
  let record : Record := Table.ofList [("id", .integer 1), ("id2", .integer 2)]
  have hnamed : (failedIteration "err_rec").evaluator.WellNamed := by decide +kernel
  have hb : keepFailure.WellFormed record :=
    ⟨by decide +kernel, by decide +kernel, by decide +kernel⟩
  have hundisturbed : keepFailure.Undisturbed (failedIteration "err_rec").evaluator.session record
      (.database "key 'id' is taken") := ⟨by decide +kernel, by decide +kernel⟩
  have hfilled : keepFailure.filled (.database "key 'id' is taken") record =
      "insert into errors values (1, 'sneaql_core::error::SneaqlError::Database', " ++
        "'Database error: key ''id'' is taken');" := by decide +kernel
  have hruns := fun (s : Statement) (hs : s.ExecutesOnError)
      (hbody : s.body = keepFailure.source) =>
    handler_executes_filled_body rfl hnamed rfl rfl hb hundisturbed hs hbody 0 Files.none
      Scripted.backend ⟨[], [], none, 1, []⟩
  rw [hfilled] at hruns
  exact ⟨⟨"on_error", ["execute"], _, ""⟩, ⟨rfl, rfl⟩, rfl, hruns _ ⟨rfl, rfl⟩ (by decide +kernel)⟩

/-- A variable whose name starts that of the message takes the reference to it. -/
theorem not_handler_executes_filled_body_of_variable :
    ¬ ∀ (w : Workspace) (e : Error) (record : Record) (b : HandlerBody) (s : Statement),
      w.evaluator.environment = Table.empty → w.evaluator.WellNamed →
      w.channel.pending = some e → w.channel.lastRecord = some record → b.WellFormed record →
      s.ExecutesOnError → s.body = b.source →
      ∃ answer, ((Action.runStatement Registry.withBuiltins (some 0) Files.none s).run.run w).log
        Scripted.backend ⟨[], [], none, 1, []⟩ =
          [⟨.execute 0 (b.filled e record), answer⟩] := by
  intro h
  let b : HandlerBody := ⟨[], [(.message, [])]⟩
  have hb : b.WellFormed (Table.ofList [("id", .integer 1), ("id2", .integer 2)]) :=
    ⟨by decide, by decide, by decide⟩
  have hnamed : (failedIteration "err").evaluator.WellNamed := by decide +kernel
  have htaken : fillFailure ((failedIteration "err").evaluator.fill (reservedNames Table.empty)
      b.source) (failedIteration "err").channel.lastRecord (.database "key 'id' is taken") =
        "oops_message" := by decide +kernel
  have hfilled : b.filled (.database "key 'id' is taken") (Table.ofList [("id", .integer 1),
      ("id2", .integer 2)]) = "Database error: key ''id'' is taken" := by decide +kernel
  have hnone : ∀ s : Statement, s.ExecutesOnError → s.body ≠ b.source := by
    intro s hs hbody
    obtain ⟨answer, hlog⟩ := h (failedIteration "err") _ _ b s rfl hnamed rfl rfl hb hs hbody
    have hsql := Action.eq_of_log_handler hs rfl hlog
    rw [hbody, hfilled] at hsql
    exact absurd (hsql.trans htaken) (by decide)
  exact hnone ⟨"on_error", ["execute"], b.source, ""⟩ ⟨rfl, rfl⟩ rfl

end StepScript
