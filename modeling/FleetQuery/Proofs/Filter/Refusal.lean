import FleetQuery.Entity.Container
import FleetQuery.Proofs.Filter.Descent
import FleetQuery.Proofs.Literal.Refusal
import FleetQuery.Proofs.Text.Caret

/-!
# Refusals

Every reader works at the front of a text, and whatever it leaves or blames is an end of that text.
This carries over from reader to reader, so a fault is always placed in the whole text, between two
of its characters:

* `Stays s x` : what the outcome `x` leaves or blames is an end of `s`, and it blames nothing but
  the faults of the grammar and of the schema;
* `ReadersStay` : **all readers of expressions stay in their text**, by induction on the free
  levels;
* `pinpoints_of_refused` : **filters, durations and sizes are refused at a character boundary of the
  text as it was typed, and a filter is refused in the words of the grammar**, also where it is
  read by combinators that try alternatives;
* `caretBelow_parseFilter` : **the caret stands below the offending character exactly if the filter
  is one line.**
-/

namespace FleetQuery

variable {α β : Type} {schema : Schema} {s t : List Char} {n : Nat}

/-! ### Outcomes that stay in the text -/

/-- A malformation of the grammar, which has a wording of its own. -/
def Malformation.Fixed : Malformation → Prop
  | expectedField | expectedClose | expectedValue | expectedQuote | nestedTooDeeply => True
  | unexpected _ | stated _ => False

/-- A reader of expressions may find this fault: one of the schema or of the grammar. -/
def FilterFault.Fixed : FilterFault → Prop
  | malformed why => why.Fixed
  | unknownField _ | illegalOperator _ _ => True

/-- What is left of `s`, or blamed, is an end of `s`, and only faults of the schema and of the
grammar are blamed. -/
def Stays (s : List Char) : Except Stop (α × List Char) → Prop
  | .ok (_, rest) => rest <:+ s
  | .error stop => stop.rest <:+ s ∧ stop.fault.Fixed

theorem Stays.mono {x : Except Stop (α × List Char)} (h : Stays t x) (hts : t <:+ s) :
    Stays s x := by
  cases x with
  | ok a => exact h.trans hts
  | error stop => exact ⟨h.1.trans hts, h.2⟩

/-- What goes on with what is left stays in the text too. -/
theorem Stays.bind {x : Except Stop (α × List Char)}
    {f : α × List Char → Except Stop (β × List Char)} (hx : Stays s x)
    (hf : ∀ a rest, Stays rest (f (a, rest))) : Stays s (x >>= f) := by
  cases x with
  | ok a => exact (hf a.1 a.2).mono hx
  | error stop => exact hx

theorem suffix_of_skipBlanks_eq {c : Char} (h : skipBlanks s = c :: t) : t <:+ s :=
  (List.suffix_cons c t).trans (h ▸ (padded_skipBlanks s).suffix)

/-! ### Comparisons -/

theorem stays_pattern (s : List Char) : Stays s (pattern s) := by
  cases h : pattern s with
  | ok r =>
    obtain ⟨p, rest⟩ := r
    cases pattern_eq_ok_iff.1 h with
    | @quoted q p rest =>
      exact (List.suffix_cons q rest).trans (List.suffix_append (q :: p) (q :: rest))
    | bare => exact List.suffix_append _ rest
  | error stop =>
    rcases pattern_eq_error h with rfl | ⟨rfl, -⟩
    · exact ⟨List.suffix_refl s, trivial⟩
    · exact ⟨List.nil_suffix, trivial⟩

theorem stays_checkOperator {rule : FieldRule} {name : String} {op : Operator}
    {x : Except Stop (α × List Char)} (ht : t <:+ s) (hx : Stays s x) :
    Stays s (checkOperator rule name op t >>= fun _ => x) := by
  unfold checkOperator
  split_ifs
  · exact hx
  · exact ⟨ht, trivial⟩

theorem stays_comparison (schema : Schema) (s : List Char) : Stays s (comparison schema s) := by
  unfold comparison
  split
  · exact ⟨List.suffix_refl s, trivial⟩
  rename_i name after hfield
  obtain ⟨rfl, -⟩ := fieldName?_eq_some_iff.1 hfield
  have hafter : skipBlanks after <:+ name ++ after :=
    (padded_skipBlanks after).suffix.trans (List.suffix_append name after)
  dsimp only
  split
  · exact ⟨List.suffix_refl _, trivial⟩
  rename_i field rule hresolve
  split
  · exact stays_checkOperator (List.suffix_refl _) hafter
  rename_i op after' hop
  have hpattern : skipBlanks after' <:+ name ++ after := by
    have hsym : after' <:+ skipBlanks after := ⟨_, (operator?_eq_some_iff.1 hop).1.symm⟩
    exact ((padded_skipBlanks after').suffix.trans hsym).trans hafter
  refine stays_checkOperator hafter (Stays.mono ?_ hpattern)
  exact (stays_pattern _).bind fun _ rest => List.suffix_refl rest

/-! ### Expressions -/

theorem stays_tooDeep (ht : t <:+ s) : Stays s (tooDeep t) := ⟨ht, trivial⟩

theorem stays_closeGroup (e : Expr) (s : List Char) : Stays s (closeGroup e s) := by
  unfold closeGroup
  split
  · rename_i rest hskip
    exact suffix_of_skipBlanks_eq hskip
  · exact ⟨(padded_skipBlanks s).suffix, trivial⟩

/-- With `n` free levels, the readers of all parts of the descent stay in their text. -/
def ReadersStay (schema : Schema) (n : Nat) : Prop :=
  ∀ (p : Descent.Part) (s : List Char), Stays s (p.read schema n s)

theorem stays_parseNot (ih : ∀ m, n = m + 1 → ReadersStay schema m) (s : List Char) :
    Stays s (parseNot schema n s) := by
  by_cases hneg : ∃ s', skipBlanks s = '!' :: s'
  · obtain ⟨s', hskip⟩ := hneg
    have hs' : s' <:+ s := suffix_of_skipBlanks_eq hskip
    cases n with
    | zero =>
      rw [parseNot, hskip]
      exact stays_tooDeep hs'
    | succ n =>
      rw [parseNot_negation hskip]
      refine Stays.mono ?_ hs'
      exact (ih n rfl .not s').bind fun _ rest => List.suffix_refl rest
  by_cases hgroup : ∃ s', skipBlanks s = '(' :: s'
  · obtain ⟨s', hskip⟩ := hgroup
    have hs' : s' <:+ s := suffix_of_skipBlanks_eq hskip
    cases n with
    | zero =>
      rw [parseNot, hskip]
      exact stays_tooDeep hs'
    | succ n =>
      rw [parseNot_group hskip]
      exact ((ih n rfl (.chain .or) s').bind stays_closeGroup).mono hs'
  rw [parseNot_comparison (not_exists.1 hneg) (not_exists.1 hgroup)]
  exact (stays_comparison schema _).mono (padded_skipBlanks s).suffix

theorem stays_links (ih : ∀ m, n = m + 1 → ReadersStay schema m) (k : Chain) (e : Expr)
    (s : List Char) : Stays s (parseLinks schema k n e s) := by
  by_cases hlink : ∃ s', skipBlanks s = k.symbol :: s'
  · obtain ⟨s', hskip⟩ := hlink
    have hs' : s' <:+ s := suffix_of_skipBlanks_eq hskip
    cases n with
    | zero =>
      rw [parseLinks_tooDeep hskip]
      exact stays_tooDeep hs'
    | succ n =>
      rw [parseLinks_link hskip, ← Descent.read_operand]
      exact ((ih n rfl (.operand k) s').bind fun e' =>
        ih n rfl (.links k (k.combine e e'))).mono hs'
  · rw [parseLinks_stop (not_exists.1 hlink)]
    exact List.suffix_refl s

theorem readersStay_step (ih : ∀ m, n = m + 1 → ReadersStay schema m) : ReadersStay schema n := by
  have hchain : ∀ k : Chain, (∀ s, Stays s ((Descent.Part.operand k).read schema n s)) →
      ∀ s, Stays s ((Descent.Part.chain k).read schema n s) := by
    intro k hoperand s
    rw [Descent.read_chain]
    exact (hoperand s).bind (stays_links ih k)
  have hand : ∀ s, Stays s ((Descent.Part.chain .and).read schema n s) :=
    hchain .and (stays_parseNot ih)
  intro p s
  cases p with
  | chain k =>
    cases k with
    | and => exact hand s
    | or => exact hchain .or hand s
  | links k e => exact stays_links ih k e s
  | not | atom => exact stays_parseNot ih s

/-- **All readers of expressions stay in their text**, by induction on the free levels. -/
theorem readersStay (schema : Schema) (n : Nat) : ReadersStay schema n :=
  levels_induction (fun _ => readersStay_step) n

/-! ### Refused texts -/

/-- The wordings of the malformations that name no character. -/
def fixedWordings : List String :=
  ["expected a field name", "expected ')'", "expected a value", "expected closing quote",
    "expression nested too deeply"]

/-- How failures begin that nobody has named: that of a primitive reader, and a lack of text. -/
def fallbacks : List String := ["unexpected input", "incomplete expression"]

/-- The wording begins like that of a failure without a name. -/
def IsFallback (wording : String) : Prop :=
  ∃ fallback ∈ fallbacks, fallback.toList <+: wording.toList

instance : DecidablePred IsFallback := fun _ => inferInstanceAs (Decidable (∃ _ ∈ _, _))

/-- A malformation is told in one of the fixed wordings, or it names the character at its place; and
no fault is told in the wording of a fallback. -/
structure FilterError.Worded (e : FilterError) : Prop where
  /-- Malformations. -/
  malformed : ∀ why, e.fault = .malformed why →
    why.message ∈ fixedWordings ∨
      ∃ before c after, e.Divides before (String.singleton c ++ after) ∧
        why.message = "unexpected '" ++ String.singleton c ++ "'"
  /-- Faults of any sort. -/
  not_fallback : ¬ IsFallback e.fault.message

theorem Malformation.Fixed.message_mem {why : Malformation} (h : why.Fixed) :
    why.message ∈ fixedWordings := by
  cases why with
  | unexpected c => exact h.elim
  | stated text => exact h.elim
  | expectedField | expectedClose | expectedValue | expectedQuote | nestedTooDeeply =>
    decide +kernel

theorem not_isFallback_append {start : String} (rest : String)
    (h : ∀ fallback ∈ fallbacks,
      ¬ fallback.toList <+: start.toList ∧ ¬ start.toList <+: fallback.toList) :
    ¬ IsFallback (start ++ rest) := by
  rintro ⟨fallback, hmem, hfront⟩
  rw [String.toList_append] at hfront
  rcases List.prefix_or_prefix_of_prefix hfront (List.prefix_append _ _) with hshort | hlong
  · exact (h fallback hmem).1 hshort
  · exact (h fallback hmem).2 hlong

theorem FilterFault.not_isFallback {fault : FilterFault}
    (h : fault.Fixed ∨ ∃ c, fault = .malformed (.unexpected c)) :
    ¬ IsFallback fault.message := by
  have hwordings : ∀ wording ∈ fixedWordings, ¬ IsFallback wording := by decide +kernel
  rcases h with hfixed | ⟨c, rfl⟩
  · cases fault with
    | unknownField name =>
      change ¬ IsFallback ("unknown field '" ++ name ++ "'")
      rw [String.append_assoc]
      exact not_isFallback_append _ (by decide +kernel)
    | illegalOperator field op =>
      change ¬ IsFallback ("operator '" ++ op.display ++ _ ++ field ++ "'")
      simp only [String.append_assoc]
      exact not_isFallback_append _ (by decide +kernel)
    | malformed why => exact hwordings _ (Malformation.Fixed.message_mem hfixed)
  · change ¬ IsFallback ("unexpected '" ++ String.singleton c ++ "'")
    rw [String.append_assoc]
    exact not_isFallback_append _ (by decide +kernel)

/-- A refused filter is blamed where the readers stopped, or where they left a character that is no
white space. -/
theorem exists_divides_of_parseFilter {input : String} {err : FilterError}
    (h : parseFilter schema input = .error err) :
    err.input = input ∧ ∃ before after, err.Divides before after ∧
      (err.fault.Fixed ∨ ∃ c u, after = String.singleton c ++ u ∧
        err.fault = .malformed (.unexpected c)) := by
  have hstays : Stays input.toList (parseChain schema .or nestingLimit input.toList) :=
    readersStay schema nestingLimit (.chain .or) input.toList
  unfold parseFilter at h
  split at h
  · rename_i stop hparse
    obtain rfl := Except.error.inj h
    rw [hparse] at hstays
    obtain ⟨⟨p, hp⟩, hfixed⟩ := hstays
    exact ⟨rfl, _, _, Located.divides_before stop.fault hp.symm, .inl hfixed⟩
  · rename_i e rest hparse
    split at h
    · cases h
    · rename_i c u htrim
      obtain rfl := Except.error.inj h
      rw [hparse] at hstays
      have hrest : trimLeft rest <:+ rest := List.dropWhile_suffix isWhiteSpace
      rw [htrim] at hrest
      obtain ⟨p, hp⟩ := hrest.trans hstays
      exact ⟨rfl, _, _, Located.divides_before _ hp.symm,
        .inr ⟨c, String.ofList u, String.ofList_cons, rfl⟩⟩

theorem worded_of_parseFilter {input : String} {err : FilterError}
    (h : parseFilter schema input = .error err) : err.Worded := by
  obtain ⟨-, before, after, hdivides, hfault⟩ := exists_divides_of_parseFilter h
  constructor
  · intro why hwhy
    rcases hfault with hfixed | ⟨c, u, rfl, hfault⟩
    · rw [hwhy] at hfixed
      exact .inl (Malformation.Fixed.message_mem hfixed)
    · obtain rfl : why = .unexpected c := by
        rw [hwhy] at hfault
        exact FilterFault.malformed.inj hfault
      exact .inr ⟨before, c, u, hdivides, rfl⟩
  · exact FilterFault.not_isFallback (hfault.imp_right fun ⟨c, _, _, h⟩ => ⟨c, h⟩)

theorem Scale.Refused.pinpoints {scale : Scale} {input : String} {err : LiteralError}
    (h : scale.Refused input err) : err.Pinpoints input := by
  cases h with
  | noValue => exact (Located.divides_mk _ (List.append_nil _).symm).pinpoints
  | incomplete _ _ _ _ hbefore => exact (Located.divides_mk _ hbefore).pinpoints

/-- **Refused filters and literals are shown as they were typed, with the caret behind as many
spaces as there are characters before the place**, which is a character boundary of the text.  A
filter that is malformed is told in one of six wordings; where that names a character, it stands at
the place.  The descent with combinators comes to an end on every text, agrees with `parseFilter`,
and leaves no failure to be reported that nobody has named. -/
theorem pinpoints_of_refused (schema : Schema) (input : String) :
    (∀ err : FilterError, parseFilter schema input = .error err →
      err.Pinpoints input ∧ err.Worded) ∧
    (∀ err : LiteralError, parseDuration input = .error err → err.Pinpoints input) ∧
    (∀ err : LiteralError, parseSize input = .error err → err.Pinpoints input) ∧
    (∃ x, Descent.Descends schema input x) ∧
      ∀ x, Descent.Descends schema input x →
        x.finish input = parseFilter schema input ∧ x.Told := by
  refine ⟨fun err h => ⟨?_, worded_of_parseFilter h⟩, fun err h => ?_, fun err h => ?_,
    Descent.exists_descends schema input, fun x hx => ⟨hx.finish_eq, hx.told⟩⟩
  · obtain ⟨rfl, before, after, hdivides, -⟩ := exists_divides_of_parseFilter h
    exact hdivides.pinpoints
  · exact ((parse_eq_error_iff input err).1.1 h).pinpoints
  · exact ((parse_eq_error_iff input err).2.1 h).pinpoints

/-- A group that is not closed behind characters of two bytes, and literals of which the next
character has two bytes. -/
theorem pinpoints_of_refused_accented :
    let filter := "name=é | (id=ü"
    let err : FilterError := ⟨.malformed .expectedClose, 16, filter⟩
    let duration : LiteralError := ⟨.missingNumber, 3, "1h é"⟩
    let size : LiteralError := ⟨.missingUnit, 5, "1KB 2µ"⟩
    (parseFilter Container.schema filter = .error err ∧ err.Pinpoints filter ∧ err.Worded) ∧
      (parseDuration "1h é" = .error duration ∧ duration.Pinpoints "1h é") ∧
      (parseSize "1KB 2µ" = .error size ∧ size.Pinpoints "1KB 2µ") ∧
      ∃ x, Descent.Descends Container.schema filter x ∧ x.finish filter = .error err ∧ x.Told := by
  have hfilter : parseFilter Container.schema "name=é | (id=ü" =
      .error ⟨.malformed .expectedClose, 16, "name=é | (id=ü"⟩ := rfl
  have hduration : parseDuration "1h é" = .error ⟨.missingNumber, 3, "1h é"⟩ := by decide +kernel
  have hsize : parseSize "1KB 2µ" = .error ⟨.missingUnit, 5, "1KB 2µ"⟩ := by decide +kernel
  obtain ⟨herr, -, -, ⟨x, hx⟩, hruns⟩ := pinpoints_of_refused Container.schema "name=é | (id=ü"
  obtain ⟨hfinish, htold⟩ := hruns x hx
  exact ⟨⟨hfilter, herr _ hfilter⟩,
    ⟨hduration, (pinpoints_of_refused Container.schema "1h é").2.1 _ hduration⟩,
    ⟨hsize, (pinpoints_of_refused Container.schema "1KB 2µ").2.2.1 _ hsize⟩,
    x, hx, hfinish.trans hfilter, htold⟩

/-- **The caret stands below the offending character exactly if the filter is one line.**  It always
stands below the last line, in the column that is the number of characters before the place on all
lines. -/
theorem caretBelow_parseFilter {input : String} {err : FilterError}
    (h : parseFilter schema input = .error err) :
    (err.CaretBelow ↔ lastLine input = 0) ∧
      ∃ before after shown, err.Divides before after ∧ err.caret = shown ++ "^" ∧
        lastLine shown = lastLine input + 1 ∧ lastColumn shown = before.length := by
  obtain ⟨rfl, before, after, hdivides, -⟩ := exists_divides_of_parseFilter h
  obtain ⟨shown, hshown⟩ := hdivides.exists_shown
  exact ⟨hdivides.caretBelow_iff, before, after, shown, hdivides, hshown⟩

/-- A field that is not known, behind an accented pattern on the same line. -/
theorem caretBelow_parseFilter_accented :
    let filter := "name=é & nope"
    let err : FilterError := ⟨.unknownField "nope", 10, filter⟩
    parseFilter Container.schema filter = .error err ∧ lastLine filter = 0 ∧ err.CaretBelow :=
  have h : parseFilter Container.schema "name=é & nope" =
      .error ⟨.unknownField "nope", 10, "name=é & nope"⟩ := rfl
  ⟨h, by decide +kernel, (caretBelow_parseFilter h).1.2 (by decide +kernel)⟩

/-- On the second line the caret is set off by the first line too. -/
theorem parseFilter_secondLine :
    let filter := "running\n& nope"
    let err : FilterError := ⟨.unknownField "nope", 10, filter⟩
    parseFilter Container.schema filter = .error err ∧
      err.caret = "running\n& nope\n          ^" ∧ ¬ err.CaretBelow := by
  have h : parseFilter Container.schema "running\n& nope" =
      .error ⟨.unknownField "nope", 10, "running\n& nope"⟩ := rfl
  obtain ⟨-, before, after, hdivides, -⟩ := exists_divides_of_parseFilter h
  refine ⟨h, by decide +kernel, ?_⟩
  rw [hdivides.caretBelow_iff]
  decide +kernel

end FleetQuery
