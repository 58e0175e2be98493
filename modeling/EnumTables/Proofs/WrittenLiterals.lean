import EnumTables.Proofs.Guard
import EnumTables.Token.Printer

/-!
# Written literals

A value is written as the digits of its magnitude with its type behind them, and behind a minus if it is
negative.  The least value of a signed type has a magnitude which the type does not have, so that the minus has
to be read before the range is looked at.

* `piece?_digits` — digits and a type are one token.
* `lex_render_literalTokens` — the text of a literal gives its tokens again.
* `exprOf` — an expression by itself.
* `readAll_literal` — the tokens of a literal are read as the expression of its value.
* `ReadsAs` — what is read is the literal of a value, and is evaluated to that.
* `literal_readsAs` — so it is with the tokens which are written for a value, and with their text.
-/

namespace EnumTables.Token

open EnumTables.Companion EnumTables.Number EnumTables.Source EnumTables.Text

variable {c : Char} {digits cs : List Char} {type : Primitive} {value : Int}

/-! ## What does not begin with a digit -/

lemma not_isBlank_of_isDigit (h : c.isDigit = true) : isBlank c = false := by
  have hspace : c ≠ ' ' := ne_of_isDigit h rfl
  simp only [Char.isDigit, Bool.and_eq_true, decide_eq_true_eq] at h
  have hge : 48 ≤ c.toNat := h.1
  have hle : c.toNat ≤ 57 := h.2
  simp [isBlank, isWhite, hspace]
  omega

lemma bracketPiece?_of_isDigit (h : c.isDigit = true) : bracketPiece? c = none := by
  unfold bracketPiece?
  split <;> first | rfl | cases h

/-- A text which begins with a digit begins with no word which does not. -/
lemma startsWith_of_isDigit {text : String} (h : c.isDigit = true)
    (htext : text.toList.head?.any Char.isDigit = false) (hne : text.toList ≠ []) :
    startsWith (c :: cs) text = false := by
  unfold startsWith
  rcases ht : text.toList with _ | ⟨d, more⟩
  · exact absurd ht hne
  · rw [ht] at htext
    have hd : d ≠ c := (ne_of_isDigit h htext).symm
    simp [List.isPrefixOf, hd]

/-- No quoted literal begins with a digit. -/
lemma quotedLength?_of_isDigit (h : c.isDigit = true) : quotedLength? (c :: cs) = none := by
  have hstart : ∀ text : String, text.toList.head?.any Char.isDigit = false → text.toList ≠ [] →
      startsWith (c :: cs) text = false := fun _ => startsWith_of_isDigit h
  simp [quotedLength?, openedBy, hstart "\"" rfl nofun, hstart "r" rfl nofun, hstart "b\"" rfl nofun,
    hstart "br" rfl nofun, hstart "c\"" rfl nofun, hstart "cr" rfl nofun, hstart "b'" rfl nofun,
    hstart "'" rfl nofun]

/-! ## Digits and a type -/

/-- Neither a point nor an exponent follows the digits, so that they make no float. -/
lemma floatTail?_digits {length : Nat} (hdigits : ∀ d ∈ digits, d.isDigit = true) :
    floatTail? length false (digits ++ type.label.toList) = none := by
  induction digits generalizing length with
  | nil => cases type <;> rfl
  | cons d digits ih =>
      obtain ⟨hd, hdigits⟩ := List.forall_mem_cons.mp hdigits
      simp [floatTail?, hd, ih hdigits]

/-- The digits end where the type begins. -/
lemma digitsLength?_digits {length : Nat} (hdigits : ∀ d ∈ digits, d.isDigit = true) :
    digitsLength? 10 length false (digits ++ type.label.toList) = some (length + digits.length) := by
  induction digits generalizing length with
  | nil => cases type <;> rfl
  | cons d digits ih =>
      obtain ⟨hd, hdigits⟩ := List.forall_mem_cons.mp hdigits
      simp [digitsLength?, ne_of_isDigit hd (d := '_') rfl, digitValue?_of_isDigit hd, toNat_sub_lt_ten hd,
        ih hdigits]
      omega

/-- The type is a suffix up to the end. -/
lemma withSuffix_label (cs : List Char) (type : Primitive) :
    withSuffix (cs ++ type.label.toList) cs.length = (cs ++ type.label.toList).length := by
  have hlabel : plainIdentLength? type.label.toList = some type.label.toList.length := by
    simpa [isIdentifier] using isIdentifier_label type
  rw [withSuffix, List.drop_left, hlabel, Option.getD_some, List.length_append]

lemma wordEnds_length (cs : List Char) : wordEnds cs cs.length = some cs.length := by
  rw [wordEnds, List.drop_length]

lemma integerLength?_digits (hdigits : ∀ d ∈ c :: digits, d.isDigit = true) :
    integerLength? ((c :: digits) ++ type.label.toList) =
      some ((c :: digits) ++ type.label.toList).length := by
  obtain ⟨hc, hrest⟩ := List.forall_mem_cons.mp hdigits
  have hcount : digitsLength? 10 0 true ((c :: digits) ++ type.label.toList) =
      some (c :: digits).length := by
    have hstep : digitsLength? 10 0 true ((c :: digits) ++ type.label.toList) =
        digitsLength? 10 1 false (digits ++ type.label.toList) := by
      simp [digitsLength?, ne_of_isDigit hc (d := '_') rfl, digitValue?_of_isDigit hc, toNat_sub_lt_ten hc]
    rw [hstep, digitsLength?_digits hrest, List.length_cons, Nat.add_comm]
  rw [integerLength?, baseOf_digits hdigits]
  simp only [List.drop_zero, hcount, Option.bind_eq_bind, Option.bind_some, Nat.zero_add, withSuffix_label,
    wordEnds_length]

lemma literalLength?_digits (hdigits : ∀ d ∈ c :: digits, d.isDigit = true) :
    literalLength? ((c :: digits) ++ type.label.toList) =
      some ((c :: digits) ++ type.label.toList).length := by
  obtain ⟨hc, hrest⟩ := List.forall_mem_cons.mp hdigits
  have hfloat : floatLength? ((c :: digits) ++ type.label.toList) = none := by
    simp [floatLength?, hc, floatTail?_digits hrest]
  rw [literalLength?, numberLength?, hfloat, integerLength?_digits hdigits, List.cons_append,
    quotedLength?_of_isDigit hc]
  rfl

/-- **Digits and a type are one token.** -/
lemma piece?_digits (hdigits : ∀ d ∈ c :: digits, d.isDigit = true) :
    piece? ((c :: digits) ++ type.label.toList) =
      some (.literal, ((c :: digits) ++ type.label.toList).length) := by
  have hc : c.isDigit = true := hdigits c (List.mem_cons_self ..)
  have hliteral : literalLength? (c :: (digits ++ type.label.toList)) =
      some (c :: (digits ++ type.label.toList)).length := literalLength?_digits hdigits
  have hline : startsWith (c :: (digits ++ type.label.toList)) "//" = false :=
    startsWith_of_isDigit hc rfl nofun
  have hblock : startsWith (c :: (digits ++ type.label.toList)) "/*" = false :=
    startsWith_of_isDigit hc rfl nofun
  rw [List.cons_append]
  simp only [piece?, not_isBlank_of_isDigit hc, hline, hblock, bracketPiece?_of_isDigit hc, hliteral,
    Bool.or_self, Bool.false_eq_true, if_false]

/-! ## Texts of literals -/

variable {here : Position}

/-- A text which is one literal gives one token. -/
lemma lexFrom_of_literal {done : List Token} (h : piece? cs = some (.literal, cs.length)) :
    lexFrom here [] done cs =
      .ok (done.reverse ++ [.literal (String.ofList cs) ⟨here, here.after cs, false⟩]) := by
  cases cs with
  | nil => simp [piece?] at h
  | cons c rest =>
      have htake : (c :: rest).take (rest.length + 1) = c :: rest := List.take_length (l := c :: rest)
      rw [lexFrom.eq_def]
      simp only [h, List.length_cons, htake, Nat.add_sub_cancel, List.drop_length]
      rw [lexFrom.eq_def]
      simp only [List.reverse_cons]

lemma lexFrom_literal (here : Position) (done : List Token) (magnitude : Nat) (type : Primitive) :
    ∃ place, lexFrom here [] done (toString magnitude ++ type.label).toList =
      .ok (done.reverse ++ [.literal (toString magnitude ++ type.label) place]) := by
  obtain ⟨c, digits, hdigits, -, htext⟩ := exists_digits magnitude type
  have hpiece : piece? (toString magnitude ++ type.label).toList =
      some (.literal, (toString magnitude ++ type.label).toList.length) := by
    rw [htext]
    exact piece?_digits hdigits
  refine ⟨⟨here, here.after (toString magnitude ++ type.label).toList, false⟩, ?_⟩
  rw [lexFrom_of_literal hpiece, String.ofList_toList]

/-- A minus is a token, and the blank behind it is none. -/
lemma lexFrom_minus (here : Position) (cs : List Char) :
    ∃ sign there, lexFrom here [] [] ('-' :: ' ' :: cs) = lexFrom there [] [.mark '-' false sign] cs := by
  have hminus : piece? ('-' :: ' ' :: cs) = some (.mark false, 1) := rfl
  have hblank : piece? (' ' :: cs) = some (.blank, 1) := rfl
  refine ⟨⟨here, here.after ['-'], false⟩, (here.after ['-']).after [' '], ?_⟩
  rw [lexFrom.eq_def]
  simp only [hminus, Nat.sub_self, List.drop_zero, List.take_succ_cons, List.take_zero]
  rw [lexFrom.eq_def]
  simp only [hblank, Nat.sub_self, List.drop_zero, List.take_succ_cons, List.take_zero]

lemma lex_cons (h : c ≠ '\ufeff') (cs : List Char) :
    lex (c :: cs) = lexFrom .origin [] [] (c :: cs) := by
  unfold lex
  split
  · rename_i heq
    exact absurd (List.cons.inj heq).1 h
  · rfl

/-- **The text of a literal gives its tokens again**, each with a place. -/
lemma lex_render_literalTokens (type : Primitive) (value : Int) :
    ∃ sign place, lex (render (literalTokens type value)).toList =
      .ok (literalTokensAt sign place type value) := by
  by_cases hneg : value < 0
  · have htext : (render (literalTokens type value)).toList =
        '-' :: ' ' :: (toString value.natAbs ++ type.label).toList := by
      simp [literalTokens, hneg, render, renderOne]
    obtain ⟨sign, there, hminus⟩ := lexFrom_minus .origin (toString value.natAbs ++ type.label).toList
    obtain ⟨place, hlex⟩ := lexFrom_literal there [.mark '-' false sign] value.natAbs type
    refine ⟨sign, place, ?_⟩
    rw [htext, lex_cons (by decide), hminus, hlex, literalTokensAt, if_pos hneg]
    rfl
  · have htext : render (literalTokens type value) = toString value.natAbs ++ type.label := by
      simp [literalTokens, hneg, render, renderOne]
    obtain ⟨c, digits, hdigits, -, hcs⟩ := exists_digits value.natAbs type
    have hfirst : c ≠ '\ufeff' := ne_of_isDigit (hdigits c (List.mem_cons_self ..)) rfl
    obtain ⟨place, hlex⟩ := lexFrom_literal .origin [] value.natAbs type
    refine ⟨.nowhere, place, ?_⟩
    rw [htext, literalTokensAt, if_neg hneg, hcs, List.cons_append, lex_cons hfirst, ← List.cons_append,
      ← hcs, hlex]
    rfl

end EnumTables.Token

namespace EnumTables.Source

open EnumTables.Companion EnumTables.Constants EnumTables.Number EnumTables.Token

variable {type : Primitive} {value : Int}

/-! ## Reading literals -/

/-- **An expression by itself.** -/
def exprOf (text : String) : Except Misread Expr := do
  readAll (← tokensOf text.toList) fun rules => rules.expr

lemma endsOperand_nil : EndsOperand [] := ⟨rfl, rfl, rfl, rfl⟩

/-- **The tokens of a literal are read as the expression of its value**, wherever they stand. -/
lemma readAll_literal (sign place : Span) (type : Primitive) (value : Int) :
    ∃ e, readAll (literalTokensAt sign place type value) (fun rules => rules.expr) = .ok e ∧
      e.placeless = literalExprOf type value := by
  have hoperators : ∀ (rules : Rules) first left,
      Reads (rules.readOperators first left true .any) [] [] (· = left) :=
    fun rules first left => .repeated (reads_done (.ahead (.pure ⟨_, rfl, rfl⟩)))
  have hread : ∀ rules : Rules,
      Reads (Rules.expr rules.around.around) (literalTokensAt sign place type value) []
        fun e => e.placeless = literalExprOf type value := by
    intro rules
    have hliteral : Reads (rules.around.readOperand true) (literalTokensAt sign place type value ++ []) []
        fun e => e.placeless = literalExprOf type value := reads_literal rules type value endsOperand_nil
    rw [List.append_nil] at hliteral
    refine reads_here.behind fun first => hliteral.bind fun left hleft => ?_
    exact (hoperators rules.around first left).mono fun e he => he ▸ hleft
  exact Reads.readAll (f := Rules.expr)
    (hread (rulesOf (4 * count (literalTokensAt sign place type value) + 6)))

/-- The text of a literal is read as the expression of its value, too. -/
lemma exprOf_render_literalTokens (type : Primitive) (value : Int) :
    ∃ e, exprOf (render (literalTokens type value)) = .ok e ∧ e.placeless = literalExprOf type value := by
  obtain ⟨sign, place, hlex⟩ := lex_render_literalTokens type value
  obtain ⟨e, hread, he⟩ := readAll_literal sign place type value
  refine ⟨e, ?_, he⟩
  rw [exprOf, tokensOf, hlex]
  exact hread

/-! ## Evaluating literals -/

lemma eq_integer_of_placeless {e : Expr} {number : IntegerLiteral}
    (h : e.placeless = .integer number .nowhere .nowhere) : ∃ place span, e = .integer number place span := by
  cases e with
  | integer found place span =>
      obtain rfl : found = number := by simpa [Expr.placeless] using h
      exact ⟨place, span, rfl⟩
  | _ => simp [Expr.placeless] at h

/-- **The expression of a value is evaluated to the value**, whatever is known and whatever is in progress.
Behind a minus, the magnitude is not held against the type. -/
lemma run_integer_literal {e : Expr} (he : e.placeless = literalExprOf type value)
    (h : type.holds value = true) (scope : Scope) (resolve : Key → Span → Eval Int) (memo : Memo) :
    (scope.integer resolve e).run memo = .ok (value, memo) := by
  have hfits := fits_natAbs h
  by_cases hneg : value < 0
  · have hvalue : -(value.natAbs : Int) = value := by omega
    have hsuffix : SuffixAllows type.label (-(value.natAbs : Int)) := by
      rw [hvalue]
      exact suffixAllows_label.mpr h
    rw [literalExprOf, if_pos hneg] at he
    cases e with
    | neg operand span =>
        obtain ⟨hoperand, -⟩ := Expr.neg.inj he
        obtain ⟨place, inner, rfl⟩ := eq_integer_of_placeless hoperand
        rw [Scope.integer, run_negLiteralValue_eq_ok]
        exact ⟨⟨hfits, hsuffix⟩, hvalue.symm, rfl⟩
    | _ => simp [Expr.placeless] at he
  · have hvalue : (value.natAbs : Int) = value := by omega
    have hsuffix : SuffixAllows type.label (value.natAbs : Int) := by
      rw [hvalue]
      exact suffixAllows_label.mpr h
    rw [literalExprOf, if_neg hneg] at he
    obtain ⟨place, span, rfl⟩ := eq_integer_of_placeless he
    rw [Scope.integer, run_literalValue_eq_ok]
    exact ⟨⟨hfits, hsuffix⟩, hvalue.symm, rfl⟩

/-- **What is read is the literal of a value**: the magnitude with its type as the suffix, behind a minus or
not; and it is evaluated to the value. -/
def ReadsAs (type : Primitive) (value : Int) (found : Except Misread Expr) : Prop :=
  ∃ e, found = .ok e ∧ e.placeless = literalExprOf type value ∧
    ∀ (scope : Scope) resolve memo, (scope.integer resolve e).run memo = .ok (value, memo)

/-- **Literals say the values for which they are written.**  The tokens which are written for a value of a type
are read as an expression which is evaluated to the value, and so is their text.  Hence no other value is
written by the same text, nor by the same tokens. -/
theorem literal_readsAs (type : Primitive) {value : Int} (h : type.holds value = true) :
    ReadsAs type value (readAll (literalTokens type value) fun rules => rules.expr) ∧
    ReadsAs type value (exprOf (render (literalTokens type value))) ∧
    ∀ other, (literalTokens type other = literalTokens type value → other = value) ∧
      (render (literalTokens type other) = render (literalTokens type value) → other = value) := by
  obtain ⟨e, hread, he⟩ := readAll_literal .nowhere .nowhere type value
  obtain ⟨e', hread', he'⟩ := exprOf_render_literalTokens type value
  have hother : ∀ other, render (literalTokens type other) = render (literalTokens type value) →
      other = value := by
    intro other htext
    obtain ⟨found, hfound, hplaceless⟩ := exprOf_render_literalTokens type other
    rw [htext, hread'] at hfound
    cases hfound
    -- one expression means one value, and that of the other literal means nothing else
    have hmeans : IntegerMeans ⟨"", type, []⟩ (literalExprOf type other) value := by
      rw [← hplaceless, he']
      exact means_literalExprOf.mpr ⟨rfl, h⟩
    exact (means_literalExprOf.mp hmeans).1.symm
  exact ⟨⟨e, hread, he, run_integer_literal he h⟩, ⟨e', hread', he', run_integer_literal he' h⟩,
    fun other => ⟨fun htokens => hother other (congrArg render htokens), hother other⟩⟩

/-- The least value of `i64` is written with a magnitude which `i64` does not have. -/
theorem literal_readsAs_least :
    Primitive.i64.holds Primitive.i64.least = true ∧
      Primitive.i64.holds (-Primitive.i64.least) = false ∧
      ReadsAs .i64 Primitive.i64.least (exprOf "- 9223372036854775808i64") := by
  have hleast : Primitive.i64.holds Primitive.i64.least = true := by decide
  have htext : render (literalTokens .i64 Primitive.i64.least) = "- 9223372036854775808i64" := by
    decide +kernel
  exact ⟨hleast, by decide, htext ▸ (literal_readsAs .i64 hleast).2.1⟩

end EnumTables.Source
