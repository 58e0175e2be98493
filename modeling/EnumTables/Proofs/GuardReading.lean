import EnumTables.Proofs.Literals
import EnumTables.Proofs.Places
import EnumTables.Source.Read

/-!
# Guards are read as they are written

The guard of a companion compares the field of each constant with a literal.  One part of the library
writes its tokens, and another one reads such tokens in source files; here, what is read is shown to be
what was written.

* `readGuard` — what a guard compares.
* `Reads` — a reader takes some tokens off the front and gives something for them.
* `reads_field` — the field of a constant, the left side of a comparison.
* `reads_literal` — the literal of a value, the right side.
* `readGuard_guardCode` — all comparisons of a guard.
-/

namespace EnumTables.Source

open EnumTables.Companion EnumTables.Group EnumTables.Number EnumTables.Token

/-! ## Reading guards -/

/-- The two sides of `::core::assert!(left == right, \"message\");`. -/
def Rules.readAssertion (rules : Rules) : Reader (Expr × Expr) := do
  mark "::"
  word "core"
  mark "::"
  word "assert"
  mark "!"
  let sides ← inside .paren do
    let left ← rules.operand true
    mark "=="
    let right ← rules.operand true
    mark ","
    stringLiteral
    return (left, right)
  mark ";"
  return sides

/-- The sides of all assertions in `const _: () = { .. };`. -/
def Rules.readGuard (rules : Rules) : Reader (List (Expr × Expr)) := do
  word "const"
  word "_"
  mark ":"
  discard anyGroup
  mark "="
  let found ← inside .brace (untilEnd rules.readAssertion)
  mark ";"
  return found

/-! ## Readers which succeed -/

/-- **A reader reads** something with a property, and leaves `rest` of the tokens. -/
def Reads {α : Type} (body : Reader α) (tokens rest : List Token) (P : α → Prop) : Prop :=
  ∀ scope last leftover, ∃ value after,
    body.run ⟨tokens, scope, last, leftover⟩ = .ok (value, ⟨rest, scope, after, leftover⟩) ∧ P value

section

variable {α β : Type} {body : Reader α} {next : α → Reader β} {tokens between rest : List Token}
variable {P : α → Prop} {Q : β → Prop}

lemma Reads.pure {value : α} (h : P value) : Reads (pure value) tokens tokens P :=
  fun _ last _ => ⟨value, last, rfl, h⟩

lemma Reads.mono {P' : α → Prop} (h : Reads body tokens rest P) (hP : ∀ value, P value → P' value) :
    Reads body tokens rest P' := by
  intro scope last leftover
  obtain ⟨value, after, hrun, hvalue⟩ := h scope last leftover
  exact ⟨value, after, hrun, hP value hvalue⟩

lemma Reads.bind (h : Reads body tokens between P)
    (hnext : ∀ value, P value → Reads (next value) between rest Q) :
    Reads (body >>= next) tokens rest Q := by
  intro scope last leftover
  obtain ⟨first, middle, hfirst, hP⟩ := h scope last leftover
  obtain ⟨value, after, hrun, hQ⟩ := hnext first hP scope middle leftover
  refine ⟨value, after, ?_, hQ⟩
  rw [StateT.run_bind, hfirst]
  exact hrun

/-- What is known exactly is put into the rest. -/
lemma Reads.exactly {a : α} (h : Reads body tokens between (· = a))
    (hnext : Reads (next a) between rest Q) : Reads (body >>= next) tokens rest Q :=
  h.bind fun _ hfound => hfound ▸ hnext

lemma Reads.behind (h : Reads body tokens between fun _ => True)
    (hnext : ∀ value, Reads (next value) between rest Q) : Reads (body >>= next) tokens rest Q :=
  h.bind fun value _ => hnext value

lemma Reads.discard (h : Reads body tokens rest P) :
    Reads (discard body) tokens rest fun _ => True := by
  intro scope last leftover
  obtain ⟨value, after, hrun, -⟩ := h scope last leftover
  refine ⟨(), after, ?_, trivial⟩
  change (body >>= fun _ => Pure.pure ()).run _ = _
  rw [StateT.run_bind, hrun]
  rfl

lemma reads_get : Reads get tokens tokens fun _ => True :=
  fun scope last leftover => ⟨⟨tokens, scope, last, leftover⟩, last, rfl, trivial⟩

lemma reads_here : Reads here tokens tokens fun _ => True :=
  fun _ last _ => ⟨_, last, rfl, trivial⟩

lemma reads_ahead : Reads ahead tokens tokens (· = tokens) :=
  fun _ last _ => ⟨tokens, last, rfl, rfl⟩

lemma reads_peek (test : List Token → Bool) : Reads (peek test) tokens tokens (· = test tokens) :=
  fun _ last _ => ⟨test tokens, last, rfl, rfl⟩

lemma reads_take (count : Nat) : Reads (take count) tokens (tokens.drop count) fun _ => True :=
  fun _ _ _ => ⟨(), _, rfl, trivial⟩

/-- A reader which looks at what is ahead looks at these tokens. -/
lemma Reads.ahead {next : List Token → Reader β} (h : Reads (next tokens) tokens rest Q) :
    Reads (ahead >>= next) tokens rest Q :=
  reads_ahead.exactly h

lemma Reads.peek {test : List Token → Bool} {next : Bool → Reader β}
    (h : Reads (next (test tokens)) tokens rest Q) : Reads (peek test >>= next) tokens rest Q :=
  (reads_peek test).exactly h

lemma Reads.ifSo {condition : Bool} {other : Reader α} (hcondition : condition = true)
    (h : Reads body tokens rest P) : Reads (if condition = true then body else other) tokens rest P := by
  rwa [if_pos hcondition]

lemma Reads.ifNot {condition : Bool} {other : Reader α} (hcondition : condition = false)
    (h : Reads other tokens rest P) : Reads (if condition = true then body else other) tokens rest P := by
  rwa [hcondition, if_neg Bool.false_ne_true]

lemma reads_mark {text : String} (h : atMark text tokens = true) :
    Reads (mark text) tokens (tokens.drop text.length) fun _ => True := by
  intro scope last leftover
  have hrun : (mark text).run ⟨tokens, scope, last, leftover⟩ =
      (take text.length).run ⟨tokens, scope, last, leftover⟩ := by
    change (if atMark text tokens = true then take text.length else fail _ _).run _ = _
    rw [if_pos h]
  rw [hrun]
  exact reads_take text.length scope last leftover

lemma reads_noMark {text : String} (h : atMark text tokens = false) :
    Reads (mark? text) tokens tokens (· = false) := by
  refine .peek ?_
  rw [h]
  exact .pure rfl

lemma reads_noWord {text : String} (h : atWord text tokens = false) :
    Reads (word? text) tokens tokens (· = false) := by
  refine .peek ?_
  rw [h]
  exact .pure rfl

lemma reads_word {text : String} (h : atWord text tokens = true) :
    Reads (word text) tokens (tokens.drop 1) fun _ => True :=
  .peek (.ifSo h (reads_take 1))

lemma reads_inside {delimiter : Delimiter} {inner : List Token} {span : Span}
    (h : Reads body inner [] P) :
    Reads (inside delimiter body) (.group delimiter inner span :: rest) rest P := by
  intro scope last leftover
  obtain ⟨value, after, hrun, hvalue⟩ :=
    h (Token.group delimiter inner span).closeSpan last leftover
  refine ⟨value, span, ?_, hvalue⟩
  simp only [inside, StateT.run_bind, StateT.run_get, pure_bind, if_true, StateT.run_set, hrun]
  cases leftover <;> rfl

lemma Reads.repeated {step : α → Reader (Turn α)} {value : α}
    (h : Reads (turns step (tokens.length + 1) value) tokens rest P) :
    Reads (repeated step value) tokens rest P :=
  .ahead h

lemma reads_done {step : α → Reader (Turn α)} {value : α} {bound : Nat}
    (h : Reads (step value) tokens rest fun turn => ∃ result, turn = .done result ∧ P result) :
    Reads (turns step (bound + 1) value) tokens rest P :=
  h.bind fun _ ⟨_, hturn, hresult⟩ => hturn ▸ .pure hresult

lemma reads_more (between : List Token) {step : α → Reader (Turn α)} {value : α} {bound : Nat}
    {R : α → Prop}
    (h : Reads (step value) tokens between fun turn => ∃ next, turn = .more next ∧ R next)
    (hnext : ∀ next, R next → Reads (turns step bound next) between rest P) :
    Reads (turns step (bound + 1) value) tokens rest P :=
  h.bind fun _ ⟨next, hturn, hR⟩ => hturn ▸ hnext next hR

lemma reads_anyGroup {delimiter : Delimiter} {inner : List Token} {span : Span} :
    Reads anyGroup (.group delimiter inner span :: rest) rest fun _ => True :=
  .ahead ((reads_take 1).behind fun _ => .pure trivial)

lemma Reads.readAll {f : Rules → Reader α} (h : Reads (f (rulesFor tokens)) tokens [] P) :
    ∃ value, readAll tokens f = .ok value ∧ P value := by
  obtain ⟨value, after, hrun, hvalue⟩ := h .nowhere .nowhere none
  refine ⟨value, ?_, hvalue⟩
  rw [Source.readAll, hrun]
  rfl

lemma length_le_flatMap {γ : Type} {part : γ → List Token} {parts : List γ}
    (hpart : ∀ a ∈ parts, part a ≠ []) : parts.length ≤ (parts.flatMap part).length := by
  induction parts with
  | nil => simp
  | cons a parts ih =>
      obtain ⟨ha, hparts⟩ := List.forall_mem_cons.mp hpart
      have hlength := List.length_pos_iff.mpr ha
      have hle := ih hparts
      rw [List.flatMap_cons, List.length_append, List.length_cons]
      omega

/-- Parts which are read one by one are read until the end. -/
lemma reads_untilEnd {γ : Type} {part : γ → List Token} {R : γ → α → Prop} {parts : List γ}
    (hpart : ∀ a ∈ parts, part a ≠ [])
    (h : ∀ a ∈ parts, ∀ rest, Reads body (part a ++ rest) rest (R a)) :
    Reads (untilEnd body) (parts.flatMap part) [] (List.Forall₂ R parts) := by
  -- the parts read so far are held backwards
  have hturns : ∀ bound, parts.length < bound → ∀ before, Reads (turns (fun found => do
      if ← ended then return .done found else return .more ((← body) :: found)) bound before)
      (parts.flatMap part) [] fun found =>
        ∃ more, found = more.reverse ++ before ∧ List.Forall₂ R parts more := by
    induction parts with
    | nil =>
        intro bound hbound before
        obtain ⟨bound, rfl⟩ := Nat.exists_eq_add_of_lt hbound
        rw [List.length_nil, Nat.zero_add]
        exact reads_done (.peek (.ifSo rfl (.pure ⟨before, rfl, [], rfl, .nil⟩)))
    | cons a parts ih =>
        intro bound hbound before
        obtain ⟨ha, hparts⟩ := List.forall_mem_cons.mp hpart
        obtain ⟨hread, hrest⟩ := List.forall_mem_cons.mp h
        obtain ⟨bound, rfl⟩ := Nat.exists_eq_succ_of_ne_zero (Nat.ne_zero_of_lt hbound)
        have hnext : parts.length < bound := by
          rw [List.length_cons] at hbound
          omega
        refine reads_more (parts.flatMap part)
          (R := fun found => ∃ first, found = first :: before ∧ R a first) (.peek (.ifNot ?_ ?_)) ?_
        · simp [ha]
        · exact (hread _).bind fun first hfirst => .pure ⟨_, rfl, first, rfl, hfirst⟩
        · rintro _ ⟨first, rfl, hfirst⟩
          refine (ih hparts hrest bound hnext _).mono fun found hfound => ?_
          obtain ⟨more, rfl, hmore⟩ := hfound
          exact ⟨first :: more, by simp, .cons hfirst hmore⟩
  refine .bind (.repeated (hturns _ (Nat.lt_succ_of_le (length_le_flatMap hpart)) [])) fun found hfound => ?_
  obtain ⟨more, rfl, hmore⟩ := hfound
  exact .pure (by simpa using hmore)

lemma reads_noAttributes (h : atMark "#" tokens = false) :
    Reads attributes tokens tokens fun _ => True := by
  have hnone : Reads (whileAt (atMark "#") (do mark "#"; attributeBody)) tokens tokens fun _ => True := by
    refine .repeated (reads_done (.peek ?_))
    rw [h]
    exact .pure ⟨(), rfl, trivial⟩
  exact .peek (.behind hnone fun _ => .pure trivial)

end

/-! ## Tests of what is ahead -/

section

variable {name word : String} {span : Span} {rest : List Token}

@[simp] lemma atMark_ident (text : String) : atMark text (.ident name span :: rest) = false := by
  unfold atMark
  rcases text.toList with _ | ⟨c, _ | ⟨d, more⟩⟩ <;> rfl

lemma atWord_of_reserved (hname : name ∉ reservedWords) (hword : word ∈ reservedWords) :
    atWord word (.ident name span :: rest) = false := by
  have hne : name ≠ word := fun h => hname (h ▸ hword)
  simpa [atWord] using hne

lemma atAnyWord_of_reserved {words : List String} (hname : name ∉ reservedWords)
    (hwords : ∀ word ∈ words, word ∈ reservedWords) :
    atAnyWord words (.ident name span :: rest) = false := by
  rw [atAnyWord, List.any_eq_false]
  intro word hword
  rw [atWord_of_reserved hname (hwords word hword)]
  exact Bool.false_ne_true

lemma atIdent_of_not_reserved (hname : name ∉ reservedWords) :
    atIdent (.ident name span :: rest) = true := by
  simpa [atIdent] using hname

end

/-! ## Paths -/

section

variable {name : String} {span : Span} {rest : List Token} (rules : Rules)

lemma reads_anyIdent : Reads anyIdent (.ident name span :: rest) rest (· = ⟨name, span⟩) :=
  .ahead ((reads_take 1).behind fun _ => .pure rfl)

lemma reads_ident (hname : name ∉ reservedWords) :
    Reads ident (.ident name span :: rest) rest (· = ⟨name, span⟩) := by
  refine .peek ?_
  rw [atIdent_of_not_reserved hname]
  exact reads_anyIdent

/-- A segment without arguments. -/
lemma reads_segment (hname : name ∉ reservedWords) (hrest : behindColons (atMark "<") rest = false) :
    Reads (rules.segment true) (.ident name span :: rest) rest (· = ⟨name, .none⟩) := by
  have hplace : atAnyWord ["super", "self", "crate"] (.ident name span :: rest) = false :=
    atAnyWord_of_reserved hname (by decide)
  have hself : atAnyWord ["Self"] (.ident name span :: rest) = false :=
    atAnyWord_of_reserved hname (by decide)
  have hident : Reads (identOr ["Self"]) (.ident name span :: rest) rest (· = ⟨name, span⟩) := by
    refine .peek ?_
    rw [hself]
    exact reads_ident hname
  refine .peek ?_
  rw [hplace]
  refine hident.exactly (.ahead ?_)
  rw [hrest]
  exact .pure rfl

/-- The tokens of a point, behind which a field stands. -/
abbrev point (span : Span) (rest : List Token) : List Token := .mark '.' false span :: rest

lemma reads_noSegments {dot : Span} :
    Reads (rules.moreSegments true) (point dot rest) (point dot rest) (· = []) := by
  refine .exactly (a := []) (.repeated (reads_done (.peek ?_))) (.pure rfl)
  exact .pure ⟨[], rfl, rfl⟩

lemma reads_oneSegment (hname : name ∉ reservedWords) {first second dot : Span} :
    Reads (rules.moreSegments true)
      (.mark ':' true first :: .mark ':' false second :: .ident name span :: point dot rest)
      (point dot rest) (· = [⟨name, .none⟩]) := by
  refine .exactly (a := [⟨name, .none⟩]) (.repeated ?_) (.pure rfl)
  refine reads_more (point dot rest) (R := (· = [⟨name, .none⟩])) (.peek ?_) fun found hfound => ?_
  · refine (reads_mark rfl).behind fun _ => ?_
    exact (reads_segment rules hname rfl).exactly (.pure ⟨_, rfl, rfl⟩)
  · exact reads_done (.peek (.pure ⟨found, rfl, hfound⟩))

variable {type : String} {constant : Constant} {dot : Span}

/-- **The path of a constant is read from its tokens**, up to the point behind it. -/
lemma reads_path (htype : type ∉ reservedWords) (hname : constant.ident.text ∉ reservedWords) :
    Reads (rules.readPath true) (pathTokens (reference type constant) ++ point dot rest) (point dot rest)
      (· = reference type constant) := by
  obtain ⟨⟨name, place⟩, associated, value, listed⟩ := constant
  cases associated with
  | false =>
      refine (reads_noMark (atMark_ident "::")).exactly ?_
      refine (reads_segment rules hname rfl).exactly ?_
      exact (reads_noSegments rules).exactly (.pure rfl)
  | true =>
      refine (reads_noMark (atMark_ident "::")).exactly ?_
      refine (reads_segment rules htype rfl).exactly ?_
      exact (reads_oneSegment rules hname).exactly (.pure rfl)

/-- What begins with a name and goes on like a path is one. -/
lemma reads_atom {behind : List Token} {P : (Span → Expr) → Prop} (hname : name ∉ reservedWords)
    (hbrace : atGroup .brace behind = false) (hmove : atWord "move" behind = false)
    (hbar : atMark "|" behind = false)
    (h : Reads (rules.namedExpr true) (.ident name span :: behind) rest P) :
    Reads (rules.readAtom true) (.ident name span :: behind) rest P := by
  have hword : ∀ word ∈ reservedWords, atWord word (.ident name span :: behind) = false :=
    fun word hword => atWord_of_reserved hname hword
  have hskip : skip (.ident name span :: behind) = behind := rfl
  have hliteral : atLiteral (.ident name span :: behind) = false :=
    atAnyWord_of_reserved hname (by decide)
  have hkept : atAnyWord ["static", "move"] (.ident name span :: behind) = false :=
    atAnyWord_of_reserved hname (by decide)
  have hclosure : atClosure (.ident name span :: behind) = false := by
    simp [atClosure, hkept, hskip, hmove, hbar]
  have hbinder : atBinder (.ident name span :: behind) = false := by
    simp [atBinder, hword "for" (by decide)]
  have hpath : atPathStart (.ident name span :: behind) = true := by
    simp [atPathStart, atPlainSegment, atIdent_of_not_reserved hname]
  refine .ahead (.ifNot hliteral (.ifNot ?_ (.ifNot ?_ (.ifNot hclosure (.ifNot hbinder (.ifSo ?_ h))))))
  · simp [hskip, hbrace, hmove]
  · simp [hskip, hbrace]
  · simp [hpath]

lemma reads_namedExpr (dot : Span) (rest : List Token) (htype : type ∉ reservedWords)
    (hname : constant.ident.text ∉ reservedWords) :
    Reads (rules.around.namedExpr true) (pathTokens (reference type constant) ++ point dot rest)
      (point dot rest) (· = Expr.path (reference type constant)) := by
  have hmark : atMark "<" (pathTokens (reference type constant) ++ point dot rest) = false := by
    obtain ⟨⟨name, place⟩, _ | _, value, listed⟩ := constant <;> exact atMark_ident "<"
  have hpath : Reads (rules.around.qualifiedPath true)
      (pathTokens (reference type constant) ++ point dot rest) (point dot rest)
      (· = (false, reference type constant)) :=
    (reads_noMark hmark).exactly ((reads_path rules htype hname).exactly (.pure rfl))
  exact hpath.exactly (.ahead (.pure rfl))

lemma reads_pathAtom (dot : Span) (rest : List Token) (htype : type ∉ reservedWords)
    (hname : constant.ident.text ∉ reservedWords) :
    Reads (rules.around.readAtom true) (pathTokens (reference type constant) ++ point dot rest)
      (point dot rest) (· = Expr.path (reference type constant)) := by
  have hnamed := reads_namedExpr rules dot rest htype hname
  obtain ⟨⟨name, place⟩, _ | _, value, listed⟩ := constant
  · exact reads_atom rules.around hname rfl rfl rfl hnamed
  · exact reads_atom rules.around htype rfl rfl rfl hnamed

/-! ## Fields -/

/-- The tokens of a comparison, behind its left side. -/
abbrev equals (first second : Span) (rest : List Token) : List Token :=
  .mark '=' true first :: .mark '=' false second :: rest

lemma reads_member {base : Expr} {start zero first second : Span} :
    Reads (rules.access start base) (point dot (.literal "0" zero :: equals first second rest))
      (equals first second rest) fun e => ∃ span, e = .field base 0 span := by
  have hindex : Reads fieldName (.literal "0" zero :: equals first second rest)
      (equals first second rest) (· = some 0) :=
    .ahead (.ifSo rfl ((reads_take 1).behind fun _ => .pure rfl))
  refine (reads_mark rfl).behind fun _ => (reads_noWord rfl).exactly (.ahead (.ifNot rfl ?_))
  exact hindex.exactly (reads_get.behind fun cursor => .pure ⟨_, rfl⟩)

lemma reads_trailers {start zero first second : Span} {path : Path} {inner : Span} :
    Reads (rules.trailers start (.path path inner))
      (point dot (.literal "0" zero :: equals first second rest)) (equals first second rest) fun e => ∃ span, e = .field (.path path inner) 0 span := by
  refine .repeated (reads_more (equals first second rest)
    (R := fun e => ∃ span, e = .field (.path path inner) 0 span) ?_ ?_)
  · refine .ahead (.ifNot rfl (.ifSo rfl ?_))
    exact (reads_member rules).bind fun e he => .pure ⟨e, rfl, he⟩
  · intro e he
    obtain ⟨span, rfl⟩ := he
    exact reads_done (.ahead (.pure ⟨_, rfl, _, rfl⟩))

/-! ## Operands -/

lemma exists_pathTokens (htype : type ∉ reservedWords) (hname : constant.ident.text ∉ reservedWords) :
    ∃ first behind, pathTokens (reference type constant) = .ident first .nowhere :: behind ∧
      first ∉ reservedWords := by
  obtain ⟨⟨name, place⟩, _ | _, value, listed⟩ := constant
  · exact ⟨name, _, rfl, hname⟩
  · exact ⟨type, _, rfl, htype⟩

/-- **The field of a constant is read from its tokens.** -/
lemma reads_field (htype : type ∉ reservedWords) (hname : constant.ident.text ∉ reservedWords)
    {zero first second : Span} :
    Reads (rules.around.readOperand true)
      (pathTokens (reference type constant) ++ point dot (.literal "0" zero :: equals first second rest))
      (equals first second rest)
      fun e => ∃ inner span, e = .field (.path (reference type constant) inner) 0 span := by
  have hatom := reads_pathAtom rules dot (.literal "0" zero :: equals first second rest) htype hname
  obtain ⟨word, behind, htokens, hword⟩ := exists_pathTokens htype hname
  rw [htokens, List.cons_append] at hatom ⊢
  have hbox : atWord "box" (.ident word .nowhere ::
      (behind ++ point dot (.literal "0" zero :: equals first second rest))) = false :=
    atWord_of_reserved hword (by decide)
  refine reads_here.behind fun outer => (reads_noAttributes (atMark_ident "#")).discard.behind fun _ => ?_
  refine reads_here.behind fun start => ?_
  refine .ahead (.ifNot (atMark_ident "&") (.ifNot ?_ (.ifNot (atMark_ident "-") ?_)))
  · simp [hbox]
  refine hatom.exactly (reads_get.behind fun _ => (reads_trailers _).bind fun e he => ?_)
  obtain ⟨span, rfl⟩ := he
  exact reads_get.behind fun _ => .pure ⟨_, _, rfl⟩

/-- **What follows ends an operand**: it is no call, field, index or question mark. -/
structure EndsOperand (rest : List Token) : Prop where
  noCall : atGroup .paren rest = false
  noPoint : atMarkOnly "." [".."] rest = false
  noIndex : atGroup .bracket rest = false
  noQuestion : atMark "?" rest = false

/-- The tokens behind the right side of a comparison. -/
abbrev comma (span : Span) (rest : List Token) : List Token := .mark ',' false span :: rest

lemma endsOperand_comma {span : Span} : EndsOperand (comma span rest) := ⟨rfl, rfl, rfl, rfl⟩

lemma reads_number {text : String} {number : IntegerLiteral} {place : Span}
    (h : LiteralKind.ofText text = .integer number) (hrest : EndsOperand rest) :
    Reads (rules.readOperand true) (.literal text place :: rest) rest
      fun e => ∃ inner span, e = .integer number inner span := by
  have hatom : Reads (rules.readAtom true) (.literal text place :: rest) rest
      (· = Expr.integer number place) := by
    have htaken : Reads literal (.literal text place :: rest) rest fun _ => True :=
      .ahead (.ifSo rfl (reads_take 1))
    refine .ahead (.ifSo rfl (.ahead (htaken.behind fun _ => ?_)))
    simp only [h]
    exact .pure rfl
  refine reads_here.behind fun outer => (reads_noAttributes rfl).discard.behind fun _ => ?_
  refine reads_here.behind fun start => .ahead (.ifNot rfl (.ifNot rfl (.ifNot rfl ?_)))
  refine hatom.exactly (reads_get.behind fun _ => ?_)
  have htrailers : ∀ span, Reads (rules.trailers start (.integer number place span)) rest rest
      (· = .integer number place span) := by
    intro span
    refine .repeated (reads_done (.ahead (.ifNot hrest.noCall (.ifNot ?_ ?_))))
    · rw [hrest.noPoint, Bool.false_and]
    · exact .ifNot hrest.noIndex (.ifNot hrest.noQuestion (.pure ⟨_, rfl, rfl⟩))
  exact (htrailers _).exactly (reads_get.behind fun _ => .pure ⟨_, _, rfl⟩)

/-- The expression of a value which is written as a literal. -/
def literalExprOf (type : Primitive) (value : Int) : Expr :=
  let number := Expr.integer ⟨value.natAbs, type.label⟩ .nowhere .nowhere
  if value < 0 then .neg number .nowhere else number

/-- The tokens of a value, wherever they stand. -/
def literalTokensAt (sign place : Span) (type : Primitive) (value : Int) : List Token :=
  let digits := Token.literal (toString value.natAbs ++ type.label) place
  if value < 0 then [.mark '-' false sign, digits] else [digits]

/-- **The literal of a value is read from its tokens.** -/
lemma reads_literal (type : Primitive) (value : Int) {sign place : Span} (hrest : EndsOperand rest) :
    Reads (rules.around.readOperand true) (literalTokensAt sign place type value ++ rest) rest
      fun e => e.placeless = literalExprOf type value := by
  have hnumber : ∀ rules : Rules, Reads (rules.readOperand true)
      (.literal (toString value.natAbs ++ type.label) place :: rest) rest
      fun e => e.placeless = .integer ⟨value.natAbs, type.label⟩ .nowhere .nowhere := by
    intro rules
    refine (reads_number rules (ofText_literal value.natAbs type) hrest).mono fun e he => ?_
    obtain ⟨inner, span, rfl⟩ := he
    rfl
  by_cases hneg : value < 0
  · simp only [literalTokensAt, literalExprOf, hneg, if_true]
    refine reads_here.behind fun outer => (reads_noAttributes rfl).discard.behind fun _ => ?_
    refine reads_here.behind fun start => .ahead (.ifNot rfl (.ifNot rfl (.ifSo rfl ?_)))
    refine (reads_mark rfl).behind fun _ => (hnumber rules).bind fun e he => ?_
    exact reads_get.behind fun _ => .pure (by rw [Expr.placeless, he])
  · simp only [literalTokensAt, literalExprOf, hneg, if_false]
    exact hnumber rules.around

end

/-! ## Assertions -/

section

/-- A part of the first line of a template. -/
abbrev on (start stop : Nat) : Span := ⟨⟨1, start⟩, ⟨1, stop⟩, false⟩

lemma lex_assertion :
    lex ":: core :: assert ! ($ . 0 == $ , $) ;".toList = .ok
      [.mark ':' true (on 0 1), .mark ':' false (on 1 2), .ident "core" (on 3 7),
        .mark ':' true (on 8 9), .mark ':' false (on 9 10), .ident "assert" (on 11 17),
        .mark '!' false (on 18 19),
        .group .paren
          [.mark '$' false (on 21 22), .mark '.' false (on 23 24), .literal "0" (on 25 26),
            .mark '=' true (on 27 28), .mark '=' false (on 28 29), .mark '$' false (on 30 31),
            .mark ',' false (on 32 33), .mark '$' false (on 34 35)] (on 20 36),
        .mark ';' false (on 37 38)] := by
  with_unfolding_all rfl

lemma template_assertion (subject value : List Token) (message : Token) :
    template ":: core :: assert ! ($ . 0 == $ , $) ;" [subject, value, [message]] =
      [.mark ':' true (on 0 1), .mark ':' false (on 1 2), .ident "core" (on 3 7),
        .mark ':' true (on 8 9), .mark ':' false (on 9 10), .ident "assert" (on 11 17),
        .mark '!' false (on 18 19),
        .group .paren
          (subject ++ point (on 23 24) (.literal "0" (on 25 26) :: equals (on 27 28) (on 28 29)
            (value ++ comma (on 32 33) [message]))) (on 20 36),
        .mark ';' false (on 37 38)] := by
  rw [template, lex_assertion]
  simp [fill, fillOne]

lemma lex_guard :
    lex "const _ : () = \x7b $ \x7d ;".toList = .ok
      [.ident "const" (on 0 5), .ident "_" (on 6 7), .mark ':' false (on 8 9),
        .group .paren [] (on 10 12), .mark '=' false (on 13 14),
        .group .brace [.mark '$' false (on 17 18)] (on 15 20), .mark ';' false (on 21 22)] := by
  with_unfolding_all rfl

lemma template_guard (assertions : List Token) :
    template "const _ : () = \x7b $ \x7d ;" [assertions] =
      [.ident "const" (on 0 5), .ident "_" (on 6 7), .mark ':' false (on 8 9),
        .group .paren [] (on 10 12), .mark '=' false (on 13 14),
        .group .brace assertions (on 15 20), .mark ';' false (on 21 22)] := by
  rw [template, lex_guard]
  simp [fill, fillOne]

lemma reads_string {message : String} :
    Reads stringLiteral [stringToken message] [] fun _ => True := by
  have hstring : atString [stringToken message] = true := by
    simp [stringToken, atString, textLiteral, LiteralKind.ofText]
  exact .peek (.ifSo hstring (reads_take 1))

variable (rules : Rules) {type : String} {constant : Constant} {repr : Primitive}

/-- The sides of the comparison of a constant with its value. -/
def Compares (type : String) (repr : Primitive) (constant : Constant) (sides : Expr × Expr) : Prop :=
  sides.1.placeless = .field (.path (reference type constant).placeless .nowhere) 0 .nowhere ∧
    sides.2.placeless = literalExprOf repr constant.value

/-- **The assertion of a constant is read from its tokens.** -/
lemma reads_assertion {rest : List Token} (htype : type ∉ reservedWords)
    (hname : constant.ident.text ∉ reservedWords) :
    Reads rules.around.around.readAssertion
      (template ":: core :: assert ! ($ . 0 == $ , $) ;"
        [pathTokens (reference type constant), literalTokens repr constant.value,
          [stringToken (assertion type constant).message]] ++ rest)
      rest (Compares type repr constant) := by
  rw [template_assertion]
  refine (reads_mark rfl).behind fun _ => (reads_word rfl).behind fun _ => ?_
  refine (reads_mark rfl).behind fun _ => (reads_word rfl).behind fun _ => (reads_mark rfl).behind fun _ => ?_
  refine .bind (P := Compares type repr constant) (reads_inside ?_) fun sides hsides => ?_
  · refine (reads_field rules htype hname).bind fun left hleft => (reads_mark rfl).behind fun _ => ?_
    refine (reads_literal rules repr constant.value endsOperand_comma).bind fun right hright => ?_
    refine (reads_mark rfl).behind fun _ => ?_
    refine reads_string.behind fun _ => .pure ⟨?_, hright⟩
    obtain ⟨inner, span, rfl⟩ := hleft
    rfl
  · exact (reads_mark rfl).behind fun _ => .pure hsides

/-- **All assertions of a guard are read from its tokens.** -/
lemma reads_guard {group : Group} (htype : group.ident.text ∉ reservedWords)
    (hnames : ∀ constant ∈ group.constants, constant.ident.text ∉ reservedWords) :
    Reads rules.around.around.readGuard (ofGroup group).guardCode []
      (List.Forall₂ (Compares group.ident.text group.repr) group.constants) := by
  have hcode : (ofGroup group).guardCode = template "const _ : () = \x7b $ \x7d ;"
      [group.constants.flatMap fun constant => template ":: core :: assert ! ($ . 0 == $ , $) ;"
        [pathTokens (reference group.ident.text constant), literalTokens group.repr constant.value,
          [stringToken (assertion group.ident.text constant).message]]] := by
    rw [guardCode, ofGroup, List.flatMap_map]
    rfl
  rw [hcode, template_guard]
  refine (reads_word rfl).behind fun _ => (reads_word rfl).behind fun _ => (reads_mark rfl).behind fun _ => ?_
  refine reads_anyGroup.discard.behind fun _ => (reads_mark rfl).behind fun _ => ?_
  refine .bind (reads_inside (reads_untilEnd (R := Compares group.ident.text group.repr) ?_ ?_))
    fun found hfound => ?_
  · intro constant hconstant
    rw [template_assertion]
    exact List.cons_ne_nil _ _
  · exact fun constant hconstant rest => reads_assertion rules htype (hnames constant hconstant)
  · exact (reads_mark rfl).behind fun _ => .pure hfound

/-- **A guard is read as it is written.** -/
theorem readGuard_guardCode {group : Group} (htype : group.ident.text ∉ reservedWords)
    (hnames : ∀ constant ∈ group.constants, constant.ident.text ∉ reservedWords) :
    ∃ found, readAll (ofGroup group).guardCode (·.readGuard) = .ok found ∧
      List.Forall₂ (Compares group.ident.text group.repr) group.constants found := by
  have hread := reads_guard (rulesOf (4 * count (ofGroup group).guardCode + 6)) htype hnames
  exact Reads.readAll (f := fun rules => rules.readGuard) hread

end

end EnumTables.Source
