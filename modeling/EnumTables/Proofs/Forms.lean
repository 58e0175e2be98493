import EnumTables.Companion.Template
import Mathlib.Data.List.Forall2
import Mathlib.Tactic.Common

/-!
# Forms and what stands in their gaps

Code is made by filling the gaps of a text with other tokens.  Here it is read again: tokens are laid out in
a row, brackets among them, and a form with gaps says what has to stand there and gives what stands in the
gaps.

* `Atom` and `atoms` — tokens in a row, wherever they stand.
* `parted` — a row in pieces, at a separator which stands in no brackets.
* `Apart`, `parted_atoms` — tokens among which a separator does not occur are one piece.
* `takeForm` — what stands in the gaps of a form.
* `atoms_fill` — filling a text fills its form.
* `takeForm_filled` — by induction on the form, what was filled in is what stands in the gaps.
* `Form` — a text with gaps, and what follows each of them.
* `Scan` and `Scans` — readers of rows, and what they give.
* `Form.scans`, `each_flatMap` — a form is read, and so is what comes again and again.
* `pieces_intercalate` — parts with a mark between them.
-/

namespace EnumTables.Companion

open EnumTables.Token

/-! ## Rows -/

/-- A token in a row, wherever it stands; brackets are two of them. -/
inductive Atom where
  | word (text : String)
  | sign (char : Char) (joined : Bool)
  | literal (text : String)
  | opening (delimiter : Delimiter)
  | closing (delimiter : Delimiter)
deriving DecidableEq, Repr

mutual

def atomsOne : Token → List Atom
  | .ident text _ => [.word text]
  | .mark c joined _ => [.sign c joined]
  | .literal text _ => [.literal text]
  | .group delimiter inner _ => .opening delimiter :: (atoms inner ++ [.closing delimiter])

/-- **Tokens in a row.** -/
def atoms : List Token → List Atom
  | [] => []
  | token :: rest => atomsOne token ++ atoms rest

end

@[simp] lemma atoms_append (left right : List Token) :
    atoms (left ++ right) = atoms left ++ atoms right := by
  induction left with
  | nil => rfl
  | cons token rest ih => rw [List.cons_append, atoms, ih, atoms, List.append_assoc]

lemma atoms_ne_nil {tokens : List Token} (h : tokens ≠ []) : atoms tokens ≠ [] := by
  obtain ⟨token, rest, rfl⟩ := List.exists_cons_of_ne_nil h
  cases token <;> simp [atoms, atomsOne]

/-! ## Pieces -/

/-- How deep in brackets the next one stands. -/
def Atom.depthAfter (depth : Nat) : Atom → Nat
  | opening _ => depth + 1
  | closing _ => depth - 1
  | _ => depth

/-- **A row in pieces**, parted wherever the separator stands in no brackets. -/
def parted (separator : Atom) : Nat → List Atom → List (List Atom)
  | _, [] => [[]]
  | depth, atom :: rest =>
    if depth = 0 ∧ atom = separator then [] :: parted separator 0 rest
    else (parted separator (atom.depthAfter depth) rest).modifyHead (atom :: ·)

variable {separator stop : Atom} {depth : Nat} {tokens : List Token} {rest row form part : List Atom}

lemma parted_cons {atom : Atom} (h : ¬ (depth = 0 ∧ atom = separator)) :
    parted separator depth (atom :: rest) =
      (parted separator (atom.depthAfter depth) rest).modifyHead (atom :: ·) := by
  rw [parted, if_neg h]

mutual

/-- Inside brackets nothing is parted. -/
lemma parted_atomsOne_inside (depth : Nat) (token : Token) (rest : List Atom) :
    parted separator (depth + 1) (atomsOne token ++ rest) =
      (parted separator (depth + 1) rest).modifyHead (atomsOne token ++ ·) := by
  cases token with
  | ident | mark | literal => exact parted_cons (by simp)
  | group delimiter inner span =>
      rw [atomsOne, List.cons_append, parted_cons (by simp), Atom.depthAfter, List.append_assoc,
        parted_atoms_inside (depth + 1) inner, List.singleton_append, parted_cons (by simp), Atom.depthAfter,
        Nat.add_sub_cancel, List.modifyHead_modifyHead, List.modifyHead_modifyHead]
      congr 1
      funext piece
      simp only [Function.comp_apply, List.cons_append, List.append_assoc, List.nil_append]

lemma parted_atoms_inside (depth : Nat) (tokens : List Token) (rest : List Atom) :
    parted separator (depth + 1) (atoms tokens ++ rest) =
      (parted separator (depth + 1) rest).modifyHead (atoms tokens ++ ·) := by
  cases tokens with
  | nil =>
      change _ = (parted separator (depth + 1) rest).modifyHead id
      rw [List.modifyHead_id]
      rfl
  | cons token more =>
      rw [atoms, List.append_assoc, parted_atomsOne_inside depth token, parted_atoms_inside depth more,
        List.modifyHead_modifyHead]
      congr 1
      funext piece
      simp only [Function.comp_apply, List.append_assoc]

end

/-- **Tokens which are not parted**: none of them outside all brackets is the separator. -/
def Apart (separator : Atom) (tokens : List Token) : Prop :=
  ∀ token ∈ tokens, (atomsOne token).head? ≠ some separator

instance (separator : Atom) (tokens : List Token) : Decidable (Apart separator tokens) :=
  inferInstanceAs (Decidable (∀ token ∈ tokens, _))

lemma apart_closing (delimiter : Delimiter) (tokens : List Token) : Apart (.closing delimiter) tokens := by
  rintro (_ | _ | _ | _) - <;> exact nofun

lemma apart_flatMap {α : Type} {part : α → List Token} {items : List α}
    (h : ∀ item ∈ items, Apart separator (part item)) : Apart separator (items.flatMap part) := by
  intro token htoken
  obtain ⟨item, hitem, hmem⟩ := List.mem_flatMap.mp htoken
  exact h item hitem token hmem

lemma parted_atomsOne (token : Token) (h : (atomsOne token).head? ≠ some separator) (rest : List Atom) :
    parted separator 0 (atomsOne token ++ rest) =
      (parted separator 0 rest).modifyHead (atomsOne token ++ ·) := by
  have hhead : ∀ atom, (atomsOne token).head? = some atom → ¬ (0 = 0 ∧ atom = separator) := by
    rintro atom hatom ⟨-, rfl⟩
    exact h hatom
  cases token with
  | ident | mark | literal => exact parted_cons (hhead _ rfl)
  | group delimiter inner span =>
      rw [atomsOne, List.cons_append, parted_cons (hhead _ rfl), Atom.depthAfter, List.append_assoc,
        parted_atoms_inside 0 inner, List.singleton_append, parted_cons (by simp), Atom.depthAfter,
        Nat.zero_add, Nat.sub_self, List.modifyHead_modifyHead, List.modifyHead_modifyHead]
      congr 1
      funext piece
      simp only [Function.comp_apply, List.cons_append, List.append_assoc, List.nil_append]

lemma parted_atoms (h : Apart separator tokens) (rest : List Atom) :
    parted separator 0 (atoms tokens ++ rest) = (parted separator 0 rest).modifyHead (atoms tokens ++ ·) := by
  induction tokens with
  | nil =>
      change _ = (parted separator 0 rest).modifyHead id
      rw [List.modifyHead_id]
      rfl
  | cons token more ih =>
      obtain ⟨htoken, hmore⟩ := List.forall_mem_cons.mp h
      rw [atoms, List.append_assoc, parted_atomsOne token htoken, ih hmore, List.modifyHead_modifyHead]
      congr 1
      funext piece
      simp only [Function.comp_apply, List.append_assoc]

/-- **Tokens which are not parted are one piece**, up to the separator behind them. -/
lemma parted_piece (h : Apart separator tokens) (rest : List Atom) :
    parted separator 0 (atoms tokens ++ separator :: rest) = atoms tokens :: parted separator 0 rest := by
  rw [parted_atoms h, parted, if_pos ⟨rfl, rfl⟩, List.modifyHead_cons, List.append_nil]

lemma parted_last (h : Apart separator tokens) : parted separator 0 (atoms tokens) = [atoms tokens] := by
  rw [← List.append_nil (atoms tokens), parted_atoms h, parted, List.modifyHead_cons]

/-! ## Forms -/

/-- The mark of a gap. -/
def Atom.isGap : Atom → Bool
  | sign c _ => c == '$'
  | _ => false

/-- The tokens of a text, gaps among them. -/
def tokensIn (text : String) : List Token :=
  match lex text.toList with
  | .ok tokens => tokens
  | .error _ => []

lemma tokensIn_ofList (cs : List Char) :
    tokensIn (String.ofList cs) = match lex cs with
      | .ok tokens => tokens
      | .error _ => [] := by
  rw [tokensIn, String.toList_ofList]

/-- The form of a text. -/
def formOf (text : String) : List Atom := atoms (tokensIn text)

/-- **What stands in the gaps** of a form at the beginning of a row, and what is left of the row.  In some gaps
it is known what stands there; in the others it ends where what follows the gap stands in no brackets. -/
def takeForm : List (Option (List Atom)) → List Atom → List Atom → Option (List (List Atom) × List Atom)
  | _, [], row => some ([], row)
  | gaps, atom :: form, row =>
    if atom.isGap then
      match gaps with
      | some known :: gaps =>
        if known.isPrefixOf row then takeForm gaps form (row.drop known.length) else none
      | none :: gaps => do
        let part := (parted (← form.head?) 0 row).headD []
        let (parts, rest) ← takeForm gaps form (row.drop part.length)
        return (part :: parts, rest)
      | [] => none
    else
      match row with
      | found :: row => if found = atom then takeForm gaps form row else none
      | [] => none

/-- A form with its gaps filled. -/
def filled : List (List Atom) → List Atom → List Atom
  | _, [] => []
  | parts, atom :: form =>
    if atom.isGap then parts.headD [] ++ filled parts.tail form else atom :: filled parts form

lemma fillOne_mark {c : Char} {joined : Bool} {span : Span} (parts : List (List Token)) (hc : c ≠ '$') :
    fillOne parts (.mark c joined span) = ([.mark c joined span], parts) := by
  rw [fillOne]
  · exact fun joined' span' h => hc (Token.mark.inj h).1
  · exact fun _ _ _ h => by cases h

mutual

lemma atoms_fillOne (parts : List (List Token)) (token : Token) (form : List Atom) :
    atoms (fillOne parts token).1 ++ filled ((fillOne parts token).2.map atoms) form =
      filled (parts.map atoms) (atomsOne token ++ form) := by
  cases token with
  | ident | literal => simp [fillOne, atoms, atomsOne, filled, Atom.isGap]
  | mark c joined span =>
      by_cases hc : c = '$'
      · subst hc
        cases parts <;> simp [fillOne, atoms, atomsOne, filled, Atom.isGap]
      · simp [fillOne_mark parts hc, atoms, atomsOne, filled, Atom.isGap, hc]
  | group delimiter inner span =>
      have hinner := atoms_fill parts inner (.closing delimiter :: form)
      simp only [fillOne, atoms, atomsOne, List.append_nil, List.cons_append, List.append_assoc,
        List.nil_append]
      rw [filled, if_neg (by simp [Atom.isGap]), ← hinner, filled, if_neg (by simp [Atom.isGap])]

/-- **Filling the gaps of tokens fills their form.** -/
lemma atoms_fill (parts : List (List Token)) (tokens : List Token) (form : List Atom) :
    atoms (fill parts tokens).1 ++ filled ((fill parts tokens).2.map atoms) form =
      filled (parts.map atoms) (atoms tokens ++ form) := by
  cases tokens with
  | nil => rfl
  | cons token rest =>
      rw [atoms, List.append_assoc, ← atoms_fillOne parts token, ← atoms_fill _ rest]
      simp only [fill, atoms_append, List.append_assoc]

end

lemma template_eq_fill (text : String) (parts : List (List Token)) :
    template text parts = (fill parts (tokensIn text)).1 := by
  unfold template tokensIn
  cases lex text.toList <;> rfl

lemma atoms_template (text : String) (parts : List (List Token)) :
    atoms (template text parts) = filled (parts.map atoms) (formOf text) := by
  have hfill := atoms_fill parts (tokensIn text) []
  rw [filled, List.append_nil, List.append_nil] at hfill
  rw [template_eq_fill, hfill, formOf]

lemma filled_ne_nil {parts : List (List Atom)} (h : ∃ atom ∈ form, atom.isGap = false) :
    filled parts form ≠ [] := by
  induction form generalizing parts with
  | nil => simp at h
  | cons atom form ih =>
      rw [filled]
      split_ifs with hgap
      · have hform : ∃ atom ∈ form, atom.isGap = false := by simpa [hgap] using h
        exact List.append_ne_nil_of_right_ne_nil _ (ih hform)
      · exact List.cons_ne_nil _ _

/-! ## What was filled in -/

/-- What a gap is filled with, and whether that is known. -/
structure Filling where
  known : Bool
  tokens : List Token

/-- What a reader of the gap knows. -/
def Filling.gap (filling : Filling) : Option (List Atom) :=
  if filling.known then some (atoms filling.tokens) else none

/-- What a reader of the gaps is told. -/
def found (fillings : List Filling) : List (List Atom) :=
  fillings.filterMap fun filling => if filling.known then none else some (atoms filling.tokens)

/-- What follows each gap of a form. -/
def stopsOf : List Atom → List (Option Atom)
  | [] => []
  | atom :: form => if atom.isGap then form.head? :: stopsOf form else stopsOf form

/-- What follows the gaps of a text is found from its characters.  They are not taken out of the literal one by
one, which is slow. -/
lemma stopsOf_ofList {before : List Atom} {cs : List Char} {stops : List (Option Atom)}
    (h : stopsOf (before ++ atoms (match lex cs with
      | .ok tokens => tokens
      | .error _ => [])) = stops) : stopsOf (before ++ formOf (String.ofList cs)) = stops := by
  rw [formOf, tokensIn_ofList]
  exact h

/-- **A filling suits its gap** if it is known, or ends where what follows the gap begins. -/
def Suits (stop : Option Atom) (filling : Filling) : Prop :=
  filling.known = true ∨ ∃ next, stop = some next ∧ next.isGap = false ∧ Apart next filling.tokens

lemma suits_known (stop : Option Atom) (tokens : List Token) : Suits stop ⟨true, tokens⟩ := .inl rfl

lemma suits_closing (delimiter : Delimiter) (tokens : List Token) :
    Suits (some (.closing delimiter)) ⟨false, tokens⟩ :=
  .inr ⟨_, rfl, rfl, apart_closing delimiter tokens⟩

lemma suits_sign (c : Char) (joined : Bool) (hc : c ≠ '$') (h : Apart (.sign c joined) tokens) :
    Suits (some (.sign c joined)) ⟨false, tokens⟩ :=
  .inr ⟨_, rfl, beq_eq_false_iff_ne.mpr hc, h⟩

lemma suits_word (word : String) (h : Apart (.word word) tokens) :
    Suits (some (.word word)) ⟨false, tokens⟩ :=
  .inr ⟨_, rfl, rfl, h⟩

lemma headD_parted (h : Apart stop tokens) :
    (parted stop 0 (atoms tokens ++ stop :: rest)).headD [] = atoms tokens := by
  rw [parted_piece h]
  rfl

section

variable {atom next : Atom} {gaps : List (Option (List Atom))} {known : List Atom}

lemma takeForm_known (hgap : atom.isGap = true) :
    takeForm (some known :: gaps) (atom :: form) (known ++ row) = takeForm gaps form row := by
  rw [takeForm.eq_def]
  simp only [hgap, if_true, List.isPrefixOf_iff_prefix, List.prefix_append, List.drop_left]

lemma takeForm_open (hgap : atom.isGap = true) (hpart : (parted next 0 (part ++ row)).headD [] = part) :
    takeForm (none :: gaps) (atom :: next :: form) (part ++ row) =
      (takeForm gaps (next :: form) row).map fun (parts, rest) => (part :: parts, rest) := by
  rw [takeForm.eq_def]
  simp only [hgap, if_true, List.head?_cons, Option.bind_eq_bind, Option.bind_some, hpart, List.drop_left]
  cases takeForm gaps (next :: form) row <;> rfl

lemma takeForm_atom (hgap : atom.isGap = false) :
    takeForm gaps (atom :: form) (atom :: row) = takeForm gaps form row := by
  rw [takeForm.eq_def]
  simp only [hgap, Bool.false_eq_true, if_false, if_true]

end

/-- **What was filled in is what stands in the gaps.** -/
theorem takeForm_filled (form : List Atom) (fillings : List Filling)
    (h : List.Forall₂ Suits (stopsOf form) fillings) (rest : List Atom) :
    takeForm (fillings.map Filling.gap) form
        (filled (fillings.map fun filling => atoms filling.tokens) form ++ rest) =
      some (found fillings, rest) := by
  induction form generalizing fillings with
  | nil =>
      obtain rfl := List.forall₂_nil_left_iff.mp h
      rfl
  | cons atom form ih =>
      rw [stopsOf] at h
      by_cases hgap : atom.isGap = true
      · rw [if_pos hgap] at h
        obtain ⟨filling, more, hsuits, hmore, rfl⟩ := List.forall₂_cons_left_iff.mp h
        obtain ⟨known, tokens⟩ := filling
        simp only [List.map_cons, filled, hgap, if_true, List.headD_cons, List.tail_cons, List.append_assoc]
        cases known with
        | true => exact (takeForm_known hgap).trans (ih more hmore)
        | false =>
            obtain hknown | ⟨next, hnext, hstop, hapart⟩ := hsuits
            · cases hknown
            · obtain ⟨behind, rfl⟩ : ∃ behind, form = next :: behind := by
                cases form with
                | nil => cases hnext
                | cons other behind => exact ⟨behind, congrArg (· :: behind) (Option.some.inj hnext)⟩
              refine (takeForm_open hgap ?_).trans (by rw [ih more hmore]; rfl)
              rw [filled, if_neg (by simp [hstop]), List.cons_append]
              exact headD_parted hapart
      · rw [if_neg hgap] at h
        rw [filled, if_neg hgap, List.cons_append, takeForm_atom (by simpa using hgap)]
        exact ih fillings h

/-! ## Texts with gaps -/

/-- **A text with gaps**, of which it is known what it begins with and what follows each gap. -/
structure Form where
  text : String
  first : Atom
  stops : List (Option Atom)
  follow : stopsOf ([.sign '$' false] ++ formOf text) = some first :: stops

namespace Form

variable (form : Form)

lemma stopsOf_formOf : stopsOf (formOf form.text) = form.stops :=
  (List.cons.inj form.follow).2

/-- Filling the gaps, and reading it. -/
lemma takeForm_template (fillings : List Filling) (h : List.Forall₂ Suits form.stops fillings)
    (rest : List Atom) :
    takeForm (fillings.map Filling.gap) (formOf form.text)
        (atoms (template form.text (fillings.map Filling.tokens)) ++ rest) = some (found fillings, rest) := by
  have hfilled := takeForm_filled (formOf form.text) fillings (form.stopsOf_formOf ▸ h) rest
  rwa [← Function.comp_def, ← List.map_map, ← atoms_template] at hfilled

lemma mem_of_mem_stopsOf {next : Atom} {row : List Atom} (h : some next ∈ stopsOf row) : next ∈ row := by
  induction row with
  | nil => cases h
  | cons atom row ih =>
      rw [stopsOf] at h
      split_ifs at h
      · rcases List.mem_cons.mp h with hhead | htail
        · exact List.mem_cons_of_mem _ (List.mem_of_head? hhead.symm)
        · exact List.mem_cons_of_mem _ (ih htail)
      · exact List.mem_cons_of_mem _ (ih h)

/-- A text which has something behind a gap is not empty when it is filled. -/
lemma template_ne_nil {parts : List (List Token)} (next : Atom) (hnext : next.isGap = false)
    (h : some next ∈ form.stops) : template form.text parts ≠ [] := by
  intro hnil
  have hfilled := atoms_template form.text parts
  rw [hnil] at hfilled
  rw [← form.stopsOf_formOf] at h
  exact filled_ne_nil ⟨next, mem_of_mem_stopsOf h, hnext⟩ hfilled.symm

end Form

/-! ## Scans -/

/-- What takes something off the front of a row. -/
abbrev Scan := StateT (List Atom) Option

variable {α β : Type}

/-- What stands in the gaps of a text. -/
def Form.scan (form : Form) (gaps : List (Option (List Atom))) : Scan (List (List Atom)) :=
  takeForm gaps (formOf form.text)

/-- What a scan of a whole row gives. -/
def Scan.whole (scan : Scan α) (row : List Atom) : Option α :=
  match scan.run row with
  | some (value, []) => some value
  | _ => none

/-- What a scan gives again and again, so many times at most. -/
def Scan.eachWithin (scan : Scan α) : Nat → List Atom → Option (List α)
  | _, [] => some []
  | 0, _ :: _ => none
  | bound + 1, atom :: row => do
    let (value, rest) ← scan.run (atom :: row)
    return value :: (← scan.eachWithin bound rest)

/-- What a scan gives again and again, until nothing is left. -/
def Scan.each (scan : Scan α) (row : List Atom) : Option (List α) :=
  scan.eachWithin row.length row

/-- **A scan gives a value** for some tokens, and leaves `rest`. -/
def Scans (scan : Scan α) (tokens : List Token) (rest : List Atom) (value : α) : Prop :=
  scan.run (atoms tokens ++ rest) = some (value, rest)

section

variable {scan : Scan α} {next : α → Scan β} {more : List Token} {value : α} {result : β}

lemma Scans.pure (value : α) : Scans (pure value) [] rest value := rfl

lemma Scans.bind (h : Scans scan tokens (atoms more ++ rest) value)
    (hnext : Scans (next value) more rest result) : Scans (scan >>= next) (tokens ++ more) rest result := by
  rw [Scans, atoms_append, List.append_assoc, StateT.run_bind, h]
  exact hnext

lemma Scans.last (h : Scans scan tokens rest value) (hnext : next value = Pure.pure result) :
    Scans (scan >>= next) tokens rest result := by
  rw [Scans, StateT.run_bind, h]
  exact congrFun hnext rest

lemma lifted {found : Option α} (h : found = some value) : (liftM found : Scan α) = Pure.pure value := by
  subst h
  rfl

lemma Scans.whole (h : Scans scan tokens [] value) : scan.whole (atoms tokens) = some value := by
  rw [Scans, List.append_nil] at h
  rw [Scan.whole, h]

lemma Form.scans (form : Form) (fillings : List Filling) (h : List.Forall₂ Suits form.stops fillings) :
    Scans (form.scan (fillings.map Filling.gap)) (template form.text (fillings.map Filling.tokens)) rest
      (found fillings) :=
  form.takeForm_template fillings h rest

lemma eachWithin_flatMap {part : α → List Token} {items : List α} (hne : ∀ item, part item ≠ [])
    (h : ∀ item ∈ items, ∀ rest, Scans scan (part item) rest item) {bound : Nat}
    (hbound : items.length ≤ bound) : scan.eachWithin bound (atoms (items.flatMap part)) = some items := by
  induction items generalizing bound with
  | nil => cases bound <;> rfl
  | cons item more ih =>
      obtain ⟨hitem, hmore⟩ := List.forall_mem_cons.mp h
      obtain ⟨bound, rfl⟩ := Nat.exists_eq_succ_of_ne_zero (Nat.ne_zero_of_lt hbound)
      obtain ⟨atom, row, hrow⟩ := List.exists_cons_of_ne_nil (atoms_ne_nil (hne item))
      have hscan := hitem (atoms (more.flatMap part))
      rw [Scans, hrow, List.cons_append] at hscan
      rw [List.flatMap_cons, atoms_append, hrow, List.cons_append, Scan.eachWithin, hscan]
      simp only [Option.bind_eq_bind, Option.bind_some, ih hmore (Nat.le_of_succ_le_succ hbound)]
      rfl

/-- **What is scanned one by one is scanned until the end.** -/
lemma each_flatMap {part : α → List Token} {items : List α} (hne : ∀ item, part item ≠ [])
    (h : ∀ item ∈ items, ∀ rest, Scans scan (part item) rest item) :
    scan.each (atoms (items.flatMap part)) = some items := by
  refine eachWithin_flatMap hne h ?_
  clear h
  induction items with
  | nil => exact Nat.zero_le _
  | cons item more ih =>
      have hlength := List.length_pos_iff.mpr (atoms_ne_nil (hne item))
      rw [List.flatMap_cons, atoms_append, List.length_append, List.length_cons]
      omega

end

/-! ## Parts with marks between them -/

/-- The pieces between separators, if there is anything. -/
def pieces (separator : Atom) : List Atom → List (List Atom)
  | [] => []
  | row => parted separator 0 row

lemma parted_intercalate {c : Char} {span : Span} {part : List Token} {more : List (List Token)}
    (h : ∀ other ∈ part :: more, Apart (.sign c false) other) :
    parted (.sign c false) 0 (atoms ([Token.mark c false span].intercalate (part :: more))) =
      (part :: more).map atoms := by
  induction more generalizing part with
  | nil =>
      rw [List.intercalate_singleton, parted_last (h part List.mem_cons_self)]
      rfl
  | cons second more ih =>
      have hpart := h part List.mem_cons_self
      have hmore := ih fun other ho => h other (List.mem_cons_of_mem _ ho)
      rw [List.intercalate_cons_cons, atoms_append, atoms_append, List.append_assoc]
      exact (parted_piece hpart _).trans (congrArg (atoms part :: ·) hmore)

/-- **Parts with a mark between them are the pieces at the mark.** -/
lemma pieces_intercalate {c : Char} {span : Span} {parts : List (List Token)}
    (h : ∀ part ∈ parts, Apart (.sign c false) part) (hne : ∀ part ∈ parts, part ≠ []) :
    pieces (.sign c false) (atoms ([Token.mark c false span].intercalate parts)) = parts.map atoms := by
  cases parts with
  | nil => rfl
  | cons part more =>
      have hparted : parted (.sign c false) 0 (atoms ([Token.mark c false span].intercalate (part :: more))) =
          (part :: more).map atoms := parted_intercalate h
      have hfirst : [Token.mark c false span].intercalate (part :: more) ≠ [] := by
        have hpart := hne part List.mem_cons_self
        cases more with
        | nil => rwa [List.intercalate_singleton]
        | cons second more => simp [List.intercalate_cons_cons]
      obtain ⟨atom, row, hrow⟩ := List.exists_cons_of_ne_nil (atoms_ne_nil hfirst)
      rw [hrow] at hparted ⊢
      exact hparted

end EnumTables.Companion
