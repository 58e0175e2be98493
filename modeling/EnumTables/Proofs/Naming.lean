import EnumTables.Source.Read
import Mathlib.Data.List.Basic

/-!
# What files name their items

The structs and constants of a file which was read from a text are called by identifiers, which the words
of the language are not.  A constant may also have no name, which is written `_`.

* `Ensures` — a reader only reads what has a property.
* `Item.WellNamed` — the property of items.
* `fileOf_wellNamed` — the items of a file have it.
-/

namespace EnumTables.Source

open EnumTables.Token

/-! ## What readers ensure -/

/-- **A reader ensures a property** of everything it reads, wherever it starts. -/
def Ensures {α : Type} (body : Reader α) (P : α → Prop) : Prop :=
  ∀ cursor value after, body.run cursor = .ok (value, after) → P value

section

variable {α β : Type} {body : Reader α} {P : α → Prop} {Q : β → Prop}

lemma Ensures.pure {value : α} (h : P value) : Ensures (pure value) P := by
  intro cursor found after hrun
  cases hrun
  exact h

lemma Ensures.bind {next : α → Reader β} (h : Ensures body P)
    (hnext : ∀ value, P value → Ensures (next value) Q) : Ensures (body >>= next) Q := by
  intro cursor value after hrun
  rw [StateT.run_bind] at hrun
  rcases hbody : body.run cursor with failure | ⟨first, between⟩
  · rw [hbody] at hrun
    cases hrun
  · rw [hbody] at hrun
    exact hnext first (h cursor first between hbody) between value after hrun

/-- What is read first does not matter if the rest ensures the property anyway. -/
lemma Ensures.behind {next : α → Reader β} (hnext : ∀ value, Ensures (next value) Q) :
    Ensures (body >>= next) Q :=
  Ensures.bind (P := fun _ => True) (fun _ _ _ _ => trivial) fun value _ => hnext value

lemma Ensures.ite {condition : Prop} [Decidable condition] {other : Reader α}
    (h : condition → Ensures body P) (hother : ¬ condition → Ensures other P) :
    Ensures (if condition then body else other) P := by
  split_ifs with hcondition
  · exact h hcondition
  · exact hother hcondition

lemma Ensures.wanting {wanted : List String} : Ensures (wanting wanted) P := by
  intro cursor value after hrun
  simp only [Source.wanting, StateT.run_bind, StateT.run_get] at hrun
  rcases hrest : cursor.rest with _ | ⟨token, rest⟩ <;> simp [hrest] at hrun <;> cases hrun

lemma Ensures.inside {delimiter : Delimiter} (h : Ensures body P) :
    Ensures (inside delimiter body) P := by
  refine .behind fun cursor => ?_
  rcases cursor.rest with _ | ⟨_ | _ | _ | ⟨found, inner, span⟩, rest⟩
  all_goals try exact .wanting
  refine .ite (fun _ => ?_) fun _ => .wanting
  exact .behind fun _ => .bind h fun value hvalue => .behind fun _ => .behind fun _ => .pure hvalue

lemma Ensures.spanned (h : Ensures body P) : Ensures (spanned body) fun found => P found.1 :=
  .behind fun _ => .bind h fun _ hvalue => .behind fun _ => .pure hvalue

/-- The value which a turn leaves, whether there is another one or not. -/
def Turn.value : Turn α → α
  | more value | done value => value

lemma Ensures.repeated {step : α → Reader (Turn α)} {value : α} (h : P value)
    (hstep : ∀ value, P value → Ensures (step value) fun turn => P turn.value) :
    Ensures (repeated step value) P := by
  refine .behind fun tokens => ?_
  generalize tokens.length + 1 = bound
  induction bound generalizing value with
  | zero => exact .pure h
  | succ bound ih =>
      refine .bind (hstep value h) fun turn hturn => ?_
      cases turn with
      | more next => exact ih hturn
      | done result => exact .pure hturn

lemma Ensures.untilEnd (h : Ensures body P) : Ensures (untilEnd body) fun found => ∀ a ∈ found, P a := by
  refine .bind (P := fun found => ∀ a ∈ found, P a) (.repeated (by simp) fun found hfound => ?_) ?_
  · refine .behind fun ended => .ite (fun _ => .pure hfound) fun _ => ?_
    exact .bind h fun value hvalue => .pure (List.forall_mem_cons.mpr ⟨hvalue, hfound⟩)
  · exact fun found hfound => .pure fun a ha => hfound a (List.mem_reverse.mp ha)

lemma Ensures.braced (h : Ensures body P) : Ensures (braced body) P :=
  .inside (.behind fun _ => h)

end

/-! ## Names -/

/-- A constant is called by an identifier, or has no name. -/
def ConstItem.WellNamed (item : ConstItem) : Prop :=
  item.name.text = "_" ∨ item.name.text ∉ reservedWords

/-- **An item is called by an identifier**, and so are the constants in it. -/
def Item.WellNamed : Item → Prop
  | type item => item.name.text ∉ reservedWords
  | const item => item.WellNamed
  | impl block => ∀ item ∈ block.constants, item.WellNamed
  | other => True

/-- An identifier which is read is the one which was looked at before. -/
lemma ensures_anyIdent {test : List Token → Bool} {P : Identifier → Prop}
    (h : ∀ text span rest, test (.ident text span :: rest) = true → P ⟨text, span⟩)
    {other : Reader Identifier} (hother : Ensures other P) :
    Ensures (do if ← peek test then anyIdent else other) P := by
  rintro ⟨tokens, scope, last, leftover⟩ value after hrun
  change (if test tokens = true then anyIdent else other).run _ = .ok (value, after) at hrun
  split_ifs at hrun with htest
  · rcases tokens with _ | ⟨⟨text, span⟩ | _ | _ | _, rest⟩ <;> cases hrun
    exact h text span rest htest
  · exact hother _ value after hrun

lemma ensures_ident : Ensures ident fun found => found.text ∉ reservedWords := by
  refine ensures_anyIdent (fun text span rest htest => ?_) .wanting
  simpa [atIdent] using htest

lemma ensures_constName :
    Ensures constName fun found => found.text = "_" ∨ found.text ∉ reservedWords := by
  refine ensures_anyIdent (fun text span rest htest => ?_) .wanting
  simpa [atIdent, atWord, or_comm] using htest

/-! ## Items -/

variable (rules : Rules)

lemma ensures_structItem (visible : Visibility) :
    Ensures (rules.structItem visible) fun shape => ∀ span, (shape span).WellNamed := by
  refine .behind fun _ => .bind ensures_ident fun name hname => ?_
  exact .behind fun _ => .behind fun _ => .pure fun _ => hname

lemma ensures_constItem :
    Ensures rules.constItem fun item => ∀ found ∈ item, ConstItem.WellNamed found := by
  refine .behind fun _ => .bind ensures_constName fun name hname => ?_
  refine .behind fun _ => .behind fun _ => .behind fun ended => .ite (fun _ => .pure (by simp)) fun _ => ?_
  exact .behind fun _ => .behind fun _ => .behind fun _ => .pure (by simpa [ConstItem.WellNamed] using hname)

lemma wellNamed_getD {item : Option ConstItem} (h : ∀ found ∈ item, ConstItem.WellNamed found) :
    ((item.map .const).getD .other : Item).WellNamed := by
  cases item with
  | none => trivial
  | some item => exact h item rfl

lemma ensures_associatedConst :
    Ensures rules.associatedConst fun item => ∀ found ∈ item, ConstItem.WellNamed found := by
  refine .behind fun _ => .bind ensures_constName fun name hname => ?_
  refine .behind fun _ => .behind fun _ => .behind fun given => .ite (fun _ => ?_) fun _ => ?_
  · exact .behind fun _ => .behind fun _ => .pure (by simpa [ConstItem.WellNamed] using hname)
  · exact .behind fun _ => .pure (by simp)

lemma ensures_implMember :
    Ensures rules.implMember fun item => ∀ found ∈ item, ConstItem.WellNamed found := by
  have hnone : Ensures (pure none : Reader (Option ConstItem)) fun item =>
      ∀ found ∈ item, ConstItem.WellNamed found := .pure (by simp)
  refine .behind fun _ => .behind fun visible => .behind fun specialized => ?_
  extract_lets plain finish member
  suffices hmember : ∀ read, Ensures (member read) fun item =>
      ∀ found ∈ item, ConstItem.WellNamed found from .ite (fun _ => .behind hmember) fun _ => hmember ()
  refine fun _ => .behind fun tokens => .ite (fun _ => ?_) fun _ => .ite (fun _ => ?_) fun _ =>
    .ite (fun _ => .behind fun _ => hnone) fun _ => .ite (fun _ => .behind fun _ => hnone) fun _ => .wanting
  · exact .behind fun _ => .behind fun _ => .ite (fun _ => hnone) fun _ => .behind fun _ => hnone
  · exact ensures_associatedConst rules

lemma ensures_implItem (visible : Visibility) :
    Ensures (rules.implItem visible) Item.WellNamed := by
  refine .behind fun _ => .behind fun _ => .behind fun _ => .behind fun _ => ?_
  -- what is left to read behind each of the parts which may be missing
  extract_lets head
  suffices hhead : ∀ read, Ensures (head read) Item.WellNamed from
    .ite (fun _ => .behind hhead) fun _ => hhead ()
  refine fun _ => .behind fun isConst => ?_
  extract_lets sign
  suffices hsign : ∀ read, Ensures (sign read) Item.WellNamed from
    .ite (fun _ => .behind fun _ => .behind hsign) fun _ => hsign ()
  refine fun _ => .behind fun negative => ?_
  extract_lets types
  suffices htypes : ∀ read, Ensures (types read) Item.WellNamed from
    .ite (fun _ => .behind htypes) fun _ => htypes ()
  refine fun _ => .behind fun first => .behind fun ofTrait => ?_
  extract_lets traitNamed block
  suffices hblock : ∀ subject, Ensures (block subject) Item.WellNamed from
    .ite (fun _ => .behind hblock) fun _ => .behind hblock
  have hbody := Ensures.braced (.untilEnd (ensures_implMember rules))
  refine fun _ => .behind fun _ => .bind hbody fun members hmembers => ?_
  refine .ite (fun _ => .pure trivial) fun _ => .pure fun item hitem => ?_
  obtain ⟨member, hmember, hsome⟩ := List.mem_filterMap.mp hitem
  exact hmembers member hmember item hsome

lemma ensures_unsafeItem (visible : Visibility) :
    Ensures (rules.unsafeItem visible) Item.WellNamed := by
  have hother : Ensures (pure .other) Item.WellNamed := .pure trivial
  refine .behind fun tokens => .ite (fun _ => .behind fun _ => hother) fun _ => .ite (fun _ => ?_) fun _ => ?_
  · exact ensures_implItem rules visible
  · refine .behind fun _ => ?_
    extract_lets
    exact .ite (fun _ => .behind fun _ => hother) fun _ =>
      .ite (fun _ => .behind fun _ => hother) fun _ => .behind fun _ => hother

lemma ensures_itemBody :
    Ensures rules.itemBody fun shape => ∀ span, (shape span).WellNamed := by
  refine .behind fun start => .behind fun visible => .behind fun tokens => ?_
  extract_lets second other
  have hother : ∀ body, Ensures (other body) fun shape => ∀ span, (shape span).WellNamed :=
    fun _ => .behind fun _ => .pure fun _ => trivial
  -- one line for each way to begin an item, in the order in which they are tried
  refine .ite (fun _ => hother _) fun _ => ?_
  refine .ite (fun _ => hother _) fun _ => ?_
  refine .ite (fun _ => hother _) fun _ => ?_
  refine .ite (fun _ => hother _) fun _ => ?_
  refine .ite (fun _ => .bind (ensures_constItem rules) fun _ hitem => .pure fun _ => ?_) fun _ => ?_
  · exact wellNamed_getD hitem
  refine .ite (fun _ => .bind (ensures_unsafeItem rules visible) fun _ hitem => .pure fun _ => hitem)
    fun _ => ?_
  refine .ite (fun _ => hother _) fun _ => ?_
  refine .ite (fun _ => hother _) fun _ => ?_
  refine .ite (fun _ => ensures_structItem rules visible) fun _ => ?_
  refine .ite (fun _ => hother _) fun _ => ?_
  refine .ite (fun _ => hother _) fun _ => ?_
  refine .ite (fun _ => hother _) fun _ => ?_
  refine .ite (fun _ => hother _) fun _ => ?_
  refine .ite (fun _ => .bind (ensures_implItem rules visible) fun _ hitem => .pure fun _ => hitem)
    fun _ => ?_
  exact .ite (fun _ => hother _) fun _ => .ite (fun _ => hother _) fun _ => .wanting

lemma ensures_readItem : Ensures rules.readItem Item.WellNamed := by
  refine .bind (.spanned (.behind fun _ => ensures_itemBody rules)) fun found hfound => ?_
  exact .pure (hfound found.2)

/-! ## Files -/

lemma Ensures.readAll {α : Type} {tokens : List Token} {body : Rules → Reader α} {P : α → Prop} {value : α}
    (h : Ensures (body (rulesFor tokens)) P) (hread : Source.readAll tokens body = .ok value) : P value := by
  unfold Source.readAll at hread
  rcases hrun : (body (rulesFor tokens)).run
      { rest := tokens, scope := .nowhere, last := .nowhere, leftover := none } with failure | ⟨found, after⟩
  · rw [hrun] at hread
    cases hread
  · rw [hrun] at hread
    simp only [Bind.bind, Except.bind] at hread
    split at hread
    · cases hread
    · cases hread
    · cases hread
      exact h _ _ _ hrun

lemma ensures_item (tokens : List Token) : Ensures (rulesFor tokens).item Item.WellNamed :=
  ensures_readItem (rulesOf (4 * count tokens + 7))

/-- **The items of a file are called by identifiers.** -/
theorem fileOf_wellNamed {text : String} {file : SourceFile} (h : fileOf text = .ok file) :
    ∀ item ∈ file.items, item.WellNamed := by
  unfold fileOf at h
  rcases htokens : tokensOf (withoutRunner (withoutMark text.toList)) with failure | tokens
  · rw [htokens] at h
    cases h
  rw [htokens] at h
  simp only [bind, Except.bind] at h
  split at h
  · cases h
  · rename_i items hread
    cases h
    exact Ensures.readAll (.behind fun _ => .untilEnd (ensures_item tokens)) hread

end EnumTables.Source
