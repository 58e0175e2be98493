import EnumTables.Text.CaseMap
import Mathlib.Tactic.Common

/-!
# Small letters

A text has no fewer characters in small letters than it had before, for no letter has nothing for its
counterpart.  Nor does a slash come up in it, for only a slash is left a slash.

* `lowerChar_ne_nil`, `eq_slash_of_mem_lowerChar` — what there is to know of one character.
* `length_le_lowercaseFrom` — small letters are not fewer.
* `slash_not_mem_lowercaseFrom` — no slash comes up among them.
-/

namespace EnumTables.Text

variable {c image : Char} {cs before : List Char} {n : Nat} {run : CaseRun}

/-! ## The tables -/

lemma lowercaseExpansions_spelled :
    ∀ entry ∈ lowercaseExpansions, entry.2 ≠ [] ∧ '/' ∉ entry.2.map Char.ofNat := by
  decide

/-- Every run leads to code points behind the slash. -/
lemma lowercaseRuns_behind : ∀ run ∈ lowercaseRuns, (47 : Int) < run.first + run.shift := by
  have hlisted : ∀ run ∈ lowercaseRuns.toList, (47 : Int) < run.first + run.shift := by decide +kernel
  exact fun run hrun => hlisted run (Array.mem_toList_iff.mpr hrun)

lemma eq_slash_of_ofNat (h : Char.ofNat n = '/') : n = 47 := by
  have hcode : (Char.ofNat n).toNat = 47 := congrArg Char.toNat h
  by_cases hvalid : n.isValidChar
  · rw [Char.ofNat, dif_pos hvalid] at hcode
    exact hcode
  · rw [Char.ofNat, dif_neg hvalid] at hcode
    cases hcode

lemma image_ne_slash (hrun : run ∈ lowercaseRuns) (h : run.image? n = some image) : image ≠ '/' := by
  rintro rfl
  unfold CaseRun.image? at h
  split at h
  · rename_i hsays
    have hcode := eq_slash_of_ofNat (Option.some.inj h)
    have hbehind := lowercaseRuns_behind run hrun
    omega
  · cases h

lemma eq_slash_of_toLower (h : c.toLower = '/') : c = '/' := by
  unfold Char.toLower at h
  split at h
  · rename_i hupper
    have hcode : (c.val + 32).toNat = 47 := congrArg Char.toNat h
    have hfrom : 65 ≤ c.val.toNat := hupper.1
    have hto : c.val.toNat ≤ 90 := hupper.2
    have hsum : (c.val + 32).toNat = (c.val.toNat + 32) % 2 ^ 32 := UInt32.toNat_add _ _
    omega
  · exact h

/-! ## One character -/

lemma lowerChar_ne_nil (c : Char) : lowerChar c ≠ [] := by
  unfold lowerChar mapCase
  split
  · exact List.cons_ne_nil _ _
  · split
    · rename_i entry hfind
      have hspelled := (lowercaseExpansions_spelled entry (Array.mem_of_find?_eq_some hfind)).1
      simpa using hspelled
    · exact List.cons_ne_nil _ _

/-- **Only a slash is left a slash.** -/
lemma eq_slash_of_mem_lowerChar (h : '/' ∈ lowerChar c) : c = '/' := by
  unfold lowerChar mapCase at h
  split at h
  · exact eq_slash_of_toLower (List.mem_singleton.mp h).symm
  · split at h
    · rename_i entry hfind
      exact absurd h (lowercaseExpansions_spelled entry (Array.mem_of_find?_eq_some hfind)).2
    · rw [List.mem_singleton] at h
      rcases himage : lowercaseRuns.findSome? (·.image? c.toNat) with _ | image
      · rw [himage] at h
        exact h.symm
      · obtain ⟨run, hrun, hsays⟩ := Array.exists_of_findSome?_eq_some himage
        rw [himage] at h
        exact absurd h.symm (image_ne_slash hrun hsays)

/-! ## A text -/

lemma toList_lowercase (cs : List Char) : (lowercase (String.ofList cs)).toList = lowercaseFrom [] cs := by
  rw [lowercase, String.toList_ofList, String.toList_ofList]

/-- **Small letters are not fewer.** -/
lemma length_le_lowercaseFrom (before cs : List Char) : cs.length ≤ (lowercaseFrom before cs).length := by
  induction cs generalizing before with
  | nil => exact Nat.zero_le _
  | cons c rest ih =>
      have hhere : 0 < (if c == 'Σ' then [if sigmaIsFinal before rest then 'ς' else 'σ']
          else lowerChar c).length := by
        split_ifs <;> simp [List.length_pos_iff, lowerChar_ne_nil]
      have hrest := ih (c :: before)
      simp only [lowercaseFrom, List.length_append, List.length_cons]
      omega

/-- **No slash comes up in small letters.** -/
lemma slash_not_mem_lowercaseFrom (h : '/' ∉ cs) : '/' ∉ lowercaseFrom before cs := by
  induction cs generalizing before with
  | nil => exact List.not_mem_nil
  | cons c rest ih =>
      rw [List.mem_cons, not_or] at h
      rw [lowercaseFrom, List.mem_append, not_or]
      refine ⟨?_, ih h.2⟩
      split_ifs
      · decide
      · decide
      · exact fun hslash => h.1 (eq_slash_of_mem_lowerChar hslash).symm

end EnumTables.Text
