import ClientGen.Text.Case
import ClientGen.Text.Lines
import Mathlib.Data.List.Basic

/-!
# Texts in parts and in lower case

A text that is cut at a character consists of the parts with that character between them
(`intercalate_splitChars`), and parts without it are found again (`splitChars_intercalate`).  Its
last parts are those of another text exactly when it ends with that text, cut off at the character
(`splitChars_suffix_iff`).  Lower case goes character by character as long as the text is ASCII
(`lowerFrom_of_ascii`).
-/

namespace ClientGen.Text

/-! ### Parts -/

variable {separator : Char} {cs : List Char}

theorem splitChars_ne_nil (separator : Char) (cs : List Char) : splitChars separator cs ≠ [] := by
  cases cs with
  | nil => exact List.cons_ne_nil _ _
  | cons c rest =>
    rw [splitChars]
    split
    · exact List.cons_ne_nil _ _
    · split <;> exact List.cons_ne_nil _ _

theorem splitChars_of_notMem (h : separator ∉ cs) : splitChars separator cs = [cs] := by
  induction cs with
  | nil => rfl
  | cons c rest ih =>
    rw [List.mem_cons, not_or] at h
    rw [splitChars, if_neg (Ne.symm h.1), ih h.2]

/-- A text is cut where the separator stands. -/
theorem splitChars_append (lead rest : List Char) :
    splitChars separator (lead ++ separator :: rest) =
      splitChars separator lead ++ splitChars separator rest := by
  induction lead with
  | nil => exact if_pos rfl
  | cons c lead ih =>
    rw [List.cons_append, splitChars, splitChars, ih]
    by_cases hc : c = separator
    · rw [if_pos hc, if_pos hc]
      rfl
    · rw [if_neg hc, if_neg hc]
      obtain ⟨part, parts, hparts⟩ := List.exists_cons_of_ne_nil (splitChars_ne_nil separator lead)
      rw [hparts]
      rfl

/-- Parts without the separator are found again. -/
theorem splitChars_intercalate {parts : List (List Char)} (hne : parts ≠ [])
    (h : ∀ part ∈ parts, separator ∉ part) :
    splitChars separator ([separator].intercalate parts) = parts := by
  induction parts with
  | nil => exact absurd rfl hne
  | cons part parts ih =>
    obtain ⟨hpart, hparts⟩ := List.forall_mem_cons.mp h
    cases parts with
    | nil => rw [List.intercalate_singleton, splitChars_of_notMem hpart]
    | cons next parts =>
      rw [List.intercalate_cons_cons, List.append_assoc, List.singleton_append, splitChars_append,
        splitChars_of_notMem hpart, ih (List.cons_ne_nil _ _) hparts, List.singleton_append]

/-- The parts of a text put together are the text. -/
theorem intercalate_splitChars (separator : Char) (cs : List Char) :
    [separator].intercalate (splitChars separator cs) = cs := by
  induction cs with
  | nil => exact List.intercalate_singleton
  | cons c rest ih =>
    obtain ⟨part, parts, hparts⟩ := List.exists_cons_of_ne_nil (splitChars_ne_nil separator rest)
    rw [splitChars, hparts]
    rw [hparts] at ih
    by_cases hc : c = separator
    · rw [if_pos hc, List.intercalate_cons_cons, ih, hc]
      rfl
    · rw [if_neg hc]
      dsimp only
      cases parts with
      | nil => rw [List.intercalate_singleton, ← ih, List.intercalate_singleton]
      | cons next parts =>
        rw [List.intercalate_cons_cons, ← ih, List.intercalate_cons_cons]
        rfl

theorem intercalate_append {α : Type} {separator : List α} {front back : List (List α)}
    (hfront : front ≠ []) (hback : back ≠ []) :
    separator.intercalate (front ++ back) =
      separator.intercalate front ++ separator ++ separator.intercalate back := by
  induction front with
  | nil => exact absurd rfl hfront
  | cons part front ih =>
    rw [List.cons_append]
    by_cases hlast : front = []
    · rw [hlast, List.nil_append, List.intercalate_cons_of_ne_nil hback,
        List.intercalate_singleton]
    · have hlater : front ++ back ≠ [] := List.append_ne_nil_of_right_ne_nil front hback
      rw [List.intercalate_cons_of_ne_nil hlater, ih hlast, List.intercalate_cons_of_ne_nil hlast]
      simp only [List.append_assoc]

/-- The last parts of a text are those of another one when it is that text, or ends with it behind
the separator. -/
theorem splitChars_suffix_iff {tail : List Char} :
    splitChars separator tail <:+ splitChars separator cs ↔
      cs = tail ∨ separator :: tail <:+ cs := by
  constructor
  · rintro ⟨front, hfront⟩
    have hcs : [separator].intercalate (front ++ splitChars separator tail) = cs := by
      rw [hfront, intercalate_splitChars]
    by_cases hempty : front = []
    · left
      rw [← hcs, hempty, List.nil_append, intercalate_splitChars]
    · right
      rw [intercalate_append hempty (splitChars_ne_nil separator tail), intercalate_splitChars,
        List.append_assoc] at hcs
      exact ⟨[separator].intercalate front, hcs⟩
  · rintro (rfl | ⟨lead, rfl⟩)
    · exact List.suffix_rfl
    · rw [splitChars_append]
      exact List.suffix_append _ _

/-! ### Lower case -/

/-- In ASCII each character has its own small letter, whatever stands before it. -/
theorem lowerFrom_of_ascii (h : ∀ c ∈ cs, c.toNat < 0x80) (before : List Char) :
    lowerFrom before cs = cs.map Char.toLower := by
  induction cs generalizing before with
  | nil => rfl
  | cons c rest ih =>
    obtain ⟨hascii, hrest⟩ := List.forall_mem_cons.mp h
    have hsigma : c.toNat ≠ 0x3a3 := by omega
    rw [lowerFrom, if_neg hsigma, lowerChar, if_pos hascii, ih hrest]
    rfl

/-- Small letters of ASCII are the same in lower case. -/
theorem lowerFrom_eq_self (h : ∀ c ∈ cs, c.toNat < 0x80 ∧ c.toLower = c) (before : List Char) :
    lowerFrom before cs = cs := by
  rw [lowerFrom_of_ascii fun c hc => (h c hc).1]
  exact (List.map_congr_left fun c hc => (h c hc).2).trans (List.map_id cs)

end ClientGen.Text
