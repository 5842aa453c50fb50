import ClientGen.Naming
import ClientGen.Proofs.Text
import Mathlib

/-!
# Names in PascalCase and in kebab-case

A name in PascalCase is made of the letters and digits of the text in their order, some of them
made capitals (`toList_pascal`).  Where the words of a text begin is lost unless a capital shows it:
names that are cut into words at the same places (`kebab_eq_of_pascal`), or that show their words
(`kebab_eq_of_showsBorder`), are the same in PascalCase only if they are in kebab-case.  A name goes
on showing its words when letters and digits are put behind it (`ShowsWords.append`).

A name in kebab-case holds small letters, digits and hyphens only (`isKebab_of_mem_kebab`).  A
number behind a name stays behind its kebab-case form (`exists_kebab_append`), whatever the name
ends with, so that the candidates for a name all differ in kebab-case (`kebab_candidate_injective`)
and `fresh` finds one that is not taken (`kebab_fresh_notMem`).
-/

namespace ClientGen.Naming

/-! ### Characters -/

/-- The characters of names in kebab-case. -/
def isKebab (c : Char) : Bool :=
  c.isLower || c.isDigit || c == '-'

theorem isUpper_of_isDigit {c : Char} (h : c.isDigit = true) : c.isUpper = false := by
  have hbelow : c.toNat < 'A'.val.toNat := by
    have h9 := (Char.isDigit_iff_toNat.mp h).2
    have hA : '9'.toNat < 'A'.val.toNat := by decide
    omega
  rw [Char.isUpper, decide_eq_false_iff_not]
  rintro ⟨hleast, -⟩
  rw [ge_iff_le, UInt32.le_iff_toNat_le] at hleast
  change 'A'.val.toNat ≤ c.toNat at hleast
  omega

/-- A number is written with digits. -/
theorem isDigit_of_mem_toString {n : Nat} {c : Char} (h : c ∈ (toString n).toList) :
    c.isDigit = true := by
  rw [Nat.toString_eq_repr, Nat.toList_repr] at h
  exact Nat.isDigit_of_mem_toDigits (by decide) (by decide) h

theorem toLower_of_isDigit {c : Char} (h : c.isDigit = true) : c.toLower = c :=
  Char.toLower_eq_of_not_isUpper (by rw [isUpper_of_isDigit h]; exact Bool.false_ne_true)

/-- A letter or digit, made small, is a small letter or a digit. -/
theorem endsWord_toLower {c : Char} (h : c.isAlphanum = true) : endsWord c.toLower = true := by
  rw [Char.isAlphanum, Bool.or_eq_true] at h
  rw [endsWord, Char.isLower_toLower_eq_isAlpha]
  rcases h with hletter | hdigit
  · rw [hletter, Bool.true_or]
  · rw [toLower_of_isDigit hdigit, hdigit, Bool.or_true]

/-- A letter or digit, made small, is a character of kebab-case. -/
theorem isKebab_toLower {c : Char} (h : c.isAlphanum = true) : isKebab c.toLower = true :=
  (Bool.or_eq_true _ _).mpr (.inl (endsWord_toLower h))

/-! ### Words -/

/-- Characters that are read as one word: letters and digits, none of them a capital behind a small
letter or a digit. -/
structure IsWord (word : List Char) : Prop where
  ne_nil : word ≠ []
  isAlphanum : ∀ c ∈ word, c.isAlphanum = true
  whole : word.IsChain fun a b => (b.isUpper && endsWord a) = false

theorem isWord_singleton {c : Char} (h : c.isAlphanum = true) : IsWord [c] :=
  ⟨List.cons_ne_nil c [], by simpa using h, .singleton c⟩

/-- A word goes on with a letter or digit that starts no word. -/
theorem IsWord.concat {current : List Char} {c : Char} (h : IsWord current.reverse)
    (hc : c.isAlphanum = true) (hborder : (c.isUpper && current.head?.any endsWord) = false) :
    IsWord (c :: current).reverse := by
  rw [List.reverse_cons]
  refine ⟨by simp, ?_, ?_⟩
  · rw [List.forall_mem_append]
    exact ⟨h.isAlphanum, by simpa using hc⟩
  · refine h.whole.append (.singleton c) fun a ha b hb => ?_
    rw [List.getLast?_reverse, Option.mem_def] at ha
    rw [ha, Option.any_some] at hborder
    cases hb
    exact hborder

/-- The words of a text are read as words. -/
theorem isWord_of_mem_wordsFrom {current cs : List Char}
    (hcurrent : current ≠ [] → IsWord current.reverse) {word : List Char}
    (hword : word ∈ wordsFrom current cs) : IsWord word := by
  induction cs generalizing current with
  | nil =>
    rw [wordsFrom] at hword
    split at hword
    · cases hword
    · rename_i hempty
      rw [List.mem_singleton.mp hword]
      exact hcurrent fun hnil => hempty (hnil ▸ rfl)
  | cons c rest ih =>
    have hnone : ([] : List Char) ≠ [] → IsWord [].reverse := fun h => absurd rfl h
    rw [wordsFrom] at hword
    split at hword
    · rename_i hc
      have hsingle : [c] ≠ [] → IsWord [c].reverse := fun _ => isWord_singleton hc
      split at hword
      · rename_i hborder
        rcases List.mem_cons.mp hword with rfl | hlater
        · refine hcurrent fun hnil => ?_
          rw [hnil, List.head?_nil, Option.any_none, Bool.and_false] at hborder
          cases hborder
        · exact ih hsingle hlater
      · rename_i hborder
        refine ih (fun _ => ?_) hword
        by_cases hempty : current = []
        · rw [hempty]
          exact isWord_singleton hc
        · exact (hcurrent hempty).concat hc (by simpa using hborder)
    · split at hword
      · exact ih hnone hword
      · rename_i hempty
        rcases List.mem_cons.mp hword with rfl | hlater
        · exact hcurrent fun hnil => hempty (hnil ▸ rfl)
        · exact ih hnone hlater

theorem isWord_of_mem_words {text : String} {word : List Char} (h : word ∈ words text) :
    IsWord word :=
  isWord_of_mem_wordsFrom (fun h => absurd rfl h) h

/-- The characters of a name in kebab-case: those of the words, made small, with hyphens between
them. -/
theorem toList_kebab (text : String) :
    (kebab text).toList = ['-'].intercalate ((words text).map (List.map Char.toLower)) := by
  rw [kebab, String.toList_intercalate, List.map_map]
  congr 1
  exact List.map_congr_left fun word _ => String.toList_ofList

theorem mem_intercalate {α : Type} {separator : List α} {parts : List (List α)} {a : α}
    (h : a ∈ separator.intercalate parts) : a ∈ separator ∨ ∃ part ∈ parts, a ∈ part := by
  induction parts with
  | nil => cases h
  | cons first rest ih =>
    cases rest with
    | nil =>
      rw [List.intercalate_singleton] at h
      exact .inr ⟨first, List.mem_cons_self, h⟩
    | cons second rest =>
      rw [List.intercalate_cons_cons, List.mem_append, List.mem_append] at h
      rcases h with (hfirst | hseparator) | hrest
      · exact .inr ⟨first, List.mem_cons_self, hfirst⟩
      · exact .inl hseparator
      · rcases ih hrest with hseparator | ⟨part, hpart, hmem⟩
        · exact .inl hseparator
        · exact .inr ⟨part, List.mem_cons_of_mem _ hpart, hmem⟩

/-- **A name in kebab-case holds small letters, digits and hyphens only.** -/
theorem isKebab_of_mem_kebab {text : String} {c : Char} (h : c ∈ (kebab text).toList) :
    isKebab c = true := by
  rw [toList_kebab] at h
  rcases mem_intercalate h with hhyphen | ⟨part, hpart, hmem⟩
  · rw [List.mem_singleton.mp hhyphen]
    rfl
  · obtain ⟨word, hword, rfl⟩ := List.mem_map.mp hpart
    obtain ⟨d, hd, rfl⟩ := List.mem_map.mp hmem
    exact isKebab_toLower ((isWord_of_mem_words hword).isAlphanum d hd)

/-! ### PascalCase -/

theorem isLower_of_isDigit {c : Char} (h : c.isDigit = true) : c.isLower = false := by
  have h9 : c.toNat ≤ '9'.toNat := (Char.isDigit_iff_toNat.mp h).2
  have hbelow : ¬('a'.val ≤ c.val) := fun hleast =>
    absurd (UInt32.le_iff_toNat_le.mp hleast) (Nat.not_le_of_lt (Nat.lt_of_le_of_lt h9 (by decide)))
  rw [Char.isLower, decide_eq_false hbelow, Bool.false_and]

theorem toUpper_of_isDigit {c : Char} (h : c.isDigit = true) : c.toUpper = c :=
  Char.toUpper_eq_of_not_isLower (by rw [isLower_of_isDigit h]; exact Bool.false_ne_true)

/-- A letter or digit, made a capital, is a letter or digit. -/
theorem isAlphanum_toUpper {c : Char} (h : c.isAlphanum = true) : c.toUpper.isAlphanum = true := by
  rw [Char.isAlphanum, Bool.or_eq_true] at h
  rcases h with hletter | hdigit
  · rw [Char.isAlphanum, Char.isAlpha_toUpper_eq_isAlpha, hletter, Bool.true_or]
  · rw [toUpper_of_isDigit hdigit, Char.isAlphanum, hdigit, Bool.or_true]

theorem isAlphanum_toLower {c : Char} (h : c.isAlphanum = true) : c.toLower.isAlphanum = true := by
  rw [Char.isAlphanum, Bool.or_eq_true] at h
  rcases h with hletter | hdigit
  · rw [Char.isAlphanum, Char.isAlpha_toLower_eq_isAlpha, hletter, Bool.true_or]
  · rw [toLower_of_isDigit hdigit, Char.isAlphanum, hdigit, Bool.or_true]

/-- The letters and digits among the characters, a capital where a word starts; `inside` says whether
a letter or digit stands before them. -/
def lettersFrom (inside : Bool) : List Char → List Char
  | [] => []
  | c :: rest =>
    if c.isAlphanum then (if inside then c else c.toUpper) :: lettersFrom true rest
    else lettersFrom false rest

theorem isAlphanum_of_mem_lettersFrom {inside : Bool} {cs : List Char} :
    ∀ c ∈ lettersFrom inside cs, c.isAlphanum = true := by
  induction cs generalizing inside with
  | nil => simp [lettersFrom]
  | cons first rest ih =>
    rw [lettersFrom]
    split
    · rename_i hfirst
      refine List.forall_mem_cons.mpr ⟨?_, ih⟩
      cases inside with
      | false => exact isAlphanum_toUpper hfirst
      | true => exact hfirst
    · exact ih

theorem capitalize_append_singleton (word : List Char) (c : Char) :
    capitalize (word ++ [c]) = capitalize word ++ [if word.isEmpty then c.toUpper else c] := by
  cases word <;> rfl

/-- The words, each capitalised: the word at hand goes on with what follows. -/
theorem flatMap_capitalize_wordsFrom (current cs : List Char) :
    (wordsFrom current cs).flatMap capitalize =
      capitalize current.reverse ++ lettersFrom (!current.isEmpty) cs := by
  induction cs generalizing current with
  | nil => cases current <;> simp [wordsFrom, lettersFrom, capitalize]
  | cons c rest ih =>
    rw [wordsFrom, lettersFrom]
    by_cases hc : c.isAlphanum = true
    · rw [if_pos hc, if_pos hc]
      by_cases hborder : (c.isUpper && current.head?.any endsWord) = true
      · -- A capital after a small letter starts a word, and is capital already.
        obtain ⟨hupper, hinside⟩ := (Bool.and_eq_true _ _).mp hborder
        have hempty : current.isEmpty = false := by
          cases current with
          | nil => cases hinside
          | cons last earlier => rfl
        have hcapital : c.toUpper = c :=
          Char.toUpper_eq_of_not_isLower (Char.not_isLower_of_isUpper hupper)
        rw [if_pos hborder, List.flatMap_cons, ih, hempty]
        simp [capitalize, hcapital]
      · rw [if_neg hborder, ih, List.reverse_cons, capitalize_append_singleton]
        cases current <;> simp
    · rw [if_neg hc, if_neg hc]
      by_cases hempty : current.isEmpty = true
      · rw [if_pos hempty, ih, List.isEmpty_iff.mp hempty]
        rfl
      · rw [if_neg hempty, List.flatMap_cons, ih]
        rfl

/-- **The characters of a name in PascalCase**: the letters and digits of the text, in their order. -/
theorem toList_pascal (text : String) : (pascal text).toList = lettersFrom false text.toList := by
  rw [pascal, String.toList_ofList, words, flatMap_capitalize_wordsFrom]
  rfl

/-- A name in PascalCase holds letters and digits only. -/
theorem isAlphanum_of_mem_pascal {text : String} {c : Char} (h : c ∈ (pascal text).toList) :
    c.isAlphanum = true := by
  rw [toList_pascal] at h
  exact isAlphanum_of_mem_lettersFrom c h

/-- A name in camelCase holds letters and digits only. -/
theorem isAlphanum_of_mem_camel {text : String} {c : Char} (h : c ∈ (camel text).toList) :
    c.isAlphanum = true := by
  have hpascal : ∀ c ∈ (pascal text).toList, c.isAlphanum = true := fun _ => isAlphanum_of_mem_pascal
  rw [camel, String.toList_ofList] at h
  cases hlist : (pascal text).toList with
  | nil =>
    rw [hlist] at h
    cases h
  | cons first rest =>
    rw [hlist, List.forall_mem_cons] at hpascal
    rw [hlist, decapitalize, List.mem_cons] at h
    rcases h with rfl | hrest
    · exact isAlphanum_toLower hpascal.1
    · exact hpascal.2 c hrest

/-! ### Words that PascalCase shows -/

/-- A word stays one when it is capitalised. -/
theorem IsWord.capitalize {word : List Char} (h : IsWord word) : IsWord (capitalize word) := by
  cases word with
  | nil => exact absurd rfl h.ne_nil
  | cons c rest =>
    obtain ⟨hc, hrest⟩ := List.forall_mem_cons.mp h.isAlphanum
    obtain ⟨hfirst, hwhole⟩ := List.isChain_cons.mp h.whole
    refine ⟨List.cons_ne_nil _ _, List.forall_mem_cons.mpr ⟨isAlphanum_toUpper hc, hrest⟩, ?_⟩
    refine List.isChain_cons.mpr ⟨fun d hd => ?_, hwhole⟩
    -- a capital ends no word, and what is no small letter stays as it is
    have hold := hfirst d hd
    cases hdigit : c.isDigit with
    | true =>
      rw [toUpper_of_isDigit hdigit]
      exact hold
    | false =>
      rw [Char.isAlphanum, hdigit, Bool.or_false] at hc
      have hupper : c.toUpper.isUpper = true := by rw [Char.isUpper_toUpper_eq_isAlpha, hc]
      have hends : endsWord c.toUpper = false := by
        have hnodigit : c.toUpper.isDigit = false := by
          cases hd : c.toUpper.isDigit with
          | false => rfl
          | true =>
            rw [isUpper_of_isDigit hd] at hupper
            cases hupper
        rw [endsWord, Char.isLower_toUpper_eq_false, hnodigit]
        rfl
      rw [hends, Bool.and_false]

/-- What goes on with a word is read into it. -/
theorem wordsFrom_append {current word : List Char}
    (h : IsWord (current.reverse ++ word)) (rest : List Char) :
    wordsFrom current (word ++ rest) = wordsFrom (word.reverse ++ current) rest := by
  induction word generalizing current with
  | nil => rfl
  | cons c word ih =>
    have hc : c.isAlphanum = true :=
      h.isAlphanum c (List.mem_append_right _ List.mem_cons_self)
    have hborder : ¬(c.isUpper && current.head?.any endsWord) = true := by
      obtain ⟨-, -, hlink⟩ := List.isChain_append.mp h.whole
      cases hlast : current.head? with
      | none => simp
      | some a =>
        have hpair := hlink a (by rw [List.getLast?_reverse, hlast]; rfl) c rfl
        rw [Option.any_some, hpair]
        exact Bool.false_ne_true
    rw [List.cons_append, wordsFrom, if_pos hc, if_neg hborder, ih]
    · rw [List.reverse_cons, List.append_assoc]
      rfl
    · rwa [List.reverse_cons, List.append_assoc]

/-- A word is read to its end. -/
theorem wordsFrom_word {word : List Char} (h : IsWord word) (rest : List Char) :
    wordsFrom [] (word ++ rest) = wordsFrom word.reverse rest := by
  have hread := @wordsFrom_append [] word h rest
  rwa [List.append_nil] at hread

/-- A capital behind a small letter or digit starts the words that are read from it. -/
theorem wordsFrom_border {current : List Char} {c : Char} (hc : c.isUpper = true)
    (hcurrent : current.head?.any endsWord = true) (rest : List Char) :
    wordsFrom current (c :: rest) = current.reverse :: wordsFrom [] (c :: rest) := by
  have halnum : c.isAlphanum = true := by
    rw [Char.isAlphanum, Char.isAlpha, hc, Bool.true_or, Bool.true_or]
  rw [wordsFrom, if_pos halnum, if_pos (by rw [hc, hcurrent]; rfl), wordsFrom, if_pos halnum,
    if_neg (by simp)]

/-- The border between two words shows when they are capitalised and joined. -/
def ShowsBorder (first second : List Char) : Prop :=
  (capitalize first).getLast?.any endsWord = true ∧ second.head?.any Char.isAlpha = true

instance (first second : List Char) : Decidable (ShowsBorder first second) :=
  inferInstanceAs (Decidable (_ ∧ _))

/-- Capitalised words are read again where all borders between them show. -/
theorem wordsFrom_flatMap_capitalize {words : List (List Char)}
    (hwords : ∀ word ∈ words, IsWord word) (h : words.IsChain ShowsBorder) :
    wordsFrom [] (words.flatMap capitalize) = words.map capitalize := by
  induction words with
  | nil => rfl
  | cons first rest ih =>
    obtain ⟨hfirst, hrest⟩ := List.forall_mem_cons.mp hwords
    have hreverse : (capitalize first).reverse.isEmpty = false := by
      simpa using hfirst.capitalize.ne_nil
    rw [List.flatMap_cons, wordsFrom_word hfirst.capitalize, List.map_cons, ← ih hrest h.tail]
    cases rest with
    | nil =>
      rw [List.flatMap_nil, wordsFrom, hreverse, List.reverse_reverse]
      rfl
    | cons second rest =>
      obtain ⟨⟨hends, hstarts⟩, -⟩ := List.isChain_cons_cons.mp h
      cases second with
      | nil => cases hstarts
      | cons c second =>
        rw [List.flatMap_cons]
        show wordsFrom _ (c.toUpper :: _) = _ :: wordsFrom [] (c.toUpper :: _)
        rw [wordsFrom_border, List.reverse_reverse]
        · rw [Char.isUpper_toUpper_eq_isAlpha]
          exact hstarts
        · rwa [List.head?_reverse]

theorem words_pascal {text : String} (h : (words text).IsChain ShowsBorder) :
    words (pascal text) = (words text).map capitalize := by
  rw [words, pascal, String.toList_ofList]
  exact wordsFrom_flatMap_capitalize (fun word => isWord_of_mem_words) h

/-! ### Names that are the same in PascalCase -/

theorem map_toLower_capitalize (word : List Char) :
    (capitalize word).map Char.toLower = word.map Char.toLower := by
  cases word with
  | nil => rfl
  | cons c rest => rw [capitalize, List.map_cons, List.map_cons, Char.toLower_toUpper_eq_toLower]

/-- The kebab-case form is that of the words capitalised. -/
theorem kebab_eq_of_capitalize {text other : String}
    (h : (words text).map capitalize = (words other).map capitalize) :
    kebab text = kebab other := by
  have hsmall : ∀ text : String, (words text).map (List.map Char.toLower) =
      ((words text).map capitalize).map (List.map Char.toLower) := by
    intro text
    rw [List.map_map]
    exact List.map_congr_left fun word _ => (map_toLower_capitalize word).symm
  rw [← String.toList_inj, toList_kebab, toList_kebab, hsmall, hsmall, h]

/-- The lengths of the words of a text. -/
def lengths (text : String) : List Nat :=
  (words text).map List.length

/-- **Names with the same form in PascalCase have the same form in kebab-case** where they are cut
into words at the same places. -/
theorem kebab_eq_of_pascal {text other : String} (h : pascal text = pascal other)
    (hlengths : lengths text = lengths other) : kebab text = kebab other := by
  have hletters :
      ((words text).map capitalize).flatten = ((words other).map capitalize).flatten := by
    rw [← List.flatMap_def, ← List.flatMap_def]
    exact String.ofList_inj.mp h
  have hcapital : ∀ text : String,
      ((words text).map capitalize).map List.length = lengths text := by
    intro text
    rw [List.map_map]
    refine List.map_congr_left fun word _ => ?_
    cases word <;> rfl
  exact kebab_eq_of_capitalize (List.eq_iff_flatten_eq.mpr
    ⟨hletters, by rw [hcapital, hcapital, hlengths]⟩)

/-- **Names with the same form in PascalCase have the same form in kebab-case** where PascalCase
shows all borders of their words. -/
theorem kebab_eq_of_showsBorder {text other : String} (h : pascal text = pascal other)
    (htext : (words text).IsChain ShowsBorder) (hother : (words other).IsChain ShowsBorder) :
    kebab text = kebab other := by
  apply kebab_eq_of_capitalize
  rw [← words_pascal htext, ← words_pascal hother, h]

/-! ### Letters and digits behind a name -/

/-- What follows a text is read on from some point within it. -/
theorem exists_wordsFrom_append (current cs : List Char) : ∃ done last, ∀ tail : List Char,
    wordsFrom current (cs ++ tail) = done ++ wordsFrom last tail := by
  induction cs generalizing current with
  | nil => exact ⟨[], current, fun tail => rfl⟩
  | cons c rest ih =>
    by_cases hc : c.isAlphanum = true
    · by_cases hborder : (c.isUpper && current.head?.any endsWord) = true
      · obtain ⟨done, last, hwords⟩ := ih [c]
        refine ⟨current.reverse :: done, last, fun tail => ?_⟩
        rw [List.cons_append, wordsFrom, if_pos hc, if_pos hborder, hwords]
        rfl
      · obtain ⟨done, last, hwords⟩ := ih (c :: current)
        refine ⟨done, last, fun tail => ?_⟩
        rw [List.cons_append, wordsFrom, if_pos hc, if_neg hborder, hwords]
    · obtain ⟨done, last, hwords⟩ := ih []
      by_cases hempty : current.isEmpty = true
      · refine ⟨done, last, fun tail => ?_⟩
        rw [List.cons_append, wordsFrom, if_neg hc, if_pos hempty, hwords]
      · refine ⟨current.reverse :: done, last, fun tail => ?_⟩
        rw [List.cons_append, wordsFrom, if_neg hc, if_neg hempty, hwords]
        rfl

/-- A word that is read goes on from what has been read of it. -/
theorem exists_wordsFrom_eq_cons {current : List Char} (h : current ≠ []) (cs : List Char) :
    ∃ more rest, wordsFrom current cs = (current.reverse ++ more) :: rest := by
  induction cs generalizing current with
  | nil =>
    refine ⟨[], [], ?_⟩
    rw [wordsFrom, if_neg (by simpa using h), List.append_nil]
  | cons c rest ih =>
    rw [wordsFrom]
    split
    · split
      · exact ⟨[], _, by rw [List.append_nil]⟩
      · obtain ⟨more, later, hwords⟩ := ih (List.cons_ne_nil c current)
        refine ⟨c :: more, later, ?_⟩
        rw [hwords, List.reverse_cons, List.append_assoc]
        rfl
    · rw [if_neg (by simpa using h)]
      exact ⟨[], _, by rw [List.append_nil]⟩

/-- In letters and digits alone all borders show, apart from that behind a single small letter at
their front. -/
theorem showsBorder_wordsFrom {current cs : List Char} (hcs : ∀ c ∈ cs, c.isAlphanum = true)
    (hfront : 2 ≤ current.length ∨ ∀ c ∈ (current.reverse ++ cs).head?, c.isLower = false) :
    (wordsFrom current cs).IsChain ShowsBorder := by
  induction cs generalizing current with
  | nil =>
    rw [wordsFrom]
    split
    · exact .nil
    · exact .singleton _
  | cons c rest ih =>
    obtain ⟨hc, hrest⟩ := List.forall_mem_cons.mp hcs
    rw [wordsFrom, if_pos hc]
    split
    · rename_i hborder
      obtain ⟨hupper, hends⟩ := (Bool.and_eq_true _ _).mp hborder
      obtain ⟨more, later, hwords⟩ := exists_wordsFrom_eq_cons (List.cons_ne_nil c []) rest
      have hcapital : c.isLower = false := by
        simpa using Char.not_isLower_of_isUpper hupper
      refine List.isChain_cons.mpr ⟨fun word hword => ⟨?_, ?_⟩, ih hrest (.inr ?_)⟩
      · -- the last character of a word of one letter is its first, which a capital replaces
        cases current with
        | nil => cases hends
        | cons d current =>
          rw [List.reverse_cons, capitalize_append_singleton, List.getLast?_concat, Option.any_some]
          cases current with
          | nil =>
            have hsmall : d.isLower = false := by
              rcases hfront with hlong | hfront
              · exact absurd hlong (by simp)
              · exact hfront d rfl
            have hsame : d.toUpper = d :=
              Char.toUpper_eq_of_not_isLower (by rw [hsmall]; exact Bool.false_ne_true)
            show endsWord d.toUpper = true
            rw [hsame]
            exact hends
          | cons e current =>
            rw [if_neg (by simp)]
            exact hends
      · rw [hwords] at hword
        cases hword
        show c.isAlpha = true
        rw [Char.isAlpha, hupper, Bool.true_or]
      · intro d hd
        cases hd
        exact hcapital
    · refine ih hrest (hfront.imp (fun hlong => Nat.le_succ_of_le hlong) fun hfront => ?_)
      rwa [List.reverse_cons, List.append_assoc]

/-- A word of one small letter. -/
def isSmallLetter : List Char → Bool
  | [c] => c.isLower
  | _ => false

/-- The words of a name show in PascalCase, also with letters and digits behind it. -/
structure ShowsWords (name : String) : Prop where
  /-- All borders between words show. -/
  borders : (words name).IsChain ShowsBorder
  /-- What follows is read into the last word. -/
  ending : name.toList.getLast?.all Char.isAlphanum = true
  /-- A capital that follows the last word shows that it begins another one. -/
  last : (words name).getLast?.any isSmallLetter = false

instance (name : String) : Decidable (ShowsWords name) :=
  decidable_of_iff (_ ∧ _ ∧ _) ⟨fun h => ⟨h.1, h.2.1, h.2.2⟩, fun h => ⟨h.1, h.2, h.3⟩⟩

/-- What follows a letter or digit is read from within a word. -/
theorem exists_wordsFrom_concat (current cs : List Char) {c : Char} (hc : c.isAlphanum = true) :
    ∃ done last, last ≠ [] ∧
      ∀ tail, wordsFrom current (cs ++ c :: tail) = done ++ wordsFrom last tail := by
  obtain ⟨done, last, hwords⟩ := exists_wordsFrom_append current cs
  by_cases hborder : (c.isUpper && last.head?.any endsWord) = true
  · refine ⟨done ++ [last.reverse], [c], List.cons_ne_nil c [], fun tail => ?_⟩
    rw [hwords, wordsFrom, if_pos hc, if_pos hborder, List.append_assoc]
    rfl
  · refine ⟨done, c :: last, List.cons_ne_nil c last, fun tail => ?_⟩
    rw [hwords, wordsFrom, if_pos hc, if_neg hborder]

/-- **Letters and digits behind a name leave its words shown** if they begin with no small
letter. -/
theorem ShowsWords.append {name tail : String} (h : ShowsWords name)
    (htail : ∀ c ∈ tail.toList, c.isAlphanum = true)
    (hhead : ∀ c ∈ tail.toList.head?, c.isLower = false) :
    (words (name ++ tail)).IsChain ShowsBorder := by
  rw [words, String.toList_append]
  rcases List.eq_nil_or_concat name.toList with hnil | ⟨init, c, hname⟩
  · rw [hnil]
    exact showsBorder_wordsFrom htail (.inr hhead)
  · have hc : c.isAlphanum = true := by
      have hending := h.ending
      rw [hname, List.concat_eq_append, List.getLast?_concat] at hending
      exact hending
    obtain ⟨done, last, hne, hwords⟩ := exists_wordsFrom_concat [] init hc
    have hown : words name = done ++ [last.reverse] := by
      rw [words, hname, List.concat_eq_append, hwords [], wordsFrom, if_neg (by simpa using hne)]
    obtain ⟨hdone, -, hlink⟩ := List.isChain_append.mp (hown ▸ h.borders)
    obtain ⟨more, later, hlater⟩ := exists_wordsFrom_eq_cons hne tail.toList
    rw [hname, List.concat_eq_append, List.append_assoc, List.singleton_append, hwords]
    refine hdone.append (showsBorder_wordsFrom htail ?_) fun first hfirst second hsecond => ?_
    · match last, hne with
      | [d], _ =>
        right
        intro e he
        cases he
        have hlast := h.last
        rw [hown, List.getLast?_concat] at hlast
        exact hlast
      | _ :: _ :: _, _ =>
        left
        simp
    · obtain ⟨hends, hstarts⟩ := hlink first hfirst last.reverse rfl
      rw [hlater] at hsecond
      cases hsecond
      refine ⟨hends, ?_⟩
      rwa [List.head?_append_of_ne_nil _ (by simpa using hne)]

/-! ### Digits behind a text -/

/-- Digits that follow a word, if there is one, belong to it. -/
theorem wordsFrom_digits (current : List Char) {digits : List Char}
    (hdigits : ∀ d ∈ digits, d.isDigit = true) :
    wordsFrom current digits =
      if current.reverse ++ digits = [] then [] else [current.reverse ++ digits] := by
  induction digits generalizing current with
  | nil => cases current <;> simp [wordsFrom]
  | cons d rest ih =>
    have hd : d.isDigit = true := hdigits d List.mem_cons_self
    have hrest := ih (d :: current) fun d hd => hdigits d (List.mem_cons_of_mem _ hd)
    simp [wordsFrom, Char.isAlphanum, hd, isUpper_of_isDigit hd, hrest]

/-- The last of some parts stands behind a lead that depends on the parts before it alone. -/
theorem exists_intercalate_concat {α : Type} (separator : List α) (parts : List (List α)) :
    ∃ lead, (separator.intercalate parts).length ≤ lead.length ∧
      ∀ last, separator.intercalate (parts ++ [last]) = lead ++ last := by
  by_cases hparts : parts = []
  · refine ⟨[], by rw [hparts]; exact Nat.le_refl 0, fun last => ?_⟩
    rw [hparts]
    exact List.intercalate_singleton
  · refine ⟨separator.intercalate parts ++ separator, ?_, fun last => ?_⟩
    · rw [List.length_append]
      omega
    · rw [Text.intercalate_append hparts (List.cons_ne_nil last []), List.intercalate_singleton]

/-- Digits behind a text stay behind its kebab-case form, perhaps with a hyphen between them. -/
theorem exists_kebab_append (stem : String) : ∃ base : List Char,
    (kebab stem).toList.length ≤ base.length ∧
      ∀ digits : List Char, digits ≠ [] → (∀ d ∈ digits, d.isDigit = true) →
        (kebab (stem ++ String.ofList digits)).toList = base ++ digits := by
  obtain ⟨done, last, hread⟩ := exists_wordsFrom_append [] stem.toList
  have hwords : ∀ digits : List Char, (∀ d ∈ digits, d.isDigit = true) →
      wordsFrom [] (stem.toList ++ digits) =
        done ++ if last.reverse ++ digits = [] then [] else [last.reverse ++ digits] := by
    intro digits hdigits
    rw [hread, wordsFrom_digits last hdigits]
  obtain ⟨lead, hlength, hlead⟩ :=
    exists_intercalate_concat ['-'] (done.map (List.map Char.toLower))
  refine ⟨lead ++ last.reverse.map Char.toLower, ?_, fun digits hne hdigits => ?_⟩
  · have hplain : words stem = done ++ if last.reverse = [] then [] else [last.reverse] := by
      have hnone := hwords [] (by simp)
      rwa [List.append_nil, List.append_nil] at hnone
    rw [toList_kebab, hplain]
    by_cases hlast : last.reverse = []
    · rw [if_pos hlast, hlast]
      simpa using hlength
    · rw [if_neg hlast, List.map_append, List.map_singleton, hlead]
  · have hnumbered : words (stem ++ String.ofList digits) = done ++ [last.reverse ++ digits] := by
      rw [words, String.toList_append, String.toList_ofList, hwords digits hdigits,
        if_neg (by simp [hne])]
    have hsmall : digits.map Char.toLower = digits.map id :=
      List.map_congr_left fun d hd => toLower_of_isDigit (hdigits d hd)
    rw [toList_kebab, hnumbered, List.map_append, List.map_singleton, hlead, List.map_append,
      hsmall, List.map_id, List.append_assoc]

/-! ### Fresh names -/

theorem toDigits_injective : Function.Injective (Nat.toDigits 10) := by
  intro m n h
  have hread := congrArg (Nat.ofDigitChars 10 · 0) h
  simpa only [Nat.ofDigitChars_toDigits (by decide : 1 < 10) (Nat.le_refl 10)] using hread

/-- The kebab-case forms of the candidates for a name: that of the name itself, and longer ones that
end in the digits of a number. -/
theorem exists_kebab_candidate (stem : String) : ∃ base : List Char,
    (kebab (candidate stem 0)).toList.length ≤ base.length ∧
      ∀ i, (kebab (candidate stem (i + 1))).toList = base ++ Nat.toDigits 10 (i + 2) := by
  obtain ⟨base, hlength, hbase⟩ := exists_kebab_append stem
  refine ⟨base, hlength, fun i => ?_⟩
  have hcandidate : candidate stem (i + 1) = stem ++ String.ofList (Nat.toDigits 10 (i + 2)) := by
    rw [candidate, if_neg (Nat.succ_ne_zero i), ← Nat.toList_repr, String.ofList_toList,
      Nat.toString_eq_repr]
  rw [hcandidate]
  refine hbase _ Nat.toDigits_ne_nil fun d hd => ?_
  exact Nat.isDigit_of_mem_toDigits (by decide) (by decide) hd

/-- **The candidates for a name differ in kebab-case.** -/
theorem kebab_candidate_injective (stem : String) :
    Function.Injective fun i => kebab (candidate stem i) := by
  obtain ⟨base, hlength, hbase⟩ := exists_kebab_candidate stem
  have hlonger : ∀ i, (kebab (candidate stem 0)).toList.length <
      (kebab (candidate stem (i + 1))).toList.length := by
    intro i
    have hdigits := List.length_pos_iff.mpr (Nat.toDigits_ne_nil (n := i + 2) (b := 10))
    rw [hbase, List.length_append]
    omega
  intro i j h
  have hlists : (kebab (candidate stem i)).toList = (kebab (candidate stem j)).toList :=
    congrArg String.toList h
  rcases i with _ | i <;> rcases j with _ | j
  · rfl
  · exact absurd (congrArg List.length hlists) (Nat.ne_of_lt (hlonger j))
  · exact absurd (congrArg List.length hlists) (Nat.ne_of_gt (hlonger i))
  · rw [hbase, hbase] at hlists
    have hnumbers : i + 2 = j + 2 := toDigits_injective (List.append_cancel_left hlists)
    omega

/-- Among the first candidates, one more than forms are taken, there is a free one. -/
theorem exists_free_candidate (stem : String) (taken : List String) :
    ∃ i ≤ taken.toFinset.card, kebab (candidate stem i) ∉ taken := by
  by_contra hall
  push Not at hall
  have hsubset : (Finset.range (taken.toFinset.card + 1)).image
      (fun i => kebab (candidate stem i)) ⊆ taken.toFinset := by
    intro name hname
    obtain ⟨i, hi, rfl⟩ := Finset.mem_image.mp hname
    have hbound := Finset.mem_range.mp hi
    exact List.mem_toFinset.mpr (hall i (by omega))
  have hcard := Finset.card_le_card hsubset
  rw [Finset.card_image_of_injective _ (kebab_candidate_injective stem), Finset.card_range] at hcard
  omega

/-- **The fresh name is the first candidate that is free.** -/
theorem exists_fresh_eq (stem : String) (taken : List String) :
    ∃ i ≤ taken.toFinset.card, fresh stem taken = candidate stem i ∧
      kebab (candidate stem i) ∉ taken ∧ ∀ j < i, kebab (candidate stem j) ∈ taken := by
  obtain ⟨k, hk, hfree⟩ := exists_free_candidate stem taken
  have hlength : taken.toFinset.card ≤ taken.length := List.toFinset_card_le taken
  unfold fresh
  cases hfind : (List.range (taken.length + 1)).find? fun i =>
      !taken.contains (kebab (candidate stem i)) with
  | none =>
    have htaken := List.find?_range_eq_none.mp hfind k (by omega)
    simp [hfree] at htaken
  | some i =>
    obtain ⟨hi, -, hbefore⟩ := List.find?_range_eq_some.mp hfind
    refine ⟨i, ?_, rfl, by simpa using hi, fun j hj => by simpa using hbefore j hj⟩
    by_contra hlate
    have htaken := hbefore k (by omega)
    simp [hfree] at htaken

/-- **A fresh name is not taken.** -/
theorem kebab_fresh_notMem (stem : String) (taken : List String) :
    kebab (fresh stem taken) ∉ taken := by
  obtain ⟨i, -, heq, hfree, -⟩ := exists_fresh_eq stem taken
  rwa [heq]

/-- A name that is not taken stays as it is. -/
theorem fresh_of_notMem {stem : String} {taken : List String} (h : kebab stem ∉ taken) :
    fresh stem taken = stem := by
  obtain ⟨i, -, heq, -, hbefore⟩ := exists_fresh_eq stem taken
  rcases Nat.eq_zero_or_pos i with rfl | hpositive
  · exact heq
  · exact absurd (hbefore 0 hpositive) h

end ClientGen.Naming
