import ClientGen.Proofs.Naming

/-!
# Converted names

Converting a name moves the borders of its words, but keeps its letters and digits in their order:
the words of a text hold them and nothing else (`flatten_words`).  A text without other characters
is capitalised by PascalCase and left alone otherwise (`lettersFrom_of_isAlphanum`), so a name in
PascalCase stays as it is, and camelCase only takes the first capital away.  Words that stand
between hyphens are read again (`wordsFrom_intercalate`), so a name in kebab-case keeps its words.
Together (`convertsStably`), every conversion leaves its own results as they are, and no letter or
digit is lost or added.
-/

namespace ClientGen.Naming

/-- The letters and digits of ASCII in a text, in their order, the letters made small. -/
def smallLetters (text : String) : List Char :=
  (text.toList.filter Char.isAlphanum).map Char.toLower

/-! ### The letters of words -/

theorem flatten_wordsFrom (current cs : List Char) :
    (wordsFrom current cs).flatten = current.reverse ++ cs.filter Char.isAlphanum := by
  induction cs generalizing current with
  | nil => cases current <;> simp [wordsFrom]
  | cons c rest ih =>
    rw [wordsFrom]
    by_cases hc : c.isAlphanum = true
    · rw [if_pos hc, List.filter_cons_of_pos hc]
      by_cases hborder : (c.isUpper && current.head?.any endsWord) = true
      · rw [if_pos hborder, List.flatten_cons, ih]
        rfl
      · rw [if_neg hborder, ih, List.reverse_cons, List.append_assoc]
        rfl
    · rw [if_neg hc, List.filter_cons_of_neg hc]
      by_cases hempty : current.isEmpty = true
      · rw [if_pos hempty, ih, List.isEmpty_iff.mp hempty]
      · rw [if_neg hempty, List.flatten_cons, ih]
        rfl

/-- **The words of a text hold its letters and digits**, in their order. -/
theorem flatten_words (text : String) :
    (words text).flatten = text.toList.filter Char.isAlphanum :=
  flatten_wordsFrom [] text.toList

/-- The letters and digits of the words, made small. -/
theorem flatten_map_words (text : String) :
    ((words text).map (List.map Char.toLower)).flatten = smallLetters text := by
  rw [← List.map_flatten, flatten_words, smallLetters]

/-! ### PascalCase and camelCase -/

theorem capitalize_capitalize (cs : List Char) : capitalize (capitalize cs) = capitalize cs := by
  cases cs with
  | nil => rfl
  | cons c rest => rw [capitalize, capitalize, Char.toUpper_toUpper_eq_toUpper]

theorem capitalize_decapitalize (cs : List Char) :
    capitalize (decapitalize cs) = capitalize cs := by
  cases cs with
  | nil => rfl
  | cons c rest => rw [decapitalize, capitalize, capitalize, Char.toUpper_toLower_eq_toUpper]

/-- Of letters and digits alone, PascalCase changes at most the first. -/
theorem lettersFrom_of_isAlphanum {cs : List Char} (h : ∀ c ∈ cs, c.isAlphanum = true) :
    lettersFrom false cs = capitalize cs := by
  have hinside : ∀ cs : List Char, (∀ c ∈ cs, c.isAlphanum = true) → lettersFrom true cs = cs := by
    intro cs h
    induction cs with
    | nil => rfl
    | cons c rest ih =>
      obtain ⟨hc, hrest⟩ := List.forall_mem_cons.mp h
      rw [lettersFrom, if_pos hc, if_pos rfl, ih hrest]
  cases cs with
  | nil => rfl
  | cons c rest =>
    obtain ⟨hc, hrest⟩ := List.forall_mem_cons.mp h
    rw [lettersFrom, if_pos hc, if_neg Bool.false_ne_true, hinside rest hrest, capitalize]

/-- A name in PascalCase begins with a capital or a digit. -/
theorem capitalize_lettersFrom (cs : List Char) :
    capitalize (lettersFrom false cs) = lettersFrom false cs := by
  induction cs with
  | nil => rfl
  | cons c rest ih =>
    rw [lettersFrom]
    split
    · exact capitalize_capitalize (c :: _)
    · exact ih

theorem toList_camel (text : String) :
    (camel text).toList = decapitalize (lettersFrom false text.toList) := by
  rw [camel, String.toList_ofList, toList_pascal]

/-- **PascalCase leaves its own names as they are.** -/
theorem pascal_pascal (text : String) : pascal (pascal text) = pascal text := by
  rw [← String.toList_inj, toList_pascal,
    lettersFrom_of_isAlphanum fun _ => isAlphanum_of_mem_pascal, toList_pascal,
    capitalize_lettersFrom]

/-- **A name in camelCase has the PascalCase of the text.** -/
theorem pascal_camel (text : String) : pascal (camel text) = pascal text := by
  rw [← String.toList_inj, toList_pascal,
    lettersFrom_of_isAlphanum fun _ => isAlphanum_of_mem_camel, toList_camel,
    capitalize_decapitalize, capitalize_lettersFrom, toList_pascal]

theorem camel_camel (text : String) : camel (camel text) = camel text := by
  rw [camel, pascal_camel]
  rfl

theorem map_toLower_pascal (text : String) :
    (pascal text).toList.map Char.toLower = smallLetters text := by
  have hwords : ∀ word : List Char,
      (capitalize word).map Char.toLower = word.map Char.toLower := map_toLower_capitalize
  rw [pascal, String.toList_ofList, List.map_flatMap, ← flatten_map_words, List.flatMap_def]
  simp only [hwords]

/-! ### kebab-case -/

/-- A word stays one when it is made small. -/
theorem IsWord.map_toLower {word : List Char} (h : IsWord word) :
    IsWord (word.map Char.toLower) := by
  refine ⟨List.map_eq_nil_iff.not.mpr h.ne_nil, ?_, ?_⟩
  · exact List.forall_mem_map.mpr fun c hc => isAlphanum_toLower (h.isAlphanum c hc)
  · refine List.isChain_map _ |>.mpr (h.whole.imp fun a b _ => ?_)
    rw [Char.isUpper_toLower_eq_false, Bool.false_and]

/-- **Words between hyphens are read again.** -/
theorem wordsFrom_intercalate {words : List (List Char)} (h : ∀ word ∈ words, IsWord word) :
    wordsFrom [] (['-'].intercalate words) = words := by
  induction words with
  | nil => rfl
  | cons first rest ih =>
    obtain ⟨hfirst, hrest⟩ := List.forall_mem_cons.mp h
    have hempty : first.reverse.isEmpty = false := by simpa using hfirst.ne_nil
    cases rest with
    | nil =>
      have hread := wordsFrom_word hfirst []
      rw [List.append_nil, wordsFrom, hempty, List.reverse_reverse] at hread
      rw [List.intercalate_singleton, hread]
      rfl
    | cons second rest =>
      rw [List.intercalate_cons_cons, List.append_assoc, wordsFrom_word hfirst,
        List.singleton_append, wordsFrom, if_neg (by decide), hempty, List.reverse_reverse,
        ih hrest]
      rfl

/-- A name in kebab-case has the words of the text, made small. -/
theorem words_kebab (text : String) :
    words (kebab text) = (words text).map (List.map Char.toLower) := by
  rw [words, toList_kebab]
  exact wordsFrom_intercalate
    (List.forall_mem_map.mpr fun word hword => (isWord_of_mem_words hword).map_toLower)

/-- **kebab-case leaves its own names as they are.** -/
theorem kebab_kebab (text : String) : kebab (kebab text) = kebab text := by
  have hsmall : (List.map Char.toLower ∘ List.map Char.toLower) = List.map Char.toLower := by
    funext word
    rw [Function.comp, List.map_map]
    exact List.map_congr_left fun c _ => Char.toLower_toLower_eq_toLower c
  rw [← String.toList_inj, toList_kebab, words_kebab, List.map_map, hsmall, toList_kebab]

theorem filter_intercalate_hyphen {parts : List (List Char)}
    (h : ∀ part ∈ parts, ∀ c ∈ part, c ≠ '-') :
    (['-'].intercalate parts).filter (· ≠ '-') = parts.flatten := by
  induction parts with
  | nil => rfl
  | cons first rest ih =>
    obtain ⟨hfirst, hrest⟩ := List.forall_mem_cons.mp h
    have hkept : first.filter (· ≠ '-') = first :=
      List.filter_eq_self.mpr fun c hc => decide_eq_true (hfirst c hc)
    by_cases hlast : rest = []
    · rw [hlast, List.intercalate_singleton, hkept, List.flatten_singleton]
    · rw [List.intercalate_cons_of_ne_nil hlast, List.filter_append, List.filter_append, hkept,
        ih hrest, List.append_assoc]
      rfl

/-- Without its hyphens, a name in kebab-case is the letters and digits of the text. -/
theorem filter_kebab (text : String) :
    (kebab text).toList.filter (· ≠ '-') = smallLetters text := by
  rw [toList_kebab, filter_intercalate_hyphen, flatten_map_words]
  refine List.forall_mem_map.mpr fun word hword => List.forall_mem_map.mpr fun c hc => ?_
  have hsmall := endsWord_toLower ((isWord_of_mem_words hword).isAlphanum c hc)
  intro hhyphen
  rw [hhyphen] at hsmall
  cases hsmall

/-- Where two names have the same kebab-case form, they have the same letters and digits. -/
theorem smallLetters_eq_of_kebab_eq {text other : String} (h : kebab text = kebab other) :
    smallLetters text = smallLetters other := by
  rw [← filter_kebab, h, filter_kebab]

/-! ### All conversions -/

/-- The conversions of a text lose nothing and leave their own results as they are. -/
structure ConvertsStably (text : String) : Prop where
  pascal_pascal : pascal (pascal text) = pascal text
  camel_camel : camel (camel text) = camel text
  kebab_kebab : kebab (kebab text) = kebab text
  pascal_camel : pascal (camel text) = pascal text
  /-- PascalCase holds letters and digits of ASCII only. -/
  isAlphanum_pascal : ∀ c ∈ (pascal text).toList, c.isAlphanum = true
  /-- They are those of the text in order, the case of letters aside. -/
  letters_pascal : (pascal text).toList.map Char.toLower = smallLetters text
  /-- kebab-case is made of words of small letters and digits with a hyphen between neighbours;
  without any word it is empty. -/
  words_kebab : ∃ parts : List String, kebab text = String.intercalate "-" parts ∧
    ∀ part ∈ parts, part ≠ "" ∧ ∀ c ∈ part.toList, endsWord c = true
  /-- Without the hyphens, these are the letters and digits of the text, made small. -/
  letters_kebab : (kebab text).toList.filter (· ≠ '-') = smallLetters text

/-- **Conversions of names are stable and lose nothing.** -/
theorem convertsStably (text : String) : ConvertsStably text where
  pascal_pascal := pascal_pascal text
  camel_camel := camel_camel text
  kebab_kebab := kebab_kebab text
  pascal_camel := pascal_camel text
  isAlphanum_pascal _ := isAlphanum_of_mem_pascal
  letters_pascal := map_toLower_pascal text
  words_kebab := by
    refine ⟨(words text).map fun word => String.ofList (word.map Char.toLower), rfl, ?_⟩
    refine List.forall_mem_map.mpr fun word hword => ?_
    have hisWord := isWord_of_mem_words hword
    refine ⟨fun hempty => hisWord.ne_nil ?_, ?_⟩
    · rw [← String.toList_inj, String.toList_ofList] at hempty
      exact List.map_eq_nil_iff.mp hempty
    · rw [String.toList_ofList]
      exact List.forall_mem_map.mpr fun c hc => endsWord_toLower (hisWord.isAlphanum c hc)
  letters_kebab := filter_kebab text

end ClientGen.Naming
