import ClientGen.Document
import ClientGen.Literal
import ClientGen.Proofs.Decimal.Numeral
import ClientGen.Proofs.Entries
import ClientGen.Value.LongInteger

/-!
# Written JSON is read back

A value that JSON can say without floats (`Json.IsPlain`) is read back from what is written of it,
whatever follows that no number goes on with (`Json.isReadBack`): texts by undoing one escape after
the other, integers up to their last digit, collections item by item, with no more steps than there
are characters.  So the literal of such a value is the text of a document with that value
(`Literal.keepsValues`), from which nothing of the value is lost, not even the order of its names.
The literal of a text moreover stands between quotes of its own: inside, every quote and every
backslash belongs to an escape, and there is no control character.
-/

namespace ClientGen

open Numeral (maxDigits)

namespace Json

/-! ### What begins a value -/

theorem Kind.leads_cases {c : Char} (h : (Kind.ledBy? c).isSome = true) :
    c ∈ ['n', 't', 'f', '"', '[', '{', '-'] ∨ c.isDigit = true := by
  unfold Kind.ledBy? at h
  split_ifs at h with hnull hbool hquote hbracket hbrace hint
  · simp [hnull]
  · rcases hbool with rfl | rfl <;> simp
  · simp [hquote]
  · simp [hbracket]
  · simp [hbrace]
  · exact hint.imp (fun hminus => by simp [hminus]) id
  · cases h

/-- No blank begins a value. -/
theorem isBlank_of_ledBy? {c : Char} (h : (Kind.ledBy? c).isSome = true) :
    Text.isBlank c = false := by
  rcases Kind.leads_cases h with hlead | hdigit
  · have hleads : ['n', 't', 'f', '"', '[', '{', '-'].all (!Text.isBlank ·) = true := by decide
    simpa using List.all_eq_true.mp hleads c hlead
  · obtain ⟨hleast, hmost⟩ := Char.isDigit_iff_toNat.mp hdigit
    have h0 : '0'.toNat = 48 := rfl
    have h9 : '9'.toNat = 57 := rfl
    simp only [Text.isBlank, Text.blankRanges, List.any_cons, List.any_nil, Bool.or_eq_false_iff,
      Bool.and_eq_false_iff, decide_eq_false_iff_not, and_true]
    refine ⟨?_, ?_, ?_⟩ <;> omega

theorem isBlank_of_isSpace {c : Char} (h : isSpace c = true) : Text.isBlank c = true := by
  simp only [isSpace, Bool.or_eq_true, beq_iff_eq] at h
  rcases h with ((rfl | rfl) | rfl) | rfl <;> rfl

/-- The first character of a written value leads one. -/
theorem exists_chars_eq_lead {value : Value} (h : IsFloatFree value) :
    ∃ c cs, chars .unicode value = c :: cs ∧ (Kind.ledBy? c).isSome = true := by
  obtain ⟨c, cs, hcs, hkind, hsome⟩ := exists_chars_eq_cons h
  exact ⟨c, cs, hcs, hkind ▸ hsome⟩

/-- No space stands in front of what begins a value. -/
theorem skipSpace_of_ledBy? {c : Char} (h : (Kind.ledBy? c).isSome = true) (cs : List Char) :
    skipSpace (c :: cs) = c :: cs := by
  have hspace : isSpace c = false := by
    rw [Bool.eq_false_iff]
    intro hspace
    have hblank := isBlank_of_isSpace hspace
    rw [isBlank_of_ledBy? h] at hblank
    cases hblank
  exact dropWhile_eq_self_of_stops (stops_cons hspace)

/-! ### Integers -/

/-- The characters that a number may go on with. -/
def continuesNumber (c : Char) : Bool :=
  c.isDigit || c == '.' || c == 'e' || c == 'E'

theorem digitsValue_toDigits (n : Nat) : digitsValue (Nat.toDigits 10 n) = n := by
  refine Eq.trans ?_ (Nat.ofDigitChars_toDigits (n := n) (by decide : 1 < 10) (Nat.le_refl 10))
  rw [digitsValue, Nat.ofDigitChars]
  refine List.foldl_ext _ _ _ fun m c _ => ?_
  rw [Nat.mul_comm]
  rfl

/-- Only zero is written with a zero in front. -/
theorem head?_toDigits {n : Nat} (h : n ≠ 0) : (Nat.toDigits 10 n).head? ≠ some '0' := by
  induction n using Nat.strong_induction_on with
  | _ n ih =>
    by_cases hsmall : n < 10
    · rw [Nat.toDigits_of_lt_base hsmall]
      have hdigits : ∀ n < 10, n ≠ 0 → [n.digitChar].head? ≠ some '0' := by decide
      exact hdigits n hsmall h
    · rw [Nat.toDigits_of_base_le (by decide) (by omega),
        List.head?_append_of_ne_nil _ Nat.toDigits_ne_nil]
      exact ih (n / 10) (by omega) (by omega)

/-- A number that is read goes on to its last digit. -/
theorem readNumber_digits (negative : Bool) (left : Nat) {digits rest : List Char}
    (hne : digits ≠ []) (hdigits : ∀ c ∈ digits, c.isDigit = true)
    (hzero : digits.head? = some '0' → digits = ['0']) (hrest : Stops continuesNumber rest) :
    readNumber negative left (digits ++ rest) = (integer negative digits left).map (·, rest) := by
  have hdigit : Stops Char.isDigit rest := by
    intro c hc
    have hnone := hrest c hc
    simp only [continuesNumber, Bool.or_eq_false_iff] at hnone
    exact hnone.1.1.1
  have hfraction : readFraction rest = none := by
    unfold readFraction
    split
    · exact absurd (hrest '.' rfl) (by decide)
    · rfl
  have hexponent : readExponent rest = none := by
    unfold readExponent
    split
    · rename_i e more
      rw [if_neg]
      rintro (rfl | rfl)
      · exact absurd (hrest 'e' rfl) (by decide)
      · exact absurd (hrest 'E' rfl) (by decide)
    · rfl
  unfold readNumber
  extract_lets run after
  have hrun : run = digits := by
    unfold run
    split
    · rename_i more heq
      refine (hzero ?_).symm
      rw [← List.head?_append_of_ne_nil _ hne, heq]
      rfl
    · rw [takeWhile_append_of_stops hdigit]
      exact List.takeWhile_eq_self_iff.mpr hdigits
  have hafter : after = rest := by
    unfold after
    rw [hrun, List.drop_left]
  rw [hrun, hafter, if_neg (by simpa using hne), hfraction]
  simp only [Option.getD_none, hexponent]

/-- The digits of a natural number are read back, with a sign or without. -/
theorem readNumber_toDigits (negative : Bool) (left : Nat) {n : Nat} {rest : List Char}
    (hlength : (Nat.toDigits 10 n).length ≤ maxDigits) (hrest : Stops continuesNumber rest) :
    readNumber negative left (Nat.toDigits 10 n ++ rest) =
      .ok (.int (if negative then -(n : Int) else n), rest) := by
  have hzero : (Nat.toDigits 10 n).head? = some '0' → Nat.toDigits 10 n = ['0'] := by
    intro hhead
    by_cases hn : n = 0
    · rw [hn]
      rfl
    · exact absurd hhead (head?_toDigits hn)
  have hshort : ¬4300 < (Nat.toDigits 10 n).length := Nat.not_lt.mpr hlength
  rw [readNumber_digits negative left Nat.toDigits_ne_nil (fun _ => isDigit_of_mem_toDigits) hzero
    hrest, integer, if_neg hshort, digitsValue_toDigits]
  rfl

/-- The words that are values. -/
def scalarWords : List String :=
  ["null", "true", "false", "NaN", "Infinity", "-Infinity"]

/-- What begins with none of the words is read as a number. -/
theorem readScalar_of_noWord (cs : List Char) : (∀ word ∈ scalarWords, ¬word.toList <+: cs) →
    readScalar cs = match cs with
      | '-' :: rest => readNumber true cs.length rest
      | cs => readNumber false cs.length cs := by
  intro h
  have hnone : ∀ word ∈ scalarWords, ∀ value, readWord word value cs = none :=
    fun word hword value => if_neg fun hstarts =>
      h word hword (List.isPrefixOf_iff_prefix.mp hstarts)
  unfold readScalar
  dsimp only
  rewrite [List.findSome?_eq_none_iff.mpr]
  · rfl
  · intro entry hentry
    have hword : entry.1 ∈ scalarWords := List.mem_map_of_mem (f := Prod.fst) hentry
    exact hnone entry.1 hword entry.2

/-- No word begins with a digit, nor with a minus and a digit. -/
theorem not_prefix_of_mem_scalarWords {c : Char} (h : c.isDigit = true) (cs : List Char) :
    ∀ word ∈ scalarWords, ¬word.toList <+: c :: cs ∧ ¬word.toList <+: '-' :: c :: cs := by
  have hne : ∀ first : Char, first.isDigit = false → first ≠ c := by
    rintro first hfirst rfl
    rw [hfirst] at h
    cases h
  have hparts : ∀ {word : String} {first d : Char} {more rest : List Char},
      word.toList = first :: more → first ≠ d → ¬word.toList <+: d :: rest := by
    intro word first d more rest hword hfirst hstarts
    rw [hword, List.cons_prefix_cons] at hstarts
    exact hfirst hstarts.1
  simp only [scalarWords, List.forall_mem_cons]
  refine ⟨⟨hparts rfl (hne 'n' rfl), hparts rfl (by decide)⟩,
    ⟨hparts rfl (hne 't' rfl), hparts rfl (by decide)⟩,
    ⟨hparts rfl (hne 'f' rfl), hparts rfl (by decide)⟩,
    ⟨hparts rfl (hne 'N' rfl), hparts rfl (by decide)⟩,
    ⟨hparts rfl (hne 'I' rfl), hparts rfl (by decide)⟩,
    ⟨hparts rfl (hne '-' rfl), fun hstarts => ?_⟩, by simp⟩
  exact hne 'I' rfl (List.cons_prefix_cons.mp (List.cons_prefix_cons.mp hstarts).2).1

/-- What begins with a digit is read as a number. -/
theorem readScalar_digit {c : Char} (h : c.isDigit = true) (cs : List Char) :
    readScalar (c :: cs) = readNumber false (c :: cs).length (c :: cs) := by
  rw [readScalar_of_noWord _ fun word hword => (not_prefix_of_mem_scalarWords h cs word hword).1]
  split
  · rename_i heq
    rw [(List.cons.inj heq).1] at h
    cases h
  · rfl

/-- What begins with a minus and a digit is read as a negative number. -/
theorem readScalar_minus {c : Char} (h : c.isDigit = true) (cs : List Char) :
    readScalar ('-' :: c :: cs) = readNumber true ('-' :: c :: cs).length (c :: cs) :=
  readScalar_of_noWord _ fun word hword => (not_prefix_of_mem_scalarWords h cs word hword).2

/-! ### Values -/

/-- A value that is read back when it is written: one of JSON without floats, whose integers have no
more than 4300 digits and whose objects have distinct names. -/
inductive IsPlain : Value → Prop where
  | null : IsPlain .null
  | bool (b : Bool) : IsPlain (.bool b)
  | int {n : Int} (h : (Nat.toDigits 10 n.natAbs).length ≤ maxDigits) : IsPlain (.int n)
  | str (s : String) : IsPlain (.str s)
  | list {items : List Value} (h : ∀ item ∈ items, IsPlain item) : IsPlain (.list items)
  | object {fields : List (String × Value)} (hnames : (Entries.keys fields).Nodup)
    (h : ∀ field ∈ fields, IsPlain field.2) : IsPlain (.object fields)

theorem IsPlain.isFloatFree {value : Value} (h : IsPlain value) : IsFloatFree value := by
  induction h with
  | null => exact .null
  | bool b => exact .bool b
  | int _ => exact .int _
  | str s => exact .str s
  | list _ ih => exact .list ih
  | object _ _ ih => exact .object ih

/-- What is written of a value is read back in as many steps as it has characters, whatever follows
that no number goes on with. -/
def IsReadBack (value : Value) : Prop :=
  ∀ (fuel : Nat) (rest : List Char), (chars .unicode value).length ≤ fuel →
    Stops continuesNumber rest →
      readValue fuel (chars .unicode value ++ rest) = .ok (value, rest)

/-- As something is always written, readings of one step at least are enough. -/
theorem isReadBack_of_succ {value : Value} (hfree : IsFloatFree value)
    (h : ∀ (fuel : Nat) (rest : List Char), (chars .unicode value).length ≤ fuel + 1 →
      Stops continuesNumber rest →
        readValue (fuel + 1) (chars .unicode value ++ rest) = .ok (value, rest)) :
    IsReadBack value := by
  intro fuel rest hfuel hrest
  cases fuel with
  | zero =>
    obtain ⟨c, cs, hcs, -⟩ := exists_chars_eq_lead hfree
    rw [hcs] at hfuel
    cases hfuel
  | succ fuel => exact h fuel rest hfuel hrest

/-- Neither a text nor a collection: what begins otherwise is read as a scalar. -/
theorem readValue_scalar (fuel : Nat) {c : Char} (cs : List Char) (hquote : c ≠ '"')
    (hbracket : c ≠ '[') (hbrace : c ≠ '{') :
    readValue (fuel + 1) (c :: cs) = readScalar (c :: cs) := by
  rw [readValue]
  · exact fun _ heq => hquote (List.cons.inj heq).1
  · exact fun _ heq => hbracket (List.cons.inj heq).1
  · exact fun _ heq => hbrace (List.cons.inj heq).1

theorem isReadBack_int {n : Int} (h : (Nat.toDigits 10 n.natAbs).length ≤ maxDigits) :
    IsReadBack (.int n) := by
  refine isReadBack_of_succ (.int n) fun fuel rest _ hrest => ?_
  obtain ⟨c, cs, hdigits⟩ :=
    List.exists_cons_of_ne_nil (Nat.toDigits_ne_nil (n := n.natAbs) (b := 10))
  have hc : c.isDigit = true := isDigit_of_mem_toDigits (hdigits ▸ List.mem_cons_self)
  have hne : ∀ d : Char, d.isDigit = false → c ≠ d := by
    rintro d hd rfl
    rw [hd] at hc
    cases hc
  rw [chars]
  cases n with
  | ofNat n =>
    rw [toList_toString_ofNat]
    change (Nat.toDigits 10 n).length ≤ maxDigits at h
    change Nat.toDigits 10 n = c :: cs at hdigits
    have hnumber := readNumber_toDigits false (c :: cs ++ rest).length h hrest
    rw [hdigits] at hnumber ⊢
    rw [List.cons_append, readValue_scalar fuel _ (hne '"' rfl) (hne '[' rfl) (hne '{' rfl),
      readScalar_digit hc]
    exact hnumber
  | negSucc n =>
    rw [toList_toString_negSucc]
    change (Nat.toDigits 10 (n + 1)).length ≤ maxDigits at h
    change Nat.toDigits 10 (n + 1) = c :: cs at hdigits
    have hnumber := readNumber_toDigits true ('-' :: c :: cs ++ rest).length h hrest
    rw [hdigits] at hnumber ⊢
    rw [List.cons_append, List.cons_append,
      readValue_scalar fuel _ (by decide) (by decide) (by decide), readScalar_minus hc]
    exact hnumber

theorem isReadBack_null : IsReadBack .null :=
  isReadBack_of_succ .null fun _ _ _ _ => rfl

theorem isReadBack_bool (b : Bool) : IsReadBack (.bool b) :=
  isReadBack_of_succ (.bool b) fun _ _ _ _ => by cases b <;> rfl

theorem isReadBack_str (s : String) : IsReadBack (.str s) := by
  refine isReadBack_of_succ (.str s) fun fuel rest _ _ => ?_
  simp only [chars, stringChars, List.cons_append, List.append_assoc, List.nil_append]
  rw [readValue, readString_escaped]
  exact congrArg (fun t => Except.ok (Value.str t, rest)) String.ofList_toList

/-! ### Collections -/

section Separated

variable {α : Type} {write : α → List Char} {first : α}

theorem separated_cons_cons (separator part next : List Char) (parts : List (List Char)) :
    separated separator (part :: next :: parts) =
      part ++ (separator ++ separated separator (next :: parts)) := by
  rw [separated, List.append_assoc]
  intro h
  cases h

/-- Items that are written one after the other begin like the first of them. -/
theorem exists_separated_eq_lead (items : List α) (rest : List Char)
    (h : ∃ c cs, write first = c :: cs ∧ (Kind.ledBy? c).isSome = true) :
    ∃ c cs, separated [',', ' '] ((first :: items).map write) ++ rest = c :: cs ∧
      (Kind.ledBy? c).isSome = true := by
  obtain ⟨c, cs, hwrite, hlead⟩ := h
  rw [List.map_cons, separated_cons, hwrite]
  exact ⟨c, _, rfl, hlead⟩

theorem skipSpace_separated (items : List α) (rest : List Char)
    (h : ∃ c cs, write first = c :: cs ∧ (Kind.ledBy? c).isSome = true) :
    skipSpace (separated [',', ' '] ((first :: items).map write) ++ rest) =
      separated [',', ' '] ((first :: items).map write) ++ rest := by
  obtain ⟨c, cs, heq, hlead⟩ := exists_separated_eq_lead items rest h
  rw [heq, skipSpace_of_ledBy? hlead]

end Separated

/-- The items of a list are read back up to its end. -/
theorem readItems_separated {first : Value} {items : List Value}
    (h : ∀ item ∈ first :: items, IsFloatFree item ∧ IsReadBack item) (fuel : Nat)
    (rest : List Char)
    (hfuel : (separated [',', ' '] ((first :: items).map (chars .unicode))).length < fuel) :
    readItems fuel
        (separated [',', ' '] ((first :: items).map (chars .unicode)) ++ ']' :: rest) =
      .ok (first :: items, rest) := by
  induction items generalizing first fuel with
  | nil =>
    cases fuel with
    | zero => cases hfuel
    | succ fuel =>
      have hfirst := (h first List.mem_cons_self).2 fuel (']' :: rest) (Nat.le_of_lt_succ hfuel)
        (stops_cons rfl)
      simp only [List.map_cons, List.map_nil, separated]
      rw [readItems, hfirst]
      rfl
  | cons second items ih =>
    cases fuel with
    | zero => cases hfuel
    | succ fuel =>
      rw [List.forall_mem_cons] at h
      rw [List.map_cons, List.map_cons, separated_cons_cons, ← List.map_cons] at hfuel ⊢
      simp only [List.length_append, List.length_cons, List.length_nil] at hfuel
      simp only [List.append_assoc, List.cons_append, List.nil_append]
      -- A comma follows the first item, and a blank that is skipped.
      rw [readItems, h.1.2 fuel _ (by omega) (stops_cons rfl)]
      change (readItems fuel (skipSpace (separated _ _ ++ _))).map _ = _
      rw [skipSpace_separated items _ (exists_chars_eq_lead (h.2 second List.mem_cons_self).1),
        ih h.2 fuel (by omega)]
      rfl

/-- A field begins with its name. -/
theorem exists_oneField_eq_lead (field : String × Value) :
    ∃ c cs, oneField field = c :: cs ∧ (Kind.ledBy? c).isSome = true :=
  ⟨'"', _, rfl, rfl⟩

/-- A field is read back, and then what follows it. -/
theorem readFields_oneField {field : String × Value} (h : IsFloatFree field.2)
    (hread : IsReadBack field.2) (fuel : Nat) (rest : List Char)
    (hfuel : (oneField field).length ≤ fuel + 1) (hrest : Stops continuesNumber rest) :
    readFields (fuel + 1) (oneField field ++ rest) =
      match skipSpace rest with
      | '}' :: rest => .ok ([field], rest)
      | ',' :: rest => (readFields fuel (skipSpace rest)).map fun (fields, rest) =>
          (field :: fields, rest)
      | rest => .error ⟨.comma, rest.length⟩ := by
  obtain ⟨name, value⟩ := field
  change IsFloatFree value at h
  change IsReadBack value at hread
  simp only [oneField, stringChars, List.length_append, List.length_cons, List.length_nil] at hfuel
  obtain ⟨c, cs, hcs, hlead⟩ := exists_chars_eq_lead h
  have hskip : skipSpace (' ' :: (chars .unicode value ++ rest)) =
      chars .unicode value ++ rest := by
    rw [hcs]
    exact skipSpace_of_ledBy? hlead (cs ++ rest)
  have hcolon : ∀ cs, skipSpace (':' :: cs) = ':' :: cs := fun _ => rfl
  have hvalue := hread fuel rest (by omega) hrest
  simp only [oneField, stringChars, List.cons_append, List.append_assoc, List.nil_append]
  rw [readFields, readString_escaped]
  simp only [hcolon, hskip, hvalue]
  rewrite [String.ofList_toList]
  rfl

/-- The fields of an object are read back up to its end. -/
theorem readFields_separated {first : String × Value} {fields : List (String × Value)}
    (h : ∀ field ∈ first :: fields, IsFloatFree field.2 ∧ IsReadBack field.2) (fuel : Nat)
    (rest : List Char)
    (hfuel : (separated [',', ' '] ((first :: fields).map oneField)).length < fuel) :
    readFields fuel (separated [',', ' '] ((first :: fields).map oneField) ++ '}' :: rest) =
      .ok (first :: fields, rest) := by
  induction fields generalizing first fuel with
  | nil =>
    cases fuel with
    | zero => cases hfuel
    | succ fuel =>
      have hfirst := h first List.mem_cons_self
      simp only [List.map_cons, List.map_nil, separated] at hfuel ⊢
      rw [readFields_oneField hfirst.1 hfirst.2 fuel _ hfuel.le (stops_cons rfl)]
      rfl
  | cons second fields ih =>
    cases fuel with
    | zero => cases hfuel
    | succ fuel =>
      rw [List.forall_mem_cons] at h
      rw [List.map_cons, List.map_cons, separated_cons_cons, ← List.map_cons] at hfuel ⊢
      simp only [List.length_append, List.length_cons, List.length_nil] at hfuel
      simp only [List.append_assoc, List.cons_append, List.nil_append]
      rw [readFields_oneField h.1.1 h.1.2 fuel _ (by omega) (stops_cons rfl)]
      change (readFields fuel (skipSpace (separated _ _ ++ _))).map _ = _
      rw [skipSpace_separated fields _ (exists_oneField_eq_lead second), ih h.2 fuel (by omega)]
      rfl

theorem isReadBack_list {items : List Value}
    (h : ∀ item ∈ items, IsFloatFree item ∧ IsReadBack item) : IsReadBack (.list items) := by
  refine isReadBack_of_succ (.list fun item hitem => (h item hitem).1) fun fuel rest hfuel _ => ?_
  rw [chars, itemChars_eq_map] at hfuel ⊢
  cases items with
  | nil => rfl
  | cons first items =>
    simp only [List.length_append, List.length_cons, List.length_nil] at hfuel
    simp only [List.cons_append, List.append_assoc, List.nil_append]
    have hread := readItems_separated h fuel rest (by omega)
    obtain ⟨c, cs, heq, hlead⟩ := exists_separated_eq_lead items (']' :: rest)
      (exists_chars_eq_lead (h first List.mem_cons_self).1)
    rw [heq] at hread ⊢
    rw [readValue, skipSpace_of_ledBy? hlead]
    split
    · rename_i hclosed
      rw [(List.cons.inj hclosed).1] at hlead
      cases hlead
    · rw [hread]
      rfl

theorem isReadBack_object {fields : List (String × Value)} (hnames : (Entries.keys fields).Nodup)
    (h : ∀ field ∈ fields, IsFloatFree field.2 ∧ IsReadBack field.2) :
    IsReadBack (.object fields) := by
  refine isReadBack_of_succ (.object fun field hfield => (h field hfield).1) fun fuel rest hfuel _ => ?_
  rw [chars, fieldChars_eq_map] at hfuel ⊢
  cases fields with
  | nil => rfl
  | cons first fields =>
    simp only [List.length_append, List.length_cons, List.length_nil] at hfuel
    simp only [List.cons_append, List.append_assoc, List.nil_append]
    have hread := readFields_separated h fuel rest (by omega)
    obtain ⟨c, cs, heq, hlead⟩ := exists_separated_eq_lead fields ('}' :: rest)
      (exists_oneField_eq_lead first)
    rw [heq] at hread ⊢
    rw [readValue, skipSpace_of_ledBy? hlead]
    split
    · rename_i hclosed
      rw [(List.cons.inj hclosed).1] at hlead
      cases hlead
    · rw [hread]
      -- No name is repeated, so each field keeps its place.
      exact congrArg (fun fields => Except.ok (Value.object fields, rest))
        (Entries.ofList_eq_self hnames)

/-- **A written value is read back**, and what follows it is left. -/
theorem isReadBack {value : Value} (h : IsPlain value) : IsReadBack value := by
  induction h with
  | null => exact isReadBack_null
  | bool b => exact isReadBack_bool b
  | int hlength => exact isReadBack_int hlength
  | str s => exact isReadBack_str s
  | list hitems ih =>
    exact isReadBack_list fun item hitem => ⟨(hitems item hitem).isFloatFree, ih item hitem⟩
  | object hnames hfields ih =>
    exact isReadBack_object hnames fun field hfield =>
      ⟨(hfields field hfield).isFloatFree, ih field hfield⟩

/-! ### Documents -/

/-- **A written value is the text of a document** with that value. -/
theorem readChars_chars {value : Value} (h : IsPlain value) :
    readChars (chars .unicode value) = .ok value := by
  obtain ⟨c, cs, hcs, hlead⟩ := exists_chars_eq_lead h.isFloatFree
  have hmark : (chars .unicode value).head? ≠ some (Char.ofNat 0xfeff) := by
    rw [hcs]
    rintro heq
    rw [Option.some.inj heq] at hlead
    cases hlead
  have hskip : skipSpace (chars .unicode value) = chars .unicode value := by
    rw [hcs, skipSpace_of_ledBy? hlead]
  have hread := isReadBack h (2 * (chars .unicode value).length + 2) [] (by omega)
    (stops_nil continuesNumber)
  rw [List.append_nil] at hread
  rw [readChars, if_neg hmark, hskip, hread]
  rfl

/-! ### The inside of a text -/

/-- The inside of a text in quotes: no quote and no backslash but in an escape, and no control. -/
inductive IsEscaped : List Char → Prop where
  | nil : IsEscaped []
  | plain {c : Char} {cs : List Char} (hquote : c ≠ '"') (hbackslash : c ≠ '\\')
    (hcontrol : 0x20 ≤ c.toNat) (h : IsEscaped cs) : IsEscaped (c :: cs)
  | short {letter c : Char} {cs : List Char} (hletter : shortEscape? letter = some c)
    (h : IsEscaped cs) : IsEscaped ('\\' :: letter :: cs)
  | unit {digits cs : List Char} (hcount : digits.length = 4)
    (hdigits : ∀ digit ∈ digits, (Text.hexValue? digit).isSome = true) (h : IsEscaped cs) :
    IsEscaped ('\\' :: 'u' :: digits ++ cs)

theorem isSome_hexValue?_hex_control {n : Nat} (h : n < 0x20) :
    ∀ digit ∈ Text.hex 4 n, (Text.hexValue? digit).isSome = true := by
  have hdigits : ∀ n < 0x20, (Text.hex 4 n).all (Text.hexValue? · |>.isSome) = true := by
    decide
  exact List.all_eq_true.mp (hdigits n h)

theorem isEscaped_escape_append (c : Char) {cs : List Char} (h : IsEscaped cs) :
    IsEscaped (escape .unicode c ++ cs) := by
  unfold escape
  simp only []
  split_ifs with hquote hbackslash hfeed hreturn htab hback hform hcontrol
  · exact .short rfl h
  · exact .short rfl h
  · exact .short rfl h
  · exact .short rfl h
  · exact .short rfl h
  · exact .short rfl h
  · exact .short rfl h
  · exact .unit rfl (isSome_hexValue?_hex_control hcontrol) h
  · exact .plain hquote hbackslash (by omega) h

theorem isEscaped_flatMap_escape (cs : List Char) : IsEscaped (cs.flatMap (escape .unicode)) := by
  induction cs with
  | nil => exact .nil
  | cons c cs ih =>
    rw [List.flatMap_cons]
    exact isEscaped_escape_append c ih

/-- What is there for no control character is there for other characters only. -/
theorem le_toNat_of_isSome {α : Type} {f : Char → Option α}
    (hnone : ∀ n < 0x20, f (Char.ofNat n) = none) {c : Char} (h : (f c).isSome = true) :
    0x20 ≤ c.toNat := by
  by_contra hcontrol
  rw [← Char.ofNat_toNat c, hnone c.toNat (by omega)] at h
  cases h

theorem IsEscaped.le_toNat {cs : List Char} (h : IsEscaped cs) : ∀ c ∈ cs, 0x20 ≤ c.toNat := by
  have hbackslash : 0x20 ≤ '\\'.toNat := by decide
  have hu : 0x20 ≤ 'u'.toNat := by decide
  induction h with
  | nil => exact fun _ h => absurd h List.not_mem_nil
  | plain _ _ hcontrol _ ih => exact List.forall_mem_cons.mpr ⟨hcontrol, ih⟩
  | short hletter _ ih =>
    have hnone : ∀ n < 0x20, shortEscape? (Char.ofNat n) = none := by decide
    exact List.forall_mem_cons.mpr ⟨hbackslash,
      List.forall_mem_cons.mpr ⟨le_toNat_of_isSome hnone (by rw [hletter]; rfl), ih⟩⟩
  | unit _ hdigits _ ih =>
    have hnone : ∀ n < 0x20, Text.hexValue? (Char.ofNat n) = none := by decide
    refine List.forall_mem_append.mpr ⟨?_, ih⟩
    exact List.forall_mem_cons.mpr ⟨hbackslash, List.forall_mem_cons.mpr ⟨hu, fun digit hdigit =>
      le_toNat_of_isSome hnone (hdigits digit hdigit)⟩⟩

/-! ### Integers that can be written -/

open Value (hasLongInteger hasLongItem hasLongField)

theorem hasLongItem_eq_false {items : List Value}
    (h : ∀ item ∈ items, item.hasLongInteger = false) :
    hasLongItem items = false := by
  induction items with
  | nil => rfl
  | cons item items ih =>
    rw [List.forall_mem_cons] at h
    rw [hasLongItem, h.1, ih h.2]
    rfl

theorem hasLongField_eq_false {fields : List (String × Value)}
    (h : ∀ field ∈ fields, field.2.hasLongInteger = false) : hasLongField fields = false := by
  induction fields with
  | nil => rfl
  | cons field fields ih =>
    rw [List.forall_mem_cons] at h
    obtain ⟨name, value⟩ := field
    rw [hasLongField, h.1, ih h.2]
    rfl

theorem IsPlain.hasLongInteger_eq_false {value : Value} (h : IsPlain value) :
    value.hasLongInteger = false := by
  induction h with
  | null => rfl
  | bool _ => rfl
  | int hlength => exact (Numeral.isLong_eq_false_iff _).mpr hlength
  | str _ => rfl
  | list _ ih => exact hasLongItem_eq_false ih
  | object _ _ ih => exact hasLongField_eq_false ih

end Json

namespace Literal

open Json (IsPlain IsEscaped)

/-- What the literal of a value keeps of it. -/
structure IsKept (value : Value) : Prop where
  /-- The value can be written. -/
  written : value.hasLongInteger = false
  /-- The literal is a document of that value, with the names of objects in their order. -/
  readBack : parseContent .json (ofValue value) = .ok value
  /-- No other value has the same literal. -/
  unique : ∀ other, IsPlain other → ofValue other = ofValue value → other = value

/-- A text between quotes, with nothing inside that would end it early or break its line. -/
def IsQuoted (text : String) : Prop :=
  ∃ body, text.toList = '"' :: body ++ ['"'] ∧ IsEscaped body ∧ ∀ c ∈ text.toList, 0x20 ≤ c.toNat

theorem parseContent_ofValue {value : Value} (h : IsPlain value) :
    parseContent .json (ofValue value) = .ok value := by
  have hchars := toList_ofValue h.isFloatFree
  obtain ⟨c, cs, hcs, hlead⟩ := Json.exists_chars_eq_lead h.isFloatFree
  have hblank : Text.isAllBlank (ofValue value) = false := by
    rw [Text.isAllBlank, hchars, hcs, List.all_cons, Json.isBlank_of_ledBy? hlead, Bool.false_and]
  have hread : Json.read (ofValue value) = .ok value := by
    rw [Json.read, hchars, Json.readChars_chars h]
  rw [parseContent, hblank, if_neg Bool.false_ne_true]
  simp only [parseJson, hread]

theorem isKept {value : Value} (h : IsPlain value) : IsKept value where
  written := h.hasLongInteger_eq_false
  readBack := parseContent_ofValue h
  unique other hother heq := by
    have hread := parseContent_ofValue hother
    rw [heq, parseContent_ofValue h] at hread
    exact (Except.ok.inj hread).symm

theorem isQuoted_ofText (s : String) : IsQuoted (ofText s) := by
  have hchars : (ofText s).toList = '"' :: s.toList.flatMap (Json.escape .unicode) ++ ['"'] :=
    toList_ofValue (.str s)
  have hbody := Json.isEscaped_flatMap_escape s.toList
  have hquote : 0x20 ≤ '"'.toNat := by decide
  refine ⟨_, hchars, hbody, ?_⟩
  rw [hchars]
  exact List.forall_mem_append.mpr ⟨List.forall_mem_cons.mpr ⟨hquote, hbody.le_toNat⟩,
    List.forall_mem_singleton.mpr hquote⟩

/-- **Literals keep the values that they were made from**, and those of texts stand in quotes. -/
theorem keepsValues : (∀ value, IsPlain value → IsKept value) ∧ ∀ s, IsQuoted (ofText s) :=
  ⟨fun _ h => isKept h, isQuoted_ofText⟩

/-- A value with names and texts that have to be escaped, and with collections in collections. -/
def nestedValue : Value :=
  .object [("a \"quoted\" name", .list [.int (-12), .null, .list [], .object []]),
    ("", .str "one\ntwo\u2028\\three\x01"), ("ключ", .object [("x", .bool true)])]

theorem isPlain_nestedValue : IsPlain nestedValue := by
  refine .object (by decide) ?_
  simp only [List.forall_mem_cons, List.not_mem_nil, false_implies, implies_true, and_true]
  refine ⟨.list ?_, .str _, .object (by decide) ?_⟩
  · simp only [List.forall_mem_cons, List.not_mem_nil, false_implies, implies_true, and_true]
    exact ⟨.int (by decide), .null, .list (by simp), .object (by decide) (by simp)⟩
  · simp only [List.forall_mem_cons, List.not_mem_nil, false_implies, implies_true, and_true]
    exact .bool true

theorem isKept_nestedValue :
    IsPlain nestedValue ∧ IsKept nestedValue ∧ IsQuoted (ofText "one\ntwo\u2028\\three\x01") :=
  ⟨isPlain_nestedValue, keepsValues.1 nestedValue isPlain_nestedValue, keepsValues.2 _⟩

end Literal

end ClientGen
