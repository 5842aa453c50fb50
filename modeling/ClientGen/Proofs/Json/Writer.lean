import ClientGen.Json.Reader
import ClientGen.Literal
import ClientGen.Proofs.Naming

/-!
# Written JSON tells values apart

A value that is written by `Json.chars` can be told from what is written, even where other text
follows.  A string ends at its first quote without a backslash, so reading it gives back its
characters (`readString_escaped`).  An integer ends before the first character that is no digit.
Every other value ends by itself.  The first character tells which of these a value is, and brackets
end a list or an object, so by induction over the value (`isDelimited_chars`) no two values without
floats are written alike.
-/

namespace ClientGen

/-! ### Runs of characters -/

section Runs

variable {p : Char → Bool} {run run' rest rest' : List Char}

/-- A text does not begin with a character of a kind. -/
def Stops (p : Char → Bool) (rest : List Char) : Prop :=
  ∀ c ∈ rest.head?, p c = false

theorem stops_nil (p : Char → Bool) : Stops p [] := by
  rintro c ⟨⟩

theorem stops_cons {c : Char} (h : p c = false) : Stops p (c :: rest) := by
  rintro d ⟨⟩
  exact h

theorem takeWhile_eq_nil_of_stops (h : Stops p rest) : rest.takeWhile p = [] := by
  cases rest with
  | nil => rfl
  | cons c rest => rw [List.takeWhile_cons, h c rfl, if_neg Bool.false_ne_true]

theorem dropWhile_eq_self_of_stops (h : Stops p rest) : rest.dropWhile p = rest := by
  have hparts := List.takeWhile_append_dropWhile (p := p) (l := rest)
  rwa [takeWhile_eq_nil_of_stops h, List.nil_append] at hparts

/-- What stops is not among the characters that a text begins with. -/
theorem takeWhile_append_of_stops (h : Stops p rest) :
    (run ++ rest).takeWhile p = run.takeWhile p := by
  rw [List.takeWhile_append, takeWhile_eq_nil_of_stops h, List.append_nil]
  split
  · rename_i hlength
    exact ((List.takeWhile_prefix p).eq_of_length hlength).symm
  · rfl

theorem append_inj_of_stops (hrun : ∀ c ∈ run, p c = true) (hrun' : ∀ c ∈ run', p c = true)
    (hrest : Stops p rest) (hrest' : Stops p rest') (h : run ++ rest = run' ++ rest') :
    run = run' ∧ rest = rest' := by
  have hruns := congrArg (List.takeWhile p) h
  rw [takeWhile_append_of_stops hrest, takeWhile_append_of_stops hrest',
    List.takeWhile_eq_self_iff.mpr hrun, List.takeWhile_eq_self_iff.mpr hrun'] at hruns
  subst hruns
  exact ⟨rfl, List.append_cancel_left h⟩

theorem dropWhile_append_of_stops (hrun : ∀ c ∈ run, p c = true) (hrest : Stops p rest) :
    (run ++ rest).dropWhile p = rest := by
  rw [List.dropWhile_append_of_pos hrun, dropWhile_eq_self_of_stops hrest]

end Runs

/-- A text without what it begins with. -/
theorem dropPrefix?_append (lead rest : List Char) : (lead ++ rest).dropPrefix? lead = some rest :=
  List.dropPrefix?_eq_some_iff.mpr ⟨lead, rfl, beq_self_eq_true lead⟩

/-- What is written of `a` is told apart from what is written of others and from what follows, as
long as that does not begin with a character of a kind. -/
def IsDelimited {α : Type} (write : α → List Char) (p : Char → Bool) (allowed : α → Prop)
    (a : α) : Prop :=
  ∀ ⦃a' : α⦄ ⦃rest rest' : List Char⦄, allowed a' → Stops p rest → Stops p rest' →
    write a ++ rest = write a' ++ rest' → a = a' ∧ rest = rest'

namespace Json

/-! ### Strings -/

theorem hexNumber?_hex_control : ∀ n < 0x20, Text.hexNumber? (Text.hex 4 n) = some n := by
  decide

/-- An escape of one letter is read. -/
theorem readString_shortEscape (start : Nat) {e c : Char} {rest : List Char}
    (h : shortEscape? e = some c) :
    readString start ('\\' :: e :: rest) = (readString start rest).cons c := by
  have hunit : e ≠ 'u' := by
    rintro rfl
    cases h
  rw [readString, h]
  · rintro _ _ _ _ _ _ rfl
    exact absurd rfl hunit
  · exact hunit

/-- The escape of a control is read. -/
theorem readString_unitEscape (start : Nat) {n : Nat} (next : Char) (rest : List Char)
    (h : n < 0x20) :
    readString start (unitEscape n ++ next :: rest) =
      (readString start (next :: rest)).cons (Char.ofNat n) := by
  obtain ⟨a, b, c, d, hdigits⟩ : ∃ a b c d, Text.hex 4 n = [a, b, c, d] := ⟨_, _, _, _, rfl⟩
  have hnumber := hexNumber?_hex_control n h
  rw [hdigits] at hnumber
  have hhalf : isHighHalf n = false := by
    rw [isHighHalf, decide_eq_false_iff_not]
    omega
  rw [unitEscape, hdigits]
  simp only [List.cons_append, List.nil_append]
  rw [readString]
  -- A control is no half of a pair, so no second escape is looked for.
  simp only [hnumber, hhalf, Bool.false_eq_true, false_and, if_false]

/-- A character that needs no escape is read. -/
theorem readString_plain (start : Nat) {c : Char} {rest : List Char} (hquote : c ≠ '"')
    (hbackslash : c ≠ '\\') (hcontrol : 0x20 ≤ c.toNat) :
    readString start (c :: rest) = (readString start rest).cons c := by
  rw [readString, if_neg hquote, if_neg (by omega)]
  · exact fun heq => absurd heq hbackslash
  · exact fun _ _ _ _ _ _ heq => absurd heq hbackslash
  · exact fun _ heq => absurd heq hbackslash
  · exact fun _ _ heq => absurd heq hbackslash

/-- A written character is read. -/
theorem readString_escape (start : Nat) (c next : Char) (rest : List Char) :
    readString start (escape .unicode c ++ next :: rest) =
      (readString start (next :: rest)).cons c := by
  unfold escape
  simp only []
  split_ifs with hquote hbackslash hfeed hreturn htab hback hform hcontrol
  · exact readString_shortEscape start (by rw [hquote]; rfl)
  · exact readString_shortEscape start (by rw [hbackslash]; rfl)
  · exact readString_shortEscape start (by rw [hfeed]; rfl)
  · exact readString_shortEscape start (by rw [hreturn]; rfl)
  · exact readString_shortEscape start (by rw [htab]; rfl)
  · exact readString_shortEscape start (by rw [← Char.ofNat_toNat c, hback]; rfl)
  · exact readString_shortEscape start (by rw [← Char.ofNat_toNat c, hform]; rfl)
  · rw [readString_unitEscape start next rest hcontrol, Char.ofNat_toNat]
  · exact readString_plain start hquote hbackslash (by omega)

/-- **A written string is read back**, and what follows it is left. -/
theorem readString_escaped (start : Nat) (cs rest : List Char) :
    readString start (cs.flatMap (escape .unicode) ++ '"' :: rest) = .ok (cs, rest) := by
  induction cs with
  | nil =>
    rw [List.flatMap_nil, List.nil_append, readString.eq_def]
    rfl
  | cons c cs ih =>
    obtain ⟨next, more, hmore⟩ :
        ∃ next more, cs.flatMap (escape .unicode) ++ '"' :: rest = next :: more :=
      List.exists_cons_of_ne_nil (by simp)
    rw [List.flatMap_cons, List.append_assoc, hmore, readString_escape, ← hmore, ih]
    rfl

theorem stringChars_append_inj {s t : String} {rest rest' : List Char}
    (h : stringChars .unicode s ++ rest = stringChars .unicode t ++ rest') :
    s = t ∧ rest = rest' := by
  simp only [stringChars, List.cons_append, List.append_assoc, List.nil_append] at h
  -- Reading both sides gives the strings and what is left behind them.
  have hread := congrArg (readString 0) (List.cons.inj h).2
  rw [readString_escaped, readString_escaped] at hread
  obtain ⟨hs, hrest⟩ := Prod.ext_iff.mp (Except.ok.inj hread)
  exact ⟨String.toList_injective hs, hrest⟩

/-! ### Integers -/

theorem isDigit_of_mem_toDigits {n : Nat} {c : Char} (h : c ∈ Nat.toDigits 10 n) :
    c.isDigit = true :=
  Nat.isDigit_of_mem_toDigits (by decide) (by decide) h

theorem toDigits_append_inj {m n : Nat} {rest rest' : List Char}
    (hrest : Stops Char.isDigit rest) (hrest' : Stops Char.isDigit rest')
    (h : Nat.toDigits 10 m ++ rest = Nat.toDigits 10 n ++ rest') : m = n ∧ rest = rest' := by
  obtain ⟨hdigits, hrests⟩ := append_inj_of_stops (fun c => isDigit_of_mem_toDigits)
    (fun c => isDigit_of_mem_toDigits) hrest hrest' h
  exact ⟨Naming.toDigits_injective hdigits, hrests⟩

theorem toDigits_append_ne_cons_hyphen (n : Nat) (rest rest' : List Char) :
    Nat.toDigits 10 n ++ rest ≠ '-' :: rest' := by
  obtain ⟨c, cs, hcs⟩ := List.exists_cons_of_ne_nil (Nat.toDigits_ne_nil (n := n) (b := 10))
  intro h
  rw [hcs] at h
  have hc : c.isDigit = true := isDigit_of_mem_toDigits (hcs ▸ List.mem_cons_self)
  rw [(List.cons.inj h).1] at hc
  cases hc

theorem toList_toString_ofNat (n : Nat) : (toString (Int.ofNat n)).toList = Nat.toDigits 10 n :=
  Nat.toList_repr

theorem toList_toString_negSucc (n : Nat) :
    (toString (Int.negSucc n)).toList = '-' :: Nat.toDigits 10 (n + 1) := by
  change ("-" ++ (n + 1).repr).toList = _
  rw [String.toList_append, Nat.toList_repr]
  rfl

theorem toString_append_inj {m n : Int} {rest rest' : List Char}
    (hrest : Stops Char.isDigit rest) (hrest' : Stops Char.isDigit rest')
    (h : (toString m).toList ++ rest = (toString n).toList ++ rest') : m = n ∧ rest = rest' := by
  cases m with
  | ofNat m =>
    rw [toList_toString_ofNat] at h
    cases n with
    | ofNat n =>
      rw [toList_toString_ofNat] at h
      obtain ⟨hnumbers, hrests⟩ := toDigits_append_inj hrest hrest' h
      exact ⟨congrArg Int.ofNat hnumbers, hrests⟩
    | negSucc n =>
      rw [toList_toString_negSucc] at h
      exact absurd h (toDigits_append_ne_cons_hyphen _ _ _)
  | negSucc m =>
    rw [toList_toString_negSucc] at h
    cases n with
    | ofNat n =>
      rw [toList_toString_ofNat] at h
      exact absurd h.symm (toDigits_append_ne_cons_hyphen _ _ _)
    | negSucc n =>
      rw [toList_toString_negSucc] at h
      obtain ⟨hnumbers, hrests⟩ := toDigits_append_inj hrest hrest' (List.cons.inj h).2
      exact ⟨congrArg Int.negSucc (Nat.succ.inj hnumbers), hrests⟩

/-! ### Parts with a separator between them -/

theorem separated_cons (separator part : List Char) (parts : List (List Char)) :
    separated separator (part :: parts) = part ++ parts.flatMap (separator ++ ·) := by
  induction parts generalizing part with
  | nil => rw [separated, List.flatMap_nil, List.append_nil]
  | cons second parts ih =>
    rw [separated, ih, List.flatMap_cons, List.append_assoc, List.append_assoc]
    intro h
    cases h

section Separated

variable {α : Type} {write : α → List Char} {allowed : α → Prop} {closing : Char}
  {items items' : List α} {rest rest' : List Char}

/-- What follows an item does not begin with a digit. -/
theorem stops_flatMap_append (hclosing : closing.isDigit = false) (items : List α) :
    Stops Char.isDigit
      ((items.map write).flatMap ([',', ' '] ++ ·) ++ closing :: rest) := by
  cases items with
  | nil => exact stops_cons hclosing
  | cons first items => exact stops_cons rfl

/-- Items that each have a comma and a blank before them, and a closing character behind the
last. -/
theorem flatMap_append_inj (hdigit : closing.isDigit = false) (hcomma : closing ≠ ',')
    (hitems : ∀ a ∈ items, IsDelimited write Char.isDigit allowed a)
    (hallowed : ∀ a ∈ items', allowed a)
    (h : (items.map write).flatMap ([',', ' '] ++ ·) ++ closing :: rest =
      (items'.map write).flatMap ([',', ' '] ++ ·) ++ closing :: rest') :
    items = items' ∧ rest = rest' := by
  induction items generalizing items' with
  | nil =>
    cases items' with
    | nil => exact ⟨rfl, (List.cons.inj h).2⟩
    | cons first' items' => exact absurd (List.cons.inj h).1 hcomma
  | cons first items ih =>
    cases items' with
    | nil => exact absurd (List.cons.inj h).1.symm hcomma
    -- Both go on with a comma and a blank.
    | cons first' items' =>
      rw [List.forall_mem_cons] at hitems hallowed
      simp only [List.map_cons, List.flatMap_cons, List.append_assoc] at h
      obtain ⟨rfl, hmore⟩ := hitems.1 hallowed.1 (stops_flatMap_append hdigit items)
        (stops_flatMap_append hdigit items') (List.append_cancel_left h)
      obtain ⟨rfl, hrest⟩ := ih hitems.2 hallowed.2 hmore
      exact ⟨rfl, hrest⟩

/-- **Items between brackets are told apart** when each of them is, and none begins with the
closing bracket. -/
theorem separated_append_inj (hdigit : closing.isDigit = false) (hcomma : closing ≠ ',')
    (hopen : ∀ a, allowed a → ∃ c cs, write a = c :: cs ∧ c ≠ closing)
    (hitems : ∀ a ∈ items, allowed a ∧ IsDelimited write Char.isDigit allowed a)
    (hallowed : ∀ a ∈ items', allowed a)
    (h : separated [',', ' '] (items.map write) ++ closing :: rest =
      separated [',', ' '] (items'.map write) ++ closing :: rest') :
    items = items' ∧ rest = rest' := by
  cases items with
  | nil =>
    cases items' with
    | nil => exact ⟨rfl, (List.cons.inj h).2⟩
    | cons first' items' =>
      obtain ⟨c, cs, hwrite, hc⟩ := hopen first' (hallowed first' List.mem_cons_self)
      rw [List.map_cons, separated_cons, hwrite] at h
      exact absurd (List.cons.inj h).1.symm hc
  | cons first items =>
    rw [List.forall_mem_cons] at hitems
    rw [List.map_cons, separated_cons, List.append_assoc] at h
    cases items' with
    | nil =>
      obtain ⟨c, cs, hwrite, hc⟩ := hopen first hitems.1.1
      rw [hwrite] at h
      exact absurd (List.cons.inj h).1 hc
    | cons first' items' =>
      rw [List.forall_mem_cons] at hallowed
      rw [List.map_cons, separated_cons, List.append_assoc] at h
      obtain ⟨rfl, hmore⟩ := hitems.1.2 hallowed.1 (stops_flatMap_append hdigit items)
        (stops_flatMap_append hdigit items') h
      obtain ⟨rfl, hrest⟩ := flatMap_append_inj hdigit hcomma (fun a ha => (hitems.2 a ha).2)
        hallowed.2 hmore
      exact ⟨rfl, hrest⟩

end Separated

/-! ### Values -/

/-- A value that JSON can say, and that holds no float. -/
inductive IsFloatFree : Value → Prop where
  | null : IsFloatFree .null
  | bool (b : Bool) : IsFloatFree (.bool b)
  | int (n : Int) : IsFloatFree (.int n)
  | str (s : String) : IsFloatFree (.str s)
  | list {items : List Value} (h : ∀ item ∈ items, IsFloatFree item) : IsFloatFree (.list items)
  | object {fields : List (String × Value)} (h : ∀ field ∈ fields, IsFloatFree field.2) :
    IsFloatFree (.object fields)

/-- The kinds of values that are written as such. -/
inductive Kind where
  | null
  | bool
  | int
  | str
  | list
  | object
  deriving DecidableEq

/-- The kind of a value. -/
def Kind.of? : Value → Option Kind
  | .null => some .null
  | .bool _ => some .bool
  | .int _ => some .int
  | .str _ => some .str
  | .list _ => some .list
  | .object _ => some .object
  | _ => none

/-- The kind of the value that a character begins. -/
def Kind.ledBy? (c : Char) : Option Kind :=
  if c = 'n' then some .null
  else if c = 't' ∨ c = 'f' then some .bool
  else if c = '"' then some .str
  else if c = '[' then some .list
  else if c = '{' then some .object
  else if c = '-' ∨ c.isDigit then some .int
  else none

/-- A field of an object on one line. -/
def oneField (field : String × Value) : List Char :=
  stringChars .unicode field.1 ++ [':', ' '] ++ chars .unicode field.2

theorem itemChars_eq_map (items : List Value) :
    itemChars .unicode items = items.map (chars .unicode) := by
  induction items with
  | nil => rfl
  | cons item items ih => rw [itemChars, ih, List.map_cons]

theorem fieldChars_eq_map (fields : List (String × Value)) :
    fieldChars .unicode fields = fields.map oneField := by
  induction fields with
  | nil => rfl
  | cons field fields ih =>
    obtain ⟨name, value⟩ := field
    rw [fieldChars, ih, List.map_cons]
    rfl

theorem ledBy?_of_isDigit {c : Char} (h : c.isDigit = true) : Kind.ledBy? c = some .int := by
  have hne : ∀ d : Char, d.isDigit = false → c ≠ d := by
    rintro d hd rfl
    rw [hd] at h
    cases h
  unfold Kind.ledBy?
  rw [if_neg (hne 'n' rfl), if_neg (not_or.mpr ⟨hne 't' rfl, hne 'f' rfl⟩), if_neg (hne '"' rfl),
    if_neg (hne '[' rfl), if_neg (hne '{' rfl), if_pos (.inr h)]

/-- The first character of a value tells its kind. -/
theorem exists_chars_eq_cons {value : Value} (h : IsFloatFree value) :
    ∃ c cs, chars .unicode value = c :: cs ∧ Kind.ledBy? c = Kind.of? value ∧
      (Kind.of? value).isSome = true := by
  cases h with
  | null => exact ⟨_, _, rfl, rfl, rfl⟩
  | bool b => cases b <;> exact ⟨_, _, rfl, rfl, rfl⟩
  | int n =>
    cases n with
    | ofNat n =>
      obtain ⟨c, cs, hcs⟩ := List.exists_cons_of_ne_nil (Nat.toDigits_ne_nil (n := n) (b := 10))
      exact ⟨c, cs, (toList_toString_ofNat n).trans hcs,
        ledBy?_of_isDigit (isDigit_of_mem_toDigits (hcs ▸ List.mem_cons_self)), rfl⟩
    | negSucc n => exact ⟨_, _, toList_toString_negSucc n, rfl, rfl⟩
  | str s => exact ⟨_, _, rfl, rfl, rfl⟩
  | list _ => exact ⟨_, _, rfl, rfl, rfl⟩
  | object _ => exact ⟨_, _, rfl, rfl, rfl⟩

theorem kind_eq_of_append_eq {value value' : Value} {rest rest' : List Char}
    (h : IsFloatFree value) (h' : IsFloatFree value')
    (heq : chars .unicode value ++ rest = chars .unicode value' ++ rest') :
    Kind.of? value = Kind.of? value' := by
  obtain ⟨c, cs, hcs, hkind, -⟩ := exists_chars_eq_cons h
  obtain ⟨c', cs', hcs', hkind', -⟩ := exists_chars_eq_cons h'
  rw [hcs, hcs'] at heq
  rw [← hkind, ← hkind', (List.cons.inj heq).1]

/-- No value begins with a character that leads none. -/
theorem exists_chars_eq_cons_ne {value : Value} (h : IsFloatFree value) {closing : Char}
    (hclosing : Kind.ledBy? closing = none) :
    ∃ c cs, chars .unicode value = c :: cs ∧ c ≠ closing := by
  obtain ⟨c, cs, hcs, hkind, hsome⟩ := exists_chars_eq_cons h
  refine ⟨c, cs, hcs, ?_⟩
  rintro rfl
  rw [← hkind, hclosing] at hsome
  cases hsome

/-- A value is told apart when it is told from those of its kind. -/
theorem isDelimited_of_kind {value : Value} (h : IsFloatFree value)
    (hsame : ∀ {value' : Value} {rest rest' : List Char}, IsFloatFree value' →
      Kind.of? value = Kind.of? value' → Stops Char.isDigit rest → Stops Char.isDigit rest' →
      chars .unicode value ++ rest = chars .unicode value' ++ rest' →
        value = value' ∧ rest = rest') :
    IsDelimited (chars .unicode) Char.isDigit IsFloatFree value :=
  fun _ _ _ h' hrest hrest' heq => hsame h' (kind_eq_of_append_eq h h' heq) hrest hrest' heq

/-- A field is told apart by its name and its value. -/
theorem isDelimited_oneField {field : String × Value}
    (h : IsDelimited (chars .unicode) Char.isDigit IsFloatFree field.2) :
    IsDelimited oneField Char.isDigit (fun field => IsFloatFree field.2) field := by
  intro field' rest rest' h' hrest hrest' heq
  simp only [oneField, List.append_assoc] at heq
  obtain ⟨hname, hmore⟩ := stringChars_append_inj heq
  obtain ⟨hvalue, hrests⟩ := h h' hrest hrest' (List.append_cancel_left hmore)
  exact ⟨Prod.ext hname hvalue, hrests⟩

/-- **Written values are told apart**, whatever follows that is no digit. -/
theorem isDelimited_chars {value : Value} (h : IsFloatFree value) :
    IsDelimited (chars .unicode) Char.isDigit IsFloatFree value := by
  -- Only integers need what follows to be no digit; it never is one, as items are followed by a
  -- comma or the closing bracket.
  induction h with
  | null =>
    refine isDelimited_of_kind .null fun h' hkind _ _ heq => ?_
    cases h' with
    | null => exact ⟨rfl, List.append_cancel_left heq⟩
    | _ => cases hkind
  | bool b =>
    refine isDelimited_of_kind (.bool b) fun h' hkind _ _ heq => ?_
    cases h' with
    | bool b' =>
      cases b <;> cases b'
      · exact ⟨rfl, List.append_cancel_left heq⟩
      · cases heq
      · cases heq
      · exact ⟨rfl, List.append_cancel_left heq⟩
    | _ => cases hkind
  | int n =>
    refine isDelimited_of_kind (.int n) fun h' hkind hrest hrest' heq => ?_
    cases h' with
    | int n' =>
      obtain ⟨rfl, hrests⟩ := toString_append_inj hrest hrest' heq
      exact ⟨rfl, hrests⟩
    | _ => cases hkind
  | str s =>
    refine isDelimited_of_kind (.str s) fun h' hkind _ _ heq => ?_
    cases h' with
    | str s' =>
      obtain ⟨rfl, hrests⟩ := stringChars_append_inj heq
      exact ⟨rfl, hrests⟩
    | _ => cases hkind
  | list hitems ih =>
    refine isDelimited_of_kind (.list hitems) fun h' hkind _ _ heq => ?_
    cases h' with
    | list hitems' =>
      simp only [chars, itemChars_eq_map, List.cons_append, List.append_assoc, List.nil_append]
        at heq
      obtain ⟨rfl, hrests⟩ := separated_append_inj rfl (by decide)
        (fun value hvalue => exists_chars_eq_cons_ne hvalue rfl)
        (fun item hitem => ⟨hitems item hitem, ih item hitem⟩) hitems' (List.cons.inj heq).2
      exact ⟨rfl, hrests⟩
    | _ => cases hkind
  | object hfields ih =>
    refine isDelimited_of_kind (.object hfields) fun h' hkind _ _ heq => ?_
    cases h' with
    | object hfields' =>
      simp only [chars, fieldChars_eq_map, List.cons_append, List.append_assoc, List.nil_append]
        at heq
      have hopen : ∀ field : String × Value, IsFloatFree field.2 →
          ∃ c cs, oneField field = c :: cs ∧ c ≠ '}' :=
        fun field _ => ⟨'"', _, rfl, by decide⟩
      obtain ⟨rfl, hrests⟩ := separated_append_inj rfl (by decide) hopen
        (fun field hfield => ⟨hfields field hfield, isDelimited_oneField (ih field hfield)⟩)
        hfields' (List.cons.inj heq).2
      exact ⟨rfl, hrests⟩
    | _ => cases hkind

end Json

/-- A value without floats is its own literal. -/
theorem Literal.toList_ofValue {value : Value} (h : Json.IsFloatFree value) :
    (ofValue value).toList = Json.chars .unicode value := by
  cases h <;> exact String.toList_ofList

end ClientGen
