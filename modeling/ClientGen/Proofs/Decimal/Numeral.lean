import ClientGen.Decimal.Numeral
import ClientGen.Proofs.Json.Writer

/-!
# The texts of integers

A decimal integer is read from its digits, which may have single underscores between them, a sign in
front and spaces around (`integer?_eq_some_iff`), so each integer has many texts.  The shortest text
of a natural number is its digits alone, and it is read back unless there are too many of them
(`integer?_toString`).
-/

namespace ClientGen.Numeral

/-! ### Texts of integers -/

/-- Digits with single underscores between some of them, and the digits alone. -/
inductive IsDigits : List Char → List Char → Prop where
  | last {c : Char} (h : c.isDigit = true) : IsDigits [c] [c]
  | next {c : Char} {cs ds : List Char} (h : c.isDigit = true) (hrest : IsDigits cs ds) :
    IsDigits (c :: cs) (c :: ds)
  | spaced {c : Char} {cs ds : List Char} (h : c.isDigit = true) (hrest : IsDigits cs ds) :
    IsDigits (c :: '_' :: cs) (c :: ds)

/-- A sign, and whether it makes a number negative. -/
inductive IsSign : List Char → Bool → Prop where
  | none : IsSign [] false
  | plus : IsSign ['+'] false
  | minus : IsSign ['-'] true

/-- A number with its sign. -/
def signed (negative : Bool) (n : Nat) : Int :=
  if negative then -(n : Int) else n

/-- A text of an integer: a sign and digits with spaces around them, where characters beyond ASCII
count as `asciiChar` says. -/
def IsTextOf (n : Int) (text : String) : Prop :=
  ∃ before sign negative body digits after,
    text.toList.map asciiChar = before ++ (sign ++ (body ++ after)) ∧
      (∀ c ∈ before, isSpace c = true) ∧ IsSign sign negative ∧ IsDigits body digits ∧
        digits.length ≤ maxDigits ∧ (∀ c ∈ after, isSpace c = true) ∧
          n = signed negative (ofDigits 10 digits)

/-! ### Characters -/

/-- The digits of base ten. -/
theorem isDigitOf_ten (c : Char) : isDigitOf 10 c = c.isDigit := by
  unfold isDigitOf digitValue?
  have hle : ∀ {a b : Char}, a ≤ b → a.toNat ≤ b.toNat := fun h => h
  cases hdigit : c.isDigit with
  | true =>
    have hbound := (Char.isDigit_iff_toNat.mp hdigit).2
    have hnine : '9'.toNat = 57 := rfl
    rw [if_pos rfl]
    simp only [Option.any_some, decide_eq_true_eq]
    omega
  | false =>
    have ha : 'a'.toNat = 97 := rfl
    have hA : 'A'.toNat = 65 := rfl
    rw [if_neg Bool.false_ne_true]
    by_cases hsmall : 'a' ≤ c ∧ c ≤ 'z'
    · have hleast := hle hsmall.1
      rw [if_pos hsmall]
      simp only [Option.any_some, decide_eq_false_iff_not]
      omega
    · rw [if_neg hsmall]
      by_cases hcapital : 'A' ≤ c ∧ c ≤ 'Z'
      · have hleast := hle hcapital.1
        rw [if_pos hcapital]
        simp only [Option.any_some, decide_eq_false_iff_not]
        omega
      · rw [if_neg hcapital]
        rfl

theorem asciiChar_of_isDigit {c : Char} (h : c.isDigit = true) : asciiChar c = c := by
  have hbound : c.toNat ≤ 57 := (Char.isDigit_iff_toNat.mp h).2
  exact if_pos (by omega)

theorem isSpace_of_isDigit {c : Char} (h : c.isDigit = true) : isSpace c = false := by
  have hleast : 48 ≤ c.toNat := (Char.isDigit_iff_toNat.mp h).1
  have hblank : c ≠ ' ' := by
    rintro rfl
    cases h
  unfold isSpace
  rw [beq_eq_false_iff_ne.mpr hblank, Bool.false_or, Bool.and_eq_false_iff]
  exact .inr (decide_eq_false (by omega))

theorem ne_underscore_of_isDigit {c : Char} (h : c.isDigit = true) : c ≠ '_' := by
  rintro rfl
  cases h

/-! ### Digits and underscores -/

/-- The characters of digits with underscores between them. -/
def isDigitPart (c : Char) : Bool :=
  c == '_' || isDigitOf 10 c

theorem isDigitPart_iff (c : Char) : isDigitPart c = true ↔ c = '_' ∨ c.isDigit = true := by
  rw [isDigitPart, isDigitOf_ten, Bool.or_eq_true, beq_iff_eq]

theorem IsDigits.exists_cons {body digits : List Char} (h : IsDigits body digits) :
    ∃ c cs ds, c.isDigit = true ∧ body = c :: cs ∧ digits = c :: ds := by
  cases h with
  | last h => exact ⟨_, _, _, h, rfl, rfl⟩
  | next h _ => exact ⟨_, _, _, h, rfl, rfl⟩
  | spaced h _ => exact ⟨_, _, _, h, rfl, rfl⟩

theorem IsDigits.mem {body digits : List Char} (h : IsDigits body digits) :
    ∀ c ∈ body, isDigitPart c = true := by
  have hdigit : ∀ {c : Char}, c.isDigit = true → isDigitPart c = true := fun hc =>
    (isDigitPart_iff _).mpr (.inr hc)
  induction h with
  | last h => exact List.forall_mem_singleton.mpr (hdigit h)
  | next h _ ih => exact List.forall_mem_cons.mpr ⟨hdigit h, ih⟩
  | spaced h _ ih => exact List.forall_mem_cons.mpr ⟨hdigit h, List.forall_mem_cons.mpr ⟨rfl, ih⟩⟩

/-- Digits alone are digits with no underscores between them. -/
theorem isDigits_self {digits : List Char} (hne : digits ≠ [])
    (h : ∀ c ∈ digits, c.isDigit = true) :
    IsDigits digits digits := by
  induction digits with
  | nil => exact absurd rfl hne
  | cons c rest ih =>
    obtain ⟨hc, hrest⟩ := List.forall_mem_cons.mp h
    cases rest with
    | nil => exact .last hc
    | cons d rest => exact .next hc (ih (List.cons_ne_nil _ _) hrest)

/-- A character that is no underscore stands before another one. -/
theorem withoutUnderscores?_cons {c d : Char} (hc : c ≠ '_') (hd : d ≠ '_') (rest : List Char) :
    withoutUnderscores? (c :: d :: rest) = (withoutUnderscores? (d :: rest)).map (c :: ·) := by
  unfold withoutUnderscores?
  simp only [List.head?_cons, Option.some.injEq, hc, hd, false_or, List.getLast?_cons_cons,
    List.tail_cons, List.zip_cons_cons, List.any_cons, decide_false, Bool.false_and, Bool.false_or,
    List.filter_cons]
  split <;> simp [hc]

/-- An underscore stands between two characters. -/
theorem withoutUnderscores?_underscore {c d : Char} (hc : c ≠ '_') (hd : d ≠ '_')
    (rest : List Char) : withoutUnderscores? (c :: '_' :: d :: rest) =
      (withoutUnderscores? (d :: rest)).map (c :: ·) := by
  unfold withoutUnderscores?
  simp only [List.head?_cons, Option.some.injEq, hc, hd, false_or, List.getLast?_cons_cons,
    List.tail_cons, List.zip_cons_cons, List.any_cons, decide_false, Bool.false_and, Bool.false_or,
    List.filter_cons, Bool.and_false]
  split <;> simp [hc]

theorem eq_filter_of_withoutUnderscores? {cs ds : List Char}
    (h : withoutUnderscores? cs = some ds) : ds = cs.filter (· ≠ '_') := by
  unfold withoutUnderscores? at h
  split at h
  · cases h
  · exact (Option.some.inj h).symm

theorem withoutUnderscores?_of_isDigits {body digits : List Char} (h : IsDigits body digits) :
    withoutUnderscores? body = some digits := by
  induction h with
  | last h => simp [withoutUnderscores?, ne_underscore_of_isDigit h]
  | next h hrest ih =>
    obtain ⟨d, cs, ds, hd, rfl, rfl⟩ := hrest.exists_cons
    rw [withoutUnderscores?_cons (ne_underscore_of_isDigit h) (ne_underscore_of_isDigit hd), ih]
    rfl
  | spaced h hrest ih =>
    obtain ⟨d, cs, ds, hd, rfl, rfl⟩ := hrest.exists_cons
    rw [withoutUnderscores?_underscore (ne_underscore_of_isDigit h) (ne_underscore_of_isDigit hd),
      ih]
    rfl

/-- Characters that are left without their underscores begin with a digit. -/
theorem isDigit_head_of_withoutUnderscores? {c : Char} {rest ds : List Char}
    (hc : isDigitPart c = true) (h : withoutUnderscores? (c :: rest) = some ds) :
    c.isDigit = true := by
  refine ((isDigitPart_iff c).mp hc).resolve_left ?_
  rintro rfl
  cases h

theorem ne_nil_of_withoutUnderscores? {c : Char} (hc : c ≠ '_') {rest ds : List Char}
    (h : withoutUnderscores? (c :: rest) = some ds) : ds ≠ [] := by
  rw [eq_filter_of_withoutUnderscores? h, List.filter_cons, decide_eq_true hc, if_pos rfl]
  exact List.cons_ne_nil _ _

theorem isDigits_of_withoutUnderscores? : {cs ds : List Char} →
    (∀ c ∈ cs, isDigitPart c = true) → withoutUnderscores? cs = some ds → ds ≠ [] → IsDigits cs ds
  | [], ds, _, h, hne => absurd (eq_filter_of_withoutUnderscores? h) hne
  | [c], ds, hcs, h, _ => by
    have hc := isDigit_head_of_withoutUnderscores? (hcs c List.mem_cons_self) h
    have hds := eq_filter_of_withoutUnderscores? h
    rw [List.filter_cons, decide_eq_true (ne_underscore_of_isDigit hc), if_pos rfl] at hds
    rw [hds]
    exact .last hc
  | c :: d :: rest, ds, hcs, h, _ => by
    obtain ⟨hfirst, hrest⟩ := List.forall_mem_cons.mp hcs
    have hc := isDigit_head_of_withoutUnderscores? hfirst h
    have hne : c ≠ '_' := ne_underscore_of_isDigit hc
    by_cases hd : d = '_'
    · subst hd
      match rest with
      | [] => simp [withoutUnderscores?] at h
      | e :: rest =>
        have he : e ≠ '_' := by
          rintro rfl
          simp [withoutUnderscores?] at h
        rw [withoutUnderscores?_underscore hne he] at h
        obtain ⟨more, hmore, rfl⟩ := Option.map_eq_some_iff.mp h
        have hlater : ∀ c ∈ e :: rest, isDigitPart c = true := (List.forall_mem_cons.mp hrest).2
        exact .spaced hc
          (isDigits_of_withoutUnderscores? hlater hmore (ne_nil_of_withoutUnderscores? he hmore))
    · rw [withoutUnderscores?_cons hne hd] at h
      obtain ⟨more, hmore, rfl⟩ := Option.map_eq_some_iff.mp h
      exact .next hc
        (isDigits_of_withoutUnderscores? hrest hmore (ne_nil_of_withoutUnderscores? hd hmore))

/-! ### Signs -/

theorem exists_sign (cs : List Char) :
    ∃ sign, cs = sign ++ (splitSign cs).2 ∧ IsSign sign (splitSign cs).1 := by
  unfold splitSign
  split
  · exact ⟨['-'], rfl, .minus⟩
  · exact ⟨['+'], rfl, .plus⟩
  · exact ⟨[], rfl, .none⟩

theorem splitSign_append {sign : List Char} {negative : Bool} (h : IsSign sign negative) {c : Char}
    (hc : c.isDigit = true) (rest : List Char) :
    splitSign (sign ++ c :: rest) = (negative, c :: rest) := by
  cases h with
  | none =>
    unfold splitSign
    split
    · rename_i heq
      cases heq
      cases hc
    · rename_i heq
      cases heq
      cases hc
    · rfl
  | plus => rfl
  | minus => rfl

/-- The first character of a sign and digits is no space. -/
theorem stops_isSpace_sign {sign : List Char} {negative : Bool} (h : IsSign sign negative)
    {c : Char} (hc : c.isDigit = true) (rest : List Char) : Stops isSpace (sign ++ c :: rest) := by
  cases h with
  | none => exact stops_cons (isSpace_of_isDigit hc)
  | plus => exact stops_cons rfl
  | minus => exact stops_cons rfl

/-! ### Integers -/

theorem dropBaseMark_ten (cs : List Char) : dropBaseMark 10 cs = cs := by
  unfold dropBaseMark
  split
  · rfl
  · rfl

/-- A decimal integer is the number of the digits behind the sign. -/
theorem integer?_eq (text : String) : integer? text =
    let split := splitSign ((text.toList.map asciiChar).dropWhile isSpace)
    let run := split.2.takeWhile isDigitPart
    (withoutUnderscores? run).bind fun digits =>
      if digits ≠ [] ∧ digits.length ≤ maxDigits ∧
          (split.2.drop run.length).all isSpace = true then
        some (signed split.1 (ofDigits 10 digits))
      else none := by
  unfold integer? integer
  dsimp only
  rw [dropBaseMark_ten]
  generalize splitSign _ = split
  obtain ⟨negative, cs⟩ := split
  have hrun : (cs.takeWhile fun c => c == '_' || isDigitOf 10 c) = cs.takeWhile isDigitPart := rfl
  dsimp only
  rw [hrun]
  cases withoutUnderscores? (cs.takeWhile isDigitPart) with
  | none => rfl
  | some digits =>
    dsimp only [Option.bind_some]
    generalize (cs.drop _).all isSpace = ends
    by_cases hlong : maxDigits < digits.length
    · rw [if_pos ⟨rfl, hlong⟩, if_neg fun h => Nat.not_le_of_lt hlong h.2.1]
      rfl
    · have hlength : digits.length ≤ maxDigits := Nat.le_of_not_lt hlong
      rw [if_neg fun h => hlong h.2]
      cases digits with
      | nil => rfl
      | cons d rest =>
        cases ends with
        | false => exact (if_neg fun h => Bool.false_ne_true h.2.2).symm
        | true => exact (if_pos ⟨List.cons_ne_nil _ _, hlength, rfl⟩).symm

/-- Spaces, a sign and digits are read as the number of the digits, unless there are too many. -/
theorem integer?_of_parts {text : String} {before sign body digits after : List Char}
    {negative : Bool} (htext : text.toList.map asciiChar = before ++ (sign ++ (body ++ after)))
    (hbefore : ∀ c ∈ before, isSpace c = true) (hsign : IsSign sign negative)
    (hdigits : IsDigits body digits) (hafter : ∀ c ∈ after, isSpace c = true) :
    integer? text =
      if digits.length ≤ maxDigits then some (signed negative (ofDigits 10 digits)) else none := by
  obtain ⟨c, cs, ds, hc, rfl, rfl⟩ := hdigits.exists_cons
  have hspaces : (text.toList.map asciiChar).dropWhile isSpace = sign ++ (c :: cs ++ after) := by
    rw [htext, List.dropWhile_append_of_pos hbefore]
    exact dropWhile_eq_self_of_stops (stops_isSpace_sign hsign hc (cs ++ after))
  have hstops : Stops isDigitPart after := by
    intro d hd
    have hspace := hafter d (List.mem_of_head? hd)
    by_contra hpart
    rcases (isDigitPart_iff d).mp (eq_true_of_ne_false hpart) with rfl | hdigit
    · cases hspace
    · rw [isSpace_of_isDigit hdigit] at hspace
      cases hspace
  have hrun : (c :: cs ++ after).takeWhile isDigitPart = c :: cs := by
    rw [takeWhile_append_of_stops hstops, List.takeWhile_eq_self_iff.mpr hdigits.mem]
  rw [integer?_eq, hspaces, List.cons_append, splitSign_append hsign hc, ← List.cons_append]
  dsimp only
  rw [hrun, withoutUnderscores?_of_isDigits hdigits, Option.bind_some, List.drop_left]
  by_cases hlength : (c :: ds).length ≤ maxDigits
  · rw [if_pos hlength, if_pos ⟨List.cons_ne_nil _ _, hlength, List.all_eq_true.mpr hafter⟩]
  · rw [if_neg hlength, if_neg fun h => hlength h.2.1]

/-- **A text is read as an integer** exactly when it is a text of that integer. -/
theorem integer?_eq_some_iff {text : String} {n : Int} :
    integer? text = some n ↔ IsTextOf n text := by
  constructor
  · intro h
    rw [integer?_eq] at h
    obtain ⟨digits, hdigits, h⟩ := Option.bind_eq_some_iff.mp h
    obtain ⟨⟨hne, hlength, hafter⟩, hn⟩ := Option.ite_none_right_eq_some.mp h
    obtain ⟨sign, hsign, hnegative⟩ := exists_sign ((text.toList.map asciiChar).dropWhile isSpace)
    have hbody := isDigits_of_withoutUnderscores? (fun c hc => List.mem_takeWhile_imp hc) hdigits
      hne
    refine ⟨(text.toList.map asciiChar).takeWhile isSpace, sign, _, _, digits, _, ?_,
      fun c hc => List.mem_takeWhile_imp hc, hnegative, hbody, hlength, List.all_eq_true.mp hafter,
      (Option.some.inj hn).symm⟩
    rw [← List.prefix_append_drop (List.takeWhile_prefix _), ← hsign,
      List.takeWhile_append_dropWhile]
  · rintro ⟨before, sign, negative, body, digits, after, htext, hbefore, hsign, hdigits, hlength,
      hafter, rfl⟩
    rw [integer?_of_parts htext hbefore hsign hdigits hafter, if_pos hlength]

/-! ### Natural numbers -/

theorem longBound_eq : longBound = 10 ^ maxDigits := by
  delta longBound
  rw [Nat.pow_eq]

theorem ofDigits_toDigits (n : Nat) : ofDigits 10 (Nat.toDigits 10 n) = n := by
  have hread := Nat.ofDigitChars_toDigits (n := n) (by decide : 1 < 10) (Nat.le_refl 10)
  rw [Nat.ofDigitChars] at hread
  refine Eq.trans ?_ hread
  refine List.foldl_ext _ _ _ fun m c hc => ?_
  rw [digitValue?, if_pos (Json.isDigit_of_mem_toDigits hc)]
  rfl

/-- An integer is too long to be written when it has more digits than are read. -/
theorem isLong_eq_false_iff (n : Int) :
    isLong n = false ↔ (Nat.toDigits 10 n.natAbs).length ≤ maxDigits := by
  rw [Nat.length_toDigits_le_iff (by decide) (by decide), isLong, decide_eq_false_iff_not,
    Nat.not_le, longBound_eq]

/-- The digits of a natural number are read back, unless there are too many. -/
theorem integer?_toString (n : Nat) :
    integer? (toString n) = if isLong n then none else some (n : Int) := by
  have hdigits : ∀ c ∈ Nat.toDigits 10 n, c.isDigit = true :=
    fun _ => Json.isDigit_of_mem_toDigits
  have htext : (toString n).toList.map asciiChar = [] ++ ([] ++ (Nat.toDigits 10 n ++ [])) := by
    rw [Nat.toString_eq_repr, Nat.toList_repr, List.append_nil]
    refine (List.map_congr_left fun c hc => ?_).trans (List.map_id _)
    exact asciiChar_of_isDigit (hdigits c hc)
  have hlength : (Nat.toDigits 10 n).length ≤ maxDigits ↔ ¬isLong n = true := by
    rw [Bool.not_eq_true, isLong_eq_false_iff, Int.natAbs_natCast]
  rw [integer?_of_parts htext (by simp) .none (isDigits_self Nat.toDigits_ne_nil hdigits) (by simp),
    ofDigits_toDigits]
  by_cases hlong : isLong n = true
  · rw [if_neg fun h => hlength.mp h hlong, if_pos hlong]
  · rw [if_pos (hlength.mpr hlong), if_neg hlong]
    rfl

end ClientGen.Numeral
