import ClientGen.Net.Address
import ClientGen.Proofs.Decimal.Numeral
import ClientGen.Proofs.Outcome
import ClientGen.Proofs.Text

/-!
# Spellings of short addresses

An address of 32 bits has one strict spelling, its four octets in decimal (`strict`), and only that
is read as an address (`short?_eq_some_iff`).  A resolver of names reads more than that (`loose?`):
one to four numbers, each of them decimal, octal behind a zero or hexadecimal behind `0x`, of which
the last one fills the octets that are left.  The strict spelling is one of the loose ones
(`loose?_strict`), and so is the whole address as a single number (`loose?_toDigits`).

The private short addresses are told by their leading octets (`isPrivate_short_iff`).
-/

namespace ClientGen.Net

/-! ### Strict spellings -/

/-- The octets of a short address, from the highest to the lowest. -/
def octets (n : Nat) : List Nat :=
  [n / 256 ^ 3, n / 256 ^ 2 % 256, n / 256 % 256, n % 256]

/-- The strict spelling of a short address: four decimal octets without leading zeros. -/
def strict (n : Nat) : List Char :=
  ['.'].intercalate ((octets n).map (Nat.toDigits 10))

theorem toDigits_of_isDigit {c : Char} (h : c.isDigit = true) :
    Nat.toDigits 10 (c.toNat - '0'.toNat) = [c] := by
  obtain ⟨hleast, hgreatest⟩ := Char.isDigit_iff_toNat.mp h
  have hall : ∀ k ≤ 9, Nat.toDigits 10 k = [Char.ofNat ('0'.toNat + k)] := by decide
  have hnine : '9'.toNat = '0'.toNat + 9 := rfl
  rw [hall _ (by omega), Nat.add_sub_cancel' hleast, Char.ofNat_toNat]

/-- Digits that do not begin with a zero are those of their number, which is not zero. -/
theorem toDigits_ofDigitChars {digits : List Char} (hne : digits ≠ [])
    (hlead : digits.head? ≠ some '0') (h : ∀ c ∈ digits, c.isDigit = true) :
    0 < Nat.ofDigitChars 10 digits 0 ∧
      Nat.toDigits 10 (Nat.ofDigitChars 10 digits 0) = digits := by
  induction digits using List.reverseRecOn with
  | nil => exact absurd rfl hne
  | append_singleton front c ih =>
    obtain ⟨hfront, hlast⟩ := List.forall_mem_append.mp h
    have hdigit : c.isDigit = true := hlast c (List.mem_singleton_self c)
    obtain ⟨hleast, hgreatest⟩ := Char.isDigit_iff_toNat.mp hdigit
    have hnine : '9'.toNat = '0'.toNat + 9 := rfl
    have hvalue : Nat.ofDigitChars 10 (front ++ [c]) 0 =
        10 * Nat.ofDigitChars 10 front 0 + (c.toNat - '0'.toNat) := by
      rw [Nat.ofDigitChars_append]
      rfl
    rw [hvalue]
    cases front with
    | nil =>
      have hpositive : c.toNat ≠ '0'.toNat := by
        intro heq
        cases Char.toNat_inj.mp heq
        exact hlead rfl
      refine ⟨by omega, ?_⟩
      rw [Nat.ofDigitChars_nil, Nat.mul_zero, Nat.zero_add, toDigits_of_isDigit hdigit]
      rfl
    | cons first front =>
      -- The number of the digits in front is not zero, so appending one to it loses none of them.
      obtain ⟨hpositive, hdigits⟩ := ih (List.cons_ne_nil _ _) hlead hfront
      refine ⟨by omega, ?_⟩
      rw [← Nat.toDigits_append_toDigits (by decide) hpositive (by omega), hdigits,
        toDigits_of_isDigit hdigit]

/-- An octet is read from its decimal digits and from nothing else. -/
theorem octet?_eq_some_iff {cs : List Char} {k : Nat} :
    octet? cs = some k ↔ k ≤ 255 ∧ cs = Nat.toDigits 10 k := by
  constructor
  · intro h
    unfold octet? at h
    dsimp only at h
    split at h
    · cases h
    · rename_i hform
      obtain ⟨hbound, hvalue⟩ := Option.ite_none_right_eq_some.mp h
      cases hvalue
      simp only [Bool.or_eq_true, not_or, Bool.not_eq_true, Bool.not_eq_false',
        List.isEmpty_eq_false_iff] at hform
      obtain ⟨⟨⟨hne, hdigits⟩, -⟩, hlead⟩ := hform
      refine ⟨hbound, ?_⟩
      by_cases hzero : cs.head? = some '0'
      · rw [decide_eq_true hzero, Bool.true_and, decide_eq_false_iff_not, not_not] at hlead
        rw [hlead]
        rfl
      · exact (toDigits_ofDigitChars hne hzero (List.all_eq_true.mp hdigits)).2.symm
  · rintro ⟨hbound, rfl⟩
    have hall : ∀ k ≤ 255, octet? (Nat.toDigits 10 k) = some k := by decide +kernel
    exact hall k hbound

theorem splitChars_strict (n : Nat) :
    Text.splitChars '.' (strict n) = (octets n).map (Nat.toDigits 10) := by
  refine Text.splitChars_intercalate (by simp [octets]) fun part hpart hpoint => ?_
  obtain ⟨k, -, rfl⟩ := List.mem_map.mp hpart
  cases Json.isDigit_of_mem_toDigits hpoint

theorem point_mem_strict (n : Nat) : '.' ∈ strict n := by
  simp [strict, octets, List.intercalate_cons_cons]

theorem isAlpha_of_isDigit {c : Char} (h : c.isDigit = true) : c.isAlpha = false := by
  rw [Char.isAlpha, Naming.isUpper_of_isDigit h, Naming.isLower_of_isDigit h]
  rfl

theorem isAlpha_of_mem_strict {n : Nat} {c : Char} (h : c ∈ strict n) : c.isAlpha = false := by
  rcases Naming.mem_intercalate h with hpoint | ⟨part, hpart, hmem⟩
  · rw [List.mem_singleton.mp hpoint]
    rfl
  · obtain ⟨k, -, rfl⟩ := List.mem_map.mp hpart
    exact isAlpha_of_isDigit (Json.isDigit_of_mem_toDigits hmem)

/-- A spelling that is strict in small letters is strict. -/
theorem map_toLower_eq_strict_iff {cs : List Char} {n : Nat} :
    cs.map Char.toLower = strict n ↔ cs = strict n := by
  have hkept : ∀ c : Char, c.isAlpha = false → c.toLower = c := by
    intro c hc
    refine Char.toLower_eq_of_not_isUpper fun hupper => ?_
    rw [Char.isAlpha, hupper, Bool.true_or] at hc
    cases hc
  constructor
  · intro h
    rw [← h]
    refine ((List.map_congr_left fun c hc => ?_).trans (List.map_id cs)).symm
    have hmem : c.toLower ∈ strict n := h ▸ List.mem_map_of_mem hc
    exact hkept c (by rw [← Char.isAlpha_toLower_eq_isAlpha, isAlpha_of_mem_strict hmem])
  · rintro rfl
    exact (List.map_congr_left fun c hc => hkept c (isAlpha_of_mem_strict hc)).trans
      (List.map_id _)

/-- **A short address is read from its strict spelling and from nothing else.** -/
theorem short?_eq_some_iff {cs : List Char} {n : Nat} :
    short? cs = some n ↔ n < 2 ^ 32 ∧ cs = strict n := by
  constructor
  · intro h
    unfold short? at h
    split at h
    · rename_i a b c d hsplit
      obtain ⟨i, hi, hrest⟩ := Option.bind_eq_some_iff.mp h
      obtain ⟨j, hj, hrest⟩ := Option.bind_eq_some_iff.mp hrest
      obtain ⟨k, hk, hrest⟩ := Option.bind_eq_some_iff.mp hrest
      obtain ⟨l, hl, hvalue⟩ := Option.bind_eq_some_iff.mp hrest
      obtain ⟨hi, ha⟩ := octet?_eq_some_iff.mp hi
      obtain ⟨hj, hb⟩ := octet?_eq_some_iff.mp hj
      obtain ⟨hk, hc⟩ := octet?_eq_some_iff.mp hk
      obtain ⟨hl, hd⟩ := octet?_eq_some_iff.mp hl
      cases hvalue
      -- Cutting at the points loses nothing, so the octets make up the whole spelling.
      have hoctets : octets (((i * 256 + j) * 256 + k) * 256 + l) = [i, j, k, l] := by
        simp only [octets, List.cons.injEq, and_true]
        omega
      refine ⟨by omega, ?_⟩
      rw [strict, hoctets, ← Text.intercalate_splitChars '.' cs, hsplit, ha, hb, hc, hd]
      rfl
    · cases h
  · rintro ⟨hbound, rfl⟩
    have hoctet : ∀ k ≤ 255, octet? (Nat.toDigits 10 k) = some k := fun k hk =>
      octet?_eq_some_iff.mpr ⟨hk, rfl⟩
    unfold short?
    rw [splitChars_strict]
    simp only [octets, List.map_cons, List.map_nil]
    rw [hoctet _ (by omega), hoctet _ (by omega), hoctet _ (by omega), hoctet _ (by omega)]
    simp only [Option.bind_eq_bind, Option.bind_some, pure, Option.some.injEq]
    omega

/-! ### Loose spellings -/

/-- The number that digits of a base stand for, when there are any and nothing else. -/
def numeral? (base : Nat) (digits : List Char) : Option Nat :=
  if !digits.isEmpty && digits.all (Numeral.isDigitOf base) then
    some (Numeral.ofDigits base digits)
  else none

/-- A number of a loose spelling: hexadecimal behind `0x`, octal behind `0`, and else decimal. -/
def number? : List Char → Option Nat
  | '0' :: 'x' :: digits => numeral? 16 digits
  | '0' :: 'X' :: digits => numeral? 16 digits
  | '0' :: digits => numeral? 8 ('0' :: digits)
  | digits => numeral? 10 digits

/-- What numbers make of a count of octets: each is one octet, but for the last one, which fills all
octets that are left. -/
def fill? : Nat → List Nat → Option Nat
  | count + 1, [n] => if n < 256 ^ (count + 1) then some n else none
  | count + 1, n :: rest =>
    if n < 256 then (fill? count rest).map (n * 256 ^ count + ·) else none
  | _, _ => none

/-- The short address of a loose spelling: one to four numbers with points between them. -/
def loose? (cs : List Char) : Option Nat :=
  ((Text.splitChars '.' cs).mapM number?).bind (fill? 4)

/-- The digits of a number other than zero do not begin with a zero. -/
theorem head?_toDigits {n : Nat} (h : 0 < n) : (Nat.toDigits 10 n).head? ≠ some '0' := by
  induction n using Nat.strongRecOn with
  | ind n ih =>
    by_cases hsmall : n < 10
    · have hall : ∀ k < 10, 0 < k → (Nat.toDigits 10 k).head? ≠ some '0' := by decide
      exact hall n hsmall h
    · have hfront := ih (n / 10) (by omega) (by omega)
      rw [Nat.toDigits_of_base_le (by decide) (by omega),
        List.head?_append_of_ne_nil _ Nat.toDigits_ne_nil]
      exact hfront

/-- The decimal digits of a number are a number of a loose spelling. -/
theorem number?_toDigits (n : Nat) : number? (Nat.toDigits 10 n) = some n := by
  rcases Nat.eq_zero_or_pos n with rfl | hpositive
  · decide
  · have hlead := head?_toDigits hpositive
    have hnonempty : (Nat.toDigits 10 n).isEmpty = false :=
      List.isEmpty_eq_false_iff.mpr Nat.toDigits_ne_nil
    have hdigits : (Nat.toDigits 10 n).all (Numeral.isDigitOf 10) = true := by
      refine List.all_eq_true.mpr fun c hc => ?_
      rw [Numeral.isDigitOf_ten]
      exact Json.isDigit_of_mem_toDigits hc
    have hdecimal : number? (Nat.toDigits 10 n) = numeral? 10 (Nat.toDigits 10 n) := by
      unfold number?
      split
      · rename_i heq
        exact absurd (by rw [heq]; rfl) hlead
      · rename_i heq
        exact absurd (by rw [heq]; rfl) hlead
      · rename_i heq
        exact absurd (by rw [heq]; rfl) hlead
      · rfl
    rw [hdecimal, numeral?, hnonempty, hdigits, Numeral.ofDigits_toDigits]
    rfl

/-- **The strict spelling of an address is one of its loose spellings.** -/
theorem loose?_strict {n : Nat} (h : n < 2 ^ 32) : loose? (strict n) = some n := by
  have hnumbers : ((octets n).map (Nat.toDigits 10)).mapM number? = some (octets n) := by
    simp only [octets, List.map_cons, List.map_nil, List.mapM_cons, List.mapM_nil,
      number?_toDigits]
    rfl
  have hfill : fill? 4 (octets n) = some n := by
    simp only [octets, fill?]
    rw [if_pos (by omega), if_pos (by omega), if_pos (by omega), if_pos (by omega)]
    simp only [Option.map_some, Option.some.injEq]
    omega
  rw [loose?, splitChars_strict, hnumbers]
  exact hfill

/-- The digits of an address as a single number are one of its loose spellings. -/
theorem loose?_toDigits {n : Nat} (h : n < 2 ^ 32) : loose? (Nat.toDigits 10 n) = some n := by
  have hpoint : '.' ∉ Nat.toDigits 10 n := fun hmem => by
    cases Json.isDigit_of_mem_toDigits hmem
  have hnumbers : [Nat.toDigits 10 n].mapM number? = some [n] := by
    rw [List.mapM_cons, number?_toDigits]
    rfl
  rw [loose?, Text.splitChars_of_notMem hpoint, hnumbers]
  exact if_pos h

/-- The characters of loose spellings. -/
def looseChars : List Char :=
  ['0', '1', '2', '3', '4', '5', '6', '7', '8', '9', 'a', 'b', 'c', 'd', 'e', 'f', 'x',
    'A', 'B', 'C', 'D', 'E', 'F', 'X', '.']

theorem toNat_lt_of_mem_looseChars : ∀ c ∈ looseChars, c.toNat < 0x80 := by
  simp [looseChars]

theorem mem_looseChars_of_isDigitOf {base : Nat} (hbase : base ≤ 16) {c : Char}
    (h : Numeral.isDigitOf base c = true) : c ∈ looseChars := by
  have hsixteen : Numeral.isDigitOf 16 c = true := by
    obtain ⟨k, hk, hsmall⟩ := (Option.any_eq_true _ _).mp h
    rw [decide_eq_true_eq] at hsmall
    exact (Option.any_eq_true _ _).mpr ⟨k, hk, decide_eq_true (by omega)⟩
  have hbound : c.toNat < 103 := by
    unfold Numeral.isDigitOf Numeral.digitValue? at hsixteen
    split at hsixteen
    · rename_i hdigit
      have hgreatest : c.toNat ≤ 57 := (Char.isDigit_iff_toNat.mp hdigit).2
      omega
    · split at hsixteen
      · rw [Option.any_some, decide_eq_true_eq] at hsixteen
        omega
      · split at hsixteen
        · rw [Option.any_some, decide_eq_true_eq] at hsixteen
          omega
        · cases hsixteen
  -- No digit is beyond `f`, which leaves few characters to try.
  have hall : ∀ k < 103, Numeral.isDigitOf 16 (Char.ofNat k) = true →
      Char.ofNat k ∈ looseChars := by
    decide +kernel
  rw [← Char.ofNat_toNat c] at hsixteen ⊢
  exact hall c.toNat hbound hsixteen

theorem mem_looseChars_of_numeral? {base : Nat} (hbase : base ≤ 16) {digits : List Char} {n : Nat}
    (h : numeral? base digits = some n) : ∀ c ∈ digits, c ∈ looseChars := by
  obtain ⟨hform, -⟩ := Option.ite_none_right_eq_some.mp h
  rw [Bool.and_eq_true] at hform
  exact fun c hc => mem_looseChars_of_isDigitOf hbase (List.all_eq_true.mp hform.2 c hc)

theorem mem_looseChars_of_number? {cs : List Char} {n : Nat} (h : number? cs = some n) :
    ∀ c ∈ cs, c ∈ looseChars := by
  unfold number? at h
  split at h
  · exact List.forall_mem_cons.mpr ⟨by decide, List.forall_mem_cons.mpr
      ⟨by decide, mem_looseChars_of_numeral? (by decide) h⟩⟩
  · exact List.forall_mem_cons.mpr ⟨by decide, List.forall_mem_cons.mpr
      ⟨by decide, mem_looseChars_of_numeral? (by decide) h⟩⟩
  · exact mem_looseChars_of_numeral? (by decide) h
  · exact mem_looseChars_of_numeral? (by decide) h

section Loose

variable {cs : List Char} {n : Nat}

/-- Every part of a loose spelling is a number. -/
theorem exists_number?_of_loose? (h : loose? cs = some n) {part : List Char}
    (hpart : part ∈ Text.splitChars '.' cs) : ∃ k, number? part = some k := by
  obtain ⟨numbers, hnumbers, -⟩ := Option.bind_eq_some_iff.mp h
  refine Option.ne_none_iff_exists'.mp fun hnone => ?_
  cases (mapM_eq_none_iff.mpr ⟨part, hpart, hnone⟩).symm.trans hnumbers

theorem mem_looseChars_of_loose? (h : loose? cs = some n) : ∀ c ∈ cs, c ∈ looseChars := by
  intro c hc
  rw [← Text.intercalate_splitChars '.' cs] at hc
  rcases Naming.mem_intercalate hc with hpoint | ⟨part, hpart, hmem⟩
  · rw [List.mem_singleton.mp hpoint]
    decide
  · obtain ⟨k, hk⟩ := exists_number?_of_loose? h hpart
    exact mem_looseChars_of_number? hk c hmem

theorem ne_nil_of_loose? (h : loose? cs = some n) : cs ≠ [] := by
  rintro rfl
  cases h

/-- No point is at the end of a loose spelling. -/
theorem getLast?_ne_of_loose? (h : loose? cs = some n) : cs.getLast? ≠ some '.' := by
  intro hlast
  obtain ⟨lead, rfl⟩ := List.getLast?_eq_some_iff.mp hlast
  have hempty : [] ∈ Text.splitChars '.' (lead ++ ['.']) := by
    rw [Text.splitChars_append]
    exact List.mem_append_right _ (List.mem_singleton_self _)
  obtain ⟨k, hk⟩ := exists_number?_of_loose? h hempty
  cases hk

end Loose

/-! ### Addresses as hosts -/

/-- The short addresses of this machine and of private networks: 0.0.0.0 alone, and those that begin
as 127/8, 10/8, 172.16/12, 192.168/16 and 169.254/16 do. -/
def IsBlocked (n : Nat) : Prop :=
  n = 0 ∨ n / 2 ^ 24 = 127 ∨ n / 2 ^ 24 = 10 ∨ n / 2 ^ 20 = 172 * 16 + 1 ∨
    n / 2 ^ 16 = 192 * 256 + 168 ∨ n / 2 ^ 16 = 169 * 256 + 254

theorem IsBlocked.lt {n : Nat} (h : IsBlocked n) : n < 2 ^ 32 := by
  unfold IsBlocked at h
  omega

theorem isPrivate_short_iff (n : Nat) : (Address.short n).isPrivate = true ↔ IsBlocked n := by
  simp only [Address.isPrivate, privateNetworks, Network.has, ofOctets, Address.unmapped,
    List.any_cons, List.any_nil, Nat.shiftRight_eq_div_pow, Bool.or_eq_true, Bool.or_false,
    beq_iff_eq]
  unfold IsBlocked
  omega

/-- Without colons nothing is read as a long address. -/
theorem long?_eq_none {cs : List Char} (hcolon : ':' ∉ cs) : long? cs = none := by
  have hnone : ∀ part : List Char, ':' ∉ part → groups? part = none := by
    intro part hpart
    unfold groups? groupTexts
    rw [Text.splitChars_of_notMem hpart]
    rfl
  have haddress : groups? (cs.takeWhile (· ≠ '%')) = none :=
    hnone _ fun hmem => hcolon ((List.takeWhile_prefix _).subset hmem)
  unfold long?
  dsimp only
  rw [haddress]
  split
  · rfl
  · split <;> rfl

/-- Without colons and slashes an address is read if it is a short one. -/
theorem read_ofList {cs : List Char} (hcolon : ':' ∉ cs) (hslash : '/' ∉ cs) :
    Address.read (String.ofList cs) = (short? cs).map Address.short := by
  have hcontains : cs.contains '/' = false := by
    rw [List.contains_eq_mem, decide_eq_false_iff_not]
    exact hslash
  unfold Address.read
  rw [String.toList_ofList]
  dsimp only
  rw [hcontains, long?_eq_none hcolon]
  cases short? cs <;> rfl

end ClientGen.Net
