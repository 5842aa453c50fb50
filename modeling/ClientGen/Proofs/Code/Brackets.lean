import ClientGen.Code.Struct
import ClientGen.Proofs.Json.Roundtrip
import ClientGen.Proofs.TypeExpr

/-!
# Brackets of generated code

A scan of code keeps the brackets that are open, and knows when it is inside a text in quotes.  The
patterns and comments that types may hold have no quotes and only whole pairs of brackets, so it
passes over them as over other code.  What leaves the scan as it was (`IsBalanced`) can be put
anywhere: it does not end what stands around it.  Literals are balanced (`isBalanced_ofValue`), and
so are the types of schemas (`isTypeText_ofSchema`) and of parameters (`isTypeText_parameterType`)
and annotations (`isBalanced_render`); commas stand between their brackets only.
-/

namespace ClientGen.Code

/-! ### Scans -/

/-- Where in code a scan stands. -/
inductive Place where
  | code
  /-- Between quotes. -/
  | text
  /-- Between quotes and behind a backslash. -/
  | escape
  deriving DecidableEq

/-- A scan of code: where it stands, and the brackets that are to close, innermost first. -/
structure Scan where
  place : Place
  awaited : List Char
  deriving DecidableEq

/-- A scan in code with no open bracket. -/
def Scan.start : Scan := ⟨.code, []⟩

/-- The bracket that closes an opening one. -/
def closing? (c : Char) : Option Char :=
  if c = '(' then some ')'
  else if c = '[' then some ']'
  else if c = '\x7b' then some '\x7d'
  else none

/-- Whether a character closes a bracket. -/
def closes (c : Char) : Bool :=
  c == ')' || c == ']' || c == '\x7d'

/-- One step of a scan; a comma outside of all brackets is passed over only where `commas` says
so. -/
def Scan.step (commas : Bool) (s : Scan) (c : Char) : Option Scan :=
  match s.place with
  | .code =>
    if c = '"' then some { s with place := .text }
    else match closing? c with
      | some closing => some { s with awaited := closing :: s.awaited }
      | none =>
        if closes c then
          if s.awaited.head? = some c then some { s with awaited := s.awaited.tail } else none
        else if c = ',' ∧ s.awaited = [] ∧ commas = false then none
        else some s
  | .text =>
    if c = '"' then some { s with place := .code }
    else if c = '\\' then some { s with place := .escape }
    else some s
  | .escape => some { s with place := .text }

/-- A scan of some characters. -/
def Scan.run (commas : Bool) (s : Scan) (cs : List Char) : Option Scan :=
  cs.foldlM (Scan.step commas) s

/-- Code that a scan leaves as it was, with commas outside of its brackets or without. -/
def IsBalanced (commas : Bool) (cs : List Char) : Prop :=
  Scan.start.run commas cs = some .start

instance (commas : Bool) (cs : List Char) : Decidable (IsBalanced commas cs) :=
  inferInstanceAs (Decidable (_ = _))

namespace Scan

/-- A scan inside more brackets. -/
def inside (s : Scan) (outer : List Char) : Scan :=
  { s with awaited := s.awaited ++ outer }

theorem run_append (commas : Bool) (s : Scan) (cs ds : List Char) :
    s.run commas (cs ++ ds) = (s.run commas cs).bind fun s => s.run commas ds :=
  List.foldlM_append

theorem run_cons (commas : Bool) (s : Scan) (c : Char) (cs : List Char) :
    s.run commas (c :: cs) = (s.step commas c).bind fun s => s.run commas cs :=
  List.foldlM_cons

/-- A step is the same inside more brackets, where commas may stand in any case. -/
theorem step_inside {commas commas' : Bool} {s s' : Scan} {c : Char} {outer : List Char}
    (hcommas : outer = [] → commas = true → commas' = true) (h : s.step commas c = some s') :
    (s.inside outer).step commas' c = some (s'.inside outer) := by
  obtain ⟨place, awaited⟩ := s
  cases place with
  | code =>
    simp only [step, inside] at h ⊢
    by_cases hquote : c = '"'
    · rw [if_pos hquote] at h ⊢
      cases h
      rfl
    · rw [if_neg hquote] at h ⊢
      cases hclosing : closing? c with
      | some closing =>
        rw [hclosing] at h
        cases h
        rfl
      | none =>
        rw [hclosing] at h
        simp only at h ⊢
        by_cases hcloses : closes c = true
        · rw [if_pos hcloses] at h ⊢
          cases awaited with
          | nil => cases h
          | cons first rest =>
            split at h
            · rename_i hfirst
              cases h
              exact if_pos hfirst
            · cases h
        · rw [if_neg hcloses] at h ⊢
          split at h
          · cases h
          · rename_i hcomma
            cases h
            refine if_neg ?_
            rintro ⟨rfl, hnone, hfalse⟩
            obtain ⟨hawaited, houter⟩ := List.append_eq_nil_iff.mp hnone
            have htrue : commas = true := by
              rw [← Bool.not_eq_false]
              exact fun hfalse => hcomma ⟨rfl, hawaited, hfalse⟩
            rw [hcommas houter htrue] at hfalse
            cases hfalse
  | text =>
    simp only [step, inside] at h ⊢
    split_ifs at h ⊢ <;> cases h <;> rfl
  | escape =>
    cases h
    rfl

/-- A run is the same inside more brackets. -/
theorem run_inside {commas commas' : Bool} {s s' : Scan} {cs : List Char} {outer : List Char}
    (hcommas : outer = [] → commas = true → commas' = true) (h : s.run commas cs = some s') :
    (s.inside outer).run commas' cs = some (s'.inside outer) := by
  induction cs generalizing s with
  | nil =>
    cases h
    rfl
  | cons c cs ih =>
    rw [run_cons, Option.bind_eq_some_iff] at h
    obtain ⟨next, hnext, hmore⟩ := h
    rw [run_cons, step_inside hcommas hnext]
    exact ih hmore

end Scan

/-! ### Balanced code -/

namespace IsBalanced

variable {commas : Bool} {cs ds : List Char}

/-- Balanced code is passed over wherever commas may stand that it has outside of its brackets. -/
theorem run_eq (h : IsBalanced commas cs) {commas' : Bool} {awaited : List Char}
    (hcommas : awaited = [] → commas = true → commas' = true) :
    Scan.run commas' ⟨.code, awaited⟩ cs = some ⟨.code, awaited⟩ :=
  Scan.run_inside hcommas h

theorem nil (commas : Bool) : IsBalanced commas [] := rfl

theorem append (hcs : IsBalanced commas cs) (hds : IsBalanced commas ds) :
    IsBalanced commas (cs ++ ds) := by
  rw [IsBalanced, Scan.run_append, hcs]
  exact hds

theorem flatMap {α : Type} {parts : List α} {f : α → List Char}
    (h : ∀ part ∈ parts, IsBalanced commas (f part)) : IsBalanced commas (parts.flatMap f) := by
  induction parts with
  | nil => exact .nil commas
  | cons part parts ih =>
    obtain ⟨hpart, hparts⟩ := List.forall_mem_cons.mp h
    exact hpart.append (ih hparts)

/-- What has no commas outside of its brackets is balanced in any case. -/
theorem mono (h : IsBalanced false cs) (commas : Bool) : IsBalanced commas cs :=
  h.run_eq fun _ => nofun

/-- Between brackets there may be commas. -/
theorem around {before inner after : List Char} (awaited : List Char)
    (hbefore : Scan.start.run commas before = some ⟨.code, awaited⟩) (hawaited : awaited ≠ [])
    (hinner : IsBalanced true inner)
    (hafter : Scan.run commas ⟨.code, awaited⟩ after = some .start) :
    IsBalanced commas (before ++ (inner ++ after)) := by
  rw [IsBalanced, Scan.run_append, hbefore, Option.bind_some, Scan.run_append,
    hinner.run_eq fun hnone => absurd hnone hawaited]
  exact hafter

end IsBalanced

/-- Characters that mean nothing to a scan: those of words and numbers. -/
def isPlain (c : Char) : Bool :=
  c.isAlphanum || c == '.' || c == '-' || c == '+'

/-- What is no plain character is told from those that are. -/
theorem ne_of_isPlain {c d : Char} (h : isPlain c = true) (hd : isPlain d = false) : c ≠ d := by
  rintro rfl
  rw [h] at hd
  cases hd

theorem step_of_isPlain {commas : Bool} {awaited : List Char} {c : Char} (h : isPlain c = true) :
    Scan.step commas ⟨.code, awaited⟩ c = some ⟨.code, awaited⟩ := by
  have hclosing : closing? c = none := by
    rw [closing?, if_neg (ne_of_isPlain h rfl), if_neg (ne_of_isPlain h rfl),
      if_neg (ne_of_isPlain h rfl)]
  have hcloses : closes c = false := by
    rw [closes, beq_false_of_ne (ne_of_isPlain h rfl), beq_false_of_ne (ne_of_isPlain h rfl),
      beq_false_of_ne (ne_of_isPlain h rfl)]
    rfl
  simp only [Scan.step, if_neg (ne_of_isPlain h rfl : c ≠ '"'), hclosing, hcloses,
    Bool.false_eq_true, if_false, if_neg fun hcomma : c = ',' ∧ _ =>
      ne_of_isPlain h rfl hcomma.1]

/-- **Plain characters are balanced.** -/
theorem isBalanced_of_isPlain (commas : Bool) {cs : List Char} (h : ∀ c ∈ cs, isPlain c = true) :
    IsBalanced commas cs := by
  induction cs with
  | nil => exact .nil commas
  | cons c cs ih =>
    obtain ⟨hc, hcs⟩ := List.forall_mem_cons.mp h
    rw [IsBalanced, Scan.run_cons, Scan.start, step_of_isPlain hc]
    exact ih hcs

/-! ### Texts in quotes -/

theorem step_text (commas : Bool) (awaited : List Char) {c : Char} (hquote : c ≠ '"')
    (hbackslash : c ≠ '\\') :
    Scan.step commas ⟨.text, awaited⟩ c = some ⟨.text, awaited⟩ := by
  simp only [Scan.step, if_neg hquote, if_neg hbackslash]

/-- The inside of a text is passed over, its escapes with it. -/
theorem run_of_isEscaped (commas : Bool) (awaited : List Char) {cs : List Char}
    (h : Json.IsEscaped cs) : Scan.run commas ⟨.text, awaited⟩ cs = some ⟨.text, awaited⟩ := by
  have hescape : ∀ (letter : Char) (cs : List Char),
      Scan.run commas ⟨.text, awaited⟩ ('\\' :: letter :: cs) =
        Scan.run commas ⟨.text, awaited⟩ cs := fun _ _ => rfl
  induction h with
  | nil => rfl
  | plain hquote hbackslash _ _ ih =>
    rw [Scan.run_cons, step_text commas awaited hquote hbackslash]
    exact ih
  | short _ _ ih =>
    rw [hescape]
    exact ih
  | @unit digits _ hcount hdigits _ ih =>
    -- the digits of an escape are neither quotes nor backslashes
    have hpassed : Scan.run commas ⟨.text, awaited⟩ digits = some ⟨.text, awaited⟩ := by
      clear ih hcount
      induction digits with
      | nil => rfl
      | cons digit digits ih =>
        obtain ⟨hdigit, hdigits⟩ := List.forall_mem_cons.mp hdigits
        have hne : ∀ c : Char, (Text.hexValue? c).isSome = false → digit ≠ c := by
          rintro c hc rfl
          rw [hdigit] at hc
          cases hc
        rw [Scan.run_cons, step_text commas awaited (hne '"' rfl) (hne '\\' rfl)]
        exact ih hdigits
    rw [List.cons_append, List.cons_append, hescape, Scan.run_append, hpassed]
    exact ih

/-- **A text is balanced**, whatever it holds. -/
theorem isBalanced_stringChars (commas : Bool) (s : String) :
    IsBalanced commas (Json.stringChars .unicode s) := by
  rw [IsBalanced, Json.stringChars, List.cons_append, Scan.run_cons]
  change (Scan.run commas ⟨.text, []⟩ _) = _
  rw [Scan.run_append, run_of_isEscaped commas [] (Json.isEscaped_flatMap_escape s.toList)]
  rfl

/-! ### Numbers -/

theorem isPlain_of_isDigit {c : Char} (h : c.isDigit = true) : isPlain c = true := by
  rw [isPlain, Char.isAlphanum, h, Bool.or_true, Bool.true_or, Bool.true_or, Bool.true_or]

theorem isPlain_of_isAlphanum {c : Char} (h : c.isAlphanum = true) : isPlain c = true := by
  rw [isPlain, h, Bool.true_or, Bool.true_or, Bool.true_or]

/-- A text of plain characters. -/
def IsPlainText (s : String) : Prop :=
  ∀ c ∈ s.toList, isPlain c = true

theorem isPlainText_append {first second : String} :
    IsPlainText (first ++ second) ↔ IsPlainText first ∧ IsPlainText second := by
  unfold IsPlainText
  rw [String.toList_append]
  exact List.forall_mem_append

instance (s : String) : Decidable (IsPlainText s) :=
  decidable_of_iff (s.toList.all isPlain) (by simp [IsPlainText])

theorem isPlainText_toString (n : Nat) : IsPlainText (toString n) :=
  fun _ hc => isPlain_of_isDigit (Naming.isDigit_of_mem_toString hc)

theorem isPlainText_toString_int (n : Int) : IsPlainText (toString n) := by
  intro c hc
  cases n with
  | ofNat n =>
    rw [Json.toList_toString_ofNat] at hc
    exact isPlain_of_isDigit (Json.isDigit_of_mem_toDigits hc)
  | negSucc n =>
    rw [Json.toList_toString_negSucc] at hc
    rcases List.mem_cons.mp hc with rfl | hdigit
    · rfl
    · exact isPlain_of_isDigit (Json.isDigit_of_mem_toDigits hdigit)

theorem isPlainText_ofList {cs : List Char} (h : ∀ c ∈ cs, isPlain c = true) :
    IsPlainText (String.ofList cs) := by
  intro c hc
  rw [String.toList_ofList] at hc
  exact h c hc

theorem isPlainText_placePoint {ds : String} (h : IsPlainText ds) (point : Int) :
    IsPlainText (Decimal.placePoint ds point) := by
  have hzeros : ∀ n, IsPlainText (String.ofList (List.replicate n '0')) := fun n =>
    isPlainText_ofList fun c hc => by rw [(List.mem_replicate.mp hc).2]; rfl
  have htake : ∀ n, IsPlainText (String.ofList (ds.toList.take n)) := fun n =>
    isPlainText_ofList fun c hc => h c (List.mem_of_mem_take hc)
  have hdrop : ∀ n, IsPlainText (String.ofList (ds.toList.drop n)) := fun n =>
    isPlainText_ofList fun c hc => h c (List.mem_of_mem_drop hc)
  have hpoint : IsPlainText "." := by decide
  unfold Decimal.placePoint
  simp only []
  split
  · split
    · have hlead : IsPlainText "0." := by decide
      exact isPlainText_append.mpr ⟨isPlainText_append.mpr ⟨hlead, hzeros _⟩, h⟩
    · split
      · have htail : IsPlainText ".0" := by decide
        exact isPlainText_append.mpr ⟨isPlainText_append.mpr ⟨h, hzeros _⟩, htail⟩
      · simp only [List.splitAt_eq, isPlainText_append]
        exact ⟨⟨htake _, hpoint⟩, hdrop _⟩
  · simp only [isPlainText_append]
    refine ⟨⟨⟨htake _, ?_⟩, ?_⟩, ?_⟩
    · split
      · decide
      · exact isPlainText_append.mpr ⟨hpoint, hdrop _⟩
    · split <;> decide
    · split
      · exact isPlainText_append.mpr ⟨by decide, isPlainText_toString _⟩
      · exact isPlainText_toString _

theorem isPlainText_floatText (x : Float) : IsPlainText (Decimal.floatText .json x) := by
  unfold Decimal.floatText
  simp only []
  split
  · decide
  · split
    · split <;> decide
    · have hsign : ∀ negative : Bool, IsPlainText (if negative = true then "-" else "") := by
        decide
      split
      · exact isPlainText_append.mpr ⟨hsign _, by decide⟩
      · exact isPlainText_append.mpr ⟨hsign _, isPlainText_placePoint (isPlainText_toString _) _⟩

/-! ### Literals -/

/-- Balanced parts are balanced with commas between them. -/
theorem isBalanced_separated {parts : List (List Char)} (h : ∀ part ∈ parts, IsBalanced true part) :
    IsBalanced true (Json.separated [',', ' '] parts) := by
  induction parts with
  | nil => exact .nil true
  | cons part parts ih =>
    obtain ⟨hpart, hparts⟩ := List.forall_mem_cons.mp h
    have hseparator : IsBalanced true [',', ' '] := by decide
    cases parts with
    | nil => exact hpart
    | cons next parts =>
      rw [Json.separated_cons_cons]
      exact hpart.append (hseparator.append (ih hparts))

/-- A collection is balanced when its parts are. -/
theorem isBalanced_collection {opening closing : Char}
    (hopening : Scan.start.run false [opening] = some ⟨.code, [closing]⟩)
    (hclosing : Scan.run false ⟨.code, [closing]⟩ [closing] = some .start)
    {parts : List (List Char)} (h : ∀ part ∈ parts, IsBalanced false part) :
    IsBalanced false (opening :: Json.separated [',', ' '] parts ++ [closing]) :=
  .around [closing] hopening (List.cons_ne_nil closing [])
    (isBalanced_separated fun part hpart => (h part hpart).mono true) hclosing

/-- An entry is balanced when its value is. -/
theorem isBalanced_entry (name : String) {value : List Char} (h : IsBalanced false value) :
    IsBalanced false (Json.stringChars .unicode name ++ [':', ' '] ++ value) := by
  have hcolon : IsBalanced false [':', ' '] := by decide
  exact ((isBalanced_stringChars false name).append hcolon).append h

mutual

/-- **A value in JSON is balanced.** -/
theorem isBalanced_chars : (value : Value) → IsBalanced false (Json.chars .unicode value)
  | .null => by decide
  | .bool true => by decide
  | .bool false => by decide
  | .int n => isBalanced_of_isPlain false (isPlainText_toString_int n)
  | .float x => isBalanced_of_isPlain false (isPlainText_floatText x)
  | .str s => isBalanced_stringChars false s
  | .list items => isBalanced_collection rfl rfl (isBalanced_itemChars items)
  | .tuple items => isBalanced_collection rfl rfl (isBalanced_itemChars items)
  | .object fields => isBalanced_collection rfl rfl (isBalanced_fieldChars fields)
  | .mapping entries => isBalanced_collection rfl rfl (isBalanced_entryChars entries)
  | .date d => isBalanced_stringChars false (Value.date d).plain
  | .moment m => isBalanced_stringChars false (Value.moment m).plain
  | .octets bytes => isBalanced_stringChars false (Value.octets bytes).plain
  | .set members => isBalanced_stringChars false (Value.set members).plain

theorem isBalanced_itemChars :
    (items : List Value) → ∀ part ∈ Json.itemChars .unicode items, IsBalanced false part
  | [] => fun _ h => nomatch h
  | item :: rest =>
    List.forall_mem_cons.mpr ⟨isBalanced_chars item, isBalanced_itemChars rest⟩

theorem isBalanced_fieldChars : (fields : List (String × Value)) →
    ∀ part ∈ Json.fieldChars .unicode fields, IsBalanced false part
  | [] => fun _ h => nomatch h
  | (name, value) :: rest => List.forall_mem_cons.mpr
    ⟨isBalanced_entry name (isBalanced_chars value), isBalanced_fieldChars rest⟩

theorem isBalanced_entryChars : (entries : List (Value × Value)) →
    ∀ part ∈ Json.entryChars .unicode entries, IsBalanced false part
  | [] => fun _ h => nomatch h
  | (key, value) :: rest => List.forall_mem_cons.mpr
    ⟨isBalanced_entry (Json.keyText key) (isBalanced_chars value), isBalanced_entryChars rest⟩

end

/-- **A literal is balanced**, whatever the value. -/
theorem isBalanced_ofValue (value : Value) : IsBalanced false (Literal.ofValue value).toList := by
  have hjson : IsBalanced false (Json.compact .unicode value).toList := by
    rw [Json.compact, String.toList_ofList]
    exact isBalanced_chars value
  unfold Literal.ofValue
  split
  · split
    · exact isBalanced_of_isPlain false (isPlainText_toString_int _)
    · exact hjson
  · exact hjson

/-! ### Types -/

/-- Whether a text begins like a type: with the word of one, which is not that of an optional
field. -/
def leadsType : List Char → Bool
  | 'S' :: _ :: c :: _ => c != 'o'
  | _ => false

theorem leadsType_append {lead : List Char} (h : leadsType lead = true) (rest : List Char) :
    leadsType (lead ++ rest) = true := by
  unfold leadsType at h
  split at h
  · exact h
  · cases h

/-- The text of a type. -/
structure IsTypeText (text : List Char) : Prop where
  leads : leadsType text = true
  balanced : IsBalanced false text

namespace IsTypeText

/-- A type may be followed by what is balanced. -/
theorem append {text rest : List Char} (h : IsTypeText text) (hrest : IsBalanced false rest) :
    IsTypeText (text ++ rest) :=
  ⟨leadsType_append h.leads rest, h.balanced.append hrest⟩

/-- A type with something between its brackets. -/
theorem around {before inner after : List Char} (awaited : List Char)
    (hleads : leadsType before = true)
    (hbefore : Scan.start.run false before = some ⟨.code, awaited⟩) (hawaited : awaited ≠ [])
    (hinner : IsBalanced true inner)
    (hafter : Scan.run false ⟨.code, awaited⟩ after = some .start) :
    IsTypeText (before ++ (inner ++ after)) :=
  ⟨leadsType_append hleads _, .around awaited hbefore hawaited hinner hafter⟩

/-- A type that is made of something in parentheses. -/
theorem inParentheses {before inner : List Char} (hleads : leadsType before = true)
    (hbefore : Scan.start.run false before = some ⟨.code, [')']⟩)
    (hinner : IsBalanced true inner) : IsTypeText (before ++ (inner ++ ")".toList)) :=
  .around [')'] hleads hbefore (by decide) hinner (by decide)

end IsTypeText

instance (text : List Char) : Decidable (IsTypeText text) :=
  decidable_of_iff (leadsType text = true ∧ IsBalanced false text)
    ⟨fun h => ⟨h.1, h.2⟩, fun h => ⟨h.leads, h.balanced⟩⟩

open TypeExpr (NameStyle)

variable {style : NameStyle}

theorem isTypeText_constructor :
    ∀ constructor ∈ TypeExpr.constructors, IsTypeText constructor.toList := by
  decide

theorem isTypeText_unknown : IsTypeText (TypeExpr.unknown.render style).toList := by
  have htext : IsTypeText "S.Unknown".toList := by decide
  exact htext

theorem isTypeText_named {name : String} (h : ∀ c ∈ name.toList, c.isAlphanum = true) :
    IsTypeText ((TypeExpr.named name).render style).toList := by
  have hname : ∀ commas, IsBalanced commas name.toList :=
    fun commas => isBalanced_of_isPlain commas fun c hc => isPlain_of_isAlphanum (h c hc)
  cases style with
  | bare =>
    rw [TypeExpr.toList_render_bare]
    exact .inParentheses (by decide) (by decide) (hname true)
  | qualified =>
    have hlead : IsTypeText "Schemas.".toList := by decide
    rw [TypeExpr.toList_render_qualified]
    exact hlead.append (hname false)

theorem isTypeText_ofScalar (type format : Option String) :
    IsTypeText ((TypeExpr.ofScalar type format).render style).toList := by
  have hwritable := TypeExpr.isWritable_ofScalar type format
  revert hwritable
  unfold TypeExpr.ofScalar
  dsimp only
  split
  · intro hwritable
    cases hwritable with
    | primitive hconstructor => exact isTypeText_constructor _ hconstructor
  · exact fun _ => isTypeText_unknown

theorem isTypeText_array {item : TypeExpr} (h : IsTypeText (item.render style).toList) :
    IsTypeText ((TypeExpr.array item).render style).toList := by
  rw [TypeExpr.toList_render_array]
  exact .inParentheses (by decide) (by decide) (h.balanced.mono true)

theorem isTypeText_record {value : TypeExpr} (h : IsTypeText (value.render style).toList) :
    IsTypeText ((TypeExpr.record value).render style).toList := by
  rw [TypeExpr.toList_render_record]
  exact .around ['\x7d', ')'] (by decide) (by decide) (by decide) (h.balanced.mono true)
    (by decide)

theorem isTypeText_nullOr {type : String} (h : IsTypeText type.toList) :
    IsTypeText ("S.NullOr(" ++ type ++ ")").toList := by
  rw [TypeExpr.toList_around]
  exact .inParentheses (by decide) (by decide) (h.balanced.mono true)

theorem isTypeText_literals (values : List Value) :
    IsTypeText ((TypeExpr.literals values).render style).toList := by
  cases values with
  | nil =>
    have htext : IsTypeText "S.Never".toList := by decide
    exact htext
  | cons first rest =>
    have hparts : ∀ part ∈ ((first :: rest).map Literal.ofValue).map String.toList,
        IsBalanced true part :=
      List.forall_mem_map.mpr (List.forall_mem_map.mpr fun value _ =>
        (isBalanced_ofValue value).mono true)
    have htext : ((TypeExpr.literals (first :: rest)).render style).toList = _ :=
      TypeExpr.toList_around "S.Literal("
        (String.intercalate ", " ((first :: rest).map Literal.ofValue)) ")"
    rw [htext, String.toList_intercalate, TypeExpr.intercalate_eq_separated]
    exact .inParentheses (by decide) (by decide) (isBalanced_separated hparts)

theorem isTypeText_orNull (nullable : Bool) {type : TypeExpr}
    (h : IsTypeText (type.render style).toList) :
    IsTypeText ((TypeExpr.orNull nullable type).render style).toList := by
  cases nullable with
  | false => exact h
  | true => exact isTypeText_nullOr h

mutual

/-- **The type of a schema is the text of a type**, whatever its names and literals. -/
theorem isTypeText_ofSchema :
    (schema : Schema) → IsTypeText ((TypeExpr.ofSchema schema).render style).toList
  | .reference info _ name => by
    rw [TypeExpr.ofSchema]
    exact isTypeText_orNull _ (isTypeText_named fun _ => Naming.isAlphanum_of_mem_pascal)
  | .primitive info type format => by
    rw [TypeExpr.ofSchema]
    exact isTypeText_orNull _ (isTypeText_ofScalar type format)
  | .array info items => by
    rw [TypeExpr.ofSchema]
    exact isTypeText_orNull _ (isTypeText_array (isTypeText_ofOptional items))
  | .object info properties _ additional => by
    rw [TypeExpr.ofSchema]
    refine isTypeText_orNull _ ?_
    split
    · exact isTypeText_record (isTypeText_ofAdditional additional)
    · have hinline : IsTypeText TypeExpr.inlineObjectText.toList := by decide
      exact hinline
  | .enumeration info values _ => by
    rw [TypeExpr.ofSchema]
    exact isTypeText_orNull _ (isTypeText_literals values)

theorem isTypeText_ofOptional : (schema : Option Schema) →
    IsTypeText ((TypeExpr.ofOptional schema).render style).toList
  | some schema => isTypeText_ofSchema schema
  | none => isTypeText_unknown

theorem isTypeText_ofAdditional : (additional : Additional Schema) →
    IsTypeText ((TypeExpr.ofAdditional additional).render style).toList
  | .schema schema => isTypeText_ofSchema schema
  | .allowed _ => isTypeText_unknown
  | .unsaid => isTypeText_unknown

end

/-- **The type of a parameter is the text of a type.** -/
theorem isTypeText_parameterType (parameter : Parameter) :
    IsTypeText (parameterType parameter).toList := by
  have hencoded : ∀ {constructor text : String}, Entries.get? constructor textEncoded = some text →
      IsTypeText text.toList := by
    have hall : ∀ text ∈ textEncoded.map (·.2), IsTypeText text.toList := by decide
    intro constructor text hfound
    exact hall text (TypeExpr.mem_of_get? hfound)
  unfold parameterType
  split
  · decide
  · rename_i schema _
    have hown : IsTypeText (TypeExpr.schemaText .qualified (some schema)).toList :=
      isTypeText_ofSchema schema
    dsimp only
    split
    · cases hfound : Entries.get? _ textEncoded with
      | none => exact hown
      | some text => exact hencoded hfound
    · split
      · rename_i hfound
        exact isTypeText_nullOr (hencoded hfound)
      · exact hown
    · exact hown

/-! ### Annotations -/

/-- An annotation whose key and value are balanced. -/
def IsBalancedField (field : TypeNote.Field) : Prop :=
  IsBalanced true field.1.toList ∧ IsBalanced false field.2.toList

theorem isBalancedField_present {key : String} (hkey : IsBalanced true key.toList) (value : Value)
    {render : String → String}
    (hrender : ∀ text, IsBalanced false text.toList → IsBalanced false (render text).toList) :
    ∀ field ∈ TypeNote.present key value render, IsBalancedField field := by
  have hfield : IsBalancedField (key, render (Literal.ofValue value)) :=
    ⟨hkey, hrender _ (isBalanced_ofValue value)⟩
  unfold TypeNote.present
  split
  · exact fun _ h => nomatch h
  · exact List.forall_mem_singleton.mpr hfield

theorem isBalanced_single {text : String} (h : IsBalanced false text.toList) :
    IsBalanced false (TypeNote.single text).toList := by
  rw [TypeNote.single, TypeExpr.toList_around]
  exact .around [']'] (by decide) (by decide) (h.mono true) (by decide)

/-- The bounds that a schema may set. -/
def boundNames : List String :=
  ["minimum", "maximum", "minLength", "maxLength", "pattern"]

theorem mem_boundNames {info : SchemaInfo} {bound : String × Value}
    (h : bound ∈ TypeNote.bounds info) : bound.1 ∈ boundNames := by
  obtain ⟨entry, hentry, hsome⟩ := List.mem_filterMap.mp h
  obtain ⟨value, -, rfl⟩ := Option.map_eq_some_iff.mp hsome
  exact List.mem_map_of_mem (f := Prod.fst) hentry

theorem isBalanced_bound {info : SchemaInfo} {bound : String × Value}
    (h : bound ∈ TypeNote.bounds info) :
    IsBalanced true (bound.1 ++ ": " ++ Literal.ofValue bound.2).toList := by
  have hnames : ∀ name ∈ boundNames, IsBalanced true name.toList := by decide
  have hcolon : IsBalanced true ": ".toList := by decide
  rw [String.toList_append, String.toList_append]
  exact ((hnames _ (mem_boundNames h)).append hcolon).append ((isBalanced_ofValue _).mono true)

theorem isBalancedField_boundFields (info : SchemaInfo) :
    ∀ field ∈ TypeNote.boundFields info, IsBalancedField field := by
  have hparts : ∀ part ∈ ((TypeNote.bounds info).map fun bound =>
      bound.1 ++ ": " ++ Literal.ofValue bound.2).map String.toList, IsBalanced true part :=
    List.forall_mem_map.mpr (List.forall_mem_map.mpr fun _ => isBalanced_bound)
  unfold TypeNote.boundFields
  split
  · exact fun _ h => nomatch h
  · have hkey : IsBalanced true "jsonSchema".toList := by decide
    refine List.forall_mem_singleton.mpr ⟨hkey, ?_⟩
    rw [TypeExpr.toList_around, String.toList_intercalate, TypeExpr.intercalate_eq_separated]
    exact .around ['\x7d'] (by decide) (by decide) (isBalanced_separated hparts)
      (by decide)

/-- The annotations of a schema are balanced. -/
theorem isBalancedField_ofInfo (info : SchemaInfo) :
    ∀ field ∈ TypeNote.ofInfo info, IsBalancedField field := by
  have hdescription : IsBalanced true "description".toList := by decide
  have hexamples : IsBalanced true "examples".toList := by decide
  have hdefault : IsBalanced true "default".toList := by decide
  simp only [TypeNote.ofInfo, List.forall_mem_append]
  refine ⟨⟨⟨?_, ?_⟩, ?_⟩, isBalancedField_boundFields info⟩
  · split
    · exact List.forall_mem_singleton.mpr ⟨hdescription, isBalanced_ofValue _⟩
    · exact fun _ h => nomatch h
  · exact isBalancedField_present hexamples _ fun _ => isBalanced_single
  · exact isBalancedField_present hdefault _ fun _ h => h

theorem isBalancedField_ofSchema (schema : Option Schema) :
    ∀ field ∈ TypeNote.ofSchema schema, IsBalancedField field := by
  cases schema with
  | none => exact fun _ h => nomatch h
  | some schema => exact isBalancedField_ofInfo schema.info

/-- The line of an annotation is balanced. -/
theorem IsBalancedField.line {indent : String} (hindent : IsBalanced true indent.toList)
    {field : TypeNote.Field} (h : IsBalancedField field) :
    IsBalanced true (indent ++ "\t" ++ field.1 ++ ": " ++ field.2 ++ ",\n").toList := by
  have htab : IsBalanced true "\t".toList := by decide
  have hcolon : IsBalanced true ": ".toList := by decide
  have hend : IsBalanced true ",\n".toList := by decide
  simp only [String.toList_append]
  exact ((((hindent.append htab).append h.1).append hcolon).append (h.2.mono true)).append hend

/-- **Annotations are balanced** when their keys and values are. -/
theorem isBalanced_render {indent : String} (hindent : IsBalanced true indent.toList)
    {fields : List TypeNote.Field} (h : ∀ field ∈ fields, IsBalancedField field) :
    IsBalanced false (TypeNote.render indent fields).toList := by
  have hlines : IsBalanced true (String.join (fields.map fun field =>
      indent ++ "\t" ++ field.1 ++ ": " ++ field.2 ++ ",\n")).toList := by
    rw [String.toList_join]
    exact .flatMap (List.forall_mem_map.mpr fun field hfield => (h field hfield).line hindent)
  unfold TypeNote.render
  split
  · exact .nil false
  · simp only [String.toList_append]
    rw [List.append_assoc, List.append_assoc, ← List.append_assoc _ indent.toList]
    exact .around ['\x7d', ')'] (by decide) (by decide) (hlines.append hindent)
      (by decide)

/-- The annotations of a parameter are balanced. -/
theorem isBalancedField_parameter (parameter : Parameter) :
    IsBalanced false (parameterAnnotations parameter).toList := by
  have htab : IsBalanced true "\t".toList := by decide
  have hdescription : IsBalanced true "description".toList := by decide
  have hexamples : IsBalanced true "examples".toList := by decide
  refine isBalanced_render htab ?_
  simp only [List.forall_mem_append]
  refine ⟨⟨?_, isBalancedField_present hexamples _ fun _ => isBalanced_single⟩, fun field hfield =>
    isBalancedField_ofSchema parameter.schema field (List.mem_filter.mp hfield).1⟩
  split
  · split
    · exact fun _ h => nomatch h
    · exact List.forall_mem_singleton.mpr ⟨hdescription, isBalanced_ofValue _⟩
  · exact fun _ h => nomatch h

end ClientGen.Code
