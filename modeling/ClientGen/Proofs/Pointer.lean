import ClientGen.Pointer
import ClientGen.Proofs.Decimal.Numeral
import ClientGen.Proofs.Files.Tree

/-!
# Pointers lead to every part and to no other

The steps to a part of a value can be written as a pointer, and following it gives the part
(`follow_encode`).  The proof takes a segment through the three passes by which it is decoded:
percent escapes, `~1` and `~0`.  Each pass undoes one of the escapes of `encodeChar` and leaves the
others alone.

Pointers lead nowhere else, but they are read generously: where a segment names a position of a
list, every text of an integer will do, and a negative one counts from the end (`follow_eq_ok_iff`).
`followsExactly_iff` says for which pointers this makes no difference.
-/

namespace ClientGen

/-! ### Percent escapes of texts without any -/

namespace Text.Utf8

theorem decodeLossyFrom_done (skip : Nat) (done : List Char) (octets : List UInt8) :
    decodeLossyFrom skip done octets = done.reverse ++ decodeLossyFrom skip [] octets := by
  induction octets generalizing skip done with
  | nil => simp [decodeLossyFrom]
  | cons b rest ih =>
    cases skip with
    | succ skip => exact ih skip done
    | zero =>
      rw [decodeLossyFrom, decodeLossyFrom]
      cases step b rest with
      | char c size =>
        show decodeLossyFrom (size - 1) (c :: done) rest =
          done.reverse ++ decodeLossyFrom (size - 1) [c] rest
        rw [ih (size - 1) (c :: done), ih (size - 1) [c], List.reverse_cons, List.append_assoc]
        rfl
      | fault f size =>
        show decodeLossyFrom (size - 1) (replacement :: done) rest =
          done.reverse ++ decodeLossyFrom (size - 1) [replacement] rest
        rw [ih (size - 1) (replacement :: done), ih (size - 1) [replacement], List.reverse_cons,
          List.append_assoc]
        rfl

/-- An octet below 128 is the character with its number, whatever follows. -/
theorem toList_decodeLossy_cons {b : UInt8} (h : b.toNat < 128) (octets : List UInt8) :
    (decodeLossy (b :: octets)).toList = Char.ofNat b.toNat :: (decodeLossy octets).toList := by
  rw [decodeLossy, decodeLossy, String.toList_ofList, String.toList_ofList, decodeLossyFrom, step,
    if_pos h]
  exact decodeLossyFrom_done 0 [Char.ofNat b.toNat] octets

end Text.Utf8

namespace Url.Percent

/-- Octets of ASCII that wait at the front of a run are characters in front of the rest. -/
theorem decodeFrom_append (run : List UInt8) {b : UInt8} (h : b.toNat < 128) (skip : Nat)
    (cs : List Char) :
    decodeFrom (run ++ [b]) skip cs = Char.ofNat b.toNat :: decodeFrom run skip cs := by
  -- what is read is put in front of the run, so the octet stays at its far end
  induction cs generalizing run skip with
  | nil =>
    rw [decodeFrom, decodeFrom, List.reverse_append]
    exact Text.Utf8.toList_decodeLossy_cons h run.reverse
  | cons c rest ih =>
    cases skip with
    | succ skip => exact ih run skip
    | zero =>
      rw [decodeFrom, decodeFrom]
      by_cases hc : c.toNat < 128
      · rw [if_pos hc, if_pos hc]
        cases if c = '%' then escape? rest else none with
        | none => exact ih (UInt8.ofNat c.toNat :: run) 0
        | some octet => exact ih (octet :: run) 2
      · rw [if_neg hc, if_neg hc, List.reverse_append]
        show (Text.Utf8.decodeLossy (b :: run.reverse)).toList ++ _ = _
        rw [Text.Utf8.toList_decodeLossy_cons h]
        rfl

/-- A character that begins no escape stands for itself. -/
theorem decodeFrom_cons {c : Char} (hc : c ≠ '%') (rest : List Char) :
    decodeFrom [] 0 (c :: rest) = c :: decodeFrom [] 0 rest := by
  rw [decodeFrom]
  by_cases hascii : c.toNat < 128
  · have hoctet : (UInt8.ofNat c.toNat).toNat = c.toNat := Nat.mod_eq_of_lt (by omega)
    rw [if_pos hascii, if_neg hc]
    show decodeFrom ([] ++ [UInt8.ofNat c.toNat]) 0 rest = _
    rw [decodeFrom_append [] (by omega), hoctet, Char.ofNat_toNat]
  · rw [if_neg hascii]
    rfl

/-- The escape of a percent sign stands for one. -/
theorem decodeFrom_percent (rest : List Char) :
    decodeFrom [] 0 ('%' :: '2' :: '5' :: rest) = '%' :: decodeFrom [] 0 rest :=
  decodeFrom_append [] (by decide : (UInt8.ofNat '%'.toNat).toNat < 128) 0 rest

end Url.Percent

namespace Pointer

open Url.Percent (decodeFrom decodeFrom_cons decodeFrom_percent)
open Text (replaceFrom)

/-! ### The passes of decoding -/

/-- A character whose escape as `%25` is undone. -/
def withoutPercent (c : Char) : List Char :=
  if c = '~' then ['~', '0'] else if c = '/' then ['~', '1'] else [c]

/-- A character whose escapes as `%25` and `~1` are undone. -/
def withoutSlash (c : Char) : List Char :=
  if c = '~' then ['~', '0'] else [c]

/-- The first pass undoes the escapes of percent signs. -/
theorem decodeFrom_encode (cs : List Char) :
    decodeFrom [] 0 (cs.flatMap encodeChar) = cs.flatMap withoutPercent := by
  induction cs with
  | nil => rfl
  | cons c rest ih =>
    rw [List.flatMap_cons, List.flatMap_cons, encodeChar, withoutPercent]
    by_cases htilde : c = '~'
    · rw [if_pos htilde, if_pos htilde, List.cons_append, List.cons_append, List.nil_append,
        decodeFrom_cons (by decide), decodeFrom_cons (by decide), ih]
      rfl
    rw [if_neg htilde, if_neg htilde]
    by_cases hslash : c = '/'
    · rw [if_pos hslash, if_pos hslash, List.cons_append, List.cons_append, List.nil_append,
        decodeFrom_cons (by decide), decodeFrom_cons (by decide), ih]
      rfl
    rw [if_neg hslash, if_neg hslash]
    by_cases hpercent : c = '%'
    · rw [if_pos hpercent, hpercent, ← ih]
      exact decodeFrom_percent _
    · rw [if_neg hpercent, ← ih]
      exact decodeFrom_cons hpercent _

/-- The second pass undoes the escapes of slashes. -/
theorem replaceFrom_slash (cs : List Char) :
    replaceFrom ['~', '1'] ['/'] 0 (cs.flatMap withoutPercent) = cs.flatMap withoutSlash := by
  induction cs with
  | nil => rfl
  | cons c rest ih =>
    rw [List.flatMap_cons, List.flatMap_cons, withoutPercent, withoutSlash]
    by_cases htilde : c = '~'
    · rw [if_pos htilde, if_pos htilde, ← ih]
      rfl
    rw [if_neg htilde, if_neg htilde]
    by_cases hslash : c = '/'
    · rw [if_pos hslash, hslash, ← ih]
      rfl
    · have hpart : ['~', '1'].isPrefixOf (c :: rest.flatMap withoutPercent) = false := by
        rw [List.isPrefixOf_cons_cons, beq_eq_false_iff_ne.mpr (Ne.symm htilde), Bool.false_and]
      rw [if_neg hslash, ← ih]
      show replaceFrom ['~', '1'] ['/'] 0 (c :: rest.flatMap withoutPercent) = _
      rw [replaceFrom, hpart]
      rfl

/-- The third pass undoes the escapes of tildes. -/
theorem replaceFrom_tilde (cs : List Char) :
    replaceFrom ['~', '0'] ['~'] 0 (cs.flatMap withoutSlash) = cs := by
  induction cs with
  | nil => rfl
  | cons c rest ih =>
    rw [List.flatMap_cons, withoutSlash]
    by_cases htilde : c = '~'
    · rw [if_pos htilde, htilde]
      show '~' :: replaceFrom ['~', '0'] ['~'] 0 (rest.flatMap withoutSlash) = _
      rw [ih]
    · have hpart : ['~', '0'].isPrefixOf (c :: rest.flatMap withoutSlash) = false := by
        rw [List.isPrefixOf_cons_cons, beq_eq_false_iff_ne.mpr (Ne.symm htilde), Bool.false_and]
      rw [if_neg htilde]
      show replaceFrom ['~', '0'] ['~'] 0 (c :: rest.flatMap withoutSlash) = _
      rw [replaceFrom, hpart]
      show c :: replaceFrom ['~', '0'] ['~'] 0 (rest.flatMap withoutSlash) = _
      rw [ih]

/-- **A name is read back from its segment.** -/
theorem decodeSegment_encode (name : String) :
    decodeSegment (String.ofList (name.toList.flatMap encodeChar)) = name := by
  apply String.toList_injective
  simp only [decodeSegment, Text.replace, Url.Percent.decode, String.toList_ofList,
    decodeFrom_encode]
  show replaceFrom ['~', '0'] ['~'] 0
    (replaceFrom ['~', '1'] ['/'] 0 (name.toList.flatMap withoutPercent)) = _
  rw [replaceFrom_slash, replaceFrom_tilde]

/-! ### The segments of a pointer -/

/-- The name that the segment of a step stands for: a position is named by its digits. -/
def Step.name : Step → String
  | .key name => name
  | .position i => toString i

theorem segment_eq (step : Step) : step.segment = step.name.toList.flatMap encodeChar := by
  cases step with
  | key name => rfl
  | position i =>
    have hplain : ∀ c ∈ (toString i).toList, encodeChar c = [c] := by
      intro c hc
      have hdigit := Naming.isDigit_of_mem_toString hc
      have hne : ∀ d : Char, d.isDigit = false → c ≠ d := by
        rintro d hd rfl
        rw [hd] at hdigit
        cases hdigit
      rw [encodeChar, if_neg (hne '~' rfl), if_neg (hne '/' rfl), if_neg (hne '%' rfl)]
    show (toString i).toList = (toString i).toList.flatMap encodeChar
    rw [List.flatMap_congr hplain, List.flatMap_singleton']

theorem slash_notMem_segment (step : Step) : '/' ∉ step.segment := by
  rw [segment_eq, List.mem_flatMap]
  rintro ⟨c, -, hmem⟩
  rw [encodeChar] at hmem
  split at hmem
  · simp at hmem
  split at hmem
  · simp at hmem
  split at hmem
  · simp at hmem
  · rename_i hslash _
    exact hslash (List.mem_singleton.mp hmem).symm

/-- Written segments are cut at their slashes. -/
theorem splitChars_segments (step : Step) (rest : List Step) :
    Text.splitChars '/' (step.segment ++ rest.flatMap fun step => '/' :: step.segment) =
      (step :: rest).map Step.segment := by
  induction rest generalizing step with
  | nil =>
    rw [List.flatMap_nil, List.append_nil, Text.splitChars_of_notMem (slash_notMem_segment step)]
    rfl
  | cons next rest ih =>
    rw [List.flatMap_cons, List.cons_append, Text.splitChars_append,
      Text.splitChars_of_notMem (slash_notMem_segment step), ih]
    rfl

/-- **The segments of a written pointer** stand for the names of its steps. -/
theorem segments_encode (steps : List Step) :
    segments (encode steps) = .ok (steps.map Step.name) := by
  cases steps with
  | nil => rfl
  | cons step rest =>
    have hname : ∀ step : Step, decodeSegment (String.ofList step.segment) = step.name := by
      intro step
      rw [segment_eq, decodeSegment_encode]
    rw [segments, encode, String.toList_ofList, List.flatMap_cons, List.cons_append]
    show Except.ok ((Text.splitChars '/' (step.segment ++ _)).map _) = _
    rw [splitChars_segments, List.map_map]
    exact congrArg Except.ok (List.map_congr_left fun step _ => hname step)

/-! ### Where pointers lead -/

/-- The places of a list that a number stands for: a negative one counts from the end. -/
theorem itemAt?_eq_some_iff {items : List Value} {n : Int} {part : Value} :
    itemAt? items n = some part ↔
      ∃ i : Nat, (n = i ∨ n = (i : Int) - items.length) ∧ items[i]? = some part := by
  rw [itemAt?]
  by_cases hsign : 0 ≤ n
  · rw [if_pos hsign]
    constructor
    · intro h
      exact ⟨n.toNat, Or.inl (Int.toNat_of_nonneg hsign).symm, h⟩
    · rintro ⟨i, hplace, h⟩
      obtain ⟨hbound, -⟩ := List.getElem?_eq_some_iff.mp h
      have hi : n.toNat = i := by omega
      rw [hi]
      exact h
  · rw [if_neg hsign]
    constructor
    · intro h
      by_cases hbound : -n ≤ items.length
      · rw [if_pos hbound] at h
        exact ⟨items.length - n.natAbs, Or.inr (by omega), h⟩
      · rw [if_neg hbound] at h
        cases h
    · rintro ⟨i, hplace, h⟩
      obtain ⟨hbound, -⟩ := List.getElem?_eq_some_iff.mp h
      have hi : items.length - n.natAbs = i := by omega
      rw [if_pos (by omega), hi]
      exact h

/-- Decoded segments that lead along steps to a value.  In a list a segment may be any text of the
position, counted from either end. -/
inductive Leads : Value → List String → List Step → Value → Prop where
  | stay (value : Value) : Leads value [] [] value
  | field {fields : List (String × Value)} {key : String} {part value : Value} {parts : List String}
    {steps : List Step} (hpart : Entries.get? key fields = some part)
    (hrest : Leads part parts steps value) :
    Leads (.object fields) (key :: parts) (.key key :: steps) value
  | item {items : List Value} {segment : String} {n : Int} {i : Nat} {part value : Value}
    {parts : List String} {steps : List Step} (htext : Numeral.IsTextOf n segment)
    (hplace : n = i ∨ n = (i : Int) - items.length) (hpart : items[i]? = some part)
    (hrest : Leads part parts steps value) :
    Leads (.list items) (segment :: parts) (.position i :: steps) value

/-- Walking takes the steps along which the segments lead, and no other. -/
theorem walk_eq_ok_iff {root value : Value} {parts : List String} :
    walk root parts = .ok value ↔ ∃ steps, Leads root parts steps value := by
  constructor
  · intro h
    induction parts generalizing root with
    | nil =>
      cases h
      exact ⟨[], .stay _⟩
    | cons segment rest ih =>
      rw [walk] at h
      cases hpart : enter segment root with
      | error fault =>
        rw [hpart] at h
        cases h
      | ok part =>
        rw [hpart] at h
        obtain ⟨steps, hrest⟩ := ih h
        cases root with
        | object fields =>
          rw [enter] at hpart
          split at hpart
          · cases hpart
            exact ⟨.key segment :: steps, .field ‹_› hrest⟩
          · cases hpart
        | list items =>
          rw [enter] at hpart
          split at hpart
          · cases hpart
            obtain ⟨n, hn, hitem⟩ := Option.bind_eq_some_iff.mp ‹_›
            obtain ⟨i, hplace, hi⟩ := itemAt?_eq_some_iff.mp hitem
            exact ⟨.position i :: steps,
              .item (Numeral.integer?_eq_some_iff.mp hn) hplace hi hrest⟩
          · cases hpart
        | _ => cases hpart
  · rintro ⟨steps, h⟩
    induction h with
    | stay => rfl
    | field hpart _ ih =>
      rw [walk, enter, hpart]
      exact ih
    | item htext hplace hpart _ ih =>
      have hitem := itemAt?_eq_some_iff.mpr ⟨_, hplace, hpart⟩
      rw [walk, enter, Numeral.integer?_eq_some_iff.mpr htext, Option.bind_some, hitem]
      exact ih

/-- **Where a pointer leads**: to the values to which its segments lead. -/
theorem follow_eq_ok_iff {root value : Value} {pointer : String} :
    follow root pointer = .ok value ↔
      ∃ parts steps, segments pointer = .ok parts ∧ Leads root parts steps value := by
  rw [follow]
  cases segments pointer with
  | error fault => simp
  | ok parts =>
    show walk root parts = .ok value ↔ _
    rw [walk_eq_ok_iff]
    simp

/-- The steps along which segments lead select what they lead to. -/
theorem Leads.select? {root value : Value} {parts : List String} {steps : List Step}
    (h : Leads root parts steps value) : Pointer.select? root steps = some value := by
  induction h with
  | stay => rfl
  | field hpart _ ih => exact Option.bind_eq_some_iff.mpr ⟨_, hpart, ih⟩
  | item _ _ hpart _ ih => exact Option.bind_eq_some_iff.mpr ⟨_, hpart, ih⟩

/-- Names lead nowhere but along the steps that they name. -/
theorem Leads.eq_of_names {root value value' : Value} {steps steps' : List Step}
    (h : Leads root (steps.map Step.name) steps' value)
    (hsteps : Pointer.select? root steps = some value') : steps = steps' := by
  induction steps generalizing root steps' with
  | nil =>
    cases h
    rfl
  | cons step rest ih =>
    obtain ⟨part', hpart', hrest'⟩ := Option.bind_eq_some_iff.mp hsteps
    cases step with
    | key name =>
      cases h with
      | field hpart hrest =>
        cases hpart.symm.trans hpart'
        rw [ih hrest hrest']
        rfl
      | item => cases hpart'
    | position i =>
      cases h with
      | field => cases hpart'
      | @item items _ n j part _ _ steps htext hplace hpart hrest =>
        have hitem : items[i]? = some part' := hpart'
        have hn : n = i := by
          have hread := Numeral.integer?_eq_some_iff.mpr htext
          rw [show (Step.position i).name = toString i from rfl, Numeral.integer?_toString] at hread
          split at hread
          · cases hread
          · exact (Option.some.inj hread).symm
        -- a position counted from the end is negative, and the digits of `i` are not
        obtain ⟨hbound, -⟩ := List.getElem?_eq_some_iff.mp hpart
        have hij : i = j := by omega
        subst hij
        cases hpart.symm.trans hitem
        rw [ih hrest hrest']

/-! ### Following written pointers -/

/-- A step whose segment can be written: a position has few enough digits to be written and read as
an integer.  These are at most 4300, far more than the length of a list can have. -/
def Step.IsWritable : Step → Prop
  | .key _ => True
  | .position i => Numeral.isLong i = false

/-- Names lead along the steps that they name. -/
theorem Leads.of_select? {root value : Value} {steps : List Step}
    (hsteps : ∀ step ∈ steps, step.IsWritable) (h : Pointer.select? root steps = some value) :
    Leads root (steps.map Step.name) steps value := by
  induction steps generalizing root with
  | nil =>
    cases h
    exact .stay _
  | cons step rest ih =>
    obtain ⟨hstep, hrest⟩ := List.forall_mem_cons.mp hsteps
    obtain ⟨part, hpart, hvalue⟩ := Option.bind_eq_some_iff.mp h
    have hlater := ih hrest hvalue
    cases step with
    | key name =>
      cases root with
      | object fields => exact .field hpart hlater
      | _ => cases hpart
    | position i =>
      cases root with
      | list items =>
        have hshort : Numeral.isLong i = false := hstep
        have hread : Numeral.integer? (toString i) = some (i : Int) := by
          rw [Numeral.integer?_toString, hshort]
          rfl
        exact .item (Numeral.integer?_eq_some_iff.mp hread) (.inl rfl) hpart hlater
      | _ => cases hpart

/-- **Every part of a value can be addressed**: following the pointer that the steps to a part are
written as gives the part. -/
theorem follow_encode {root value : Value} {steps : List Step}
    (hsteps : ∀ step ∈ steps, step.IsWritable) (h : select? root steps = some value) :
    follow root (encode steps) = .ok value := by
  have hleads : Leads root (steps.map Step.name) steps value := .of_select? hsteps h
  exact follow_eq_ok_iff.mpr ⟨steps.map Step.name, steps, segments_encode steps, hleads⟩

/-- Keys that look like escapes, an empty one and a slash: each is found again. -/
theorem follow_encode_escapes :
    let steps : List Step := [.key "~1", .position 1, .key "%7E1", .key "", .key "a/é"]
    let root : Value := .object [("~1", .list [.null, .object [("%7E1", .object [("", .object
      [("a/é", .int 7)])])]])]
    (∀ step ∈ steps, step.IsWritable) ∧ select? root steps = some (.int 7) ∧
      encode steps = "/~01/1/%257E1//a~1é" ∧ follow root (encode steps) = .ok (.int 7) := by
  intro steps root
  have hsteps : ∀ step ∈ steps, step.IsWritable := by
    intro step hstep
    simp only [steps, List.mem_cons, List.not_mem_nil, or_false] at hstep
    rcases hstep with rfl | rfl | rfl | rfl | rfl
    · trivial
    · show Numeral.isLong 1 = false
      decide +kernel
    · trivial
    · trivial
    · trivial
  have hvalue : select? root steps = some (.int 7) := rfl
  exact ⟨hsteps, hvalue, by decide +kernel, follow_encode hsteps hvalue⟩

/-! ### Pointers that are followed exactly -/

/-- A pointer leads only where its segments are the names of the steps: keys of objects, and
positions of lists as their digits alone. -/
def FollowsExactly (root : Value) (pointer : String) : Prop :=
  ∀ value, follow root pointer = .ok value →
    (pointer = "" ∨ Text.startsWith "/" pointer = true) ∧
      ∃ steps : List Step, segments pointer = .ok (steps.map Step.name) ∧
        select? root steps = some value

/-- Segments are read from nothing and behind a slash only. -/
theorem startsWith_of_segments {pointer : String} {parts : List String}
    (h : segments pointer = .ok parts) : pointer = "" ∨ Text.startsWith "/" pointer = true := by
  rw [segments] at h
  split at h
  · exact Or.inl (String.toList_injective ‹_›)
  · right
    rw [Text.startsWith, ‹pointer.toList = _›]
    rfl
  · cases h

/-- A pointer is followed exactly when its segments lead along no steps but those that they name. -/
theorem followsExactly_iff {root : Value} {pointer : String} :
    FollowsExactly root pointer ↔ ∀ parts steps value, segments pointer = .ok parts →
      Leads root parts steps value → parts = steps.map Step.name := by
  constructor
  · intro h parts steps value hparts hleads
    have hvalue : follow root pointer = .ok value :=
      follow_eq_ok_iff.mpr ⟨parts, steps, hparts, hleads⟩
    obtain ⟨-, steps', hnames, hselect⟩ := h value hvalue
    cases hparts.symm.trans hnames
    rw [hleads.eq_of_names hselect]
  · intro h value hvalue
    obtain ⟨parts, steps, hparts, hleads⟩ := follow_eq_ok_iff.mp hvalue
    have hnames := h parts steps value hparts hleads
    exact ⟨startsWith_of_segments hparts, steps, hnames ▸ hparts, hleads.select?⟩

/-- Segments that are followed exactly along the same steps are the same. -/
theorem FollowsExactly.parts_unique {root value value' : Value} {pointer pointer' : String}
    (h : FollowsExactly root pointer) (h' : FollowsExactly root pointer')
    {parts parts' : List String} {steps : List Step} (hparts : segments pointer = .ok parts)
    (hparts' : segments pointer' = .ok parts') (hleads : Leads root parts steps value)
    (hleads' : Leads root parts' steps value') : parts = parts' :=
  calc parts = steps.map Step.name := followsExactly_iff.mp h parts steps value hparts hleads
    _ = parts' := (followsExactly_iff.mp h' parts' steps value' hparts' hleads').symm

/-- **What pointers select.**  A pointer gives a value exactly when its segments lead to it.  It
selects only a location that exists exactly when its segments are the names of the steps along which
they lead, and among such pointers no two segment lists lead along the same steps. -/
theorem settlesPointers (root : Value) :
    (∀ pointer value, follow root pointer = .ok value ↔
      ∃ parts steps, segments pointer = .ok parts ∧ Leads root parts steps value) ∧
    (∀ pointer, FollowsExactly root pointer ↔ ∀ parts steps value, segments pointer = .ok parts →
      Leads root parts steps value → parts = steps.map Step.name) ∧
    ∀ pointer pointer' parts parts' steps value value', FollowsExactly root pointer →
      FollowsExactly root pointer' → segments pointer = .ok parts → segments pointer' = .ok parts' →
        Leads root parts steps value → Leads root parts' steps value' → parts = parts' := by
  refine ⟨fun pointer value => follow_eq_ok_iff, fun pointer => followsExactly_iff, ?_⟩
  intro pointer pointer' parts parts' steps value value' h h' hparts hparts' hleads hleads'
  exact h.parts_unique h' hparts hparts' hleads hleads'

/-- The last item of a list is selected by a segment that names no position. -/
theorem not_followsExactly_fromTheEnd :
    follow (.list [.int 10, .int 20]) "/-1" = .ok (.int 20) ∧
      ¬ FollowsExactly (.list [.int 10, .int 20]) "/-1" := by
  have hvalue : follow (.list [.int 10, .int 20]) "/-1" = .ok (.int 20) := rfl
  refine ⟨hvalue, ?_⟩
  intro h
  have hparts : segments "/-1" = .ok ["-1"] := rfl
  obtain ⟨-, steps, hnames, hselect⟩ := h _ hvalue
  have hsteps : steps.map Step.name = ["-1"] := Except.ok.inj (hnames.symm.trans hparts)
  obtain ⟨step, rest, rfl, hname, -⟩ := List.map_eq_cons_iff.mp hsteps
  cases step with
  | key name => cases hselect
  | position i =>
    have hdigits : (toString i).toList = ['-', '1'] := congrArg String.toList hname
    have hminus : '-' ∈ (toString i).toList := by
      rw [hdigits]
      exact List.mem_cons_self
    cases Naming.isDigit_of_mem_toString hminus

end Pointer

end ClientGen
