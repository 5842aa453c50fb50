import ClientGen.Pointer
import ClientGen.Proofs.Entries
import ClientGen.Reference

/-!
# Documents and their parts

A pointer selects a part of a document, so it inherits what every object and list hands down to its
fields and items (`Pointer.follow_inherited`).  Two such properties are used throughout: that every
object within a value passes a test (`Value.everyObject`), and that the references of a value are
among given ones.  Beside the key of a reference an object may have `siblings`.
-/

namespace ClientGen

/-! ### Induction on parts -/

namespace Value

/-- Whether a value is neither an object nor a list. -/
def isAtom : Value → Bool
  | .object _ => false
  | .list _ => false
  | _ => true

/-- Induction on the values of fields and the items of lists; what is neither an object nor a list
has no parts. -/
@[elab_as_elim]
theorem inductionOnParts {motive : Value → Prop}
    (atom : ∀ value, value.isAtom = true → motive value)
    (list : ∀ items, (∀ item ∈ items, motive item) → motive (.list items))
    (object : ∀ fields, (∀ entry ∈ fields, motive entry.2) → motive (.object fields))
    (value : Value) : motive value := by
  cases value with
  | list items =>
    refine list items fun item hitem => ?_
    have hsize := List.sizeOf_lt_of_mem hitem
    exact inductionOnParts atom list object item
  | object fields =>
    refine object fields fun entry hentry => ?_
    have hsize := List.sizeOf_lt_of_mem hentry
    exact inductionOnParts atom list object entry.2
  | _ => exact atom _ rfl
termination_by sizeOf value
decreasing_by
  · simp only [Value.list.sizeOf_spec]
    omega
  · obtain ⟨name, part⟩ := entry
    simp only [Prod.mk.sizeOf_spec] at hsize
    simp only [Value.object.sizeOf_spec]
    omega

end Value

/-! ### Properties that are handed down -/

/-- A property that an object has only if the values of its fields have it, and a list only if its
items have it. -/
structure Value.Inherited (P : Value → Prop) : Prop where
  field : ∀ {fields : List (String × Value)} {entry : String × Value},
    P (.object fields) → entry ∈ fields → P entry.2
  item : ∀ {items : List Value} {value : Value}, P (.list items) → value ∈ items → P value

theorem Value.Inherited.and {P Q : Value → Prop} (hP : Inherited P) (hQ : Inherited Q) :
    Inherited fun value => P value ∧ Q value where
  field h hentry := ⟨hP.field h.1 hentry, hQ.field h.2 hentry⟩
  item h hvalue := ⟨hP.item h.1 hvalue, hQ.item h.2 hvalue⟩

namespace Pointer

theorem mem_of_itemAt? {items : List Value} {i : Int} {value : Value}
    (h : itemAt? items i = some value) : value ∈ items := by
  unfold itemAt? at h
  split at h
  · exact List.mem_of_getElem? h
  · split at h
    · exact List.mem_of_getElem? h
    · cases h

/-- A step leads to a field of an object or to an item of a list. -/
theorem enter_inherited {P : Value → Prop} (hP : Value.Inherited P) {segment : String}
    {value part : Value} (hvalue : P value) (h : enter segment value = .ok part) : P part := by
  unfold enter at h
  split at h
  · rename_i fields
    split at h
    · rename_i found hfound
      cases h
      exact hP.field hvalue (Entries.mem_of_get? hfound)
    · cases h
  · rename_i items
    split at h
    · rename_i found hfound
      cases h
      obtain ⟨i, -, hi⟩ := Option.bind_eq_some_iff.mp hfound
      exact hP.item hvalue (mem_of_itemAt? hi)
    · cases h
  · cases h

theorem walk_inherited {P : Value → Prop} (hP : Value.Inherited P) {parts : List String}
    {root part : Value} (hroot : P root) (h : walk root parts = .ok part) : P part := by
  induction parts generalizing root with
  | nil =>
    cases h
    exact hroot
  | cons segment rest ih =>
    rw [walk] at h
    split at h
    · rename_i value hvalue
      exact ih (enter_inherited hP hroot hvalue) h
    · cases h

/-- What a pointer selects has every property that is handed down to it. -/
theorem follow_inherited {P : Value → Prop} (hP : Value.Inherited P) {pointer : String}
    {root part : Value} (hroot : P root) (h : follow root pointer = .ok part) : P part := by
  unfold follow at h
  split at h
  · exact walk_inherited hP hroot h
  · cases h

end Pointer

/-! ### Tests of every object -/

namespace Value

mutual

/-- Whether every object within a value passes a test of its fields. -/
def everyObject (test : List (String × Value) → Bool) : Value → Bool
  | .object fields => test fields && everyObjectOfFields test fields
  | .list items => everyObjectOfItems test items
  | _ => true

/-- Whether every object within the values of fields passes a test. -/
def everyObjectOfFields (test : List (String × Value) → Bool) : List (String × Value) → Bool
  | [] => true
  | (_, value) :: rest => everyObject test value && everyObjectOfFields test rest

/-- Whether every object within the items of a list passes a test. -/
def everyObjectOfItems (test : List (String × Value) → Bool) : List Value → Bool
  | [] => true
  | item :: rest => everyObject test item && everyObjectOfItems test rest

end

variable {test : List (String × Value) → Bool}

theorem everyObjectOfFields_iff (fields : List (String × Value)) :
    everyObjectOfFields test fields = true ↔ ∀ entry ∈ fields, everyObject test entry.2 = true := by
  induction fields with
  | nil => simp [everyObjectOfFields]
  | cons entry rest ih =>
    rw [everyObjectOfFields, Bool.and_eq_true, ih, List.forall_mem_cons]

theorem everyObjectOfItems_iff (items : List Value) :
    everyObjectOfItems test items = true ↔ ∀ item ∈ items, everyObject test item = true := by
  induction items with
  | nil => simp [everyObjectOfItems]
  | cons item rest ih =>
    rw [everyObjectOfItems, Bool.and_eq_true, ih, List.forall_mem_cons]

theorem test_of_everyObject {fields : List (String × Value)}
    (h : everyObject test (.object fields) = true) : test fields = true := by
  rw [everyObject, Bool.and_eq_true] at h
  exact h.1

theorem inherited_everyObject (test : List (String × Value) → Bool) :
    Inherited fun value => everyObject test value = true where
  field h hentry := by
    rw [everyObject, Bool.and_eq_true, everyObjectOfFields_iff] at h
    exact h.2 _ hentry
  item h hvalue := by
    rw [everyObject, everyObjectOfItems_iff] at h
    exact h _ hvalue

/-- Whether no object within a value has a name twice, as in every document that is read. -/
def hasDistinctNames (value : Value) : Bool :=
  value.everyObject fun fields => decide (Entries.keys fields).Nodup

end Value

/-! ### References and what stands beside them -/

namespace Reference

/-- The fields beside the key of a reference. -/
def siblings (fields : List (String × Value)) : List (String × Value) :=
  fields.filter fun entry => entry.1 != key

theorem mem_of_mem_siblings {fields : List (String × Value)} {entry : String × Value}
    (h : entry ∈ siblings fields) : entry ∈ fields :=
  (List.mem_filter.mp h).1

theorem key_notMem_keys_siblings (fields : List (String × Value)) :
    key ∉ Entries.keys (siblings fields) := by
  intro h
  obtain ⟨entry, hentry, hkey⟩ := List.mem_map.mp h
  have hne := (List.mem_filter.mp hentry).2
  rw [hkey] at hne
  simp at hne

/-- Every key `$ref` within the value holds a text. -/
def keysHoldTexts (value : Value) : Bool :=
  value.everyObject fun fields =>
    (Entries.get? key fields).all fun named => named.str?.isSome

theorem mem_fieldOccurrences {ref : String} {fields : List (String × Value)} :
    ref ∈ fieldOccurrences fields ↔ ∃ entry ∈ fields, ref ∈ occurrences entry.2 := by
  induction fields with
  | nil => simp [fieldOccurrences]
  | cons entry rest ih =>
    rw [fieldOccurrences, List.mem_append, ih, List.exists_mem_cons_iff]

theorem mem_itemOccurrences {ref : String} {items : List Value} :
    ref ∈ itemOccurrences items ↔ ∃ item ∈ items, ref ∈ occurrences item := by
  induction items with
  | nil => simp [itemOccurrences]
  | cons item rest ih =>
    rw [itemOccurrences, List.mem_append, ih, List.exists_mem_cons_iff]

theorem mem_occurrences_object {ref : String} {fields : List (String × Value)} :
    ref ∈ occurrences (.object fields) ↔
      ofFields? fields = some ref ∨ ∃ entry ∈ fields, ref ∈ occurrences entry.2 := by
  rw [occurrences, List.mem_append, mem_fieldOccurrences, Option.mem_toList]

theorem mem_occurrences_list {ref : String} {items : List Value} :
    ref ∈ occurrences (.list items) ↔ ∃ item ∈ items, ref ∈ occurrences item := by
  rw [occurrences, mem_itemOccurrences]

/-- What holds of every reference in a value holds of every reference in a part of it. -/
theorem inherited_occurrences (P : String → Prop) :
    Value.Inherited fun value => ∀ ref ∈ occurrences value, P ref where
  field h hentry ref href := h ref (mem_occurrences_object.mpr (Or.inr ⟨_, hentry, href⟩))
  item h hvalue ref href := h ref (mem_occurrences_list.mpr ⟨_, hvalue, href⟩)

theorem mem_addOnce {ref text : String} {texts : List String} :
    ref ∈ addOnce text texts ↔ ref = text ∨ ref ∈ texts := by
  unfold addOnce
  split
  · rename_i h
    have htext : text ∈ texts := List.contains_iff_mem.mp h
    exact ⟨Or.inr, fun href => href.elim (fun heq => heq ▸ htext) id⟩
  · rw [List.mem_append, List.mem_singleton, or_comm]

theorem mem_foldl_addOnce {ref : String} (texts found : List String) :
    ref ∈ texts.foldl (fun found text => addOnce text found) found ↔ ref ∈ texts ∨ ref ∈ found := by
  induction texts generalizing found with
  | nil => simp
  | cons text rest ih =>
    rw [List.foldl_cons, ih, mem_addOnce, List.mem_cons]
    tauto

/-- The references of a value are those that occur in it. -/
theorem mem_references {ref : String} {value : Value} :
    ref ∈ references value ↔ ref ∈ occurrences value := by
  rw [references, mem_foldl_addOnce]
  simp

end Reference

end ClientGen
