import Mathlib.Data.List.Basic

/-!
# Results of computations that may fail

`Yields Q x` says that `x` fails or gives something of which `Q` holds.  The lemmas take a
computation apart along its steps; `Yields.skip` passes a step of whose result nothing needs to be
known.  `Succeeds x` says that `x` does not fail.
-/

namespace ClientGen

variable {ε α β : Type}

/-- Two steps in a row succeed exactly when the first does and the second does after it. -/
theorem bind_eq_ok {x : Except ε α} {f : α → Except ε β} {b : β} :
    (x >>= f) = .ok b ↔ ∃ a, x = .ok a ∧ f a = .ok b := by
  cases x with
  | error fault =>
    constructor
    · intro h
      cases h
    · rintro ⟨a, ha, -⟩
      cases ha
  | ok a =>
    constructor
    · intro h
      exact ⟨a, rfl, h⟩
    · rintro ⟨a', ha, hf⟩
      cases ha
      exact hf

theorem map_eq_ok {x : Except ε α} {f : α → β} {b : β} :
    (f <$> x) = .ok b ↔ ∃ a, x = .ok a ∧ f a = b := by
  cases x with
  | error fault =>
    constructor
    · intro h
      cases h
    · rintro ⟨a, ha, -⟩
      cases ha
  | ok a =>
    constructor
    · intro h
      cases h
      exact ⟨a, rfl, rfl⟩
    · rintro ⟨a', ha, rfl⟩
      cases ha
      rfl

/-- What is seen of a result is seen of something that is given. -/
theorem exists_ok_of_map_toOption {x : Except ε α} {f : α → β} {b : β}
    (h : x.toOption.map f = some b) : ∃ a, x = .ok a ∧ f a = b := by
  cases x with
  | error fault => cases h
  | ok a => exact ⟨a, rfl, Option.some.inj h⟩

theorem eq_ok_of_toOption {x : Except ε α} {a : α} (h : x.toOption = some a) : x = .ok a := by
  cases x with
  | error fault => cases h
  | ok b => exact congrArg Except.ok (Option.some.inj h)

/-- A list gives nothing when one of its entries gives nothing. -/
theorem mapM_eq_none_iff {f : α → Option β} {entries : List α} :
    entries.mapM f = none ↔ ∃ a ∈ entries, f a = none := by
  induction entries with
  | nil =>
    constructor
    · intro h
      cases h
    · rintro ⟨a, ha, -⟩
      cases ha
  | cons first rest ih =>
    rw [List.mapM_cons]
    simp only [List.mem_cons, exists_eq_or_imp, ← ih]
    cases f first with
    | none => exact iff_of_true rfl (.inl rfl)
    | some b =>
      cases rest.mapM f with
      | none => exact iff_of_true rfl (.inr rfl)
      | some more =>
        refine iff_of_false (fun h => ?_) ?_
        · cases h
        · rintro (h | h) <;> cases h

/-- What a list gives is given by its entries. -/
theorem exists_of_mem_mapM {f : α → Except ε β} {entries : List α} {results : List β}
    (h : entries.mapM f = .ok results) {b : β} (hb : b ∈ results) : ∃ a ∈ entries, f a = .ok b := by
  induction entries generalizing results with
  | nil =>
    cases h
    cases hb
  | cons a rest ih =>
    rw [List.mapM_cons] at h
    obtain ⟨first, hfirst, h⟩ := bind_eq_ok.mp h
    obtain ⟨more, hmore, h⟩ := bind_eq_ok.mp h
    cases h
    rcases List.mem_cons.mp hb with rfl | hb
    · exact ⟨a, List.mem_cons_self, hfirst⟩
    · obtain ⟨a', ha', hf⟩ := ih hmore hb
      exact ⟨a', List.mem_cons_of_mem _ ha', hf⟩

/-- Every entry of a list gives something. -/
theorem exists_mem_of_mapM {f : α → Except ε β} {entries : List α} {results : List β}
    (h : entries.mapM f = .ok results) {a : α} (ha : a ∈ entries) : ∃ b ∈ results, f a = .ok b := by
  induction entries generalizing results with
  | nil => cases ha
  | cons first rest ih =>
    rw [List.mapM_cons] at h
    obtain ⟨b, hb, h⟩ := bind_eq_ok.mp h
    obtain ⟨more, hmore, h⟩ := bind_eq_ok.mp h
    cases h
    rcases List.mem_cons.mp ha with rfl | ha
    · exact ⟨b, List.mem_cons_self, hb⟩
    · obtain ⟨b', hb', hf⟩ := ih hmore ha
      exact ⟨b', List.mem_cons_of_mem _ hb', hf⟩

/-- A list gives one result for each entry, in order. -/
theorem forall₂_of_mapM {f : α → Except ε β} {entries : List α} {results : List β}
    (h : entries.mapM f = .ok results) : List.Forall₂ (fun a b => f a = .ok b) entries results := by
  induction entries generalizing results with
  | nil =>
    cases h
    exact .nil
  | cons a rest ih =>
    rw [List.mapM_cons] at h
    obtain ⟨b, hb, h⟩ := bind_eq_ok.mp h
    obtain ⟨more, hmore, h⟩ := bind_eq_ok.mp h
    cases h
    exact .cons hb (ih hmore)

/-- A computation fails or gives something of which `Q` holds. -/
def Yields (Q : α → Prop) (x : Except ε α) : Prop :=
  ∀ a, x = .ok a → Q a

namespace Yields

variable {P : α → Prop} {Q : β → Prop}

theorem ok {a : α} (h : P a) : Yields P (.ok a : Except ε α) := by
  intro a' ha'
  cases ha'
  exact h

theorem error (fault : ε) : Yields P (.error fault : Except ε α) := by
  intro a ha
  cases ha

theorem bind {x : Except ε α} {f : α → Except ε β} (hx : Yields P x)
    (hf : ∀ a, P a → Yields Q (f a)) : Yields Q (x >>= f) := by
  intro b hb
  obtain ⟨a, ha, hfa⟩ := bind_eq_ok.mp hb
  exact hf a (hx a ha) b hfa

/-- The result of a step of which nothing is known. -/
theorem skip {x : Except ε α} {f : α → Except ε β} (hf : ∀ a, Yields Q (f a)) :
    Yields Q (x >>= f) := by
  intro b hb
  obtain ⟨a, -, hfa⟩ := bind_eq_ok.mp hb
  exact hf a b hfa

theorem map {x : Except ε α} {f : α → β} (hx : Yields P x) (hf : ∀ a, P a → Q (f a)) :
    Yields Q (f <$> x) := by
  intro b hb
  obtain ⟨a, ha, rfl⟩ := map_eq_ok.mp hb
  exact hf a (hx a ha)

theorem mapError {ζ : Type} {x : Except ε α} (hx : Yields P x) (f : ε → ζ) :
    Yields P (x.mapError f) := by
  cases x with
  | error fault => exact error (f fault)
  | ok a => exact ok (hx a rfl)

theorem mapM {f : α → Except ε β} {entries : List α} (hf : ∀ a ∈ entries, Yields Q (f a)) :
    Yields (fun results => ∀ b ∈ results, Q b) (entries.mapM f) := by
  intro results hresults b hb
  obtain ⟨a, ha, hfa⟩ := exists_of_mem_mapM hresults hb
  exact hf a ha b hfa

end Yields

/-- A computation does not fail. -/
def Succeeds (x : Except ε α) : Prop :=
  ∃ a, x = .ok a

namespace Succeeds

theorem ok (a : α) : Succeeds (.ok a : Except ε α) :=
  ⟨a, rfl⟩

theorem bind {x : Except ε α} {f : α → Except ε β} (hx : Succeeds x)
    (hf : ∀ a, x = .ok a → Succeeds (f a)) : Succeeds (x >>= f) := by
  obtain ⟨a, ha⟩ := hx
  obtain ⟨b, hb⟩ := hf a ha
  exact ⟨b, bind_eq_ok.mpr ⟨a, ha, hb⟩⟩

/-- After a step whose result is known. -/
theorem step {x : Except ε α} {f : α → Except ε β} {a : α} (hx : x = .ok a)
    (hf : Succeeds (f a)) : Succeeds (x >>= f) := by
  rw [hx]
  exact hf

theorem map {x : Except ε α} (hx : Succeeds x) (f : α → β) : Succeeds (f <$> x) := by
  obtain ⟨a, ha⟩ := hx
  exact ⟨f a, map_eq_ok.mpr ⟨a, ha, rfl⟩⟩

theorem mapM {f : α → Except ε β} {entries : List α} (hf : ∀ a ∈ entries, Succeeds (f a)) :
    Succeeds (entries.mapM f) := by
  induction entries with
  | nil => exact ok []
  | cons a rest ih =>
    rw [List.mapM_cons]
    exact bind (hf a List.mem_cons_self) fun b _ =>
      bind (ih fun a ha => hf a (List.mem_cons_of_mem _ ha)) fun more _ => ok (b :: more)

end Succeeds

/-- A list each entry of which gives a known result. -/
theorem mapM_eq_ok_map {f : α → Except ε β} {g : α → β} {entries : List α}
    (h : ∀ a ∈ entries, f a = .ok (g a)) : entries.mapM f = .ok (entries.map g) := by
  induction entries with
  | nil => rfl
  | cons a rest ih =>
    rw [List.mapM_cons, h a List.mem_cons_self, ih fun a ha => h a (List.mem_cons_of_mem _ ha)]
    rfl

end ClientGen
