import ClientGen.Code.Group
import ClientGen.Proofs.Naming

/-!
# The search for a free name

A name whose kebab-case form is taken is numbered from 2 on until the form is free, and the form is
taken from then on.  `Search` is that search as it goes, from one attempt to the next, without any
bound.  It still has an end, after no more probes than there are taken forms and one
(`search_fresh`), and `fresh` is where it ends.  The number is the least one that gives a free form,
and one form more is taken for the names that are chosen later (`numbersFreshly`).
-/

namespace ClientGen

namespace Naming

/-! ### Attempts -/

/-- A name that is tried, and the number for the next one. -/
structure Attempt where
  name : String
  next : Nat

/-- The first attempt: the stem itself. -/
def Attempt.first (stem : String) : Attempt :=
  ⟨stem, 2⟩

/-- The attempt after one that is taken. -/
def Attempt.following (stem : String) (attempt : Attempt) : Attempt :=
  ⟨stem ++ toString attempt.next, attempt.next + 1⟩

/-- A search that begins with an attempt: the number of its probes, the name that it ends with, and
the forms that are taken afterwards. -/
inductive Search (stem : String) (taken : List String) :
    Attempt → Nat → String → List String → Prop where
  /-- A name with a free form ends the search, and its form is taken. -/
  | free {attempt : Attempt} (h : kebab attempt.name ∉ taken) :
    Search stem taken attempt 1 attempt.name (kebab attempt.name :: taken)
  /-- After a name whose form is taken the search goes on. -/
  | taken {attempt : Attempt} {probes : Nat} {name : String} {after : List String}
    (h : kebab attempt.name ∈ taken)
    (later : Search stem taken (attempt.following stem) probes name after) :
    Search stem taken attempt (probes + 1) name after

/-- The attempt at a candidate. -/
def Attempt.nth (stem : String) (i : Nat) : Attempt :=
  ⟨candidate stem i, i + 2⟩

theorem Attempt.name_nth (stem : String) (i : Nat) :
    (nth stem i).name = candidate stem i := rfl

theorem Attempt.first_eq (stem : String) : first stem = nth stem 0 := rfl

theorem Attempt.following_nth (stem : String) (i : Nat) :
    (nth stem i).following stem = nth stem (i + 1) := rfl

variable {stem : String} {taken : List String}

/-! ### The course of a search -/

/-- A search has one course. -/
theorem Search.unique {attempt : Attempt} {probes probes' : Nat} {name name' : String}
    {after after' : List String} (h : Search stem taken attempt probes name after)
    (h' : Search stem taken attempt probes' name' after') :
    probes = probes' ∧ name = name' ∧ after = after' := by
  induction h generalizing probes' with
  | free hfree =>
    cases h' with
    | free => exact ⟨rfl, rfl, rfl⟩
    | taken htaken => exact absurd htaken hfree
  | taken htaken _ ih =>
    cases h' with
    | free hfree => exact absurd htaken hfree
    | taken _ later =>
      obtain ⟨hprobes, hname, hafter⟩ := ih later
      exact ⟨congrArg (· + 1) hprobes, hname, hafter⟩

/-- From a candidate on, a search comes to the first one that is free. -/
theorem search_nth {i k : Nat} (hfree : kebab (candidate stem (i + k)) ∉ taken)
    (hbefore : ∀ j, i ≤ j → j < i + k → kebab (candidate stem j) ∈ taken) :
    Search stem taken (.nth stem i) (k + 1) (candidate stem (i + k))
      (kebab (candidate stem (i + k)) :: taken) := by
  -- The induction is on the number of probes that fail.
  induction k generalizing i with
  | zero =>
    have hstop : kebab (Attempt.nth stem i).name ∉ taken := by
      rw [Attempt.name_nth]
      exact hfree
    exact .free hstop
  | succ k ih =>
    have hshift : i + (k + 1) = i + 1 + k := by omega
    rw [hshift] at hfree hbefore ⊢
    have htaken : kebab (Attempt.nth stem i).name ∈ taken := by
      rw [Attempt.name_nth]
      exact hbefore i (by omega) (by omega)
    refine .taken htaken ?_
    rw [Attempt.following_nth]
    exact ih hfree fun j hj => hbefore j (by omega)

/-- **The search for a free name ends**, with the fresh name, after no more probes than there are
taken forms and one. -/
theorem search_fresh (stem : String) (taken : List String) :
    ∃ probes ≤ taken.toFinset.card + 1, Search stem taken (.first stem) probes (fresh stem taken)
      (kebab (fresh stem taken) :: taken) := by
  obtain ⟨i, hbound, hfresh, hfree, hbefore⟩ := exists_fresh_eq stem taken
  rw [← Nat.zero_add i] at hfresh hfree hbefore
  refine ⟨i + 1, by omega, ?_⟩
  rw [Attempt.first_eq, hfresh]
  exact search_nth hfree fun j _ hj => hbefore j hj

/-! ### Numbers -/

theorem candidate_of_two_le {n : Nat} (h : 2 ≤ n) :
    candidate stem (n - 1) = stem ++ toString n := by
  rw [candidate, if_neg (by omega), show n - 1 + 1 = n by omega]

/-- **A name that is taken gets the least number**, from 2 on, that makes its form free. -/
theorem exists_isLeast_number (h : kebab stem ∈ taken) :
    ∃ n, fresh stem taken = stem ++ toString n ∧
      IsLeast {n | 2 ≤ n ∧ kebab (stem ++ toString n) ∉ taken} n := by
  obtain ⟨i, -, hfresh, hfree, hbefore⟩ := exists_fresh_eq stem taken
  have hnumbered : 1 ≤ i := by
    by_contra hzero
    obtain rfl : i = 0 := by omega
    exact hfree h
  have hcandidate : candidate stem i = stem ++ toString (i + 1) :=
    candidate_of_two_le (n := i + 1) (by omega)
  refine ⟨i + 1, by rw [hfresh, hcandidate], ⟨by omega, hcandidate ▸ hfree⟩, ?_⟩
  rintro n ⟨htwo, hother⟩
  by_contra hless
  have htaken := hbefore (n - 1) (by omega)
  rw [candidate_of_two_le htwo] at htaken
  exact hother htaken

end Naming

/-! ### Names chosen one after the other -/

/-- The name of an operation before it is numbered: where it is taken already, it says by which
parameters of its path something is found. -/
def Operation.stem (operation : Operation) (taken : List String) : String :=
  let own := operation.endpointName
  let parameters := PathTemplate.parameters operation.path
  if taken.contains (Naming.kebab own) && !parameters.isEmpty then byParameters own parameters
  else own

namespace Naming

/-- How a name is found for a stem, when some forms are taken. -/
structure NumbersFreshly (stem : String) (taken : List String) : Prop where
  /-- The search ends after no more probes than there are taken forms and one, with the fresh name
  and its form among the taken ones, and in no other way. -/
  ends : ∃ probes ≤ taken.toFinset.card + 1, ∀ k name after,
    Search stem taken (.first stem) k name after ↔
      k = probes ∧ name = fresh stem taken ∧ after = kebab (fresh stem taken) :: taken
  /-- A name that is free stays as it is. -/
  unnumbered : kebab stem ∉ taken → fresh stem taken = stem
  /-- A name that is taken gets the least number, from 2 on, that makes its form free. -/
  numbered : kebab stem ∈ taken → ∃ n, fresh stem taken = stem ++ toString n ∧
    IsLeast {n | 2 ≤ n ∧ kebab (stem ++ toString n) ∉ taken} n
  /-- The form of the name was free. -/
  isFree : kebab (fresh stem taken) ∉ taken
  /-- With it, exactly one form more is taken. -/
  grows : (kebab (fresh stem taken) :: taken).toFinset.card = taken.toFinset.card + 1
  /-- So it is for the stems of groups that come after this one, -/
  groups : ∀ stems, freshNames taken (stem :: stems) =
    fresh stem taken :: freshNames (kebab (fresh stem taken) :: taken) stems
  /-- and for the operations after one with this stem. -/
  operations : ∀ operation rest, operation.stem taken = stem →
    namesFrom taken (operation :: rest) =
      fresh stem taken :: namesFrom (kebab (fresh stem taken) :: taken) rest

/-- **Numbering finds a fresh name**, and the search for it ends. -/
theorem numbersFreshly (stem : String) (taken : List String) : NumbersFreshly stem taken where
  ends := by
    obtain ⟨probes, hbound, hsearch⟩ := search_fresh stem taken
    refine ⟨probes, hbound, fun k name after => ⟨fun h => h.unique hsearch, ?_⟩⟩
    rintro ⟨rfl, rfl, rfl⟩
    exact hsearch
  unnumbered := fresh_of_notMem
  numbered := exists_isLeast_number
  isFree := kebab_fresh_notMem stem taken
  grows := by
    have hfree : kebab (fresh stem taken) ∉ taken.toFinset :=
      fun hmem => kebab_fresh_notMem stem taken (List.mem_toFinset.mp hmem)
    rw [List.toFinset_cons, Finset.card_insert_of_notMem hfree]
  groups _ := rfl
  operations operation rest hstem := by
    rw [← hstem]
    rfl

/-- A number begins a word of its own behind a hyphen, and is found all the same. -/
example : fresh "pets-" ["pets", "pets-2"] = "pets-3" := by decide +kernel

end Naming

end ClientGen
