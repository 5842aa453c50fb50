import ClientGen.Code.Artifact
import ClientGen.Proofs.Code.Group
import ClientGen.Proofs.Naming
import ClientGen.Proofs.Outcome
import Mathlib.Data.List.Forall2

/-!
# The names of declared schemas

A component schema is declared under its name in PascalCase, and no number is put behind a name that
is taken, nor anything in the place of one that is empty, as is done for groups and endpoints.  So
whether the declarations have usable names depends on the names of the components alone:
`declaresApart_iff` says when.
-/

namespace ClientGen

namespace Naming

/-! ### Identifiers -/

/-- Identifiers of generated code: letters and digits, the first of them no digit. -/
structure IsIdentifier (name : String) : Prop where
  ne_empty : name ≠ ""
  isAlphanum : ∀ c ∈ name.toList, c.isAlphanum = true
  isDigit_head : ∀ c ∈ name.toList.head?, c.isDigit = false

/-- The first letter or digit of a text is a letter. -/
def beginsWithLetter (text : String) : Bool :=
  (text.toList.find? Char.isAlphanum).any Char.isAlpha

theorem head?_lettersFrom (cs : List Char) :
    (lettersFrom false cs).head? = (cs.find? Char.isAlphanum).map Char.toUpper := by
  induction cs with
  | nil => rfl
  | cons c rest ih =>
    rw [lettersFrom]
    by_cases hc : c.isAlphanum = true
    · rw [if_pos hc, List.find?_cons_of_pos hc]
      rfl
    · rw [if_neg hc, List.find?_cons_of_neg hc, ih]

theorem head?_pascal (text : String) :
    (pascal text).toList.head? = (text.toList.find? Char.isAlphanum).map Char.toUpper := by
  rw [toList_pascal, head?_lettersFrom]

theorem isAlpha_of_isDigit {c : Char} (h : c.isDigit = true) : c.isAlpha = false := by
  rw [Char.isAlpha, isUpper_of_isDigit h, isLower_of_isDigit h]
  rfl

/-- **A name in PascalCase is an identifier** exactly when the text begins with a letter. -/
theorem isIdentifier_pascal_iff (text : String) :
    IsIdentifier (pascal text) ↔ beginsWithLetter text = true := by
  -- The first character of the name is the first letter or digit of the text, made a capital,
  -- and a capital is a letter exactly when the character is one.
  have hhead := head?_pascal text
  unfold beginsWithLetter
  cases hfind : text.toList.find? Char.isAlphanum with
  | none =>
    rw [hfind, Option.map_none, List.head?_eq_none_iff] at hhead
    refine iff_of_false (fun h => ?_) Bool.false_ne_true
    exact h.ne_empty (String.toList_eq_nil_iff.mp hhead)
  | some c =>
    have hc := List.find?_some hfind
    rw [Char.isAlphanum] at hc
    rw [hfind, Option.map_some] at hhead
    constructor
    · intro h
      have hdigit := h.isDigit_head _ hhead
      cases hletter : c.isAlpha with
      | true => exact hletter
      | false =>
        rw [hletter, Bool.false_or] at hc
        rw [toUpper_of_isDigit hc, hc] at hdigit
        cases hdigit
    · intro hletter
      refine ⟨?_, fun d => isAlphanum_of_mem_pascal, ?_⟩
      · rintro hempty
        rw [hempty] at hhead
        cases hhead
      · intro d hd
        rw [hhead] at hd
        cases hd
        cases hdigit : c.toUpper.isDigit with
        | false => rfl
        | true =>
          have hnone := isAlpha_of_isDigit hdigit
          rw [Char.isAlpha_toUpper_eq_isAlpha] at hnone
          rw [Option.any_some, hnone] at hletter
          cases hletter

theorem pascal_eq_iff (text other : String) :
    pascal text = pascal other ↔ lettersFrom false text.toList = lettersFrom false other.toList := by
  rw [← toList_pascal, ← toList_pascal, String.toList_inj]

end Naming

namespace Code

/-! ### Declarations -/

theorem name_of_schemaDeclaration {entry : String × Schema} {declaration : Declaration}
    (h : schemaDeclaration entry = .ok declaration) :
    declaration.name = Naming.pascal entry.1 := by
  unfold schemaDeclaration at h
  obtain ⟨comment, -, h⟩ := bind_eq_ok.mp h
  obtain ⟨part, -, h⟩ := bind_eq_ok.mp h
  cases h
  rfl

/-- Schemas are declared under usable names: each name is an identifier, and components with
different names are declared under different ones. -/
structure DeclaresApart (schemas : List (String × Schema)) (declarations : List Declaration) :
    Prop where
  usable : ∀ declaration ∈ declarations, Naming.IsIdentifier declaration.name
  apart : ∀ first ∈ schemas.zip declarations, ∀ second ∈ schemas.zip declarations,
    first.1.1 ≠ second.1.1 → first.2.name ≠ second.2.name

/-- **Schemas are declared under usable names** exactly when each component's name begins with a
letter, and no two of them have the same letters. -/
theorem declaresApart_iff {api : Api} {declarations : List Declaration}
    (h : schemaDeclarations api = .ok declarations) :
    DeclaresApart api.components.schemas declarations ↔
      (∀ entry ∈ api.components.schemas, Naming.beginsWithLetter entry.1 = true) ∧
      ∀ first ∈ api.components.schemas, ∀ second ∈ api.components.schemas,
        first.1 ≠ second.1 →
          Naming.lettersFrom false first.1.toList ≠ Naming.lettersFrom false second.1.toList := by
  -- The declarations stand in the order of the schemas, each with the name of its own.
  have hdeclared := forall₂_of_mapM h
  have hname : ∀ pair ∈ api.components.schemas.zip declarations,
      pair.2.name = Naming.pascal pair.1.1 := fun pair hpair =>
    name_of_schemaDeclaration ((List.forall₂_iff_zip.mp hdeclared).2 hpair)
  have hfirsts := List.map_fst_zip hdeclared.length_eq.le
  have hseconds := List.map_snd_zip hdeclared.length_eq.ge
  constructor
  · intro hapart
    refine ⟨fun entry hentry => ?_, fun first hfirst second hsecond hne => ?_⟩
    · rw [← hfirsts] at hentry
      obtain ⟨pair, hpair, rfl⟩ := List.mem_map.mp hentry
      have husable := hapart.usable pair.2 (List.of_mem_zip hpair).2
      rwa [hname pair hpair, Naming.isIdentifier_pascal_iff] at husable
    · rw [← hfirsts] at hfirst hsecond
      obtain ⟨pair, hpair, rfl⟩ := List.mem_map.mp hfirst
      obtain ⟨other, hother, rfl⟩ := List.mem_map.mp hsecond
      have hnames := hapart.apart pair hpair other hother hne
      rwa [hname pair hpair, hname other hother, ne_eq, Naming.pascal_eq_iff] at hnames
  · rintro ⟨hletters, hdiffer⟩
    refine ⟨fun declaration hdeclaration => ?_, fun first hfirst second hsecond hne => ?_⟩
    · rw [← hseconds] at hdeclaration
      obtain ⟨pair, hpair, rfl⟩ := List.mem_map.mp hdeclaration
      rw [hname pair hpair, Naming.isIdentifier_pascal_iff]
      exact hletters pair.1 (List.of_mem_zip hpair).1
    · rw [hname first hfirst, hname second hsecond, ne_eq, Naming.pascal_eq_iff]
      exact hdiffer first.1 (List.of_mem_zip hfirst).1 second.1 (List.of_mem_zip hsecond).1 hne

/-- An API with nothing but component schemas, all of them texts. -/
def textSchemas (names : List String) : Api :=
  let api := Api.ofOperations [] []
  { api with components :=
      { api.components with
        schemas := names.map fun name => (name, .primitive {} (some "string") none) } }

/-- Names that differ in more than delimiters and the capitals of words are usable. -/
theorem declaresApart_pets : ∃ declarations,
    schemaDeclarations (textSchemas ["pet", "petOwner", "pet-2", "(old) pet"]) =
      .ok declarations ∧
      declarations.map (·.name) = ["Pet", "PetOwner", "Pet2", "OldPet"] ∧
      DeclaresApart (textSchemas ["pet", "petOwner", "pet-2", "(old) pet"]).components.schemas
        declarations := by
  have hdeclared : (schemaDeclarations (textSchemas ["pet", "petOwner", "pet-2", "(old) pet"])
      |>.toOption.map (List.map Declaration.name)) =
      some ["Pet", "PetOwner", "Pet2", "OldPet"] := by decide +kernel
  obtain ⟨declarations, hread, hnames⟩ := exists_ok_of_map_toOption hdeclared
  exact ⟨declarations, hread, hnames,
    (declaresApart_iff hread).mpr ⟨by decide +kernel, by decide +kernel⟩⟩

/-- Two components whose names differ in a capital are declared under one name. -/
theorem not_declaresApart_twoPets : ∃ declarations,
    schemaDeclarations (textSchemas ["pet", "Pet"]) = .ok declarations ∧
      declarations.map (·.name) = ["Pet", "Pet"] ∧
      ¬DeclaresApart (textSchemas ["pet", "Pet"]).components.schemas declarations := by
  have hdeclared : (schemaDeclarations (textSchemas ["pet", "Pet"])
      |>.toOption.map (List.map Declaration.name)) = some ["Pet", "Pet"] := by decide +kernel
  obtain ⟨declarations, hread, hnames⟩ := exists_ok_of_map_toOption hdeclared
  refine ⟨declarations, hread, hnames, fun hapart => ?_⟩
  match declarations, hnames with
  | [first, second], hnames =>
    have hfirst : first.name = "Pet" := (List.cons.inj hnames).1
    have hsecond : second.name = "Pet" := (List.cons.inj (List.cons.inj hnames).2).1
    have hne := hapart.apart (("pet", _), first) List.mem_cons_self (("Pet", _), second)
      (List.mem_cons_of_mem _ List.mem_cons_self) (by decide : "pet" ≠ "Pet")
    exact hne (hfirst.trans hsecond.symm)

end Code

end ClientGen
