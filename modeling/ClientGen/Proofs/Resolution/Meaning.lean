import ClientGen.Proofs.Resolution.Derivation
import Mathlib.Data.Finset.Lattice.Lemmas

/-!
# Resolution keeps the meaning of a document

A document is read by expanding its references only where a path leads through them: a reference into
the document stands for what its pointer selects, with its siblings laid over it when that is an
object; everything else stands for itself, references to other documents included.  `Observes` says
what a path finds at its end that way.  Documents with cycles have infinitely many such paths.

`observes_overlay` says that siblings may be laid over a reference itself instead of what it stands
for, since overlays of overlays are overlays (`overlaid_overlaid_iff`).  With it every rule of a
resolution keeps what is observed, and `observes_resolved_iff` says so of the whole document.
-/

namespace ClientGen.Resolution

/-! ### Observations -/

/-- What is found at the end of a path. -/
inductive Form where
  | atom (value : Value)
  | list (length : Nat)
  | object (names : Finset String)

/-- Whether an object is found. -/
def Form.isObject : Form → Bool
  | object _ => true
  | _ => false

/-- The pointer of an object with the fields, if it is a reference into the document. -/
def localTarget? (fields : List (String × Value)) : Option String :=
  (Reference.ofFields? fields).bind localPointer?

/-- A path through a value finds a form at its end, where references are looked up in `root`. -/
inductive Observes (root : Value) : Value → List Pointer.Step → Form → Prop
  | atom {value : Value} (hatom : value.isAtom = true) : Observes root value [] (.atom value)
  | list {items : List Value} : Observes root (.list items) [] (.list items.length)
  | item {items : List Value} {i : Nat} {value : Value} {path : List Pointer.Step} {form : Form}
      (hitem : items[i]? = some value) (hvalue : Observes root value path form) :
      Observes root (.list items) (.position i :: path) form
  | object {fields : List (String × Value)} (hplain : localTarget? fields = none) :
      Observes root (.object fields) [] (.object (Entries.keys fields).toFinset)
  | field {fields : List (String × Value)} {name : String} {value : Value}
      {path : List Pointer.Step} {form : Form} (hplain : localTarget? fields = none)
      (hfield : Entries.get? name fields = some value) (hvalue : Observes root value path form) :
      Observes root (.object fields) (.key name :: path) form
  | through {fields : List (String × Value)} {pointer : String} {target : Value}
      {path : List Pointer.Step} {seen form : Form} (hlocal : localTarget? fields = some pointer)
      (hfollow : Pointer.follow root pointer = .ok target) (hseen : Observes root target [] seen)
      (hobject : seen.isObject = false) (htarget : Observes root target path form) :
      Observes root (.object fields) path form
  | overlaid {fields : List (String × Value)} {pointer : String} {target : Value}
      {names : Finset String} (hlocal : localTarget? fields = some pointer)
      (hfollow : Pointer.follow root pointer = .ok target)
      (hseen : Observes root target [] (.object names)) :
      Observes root (.object fields) []
        (.object (names ∪ (Entries.keys (Reference.siblings fields)).toFinset))
  | sibling {fields : List (String × Value)} {pointer name : String} {target value : Value}
      {names : Finset String} {path : List Pointer.Step} {form : Form}
      (hlocal : localTarget? fields = some pointer)
      (hfollow : Pointer.follow root pointer = .ok target)
      (hseen : Observes root target [] (.object names))
      (hfield : Entries.get? name (Reference.siblings fields) = some value)
      (hvalue : Observes root value path form) :
      Observes root (.object fields) (.key name :: path) form
  | beneath {fields : List (String × Value)} {pointer name : String} {target : Value}
      {names : Finset String} {path : List Pointer.Step} {form : Form}
      (hlocal : localTarget? fields = some pointer)
      (hfollow : Pointer.follow root pointer = .ok target)
      (hseen : Observes root target [] (.object names))
      (hfield : Entries.get? name (Reference.siblings fields) = none)
      (htarget : Observes root target (.key name :: path) form) :
      Observes root (.object fields) (.key name :: path) form

/-- What paths find when fields are laid over something of which `view` tells what paths find. -/
inductive Overlaid (root : Value) (view : List Pointer.Step → Form → Prop)
    (above : List (String × Value)) : List Pointer.Step → Form → Prop
  | through {path : List Pointer.Step} {seen form : Form} (hseen : view [] seen)
      (hobject : seen.isObject = false) (hview : view path form) : Overlaid root view above path form
  | names {names : Finset String} (hseen : view [] (.object names)) :
      Overlaid root view above [] (.object (names ∪ (Entries.keys above).toFinset))
  | above {names : Finset String} {name : String} {value : Value} {path : List Pointer.Step}
      {form : Form} (hseen : view [] (.object names)) (hfield : Entries.get? name above = some value)
      (hvalue : Observes root value path form) : Overlaid root view above (.key name :: path) form
  | below {names : Finset String} {name : String} {path : List Pointer.Step} {form : Form}
      (hseen : view [] (.object names)) (hfield : Entries.get? name above = none)
      (hview : view (.key name :: path) form) : Overlaid root view above (.key name :: path) form

/-- What paths find in the target of a pointer. -/
def targetView (root : Value) (pointer : String) (path : List Pointer.Step) (form : Form) : Prop :=
  ∃ target, Pointer.follow root pointer = .ok target ∧ Observes root target path form

section Inversion

variable {root : Value} {path : List Pointer.Step} {form : Form}

theorem observes_list_iff {items : List Value} :
    Observes root (.list items) path form ↔
      (path = [] ∧ form = .list items.length) ∨ ∃ i rest value,
        path = .position i :: rest ∧ items[i]? = some value ∧ Observes root value rest form := by
  constructor
  · intro h
    cases h with
    | atom hatom => cases hatom
    | list => exact Or.inl ⟨rfl, rfl⟩
    | item hitem hvalue => exact Or.inr ⟨_, _, _, rfl, hitem, hvalue⟩
  · rintro (⟨rfl, rfl⟩ | ⟨i, rest, value, rfl, hitem, hvalue⟩)
    · exact .list
    · exact .item hitem hvalue

/-- An object that is no reference into the document stands for itself. -/
theorem observes_plain_iff {fields : List (String × Value)} (hplain : localTarget? fields = none) :
    Observes root (.object fields) path form ↔
      (path = [] ∧ form = .object (Entries.keys fields).toFinset) ∨ ∃ name rest value,
        path = .key name :: rest ∧ Entries.get? name fields = some value ∧
          Observes root value rest form := by
  constructor
  · intro h
    cases h with
    | atom hatom => cases hatom
    | object _ => exact Or.inl ⟨rfl, rfl⟩
    | field _ hfield hvalue => exact Or.inr ⟨_, _, _, rfl, hfield, hvalue⟩
    | through hlocal | overlaid hlocal | sibling hlocal | beneath hlocal =>
      rw [hplain] at hlocal
      cases hlocal
  · rintro (⟨rfl, rfl⟩ | ⟨name, rest, value, rfl, hfield, hvalue⟩)
    · exact .object hplain
    · exact .field hplain hfield hvalue

/-- A reference into the document stands for its target with its siblings laid over it. -/
theorem observes_reference_iff {fields : List (String × Value)} {pointer : String}
    (hlocal : localTarget? fields = some pointer) :
    Observes root (.object fields) path form ↔
      Overlaid root (targetView root pointer) (Reference.siblings fields) path form := by
  constructor
  · intro h
    cases h with
    | atom hatom => cases hatom
    | object hplain | field hplain =>
      rw [hplain] at hlocal
      cases hlocal
    | through hlocal' hfollow hseen hobject htarget =>
      cases hlocal.symm.trans hlocal'
      exact .through ⟨_, hfollow, hseen⟩ hobject ⟨_, hfollow, htarget⟩
    | overlaid hlocal' hfollow hseen =>
      cases hlocal.symm.trans hlocal'
      exact .names ⟨_, hfollow, hseen⟩
    | sibling hlocal' hfollow hseen hfield hvalue =>
      cases hlocal.symm.trans hlocal'
      exact .above ⟨_, hfollow, hseen⟩ hfield hvalue
    | beneath hlocal' hfollow hseen hfield htarget =>
      cases hlocal.symm.trans hlocal'
      exact .below ⟨_, hfollow, hseen⟩ hfield ⟨_, hfollow, htarget⟩
  · intro h
    cases h with
    | through hseen hobject htarget =>
      obtain ⟨target, hfollow, hseen⟩ := hseen
      obtain ⟨target', hfollow', htarget⟩ := htarget
      cases hfollow.symm.trans hfollow'
      exact .through hlocal hfollow hseen hobject htarget
    | names hseen =>
      obtain ⟨target, hfollow, hseen⟩ := hseen
      exact .overlaid hlocal hfollow hseen
    | above hseen hfield hvalue =>
      obtain ⟨target, hfollow, hseen⟩ := hseen
      exact .sibling hlocal hfollow hseen hfield hvalue
    | below hseen hfield htarget =>
      obtain ⟨target, hfollow, hseen⟩ := hseen
      obtain ⟨target', hfollow', htarget⟩ := htarget
      cases hfollow.symm.trans hfollow'
      exact .beneath hlocal hfollow hseen hfield htarget

end Inversion

/-! ### What a path finds is unique -/

section Unique

variable {root value : Value} {path : List Pointer.Step} {form : Form}

/-- A path finds at most one form. -/
theorem Observes.unique {form' : Form} (h : Observes root value path form)
    (h' : Observes root value path form') : form = form' := by
  induction h generalizing form' with
  | atom hatom =>
    cases h' with
    | atom _ => rfl
    | list | object _ | through _ _ _ _ _ | overlaid _ _ _ => cases hatom
  | list =>
    rcases observes_list_iff.mp h' with ⟨-, rfl⟩ | ⟨_, _, _, hpath, -⟩
    · rfl
    · cases hpath
  | item hitem _ ih =>
    rcases observes_list_iff.mp h' with ⟨hpath, -⟩ | ⟨_, _, _, hpath, hitem', hvalue⟩
    · cases hpath
    · cases hpath
      cases hitem.symm.trans hitem'
      exact ih hvalue
  | object hplain =>
    rcases (observes_plain_iff hplain).mp h' with ⟨-, rfl⟩ | ⟨_, _, _, hpath, -⟩
    · rfl
    · cases hpath
  | field hplain hfield _ ih =>
    rcases (observes_plain_iff hplain).mp h' with ⟨hpath, -⟩ | ⟨_, _, _, hpath, hfield', hvalue⟩
    · cases hpath
    · cases hpath
      cases hfield.symm.trans hfield'
      exact ih hvalue
  | through hlocal hfollow _ hobject _ ihseen ihtarget =>
    cases (observes_reference_iff hlocal).mp h' with
    | through _ _ hview =>
      obtain ⟨_, hfollow', htarget⟩ := hview
      cases hfollow.symm.trans hfollow'
      exact ihtarget htarget
    | names hseen | above hseen | below hseen =>
      obtain ⟨_, hfollow', hseen⟩ := hseen
      cases hfollow.symm.trans hfollow'
      cases ihseen hseen
      cases hobject
  | overlaid hlocal hfollow _ ihseen =>
    cases (observes_reference_iff hlocal).mp h' with
    | through hseen hobject _ =>
      obtain ⟨_, hfollow', hseen⟩ := hseen
      cases hfollow.symm.trans hfollow'
      cases ihseen hseen
      cases hobject
    | names hseen =>
      obtain ⟨_, hfollow', hseen⟩ := hseen
      cases hfollow.symm.trans hfollow'
      cases ihseen hseen
      rfl
  | sibling hlocal hfollow _ hfield _ ihseen ihvalue =>
    cases (observes_reference_iff hlocal).mp h' with
    | through hseen hobject _ =>
      obtain ⟨_, hfollow', hseen⟩ := hseen
      cases hfollow.symm.trans hfollow'
      cases ihseen hseen
      cases hobject
    | above _ hfield' hvalue =>
      cases hfield.symm.trans hfield'
      exact ihvalue hvalue
    | below _ hfield' _ => cases hfield.symm.trans hfield'
  | beneath hlocal hfollow _ hfield _ ihseen ihtarget =>
    cases (observes_reference_iff hlocal).mp h' with
    | through hseen hobject _ =>
      obtain ⟨_, hfollow', hseen⟩ := hseen
      cases hfollow.symm.trans hfollow'
      cases ihseen hseen
      cases hobject
    | above _ hfield' _ => cases hfield.symm.trans hfield'
    | below _ _ hview =>
      obtain ⟨_, hfollow', htarget⟩ := hview
      cases hfollow.symm.trans hfollow'
      exact ihtarget htarget

/-- A longer path through an object starts with a key. -/
theorem Observes.eq_key_cons {names : Finset String} (h : Observes root value path form)
    (hseen : Observes root value [] (.object names)) :
    path = [] ∨ ∃ name rest, path = .key name :: rest := by
  induction h with
  | atom _ | list | object _ | overlaid _ _ _ => exact Or.inl rfl
  | item _ _ => cases Observes.list.unique hseen
  | field _ _ _ | sibling _ _ _ _ _ | beneath _ _ _ _ _ => exact Or.inr ⟨_, _, rfl⟩
  | through hlocal hfollow hroot hobject _ =>
    cases (Observes.through hlocal hfollow hroot hobject hroot).unique hseen
    cases hobject

/-- Where a path finds something, the empty path does. -/
theorem Observes.exists_root (h : Observes root value path form) :
    ∃ seen, Observes root value [] seen := by
  cases h with
  | atom hatom => exact ⟨_, .atom hatom⟩
  | list | item _ _ => exact ⟨_, .list⟩
  | object hplain | field hplain _ _ => exact ⟨_, .object hplain⟩
  | through hlocal hfollow hseen hobject _ => exact ⟨_, .through hlocal hfollow hseen hobject hseen⟩
  | overlaid hlocal hfollow hseen | sibling hlocal hfollow hseen _ _
  | beneath hlocal hfollow hseen _ _ => exact ⟨_, .overlaid hlocal hfollow hseen⟩

theorem targetView_unique {pointer : String} {form' : Form} (h : targetView root pointer path form)
    (h' : targetView root pointer path form') : form = form' := by
  obtain ⟨target, hfollow, htarget⟩ := h
  obtain ⟨target', hfollow', htarget'⟩ := h'
  cases hfollow.symm.trans hfollow'
  exact htarget.unique htarget'

end Unique

/-! ### Overlays of overlays -/

/-- Where a path finds something in an overlay, the empty path does below it. -/
theorem Overlaid.exists_root {root : Value} {view : List Pointer.Step → Form → Prop}
    {above : List (String × Value)} {path : List Pointer.Step} {form : Form}
    (h : Overlaid root view above path form) : ∃ seen, view [] seen := by
  cases h with
  | through hseen _ _ | names hseen | above hseen _ _ | below hseen _ _ => exact ⟨_, hseen⟩

section Overlay

variable {root : Value} {view : List Pointer.Step → Form → Prop}
  (hview : ∀ {form form'}, view [] form → view [] form' → form = form')
  {above : List (String × Value)} {path : List Pointer.Step} {form : Form}

include hview

/-- What is laid over something other than an object is ignored. -/
theorem overlaid_iff_view {seen : Form} (hseen : view [] seen) (hobject : seen.isObject = false) :
    Overlaid root view above path form ↔ view path form := by
  constructor
  · intro h
    cases h with
    | through _ _ hpath => exact hpath
    | names hnames | above hnames _ _ | below hnames _ _ =>
      cases hview hseen hnames
      cases hobject
  · exact .through hseen hobject

/-- An object under an overlay has the names of both; a name is looked up in the overlay first. -/
theorem overlaid_iff_object {names : Finset String} (hseen : view [] (.object names)) :
    Overlaid root view above path form ↔
      (path = [] ∧ form = .object (names ∪ (Entries.keys above).toFinset)) ∨
      ∃ name rest, path = .key name :: rest ∧
        ((∃ value, Entries.get? name above = some value ∧ Observes root value rest form) ∨
          (Entries.get? name above = none ∧ view (.key name :: rest) form)) := by
  constructor
  · intro h
    cases h with
    | through hseen' hobject _ =>
      cases hview hseen hseen'
      cases hobject
    | names hnames =>
      cases hview hseen hnames
      exact Or.inl ⟨rfl, rfl⟩
    | above _ hfield hvalue => exact Or.inr ⟨_, _, rfl, Or.inl ⟨_, hfield, hvalue⟩⟩
    | below _ hfield hpath => exact Or.inr ⟨_, _, rfl, Or.inr ⟨hfield, hpath⟩⟩
  · rintro (⟨rfl, rfl⟩ | ⟨name, rest, rfl, ⟨value, hfield, hvalue⟩ | ⟨hfield, hpath⟩⟩)
    · exact .names hseen
    · exact .above hseen hfield hvalue
    · exact .below hseen hfield hpath

theorem overlaid_nil_unique {form' : Form} (h : Overlaid root view above [] form)
    (h' : Overlaid root view above [] form') : form = form' := by
  cases h with
  | through hseen hobject hform => exact hview hform ((overlaid_iff_view hview hseen hobject).mp h')
  | names hseen =>
    rcases (overlaid_iff_object hview hseen).mp h' with ⟨-, rfl⟩ | ⟨_, _, hpath, -⟩
    · rfl
    · cases hpath

/-- Laying fields over an overlay is laying an overlay over what is below. -/
theorem overlaid_overlaid_iff {siblings : List (String × Value)}
    (habove : (Entries.keys above).Nodup) :
    Overlaid root (Overlaid root view siblings) above path form ↔
      Overlaid root view (Entries.overlay above siblings) path form := by
  have hunique : ∀ {form form'}, Overlaid root view siblings [] form →
      Overlaid root view siblings [] form' → form = form' := overlaid_nil_unique hview
  by_cases hroot : ∃ seen, view [] seen
  · obtain ⟨seen, hseen⟩ := hroot
    cases hobject : seen.isObject with
    | false =>
      have houter : Overlaid root view siblings [] seen := .through hseen hobject hseen
      rw [overlaid_iff_view hunique houter hobject, overlaid_iff_view hview hseen hobject,
        overlaid_iff_view hview hseen hobject]
    | true =>
      cases seen with
      | atom | list => cases hobject
      | object names =>
        have houter : Overlaid root view siblings []
            (.object (names ∪ (Entries.keys siblings).toFinset)) := .names hseen
        have hnames : names ∪ (Entries.keys siblings).toFinset ∪ (Entries.keys above).toFinset =
            names ∪ (Entries.keys (Entries.overlay above siblings)).toFinset := by
          ext name
          simp only [Finset.mem_union, List.mem_toFinset, Entries.mem_keys_overlay]
          tauto
        rw [overlaid_iff_object hunique houter, overlaid_iff_object hview hseen, hnames]
        refine or_congr Iff.rfl (exists_congr fun name => exists_congr fun rest =>
          and_congr Iff.rfl ?_)
        rw [Entries.get?_overlay name habove, overlaid_iff_object hview hseen]
        cases Entries.get? name above <;> simp
  · constructor
    · intro h
      obtain ⟨seen, hseen⟩ := h.exists_root
      exact absurd hseen.exists_root hroot
    · intro h
      exact absurd h.exists_root hroot

end Overlay

/-- The fields of two objects have the same names and the same meaning under each. -/
structure SameFields (root : Value) (fields fields' : List (String × Value)) : Prop where
  keys : Entries.keys fields = Entries.keys fields'
  get? : ∀ {name value}, Entries.get? name fields = some value →
    ∃ value', Entries.get? name fields' = some value' ∧
      ∀ path form, Observes root value path form ↔ Observes root value' path form

section Congruence

variable {root : Value} {fields fields' : List (String × Value)}

theorem SameFields.refl (root : Value) (fields : List (String × Value)) :
    SameFields root fields fields where
  keys := rfl
  get? hvalue := ⟨_, hvalue, fun _ _ => Iff.rfl⟩

theorem SameFields.symm (h : SameFields root fields fields') : SameFields root fields' fields where
  keys := h.keys.symm
  get? {name value'} hvalue' := by
    have hmem : name ∈ Entries.keys fields := by
      rw [h.keys]
      exact Entries.mem_keys_of_get? hvalue'
    cases hvalue : Entries.get? name fields with
    | none => exact absurd hmem ((Entries.get?_eq_none_iff name fields).mp hvalue)
    | some value =>
      obtain ⟨value'', hvalue'', hsame⟩ := h.get? hvalue
      cases hvalue'.symm.trans hvalue''
      exact ⟨value, rfl, fun path form => (hsame path form).symm⟩

theorem SameFields.get?_eq_none (h : SameFields root fields fields') {name : String}
    (hnone : Entries.get? name fields = none) : Entries.get? name fields' = none := by
  rw [Entries.get?_eq_none_iff] at hnone ⊢
  rwa [← h.keys]

/-- Fields of the same meaning have it when laid over things of which paths find the same. -/
theorem Overlaid.mono {view view' : List Pointer.Step → Form → Prop}
    (hview : ∀ path form, view path form → view' path form)
    (hfields : SameFields root fields fields') {path : List Pointer.Step} {form : Form}
    (h : Overlaid root view fields path form) : Overlaid root view' fields' path form := by
  cases h with
  | through hseen hobject hpath => exact .through (hview _ _ hseen) hobject (hview _ _ hpath)
  | names hseen =>
    rw [hfields.keys]
    exact .names (hview _ _ hseen)
  | above hseen hfield hvalue =>
    obtain ⟨value', hfield', hsame⟩ := hfields.get? hfield
    exact .above (hview _ _ hseen) hfield' ((hsame _ _).mp hvalue)
  | below hseen hfield hpath =>
    exact .below (hview _ _ hseen) (hfields.get?_eq_none hfield) (hview _ _ hpath)

theorem overlaid_congr {view view' : List Pointer.Step → Form → Prop}
    (hview : ∀ path form, view path form ↔ view' path form)
    (hfields : SameFields root fields fields') (path : List Pointer.Step) (form : Form) :
    Overlaid root view fields path form ↔ Overlaid root view' fields' path form :=
  ⟨Overlaid.mono (fun path form => (hview path form).mp) hfields,
    Overlaid.mono (fun path form => (hview path form).mpr) hfields.symm⟩

/-- Objects that are no references into the document mean the same if their fields do. -/
theorem observes_object_congr (hplain : localTarget? fields = none)
    (hplain' : localTarget? fields' = none) (hfields : SameFields root fields fields')
    (path : List Pointer.Step) (form : Form) :
    Observes root (.object fields) path form ↔ Observes root (.object fields') path form := by
  have hmono : ∀ {fields fields' : List (String × Value)}, localTarget? fields = none →
      localTarget? fields' = none → SameFields root fields fields' →
      Observes root (.object fields) path form → Observes root (.object fields') path form := by
    intro fields fields' hplain hplain' hfields h
    rcases (observes_plain_iff hplain).mp h with ⟨rfl, rfl⟩ | ⟨name, rest, value, rfl, hfield, hvalue⟩
    · rw [hfields.keys]
      exact .object hplain'
    · obtain ⟨value', hfield', hsame⟩ := hfields.get? hfield
      exact .field hplain' hfield' ((hsame _ _).mp hvalue)
  exact ⟨hmono hplain hplain' hfields, hmono hplain' hplain hfields.symm⟩

/-- Lists mean the same if their items do, one by one. -/
theorem observes_list_congr {items items' : List Value}
    (hitems : List.Forall₂ (fun value value' => ∀ path form,
      Observes root value path form ↔ Observes root value' path form) items items')
    (path : List Pointer.Step) (form : Form) :
    Observes root (.list items) path form ↔ Observes root (.list items') path form := by
  have hlength := hitems.length_eq
  have hitem : ∀ (i : Nat) rest, (∃ value, items[i]? = some value ∧ Observes root value rest form) ↔
      ∃ value, items'[i]? = some value ∧ Observes root value rest form := by
    intro i rest
    by_cases hi : i < items.length
    · have hsame := hitems.get hi (hlength ▸ hi) rest form
      simp only [List.get_eq_getElem] at hsame
      simp [List.getElem?_eq_getElem hi, List.getElem?_eq_getElem (hlength ▸ hi), hsame]
    · simp [List.getElem?_eq_none (not_lt.mp hi), List.getElem?_eq_none (hlength ▸ not_lt.mp hi)]
  simp only [observes_list_iff, hlength, exists_and_left, hitem]

end Congruence

/-! ### Every rule keeps the meaning -/

/-- Siblings may be laid over a reference instead of what it stands for. -/
theorem observes_overlay {root : Value} {above below : List (String × Value)}
    (habove : (Entries.keys above).Nodup) (hkey : Reference.key ∉ Entries.keys above)
    (path : List Pointer.Step) (form : Form) :
    Observes root (.object (Entries.overlay above below)) path form ↔
      Overlaid root (Observes root (.object below)) above path form := by
  have htarget : localTarget? (Entries.overlay above below) = localTarget? below := by
    unfold localTarget? Reference.ofFields?
    rw [Entries.get?_overlay _ habove, (Entries.get?_eq_none_iff _ _).mpr hkey]
    rfl
  cases hlocal : localTarget? below with
  | none =>
    rw [hlocal] at htarget
    have hnames : (Entries.keys below).toFinset ∪ (Entries.keys above).toFinset =
        (Entries.keys (Entries.overlay above below)).toFinset := by
      ext name
      simp only [Finset.mem_union, List.mem_toFinset, Entries.mem_keys_overlay]
      tauto
    rw [observes_plain_iff htarget, overlaid_iff_object Observes.unique (.object hlocal), hnames]
    refine or_congr Iff.rfl (exists_congr fun name => exists_congr fun rest => ?_)
    rw [exists_and_left, Entries.get?_overlay name habove, observes_plain_iff hlocal]
    cases Entries.get? name above <;> simp
  | some pointer =>
    rw [hlocal] at htarget
    have hsiblings : Reference.siblings (Entries.overlay above below) =
        Entries.overlay above (Reference.siblings below) :=
      Entries.filter_overlay (· != Reference.key)
        (fun name hname => bne_iff_ne.mpr fun heq => hkey (heq ▸ hname)) below
    rw [observes_reference_iff htarget, hsiblings, ← overlaid_overlaid_iff targetView_unique habove]
    exact overlaid_congr (fun path form => (observes_reference_iff hlocal).symm)
      (.refl root above) path form

/-- What a document has to be for its meaning to be kept: names are distinct, as they are in every
document that is read, `$ref` holds texts, and references lead into the document unless only those
that do are followed. -/
structure IsReadable (external : Bool) (value : Value) : Prop where
  names : value.hasDistinctNames = true
  texts : Reference.keysHoldTexts value = true
  inner : ∀ ref ∈ Reference.occurrences value, external = true → (localPointer? ref).isSome = true

theorem inherited_isReadable (external : Bool) : Value.Inherited (IsReadable external) where
  field h hentry := ⟨(Value.inherited_everyObject _).field h.names hentry,
    (Value.inherited_everyObject _).field h.texts hentry,
    (Reference.inherited_occurrences _).field h.inner hentry⟩
  item h hvalue := ⟨(Value.inherited_everyObject _).item h.names hvalue,
    (Value.inherited_everyObject _).item h.texts hvalue,
    (Reference.inherited_occurrences _).item h.inner hvalue⟩

namespace IsReadable

variable {external : Bool} {fields : List (String × Value)}

theorem nodup_keys (h : IsReadable external (.object fields)) : (Entries.keys fields).Nodup :=
  of_decide_eq_true (Value.test_of_everyObject h.names)

theorem nodup_keys_siblings (h : IsReadable external (.object fields)) :
    (Entries.keys (Reference.siblings fields)).Nodup :=
  h.nodup_keys.sublist (List.filter_sublist.map _)

/-- Without a reference there is nothing under its key. -/
theorem get?_key_eq_none (h : IsReadable external (.object fields))
    (href : Reference.ofFields? fields = none) : Entries.get? Reference.key fields = none := by
  have htext := Value.test_of_everyObject h.texts
  unfold Reference.ofFields? at href
  cases hnamed : Entries.get? Reference.key fields with
  | none => rfl
  | some named =>
    rw [hnamed] at htext href
    rw [Option.bind_some] at href
    rw [Option.all_some, href] at htext
    cases htext

end IsReadable

/-- From a document all of whose references lead into it, a reference leads to a target in it. -/
theorem Leads.inDocument {settings : Settings} {context inner : Context} {seen : List String}
    {ref identity : String} {target : Value} {j k : Journal}
    (h : Leads settings context seen ref j identity inner target k)
    (hinner : settings.external = true → (localPointer? ref).isSome = true) :
    ∃ pointer, localPointer? ref = some pointer ∧ inner = context ∧
      Pointer.follow context.root pointer = .ok target := by
  cases h with
  | here hpointer _ _ hfollow => exact ⟨_, hpointer, rfl, hfollow⟩
  | elsewhere hpointer hexternal =>
    have hsome := hinner hexternal
    rw [hpointer] at hsome
    cases hsome

section Rules

variable {root value result target : Value} {fields : List (String × Value)} {pointer : String}
  {path : List Pointer.Step} {form : Form}

theorem localTarget?_eq {ref : String} (href : Reference.ofFields? fields = some ref)
    (hpointer : localPointer? ref = some pointer) : localTarget? fields = some pointer := by
  unfold localTarget?
  rw [href, Option.bind_some, hpointer]

theorem targetView_iff (hfollow : Pointer.follow root pointer = .ok target)
    (path : List Pointer.Step) (form : Form) :
    targetView root pointer path form ↔ Observes root target path form := by
  constructor
  · rintro ⟨target', hfollow', htarget⟩
    cases hfollow.symm.trans hfollow'
    exact htarget
  · intro htarget
    exact ⟨target, hfollow, htarget⟩

/-- Nothing changes where no fields are laid over a value or the value is no object. -/
theorem overlaid_alone (halone : fields = [] ∨ ∀ below, value ≠ .object below) :
    Overlaid root (Observes root value) fields path form ↔ Observes root value path form := by
  rcases halone with rfl | hvalue
  · constructor
    · intro h
      cases h with
      | through _ _ hpath => exact hpath
      | names hseen =>
        rw [Entries.keys_nil, List.toFinset_nil, Finset.union_empty]
        exact hseen
      | above _ hfield _ => cases hfield
      | below _ _ hpath => exact hpath
    · intro h
      obtain ⟨seen, hseen⟩ := h.exists_root
      cases seen with
      | atom | list => exact .through hseen rfl h
      | object names =>
        rcases h.eq_key_cons hseen with rfl | ⟨name, rest, rfl⟩
        · have hnames : Overlaid root (Observes root value) [] [] (.object (names ∪ ∅)) :=
            .names hseen
          rwa [Finset.union_empty, hseen.unique h] at hnames
        · exact .below hseen rfl h
  · have hobject : ∀ names, ¬Observes root value [] (.object names) := by
      intro names h
      cases h with
      | object | through | overlaid => exact hvalue _ rfl
    constructor
    · intro h
      cases h with
      | through _ _ hpath => exact hpath
      | names hseen | above hseen | below hseen => exact absurd hseen (hobject _)
    · intro h
      obtain ⟨seen, hseen⟩ := h.exists_root
      cases seen with
      | atom | list => exact .through hseen rfl h
      | object names => exact absurd hseen (hobject names)

/-- Fields have the same meaning if they have it one by one. -/
theorem sameFields_of_forall₂ {fields' : List (String × Value)}
    (h : List.Forall₂ (fun field field' => field'.1 = field.1 ∧ ∀ path form,
      Observes root field'.2 path form ↔ Observes root field.2 path form) fields fields') :
    SameFields root fields' fields := by
  induction h with
  | nil => exact .refl root []
  | @cons field field' rest rest' hfirst _ ih =>
    obtain ⟨name, value⟩ := field
    obtain ⟨name', value'⟩ := field'
    obtain ⟨hname, hsame⟩ := hfirst
    dsimp only at hname hsame
    subst hname
    refine ⟨by rw [Entries.keys_cons, Entries.keys_cons, ih.keys], ?_⟩
    intro other found hfound
    rw [Entries.get?_cons] at hfound ⊢
    by_cases hother : name' = other
    · rw [if_pos hother] at hfound ⊢
      cases hfound
      exact ⟨value, rfl, hsame⟩
    · rw [if_neg hother] at hfound ⊢
      exact ih.get? hfound

end Rules

/-- What paths find in a result is what they find in the value that was resolved. -/
theorem Resolves.observes_iff {settings : Settings} {context : Context} {seen : List String}
    {value result : Value} {j k : Journal} (h : Resolves settings context seen value j result k)
    (hroot : IsReadable settings.external context.root)
    (hvalue : IsReadable settings.external value) (path : List Pointer.Step) (form : Form) :
    Observes context.root result path form ↔ Observes context.root value path form := by
  have hinherited := inherited_isReadable settings.external
  induction h using Resolves.inductionOn generalizing path form with
  | atom _ => exact Iff.rfl
  | kept _ _ => exact Iff.rfl
  | list _ hitems =>
    refine (observes_list_congr (hitems.forall₂ ?_) path form).symm
    intro item hitem _ _ _ ⟨_, hresult⟩ path form
    exact (hresult hroot (hinherited.item hvalue hitem) path form).symm
  | object href _ hfields =>
    have hsame := sameFields_of_forall₂ (hfields.forall₂ fun field hfield _ _ _ ⟨hname, _, hresult⟩ =>
      ⟨hname, hresult hroot (hinherited.field hvalue hfield)⟩)
    have hnone := hvalue.get?_key_eq_none href
    refine observes_object_congr ?_ ?_ hsame path form
    · unfold localTarget? Reference.ofFields?
      rw [hsame.symm.get?_eq_none hnone]
      rfl
    · unfold localTarget?
      rw [href]
      rfl
  | replaced href hleads _ halone htarget =>
    have hocc := Reference.mem_occurrences_object.mpr (Or.inl href)
    obtain ⟨pointer, hpointer, rfl, hfollow⟩ := hleads.inDocument (hvalue.inner _ hocc)
    have hread := Pointer.follow_inherited hinherited hroot hfollow
    rw [observes_reference_iff (localTarget?_eq href hpointer), ← overlaid_alone halone]
    exact overlaid_congr (fun path form =>
      (htarget hroot hread path form).trans (targetView_iff hfollow path form).symm)
      (.refl _ _) path form
  | overlaid href hleads _ _ htarget hsiblings =>
    have hocc := Reference.mem_occurrences_object.mpr (Or.inl href)
    obtain ⟨pointer, hpointer, rfl, hfollow⟩ := hleads.inDocument (hvalue.inner _ hocc)
    have hread := Pointer.follow_inherited hinherited hroot hfollow
    have habove := sameFields_of_forall₂ (hsiblings.forall₂
      fun field hfield _ _ _ ⟨hname, _, hresult⟩ => ⟨hname, hresult hroot
        (hinherited.field hvalue (Reference.mem_of_mem_siblings hfield))⟩)
    have hnodup := habove.keys ▸ hvalue.nodup_keys_siblings
    have hkey := habove.keys ▸ Reference.key_notMem_keys_siblings _
    rw [observes_overlay hnodup hkey, observes_reference_iff (localTarget?_eq href hpointer)]
    exact overlaid_congr (fun path form =>
      (htarget hroot hread path form).trans (targetView_iff hfollow path form).symm)
      habove path form

/-! ### The whole document -/

section Document

variable {options : ResolutionOptions} {fetcher : Net.Fetcher} {file : String} {content : Value}
  {r : Resolution}

/-- **Resolution keeps the meaning of a document**: a path finds in what is resolved exactly what it
finds in the document, where references that are left are looked up in the document. -/
theorem observes_resolved_iff (hnames : content.hasDistinctNames = true)
    (htexts : Reference.keysHoldTexts content = true)
    (hinner : options.external = true →
      ∀ ref ∈ Reference.references content, (localPointer? ref).isSome = true)
    (h : (resolve options fetcher file content).outcome = .ok r) (path : List Pointer.Step)
    (form : Form) : Observes content r.resolved path form ↔ Observes content content path form := by
  obtain ⟨k, hresolves, -⟩ := resolves_of_resolveWithin h
  have hread : IsReadable options.external content :=
    ⟨hnames, htexts, fun ref href hexternal =>
      hinner hexternal ref (Reference.mem_references.mpr href)⟩
  exact hresolves.observes_iff hread hread path form

end Document

/-- A document in which siblings end up over a link and a component leads back to the start. -/
def entwined : Value :=
  .object
    [("start", .object [("$ref", .str "#/middle"), ("x", .int 1)]),
      ("middle", .object [("$ref", .str "#/components/schemas/End"), ("y", .null)]),
      ("components", .object [("schemas", .object
        [("End", .object [("back", .object [("$ref", .str "#/start")])])])])]

/-- The meaning of the entwined document is kept, though its reading never ends. -/
theorem observes_resolved_entwined :
    ∃ r, (resolve {} unserved "api.json" entwined).outcome = .ok r ∧
      r.linked = ["#/components/schemas/End"] ∧
      ∀ path form, Observes entwined r.resolved path form ↔ Observes entwined entwined path form := by
  have hrun : (resolve {} unserved "api.json" entwined).outcome = .ok _ := rfl
  have hinner : ({} : ResolutionOptions).external = true →
      ∀ ref ∈ Reference.references entwined, (localPointer? ref).isSome = true := by decide
  exact ⟨_, hrun, rfl, observes_resolved_iff rfl rfl hinner hrun⟩

end ClientGen.Resolution
