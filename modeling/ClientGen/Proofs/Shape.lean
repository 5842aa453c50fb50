import ClientGen.Proofs.Entries
import ClientGen.Shape.Check

/-!
# What a value has that a shape accepts

`Fits grammar shape value` says that the check of the value finds no fault.  Then its parts have
the shapes of their places: the items of a list (`Fits.items`), the entries of a table
(`Fits.entries`, `Fits.pathEntries`), the members of a record (`Fits.member`,
`Fits.exists_required`), and some branch of a choice (`Fits.choice`).

`Accepts grammar shape value` says that the value is read, whatever was read before it.  It follows
from the same facts, part by part (`accepts_table`, `accepts_tuple`, `accepts_record`).
-/

namespace ClientGen.Shape

variable {ρ : Type} {grammar : ρ → Record ρ}

/-! ### The parts of a value -/

/-- Whether a key is a text. -/
def IsText (key : Value) : Prop :=
  ∃ s, key = .str s

/-- The items of a list, a tuple or a set. -/
def itemsIn : Value → List Value
  | .list items => items
  | .tuple items => items
  | .set members => members
  | _ => []

/-- The entries of an object, with keys of any type. -/
def entriesIn : Value → List (Value × Value)
  | .object fields => fields.map fun field => (.str field.1, field.2)
  | .mapping entries => entries
  | _ => []

/-- An entry with the check of its value. -/
def entryOf (grammar : ρ → Record ρ) (entry : Value × Value) : Entry ρ :=
  ⟨entry.1, entry.2, checker grammar entry.2⟩

/-- A value with the checks of its parts. -/
def subject (grammar : ρ → Record ρ) (value : Value) : Subject ρ :=
  ⟨value, (itemsIn value).map (checker grammar), (entriesIn value).map (entryOf grammar)⟩

@[simp] theorem value_subject (value : Value) : (subject grammar value).value = value := rfl

theorem checkers_eq_map (items : List Value) :
    checkers grammar items = items.map (checker grammar) := by
  induction items with
  | nil => rfl
  | cons item rest ih => rw [checkers, List.map_cons, ih]

theorem fieldCheckers_eq_map (fields : List (String × Value)) :
    fieldCheckers grammar fields =
      (fields.map fun field => (Value.str field.1, field.2)).map (entryOf grammar) := by
  induction fields with
  | nil => rfl
  | cons field rest ih => rw [fieldCheckers, List.map_cons, List.map_cons, ih, entryOf]

theorem entryCheckers_eq_map (entries : List (Value × Value)) :
    entryCheckers grammar entries = entries.map (entryOf grammar) := by
  induction entries with
  | nil => rfl
  | cons entry rest ih => rw [entryCheckers, List.map_cons, ih, entryOf]

/-- A value is judged by the checks of its parts. -/
theorem checker_eq_judge (grammar : ρ → Record ρ) (value : Value) :
    checker grammar value = judge grammar (subject grammar value) := by
  cases value <;>
    simp only [checker, checkers_eq_map, fieldCheckers_eq_map, entryCheckers_eq_map] <;> rfl

theorem judge_nullable {value : Value} (h : value ≠ .null) (inner : Shape ρ) (fit : Fit) :
    judge grammar (subject grammar value) (.nullable inner) fit =
      judge grammar (subject grammar value) inner fit := by
  rw [judge]
  cases value with
  | null => exact absurd rfl h
  | _ => rfl

/-- The value of an object under a name. -/
def valueAt? (name : String) : Value → Option Value
  | .object fields => Entries.get? name fields
  | .mapping entries => (entries.find? fun entry => entry.1.sameKey (.str name)).map (·.2)
  | _ => none

theorem valueAt?_of_field? {name : String} {value part : Value}
    (h : value.field? name = some part) : valueAt? name value = some part := by
  cases value with
  | object fields => exact h
  | _ => cases h

/-- Only a text is the same key as a text. -/
theorem sameKey_str (key : Value) (name : String) :
    key.sameKey (.str name) = match key with
      | .str other => other == name
      | _ => false := by
  cases key <;> simp [Value.sameKey, Value.number?]

theorem eq_str_of_sameKey {key : Value} {name : String} (h : key.sameKey (.str name) = true) :
    key = .str name := by
  rw [sameKey_str] at h
  split at h
  · rw [eq_of_beq h]
  · cases h

theorem entry?_eq_find? (name : String) (entries : List (Entry ρ)) :
    entry? name entries = entries.find? fun entry => entry.key.sameKey (.str name) := by
  unfold entry?
  congr 1
  funext entry
  exact (sameKey_str entry.key name).symm

/-- The entry under a name holds the value under that name. -/
theorem entry?_subject (name : String) (value : Value) :
    entry? name (subject grammar value).entries =
      (valueAt? name value).map fun part => entryOf grammar (.str name, part) := by
  rw [entry?_eq_find?]
  cases value with
  | object fields =>
    show (((fields.map fun field => (Value.str field.1, field.2)).map (entryOf grammar)).find? _) =
      (Entries.get? name fields).map _
    induction fields with
    | nil => rfl
    | cons field rest ih =>
      obtain ⟨key, part⟩ := field
      rw [List.map_cons, List.map_cons, List.find?_cons, Entries.get?_cons, ih]
      show (match key == name with
        | true => _
        | false => _) = _
      by_cases hkey : key = name
      · rw [hkey, beq_self_eq_true, if_pos rfl]
        rfl
      · rw [beq_eq_false_iff_ne.mpr hkey, if_neg hkey]
  | mapping entries =>
    show ((entries.map (entryOf grammar)).find? _) =
      ((entries.find? fun entry => entry.1.sameKey (.str name)).map (·.2)).map _
    rw [List.find?_map, Option.map_map]
    refine Option.map_congr fun entry hfound => ?_
    have hsame : entry.1.sameKey (.str name) = true :=
      List.find?_some (p := fun e : Value × Value => e.1.sameKey (.str name)) hfound
    have hkey : entry.1 = .str name := eq_str_of_sameKey hsame
    show entryOf grammar entry = entryOf grammar (.str name, entry.2)
    rw [← hkey]
  | _ => rfl

/-- A member that has one name is found under it. -/
theorem memberEntry?_subject {member : Member ρ} (hname : member.secondName = member.name)
    (value : Value) :
    Member.entry? member (subject grammar value).entries =
      (valueAt? member.name value).map fun part =>
        (member.name, entryOf grammar (.str member.name, part)) := by
  rw [Member.entry?, hname, entry?_subject]
  cases valueAt? member.name value <;> rfl

/-! ### Verdicts without faults -/

/-- A verdict without faults. -/
def IsClean (verdict : Verdict) : Prop :=
  ∀ faults, verdict = .error faults → faults = []

theorem isClean_ok (result : Value × Fit) : IsClean (.ok result) :=
  fun _ h => nomatch h

theorem not_isClean_refuse (value : Value) (cause : Cause) : ¬IsClean (refuse value cause) :=
  fun h => nomatch h _ rfl

section Gathered

variable {α : Type} {item : Shape ρ} {gathered : Gathered α}

theorem Gathered.faults_add_eq_nil {step : String} {make : Value → α} {verdict : Verdict} :
    (gathered.add step make verdict).faults = [] ↔ gathered.faults = [] ∧ IsClean verdict := by
  cases verdict with
  | ok result => exact (and_iff_left (isClean_ok result)).symm
  | error faults =>
    rw [Gathered.add, List.append_eq_nil_iff, List.map_eq_nil_iff]
    refine and_congr_right fun _ => ⟨fun h more hmore => ?_, fun h => h faults rfl⟩
    cases hmore
    exact h

theorem Gathered.isClean_verdict {whole : List α → Value} :
    IsClean (gathered.verdict whole) ↔ gathered.faults = [] := by
  unfold Gathered.verdict
  split
  · rename_i hnil
    exact ⟨fun _ => List.isEmpty_iff.mp hnil, fun _ => isClean_ok _⟩
  · rename_i hnil
    exact ⟨fun h => absurd (h _ rfl) fun hfaults => hnil (List.isEmpty_iff.mpr hfaults),
      fun h => absurd (List.isEmpty_iff.mpr h) hnil⟩

theorem clean_of_gatherItems {i : Nat} {checks : List (Checker ρ)} {gathered : Gathered Value}
    (h : (gatherItems item i checks gathered).faults = []) :
    gathered.faults = [] ∧ ∀ check ∈ checks, ∃ fit, IsClean (check item fit) := by
  induction checks generalizing i gathered with
  | nil => exact ⟨h, fun _ hmem => absurd hmem List.not_mem_nil⟩
  | cons check rest ih =>
    rw [gatherItems] at h
    obtain ⟨hadd, hrest⟩ := ih h
    obtain ⟨hfaults, hclean⟩ := Gathered.faults_add_eq_nil.mp hadd
    exact ⟨hfaults, List.forall_mem_cons.mpr ⟨⟨_, hclean⟩, hrest⟩⟩

theorem clean_of_gatherEntries {entries : List (Entry ρ)} {gathered : Gathered (String × Value)}
    (h : (gatherEntries item entries gathered).faults = []) :
    gathered.faults = [] ∧
      ∀ entry ∈ entries, IsText entry.key ∧
        ∃ fit, IsClean (entry.check item fit) := by
  induction entries generalizing gathered with
  | nil => exact ⟨h, fun _ hmem => absurd hmem List.not_mem_nil⟩
  | cons entry rest ih =>
    rw [gatherEntries] at h
    obtain ⟨hnext, hrest⟩ := ih h
    split at hnext
    · rename_i name hkey
      obtain ⟨hfaults, hclean⟩ := Gathered.faults_add_eq_nil.mp hnext
      exact ⟨hfaults, List.forall_mem_cons.mpr ⟨⟨⟨name, hkey⟩, _, hclean⟩, hrest⟩⟩
    · exact nomatch (List.append_eq_nil_iff.mp hnext).2

theorem clean_of_gatherMembers {value : Value} {entries : List (Entry ρ)}
    {members : List (Member ρ)} {gathered : Gathered (String × Value)}
    (h : (gatherMembers value entries members gathered).faults = []) :
    gathered.faults = [] ∧
      ∀ member ∈ members,
        (∀ found, Member.entry? member entries = some found →
          ∃ fit, IsClean (found.2.check member.shape fit)) ∧
        (member.required = true → (Member.entry? member entries).isSome = true) := by
  induction members generalizing gathered with
  | nil => exact ⟨h, fun _ hmem => absurd hmem List.not_mem_nil⟩
  | cons member rest ih =>
    rw [gatherMembers] at h
    obtain ⟨hnext, hrest⟩ := ih h
    split at hnext
    · rename_i name entry hfound
      obtain ⟨hfaults, hclean⟩ := Gathered.faults_add_eq_nil.mp hnext
      refine ⟨hfaults, List.forall_mem_cons.mpr ⟨⟨fun found hmem => ?_, fun _ => ?_⟩, hrest⟩⟩
      · rw [hfound] at hmem
        cases hmem
        exact ⟨_, hclean⟩
      · rw [hfound]
        rfl
    · rename_i hfound
      split at hnext
      · exact nomatch (List.append_eq_nil_iff.mp hnext).2
      · rename_i hrequired
        refine ⟨hnext, List.forall_mem_cons.mpr ⟨⟨fun found hmem => ?_, fun h => ?_⟩, hrest⟩⟩
        · rw [hfound] at hmem
          cases hmem
        · exact absurd h hrequired

end Gathered

/-- A choice finds no fault only if some branch does not, or there are no branches. -/
theorem clean_of_judgeBranches {subject : Subject ρ} {outer : Fit} {faults : List Fault}
    {branches : List (String × Shape ρ)}
    (h : IsClean (judgeBranches grammar subject outer faults none branches)) :
    (∃ branch ∈ branches, IsClean (judge grammar subject branch.2 .start)) ∨
      branches = [] ∧ faults = [] := by
  induction branches generalizing faults with
  | nil => exact Or.inr ⟨rfl, h faults rfl⟩
  | cons branch rest ih =>
    obtain ⟨label, shape⟩ := branch
    rw [judgeBranches] at h
    left
    cases hbranch : judge grammar subject shape .start with
    | ok result => exact ⟨_, List.mem_cons_self, hbranch ▸ isClean_ok result⟩
    | error more =>
      rw [hbranch] at h
      rcases ih h with ⟨branch, hmem, hclean⟩ | ⟨-, hnil⟩
      · exact ⟨branch, List.mem_cons_of_mem _ hmem, hclean⟩
      · have hmore : more = [] := List.map_eq_nil_iff.mp (List.append_eq_nil_iff.mp hnil).2
        refine ⟨_, List.mem_cons_self, fun faults hfaults => ?_⟩
        rw [hbranch] at hfaults
        cases hfaults
        exact hmore

/-! ### Values without faults -/

/-- The check of a value finds no fault. -/
def Fits (grammar : ρ → Record ρ) (shape : Shape ρ) (value : Value) : Prop :=
  ∃ fit, IsClean (checker grammar value shape fit)

/-- A value that is read has no fault. -/
theorem fits_of_check {shape : Shape ρ} {value read : Value}
    (h : check grammar shape value = .ok read) : Fits grammar shape value := by
  refine ⟨.start, fun faults hfaults => ?_⟩
  unfold check at h
  rw [hfaults] at h
  cases h

namespace Fits

variable {item inner : Shape ρ} {value : Value}

theorem judge {shape : Shape ρ} (h : Fits grammar shape value) :
    ∃ fit, IsClean (Shape.judge grammar (subject grammar value) shape fit) := by
  obtain ⟨fit, hclean⟩ := h
  exact ⟨fit, checker_eq_judge grammar value ▸ hclean⟩

theorem of_judge {shape : Shape ρ} {fit : Fit}
    (h : IsClean (Shape.judge grammar (subject grammar value) shape fit)) :
    Fits grammar shape value :=
  ⟨fit, (checker_eq_judge grammar value).symm ▸ h⟩

theorem text {n : Nat} (h : Fits grammar (.text n) value) :
    ∃ s closeness, readText value = .ok (s, closeness) ∧ n ≤ s.length := by
  obtain ⟨fit, hclean⟩ := h.judge
  rw [Shape.judge] at hclean
  split at hclean
  · rename_i s closeness hread
    split at hclean
    · exact absurd hclean (not_isClean_refuse _ _)
    · rename_i hlength
      exact ⟨s, closeness, hread, Nat.le_of_not_lt hlength⟩
  · exact absurd hclean (not_isClean_refuse _ _)

theorem integer (h : Fits grammar (.integer none) value) :
    ∃ n closeness, readInteger value = .ok (n, closeness) := by
  obtain ⟨fit, hclean⟩ := h.judge
  rw [Shape.judge] at hclean
  split at hclean
  · rename_i n closeness hread
    exact ⟨n, closeness, hread⟩
  · exact absurd hclean (not_isClean_refuse _ _)

theorem number (h : Fits grammar (.number false) value) :
    ∃ x closeness, readNumber value = .ok (x, closeness) := by
  obtain ⟨fit, hclean⟩ := h.judge
  rw [Shape.judge] at hclean
  split at hclean
  · rename_i x closeness hread
    exact ⟨x, closeness, hread⟩
  · exact absurd hclean (not_isClean_refuse _ _)

theorem word {allowed : List String} (h : Fits grammar (.word allowed) value) :
    ∃ s, value = .str s ∧ s ∈ allowed := by
  obtain ⟨fit, hclean⟩ := h.judge
  rw [Shape.judge] at hclean
  split at hclean
  · rename_i s hvalue
    split at hclean
    · rename_i hmem
      exact ⟨s, hvalue, List.contains_iff_mem.mp hmem⟩
    · exact absurd hclean (not_isClean_refuse _ _)
  · exact absurd hclean (not_isClean_refuse _ _)

/-- A value at the place of a truth value is no object. -/
theorem isObject_of_truth (h : Fits grammar .truth value) : value.isObject = false := by
  obtain ⟨fit, hclean⟩ := h.judge
  rw [Shape.judge] at hclean
  cases value with
  | object fields | mapping entries => exact absurd hclean (not_isClean_refuse _ _)
  | _ => rfl

theorem nullable (h : Fits grammar (.nullable inner) value) :
    value = .null ∨ Fits grammar inner value := by
  obtain ⟨fit, hclean⟩ := h.judge
  rw [Shape.judge] at hclean
  split at hclean
  · rename_i hnull
    exact Or.inl hnull
  · exact Or.inr (.of_judge hclean)

theorem toNullable (h : Fits grammar inner value) : Fits grammar (.nullable inner) value := by
  by_cases hnull : value = .null
  · exact hnull ▸ ⟨.start, isClean_ok _⟩
  · obtain ⟨fit, hclean⟩ := h.judge
    exact .of_judge (judge_nullable hnull inner fit ▸ hclean)

/-- A value that a choice accepts has the shape of some branch. -/
theorem choice {branches : List (String × Shape ρ)} (h : Fits grammar (.choice branches) value)
    (hne : branches ≠ []) : ∃ branch ∈ branches, Fits grammar branch.2 value := by
  obtain ⟨fit, hclean⟩ := h.judge
  rw [Shape.judge] at hclean
  rcases clean_of_judgeBranches hclean with ⟨branch, hmem, hbranch⟩ | ⟨hnil, -⟩
  · exact ⟨branch, hmem, .of_judge hbranch⟩
  · exact absurd hnil hne

/-- The items of a list have the shape of items. -/
theorem items (h : Fits grammar (.list item) value) :
    (itemsOf? value).isSome = true ∧ ∀ part ∈ itemsIn value, Fits grammar item part := by
  obtain ⟨fit, hclean⟩ := h.judge
  rw [Shape.judge] at hclean
  split at hclean
  · rename_i closeness hitems
    obtain ⟨-, hparts⟩ := clean_of_gatherItems (Gathered.isClean_verdict.mp hclean)
    exact ⟨Option.isSome_iff_exists.mpr ⟨closeness, hitems⟩,
      fun part hpart => hparts _ (List.mem_map_of_mem hpart)⟩
  · exact absurd hclean (not_isClean_refuse _ _)

/-- The entries of a table have texts for keys, and values of the shape of items. -/
theorem entries (h : Fits grammar (.table .free item) value) :
    value.isObject = true ∧
      ∀ entry ∈ entriesIn value, IsText entry.1 ∧ Fits grammar item entry.2 := by
  obtain ⟨fit, hclean⟩ := h.judge
  rw [Shape.judge] at hclean
  split at hclean
  · rename_i hobject
    obtain ⟨-, hentries⟩ := clean_of_gatherEntries (Gathered.isClean_verdict.mp hclean)
    exact ⟨hobject, fun entry hentry => hentries _ (List.mem_map_of_mem hentry)⟩
  · exact absurd hclean (not_isClean_refuse _ _)

/-- The entries of a table of paths have texts for keys and, extensions apart, values of the shape
of items. -/
theorem pathEntries (h : Fits grammar (.table .pathTemplate item) value) :
    value.isObject = true ∧
      ∀ entry ∈ entriesIn value, ∃ name, entry.1 = .str name ∧
        (Text.startsWith "x-" name = false → Fits grammar item entry.2) := by
  obtain ⟨fit, hclean⟩ := h.judge
  rw [Shape.judge] at hclean
  split at hclean
  · rename_i hobject
    refine ⟨hobject, fun entry hentry => ?_⟩
    split at hclean
    · rename_i kept hkept
      obtain ⟨-, hentries⟩ := clean_of_gatherEntries (Gathered.isClean_verdict.mp hclean)
      unfold KeyRule.entries at hkept
      dsimp only at hkept
      split at hkept
      · cases hkept
      · cases hkept
        by_cases hextension : (entry.1.str?.any fun name => Text.startsWith "x-" name) = true
        · obtain ⟨key, part⟩ := entry
          cases key with
          | str name => exact ⟨name, rfl, fun hnone =>
            absurd hextension (Bool.eq_false_iff.mp hnone)⟩
          | _ => cases hextension
        · have hmem : entryOf grammar entry ∈ (subject grammar value).entries.filter fun entry =>
              !(entry.key.str?.any fun name => Text.startsWith "x-" name) :=
            List.mem_filter.mpr ⟨List.mem_map_of_mem hentry, by simpa [entryOf] using hextension⟩
          obtain ⟨⟨name, hname⟩, hfits⟩ := hentries _ hmem
          exact ⟨name, hname, fun _ => hfits⟩
    · exact absurd hclean (not_isClean_refuse _ _)
  · exact absurd hclean (not_isClean_refuse _ _)

/-- What a record finds fits: each member that is there has its shape, and the required ones are
there. -/
theorem members {name : ρ} (h : Fits grammar (.record name) value) :
    value.isObject = true ∧
      ∀ member ∈ (grammar name).members,
        (∀ found, Member.entry? member (subject grammar value).entries = some found →
          ∃ fit, IsClean (found.2.check member.shape fit)) ∧
        (member.required = true →
          (Member.entry? member (subject grammar value).entries).isSome = true) := by
  obtain ⟨fit, hclean⟩ := h.judge
  rw [judge_record, checkRecord] at hclean
  split at hclean
  · rename_i hobject
    have hfaults := Gathered.isClean_verdict.mp hclean
    exact ⟨hobject, (clean_of_gatherMembers (List.append_eq_nil_iff.mp hfaults).1).2⟩
  · exact absurd hclean (not_isClean_refuse _ _)

theorem isObject {name : ρ} (h : Fits grammar (.record name) value) : value.isObject = true :=
  h.members.1

/-- A member that is found under its name has its shape. -/
theorem member {name : ρ} (h : Fits grammar (.record name) value) (member : Member ρ)
    (hmember : member ∈ (grammar name).members) {part : Value}
    (hpart : valueAt? member.name value = some part) : Fits grammar member.shape part := by
  obtain ⟨hfound, -⟩ := h.members.2 member hmember
  have hentry : Member.entry? member (subject grammar value).entries =
      some (member.name, entryOf grammar (.str member.name, part)) := by
    rw [Member.entry?, entry?_subject, hpart]
    rfl
  exact hfound _ hentry

/-- A required member that has no second name is there. -/
theorem exists_required {name : ρ} (h : Fits grammar (.record name) value) {member : Member ρ}
    (hmember : member ∈ (grammar name).members) (hrequired : member.required = true)
    (hname : member.secondName = member.name) :
    ∃ part, valueAt? member.name value = some part ∧ Fits grammar member.shape part := by
  have hsome := (h.members.2 member hmember).2 hrequired
  rw [memberEntry?_subject hname] at hsome
  cases hpart : valueAt? member.name value with
  | none =>
    rw [hpart] at hsome
    cases hsome
  | some part => exact ⟨part, rfl, h.member member hmember hpart⟩

end Fits

/-! ### Values that are read -/

/-- The value is read, whatever was read before it. -/
def Accepts (grammar : ρ → Record ρ) (shape : Shape ρ) (value : Value) : Prop :=
  ∀ fit, ∃ result, checker grammar value shape fit = .ok result

section Accepts

variable {σ : Type} {other : σ → Record σ} {item inner : Shape ρ} {value : Value}

theorem accepts_of_judge {shape : Shape ρ}
    (h : ∀ fit, ∃ result, judge grammar (subject grammar value) shape fit = .ok result) :
    Accepts grammar shape value := by
  intro fit
  rw [checker_eq_judge]
  exact h fit

theorem accepts_any (value : Value) : Accepts grammar .any value :=
  accepts_of_judge fun _ => ⟨_, rfl⟩

theorem accepts_text {n : Nat} {s : String} {closeness : Closeness}
    (hread : readText value = .ok (s, closeness)) (hlength : n ≤ s.length) :
    Accepts grammar (.text n) value := by
  refine accepts_of_judge fun fit => ⟨(.str s, fit.floor closeness), ?_⟩
  rw [judge, value_subject, hread]
  exact if_neg (Nat.not_lt.mpr hlength)

/-- A text of one grammar is a text of any other. -/
theorem Fits.accepts_text {n : Nat} (h : Fits other (.text n) value) :
    Accepts grammar (.text n) value := by
  obtain ⟨s, closeness, hread, hlength⟩ := h.text
  exact Shape.accepts_text hread hlength

theorem Fits.accepts_integer (h : Fits other (.integer none) value) :
    Accepts grammar (.integer none) value := by
  obtain ⟨n, closeness, hread⟩ := h.integer
  refine accepts_of_judge fun fit => ⟨(.int n, fit.floor closeness), ?_⟩
  rw [Shape.judge, value_subject, hread]

theorem Fits.accepts_number (h : Fits other (.number false) value) :
    Accepts grammar (.number false) value := by
  obtain ⟨x, closeness, hread⟩ := h.number
  refine accepts_of_judge fun fit => ⟨(.float x, fit.floor closeness), ?_⟩
  rw [Shape.judge, value_subject, hread]
  exact if_neg Bool.false_ne_true

theorem accepts_null (inner : Shape ρ) : Accepts grammar (.nullable inner) .null :=
  accepts_of_judge fun fit => ⟨(.null, fit), rfl⟩

theorem accepts_nullable (h : Accepts grammar inner value) :
    Accepts grammar (.nullable inner) value := by
  by_cases hnull : value = .null
  · exact hnull ▸ accepts_null inner
  · refine accepts_of_judge fun fit => ?_
    obtain ⟨result, hresult⟩ := h fit
    rw [checker_eq_judge] at hresult
    exact ⟨result, judge_nullable hnull inner fit ▸ hresult⟩

/-- What is null or of some shape is accepted where it is accepted in that shape. -/
theorem Fits.accepts_nullable {shape : Shape σ} (h : Fits other (.nullable shape) value)
    (hinner : Fits other shape value → Accepts grammar inner value) :
    Accepts grammar (.nullable inner) value := by
  rcases h.nullable with rfl | hshape
  · exact accepts_null inner
  · exact Shape.accepts_nullable (hinner hshape)

theorem faults_gatherItems {checks : List (Checker ρ)} {i : Nat} {gathered : Gathered Value}
    (h : ∀ check ∈ checks, ∀ fit, ∃ result, check item fit = .ok result) :
    (gatherItems item i checks gathered).faults = gathered.faults := by
  induction checks generalizing i gathered with
  | nil => rfl
  | cons check rest ih =>
    obtain ⟨result, hresult⟩ := h check List.mem_cons_self gathered.fit
    rw [gatherItems, hresult, ih fun check hcheck => h check (List.mem_cons_of_mem _ hcheck)]
    rfl

theorem faults_gatherEntries {entries : List (Entry ρ)} {gathered : Gathered (String × Value)}
    (h : ∀ entry ∈ entries, IsText entry.key ∧
      ∀ fit, ∃ result, entry.check item fit = .ok result) :
    (gatherEntries item entries gathered).faults = gathered.faults := by
  induction entries generalizing gathered with
  | nil => rfl
  | cons entry rest ih =>
    obtain ⟨⟨name, hname⟩, hentry⟩ := h entry List.mem_cons_self
    obtain ⟨result, hresult⟩ := hentry gathered.fit
    rw [gatherEntries, hname, hresult, ih fun entry hmem => h entry (List.mem_cons_of_mem _ hmem)]
    rfl

theorem faults_gatherMembers {value : Value} {entries : List (Entry ρ)}
    {members : List (Member ρ)} {gathered : Gathered (String × Value)}
    (h : ∀ member ∈ members, member.required = false ∧
      ∀ found, Member.entry? member entries = some found →
        ∀ fit, ∃ result, found.2.check member.shape fit = .ok result) :
    (gatherMembers value entries members gathered).faults = gathered.faults := by
  induction members generalizing gathered with
  | nil => rfl
  | cons member rest ih =>
    obtain ⟨hrequired, hfound⟩ := h member List.mem_cons_self
    rw [gatherMembers, ih fun member hmem => h member (List.mem_cons_of_mem _ hmem)]
    cases hentry : Member.entry? member entries with
    | none =>
      dsimp only
      rw [if_neg (hrequired ▸ Bool.false_ne_true)]
    | some found =>
      obtain ⟨result, hresult⟩ := hfound found hentry gathered.fit
      dsimp only
      rw [hresult]
      rfl

theorem Gathered.exists_verdict {α : Type} {gathered : Gathered α} (h : gathered.faults = [])
    (whole : List α → Value) : ∃ result, gathered.verdict whole = .ok result := by
  rw [Gathered.verdict, h]
  exact ⟨_, rfl⟩

theorem accepts_tuple (hitems : (tupleItemsOf? value).isSome = true)
    (h : ∀ part ∈ itemsIn value, Accepts grammar item part) :
    Accepts grammar (.tuple item) value := by
  obtain ⟨closeness, hcloseness⟩ := Option.isSome_iff_exists.mp hitems
  refine accepts_of_judge fun fit => ?_
  rw [judge, value_subject, hcloseness]
  have hfaults : (gatherItems item 0 (subject grammar value).items
      ⟨[], [], fit.floor closeness⟩).faults = [] := by
    refine faults_gatherItems fun check hcheck => ?_
    obtain ⟨part, hpart, rfl⟩ := List.mem_map.mp hcheck
    exact h part hpart
  dsimp only
  exact Gathered.exists_verdict hfaults Value.list

theorem accepts_table (hobject : value.isObject = true)
    (h : ∀ entry ∈ entriesIn value, IsText entry.1 ∧ Accepts grammar item entry.2) :
    Accepts grammar (.table .free item) value := by
  refine accepts_of_judge fun fit => ?_
  rw [judge, value_subject, if_pos hobject]
  dsimp only [KeyRule.entries]
  have hfaults :
      (gatherEntries item (subject grammar value).entries ⟨[], [], fit⟩).faults = [] := by
    refine faults_gatherEntries fun entry hentry => ?_
    obtain ⟨part, hpart, rfl⟩ := List.mem_map.mp hentry
    exact h part hpart
  exact Gathered.exists_verdict hfaults Value.object

/-- Members that may be missing and have one name each are gathered without fault, when those that
are there are read. -/
theorem faults_gatherMembers_subject {members : List (Member ρ)}
    {gathered : Gathered (String × Value)}
    (h : ∀ member ∈ members, member.required = false ∧ member.secondName = member.name ∧
      ∀ part, valueAt? member.name value = some part → Accepts grammar member.shape part) :
    (gatherMembers value (subject grammar value).entries members gathered).faults =
      gathered.faults := by
  refine faults_gatherMembers fun member hmember => ?_
  obtain ⟨hrequired, hname, hread⟩ := h member hmember
  refine ⟨hrequired, fun found hfound => ?_⟩
  rw [memberEntry?_subject hname] at hfound
  obtain ⟨part, hpart, rfl⟩ := Option.map_eq_some_iff.mp hfound
  exact hread part hpart

/-- A record is read whose members may all be missing and have one name each, when those that are
there are read. -/
theorem accepts_record {name : ρ} (hopen : (grammar name).closed = false)
    (hobject : value.isObject = true)
    (h : ∀ member ∈ (grammar name).members, member.required = false ∧
      member.secondName = member.name ∧
      ∀ part, valueAt? member.name value = some part → Accepts grammar member.shape part) :
    Accepts grammar (.record name) value := by
  refine accepts_of_judge fun fit => ?_
  rw [judge_record, checkRecord, value_subject, if_pos hobject, hopen]
  dsimp only
  refine Gathered.exists_verdict ?_ Value.object
  dsimp only
  rw [if_neg Bool.false_ne_true, List.append_nil]
  exact faults_gatherMembers_subject h

end Accepts

end ClientGen.Shape
