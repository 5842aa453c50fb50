import ClientGen.Proofs.Entries
import ClientGen.Proofs.Shape
import Mathlib.Data.List.Nodup

/-!
# Closed records of plain members

A record that refuses names it does not know reads an object exactly when each of its fields is a
member that fits (`exists_check_iff`): no field stands in the way of another.  So objects that are
read each on their own are read when one is laid over the other.

The members have to be plain.  A plain value is read, or not, whatever was read before it
(`Fits.accepts`), and it is read as the same (`readsAlike_of_isPlain`).  So what a closed record
reads under a name is what it reads of the field of that name alone (`field?_of_check`), and
objects with the same field read the same there, however they differ elsewhere
(`field?_eq_of_check`).
-/

namespace ClientGen

open Shape

/-- A shape that asks for no record and leaves no choice. -/
inductive Shape.IsPlain {ρ : Type} : Shape ρ → Prop where
  | text (minLength : Nat) : IsPlain (.text minLength)
  | integer (least : Option Int) : IsPlain (.integer least)
  | number (positive : Bool) : IsPlain (.number positive)
  | truth : IsPlain .truth
  | list {item : Shape ρ} : IsPlain item → IsPlain (.list item)
  | nullable {inner : Shape ρ} : IsPlain inner → IsPlain (.nullable inner)

/-- A record that refuses names it does not know, and whose members are plain and may be missing. -/
structure Record.IsClosed {ρ : Type} (record : Record ρ) : Prop where
  closed : record.closed = true
  nodup : (record.members.map Member.name).Nodup
  optional : ∀ member ∈ record.members, member.required = false
  oneName : ∀ member ∈ record.members, member.secondName = member.name
  plain : ∀ member ∈ record.members, member.shape.IsPlain

namespace Shape

variable {ρ : Type} {grammar : ρ → Record ρ} {value : Value}

/-- What fits a plain shape is read, whatever was read before it. -/
theorem Fits.accepts {shape : Shape ρ} (hplain : shape.IsPlain) (h : Fits grammar shape value) :
    Accepts grammar shape value := by
  induction hplain generalizing value with
  | text minLength => exact h.accepts_text
  | integer least =>
    obtain ⟨fit, hclean⟩ := h.judge
    refine accepts_of_judge fun other => ?_
    rw [Shape.judge, value_subject] at hclean ⊢
    cases hread : readInteger value with
    | error cause =>
      rw [hread] at hclean
      exact absurd hclean (not_isClean_refuse _ _)
    | ok reading =>
      rw [hread] at hclean
      cases least with
      | none => exact ⟨_, rfl⟩
      | some bound =>
        dsimp only at hclean ⊢
        by_cases hsmall : reading.1 < bound
        · rw [if_pos hsmall] at hclean
          exact absurd hclean (not_isClean_refuse _ _)
        · rw [if_neg hsmall]
          exact ⟨_, rfl⟩
  | number positive =>
    obtain ⟨fit, hclean⟩ := h.judge
    refine accepts_of_judge fun other => ?_
    rw [Shape.judge, value_subject] at hclean ⊢
    cases hread : readNumber value with
    | error cause =>
      rw [hread] at hclean
      exact absurd hclean (not_isClean_refuse _ _)
    | ok reading =>
      rw [hread] at hclean
      dsimp only at hclean ⊢
      split at hclean
      · exact absurd hclean (not_isClean_refuse _ _)
      · rename_i hpositive
        rw [if_neg hpositive]
        exact ⟨_, rfl⟩
  | truth =>
    obtain ⟨fit, hclean⟩ := h.judge
    refine accepts_of_judge fun other => ?_
    rw [Shape.judge, value_subject] at hclean ⊢
    cases hread : readTruth value with
    | error cause =>
      rw [hread] at hclean
      exact absurd hclean (not_isClean_refuse _ _)
    | ok reading => exact ⟨_, rfl⟩
  | list hitem ih =>
    obtain ⟨hitems, hparts⟩ := h.items
    obtain ⟨closeness, hcloseness⟩ := Option.isSome_iff_exists.mp hitems
    refine accepts_of_judge fun other => ?_
    rw [Shape.judge, value_subject, hcloseness]
    refine Gathered.exists_verdict (faults_gatherItems fun check hcheck => ?_) Value.list
    obtain ⟨part, hpart, rfl⟩ := List.mem_map.mp hcheck
    exact ih (hparts part hpart)
  | nullable hinner ih => exact h.accepts_nullable ih

/-- No entry is unknown to a closed record exactly when each field is that of a member. -/
theorem extraFaults_eq_nil_iff {record : Record ρ} (hrecord : record.IsClosed)
    {fields : List (String × Value)} :
    extraFaults record (subject grammar (.object fields)).entries = [] ↔
      ∀ field ∈ fields, ∃ member ∈ record.members, member.name = field.1 := by
  unfold extraFaults
  rw [List.filterMap_eq_nil_iff]
  constructor
  · intro h field hfield
    have hentry : entryOf grammar (.str field.1, field.2) ∈
        (subject grammar (.object fields)).entries :=
      List.mem_map_of_mem (List.mem_map_of_mem (f := fun field : String × Value =>
        (Value.str field.1, field.2)) hfield)
    have hnone := h _ hentry
    dsimp only [entryOf] at hnone
    split at hnone
    · rename_i hused
      obtain ⟨member, hmember, hfound⟩ := List.mem_filterMap.mp (List.contains_iff_mem.mp hused)
      rw [memberEntry?_subject (hrecord.oneName member hmember), Option.map_map] at hfound
      obtain ⟨part, -, hname⟩ := Option.map_eq_some_iff.mp hfound
      exact ⟨member, hmember, hname⟩
    · cases hnone
  · intro h entry hentry
    obtain ⟨pair, hpair, rfl⟩ := List.mem_map.mp hentry
    obtain ⟨field, hfield, rfl⟩ := List.mem_map.mp hpair
    obtain ⟨member, hmember, hname⟩ := h field hfield
    dsimp only [entryOf]
    refine if_pos (List.contains_iff_mem.mpr (List.mem_filterMap.mpr ⟨member, hmember, ?_⟩))
    have hthere : valueAt? member.name (.object fields) ≠ none := fun hnone =>
      (Entries.get?_eq_none_iff _ fields).mp hnone (hname ▸ Entries.mem_keys_of_mem hfield)
    obtain ⟨part, hpart⟩ := Option.ne_none_iff_exists'.mp hthere
    rw [memberEntry?_subject (hrecord.oneName member hmember), hpart, ← hname]
    rfl

/-- A closed record reads an object exactly when each of its fields is a member that fits. -/
theorem exists_check_iff {name : ρ} (hrecord : (grammar name).IsClosed)
    {fields : List (String × Value)} (hnodup : (Entries.keys fields).Nodup) :
    (∃ read, check grammar (.record name) (.object fields) = .ok read) ↔
      ∀ field ∈ fields, ∃ member ∈ (grammar name).members,
        member.name = field.1 ∧ Fits grammar member.shape field.2 := by
  have hobject : (Value.object fields).isObject = true := rfl
  have hjudge : ∀ fit, checker grammar (.object fields) (.record name) fit =
      checkRecord (grammar name) (subject grammar (.object fields)) fit := by
    intro fit
    rw [checker_eq_judge, judge_record]
  constructor
  · rintro ⟨read, hread⟩ field hfield
    have hfits : Fits grammar (.record name) (.object fields) := fits_of_check hread
    obtain ⟨fit, hclean⟩ := hfits
    rw [hjudge, checkRecord, value_subject, if_pos hobject] at hclean
    have hextra := (List.append_eq_nil_iff.mp (Gathered.isClean_verdict.mp hclean)).2
    rw [if_pos hrecord.closed] at hextra
    obtain ⟨member, hmember, hname⟩ := (extraFaults_eq_nil_iff hrecord).mp hextra field hfield
    refine ⟨member, hmember, hname, (fits_of_check hread).member member hmember ?_⟩
    rw [hname]
    exact Entries.get?_of_mem hnodup hfield
  · intro h
    have hextra : extraFaults (grammar name) (subject grammar (.object fields)).entries = [] := by
      refine (extraFaults_eq_nil_iff hrecord).mpr fun field hfield => ?_
      obtain ⟨member, hmember, hname, -⟩ := h field hfield
      exact ⟨member, hmember, hname⟩
    have hmembers : (gatherMembers (.object fields) (subject grammar (.object fields)).entries
        (grammar name).members ⟨[], [], Fit.start.floor .loose⟩).faults = [] := by
      refine faults_gatherMembers_subject fun member hmember => ?_
      refine ⟨hrecord.optional member hmember, hrecord.oneName member hmember, fun part hpart => ?_⟩
      obtain ⟨other, hother, hname, hfits⟩ := h (member.name, part) (Entries.mem_of_get? hpart)
      have hsame : other = member := List.inj_on_of_nodup_map hrecord.nodup hother hmember hname
      exact hsame ▸ hfits.accepts (hrecord.plain other hother)
    obtain ⟨result, hresult⟩ : ∃ result, checkRecord (grammar name)
        (subject grammar (.object fields)) .start = .ok result := by
      rw [checkRecord, value_subject, if_pos hobject]
      refine Gathered.exists_verdict ?_ Value.object
      dsimp only
      rw [if_pos hrecord.closed, hextra, List.append_nil]
      exact hmembers
    refine ⟨result.1, ?_⟩
    unfold check
    rw [hjudge, hresult]
    rfl

/-! ### Readings whatever the fit -/

/-- A check reads the same value, or finds the same faults, whatever was read before. -/
def ReadsAlike (check : Fit → Verdict) : Prop :=
  ∀ fit other, (check fit).map (·.1) = (check other).map (·.1)

/-- Two collections with the same values and the same faults. -/
structure Gathered.Alike {α : Type} (gathered other : Gathered α) : Prop where
  values : gathered.values = other.values
  faults : gathered.faults = other.faults

namespace Gathered.Alike

variable {α : Type} {gathered other : Gathered α}

/-- What verdicts add is their values or their faults. -/
theorem add (h : gathered.Alike other) {verdict verdict' : Verdict}
    (hverdict : verdict.map (·.1) = verdict'.map (·.1)) (step : String) (make : Value → α) :
    (gathered.add step make verdict).Alike (other.add step make verdict') := by
  cases verdict with
  | ok result =>
    cases verdict' with
    | ok result' =>
      have hvalue : result.1 = result'.1 := Except.ok.inj hverdict
      refine ⟨?_, h.faults⟩
      show gathered.values ++ [make result.1] = other.values ++ [make result'.1]
      rw [h.values, hvalue]
    | error faults' => cases hverdict
  | error faults =>
    cases verdict' with
    | ok result' => cases hverdict
    | error faults' =>
      have hfaults : faults = faults' := Except.error.inj hverdict
      refine ⟨h.values, ?_⟩
      show gathered.faults ++ _ = other.faults ++ _
      rw [h.faults, hfaults]

theorem verdict (h : gathered.Alike other) (whole : List α → Value) :
    (gathered.verdict whole).map (·.1) = (other.verdict whole).map (·.1) := by
  unfold Gathered.verdict
  rw [h.faults, h.values]
  split <;> rfl

theorem gatherItems {item : Shape ρ} {checks : List (Checker ρ)}
    (hchecks : ∀ check ∈ checks, ReadsAlike (check item)) (i : Nat)
    {gathered other : Gathered Value} (h : gathered.Alike other) :
    (gatherItems item i checks gathered).Alike (Shape.gatherItems item i checks other) := by
  induction checks generalizing i gathered other with
  | nil => exact h
  | cons check rest ih =>
    obtain ⟨hcheck, hrest⟩ := List.forall_mem_cons.mp hchecks
    exact ih hrest (i + 1) (h.add (hcheck gathered.fit other.fit) _ _)

end Gathered.Alike

/-- **A plain shape reads a value alike whatever was read before it.** -/
theorem readsAlike_of_isPlain {shape : Shape ρ} (hplain : shape.IsPlain) (value : Value) :
    ReadsAlike (checker grammar value shape) := by
  rw [checker_eq_judge]
  induction hplain generalizing value with
  | text minLength =>
    intro fit other
    rw [judge, judge]
    split
    · split <;> rfl
    · rfl
  | integer least =>
    intro fit other
    rw [judge, judge]
    split
    · split
      · split <;> rfl
      · rfl
    · rfl
  | number positive =>
    intro fit other
    rw [judge, judge]
    split
    · split <;> rfl
    · rfl
  | truth =>
    intro fit other
    rw [judge, judge, value_subject]
    cases readTruth value <;> rfl
  | list hitem ih =>
    intro fit other
    rw [judge, judge]
    split
    · rename_i closeness _
      have hstart : Gathered.Alike (⟨[], [], fit.floor closeness⟩ : Gathered Value)
          ⟨[], [], other.floor closeness⟩ := ⟨rfl, rfl⟩
      refine (hstart.gatherItems (fun check hcheck => ?_) 0).verdict Value.list
      obtain ⟨part, -, rfl⟩ := List.mem_map.mp hcheck
      rw [checker_eq_judge]
      exact ih part
    · rfl
  | nullable hinner ih =>
    intro fit other
    by_cases hnull : value = .null
    · subst hnull
      rfl
    · rw [judge_nullable hnull, judge_nullable hnull]
      exact ih value fit other

/-! ### Closed records -/

/-- What a member reads of an object. -/
def readMember? (grammar : ρ → Record ρ) (value : Value) (member : Member ρ) :
    Option (String × Value) :=
  (valueAt? member.name value).bind fun part =>
    (check grammar member.shape part).toOption.map fun read => (member.name, read)

theorem fst_of_readMember? {value : Value} {member : Member ρ} {field : String × Value}
    (h : readMember? grammar value member = some field) : field.1 = member.name := by
  obtain ⟨part, -, hread⟩ := Option.bind_eq_some_iff.mp h
  obtain ⟨read, -, rfl⟩ := Option.map_eq_some_iff.mp hread
  rfl

/-- The members of a record that have one name and are plain read each its own field. -/
theorem values_gatherMembers {value : Value} {members : List (Member ρ)}
    (hname : ∀ member ∈ members, member.secondName = member.name)
    (hplain : ∀ member ∈ members, member.shape.IsPlain) (gathered : Gathered (String × Value)) :
    (gatherMembers value (subject grammar value).entries members gathered).values =
      gathered.values ++ members.filterMap (readMember? grammar value) := by
  induction members generalizing gathered with
  | nil => rw [gatherMembers, List.filterMap_nil, List.append_nil]
  | cons member rest ih =>
    obtain ⟨hmemberName, hrestName⟩ := List.forall_mem_cons.mp hname
    obtain ⟨hmemberPlain, hrestPlain⟩ := List.forall_mem_cons.mp hplain
    rw [gatherMembers, ih hrestName hrestPlain, memberEntry?_subject hmemberName,
      List.filterMap_cons, readMember?]
    cases valueAt? member.name value with
    | none =>
      dsimp only [Option.map_none, Option.bind_none]
      split <;> rfl
    | some part =>
      have halike : (checker grammar part member.shape gathered.fit).map (·.1) =
          check grammar member.shape part :=
        readsAlike_of_isPlain hmemberPlain part gathered.fit .start
      dsimp only [Option.map_some, Option.bind_some, entryOf]
      rw [← halike]
      cases checker grammar part member.shape gathered.fit with
      | error faults => rfl
      | ok result =>
        show (gathered.values ++ [(member.name, result.1)]) ++ _ = gathered.values ++ _
        rw [List.append_assoc]
        rfl

/-- A verdict without faults is on the values that were gathered. -/
theorem Gathered.eq_of_verdict {α : Type} {gathered : Gathered α} {whole : List α → Value}
    {read : Value} (h : (gathered.verdict whole).map (·.1) = .ok read) :
    read = whole gathered.values := by
  unfold Gathered.verdict at h
  split at h
  · exact (Except.ok.inj h).symm
  · cases h

/-- **A closed record reads each of its fields on its own.** -/
theorem eq_object_of_check {name : ρ} (hrecord : (grammar name).IsClosed) {value read : Value}
    (h : check grammar (.record name) value = .ok read) :
    read = .object ((grammar name).members.filterMap (readMember? grammar value)) := by
  unfold check at h
  rw [checker_eq_judge, judge_record, checkRecord, value_subject] at h
  split at h
  · rw [Gathered.eq_of_verdict h]
    dsimp only
    rw [values_gatherMembers hrecord.oneName hrecord.plain, List.nil_append]
  · cases h

section Names

variable {key : String} {member : Member ρ} {members rest : List (Member ρ)}
  {field? other? : Member ρ → Option (String × Value)}

/-- What a member of another name gives is passed over. -/
theorem get?_filterMap_cons_of_ne
    (hfield : ∀ member field, field? member = some field → field.1 = member.name)
    (hname : member.name ≠ key) : Entries.get? key ((member :: rest).filterMap field?) =
      Entries.get? key (rest.filterMap field?) := by
  rw [List.filterMap_cons]
  cases hthere : field? member with
  | none => rfl
  | some field =>
    have hdiffers : ¬field.1 = key := fun heq => hname (hfield member field hthere ▸ heq)
    exact (Entries.get?_cons _ _ _ _).trans (if_neg hdiffers)

/-- What is stored under a name comes from the members of that name. -/
theorem get?_filterMap_congr
    (hfield : ∀ member field, field? member = some field → field.1 = member.name)
    (hother : ∀ member field, other? member = some field → field.1 = member.name)
    (h : ∀ member ∈ members, member.name = key → field? member = other? member) :
    Entries.get? key (members.filterMap field?) = Entries.get? key (members.filterMap other?) := by
  induction members with
  | nil => rfl
  | cons member rest ih =>
    obtain ⟨hmember, hrest⟩ := List.forall_mem_cons.mp h
    by_cases hname : member.name = key
    · rw [List.filterMap_cons, List.filterMap_cons, hmember hname]
      cases other? member with
      | none => exact ih hrest
      | some field =>
        show Entries.get? key (field :: _) = Entries.get? key (field :: _)
        rw [Entries.get?_cons, Entries.get?_cons, ih hrest]
    · rw [get?_filterMap_cons_of_ne hfield hname, get?_filterMap_cons_of_ne hother hname]
      exact ih hrest

/-- Nothing is stored under a name that no member has. -/
theorem get?_filterMap_of_notMem
    (hfield : ∀ member field, field? member = some field → field.1 = member.name)
    (hname : ∀ member ∈ members, member.name ≠ key) :
    Entries.get? key (members.filterMap field?) = none := by
  induction members with
  | nil => rfl
  | cons member rest ih =>
    obtain ⟨hmember, hrest⟩ := List.forall_mem_cons.mp hname
    rw [get?_filterMap_cons_of_ne hfield hmember, ih hrest]

/-- What a member gives is stored under its name, when no other member has the name. -/
theorem get?_filterMap_of_mem
    (hfield : ∀ member field, field? member = some field → field.1 = member.name)
    (hnodup : (members.map Member.name).Nodup) (hmember : member ∈ members) :
    Entries.get? member.name (members.filterMap field?) = (field? member).map Prod.snd := by
  induction members with
  | nil => cases hmember
  | cons first rest ih =>
    rw [List.map_cons, List.nodup_cons] at hnodup
    rcases List.mem_cons.mp hmember with rfl | hrest
    · rw [List.filterMap_cons]
      cases hthere : field? member with
      | none =>
        refine get?_filterMap_of_notMem hfield fun other hother heq => hnodup.1 ?_
        exact heq ▸ List.mem_map_of_mem hother
      | some field => exact (Entries.get?_cons _ _ _ _).trans (if_pos (hfield member field hthere))
    · have hname : first.name ≠ member.name := fun heq =>
        hnodup.1 (heq ▸ List.mem_map_of_mem hrest)
      rw [get?_filterMap_cons_of_ne hfield hname, ih hnodup.2 hrest]

end Names

/-- **What a closed record reads under the name of a member is the reading of the field there.** -/
theorem field?_of_check {name : ρ} (hrecord : (grammar name).IsClosed) {value read : Value}
    (h : check grammar (.record name) value = .ok read) {member : Member ρ}
    (hmember : member ∈ (grammar name).members) :
    read.field? member.name =
      (valueAt? member.name value).bind fun part =>
        (check grammar member.shape part).toOption := by
  have hfound : Entries.get? member.name
      ((grammar name).members.filterMap (readMember? grammar value)) =
        (readMember? grammar value member).map Prod.snd :=
    get?_filterMap_of_mem (fun _ _ => fst_of_readMember?) hrecord.nodup hmember
  rw [eq_object_of_check hrecord h]
  refine hfound.trans ?_
  unfold readMember?
  rw [Option.map_bind]
  congr 1
  funext part
  exact (Option.map_map _ _ _).trans Option.map_id'

/-- **Objects with the same field read the same under its name.** -/
theorem field?_eq_of_check {name : ρ} (hrecord : (grammar name).IsClosed) {value other : Value}
    {read read' : Value} (h : check grammar (.record name) value = .ok read)
    (h' : check grammar (.record name) other = .ok read') {key : String}
    (hsame : valueAt? key value = valueAt? key other) : read.field? key = read'.field? key := by
  rw [eq_object_of_check hrecord h, eq_object_of_check hrecord h']
  refine get?_filterMap_congr (fun _ _ => fst_of_readMember?) (fun _ _ => fst_of_readMember?)
    fun member _ hname => ?_
  unfold readMember?
  rw [hname, hsame]

end Shape

end ClientGen
