import ClientGen.Files.Tree
import ClientGen.Proofs.Files.Recorded
import ClientGen.Proofs.Outcome
import ClientGen.Proofs.Shape.Closed
import ClientGen.Proofs.Yaml.Keys
import ClientGen.Settings.Layers

/-!
# When settings are read

A file of settings that cannot be used is left out with a warning, and the layers that remain never
stand in each other's way: each field of each layer is one that the settings accept, so the fields
of all of them together are accepted (`exists_ofLayers`).  What is left are files at which the
reading itself gives up, with what `Sight.alarm?` says.  `returnsUnlessAlarmed` puts this together:
with given fields that are accepted on their own there is a configuration exactly when no file
raises an alarm, and the first alarm is the only reason why there is none.

Files whose octets are no text do raise one (`not_returns_undecodable`).
-/

namespace ClientGen

open Shape (Fits)

/-! ### Settings one by one -/

/-- A field that is a setting of a run, with a value that fits. -/
def IsSetting (field : String × Value) : Prop :=
  ∃ member ∈ SettingsGroup.generator.members,
    member.name = field.1 ∧ Fits SettingsGroup.grammar member.shape field.2

theorem isClosed_generator : (SettingsGroup.grammar .generator).IsClosed where
  closed := rfl
  nodup := by decide
  optional := by decide
  oneName := by decide
  plain member hmember := by
    simp only [SettingsGroup.grammar, SettingsGroup.members, SettingsGroup.setting, List.mem_cons,
      List.not_mem_nil, or_false] at hmember
    rcases hmember with rfl | rfl | rfl | rfl | rfl | rfl | rfl | rfl | rfl | rfl
    · exact .nullable (.text 0)
    · exact .text 0
    · exact .truth
    · exact .truth
    · exact .list (.text 0)
    · exact .number true
    · exact .integer (some 0)
    · exact .truth
    · exact .truth
    · exact .truth

/-- Settings are read exactly when each of them is one. -/
theorem exists_read_iff {fields : List (String × Value)} (hnodup : (Entries.keys fields).Nodup) :
    (∃ checked, SettingsGroup.generator.read (.object fields) = .ok checked) ↔
      ∀ field ∈ fields, IsSetting field :=
  Shape.exists_check_iff isClosed_generator hnodup

namespace Layer

/-! ### Layers -/

/-- A layer whose fields are settings. -/
structure IsSound (layer : Layer) : Prop where
  nodup : (Entries.keys layer.values).Nodup
  isSetting : ∀ field ∈ layer.values, IsSetting field

theorem isSound_of_values_eq_nil {layer : Layer} (h : layer.values = []) : layer.IsSound where
  nodup := by
    rw [h]
    exact List.nodup_nil
  isSetting field hfield := by
    rw [h] at hfield
    cases hfield

theorem isSound_ofValue {path : String} {value : Value}
    (hnodup : ∀ fields, value = .object fields → (Entries.keys fields).Nodup) :
    (ofValue path value).IsSound := by
  unfold ofValue
  split
  · exact isSound_of_values_eq_nil rfl
  · split
    · exact isSound_of_values_eq_nil rfl
    · split
      · exact isSound_of_values_eq_nil rfl
      · rename_i read hread
        cases value with
        | object fields =>
          have hfields := hnodup fields rfl
          exact ⟨hfields, (exists_read_iff hfields).mp ⟨read, hread⟩⟩
        | _ => exact isSound_of_values_eq_nil rfl

/-- Why the reading of a text gives up, if it does: a scalar in it has no value. -/
def textAlarm? (text : String) : Option Unexpected :=
  match Yaml.load .settings text with
  | .ok _ | .error .malformed => none
  | .error fault => some ⟨fault.nature, fault.message⟩

theorem ofText_cases (path text : String) :
    (∃ layer, ofText path text = .ok layer ∧ layer.IsSound ∧ textAlarm? text = none) ∨
      ∃ u, ofText path text = .error u ∧ textAlarm? text = some u := by
  unfold ofText textAlarm?
  cases hload : Yaml.load .settings text with
  | ok value =>
    have hsound : (ofValue path value).IsSound :=
      isSound_ofValue fun fields hfields => Yaml.nodup_keys_of_load (hfields ▸ hload)
    exact .inl ⟨_, rfl, hsound, rfl⟩
  | error fault =>
    cases fault with
    | malformed => exact .inl ⟨_, rfl, isSound_of_values_eq_nil rfl, rfl⟩
    | _ => exact .inr ⟨_, rfl, rfl⟩

/-- Laying sound layers over settings gives settings. -/
theorem isSetting_of_mem_foldl {layers : List Layer} (hlayers : ∀ layer ∈ layers, layer.IsSound)
    {below : List (String × Value)} (hbelow : ∀ field ∈ below, IsSetting field) :
    ∀ field ∈ layers.foldl (fun all layer => Entries.overlay layer.values all) below,
      IsSetting field := by
  induction layers generalizing below with
  | nil => exact hbelow
  | cons layer rest ih =>
    refine ih (fun other hother => hlayers other (List.mem_cons_of_mem _ hother))
      fun field hfield => ?_
    rcases Entries.mem_overlay hfield with habove | hold
    · exact (hlayers layer List.mem_cons_self).isSetting field habove
    · exact hbelow field hold

theorem nodup_keys_foldl (layers : List Layer) {below : List (String × Value)}
    (hbelow : (Entries.keys below).Nodup) :
    (Entries.keys
      (layers.foldl (fun all layer => Entries.overlay layer.values all) below)).Nodup := by
  induction layers generalizing below with
  | nil => exact hbelow
  | cons layer rest ih => exact ih (Entries.nodup_keys_overlay layer.values hbelow)

theorem nodup_keys_givenFields {given : List (String × Value)} (h : (Entries.keys given).Nodup) :
    (Entries.keys (givenFields given)).Nodup :=
  List.Nodup.sublist (List.Sublist.map _ List.filter_sublist) h

end Layer

/-- Given fields that the settings accept on their own. -/
structure IsAcceptable (given : List (String × Value)) : Prop where
  nodup : (Entries.keys given).Nodup
  exists_read : ∃ checked,
    SettingsGroup.generator.read (.object (Layer.givenFields given)) = .ok checked

/-- Sound layers and acceptable fields make a configuration. -/
theorem Configuration.exists_ofLayers {layers : List Layer}
    (hlayers : ∀ layer ∈ layers, layer.IsSound) {given : List (String × Value)}
    (hgiven : IsAcceptable given) : ∃ config, ofLayers layers given = .ok config := by
  have hfields : ∀ field ∈ Layer.merge layers (Layer.givenFields given), IsSetting field := by
    intro field hfield
    rcases Entries.mem_overlay hfield with habove | hbelow
    · exact (exists_read_iff (Layer.nodup_keys_givenFields hgiven.nodup)).mp hgiven.exists_read
        field habove
    · exact Layer.isSetting_of_mem_foldl hlayers (List.forall_mem_nil _) field hbelow
  have hnodup : (Entries.keys (Layer.merge layers (Layer.givenFields given))).Nodup :=
    Entries.nodup_keys_overlay _ (Layer.nodup_keys_foldl layers List.nodup_nil)
  obtain ⟨checked, hchecked⟩ := (exists_read_iff hnodup).mpr hfields
  unfold ofLayers
  rw [hchecked]
  exact ⟨_, rfl⟩

/-! ### Files -/

/-- What there is at the place of a file: it cannot be told, there is no file, or what reading the
file gives. -/
inductive Sight where
  | hidden (fault : FileFault)
  | absent
  | file (reading : Except FileFault String)

/-- Why the reading of settings gives up at a file, if it does: it cannot be told whether the file
is there, its octets are no text, or a scalar in it has no value. -/
def Sight.alarm? : Sight → Option Unexpected
  | hidden fault => some fault.unexpected
  | absent | file (.error (.refused _)) => none
  | file (.error fault) => some fault.unexpected
  | file (.ok text) => Layer.textAlarm? text

/-- The layer of a file by what there is. -/
def Sight.layer (path : String) : Sight → Except Unexpected Layer
  | hidden fault => .error fault.unexpected
  | absent => .ok .empty
  | file reading => Layer.ofReading path reading

namespace Sight

variable {path : String} {sight : Sight}

/-- A file has a layer unless there is an alarm. -/
theorem layer_cases (path : String) (sight : Sight) :
    (∃ layer, sight.layer path = .ok layer ∧ layer.IsSound ∧ sight.alarm? = none) ∨
      ∃ u, sight.layer path = .error u ∧ sight.alarm? = some u := by
  cases sight with
  | hidden fault => exact .inr ⟨_, rfl, rfl⟩
  | absent => exact .inl ⟨_, rfl, Layer.isSound_of_values_eq_nil rfl, rfl⟩
  | file reading =>
    rcases reading with (message | place | u) | text
    · exact .inl ⟨_, rfl, Layer.isSound_of_values_eq_nil rfl, rfl⟩
    · exact .inr ⟨_, rfl, rfl⟩
    · exact .inr ⟨_, rfl, rfl⟩
    · exact Layer.ofText_cases path text

/-- The warning about a file that cannot be used. -/
def warning? (path : String) (sight : Sight) : Option String :=
  match sight.layer path with
  | .ok layer => layer.warning
  | .error _ => none

end Sight

section Runs

variable {σ : Type} (files : FileAccess (StateM σ)) (paths : List String) (s : σ)

/-- Looks for a file and, if it is there, reads it. -/
def find (path : String) : StateM σ (String × Sight) := do
  match ← files.isFile path with
  | .error fault => return (path, .hidden fault)
  | .ok false => return (path, .absent)
  | .ok true => return (path, .file (← files.readText path))

/-- What there is at the places of files that are looked for in turn. -/
def findings : List (String × Sight) :=
  (paths.mapM (find files) s).1

theorem findings_cons (path : String) (rest : List String) :
    findings files (path :: rest) s =
      (find files path s).1 :: findings files rest (find files path s).2 := by
  unfold findings
  rw [List.mapM_cons]
  rfl

theorem path_find (path : String) : (find files path s).1.1 = path := by
  unfold find
  rw [bind_apply]
  rcases files.isFile path s with ⟨fault | present, t⟩
  · rfl
  · cases present <;> rfl

theorem load_eq (path : String) :
    Layer.load files path s =
      ((find files path s).1.2.layer path, (find files path s).2) := by
  unfold Layer.load find
  rw [bind_apply, bind_apply]
  rcases files.isFile path s with ⟨fault | present, t⟩
  · rfl
  · cases present <;> rfl

/-- The layers of files are those of what there is, up to the first alarm. -/
theorem loadAll_eq :
    (Layer.loadAll files paths s).1 =
      (findings files paths s).mapM fun finding => finding.2.layer finding.1 := by
  induction paths generalizing s with
  | nil => rfl
  | cons path rest ih =>
    rw [findings_cons, List.mapM_cons, Layer.loadAll, bind_apply, load_eq, path_find]
    dsimp only
    cases (find files path s).1.2.layer path with
    | error u => rfl
    | ok layer =>
      dsimp only
      rw [bind_apply, ← ih]
      rcases Layer.loadAll files rest (find files path s).2 with ⟨u | layers, t⟩ <;> rfl

end Runs

/-! ### Alarms -/

/-- The first alarm among what there is. -/
def firstAlarm? (found : List (String × Sight)) : Option Unexpected :=
  found.findSome? fun finding => finding.2.alarm?

/-- The warnings about what there is. -/
def warnings (found : List (String × Sight)) : List String :=
  found.filterMap fun finding => finding.2.warning? finding.1

/-- There are layers for what there is, or a first alarm. -/
theorem layers_cases (found : List (String × Sight)) :
    (∃ layers, (found.mapM fun finding => finding.2.layer finding.1) = .ok layers ∧
      (∀ layer ∈ layers, layer.IsSound) ∧ layers.filterMap Layer.warning = warnings found ∧
      firstAlarm? found = none) ∨
    ∃ u, (found.mapM fun finding => finding.2.layer finding.1) = .error u ∧
      firstAlarm? found = some u := by
  induction found with
  | nil => exact .inl ⟨[], rfl, List.forall_mem_nil _, rfl, rfl⟩
  | cons finding rest ih =>
    obtain ⟨path, sight⟩ := finding
    unfold firstAlarm? at ih ⊢
    rw [List.mapM_cons, List.findSome?_cons]
    rcases sight.layer_cases path with ⟨layer, hlayer, hsound, hnone⟩ | ⟨u, hlayer, halarm⟩
    · have hwarning : sight.warning? path = layer.warning := by
        unfold Sight.warning?
        rw [hlayer]
      rw [hlayer, hnone]
      rcases ih with ⟨layers, hlayers, hsounds, hwarnings, hrest⟩ | ⟨u, hfails, hrest⟩
      · refine .inl ⟨layer :: layers, ?_, List.forall_mem_cons.mpr ⟨hsound, hsounds⟩, ?_, hrest⟩
        · rw [hlayers]
          rfl
        · unfold warnings at hwarnings ⊢
          rw [List.filterMap_cons, List.filterMap_cons, hwarnings, hwarning]
      · refine .inr ⟨u, ?_, hrest⟩
        rw [hfails]
        rfl
    · rw [hlayer, halarm]
      exact .inr ⟨u, rfl, rfl⟩

/-- With acceptable fields, there is a configuration, or the first alarm is why there is none. -/
theorem load_cases {σ : Type} (files : FileAccess (StateM σ)) (paths : List String)
    {given : List (String × Value)} (hgiven : IsAcceptable given) (s : σ) :
    (∃ config, (Configuration.load files paths given s).1 =
        .ok (config, warnings (findings files paths s)) ∧
      firstAlarm? (findings files paths s) = none) ∨
    ∃ u, (Configuration.load files paths given s).1 = .error (.unexpected u) ∧
      firstAlarm? (findings files paths s) = some u := by
  have hall := loadAll_eq files paths s
  rcases hlayers : Layer.loadAll files paths s with ⟨outcome, t⟩
  rw [hlayers] at hall
  dsimp only at hall
  unfold Configuration.load
  rw [bind_apply, hlayers]
  rcases layers_cases (findings files paths s) with
    ⟨layers, hsome, hsounds, hwarnings, hnone⟩ | ⟨u, hfails, halarm⟩
  · obtain ⟨config, hconfig⟩ := Configuration.exists_ofLayers hsounds hgiven
    refine .inl ⟨config, ?_, hnone⟩
    rw [hall, hsome]
    dsimp only
    rw [hconfig, hwarnings]
    rfl
  · refine .inr ⟨u, ?_, halarm⟩
    rw [hall, hfails]
    rfl

/-- Reading the settings gives a configuration and warnings. -/
def Returns {σ : Type} (files : FileAccess (StateM σ)) (paths : List String)
    (given : List (String × Value)) (s : σ) : Prop :=
  ∃ config warned, (Configuration.load files paths given s).1 = .ok (config, warned)

/-- Reading the settings gives a configuration, with a warning about each file that cannot be used,
unless there is an alarm; and the first alarm is the only way in which it fails. -/
structure ReturnsUnlessAlarmed {σ : Type} (files : FileAccess (StateM σ)) (paths : List String)
    (given : List (String × Value)) (s : σ) : Prop where
  returns_iff : Returns files paths given s ↔
    ∀ finding ∈ findings files paths s, finding.2.alarm? = none
  warned : ∀ config warned, (Configuration.load files paths given s).1 = .ok (config, warned) →
    warned = warnings (findings files paths s)
  alarmed : ∀ fault, (Configuration.load files paths given s).1 = .error fault →
    ∃ u, fault = .unexpected u ∧ firstAlarm? (findings files paths s) = some u

/-- **Settings are read unless a file raises an alarm**: with fields that are accepted on their own,
nothing that stands in a file and can be read as values keeps a run from its configuration. -/
theorem returnsUnlessAlarmed {σ : Type} (files : FileAccess (StateM σ)) (paths : List String)
    {given : List (String × Value)} (hgiven : IsAcceptable given) (s : σ) :
    ReturnsUnlessAlarmed files paths given s := by
  have hnone : firstAlarm? (findings files paths s) = none ↔
      ∀ finding ∈ findings files paths s, finding.2.alarm? = none :=
    List.findSome?_eq_none_iff
  rcases load_cases files paths hgiven s with ⟨config, hload, halarm⟩ | ⟨u, hload, halarm⟩
  · refine ⟨iff_of_true ⟨config, _, hload⟩ (hnone.mp halarm), fun config' warned h => ?_,
      fun fault h => ?_⟩
    · cases hload.symm.trans h
      rfl
    · cases hload.symm.trans h
  · refine ⟨?_, fun config' warned h => ?_, fun fault h => ?_⟩
    · refine iff_of_false ?_ fun hall => ?_
      · rintro ⟨config, warned, h⟩
        cases hload.symm.trans h
      · rw [hnone.mpr hall] at halarm
        cases halarm
    · cases hload.symm.trans h
    · cases hload.symm.trans h
      exact ⟨u, rfl, halarm⟩

/-- A working directory with a file of settings. -/
def withSettings (octets : List UInt8) : FileTree :=
  ⟨"work", [(["work", ".httpapigenrc"], .file octets)]⟩

/-- An opening bracket is no document, and the settings are read all the same. -/
theorem returnsUnlessAlarmed_malformed :
    IsAcceptable [("verbose", .bool true)] ∧
    Returns FileTree.access [".httpapigenrc"] [("verbose", .bool true)]
      (withSettings [0x5b]) := by
  have hgiven : IsAcceptable [("verbose", .bool true)] := by
    refine ⟨by decide, ?_⟩
    exact ⟨_, rfl⟩
  refine ⟨hgiven, ?_⟩
  have hcalm : (firstAlarm?
      (findings FileTree.access [".httpapigenrc"] (withSettings [0x5b]))).isNone = true := by
    decide +kernel
  refine (returnsUnlessAlarmed FileTree.access [".httpapigenrc"] hgiven _).returns_iff.mpr ?_
  exact List.findSome?_eq_none_iff.mp (Option.isNone_iff_eq_none.mp hcalm)

/-- **Settings whose octets are no text are not left out**: a single octet that starts no character
keeps a run from its configuration. -/
theorem not_returns_undecodable :
    IsAcceptable [] ∧ ¬Returns FileTree.access [".httpapigenrc"] [] (withSettings [0xff]) := by
  have hgiven : IsAcceptable [] := ⟨List.nodup_nil, _, rfl⟩
  have halarm : (firstAlarm?
      (findings FileTree.access [".httpapigenrc"] (withSettings [0xff]))).isSome = true := by
    decide +kernel
  refine ⟨hgiven, ?_⟩
  rintro ⟨config, warned, hload⟩
  rcases load_cases FileTree.access [".httpapigenrc"] hgiven (withSettings [0xff]) with
    ⟨_, _, hnone⟩ | ⟨u, herror, -⟩
  · rw [hnone] at halarm
    cases halarm
  · cases herror.symm.trans hload

end ClientGen
