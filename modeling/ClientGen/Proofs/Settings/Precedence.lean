import ClientGen.Proofs.Settings.Layers
import Mathlib.Data.List.Induction

/-!
# Where each setting comes from

A file offers its fields to the settings, or it is of no use and there is a warning
(`Sight.Offers`, `Sight.IsUseless`).  The fields of files and the given ones are layers, and each
setting of a configuration is read from the highest layer that has it (`highest?`), whatever the
others say: that is how layers are laid over one another (`get?_merge`), and a closed record reads
every field on its own.  For the same reason layers of settings never spoil one another, so that
only given fields that are refused on their own are refused (`exists_ofLayers_iff`).

`takesPrecedence` puts this together for every run in which the reading of files does not give up.
-/

namespace ClientGen

open Shape (check)

/-! ### What a file offers -/

namespace Sight

/-- What a file offers to the settings: nothing when there is no file or it is empty, and else the
fields of its mapping, when each of them is a setting. -/
inductive Offers : Sight → List (String × Value) → Prop where
  | absent : Offers .absent []
  | empty {text : String} (h : Yaml.load .settings text = .ok .null) : Offers (.file (.ok text)) []
  | settings {text : String} {fields : List (String × Value)}
    (h : Yaml.load .settings text = .ok (.object fields))
    (hfields : ∀ field ∈ fields, IsSetting field) : Offers (.file (.ok text)) fields

/-- A file that cannot be used: it cannot be opened, its text is malformed, it holds something else
than a mapping, or the mapping has a key that is no text or a field that is no setting. -/
inductive IsUseless : Sight → Prop where
  | unreadable (message : String) : IsUseless (.file (.error (.refused message)))
  | malformed {text : String} (h : Yaml.load .settings text = .error .malformed) :
    IsUseless (.file (.ok text))
  | notMapping {text : String} {value : Value} (h : Yaml.load .settings text = .ok value)
    (hnull : value ≠ .null) (hobject : value.isObject = false) : IsUseless (.file (.ok text))
  | keyNotText {text : String} {entries : List (Value × Value)}
    (h : Yaml.load .settings text = .ok (.mapping entries)) : IsUseless (.file (.ok text))
  | notSetting {text : String} {fields : List (String × Value)} {field : String × Value}
    (h : Yaml.load .settings text = .ok (.object fields)) (hfield : field ∈ fields)
    (hnot : ¬IsSetting field) : IsUseless (.file (.ok text))

end Sight

namespace Layer

/-- Settings with a key that is no text are refused. -/
theorem read_mapping {entries : List (Value × Value)} {entry : Value × Value}
    (hentry : entry ∈ entries) (hkey : entry.1.str? = none) :
    ∃ faults, SettingsGroup.generator.read (.mapping entries) = .error faults := by
  cases hread : SettingsGroup.generator.read (.mapping entries) with
  | error faults => exact ⟨faults, rfl⟩
  | ok read =>
    exfalso
    obtain ⟨fit, hclean⟩ := (Shape.fits_of_check hread).judge
    have hobject : (Value.mapping entries).isObject = true := rfl
    rw [Shape.judge_record, Shape.checkRecord, Shape.value_subject, if_pos hobject] at hclean
    have hextra := (List.append_eq_nil_iff.mp (Shape.Gathered.isClean_verdict.mp hclean)).2
    rw [if_pos isClosed_generator.closed] at hextra
    have hnone := List.filterMap_eq_nil_iff.mp hextra (Shape.entryOf SettingsGroup.grammar entry)
      (List.mem_map_of_mem hentry)
    obtain ⟨key, value⟩ := entry
    cases key with
    | str name => cases hkey
    | _ => cases hnone

theorem ofValue_of_isObject {path : String} {value : Value} (hobject : value.isObject = true) :
    ofValue path value = match SettingsGroup.generator.read value with
      | .error faults => ignored path (faultsText faults)
      | .ok _ => match value with
        | .object fields => ⟨fields, none⟩
        | _ => empty := by
  cases value with
  | object fields | mapping entries => rfl
  | _ => cases hobject

theorem ofValue_of_settings {path : String} {fields : List (String × Value)}
    (hnodup : (Entries.keys fields).Nodup) (hfields : ∀ field ∈ fields, IsSetting field) :
    ofValue path (.object fields) = ⟨fields, none⟩ := by
  obtain ⟨checked, hread⟩ := (exists_read_iff hnodup).mpr hfields
  rw [ofValue_of_isObject rfl, hread]

theorem ofValue_of_notMapping {path : String} {value : Value} (hnull : value ≠ .null)
    (hobject : value.isObject = false) :
    ofValue path value = ignored path "expected a mapping at the top level" := by
  cases value with
  | null => exact absurd rfl hnull
  | object fields | mapping entries => cases hobject
  | _ => rfl

theorem ofValue_of_refused {path : String} {value : Value} {faults : List Shape.Fault}
    (hobject : value.isObject = true) (hread : SettingsGroup.generator.read value = .error faults) :
    ofValue path value = ignored path (faultsText faults) := by
  rw [ofValue_of_isObject hobject, hread]

theorem ofText_of_load {path text : String} {value : Value}
    (h : Yaml.load .settings text = .ok value) : ofText path text = .ok (ofValue path value) := by
  unfold ofText
  rw [h]

end Layer

namespace Sight

variable {sight : Sight} {path : String}

theorem layer_of_offers {fields : List (String × Value)} (h : sight.Offers fields) :
    sight.layer path = .ok ⟨fields, none⟩ := by
  cases h with
  | absent => rfl
  | empty h => exact Layer.ofText_of_load h
  | settings h hfields =>
    show Layer.ofText path _ = _
    rw [Layer.ofText_of_load h, Layer.ofValue_of_settings (Yaml.nodup_keys_of_load h) hfields]

theorem layer_of_isUseless (h : sight.IsUseless) :
    ∃ reason, sight.layer path = .ok (Layer.ignored path reason) := by
  cases h with
  | unreadable message => exact ⟨message, rfl⟩
  | malformed h =>
    refine ⟨Yaml.Fault.malformed.message, ?_⟩
    show Layer.ofText path _ = _
    unfold Layer.ofText
    rw [h]
  | notMapping h hnull hobject =>
    refine ⟨"expected a mapping at the top level", ?_⟩
    show Layer.ofText path _ = _
    rw [Layer.ofText_of_load h, Layer.ofValue_of_notMapping hnull hobject]
  | keyNotText h =>
    obtain ⟨entry, hentry, hkey⟩ := Yaml.exists_key_of_load h
    obtain ⟨faults, hread⟩ := Layer.read_mapping hentry hkey
    refine ⟨Layer.faultsText faults, ?_⟩
    show Layer.ofText path _ = _
    rw [Layer.ofText_of_load h, Layer.ofValue_of_refused rfl hread]
  | notSetting h hfield hnot =>
    rename_i text fields field
    cases hread : SettingsGroup.generator.read (.object fields) with
    | ok checked =>
      exact absurd ((exists_read_iff (Yaml.nodup_keys_of_load h)).mp ⟨checked, hread⟩ _ hfield) hnot
    | error faults =>
      refine ⟨Layer.faultsText faults, ?_⟩
      show Layer.ofText path _ = _
      rw [Layer.ofText_of_load h, Layer.ofValue_of_refused rfl hread]

/-- A file at which the reading does not give up offers something or is of no use. -/
theorem offers_or_isUseless (h : sight.alarm? = none) :
    (∃ fields, sight.Offers fields) ∨ sight.IsUseless := by
  cases sight with
  | hidden fault => cases h
  | absent => exact .inl ⟨[], .absent⟩
  | file reading =>
    rcases reading with (message | place | u) | text
    · exact .inr (.unreadable message)
    · cases h
    · cases h
    · have htext : Layer.textAlarm? text = none := h
      unfold Layer.textAlarm? at htext
      cases hload : Yaml.load .settings text with
      | error fault =>
        cases fault with
        | malformed => exact .inr (.malformed hload)
        | _ =>
          rw [hload] at htext
          cases htext
      | ok value =>
        by_cases hnull : value = .null
        · exact .inl ⟨[], .empty (hnull ▸ hload)⟩
        · cases hobject : value.isObject with
          | false => exact .inr (.notMapping hload hnull hobject)
          | true =>
            cases value with
            | mapping entries => exact .inr (.keyNotText hload)
            | object fields =>
              by_cases hall : ∀ field ∈ fields, IsSetting field
              · exact .inl ⟨fields, .settings hload hall⟩
              · simp only [not_forall] at hall
                obtain ⟨field, hfield, hnot⟩ := hall
                exact .inr (.notSetting hload hfield hnot)
            | _ => cases hobject

end Sight

/-- What files contribute, in order: the fields that each of them offers, and a warning about each
that is of no use. -/
inductive Contribute : List (String × Sight) → List (List (String × Value)) → List String → Prop
    where
  | nil : Contribute [] [] []
  | usable {path : String} {sight : Sight} {fields : List (String × Value)}
    {found : List (String × Sight)} {layers : List (List (String × Value))} {warned : List String}
    (h : sight.Offers fields) (hrest : Contribute found layers warned) :
    Contribute ((path, sight) :: found) (fields :: layers) warned
  | useless {path : String} {sight : Sight} {found : List (String × Sight)}
    {layers : List (List (String × Value))} {warned : List String} (h : sight.IsUseless)
    (reason : String) (hrest : Contribute found layers warned) :
    Contribute ((path, sight) :: found) ([] :: layers)
      (("Ignoring config file " ++ FilePath.normal path ++ ": " ++ reason) :: warned)

/-- The layers of files are what they contribute. -/
theorem contribute_of_layers {found : List (String × Sight)} {layers : List Layer}
    (h : (found.mapM fun finding => finding.2.layer finding.1) = .ok layers) :
    Contribute found (layers.map Layer.values) (layers.filterMap Layer.warning) := by
  induction found generalizing layers with
  | nil =>
    cases h
    exact .nil
  | cons finding rest ih =>
    obtain ⟨path, sight⟩ := finding
    rw [List.mapM_cons] at h
    obtain ⟨layer, hlayer, h⟩ := bind_eq_ok.mp h
    obtain ⟨more, hmore, h⟩ := bind_eq_ok.mp h
    cases h
    have halarm : sight.alarm? = none := by
      rcases sight.layer_cases path with ⟨_, _, _, hnone⟩ | ⟨u, herror, -⟩
      · exact hnone
      · cases herror.symm.trans hlayer
    rcases Sight.offers_or_isUseless halarm with ⟨fields, hoffers⟩ | huseless
    · cases (Sight.layer_of_offers hoffers).symm.trans hlayer
      exact .usable hoffers (ih hmore)
    · obtain ⟨reason, hreason⟩ : ∃ reason, sight.layer path = .ok (Layer.ignored path reason) :=
        Sight.layer_of_isUseless huseless
      cases hreason.symm.trans hlayer
      exact .useless huseless reason (ih hmore)

/-! ### The highest layer -/

/-- The value under a name in the highest of some layers that has the name; the lowest layer comes
first. -/
def highest? (name : String) (layers : List (List (String × Value))) : Option Value :=
  layers.reverse.findSome? (Entries.get? name)

theorem highest?_concat (name : String) (layers : List (List (String × Value)))
    (top : List (String × Value)) :
    highest? name (layers ++ [top]) = (Entries.get? name top).or (highest? name layers) := by
  unfold highest?
  rw [List.reverse_append, List.reverse_singleton, List.singleton_append, List.findSome?_cons]
  cases Entries.get? name top <;> rfl

namespace Layer

/-- Under each name the merged fields have the value of the highest layer. -/
theorem get?_merge {layers : List Layer} (hlayers : ∀ layer ∈ layers, layer.IsSound)
    {given : List (String × Value)} (hgiven : (Entries.keys given).Nodup) (name : String) :
    Entries.get? name (merge layers given) =
      highest? name (layers.map Layer.values ++ [given]) := by
  have hfiles : Entries.get? name
      (layers.foldl (fun all layer => Entries.overlay layer.values all) []) =
        highest? name (layers.map Layer.values) := by
    induction layers using List.reverseRecOn with
    | nil => rfl
    | append_singleton layers layer ih =>
      obtain ⟨hbelow, hlayer⟩ := List.forall_mem_append.mp hlayers
      rw [List.foldl_append, List.map_append, List.map_singleton, highest?_concat, ← ih hbelow]
      exact Entries.get?_overlay name (hlayer layer (List.mem_singleton_self _)).nodup _
  rw [merge, Entries.get?_overlay name hgiven, hfiles, highest?_concat]

end Layer

/-- Given fields that are accepted on their own. -/
def IsAccepted (given : List (String × Value)) : Prop :=
  ∃ checked, SettingsGroup.generator.read (.object (Layer.givenFields given)) = .ok checked

namespace Configuration

/-- **Layers of settings make a configuration exactly when the given fields are accepted on their
own.** -/
theorem exists_ofLayers_iff {layers : List Layer} (hlayers : ∀ layer ∈ layers, layer.IsSound)
    {given : List (String × Value)} (hgiven : (Entries.keys given).Nodup) :
    (∃ config, ofLayers layers given = .ok config) ↔ IsAccepted given := by
  have htop : (Entries.keys (Layer.givenFields given)).Nodup := Layer.nodup_keys_givenFields hgiven
  constructor
  · rintro ⟨config, hconfig⟩
    unfold ofLayers at hconfig
    split at hconfig
    · rename_i checked hchecked
      have hnodup : (Entries.keys (Layer.merge layers (Layer.givenFields given))).Nodup :=
        Entries.nodup_keys_overlay _ (Layer.nodup_keys_foldl layers List.nodup_nil)
      have hall := (exists_read_iff hnodup).mp ⟨checked, hchecked⟩
      refine (exists_read_iff htop).mpr fun field hfield => hall field ?_
      -- What is given lies on top, so it is among the merged fields as it is.
      have hread : Entries.get? field.1 (Layer.merge layers (Layer.givenFields given)) =
          some field.2 := by
        rw [Layer.get?_merge hlayers htop, highest?_concat, Entries.get?_of_mem htop hfield]
        rfl
      exact Entries.mem_of_get? hread
    · cases hconfig
  · intro haccepted
    exact exists_ofLayers hlayers ⟨hgiven, haccepted⟩

end Configuration

/-! ### Readings of plain shapes -/

namespace Shape

variable {ρ : Type} {grammar : ρ → Record ρ} {value read : Value}

/-- What a value is read as is what it is judged to be. -/
theorem judge_of_check {shape : Shape ρ} (h : check grammar shape value = .ok read) :
    ∃ fit, judge grammar (subject grammar value) shape .start = .ok (read, fit) := by
  unfold check at h
  rw [checker_eq_judge] at h
  cases hjudge : judge grammar (subject grammar value) shape .start with
  | error faults =>
    rw [hjudge] at h
    cases h
  | ok result =>
    rw [hjudge] at h
    cases h
    exact ⟨result.2, rfl⟩

theorem eq_str_of_check {n : Nat} (h : check grammar (.text n) value = .ok read) :
    ∃ s, read = .str s := by
  obtain ⟨fit, hjudge⟩ := judge_of_check h
  rw [judge] at hjudge
  split at hjudge
  · rename_i s closeness _
    split at hjudge
    · cases hjudge
    · cases hjudge
      exact ⟨s, rfl⟩
  · cases hjudge

theorem eq_bool_of_check (h : check grammar .truth value = .ok read) :
    ∃ b, read = .bool b := by
  obtain ⟨fit, hjudge⟩ := judge_of_check h
  rw [judge] at hjudge
  unfold accept at hjudge
  split at hjudge
  · cases hjudge
  · rename_i b closeness _
    cases hjudge
    exact ⟨b, rfl⟩

theorem eq_int_of_check {least : Option Int}
    (h : check grammar (.integer least) value = .ok read) : ∃ n, read = .int n := by
  obtain ⟨fit, hjudge⟩ := judge_of_check h
  rw [judge] at hjudge
  split at hjudge
  · rename_i n closeness _
    split at hjudge
    · split at hjudge
      · cases hjudge
      · cases hjudge
        exact ⟨n, rfl⟩
    · cases hjudge
      exact ⟨n, rfl⟩
  · cases hjudge

theorem eq_float_of_check {positive : Bool}
    (h : check grammar (.number positive) value = .ok read) : ∃ x, read = .float x := by
  obtain ⟨fit, hjudge⟩ := judge_of_check h
  rw [judge] at hjudge
  split at hjudge
  · rename_i x closeness _
    split at hjudge
    · cases hjudge
    · cases hjudge
      exact ⟨x, rfl⟩
  · cases hjudge

theorem eq_null_or_str_of_check {n : Nat}
    (h : check grammar (.nullable (.text n)) value = .ok read) :
    read = .null ∨ ∃ s, read = .str s := by
  obtain ⟨fit, hjudge⟩ := judge_of_check h
  by_cases hnull : value = .null
  · subst hnull
    cases hjudge
    exact .inl rfl
  · rw [judge_nullable hnull] at hjudge
    have htext : check grammar (.text n) value = .ok read := by
      unfold check
      rw [checker_eq_judge, hjudge]
      rfl
    exact .inr (eq_str_of_check htext)

/-- The values that are gathered from a list are readings of its items. -/
theorem exists_of_mem_gatherItems {item : Shape ρ} {i : Nat} {items : List Value}
    {gathered : Gathered Value} {part : Value}
    (h : part ∈ (gatherItems item i (items.map (checker grammar)) gathered).values) :
    part ∈ gathered.values ∨ ∃ value ∈ items, ∃ fit other,
      checker grammar value item fit = .ok (part, other) := by
  induction items generalizing i gathered with
  | nil => exact .inl h
  | cons value rest ih =>
    rw [List.map_cons, gatherItems] at h
    rcases ih h with hadd | ⟨later, hlater, hread⟩
    · cases hverdict : checker grammar value item gathered.fit with
      | error faults =>
        rw [hverdict] at hadd
        exact .inl hadd
      | ok result =>
        rw [hverdict] at hadd
        rcases List.mem_append.mp hadd with hbefore | hnew
        · exact .inl hbefore
        · cases List.mem_singleton.mp hnew
          exact .inr ⟨value, List.mem_cons_self, gathered.fit, result.2, hverdict⟩
    · exact .inr ⟨later, List.mem_cons_of_mem _ hlater, hread⟩

theorem map_str_filterMap {parts : List Value} (h : ∀ part ∈ parts, ∃ s, part = .str s) :
    (parts.filterMap Value.str?).map Value.str = parts := by
  induction parts with
  | nil => rfl
  | cons part rest ih =>
    obtain ⟨⟨s, rfl⟩, hrest⟩ := List.forall_mem_cons.mp h
    exact congrArg (Value.str s :: ·) (ih hrest)

theorem eq_texts_of_check {n : Nat} (h : check grammar (.list (.text n)) value = .ok read) :
    ∃ texts : List String, read = .list (texts.map Value.str) := by
  obtain ⟨fit, hjudge⟩ := judge_of_check h
  rw [judge] at hjudge
  split at hjudge
  · rename_i closeness _
    have hread := Gathered.eq_of_verdict (congrArg (Except.map (·.1)) hjudge)
    refine ⟨_, hread.trans (congrArg Value.list (map_str_filterMap fun part hpart => ?_).symm)⟩
    rcases exists_of_mem_gatherItems hpart with hnone | ⟨item, -, before, after, hitem⟩
    · cases hnone
    · have hcheck : (checker grammar item (.text n) .start).map (·.1) = .ok part := by
        rw [readsAlike_of_isPlain (.text n) item .start before, hitem]
        rfl
      exact eq_str_of_check hcheck
  · cases hjudge

end Shape

/-! ### The settings of a configuration -/

namespace Configuration

/-- The settings of a configuration as values, by name. -/
def values (config : Configuration) : List (String × Value) :=
  [("input_path", (config.inputPath.map Value.str).getD .null),
   ("output_dir", .str config.outputDirectory),
   ("verbose", .bool config.verbose),
   ("resolve_external", .bool config.resolveExternal),
   ("allowed_domains", .list (config.domains.map Value.str)),
   ("timeout", .float config.timeout),
   ("max_redirects", .int config.redirects),
   ("skip_validation", .bool config.skipValidation),
   ("continue_on_validation_error", .bool config.lenientValidation),
   ("continue_on_resolution_error", .bool config.lenientResolution)]

section Accessors

variable {read : Value} {name : String}

theorem bool_flagAt (h : ∀ part, read.field? name = some part → ∃ b, part = .bool b) (d : Bool) :
    some (Value.bool (read.flagAt name d)) = (read.field? name).or (some (.bool d)) := by
  unfold Value.flagAt
  cases hpart : read.field? name with
  | none => rfl
  | some part =>
    obtain ⟨b, rfl⟩ := h part hpart
    rfl

theorem int_integerAt (h : ∀ part, read.field? name = some part → ∃ n, part = .int n) (d : Int) :
    some (Value.int (read.integerAt name d)) = (read.field? name).or (some (.int d)) := by
  unfold Value.integerAt
  cases hpart : read.field? name with
  | none => rfl
  | some part =>
    obtain ⟨n, rfl⟩ := h part hpart
    rfl

theorem float_numberAt (h : ∀ part, read.field? name = some part → ∃ x, part = .float x)
    (d : Float) :
    some (Value.float (read.numberAt name d)) = (read.field? name).or (some (.float d)) := by
  unfold Value.numberAt
  cases hpart : read.field? name with
  | none => rfl
  | some part =>
    obtain ⟨x, rfl⟩ := h part hpart
    rfl

theorem str_textAt? (h : ∀ part, read.field? name = some part → ∃ s, part = .str s) (d : String) :
    some (Value.str ((read.textAt? name).getD d)) = (read.field? name).or (some (.str d)) := by
  unfold Value.textAt?
  cases hpart : read.field? name with
  | none => rfl
  | some part =>
    obtain ⟨s, rfl⟩ := h part hpart
    rfl

theorem orNull_textAt?
    (h : ∀ part, read.field? name = some part → part = .null ∨ ∃ s, part = .str s) :
    some (((read.textAt? name).map Value.str).getD .null) =
      (read.field? name).or (some .null) := by
  unfold Value.textAt?
  cases hpart : read.field? name with
  | none => rfl
  | some part => rcases h part hpart with rfl | ⟨s, rfl⟩ <;> rfl

theorem list_textsAt (h : ∀ part, read.field? name = some part →
    ∃ texts : List String, part = .list (texts.map Value.str)) :
    some (Value.list ((read.textsAt name).map Value.str)) =
      (read.field? name).or (some (.list [])) := by
  unfold Value.textsAt
  cases hpart : read.field? name with
  | none => rfl
  | some part =>
    obtain ⟨texts, rfl⟩ := h part hpart
    refine congrArg (fun parts => some (Value.list parts)) (Shape.map_str_filterMap fun part h => ?_)
    obtain ⟨s, -, rfl⟩ := List.mem_map.mp h
    exact ⟨s, rfl⟩

end Accessors

/-- A configuration has the settings of the checked value, and default ones for the others. -/
theorem get?_values_ofChecked {read : Value}
    (h : ∀ member ∈ SettingsGroup.generator.members, ∀ part,
      read.field? member.name = some part →
        ∃ value, check SettingsGroup.grammar member.shape value = .ok part)
    {member : Member SettingsGroup} (hmember : member ∈ SettingsGroup.generator.members) :
    Entries.get? member.name (ofChecked read).values =
      (read.field? member.name).or (Entries.get? member.name ({} : Configuration).values) := by
  have hpart := h member hmember
  simp only [SettingsGroup.members, SettingsGroup.setting, List.mem_cons, List.not_mem_nil,
    or_false] at hmember
  have hbool : member.shape = .truth → ∀ part, read.field? member.name = some part →
      ∃ b, part = .bool b := by
    intro hshape part hfield
    obtain ⟨value, hvalue⟩ := hpart part hfield
    rw [hshape] at hvalue
    exact Shape.eq_bool_of_check hvalue
  rcases hmember with rfl | rfl | rfl | rfl | rfl | rfl | rfl | rfl | rfl | rfl
  · exact orNull_textAt? fun part hfield =>
      (hpart part hfield).elim fun _ => Shape.eq_null_or_str_of_check
  · exact str_textAt? (fun part hfield => (hpart part hfield).elim fun _ => Shape.eq_str_of_check) _
  · exact bool_flagAt (hbool rfl) _
  · exact bool_flagAt (hbool rfl) _
  · exact list_textsAt fun part hfield =>
      (hpart part hfield).elim fun _ => Shape.eq_texts_of_check
  · exact float_numberAt
      (fun part hfield => (hpart part hfield).elim fun _ => Shape.eq_float_of_check) _
  · exact int_integerAt
      (fun part hfield => (hpart part hfield).elim fun _ => Shape.eq_int_of_check) _
  · exact bool_flagAt (hbool rfl) _
  · exact bool_flagAt (hbool rfl) _
  · exact bool_flagAt (hbool rfl) _

/-- The value of a setting: the reading of what the highest layer with the setting has, or else the
default one. -/
def settled? (layers : List (List (String × Value))) (member : Member SettingsGroup) :
    Option Value :=
  match highest? member.name layers with
  | some raw => (check SettingsGroup.grammar member.shape raw).toOption
  | none => Entries.get? member.name ({} : Configuration).values

/-- The value of a setting is read as the shape of the setting. -/
theorem exists_check_of_isSetting {member : Member SettingsGroup}
    (hmember : member ∈ SettingsGroup.generator.members) {raw : Value}
    (h : IsSetting (member.name, raw)) :
    ∃ part, check SettingsGroup.grammar member.shape raw = .ok part := by
  obtain ⟨other, hother, hname, hfits⟩ := h
  have hsame : other = member :=
    List.inj_on_of_nodup_map isClosed_generator.nodup hother hmember hname
  subst hsame
  obtain ⟨result, hresult⟩ := hfits.accepts (isClosed_generator.plain other hother) .start
  refine ⟨result.1, ?_⟩
  unfold check
  rw [hresult]
  rfl

/-- **Each setting comes from the highest layer that has it.** -/
theorem get?_values_of_ofLayers {layers : List Layer} (hlayers : ∀ layer ∈ layers, layer.IsSound)
    {given : List (String × Value)} (hgiven : (Entries.keys given).Nodup) {config : Configuration}
    (h : ofLayers layers given = .ok config) {member : Member SettingsGroup}
    (hmember : member ∈ SettingsGroup.generator.members) :
    Entries.get? member.name config.values =
      settled? (layers.map Layer.values ++ [Layer.givenFields given]) member := by
  set all := layers.map Layer.values ++ [Layer.givenFields given] with hall
  have hmerge : ∀ name, Entries.get? name (Layer.merge layers (Layer.givenFields given)) =
      highest? name all :=
    Layer.get?_merge hlayers (Layer.nodup_keys_givenFields hgiven)
  unfold ofLayers at h
  split at h
  · rename_i checked hchecked
    cases h
    have hfield : ∀ member ∈ SettingsGroup.generator.members, checked.field? member.name =
        (highest? member.name all).bind
          fun raw => (check SettingsGroup.grammar member.shape raw).toOption := by
      intro member hmember
      rw [Shape.field?_of_check isClosed_generator hchecked hmember, ← hmerge]
      rfl
    have hreads : ∀ member ∈ SettingsGroup.generator.members, ∀ part,
        checked.field? member.name = some part →
          ∃ value, check SettingsGroup.grammar member.shape value = .ok part := by
      intro member hmember part hpart
      rw [hfield member hmember] at hpart
      obtain ⟨raw, -, hread⟩ := Option.bind_eq_some_iff.mp hpart
      exact ⟨raw, eq_ok_of_toOption hread⟩
    rw [get?_values_ofChecked hreads hmember, hfield member hmember, settled?]
    cases hraw : highest? member.name all with
    | none => rfl
    | some raw =>
      have hnodup : (Entries.keys (Layer.merge layers (Layer.givenFields given))).Nodup :=
        Entries.nodup_keys_overlay _ (Layer.nodup_keys_foldl layers List.nodup_nil)
      have hsetting : IsSetting (member.name, raw) :=
        (exists_read_iff hnodup).mp ⟨checked, hchecked⟩ _
          (Entries.mem_of_get? ((hmerge member.name).trans hraw))
      obtain ⟨part, hpart⟩ := exists_check_of_isSetting hmember hsetting
      dsimp only [Option.bind_some]
      rw [hpart]
      rfl
  · cases h

end Configuration

/-! ### Runs -/

section Load

variable {σ : Type} {files : FileAccess (StateM σ)} {paths : List String}
  {given : List (String × Value)} {s : σ}

theorem load_of_alarm {u : Unexpected} (h : (Layer.loadAll files paths s).1 = .error u) :
    (Configuration.load files paths given s).1 = .error (.unexpected u) := by
  unfold Configuration.load
  rw [bind_apply]
  rcases hread : Layer.loadAll files paths s with ⟨outcome, t⟩
  rw [hread] at h
  cases h
  rfl

theorem load_of_refused {layers : List Layer} {faults : List Shape.Fault}
    (h : (Layer.loadAll files paths s).1 = .ok layers)
    (hfaults : Configuration.ofLayers layers given = .error faults) :
    (Configuration.load files paths given s).1 = .error (.invalid faults) := by
  unfold Configuration.load
  rw [bind_apply]
  rcases hread : Layer.loadAll files paths s with ⟨outcome, t⟩
  rw [hread] at h
  cases h
  dsimp only
  rw [hfaults]
  rfl

theorem load_of_accepted {layers : List Layer} {config : Configuration}
    (h : (Layer.loadAll files paths s).1 = .ok layers)
    (hconfig : Configuration.ofLayers layers given = .ok config) :
    (Configuration.load files paths given s).1 =
      .ok (config, layers.filterMap Layer.warning) := by
  unfold Configuration.load
  rw [bind_apply]
  rcases hread : Layer.loadAll files paths s with ⟨outcome, t⟩
  rw [hread] at h
  cases h
  dsimp only
  rw [hconfig]
  rfl

end Load

/-- What reading the settings gives, by what there is at the places of files and by what is given.
Given fields are refused exactly when they would be on their own, and else there is a configuration,
with the warnings about files and with each setting from the highest layer that has it. -/
structure TakesPrecedence (found : List (String × Sight)) (given : List (String × Value))
    (result : Except ConfigurationFault (Configuration × List String)) : Prop where
  invalid_iff : (∃ faults, result = .error (.invalid faults)) ↔ ¬IsAccepted given
  returns_iff : (∃ config warned, result = .ok (config, warned)) ↔ IsAccepted given
  settled : ∃ layers warnings, Contribute found layers warnings ∧
    ∀ config warned, result = .ok (config, warned) → warned = warnings ∧
      ∀ member ∈ SettingsGroup.generator.members, Entries.get? member.name config.values =
        Configuration.settled? (layers ++ [Layer.givenFields given]) member

/-- **Settings take precedence field by field**, whenever the reading of files does not give up: the
given fields that are not null over the files, and each file over those before it. -/
theorem takesPrecedence {σ : Type} (files : FileAccess (StateM σ)) (paths : List String)
    {given : List (String × Value)} (hgiven : (Entries.keys given).Nodup) (s : σ)
    (hcalm : ∀ u, (Configuration.load files paths given s).1 ≠ .error (.unexpected u)) :
    TakesPrecedence (findings files paths s) given (Configuration.load files paths given s).1 := by
  have hall := loadAll_eq files paths s
  rcases layers_cases (findings files paths s) with ⟨layers, hlayers, hsound, -⟩ | ⟨u, hfails, -⟩
  · have hread : (Layer.loadAll files paths s).1 = .ok layers := hall.trans hlayers
    have hiff := Configuration.exists_ofLayers_iff hsound hgiven
    cases hconfig : Configuration.ofLayers layers given with
    | error faults =>
      have hnot : ¬IsAccepted given := by
        intro haccepted
        obtain ⟨config, hok⟩ := hiff.mpr haccepted
        cases hok.symm.trans hconfig
      rw [load_of_refused hread hconfig]
      refine ⟨iff_of_true ⟨faults, rfl⟩ hnot, iff_of_false (by rintro ⟨_, _, ⟨⟩⟩) hnot, _, _,
        contribute_of_layers hlayers, fun config warned h => ?_⟩
      cases h
    | ok config =>
      have haccepted : IsAccepted given := hiff.mp ⟨config, hconfig⟩
      rw [load_of_accepted hread hconfig]
      refine ⟨iff_of_false (by rintro ⟨_, ⟨⟩⟩) (not_not.mpr haccepted),
        iff_of_true ⟨config, _, rfl⟩ haccepted, _, _, contribute_of_layers hlayers,
        fun config' warned h => ?_⟩
      cases h
      exact ⟨rfl, fun member => Configuration.get?_values_of_ofLayers hsound hgiven hconfig⟩
  · exact absurd (load_of_alarm (hall.trans hfails)) (hcalm u)

/-- A working directory with two files of settings. -/
def withTwoSettings (low high : String) : FileTree :=
  ⟨"work",
    [(["work", "low"], .file (low.toList.map fun c => UInt8.ofNat c.toNat)),
     (["work", "high"], .file (high.toList.map fun c => UInt8.ofNat c.toNat))]⟩

/-- What is given as null leaves a setting to the files, and a file that is no mapping to the file
below it. -/
theorem takesPrecedence_null :
    (Entries.keys [("verbose", Value.null)]).Nodup ∧
    (∀ u, (Configuration.load FileTree.access ["low", "high"] [("verbose", .null)]
      (withTwoSettings "verbose: true" "[]")).1 ≠ .error (.unexpected u)) ∧
    TakesPrecedence
      (findings FileTree.access ["low", "high"] (withTwoSettings "verbose: true" "[]"))
      [("verbose", .null)]
      (Configuration.load FileTree.access ["low", "high"] [("verbose", .null)]
        (withTwoSettings "verbose: true" "[]")).1 := by
  have hnodup : (Entries.keys [("verbose", Value.null)]).Nodup := by decide
  have halarm : (firstAlarm? (findings FileTree.access ["low", "high"]
      (withTwoSettings "verbose: true" "[]"))).isNone = true := by
    decide +kernel
  have hcalm : ∀ u, (Configuration.load FileTree.access ["low", "high"] [("verbose", .null)]
      (withTwoSettings "verbose: true" "[]")).1 ≠ .error (.unexpected u) := by
    intro u herror
    rcases load_cases FileTree.access ["low", "high"] ⟨hnodup, _, rfl⟩ _ with
      ⟨config, hok, -⟩ | ⟨v, -, hsome⟩
    · cases hok.symm.trans herror
    · rw [hsome] at halarm
      cases halarm
  exact ⟨hnodup, hcalm, takesPrecedence FileTree.access ["low", "high"] hnodup _ hcalm⟩

end ClientGen
