import ClientGen.Proofs.Settings.Layers

/-!
# Settings and how much is said

How much is said is a setting like any other, so it may be given on top of the layers of files.  As
every layer holds settings alone, that neither makes nor mends a fault, and the configuration stays
the same in all else (`ofLayers_verbose`, `loadAlike_verbose`).
-/

namespace ClientGen

namespace Entries

variable {α : Type}

/-- What is laid on top in two parts may be laid on top in turn. -/
theorem overlay_append (above more below : List (String × α)) :
    overlay (above ++ more) below = overlay more (overlay above below) := by
  induction above generalizing below with
  | nil => rfl
  | cons entry rest ih => exact ih (put entry.1 entry.2 below)

/-- An entry of another name stays when one is stored. -/
theorem mem_put_of_ne {name : String} {value : α} {entries : List (String × α)}
    {entry : String × α} (hmem : entry ∈ entries) (hname : entry.1 ≠ name) :
    entry ∈ put name value entries := by
  induction entries with
  | nil => cases hmem
  | cons first rest ih =>
    rw [put_cons]
    rcases List.mem_cons.mp hmem with rfl | hrest
    · rw [if_neg hname]
      exact List.mem_cons_self
    · split
      · exact List.mem_cons_of_mem _ hrest
      · exact List.mem_cons_of_mem _ (ih hrest)

end Entries

/-- Configurations that differ at most in how much is said. -/
def Configuration.SameWork (config other : Configuration) : Prop :=
  { config with verbose := false } = { other with verbose := false }

namespace Configuration

variable {config other : Configuration}

/-- What does not look at how much is said is the same. -/
theorem SameWork.congr {α : Type} (h : config.SameWork other) (part : Configuration → α)
    (hpart : ∀ config, part { config with verbose := false } = part config) :
    part config = part other :=
  calc part config = part { config with verbose := false } := (hpart config).symm
    _ = part { other with verbose := false } := congrArg part h
    _ = part other := hpart other

theorem SameWork.inputPath (h : config.SameWork other) : config.inputPath = other.inputPath :=
  h.congr Configuration.inputPath fun _ => rfl

theorem SameWork.outputDirectory (h : config.SameWork other) :
    config.outputDirectory = other.outputDirectory :=
  h.congr Configuration.outputDirectory fun _ => rfl

/-- The work on a document does not depend on how much is said. -/
theorem SameWork.runOptions (h : config.SameWork other) (write : Bool) :
    config.runOptions write = other.runOptions write :=
  h.congr (fun config => config.runOptions write) fun _ => rfl

/-- Checked values with the same fields, but for one, make configurations for the same work. -/
theorem sameWork_ofChecked {read read' : Value}
    (h : ∀ name, name ≠ "verbose" → read.field? name = read'.field? name) :
    (ofChecked read).SameWork (ofChecked read') := by
  unfold SameWork ofChecked
  simp only [Value.textAt?, Value.textsAt, Value.flagAt, Value.numberAt, Value.integerAt,
    h "input_path" (by decide), h "output_dir" (by decide), h "resolve_external" (by decide),
    h "allowed_domains" (by decide), h "timeout" (by decide), h "max_redirects" (by decide),
    h "skip_validation" (by decide), h "continue_on_validation_error" (by decide),
    h "continue_on_resolution_error" (by decide)]

theorem isSetting_verbose : IsSetting ("verbose", .bool true) :=
  ⟨SettingsGroup.setting "verbose" .truth, by simp [SettingsGroup.members], rfl,
    ⟨.start, Shape.isClean_ok (.bool true, Shape.Fit.start.floor .exact)⟩⟩

/-- What is said at the end of a list of given fields, and is not null, is given. -/
theorem givenFields_append_verbose (given : List (String × Value)) :
    Layer.givenFields (given ++ [("verbose", .bool true)]) =
      Layer.givenFields given ++ [("verbose", .bool true)] := by
  unfold Layer.givenFields
  rw [List.filter_append]
  rfl

variable {layers : List Layer} {given : List (String × Value)}

/-- **Asking for more to be said neither makes nor mends a fault, and changes nothing else.** -/
theorem ofLayers_verbose (hlayers : ∀ layer ∈ layers, layer.IsSound)
    (hgiven : "verbose" ∉ Entries.keys given) :
    (∃ faults faults', ofLayers layers given = .error faults ∧
      ofLayers layers (given ++ [("verbose", .bool true)]) = .error faults') ∨
    ∃ config config', ofLayers layers given = .ok config ∧
      ofLayers layers (given ++ [("verbose", .bool true)]) = .ok config' ∧
      config.SameWork config' := by
  set below := layers.foldl (fun all layer => Entries.overlay layer.values all) [] with hbelow
  set fields := Entries.overlay (Layer.givenFields given) below with hfields
  have hmerged : Layer.merge layers (Layer.givenFields given) = fields := rfl
  have hverbose : Layer.merge layers (Layer.givenFields (given ++ [("verbose", .bool true)])) =
      Entries.put "verbose" (.bool true) fields := by
    rw [givenFields_append_verbose, Layer.merge, Entries.overlay_append]
    rfl
  have hnodup : (Entries.keys fields).Nodup :=
    Entries.nodup_keys_overlay _ (Layer.nodup_keys_foldl layers List.nodup_nil)
  -- A field of that name below comes from a layer, so it is a setting.
  have hthere : ∀ field ∈ fields, field.1 = "verbose" → IsSetting field := by
    intro field hfield hname
    rcases Entries.mem_overlay hfield with habove | hlayer
    · refine absurd (hname ▸ Entries.mem_keys_of_mem (List.mem_of_mem_filter habove)) hgiven
    · exact Layer.isSetting_of_mem_foldl hlayers (List.forall_mem_nil _) field hlayer
  have hiff : (∀ field ∈ Entries.put "verbose" (.bool true) fields, IsSetting field) ↔
      ∀ field ∈ fields, IsSetting field := by
    constructor
    · intro h field hfield
      by_cases hname : field.1 = "verbose"
      · exact hthere field hfield hname
      · exact h field (Entries.mem_put_of_ne hfield hname)
    · intro h field hfield
      rcases Entries.mem_put hfield with rfl | hold
      · exact isSetting_verbose
      · exact h field hold
  have hread := exists_read_iff hnodup
  have hread' := exists_read_iff (Entries.nodup_keys_put "verbose" (.bool true) hnodup)
  unfold ofLayers
  rw [hmerged, hverbose]
  cases hok : SettingsGroup.generator.read (.object fields) with
  | error faults =>
    cases hok' : SettingsGroup.generator.read
        (.object (Entries.put "verbose" (.bool true) fields)) with
    | error faults' => exact .inl ⟨faults, faults', rfl, rfl⟩
    | ok checked' =>
      obtain ⟨checked, hchecked⟩ := hread.mpr (hiff.mp (hread'.mp ⟨checked', hok'⟩))
      cases hok.symm.trans hchecked
  | ok checked =>
    obtain ⟨checked', hok'⟩ := hread'.mpr (hiff.mpr (hread.mp ⟨checked, hok⟩))
    rw [hok']
    refine .inr ⟨_, _, rfl, rfl, sameWork_ofChecked fun name hname => ?_⟩
    refine Shape.field?_eq_of_check isClosed_generator hok hok' ?_
    exact (Entries.get?_put_of_ne hname _ _).symm

end Configuration

/-! ### Reading the settings -/

/-- What reading the settings gives, but for how much is said and for the wording of faults. -/
inductive LoadAlike : Except ConfigurationFault (Configuration × List String) →
    Except ConfigurationFault (Configuration × List String) → Prop where
  | unexpected (u : Unexpected) : LoadAlike (.error (.unexpected u)) (.error (.unexpected u))
  | invalid (faults faults' : List Shape.Fault) :
    LoadAlike (.error (.invalid faults)) (.error (.invalid faults'))
  | loaded {config config' : Configuration} (h : config.SameWork config')
    (warned : List String) : LoadAlike (.ok (config, warned)) (.ok (config', warned))

namespace LoadAlike

variable {result other : Except ConfigurationFault (Configuration × List String)}

theorem refl (result : Except ConfigurationFault (Configuration × List String)) :
    LoadAlike result result := by
  rcases result with (faults | u) | ⟨config, warned⟩
  · exact .invalid faults faults
  · exact .unexpected u
  · exact .loaded rfl warned

theorem symm (h : LoadAlike result other) : LoadAlike other result := by
  cases h with
  | unexpected u => exact .unexpected u
  | invalid faults faults' => exact .invalid faults' faults
  | loaded h warned => exact .loaded h.symm warned

end LoadAlike

section Runs

variable {σ : Type} (files : FileAccess (StateM σ)) (paths : List String) (s : σ)

/-- The layers of files are sound. -/
theorem isSound_of_loadAll {layers : List Layer}
    (h : (Layer.loadAll files paths s).1 = .ok layers) : ∀ layer ∈ layers, layer.IsSound := by
  rw [loadAll_eq] at h
  rcases layers_cases (findings files paths s) with ⟨found, hfound, hsounds, -⟩ | ⟨u, hfails, -⟩
  · cases hfound.symm.trans h
    exact hsounds
  · cases hfails.symm.trans h

/-- **Asking for more to be said changes nothing in what is read.** -/
theorem loadAlike_verbose {given : List (String × Value)} (hgiven : "verbose" ∉ Entries.keys given) :
    LoadAlike (Configuration.load files paths given s).1
        (Configuration.load files paths (given ++ [("verbose", .bool true)]) s).1 ∧
      (Configuration.load files paths given s).2 =
        (Configuration.load files paths (given ++ [("verbose", .bool true)]) s).2 := by
  unfold Configuration.load
  rw [bind_apply, bind_apply]
  rcases hlayers : Layer.loadAll files paths s with ⟨u | layers, t⟩
  · exact ⟨.unexpected u, rfl⟩
  · have hsound : ∀ layer ∈ layers, layer.IsSound :=
      isSound_of_loadAll files paths s (congrArg Prod.fst hlayers)
    dsimp only
    rcases Configuration.ofLayers_verbose hsound hgiven with
      ⟨faults, faults', hfails, hfails'⟩ | ⟨config, config', hok, hok', hsame⟩
    · rw [hfails, hfails']
      exact ⟨.invalid faults faults', rfl⟩
    · rw [hok, hok']
      exact ⟨.loaded hsame _, rfl⟩

end Runs

end ClientGen
