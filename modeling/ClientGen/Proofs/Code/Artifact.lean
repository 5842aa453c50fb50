import ClientGen.Code.Artifact
import ClientGen.FilePath
import ClientGen.Proofs.Code.Group
import ClientGen.Proofs.Outcome
import ClientGen.Proofs.Text

/-!
# The files of an API

The artifacts of an API never overwrite each other, `KeepsApart`, whatever its tags are: their names
differ also when case does not count, are made of small letters, digits and hyphens, and no group
has the name of the first or the last file (`keepsApart_artifacts`).  All of this follows from the
stems of the groups, which differ in kebab-case.
-/

namespace ClientGen

/-! ### Characters that case leaves alone -/

theorem Naming.toNat_lt_of_isKebab {c : Char} (h : Naming.isKebab c = true) : c.toNat < 0x80 := by
  rw [Naming.isKebab, Bool.or_eq_true, Bool.or_eq_true, beq_iff_eq] at h
  rcases h with (hlower | hdigit) | rfl
  · rw [Char.isLower, Bool.and_eq_true, decide_eq_true_eq, decide_eq_true_eq] at hlower
    have hz : 'z'.val.toNat < 0x80 := by decide
    have hle : c.toNat ≤ 'z'.val.toNat := UInt32.le_iff_toNat_le.mp hlower.2
    omega
  · have hle := (Char.isDigit_iff_toNat.mp hdigit).2
    have h9 : '9'.toNat < 0x80 := by decide
    omega
  · decide

theorem Naming.toLower_of_isKebab {c : Char} (h : Naming.isKebab c = true) : c.toLower = c := by
  rw [Naming.isKebab, Bool.or_eq_true, Bool.or_eq_true, beq_iff_eq] at h
  rcases h with (hlower | hdigit) | rfl
  · exact Char.toLower_eq_of_not_isUpper (Char.not_isUpper_of_isLower hlower)
  · exact Naming.toLower_of_isDigit hdigit
  · rfl

namespace Code

/-! ### Names of files -/

/-- Names of files that lead nowhere else: small letters, digits and hyphens, and the suffix. -/
def IsFileName (file : String) : Prop :=
  ∃ stem : String, stem ≠ "" ∧ (∀ c ∈ stem.toList, Naming.isKebab c = true) ∧ file = stem ++ ".ts"

namespace IsFileName

variable {file : String}

theorem isKebab_or (h : IsFileName file) {c : Char} (hc : c ∈ file.toList) :
    Naming.isKebab c = true ∨ c = '.' := by
  obtain ⟨stem, -, hstem, rfl⟩ := h
  have hsuffix : ".ts".toList = ['.', 't', 's'] := rfl
  rw [String.toList_append, List.mem_append, hsuffix] at hc
  simp only [List.mem_cons, List.not_mem_nil, or_false] at hc
  rcases hc with hc | rfl | rfl | rfl
  · exact .inl (hstem c hc)
  · exact .inr rfl
  · exact .inl (by decide)
  · exact .inl (by decide)

/-- A name has no separator of directories. -/
theorem ne_separator (h : IsFileName file) {c : Char} (hc : c ∈ file.toList) :
    c ≠ '/' ∧ c ≠ '\\' := by
  have hplain : ∀ separator,
      Naming.isKebab separator = false → separator ≠ '.' → c ≠ separator := by
    rintro separator hkebab hdot rfl
    rcases h.isKebab_or hc with hmem | rfl
    · rw [hkebab] at hmem
      cases hmem
    · exact hdot rfl
  exact ⟨hplain '/' (by decide) (by decide), hplain '\\' (by decide) (by decide)⟩

/-- A name does not start at the root. -/
theorem isAbsolute_eq_false (h : IsFileName file) : FilePath.isAbsolute file = false := by
  unfold FilePath.isAbsolute
  rw [decide_eq_false_iff_not]
  intro hhead
  exact (h.ne_separator (List.mem_of_head? hhead)).1 rfl

/-- A name does not hold the name of the directory above. -/
theorem not_dots (h : IsFileName file) : ¬"..".toList <:+: file.toList := by
  obtain ⟨stem, -, hstem, rfl⟩ := h
  have hnone : stem.toList.count '.' = 0 := by
    rw [List.count_eq_zero]
    intro hdot
    exact absurd (hstem '.' hdot) (by decide)
  have hone : (stem ++ ".ts").toList.count '.' = 1 := by
    rw [String.toList_append, List.count_append, hnone]
    rfl
  intro hdots
  have htwo : "..".toList.count '.' = 2 := rfl
  have hle := hdots.sublist.count_le '.'
  rw [hone, htwo] at hle
  omega

/-- A name is the same in lower case. -/
theorem lower_eq_self (h : IsFileName file) : Text.lower file = file := by
  rw [Text.lower, Text.lowerFrom_eq_self, String.ofList_toList]
  intro c hc
  rcases h.isKebab_or hc with hkebab | rfl
  · exact ⟨Naming.toNat_lt_of_isKebab hkebab, Naming.toLower_of_isKebab hkebab⟩
  · decide

end IsFileName

theorem isFileName_fileName (group : Group) : IsFileName group.fileName := by
  refine ⟨group.moduleName, ?_, ?_, rfl⟩
  · intro hempty
    have hlength := congrArg (fun name => name.toList.length) hempty
    rw [Group.moduleName] at hlength
    simp at hlength
  · intro c hc
    rw [Group.moduleName, String.toList_append, List.mem_append] at hc
    rcases hc with hstem | hend
    · exact Naming.isKebab_of_mem_kebab hstem
    · have hall : "-api".toList.all Naming.isKebab = true := rfl
      exact List.all_eq_true.mp hall c hend

theorem isFileName_schemasFile : IsFileName schemasFile := by
  have hall : "schemas".toList.all Naming.isKebab = true := rfl
  exact ⟨"schemas", by decide, List.all_eq_true.mp hall, rfl⟩

theorem isFileName_indexFile : IsFileName indexFile := by
  have hall : "index".toList.all Naming.isKebab = true := rfl
  exact ⟨"index", by decide, List.all_eq_true.mp hall, rfl⟩

/-- Every file of a group ends alike. -/
theorem toList_fileName (group : Group) :
    group.fileName.toList = (Naming.kebab group.stem).toList ++ "-api.ts".toList := by
  rw [Group.fileName, Group.moduleName, String.toList_append, String.toList_append,
    List.append_assoc]
  rfl

/-- A file that does not end like those of groups belongs to no group. -/
theorem fileName_ne (lead tail : List Char) {file : String} (hfile : file.toList = lead ++ tail)
    (hlength : tail.length = 7) (htail : tail ≠ "-api.ts".toList) (group : Group) :
    group.fileName ≠ file := by
  intro heq
  have hlists := congrArg String.toList heq
  rw [toList_fileName, hfile] at hlists
  exact htail (List.append_inj_right' hlists (by rw [hlength]; rfl)).symm

theorem fileName_ne_schemasFile (group : Group) : group.fileName ≠ schemasFile :=
  fileName_ne "sch".toList "emas.ts".toList rfl rfl (by decide) group

theorem fileName_ne_indexFile (group : Group) : group.fileName ≠ indexFile :=
  fileName_ne "i".toList "ndex.ts".toList rfl rfl (by decide) group

/-! ### The files of an API -/

/-- The files of an API have names of their own. -/
structure KeepsApart (api : Api) (files : List String) : Prop where
  /-- The schemas come first, the index last, and the groups in order between them. -/
  order : files = schemasFile :: api.groups.map Group.fileName ++ [indexFile]
  /-- The names differ. -/
  nodup : files.Nodup
  /-- The names differ also when case does not count. -/
  nodup_lower : (files.map Text.lower).Nodup
  /-- The names are small letters, digits and hyphens, and the suffix. -/
  plain : ∀ file ∈ files, IsFileName file
  /-- No name leads to another directory. -/
  inside : ∀ file ∈ files, (∀ c ∈ file.toList, c ≠ '/' ∧ c ≠ '\\') ∧ ¬"..".toList <:+: file.toList
  /-- No group has the name of the schemas or of the index. -/
  between : ∀ group ∈ api.groups, group.fileName ≠ schemasFile ∧ group.fileName ≠ indexFile
  /-- The classes of the groups differ. -/
  classes : (api.groups.map Group.className).Nodup

theorem file_artifacts {api : Api} {made : List Artifact} (h : artifacts api = .ok made) :
    made.map Artifact.file = schemasFile :: api.groups.map Group.fileName ++ [indexFile] := by
  obtain ⟨declarations, -, h⟩ := bind_eq_ok.mp h
  obtain ⟨⟨⟩, -, h⟩ := bind_eq_ok.mp h
  cases h
  rw [List.map_append, List.map_append, List.map_map]
  rfl

theorem nodup_fileName_groups (api : Api) : (api.groups.map Group.fileName).Nodup := by
  have hstems := api.nodup_kebab_stem_groups
  rw [List.nodup_iff_pairwise_ne, List.pairwise_map] at hstems ⊢
  refine hstems.imp fun {group other} hne heq => hne ?_
  have hlists := congrArg String.toList heq
  rw [toList_fileName, toList_fileName] at hlists
  exact String.toList_inj.mp (List.append_cancel_right hlists)

theorem nodup_className_groups (api : Api) : (api.groups.map Group.className).Nodup := by
  have hstems := api.nodup_kebab_stem_groups
  rw [List.nodup_iff_pairwise_ne, List.pairwise_map] at hstems ⊢
  refine hstems.imp fun {group other} hne heq => hne ?_
  have hlists := congrArg String.toList heq
  rw [Group.className, Group.className, String.toList_append, String.toList_append] at hlists
  rw [String.toList_inj.mp (List.append_cancel_right hlists)]

theorem isFileName_of_mem_artifacts {api : Api} {made : List Artifact}
    (h : artifacts api = .ok made) {artifact : Artifact} (hmem : artifact ∈ made) :
    IsFileName artifact.file := by
  have hfile : artifact.file ∈ made.map Artifact.file := List.mem_map_of_mem hmem
  rw [file_artifacts h, List.mem_append, List.mem_cons, List.mem_singleton] at hfile
  rcases hfile with (hschemas | hgroup) | hindex
  · rw [hschemas]
    exact isFileName_schemasFile
  · obtain ⟨group, -, hgroup⟩ := List.mem_map.mp hgroup
    rw [← hgroup]
    exact isFileName_fileName group
  · rw [hindex]
    exact isFileName_indexFile

theorem nodup_file_artifacts {api : Api} {made : List Artifact} (h : artifacts api = .ok made) :
    (made.map Artifact.file).Nodup := by
  rw [file_artifacts h, List.cons_append, List.nodup_cons, List.mem_append, List.mem_singleton]
  refine ⟨?_, List.nodup_append'.mpr ⟨nodup_fileName_groups api, List.nodup_singleton _, ?_⟩⟩
  · rintro (hgroup | hindex)
    · obtain ⟨group, -, heq⟩ := List.mem_map.mp hgroup
      exact fileName_ne_schemasFile group heq
    · exact absurd hindex (by decide)
  · intro file hgroup hindex
    obtain ⟨group, -, rfl⟩ := List.mem_map.mp hgroup
    exact fileName_ne_indexFile group (List.mem_singleton.mp hindex)

/-- **Artifacts never overwrite each other.** -/
theorem keepsApart_artifacts {api : Api} {made : List Artifact} (h : artifacts api = .ok made) :
    KeepsApart api (made.map Artifact.file) := by
  have hplain : ∀ file ∈ made.map Artifact.file, IsFileName file := by
    intro file hfile
    obtain ⟨artifact, hmem, rfl⟩ := List.mem_map.mp hfile
    exact isFileName_of_mem_artifacts h hmem
  have hlower : (made.map Artifact.file).map Text.lower = made.map Artifact.file :=
    (List.map_congr_left fun file hfile => (hplain file hfile).lower_eq_self).trans (List.map_id' _)
  refine ⟨file_artifacts h, nodup_file_artifacts h, ?_, hplain, fun file hfile => ?_,
    fun group _ => ?_, nodup_className_groups api⟩
  · rw [hlower]
    exact nodup_file_artifacts h
  · exact ⟨fun c hc => (hplain file hfile).ne_separator hc, (hplain file hfile).not_dots⟩
  · exact ⟨fileName_ne_schemasFile group, fileName_ne_indexFile group⟩

/-- An API whose tags differ in case and punctuation alone, with one that is declared twice and one
without a letter of ASCII. -/
def manyTags : Api :=
  .ofOperations
    [.reading "/1" ["Users"], .reading "/2" ["users"], .reading "/3" ["USERS!"],
      .reading "/4" ["ペット"]]
    ["users", "users"]

theorem keepsApart_artifacts_manyTags : ∃ made, artifacts manyTags = .ok made ∧
    made.map Artifact.file = ["schemas.ts", "users-api.ts", "users2-api.ts", "users3-api.ts",
      "users4-api.ts", "group-api.ts", "index.ts"] ∧
    KeepsApart manyTags (made.map Artifact.file) := by
  have hmade : artifacts manyTags = .ok _ := rfl
  have hgroups : manyTags.groups.map Group.fileName = ["users-api.ts", "users2-api.ts",
      "users3-api.ts", "users4-api.ts", "group-api.ts"] := by decide +kernel
  refine ⟨_, hmade, ?_, keepsApart_artifacts hmade⟩
  rw [file_artifacts hmade, hgroups]
  rfl

end Code

end ClientGen
