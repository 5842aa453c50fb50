import ClientGen.Files.Tree
import ClientGen.Proofs.Files.Kept
import ClientGen.Proofs.Outcome
import ClientGen.Proofs.Text

/-!
# The files of a tree keep their texts

A path to a file in a directory leads to a place that ends in the name of the file
(`getLast?_of_locate`), so that files of other names stand elsewhere; and no call takes a directory
away, so that a path goes on leading where it led (`locate_of_extends`).  Hence the files of a
`FileTree` keep their texts (`FileTree.keeps_access`), in every directory.
-/

namespace ClientGen

/-! ### Names at the end of paths -/

namespace FilePath

/-- A path is a name, or has it behind a slash at its end. -/
def EndsIn (path name : String) : Prop :=
  path.toList = name.toList ∨ ∃ lead, path.toList = lead ++ '/' :: name.toList

variable {path directory file : String}

theorem length_of_isFileName (h : Code.IsFileName file) : 3 < file.toList.length := by
  obtain ⟨stem, hstem, -, rfl⟩ := h
  have hpositive : 0 < stem.toList.length :=
    List.length_pos_iff.mpr fun hnil => hstem (String.toList_eq_nil_iff.mp hnil)
  rw [String.toList_append, List.length_append]
  have hsuffix : ".ts".toList.length = 3 := rfl
  omega

/-- The name at the end of a path is its last part. -/
theorem EndsIn.exists_parts (h : EndsIn path file) (hfile : Code.IsFileName file) :
    ∃ lead, parts path = lead ++ [file] := by
  have hlength := length_of_isFileName hfile
  have hslash : '/' ∉ file.toList := fun hmem => (hfile.ne_separator hmem).1 rfl
  have hcounts : (file != "" && file != ".") = true := by
    rw [Bool.and_eq_true, bne_iff_ne, bne_iff_ne]
    constructor
    · rintro rfl
      exact absurd hlength (by decide)
    · rintro rfl
      exact absurd hlength (by decide)
  have hlast : ∀ lead : List (List Char), Text.splitChars '/' path.toList = lead ++ [file.toList] →
      ∃ front, parts path = front ++ [file] := by
    intro lead hsplit
    have hsingle : [file].filter (fun part => part != "" && part != ".") = [file] :=
      List.filter_cons_of_pos hcounts
    rw [parts, Text.split, hsplit, List.map_append, List.filter_append, List.map_cons,
      List.map_nil, String.ofList_toList, hsingle]
    exact ⟨_, rfl⟩
  rcases h with hwhole | ⟨lead, hlead⟩
  · refine hlast [] ?_
    rw [hwhole, Text.splitChars_of_notMem hslash, List.nil_append]
  · refine hlast (Text.splitChars '/' lead) ?_
    rw [hlead, Text.splitChars_append, Text.splitChars_of_notMem hslash]

theorem EndsIn.ne_empty (h : EndsIn path file) (hfile : Code.IsFileName file) : path ≠ "" := by
  have hlength := length_of_isFileName hfile
  rintro rfl
  rcases h with hwhole | ⟨lead, hlead⟩
  · rw [← hwhole] at hlength
    exact absurd hlength (by decide)
  · exact List.append_ne_nil_of_right_ne_nil lead (List.cons_ne_nil _ _) hlead.symm

theorem endsIn_join (directory : String) (hfile : isAbsolute file = false) :
    EndsIn (join directory file) file := by
  unfold join
  rw [hfile, Bool.false_or]
  split
  · exact .inl rfl
  · split
    · rename_i hlast
      obtain ⟨lead, hlead⟩ := List.getLast?_eq_some_iff.mp hlast
      refine .inr ⟨lead, ?_⟩
      rw [String.toList_append, hlead, List.append_assoc]
      rfl
    · refine .inr ⟨directory.toList, ?_⟩
      rw [String.toList_append, String.toList_append, List.append_assoc]
      rfl

theorem endsIn_root_append (path : String) {text : String} (h : EndsIn text file) :
    EndsIn (root path ++ text) file := by
  have hroot : root path = "" ∨ ∃ lead, (root path).toList = lead ++ ['/'] := by
    unfold root
    split
    · exact .inr ⟨[], rfl⟩
    · exact .inr ⟨['/'], rfl⟩
    · exact .inr ⟨[], rfl⟩
    · exact .inl rfl
  rcases hroot with hnone | ⟨lead, hlead⟩
  · rw [hnone, String.empty_append]
    exact h
  · rcases h with hwhole | ⟨front, hfront⟩
    · refine .inr ⟨lead, ?_⟩
      rw [String.toList_append, hlead, hwhole, List.append_assoc]
      rfl
    · refine .inr ⟨(root path).toList ++ front, ?_⟩
      rw [String.toList_append, hfront, List.append_assoc]

/-- The last of some names ends their path. -/
theorem endsIn_join_names (names : List String) (file : String) :
    EndsIn (Text.join "/" (names ++ [file])) file := by
  rw [EndsIn, Text.join, String.toList_intercalate, List.map_append]
  induction names with
  | nil => exact .inl List.intercalate_singleton
  | cons first rest ih =>
    have hne : (rest.map String.toList ++ [file].map String.toList) ≠ [] :=
      List.append_ne_nil_of_right_ne_nil _ (List.cons_ne_nil _ _)
    rw [List.map_cons, List.cons_append, List.intercalate_cons_of_ne_nil hne]
    rcases ih with hwhole | ⟨lead, hlead⟩
    · refine .inr ⟨first.toList, ?_⟩
      rw [hwhole, List.append_assoc]
      rfl
    · refine .inr ⟨first.toList ++ "/".toList ++ lead, ?_⟩
      rw [hlead, List.append_assoc, List.append_assoc, List.append_assoc]

/-- The last part of the path of a file in a directory is the name of the file. -/
theorem exists_parts_normal_join (hfile : Code.IsFileName file) (directory : String) :
    ∃ lead, parts (normal (join directory file)) = lead ++ [file] := by
  have hends : EndsIn (normal (join directory file)) file := by
    obtain ⟨lead, hlead⟩ := (endsIn_join directory hfile.isAbsolute_eq_false).exists_parts hfile
    have htext := endsIn_root_append (join directory file) (endsIn_join_names lead file)
    rw [← hlead] at htext
    have hsome : ¬(root (join directory file) ++
        Text.join "/" (parts (join directory file))).isEmpty = true := by
      intro hempty
      rw [String.isEmpty_iff] at hempty
      rw [hempty] at htext
      exact htext.ne_empty hfile rfl
    unfold normal
    dsimp only
    rw [if_neg hsome]
    exact htext
  exact hends.exists_parts hfile

end FilePath

/-! ### Places in a tree -/

namespace FileTree

/-- What stands at a place among entries. -/
def entryIn? (entries : List (List String × FileEntry)) (place : List String) : Option FileEntry :=
  (entries.find? fun old => old.1 == place).map (·.2)

theorem entryIn?_cons (old : List String × FileEntry) (rest : List (List String × FileEntry))
    (place : List String) :
    entryIn? (old :: rest) place = if old.1 = place then some old.2 else entryIn? rest place := by
  rw [entryIn?, List.find?_cons]
  by_cases hplace : old.1 = place
  · rw [if_pos hplace, beq_iff_eq.mpr hplace]
    rfl
  · rw [if_neg hplace, beq_eq_false_iff_ne.mpr hplace]
    rfl

/-- Something stands at a place that is among those of the entries. -/
theorem isSome_entryIn?_iff (entries : List (List String × FileEntry)) (place : List String) :
    (entryIn? entries place).isSome = entries.any fun old => old.1 == place := by
  rw [entryIn?, Option.isSome_map, List.isSome_find?]

theorem entryIn?_replace (entries : List (List String × FileEntry)) (place : List String)
    (entry : FileEntry) (other : List String) :
    entryIn? (entries.map fun old => if old.1 == place then (place, entry) else old) other =
      if other = place then (entryIn? entries place).map fun _ => entry
      else entryIn? entries other := by
  induction entries with
  | nil =>
    split <;> rfl
  | cons old rest ih =>
    rw [List.map_cons, entryIn?_cons, entryIn?_cons, entryIn?_cons, ih]
    by_cases hother : other = place
    · subst hother
      by_cases hold : old.1 = other
      · simp [hold]
      · simp [hold]
    · by_cases hold : old.1 = place
      · simp [hold, Ne.symm hother, hother]
      · simp [hold, hother]

theorem entryIn?_append (entries : List (List String × FileEntry)) (place : List String)
    (entry : FileEntry) (other : List String) :
    entryIn? (entries ++ [(place, entry)]) other =
      (entryIn? entries other).or (if place = other then some entry else none) := by
  induction entries with
  | nil => exact entryIn?_cons (place, entry) [] other
  | cons old rest ih =>
    rw [List.cons_append, entryIn?_cons, entryIn?_cons, ih]
    split <;> rfl

theorem entry?_eq (tree : FileTree) (place : List String) :
    tree.entry? place =
      if place = [] ∨ place = [tree.home] then some .directory
      else entryIn? tree.entries place := rfl

theorem home_put (tree : FileTree) (place : List String) (entry : FileEntry) :
    (tree.put place entry).home = tree.home := by
  unfold put
  split <;> rfl

/-- Where something is put, it stands, and elsewhere all is as it was. -/
theorem entryIn?_put (tree : FileTree) (place : List String) (entry : FileEntry)
    (other : List String) :
    entryIn? (tree.put place entry).entries other =
      if other = place then some entry else entryIn? tree.entries other := by
  unfold put
  rw [← isSome_entryIn?_iff]
  split
  · rename_i hsome
    obtain ⟨old, hold⟩ := Option.isSome_iff_exists.mp hsome
    rw [entryIn?_replace, hold]
    rfl
  · rename_i hnone
    rw [entryIn?_append]
    by_cases hother : other = place
    · rw [if_pos hother, if_pos hother.symm, hother, Option.not_isSome_iff_eq_none.mp hnone]
      rfl
    · rw [if_neg hother, if_neg (Ne.symm hother), Option.or_none]

/-- What is put in the stead of what is no directory stands there, and elsewhere all is as it
was. -/
theorem entry?_put {tree : FileTree} {place : List String}
    (hplace : tree.entry? place ≠ some .directory) (entry : FileEntry) (other : List String) :
    entry? (tree.put place entry) other =
      if other = place then some entry else tree.entry? other := by
  have hbelow : ¬(place = [] ∨ place = [tree.home]) := fun hroot =>
    hplace ((entry?_eq tree place).trans (if_pos hroot))
  rw [entry?_eq, entry?_eq, home_put, entryIn?_put]
  by_cases hother : other = place
  · rw [hother, if_neg hbelow, if_pos rfl, if_pos rfl]
  · rw [if_neg hother, if_neg hother]

/-- A tree in which all directories of another one still stand. -/
structure Extends (later tree : FileTree) : Prop where
  home : later.home = tree.home
  directories : ∀ place, tree.entry? place = some .directory →
    later.entry? place = some .directory

theorem extends_put {tree : FileTree} {place : List String}
    (hplace : tree.entry? place ≠ some .directory) (entry : FileEntry) :
    (tree.put place entry).Extends tree := by
  refine ⟨home_put tree place entry, fun other hother => ?_⟩
  have hne : other ≠ place := by
    rintro rfl
    exact hplace hother
  rw [entry?_put hplace, if_neg hne]
  exact hother

section Places

variable {tree later : FileTree} {place found : List String} {names : List String} {path : String}

theorem step_eq_ok {name : String} (h : tree.step place name = .ok found) :
    tree.entry? place = some .directory ∧ found = if name = ".." then place.dropLast
      else place ++ [name] := by
  unfold step at h
  split at h
  · rename_i hdirectory
    refine ⟨hdirectory, ?_⟩
    split at h
    · rename_i hup
      rw [if_pos hup]
      exact (Except.ok.inj h).symm
    · rename_i hdown
      rw [if_neg hdown]
      split at h
      · cases h
      · exact (Except.ok.inj h).symm
  · cases h
  · cases h

theorem step_of_extends {name : String} (hextends : later.Extends tree)
    (h : tree.step place name = .ok found) : later.step place name = .ok found := by
  obtain ⟨hdirectory, -⟩ := step_eq_ok h
  have hlater := hextends.directories place hdirectory
  unfold step at h ⊢
  rw [hdirectory] at h
  rw [hlater]
  exact h

theorem follow_cons (name : String) (rest : List String) :
    tree.follow place (name :: rest) =
      tree.step place name >>= fun next => tree.follow next rest := by
  rw [follow]
  cases tree.step place name <;> rfl

/-- Names lead where they led, as long as the directories stand. -/
theorem follow_of_extends (hextends : later.Extends tree)
    (h : tree.follow place names = .ok found) : later.follow place names = .ok found := by
  induction names generalizing place with
  | nil => exact h
  | cons name rest ih =>
    rw [follow_cons] at h ⊢
    obtain ⟨next, hstep, hrest⟩ := bind_eq_ok.mp h
    rw [step_of_extends hextends hstep]
    exact ih hrest

/-- Names lead to a place that ends in the last of them. -/
theorem getLast?_of_follow {lead : List String} {name : String} (hname : name ≠ "..")
    (h : tree.follow place (lead ++ [name]) = .ok found) : found.getLast? = some name := by
  induction lead generalizing place with
  | nil =>
    rw [List.nil_append, follow_cons] at h
    obtain ⟨next, hstep, hrest⟩ := bind_eq_ok.mp h
    cases hrest
    rw [(step_eq_ok hstep).2, if_neg hname]
    exact List.getLast?_concat
  | cons first rest ih =>
    rw [List.cons_append, follow_cons] at h
    obtain ⟨next, -, hrest⟩ := bind_eq_ok.mp h
    exact ih hrest

theorem locate_of_extends (hextends : later.Extends tree) (h : tree.locate path = .ok found) :
    later.locate path = .ok found := by
  unfold locate at h ⊢
  split at h
  · cases h
  · rename_i hlength
    rw [if_neg hlength]
    have hstart : later.start path = tree.start path := by
      unfold start
      rw [hextends.home]
    rw [hstart]
    exact follow_of_extends hextends h

theorem names_start (tree : FileTree) (path : String) :
    (tree.start path).2 = FilePath.parts path := by
  unfold start
  dsimp only
  split <;> rfl

/-- A path to a file in a directory leads to a place that ends in the name of the file. -/
theorem getLast?_of_locate {directory file : String} (hfile : Code.IsFileName file)
    (h : tree.locate (FilePath.normal (FilePath.join directory file)) = .ok found) :
    found.getLast? = some file := by
  obtain ⟨lead, hlead⟩ := FilePath.exists_parts_normal_join hfile directory
  have hup : file ≠ ".." := by
    rintro rfl
    exact absurd (FilePath.length_of_isFileName hfile) (by decide)
  unfold locate at h
  split at h
  · cases h
  · have hnames := names_start tree (FilePath.normal (FilePath.join directory file))
    rw [hlead] at hnames
    rcases hstart : tree.start (FilePath.normal (FilePath.join directory file)) with ⟨base, names⟩
    rw [hstart] at h hnames
    subst hnames
    exact getLast?_of_follow hup h

theorem look_eq_ok {entry : FileEntry} :
    tree.look path = .ok entry ↔
      ∃ place, tree.locate path = .ok place ∧ tree.entry? place = some entry := by
  unfold look
  constructor
  · intro h
    split at h
    · rename_i place hplace
      split at h
      · rename_i found hfound
        cases h
        exact ⟨place, hplace, hfound⟩
      · cases h
    · cases h
  · rintro ⟨place, hplace, hentry⟩
    rw [hplace]
    dsimp only
    rw [hentry]

end Places

end FileTree

/-! ### Octets of texts -/

namespace Text

theorem octetsFrom_eq (octets : ByteArray) (i : Nat) (read : List UInt8) :
    ByteArray.toList.loop octets i read = read.reverse ++ octets.data.toList.drop i := by
  induction i, read using ByteArray.toList.loop.induct octets with
  | case1 i read h ih =>
    have hi : i < octets.data.toList.length := h
    have hget : octets.get! i = octets.data.toList[i] := by simp [ByteArray.get!, h]
    rw [ByteArray.toList.loop, if_pos h, ih, List.reverse_cons, List.append_assoc,
      List.drop_eq_getElem_cons hi, hget]
    rfl
  | case2 i read h =>
    have hi : octets.data.toList.length ≤ i := Nat.le_of_not_lt h
    rw [ByteArray.toList.loop, if_neg h, List.drop_eq_nil_of_le hi, List.append_nil]

/-- Different texts have different octets. -/
theorem octets_injective {text other : String} (h : text.toUTF8.toList = other.toUTF8.toList) :
    text = other := by
  have hdata : text.toUTF8.data.toList = other.toUTF8.data.toList :=
    calc text.toUTF8.data.toList
        = text.toUTF8.toList := (octetsFrom_eq text.toUTF8 0 []).symm
      _ = other.toUTF8.toList := h
      _ = other.toUTF8.data.toList := octetsFrom_eq other.toUTF8 0 []
  exact String.toByteArray_inj.mp (ByteArray.ext (Array.toList_inj.mp hdata))

end Text

/-! ### Texts in a tree -/

namespace FileTree

/-- A file of a tree holds a text. -/
def Holds (tree : FileTree) (path text : String) : Prop :=
  tree.look (FilePath.normal path) = .ok (.file text.toUTF8.toList)

instance (tree : FileTree) (path text : String) : Decidable (tree.Holds path text) :=
  inferInstanceAs (Decidable (tree.look (FilePath.normal path) = .ok (.file text.toUTF8.toList)))

theorem writablePlace_eq_ok {tree : FileTree} {path : String} {place : List String}
    (h : tree.writablePlace path = .ok place) :
    tree.locate path = .ok place ∧ tree.entry? place ≠ some .directory := by
  unfold writablePlace at h
  split at h
  · cases h
  · rename_i found hfound
    split at h
    · cases h
    · rename_i hnone
      cases h
      exact ⟨hfound, hnone⟩

/-- Writing a file puts it at its place, or changes nothing. -/
theorem writeText_cases (tree : FileTree) (path text : String) :
    (∃ fault, tree.writeText path text = (.error fault, tree)) ∨
    ∃ place, tree.locate (FilePath.normal path) = .ok place ∧
      tree.entry? place ≠ some .directory ∧
      tree.writeText path text = (.ok (), tree.put place (.file text.toUTF8.toList)) := by
  unfold writeText
  dsimp only
  split
  · exact .inl ⟨_, rfl⟩
  · split
    · rename_i place hplace
      obtain ⟨hlocate, hnone⟩ := writablePlace_eq_ok hplace
      exact .inr ⟨place, hlocate, hnone, rfl⟩
    · exact .inl ⟨_, rfl⟩

/-- A file that is put at the place of a path is held there. -/
theorem holds_put {tree : FileTree} {path text : String} {place : List String}
    (hlocate : tree.locate (FilePath.normal path) = .ok place)
    (hnone : tree.entry? place ≠ some .directory) :
    (tree.put place (.file text.toUTF8.toList)).Holds path text := by
  refine look_eq_ok.mpr ⟨place, locate_of_extends (extends_put hnone _) hlocate, ?_⟩
  rw [entry?_put hnone, if_pos rfl]

/-- A file is held on if the directories stand and its own place keeps what is there. -/
theorem Holds.of_extends {tree later : FileTree} {path text : String} (h : tree.Holds path text)
    (hextends : later.Extends tree)
    (hplace : ∀ place octets, tree.locate (FilePath.normal path) = .ok place →
      tree.entry? place = some (.file octets) → later.entry? place = some (.file octets)) :
    later.Holds path text := by
  obtain ⟨place, hlocate, hentry⟩ := look_eq_ok.mp h
  exact look_eq_ok.mpr
    ⟨place, locate_of_extends hextends hlocate, hplace place _ hlocate hentry⟩

/-- A tree in which all still stands that stood in another one. -/
def Grows (tree later : FileTree) : Prop :=
  later.home = tree.home ∧ ∀ place entry, tree.entry? place = some entry →
    later.entry? place = some entry

theorem Grows.refl (tree : FileTree) : tree.Grows tree := ⟨rfl, fun _ _ => id⟩

theorem Grows.trans {tree between later : FileTree} (h : tree.Grows between)
    (hlater : between.Grows later) : tree.Grows later :=
  ⟨hlater.1.trans h.1, fun place entry hentry => hlater.2 place entry (h.2 place entry hentry)⟩

theorem Grows.holds {tree later : FileTree} {path text : String} (hgrows : tree.Grows later)
    (h : tree.Holds path text) : later.Holds path text :=
  h.of_extends ⟨hgrows.1, fun place => hgrows.2 place .directory⟩
    fun place octets _ => hgrows.2 place (.file octets)

theorem grows_makeOne {tree later : FileTree} {path : String} (h : tree.makeOne path = .ok later) :
    tree.Grows later := by
  unfold makeOne at h
  split at h
  · cases h
  · rename_i place hplace
    split at h
    · cases h
      exact .refl tree
    · cases h
    · rename_i hnone
      cases h
      refine ⟨home_put tree place .directory, fun other entry hentry => ?_⟩
      have hne : other ≠ place := by
        rintro rfl
        cases hnone.symm.trans hentry
      rw [entry?_put (by rw [hnone]; exact Option.some_ne_none _ ∘ Eq.symm), if_neg hne]
      exact hentry

theorem grows_makeWithin (depth : Nat) (tree : FileTree) (path : String) :
    tree.Grows (tree.makeWithin depth path).2 := by
  induction depth generalizing tree path with
  | zero =>
    unfold makeWithin
    split
    · rename_i later hone
      exact grows_makeOne hone
    · exact .refl tree
  | succ depth ih =>
    unfold makeWithin
    split
    · rename_i later hone
      exact grows_makeOne hone
    · have hparent := ih tree (parent path)
      split
      · rename_i between hbetween
        rw [hbetween] at hparent
        split
        · rename_i later hone
          exact hparent.trans (grows_makeOne hone)
        · exact hparent
      · rename_i fault between hbetween
        rw [hbetween] at hparent
        exact hparent
    · exact .refl tree

theorem grows_makeDirectory (tree : FileTree) (path : String) :
    tree.Grows (tree.makeDirectory path).2 := by
  unfold makeDirectory
  dsimp only
  split
  · exact .refl tree
  · exact grows_makeWithin _ tree _

/-- A file goes on holding its text when another one is written. -/
theorem Holds.writeText {tree : FileTree} {directory file other text : String}
    (h : tree.Holds (FilePath.join directory file) text) (hfile : Code.IsFileName file)
    (hother : Code.IsFileName other) (hne : other ≠ file) (new : String) :
    (tree.writeText (FilePath.join directory other) new).2.Holds
      (FilePath.join directory file) text := by
  rcases writeText_cases tree (FilePath.join directory other) new with
    ⟨fault, hwrite⟩ | ⟨place, hlocate, hnone, hwrite⟩
  · rw [hwrite]
    exact h
  · rw [hwrite]
    refine h.of_extends (extends_put hnone _) fun found octets hfound hentry => ?_
    -- The places end in different names.
    have hplaces : found ≠ place := by
      rintro rfl
      have hlast := getLast?_of_locate hfile hfound
      rw [getLast?_of_locate hother hlocate] at hlast
      exact hne (Option.some.inj hlast)
    rw [entry?_put hnone, if_neg hplaces]
    exact hentry

theorem modifyGet_apply {τ β : Type} (f : τ → β × τ) (t : τ) :
    (modifyGet f : StateM τ β) t = f t := rfl

theorem access_writeText (path text : String) (tree : FileTree) :
    access.writeText path text tree = tree.writeText path text :=
  modifyGet_apply (fun tree : FileTree => tree.writeText path text) tree

theorem access_makeDirectory (path : String) (tree : FileTree) :
    access.makeDirectory path tree = tree.makeDirectory path :=
  modifyGet_apply (fun tree : FileTree => tree.makeDirectory path) tree

/-- **The files of a tree** keep their texts, in every directory. -/
theorem keeps_access (directory : String) : access.Keeps directory Holds where
  unique tree path text other htext hother := by
    have hfile : FileEntry.file text.toUTF8.toList = .file other.toUTF8.toList :=
      Except.ok.inj (htext.symm.trans hother)
    exact Text.octets_injective (FileEntry.file.inj hfile)
  written tree file text hfile hwrite := by
    rw [access_writeText] at hwrite ⊢
    rcases writeText_cases tree (FilePath.join directory file) text with
      ⟨fault, hcall⟩ | ⟨place, hlocate, hnone, hcall⟩
    · rw [hcall] at hwrite
      cases hwrite
    · rw [hcall]
      exact holds_put hlocate hnone
  spared tree call file text hfile h hspares := by
    cases call with
    | isPresent path => exact h
    | isDirectory path => exact h
    | isFile path => exact h
    | readText path => exact h
    | writeText path new =>
      rw [FileAccess.answer, access_writeText] at hspares ⊢
      rcases hspares with hfails | ⟨other, hother, hne, rfl⟩
      · rcases writeText_cases tree path new with ⟨fault, hcall⟩ | ⟨place, -, -, hcall⟩
        · rw [hcall]
          exact h
        · rw [hcall] at hfails
          cases hfails
      · exact h.writeText hfile hother hne new
    | makeDirectory path =>
      rw [FileAccess.answer, access_makeDirectory]
      exact (grows_makeDirectory tree path).holds h

end FileTree

end ClientGen
