import ClientGen.Proofs.Reading

/-!
# The keys of settings are distinct

Where the keys of a mapping stay as they are, no two of them are the same (`nodup_keys_of_load`), and
a mapping that does not become an object has a key that is no text (`exists_key_of_load`).
Entries are stored by key while the scalars of a document are still being read, so this rests on two
facts about the store: what a node stands for as a scalar, it stands for ever after (`Store.Le`),
and a table is only ever filled with entries whose keys are told apart by the store (`Store.IsTidy`).
-/

namespace ClientGen.Yaml

namespace Store

/-- What a store has of another: the nodes that stand for scalars stand for the same, and those that
wait still do. -/
structure Le (s t : Store) : Prop where
  leaf : ∀ n value isWord, s.object? n = some (.leaf value isWord) →
    t.object? n = some (.leaf value isWord)
  queue : ∀ n ∈ s.queue, n ∈ t.queue

theorem Le.refl (s : Store) : s.Le s where
  leaf _ _ _ h := h
  queue _ h := h

theorem Le.trans {s t u : Store} (hst : s.Le t) (htu : t.Le u) : s.Le u where
  leaf n value isWord h := htu.leaf n value isWord (hst.leaf n value isWord h)
  queue n h := htu.queue n (hst.queue n h)

/-- Entries whose keys are scalars, no two of them the same. -/
structure Separates (s : Store) (entries : List (Nat × Nat)) : Prop where
  isKey : ∀ entry ∈ entries, s.isKey entry.1 = true
  apart : entries.Pairwise fun earlier later => s.sameKey later.1 earlier.1 = false

theorem exists_leaf_of_isKey {s : Store} {n : Nat} (h : s.isKey n = true) :
    ∃ value isWord, s.object? n = some (.leaf value isWord) := by
  unfold isKey at h
  split at h
  · rename_i value isWord hobject
    exact ⟨value, isWord, hobject⟩
  · cases h

theorem Le.isKey {s t : Store} (hst : s.Le t) {n : Nat} (h : s.isKey n = true) :
    t.isKey n = true := by
  obtain ⟨value, isWord, hobject⟩ := exists_leaf_of_isKey h
  unfold Store.isKey
  rw [hst.leaf n value isWord hobject]

theorem Le.sameKey_eq {s t : Store} (hst : s.Le t) {a b : Nat} (ha : s.isKey a = true)
    (hb : s.isKey b = true) : t.sameKey a b = s.sameKey a b := by
  obtain ⟨value, isWord, hobject⟩ := exists_leaf_of_isKey ha
  obtain ⟨other, isOtherWord, hother⟩ := exists_leaf_of_isKey hb
  unfold Store.sameKey
  rw [hobject, hother, hst.leaf a value isWord hobject, hst.leaf b other isOtherWord hother]

theorem Separates.nil (s : Store) : s.Separates [] where
  isKey _ h := nomatch h
  apart := .nil

theorem Separates.mono {s t : Store} (hst : s.Le t) {entries : List (Nat × Nat)}
    (h : s.Separates entries) : t.Separates entries where
  isKey entry hentry := hst.isKey (h.isKey entry hentry)
  apart := by
    refine h.apart.imp_of_mem fun {earlier later} hearlier hlater happart => ?_
    rw [hst.sameKey_eq (h.isKey later hlater) (h.isKey earlier hearlier)]
    exact happart

theorem mem_putEntry {s : Store} {key value : Nat} {entries : List (Nat × Nat)} {entry : Nat × Nat}
    (h : entry ∈ s.putEntry key value entries) :
    entry.1 = key ∨ ∃ before ∈ entries, entry.1 = before.1 := by
  induction entries with
  | nil =>
    rw [putEntry, List.mem_singleton] at h
    exact .inl (congrArg Prod.fst h)
  | cons first rest ih =>
    obtain ⟨other, old⟩ := first
    rw [putEntry] at h
    split at h
    · rcases List.mem_cons.mp h with rfl | hrest
      · exact .inr ⟨_, List.mem_cons_self, rfl⟩
      · exact .inr ⟨entry, List.mem_cons_of_mem _ hrest, rfl⟩
    · rcases List.mem_cons.mp h with rfl | hrest
      · exact .inr ⟨_, List.mem_cons_self, rfl⟩
      · rcases ih hrest with hkey | ⟨before, hbefore, hsame⟩
        · exact .inl hkey
        · exact .inr ⟨before, List.mem_cons_of_mem _ hbefore, hsame⟩

/-- A key is stored in the place of the same key, or apart from all others. -/
theorem Separates.putEntry {s : Store} {entries : List (Nat × Nat)} (h : s.Separates entries)
    {key : Nat} (hkey : s.isKey key = true) (value : Nat) :
    s.Separates (s.putEntry key value entries) where
  isKey entry hentry := by
    rcases mem_putEntry hentry with hnew | ⟨before, hbefore, hsame⟩
    · exact hnew ▸ hkey
    · exact hsame ▸ h.isKey before hbefore
  apart := by
    have happart := h.apart
    clear h
    induction entries with
    | nil => exact List.pairwise_singleton _ _
    | cons first rest ih =>
      obtain ⟨other, old⟩ := first
      obtain ⟨hfirst, hrest⟩ := List.pairwise_cons.mp happart
      rw [Store.putEntry]
      split
      · exact List.pairwise_cons.mpr ⟨hfirst, hrest⟩
      · rename_i hdiffers
        refine List.pairwise_cons.mpr ⟨fun later hlater => ?_, ih hrest⟩
        rcases mem_putEntry hlater with hnew | ⟨before, hbefore, hsame⟩
        · rw [hnew]
          exact Bool.eq_false_iff.mpr hdiffers
        · rw [hsame]
          exact hfirst before hbefore

/-- A store whose nodes that wait are no scalars, and whose tables have distinct keys. -/
structure IsTidy (s : Store) : Prop where
  waiting : ∀ n ∈ s.queue, n < s.objects.size →
    ∃ object, s.object? n = some object ∧ ∀ value isWord, object ≠ .leaf value isWord
  tables : ∀ n entries, s.object? n = some (.table entries) → s.Separates entries

/-- A step leads from a store to a tidy one, and keeps the scalars. -/
abbrev Tidily (s : Store) (t : Store) : Prop :=
  t.IsTidy ∧ s.Le t

theorem object?_put (s : Store) (n m : Nat) (object : Object) :
    (s.put n object).object? m =
      if m = n ∧ n < s.objects.size then some object else s.object? m := by
  unfold put object?
  rw [Array.getElem?_setIfInBounds]
  by_cases hmn : n = m
  · subst hmn
    by_cases hsize : n < s.objects.size
    · simp [hsize]
    · simp [hsize]
  · simp [hmn, Ne.symm hmn]

namespace IsTidy

variable {s : Store} (hs : s.IsTidy)

include hs

theorem not_leaf_of_mem_queue {n : Nat} (hn : n ∈ s.queue) (value : Value) (isWord : Bool) :
    s.object? n ≠ some (.leaf value isWord) := by
  intro hleaf
  have hsize : n < s.objects.size := by
    by_contra hout
    unfold object? at hleaf
    rw [Array.getElem?_eq_none (Nat.le_of_not_lt hout)] at hleaf
    cases hleaf
  obtain ⟨object, hobject, hnone⟩ := hs.waiting n hn hsize
  exact hnone value isWord (Option.some.inj (hobject.symm.trans hleaf))

/-- A node that stands for no scalar may come to stand for another object: for any when it does not
wait, and for a table only with distinct keys. -/
theorem put {n : Nat} {object : Object}
    (hnone : ∀ value isWord, s.object? n ≠ some (.leaf value isWord))
    (hwaiting : n ∈ s.queue → n < s.objects.size → ∀ value isWord, object ≠ .leaf value isWord)
    (htable : ∀ entries, object = .table entries → s.Separates entries) :
    s.Tidily (s.put n object) := by
  have hle : s.Le (s.put n object) := by
    refine ⟨fun m value isWord hleaf => ?_, fun m hm => hm⟩
    have hother : ¬(m = n ∧ n < s.objects.size) := by
      rintro ⟨rfl, -⟩
      exact hnone value isWord hleaf
    rw [object?_put, if_neg hother]
    exact hleaf
  refine ⟨⟨fun m hm hsize => ?_, fun m entries hentries => ?_⟩, hle⟩
  · rw [object?_put]
    have hsize' : m < s.objects.size := Nat.lt_of_lt_of_eq hsize Array.size_setIfInBounds
    split
    · rename_i hmn
      exact ⟨object, rfl, hwaiting (hmn.1 ▸ hm) hmn.2⟩
    · exact hs.waiting m hm hsize'
  · rw [object?_put] at hentries
    split at hentries
    · exact (htable entries (Option.some.inj hentries)).mono hle
    · exact (hs.tables m entries hentries).mono hle

/-- The nodes themselves play no part. -/
theorem withGraph (graph : Graph) : s.Tidily { s with graph } := by
  have hle : s.Le { s with graph } := ⟨fun _ _ _ h => h, fun _ h => h⟩
  refine ⟨⟨hs.waiting, fun m entries hentries => ?_⟩, hle⟩
  exact (hs.tables m entries hentries).mono hle

theorem meetCollection {n : Nat} {object : Object} (hunknown : s.object? n = none)
    (hleaf : ∀ value isWord, object ≠ .leaf value isWord)
    (hempty : ∀ entries, object = .table entries → entries = []) :
    s.Tidily (s.meetCollection n object) := by
  have hnone : ∀ value isWord, s.object? n ≠ some (.leaf value isWord) := by
    intro value isWord hobject
    cases hunknown.symm.trans hobject
  have htable : ∀ entries, object = .table entries → s.Separates entries := by
    intro entries hobject
    rw [hempty entries hobject]
    exact .nil s
  obtain ⟨hput, hle⟩ := hs.put hnone (fun _ _ => hleaf) htable
  have hqueued : (s.put n object).Le (s.meetCollection n object) :=
    ⟨fun _ _ _ h => h, fun m hm => Array.mem_push.mpr (.inl hm)⟩
  refine ⟨⟨fun m hm hsize => ?_, fun m entries hentries => ?_⟩, hle.trans hqueued⟩
  · rcases Array.mem_push.mp hm with hbefore | rfl
    · exact hput.waiting m hbefore hsize
    have hsize' : m < s.objects.size := Nat.lt_of_lt_of_eq hsize Array.size_setIfInBounds
    exact ⟨object, (object?_put s m m object).trans (if_pos ⟨rfl, hsize'⟩), hleaf⟩
  · exact (hput.tables m entries hentries).mono hqueued

theorem meetScalar {n : Nat} (hunknown : s.object? n = none) (tag : Tag) :
    Yields s.Tidily (s.meetScalar n tag) := by
  have hnone : ∀ value isWord, s.object? n ≠ some (.leaf value isWord) := by
    intro value isWord hobject
    cases hunknown.symm.trans hobject
  unfold Store.meetScalar
  refine .skip fun text => ?_
  split
  · exact .error _
  · refine .skip fun value => .ok (hs.put hnone (fun hn hsize => ?_) nofun)
    obtain ⟨object, hobject, -⟩ := hs.waiting n hn hsize
    cases hunknown.symm.trans hobject

theorem meet (n : Nat) : Yields s.Tidily (s.meet n) := by
  unfold Store.meet
  split
  · exact .ok ⟨hs, .refl s⟩
  · rename_i hsome
    have hunknown : s.object? n = none := Option.not_isSome_iff_eq_none.mp hsome
    split
    · exact .ok (hs.meetCollection hunknown nofun nofun)
    · exact .ok (hs.meetCollection hunknown nofun nofun)
    · exact .ok (hs.meetCollection hunknown nofun nofun)
    · refine .ok (hs.meetCollection hunknown nofun fun entries hobject => ?_)
      cases hobject
      rfl
    · exact .ok (hs.meetCollection hunknown nofun nofun)
    · exact .error _
    · exact .error _
    · exact .error _
    · exact hs.meetScalar hunknown _

theorem meetEntries {known : List (Nat × Nat)} (hknown : s.Separates known)
    (entries : List (Nat × Nat)) :
    Yields (fun met => s.Tidily met.1 ∧ met.1.Separates met.2) (s.meetEntries known entries) := by
  induction entries generalizing s known with
  | nil => exact .ok ⟨⟨hs, .refl s⟩, hknown⟩
  | cons entry rest ih =>
    unfold Store.meetEntries
    refine (hs.meet entry.1).bind fun t ht => ?_
    obtain ⟨hkeyTidy, hkeyLe⟩ := ht
    split
    · exact .error _
    · rename_i hkey
      refine (hkeyTidy.meet entry.2).bind fun u hu => ?_
      obtain ⟨hvalueTidy, hvalueLe⟩ := hu
      have hisKey : u.isKey entry.1 = true := hvalueLe.isKey (by simpa using hkey)
      have hstored := (hknown.mono (hkeyLe.trans hvalueLe)).putEntry hisKey entry.2
      intro met hmet
      obtain ⟨⟨htidy, hle⟩, hseparates⟩ := ih hvalueTidy hstored met hmet
      exact ⟨⟨htidy, (hkeyLe.trans hvalueLe).trans hle⟩, hseparates⟩

theorem meetPairs (items : List Nat) : Yields (fun met => s.Tidily met.1) (s.meetPairs items) := by
  induction items generalizing s with
  | nil => exact .ok ⟨hs, .refl s⟩
  | cons item rest ih =>
    unfold Store.meetPairs
    split
    · refine (hs.meet _).bind fun t ht => (ht.1.meet _).bind fun u hu => ?_
      refine (ih hu.1).bind fun met hmet => .ok ?_
      exact ⟨hmet.1, (ht.2.trans hu.2).trans hmet.2⟩
    · exact .error _

theorem meetItems (items : List Nat) :
    Yields s.Tidily (items.foldlM (fun s item => s.meet item) s) := by
  induction items generalizing s with
  | nil => exact .ok ⟨hs, .refl s⟩
  | cons item rest ih =>
    rw [List.foldlM_cons]
    refine (hs.meet item).bind fun t ht u hu => ?_
    obtain ⟨htidy, hle⟩ := ih ht.1 u hu
    exact ⟨htidy, ht.2.trans hle⟩

/-- A node that waits may be filled: with anything that is no scalar, if tables have distinct
keys. -/
theorem putWaiting {n : Nat} (hn : n ∈ s.queue) (object : Object)
    (hleaf : ∀ value isWord, object ≠ .leaf value isWord)
    (htable : ∀ entries, object = .table entries → s.Separates entries) :
    s.Tidily (s.put n object) :=
  hs.put (hs.not_leaf_of_mem_queue hn) (fun _ _ => hleaf) htable

theorem fill (fuel : Nat) {n : Nat} (hn : n ∈ s.queue) : Yields s.Tidily (s.fill fuel n) := by
  unfold Store.fill
  split
  · refine (hs.meetItems _).bind fun t ht => .ok ?_
    obtain ⟨hput, hle⟩ := ht.1.putWaiting (ht.2.queue n hn) (.list _) nofun nofun
    exact ⟨hput, ht.2.trans hle⟩
  · refine (hs.meetPairs _).bind fun met hmet => .ok ?_
    obtain ⟨hput, hle⟩ := hmet.1.putWaiting (hmet.2.queue n hn) (.pairs _) nofun nofun
    exact ⟨hput, hmet.2.trans hle⟩
  · refine (hs.meetPairs _).bind fun met hmet => .ok ?_
    obtain ⟨hput, hle⟩ := hmet.1.putWaiting (hmet.2.queue n hn) (.pairs _) nofun nofun
    exact ⟨hput, hmet.2.trans hle⟩
  · refine .skip fun graph => ?_
    have hgraph : s.Tidily { s with graph } := hs.withGraph graph
    refine (hgraph.1.meetEntries (.nil _) _).bind fun met hmet => .ok ?_
    obtain ⟨⟨htidy, hle⟩, hseparates⟩ := hmet
    have htable : ∀ entries, Object.table met.2 = .table entries → met.1.Separates entries := by
      intro entries hentries
      cases hentries
      exact hseparates
    obtain ⟨hput, hle'⟩ := htidy.putWaiting (hle.queue n hn) (.table met.2) nofun htable
    exact ⟨hput, (hgraph.2.trans hle).trans hle'⟩
  · refine .skip fun graph => ?_
    have hgraph : s.Tidily { s with graph } := hs.withGraph graph
    refine (hgraph.1.meetEntries (.nil _) _).bind fun met hmet => .ok ?_
    obtain ⟨⟨htidy, hle⟩, -⟩ := hmet
    obtain ⟨hput, hle'⟩ := htidy.putWaiting (hle.queue n hn) (.set _) nofun nofun
    exact ⟨hput, (hgraph.2.trans hle).trans hle'⟩
  · exact .error _

theorem fillFrom (fuel place left : Nat) : Yields IsTidy (s.fillFrom fuel place left) := by
  induction left generalizing s place with
  | zero => exact .ok hs
  | succ left ih =>
    unfold Store.fillFrom
    split
    · exact .ok hs
    · rename_i n hn
      exact (hs.fill fuel (Array.mem_of_getElem? hn)).bind fun t ht => ih ht.1 _

end IsTidy

theorem isTidy_ofGraph (g : Graph) (root : Nat) : Yields IsTidy (ofGraph g root) := by
  have hstart : IsTidy { graph := g, objects := Array.replicate g.size none } := by
    refine ⟨nofun, fun n entries h => ?_⟩
    unfold object? at h
    rw [Array.getElem?_replicate] at h
    split_ifs at h <;> cases h
  unfold ofGraph
  exact (hstart.meet root).bind fun s hs => hs.1.fillFrom _ _ _

theorem keys_of_mapM {s : Store} {item : Nat → Except Fault Value} {entries : List (Nat × Nat)}
    {results : List (Value × Value)}
    (h : (entries.mapM fun (key, part) => do return (s.leafValue key, ← item part)) =
      .ok results) : results.map Prod.fst = entries.map fun entry => s.leafValue entry.1 := by
  induction entries generalizing results with
  | nil =>
    cases h
    rfl
  | cons entry rest ih =>
    rw [List.mapM_cons] at h
    obtain ⟨first, hfirst, h⟩ := bind_eq_ok.mp h
    obtain ⟨value, -, hvalue⟩ := bind_eq_ok.mp hfirst
    obtain ⟨more, hmore, h⟩ := bind_eq_ok.mp h
    cases hvalue
    cases h
    rw [List.map_cons, List.map_cons, ih hmore]

/-- The keys of a mapping that is an object are its names. -/
theorem keys_of_mappingValue {entries : List (Value × Value)} {fields : List (String × Value)}
    (h : mappingValue entries = .object fields) :
    entries.map Prod.fst = (Entries.keys fields).map Value.str := by
  unfold mappingValue at h
  split at h
  · rename_i found hfound
    cases h
    induction entries generalizing fields with
    | nil =>
      cases hfound
      rfl
    | cons entry rest ih =>
      obtain ⟨key, value⟩ := entry
      rw [List.mapM_cons] at hfound
      obtain ⟨field, hfield, hfound⟩ := Option.bind_eq_some_iff.mp hfound
      obtain ⟨more, hmore, hfound⟩ := Option.bind_eq_some_iff.mp hfound
      obtain ⟨name, hname, rfl⟩ := Option.map_eq_some_iff.mp hfield
      cases hfound
      have hkey : key = .str name := by
        cases key with
        | str text => exact congrArg Value.str (Option.some.inj hname)
        | _ => cases hname
      rw [List.map_cons, ih hmore, hkey]
      rfl
  · cases h

/-- Keys that are told apart have different texts. -/
theorem Separates.nodup_names {s : Store} {entries : List (Nat × Nat)} (h : s.Separates entries)
    {names : List String}
    (hnames : entries.map (fun entry => s.leafValue entry.1) = names.map Value.str) :
    names.Nodup := by
  have hapart : entries.Pairwise fun earlier later =>
      ∀ name, s.leafValue earlier.1 = .str name → s.leafValue later.1 ≠ .str name := by
    refine h.apart.imp_of_mem fun {earlier later} hearlier hlater happart name hname hsame => ?_
    obtain ⟨value, isWord, hobject⟩ := exists_leaf_of_isKey (h.isKey earlier hearlier)
    obtain ⟨other, isOtherWord, hother⟩ := exists_leaf_of_isKey (h.isKey later hlater)
    unfold leafValue at hname hsame
    rw [hobject] at hname
    rw [hother] at hsame
    dsimp only at hname hsame
    unfold Store.sameKey at happart
    rw [hobject, hother, hname, hsame] at happart
    simp [Value.sameKey] at happart
  have hvalues : (names.map Value.str).Pairwise fun earlier later =>
      ∀ name, earlier = .str name → later ≠ .str name :=
    hnames ▸ List.pairwise_map.mpr hapart
  refine (List.pairwise_map.mp hvalues).imp fun {earlier later} hdiffer hsame => ?_
  exact hdiffer earlier rfl (congrArg Value.str hsame.symm)

/-- The value of a node is no object, unless the node stands for a table: then it is the mapping of
entries whose keys are told apart. -/
theorem eq_mappingValue_of_isObject {s : Store} (hs : s.IsTidy) (hatoms : s.HoldsAtoms)
    (fuel n : Nat) (outer : List Nat) :
    Yields (fun value => value.isObject = true → ∃ known results, s.Separates known ∧
        results.map Prod.fst = known.map (fun entry => s.leafValue entry.1) ∧
          value = mappingValue results)
      (s.value .settings fuel false outer n) := by
  have hleaf : ∀ {value : Value} {isWord : Bool}, s.object? n = some (.leaf value isWord) →
      value.isObject = false := by
    intro value isWord hfound
    have hscalar := hatoms _ _ _ hfound
    cases value with
    | object fields | mapping entries => cases hscalar
    | _ => rfl
  cases fuel with
  | zero =>
    unfold value
    split
    · rename_i hfound
      refine .ok fun hobject => ?_
      rw [hleaf hfound] at hobject
      cases hobject
    · exact .ok nofun
    · exact .ok nofun
    · exact .ok nofun
    · contradiction
  | succ fuel =>
    unfold value
    split
    · rename_i hfound
      refine .ok fun hobject => ?_
      rw [hleaf hfound] at hobject
      cases hobject
    · exact .ok nofun
    · contradiction
    · exact .ok nofun
    · rename_i object hnot hset hfuel hobject
      cases hfuel
      extract_lets isInside part jump
      have hjump : Yields (fun value => value.isObject = true → ∃ known results,
          s.Separates known ∧
            results.map Prod.fst = known.map (fun entry => s.leafValue entry.1) ∧
              value = mappingValue results) (jump ()) := by
        unfold jump
        cases object with
        | list items => exact .skip fun values => .ok nofun
        | pairs entries => exact .skip fun values => .ok nofun
        | table entries =>
          intro value hvalue _
          dsimp only at hvalue
          rw [if_neg Bool.false_ne_true] at hvalue
          obtain ⟨results, hresults, hvalue⟩ := bind_eq_ok.mp hvalue
          have hseparates : s.Separates (if isInside then [] else entries) := by
            split
            · exact .nil s
            · exact hs.tables n entries hobject
          exact ⟨_, results, hseparates, keys_of_mapM hresults, (Except.ok.inj hvalue).symm⟩
        | leaf value isWord => exact absurd rfl (hnot value isWord)
        | set keys => exact .ok nofun
      split
      · exact .error _
      · exact hjump

end Store

/-- An object among the settings of a text is the mapping of entries whose keys are told apart. -/
theorem exists_mappingValue_of_load {text : String} {value : Value}
    (h : load .settings text = .ok value) (hobject : value.isObject = true) :
    ∃ (s : Store) (known : List (Nat × Nat)) (results : List (Value × Value)),
      s.Separates known ∧ results.map Prod.fst = known.map (fun entry => s.leafValue entry.1) ∧
        value = mappingValue results := by
  unfold load at h
  obtain ⟨found, -, h⟩ := bind_eq_ok.mp h
  cases found with
  | none =>
    cases h
    cases hobject
  | some found =>
    obtain ⟨root, g⟩ := found
    obtain ⟨s, hs, h⟩ := bind_eq_ok.mp h
    have htidy : s.IsTidy := Store.isTidy_ofGraph g root s hs
    have hatoms : s.HoldsAtoms := Store.yields_ofGraph g root s hs
    exact ⟨s, Store.eq_mappingValue_of_isObject htidy hatoms _ root [] _ h hobject⟩

/-- **No name is twice among the settings of a text.** -/
theorem nodup_keys_of_load {text : String} {fields : List (String × Value)}
    (h : load .settings text = .ok (.object fields)) : (Entries.keys fields).Nodup := by
  obtain ⟨s, known, results, hknown, hkeys, hvalue⟩ := exists_mappingValue_of_load h rfl
  exact hknown.nodup_names (hkeys.symm.trans (Store.keys_of_mappingValue hvalue.symm))

/-- A mapping that is no object has a key that is no text. -/
theorem exists_key_of_load {text : String} {entries : List (Value × Value)}
    (h : load .settings text = .ok (.mapping entries)) :
    ∃ entry ∈ entries, entry.1.str? = none := by
  obtain ⟨s, known, results, -, -, hvalue⟩ := exists_mappingValue_of_load h rfl
  unfold mappingValue at hvalue
  split at hvalue
  · cases hvalue
  · rename_i hnone
    cases hvalue
    obtain ⟨entry, hentry, hname⟩ := mapM_eq_none_iff.mp hnone
    exact ⟨entry, hentry, Option.map_eq_none_iff.mp hname⟩

end ClientGen.Yaml
