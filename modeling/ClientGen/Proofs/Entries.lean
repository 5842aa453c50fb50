import ClientGen.Value
import Mathlib.Data.List.Basic

/-!
# Reading ordered fields after an overlay

`Entries.overlay above below` reads like `above` where `above` has the name and like `below`
elsewhere (`get?_overlay`), has the names of both (`mem_keys_overlay`), and holds no entry that is
in neither (`mem_overlay`).  Only `above` has to have distinct names.  An overlay commutes with leaving
out the entries of names that `above` does not have (`filter_overlay`), and it puts entries with
names of their own at the end (`overlay_of_nodup`).
-/

namespace ClientGen.Entries

variable {α : Type}

/-! ### Names -/

theorem get?_cons (name key : String) (value : α) (rest : List (String × α)) :
    get? name ((key, value) :: rest) = if key = name then some value else get? name rest := rfl

@[simp] theorem keys_nil : keys ([] : List (String × α)) = [] := rfl

@[simp] theorem keys_cons (entry : String × α) (rest : List (String × α)) :
    keys (entry :: rest) = entry.1 :: keys rest := rfl

/-- Nothing is read under a name exactly when it is not among the names. -/
theorem get?_eq_none_iff (name : String) (entries : List (String × α)) :
    get? name entries = none ↔ name ∉ keys entries := by
  induction entries with
  | nil => simp
  | cons entry rest ih =>
    obtain ⟨key, value⟩ := entry
    rw [get?_cons, keys_cons, List.mem_cons, not_or, ← ih]
    by_cases h : key = name
    · simp [h]
    · simp [h, Ne.symm h]

theorem mem_keys_of_get? {name : String} {value : α} {entries : List (String × α)}
    (h : get? name entries = some value) : name ∈ keys entries := by
  by_contra hmem
  rw [(get?_eq_none_iff name entries).mpr hmem] at h
  cases h

theorem mem_keys_of_mem {entry : String × α} {entries : List (String × α)} (h : entry ∈ entries) :
    entry.1 ∈ keys entries :=
  List.mem_map_of_mem h

/-- Under a name that is there once stands the value that has it. -/
theorem get?_of_mem {entry : String × α} {entries : List (String × α)}
    (hnodup : (keys entries).Nodup) (h : entry ∈ entries) : get? entry.1 entries = some entry.2 := by
  induction entries with
  | nil => cases h
  | cons first rest ih =>
    obtain ⟨key, value⟩ := first
    rw [keys_cons, List.nodup_cons] at hnodup
    rw [get?_cons]
    rcases List.mem_cons.mp h with rfl | hrest
    · exact if_pos rfl
    · have hmem : entry.1 ∈ keys rest := mem_keys_of_mem hrest
      have hother : key ≠ entry.1 := by
        rintro rfl
        exact hnodup.1 hmem
      rw [if_neg hother]
      exact ih hnodup.2 hrest

theorem get?_append (name : String) (entries more : List (String × α)) :
    get? name (entries ++ more) = (get? name entries).or (get? name more) := by
  induction entries with
  | nil => rfl
  | cons entry rest ih =>
    obtain ⟨key, value⟩ := entry
    rw [List.cons_append, get?_cons, get?_cons, ih]
    by_cases h : key = name
    · rw [if_pos h, if_pos h]
      rfl
    · rw [if_neg h, if_neg h]

/-- What is stored under those of some names that have a value. -/
theorem get?_filterMap (name : String) (names : List String) (value? : String → Option α) :
    get? name (names.filterMap fun n => (value? n).map fun value => (n, value)) =
      if name ∈ names then value? name else none := by
  induction names with
  | nil => rfl
  | cons first rest ih =>
    by_cases hfirst : first = name
    · subst hfirst
      cases hvalue : value? first with
      | none => simp [hvalue, ih]
      | some value => simp [hvalue, get?_cons]
    · cases hvalue : value? first with
      | none => simp [hvalue, ih, Ne.symm hfirst]
      | some value => simp [hvalue, get?_cons, hfirst, ih, Ne.symm hfirst]

/-! ### Storing one entry -/

theorem put_cons (name : String) (value : α) (entry : String × α) (rest : List (String × α)) :
    put name value (entry :: rest) =
      if entry.1 = name then (entry.1, value) :: rest else entry :: put name value rest := rfl

/-- A new name comes at the end. -/
theorem put_of_notMem {name : String} {value : α} {entries : List (String × α)}
    (h : name ∉ keys entries) : put name value entries = entries ++ [(name, value)] := by
  induction entries with
  | nil => rfl
  | cons entry rest ih =>
    rw [keys_cons, List.mem_cons, not_or] at h
    rw [put_cons, if_neg (Ne.symm h.1), ih h.2]
    rfl

/-- Storing an entry adds its name and no other. -/
theorem mem_keys_put (n name : String) (value : α) (entries : List (String × α)) :
    n ∈ keys (put name value entries) ↔ n = name ∨ n ∈ keys entries := by
  induction entries with
  | nil => simp [put]
  | cons entry rest ih =>
    rw [put_cons]
    by_cases h : entry.1 = name
    · rw [if_pos h, h]
      simp only [keys_cons, List.mem_cons, h]
      tauto
    · rw [if_neg h]
      simp only [keys_cons, List.mem_cons, ih]
      tauto

theorem nodup_keys_put (name : String) (value : α) {entries : List (String × α)}
    (h : (keys entries).Nodup) : (keys (put name value entries)).Nodup := by
  induction entries with
  | nil => exact List.nodup_cons.mpr ⟨List.not_mem_nil, List.nodup_nil⟩
  | cons entry rest ih =>
    rw [keys_cons, List.nodup_cons] at h
    rw [put_cons]
    by_cases hk : entry.1 = name
    · rw [if_pos hk, keys_cons]
      exact List.nodup_cons.mpr h
    · rw [if_neg hk, keys_cons, List.nodup_cons, mem_keys_put, not_or]
      exact ⟨⟨hk, h.1⟩, ih h.2⟩

/-- What is stored afterwards was stored before, or is the new entry. -/
theorem mem_put {e : String × α} {name : String} {value : α} {entries : List (String × α)}
    (h : e ∈ put name value entries) : e = (name, value) ∨ e ∈ entries := by
  induction entries with
  | nil => exact Or.inl (List.mem_singleton.mp h)
  | cons entry rest ih =>
    rw [put_cons] at h
    by_cases hk : entry.1 = name
    · rw [if_pos hk, List.mem_cons, hk] at h
      exact h.imp_right (List.mem_cons_of_mem _)
    · rw [if_neg hk, List.mem_cons] at h
      rcases h with rfl | h
      · exact Or.inr List.mem_cons_self
      · exact (ih h).imp_right (List.mem_cons_of_mem _)

/-- Entries of other names are left out before or after an entry is stored. -/
theorem filter_put (keep : String → Bool) (name : String) (value : α) (hname : keep name = true)
    (entries : List (String × α)) :
    (put name value entries).filter (fun e => keep e.1) =
      put name value (entries.filter fun e => keep e.1) := by
  induction entries with
  | nil => simp [put, hname]
  | cons entry rest ih =>
    obtain ⟨key, old⟩ := entry
    rw [put_cons, List.filter_cons]
    by_cases hk : key = name
    · subst hk
      rw [if_pos rfl, List.filter_cons, if_pos hname, if_pos hname, put_cons, if_pos rfl]
    · rw [if_neg hk, List.filter_cons, ih]
      by_cases hkey : keep key = true
      · rw [if_pos hkey, if_pos hkey, put_cons, if_neg hk]
      · rw [if_neg hkey, if_neg hkey]

/-! ### Overlays -/

@[simp] theorem overlay_nil (below : List (String × α)) : overlay [] below = below := rfl

theorem overlay_cons (entry : String × α) (above below : List (String × α)) :
    overlay (entry :: above) below = overlay above (put entry.1 entry.2 below) := rfl

/-- An overlay reads like its upper part where that has the name, and like its lower part
elsewhere. -/
theorem get?_overlay (name : String) {above : List (String × α)} (h : (keys above).Nodup)
    (below : List (String × α)) :
    get? name (overlay above below) = (get? name above).or (get? name below) := by
  induction above generalizing below with
  | nil => simp
  | cons entry rest ih =>
    obtain ⟨key, value⟩ := entry
    rw [keys_cons, List.nodup_cons] at h
    rw [overlay_cons, ih h.2, get?_cons]
    by_cases hk : key = name
    · subst hk
      rw [if_pos rfl, (get?_eq_none_iff key rest).mpr h.1, get?_put_self]
      rfl
    · rw [if_neg hk, get?_put_of_ne (Ne.symm hk)]

/-- Under a name that its upper part does not have an overlay reads like its lower part. -/
theorem get?_overlay_of_notMem {name : String} {above : List (String × α)}
    (h : name ∉ keys above) (below : List (String × α)) :
    get? name (overlay above below) = get? name below := by
  induction above generalizing below with
  | nil => rfl
  | cons entry rest ih =>
    rw [keys_cons, List.mem_cons, not_or] at h
    rw [overlay_cons, ih h.2, get?_put_of_ne h.1]

/-- An overlay has the names of both parts. -/
theorem mem_keys_overlay (name : String) (above below : List (String × α)) :
    name ∈ keys (overlay above below) ↔ name ∈ keys above ∨ name ∈ keys below := by
  induction above generalizing below with
  | nil => simp
  | cons entry rest ih =>
    rw [overlay_cons, ih, mem_keys_put, keys_cons, List.mem_cons]
    tauto

/-- Whatever is laid on top, names stay distinct. -/
theorem nodup_keys_overlay (above : List (String × α)) {below : List (String × α)}
    (h : (keys below).Nodup) : (keys (overlay above below)).Nodup := by
  induction above generalizing below with
  | nil => exact h
  | cons entry rest ih => exact ih (nodup_keys_put entry.1 entry.2 h)

/-- Every entry of an overlay comes from one of its parts. -/
theorem mem_overlay {e : String × α} {above below : List (String × α)}
    (h : e ∈ overlay above below) : e ∈ above ∨ e ∈ below := by
  induction above generalizing below with
  | nil => exact Or.inr h
  | cons entry rest ih =>
    rcases ih h with hrest | hput
    · exact Or.inl (List.mem_cons_of_mem _ hrest)
    · rcases mem_put hput with rfl | hbelow
      · exact Or.inl List.mem_cons_self
      · exact Or.inr hbelow

/-- Entries whose names the upper part does not have are left out before or after the overlay. -/
theorem filter_overlay (keep : String → Bool) {above : List (String × α)}
    (h : ∀ name ∈ keys above, keep name = true) (below : List (String × α)) :
    (overlay above below).filter (fun e => keep e.1) =
      overlay above (below.filter fun e => keep e.1) := by
  induction above generalizing below with
  | nil => rfl
  | cons entry rest ih =>
    have hentry : keep entry.1 = true := h entry.1 List.mem_cons_self
    have hrest : ∀ name ∈ keys rest, keep name = true :=
      fun name hname => h name (List.mem_cons_of_mem _ hname)
    rw [overlay_cons, overlay_cons, ih hrest, filter_put keep entry.1 entry.2 hentry]

/-- Entries with names of their own come after those below. -/
theorem overlay_of_nodup {above below : List (String × α)} (h : (keys (below ++ above)).Nodup) :
    overlay above below = below ++ above := by
  induction above generalizing below with
  | nil => exact (List.append_nil below).symm
  | cons entry rest ih =>
    have hmoved : below ++ entry :: rest = (below ++ [entry]) ++ rest := by simp
    have hnone : entry.1 ∉ keys below := by
      intro hmem
      rw [keys, List.map_append, List.nodup_append] at h
      exact h.2.2 entry.1 hmem entry.1 List.mem_cons_self rfl
    rw [overlay_cons, put_of_notMem hnone, hmoved]
    exact ih (hmoved ▸ h)

/-- Pairs with names of their own are entries already. -/
theorem ofList_eq_self {pairs : List (String × α)} (h : (keys pairs).Nodup) :
    ofList pairs = pairs :=
  overlay_of_nodup h

end ClientGen.Entries
