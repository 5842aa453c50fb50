import ClientGen.PathTemplate
import ClientGen.Proofs.Json.Writer

/-!
# Templates and their routes

A path is read by looking for the first placeholder, then for the next one behind it, and so on.
That loses nothing: the pieces put together are the path (`flatMap_text_piecesFrom`).  A template is
a slash and then characters other than braces and placeholders within a segment (`IsMatched`), and
it can be split into such parts in one way only, which the reading finds (`piecesFrom_flatMap_text`).
So what is accepted as a template and what is made of it agree on the placeholders
(`agreesOnTemplates`), although they look for them in different ways: the acceptance asks for names
without slashes and the search does not.
-/

namespace ClientGen.PathTemplate

/-- A piece as a template has it. -/
def Piece.text : Piece → List Char
  | char c => [c]
  | placeholder name => '{' :: (name ++ ['}'])

/-- A piece of a template: a character other than braces, or a name in braces that is not empty and
has neither braces nor slashes. -/
def Piece.InTemplate : Piece → Prop
  | char c => isBrace c = false
  | placeholder name => name ≠ [] ∧ ∀ c ∈ name, isBrace c = false ∧ c ≠ '/'

/-- A template: a slash and then pieces of templates.  A line feed at the end is allowed behind it,
which makes no difference since it is a piece itself. -/
def IsMatched (path : String) : Prop :=
  ∃ body : List Piece, (∀ piece ∈ body, piece.InTemplate) ∧
    (path.toList = '/' :: body.flatMap Piece.text ∨
      path.toList = '/' :: body.flatMap Piece.text ++ ['\n'])

/-- A way to split a path into pieces of templates. -/
structure IsSplit (path : String) (split : List Piece) : Prop where
  text : path.toList = split.flatMap Piece.text
  inTemplate : ∀ piece ∈ split, piece.InTemplate

/-! ### Placeholders -/

section Placeholders

variable {name rest : List Char}

/-- A name with a closing brace behind it is found. -/
theorem placeholder?_append (hne : name ≠ []) (hname : ∀ c ∈ name, isBrace c = false) :
    placeholder? (name ++ '}' :: rest) = some name := by
  have hstops : Stops (fun c => !isBrace c) ('}' :: rest) := stops_cons rfl
  have hrun : (name ++ '}' :: rest).takeWhile (fun c => !isBrace c) = name := by
    rw [takeWhile_append_of_stops hstops, List.takeWhile_eq_self_iff]
    intro c hc
    rw [hname c hc]
    rfl
  have hnonempty : name.isEmpty = false := by simpa using hne
  unfold placeholder?
  rw [hrun]
  simp [hnonempty]

/-- A name that is found stands in front of a closing brace. -/
theorem eq_of_placeholder? {cs : List Char} (h : placeholder? cs = some name) :
    (∃ rest, cs = name ++ '}' :: rest) ∧ name ≠ [] ∧ ∀ c ∈ name, isBrace c = false := by
  unfold placeholder? at h
  dsimp only at h
  split at h
  · rename_i hfound
    rw [Option.some.injEq] at h
    rw [h, Bool.and_eq_true, beq_iff_eq] at hfound
    obtain ⟨hne, hclosing⟩ := hfound
    obtain ⟨after, hafter⟩ := List.takeWhile_prefix (l := cs) fun c => !isBrace c
    rw [h] at hafter
    refine ⟨?_, by simpa using hne, fun c hc => ?_⟩
    · rw [← hafter, List.drop_left] at hclosing
      obtain ⟨rest, hrest⟩ := List.head?_eq_some_iff.mp hclosing
      exact ⟨rest, by rw [← hafter, hrest]⟩
    · rw [← h] at hc
      simpa using List.mem_takeWhile_imp hc
  · cases h

end Placeholders

/-! ### Pieces -/

theorem piecesFrom_zero_cons (c : Char) (rest : List Char) :
    piecesFrom 0 (c :: rest) =
      if c = '{' then
        match placeholder? rest with
        | some name => .placeholder name :: piecesFrom (name.length + 1) rest
        | none => .char c :: piecesFrom 0 rest
      else .char c :: piecesFrom 0 rest := rfl

/-- What belongs to a placeholder is passed over. -/
theorem piecesFrom_length (lead rest : List Char) :
    piecesFrom lead.length (lead ++ rest) = piecesFrom 0 rest := by
  induction lead with
  | nil => rfl
  | cons c lead ih => exact ih

/-- The pieces of what is left are the characters that are left. -/
theorem flatMap_text_piecesFrom (skip : Nat) (cs : List Char) :
    (piecesFrom skip cs).flatMap Piece.text = cs.drop skip := by
  induction cs generalizing skip with
  | nil => simp [piecesFrom]
  | cons c rest ih =>
    cases skip with
    | succ skip => exact ih skip
    | zero =>
      have hchar : (Piece.char c :: piecesFrom 0 rest).flatMap Piece.text = c :: rest := by
        rw [List.flatMap_cons, ih 0]
        rfl
      rw [piecesFrom_zero_cons, List.drop_zero]
      split
      · rename_i hopening
        cases hfound : placeholder? rest with
        | none => exact hchar
        | some name =>
          obtain ⟨⟨after, rfl⟩, -, -⟩ := eq_of_placeholder? hfound
          dsimp only
          rw [List.flatMap_cons, ih, List.drop_append, List.drop_eq_nil_of_le (by omega), hopening]
          simp [Piece.text]
      · exact hchar

/-- Placeholders have names without braces. -/
theorem isNamed_of_mem_piecesFrom {skip : Nat} {cs name : List Char}
    (h : Piece.placeholder name ∈ piecesFrom skip cs) :
    name ≠ [] ∧ ∀ c ∈ name, isBrace c = false := by
  induction cs generalizing skip with
  | nil => cases h
  | cons c rest ih =>
    cases skip with
    | succ skip => exact ih h
    | zero =>
      have hchar : Piece.placeholder name ∈ Piece.char c :: piecesFrom 0 rest →
          name ≠ [] ∧ ∀ c ∈ name, isBrace c = false := by
        intro hmem
        rcases List.mem_cons.mp hmem with heq | hlater
        · cases heq
        · exact ih hlater
      rw [piecesFrom_zero_cons] at h
      split at h
      · cases hfound : placeholder? rest with
        | none =>
          rw [hfound] at h
          exact hchar h
        | some other =>
          rw [hfound] at h
          rcases List.mem_cons.mp h with heq | hlater
          · cases heq
            exact (eq_of_placeholder? hfound).2
          · exact ih hlater
      · exact hchar h

/-- **Pieces of a template are read back.** -/
theorem piecesFrom_flatMap_text {split : List Piece} (h : ∀ piece ∈ split, piece.InTemplate) :
    piecesFrom 0 (split.flatMap Piece.text) = split := by
  induction split with
  | nil => rfl
  | cons piece rest ih =>
    obtain ⟨hpiece, hrest⟩ := List.forall_mem_cons.mp h
    rw [List.flatMap_cons]
    cases piece with
    | char c =>
      have hne : c ≠ '{' := by
        rintro rfl
        cases hpiece
      have hstep : piecesFrom 0 (c :: rest.flatMap Piece.text) =
          .char c :: piecesFrom 0 (rest.flatMap Piece.text) := by
        rw [piecesFrom_zero_cons, if_neg hne]
      exact hstep.trans (congrArg _ (ih hrest))
    | placeholder name =>
      obtain ⟨hne, hname⟩ := hpiece
      have hfound : placeholder? (name ++ '}' :: rest.flatMap Piece.text) = some name :=
        placeholder?_append hne fun c hc => (hname c hc).1
      have hskip : piecesFrom (name.length + 1) (name ++ '}' :: rest.flatMap Piece.text) =
          piecesFrom 0 (rest.flatMap Piece.text) := by
        have hskip := piecesFrom_length (name ++ ['}']) (rest.flatMap Piece.text)
        rwa [List.length_append, List.length_singleton, List.append_assoc,
          List.singleton_append] at hskip
      have htext : Piece.text (.placeholder name) ++ rest.flatMap Piece.text =
          '{' :: (name ++ '}' :: rest.flatMap Piece.text) := by
        simp [Piece.text]
      rw [htext, piecesFrom_zero_cons, if_pos rfl, hfound]
      dsimp only
      rw [hskip, ih hrest]

/-! ### Templates -/

variable {path : String}

theorem flatMap_text_pieces (path : String) : (pieces path).flatMap Piece.text = path.toList :=
  flatMap_text_piecesFrom 0 path.toList

/-- A path can be split in one way at most, which is how it is read. -/
theorem IsSplit.eq_pieces {split : List Piece} (h : IsSplit path split) : split = pieces path := by
  rw [pieces, h.text, piecesFrom_flatMap_text h.inTemplate]

theorem inTemplate_iff_isProper {piece : Piece} (h : piece ∈ pieces path) :
    piece.InTemplate ↔ piece.isProper = true := by
  cases piece with
  | char c => simp [Piece.InTemplate, Piece.isProper]
  | placeholder name =>
    obtain ⟨hne, hname⟩ := isNamed_of_mem_piecesFrom h
    have hslash : Piece.isProper (.placeholder name) = true ↔ '/' ∉ name := by
      simp [Piece.isProper]
    rw [hslash]
    constructor
    · rintro ⟨-, hproper⟩ hmem
      exact (hproper '/' hmem).2 rfl
    · intro hnone
      refine ⟨hne, fun c hc => ⟨hname c hc, ?_⟩⟩
      rintro rfl
      exact hnone hc

/-- A path is accepted when it begins with a slash and can be split. -/
theorem isValid_iff : isValid path = true ↔
    path.toList.head? = some '/' ∧ ∀ piece ∈ pieces path, piece.InTemplate := by
  rw [isValid, Bool.and_eq_true, beq_iff_eq, List.all_eq_true]
  exact and_congr_right fun _ =>
    forall₂_congr fun piece hpiece => (inTemplate_iff_isProper hpiece).symm

theorem isSplit_of_isValid (h : isValid path = true) : IsSplit path (pieces path) :=
  ⟨(flatMap_text_pieces path).symm, (isValid_iff.mp h).2⟩

theorem isValid_of_isSplit {split : List Piece} (hsplit : IsSplit path split)
    (hhead : path.toList.head? = some '/') : isValid path = true :=
  isValid_iff.mpr ⟨hhead, hsplit.eq_pieces ▸ hsplit.inTemplate⟩

/-- **The paths that are accepted are the templates.** -/
theorem isValid_iff_isMatched : isValid path = true ↔ IsMatched path := by
  constructor
  · intro h
    have hsplit := isSplit_of_isValid h
    obtain ⟨rest, hrest⟩ := List.head?_eq_some_iff.mp (isValid_iff.mp h).1
    -- The slash in front is a piece of its own.
    have hpieces : pieces path = .char '/' :: piecesFrom 0 rest := by
      rw [pieces, hrest]
      rfl
    rw [hpieces] at hsplit
    refine ⟨piecesFrom 0 rest, (List.forall_mem_cons.mp hsplit.inTemplate).2, .inl ?_⟩
    exact hsplit.text
  · rintro ⟨body, hbody, htext | htext⟩
    · have hsplit : IsSplit path (.char '/' :: body) :=
        ⟨htext, List.forall_mem_cons.mpr ⟨rfl, hbody⟩⟩
      exact isValid_of_isSplit hsplit (by rw [htext]; rfl)
    · have hend : ∀ piece ∈ body ++ [.char '\n'], piece.InTemplate :=
        List.forall_mem_append.mpr ⟨hbody, List.forall_mem_singleton.mpr rfl⟩
      have hsplit : IsSplit path (.char '/' :: (body ++ [.char '\n'])) := by
        refine ⟨?_, List.forall_mem_cons.mpr ⟨rfl, hend⟩⟩
        rw [htext, List.flatMap_cons, List.flatMap_append]
        rfl
      exact isValid_of_isSplit hsplit (by rw [htext]; rfl)

/-! ### Routes -/

theorem toList_route (path : String) : (route path).toList = (pieces path).flatMap Piece.route :=
  String.toList_ofList

theorem isBrace_of_mem_route {piece : Piece} (h : piece.InTemplate) {c : Char}
    (hc : c ∈ piece.route) : isBrace c = false := by
  cases piece with
  | char d =>
    cases List.mem_singleton.mp hc
    exact h
  | placeholder name =>
    rcases List.mem_cons.mp hc with rfl | hname
    · rfl
    · exact (h.2 c hname).1

/-- A path without braces is its own route. -/
theorem route_eq_self (h : ∀ c ∈ path.toList, isBrace c = false) : route path = path := by
  have hsplit : IsSplit path (path.toList.map Piece.char) := by
    constructor
    · rw [List.flatMap_map]
      exact (List.flatMap_singleton' path.toList).symm
    · intro piece hpiece
      obtain ⟨c, hc, rfl⟩ := List.mem_map.mp hpiece
      exact h c hc
  rw [← String.toList_inj, toList_route, ← hsplit.eq_pieces, List.flatMap_map]
  exact List.flatMap_singleton' path.toList

/-- What is made of a template: it can be split in one way, the route is that split with a colon in
front of each name and no braces, and the parameters are the names. -/
structure IsRouted (path : String) : Prop where
  exists_split : ∃ split, IsSplit path split ∧ (∀ other, IsSplit path other → other = split) ∧
    (route path).toList = split.flatMap Piece.route ∧
    parameters path = split.filterMap Piece.name?
  isBrace_route : ∀ c ∈ (route path).toList, isBrace c = false
  route_route : route (route path) = route path

/-- **Routes agree with templates.** -/
theorem agreesOnTemplates (path : String) :
    (isValid path = true ↔ IsMatched path) ∧ (isValid path = true → IsRouted path) := by
  refine ⟨isValid_iff_isMatched, fun h => ?_⟩
  have hsplit := isSplit_of_isValid h
  have hbrace : ∀ c ∈ (route path).toList, isBrace c = false := by
    intro c hc
    rw [toList_route] at hc
    obtain ⟨piece, hpiece, hmem⟩ := List.mem_flatMap.mp hc
    exact isBrace_of_mem_route (hsplit.inTemplate piece hpiece) hmem
  exact
    { exists_split :=
        ⟨pieces path, hsplit, fun _ hother => hother.eq_pieces, toList_route path, rfl⟩
      isBrace_route := hbrace
      route_route := route_eq_self hbrace }

/-- Two placeholders side by side, a blank in a name, and a line feed at the end. -/
theorem agreesOnTemplates_sideBySide :
    isValid "/pets/\x7bid\x7d\x7btoy id\x7d\n" = true ∧
      IsRouted "/pets/\x7bid\x7d\x7btoy id\x7d\n" := by
  have hvalid : isValid "/pets/\x7bid\x7d\x7btoy id\x7d\n" = true := by decide
  exact ⟨hvalid, (agreesOnTemplates _).2 hvalid⟩

end ClientGen.PathTemplate
