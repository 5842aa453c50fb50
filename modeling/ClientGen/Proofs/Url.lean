import ClientGen.Proofs.Json.Writer
import ClientGen.Url

/-!
# URLs put together and split again

A `Url.Written` is a URL by what it is written with: a scheme, perhaps a user, a host, perhaps a
port, and the path, query and fragment as one text.  When the user, the host and the port have no
characters that end them (`Written.IsSound`), splitting finds the scheme and the host again,
whatever stands around them (`Written.IsSound.exists_split`).
-/

namespace ClientGen.Url

/-! ### Cutting -/

section Cut

variable {p : Char → Bool} {lead rest : List Char} {c : Char}

theorem cutAt_append (hlead : ∀ d ∈ lead, p d = false) (hc : p c = true) :
    cutAt p (lead ++ c :: rest) = some (lead, rest) := by
  induction lead with
  | nil => exact if_pos hc
  | cons d lead ih =>
    obtain ⟨hd, hlater⟩ := List.forall_mem_cons.mp hlead
    rw [List.cons_append, cutAt, hd, if_neg Bool.false_ne_true, ih hlater]
    rfl

theorem cutAt_eq_none (h : ∀ d ∈ lead, p d = false) : cutAt p lead = none := by
  induction lead with
  | nil => rfl
  | cons d lead ih =>
    obtain ⟨hd, hlater⟩ := List.forall_mem_cons.mp h
    rw [cutAt, hd, if_neg Bool.false_ne_true, ih hlater]
    rfl

theorem partition_append (hlead : c ∉ lead) : partition c (lead ++ c :: rest) = (lead, rest) := by
  unfold partition
  rw [cutAt_append fun d hd => beq_eq_false_iff_ne.mpr (ne_of_mem_of_not_mem hd hlead)]
  · rfl
  · exact beq_self_eq_true c

theorem partition_of_notMem (h : c ∉ lead) : partition c lead = (lead, []) := by
  unfold partition
  rw [cutAt_eq_none fun d hd => beq_eq_false_iff_ne.mpr (ne_of_mem_of_not_mem hd h)]
  rfl

theorem afterLast_of_notMem (h : c ∉ rest) : afterLast c rest = rest := by
  have hall : rest.reverse.takeWhile (· ≠ c) = rest.reverse := by
    rw [List.takeWhile_eq_self_iff]
    intro d hd
    exact decide_eq_true (ne_of_mem_of_not_mem (List.mem_reverse.mp hd) h)
  rw [afterLast, hall, List.reverse_reverse]

theorem afterLast_append (h : c ∉ rest) (lead : List Char) :
    afterLast c (lead ++ c :: rest) = rest := by
  have hstops : Stops (· ≠ c) (c :: lead.reverse) := stops_cons (decide_eq_false (by simp))
  have hall := congrArg List.reverse (afterLast_of_notMem h)
  rw [afterLast, List.reverse_reverse] at hall
  rw [afterLast, List.reverse_append, List.reverse_cons, List.append_assoc, List.singleton_append,
    takeWhile_append_of_stops hstops, hall, List.reverse_reverse]

end Cut

/-! ### Written URLs -/

/-- A character that an authority may have anywhere: none that ends it, is dropped, is a bracket or
stands for a character with a meaning. -/
def isPlain (c : Char) : Bool :=
  !endsAuthority c && !isIgnored c && c != '[' && c != ']' && !disguises.contains c.toNat

/-- What a URL is written with; `rest` is its path, query and fragment. -/
structure Written where
  scheme : List Char
  user : Option (List Char)
  host : List Char
  port : Option (List Char)
  rest : List Char

namespace Written

variable {w : Written}

/-- The host and the port. -/
def place (w : Written) : List Char :=
  w.host ++ match w.port with
    | none => []
    | some port => ':' :: port

/-- The user, the host and the port. -/
def authority (w : Written) : List Char :=
  match w.user with
  | none => w.place
  | some user => user ++ '@' :: w.place

/-- The characters of a URL. -/
def text (w : Written) : List Char :=
  w.scheme ++ ':' :: '/' :: '/' :: (w.authority ++ w.rest)

/-- The URL. -/
def url (w : Written) : String :=
  String.ofList w.text

/-- The parts of a URL have no characters that end them. -/
structure IsSound (w : Written) : Prop where
  /-- A scheme begins with a letter. -/
  letter : w.scheme.head?.any Char.isAlpha = true
  scheme : ∀ c ∈ w.scheme, isSchemeChar c = true
  user : ∀ user ∈ w.user, ∀ c ∈ user, isPlain c = true
  host : ∀ c ∈ w.host, isPlain c = true ∧ c ≠ '@' ∧ c ≠ ':'
  port : ∀ port ∈ w.port, ∀ c ∈ port, c.isDigit = true
  /-- What follows the authority begins with a character that ends it. -/
  rest : ∀ c ∈ w.rest.head?, endsAuthority c = true

/-! ### Characters -/

/-- In ASCII no character stands for another one. -/
theorem isPlain_iff_of_ascii {c : Char} (h : c.toNat < 0x80) :
    isPlain c = true ↔ endsAuthority c = false ∧ isIgnored c = false ∧ c ≠ '[' ∧ c ≠ ']' := by
  have hbound : ∀ n ∈ disguises, 0x80 ≤ n := by decide
  have hundisguised : disguises.contains c.toNat = false := by
    rw [List.contains_eq_mem, decide_eq_false_iff_not]
    intro hmem
    have hlarge := hbound c.toNat hmem
    omega
  simp only [isPlain, hundisguised, Bool.and_eq_true, Bool.not_eq_true', bne_iff_ne, ne_eq,
    Bool.not_false, and_true, and_assoc]

theorem eq_of_endsAuthority {c : Char} (h : endsAuthority c = true) :
    c = '/' ∨ c = '?' ∨ c = '#' := by
  simpa [endsAuthority, or_assoc] using h

theorem eq_of_isIgnored {c : Char} (h : isIgnored c = true) : c = '\t' ∨ c = '\r' ∨ c = '\n' := by
  simpa [isIgnored, or_assoc] using h

theorem isIgnored_of_endsAuthority {c : Char} (h : endsAuthority c = true) :
    isIgnored c = false := by
  rcases eq_of_endsAuthority h with rfl | rfl | rfl <;> rfl

theorem isIgnored_of_isSchemeChar {c : Char} (h : isSchemeChar c = true) : isIgnored c = false := by
  by_contra hignored
  rcases eq_of_isIgnored (eq_true_of_ne_false hignored) with rfl | rfl | rfl <;> cases h

theorem isPlain_of_isDigit {c : Char} (h : c.isDigit = true) : isPlain c = true := by
  have hbound : c.toNat ≤ 57 := (Char.isDigit_iff_toNat.mp h).2
  refine (isPlain_iff_of_ascii (by omega)).mpr ⟨?_, ?_, ?_, ?_⟩
  · by_contra hends
    rcases eq_of_endsAuthority (eq_true_of_ne_false hends) with rfl | rfl | rfl <;> cases h
  · by_contra hignored
    rcases eq_of_isIgnored (eq_true_of_ne_false hignored) with rfl | rfl | rfl <;> cases h
  · rintro rfl
    cases h
  · rintro rfl
    cases h

theorem mem_place_cases {c : Char} (h : c ∈ w.place) :
    c ∈ w.host ∨ c = ':' ∨ ∃ port ∈ w.port, c ∈ port := by
  rcases List.mem_append.mp h with hhost | hbehind
  · exact .inl hhost
  · cases hport : w.port with
    | none =>
      rw [hport] at hbehind
      cases hbehind
    | some port =>
      rw [hport] at hbehind
      rcases List.mem_cons.mp hbehind with hcolon | hdigit
      · exact .inr (.inl hcolon)
      · exact .inr (.inr ⟨port, rfl, hdigit⟩)

theorem mem_authority_of_mem_place {c : Char} (h : c ∈ w.place) : c ∈ w.authority := by
  unfold authority
  cases w.user with
  | none => exact h
  | some user => exact List.mem_append_right user (List.mem_cons_of_mem '@' h)

namespace IsSound

theorem isPlain_authority (h : w.IsSound) : ∀ c ∈ w.authority, isPlain c = true := by
  have hplace : ∀ c ∈ w.place, isPlain c = true := by
    intro c hc
    rcases mem_place_cases hc with hhost | rfl | ⟨port, hport, hdigit⟩
    · exact (h.host c hhost).1
    · decide
    · exact isPlain_of_isDigit (h.port port hport c hdigit)
  unfold authority
  cases huser : w.user with
  | none => exact hplace
  | some user =>
    exact List.forall_mem_append.mpr
      ⟨h.user user huser, List.forall_mem_cons.mpr ⟨by decide, hplace⟩⟩

theorem notMem_place (h : w.IsSound) : '@' ∉ w.place := by
  intro hmem
  rcases mem_place_cases hmem with hhost | hcolon | ⟨port, hport, hdigit⟩
  · exact (h.host '@' hhost).2.1 rfl
  · cases hcolon
  · cases h.port port hport '@' hdigit

/-- The host is found behind the last `@` and in front of the port. -/
theorem hostAndPort_authority (h : w.IsSound) :
    hostAndPort (afterLast '@' w.authority) = w.host := by
  have hplace : afterLast '@' w.authority = w.place := by
    unfold authority
    cases w.user with
    | none => exact afterLast_of_notMem h.notMem_place
    | some user => exact afterLast_append h.notMem_place user
  have hcolon : ':' ∉ w.host := fun hmem => (h.host ':' hmem).2.2 rfl
  have hbracket : cutAt (· == '[') w.place = none := by
    refine cutAt_eq_none fun c hc => beq_eq_false_iff_ne.mpr ?_
    rintro rfl
    cases h.isPlain_authority '[' (mem_authority_of_mem_place hc)
  rw [hplace, hostAndPort, hbracket]
  dsimp only
  unfold place
  cases w.port with
  | none => rw [List.append_nil, partition_of_notMem hcolon]
  | some port => rw [partition_append hcolon]

/-- Nothing is wrong with the authority. -/
theorem authorityFault?_authority (h : w.IsSound) : authorityFault? w.authority = none := by
  have hopening : w.authority.contains '[' = false := by
    rw [List.contains_eq_mem, decide_eq_false_iff_not]
    intro hmem
    cases h.isPlain_authority '[' hmem
  have hclosing : w.authority.contains ']' = false := by
    rw [List.contains_eq_mem, decide_eq_false_iff_not]
    intro hmem
    cases h.isPlain_authority ']' hmem
  have hundisguised : (w.authority.any fun c => disguises.contains c.toNat) = false := by
    rw [List.any_eq_false]
    intro c hc hdisguised
    have hplain := h.isPlain_authority c hc
    unfold isPlain at hplain
    rw [hdisguised, Bool.not_true, Bool.and_false] at hplain
    cases hplain
  rw [authorityFault?, hopening, hclosing, hundisguised]
  rfl

theorem splitScheme_append (h : w.IsSound) (rest : List Char) :
    splitScheme (w.scheme ++ ':' :: rest) = some (w.scheme.map Char.toLower, rest) := by
  have hcolon : ∀ c ∈ w.scheme, (c == ':') = false := by
    intro c hc
    rw [beq_eq_false_iff_ne]
    rintro rfl
    cases h.scheme ':' hc
  rw [splitScheme, cutAt_append hcolon (beq_self_eq_true ':')]
  dsimp only
  rw [h.letter, List.all_eq_true.mpr h.scheme]
  rfl

theorem splitAuthority_append (h : w.IsSound) {rest : List Char}
    (hrest : ∀ c ∈ rest.head?, endsAuthority c = true) :
    splitAuthority ('/' :: '/' :: (w.authority ++ rest)) = (w.authority, rest) := by
  have hinside : ∀ c ∈ w.authority, (!endsAuthority c) = true := by
    intro c hc
    have hplain := h.isPlain_authority c hc
    simp only [isPlain, Bool.and_eq_true] at hplain
    exact hplain.1.1.1.1
  have hstops : Stops (fun c => !endsAuthority c) rest := by
    intro c hc
    dsimp only
    rw [hrest c hc]
    rfl
  rw [splitAuthority, List.span_eq_takeWhile_dropWhile, takeWhile_append_of_stops hstops,
    dropWhile_append_of_stops hinside hstops, List.takeWhile_eq_self_iff.mpr hinside]

/-- What is dropped wherever it stands is only in the rest. -/
theorem filter_text (h : w.IsSound) :
    w.text.filter (fun c => !isIgnored c) =
      w.scheme ++ ':' :: '/' :: '/' :: (w.authority ++ w.rest.filter fun c => !isIgnored c) := by
  have hscheme : w.scheme.filter (fun c => !isIgnored c) = w.scheme := by
    rw [List.filter_eq_self]
    intro c hc
    rw [isIgnored_of_isSchemeChar (h.scheme c hc)]
    rfl
  have hauthority : w.authority.filter (fun c => !isIgnored c) = w.authority := by
    rw [List.filter_eq_self]
    intro c hc
    have hplain := h.isPlain_authority c hc
    simp only [isPlain, Bool.and_eq_true] at hplain
    exact hplain.1.1.1.2
  rw [text, List.filter_append, hscheme, List.filter_cons_of_pos (by decide),
    List.filter_cons_of_pos (by decide), List.filter_cons_of_pos (by decide),
    List.filter_append, hauthority]

theorem head?_filter_rest (h : w.IsSound) :
    ∀ c ∈ (w.rest.filter fun c => !isIgnored c).head?, endsAuthority c = true := by
  intro c hc
  cases hrest : w.rest with
  | nil =>
    rw [hrest] at hc
    cases hc
  | cons d more =>
    have hends : endsAuthority d = true := h.rest d (by rw [hrest]; rfl)
    rw [hrest, List.filter_cons_of_pos (by rw [isIgnored_of_endsAuthority hends]; rfl)] at hc
    cases hc
    exact hends

theorem split_url (h : w.IsSound) : split w.url =
    let (rest, fragment) := partition '#' (w.rest.filter fun c => !isIgnored c)
    let (path, query) := partition '?' rest
    .ok ⟨w.scheme.map Char.toLower, w.authority, path, query, fragment⟩ := by
  rw [split, url, String.toList_ofList, splitChars]
  dsimp only
  rw [h.filter_text, h.splitScheme_append, Option.getD_some]
  dsimp only
  rw [h.splitAuthority_append h.head?_filter_rest]
  dsimp only
  rw [h.authorityFault?_authority]

/-- **A URL is split into what it is written with**: the scheme in small letters, and an authority
with the host in it. -/
theorem exists_split (h : w.IsSound) :
    ∃ parts, split w.url = .ok parts ∧ parts.scheme = w.scheme.map Char.toLower ∧
      hostAndPort (afterLast '@' parts.authority) = w.host :=
  ⟨_, h.split_url, rfl, h.hostAndPort_authority⟩

end IsSound

end Written

end ClientGen.Url
