import ClientGen.Net.Gate
import ClientGen.Proofs.Net.Address
import ClientGen.Proofs.Url

/-!
# Private hosts at the gate

The gate reads hosts as addresses in their strict spelling only (`isPrivateHost_iff_of_loose?`).  So
of all spellings under which a resolver finds a blocked address, that one is refused, and every other
one counts as the name of a public host (`settlesPrivate`), whatever else stands in the URL.  No
blocked address is without such a spelling (`checkUrl_number`).
-/

namespace ClientGen.Net

/-! ### Hosts in loose spellings -/

section Loose

variable {cs : List Char} {n : Nat}

theorem mem_map_toLower_of_loose? (h : loose? cs = some n) :
    ∀ c ∈ cs.map Char.toLower, c ∈ looseChars ∧ c.toLower = c := by
  have hlower : ∀ d ∈ looseChars, d.toLower ∈ looseChars ∧ d.toLower.toLower = d.toLower := by
    simp [looseChars]
  intro c hc
  obtain ⟨d, hd, rfl⟩ := List.mem_map.mp hc
  exact hlower d (mem_looseChars_of_loose? h d hd)

/-- The name under which a loose spelling is compared. -/
theorem plainHost_of_loose? (h : loose? cs = some n) :
    plainHost (String.ofList (cs.map Char.toLower)) = String.ofList (cs.map Char.toLower) := by
  have hpoint : ∀ c ∈ looseChars, c.toLower = '.' → c = '.' := by simp [looseChars]
  have hlower : Text.lowerFrom [] (cs.map Char.toLower) = cs.map Char.toLower := by
    refine Text.lowerFrom_eq_self (fun c hc => ?_) []
    obtain ⟨hmem, hsmall⟩ := mem_map_toLower_of_loose? h c hc
    exact ⟨toNat_lt_of_mem_looseChars c hmem, hsmall⟩
  have hstops : Stops (· = '.') (cs.map Char.toLower).reverse := by
    intro c hc
    rw [List.head?_reverse, List.getLast?_map] at hc
    obtain ⟨d, hd, rfl⟩ := Option.map_eq_some_iff.mp hc
    refine decide_eq_false fun hsame => getLast?_ne_of_loose? h ?_
    rw [hd, hpoint d (mem_looseChars_of_loose? h d (List.mem_of_getLast? hd)) hsame]
  rw [plainHost, Text.lower, String.toList_ofList, hlower, Text.dropTrailing, String.toList_ofList,
    dropWhile_eq_self_of_stops hstops, List.reverse_reverse]

/-- A text that ends with another one has its characters. -/
theorem endsWith_eq_false {tail : String} {c : Char} (hc : c ∈ tail.toList) {name : List Char}
    (hname : c ∉ name) : Text.endsWith tail (String.ofList name) = false := by
  rw [Text.endsWith, String.toList_ofList, Bool.eq_false_iff]
  intro hsuffix
  exact hname ((List.isSuffixOf_iff_suffix.mp hsuffix).subset hc)

/-- **A loose spelling of a blocked address counts as private when it is the strict one**, and else
as the name of a public host. -/
theorem isPrivateHost_iff_of_loose? (h : loose? cs = some n) (hblocked : IsBlocked n) :
    isPrivateHost (String.ofList (cs.map Char.toLower)) = true ↔ cs = strict n := by
  have hnone : ∀ c ∉ looseChars, c ∉ cs.map Char.toLower := fun c hc hmem =>
    hc (mem_map_toLower_of_loose? h c hmem).1
  have hletter : 'l' ∉ cs.map Char.toLower := hnone 'l' (by decide)
  have hname : (String.ofList (cs.map Char.toLower) == "localhost") = false := by
    rw [beq_eq_false_iff_ne]
    intro heq
    rw [← String.toList_ofList (l := cs.map Char.toLower), heq] at hletter
    exact hletter (by decide)
  unfold isPrivateHost
  dsimp only
  rw [plainHost_of_loose? h, hname, endsWith_eq_false (c := 'l') (by decide) hletter,
    endsWith_eq_false (c := 'l') (by decide) hletter, Bool.false_or, Bool.false_or, Bool.false_or,
    read_ofList (hnone ':' (by decide)) (hnone '/' (by decide)), Option.any_map]
  constructor
  · intro hprivate
    -- Some address is read, so the spelling is the strict one of that address; read loosely it is
    -- the same address.
    obtain ⟨m, hm, -⟩ := (Option.any_eq_true _ _).mp hprivate
    obtain ⟨hbound, hstrict⟩ := short?_eq_some_iff.mp hm
    have hsame : cs = strict m := map_toLower_eq_strict_iff.mp hstrict
    rw [hsame, loose?_strict hbound] at h
    rw [hsame, Option.some.inj h]
  · rintro rfl
    rw [map_toLower_eq_strict_iff.mpr rfl, short?_eq_some_iff.mpr ⟨hblocked.lt, rfl⟩]
    exact (isPrivate_short_iff n).mpr hblocked

/-- The host of a URL in a loose spelling is that spelling in small letters. -/
theorem host_of_loose? (h : loose? cs = some n) {parts : Url.Parts}
    (hhost : Url.hostAndPort (Url.afterLast '@' parts.authority) = cs) :
    parts.host = String.ofList (cs.map Char.toLower) := by
  have hname : cs.takeWhile (· ≠ '%') = cs := by
    rw [List.takeWhile_eq_self_iff]
    intro c hc
    refine decide_eq_true ?_
    rintro rfl
    exact absurd (mem_looseChars_of_loose? h '%' hc) (by decide)
  have hlower : Text.lowerFrom [] cs = cs.map Char.toLower :=
    Text.lowerFrom_of_ascii
      (fun c hc => toNat_lt_of_mem_looseChars c (mem_looseChars_of_loose? h c hc)) []
  unfold Url.Parts.host
  rw [hhost]
  dsimp only
  rw [hname, List.drop_length, Text.lower, String.toList_ofList, hlower]
  exact String.append_empty

end Loose

/-! ### URLs that lead to private hosts -/

/-- What the gate says of a host that it does not take for private: the list of allowed domains
decides. -/
def publicVerdict (url host : String) (allowed : List String) : Except Failure String :=
  if isAllowedDomain host allowed then .ok host
  else .error ((Refusal.domain host allowed).failure url)

/-- The verdict on a URL of the web with some host. -/
theorem checkUrl_of_split {url : String} {parts : Url.Parts} (hsplit : Url.split url = .ok parts)
    (hweb : parts.scheme = "http".toList ∨ parts.scheme = "https".toList)
    (hhost : parts.host ≠ "") (allowed : List String) :
    checkUrl url allowed =
      if isPrivateHost parts.host then .error (Refusal.privateHost.failure url)
      else publicVerdict url parts.host allowed := by
  have hscheme : ¬(String.ofList parts.scheme ≠ "http" ∧ String.ofList parts.scheme ≠ "https") := by
    rintro ⟨hhttp, hhttps⟩
    rcases hweb with hweb | hweb
    · exact hhttp (by rw [hweb, String.ofList_toList])
    · exact hhttps (by rw [hweb, String.ofList_toList])
  have hnonempty : ¬parts.host.isEmpty = true := by
    rwa [String.isEmpty_iff]
  unfold checkUrl examine publicVerdict
  rw [hsplit]
  dsimp only
  rw [if_neg hscheme, if_neg hnonempty]
  cases isPrivateHost parts.host <;> cases isAllowedDomain parts.host allowed <;> rfl

/-- A URL of the web whose host is a spelling under which a resolver finds a blocked address. -/
structure LeadsInside (w : Url.Written) (n : Nat) : Prop where
  sound : w.IsSound
  web : w.scheme.map Char.toLower = "http".toList ∨ w.scheme.map Char.toLower = "https".toList
  spelled : loose? w.host = some n
  blocked : IsBlocked n

section Inside

variable {w : Url.Written} {n : Nat}

/-- The verdict on a URL that leads to a blocked address. -/
theorem checkUrl_of_leadsInside (h : LeadsInside w n) (allowed : List String) :
    checkUrl w.url allowed =
      if w.host = strict n then .error (Refusal.privateHost.failure w.url)
      else publicVerdict w.url (String.ofList (w.host.map Char.toLower)) allowed := by
  obtain ⟨parts, hsplit, hscheme, hhost⟩ := h.sound.exists_split
  have hname := host_of_loose? h.spelled hhost
  have hnonempty : parts.host ≠ "" := by
    intro hempty
    rw [hname, String.ofList_eq_empty_iff, List.map_eq_nil_iff] at hempty
    exact ne_nil_of_loose? h.spelled hempty
  have hprivate := isPrivateHost_iff_of_loose? h.spelled h.blocked
  rw [checkUrl_of_split hsplit (hscheme ▸ h.web) hnonempty allowed, hname]
  exact if_congr hprivate rfl rfl

/-- The URL of a host with nothing else in it. -/
def hostUrl (host : List Char) : Url.Written :=
  ⟨"http".toList, none, host, none, ['/']⟩

theorem leadsInside_hostUrl {host : List Char} (h : loose? host = some n) (hblocked : IsBlocked n) :
    LeadsInside (hostUrl host) n where
  sound :=
    { letter := rfl
      scheme := List.all_eq_true.mp (show "http".toList.all Url.isSchemeChar = true by decide)
      user := fun user huser => by cases huser
      host := fun c hc => by
        have hplain : ∀ d ∈ looseChars, Url.isPlain d = true ∧ d ≠ '@' ∧ d ≠ ':' :=
          List.forall_iff_forall_mem.mp (by decide)
        exact hplain c (mem_looseChars_of_loose? h c hc)
      port := fun port hport => by cases hport
      rest := fun c hc => by
        cases hc
        rfl }
  web := .inl (show "http".toList.map Char.toLower = "http".toList by decide)
  spelled := h
  blocked := hblocked

/-- **Every blocked address passes the gate** when it is spelled as a single number. -/
theorem checkUrl_number (h : IsBlocked n) :
    checkUrl ("http://" ++ toString n ++ "/") [] = .ok (toString n) := by
  have hdigits : (toString n).toList = Nat.toDigits 10 n := by
    rw [Nat.toString_eq_repr, Nat.toList_repr]
  have hurl : (hostUrl (Nat.toDigits 10 n)).url = "http://" ++ toString n ++ "/" := by
    rw [← String.toList_inj, String.toList_append, String.toList_append, hdigits, Url.Written.url,
      String.toList_ofList]
    simp [hostUrl, Url.Written.text, Url.Written.authority, Url.Written.place]
  have hsmall : (Nat.toDigits 10 n).map Char.toLower = (toString n).toList := by
    rw [hdigits]
    exact (List.map_congr_left fun c hc =>
      Naming.toLower_of_isDigit (Json.isDigit_of_mem_toDigits hc)).trans (List.map_id _)
  have hloose : Nat.toDigits 10 n ≠ strict n := by
    intro heq
    have hpoint : '.' ∈ Nat.toDigits 10 n := heq ▸ point_mem_strict n
    cases Json.isDigit_of_mem_toDigits hpoint
  have hverdict := checkUrl_of_leadsInside (leadsInside_hostUrl (loose?_toDigits h.lt) h) []
  have hhost : (hostUrl (Nat.toDigits 10 n)).host = Nat.toDigits 10 n := rfl
  rw [hurl, hhost, if_neg hloose, hsmall, String.ofList_toList] at hverdict
  exact hverdict

/-- What the gate says of a URL that leads to a blocked address: it is refused as private exactly
when the spelling is strict, and else the host, in small letters, counts as public. -/
structure SettlesPrivate (w : Url.Written) (n : Nat) (allowed : List String) : Prop where
  refused_iff : checkUrl w.url allowed = .error (Refusal.privateHost.failure w.url) ↔
    w.host = strict n
  otherwise : w.host ≠ strict n →
    checkUrl w.url allowed =
      publicVerdict w.url (String.ofList (w.host.map Char.toLower)) allowed

/-- **The gate refuses a blocked address in its strict spelling and in no other one.** -/
theorem settlesPrivate (h : LeadsInside w n) (allowed : List String) :
    SettlesPrivate w n allowed := by
  have hverdict := checkUrl_of_leadsInside h allowed
  refine ⟨⟨fun hrefused => ?_, fun hstrict => ?_⟩, fun hne => ?_⟩
  · -- A host that counts as public is refused only as a domain that is not allowed.
    by_contra hne
    rw [hverdict, if_neg hne, publicVerdict] at hrefused
    split at hrefused
    · cases hrefused
    · cases congrArg Failure.kind (Except.error.inj hrefused)
  · rw [hverdict, if_pos hstrict]
  · rw [hverdict, if_neg hne]

end Inside

/-- In a short form, with its last number for three octets, the loopback address counts as
public. -/
theorem settlesPrivate_shortLoopback :
    LeadsInside (hostUrl "127.1".toList) 0x7f000001 ∧
      SettlesPrivate (hostUrl "127.1".toList) 0x7f000001 [] := by
  have hinside : LeadsInside (hostUrl "127.1".toList) 0x7f000001 :=
    leadsInside_hostUrl (by decide) (.inr (.inl (by decide)))
  exact ⟨hinside, settlesPrivate hinside []⟩

/-- **Not every spelling of a blocked address is refused**: the loopback address passes the gate. -/
theorem not_refused_shortLoopback :
    ¬∀ w n allowed, LeadsInside w n →
      checkUrl w.url allowed = .error (Refusal.privateHost.failure w.url) := by
  intro hall
  have hinside : LeadsInside (hostUrl "127.1".toList) 0x7f000001 :=
    leadsInside_hostUrl (by decide) (.inr (.inl (by decide)))
  have hpasses : checkUrl (hostUrl "127.1".toList).url [] = .ok "127.1" := by decide +kernel
  cases (hall _ _ [] hinside).symm.trans hpasses

end ClientGen.Net
