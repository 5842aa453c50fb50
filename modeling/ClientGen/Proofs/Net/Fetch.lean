import ClientGen.Net.Fetch
import Mathlib.Data.List.Basic

/-!
# What is requested while a document is fetched

Fetching goes from location to location.  `hop_cases` says all that can happen at one: the gate
refuses it and nothing is requested, or it is requested, and the exchange ends there or a
redirection leads on.  So whatever the servers answer, every URL that is requested has passed the
gate (`passes_of_mem_requests_fetchFrom`), and there are no more requests than redirections that
may be followed and one (`length_requests_fetchFrom_le`).

`Arrives` is the relation between a location and those at which an exchange arrives from it.  A
location that the gate refuses ends the fetch with the failure of the gate
(`fetchFrom_of_meetsRefusal`).
-/

namespace ClientGen.Net

/-- The gate lets a URL through. -/
def Passes (domains : List String) (url : String) : Prop :=
  ∃ host, checkUrl url domains = .ok host

variable {servers : Changing Transport} {limits : Limits} {url : String} {left : Nat}
  {past : List String} {location : Location}

/-! ### One location after another -/

@[simp] theorem finish_ends (location : Location) (goOn : Location → Fetched Response)
    (fetched : Fetched Response) : (Hop.ends fetched).finish location goOn = fetched := rfl

@[simp] theorem finish_leads (location : Location) (goOn : Location → Fetched Response)
    (next : Location) : (Hop.leads next).finish location goOn =
      ⟨location.url :: (goOn next).requests, (goOn next).outcome⟩ := rfl

/-- What can happen at a location. -/
theorem hop_cases (transport : Transport) (limits : Limits) (url : String) (location : Location) :
    (∃ failure, checkUrl location.url limits.domains = .error failure ∧
      hop transport limits url location = .ends ⟨[], .error (.failure failure)⟩) ∨
    (Passes limits.domains location.url ∧
      ((∃ outcome, hop transport limits url location = .ends ⟨[location.url], outcome⟩) ∨
        ∃ next, hop transport limits url location = .leads next)) := by
  unfold hop
  cases hgate : checkUrl location.url limits.domains with
  | error failure => exact Or.inl ⟨failure, rfl, rfl⟩
  | ok host =>
    refine Or.inr ⟨⟨host, hgate⟩, ?_⟩
    rcases (transport location.url).settle limits url location with problem | ⟨r, _ | next⟩
    · exact Or.inl ⟨_, rfl⟩
    · exact Or.inl ⟨_, rfl⟩
    · dsimp only
      split
      · exact Or.inl ⟨_, rfl⟩
      · exact Or.inr ⟨next, rfl⟩

/-- Every URL that is requested has passed the gate. -/
theorem passes_of_mem_requests_exchange {requested : String}
    (h : requested ∈ (exchange servers limits url left past location).requests) :
    Passes limits.domains requested := by
  induction left generalizing past location with
  | zero =>
    rw [exchange] at h
    rcases hop_cases (servers past) limits url location with
      ⟨failure, -, hhop⟩ | ⟨hpasses, ⟨outcome, hhop⟩ | ⟨next, hhop⟩⟩
    · simp [hhop] at h
    · rw [hhop, finish_ends, List.mem_singleton] at h
      rwa [h]
    · rw [hhop, finish_leads, List.mem_singleton] at h
      rwa [h]
  | succ left ih =>
    rw [exchange] at h
    rcases hop_cases (servers past) limits url location with
      ⟨failure, -, hhop⟩ | ⟨hpasses, ⟨outcome, hhop⟩ | ⟨next, hhop⟩⟩
    · simp [hhop] at h
    · rw [hhop, finish_ends, List.mem_singleton] at h
      rwa [h]
    · rw [hhop, finish_leads, List.mem_cons] at h
      rcases h with rfl | hlater
      · exact hpasses
      · exact ih hlater

/-- There is one request for each redirection that is followed, and the first one. -/
theorem length_requests_exchange_le (servers : Changing Transport) (limits : Limits) (url : String)
    (left : Nat) (past : List String) (location : Location) :
    (exchange servers limits url left past location).requests.length ≤ left + 1 := by
  induction left generalizing past location with
  | zero =>
    rw [exchange]
    rcases hop_cases (servers past) limits url location with
      ⟨failure, -, hhop⟩ | ⟨-, ⟨outcome, hhop⟩ | ⟨next, hhop⟩⟩ <;> simp [hhop]
  | succ left ih =>
    rw [exchange]
    rcases hop_cases (servers past) limits url location with
      ⟨failure, -, hhop⟩ | ⟨-, ⟨outcome, hhop⟩ | ⟨next, hhop⟩⟩
    · simp [hhop]
    · simp [hhop]
    · have hrest := ih (past ++ [location.url]) next
      simp only [hhop, finish_leads, List.length_cons]
      omega

/-- Servers that do not change answer alike whatever was requested before. -/
theorem exchange_steady (transport : Transport) (limits : Limits) (url : String) (left : Nat)
    (past past' : List String) (location : Location) :
    exchange (fun _ => transport) limits url left past location =
      exchange (fun _ => transport) limits url left past' location := by
  induction left generalizing past past' location with
  | zero => rw [exchange, exchange]
  | succ left ih =>
    rw [exchange, exchange]
    cases hop transport limits url location with
    | ends fetched => rfl
    | leads next =>
      simp only [finish_leads, ih (past ++ [location.url]) (past' ++ [location.url])]

/-! ### Fetching a document -/

theorem fetchFrom_steady (transport : Transport) (limits : Limits) (past : List String)
    (url : String) :
    fetchFrom (fun _ => transport) limits past url = fetch transport limits url := by
  unfold fetch fetchFrom
  cases Location.read url with
  | error fault => rfl
  | ok location => simp only [exchange_steady transport limits url _ past []]

/-- The requests of a fetch are those of its exchange, if it comes to one. -/
theorem requests_fetchFrom (servers : Changing Transport) (limits : Limits) (past : List String)
    (url : String) :
    (fetchFrom servers limits past url).requests = [] ∨
      ∃ location, (fetchFrom servers limits past url).requests =
        (exchange servers limits url limits.redirects.toNat past location).requests := by
  unfold fetchFrom
  cases Location.read url with
  | error fault => exact Or.inl rfl
  | ok location =>
    dsimp only
    split
    · exact Or.inl rfl
    · exact Or.inr ⟨location.requested, rfl⟩

/-- **Every URL that is requested while a document is fetched has passed the gate.** -/
theorem passes_of_mem_requests_fetchFrom {requested : String}
    (h : requested ∈ (fetchFrom servers limits past url).requests) :
    Passes limits.domains requested := by
  rcases requests_fetchFrom servers limits past url with hnone | ⟨location, hsame⟩
  · simp [hnone] at h
  · rw [hsame] at h
    exact passes_of_mem_requests_exchange h

/-- **A fetch makes no more requests than redirections may be followed, and one.** -/
theorem length_requests_fetchFrom_le (servers : Changing Transport) (limits : Limits)
    (past : List String) (url : String) :
    (fetchFrom servers limits past url).requests.length ≤ limits.redirects.toNat + 1 := by
  rcases requests_fetchFrom servers limits past url with hnone | ⟨location, hsame⟩
  · simp [hnone]
  · rw [hsame]
    exact length_requests_exchange_le servers limits url _ past location

/-! ### Locations that are refused -/

/-- From a location an exchange arrives at another one over redirections. -/
inductive Arrives (servers : Changing Transport) (limits : Limits) (url : String) :
    Nat → List String → Location → Location → Prop
  | here {left : Nat} {past : List String} {location : Location} :
      Arrives servers limits url left past location location
  | redirected {left : Nat} {past : List String} {location next final : Location}
      (hleads : hop (servers past) limits url location = .leads next)
      (hrest : Arrives servers limits url left (past ++ [location.url]) next final) :
      Arrives servers limits url (left + 1) past location final

/-- A location that is refused where an exchange arrives ends it. -/
theorem exchange_of_arrives {final : Location} {failure : Failure}
    (h : Arrives servers limits url left past location final)
    (hrefused : checkUrl final.url limits.domains = .error failure) :
    (exchange servers limits url left past location).outcome = .error (.failure failure) := by
  induction h with
  | @here left past location =>
    have hhop : hop (servers past) limits url location = .ends ⟨[], .error (.failure failure)⟩ := by
      unfold hop
      rw [hrefused]
    cases left <;> rw [exchange, hhop, finish_ends]
  | redirected hleads _ ih =>
    rw [exchange, hleads, finish_leads]
    exact ih hrefused

/-- While a document is fetched, a location is met that the gate refuses. -/
def MeetsRefusal (servers : Changing Transport) (limits : Limits) (past : List String)
    (url : String) (failure : Failure) : Prop :=
  ∃ first final, Location.read url = .ok first ∧ 0 ≤ limits.redirects ∧
    Arrives servers limits url limits.redirects.toNat past first.requested final ∧
    checkUrl final.url limits.domains = .error failure

/-- A refusal that is met ends the fetch with the failure of the gate. -/
theorem fetchFrom_of_meetsRefusal {failure : Failure}
    (h : MeetsRefusal servers limits past url failure) :
    (fetchFrom servers limits past url).outcome = .error (.failure failure) := by
  obtain ⟨first, final, hread, hlimit, harrives, hrefused⟩ := h
  have hends := exchange_of_arrives harrives hrefused
  have hfew : ¬limits.redirects < 0 := by omega
  unfold fetchFrom
  rw [hread]
  dsimp only
  rw [if_neg hfew, hends]
  rfl

end ClientGen.Net
