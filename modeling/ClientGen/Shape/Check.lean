import ClientGen.PathTemplate
import ClientGen.Shape.Coercion
import ClientGen.Text.Search

/-!
# Checking values against shapes

`Shape.check` reads a value as a shape.  It either lists every fault, or gives the value as it was
read: scalars converted, records reduced to their members under their first names.  Where several
branches of a choice accept a value, the best `Fit` wins: most members of records, then closest
readings, then the first branch.

A fit is threaded through a value from left to right.  A branch that reads its value exactly and has
no records is taken at once and leaves the fit as it was.
-/

namespace ClientGen.Shape

/-- How well a value fits so far: the least close reading and, once there was a record, the number
of members of records. -/
structure Fit where
  closeness : Closeness
  members : Option Nat
  deriving Repr, DecidableEq

/-- The fit before anything was read. -/
def Fit.start : Fit := ⟨.exact, none⟩

/-- The fit after a reading of some closeness. -/
def Fit.floor (fit : Fit) (closeness : Closeness) : Fit :=
  { fit with closeness := fit.closeness.min closeness }

/-- The fit after `n` more members. -/
def Fit.addMembers (fit : Fit) (n : Nat) : Fit :=
  { fit with members := some (fit.members.getD 0 + n) }

/-- The fit after a part with a fit of its own. -/
def Fit.join (fit part : Fit) : Fit :=
  let floored := fit.floor part.closeness
  match part.members with
  | none => floored
  | some n => floored.addMembers n

/-- Whether the second of two fits is better: it has more members or, unless both numbers are known
and differ, the closer reading. -/
def Fit.isWorseThan (a b : Fit) : Bool :=
  match a.members, b.members with
  | some m, some n => if m = n then a.closeness.rank < b.closeness.rank else m < n
  | _, _ => a.closeness.rank < b.closeness.rank

/-- What a check gives: the value as it was read and the fit, or the faults. -/
abbrev Verdict := Except (List Fault) (Value × Fit)

/-- The check of one value: what it gives for a shape, after parts that fitted so far. -/
abbrev Checker (ρ : Type) := Shape ρ → Fit → Verdict

/-- An entry of an object with the check of its value. -/
structure Entry (ρ : Type) where
  key : Value
  value : Value
  check : Checker ρ

/-- A value with the checks of its parts: the items of a list, the entries of an object. -/
structure Subject (ρ : Type) where
  value : Value
  items : List (Checker ρ)
  entries : List (Entry ρ)

variable {ρ : Type}

/-- A fault of the value itself. -/
def refuse (value : Value) (cause : Cause) : Verdict :=
  .error [⟨[], cause, value⟩]

/-- What a reading gives for a value. -/
def accept {α : Type} (value : Value) (fit : Fit) (make : α → Value) : Reading α → Verdict
  | .error cause => refuse value cause
  | .ok (a, closeness) => .ok (make a, fit.floor closeness)

/-- What is gathered from the parts of a value: their values and faults, and the fit. -/
structure Gathered (α : Type) where
  values : List α
  faults : List Fault
  fit : Fit

/-- Gathers the verdict on one more part. -/
def Gathered.add {α : Type} (gathered : Gathered α) (step : String) (make : Value → α) :
    Verdict → Gathered α
  | .ok (value, fit) => { gathered with values := gathered.values ++ [make value], fit }
  | .error faults => { gathered with faults := gathered.faults ++ faults.map (Fault.under step) }

/-- The verdict on the whole. -/
def Gathered.verdict {α : Type} (gathered : Gathered α) (whole : List α → Value) : Verdict :=
  if gathered.faults.isEmpty then .ok (whole gathered.values, gathered.fit)
  else .error gathered.faults

/-- Checks the items of a list, the first of which has number `i`. -/
def gatherItems (item : Shape ρ) : Nat → List (Checker ρ) → Gathered Value → Gathered Value
  | _, [], gathered => gathered
  | i, check :: rest, gathered =>
    gatherItems item (i + 1) rest
      (gathered.add (toString i) (fun v => v) (check item gathered.fit))

/-- Checks the entries of a table. -/
def gatherEntries (item : Shape ρ) :
    List (Entry ρ) → Gathered (String × Value) → Gathered (String × Value)
  | [], gathered => gathered
  | entry :: rest, gathered =>
    let next := match entry.key with
      | .str name => gathered.add name (fun v => (name, v)) (entry.check item gathered.fit)
      | key =>
        { gathered with faults := gathered.faults ++ [⟨[key.plain, "[key]"], .notText, key⟩] }
    gatherEntries item rest next

/-- The entry of an object under a name. -/
def entry? (name : String) (entries : List (Entry ρ)) : Option (Entry ρ) :=
  entries.find? fun entry =>
    match entry.key with
    | .str key => key == name
    | _ => false

/-- The entry of a member, with the name under which it was found. -/
def Member.entry? (member : Member ρ) (entries : List (Entry ρ)) : Option (String × Entry ρ) :=
  match Shape.entry? member.name entries with
  | some entry => some (member.name, entry)
  | none => (Shape.entry? member.secondName entries).map fun entry => (member.secondName, entry)

/-- Checks the members of a record. -/
def gatherMembers (value : Value) (entries : List (Entry ρ)) :
    List (Member ρ) → Gathered (String × Value) → Gathered (String × Value)
  | [], gathered => gathered
  | member :: rest, gathered =>
    let next := match Member.entry? member entries with
      | some (name, entry) =>
        gathered.add name (fun v => (member.name, v)) (entry.check member.shape gathered.fit)
      | none =>
        if member.required then
          { gathered with faults := gathered.faults ++ [⟨[member.name], .missing, value⟩] }
        else gathered
    gatherMembers value entries rest next

/-- The faults of the entries that no member of a record has. -/
def extraFaults (record : Record ρ) (entries : List (Entry ρ)) : List Fault :=
  -- A member that was found under its first name leaves its second one unused.
  let used := record.members.filterMap fun member => (Member.entry? member entries).map (·.1)
  entries.filterMap fun entry =>
    match entry.key with
    | .str name => if used.contains name then none else some ⟨[name], .extraMember, entry.value⟩
    | key =>
      let step := match key.number? with
        | some n => toString n
        | none => key.inspect
      some ⟨[step], .keyNotText, key⟩

/-- Checks a record. -/
def checkRecord (record : Record ρ) (subject : Subject ρ) (fit : Fit) : Verdict :=
  if subject.value.isObject then
    let gathered := gatherMembers subject.value subject.entries record.members
      ⟨[], [], fit.floor .loose⟩
    let all := { gathered with
      faults := gathered.faults ++
        (if record.closed then extraFaults record subject.entries else [])
      fit := gathered.fit.addMembers gathered.values.length }
    all.verdict Value.object
  else refuse subject.value (.notRecord record.title)

/-- The items of a value where items are expected, and how close the value is to a list. -/
def itemsOf? : Value → Option Closeness
  | .list _ => some .exact
  | .tuple _ => some .loose
  | .set _ => some .loose
  | _ => none

/-- The same where a tuple is expected. -/
def tupleItemsOf? : Value → Option Closeness
  | .tuple _ => some .exact
  | .list _ => some .loose
  | .set _ => some .loose
  | _ => none

/-- The entries of a table that its key rule keeps, or the first key that it refuses. -/
def KeyRule.entries (subject : Subject ρ) : KeyRule → Except Cause (List (Entry ρ))
  | .free => .ok subject.entries
  | .pathTemplate =>
    let names := subject.entries.filterMap fun entry => entry.key.str?
    match names.find? fun name => !Text.startsWith "x-" name && !PathTemplate.isValid name with
    | some name => .error (.pathTemplate name)
    | none => .ok (subject.entries.filter fun entry =>
        !(entry.key.str?.any fun name => Text.startsWith "x-" name))

/-- Checks a value by the field that tells the variants of a record apart. -/
def checkTagged (grammar : ρ → Record ρ) (field : String) (variants : List (String × ρ))
    (subject : Subject ρ) (fit : Fit) : Verdict :=
  if subject.value.isObject then
    match entry? field subject.entries with
    | none => refuse subject.value (.noTag field)
    | some entry =>
      let variant? := match entry.value with
        | .str tag => (Entries.get? tag variants).map fun name => (tag, name)
        | _ => none
      match variant? with
      | none =>
        refuse subject.value (.unknownTag field entry.value.plain (variants.map (·.1)))
      | some (tag, name) =>
        match checkRecord (grammar name) subject fit with
        | .ok result => .ok result
        | .error faults => .error (faults.map (Fault.under tag))
  else refuse subject.value .notTagged

/-- The better of two acceptances; the earlier one unless the later one is better. -/
def better : Option (Value × Fit) → Value × Fit → Value × Fit
  | none, new => new
  | some old, new => if old.2.isWorseThan new.2 then new else old

mutual

/-- Reads a value as a shape. -/
def judge (grammar : ρ → Record ρ) (subject : Subject ρ) : Shape ρ → Fit → Verdict
  | .any, fit => .ok (subject.value, fit.floor .near)
  | .text minLength, fit =>
    match readText subject.value with
    | .ok (s, closeness) =>
      if s.length < minLength then refuse subject.value (.shortText minLength)
      else .ok (.str s, fit.floor closeness)
    | .error cause => refuse subject.value cause
  | .integer least, fit =>
    match readInteger subject.value with
    | .ok (n, closeness) =>
      match least with
      | some bound =>
        if n < bound then refuse subject.value (.tooSmall bound)
        else .ok (.int n, fit.floor closeness)
      | none => .ok (.int n, fit.floor closeness)
    | .error cause => refuse subject.value cause
  | .number positive, fit =>
    match readNumber subject.value with
    | .ok (x, closeness) =>
      if positive && !(0.0 < x) then refuse subject.value .notPositive
      else .ok (.float x, fit.floor closeness)
    | .error cause => refuse subject.value cause
  | .truth, fit => accept subject.value fit Value.bool (readTruth subject.value)
  | .word allowed, fit =>
    match subject.value with
    | .str s =>
      if allowed.contains s then .ok (.str s, fit) else refuse (.str s) (.notAmong allowed)
    | value => refuse value (.notAmong allowed)
  | .list item, fit =>
    match itemsOf? subject.value with
    | some closeness =>
      (gatherItems item 0 subject.items ⟨[], [], fit.floor closeness⟩).verdict Value.list
    | none => refuse subject.value .notList
  | .tuple item, fit =>
    match tupleItemsOf? subject.value with
    | some closeness =>
      (gatherItems item 0 subject.items ⟨[], [], fit.floor closeness⟩).verdict Value.list
    | none => refuse subject.value .notTuple
  | .table keys item, fit =>
    if subject.value.isObject then
      match KeyRule.entries subject keys with
      | .ok entries => (gatherEntries item entries ⟨[], [], fit⟩).verdict Value.object
      | .error cause => refuse subject.value cause
    else refuse subject.value .notTable
  | .record name, fit => checkRecord (grammar name) subject fit
  | .nullable inner, fit =>
    match subject.value with
    | .null => .ok (.null, fit)
    | _ => judge grammar subject inner fit
  | .choice branches, fit => judgeBranches grammar subject fit [] none branches
  | .tagged field variants, fit => checkTagged grammar field variants subject fit

/-- Reads a value as the best of some branches, given the faults of the branches before them and the
best of those that accepted. -/
def judgeBranches (grammar : ρ → Record ρ) (subject : Subject ρ) (outer : Fit)
    (faults : List Fault) (best : Option (Value × Fit)) : List (String × Shape ρ) → Verdict
  | [] =>
    match best with
    | some (value, fit) => .ok (value, outer.join fit)
    | none => .error faults
  | (label, branch) :: rest =>
    match judge grammar subject branch .start with
    | .ok (value, fit) =>
      -- Exact and without records: no later branch can be better.
      if fit = .start then .ok (value, outer)
      else judgeBranches grammar subject outer faults (some (better best (value, fit))) rest
    | .error more =>
      judgeBranches grammar subject outer (faults ++ more.map (Fault.under label)) best rest

end

mutual

/-- The check of a value against shapes whose records the grammar explains. -/
def checker (grammar : ρ → Record ρ) : Value → Checker ρ
  | .list items => judge grammar ⟨.list items, checkers grammar items, []⟩
  | .tuple items => judge grammar ⟨.tuple items, checkers grammar items, []⟩
  | .set members => judge grammar ⟨.set members, checkers grammar members, []⟩
  | .object fields => judge grammar ⟨.object fields, [], fieldCheckers grammar fields⟩
  | .mapping entries => judge grammar ⟨.mapping entries, [], entryCheckers grammar entries⟩
  | value => judge grammar ⟨value, [], []⟩

/-- The checks of the items of a list. -/
def checkers (grammar : ρ → Record ρ) : List Value → List (Checker ρ)
  | [] => []
  | item :: rest => checker grammar item :: checkers grammar rest

/-- The checks of the fields of an object. -/
def fieldCheckers (grammar : ρ → Record ρ) : List (String × Value) → List (Entry ρ)
  | [] => []
  | (name, value) :: rest =>
    ⟨.str name, value, checker grammar value⟩ :: fieldCheckers grammar rest

/-- The checks of the entries of an object with keys of any type. -/
def entryCheckers (grammar : ρ → Record ρ) : List (Value × Value) → List (Entry ρ)
  | [] => []
  | (key, value) :: rest => ⟨key, value, checker grammar value⟩ :: entryCheckers grammar rest

end

/-- A value at the place of a record is checked as that record. -/
theorem judge_record (grammar : ρ → Record ρ) (subject : Subject ρ) (name : ρ) (fit : Fit) :
    judge grammar subject (.record name) fit = checkRecord (grammar name) subject fit := by
  rw [judge]

/-- Reads a value as a shape: the value as read, or every fault. -/
def check (grammar : ρ → Record ρ) (shape : Shape ρ) (value : Value) :
    Except (List Fault) Value :=
  (checker grammar value shape .start).map (·.1)

end ClientGen.Shape
