import CommandConsole.Help
import CommandConsole.Proofs.Histories

/-!
# Pages of help

The help index is searched in one pass, in which the names and the aliases of a page count
alike, and the registry in two, of which the first goes by names only. Where no two names
match, at most one command answers, so both find it
(`Registry.Distinct.find?_answersTo`).

Main result: `Session.page_resolves`.
-/

namespace CommandConsole

variable {σ : Type}

/-- Where no two names match, one pass over names and aliases finds what two passes find. -/
theorem Registry.Distinct.find?_answersTo {registry : Registry σ} (h : registry.Distinct)
    (name : String) :
    registry.commands.find? (·.answersTo registry.caseRule name) = registry.find? name := by
  cases hpass : registry.commands.find? (·.answersTo registry.caseRule name) with
  | some command =>
      have hmem := List.mem_of_find?_eq_some hpass
      have hanswers := List.find?_some hpass
      exact (h.find?_eq_some.mpr ⟨hmem, hanswers⟩).symm
  | none =>
      rw [List.find?_eq_none] at hpass
      symm
      rw [Option.eq_none_iff_forall_ne_some]
      intro command hfind
      obtain ⟨hmem, hanswers⟩ := h.find?_eq_some.mp hfind
      exact hpass command hmem hanswers

/-- A captured page is the help of the first command that answers, and how it is called. -/
theorem HelpIndex.page?_capture (console : Console σ) (name : String) :
    (capture console).page? name =
      (console.registry.commands.find? (·.answersTo console.registry.caseRule name)).map
        fun command => command.help ++ "\n\nUsage: " ++ command.usage := by
  show ((console.registry.commands.map HelpPage.ofCommand).find? _).map HelpPage.text = _
  rw [List.find?_map, Option.map_map]
  rfl

/-- A name that leads to no command is not found when it is executed. -/
theorem Registry.resolve_of_find?_none {registry : Registry σ} {line : CommandLine}
    (h : registry.find? line.command = none) :
    registry.resolve line = .error (.commandNotFound line.command) := by
  rw [find?_eq_position?] at h
  rw [resolve, h]

namespace Session

/-- **Help is about the command that would be called.** In any session, the help index as it
is captured then has a page for a name exactly if the registry finds a command by it; and
the page is that of the command to which a line with this name is resolved. -/
theorem page_resolves (settings : Settings) (host : σ) (events : List (Event σ))
    (name : String) :
    let console := ((start settings host).run events).console
    match console.registry.find? name with
    | some command =>
        (HelpIndex.capture console).page? name =
          some (command.help ++ "\n\nUsage: " ++ command.usage) ∧
        ∀ arguments, console.registry.resolve ⟨name, arguments⟩ =
          command.invocation ⟨name, arguments⟩
    | none =>
        (HelpIndex.capture console).page? name = none ∧
        ∀ arguments, console.registry.resolve ⟨name, arguments⟩ =
          .error (.commandNotFound name) := by
  intro console
  have hdistinct : console.registry.Distinct := (run_start settings host events).1.distinct
  have hpage := HelpIndex.page?_capture console name
  rw [hdistinct.find?_answersTo] at hpage
  cases hfind : console.registry.find? name with
  | some command =>
      rw [hfind] at hpage
      exact ⟨hpage, fun arguments => Registry.resolve_of_find? hfind⟩
  | none =>
      rw [hfind] at hpage
      exact ⟨hpage, fun arguments => Registry.resolve_of_find?_none hfind⟩

/-- The page ends with the usage. -/
example : (HelpIndex.capture Sample.session.console).page? "say" =
    some "say\n\n\n\nUsage: say <string> [bool?]" := by
  decide +kernel

end Session

end CommandConsole
