import CommandConsole.Proofs.Independence

/-!
# Synonyms

A command may be called by its name, by an alias or, as the case rule goes, by another
spelling of them. The arguments are bound and the errors are reported by the command
that is found, not by the word that found it. So all of these words call it alike, and
only a raw handler, which receives the line itself, can see which one it was.

Main result (`Registry.dispatch_synonyms`).
-/

namespace CommandConsole

variable {σ : Type}

/-! ## The same call by another name -/

/-- The same call where the command was named differently. A typed handler is not told. -/
def Invocation.calledAs (name : String) : Invocation σ → Invocation σ
  | .typed signature run arguments => .typed signature run arguments
  | .raw run line => .raw run { line with command := name }

def Invocation.handler : Invocation σ → Handler σ
  | .typed signature run _ => .typed signature run
  | .raw run _ => .raw run

/-- The command that an error is about. There is none if it was not found. -/
def DispatchError.command? : DispatchError → Option String
  | .commandNotFound _ => none
  | .incomplete command => some command
  | .tooManyArguments command _ _ => some command
  | .tooFewArguments command _ _ => some command
  | .typeMismatch command _ _ _ => some command

theorem Invocation.calledAs_of_typed {invocation : Invocation σ}
    (typed : ∀ run, invocation.handler ≠ .raw run) (name : String) :
    invocation.calledAs name = invocation := by
  cases invocation with
  | typed signature run arguments => rfl
  | raw run line => exact absurd rfl (typed run)

namespace Command

theorem invocation_calledAs (command : Command σ) (a b : String) (arguments : List Value) :
    command.invocation ⟨b, arguments⟩ =
      (command.invocation ⟨a, arguments⟩).map (Invocation.calledAs b) := by
  unfold invocation
  cases command.handler with
  | none => rfl
  | some handler =>
      cases handler with
      | raw run => rfl
      | typed signature run =>
          cases hslots : bindSlots command.name command.parameters arguments with
          | error error => simp only [Except.map]
          | ok slots =>
              simp only [Handler.invocation]
              cases Arguments.ofSlots 0 signature slots with
              | error error => rfl
              | ok converted => rfl

theorem handler_of_invocation {command : Command σ} {line : CommandLine}
    {invocation : Invocation σ} (h : command.invocation line = .ok invocation) :
    command.handler = some invocation.handler := by
  unfold Command.invocation at h
  split at h
  · exact absurd h (by simp)
  · rename_i run hhandler
    obtain rfl := Except.ok.inj h
    exact hhandler
  · rename_i signature run hhandler
    split at h
    · exact absurd h (by simp)
    · obtain ⟨arguments, -, rfl⟩ := map_eq_ok.mp (mapError_eq_ok.mp h)
      exact hhandler

/-- Whatever is wrong with a call is reported under the command's own name. -/
theorem command?_of_invocation {command : Command σ} {line : CommandLine}
    {error : DispatchError} (h : command.invocation line = .error error) :
    error.command? = some command.name := by
  unfold Command.invocation at h
  split at h
  · obtain rfl := Except.error.inj h
    rfl
  · exact absurd h (by simp)
  · split at h
    · rename_i hbound
      obtain rfl := Except.error.inj h
      rcases bindSlots_error_cases hbound with
        ⟨-, rfl⟩ | ⟨-, -, rfl⟩ | ⟨-, -, i, parameter, value, -, rfl⟩
      · rfl
      · rfl
      · rfl
    · obtain ⟨fault, -, rfl⟩ := mapError_eq_error.mp h
      rfl

end Command

/-! ## Dispatching -/

namespace Registry

theorem outcome_dispatch (registry : Registry σ) (line : CommandLine) (host : σ) :
    (registry.dispatch line host).1 = (registry.resolve line).map fun _ => () := by
  unfold dispatch
  cases registry.resolve line with
  | error error => rfl
  | ok invocation => rfl

/-- A word leads to the command that answers to it, since no other one does. -/
theorem Distinct.resolve_eq {registry : Registry σ} (h : registry.Distinct)
    {command : Command σ} (member : command ∈ registry.commands) {line : CommandLine}
    (answers : command.answersTo registry.caseRule line.command = true) :
    registry.resolve line = command.invocation line :=
  resolve_of_find? (h.find?_eq_some.mpr ⟨member, answers⟩)

theorem Distinct.dispatch_raw {registry : Registry σ} (h : registry.Distinct)
    {command : Command σ} (member : command ∈ registry.commands) {line : CommandLine}
    (answers : command.answersTo registry.caseRule line.command = true)
    {run : CommandLine → σ → σ} (raw : command.handler = some (.raw run)) (host : σ) :
    registry.dispatch line host = (.ok (), run line host) := by
  rw [dispatch, h.resolve_eq member answers]
  simp only [Command.invocation, raw, Invocation.perform]

/-- **All names of a command call it alike.** In a reachable registry, let a command answer
to two words. Given the same arguments, both lead to the same error, which names the
command by its own name, or to a call of the command's handler. A typed handler is called
with the same arguments, and a raw one with lines that differ in the word only. -/
theorem dispatch_synonyms {registry : Registry σ} (reachable : registry.Reachable)
    {command : Command σ} (member : command ∈ registry.commands) {a b : String}
    (former : command.answersTo registry.caseRule a = true)
    (latter : command.answersTo registry.caseRule b = true) (arguments : List Value) :
    registry.resolve ⟨b, arguments⟩ =
      (registry.resolve ⟨a, arguments⟩).map (Invocation.calledAs b) ∧
    (∀ error, registry.resolve ⟨a, arguments⟩ = .error error →
      error.command? = some command.name) ∧
    (∀ invocation, registry.resolve ⟨a, arguments⟩ = .ok invocation →
      command.handler = some invocation.handler) ∧
    ∀ host,
      (registry.dispatch ⟨b, arguments⟩ host).1 = (registry.dispatch ⟨a, arguments⟩ host).1 ∧
      ((∀ run, command.handler ≠ some (.raw run)) →
        registry.dispatch ⟨b, arguments⟩ host = registry.dispatch ⟨a, arguments⟩ host) ∧
      ∀ run, command.handler = some (.raw run) →
        registry.dispatch ⟨a, arguments⟩ host = (.ok (), run ⟨a, arguments⟩ host) ∧
        registry.dispatch ⟨b, arguments⟩ host = (.ok (), run ⟨b, arguments⟩ host) := by
  have hdistinct := reachable.distinct
  have hfirst : registry.resolve ⟨a, arguments⟩ = command.invocation ⟨a, arguments⟩ :=
    hdistinct.resolve_eq member former
  have hsame : registry.resolve ⟨b, arguments⟩ =
      (registry.resolve ⟨a, arguments⟩).map (Invocation.calledAs b) := by
    rw [hfirst, hdistinct.resolve_eq member latter]
    exact command.invocation_calledAs a b arguments
  have hhandler : ∀ invocation, registry.resolve ⟨a, arguments⟩ = .ok invocation →
      command.handler = some invocation.handler := by
    intro invocation hresolve
    exact Command.handler_of_invocation (hfirst.symm.trans hresolve)
  refine ⟨hsame, ?_, hhandler, ?_⟩
  · intro error hresolve
    exact Command.command?_of_invocation (hfirst.symm.trans hresolve)
  · intro host
    refine ⟨?_, ?_, ?_⟩
    · rw [outcome_dispatch, outcome_dispatch, hsame]
      cases registry.resolve ⟨a, arguments⟩ with
      | error error => rfl
      | ok invocation => rfl
    · intro hnotRaw
      rw [dispatch, dispatch, hsame]
      cases hresolve : registry.resolve ⟨a, arguments⟩ with
      | error error => rfl
      | ok invocation =>
          have htyped : ∀ run, invocation.handler ≠ .raw run := by
            intro run hraw
            exact hnotRaw run ((hhandler invocation hresolve).trans (congrArg some hraw))
          simp only [Except.map, Invocation.calledAs_of_typed htyped]
    · intro run hraw
      exact ⟨hdistinct.dispatch_raw member former hraw host,
        hdistinct.dispatch_raw member latter hraw host⟩

end Registry

namespace Sample

def echo : Declaration String := ⟨"echo", [.alias "e"], some (.raw fun line _ => line.command)⟩

def echoing : Registry String := (folding.registry.declare echo).1

end Sample

theorem Registry.dispatch_synonyms_sample :
    Sample.echoing.dispatch ⟨"LOAD", [.identifier "ten"]⟩ "" = (.ok (), "ten") ∧
    (Sample.echoing.dispatch ⟨"L", []⟩ "").1 = .error (.tooFewArguments "Load" 1 0) ∧
    Sample.echoing.dispatch ⟨"E", []⟩ "" = (.ok (), "E") := by
  have hreach : Sample.echoing.Reachable :=
    (((Reachable.empty _ _).declare _).declare _).declare _
  refine ⟨?_, ?_, ?_⟩
  · obtain ⟨-, -, -, hdispatch⟩ := dispatch_synonyms hreach (by exact .head _)
      (a := "l") (b := "LOAD") (by decide +kernel) (by decide +kernel) [.identifier "ten"]
    rw [(hdispatch "").2.1 (by simp)]
    decide +kernel
  · obtain ⟨-, -, -, hdispatch⟩ := dispatch_synonyms hreach (by exact .head _)
      (a := "Load") (b := "L") (by decide +kernel) (by decide +kernel) []
    rw [(hdispatch "").1]
    decide +kernel
  · obtain ⟨-, -, -, hdispatch⟩ := dispatch_synonyms hreach (by exact .tail _ (.tail _ (.head _)))
      (a := "echo") (b := "E") (by decide +kernel) (by decide +kernel) []
    exact ((hdispatch "").2.2 _ rfl).2

end CommandConsole
