import CommandConsole.Proofs.Histories

/-!
# What a declaration depends on

Parameters, help texts and handlers are checked by the command alone
(`Draft.addParameter_onto`, `Draft.attach_onto`). Only names are compared with
the other commands, and they are accepted exactly if no two names match in the
end. So a declaration that succeeds in one registry succeeds in every other
one where its names are free (`Registry.Makes.onto`), and makes the same
command there.

Main results: the order of two declarations makes no difference
(`Registry.declare_comm`), and neither do names compared by their lower case
where they can be told apart (`Console.folding_conservative`).
-/

namespace CommandConsole

variable {σ : Type}

def Registry.push (registry : Registry σ) (command : Command σ) : Registry σ :=
  { registry with commands := registry.commands ++ [command] }

/-- The same command under declaration in another registry. -/
def Draft.onto (draft : Draft σ) (registry : Registry σ) : Draft σ :=
  { draft with others := registry.commands, caseRule := registry.caseRule }

theorem Registry.names_push (registry : Registry σ) (command : Command σ) :
    (registry.push command).names = registry.names ++ command.names := by
  simp [push, names]

theorem Draft.names_onto (draft : Draft σ) (registry : Registry σ) :
    (draft.onto registry).registry.names = registry.names ++ draft.command.names :=
  draft.onto registry |>.names_registry

theorem Draft.names_of_finish {draft made : Draft σ} {handler : Option (Handler σ)}
    (h : draft.finish handler = (made, none)) : made.command.names = draft.command.names := by
  cases handler with
  | none =>
      obtain ⟨rfl, -⟩ := Prod.mk.inj h
      rfl
  | some handler =>
      rw [finish] at h
      split at h
      · exact absurd (congrArg Prod.snd h) (by simp)
      · obtain ⟨rfl, -⟩ := Prod.mk.inj h
        exact names_of_attach ‹_›

/-- Names that are apart were so while there were fewer of them. -/
theorem Draft.distinct_onto {draft next : Draft σ} {registry : Registry σ}
    (h : (next.onto registry).registry.Distinct)
    (hnames : draft.command.names.Sublist next.command.names) :
    (draft.onto registry).registry.Distinct := by
  refine h.of_names rfl ?_
  rw [names_onto, names_onto]
  exact (List.Sublist.refl _).append hnames

/-! ## Steps in another registry -/

namespace Draft

theorem addParameter_onto (draft : Draft σ) (parameter : Parameter) (registry : Registry σ) :
    (draft.onto registry).addParameter parameter =
      (draft.addParameter parameter).map (·.onto registry) := by
  obtain ⟨others, command, caseRule, precision⟩ := draft
  dsimp only [addParameter, onto, typeError?]
  split
  · rfl
  · split
    · rfl
    · split <;> rfl

theorem attach_onto (draft : Draft σ) (handler : Handler σ) (registry : Registry σ) :
    (draft.onto registry).attach handler = (draft.attach handler).map (·.onto registry) := by
  obtain ⟨others, command, caseRule, precision⟩ := draft
  cases handler with
  | raw run => rfl
  | typed signature run =>
      dsimp only [attach, onto, typeError?]
      split
      · split <;> rfl
      · split <;> rfl

theorem finish_onto (draft : Draft σ) (handler : Option (Handler σ)) (registry : Registry σ) :
    (draft.onto registry).finish handler =
      (draft.finish handler).map (·.onto registry) id := by
  cases handler with
  | none => rfl
  | some handler =>
      simp only [finish, attach_onto]
      cases draft.attach handler <;> rfl

theorem add_onto {draft next : Draft σ} {item : DeclarationItem} {registry : Registry σ}
    (h : draft.add item = .ok next) (hnext : (next.onto registry).registry.Distinct) :
    (draft.onto registry).add item = .ok (next.onto registry) := by
  cases item with
  | «alias» name =>
      rw [add, addAlias] at h
      split at h
      · exact absurd h (by simp)
      · obtain rfl := Except.ok.inj h
        have hfree : nameError? (draft.onto registry).caseRule
            (draft.onto registry).registry.commands name = none := by
          refine hnext.free rfl ?_
          simp [Draft.registry, onto, Registry.names, Command.names]
        rw [add, addAlias, hfree]
        rfl
  | parameter parameter =>
      rw [add, addParameter_onto]
      rw [add] at h
      rw [h]
      rfl
  | help text =>
      obtain rfl := Except.ok.inj h
      rfl

theorem addAll_onto {draft last : Draft σ} {index : Nat} {items : List DeclarationItem}
    {registry : Registry σ} (h : draft.addAll index items = (last, none))
    (hlast : (last.onto registry).registry.Distinct) :
    (draft.onto registry).addAll index items = (last.onto registry, none) := by
  induction items generalizing draft index with
  | nil =>
      obtain ⟨rfl, -⟩ := Prod.mk.inj h
      rfl
  | cons item items ih =>
      rw [addAll] at h
      split at h
      · exact absurd h (by simp)
      · rename_i next hadd
        have hsteps := next.steps_of_addAll (index + 1) items
        rw [h] at hsteps
        have hnext := distinct_onto hlast (names_of_steps hsteps)
        rw [addAll, add_onto hadd hnext]
        exact ih h

end Draft

/-! ## Declarations in another registry -/

namespace Registry

theorem exists_makes {registry next : Registry σ} {declaration : Declaration σ}
    (h : registry.declare declaration = (next, none)) :
    ∃ command, registry.Makes declaration command none ∧ next = registry.push command := by
  rcases registry.declare_makes declaration with
    ⟨error, hrefused⟩ | ⟨command, fault, -, hmakes, -, -⟩
  · rw [h] at hrefused
    exact absurd (congrArg Prod.snd hrefused) (by simp)
  · have hmade := hmakes
    unfold Makes at hmade
    obtain ⟨rfl, rfl⟩ := Prod.mk.inj (h.symm.trans hmade)
    exact ⟨command, hmakes, rfl⟩

theorem declare_complete {registry next : Registry σ} {declaration : Declaration σ} :
    registry.declare declaration = (next, none) ↔
      registry.draft declaration.name = .ok (registry.blank declaration.name) ∧
      ∃ last made,
        (registry.blank declaration.name).addAll 0 declaration.items = (last, none) ∧
        last.finish declaration.handler = (made, none) ∧ next = made.registry := by
  constructor
  · intro h
    unfold declare at h
    split at h
    · exact absurd (congrArg Prod.snd h) (by simp)
    · rename_i start hstart
      obtain rfl : start = registry.blank declaration.name := (draft_eq_ok.mp hstart).2
      split at h
      · exact absurd (congrArg Prod.snd h) (by simp)
      · rename_i last hitems
        obtain ⟨hnext, hfault⟩ := Prod.mk.inj h
        exact ⟨hstart, last, _, hitems, Prod.ext rfl hfault, hnext.symm⟩
  · rintro ⟨hstart, last, made, hitems, hhandler, rfl⟩
    simp only [declare, hstart, hitems, hhandler]

/-- A command can be declared in every registry of the same precision where its names are
free, and is the same there. -/
theorem Makes.onto {registry other : Registry σ} {declaration : Declaration σ}
    {command : Command σ} (h : registry.Makes declaration command none)
    (hprecision : other.precision = registry.precision)
    (hdistinct : (other.push command).Distinct) : other.Makes declaration command none := by
  obtain ⟨-, last, made, hitems, hhandler, hmade⟩ := declare_complete.mp h
  have hstart : (registry.blank declaration.name).onto other = other.blank declaration.name := by
    simp only [Draft.onto, blank, hprecision]
  obtain rfl : made.command = command := by
    have hcommands := congrArg commands hmade
    exact (List.singleton_inj.mp (List.append_inj' hcommands rfl).2).symm
  have hlast : (last.onto other).registry.Distinct := by
    refine hdistinct.of_names rfl ?_
    rw [Draft.names_onto, names_push, Draft.names_of_finish hhandler]
  have hsteps := (registry.blank declaration.name).steps_of_addAll 0 declaration.items
  rw [hitems] at hsteps
  have hblank := Draft.distinct_onto hlast (Draft.names_of_steps hsteps)
  have hname : other.draft declaration.name = .ok (other.blank declaration.name) :=
    draft_eq_ok.mpr ⟨hblank.free rfl (Draft.names_onto _ _), rfl⟩
  have hother := Draft.addAll_onto hitems hlast
  rw [hstart] at hother
  refine declare_complete.mpr ⟨hname, last.onto other, made.onto other, hother, ?_, ?_⟩
  · rw [Draft.finish_onto, hhandler]
    rfl
  · have hkept : registry.precision = made.precision := congrArg precision hmade
    simp only [Draft.onto, Draft.registry, hprecision, hkept]

end Registry

/-! ## The order of declarations -/

namespace Registry

theorem perm_push (registry : Registry σ) (a b : Command σ) :
    ((registry.push b).push a).commands.Perm ((registry.push a).push b).commands := by
  simp only [push, List.append_assoc, List.singleton_append]
  exact (List.Perm.swap a b []).append_left _

/-- Of two commands that were made one after the other, each could have been first. -/
theorem Makes.swap {registry : Registry σ} {former latter : Declaration σ} {a b : Command σ}
    (ha : registry.Makes former a none) (hb : (registry.push a).Makes latter b none)
    (h : ((registry.push a).push b).Distinct) :
    registry.Makes latter b none ∧ (registry.push b).Makes former a none := by
  have hfirst : (registry.push b).Distinct := by
    refine h.of_names rfl ?_
    simp only [names_push]
    exact (List.sublist_append_left _ _).append_right _
  exact ⟨hb.onto rfl hfirst, ha.onto rfl (h.perm rfl (perm_push registry a b))⟩

/-- **Declarations commute.** Two declarations that succeed one after the other succeed
in the other order, too. They make the same two commands, in swapped places, and whatever
is looked up or called afterwards is the same. -/
theorem declare_comm {registry between final : Registry σ} {former latter : Declaration σ}
    (reachable : registry.Reachable) (first : registry.declare former = (between, none))
    (second : between.declare latter = (final, none)) :
    ∃ (other swapped : Registry σ) (a b : Command σ),
      registry.declare latter = (other, none) ∧ other.declare former = (swapped, none) ∧
      final = { registry with commands := registry.commands ++ [a, b] } ∧
      swapped = { registry with commands := registry.commands ++ [b, a] } ∧
      (∀ name, swapped.find? name = final.find? name) ∧
      (∀ line, swapped.resolve line = final.resolve line) ∧
      ∀ line host, swapped.dispatch line host = final.dispatch line host := by
  have hdistinct := ((reachable.of_declare first).of_declare second).distinct
  obtain ⟨a, ha, rfl⟩ := exists_makes first
  obtain ⟨b, hb, rfl⟩ := exists_makes second
  obtain ⟨hlatter, hformer⟩ := ha.swap hb hdistinct
  have hfind : ∀ name, ((registry.push b).push a).find? name =
      ((registry.push a).push b).find? name :=
    hdistinct.find?_perm rfl (perm_push registry a b)
  have hresolve : ∀ line, ((registry.push b).push a).resolve line =
      ((registry.push a).push b).resolve line := by
    intro line
    exact resolve_congr (hfind line.command)
  refine ⟨registry.push b, (registry.push b).push a, a, b, hlatter, hformer, ?_, ?_, hfind,
    hresolve, ?_⟩
  · simp only [push, List.append_assoc, List.singleton_append]
  · simp only [push, List.append_assoc, List.singleton_append]
  · intro line host
    rw [dispatch, dispatch, hresolve]

end Registry

namespace Sample

def load : Declaration String :=
  ⟨"Load", [.alias "l"], some (.typed [.plain .string] fun arguments _ => arguments.1)⟩

def quit : Declaration String := ⟨"quit", [.alias "Q"], some (.raw fun _ host => host)⟩

def registry : Registry String := ((Registry.empty .insensitive .single).declare half).1

def folding : Console String :=
  ⟨settings.parser, (((Registry.empty .insensitive .single).declare load).1.declare quit).1⟩

end Sample

theorem Registry.declare_comm_sample :
    (Sample.registry.declare Sample.load).2 = none ∧
    ((Sample.registry.declare Sample.load).1.declare Sample.quit).2 = none ∧
    ∃ swapped : Registry String,
      (Sample.registry.declare Sample.quit).1.declare Sample.load = (swapped, none) ∧
      ∀ line host, swapped.dispatch line host =
        ((Sample.registry.declare Sample.load).1.declare Sample.quit).1.dispatch line host := by
  have hreach : Sample.registry.Reachable := (Registry.Reachable.empty _ _).declare _
  have hload : (Sample.registry.declare Sample.load).2 = none := by decide +kernel
  have hquit : ((Sample.registry.declare Sample.load).1.declare Sample.quit).2 = none := by
    decide +kernel
  obtain ⟨other, swapped, _, _, hother, hswapped, -, -, -, -, hdispatch⟩ :=
    declare_comm hreach (Prod.ext rfl hload) (Prod.ext rfl hquit)
  refine ⟨hload, hquit, swapped, ?_, hdispatch⟩
  rw [hother]
  exact hswapped

/-! ## Names by their lower case -/

namespace Registry

/-- The same commands with names compared as they are written. -/
def strict (registry : Registry σ) : Registry σ := { registry with caseRule := .sensitive }

theorem Distinct.strict {registry : Registry σ} (h : registry.Distinct) :
    registry.strict.Distinct := by
  refine ⟨h.apart.imp ?_, h.valid⟩
  intro a b hab
  show CaseRule.sensitive.same a b = false
  rw [Bool.eq_false_iff] at hab ⊢
  intro hsame
  exact hab (CaseRule.same_of_sensitive hsame)

theorem declare_strict {registry next : Registry σ} {declaration : Declaration σ}
    (h : registry.Reachable) (hnext : registry.declare declaration = (next, none)) :
    registry.strict.declare declaration = (next.strict, none) := by
  have hreach := h.of_declare hnext
  obtain ⟨command, hmakes, rfl⟩ := exists_makes hnext
  have hdistinct : (registry.strict.push command).Distinct := hreach.distinct.strict
  exact hmakes.onto rfl hdistinct

theorem declareAll_strict {registry last : Registry σ} {declarations : List (Declaration σ)}
    (h : registry.Reachable) (hlast : registry.declareAll declarations = .ok last) :
    registry.strict.declareAll declarations = .ok last.strict ∧ last.Reachable := by
  induction declarations generalizing registry with
  | nil =>
      obtain rfl := Except.ok.inj hlast
      exact ⟨rfl, h⟩
  | cons declaration rest ih =>
      rw [declareAll] at hlast
      split at hlast
      · exact absurd hlast (by simp)
      · rename_i next hnext
        rw [declareAll, declare_strict h hnext]
        exact ih (h.of_declare hnext) hlast

/-- What is found as it is written is found by its lower case, for nothing else answers to
it. -/
theorem Distinct.find?_of_strict {registry : Registry σ} (h : registry.Distinct)
    {name : String} {command : Command σ} (hfind : registry.strict.find? name = some command) :
    registry.find? name = some command := by
  obtain ⟨hmem, hanswers⟩ := h.strict.find?_eq_some.mp hfind
  obtain ⟨own, hown, hsame⟩ := Command.answersTo_iff.mp hanswers
  exact h.find?_eq_some.mpr
    ⟨hmem, Command.answersTo_iff.mpr ⟨own, hown, CaseRule.same_of_sensitive hsame⟩⟩

theorem Distinct.resolve_strict {registry : Registry σ} (h : registry.Distinct)
    (line : CommandLine) :
    registry.strict.resolve line = .error (.commandNotFound line.command) ∨
      registry.resolve line = registry.strict.resolve line := by
  cases hfind : registry.strict.find? line.command with
  | none =>
      left
      rw [resolve, ← find?_eq_position?, hfind]
  | some command =>
      right
      exact resolve_congr ((h.find?_of_strict hfind).trans hfind.symm)

end Registry

namespace Console

/-- The same console with names compared as they are written. -/
def strict (console : Console σ) : Console σ := { console with registry := console.registry.strict }

theorem execute_strict {console : Console σ} (h : console.registry.Distinct) (line : String)
    (host : σ) :
    (∃ name, console.strict.execute line host =
        (.error (.dispatch (.commandNotFound name)), host)) ∨
      console.execute line host = console.strict.execute line host := by
  have hparse : console.strict.parse line = console.parse line := rfl
  unfold execute
  rw [hparse]
  cases console.parse line with
  | error e => exact Or.inr rfl
  | ok parsed =>
      have hregistry : console.strict.registry = console.registry.strict := rfl
      simp only [Registry.dispatch, hregistry]
      rcases h.resolve_strict parsed with hlost | hsame
      · left
        rw [hlost]
        exact ⟨parsed.command, rfl⟩
      · right
        rw [hsame]

/-- **The lower case only adds.** Declarations that succeed in a new console in which
names are compared by their lower case succeed, and make the same commands, in one in which
they are compared as they are written. A line that the second executes is executed by the
first with the same call, and a line that the second refuses for any reason but that it does
not find the command is refused by the first with the same error. -/
theorem folding_conservative {parser : ParserSettings} {declarations : List (Declaration σ)}
    {folding : Console σ}
    (complete : (ofSettings ⟨parser, .insensitive⟩).declareAll declarations = .ok folding) :
    ∃ literal : Console σ,
      (ofSettings ⟨parser, .sensitive⟩).declareAll declarations = .ok literal ∧
      literal.registry.commands = folding.registry.commands ∧
      ∀ line host after,
        (literal.execute line host = (.ok (), after) →
          folding.execute line host = (.ok (), after) ∧
          ∃ parsed invocation,
            literal.parse line = .ok parsed ∧ folding.parse line = .ok parsed ∧
            literal.registry.resolve parsed = .ok invocation ∧
            folding.registry.resolve parsed = .ok invocation ∧
            after = invocation.perform host) ∧
        ∀ error, literal.execute line host = (.error error, after) →
          (∀ name, error ≠ .dispatch (.commandNotFound name)) →
          folding.execute line host = (.error error, after) := by
  obtain ⟨registry, hregistry, rfl⟩ := map_eq_ok.mp complete
  have hempty : (ofSettings ⟨parser, .insensitive⟩ : Console σ).registry.Reachable := .empty _ _
  obtain ⟨hdeclared, hreach⟩ := Registry.declareAll_strict hempty hregistry
  let folding : Console σ := ⟨parser, registry⟩
  have hdistinct : folding.registry.Distinct := hreach.distinct
  refine ⟨folding.strict, map_eq_ok.mpr ⟨_, hdeclared, rfl⟩, rfl, ?_⟩
  intro line host after
  constructor
  · intro hdone
    obtain ⟨parsed, invocation, hparse, hresolve, hafter⟩ := execute_eq_ok.mp hdone
    have hsame : folding.registry.resolve parsed = .ok invocation := by
      rcases hdistinct.resolve_strict parsed with hlost | hsame
      · exact absurd (hlost.symm.trans hresolve) (by simp)
      · exact hsame.trans hresolve
    exact ⟨execute_eq_ok.mpr ⟨parsed, invocation, hparse, hsame, hafter⟩,
      parsed, invocation, hparse, hparse, hresolve, hsame, hafter⟩
  · intro error hrefused hfound
    rcases execute_strict hdistinct line host with ⟨name, hlost⟩ | hsame
    · obtain ⟨herror, -⟩ := Prod.mk.inj (hlost.symm.trans hrefused)
      exact absurd (Except.error.inj herror).symm (hfound name)
    · exact hsame.trans hrefused

theorem folding_conservative_sample :
    (ofSettings ⟨Sample.settings.parser, .insensitive⟩).declareAll [Sample.load, Sample.quit] =
      .ok Sample.folding ∧
    Sample.folding.execute "l ten" "" = (.ok (), "ten") ∧
    Sample.folding.execute "l" "" = (.error (.dispatch (.tooFewArguments "Load" 1 0)), "") := by
  have hcomplete : (ofSettings ⟨Sample.settings.parser, .insensitive⟩).declareAll
      [Sample.load, Sample.quit] = .ok Sample.folding := rfl
  obtain ⟨literal, hliteral, -, hexecute⟩ := folding_conservative hcomplete
  obtain rfl := Except.ok.inj hliteral
  refine ⟨hcomplete, ?_, ?_⟩
  · exact ((hexecute "l ten" "" "ten").1 (by decide +kernel)).1
  · exact (hexecute "l" "" "").2 _ (by decide +kernel) (by simp)

end Console

end CommandConsole
