import CommandConsole.Console
import CommandConsole.Proofs.Binding
import CommandConsole.Proofs.Names

/-!
# Sessions

A session is a console with its host, from an empty console on: commands are
declared, some of them only in part, removed or cleared, and lines executed in
any order. Whatever came before, a line is executed completely or not at all.

Main results: `Session.execute_all_or_nothing` for one line, and
`Session.makes_run` for what a whole session makes of its host.
-/

namespace CommandConsole

variable {σ : Type}

/-! ## Sessions and their consoles -/

inductive Event (σ : Type) where
  | declare (declaration : Declaration σ)
  | remove (name : String)
  | clear
  | execute (line : String)

structure Session (σ : Type) where
  console : Console σ
  host : σ

namespace Session

def start (settings : Settings) (host : σ) : Session σ := ⟨.ofSettings settings, host⟩

def step (session : Session σ) : Event σ → Session σ
  | .declare declaration =>
      let registry := (session.console.registry.declare declaration).1
      { session with console := { session.console with registry } }
  | .remove name =>
      let registry := (session.console.registry.remove name).2
      { session with console := { session.console with registry } }
  | .clear =>
      let registry := session.console.registry.clear
      { session with console := { session.console with registry } }
  | .execute line => { session with host := (session.console.execute line session.host).2 }

def run (session : Session σ) (events : List (Event σ)) : Session σ :=
  events.foldl step session

/-- No event but the ones for it changes a registry, and none the way lines are read. -/
theorem step_console {session : Session σ} (h : session.console.registry.Reachable)
    (event : Event σ) :
    (session.step event).console.registry.Reachable ∧
      (session.step event).console.parser = session.console.parser := by
  cases event with
  | declare declaration => exact ⟨h.declare declaration, rfl⟩
  | remove name => exact ⟨h.remove name, rfl⟩
  | clear => exact ⟨h.clear, rfl⟩
  | execute line => exact ⟨h, rfl⟩

theorem run_console {session : Session σ} (h : session.console.registry.Reachable)
    (events : List (Event σ)) :
    (session.run events).console.registry.Reachable ∧
      (session.run events).console.parser = session.console.parser := by
  induction events generalizing session with
  | nil => exact ⟨h, rfl⟩
  | cons event events ih =>
      obtain ⟨hstep, hparser⟩ := step_console h event
      obtain ⟨hrun, hsame⟩ := ih hstep
      exact ⟨hrun, hsame.trans hparser⟩

end Session

/-! ## Executing a line -/

theorem Registry.resolve_of_find? {registry : Registry σ} {line : CommandLine}
    {command : Command σ} (h : registry.find? line.command = some command) :
    registry.resolve line = command.invocation line := by
  rw [find?_eq_position?] at h
  rw [resolve, h]

theorem Registry.resolve_congr {registry other : Registry σ} {line : CommandLine}
    (h : other.find? line.command = registry.find? line.command) :
    other.resolve line = registry.resolve line := by
  rw [resolve, resolve, ← find?_eq_position?, ← find?_eq_position?, h]

theorem Registry.resolve_eq_ok {registry : Registry σ}
    (agreed : ∀ command ∈ registry.commands, command.Agreed) {line : CommandLine}
    {effect : σ → σ} :
    (∃ invocation, registry.resolve line = .ok invocation ∧ invocation.perform = effect) ↔
      ∃ command, registry.find? line.command = some command ∧ command.Runs line effect := by
  rw [resolve, ← find?_eq_position?]
  cases hfind : registry.find? line.command with
  | none => simp
  | some command =>
      have hmem : command ∈ registry.commands := by
        rw [find?_eq_position?] at hfind
        obtain ⟨i, -, hi⟩ := Option.bind_eq_some_iff.mp hfind
        exact List.mem_of_getElem? hi
      simp [Command.invocation_eq_ok (agreed command hmem)]

theorem Console.execute_eq_ok {console : Console σ} {line : String} {host after : σ} :
    console.execute line host = (.ok (), after) ↔
      ∃ parsed invocation, console.parse line = .ok parsed ∧
        console.registry.resolve parsed = .ok invocation ∧
        after = invocation.perform host := by
  unfold execute
  cases hparse : console.parse line with
  | error e => simp
  | ok parsed =>
      simp only [Registry.dispatch]
      cases hresolve : console.registry.resolve parsed with
      | error e => simp [hresolve]
      | ok invocation => simp [hresolve, eq_comm]

theorem Console.execute_cases (console : Console σ)
    (agreed : ∀ command ∈ console.registry.commands, command.Agreed) (line : String)
    (host : σ) :
    match console.execute line host with
    | (.ok (), after) => ∃ parsed command effect, console.parse line = .ok parsed ∧
        console.registry.find? parsed.command = some command ∧
        command.Runs parsed effect ∧ after = effect host
    | (.error _, after) => after = host ∧
        ∀ parsed command effect, console.parse line = .ok parsed →
          console.registry.find? parsed.command = some command →
          ¬ command.Runs parsed effect := by
  unfold execute
  cases hparse : console.parse line with
  | error e => exact ⟨rfl, by simp⟩
  | ok parsed =>
      simp only [Registry.dispatch]
      cases hresolve : console.registry.resolve parsed with
      | error e =>
          refine ⟨rfl, fun parsed' command effect hparsed hfind hruns => ?_⟩
          obtain rfl := Except.ok.inj hparsed
          obtain ⟨invocation, hinvocation, -⟩ :=
            (Registry.resolve_eq_ok agreed).mpr ⟨command, hfind, hruns⟩
          rw [hresolve] at hinvocation
          exact absurd hinvocation (by simp)
      | ok invocation =>
          obtain ⟨command, hfind, hruns⟩ :=
            (Registry.resolve_eq_ok agreed).mp ⟨invocation, hresolve, rfl⟩
          exact ⟨parsed, command, invocation.perform, rfl, hfind, hruns, rfl⟩

namespace Session

/-- **All or nothing.** In any session, a line that is executed with success has run the
handler of the command that it named before, once, with the line as it was read or with an
argument for every parameter; and a line that is refused has run nothing, and nothing could
have been run. Hosts are arbitrary, so one that counts the runs counts exactly these. -/
theorem execute_all_or_nothing (settings : Settings) (host : σ) (events : List (Event σ))
    (line : String) :
    let session := (start settings host).run events
    match session.console.execute line session.host with
    | (.ok (), after) => ∃ parsed command,
        session.console.parse line = .ok parsed ∧
        session.console.registry.find? parsed.command = some command ∧
        ((∃ run, command.handler = some (.raw run) ∧ after = run parsed session.host) ∨
          ∃ signature run, ∃ arguments : Arguments signature,
            command.handler = some (.typed signature run) ∧
            command.Binds parsed arguments ∧ after = run arguments session.host)
    | (.error _, after) => after = session.host ∧
        ∀ parsed command, session.console.parse line = .ok parsed →
          session.console.registry.find? parsed.command = some command →
          (∀ run, command.handler ≠ some (.raw run)) ∧
          ∀ signature run, ∀ arguments : Arguments signature,
            command.handler = some (.typed signature run) →
            ¬ command.Binds parsed arguments := by
  intro session
  have hstart : (start settings host).console.registry.Reachable := .empty _ _
  have hcases := session.console.execute_cases (run_console hstart events).1.agreed line session.host
  generalize session.console.execute line session.host = result at hcases
  obtain ⟨outcome, after⟩ := result
  cases outcome with
  | ok _ =>
      obtain ⟨parsed, command, effect, hparse, hfind, hruns, rfl⟩ := hcases
      refine ⟨parsed, command, hparse, hfind, ?_⟩
      cases hruns with
      | raw handler => exact Or.inl ⟨_, handler, rfl⟩
      | typed handler binds => exact Or.inr ⟨_, _, _, handler, binds, rfl⟩
  | error _ =>
      obtain ⟨rfl, hrefused⟩ := hcases
      refine ⟨rfl, fun parsed command hparse hfind => ⟨?_, ?_⟩⟩
      · intro run handler
        exact hrefused parsed command _ hparse hfind (.raw handler)
      · intro signature run arguments handler binds
        exact hrefused parsed command _ hparse hfind (.typed handler binds)

end Session

namespace Sample

/-- The handler adds one for each of its runs. -/
def Counts : Handler Nat → Prop
  | .raw run => ∀ line count, run line count = count + 1
  | .typed _ run => ∀ arguments count, run arguments count = count + 1

def lenient : Settings := ⟨⟨.single, true⟩, .sensitive⟩

def tick : Declaration Nat where
  name := "tick"
  items := []
  handler := some (.raw fun _ count => count + 1)

/-- The second type is the host's own and does not do without a text. -/
def weigh : Declaration Nat where
  name := "weigh"
  items := []
  handler := some (.typed [.plain .string, ⟨String, ⟨.string, false⟩, (·.bind Value.text?)⟩]
    fun _ count => count + 1)

def counting : Session Nat := (Session.start lenient 0).run [.declare tick, .declare weigh]

theorem counts_of_find? {name : String} {command : Command Nat} {handler : Handler Nat}
    (named : counting.console.registry.find? name = some command)
    (h : command.handler = some handler) : Counts handler := by
  have hdistinct : counting.console.registry.Distinct :=
    (Session.run_console (.empty .sensitive .single) [.declare tick, .declare weigh]).1.distinct
  rcases List.mem_cons.mp (hdistinct.find?_eq_some.mp named).1 with rfl | hmem
  · obtain rfl := Option.some.inj h
    exact fun _ _ => rfl
  · obtain rfl := List.mem_singleton.mp hmem
    obtain rfl := Option.some.inj h
    exact fun _ _ => rfl

end Sample

namespace Session

/-- Two lines that count, and one whose second argument does not convert. -/
theorem execute_all_or_nothing_counted :
    Sample.counting.console.execute "tick 1" 0 = (.ok (), 1) ∧
      Sample.counting.console.execute "weigh a b" 0 = (.ok (), 1) ∧
      ∃ error, Sample.counting.console.execute "weigh a null" 0 = (.error error, 0) := by
  have hline : ∀ line, (∃ error, Sample.counting.console.execute line 0 = (.error error, 0)) ∨
      Sample.counting.console.execute line 0 = (.ok (), 1) := by
    intro line
    have hall := execute_all_or_nothing Sample.lenient 0
      [.declare Sample.tick, .declare Sample.weigh] line
    dsimp only at hall
    split at hall
    · rename_i after hresult
      obtain ⟨parsed, command, -, hfind, hrun⟩ := hall
      have hafter : after = 1 := by
        rcases hrun with ⟨run, handler, rfl⟩ | ⟨signature, run, arguments, handler, -, rfl⟩
        · exact Sample.counts_of_find? hfind handler parsed 0
        · exact Sample.counts_of_find? hfind handler arguments 0
      rw [hafter] at hresult
      exact Or.inr hresult
    · rename_i error after hresult
      obtain ⟨rfl, -⟩ := hall
      exact Or.inl ⟨error, hresult⟩
  have hran : ∀ line, (Sample.counting.console.execute line 0).1 = .ok () →
      Sample.counting.console.execute line 0 = (.ok (), 1) := by
    intro line h
    refine (hline line).resolve_left ?_
    rintro ⟨error, herror⟩
    rw [herror] at h
    exact absurd h (by simp)
  exact ⟨hran _ (by decide +kernel), hran _ (by decide +kernel),
    (hline _).resolve_right (by decide +kernel)⟩

/-- `session.Makes events effects`: what the events do to the host, one after the other. -/
inductive Makes : Session σ → List (Event σ) → List (σ → σ) → Prop where
  | done (session : Session σ) : Makes session [] []
  | ran {session : Session σ} {line : String} {events : List (Event σ)}
      {effects : List (σ → σ)} {parsed : CommandLine} {command : Command σ}
      {effect : σ → σ} (parse : session.console.parse line = .ok parsed)
      (named : session.console.registry.find? parsed.command = some command)
      (runs : command.Runs parsed effect)
      (next : Makes { session with host := effect session.host } events effects) :
      Makes session (.execute line :: events) (effect :: effects)
  | refused {session : Session σ} {line : String} {events : List (Event σ)}
      {effects : List (σ → σ)}
      (refused : ∀ parsed command effect, session.console.parse line = .ok parsed →
        session.console.registry.find? parsed.command = some command →
        ¬ command.Runs parsed effect)
      (next : Makes session events effects) : Makes session (.execute line :: events) effects
  | other {session : Session σ} {event : Event σ} {events : List (Event σ)}
      {effects : List (σ → σ)} (other : ∀ line, event ≠ .execute line)
      (next : Makes (session.step event) events effects) : Makes session (event :: events) effects

/-- The host of a session is what the handlers that ran made of it, and nothing else. -/
theorem makes_run {session : Session σ} (h : session.console.registry.Reachable)
    (events : List (Event σ)) :
    ∃ effects, session.Makes events effects ∧
      (session.run events).host = effects.foldl (fun host effect => effect host) session.host := by
  induction events generalizing session with
  | nil => exact ⟨[], .done session, rfl⟩
  | cons event events ih =>
      cases event with
      | execute line =>
          have hcases := session.console.execute_cases h.agreed line session.host
          have hrun : session.run (.execute line :: events) =
              run { session with host := (session.console.execute line session.host).2 }
                events := rfl
          rw [hrun]
          generalize session.console.execute line session.host = result at hcases
          obtain ⟨outcome, after⟩ := result
          cases outcome with
          | error e =>
              obtain ⟨rfl, hrefused⟩ := hcases
              obtain ⟨effects, hmakes, hhost⟩ := ih h
              exact ⟨effects, .refused hrefused hmakes, hhost⟩
          | ok _ =>
              obtain ⟨parsed, command, effect, hparse, hfind, hruns, rfl⟩ := hcases
              let next : Session σ := { session with host := effect session.host }
              have hnext : next.console.registry.Reachable := h
              obtain ⟨effects, hmakes, hhost⟩ := ih hnext
              exact ⟨effect :: effects, .ran hparse hfind hruns hmakes, hhost⟩
      | declare declaration =>
          obtain ⟨effects, hmakes, hhost⟩ := ih (step_console h (.declare declaration)).1
          exact ⟨effects, .other (fun _ => by simp) hmakes, hhost⟩
      | remove name =>
          obtain ⟨effects, hmakes, hhost⟩ := ih (step_console h (.remove name)).1
          exact ⟨effects, .other (fun _ => by simp) hmakes, hhost⟩
      | clear =>
          obtain ⟨effects, hmakes, hhost⟩ := ih (step_console h .clear).1
          exact ⟨effects, .other (fun _ => by simp) hmakes, hhost⟩

end Session

end CommandConsole
