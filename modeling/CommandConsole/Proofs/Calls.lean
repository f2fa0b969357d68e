import CommandConsole.Proofs.Typing

/-!
# Calls of typed handlers

A typed handler is called with slots, and it takes one for each type of its
signature: a slot that is not there counts as empty, and one behind the signature
is passed over. If all of them convert, the handler runs once with what they give.
Otherwise it does not run, and the error tells of the first one that does not
convert (`Arguments.FirstFailed`).

Handlers are called again and again. What a call answers depends on its own slots
only, and the host afterwards is what the runs made of it (`Handler.Serves`), so a
call that fails might as well not have been made.

Main result (`Handler.calls_exact`).
-/

namespace CommandConsole

variable {σ : Type}

/-! ## Slots and arguments -/

def ParameterType.convertSlot (type : ParameterType) (slots : List (Option Value)) (i : Nat) :
    Option type.Carrier :=
  type.convert slots[i]?.join

namespace Arguments

/-- The arguments are what the slots give, each in its place. -/
def Converted {signature : List ParameterType} (arguments : Arguments signature)
    (slots : List (Option Value)) : Prop :=
  ∀ i : Fin signature.length, (signature.get i).convertSlot slots i = some (arguments.get i)

/-- Slot number `i` is the first one that does not convert. -/
structure FirstFailed (signature : List ParameterType) (slots : List (Option Value))
    (i : Fin signature.length) : Prop where
  fails : (signature.get i).convertSlot slots i = none
  before : ∀ j < i, ((signature.get j).convertSlot slots j).isSome = true

/-- The error for slot number `i`. What is missing has no category. -/
def slotError (signature : List ParameterType) (slots : List (Option Value))
    (i : Fin signature.length) : BindingError where
  index := i
  expected := (signature.get i).spec.type.category
  supplied := (slots[i.val]?.join.map Value.category).getD .unknown

theorem convertSlot_tail (type : ParameterType) (slots : List (Option Value)) (i : Nat) :
    type.convertSlot slots.tail i = type.convertSlot slots (i + 1) := by
  rw [ParameterType.convertSlot, List.getElem?_tail]
  rfl

theorem FirstFailed.cons {type : ParameterType} {signature : List ParameterType}
    {slots : List (Option Value)} {i : Fin signature.length}
    (first : (type.convertSlot slots 0).isSome = true)
    (h : FirstFailed signature slots.tail i) : FirstFailed (type :: signature) slots i.succ where
  fails := by
    have hfails := h.fails
    rw [convertSlot_tail] at hfails
    exact hfails
  before := by
    intro j hj
    cases j using Fin.cases with
    | zero => exact first
    | succ j =>
        have hbefore := h.before j (Fin.succ_lt_succ_iff.mp hj)
        rw [convertSlot_tail] at hbefore
        exact hbefore

theorem FirstFailed.unique {signature : List ParameterType} {slots : List (Option Value)}
    {i j : Fin signature.length} (hi : FirstFailed signature slots i)
    (hj : FirstFailed signature slots j) : i = j := by
  rcases lt_trichotomy i j with hlt | heq | hlt
  · have hsome := hj.before i hlt
    rw [hi.fails] at hsome
    exact Bool.noConfusion hsome
  · exact heq
  · have hsome := hi.before j hlt
    rw [hj.fails] at hsome
    exact Bool.noConfusion hsome

theorem firstFailed_of_ofSlots {signature : List ParameterType} {index : Nat}
    {slots : List (Option Value)} {error : BindingError}
    (h : ofSlots index signature slots = .error error) :
    ∃ i, FirstFailed signature slots i ∧
      error = { slotError signature slots i with index := index + i } := by
  induction signature generalizing index slots with
  | nil => exact absurd h (by simp [ofSlots])
  | cons type signature ih =>
      have hhead : slots.head? = slots[0]? := List.head?_eq_getElem?
      simp only [ofSlots, hhead] at h
      split at h
      · rename_i hnone
        obtain rfl := Except.error.inj h
        refine ⟨⟨0, Nat.succ_pos _⟩, ⟨hnone, ?_⟩, rfl⟩
        intro j hj
        exact absurd hj (Nat.not_lt_zero _)
      · rename_i argument hargument
        split at h
        · rename_i hrest
          obtain rfl := Except.error.inj h
          obtain ⟨i, hfailed, rfl⟩ := ih hrest
          have hfirst : (type.convertSlot slots 0).isSome = true :=
            Option.isSome_iff_exists.mpr ⟨argument, hargument⟩
          refine ⟨i.succ, hfailed.cons hfirst, ?_⟩
          simp [slotError, Nat.add_assoc, Nat.add_comm 1]
        · exact absurd h (by simp)

theorem ofSlots_eq_error {signature : List ParameterType} {slots : List (Option Value)}
    {error : BindingError} :
    ofSlots 0 signature slots = .error error ↔
      ∃ i, FirstFailed signature slots i ∧ error = slotError signature slots i := by
  have hfailed : ∀ {error}, ofSlots 0 signature slots = .error error →
      ∃ i, FirstFailed signature slots i ∧ error = slotError signature slots i := by
    intro error h
    obtain ⟨i, hi, rfl⟩ := firstFailed_of_ofSlots h
    refine ⟨i, hi, ?_⟩
    rw [Nat.zero_add]
    rfl
  refine ⟨hfailed, ?_⟩
  rintro ⟨i, hi, rfl⟩
  cases hresult : ofSlots 0 signature slots with
  | ok arguments =>
      have hsome := ofSlots_eq_ok.mp hresult i
      have hnone := hi.fails
      rw [ParameterType.convertSlot, hsome] at hnone
      exact absurd hnone (by simp)
  | error error =>
      obtain ⟨j, hj, rfl⟩ := hfailed hresult
      rw [hi.unique hj]

theorem converted_iff {signature : List ParameterType} {slots : List (Option Value)}
    {arguments : Arguments signature} :
    arguments.Converted slots ↔ ofSlots 0 signature slots = .ok arguments :=
  ofSlots_eq_ok.symm

theorem exists_converted_iff {signature : List ParameterType} {slots : List (Option Value)} :
    (∃ arguments : Arguments signature, arguments.Converted slots) ↔
      ∀ i : Fin signature.length, ((signature.get i).convertSlot slots i).isSome = true := by
  constructor
  · rintro ⟨arguments, hconverted⟩ i
    rw [hconverted i]
    rfl
  · intro hall
    have hslots : ∃ arguments : Arguments signature, ofSlots 0 signature slots = .ok arguments :=
      exists_ofSlots hall
    obtain ⟨arguments, harguments⟩ := hslots
    exact ⟨arguments, converted_iff.mpr harguments⟩

end Arguments

/-! ## One call -/

namespace Handler

variable {signature : List ParameterType}

theorem call_converted {slots : List (Option Value)} {arguments : Arguments signature}
    (h : arguments.Converted slots) (run : Arguments signature → σ → σ) (host : σ) :
    call run slots host = (.ok (), run arguments host) := by
  rw [call, invocation, Arguments.converted_iff.mp h]
  rfl

theorem call_failed {slots : List (Option Value)} {i : Fin signature.length}
    (h : Arguments.FirstFailed signature slots i) (run : Arguments signature → σ → σ) (host : σ) :
    call run slots host = (.error (Arguments.slotError signature slots i), host) := by
  rw [call, invocation, Arguments.ofSlots_eq_error.mpr ⟨i, h, rfl⟩]
  rfl

theorem converted_or_failed (signature : List ParameterType) (slots : List (Option Value)) :
    (∃ arguments : Arguments signature, arguments.Converted slots) ∨
      ∃ i, Arguments.FirstFailed signature slots i := by
  cases hresult : Arguments.ofSlots 0 signature slots with
  | ok arguments => exact Or.inl ⟨arguments, Arguments.converted_iff.mpr hresult⟩
  | error error =>
      obtain ⟨i, hi, -⟩ := Arguments.ofSlots_eq_error.mp hresult
      exact Or.inr ⟨i, hi⟩

theorem call_eq_ok {run : Arguments signature → σ → σ} {slots : List (Option Value)}
    {host after : σ} :
    call run slots host = (.ok (), after) ↔
      ∃ arguments : Arguments signature, arguments.Converted slots ∧ after = run arguments host := by
  constructor
  · intro h
    rcases converted_or_failed signature slots with ⟨arguments, hconverted⟩ | ⟨i, hfailed⟩
    · rw [call_converted hconverted] at h
      exact ⟨arguments, hconverted, (Prod.mk.inj h).2.symm⟩
    · rw [call_failed hfailed] at h
      exact absurd (Prod.mk.inj h).1 (by simp)
  · rintro ⟨arguments, hconverted, rfl⟩
    exact call_converted hconverted run host

theorem call_eq_error {run : Arguments signature → σ → σ} {slots : List (Option Value)}
    {host after : σ} {error : BindingError} :
    call run slots host = (.error error, after) ↔
      after = host ∧ ∃ i, Arguments.FirstFailed signature slots i ∧
        error = Arguments.slotError signature slots i := by
  constructor
  · intro h
    rcases converted_or_failed signature slots with ⟨arguments, hconverted⟩ | ⟨i, hfailed⟩
    · rw [call_converted hconverted] at h
      exact absurd (Prod.mk.inj h).1 (by simp)
    · rw [call_failed hfailed] at h
      obtain ⟨herror, rfl⟩ := Prod.mk.inj h
      exact ⟨rfl, i, hfailed, (Except.error.inj herror).symm⟩
  · rintro ⟨rfl, i, hfailed, rfl⟩
    exact call_failed hfailed run after

/-- Dispatching a line calls the handler of a typed command with the slots of its arguments.
A slot that does not convert is reported as an argument of the wrong type. -/
theorem dispatch_eq_call {registry : Registry σ} {line : CommandLine} {command : Command σ}
    {run : Arguments signature → σ → σ} {slots : List (Option Value)}
    (named : registry.find? line.command = some command)
    (handler : command.handler = some (.typed signature run))
    (bound : bindSlots command.name command.parameters line.arguments = .ok slots) (host : σ) :
    registry.dispatch line host =
      ((call run slots host).1.mapError fun error =>
        .typeMismatch command.name error.index error.expected error.supplied,
       (call run slots host).2) := by
  rw [Registry.dispatch, Registry.resolve_of_find? named, Command.invocation]
  simp only [handler, bound, call]
  cases Handler.invocation run slots with
  | error error => rfl
  | ok invocation => rfl

/-! ## Calls one after the other -/

/-- Calls a typed handler with slots again and again: what each call answers, and the host after
the last. -/
def calls (run : Arguments signature → σ → σ) :
    List (List (Option Value)) → σ → List (Except BindingError Unit) × σ
  | [], host => ([], host)
  | slots :: rest, host =>
      let now := call run slots host
      let later := calls run rest now.2
      (now.1 :: later.1, later.2)

/-- `Serves signature sequence outcomes made`: calls with these slots have these outcomes, and
make the handler run with these arguments. -/
inductive Serves (signature : List ParameterType) : List (List (Option Value)) →
    List (Except BindingError Unit) → List (Arguments signature) → Prop where
  | done : Serves signature [] [] []
  | ran {slots : List (Option Value)} {arguments : Arguments signature}
      {sequence : List (List (Option Value))} {outcomes : List (Except BindingError Unit)}
      {made : List (Arguments signature)} (converted : arguments.Converted slots)
      (next : Serves signature sequence outcomes made) :
      Serves signature (slots :: sequence) (.ok () :: outcomes) (arguments :: made)
  | failed {slots : List (Option Value)} {i : Fin signature.length}
      {sequence : List (List (Option Value))} {outcomes : List (Except BindingError Unit)}
      {made : List (Arguments signature)} (failed : Arguments.FirstFailed signature slots i)
      (next : Serves signature sequence outcomes made) :
      Serves signature (slots :: sequence)
        (.error (Arguments.slotError signature slots i) :: outcomes) made

theorem exists_serves (signature : List ParameterType) (sequence : List (List (Option Value))) :
    ∃ outcomes made, Serves signature sequence outcomes made := by
  induction sequence with
  | nil => exact ⟨[], [], .done⟩
  | cons slots sequence ih =>
      obtain ⟨outcomes, made, hserves⟩ := ih
      rcases converted_or_failed signature slots with ⟨arguments, hconverted⟩ | ⟨i, hfailed⟩
      · exact ⟨_, _, .ran hconverted hserves⟩
      · exact ⟨_, _, .failed hfailed hserves⟩

theorem Serves.calls_eq {sequence : List (List (Option Value))}
    {outcomes : List (Except BindingError Unit)} {made : List (Arguments signature)}
    (h : Serves signature sequence outcomes made) (run : Arguments signature → σ → σ) (host : σ) :
    calls run sequence host =
      (outcomes, made.foldl (fun host arguments => run arguments host) host) := by
  induction h generalizing host with
  | done => rfl
  | ran hconverted _ ih =>
      rw [calls, call_converted hconverted]
      simp only [ih]
      rfl
  | failed hfailed _ ih =>
      rw [calls, call_failed hfailed]
      simp only [ih]

theorem calls_append (run : Arguments signature → σ → σ)
    (before after : List (List (Option Value))) (host : σ) :
    calls run (before ++ after) host =
      ((calls run before host).1 ++ (calls run after (calls run before host).2).1,
       (calls run after (calls run before host).2).2) := by
  induction before generalizing host with
  | nil => rfl
  | cons slots before ih =>
      rw [List.cons_append, calls, calls, ih]
      rfl

theorem length_calls (run : Arguments signature → σ → σ) (sequence : List (List (Option Value)))
    (host : σ) : (calls run sequence host).1.length = sequence.length := by
  induction sequence generalizing host with
  | nil => rfl
  | cons slots sequence ih => simp [calls, ih]

/-- Without a call that fails, the others go as they did with it. -/
theorem calls_failed {slots : List (Option Value)} {i : Fin signature.length}
    (h : Arguments.FirstFailed signature slots i) (run : Arguments signature → σ → σ)
    (before after : List (List (Option Value))) (host : σ) :
    ((calls run (before ++ slots :: after) host).1.eraseIdx before.length,
      (calls run (before ++ slots :: after) host).2) = calls run (before ++ after) host := by
  have hlength := length_calls run before host
  rw [calls_append, calls_append, calls, call_failed h]
  simp only
  rw [List.eraseIdx_append_of_length_le (Nat.le_of_eq hlength), hlength, Nat.sub_self]
  rfl

/-- **Typed calls.** A call runs the handler, once, with the arguments that its slots give, and
does so exactly if every slot converts. Otherwise it leaves the host alone and tells the number
of the first slot that does not convert, the category of its type, and that of the value in it.
In a sequence of calls every call goes so, whatever the others were, and leaving out one that
fails changes no other. Dispatching a line is such a call. A type of the console converts the
values that it accepts, so no null, and has a default for what is not there. -/
theorem calls_exact (run : Arguments signature → σ → σ) :
    (∀ slots host after, call run slots host = (.ok (), after) ↔
      ∃ arguments : Arguments signature, arguments.Converted slots ∧
        after = run arguments host) ∧
    (∀ slots, (∃ arguments : Arguments signature, arguments.Converted slots) ↔
      ∀ i : Fin signature.length, ((signature.get i).convertSlot slots i).isSome = true) ∧
    (∀ slots host after error, call run slots host = (.error error, after) ↔
      after = host ∧ ∃ i, Arguments.FirstFailed signature slots i ∧
        error = Arguments.slotError signature slots i) ∧
    (∀ sequence, ∃ outcomes made, Serves signature sequence outcomes made ∧
      ∀ host, calls run sequence host =
        (outcomes, made.foldl (fun host arguments => run arguments host) host)) ∧
    (∀ before slots after host i, Arguments.FirstFailed signature slots i →
      ((calls run (before ++ slots :: after) host).1.eraseIdx before.length,
        (calls run (before ++ slots :: after) host).2) = calls run (before ++ after) host) ∧
    (∀ (registry : Registry σ) line command slots host, registry.find? line.command = some command →
      command.handler = some (.typed signature run) →
      bindSlots command.name command.parameters line.arguments = .ok slots →
      registry.dispatch line host =
        ((call run slots host).1.mapError fun error =>
          .typeMismatch command.name error.index error.expected error.supplied,
         (call run slots host).2)) ∧
    ∀ type : ValueType,
      (∀ value, ((ParameterType.plain type).convert (some value)).isSome = type.accepts value ∧
        ((ParameterType.nullable type).convert (some value)).isSome = type.accepts value) ∧
      type.accepts .null = false ∧
      (ParameterType.plain type).convert none = some type.default ∧
      (ParameterType.nullable type).convert none = some none := by
  refine ⟨fun slots host after => call_eq_ok, fun slots => Arguments.exists_converted_iff,
    fun slots host after error => call_eq_error, ?_, ?_, ?_, ?_⟩
  · intro sequence
    obtain ⟨outcomes, made, hserves⟩ := exists_serves signature sequence
    exact ⟨outcomes, made, hserves, hserves.calls_eq run⟩
  · intro before slots after host i hfailed
    exact calls_failed hfailed run before after host
  · intro registry line command slots host named handler bound
    exact dispatch_eq_call named handler bound host
  · intro type
    have hplain : (ParameterType.plain type).BuiltIn := ⟨⟨type, false⟩, rfl⟩
    have hnullable : (ParameterType.nullable type).BuiltIn := ⟨⟨type, true⟩, rfl⟩
    refine ⟨fun value => ⟨hplain.isSome_convert value, hnullable.isSome_convert value⟩, ?_,
      rfl, rfl⟩
    cases type <;> rfl

end Handler

namespace Sample

/-- Two types of the console, and one that a host adds: a text that must be there. -/
def noted : List ParameterType :=
  [.plain .string, .nullable .bool, ⟨String, ⟨.string, false⟩, fun given => given.bind Value.text?⟩]

def note (arguments : Arguments noted) (host : String) : String :=
  let text : String := arguments.1
  let added : String := arguments.2.2.1
  host ++ text ++ added

end Sample

/-- A name that is read, then a null and a text that is missing. -/
theorem Handler.calls_exact_sample :
    call Sample.note [some (.identifier "a"), none, some (.string "!"), some .null] "" =
      (.ok (), "a!") ∧
    call Sample.note [none, some .null, none] "a!" = (.error ⟨1, .bool, .unknown⟩, "a!") ∧
    ∀ before after host,
      (calls Sample.note (before ++ [none, some .null, none] :: after) host).2 =
        (calls Sample.note (before ++ after) host).2 := by
  obtain ⟨hran, -, hfailed, -, hwithout, -⟩ := calls_exact Sample.note
  have hnull : Arguments.FirstFailed Sample.noted [none, some .null, none] ⟨1, by decide⟩ :=
    ⟨rfl, by decide⟩
  refine ⟨(hran _ _ _).mpr ⟨("a", none, "!", ()), ?_, rfl⟩,
    (hfailed _ _ _ _).mpr ⟨rfl, _, hnull, rfl⟩, ?_⟩
  · intro i
    match i with
    | ⟨0, _⟩ => rfl
    | ⟨1, _⟩ => rfl
    | ⟨2, _⟩ => rfl
  · intro before after host
    rw [← hwithout before _ after host _ hnull]

end CommandConsole
