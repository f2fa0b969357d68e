import CommandConsole.Proofs.Binding

/-!
# Binding, outcome by outcome

Binding arguments to slots has four outcomes, and the counts and the types alone
decide which of them it is: too many arguments come before too few, these before
the first argument that is not accepted, and otherwise every slot is filled. The
slots that are filled hold the arguments that are not null, each in its place.

Main result (`bindSlots_exact`): each outcome arises exactly where its condition
holds.
-/

namespace CommandConsole

/-- The first `count` parameters are required, and the one behind them is not. -/
structure Parameter.Leading (parameters : List Parameter) (count : Nat) : Prop where
  required : ∀ i < count, ∃ parameter, parameters[i]? = some parameter ∧
    parameter.optional = false
  ends : ∀ parameter, parameters[count]? = some parameter → parameter.optional = true

theorem Parameter.minArguments_leading (parameters : List Parameter) :
    Parameter.Leading parameters (Parameter.minArguments parameters) := by
  induction parameters with
  | nil => exact ⟨fun i hi => absurd hi (Nat.not_lt_zero i), by simp⟩
  | cons first parameters ih =>
      by_cases hoptional : first.optional = true
      · have hmin : minArguments (first :: parameters) = 0 := by
          simp [minArguments, hoptional]
        rw [hmin]
        refine ⟨fun i hi => absurd hi (Nat.not_lt_zero i), fun parameter hparameter => ?_⟩
        obtain rfl := Option.some.inj hparameter
        exact hoptional
      · have hmin : minArguments (first :: parameters) = minArguments parameters + 1 := by
          simp [minArguments, hoptional]
        rw [hmin]
        refine ⟨fun i hi => ?_, ih.ends⟩
        cases i with
        | zero => exact ⟨first, rfl, Bool.eq_false_iff.mpr hoptional⟩
        | succ i => exact ih.required i (Nat.lt_of_succ_lt_succ hi)

/-! ## The argument that is not accepted -/

/-- Argument number `i` is there, is not null, and is not accepted by its parameter. -/
def Refused (parameters : List Parameter) (arguments : List Value) (i : Nat) : Prop :=
  ∃ parameter value, parameters[i]? = some parameter ∧ given? arguments i = some value ∧
    parameter.spec.type.accepts value = false

theorem not_refused_iff {parameters : List Parameter} {arguments : List Value} :
    (¬ ∃ i, Refused parameters arguments i) ↔
      ∀ i parameter, parameters[i]? = some parameter → ∀ value ∈ given? arguments i,
        parameter.spec.type.accepts value = true := by
  constructor
  · intro hnone i parameter hparameter value hvalue
    by_contra haccepts
    exact hnone ⟨i, parameter, value, hparameter, hvalue, Bool.eq_false_iff.mpr haccepts⟩
  · rintro haccepted ⟨i, parameter, value, hparameter, hvalue, hrefused⟩
    rw [haccepted i parameter hparameter value hvalue] at hrefused
    exact Bool.noConfusion hrefused

theorem FirstRefused.isRefused {parameters : List Parameter} {arguments : List Value} {i : Nat}
    {parameter : Parameter} {value : Value}
    (h : FirstRefused parameters arguments i parameter value) : Refused parameters arguments i :=
  ⟨parameter, value, h.declared, h.given, h.refused⟩

theorem FirstRefused.le {parameters : List Parameter} {arguments : List Value} {i j : Nat}
    {parameter : Parameter} {value : Value}
    (h : FirstRefused parameters arguments i parameter value)
    (hrefused : Refused parameters arguments j) : i ≤ j := by
  obtain ⟨other, given, hother, hgiven, hrefuses⟩ := hrefused
  apply Nat.le_of_not_lt
  intro hlt
  rw [h.before j hlt other hother given hgiven] at hrefuses
  exact Bool.noConfusion hrefuses

theorem FirstRefused.unique {parameters : List Parameter} {arguments : List Value} {i j : Nat}
    {parameter other : Parameter} {value given : Value}
    (h : FirstRefused parameters arguments i parameter value)
    (h' : FirstRefused parameters arguments j other given) :
    i = j ∧ parameter = other ∧ value = given := by
  obtain rfl := Nat.le_antisymm (h.le h'.isRefused) (h'.le h.isRefused)
  exact ⟨rfl, Option.some.inj (h.declared.symm.trans h'.declared),
    Option.some.inj (h.given.symm.trans h'.given)⟩

/-! ## The errors -/

theorem bindSlots_tooMany_iff {command : String} {parameters : List Parameter}
    {arguments : List Value} :
    bindSlots command parameters arguments =
        .error (.tooManyArguments command parameters.length arguments.length) ↔
      parameters.length < arguments.length := by
  constructor
  · intro h
    rcases bindSlots_error_cases h with ⟨hmany, -⟩ | ⟨-, -, heq⟩ | ⟨-, -, _, _, _, -, heq⟩
    · exact hmany
    · exact absurd heq (by simp)
    · exact absurd heq (by simp)
  · intro hmany
    simp [bindSlots, hmany]

theorem bindSlots_tooFew_iff {command : String} {parameters : List Parameter}
    {arguments : List Value} :
    bindSlots command parameters arguments =
        .error (.tooFewArguments command (Parameter.minArguments parameters) arguments.length) ↔
      arguments.length ≤ parameters.length ∧
        arguments.length < Parameter.minArguments parameters := by
  constructor
  · intro h
    rcases bindSlots_error_cases h with ⟨-, heq⟩ | ⟨hfew, hless, -⟩ | ⟨-, -, _, _, _, -, heq⟩
    · exact absurd heq (by simp)
    · exact ⟨hfew, hless⟩
    · exact absurd heq (by simp)
  · rintro ⟨hfew, hless⟩
    simp [bindSlots, Nat.not_lt.mpr hfew, hless]

/-- With neither too many nor too few arguments, one that is refused is an error. -/
theorem exists_firstRefused (command : String) {parameters : List Parameter}
    {arguments : List Value} (enough : Parameter.minArguments parameters ≤ arguments.length)
    (few : arguments.length ≤ parameters.length) {j : Nat}
    (hrefused : Refused parameters arguments j) :
    ∃ i parameter value, FirstRefused parameters arguments i parameter value ∧
      bindSlots command parameters arguments = .error
        (.typeMismatch command i parameter.spec.type.category value.category) := by
  rcases bindSlots_counted command enough few with ⟨slots, hbound⟩ | hfirst
  · obtain ⟨-, -, haccepted, -⟩ := bindSlots_eq_ok.mp hbound
    exact absurd ⟨j, hrefused⟩ (not_refused_iff.mpr haccepted)
  · exact hfirst

theorem bindSlots_mismatch_iff {command : String} {parameters : List Parameter}
    {arguments : List Value} {i : Nat} {expected supplied : Category} :
    bindSlots command parameters arguments =
        .error (.typeMismatch command i expected supplied) ↔
      Parameter.minArguments parameters ≤ arguments.length ∧
      arguments.length ≤ parameters.length ∧
      ∃ parameter value, FirstRefused parameters arguments i parameter value ∧
        expected = parameter.spec.type.category ∧ supplied = value.category := by
  constructor
  · intro h
    rcases bindSlots_error_cases h with
      ⟨-, heq⟩ | ⟨-, -, heq⟩ | ⟨hfew, henough, j, parameter, value, hfirst, heq⟩
    · exact absurd heq (by simp)
    · exact absurd heq (by simp)
    · obtain ⟨-, rfl, rfl, rfl⟩ := DispatchError.typeMismatch.inj heq
      exact ⟨henough, hfew, parameter, value, hfirst, rfl, rfl⟩
  · rintro ⟨henough, hfew, parameter, value, hfirst, rfl, rfl⟩
    obtain ⟨j, other, given, hother, hbound⟩ :=
      exists_firstRefused command henough hfew hfirst.isRefused
    obtain ⟨rfl, rfl, rfl⟩ := hfirst.unique hother
    exact hbound

/-! ## The slots -/

theorem given?_ne_null (arguments : List Value) (i : Nat) : given? arguments i ≠ some .null := by
  intro h
  obtain ⟨-, hne⟩ := Option.filter_eq_some_iff.mp h
  simp at hne

/-- With a place for each of them, the arguments that are not null are all there, in their
order. -/
theorem filterMap_given? {arguments : List Value} {count : Nat}
    (h : arguments.length ≤ count) :
    (List.range count).filterMap (given? arguments) = arguments.filter (· ≠ .null) := by
  induction arguments generalizing count with
  | nil =>
      apply List.filterMap_eq_nil_iff.mpr
      intro i _
      exact given?_length (Nat.zero_le i)
  | cons value arguments ih =>
      obtain ⟨count, rfl⟩ := Nat.exists_eq_add_of_le' (Nat.le_trans (Nat.succ_pos _) h)
      have hrest : (List.range count).filterMap (given? (value :: arguments) ∘ Nat.succ) =
          arguments.filter (· ≠ .null) := by
        rw [← ih (Nat.le_of_succ_le_succ h)]
        exact List.filterMap_congr fun i _ => (given?_tail (value :: arguments) i).symm
      rw [List.range_succ_eq_map, List.filterMap_cons, List.filterMap_map, hrest]
      by_cases hnull : value = .null
      · simp [given?, Option.filter_some, hnull]
      · simp [given?, Option.filter_some, hnull]

/-- **Every outcome of binding.** Too many arguments are an error, otherwise too few are,
otherwise the first one that is neither null nor accepted is, if there is such a one, and
otherwise there is a slot for each parameter: it holds the argument with its number, or
nothing if that is missing or null. So no slot holds a null, and the slots that hold
something hold all other arguments once and in their order. -/
theorem bindSlots_exact (command : String) (parameters : List Parameter)
    (arguments : List Value) :
    let max := parameters.length
    let min := Parameter.minArguments parameters
    let supplied := arguments.length
    let outcome := bindSlots command parameters arguments
    Parameter.Leading parameters min ∧
    (outcome = .error (.tooManyArguments command max supplied) ↔ max < supplied) ∧
    (outcome = .error (.tooFewArguments command min supplied) ↔
      supplied ≤ max ∧ supplied < min) ∧
    ((∃ i expected found, outcome = .error (.typeMismatch command i expected found)) ↔
      min ≤ supplied ∧ supplied ≤ max ∧ ∃ i, Refused parameters arguments i) ∧
    (∀ i expected found, outcome = .error (.typeMismatch command i expected found) ↔
      min ≤ supplied ∧ supplied ≤ max ∧
      ∃ parameter value, FirstRefused parameters arguments i parameter value ∧
        expected = parameter.spec.type.category ∧ found = value.category) ∧
    ((∃ slots, outcome = .ok slots) ↔
      min ≤ supplied ∧ supplied ≤ max ∧ ¬ ∃ i, Refused parameters arguments i) ∧
    ∀ slots, outcome = .ok slots →
      slots.length = max ∧ (∀ i < max, slots[i]? = some (given? arguments i)) ∧
      some .null ∉ slots ∧ slots.reduceOption = arguments.filter (· ≠ .null) := by
  intro max min supplied outcome
  refine ⟨Parameter.minArguments_leading parameters, bindSlots_tooMany_iff,
    bindSlots_tooFew_iff, ?_, fun i expected found => bindSlots_mismatch_iff, ?_, ?_⟩
  · constructor
    · rintro ⟨i, expected, found, hbound⟩
      obtain ⟨henough, hfew, parameter, value, hfirst, -⟩ := bindSlots_mismatch_iff.mp hbound
      exact ⟨henough, hfew, i, hfirst.isRefused⟩
    · rintro ⟨henough, hfew, i, hrefused⟩
      obtain ⟨j, parameter, value, -, hbound⟩ := exists_firstRefused command henough hfew hrefused
      exact ⟨j, _, _, hbound⟩
  · rw [not_refused_iff]
    constructor
    · rintro ⟨slots, hbound⟩
      obtain ⟨henough, hfew, haccepted, -⟩ := bindSlots_eq_ok.mp hbound
      exact ⟨henough, hfew, haccepted⟩
    · rintro ⟨henough, hfew, haccepted⟩
      exact ⟨_, bindSlots_eq_ok.mpr ⟨henough, hfew, haccepted, rfl⟩⟩
  · intro slots hbound
    obtain ⟨-, hfew, -, rfl⟩ := bindSlots_eq_ok.mp hbound
    refine ⟨by simp [max], ?_, ?_, ?_⟩
    · intro i hi
      rw [List.getElem?_map, List.getElem?_range hi, Option.map_some]
    · intro hmem
      obtain ⟨i, -, hnull⟩ := List.mem_map.mp hmem
      exact given?_ne_null arguments i hnull
    · rw [List.reduceOption, List.filterMap_map]
      exact filterMap_given? hfew

end CommandConsole
