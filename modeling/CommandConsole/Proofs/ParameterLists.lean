import CommandConsole.Proofs.Rollback

/-!
# Lists of parameters

Parameters are declared one after the other until one is refused. Which of them is,
and why, can be read off the list (`Parameter.Unfit`, `Parameter.fault`): its place
may be taken by none any more, its type may be foreign to the precision, or it is
required and stands behind an optional one.

Main result (`Registry.declare_parameters`): a list is declared up to the first of
its parameters that is unfit.
-/

namespace CommandConsole

variable {σ : Type}

/-- Parameter number `k` of the list may not stand there. -/
def Parameter.Unfit (precision : Precision) (parameters : List Parameter) (k : Nat) : Prop :=
  ∃ parameter, parameters[k]? = some parameter ∧
    (maxParameters ≤ k ∨ parameter.spec.type.isAllowed precision = false ∨
      parameter.optional = false ∧ ∃ earlier ∈ parameters.take k, earlier.optional = true)

/-- The error for parameter number `k` of a command, if it is unfit: of several reasons the
number counts first, then the type. -/
def Parameter.fault (command : String) (precision : Precision) (k : Nat) (parameter : Parameter) :
    DeclarationError :=
  if maxParameters ≤ k then .tooManyParameters command maxParameters
  else if parameter.spec.type.isAllowed precision = false then
    .invalidArgumentType command parameter.spec precision
  else .requiredAfterOptional command k

def Command.withParameters (name : String) (parameters : List Parameter) : Command σ :=
  { Command.named name with parameters := parameters }

/-! ## One parameter -/

theorem Command.incomplete_parameters (name : String) (parameters : List Parameter) :
    (Command.incomplete name (parameters.map DeclarationItem.parameter) : Command σ) =
      .withParameters name parameters := by
  have haliases : (parameters.map DeclarationItem.parameter).filterMap DeclarationItem.alias? =
      [] := by
    simp [List.filterMap_map, List.filterMap_eq_nil_iff, DeclarationItem.alias?]
  have hhelp : (parameters.map DeclarationItem.parameter).filterMap DeclarationItem.help? = [] := by
    simp [List.filterMap_map, List.filterMap_eq_nil_iff, DeclarationItem.help?]
  have hparameters : (parameters.map DeclarationItem.parameter).filterMap
      DeclarationItem.parameter? = parameters := by
    rw [List.filterMap_map]
    exact List.filterMap_some
  rw [incomplete, haliases, hhelp, hparameters]
  rfl

theorem Draft.error_of_addParameter {draft : Draft σ} {parameter : Parameter}
    {error : DeclarationError} (h : draft.add (.parameter parameter) = .error error) :
    error = parameter.fault draft.command.name draft.precision
      draft.command.parameters.length := by
  simp only [add, addParameter] at h
  rw [Parameter.fault]
  split at h
  · rename_i hfull
    rw [if_pos hfull]
    exact (Except.error.inj h).symm
  · rename_i hroom
    rw [if_neg hroom]
    split at h
    · rename_i refusal hrefused
      obtain ⟨spec, hfound, rfl⟩ := Option.map_eq_some_iff.mp hrefused
      obtain rfl := List.mem_singleton.mp (List.mem_of_find?_eq_some hfound)
      have hforeign := List.find?_some hfound
      rw [if_pos (by simpa using hforeign)]
      exact (Except.error.inj h).symm
    · rename_i haccepted
      have hallowed := typeError?_eq_none.mp haccepted _ List.mem_cons_self
      rw [if_neg (by simp [hallowed])]
      split at h
      · exact (Except.error.inj h).symm
      · exact absurd h (by simp)

/-- Behind the parameters in front of it, one is taken exactly if it is fit. -/
theorem Draft.takes_iff_not_unfit {registry : Registry σ} {name : String}
    {parameters : List Parameter} {k : Nat} {parameter : Parameter}
    (h : parameters[k]? = some parameter) :
    (registry.drafted name ((parameters.map DeclarationItem.parameter).take k)).Takes
        (.parameter parameter) ↔
      ¬ Parameter.Unfit registry.precision parameters k := by
  have hlength : (parameters.take k).length = k :=
    List.length_take_of_le (Nat.le_of_lt (List.getElem?_eq_some_iff.mp h).1)
  rw [← List.map_take, Registry.drafted, Command.incomplete_parameters]
  simp only [Takes, Command.withParameters, hlength]
  constructor
  · rintro ⟨hroom, hallowed, horder⟩ ⟨other, hother, hunfit⟩
    obtain rfl := Option.some.inj (h.symm.trans hother)
    rcases hunfit with hfull | hforeign | ⟨hrequired, earlier, hearlier, hoptional⟩
    · exact absurd hroom (Nat.not_lt.mpr hfull)
    · rw [hallowed] at hforeign
      exact Bool.noConfusion hforeign
    · rcases horder with horder | horder
      · rw [horder] at hrequired
        exact Bool.noConfusion hrequired
      · rw [horder earlier hearlier] at hoptional
        exact Bool.noConfusion hoptional
  · intro hfit
    refine ⟨?_, ?_, ?_⟩
    · by_contra hfull
      exact hfit ⟨parameter, h, Or.inl (Nat.le_of_not_lt hfull)⟩
    · by_contra hforeign
      exact hfit ⟨parameter, h, Or.inr (Or.inl (Bool.eq_false_iff.mpr hforeign))⟩
    · by_contra horder
      obtain ⟨hrequired, hlate⟩ := not_or.mp horder
      push Not at hlate
      obtain ⟨earlier, hearlier, hoptional⟩ := hlate
      exact hfit ⟨parameter, h, Or.inr (Or.inr ⟨Bool.eq_false_iff.mpr hrequired, earlier, hearlier,
        by simpa using hoptional⟩)⟩

/-! ## All of them -/

/-- Where all steps are accepted, each of them could be taken behind those in front of it. -/
theorem Draft.takes_of_addAll {registry : Registry σ} {name : String}
    {done items : List DeclarationItem} {index : Nat} {next : Draft σ}
    (h : (registry.drafted name done).addAll index items = (next, none)) {k : Nat}
    {item : DeclarationItem} (hitem : items[k]? = some item) :
    (registry.drafted name (done ++ items.take k)).Takes item := by
  induction items generalizing done index k with
  | nil => exact absurd hitem (by simp)
  | cons first items ih =>
      rw [addAll] at h
      split at h
      · exact absurd (congrArg Prod.snd h) (by simp)
      · rename_i following hfirst
        cases k with
        | zero =>
            obtain rfl := Option.some.inj hitem
            rw [List.take_zero, List.append_nil]
            exact (add_eq_ok.mp hfirst).1
        | succ k =>
            obtain rfl := add_drafted hfirst
            have htakes := ih h hitem
            rw [List.append_assoc] at htakes
            exact htakes

/-- Parameters are all fit and declared, or one is not and they are declared up to the first
such. -/
theorem Draft.addAll_parameters (registry : Registry σ) (name : String)
    (parameters : List Parameter) :
    let chain := parameters.map DeclarationItem.parameter
    ((∀ k, ¬ Parameter.Unfit registry.precision parameters k) ∧
      (registry.drafted name []).addAll 0 chain = (registry.drafted name chain, none)) ∨
    ∃ k parameter, parameters[k]? = some parameter ∧
      Parameter.Unfit registry.precision parameters k ∧
      (∀ j < k, ¬ Parameter.Unfit registry.precision parameters j) ∧
      (registry.drafted name []).addAll 0 chain = (registry.drafted name (chain.take k),
        some ⟨.item k, parameter.fault name registry.precision k⟩) := by
  intro chain
  have hfit : ∀ count, (registry.drafted name []).addAll 0 (chain.take count) =
        (registry.drafted name (chain.take count), none) →
      ∀ j < count, ¬ Parameter.Unfit registry.precision parameters j := by
    intro count htaken j hj hunfit
    obtain ⟨parameter, hparameter, hreason⟩ := hunfit
    have hitem : (chain.take count)[j]? = some (.parameter parameter) := by
      rw [List.getElem?_take_of_lt hj, List.getElem?_map, hparameter]
      rfl
    have htakes := takes_of_addAll htaken hitem
    rw [List.nil_append, List.take_take, Nat.min_eq_left (Nat.le_of_lt hj)] at htakes
    exact (takes_iff_not_unfit hparameter).mp htakes ⟨parameter, hparameter, hreason⟩
  rcases Draft.addAll_drafted registry name [] 0 chain with
    hall | ⟨k, item, error, hitem, herror, hends, htaken⟩
  · left
    refine ⟨fun k hunfit => ?_, hall⟩
    have hk : k < chain.length := by
      obtain ⟨parameter, hparameter, -⟩ := hunfit
      rw [List.length_map]
      exact (List.getElem?_eq_some_iff.mp hparameter).1
    refine hfit chain.length ?_ k hk hunfit
    rwa [List.take_length]
  · right
    rw [List.nil_append] at herror hends htaken
    obtain ⟨parameter, hparameter, rfl⟩ := Option.map_eq_some_iff.mp
      ((List.getElem?_map ..).symm.trans hitem)
    have hlength : (parameters.take k).length = k :=
      List.length_take_of_le (Nat.le_of_lt (List.getElem?_eq_some_iff.mp hparameter).1)
    refine ⟨k, parameter, hparameter, ?_, hfit k htaken, ?_⟩
    · by_contra hnot
      have htakes : (registry.drafted name (chain.take k)).Takes (.parameter parameter) :=
        (takes_iff_not_unfit hparameter).mpr hnot
      rw [add_eq_ok.mpr ⟨htakes, rfl⟩] at herror
      exact absurd herror (by simp)
    · obtain rfl := error_of_addParameter herror
      rw [hends, Nat.zero_add, ← List.map_take, Registry.drafted, Command.incomplete_parameters]
      simp only [Command.withParameters, hlength]
      rfl

namespace Registry

/-- A declaration that is refused at a step leaves what the steps before it made. -/
theorem declare_stopped {registry : Registry σ} {declaration : Declaration σ} {start : Draft σ}
    {taken : List DeclarationItem} {fault : DeclarationFault}
    (hstart : registry.draft declaration.name = .ok start)
    (h : (registry.drafted declaration.name []).addAll 0 declaration.items =
      (registry.drafted declaration.name taken, some fault)) :
    registry.declare declaration =
      ({ registry with commands := registry.commands ++ [.incomplete declaration.name taken] },
        some fault) := by
  obtain ⟨-, rfl⟩ := draft_eq_ok.mp hstart
  have hblank : (⟨registry.commands, Command.named declaration.name, registry.caseRule,
      registry.precision⟩ : Draft σ) = registry.drafted declaration.name [] := rfl
  simp only [declare, hstart, hblank, h]
  rfl

/-- **Parameters are declared up to the first unfit one.** For a new command, whose name is free,
a list of parameters is declared as it is if all of them are fit. Otherwise the declaration
stops at the first one that is not; it is reported with its number and its reason, and the
command keeps just those in front of it. -/
theorem declare_parameters {registry : Registry σ} {name : String} {start : Draft σ}
    (free : registry.draft name = .ok start) (parameters : List Parameter) :
    let outcome := registry.declare ⟨name, parameters.map DeclarationItem.parameter, none⟩
    let keeping (kept : List Parameter) : Registry σ :=
      { registry with commands := registry.commands ++ [.withParameters name kept] }
    ((∀ k, ¬ Parameter.Unfit registry.precision parameters k) →
      outcome = (keeping parameters, none)) ∧
    ∀ k parameter, parameters[k]? = some parameter →
      Parameter.Unfit registry.precision parameters k →
      (∀ j < k, ¬ Parameter.Unfit registry.precision parameters j) →
      outcome = (keeping (parameters.take k),
        some ⟨.item k, parameter.fault name registry.precision k⟩) := by
  intro outcome keeping
  rcases Draft.addAll_parameters registry name parameters with
    ⟨hfit, hall⟩ | ⟨i, parameter, hparameter, hunfit, hbefore, hends⟩
  · have houtcome := declare_drafted free hall
    rw [Command.incomplete_parameters] at houtcome
    exact ⟨fun _ => houtcome, fun k _ _ hk _ => absurd hk (hfit k)⟩
  · refine ⟨fun hfit => absurd hunfit (hfit i), fun k other hother hk hfirst => ?_⟩
    obtain rfl : i = k := by
      apply Nat.le_antisymm
      · exact Nat.le_of_not_lt fun hlt => hbefore k hlt hk
      · exact Nat.le_of_not_lt fun hlt => hfirst i hlt hunfit
    obtain rfl := Option.some.inj (hparameter.symm.trans hother)
    have houtcome : registry.declare ⟨name, _, none⟩ = _ := declare_stopped free hends
    rw [← List.map_take, Command.incomplete_parameters] at houtcome
    exact houtcome

/-- Parameters the third of which is required behind an optional one, and of a type that is
foreign to the single precision. -/
def Sample.late : List Parameter :=
  [⟨⟨.string, false⟩, false⟩, ⟨⟨.bool, true⟩, true⟩, ⟨⟨.double, false⟩, false⟩]

/-- Of the two reasons against the third parameter its type is reported, and two are kept. -/
theorem declare_parameters_sample :
    Parameter.Unfit .single Sample.late 2 ∧
    (empty .sensitive .single : Registry String).declare
        ⟨"p", Sample.late.map DeclarationItem.parameter, none⟩ =
      (⟨[.withParameters "p" (Sample.late.take 2)], .sensitive, .single⟩,
        some ⟨.item 2, .invalidArgumentType "p" ⟨.double, false⟩ .single⟩) := by
  have hfree : (empty .sensitive .single : Registry String).draft "p" = .ok _ :=
    draft_eq_ok.mpr ⟨by decide +kernel, rfl⟩
  have hunfit : Parameter.Unfit .single Sample.late 2 := ⟨_, rfl, Or.inr (Or.inl rfl)⟩
  refine ⟨hunfit,
    (declare_parameters hfree Sample.late).2 2 ⟨⟨.double, false⟩, false⟩ rfl hunfit ?_⟩
  rintro j hj ⟨parameter, hparameter, hreason⟩
  obtain rfl | rfl : j = 0 ∨ j = 1 := by omega
  · cases hparameter
    simp [Sample.late, maxParameters, ValueType.isAllowed, ValueType.precision?] at hreason
  · cases hparameter
    simp [Sample.late, maxParameters, ValueType.isAllowed, ValueType.precision?] at hreason

end Registry

end CommandConsole
