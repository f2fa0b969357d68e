import CommandConsole.Settings.File
import CommandConsole.Proofs.Documents
import CommandConsole.Proofs.Results

/-!
# Settings are read strictly

The entries of a table are visited one after another, and every one of them must be accepted
(`decodeEntries_isOk`). Since no key is there twice, a setting ends up as its own entry has it,
or as it was before the first entry (`decodeEntries_reads`). Neither depends on the order of
the entries, so a document has settings by what is in it and not by how it is arranged.

Main result: `Settings.parse_strictly`.
-/

namespace CommandConsole

namespace Toml.Value

/-- The value at a path of keys. -/
def At : Value → List String → Value → Prop
  | value, [], found => found = value
  | .table _ entries, key :: path, found => ∃ child, (key, child) ∈ entries ∧ child.At path found
  | _, _ :: _, _ => False

def IsTable (value : Value) : Prop := ∃ origin entries, value = .table origin entries

def IsArray (value : Value) : Prop := ∃ growing items, value = .array growing items

/-- Two tables, two arrays, or the same value. -/
def Agree (value other : Value) : Prop :=
  value = other ∨ value.IsTable ∧ other.IsTable ∨ value.IsArray ∧ other.IsArray

/-- What is at a path in one document is at the same path in the other. The order of the entries
and the way in which the tables are spelled do not matter. -/
structure Rearranged (document other : Value) : Prop where
  forth : ∀ path value, document.At path value → ∃ same, other.At path same ∧ value.Agree same
  back : ∀ path value, other.At path value → ∃ same, document.At path same ∧ same.Agree value

variable {origin : Origin} {entries : List (String × Value)} {key : String} {path : List String}
  {value child found : Value}

theorem at_cons : (table origin entries).At (key :: path) found ↔
    ∃ child, (key, child) ∈ entries ∧ child.At path found := Iff.rfl

theorem at_key : (table origin entries).At [key] found ↔ (key, found) ∈ entries := by
  rw [at_cons]
  constructor
  · rintro ⟨child, hmem, rfl⟩
    exact hmem
  · intro hmem
    exact ⟨found, hmem, rfl⟩

/-- A path that leads through a value of the table leads on through that value alone. -/
theorem Distinct.at_cons_of_mem (h : (Value.table origin entries).Distinct)
    (hmem : (key, child) ∈ entries) :
    (Value.table origin entries).At (key :: path) found ↔ child.At path found := by
  rw [at_cons]
  constructor
  · rintro ⟨other, hother, hfound⟩
    obtain ⟨-, rfl⟩ := Prod.mk.inj (List.inj_on_of_nodup_map h.keys hmem hother rfl)
    exact hfound
  · intro hfound
    exact ⟨child, hmem, hfound⟩

theorem Distinct.at_unique {document : Value} (h : document.Distinct)
    (hvalue : document.At path value) (hfound : document.At path found) : value = found := by
  induction path generalizing document with
  | nil => exact hvalue.trans hfound.symm
  | cons key path ih =>
      cases document with
      | table origin entries =>
          obtain ⟨child, hmem, hchild⟩ := hvalue
          exact ih (h.values _ hmem) hchild ((h.at_cons_of_mem hmem).mp hfound)
      | string _ | integer _ | float _ | boolean _ | datetime _ | array _ _ => exact hvalue.elim

theorem Agree.eq_of_scalar {other : Value} (h : value.Agree other) (scalar : value.IsScalar) :
    other = value := by
  rcases h with h | ⟨⟨origin, entries, rfl⟩, -⟩ | ⟨⟨growing, items, rfl⟩, -⟩
  · exact h.symm
  · exact scalar.elim
  · exact scalar.elim

theorem Agree.symm {other : Value} (h : value.Agree other) : other.Agree value := by
  rcases h with h | ⟨hvalue, hother⟩ | ⟨hvalue, hother⟩
  · exact Or.inl h.symm
  · exact Or.inr (Or.inl ⟨hother, hvalue⟩)
  · exact Or.inr (Or.inr ⟨hother, hvalue⟩)

theorem Agree.isTable {other : Value} (h : value.Agree other) (table : value.IsTable) :
    other.IsTable := by
  rcases h with rfl | ⟨-, h⟩ | ⟨⟨growing, items, rfl⟩, -⟩
  · exact table
  · exact h
  · obtain ⟨origin, entries, h⟩ := table
    exact absurd h (by simp)

theorem Rearranged.symm {document other : Value} (h : document.Rearranged other) :
    other.Rearranged document := by
  constructor
  · intro path value hvalue
    obtain ⟨same, hsame, agree⟩ := h.back path value hvalue
    exact ⟨same, hsame, agree.symm⟩
  · intro path value hvalue
    obtain ⟨same, hsame, agree⟩ := h.forth path value hvalue
    exact ⟨same, hsame, agree.symm⟩

theorem rearranged_of_perm {others : List (String × Value)} (perm : entries.Perm others)
    (other : Origin) : (table origin entries).Rearranged (table other others) := by
  constructor
  · intro path value hvalue
    cases path with
    | nil => exact ⟨_, rfl, Or.inr (Or.inl ⟨⟨origin, entries, hvalue⟩, other, others, rfl⟩)⟩
    | cons key path =>
        obtain ⟨child, hmem, hchild⟩ := hvalue
        exact ⟨value, ⟨child, perm.mem_iff.mp hmem, hchild⟩, Or.inl rfl⟩
  · intro path value hvalue
    cases path with
    | nil => exact ⟨_, rfl, Or.inr (Or.inl ⟨⟨origin, entries, rfl⟩, other, others, hvalue⟩)⟩
    | cons key path =>
        obtain ⟨child, hmem, hchild⟩ := hvalue
        exact ⟨value, ⟨child, perm.mem_iff.mpr hmem, hchild⟩, Or.inl rfl⟩

end Toml.Value

namespace Settings

/-- The tables that a document may have keys in, and those keys. -/
def layout : List (List String × List String) :=
  [([], ["parser", "runner"]),
    (["parser"], ["number_precision", "allow_null"]),
    (["runner"], ["case_insensitive_command_names"])]

/-- What stands for a table is a table, and what stands for the precision a string. -/
structure Kinds (document : Toml.Value) : Prop where
  parser : ∀ value, document.At ["parser"] value → value.IsTable
  runner : ∀ value, document.At ["runner"] value → value.IsTable
  precision : ∀ value, document.At ["parser", "number_precision"] value →
    ∃ name, value = .string name

/-- There is nothing in the document but settings. -/
structure Strict (document : Toml.Value) : Prop where
  keys : ∀ table ∈ layout, ∀ key value, document.At (table.1 ++ [key]) value → key ∈ table.2
  precision : ∀ value, document.At ["parser", "number_precision"] value →
    value = .string "single" ∨ value = .string "double" ∨ value = .string "decimal"
  allowNull : ∀ value, document.At ["parser", "allow_null"] value → ∃ flag, value = .boolean flag
  caseRule : ∀ value, document.At ["runner", "case_insensitive_command_names"] value →
    ∃ flag, value = .boolean flag

/-- A setting is what the document has at a path, or the default if the document has nothing
there. -/
structure Sets {α : Type} (document : Toml.Value) (path : List String) (spelling : α → Toml.Value)
    (default setting : α) : Prop where
  present : ∀ value, document.At path value → value = spelling setting
  absent : (∀ value, ¬ document.At path value) → setting = default

/-- Every setting is the one in the document, or the default one. -/
structure Follow (document : Toml.Value) (settings : Settings) : Prop where
  precision : Sets document ["parser", "number_precision"] (fun p : Precision => .string p.name)
    .single settings.parser.precision
  allowNull : Sets document ["parser", "allow_null"] .boolean false settings.parser.allowNull
  caseRule : Sets document ["runner", "case_insensitive_command_names"]
    (fun rule : CaseRule => .boolean (rule == .insensitive)) .sensitive settings.caseRule

/-! ## Visiting entries -/

theorem sorted_perm (entries : List (String × Toml.Value)) : (sorted entries).Perm entries :=
  List.mergeSort_perm _ _

section Entries

variable {α β : Type} {known : List String}
  {field : String → Toml.Value → α → Option (Except Fault α)} {entries : List (String × Toml.Value)}
  {start settings : α}

theorem decodeEntries_cons_eq_ok {key : String} {value : Toml.Value} :
    decodeEntries known field ((key, value) :: entries) start = .ok settings ↔
      ∃ next, field key value start = some (.ok next) ∧
        decodeEntries known field entries next = .ok settings := by
  rw [decodeEntries]
  split <;> simp_all

theorem decodeEntries_isOk {Accepted : String → Toml.Value → Prop}
    (accepts : ∀ key value settings,
      (∃ next, field key value settings = some (.ok next)) ↔ Accepted key value) :
    (∃ settings, decodeEntries known field entries start = .ok settings) ↔
      ∀ key value, (key, value) ∈ entries → Accepted key value := by
  induction entries generalizing start with
  | nil => simp [decodeEntries]
  | cons entry rest ih =>
      obtain ⟨first, content⟩ := entry
      constructor
      · rintro ⟨settings, h⟩ key value hmem
        obtain ⟨next, hfield, hrest⟩ := decodeEntries_cons_eq_ok.mp h
        rcases List.mem_cons.mp hmem with hfirst | hmem
        · obtain ⟨rfl, rfl⟩ := Prod.mk.inj hfirst
          exact (accepts key value start).mp ⟨next, hfield⟩
        · exact ih.mp ⟨settings, hrest⟩ key value hmem
      · intro h
        obtain ⟨next, hfield⟩ := (accepts first content start).mpr (h _ _ List.mem_cons_self)
        have hrest := fun key value hmem => h key value (List.mem_cons_of_mem _ hmem)
        obtain ⟨settings, hsettings⟩ := ih.mpr hrest
        exact ⟨settings, decodeEntries_cons_eq_ok.mpr ⟨next, hfield, hsettings⟩⟩

/-- The part of the settings that belongs to one key: it is read off the entry with the key, which
no other entry changes, and without such an entry it stays. -/
theorem decodeEntries_reads (get : α → β) (name : String) (Reads : Toml.Value → β → Prop)
    (reads : ∀ value settings next, field name value settings = some (.ok next) →
      Reads value (get next))
    (keeps : ∀ key value settings next, key ≠ name → field key value settings = some (.ok next) →
      get next = get settings)
    (distinct : (entries.map Prod.fst).Nodup)
    (h : decodeEntries known field entries start = .ok settings) :
    (∃ value, (name, value) ∈ entries ∧ Reads value (get settings)) ∨
      name ∉ entries.map Prod.fst ∧ get settings = get start := by
  induction entries generalizing start with
  | nil =>
      obtain rfl := Except.ok.inj h
      exact Or.inr ⟨by simp, rfl⟩
  | cons entry rest ih =>
      obtain ⟨key, value⟩ := entry
      obtain ⟨next, hfield, hrest⟩ := decodeEntries_cons_eq_ok.mp h
      obtain ⟨hnew, hdistinct⟩ := List.nodup_cons.mp distinct
      by_cases hkey : key = name
      · subst hkey
        rcases ih hdistinct hrest with ⟨other, hmem, -⟩ | ⟨-, hget⟩
        · exact absurd (List.mem_map_of_mem (f := Prod.fst) hmem) hnew
        · exact Or.inl ⟨value, List.mem_cons_self, hget ▸ reads value start next hfield⟩
      · rcases ih hdistinct hrest with ⟨other, hmem, hother⟩ | ⟨hnone, hget⟩
        · exact Or.inl ⟨other, List.mem_cons_of_mem _ hmem, hother⟩
        · refine Or.inr ⟨?_, hget.trans (keeps key value start next hkey hfield)⟩
          exact List.not_mem_cons_of_ne_of_not_mem (Ne.symm hkey) hnone

/-- Entries are visited in their sorted order, which does not show in what is read. -/
theorem decodeEntries_sorted (get : α → β) (name : String) (Reads : Toml.Value → β → Prop)
    (reads : ∀ value settings next, field name value settings = some (.ok next) →
      Reads value (get next))
    (keeps : ∀ key value settings next, key ≠ name → field key value settings = some (.ok next) →
      get next = get settings)
    (distinct : (entries.map Prod.fst).Nodup)
    (h : decodeEntries known field (sorted entries) start = .ok settings) :
    (∃ value, (name, value) ∈ entries ∧ Reads value (get settings)) ∨
      name ∉ entries.map Prod.fst ∧ get settings = get start := by
  have hkeys := (sorted_perm entries).map Prod.fst
  have := decodeEntries_reads get name Reads reads keeps (hkeys.nodup_iff.mpr distinct) h
  simpa only [(sorted_perm entries).mem_iff, hkeys.mem_iff] using this

theorem forall_entries_iff {a b : String} {A B : Toml.Value → Prop} (apart : a ≠ b) :
    (∀ key value, (key, value) ∈ entries → key = a ∧ A value ∨ key = b ∧ B value) ↔
      (∀ key value, (key, value) ∈ entries → key ∈ [a, b]) ∧
      (∀ value, (a, value) ∈ entries → A value) ∧ ∀ value, (b, value) ∈ entries → B value := by
  constructor
  · intro h
    refine ⟨fun key value hmem => ?_, fun value hmem => ?_, fun value hmem => ?_⟩
    · rcases h _ _ hmem with ⟨hkey, -⟩ | ⟨hkey, -⟩
      · exact List.mem_cons.mpr (Or.inl hkey)
      · exact List.mem_cons_of_mem _ (List.mem_singleton.mpr hkey)
    · rcases h _ _ hmem with ⟨-, hvalue⟩ | ⟨hkey, -⟩
      · exact hvalue
      · exact absurd hkey apart
    · rcases h _ _ hmem with ⟨hkey, -⟩ | ⟨-, hvalue⟩
      · exact absurd hkey.symm apart
      · exact hvalue
  · rintro ⟨keys, first, second⟩ key value hmem
    rcases List.mem_cons.mp (keys key value hmem) with rfl | hkey
    · exact Or.inl ⟨rfl, first value hmem⟩
    · obtain rfl := List.mem_singleton.mp hkey
      exact Or.inr ⟨rfl, second value hmem⟩

end Entries

/-! ## One setting -/

theorem decodeFlag_eq_ok {value : Toml.Value} {flag : Bool} :
    decodeFlag value = .ok flag ↔ value = .boolean flag := by
  cases value with
  | boolean found => simp [decodeFlag]
  | string _ | integer _ | float _ | datetime _ | array _ _ | table _ _ => simp [decodeFlag]

theorem precisionNamed_eq_ok {name : String} {precision : Precision} :
    precisionNamed name = .ok precision ↔ name = precision.name := by
  unfold precisionNamed
  constructor
  · intro h
    split at h
    · rename_i found hfound
      obtain rfl := Except.ok.inj h
      have hname := List.find?_some (p := fun p : Precision => p.name == name) hfound
      exact (beq_iff_eq.mp hname).symm
    · exact absurd h (by simp)
  · rintro rfl
    cases precision with
    | single => rfl
    | double => rfl
    | decimal => rfl

theorem decodeCaseRule_eq_ok {value : Toml.Value} {rule : CaseRule} :
    decodeCaseRule value = .ok rule ↔ value = .boolean (rule == .insensitive) := by
  unfold decodeCaseRule
  rw [map_eq_ok]
  simp only [decodeFlag_eq_ok]
  constructor
  · rintro ⟨flag, rfl, rfl⟩
    cases flag with
    | false => rfl
    | true => rfl
  · rintro rfl
    refine ⟨_, rfl, ?_⟩
    cases rule with
    | sensitive => rfl
    | insensitive => rfl

theorem decodeCaseRule_isOk {value : Toml.Value} :
    (∃ rule, decodeCaseRule value = .ok rule) ↔ ∃ flag, value = .boolean flag := by
  simp only [decodeCaseRule_eq_ok]
  constructor
  · rintro ⟨rule, rfl⟩
    exact ⟨_, rfl⟩
  · rintro ⟨flag, rfl⟩
    cases flag with
    | false => exact ⟨.sensitive, rfl⟩
    | true => exact ⟨.insensitive, rfl⟩

/-! ## The fields -/

/-- A field for two keys changes the settings by the value that the one or the other decodes to. -/
theorem field_eq_ok {α A B : Type} {a b key : String} (apart : a ≠ b) {first : Except Fault A}
    {second : Except Fault B} {put : A → α} {put' : B → α} {next : α} :
    (if key = a then some (first.map put) else if key = b then some (second.map put') else none) =
        some (.ok next) ↔
      key = a ∧ (∃ part, first = .ok part ∧ put part = next) ∨
      key = b ∧ ∃ part, second = .ok part ∧ put' part = next := by
  by_cases ha : key = a
  · rw [if_pos ha, Option.some.injEq, map_eq_ok]
    simp only [ha, apart, true_and, false_and, or_false]
  · by_cases hb : key = b
    · rw [if_neg ha, if_pos hb, Option.some.injEq, map_eq_ok]
      simp only [hb, Ne.symm apart, true_and, false_and, false_or]
    · simp [ha, hb]

theorem field_isOk {α A B : Type} {a b key : String} (apart : a ≠ b) {first : Except Fault A}
    {second : Except Fault B} {put : A → α} {put' : B → α} :
    (∃ next, (if key = a then some (first.map put)
        else if key = b then some (second.map put') else none) = some (.ok next)) ↔
      key = a ∧ (∃ part, first = .ok part) ∨ key = b ∧ ∃ part, second = .ok part := by
  simp only [field_eq_ok apart]
  constructor
  · rintro ⟨_, ⟨hkey, part, hpart, rfl⟩ | ⟨hkey, part, hpart, rfl⟩⟩
    · exact Or.inl ⟨hkey, part, hpart⟩
    · exact Or.inr ⟨hkey, part, hpart⟩
  · rintro (⟨hkey, part, hpart⟩ | ⟨hkey, part, hpart⟩)
    · exact ⟨_, Or.inl ⟨hkey, part, hpart, rfl⟩⟩
    · exact ⟨_, Or.inr ⟨hkey, part, hpart, rfl⟩⟩

theorem parserField_isOk (key : String) (value : Toml.Value) (settings : ParserSettings) :
    (∃ next, parserField key value settings = some (.ok next)) ↔
      key = "number_precision" ∧ (∃ precision, decodePrecision value = .ok precision) ∨
      key = "allow_null" ∧ ∃ flag, value = .boolean flag := by
  simp only [← decodeFlag_eq_ok]
  exact field_isOk (by decide)

theorem runnerField_isOk (key : String) (value : Toml.Value) (rule : CaseRule) :
    (∃ next, runnerField key value rule = some (.ok next)) ↔
      key = "case_insensitive_command_names" ∧ ∃ flag, value = .boolean flag := by
  unfold runnerField
  by_cases hkey : key = "case_insensitive_command_names"
  · simp [hkey, decodeCaseRule_isOk]
  · simp [hkey]

theorem tableField_isOk (key : String) (value : Toml.Value) (settings : Settings) :
    (∃ next, tableField key value settings = some (.ok next)) ↔
      key = "parser" ∧ (∃ parser, decodeParser value = .ok parser) ∨
      key = "runner" ∧ ∃ rule, decodeRunner value = .ok rule :=
  field_isOk (by decide)

/-! ## Tables of settings -/

section Tables

variable {origin : Toml.Origin} {entries : List (String × Toml.Value)} {table : Toml.Value}

/-- The precision is one of the three, if it is a string at all. -/
theorem decodePrecision_isOk {value : Toml.Value} (string : ∃ name, value = .string name) :
    (∃ precision, decodePrecision value = .ok precision) ↔
      value = .string "single" ∨ value = .string "double" ∨ value = .string "decimal" := by
  obtain ⟨name, rfl⟩ := string
  constructor
  · rintro ⟨precision, h⟩
    obtain rfl := precisionNamed_eq_ok.mp h
    cases precision with
    | single => exact Or.inl rfl
    | double => exact Or.inr (Or.inl rfl)
    | decimal => exact Or.inr (Or.inr rfl)
  · rintro (h | h | h)
    · exact ⟨.single, by rw [h]; rfl⟩
    · exact ⟨.double, by rw [h]; rfl⟩
    · exact ⟨.decimal, by rw [h]; rfl⟩

theorem decodeParser_isOk (isTable : table.IsTable)
    (string : ∀ value, table.At ["number_precision"] value → ∃ name, value = .string name) :
    (∃ parser, decodeParser table = .ok parser) ↔
      (∀ key value, table.At [key] value → key ∈ ["number_precision", "allow_null"]) ∧
      (∀ value, table.At ["number_precision"] value →
        value = .string "single" ∨ value = .string "double" ∨ value = .string "decimal") ∧
      ∀ value, table.At ["allow_null"] value → ∃ flag, value = .boolean flag := by
  obtain ⟨origin, entries, rfl⟩ := isTable
  simp only [Toml.Value.at_key] at string ⊢
  unfold decodeParser
  simp only [decodeEntries_isOk parserField_isOk, (sorted_perm entries).mem_iff]
  rw [forall_entries_iff (by decide)]
  refine and_congr_right fun _ => and_congr_left fun _ => ?_
  exact forall₂_congr fun value hmem => decodePrecision_isOk (string value hmem)

theorem decodeRunner_isOk (isTable : table.IsTable) :
    (∃ rule, decodeRunner table = .ok rule) ↔
      (∀ key value, table.At [key] value → key ∈ ["case_insensitive_command_names"]) ∧
      ∀ value, table.At ["case_insensitive_command_names"] value →
        ∃ flag, value = .boolean flag := by
  obtain ⟨origin, entries, rfl⟩ := isTable
  simp only [Toml.Value.at_key]
  unfold decodeRunner
  simp only [decodeEntries_isOk runnerField_isOk, (sorted_perm entries).mem_iff]
  constructor
  · intro h
    exact ⟨fun key value hmem => List.mem_singleton.mpr (h key value hmem).1,
      fun value hmem => (h _ value hmem).2⟩
  · rintro ⟨keys, flag⟩ key value hmem
    obtain rfl := List.mem_singleton.mp (keys key value hmem)
    exact ⟨rfl, flag value hmem⟩

theorem decode_isOk (kinds : Kinds (.table origin entries)) :
    (∃ settings, decode entries = .ok settings) ↔ Strict (.table origin entries) := by
  have parser : ∀ child, ("parser", child) ∈ entries → _ := fun child hmem =>
    decodeParser_isOk (kinds.parser child (Toml.Value.at_key.mpr hmem))
      fun value hvalue => kinds.precision value ⟨child, hmem, hvalue⟩
  have runner : ∀ child, ("runner", child) ∈ entries → _ := fun child hmem =>
    decodeRunner_isOk (kinds.runner child (Toml.Value.at_key.mpr hmem))
  unfold decode
  simp only [decodeEntries_isOk tableField_isOk, (sorted_perm entries).mem_iff]
  rw [forall_entries_iff (by decide)]
  constructor
  · rintro ⟨keys, hparser, hrunner⟩
    have hparser := fun child hmem => (parser child hmem).mp (hparser child hmem)
    have hrunner := fun child hmem => (runner child hmem).mp (hrunner child hmem)
    constructor
    case keys =>
      intro known hknown key value
      rw [layout, List.mem_cons, List.mem_cons, List.mem_singleton] at hknown
      rcases hknown with rfl | rfl | rfl
      · exact fun hvalue => keys key value (Toml.Value.at_key.mp hvalue)
      · rintro ⟨child, hmem, hvalue⟩
        exact (hparser child hmem).1 key value hvalue
      · rintro ⟨child, hmem, hvalue⟩
        exact (hrunner child hmem).1 key value hvalue
    case precision =>
      rintro value ⟨child, hmem, hvalue⟩
      exact (hparser child hmem).2.1 value hvalue
    case allowNull =>
      rintro value ⟨child, hmem, hvalue⟩
      exact (hparser child hmem).2.2 value hvalue
    case caseRule =>
      rintro value ⟨child, hmem, hvalue⟩
      exact (hrunner child hmem).2 value hvalue
  · intro strict
    refine ⟨fun key value hmem => ?_, fun child hmem => ?_, fun child hmem => ?_⟩
    · exact strict.keys ([], _) (by simp [layout]) key value (Toml.Value.at_key.mpr hmem)
    · refine (parser child hmem).mpr ⟨fun key value hvalue => ?_, fun value hvalue => ?_,
        fun value hvalue => ?_⟩
      · exact strict.keys (["parser"], _) (by simp [layout]) key value ⟨child, hmem, hvalue⟩
      · exact strict.precision value ⟨child, hmem, hvalue⟩
      · exact strict.allowNull value ⟨child, hmem, hvalue⟩
    · refine (runner child hmem).mpr ⟨fun key value hvalue => ?_, fun value hvalue => ?_⟩
      · exact strict.keys (["runner"], _) (by simp [layout]) key value ⟨child, hmem, hvalue⟩
      · exact strict.caseRule value ⟨child, hmem, hvalue⟩

end Tables

/-! ## What the settings are -/

section Fields

variable {key : String} {value : Toml.Value}

theorem parserField_precision {parser next : ParserSettings}
    (h : parserField "number_precision" value parser = some (.ok next)) :
    decodePrecision value = .ok next.precision := by
  obtain ⟨precision, hprecision, rfl⟩ := map_eq_ok.mp (Option.some.inj h)
  exact hprecision

theorem parserField_allowNull {parser next : ParserSettings}
    (h : parserField "allow_null" value parser = some (.ok next)) :
    value = .boolean next.allowNull := by
  obtain ⟨flag, hflag, rfl⟩ := map_eq_ok.mp (Option.some.inj h)
  exact decodeFlag_eq_ok.mp hflag

theorem parserField_cases {parser next : ParserSettings}
    (h : parserField key value parser = some (.ok next)) :
    key = "number_precision" ∧ next.allowNull = parser.allowNull ∨
      key = "allow_null" ∧ next.precision = parser.precision := by
  rcases (field_eq_ok (by decide)).mp h with ⟨hkey, precision, -, rfl⟩ | ⟨hkey, flag, -, rfl⟩
  · exact Or.inl ⟨hkey, rfl⟩
  · exact Or.inr ⟨hkey, rfl⟩

theorem runnerField_reads {rule next : CaseRule}
    (h : runnerField "case_insensitive_command_names" value rule = some (.ok next)) :
    value = .boolean (next == .insensitive) :=
  decodeCaseRule_eq_ok.mp (Option.some.inj h)

theorem parser_of_tableField {settings next : Settings}
    (h : tableField "parser" value settings = some (.ok next)) :
    decodeParser value = .ok next.parser := by
  obtain ⟨parser, hparser, rfl⟩ := map_eq_ok.mp (Option.some.inj h)
  exact hparser

theorem caseRule_of_tableField {settings next : Settings}
    (h : tableField "runner" value settings = some (.ok next)) :
    decodeRunner value = .ok next.caseRule := by
  obtain ⟨rule, hrule, rfl⟩ := map_eq_ok.mp (Option.some.inj h)
  exact hrule

theorem tableField_cases {settings next : Settings}
    (h : tableField key value settings = some (.ok next)) :
    key = "parser" ∧ next.caseRule = settings.caseRule ∨
      key = "runner" ∧ next.parser = settings.parser := by
  rcases (field_eq_ok (by decide)).mp h with ⟨hkey, parser, -, rfl⟩ | ⟨hkey, rule, -, rfl⟩
  · exact Or.inl ⟨hkey, rfl⟩
  · exact Or.inr ⟨hkey, rfl⟩

end Fields

section Sets

variable {origin : Toml.Origin} {entries : List (String × Toml.Value)} {path : List String}
  {α β : Type} {spelling : α → Toml.Value} {default setting : α} {key : String}

theorem sets_of_absent (absent : key ∉ entries.map Prod.fst) :
    Sets (.table origin entries) (key :: path) spelling default default := by
  refine ⟨?_, fun _ => rfl⟩
  rintro value ⟨child, hmem, -⟩
  exact absurd (List.mem_map_of_mem (f := Prod.fst) hmem) absent

/-- A setting in a table of the document is a setting of the document. -/
theorem Sets.below {child : Toml.Value} (distinct : (Toml.Value.table origin entries).Distinct)
    (hmem : (key, child) ∈ entries) (h : Sets child path spelling default setting) :
    Sets (.table origin entries) (key :: path) spelling default setting := by
  constructor
  · intro value hvalue
    exact h.present value ((distinct.at_cons_of_mem hmem).mp hvalue)
  · intro absent
    exact h.absent fun value hvalue => absent value ⟨child, hmem, hvalue⟩

theorem sets_of_decodeEntries {known : List String}
    {field : String → Toml.Value → β → Option (Except Fault β)} {start settings : β}
    (distinct : (Toml.Value.table origin entries).Distinct) (get : β → α)
    (reads : ∀ value settings next, field key value settings = some (.ok next) →
      (key, value) ∈ entries → value = spelling (get next))
    (keeps : ∀ other value settings next, other ≠ key → field other value settings = some (.ok next) →
      get next = get settings)
    (h : decodeEntries known field (sorted entries) start = .ok settings) :
    Sets (.table origin entries) [key] spelling (get start) (get settings) := by
  rcases decodeEntries_sorted get key
    (fun value part => (key, value) ∈ entries → value = spelling part) reads keeps
    distinct.keys h with ⟨value, hmem, hvalue⟩ | ⟨absent, hget⟩
  · constructor
    · intro found hfound
      rw [distinct.at_unique hfound (Toml.Value.at_key.mpr hmem)]
      exact hvalue hmem
    · intro absent
      exact absurd (Toml.Value.at_key.mpr hmem) (absent value)
  · rw [hget]
    exact sets_of_absent absent

theorem Sets.unique {document : Toml.Value} {other : α} (injective : spelling.Injective)
    (h : Sets document path spelling default setting)
    (hother : Sets document path spelling default other) : setting = other := by
  by_cases hpresent : ∃ value, document.At path value
  · obtain ⟨value, hvalue⟩ := hpresent
    exact injective ((h.present value hvalue).symm.trans (hother.present value hvalue))
  · have absent := not_exists.mp hpresent
    exact (h.absent absent).trans (hother.absent absent).symm

theorem Sets.rearrange {document other : Toml.Value} (h : document.Rearranged other)
    (scalar : ∀ setting, (spelling setting).IsScalar)
    (sets : Sets document path spelling default setting) :
    Sets other path spelling default setting := by
  constructor
  · intro value hvalue
    obtain ⟨same, hsame, agree⟩ := h.back path value hvalue
    obtain rfl := sets.present same hsame
    exact agree.eq_of_scalar (scalar setting)
  · intro absent
    refine sets.absent fun value hvalue => ?_
    obtain ⟨same, hsame, -⟩ := h.forth path value hvalue
    exact absent same hsame

end Sets

section Tables

variable {origin : Toml.Origin} {entries : List (String × Toml.Value)} {table : Toml.Value}

theorem decodeParser_reads {parser : ParserSettings} (distinct : table.Distinct)
    (isTable : table.IsTable)
    (string : ∀ value, table.At ["number_precision"] value → ∃ name, value = .string name)
    (h : decodeParser table = .ok parser) :
    Sets table ["number_precision"] (fun p : Precision => .string p.name) .single parser.precision ∧
      Sets table ["allow_null"] .boolean false parser.allowNull := by
  obtain ⟨origin, entries, rfl⟩ := isTable
  constructor
  · refine sets_of_decodeEntries distinct ParserSettings.precision ?_ ?_ h
    · intro value _ next hfield hmem
      obtain ⟨name, rfl⟩ := string value (Toml.Value.at_key.mpr hmem)
      exact congrArg _ (precisionNamed_eq_ok.mp (parserField_precision hfield))
    · intro key value _ next hkey hfield
      exact ((parserField_cases hfield).resolve_left fun h => hkey h.1).2
  · refine sets_of_decodeEntries distinct ParserSettings.allowNull ?_ ?_ h
    · intro value _ next hfield _
      exact parserField_allowNull hfield
    · intro key value _ next hkey hfield
      exact ((parserField_cases hfield).resolve_right fun h => hkey h.1).2

theorem decodeRunner_reads {rule : CaseRule} (distinct : table.Distinct) (isTable : table.IsTable)
    (h : decodeRunner table = .ok rule) :
    Sets table ["case_insensitive_command_names"]
      (fun rule : CaseRule => .boolean (rule == .insensitive)) .sensitive rule := by
  obtain ⟨origin, entries, rfl⟩ := isTable
  refine sets_of_decodeEntries distinct id ?_ ?_ h
  · intro value _ next hfield _
    exact runnerField_reads hfield
  · intro key value settings next hkey hfield
    exact absurd ((runnerField_isOk key value settings).mp ⟨next, hfield⟩).1 hkey

theorem decode_follow {settings : Settings} (distinct : (Toml.Value.table origin entries).Distinct)
    (kinds : Kinds (.table origin entries)) (h : decode entries = .ok settings) :
    Follow (.table origin entries) settings := by
  have parser := decodeEntries_sorted Settings.parser "parser"
    (fun value parser => decodeParser value = .ok parser) (fun _ _ _ => parser_of_tableField)
    (fun _ _ _ _ hkey hfield => ((tableField_cases hfield).resolve_left fun h => hkey h.1).2)
    distinct.keys h
  have runner := decodeEntries_sorted Settings.caseRule "runner"
    (fun value rule => decodeRunner value = .ok rule) (fun _ _ _ => caseRule_of_tableField)
    (fun _ _ _ _ hkey hfield => ((tableField_cases hfield).resolve_right fun h => hkey h.1).2)
    distinct.keys h
  have hparser : Sets (.table origin entries) ["parser", "number_precision"]
      (fun p : Precision => .string p.name) .single settings.parser.precision ∧
      Sets (.table origin entries) ["parser", "allow_null"] .boolean false
        settings.parser.allowNull := by
    rcases parser with ⟨child, hmem, hchild⟩ | ⟨absent, hdefault⟩
    · obtain ⟨precision, allowNull⟩ := decodeParser_reads (distinct.values _ hmem)
        (kinds.parser child (Toml.Value.at_key.mpr hmem))
        (fun value hvalue => kinds.precision value ⟨child, hmem, hvalue⟩) hchild
      exact ⟨precision.below distinct hmem, allowNull.below distinct hmem⟩
    · rw [hdefault]
      exact ⟨sets_of_absent absent, sets_of_absent absent⟩
  refine ⟨hparser.1, hparser.2, ?_⟩
  rcases runner with ⟨child, hmem, hchild⟩ | ⟨absent, hdefault⟩
  · exact (decodeRunner_reads (distinct.values _ hmem)
      (kinds.runner child (Toml.Value.at_key.mpr hmem)) hchild).below distinct hmem
  · rw [hdefault]
    exact sets_of_absent absent

end Tables

/-! ## Documents -/

variable {document other : Toml.Value} {settings : Settings}

theorem precisionName_injective : Function.Injective Precision.name := by
  intro a b h
  have ha := precisionNamed_eq_ok.mpr (rfl : a.name = a.name)
  have hb := precisionNamed_eq_ok.mpr h
  exact Except.ok.inj (ha.symm.trans hb)

theorem Follow.unique {found : Settings} (h : Follow document settings)
    (hfound : Follow document found) : settings = found := by
  obtain ⟨⟨precision, allowNull⟩, caseRule⟩ := settings
  obtain ⟨⟨foundPrecision, foundAllowNull⟩, foundRule⟩ := found
  obtain rfl : precision = foundPrecision :=
    h.precision.unique (fun a b hab => precisionName_injective (Toml.Value.string.inj hab))
      hfound.precision
  obtain rfl : allowNull = foundAllowNull :=
    h.allowNull.unique (fun a b hab => Toml.Value.boolean.inj hab) hfound.allowNull
  obtain rfl : caseRule = foundRule := by
    refine h.caseRule.unique (fun a b hab => ?_) hfound.caseRule
    exact Except.ok.inj ((decodeCaseRule_eq_ok.mpr hab).symm.trans (decodeCaseRule_eq_ok.mpr rfl)).symm
  rfl

theorem Kinds.rearrange (arranged : document.Rearranged other) (h : Kinds document) :
    Kinds other := by
  refine ⟨fun value hvalue => ?_, fun value hvalue => ?_, fun value hvalue => ?_⟩
  · obtain ⟨same, hsame, agree⟩ := arranged.back _ value hvalue
    exact agree.isTable (h.parser same hsame)
  · obtain ⟨same, hsame, agree⟩ := arranged.back _ value hvalue
    exact agree.isTable (h.runner same hsame)
  · obtain ⟨same, hsame, agree⟩ := arranged.back _ value hvalue
    obtain ⟨name, rfl⟩ := h.precision same hsame
    exact ⟨name, agree.eq_of_scalar trivial⟩

theorem Strict.rearrange (arranged : document.Rearranged other) (h : Strict document) :
    Strict other := by
  constructor
  case keys =>
    intro table htable key value hvalue
    obtain ⟨same, hsame, -⟩ := arranged.back _ value hvalue
    exact h.keys table htable key same hsame
  case precision =>
    intro value hvalue
    obtain ⟨same, hsame, agree⟩ := arranged.back _ value hvalue
    rcases h.precision same hsame with rfl | rfl | rfl
    · exact Or.inl (agree.eq_of_scalar trivial)
    · exact Or.inr (Or.inl (agree.eq_of_scalar trivial))
    · exact Or.inr (Or.inr (agree.eq_of_scalar trivial))
  case allowNull =>
    intro value hvalue
    obtain ⟨same, hsame, agree⟩ := arranged.back _ value hvalue
    obtain ⟨flag, rfl⟩ := h.allowNull same hsame
    exact ⟨flag, agree.eq_of_scalar trivial⟩
  case caseRule =>
    intro value hvalue
    obtain ⟨same, hsame, agree⟩ := arranged.back _ value hvalue
    obtain ⟨flag, rfl⟩ := h.caseRule same hsame
    exact ⟨flag, agree.eq_of_scalar trivial⟩

theorem Follow.rearrange (arranged : document.Rearranged other) (h : Follow document settings) :
    Follow other settings :=
  ⟨h.precision.rearrange arranged fun _ => trivial, h.allowNull.rearrange arranged fun _ => trivial,
    h.caseRule.rearrange arranged fun _ => trivial⟩

theorem parse_of_readDocument? {text : String} {origin : Toml.Origin}
    {entries : List (String × Toml.Value)}
    (h : Toml.readDocument? text = some (.table origin entries)) :
    parse text = .ok settings ↔ decode entries = .ok settings := by
  simp only [parse, ofToml, h]
  split <;> simp_all

theorem parse_eq_ok {text : String} (h : Toml.readDocument? text = some document)
    (kinds : Kinds document) :
    parse text = .ok settings ↔ Strict document ∧ Follow document settings := by
  obtain ⟨⟨entries, rfl⟩, distinct⟩ := Toml.isDocument_of_readDocument? h
  rw [parse_of_readDocument? h, ← decode_isOk kinds]
  constructor
  · intro hdecode
    exact ⟨⟨settings, hdecode⟩, decode_follow distinct kinds hdecode⟩
  · rintro ⟨⟨found, hdecode⟩, follow⟩
    rw [follow.unique (decode_follow distinct kinds hdecode)]
    exact hdecode

theorem parse_isOk {text : String} (h : Toml.readDocument? text = some document)
    (kinds : Kinds document) : (∃ settings, parse text = .ok settings) ↔ Strict document := by
  obtain ⟨⟨entries, rfl⟩, -⟩ := Toml.isDocument_of_readDocument? h
  simp only [parse_of_readDocument? h]
  exact decode_isOk kinds

/-- **A document has settings iff there is nothing in it but settings.** They are then those that
it has, and otherwise the default ones, in whatever order it has them. -/
theorem parse_strictly {text : String} (h : Toml.readDocument? text = some document)
    (kinds : Kinds document) :
    ((∃ settings, parse text = .ok settings) ↔ Strict document) ∧
    (∀ settings, parse text = .ok settings → Follow document settings) ∧
    (∀ again other, Toml.readDocument? again = some other → document.Rearranged other →
      ∀ settings, parse again = .ok settings ↔ parse text = .ok settings) ∧
    ∀ table ∈ layout, ∀ key value, document.At (table.1 ++ [key]) value → key ∉ table.2 →
      ∃ error, parse text = .error error := by
  refine ⟨parse_isOk h kinds, fun settings hparse => ((parse_eq_ok h kinds).mp hparse).2, ?_, ?_⟩
  · intro again other hagain arranged settings
    rw [parse_eq_ok h kinds, parse_eq_ok hagain (kinds.rearrange arranged)]
    constructor
    · rintro ⟨strict, follow⟩
      exact ⟨strict.rearrange arranged.symm, follow.rearrange arranged.symm⟩
    · rintro ⟨strict, follow⟩
      exact ⟨strict.rearrange arranged, follow.rearrange arranged⟩
  · intro table htable key value hvalue unknown
    cases hparse : parse text with
    | error error => exact ⟨error, rfl⟩
    | ok settings =>
        have strict := ((parse_eq_ok h kinds).mp hparse).1
        exact absurd (strict.keys table htable key value hvalue) unknown

theorem parse_strictly_sample :
    parse "[runner]\ncase_insensitive_command_names = true\n[parser]\nallow_null = true\n" =
      .ok ⟨⟨.single, true⟩, .insensitive⟩ ∧
    parse "[parser]\nallow_null = true\n[runner]\ncase_insensitive_command_names = true\n" =
      .ok ⟨⟨.single, true⟩, .insensitive⟩ ∧
    ∃ error, parse "[parser]\nallow_nul = true\n" = .error error := by
  have hfirst : Toml.readDocument?
      "[runner]\ncase_insensitive_command_names = true\n[parser]\nallow_null = true\n" =
      some (.table .header
        [("runner", .table .header [("case_insensitive_command_names", .boolean true)]),
          ("parser", .table .header [("allow_null", .boolean true)])]) := by
    unfold Toml.readDocument?
    simp only [String.reduceToList]
    rfl
  have hsecond : Toml.readDocument?
      "[parser]\nallow_null = true\n[runner]\ncase_insensitive_command_names = true\n" =
      some (.table .header
        [("parser", .table .header [("allow_null", .boolean true)]),
          ("runner", .table .header [("case_insensitive_command_names", .boolean true)])]) := by
    unfold Toml.readDocument?
    simp only [String.reduceToList]
    rfl
  have hmistyped : Toml.readDocument? "[parser]\nallow_nul = true\n" =
      some (.table .header [("parser", .table .header [("allow_nul", .boolean true)])]) := by
    unfold Toml.readDocument?
    simp only [String.reduceToList]
    rfl
  obtain ⟨accepts, follow, same, -⟩ := parse_strictly hfirst
    ⟨by simp [Toml.Value.At, Toml.Value.IsTable], by simp [Toml.Value.At, Toml.Value.IsTable],
      by simp [Toml.Value.At]⟩
  obtain ⟨-, -, -, unknown⟩ := parse_strictly hmistyped
    ⟨by simp [Toml.Value.At, Toml.Value.IsTable], by simp [Toml.Value.At, Toml.Value.IsTable],
      by simp [Toml.Value.At]⟩
  obtain ⟨settings, hparse⟩ := accepts.mpr
    ⟨by simp +contextual [layout, Toml.Value.At, or_imp], by simp [Toml.Value.At],
      by simp [Toml.Value.At], by simp [Toml.Value.At]⟩
  have hsettings : settings = ⟨⟨.single, true⟩, .insensitive⟩ := by
    refine (follow settings hparse).unique ⟨⟨?_, fun _ => rfl⟩, ⟨?_, ?_⟩, ?_, ?_⟩
    all_goals simp [Toml.Value.At]
  rw [hsettings] at hparse
  refine ⟨hparse, (same _ _ hsecond ?_ _).mpr hparse, ?_⟩
  · exact Toml.Value.rearranged_of_perm (.swap _ _ []) _
  · have hlayout : (["parser"], ["number_precision", "allow_null"]) ∈ layout := by simp [layout]
    refine unknown _ hlayout "allow_nul" (.boolean true) ?_ (by simp)
    simp [Toml.Value.At]

end Settings

end CommandConsole
