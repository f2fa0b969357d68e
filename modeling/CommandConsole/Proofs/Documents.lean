import Mathlib
import CommandConsole.Toml.Document

/-!
# The tables of a document

A document is read entry by entry into a tree that already stands. A new entry is added only
where its key is not there yet, and what changes below a key takes the place of what was
there. So no table has a key twice, however the document spells its tables
(`Value.Distinct`), and the document itself is a table.

Main result: `isDocument_of_readDocument?`.
-/

namespace CommandConsole.Toml

namespace Value

def IsScalar : Value → Prop
  | .array _ _ | .table _ _ => False
  | _ => True

/-- No table in the value has a key twice. -/
inductive Distinct : Value → Prop where
  | scalar {value : Value} (scalar : value.IsScalar) : Distinct value
  | array {growing : Bool} {items : List Value} (members : ∀ item ∈ items, item.Distinct) :
      Distinct (.array growing items)
  | table {origin : Origin} {entries : List (String × Value)}
      (keys : (entries.map Prod.fst).Nodup) (values : ∀ entry ∈ entries, entry.2.Distinct) :
      Distinct (.table origin entries)

namespace Distinct

variable {origin : Origin} {entries : List (String × Value)}

theorem keys (h : Distinct (.table origin entries)) : (entries.map Prod.fst).Nodup := by
  cases h with
  | scalar h => exact h.elim
  | table keys _ => exact keys

theorem values (h : Distinct (.table origin entries)) : ∀ entry ∈ entries, entry.2.Distinct := by
  cases h with
  | scalar h => exact h.elim
  | table _ values => exact values

theorem members {growing : Bool} {items : List Value} (h : Distinct (.array growing items)) :
    ∀ item ∈ items, item.Distinct := by
  cases h with
  | scalar h => exact h.elim
  | array members => exact members

theorem empty (origin : Origin) : Distinct (.table origin []) := .table .nil (by simp)

theorem snoc {growing : Bool} {items : List Value} {last : Value}
    (members : ∀ item ∈ items, item.Distinct) (hlast : last.Distinct) :
    Distinct (.array growing (items ++ [last])) :=
  .array (List.forall_mem_append.mpr ⟨members, List.forall_mem_singleton.mpr hlast⟩)

theorem reopen (h : Distinct (.table origin entries)) (other : Origin) :
    Distinct (.table other entries) := .table h.keys h.values

end Distinct

end Value

/-! ## Entries -/

variable {entries : List (String × Value)} {key : String} {value : Value}

theorem mem_of_lookup (h : entries.lookup key = some value) : (key, value) ∈ entries := by
  obtain ⟨front, back, rfl, -⟩ := List.lookup_eq_some_iff.mp h
  simp

theorem notMem_of_lookup (h : entries.lookup key = none) : key ∉ entries.map Prod.fst := by
  rw [List.lookup_eq_none_iff] at h
  intro hmem
  obtain ⟨entry, hentry, rfl⟩ := List.mem_map.mp hmem
  exact absurd (h entry hentry) (by simp)

theorem mem_putEntry {entry : String × Value} (h : entry ∈ putEntry key value entries) :
    entry = (key, value) ∨ entry ∈ entries := by
  induction entries with
  | nil => exact Or.inl (List.mem_singleton.mp h)
  | cons first rest ih =>
      rw [putEntry] at h
      split at h
      · rename_i hkey
        subst hkey
        exact (List.mem_cons.mp h).imp_right (List.mem_cons_of_mem _)
      · rcases List.mem_cons.mp h with rfl | h
        · exact Or.inr List.mem_cons_self
        · exact (ih h).imp_right (List.mem_cons_of_mem _)

theorem nodup_putEntry (h : (entries.map Prod.fst).Nodup) :
    ((putEntry key value entries).map Prod.fst).Nodup := by
  induction entries with
  | nil => simp [putEntry]
  | cons first rest ih =>
      obtain ⟨hfirst, hrest⟩ := List.nodup_cons.mp h
      rw [putEntry]
      split
      · exact List.nodup_cons.mpr ⟨hfirst, hrest⟩
      · rename_i hne
        refine List.nodup_cons.mpr ⟨fun hmem => ?_, ih hrest⟩
        obtain ⟨entry, hentry, hkey⟩ := List.mem_map.mp hmem
        rcases mem_putEntry hentry with rfl | hentry
        · exact hne hkey.symm
        · exact hfirst (List.mem_map.mpr ⟨entry, hentry, hkey⟩)

namespace Value.Distinct

variable {origin : Origin}

theorem put (h : Distinct (.table origin entries)) (hvalue : value.Distinct) :
    Distinct (.table origin (putEntry key value entries)) := by
  refine .table (nodup_putEntry h.keys) fun entry hentry => ?_
  rcases mem_putEntry hentry with rfl | hentry
  · exact hvalue
  · exact h.values entry hentry

theorem add (h : Distinct (.table origin entries)) (new : entries.lookup key = none)
    (hvalue : value.Distinct) : Distinct (.table origin (entries ++ [(key, value)])) := by
  refine .table ?_ fun entry hentry => ?_
  · rw [List.map_append, List.nodup_append]
    refine ⟨h.keys, by simp, ?_⟩
    intro a ha b hb hab
    obtain rfl : b = key := by simpa using hb
    exact notMem_of_lookup new (hab ▸ ha)
  · rcases List.mem_append.mp hentry with hentry | hentry
    · exact h.values entry hentry
    · obtain rfl := List.mem_singleton.mp hentry
      exact hvalue

theorem lookup (h : Distinct (.table origin entries)) (found : entries.lookup key = some value) :
    value.Distinct := h.values _ (mem_of_lookup found)

/-- Changing a table somewhere below keeps keys apart, if the change itself does. -/
theorem update {change : Value → Option Value} {path : List String} {table next : Value}
    (keeps : ∀ value changed, value.Distinct → change value = some changed → changed.Distinct)
    (h : table.Distinct) (hnext : table.update origin change path = some next) :
    next.Distinct := by
  induction path generalizing table next with
  | nil => exact keeps table next h hnext
  | cons key path ih =>
      cases table with
      | table own entries =>
          simp only [Value.update] at hnext
          split at hnext
          · obtain ⟨child, hchild, rfl⟩ := Option.map_eq_some_iff.mp hnext
            exact h.put (ih (.empty origin) hchild)
          · exact absurd hnext (by simp)
          · rename_i hfound
            split at hnext
            · exact absurd hnext (by simp)
            · obtain ⟨child, hchild, rfl⟩ := Option.map_eq_some_iff.mp hnext
              exact h.put (ih (h.lookup hfound) hchild)
          · rename_i hfound
            obtain ⟨child, hchild, rfl⟩ := Option.map_eq_some_iff.mp hnext
            exact h.put (ih (h.lookup hfound) hchild)
          · rename_i items hfound
            have hitems := (h.lookup hfound).members
            split at hnext
            · exact absurd hnext (by simp)
            · rename_i last hlast
              obtain ⟨child, hchild, rfl⟩ := Option.map_eq_some_iff.mp hnext
              obtain ⟨changed, hchanged, rfl⟩ := Option.map_eq_some_iff.mp hchild
              refine h.put (.snoc (fun item hitem => ?_) ?_)
              · exact hitems item (List.mem_of_mem_dropLast hitem)
              · exact ih (hitems last (List.mem_of_getLast? hlast)) hchanged
          · exact absurd hnext (by simp)
      | string _ | integer _ | float _ | boolean _ | datetime _ | array _ _ =>
          exact absurd hnext (by simp [Value.update])

variable {table next : Value} {path : List String}

theorem insert (h : table.Distinct) (hvalue : value.Distinct)
    (hnext : table.insert path key value = some next) : next.Distinct := by
  refine h.update ?_ hnext
  intro inner changed hinner hchanged
  split at hchanged
  · split at hchanged
    · exact absurd hchanged (by simp)
    · rename_i hnew
      obtain rfl := Option.some.inj hchanged
      rw [Bool.or_eq_true, not_or] at hnew
      exact hinner.add (Option.not_isSome_iff_eq_none.mp hnew.2) hvalue
  · exact absurd hchanged (by simp)

theorem openTable (h : table.Distinct) (hnext : table.openTable path key = some next) :
    next.Distinct := by
  refine h.update ?_ hnext
  intro inner changed hinner hchanged
  split at hchanged
  · split at hchanged
    · rename_i hnew
      obtain rfl := Option.some.inj hchanged
      exact hinner.add hnew (.empty .header)
    · rename_i hfound
      obtain rfl := Option.some.inj hchanged
      exact hinner.put ((hinner.lookup hfound).reopen .header)
    · exact absurd hchanged (by simp)
  · exact absurd hchanged (by simp)

theorem openItem (h : table.Distinct) (hnext : table.openItem path key = some next) :
    next.Distinct := by
  refine h.update ?_ hnext
  intro inner changed hinner hchanged
  split at hchanged
  · split at hchanged
    · rename_i hnew
      obtain rfl := Option.some.inj hchanged
      exact hinner.add hnew (.array (List.forall_mem_singleton.mpr (.empty .header)))
    · rename_i items hfound
      obtain rfl := Option.some.inj hchanged
      exact hinner.put (.snoc (hinner.lookup hfound).members (.empty .header))
    · exact absurd hchanged (by simp)
  · exact absurd hchanged (by simp)

end Value.Distinct

/-! ## Reading values -/

theorem isScalar_of_integerInBase? {base : Nat} {digits : List Char}
    (h : integerInBase? base digits = some value) : value.IsScalar := by
  unfold integerInBase? at h
  simp only at h
  split at h
  · obtain rfl := Option.some.inj h
    exact trivial
  · exact absurd h (by simp)

theorem isScalar_of_decimalInteger? {sign : Option Bool} {text : List Char}
    (h : decimalInteger? sign text = some value) : value.IsScalar := by
  unfold decimalInteger? at h
  split at h
  · exact absurd h (by simp)
  · split at h
    · obtain rfl := Option.some.inj h
      exact trivial
    · exact absurd h (by simp)

theorem isScalar_of_float? {sign : Option Bool} {text : List Char}
    (h : float? sign text = some value) : value.IsScalar := by
  unfold float? at h
  obtain ⟨whole, -, h⟩ := Option.bind_eq_some_iff.mp h
  obtain ⟨fraction, -, h⟩ := Option.bind_eq_some_iff.mp h
  obtain ⟨exponent, -, h⟩ := Option.bind_eq_some_iff.mp h
  split at h
  · exact absurd h (by simp)
  · split at h
    · exact absurd h (by simp)
    · simp only at h
      split at h
      · obtain rfl := Option.some.inj h
        exact trivial
      · obtain rfl := Option.some.inj h
        exact trivial

theorem isScalar_of_scalar? {text : List Char} (h : scalar? text = some value) :
    value.IsScalar := by
  unfold scalar? at h
  simp only at h
  split at h
  · obtain rfl := Option.some.inj h
    exact trivial
  split at h
  · obtain rfl := Option.some.inj h
    exact trivial
  split at h
  · obtain rfl := Option.some.inj h
    exact trivial
  split at h
  · obtain rfl := Option.some.inj h
    exact trivial
  split at h
  · split at h
    · exact isScalar_of_integerInBase? h
    · exact absurd h (by simp)
  · split at h
    · exact isScalar_of_integerInBase? h
    · exact absurd h (by simp)
  · split at h
    · exact isScalar_of_integerInBase? h
    · exact absurd h (by simp)
  · split at h
    · split at h
      · obtain rfl := Option.some.inj h
        exact trivial
      · exact absurd h (by simp)
    · split at h
      · obtain rfl := Option.some.inj h
        exact trivial
      · exact absurd h (by simp)
    · unfold number? at h
      simp only at h
      split at h
      · exact isScalar_of_float? h
      · split at h
        · exact isScalar_of_decimalInteger? h
        · exact absurd h (by simp)

/-- Closing a table changes how it counts as made, not what is in it. -/
theorem distinct_close {table : Value} (h : table.Distinct) :
    (readEntries?.close table).Distinct := by
  cases table with
  | table origin entries => exact h.reopen .closed
  | string _ | integer _ | float _ | boolean _ | datetime _ | array _ _ => exact h

/-- One step of reading items: the closing bracket, or an item and what follows it. -/
theorem readItems?_cases {budget depth : Nat} {items : List Value} {text rest : List Char}
    (h : readItems? (budget + 1) depth items text = some (value, rest)) :
    value = .array false items ∨
      ∃ item next, readValue? budget depth text = some (item, next) ∧
        (value = .array false (items ++ [item]) ∨
          ∃ more, readItems? budget depth (items ++ [item]) more = some (value, rest)) := by
  rw [readItems?.eq_def] at h
  simp only at h
  split at h
  · exact Or.inl (Prod.mk.inj (Option.some.inj h)).1.symm
  · obtain ⟨⟨item, next⟩, hitem, h⟩ := Option.bind_eq_some_iff.mp h
    obtain ⟨after, hafter, h⟩ := Option.bind_eq_some_iff.mp h
    refine Or.inr ⟨item, next, hitem, ?_⟩
    split at h
    · obtain ⟨more, -, h⟩ := Option.bind_eq_some_iff.mp h
      exact Or.inr ⟨more, h⟩
    · exact Or.inl (Prod.mk.inj (Option.some.inj h)).1.symm
    · exact absurd h (by simp)

/-- One step of reading entries: the closing brace, or an entry and what follows it. -/
theorem readEntries?_cases {budget depth : Nat} {table : Value} {text rest : List Char}
    (h : readEntries? (budget + 1) depth table text = some (value, rest)) :
    value = readEntries?.close table ∨
      ∃ path key entry before after next, readValue? budget depth before = some (entry, after) ∧
        table.insert path key entry = some next ∧
        (value = readEntries?.close next ∨
          ∃ more, readEntries? budget depth next more = some (value, rest)) := by
  rw [readEntries?.eq_def] at h
  simp only at h
  split at h
  · exact Or.inl (Prod.mk.inj (Option.some.inj h)).1.symm
  · obtain ⟨⟨path, key, behind⟩, -, h⟩ := Option.bind_eq_some_iff.mp h
    obtain ⟨before, -, h⟩ := Option.bind_eq_some_iff.mp h
    obtain ⟨⟨entry, after⟩, hentry, h⟩ := Option.bind_eq_some_iff.mp h
    obtain ⟨next, hnext, h⟩ := Option.bind_eq_some_iff.mp h
    obtain ⟨trailing, -, h⟩ := Option.bind_eq_some_iff.mp h
    refine Or.inr ⟨path, key, entry, before, after, next, hentry, hnext, ?_⟩
    split at h
    · obtain ⟨more, -, h⟩ := Option.bind_eq_some_iff.mp h
      exact Or.inr ⟨more, h⟩
    · exact Or.inl (Prod.mk.inj (Option.some.inj h)).1.symm
    · exact absurd h (by simp)

/-- What the readers read has its keys apart, whatever their budget: an array if its items so far
do, and a table in braces if its entries so far do. -/
theorem distinct_of_readers (budget : Nat) :
    (∀ depth text value rest, readValue? budget depth text = some (value, rest) →
      value.Distinct) ∧
    (∀ depth items text value rest, (∀ item ∈ items, item.Distinct) →
      readItems? budget depth items text = some (value, rest) → value.Distinct) ∧
    ∀ depth table text value rest, table.Distinct →
      readEntries? budget depth table text = some (value, rest) → value.Distinct := by
  induction budget with
  | zero => refine ⟨?_, ?_, ?_⟩ <;> intros <;> simp_all [readValue?, readItems?, readEntries?]
  | succ budget ih =>
      obtain ⟨ihValue, ihItems, ihEntries⟩ := ih
      refine ⟨?_, ?_, ?_⟩
      · intro depth text value rest h
        rw [readValue?.eq_def] at h
        simp only at h
        split at h
        · exact absurd h (by simp)
        split at h
        · obtain ⟨⟨content, after⟩, -, h⟩ := Option.map_eq_some_iff.mp h
          obtain ⟨rfl, -⟩ := Prod.mk.inj h
          exact .scalar trivial
        split at h
        · split at h
          · exact absurd h (by simp)
          · obtain ⟨after, -, h⟩ := Option.bind_eq_some_iff.mp h
            exact ihItems _ _ _ _ _ (by simp) h
        split at h
        · split at h
          · exact absurd h (by simp)
          · obtain ⟨after, -, h⟩ := Option.bind_eq_some_iff.mp h
            exact ihEntries _ _ _ _ _ (.empty .header) h
        · obtain ⟨scalar, hscalar, h⟩ := Option.map_eq_some_iff.mp h
          obtain ⟨rfl, -⟩ := Prod.mk.inj h
          exact .scalar (isScalar_of_scalar? hscalar)
      · intro depth items text value rest hitems h
        rcases readItems?_cases h with rfl | ⟨item, next, hitem, h⟩
        · exact .array hitems
        have hmore : Value.Distinct (.array false (items ++ [item])) :=
          .snoc hitems (ihValue _ _ _ _ hitem)
        rcases h with rfl | ⟨more, h⟩
        · exact hmore
        · exact ihItems _ _ _ _ _ hmore.members h
      · intro depth table text value rest htable h
        rcases readEntries?_cases h with rfl | ⟨path, key, entry, before, after, next, hentry,
          hnext, h⟩
        · exact distinct_close htable
        have hkeys := htable.insert (ihValue _ _ _ _ hentry) hnext
        rcases h with rfl | ⟨more, h⟩
        · exact distinct_close hkeys
        · exact ihEntries _ _ _ _ _ hkeys h

/-! ## Documents -/

namespace Value

variable {own : Origin}

/-- A table remains one if something below it changes, or if the change itself leaves it one. -/
theorem isTable_update {origin : Origin} {change : Value → Option Value} {path : List String}
    {next : Value}
    (keeps : ∀ changed, change (.table own entries) = some changed →
      ∃ entries, changed = .table own entries)
    (h : (table own entries).update origin change path = some next) :
    ∃ entries, next = .table own entries := by
  cases path with
  | nil => exact keeps next h
  | cons key path =>
      simp only [update] at h
      split at h
      · obtain ⟨child, -, rfl⟩ := Option.map_eq_some_iff.mp h
        exact ⟨_, rfl⟩
      · exact absurd h (by simp)
      · split at h
        · exact absurd h (by simp)
        · obtain ⟨child, -, rfl⟩ := Option.map_eq_some_iff.mp h
          exact ⟨_, rfl⟩
      · obtain ⟨child, -, rfl⟩ := Option.map_eq_some_iff.mp h
        exact ⟨_, rfl⟩
      · split at h
        · exact absurd h (by simp)
        · obtain ⟨child, -, rfl⟩ := Option.map_eq_some_iff.mp h
          exact ⟨_, rfl⟩
      · exact absurd h (by simp)

variable {path : List String} {next : Value}

theorem isTable_insert (h : (table own entries).insert path key value = some next) :
    ∃ entries, next = .table own entries := by
  refine isTable_update (fun changed hchanged => ?_) h
  simp only at hchanged
  split at hchanged
  · exact absurd hchanged (by simp)
  · exact ⟨_, (Option.some.inj hchanged).symm⟩

theorem isTable_openTable (h : (table own entries).openTable path key = some next) :
    ∃ entries, next = .table own entries := by
  refine isTable_update (fun changed hchanged => ?_) h
  simp only at hchanged
  split at hchanged
  · exact ⟨_, (Option.some.inj hchanged).symm⟩
  · exact ⟨_, (Option.some.inj hchanged).symm⟩
  · exact absurd hchanged (by simp)

theorem isTable_openItem (h : (table own entries).openItem path key = some next) :
    ∃ entries, next = .table own entries := by
  refine isTable_update (fun changed hchanged => ?_) h
  simp only at hchanged
  split at hchanged
  · exact ⟨_, (Option.some.inj hchanged).symm⟩
  · exact ⟨_, (Option.some.inj hchanged).symm⟩
  · exact absurd hchanged (by simp)

end Value

/-- A table with its keys apart, as a document is from its first line to its last. -/
def IsDocument (root : Value) : Prop := (∃ entries, root = .table .header entries) ∧ root.Distinct

variable {root next : Value} {path header : List String}

theorem IsDocument.openTable (h : IsDocument root) (hnext : root.openTable path key = some next) :
    IsDocument next := by
  obtain ⟨⟨entries, rfl⟩, hkeys⟩ := h
  exact ⟨Value.isTable_openTable hnext, hkeys.openTable hnext⟩

theorem IsDocument.openItem (h : IsDocument root) (hnext : root.openItem path key = some next) :
    IsDocument next := by
  obtain ⟨⟨entries, rfl⟩, hkeys⟩ := h
  exact ⟨Value.isTable_openItem hnext, hkeys.openItem hnext⟩

theorem IsDocument.enter (h : IsDocument root) (hvalue : value.Distinct)
    (hnext : root.update .implied (·.insert path key value) header = some next) :
    IsDocument next := by
  obtain ⟨⟨entries, rfl⟩, hkeys⟩ := h
  refine ⟨Value.isTable_update (fun changed hchanged => ?_) hnext,
    hkeys.update (fun _ _ hinner => hinner.insert hvalue) hnext⟩
  exact Value.isTable_insert hchanged

theorem isDocument_of_readLines? {budget : Nat} {text : List Char} (hroot : IsDocument root)
    (h : readLines? budget header root text = some value) : IsDocument value := by
  induction budget generalizing header root text with
  | zero => exact absurd h (by simp [readLines?])
  | succ budget ih =>
      rw [readLines?.eq_def] at h
      simp only at h
      split at h
      · obtain rfl := Option.some.inj h
        exact hroot
      · obtain ⟨⟨path, key, rest⟩, -, h⟩ := Option.bind_eq_some_iff.mp h
        obtain ⟨after, -, h⟩ := Option.bind_eq_some_iff.mp h
        obtain ⟨next, hnext, h⟩ := Option.bind_eq_some_iff.mp h
        exact ih (hroot.openItem hnext) h
      · obtain ⟨⟨path, key, rest⟩, -, h⟩ := Option.bind_eq_some_iff.mp h
        obtain ⟨after, -, h⟩ := Option.bind_eq_some_iff.mp h
        obtain ⟨next, hnext, h⟩ := Option.bind_eq_some_iff.mp h
        exact ih (hroot.openTable hnext) h
      · split at h
        · exact ih hroot h
        · obtain ⟨⟨path, key, rest⟩, -, h⟩ := Option.bind_eq_some_iff.mp h
          obtain ⟨behind, -, h⟩ := Option.bind_eq_some_iff.mp h
          obtain ⟨⟨entry, rest⟩, hentry, h⟩ := Option.bind_eq_some_iff.mp h
          obtain ⟨after, -, h⟩ := Option.bind_eq_some_iff.mp h
          obtain ⟨next, hnext, h⟩ := Option.bind_eq_some_iff.mp h
          exact ih (hroot.enter ((distinct_of_readers _).1 _ _ _ _ hentry) hnext) h

/-- **A document is a table, and none of its tables has a key twice.** -/
theorem isDocument_of_readDocument? {text : String} (h : readDocument? text = some root) :
    IsDocument root :=
  isDocument_of_readLines? ⟨⟨[], rfl⟩, .empty .header⟩ h

end CommandConsole.Toml
