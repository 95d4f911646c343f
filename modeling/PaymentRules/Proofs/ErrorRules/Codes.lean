import PaymentRules.Proofs.ErrorRules.Placement

/-!
# The codes of a block

The entries of a block are put into a table one by one, and each new entry takes over the codes that
it lists. At any time the table says of each code which entry was the last to list it, and which
entry has no codes. So a code is answered by the last entry that lists it, and every other code by
the entry without codes. There is at most one such entry, since the second one is refused.

## Main definitions

* `EntryTable.Answers` — the entry that is for a code, among entries in file order
* `EntryTable.IsIndexed` — the positions in a table agree with its entries
* `Block.IsRead` — all that a block is made of can be read

## Main results

* `EntryTable.IsIndexed.push`, `EntryTable.IsIndexed.pushAll` — one more entry, and all of them
* `codes_are_looked_up` — the entry for each code of a block, and which blocks are refused
-/

namespace PaymentRules.ErrorRules

namespace EntryTable

/-- The entry for a code is the last one that lists it, or the one without codes when no entry lists
it. -/
inductive Answers (entries : List Entry) (code : String) : Option Entry → Prop
  | listed {i : Nat} {entry : Entry} (at_position : entries[i]? = some entry)
      (lists : code ∈ entry.errorCodes)
      (last : ∀ (k : Nat) (other : Entry), entries[k]? = some other →
        code ∈ other.errorCodes → k ≤ i) :
      Answers entries code (some entry)
  | generic {entry : Entry} (unlisted : ∀ other ∈ entries, code ∉ other.errorCodes)
      (among : entry ∈ entries) (codeless : entry.errorCodes = []) :
      Answers entries code (some entry)
  | nothing (unlisted : ∀ other ∈ entries, code ∉ other.errorCodes)
      (specific : ∀ other ∈ entries, other.errorCodes ≠ []) :
      Answers entries code none

/-- Every position in the table is that of an entry that lists the code, or has no codes; no later
entry lists the code, and no other has no codes. -/
structure IsIndexed (table : EntryTable) : Prop where
  lists : ∀ pair ∈ table.byCode, ∃ entry,
    table.entries[pair.2]? = some entry ∧ pair.1 ∈ entry.errorCodes
  latest : ∀ (i : Nat) (entry : Entry), table.entries[i]? = some entry →
    ∀ code ∈ entry.errorCodes, ∃ index, table.byCode.lookup code = some index ∧ i ≤ index
  generic_iff : ∀ i : Nat, table.generic = some i ↔
    ∃ entry, table.entries[i]? = some entry ∧ entry.errorCodes = []

/-! ## Adding entries -/

section

variable {table result : EntryTable} {entry second : Entry} {entries : List Entry}

theorem isIndexed_empty : empty.IsIndexed where
  lists := nofun
  latest := nofun
  generic_iff i := by simp [empty]

/-- An entry takes over the codes that it lists. -/
theorem lookup_byCode_push (code : String) :
    (table.push entry).byCode.lookup code =
      if code ∈ entry.errorCodes then some table.entries.length
      else table.byCode.lookup code := by
  rw [push]
  induction entry.errorCodes with
  | nil => rfl
  | cons first codes ih =>
    by_cases same : code = first
    · simp [same]
    · have differs : (code == first) = false := beq_eq_false_iff_ne.mpr same
      rw [List.map_cons, List.cons_append, List.lookup_cons, differs, ih]
      simp [same]

/-- The entries of a table with one more are the old ones in their places, and the new one. -/
theorem getElem?_entries_push {i : Nat} {other : Entry} :
    (table.push entry).entries[i]? = some other ↔
      table.entries[i]? = some other ∨ i = table.entries.length ∧ entry = other := by
  rw [push, getElem?_concat_eq_some_iff]

/-- One more entry keeps the positions right, unless it is a second one without codes. -/
theorem IsIndexed.push (indexed : table.IsIndexed)
    (fresh : entry.errorCodes = [] → table.generic = none) : (table.push entry).IsIndexed where
  lists pair listed := by
    simp only [getElem?_entries_push]
    rcases List.mem_append.mp listed with own | old
    · obtain ⟨code, lists, rfl⟩ := List.mem_map.mp own
      exact ⟨entry, .inr ⟨rfl, rfl⟩, lists⟩
    · obtain ⟨other, at_index, lists⟩ := indexed.lists pair old
      exact ⟨other, .inl at_index, lists⟩
  latest i other at_position code lists := by
    rw [lookup_byCode_push]
    rcases getElem?_entries_push.mp at_position with old | ⟨rfl, rfl⟩
    · split
      · -- The new entry stands behind every other one.
        exact ⟨_, rfl, (List.getElem?_eq_some_iff.mp old).1.le⟩
      · exact indexed.latest i other old code lists
    · exact ⟨_, if_pos lists, Nat.le_refl _⟩
  generic_iff i := by
    simp only [getElem?_entries_push]
    by_cases codeless : entry.errorCodes = []
    · have generic : (table.push entry).generic = some table.entries.length := by
        simp [EntryTable.push, Entry.isGeneric, codeless]
      rw [generic, Option.some.injEq]
      constructor
      · rintro rfl
        exact ⟨entry, .inr ⟨rfl, rfl⟩, codeless⟩
      · rintro ⟨other, old | ⟨rfl, -⟩, other_codeless⟩
        · have there := (indexed.generic_iff i).mpr ⟨other, old, other_codeless⟩
          rw [fresh codeless] at there
          cases there
        · rfl
    · have generic : (table.push entry).generic = table.generic := by
        simp [EntryTable.push, Entry.isGeneric, codeless]
      rw [generic, indexed.generic_iff i]
      refine exists_congr fun other => and_congr_left fun own => (or_iff_left ?_).symm
      rintro ⟨-, rfl⟩
      exact codeless own

/-- All entries that are taken keep the positions right. -/
theorem IsIndexed.pushAll (indexed : table.IsIndexed)
    (pushed : table.pushAll entries = .ok result) : result.IsIndexed := by
  induction entries generalizing table with
  | nil => exact Except.ok.inj pushed ▸ indexed
  | cons entry entries ih =>
    rw [EntryTable.pushAll] at pushed
    split at pushed
    · cases pushed
    · next taken =>
      refine ih (indexed.push fun codeless => ?_) pushed
      simpa [Entry.isGeneric, codeless] using taken

/-- The entry that is refused is the second one without codes, counting the one that is there. -/
theorem pushAll_eq_error_iff :
    table.pushAll entries = .error second ↔
      (entries.filter Entry.isGeneric)[if table.generic.isSome then 0 else 1]? = some second := by
  induction entries generalizing table with
  | nil => simp [EntryTable.pushAll]
  | cons entry entries ih =>
    rw [EntryTable.pushAll]
    cases generic : entry.isGeneric with
    | false =>
      have same : (table.push entry).generic = table.generic := by simp [push, generic]
      rw [List.filter_cons_of_neg (by simp [generic]), Bool.false_and, if_neg Bool.false_ne_true,
        ih, same]
    | true =>
      have taken : (table.push entry).generic = some table.entries.length := by
        simp [push, generic]
      rw [List.filter_cons_of_pos generic, Bool.true_and]
      cases there : table.generic.isSome with
      | false => simp [ih, taken]
      | true => simp

end

/-! ## Looking codes up -/

section

variable {table : EntryTable} (indexed : table.IsIndexed) {code : String}

include indexed

theorem answers_lookup? : Answers table.entries code (table.lookup? code) := by
  rw [lookup?]
  cases found : table.byCode.lookup code with
  | some index =>
    obtain ⟨front, back, split_eq, -⟩ := List.lookup_eq_some_iff.mp found
    obtain ⟨entry, at_index, lists⟩ := indexed.lists (code, index) (by simp [split_eq])
    rw [Option.some_or, Option.bind_eq_bind, Option.bind_some, at_index]
    refine .listed at_index lists fun k other at_k other_lists => ?_
    obtain ⟨last, found_last, bound⟩ := indexed.latest k other at_k code other_lists
    rw [found, Option.some.injEq] at found_last
    exact found_last ▸ bound
  | none =>
    have unlisted : ∀ other ∈ table.entries, code ∉ other.errorCodes := by
      intro other among lists
      obtain ⟨k, at_k⟩ := List.getElem?_of_mem among
      obtain ⟨last, found_last, -⟩ := indexed.latest k other at_k code lists
      rw [found] at found_last
      cases found_last
    rw [Option.none_or]
    cases there : table.generic with
    | some index =>
      obtain ⟨entry, at_index, codeless⟩ := (indexed.generic_iff index).mp there
      rw [Option.bind_eq_bind, Option.bind_some, at_index]
      exact .generic unlisted (List.mem_of_getElem? at_index) codeless
    | none =>
      refine .nothing unlisted fun other among codeless => ?_
      obtain ⟨k, at_k⟩ := List.getElem?_of_mem among
      rw [(indexed.generic_iff k).mpr ⟨other, at_k, codeless⟩] at there
      cases there

/-- No two entries are for a code. -/
theorem Answers.unique {one other : Option Entry} (answers : Answers table.entries code one)
    (answers' : Answers table.entries code other) : one = other := by
  cases answers with
  | @listed i entry at_i lists last =>
    cases answers' with
    | @listed k entry' at_k lists' last' =>
      obtain rfl := Nat.le_antisymm (last' i entry at_i lists) (last k entry' at_k lists')
      exact at_i.symm.trans at_k
    | generic unlisted | nothing unlisted =>
      exact absurd lists (unlisted entry (List.mem_of_getElem? at_i))
  | @generic entry unlisted among codeless =>
    cases answers' with
    | listed at_k lists => exact absurd lists (unlisted _ (List.mem_of_getElem? at_k))
    | @generic entry' _ among' codeless' =>
      obtain ⟨i, at_i⟩ := List.getElem?_of_mem among
      obtain ⟨k, at_k⟩ := List.getElem?_of_mem among'
      have same : some i = some k :=
        ((indexed.generic_iff i).mpr ⟨entry, at_i, codeless⟩).symm.trans
          ((indexed.generic_iff k).mpr ⟨entry', at_k, codeless'⟩)
      obtain rfl := Option.some.inj same
      exact at_i.symm.trans at_k
    | nothing _ specific => exact absurd codeless (specific entry among)
  | nothing unlisted specific =>
    cases answers' with
    | listed at_k lists => exact absurd lists (unlisted _ (List.mem_of_getElem? at_k))
    | generic _ among codeless => exact absurd codeless (specific _ among)
    | nothing => rfl

theorem lookup?_eq_iff_answers {answer : Option Entry} :
    table.lookup? code = answer ↔ Answers table.entries code answer := by
  constructor
  · rintro rfl
    exact answers_lookup? indexed
  · exact fun answers => Answers.unique indexed (answers_lookup? indexed) answers

end

/-! ## Tables of blocks -/

section

variable {first : SheetRow} {entries : List Entry} {table : EntryTable} {failure : LoadError}

theorem isIndexed_of_ofEntries (built : ofEntries first entries = .ok table) :
    table.IsIndexed := by
  rw [ofEntries] at built
  split at built
  · cases built
  · split at built
    · next pushed =>
      obtain rfl := Except.ok.inj built
      exact isIndexed_empty.pushAll pushed
    · cases built

theorem ofEntries_eq_error_iff :
    ofEntries first entries = .error failure ↔
      entries = [] ∧ failure = first.flaw .blockWithoutEntries ∨
        ∃ second, (entries.filter Entry.isGeneric)[1]? = some second ∧
          failure = .shape (RuleColumn.family Column) second.line .secondGenericEntry := by
  have refused : ∀ second, empty.pushAll entries = .error second ↔
      (entries.filter Entry.isGeneric)[1]? = some second := fun _ => pushAll_eq_error_iff
  rw [ofEntries]
  split
  · next nothing =>
    obtain rfl := List.isEmpty_iff.mp nothing
    simp [eq_comm]
  · next some_entry =>
    have some_entry : entries ≠ [] := fun nothing => some_entry (List.isEmpty_iff.mpr nothing)
    cases pushed : empty.pushAll entries with
    | ok table =>
      have nobody : (entries.filter Entry.isGeneric)[1]? = none :=
        Option.eq_none_iff_forall_ne_some.mpr fun second found => by
          rw [(refused second).mpr found] at pushed
          cases pushed
      simp [some_entry, nobody]
    | error second =>
      have found := (refused second).mp pushed
      simp [some_entry, found, eq_comm]

end

end EntryTable

/-! ## Blocks -/

section

variable {first : SheetRow} {component : Component SheetRow} {entries : List Entry}

/-- The entries of the block, its family and its three lists can be read. -/
structure Block.IsRead (first : SheetRow) (component : Component SheetRow)
    (entries : List Entry) : Prop where
  entries : ((component.anchored entryGrammar.name).mapM fun entry =>
    Entry.ofComponent entry.1 entry.2) = .ok entries
  family : ∃ family, first.dimension .family = .ok family
  lists : ∀ column ∈ [Column.type, .country, .partner],
    ∃ values, RuleRow.columnList column component.rows = .ok values

theorem Block.ofEntries_of_ofComponent {block : Block}
    (built : Block.ofComponent first component = .ok block) :
    EntryTable.ofEntries first block.table.entries = .ok block.table := by
  simp only [Block.ofComponent, Except.bind_eq_ok_iff, Except.pure_eq_ok, Except.ok.injEq] at built
  obtain ⟨entries, -, _, -, _, -, _, -, _, -, table, table_read, rfl⟩ := built
  rwa [EntryTable.entries_of_ofEntries table_read]

/-- When all that a block is made of can be read, only its entries can have it refused. -/
theorem Block.IsRead.ofComponent_eq_error_iff (read : Block.IsRead first component entries)
    {failure : LoadError} :
    Block.ofComponent first component = .error failure ↔
      EntryTable.ofEntries first entries = .error failure := by
  obtain ⟨family, family_read⟩ := read.family
  obtain ⟨types, types_read⟩ := read.lists .type (by decide)
  obtain ⟨countries, countries_read⟩ := read.lists .country (by decide)
  obtain ⟨partners, partners_read⟩ := read.lists .partner (by decide)
  simp only [Block.ofComponent, read.entries, family_read, types_read, countries_read,
    partners_read, Except.ok_bind, Except.bind_eq_error_iff, Except.pure_eq_ok]
  refine ⟨fun failed => failed.resolve_right ?_, .inl⟩
  rintro ⟨_, -, impossible⟩
  cases impossible

end

/-- In a block that is built, a code is answered by the last entry that lists it, or by the entry
without codes when none does; and the positions of the entries for codes, and of the one without,
are those of such entries. A block of which all parts can be read is refused when it has no entries
or two without codes, and then the line of the second one is named. -/
theorem codes_are_looked_up (first : SheetRow) (component : Component SheetRow) :
    (∀ block, Block.ofComponent first component = .ok block →
      (∀ code answer, block.table.lookup? code = answer ↔
        EntryTable.Answers block.table.entries code answer) ∧
      (∀ pair ∈ block.table.byCode, ∃ entry,
        block.table.entries[pair.2]? = some entry ∧ pair.1 ∈ entry.errorCodes) ∧
      ∀ index, block.table.generic = some index ↔ ∃ entry,
        block.table.entries[index]? = some entry ∧ entry.errorCodes = []) ∧
    ∀ entries, Block.IsRead first component entries →
      ((∃ failure, Block.ofComponent first component = .error failure) ↔
        entries = [] ∨ 2 ≤ (entries.filter Entry.isGeneric).length) ∧
      ∀ second, (entries.filter Entry.isGeneric)[1]? = some second →
        ∃ row part, (row, part) ∈ component.anchored entryGrammar.name ∧
          Entry.ofComponent row part = .ok second ∧
          Block.ofComponent first component =
            .error (.shape "ServiceError" row.line .secondGenericEntry) := by
  constructor
  · intro block built
    have indexed := EntryTable.isIndexed_of_ofEntries (Block.ofEntries_of_ofComponent built)
    exact ⟨fun code answer => EntryTable.lookup?_eq_iff_answers indexed, indexed.lists,
      indexed.generic_iff⟩
  · intro entries read
    simp only [read.ofComponent_eq_error_iff, EntryTable.ofEntries_eq_error_iff]
    constructor
    · constructor
      · rintro ⟨failure, ⟨nothing, -⟩ | ⟨second, found, -⟩⟩
        · exact .inl nothing
        · exact .inr (List.getElem?_eq_some_iff.mp found).1
      · rintro (nothing | two)
        · exact ⟨_, .inl ⟨nothing, rfl⟩⟩
        · exact ⟨_, .inr ⟨_, List.getElem?_eq_getElem two, rfl⟩⟩
    · intro second found
      have among : second ∈ entries := List.mem_of_mem_filter (List.mem_of_getElem? found)
      obtain ⟨⟨row, part⟩, listed, own⟩ := Except.exists_of_mem_mapM read.entries among
      refine ⟨row, part, listed, own, .inr ⟨second, found, ?_⟩⟩
      rw [(Entry.of_ofComponent own).2.2.1]
      rfl

/-- A block in which two entries list the same code, and one has no codes. -/
def codeRows : List Row := [
  ⟨2, ["PostModernPI", "credit_card", "visa", "", "", "", "Declined", "InvalidCvv"]⟩,
  ⟨3, ["", "", "", "", "", "", "", "ExpiredCard"]⟩,
  ⟨4, ["", "", "", "", "", "", "Try again"]⟩,
  ⟨5, ["", "", "", "", "", "", "Expired", "ExpiredCard"]⟩]

/-- One more entry without codes. -/
def codelessRow : Row :=
  ⟨6, ["", "", "", "", "", "", "Try later"]⟩

/-- Rows in a sheet that has the columns in their order. -/
def inOrder (rows : List Row) : List SheetRow :=
  rows.map <|
    Sheet.ruleRow (.ofDistinct ((Named.all : List Column).map Named.name) nodup_columnNames)

/-- The later one of the two entries answers, and the block is refused with the other entry. -/
theorem codes_are_looked_up_of_codeRows :
    ∃ first block, (inOrder codeRows).head? = some first ∧
      Block.ofComponent first (blockGrammar.parseAt 0 (inOrder codeRows)) = .ok block ∧
      (block.table.lookup? "ExpiredCard").map (·.line) = some 5 ∧
      EntryTable.Answers block.table.entries "ExpiredCard" (block.table.lookup? "ExpiredCard") ∧
      ∃ failure, Block.ofComponent first
        (blockGrammar.parseAt 0 (inOrder (codeRows ++ [codelessRow]))) = .error failure := by
  obtain ⟨first, at_head⟩ : ∃ first, (inOrder codeRows).head? = some first := ⟨_, rfl⟩
  have builds : (Block.ofComponent first (blockGrammar.parseAt 0 (inOrder codeRows))).map
      (fun block => (block.table.lookup? "ExpiredCard").map (·.line)) = .ok (some 5) := by
    obtain rfl := Option.some.inj at_head
    decide +kernel
  obtain ⟨block, built, line⟩ := Except.map_eq_ok_iff.mp builds
  have reads : (((blockGrammar.parseAt 0 (inOrder (codeRows ++ [codelessRow]))).anchored
      entryGrammar.name).mapM fun entry => Entry.ofComponent entry.1 entry.2).map
        (fun entries => (entries.filter Entry.isGeneric).length) = .ok 2 := by
    decide +kernel
  obtain ⟨entries, entries_read, two⟩ := Except.map_eq_ok_iff.mp reads
  have is_read : Block.IsRead first
      (blockGrammar.parseAt 0 (inOrder (codeRows ++ [codelessRow]))) entries := by
    obtain rfl := Option.some.inj at_head
    refine ⟨entries_read, ⟨.oneOf ["credit_card"] (by decide), by decide +kernel⟩, ?_⟩
    simp only [List.forall_mem_cons]
    exact ⟨⟨["visa"], by decide +kernel⟩, ⟨[], by decide +kernel⟩, ⟨[], by decide +kernel⟩, nofun⟩
  refine ⟨first, block, at_head, built, line,
    (((codes_are_looked_up first _).1 block built).1 _ _).mp rfl, ?_⟩
  exact ((codes_are_looked_up first _).2 entries is_read).1.mpr (.inr two.ge)

end PaymentRules.ErrorRules
