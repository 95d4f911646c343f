import PaymentRules.Dimension
import PaymentRules.Proofs.Constant
import PaymentRules.Proofs.Except
import PaymentRules.Proofs.Text.Parting

/-!
# What a cell means

A cell is read as a constraint. Blank, it asks for nothing. Otherwise it holds a list of values with
commas between them, or excludes those of a list with a `!` in front, and each value stands for
itself or for a named constant.

A cell with some text is there to constrain something, so a list without any value in it should be
refused. It is when it is excluded. A cell of nothing but commas and blanks is read as one that asks
for nothing instead, and it is the only one that is not read as it is written.

## Main definitions

* `Dimension.Lists`, `Dimension.IsWritten` — the values in a list and in a cell
* `Dimension.Means` — the constraint that a cell means, or what is wrong with it
* `Dimension.HasCommasOnly` — a cell whose list is empty without being excluded

## Main results

* `Dimension.parse_of_means` — a cell is read as it is written unless it has commas only
* `Dimension.cell_is_read_as_written` — when a cell is read as what it means
-/

namespace PaymentRules.Dimension

/-- The values of a list are the parts between its commas, trimmed, but for the blank ones. -/
def Lists (list : List Char) (values : List String) : Prop :=
  ∃ parts, Text.Parted ',' list parts ∧
    ∃ trimmed : List String,
      List.Forall₂ (fun part value => Text.Trims part value.toList) parts trimmed ∧
      values = trimmed.filter (· ≠ "")

/-- How a cell with this text is written: whether the values in it are excluded, and which they
are. -/
inductive IsWritten (cell text : String) : Bool → List String → Prop
  | allowed {pieces : List String} (trims : Text.Trims cell.toList text.toList)
      (nonblank : text ≠ "") (unmarked : text.toList.head? ≠ some '!')
      (lists : Lists text.toList pieces) : IsWritten cell text false pieces
  | excluded {list : List Char} {pieces : List String}
      (trims : Text.Trims cell.toList text.toList) (marked : text.toList = '!' :: list)
      (lists : Lists list pieces) : IsWritten cell text true pieces

/-- What a cell means. A blank cell asks for nothing, and any other cell constrains something or is
wrong. -/
inductive Means (cell : String) (line : Nat) : Except LoadError Dimension → Prop
  | blank (trims : Text.Trims cell.toList []) : Means cell line (.ok .any)
  /-- The first unknown name is wrong. -/
  | unknown {text : String} {excluded : Bool} {before after : List String} {piece : String}
      (written : IsWritten cell text excluded (before ++ piece :: after))
      (known : ∀ earlier ∈ before, ¬ Constant.IsUnknown earlier)
      (unknown : Constant.IsUnknown piece) :
      Means cell line (.error (.unknownConstant piece line))
  /-- Some text without any value is wrong. -/
  | empty {text : String} {excluded : Bool} (written : IsWritten cell text excluded []) :
      Means cell line (.error (.invalidValue "" text line))
  | allowed {text : String} {pieces values : List String}
      (written : IsWritten cell text false pieces)
      (stand : List.Forall₂ Constant.StandsFor pieces values) (nonempty : values ≠ []) :
      Means cell line (.ok (.oneOf values nonempty))
  | excluded {text : String} {pieces values : List String}
      (written : IsWritten cell text true pieces)
      (stand : List.Forall₂ Constant.StandsFor pieces values) (nonempty : values ≠ []) :
      Means cell line (.ok (.noneOf values nonempty))

/-- The cell has a comma, and nothing else but commas and blanks. -/
def HasCommasOnly (cell : String) : Prop :=
  ',' ∈ cell.toList ∧ ∀ c ∈ cell.toList, c = ',' ∨ Text.isBlank c = true

instance (cell : String) : Decidable (HasCommasOnly cell) :=
  @instDecidableAnd _ _ inferInstance (List.decidableBAll _ _)

/-! ## Lists -/

section

variable {list : List Char} {values : List String}

theorem trims_iff_trim {part : List Char} {text : String} :
    Text.Trims part text.toList ↔ Text.trim (String.ofList part) = text := by
  rw [Text.trims_iff, ← String.toList_inj, Text.toList_trim, String.toList_ofList]
  exact eq_comm

/-- Trimmed parts are those that trimming makes of the parts. -/
theorem forall₂_trims_iff {parts : List (List Char)} {trimmed : List String} :
    List.Forall₂ (fun part value => Text.Trims part value.toList) parts trimmed ↔
      (parts.map String.ofList).map Text.trim = trimmed := by
  simp only [trims_iff_trim]
  rw [List.map_map, ← List.forall₂_eq_eq_eq, List.forall₂_map_left_iff]
  rfl

/-- The values of a list are the pieces that are read from it. -/
theorem lists_iff : Lists list values ↔ pieces (String.ofList list) = values := by
  constructor
  · rintro ⟨parts, parted, trimmed, each, rfl⟩
    have split : Text.splitAt ',' (String.ofList list) = parts.map String.ofList := by
      rw [Text.splitAt_eq_iff]
      simpa using parted
    rw [pieces, split, forall₂_trims_iff.mp each]
  · rintro rfl
    refine ⟨(Text.splitAt ',' (String.ofList list)).map String.toList, ?_, _, ?_, rfl⟩
    · simpa using Text.splitAt_eq_iff.mp (rfl : Text.splitAt ',' (String.ofList list) = _)
    · rw [forall₂_trims_iff]
      simp

/-- Blanks before a list are no value of it. -/
theorem Lists.append_left {front : List Char} (lists : Lists list values)
    (blank : ∀ c ∈ front, Text.isBlank c = true) : Lists (front ++ list) values := by
  obtain ⟨parts, parted, trimmed, each, rfl⟩ := lists
  have no_comma : ',' ∉ front := fun among => absurd (blank ',' among) (by decide)
  -- They belong to the first part and are trimmed away with its own.
  cases each with
  | nil => cases parted
  | cons own later =>
    exact ⟨_, parted.append_left no_comma, _, .cons (own.append_left blank) later, rfl⟩

/-- A list without any value is made of commas and blanks. -/
theorem lists_nil_iff :
    Lists list [] ↔ ∀ c ∈ list, c = ',' ∨ Text.isBlank c = true := by
  have parted := Text.parted_cut ',' list
  rw [parted.forall_iff, lists_iff, pieces, List.filter_eq_nil_iff]
  simp only [Text.splitAt, String.toList_ofList, List.forall_mem_map, decide_not,
    Bool.not_eq_true', decide_eq_false_iff_not, not_not]
  refine forall₂_congr fun part _ => ?_
  rw [← trims_iff_trim, String.toList_empty, Text.trims_nil_iff]

end

/-! ## Cells -/

section

variable {cell text : String} {excluded : Bool} {pieces : List String} {line : Nat}

theorem IsWritten.trim_eq (written : IsWritten cell text excluded pieces) :
    Text.trim cell = text := by
  cases written with
  | allowed trims | excluded trims =>
    rw [Text.trims_iff] at trims
    rw [← String.toList_inj, Text.toList_trim, trims]

theorem IsWritten.ne_empty (written : IsWritten cell text excluded pieces) : text ≠ "" := by
  cases written with
  | allowed _ nonblank => exact nonblank
  | excluded _ marked =>
    rintro rfl
    cases marked

/-- A cell is written in one way only. -/
theorem IsWritten.unique {text' : String} {excluded' : Bool} {pieces' : List String}
    (written : IsWritten cell text excluded pieces)
    (written' : IsWritten cell text' excluded' pieces') :
    text = text' ∧ excluded = excluded' ∧ pieces = pieces' := by
  obtain rfl : text = text' := written.trim_eq.symm.trans written'.trim_eq
  cases written with
  | allowed _ _ unmarked lists =>
    cases written' with
    | allowed _ _ _ lists' =>
      exact ⟨rfl, rfl, (lists_iff.mp lists).symm.trans (lists_iff.mp lists')⟩
    | excluded _ marked => exact absurd (by rw [marked]; rfl) unmarked
  | excluded _ marked lists =>
    cases written' with
    | allowed _ _ unmarked => exact absurd (by rw [marked]; rfl) unmarked
    | excluded _ marked' lists' =>
      obtain rfl := List.cons.inj (marked.symm.trans marked') |>.2
      exact ⟨rfl, rfl, (lists_iff.mp lists).symm.trans (lists_iff.mp lists')⟩

/-- A cell is written in some way unless it is blank. -/
theorem exists_isWritten (nonblank : ¬ Text.Trims cell.toList []) :
    ∃ text excluded pieces, IsWritten cell text excluded pieces := by
  have trims : Text.Trims cell.toList (Text.trim cell).toList := by
    rw [Text.toList_trim]
    exact Text.trims_trimChars cell.toList
  by_cases marked : (Text.trim cell).toList.head? = some '!'
  · obtain ⟨list, text_eq⟩ := List.head?_eq_some_iff.mp marked
    exact ⟨_, true, _, .excluded trims text_eq (lists_iff.mpr rfl)⟩
  · have full : Text.trim cell ≠ "" := by
      intro empty
      rw [empty] at trims
      exact nonblank trims
    exact ⟨_, false, _, .allowed trims full marked (lists_iff.mpr rfl)⟩

/-- The list of a cell is what is left without the mark of exclusion. -/
theorem IsWritten.exists_list (written : IsWritten cell text excluded pieces) :
    ∃ list, exclusion text = (excluded, list) ∧ Dimension.pieces list = pieces := by
  cases written with
  | allowed _ _ unmarked lists =>
    refine ⟨text, ?_, by simpa using lists_iff.mp lists⟩
    rw [exclusion]
    split
    · next list text_eq => exact absurd (by rw [text_eq]; rfl) unmarked
    · rfl
  | @excluded list _ _ marked lists =>
    refine ⟨String.ofList list, ?_, lists_iff.mp lists⟩
    simp only [exclusion, marked]

/-- A cell with some text is read by resolving what is written in it. -/
theorem parse_of_isWritten (written : IsWritten cell text excluded pieces) (line : Nat) :
    parse cell line =
      match pieces.mapM (Constant.resolve · line) with
      | .error failure => .error failure
      | .ok values =>
        if excluded && values.isEmpty then .error (.invalidValue "" text line)
        else .ok (ofValues values (!excluded)) := by
  obtain ⟨list, list_eq, read⟩ := written.exists_list
  have full := written.ne_empty
  have trimmed := written.trim_eq
  cases resolved : pieces.mapM (Constant.resolve · line) with
  | error failure => simp only [parse, trimmed, if_neg full, list_eq, read, resolved]
  | ok values => simp only [parse, trimmed, if_neg full, list_eq, read, resolved]

theorem parse_of_blank (blank : Text.Trims cell.toList []) : parse cell line = .ok .any := by
  have trimmed : Text.trim cell = "" := by
    rw [Text.trims_iff] at blank
    rw [← String.toList_inj, Text.toList_trim, ← blank, String.toList_empty]
  rw [parse, trimmed]
  rfl

end

/-! ## Values -/

section

variable {pieces values : List String} {line : Nat}

theorem mapM_resolve_eq_ok_iff :
    pieces.mapM (Constant.resolve · line) = .ok values ↔
      List.Forall₂ Constant.StandsFor pieces values := by
  simp only [Except.mapM_eq_ok_iff, Constant.resolve_eq_ok_iff]

theorem mapM_resolve_eq_error_iff {failure : LoadError} :
    pieces.mapM (Constant.resolve · line) = .error failure ↔
      ∃ before piece after, pieces = before ++ piece :: after ∧
        (∀ earlier ∈ before, ¬ Constant.IsUnknown earlier) ∧ Constant.IsUnknown piece ∧
        failure = .unknownConstant piece line := by
  rw [Except.mapM_eq_error_iff]
  simp only [← Constant.not_isUnknown_iff, Constant.resolve_eq_error_iff_isUnknown, and_comm]

end

/-! ## What is meant and what is read -/

section

variable {cell : String} {line : Nat} {result : Except LoadError Dimension}

/-- Commas and blanks are all there is to a cell when its list is empty without being excluded. -/
theorem hasCommasOnly_iff : HasCommasOnly cell ↔ ∃ text, IsWritten cell text false [] := by
  constructor
  · rintro ⟨comma, only⟩
    have nonblank : ¬ Text.Trims cell.toList [] := by
      intro blank
      exact absurd (Text.trims_nil_iff.mp blank ',' comma) (by decide)
    obtain ⟨text, excluded, pieces, written⟩ := exists_isWritten nonblank
    cases written with
    | allowed trims full unmarked lists =>
      have nothing : Lists text.toList [] := lists_nil_iff.mpr (trims.forall_iff.mp only)
      exact ⟨text, .allowed trims full unmarked nothing⟩
    | excluded trims marked lists =>
      have mark : '!' ∈ cell.toList := trims.subset (by simp [marked])
      exact absurd (only '!' mark) (by decide)
  · rintro ⟨text, written⟩
    cases written with
    | allowed trims full unmarked lists =>
      have only := lists_nil_iff.mp lists
      refine ⟨?_, trims.forall_iff.mpr only⟩
      -- The first character of the trimmed text is not blank, and so it is a comma.
      obtain ⟨c, rest, text_eq⟩ : ∃ c rest, text.toList = c :: rest :=
        List.exists_cons_of_ne_nil fun empty => full (String.toList_eq_nil_iff.mp empty)
      have among : c ∈ text.toList := by simp [text_eq]
      have visible : Text.isBlank c = false := trims.first c (by simp [text_eq])
      rcases only c among with rfl | blank
      · exact trims.subset among
      · rw [visible] at blank
        cases blank

/-- A cell is read as it is written, unless it has commas only. -/
theorem parse_of_means (means : Means cell line result) :
    parse cell line = result ∨ HasCommasOnly cell := by
  cases means with
  | blank blank => exact .inl (parse_of_blank blank)
  | @unknown text excluded before after piece written known unknown =>
    have refused : (before ++ piece :: after).mapM (Constant.resolve · line) =
        .error (.unknownConstant piece line) :=
      mapM_resolve_eq_error_iff.mpr ⟨_, _, _, rfl, known, unknown, rfl⟩
    rw [parse_of_isWritten written line, refused]
    exact .inl rfl
  | @empty text excluded written =>
    -- Of the lists without a value only the excluded ones are refused.
    cases excluded with
    | true =>
      rw [parse_of_isWritten written line]
      exact .inl rfl
    | false => exact .inr (hasCommasOnly_iff.mpr ⟨text, written⟩)
  | allowed written stand nonempty | excluded written stand nonempty =>
    rw [parse_of_isWritten written line, mapM_resolve_eq_ok_iff.mpr stand]
    simp [ofValues, nonempty]

/-- A cell means something. -/
theorem exists_means (cell : String) (line : Nat) : ∃ result, Means cell line result := by
  by_cases blank : Text.Trims cell.toList []
  · exact ⟨_, .blank blank⟩
  · -- How the pieces are resolved tells which of the other cases it is.
    obtain ⟨text, excluded, pieces, written⟩ := exists_isWritten blank
    cases resolved : pieces.mapM (Constant.resolve · line) with
    | error failure =>
      obtain ⟨before, piece, after, rfl, known, unknown, -⟩ :=
        mapM_resolve_eq_error_iff.mp resolved
      exact ⟨_, .unknown written known unknown⟩
    | ok values =>
      have stand := mapM_resolve_eq_ok_iff.mp resolved
      by_cases nothing : values = []
      · subst nothing
        cases stand
        exact ⟨_, .empty written⟩
      · cases excluded with
        | false => exact ⟨_, .allowed written stand nothing⟩
        | true => exact ⟨_, .excluded written stand nothing⟩

/-- Only a blank cell asks for nothing. -/
theorem trims_of_means_any (means : Means cell line (.ok .any)) : Text.Trims cell.toList [] := by
  cases means with
  | blank blank => exact blank

section

variable (commas : HasCommasOnly cell)

include commas

theorem parse_of_hasCommasOnly : parse cell line = .ok .any := by
  obtain ⟨text, written⟩ := hasCommasOnly_iff.mp commas
  rw [parse_of_isWritten written line]
  rfl

/-- A cell of commas is wrong. -/
theorem means_iff_of_hasCommasOnly :
    Means cell line result ↔ result = .error (.invalidValue "" (Text.trim cell) line) := by
  obtain ⟨text, written⟩ := hasCommasOnly_iff.mp commas
  rw [written.trim_eq]
  constructor
  · intro means
    cases means with
    | blank blank => exact absurd (Text.trims_nil_iff.mp blank ',' commas.1) (by decide)
    | unknown written' =>
      have nothing := (written.unique written').2.2
      simp at nothing
    | empty written' => rw [(written.unique written').1]
    | allowed written' stand nonempty =>
      -- Without pieces there would be no values either.
      have nothing := (written.unique written').2.2
      rw [← nothing] at stand
      cases stand
      exact absurd rfl nonempty
    | excluded written' => cases (written.unique written').2.1
  · rintro rfl
    exact .empty written

end

/-- There is one thing that a cell means. A cell is read as what it means exactly when it has
something else than commas and blanks in it, or no commas. The cells that ask for nothing are those
of commas and blanks. -/
theorem cell_is_read_as_written (cell : String) (line : Nat) :
    (∃! result, Means cell line result) ∧
    (Means cell line (parse cell line) ↔ ¬ HasCommasOnly cell) ∧
    (parse cell line = .ok .any ↔ ∀ c ∈ cell.toList, c = ',' ∨ Text.isBlank c = true) := by
  obtain ⟨result, means⟩ := exists_means cell line
  by_cases commas : HasCommasOnly cell
  · have read : parse cell line = .ok .any := parse_of_hasCommasOnly commas
    refine ⟨⟨result, means, fun other means' => ?_⟩, ?_, iff_of_true read commas.2⟩
    · rw [means_iff_of_hasCommasOnly commas] at means means'
      rw [means, means']
    · rw [means_iff_of_hasCommasOnly commas, read]
      exact iff_of_false nofun (not_not_intro commas)
  · -- Whatever the cell means is what is read, so it means nothing else.
    have reads {other : Except LoadError Dimension} (means' : Means cell line other) :
        parse cell line = other := (parse_of_means means').resolve_right commas
    have read := reads means
    refine ⟨⟨result, means, fun other means' => ?_⟩, iff_of_true (read ▸ means) commas, ?_⟩
    · exact (reads means').symm.trans read
    · constructor
      · intro any
        rw [← read, any] at means
        exact fun c among => .inr (Text.trims_nil_iff.mp (trims_of_means_any means) c among)
      · intro only
        apply parse_of_blank
        rw [Text.trims_nil_iff]
        intro c among
        rcases only c among with rfl | blank
        · exact absurd ⟨among, only⟩ commas
        · exact blank

/-- A comma between blanks has no value in it, and is read as asking for nothing. -/
theorem comma_is_read_as_any :
    Means " , " 7 (.error (.invalidValue "" "," 7)) ∧ ¬ Means " , " 7 (parse " , " 7) ∧
      parse " , " 7 = .ok .any := by
  have commas : HasCommasOnly " , " := by decide
  refine ⟨?_, ?_, parse_of_hasCommasOnly commas⟩
  · exact (means_iff_of_hasCommasOnly commas).mpr rfl
  · rw [means_iff_of_hasCommasOnly commas, parse_of_hasCommasOnly commas]
    nofun

end

end PaymentRules.Dimension
