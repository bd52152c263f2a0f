import Mathlib.Data.Char
import Mathlib.Data.List.Forall2
import Sqlwright.Proofs.Checking
import Sqlwright.Proofs.Restriction

/-!
# Well-formed selects

A selection is well formed if it is of a named table or of a statement, names
columns that may be named, sorts in a direction, has a filter that is accepted,
and asks for a page only of a sorted result.  A select is written for the
well-formed selections and for no others.

Whether a part of a statement is there is looked up in the text of the part.
The text of a filter or of an order is only empty if nothing is demanded or
nothing is sorted by, so the parts of a select are those of its selection.
-/

namespace Sqlwright

open Sqlwright.Success
open Sqlwright.Text

/-! ## Words in letters of any case -/

/-- A text is a word of small letters, some of which may be capitals. -/
def Text.Spells (text word : String) : Prop :=
  List.Forall₂
    (fun character letter => character = letter ∨ character = letter.toUpper)
    text.toList word.toList

/-- A small letter of ASCII. -/
def Text.IsSmall (letter : Char) : Prop :=
  97 ≤ letter.toNat ∧ letter.toNat ≤ 122

instance Text.decidableIsSmall (letter : Char) : Decidable (IsSmall letter) :=
  inferInstanceAs (Decidable (_ ∧ _))

theorem Text.toNat_toLower (character : Char) :
    character.toLower.toNat =
      if 65 ≤ character.toNat ∧ character.toNat ≤ 90 then character.toNat + 32
      else character.toNat := by
  by_cases capital : 65 ≤ character.toNat ∧ character.toNat ≤ 90
  · have lower : character.toLower = _ := dif_pos capital
    have shift : ('a'.val - 'A'.val).toNat = 32 := rfl
    rw [if_pos capital, lower, ← Char.toNat_val, UInt32.toNat_add, shift,
      Char.toNat_val]
    omega
  · have same : character.toLower = character := dif_neg capital
    rw [if_neg capital, same]

theorem Text.toNat_toUpper (character : Char) :
    character.toUpper.toNat =
      if IsSmall character then character.toNat - 32 else character.toNat := by
  by_cases small : IsSmall character
  · have inside : 'a'.val ≤ character.val ∧ character.val ≤ 'z'.val := small
    have upper : character.toUpper = _ := dif_pos inside
    -- The difference to a capital letter is negative, and so it wraps.
    have shift : ('A'.val - 'a'.val).toNat = 4294967264 := rfl
    rw [if_pos small, upper, ← Char.toNat_val, UInt32.toNat_add, shift,
      Char.toNat_val]
    unfold IsSmall at small
    omega
  · have same : character.toUpper = character := dif_neg small
    rw [if_neg small, same]

theorem Text.toLower_eq_iff
    {letter : Char} (small : IsSmall letter) (character : Char) :
    character.toLower = letter ↔
      character = letter ∨ character = letter.toUpper := by
  rw [← Char.toNat_inj, ← Char.toNat_inj, ← Char.toNat_inj, toNat_toLower,
    toNat_toUpper, if_pos small]
  unfold IsSmall at small
  split
  · omega
  · omega

theorem Text.toUpper_toUpper (character : Char) :
    character.toUpper.toUpper = character.toUpper := by
  have notSmall : ¬IsSmall character.toUpper := by
    rw [IsSmall, toNat_toUpper]
    split_ifs with small
    · unfold IsSmall at small
      omega
    · exact small
  rw [← Char.toNat_inj, toNat_toUpper, if_neg notSmall]

theorem Text.forall₂_spelled_iff
    {letters : List Char} (small : ∀ letter ∈ letters, IsSmall letter)
    (characters : List Char) :
    characters.map Char.toLower = letters ↔
      List.Forall₂
        (fun character letter =>
          character = letter ∨ character = letter.toUpper)
        characters letters := by
  induction letters generalizing characters with
  | nil => cases characters <;> simp
  | cons letter letters step =>
      rw [List.forall_mem_cons] at small
      cases characters with
      | nil => simp
      | cons character characters =>
          rw [List.map_cons, List.cons.injEq, List.forall₂_cons,
            toLower_eq_iff small.1, step small.2]

theorem Text.lower_eq_iff
    (word : String) (small : ∀ letter ∈ word.toList, IsSmall letter)
    (text : String) :
    lower text = word ↔ Spells text word := by
  rw [Spells, ← forall₂_spelled_iff small, lower, ← String.toList_inj,
    String.toList_ofList]

theorem Text.upper_of_spells {text word : String} (spelled : Spells text word) :
    upper text = upper word := by
  rw [upper, upper, String.ofList_inj, ← List.forall₂_eq_eq_eq,
    List.forall₂_map_left_iff, List.forall₂_map_right_iff]
  apply spelled.imp
  rintro character letter (rfl | rfl)
  · rfl
  · exact toUpper_toUpper letter

/-! ## Sort items -/

namespace SortItem

/-- The direction of a sort item is one of the two that there are. -/
def Directed (item : SortItem) : Prop :=
  Spells item.direction "asc" ∨ Spells item.direction "desc"

/-- A sort item in a statement: the quoted column, and the direction in capitals. -/
def text (style : QuoteStyle) (item : SortItem) : String :=
  Identifier.quoteAll style item.column ++ " " ++ upper item.direction

theorem keyword?_eq_some_iff (item : SortItem) (keyword : String) :
    item.keyword? = some keyword ↔
      item.Directed ∧ keyword = upper item.direction := by
  have ascending :=
    lower_eq_iff "asc" (by simp [IsSmall]) item.direction
  have descending :=
    lower_eq_iff "desc" (by simp [IsSmall]) item.direction
  rw [keyword?, Directed, ← ascending, ← descending]
  by_cases up : lower item.direction = "asc"
  · have capitals : upper item.direction = "ASC" :=
      upper_of_spells (ascending.1 up)
    simp [up, capitals, eq_comm]
  · by_cases down : lower item.direction = "desc"
    · have capitals : upper item.direction = "DESC" :=
        upper_of_spells (descending.1 down)
      simp [down, capitals, eq_comm]
    · simp [up, down]

theorem write_eq_ok_iff
    (options : Options) (item : SortItem) (written : String) :
    item.write options = .ok written ↔
      (Nameable options item.column ∧ item.Directed) ∧
        written = item.text options.quoteStyle := by
  simp only [write, bind_eq_ok, options.validateColumn_eq_ok_iff]
  cases found : item.keyword? with
  | none =>
      have undirected : ¬ item.Directed := by
        intro directed
        rw [(item.keyword?_eq_some_iff _).2 ⟨directed, rfl⟩] at found
        cases found
      simp [undirected]
  | some keyword =>
      rcases (item.keyword?_eq_some_iff keyword).1 found with ⟨directed, rfl⟩
      simp only [bind_eq_ok, pure_eq_ok,
        Identifier.quote_eq_ok_iff_not_refused]
      constructor
      · rintro ⟨-, allowed, quoted, ⟨quotable, rfl⟩, rfl⟩
        exact ⟨⟨⟨allowed, quotable⟩, directed⟩, rfl⟩
      · rintro ⟨⟨⟨allowed, quotable⟩, -⟩, rfl⟩
        exact ⟨(), allowed, _, ⟨quotable, rfl⟩, rfl⟩

end SortItem

theorem writeOrder_eq_ok_iff
    (options : Options) (items : List SortItem) (body : String) :
    writeOrder options items = .ok body ↔
      (∀ item ∈ items, Nameable options item.column ∧ item.Directed) ∧
        body = ", ".intercalate (items.map (SortItem.text options.quoteStyle)) := by
  simp only [writeOrder, bind_eq_ok, pure_eq_ok,
    mapM_eq_ok_iff (SortItem.write_eq_ok_iff options)]
  constructor
  · rintro ⟨parts, ⟨valid, rfl⟩, rfl⟩
    exact ⟨valid, rfl⟩
  · rintro ⟨valid, rfl⟩
    exact ⟨_, ⟨valid, rfl⟩, rfl⟩

theorem intercalate_cons_ne_empty
    (separator : String) {first : String} (visible : first ≠ "")
    (rest : List String) :
    separator.intercalate (first :: rest) ≠ "" := by
  cases rest with
  | nil => rwa [String.intercalate_singleton]
  | cons next others =>
      rw [String.intercalate_cons_cons]
      simp [visible]

/-- Only without sort items the body of an `ORDER BY` is empty. -/
theorem isEmpty_order (style : QuoteStyle) (items : List SortItem) :
    (", ".intercalate (items.map (SortItem.text style))).isEmpty =
      items.isEmpty := by
  cases items with
  | nil => rfl
  | cons item rest =>
      have visible : item.text style ≠ "" := by simp [SortItem.text]
      rw [List.isEmpty_cons, String.isEmpty_eq_false_iff]
      exact intercalate_cons_ne_empty _ visible _

/-! ## The head and the tail -/

namespace Source

/-- A table with a name and columns that may be named, or a statement. -/
def WellFormed (options : Options) : Source → Prop
  | table name columns =>
      isBlank name = false ∧ ∀ column ∈ columns, Nameable options column
  | query sql => isBlank sql = false

/-- The front of a select: columns and table, or the statement of the caller. -/
def head (style : QuoteStyle) : Source → String
  | table name [] => "SELECT * FROM " ++ name
  | table name columns =>
      "SELECT " ++ ", ".intercalate (columns.map (Identifier.quoteAll style)) ++
        " FROM " ++ name
  | query sql => sql

theorem write_eq_ok_iff
    (options : Options) (source : Source) (written : String) :
    source.write options = .ok written ↔
      source.WellFormed options ∧ written = source.head options.quoteStyle := by
  cases source with
  | table name columns =>
      simp only [Source.write, bind_eq_ok, validateTable_eq_ok_iff, WellFormed]
      cases columns with
      | nil => simp [head, pure_eq_ok, eq_comm (a := written)]
      | cons first rest =>
          simp only [List.isEmpty_cons, Bool.false_eq_true, if_false,
            bind_eq_ok, pure_eq_ok, options.quoteColumns_eq_ok_iff]
          constructor
          · rintro ⟨-, named, quoted, ⟨nameable, rfl⟩, rfl⟩
            exact ⟨⟨named, nameable⟩, rfl⟩
          · rintro ⟨⟨named, nameable⟩, rfl⟩
            exact ⟨(), named, _, ⟨nameable, rfl⟩, rfl⟩
  | query sql =>
      rw [Source.write, WellFormed, head]
      by_cases blank : isBlank sql = true
      · simp [blank]
      · simp [blank, eq_comm]

end Source

/--
The tail of a select; without a page there is none.  SQL Server skips the rows
before a page and fetches the next ones, and every other backend limits the rows
behind an offset.
-/
def Dialect.tail (dialect : Dialect) : Option Page → String
  | none => ""
  | some page =>
      match dialect.backend with
      | .sqlServer =>
          " OFFSET " ++ toString page.offset ++ " ROWS FETCH NEXT " ++
            toString page.limit ++ " ROWS ONLY"
      | .mysql | .generic _ =>
          " LIMIT " ++ toString page.limit ++ " OFFSET " ++
            toString page.offset

theorem Dialect.tail_some (dialect : Dialect) (page : Page) :
    dialect.tail (some page) = " " ++ dialect.paginate page := by
  rcases dialect with ⟨backend, options⟩
  have limits : " " ++ "LIMIT " = " LIMIT " := rfl
  have skips : " " ++ "OFFSET " = " OFFSET " := rfl
  cases backend with
  | sqlServer =>
      simp only [tail, paginate, ← skips, String.append_assoc]
  | mysql | generic =>
      simp only [tail, paginate, ← limits, String.append_assoc]

theorem Dialect.pageTail_eq_ok_iff
    (dialect : Dialect) (order : String) (page : Option Page) (tail : String) :
    dialect.pageTail order page = .ok tail ↔
      (page ≠ none → order.isEmpty = false) ∧ tail = dialect.tail page := by
  rw [eq_comm (a := tail)]
  cases page with
  | none => simp [pageTail, Dialect.tail]
  | some page =>
      cases sorted : order.isEmpty with
      | true => simp [pageTail, sorted]
      | false => simp [pageTail, sorted, Dialect.tail_some]

/-! ## Selections -/

/-- The body of a filter is empty if the filter is. -/
theorem Filter.isEmpty_body
    {options : Options} {filter : Filter} {body : Query}
    (written : filter.toWhere options = .ok body) :
    body.sql.isEmpty = filter.isEmpty := by
  cases demands : filter.isEmpty with
  | false => exact (restricts_of_toWhere written).visible demands
  | true =>
      rcases filter with ⟨entries, distinct⟩
      cases entries with
      | nil =>
          cases written
          rfl
      | cons entry rest => cases demands

namespace Selection

/-- A selection for which a select can be written. -/
structure WellFormed (options : Options) (selection : Selection) : Prop where
  source : selection.source.WellFormed options
  filter : ∃ body, selection.filter.toWhere options = .ok body
  order :
    ∀ item ∈ selection.order, Nameable options item.column ∧ item.Directed
  page : selection.page ≠ none → selection.order ≠ []

/-- A select with a given body of its `WHERE`, from its parts in order. -/
def text (dialect : Dialect) (selection : Selection) (body : String) :
    String :=
  let style := dialect.options.quoteStyle
  selection.source.head style ++
    (if selection.filter.isEmpty then "" else " WHERE " ++ body) ++
    (if selection.order.isEmpty then ""
      else " ORDER BY " ++
        ", ".intercalate (selection.order.map (SortItem.text style))) ++
    dialect.tail selection.page

end Selection

/-- What is looked up in the texts of the parts is there in the selection. -/
theorem Selection.text_eq
    (dialect : Dialect) {selection : Selection} {body : Query}
    (written : selection.filter.toWhere dialect.options = .ok body) :
    selection.text dialect body.sql =
      selection.source.head dialect.options.quoteStyle ++
        optionalPart " WHERE " body.sql ++
        optionalPart " ORDER BY "
          (", ".intercalate
            (selection.order.map
              (SortItem.text dialect.options.quoteStyle))) ++
        dialect.tail selection.page := by
  rw [optionalPart, optionalPart, Filter.isEmpty_body written, isEmpty_order]
  rfl

/-- A select is written for a well-formed selection, from the parts of it. -/
theorem Dialect.select_eq_ok_iff
    (dialect : Dialect) (selection : Selection) (query : Query) :
    dialect.select selection = .ok query ↔
      selection.WellFormed dialect.options ∧
        ∃ body, selection.filter.toWhere dialect.options = .ok body ∧
          query = ⟨selection.text dialect body.sql, body.params⟩ := by
  simp only [select, bind_eq_ok, pure_eq_ok, Source.write_eq_ok_iff,
    writeOrder_eq_ok_iff, pageTail_eq_ok_iff]
  constructor
  · rintro
      ⟨head, ⟨source, rfl⟩, body, written, order, ⟨directed, rfl⟩, tail,
        ⟨paged, rfl⟩, rfl⟩
    rw [isEmpty_order] at paged
    rw [← Selection.text_eq dialect written]
    refine ⟨⟨source, ⟨body, written⟩, directed, ?_⟩, body, written, rfl⟩
    intro page
    exact List.isEmpty_eq_false_iff.1 (paged page)
  · rintro ⟨wellFormed, body, written, rfl⟩
    rw [Selection.text_eq dialect written]
    refine
      ⟨_, ⟨wellFormed.source, rfl⟩, body, written, _, ⟨wellFormed.order, rfl⟩,
        _, ⟨?_, rfl⟩, rfl⟩
    intro page
    rw [isEmpty_order]
    exact List.isEmpty_eq_false_iff.2 (wellFormed.page page)

/--
A select is written exactly for the well-formed selections.  Its text is the
head, the body of the filter behind `WHERE` if the filter has columns, the sort
items behind `ORDER BY` if there are some, and the tail of the page if one is
asked for, and its parameters are those of the filter.  A select from a
statement of the caller is the one without sort items and page.
-/
theorem Dialect.select_composed (dialect : Dialect) :
    (∀ selection : Selection,
      (∃ query, dialect.select selection = .ok query) ↔
        selection.WellFormed dialect.options) ∧
      (∀ (selection : Selection) (query : Query),
        dialect.select selection = .ok query ↔
          selection.WellFormed dialect.options ∧
            ∃ body, selection.filter.toWhere dialect.options = .ok body ∧
              query = ⟨selection.text dialect body.sql, body.params⟩) ∧
      ∀ (sql : String) (filter : Filter),
        dialect.selectFrom sql filter =
          dialect.select ⟨.query sql, filter, [], none⟩ := by
  refine ⟨?_, dialect.select_eq_ok_iff, fun _ _ => rfl⟩
  intro selection
  simp only [dialect.select_eq_ok_iff]
  constructor
  · rintro ⟨query, wellFormed, -⟩
    exact wellFormed
  · intro wellFormed
    rcases wellFormed.filter with ⟨body, written⟩
    exact ⟨_, wellFormed, body, written, rfl⟩

end Sqlwright
