import Sqlwright.Identifier

/-!
# Options of a backend

`Options` holds what differs between backends: how names are quoted, how many
parameters and rows one statement may have, how generated ids are spaced, and
how results are counted.  Limits of zero mean that there is no limit.

A `Setting` changes one option and refuses a value that no session can work
with; `Options.configure` applies several in order.  `Options.validate` checks
finished options instead, for options that were read from a document by
`Options.ofJson?`.  `Setting.ofJson?` reads a single setting.
-/

namespace Sqlwright

open Sqlwright.Text

/-- What a session knows about its backend. -/
structure Options where
  table : Option String
  /-- The columns that statements may name; none listed means any. -/
  columns : List String
  quoteStyle : QuoteStyle
  maxBoundParams : Nat
  maxInsertRows : Nat
  autoIncrementIncrement : Nat
  idColumn : Option String
  /-- Whether a statement with a result set reports its count of rows. -/
  affectedIsRowCount : Bool
  /-- Whether the backend has booleans of its own. -/
  nativeBoolType : Bool
  multipleRowSets : Bool
  deriving DecidableEq

namespace Options

/-- Double quotes, no limits. -/
def generic : Options :=
  { table := none
    columns := []
    quoteStyle := .ansi
    maxBoundParams := 0
    maxInsertRows := 0
    autoIncrementIncrement := 1
    idColumn := none
    affectedIsRowCount := true
    nativeBoolType := false
    multipleRowSets := false }

/-- Backticks and at most 65535 placeholders. -/
def mysql : Options :=
  { generic with
    quoteStyle := .backtick
    maxBoundParams := 65535 }

/-- Brackets, at most 2099 placeholders and 1000 rows, several row sets. -/
def sqlServer : Options :=
  { generic with
    quoteStyle := .bracket
    maxBoundParams := 2099
    maxInsertRows := 1000
    affectedIsRowCount := false
    multipleRowSets := true }

/-- The first option that no session can work with, table first. -/
def fault? (options : Options) : Option SettingFault :=
  if options.table.any isBlank then some .blankTable
  else if options.columns.any isBlank then some .blankColumn
  else if options.autoIncrementIncrement = 0 then some .zeroIncrement
  else if options.idColumn.any isBlank then some .blankIdColumn
  else none

/-- Refuses options that no session can work with. -/
def validate (options : Options) : Except Failure Unit :=
  match options.fault? with
  | some fault => .error (.setting fault)
  | none => .ok ()

/-- Whether statements may name a column. -/
def allows (options : Options) (column : String) : Bool :=
  options.columns.isEmpty || options.columns.contains column

/-- Refuses a column that statements may not name. -/
def validateColumn (options : Options) (column : String) :
    Except Failure Unit :=
  if options.allows column then .ok () else .error (.column column)

/-- A column in quotes, after the allow-list has been asked. -/
def quoteColumn (options : Options) (column : String) :
    Except Failure String := do
  options.validateColumn column
  Identifier.quote options.quoteStyle column

/-- Columns in quotes; the first one that is refused decides. -/
def quoteColumns (options : Options) (columns : List String) :
    Except Failure (List String) :=
  columns.mapM options.quoteColumn

end Options

/-- A change of one option. -/
inductive Setting where
  | table (name : String)
  | columns (names : List String)
  | quoteStyle (style : QuoteStyle)
  | maxBoundParams (limit : Nat)
  | maxInsertRows (limit : Nat)
  | autoIncrementIncrement (increment : Nat)
  | idColumn (name : String)
  | affectedIsRowCount (value : Bool)
  | nativeBoolType (value : Bool)
  | multipleRowSets (value : Bool)
  deriving DecidableEq

namespace Setting

/-- Why no session can work with the value of a setting. -/
def fault? : Setting → Option SettingFault
  | table name => if isBlank name then some .blankTable else none
  | columns names => if names.any isBlank then some .blankColumn else none
  | autoIncrementIncrement increment =>
      if increment = 0 then some .zeroIncrement else none
  | idColumn name => if isBlank name then some .blankIdColumn else none
  | _ => none

/-- Options with the value of a setting, whatever it is. -/
def assign (setting : Setting) (options : Options) : Options :=
  match setting with
  | table name => { options with table := some name }
  | columns names => { options with columns := names }
  | quoteStyle style => { options with quoteStyle := style }
  | maxBoundParams limit => { options with maxBoundParams := limit }
  | maxInsertRows limit => { options with maxInsertRows := limit }
  | autoIncrementIncrement increment =>
      { options with autoIncrementIncrement := increment }
  | idColumn name => { options with idColumn := some name }
  | affectedIsRowCount value => { options with affectedIsRowCount := value }
  | nativeBoolType value => { options with nativeBoolType := value }
  | multipleRowSets value => { options with multipleRowSets := value }

/-- Options with the value of a setting, if a session can work with it. -/
def apply (setting : Setting) (options : Options) : Except Failure Options :=
  match setting.fault? with
  | some fault => .error (.setting fault)
  | none => .ok (setting.assign options)

end Setting

/-- Settings applied in order; the first faulty one decides. -/
def Options.configure (options : Options) (settings : List Setting) :
    Except Failure Options :=
  settings.foldlM (fun current setting => setting.apply current) options

namespace Options

/-- A number from zero to `2 ^ 64 - 1`. -/
def readCount? (document : Json) : Option Nat :=
  match document with
  | .number (.integer value) =>
      if 0 ≤ value ∧ value < Int.pow 2 64 then some value.toNat else none
  | _ => none

/-- A text or nothing; a missing field counts as nothing. -/
def readOptionalText? (document : Option Json) : Option (Option String) :=
  match document with
  | none | some .null => some none
  | some (.string text) => some (some text)
  | some _ => none

/-- A list of texts. -/
def readTexts? (document : Json) : Option (List String) :=
  match document with
  | .array items => items.mapM Json.string?
  | _ => none

/-- A style by its name, or by an object whose only field it is, with null. -/
def readQuoteStyle? (document : Json) : Option QuoteStyle :=
  match document with
  | .string name => QuoteStyle.ofName? name
  | .object [(name, .null)] => QuoteStyle.ofName? name
  | _ => none

/-- The names of the options in a document, in the order of an array. -/
def fieldNames : List String :=
  ["table", "columns", "quote_style", "max_bound_params", "max_insert_rows",
    "auto_increment_increment", "id_column", "affected_is_row_count",
    "native_bool_type", "multiple_row_sets"]

/-- Options read through a way to find each field. -/
def ofFields? (field? : String → Option Json) : Option Options := do
  let table ← readOptionalText? (field? "table")
  let columns ← (field? "columns").bind readTexts?
  let quoteStyle ← (field? "quote_style").bind readQuoteStyle?
  let maxBoundParams ← (field? "max_bound_params").bind readCount?
  let maxInsertRows ← (field? "max_insert_rows").bind readCount?
  let autoIncrementIncrement ←
    (field? "auto_increment_increment").bind readCount?
  let idColumn ← readOptionalText? (field? "id_column")
  let affectedIsRowCount ← (field? "affected_is_row_count").bind Json.bool?
  let nativeBoolType ← (field? "native_bool_type").bind Json.bool?
  let multipleRowSets ← (field? "multiple_row_sets").bind Json.bool?
  pure
    { table, columns, quoteStyle, maxBoundParams, maxInsertRows,
      autoIncrementIncrement, idColumn, affectedIsRowCount, nativeBoolType,
      multipleRowSets }

/--
Options written as an object, in which other fields are ignored, or as an
array of all ten in order.  Nothing is validated.
-/
def ofJson? (document : Json) : Option Options :=
  match document with
  | .object _ => ofFields? document.field?
  | .array items =>
      if items.length = fieldNames.length then
        ofFields? fun name => (fieldNames.zip items).lookup name
      else
        none
  | _ => none

end Options

/-- A setting written as the name of the option and its new value. -/
def Setting.ofJson? (document : Json) : Option Setting :=
  match document with
  | .array [.string name, value] =>
      match name with
      | "table" => value.string?.map .table
      | "columns" => (Options.readTexts? value).map .columns
      | "quote_style" => (Options.readQuoteStyle? value).map .quoteStyle
      | "max_bound_params" => (Options.readCount? value).map .maxBoundParams
      | "max_insert_rows" => (Options.readCount? value).map .maxInsertRows
      | "auto_increment_increment" =>
          (Options.readCount? value).map .autoIncrementIncrement
      | "id_column" => value.string?.map .idColumn
      | "affected_is_row_count" => value.bool?.map .affectedIsRowCount
      | "native_bool_type" => value.bool?.map .nativeBoolType
      | "multiple_row_sets" => value.bool?.map .multipleRowSets
      | _ => none
  | _ => none

end Sqlwright
