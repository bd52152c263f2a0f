import Mathlib.Data.List.Basic
import Sqlwright.Session.Basic

/-!
# Options and the settings that lead to them

Options are checked in two ways: each setting checks its own value when it is
applied, and `Options.validate` checks finished options in one pass.  The two
are tied together by `Options.settings`, which has a setting for each option.
The check of finished options finds the first fault among these settings, and
applied to the generic options they lead to the options themselves.

A setting that is applied replaces one of the settings of the options, or is
added to them.  So what holds of all settings of some options and of those
that are applied to them holds of the settings of the result.  It follows that
the options that pass the check are those that settings lead to, and that
settings of sixty-four bits suffice for options of sixty-four bits and lead from
such options to no others.
-/

namespace Sqlwright

open Sqlwright.Text

/-- A number of sixty-four bits. -/
def IsWord (number : Nat) : Prop :=
  number < UInt64.size

instance decidableIsWord (number : Nat) : Decidable (IsWord number) :=
  inferInstanceAs (Decidable (number < UInt64.size))

/-- A setting whose number, if it has one, has sixty-four bits. -/
def Setting.Fits : Setting → Prop
  | maxBoundParams limit | maxInsertRows limit => IsWord limit
  | autoIncrementIncrement increment => IsWord increment
  | _ => True

namespace Options

/-- Options whose numbers have sixty-four bits. -/
structure Fits (options : Options) : Prop where
  maxBoundParams : IsWord options.maxBoundParams
  maxInsertRows : IsWord options.maxInsertRows
  autoIncrementIncrement : IsWord options.autoIncrementIncrement

/--
A setting for each option in order.  A table or an id column that the options
do not have is not set.
-/
def settings (options : Options) : List Setting :=
  (options.table.map Setting.table).toList ++
    [.columns options.columns, .quoteStyle options.quoteStyle,
      .maxBoundParams options.maxBoundParams,
      .maxInsertRows options.maxInsertRows,
      .autoIncrementIncrement options.autoIncrementIncrement] ++
    (options.idColumn.map Setting.idColumn).toList ++
    [.affectedIsRowCount options.affectedIsRowCount,
      .nativeBoolType options.nativeBoolType,
      .multipleRowSets options.multipleRowSets]

/-- The options that settings lead to if none of them is faulty. -/
def assignAll (options : Options) (settings : List Setting) : Options :=
  settings.foldl (fun reached setting => setting.assign reached) options

/-! ## The settings of options -/

theorem findSome?_fault?_optional
    (wrap : String → Setting) (fault : SettingFault)
    (checked :
      ∀ name, (wrap name).fault? = if isBlank name then some fault else none)
    (name? : Option String) :
    (name?.map wrap).toList.findSome? Setting.fault? =
      if name?.any isBlank then some fault else none := by
  cases name? with
  | none => rfl
  | some name =>
      rw [Option.map_some, Option.toList_some, List.findSome?_cons, checked,
        Option.any_some]
      by_cases blank : isBlank name = true
      · rw [if_pos blank]
      · rw [if_neg blank, List.findSome?_nil]

/-- The check of finished options is the check of their settings in order. -/
theorem fault?_eq_findSome? (options : Options) :
    options.fault? = options.settings.findSome? Setting.fault? := by
  have table :=
    findSome?_fault?_optional .table .blankTable (fun _ => rfl) options.table
  have idColumn :=
    findSome?_fault?_optional .idColumn .blankIdColumn (fun _ => rfl)
      options.idColumn
  simp only [settings, List.findSome?_append, table, idColumn,
    List.findSome?_cons, List.findSome?_nil, Setting.fault?]
  unfold fault?
  split
  · rfl
  · split
    · rfl
    · split
      · rfl
      · rw [Option.or_none]
        rfl

/-- Assigned to the generic options, the settings of options lead to them. -/
theorem assignAll_settings (options : Options) :
    generic.assignAll options.settings = options := by
  rcases options with ⟨table, _, _, _, _, _, idColumn, _, _, _⟩
  cases table <;> cases idColumn <;> rfl

theorem mem_settings_assign
    {options : Options} {assigned setting : Setting}
    (member : setting ∈ (assigned.assign options).settings) :
    setting = assigned ∨ setting ∈ options.settings := by
  cases assigned <;>
    simp only [Setting.assign, settings, List.mem_append, List.mem_cons,
      List.not_mem_nil, Option.map_some, Option.toList_some, or_false]
      at member ⊢ <;>
    tauto

theorem fits_iff (options : Options) :
    options.Fits ↔ ∀ setting ∈ options.settings, setting.Fits := by
  constructor
  · intro fits setting member
    simp only [settings, List.mem_append, List.mem_cons, List.not_mem_nil,
      Option.mem_toList, Option.map_eq_some_iff, or_false] at member
    rcases member with
      ((⟨_, _, rfl⟩ | rfl | rfl | rfl | rfl | rfl) | ⟨_, _, rfl⟩) |
        rfl | rfl | rfl
    case inl.inl.inr.inr.inr.inl => exact fits.maxBoundParams
    case inl.inl.inr.inr.inr.inr.inl => exact fits.maxInsertRows
    case inl.inl.inr.inr.inr.inr.inr => exact fits.autoIncrementIncrement
    all_goals exact trivial
  · intro each
    exact
      { maxBoundParams := each (.maxBoundParams _) (by simp [settings])
        maxInsertRows := each (.maxInsertRows _) (by simp [settings])
        autoIncrementIncrement :=
          each (.autoIncrementIncrement _) (by simp [settings]) }

/-! ## Settings one after another -/

/-- Settings are applied up to the first faulty one, which decides. -/
theorem configure_eq (options : Options) (settings : List Setting) :
    options.configure settings =
      match settings.findSome? Setting.fault? with
      | some fault => .error (.setting fault)
      | none => .ok (options.assignAll settings) := by
  induction settings generalizing options with
  | nil => rfl
  | cons setting rest induction =>
      have first :
          options.configure (setting :: rest) =
            (setting.apply options).bind fun next => next.configure rest := rfl
      rw [first, Setting.apply, List.findSome?_cons]
      cases setting.fault? with
      | some fault => rfl
      | none => exact induction (setting.assign options)

theorem configure_eq_ok_iff
    (options result : Options) (settings : List Setting) :
    options.configure settings = .ok result ↔
      (∀ setting ∈ settings, setting.fault? = none) ∧
        options.assignAll settings = result := by
  rw [configure_eq, ← List.findSome?_eq_none_iff]
  cases settings.findSome? Setting.fault? <;> simp

/-- The settings of the result are settings of the options or were applied. -/
theorem mem_settings_assignAll
    {options : Options} {applied : List Setting} {setting : Setting}
    (member : setting ∈ (options.assignAll applied).settings) :
    setting ∈ applied ∨ setting ∈ options.settings := by
  induction applied generalizing options with
  | nil => exact .inr member
  | cons first rest induction =>
      rcases induction member with later | earlier
      · exact .inl (List.mem_cons_of_mem first later)
      · rcases mem_settings_assign earlier with rfl | kept
        · exact .inl List.mem_cons_self
        · exact .inr kept

/-- Settings lead from valid options to valid ones. -/
theorem fault?_of_configure
    {options result : Options} {settings : List Setting}
    (valid : options.fault? = none)
    (configured : options.configure settings = .ok result) :
    result.fault? = none := by
  rcases (configure_eq_ok_iff options result settings).1 configured with
    ⟨faultless, rfl⟩
  rw [fault?_eq_findSome?, List.findSome?_eq_none_iff] at valid ⊢
  intro setting member
  rcases mem_settings_assignAll member with applied | kept
  · exact faultless setting applied
  · exact valid setting kept

/-- Settings that fit lead from options that fit to options that do. -/
theorem fits_of_configure
    {options result : Options} {settings : List Setting}
    (fits : options.Fits) (each : ∀ setting ∈ settings, setting.Fits)
    (configured : options.configure settings = .ok result) :
    result.Fits := by
  rcases (configure_eq_ok_iff options result settings).1 configured with
    ⟨_, rfl⟩
  rw [fits_iff] at fits ⊢
  intro setting member
  rcases mem_settings_assignAll member with applied | kept
  · exact each setting applied
  · exact fits setting kept

/-- Made anew from their settings, options fail with their own fault. -/
theorem configure_settings (options : Options) :
    generic.configure options.settings =
      options.validate.map fun _ => options := by
  rw [configure_eq, ← fault?_eq_findSome?, assignAll_settings]
  unfold validate
  cases options.fault? <;> rfl

theorem validate_eq_ok_iff (options : Options) :
    options.validate = .ok () ↔ options.fault? = none := by
  unfold validate
  cases options.fault? <;> simp

/-! ## Options from documents -/

theorem isWord_of_readCount?
    {document : Json} {number : Nat}
    (read : readCount? document = some number) : IsWord number := by
  unfold readCount? at read
  split at read
  · split at read
    · rename_i value inside
      cases read
      exact (Int.toNat_lt inside.1).2 inside.2
    · cases read
  · cases read

theorem fits_of_ofFields?
    {field? : String → Option Json} {options : Options}
    (read : ofFields? field? = some options) : options.Fits := by
  simp only [ofFields?, Option.bind_eq_bind, Option.bind_eq_some_iff,
    Option.pure_def, Option.some.injEq] at read
  rcases read with
    ⟨_, _, _, _, _, _, _, ⟨_, _, params⟩, _, ⟨_, _, rows⟩, _,
      ⟨_, _, increment⟩, _, _, _, _, _, _, _, _, rfl⟩
  exact
    ⟨isWord_of_readCount? params, isWord_of_readCount? rows,
      isWord_of_readCount? increment⟩

/-- Options that were read from a document fit. -/
theorem fits_of_ofJson?
    {document : Json} {options : Options}
    (read : ofJson? document = some options) : options.Fits := by
  unfold ofJson? at read
  split at read
  · exact fits_of_ofFields? read
  · split at read
    · exact fits_of_ofFields? read
    · cases read
  · cases read

end Options

/-- A session is started over any driver if its options are valid. -/
theorem Session.start_of_valid
    {Connection Cursor : Type} (driver : Driver Connection Cursor)
    (dialect : Dialect) (connection : Connection)
    (valid : dialect.options.fault? = none) :
    Session.start driver dialect connection =
      .ok (⟨driver, dialect, valid⟩,
        driver.configure dialect.options connection) := by
  unfold start
  split
  · rename_i fault found
    rw [valid] at found
    cases found
  · rfl

theorem Backend.fault?_defaultOptions (backend : Backend) :
    backend.defaultOptions.fault? = none := by
  cases backend <;> rfl

theorem Backend.fits_defaultOptions (backend : Backend) :
    backend.defaultOptions.Fits := by
  cases backend with
  | mysql =>
      exact (⟨by decide, by decide, by decide⟩ : Options.mysql.Fits)
  | sqlServer =>
      exact (⟨by decide, by decide, by decide⟩ : Options.sqlServer.Fits)
  | generic retrieval =>
      exact (⟨by decide, by decide, by decide⟩ : Options.generic.Fits)

namespace Options

/-! ## Valid options -/

/--
Options pass the check exactly if settings lead to them from the generic
options, and they have numbers of sixty-four bits besides exactly if settings of
sixty-four bits do.  Their own settings lead to them, or fail with the fault
that the check finds, and have sixty-four bits if the options have.

Settings lead from the default options of every backend only to options that
pass the check and with which a session can be started, and settings of
sixty-four bits only to options of sixty-four bits.  Options that are read from
a document and pass the check can be made by settings that fit.
-/
theorem validate_iff_configured (options : Options) :
    (options.validate = .ok () ↔
      ∃ settings, generic.configure settings = .ok options) ∧
    (options.validate = .ok () ∧ options.Fits ↔
      ∃ settings,
        (∀ setting ∈ settings, setting.Fits) ∧
          generic.configure settings = .ok options) ∧
    (generic.configure options.settings =
        (options.validate.map fun _ => options) ∧
      (options.Fits → ∀ setting ∈ options.settings, setting.Fits)) ∧
    (∀ (backend : Backend) (settings : List Setting),
      backend.defaultOptions.configure settings = .ok options →
        options.validate = .ok () ∧
          ((∀ setting ∈ settings, setting.Fits) → options.Fits) ∧
          ∀ {Connection Cursor : Type} (driver : Driver Connection Cursor)
            (dialect : Dialect) (connection : Connection),
            dialect.options = options →
              ∃ session,
                Session.start driver dialect connection =
                    .ok (session, driver.configure options connection) ∧
                  session.driver = driver ∧ session.dialect = dialect) ∧
    (∀ document : Json,
      ofJson? document = some options →
        options.validate = .ok () →
          ∃ settings,
            (∀ setting ∈ settings, setting.Fits) ∧
              generic.configure settings = .ok options) := by
  have reached (valid : options.validate = .ok ()) :
      generic.configure options.settings = .ok options := by
    rw [configure_settings, valid]
    rfl
  have passed (settings : List Setting)
      (configured : generic.configure settings = .ok options) :
      options.validate = .ok () := by
    rw [validate_eq_ok_iff]
    exact fault?_of_configure rfl configured
  refine
    ⟨⟨fun valid => ⟨options.settings, reached valid⟩, ?_⟩, ⟨?_, ?_⟩,
      ⟨configure_settings options, (fits_iff options).1⟩, ?_, ?_⟩
  · rintro ⟨settings, configured⟩
    exact passed settings configured
  · rintro ⟨valid, fits⟩
    exact ⟨options.settings, (fits_iff options).1 fits, reached valid⟩
  · rintro ⟨settings, each, configured⟩
    exact
      ⟨passed settings configured,
        fits_of_configure (Backend.fits_defaultOptions (.generic .none)) each
          configured⟩
  · intro backend settings configured
    have valid :=
      fault?_of_configure (Backend.fault?_defaultOptions backend) configured
    refine ⟨(validate_eq_ok_iff options).2 valid, ?_, ?_⟩
    · intro each
      exact
        fits_of_configure (Backend.fits_defaultOptions backend) each configured
    · rintro Connection Cursor driver dialect connection rfl
      exact
        ⟨_, Session.start_of_valid driver dialect connection valid, rfl, rfl⟩
  · intro document read valid
    exact
      ⟨options.settings, (fits_iff options).1 (fits_of_ofJson? read),
        reached valid⟩

/-- Names of characters that cannot be seen but are not blank. -/
def unseenNames : Options :=
  { sqlServer with
    table := some "\u200b"
    columns := ["a", "\u2060", "\u2060"]
    autoIncrementIncrement := 18446744073709551615
    idColumn := some " id" }

/-- Settings that lead to them, two of which are made twice. -/
def unseenSettings : List Setting :=
  [.idColumn "\u200b", .columns ["a", "\u2060", "\u2060"],
    .autoIncrementIncrement 18446744073709551615, .table "\u2060",
    .table "\u200b", .idColumn " id"]

theorem validate_iff_configured_unseenNames :
    (Backend.defaultOptions .sqlServer).configure unseenSettings =
        .ok unseenNames ∧
      unseenNames.validate = .ok () ∧
      ∃ settings, generic.configure settings = .ok unseenNames := by
  have configured :
      (Backend.defaultOptions .sqlServer).configure unseenSettings =
        .ok unseenNames :=
    (configure_eq_ok_iff _ _ _).2 ⟨by decide, rfl⟩
  have valid :=
    ((validate_iff_configured unseenNames).2.2.2.1 .sqlServer unseenSettings
      configured).1
  exact ⟨configured, valid, (validate_iff_configured unseenNames).1.1 valid⟩

end Options

end Sqlwright
