import Sqlwright.Engine.Parser
import Sqlwright.Engine.Plan
import Sqlwright.Filter.Comparison
import Sqlwright.Proofs.Chronology

/-!
# Queries about stored timestamps

A stored timestamp is a text, and texts of the years 0 to 9999 are in the order
of the times that a clock shows.  So what storage does with such texts follows
that order as well: the comparison of a column with a bound timestamp, and the
order of rows by a column.

It is the order in time of all timestamps whose leap seconds run on from second
59.  A leap second that runs on from an earlier second is stored behind the next
second, though it is before it.
-/

namespace Sqlwright

open Sqlwright.Calendar

/--
What an operator asks of a time and the time that it is compared with.  Patterns
ask nothing of times.
-/
def Operator.AsksOf (operator : Operator) (time bound : Timestamp) : Prop :=
  match operator with
  | .equal => time = bound
  | .notEqual => time ≠ bound
  | .less => time.before bound
  | .lessOrEqual => ¬bound.before time
  | .greater => bound.before time
  | .greaterOrEqual => ¬time.before bound
  | .like | .notLike => True

namespace Engine

open Sqlwright.Text

/-! ## The order of stored timestamps -/

theorem Cell.compareLists_iff (left right : List Char) :
    (compareLists (fun a b => compare a.toNat b.toNat) left right = .lt ↔
        left < right) ∧
      (compareLists (fun a b => compare a.toNat b.toNat) left right = .gt ↔
        right < left) := by
  induction left generalizing right with
  | nil => cases right <;> simp [compareLists]
  | cons first rest step =>
      cases right with
      | nil => simp [compareLists]
      | cons other others =>
          rw [compareLists, Ordering.then_eq_lt, Ordering.then_eq_gt,
            Nat.compare_eq_lt, Nat.compare_eq_gt, Nat.compare_eq_eq,
            (step others).1, (step others).2, List.cons_lt_cons_iff,
            List.cons_lt_cons_iff, char_lt_iff, char_lt_iff, Char.toNat_inj,
            eq_comm (a := other)]
          exact ⟨Iff.rfl, Iff.rfl⟩

theorem Cell.compareLists_eq_eq_iff (left right : List Char) :
    compareLists (fun a b => compare a.toNat b.toNat) left right = .eq ↔
      left = right := by
  rcases compareLists_iff left right with ⟨below, above⟩
  rcases lt_trichotomy left right with less | same | greater
  · rw [below.2 less]
    simp [less.ne]
  · rw [same] at below above ⊢
    cases order :
        compareLists (fun a b => compare a.toNat b.toNat) right right with
    | lt => exact absurd (below.1 order) (lt_irrefl right)
    | eq => simp
    | gt => exact absurd (above.1 order) (lt_irrefl right)
  · rw [above.2 greater]
    simp [greater.ne']

/-- An order of two timestamps is their order in time, as a clock shows them. -/
structure OrdersShown (order : Ordering) (left right : Timestamp) : Prop where
  lt_iff : order = .lt ↔ left.shown.before right.shown
  eq_iff : order = .eq ↔ left.shown = right.shown
  gt_iff : order = .gt ↔ right.shown.before left.shown

theorem Cell.order_timestamp
    {left right : Timestamp} (leftYear : left.InFourDigits)
    (rightYear : right.InFourDigits) :
    OrdersShown
      ((ofValue (.timestamp left)).order (ofValue (.timestamp right)))
      left right where
  lt_iff := by
    rw [← Timestamp.write_lt_iff leftYear rightYear]
    exact (compareLists_iff _ _).1
  eq_iff := by
    rw [← Timestamp.write_eq_write_iff, ← String.toList_inj]
    exact compareLists_eq_eq_iff _ _
  gt_iff := by
    rw [← Timestamp.write_lt_iff rightYear leftYear]
    exact (compareLists_iff _ _).2

/--
The text that one timestamp is stored as is less than that of another, byte by
byte.
-/
def StoredBelow (left right : Timestamp) : Prop :=
  ∃ leftText rightText,
    Cell.ofValue (.timestamp left) = .text leftText ∧
      Cell.ofValue (.timestamp right) = .text rightText ∧
        Pattern.bytesOf leftText < Pattern.bytesOf rightText

theorem storedBelow_iff_shown_before
    {left right : Timestamp} (leftYear : left.InFourDigits)
    (rightYear : right.InFourDigits) :
    StoredBelow left right ↔ left.shown.before right.shown := by
  rw [← Timestamp.write_lt_iff leftYear rightYear,
    ← bytesOf_lt_iff left.ascii_write right.ascii_write]
  constructor
  · rintro ⟨_, _, ⟨⟩, ⟨⟩, below⟩
    exact below
  · intro below
    exact ⟨left.write " ", right.write " ", rfl, rfl, below⟩

/-- Regular timestamps, and no others, keep their order with all regular ones. -/
theorem regular_iff_storedBelow
    {left : Timestamp} (leftYear : left.InFourDigits) :
    left.Regular ↔
      ∀ right : Timestamp, right.InFourDigits → right.Regular →
        (left.before right ↔ StoredBelow left right) := by
  constructor
  · intro leftRegular right rightYear rightRegular
    rw [storedBelow_iff_shown_before leftYear rightYear,
      left.shown_eq_self_iff.2 leftRegular,
      right.shown_eq_self_iff.2 rightRegular]
  · intro ordered
    by_contra irregular
    rcases Timestamp.exists_shown_before irregular with
      ⟨next, sameDate, nextRegular, before, notShown⟩
    have nextYear : next.InFourDigits := by
      rw [Timestamp.InFourDigits, sameDate]
      exact leftYear
    rw [ordered next nextYear nextRegular,
      storedBelow_iff_shown_before leftYear nextYear] at before
    exact notShown before

/-- A column holds a stored timestamp in a row. -/
structure Scalar.ShowsTime (scalar : Scalar) (cells : List Cell)
    (time : Timestamp) : Prop where
  cell : scalar.of cells = (Cell.ofValue (.timestamp time)).kept
  year : time.InFourDigits

theorem Cell.kept_timestamp (time : Timestamp) :
    (ofValue (.timestamp time)).kept = ofValue (.timestamp time) := rfl

/-! ## Comparisons with a timestamp -/

theorem exists_relationOf?
    {operator : Operator} (comparing : operator.isLike = false) :
    ∃ sign, Reader.relationOf? operator.sql = some sign := by
  cases operator with
  | like | notLike => cases comparing
  | equal | notEqual | less | lessOrEqual | greater | greaterOrEqual =>
      exact ⟨_, rfl⟩

theorem OrdersShown.holds_iff
    {order : Ordering} {time bound : Timestamp}
    (ordered : OrdersShown order time bound) {operator : Operator}
    {sign : Relation}
    (signed : Reader.relationOf? operator.sql = some sign) :
    sign.holds order = true ↔ operator.AsksOf time.shown bound.shown := by
  rcases ordered with ⟨below, same, above⟩
  cases operator with
  | like | notLike => cases signed
  | equal | notEqual | less | lessOrEqual | greater | greaterOrEqual =>
      cases signed
      simp only [Operator.AsksOf, ne_eq, ← below, ← same, ← above,
        Relation.holds]
      cases order <;> decide

theorem accepts_timestamp_iff
    {subject : Scalar} {cells : List Cell} {time bound : Timestamp}
    (shown : subject.ShowsTime cells time) (year : bound.InFourDigits)
    {operator : Operator} {sign : Relation}
    (signed : Reader.relationOf? operator.sql = some sign) :
    Test.accepts cells
          (.relation subject sign (Cell.ofValue (.timestamp bound)).kept) =
        true ↔
      operator.AsksOf time.shown bound.shown := by
  have ordered := Cell.order_timestamp shown.year year
  rw [← ordered.holds_iff signed, Test.accepts, Test.truth?, shown.cell]
  simp [Cell.orderKnown?, Cell.ofValue, Cell.kept]

/-! ## Rows in the order of a timestamp -/

/-- Whether the order of a key lets a row of a time precede one of another. -/
def Key.Permits (key : Key) (earlier later : Timestamp) : Prop :=
  if key.descending then ¬earlier.before later else ¬later.before earlier

namespace Key

variable (key : Key)

instance decidablePermits (earlier later : Timestamp) :
    Decidable (key.Permits earlier later) :=
  inferInstanceAs (Decidable (if key.descending then _ else _))

theorem permits_trans
    {first second third : Timestamp} (before : key.Permits first second)
    (behind : key.Permits second third) :
    key.Permits first third := by
  simp only [Permits, Timestamp.before_iff_ordinal_lt, not_lt]
    at before behind ⊢
  split at before
  · rename_i descending
    rw [if_pos descending] at behind ⊢
    exact behind.trans before
  · rename_i ascending
    rw [if_neg ascending] at behind ⊢
    exact before.trans behind

theorem permits_total (first second : Timestamp) :
    key.Permits first second ∨ key.Permits second first := by
  simp only [Permits, Timestamp.before_iff_ordinal_lt, not_lt]
  split
  · exact le_total second.ordinal first.ordinal
  · exact le_total first.ordinal second.ordinal

variable {key}

theorem isLE_compareRows
    {left right : List Cell} {leftTime rightTime : Timestamp}
    (leftShown : key.scalar.ShowsTime left leftTime)
    (rightShown : key.scalar.ShowsTime right rightTime) :
    (Reading.compareRows [key] left right).isLE =
      decide (key.Permits leftTime.shown rightTime.shown) := by
  rcases Cell.order_timestamp leftShown.year rightShown.year with
    ⟨below, -, above⟩
  simp only [Reading.compareRows, List.foldl_cons, List.foldl_nil,
    Ordering.then, leftShown.cell, rightShown.cell, Cell.kept_timestamp,
    Permits, ← below, ← above]
  cases Cell.order (.ofValue (.timestamp leftTime)) _ <;>
    cases key.descending <;> decide

end Key

theorem pairwise_sorted
    {reading : Reading} {key : Key} (sole : reading.keys = [key])
    (time : List Cell → Timestamp)
    (stored :
      ∀ cells ∈ reading.source.rows, passes reading.tests cells = true →
        key.scalar.ShowsTime cells (time cells)) :
    reading.sorted.Pairwise fun earlier later =>
      key.Permits (time earlier).shown (time later).shown := by
  let shown := fun cells => (time cells).shown
  have sameOrder :
      ∀ left ∈ reading.source.rows.filter (passes reading.tests),
        ∀ right ∈ reading.source.rows.filter (passes reading.tests),
          (Reading.compareRows [key] left right).isLE =
            decide (key.Permits (shown left) (shown right)) := by
    intro left leftListed right rightListed
    rw [List.mem_filter] at leftListed rightListed
    exact
      Key.isLE_compareRows (stored left leftListed.1 leftListed.2)
        (stored right rightListed.1 rightListed.2)
  -- Only times have an order that is total, so these are sorted, and the rows
  -- with them.
  have sorted :
      (((reading.source.rows.filter (passes reading.tests)).map
            shown).mergeSort
          fun first second => decide (key.Permits first second)).Pairwise
        fun first second => decide (key.Permits first second) = true := by
    apply List.pairwise_mergeSort
    · intro first second third
      simp only [decide_eq_true_eq]
      exact key.permits_trans
    · intro first second
      simp only [Bool.or_eq_true, decide_eq_true_eq]
      exact key.permits_total first second
  rw [← List.map_mergeSort sameOrder, List.pairwise_map] at sorted
  rw [Reading.sorted, sole]
  exact sorted.imp of_decide_eq_true

/--
Times of the years 0 to 9999 are stored in the order that a clock shows.  A time
is shown as itself unless it lies in a leap second of another second than 59,
and the times that are shown as themselves are just those that keep their order
with all others of their kind: the stored text of one is less than that of
another, byte by byte, exactly if it is before it.

The text of one time is less than that of another exactly if a clock shows it
before that.  A filter that compares a column with a time by an operator other
than a pattern binds the time behind the operator's sign, and this is true of the
rows whose shown time the operator asks for.  And rows that are sorted by a
column of times are in the order of the shown times, or in the opposite order if
it is descending.
-/
theorem storedTimes_chronological :
    (∀ time : Timestamp, time.shown = time ↔ time.Regular) ∧
      (∀ left : Timestamp,
        left.InFourDigits →
          (left.Regular ↔
            ∀ right : Timestamp, right.InFourDigits → right.Regular →
              (left.before right ↔ StoredBelow left right))) ∧
      (∀ left right : Timestamp,
        left.InFourDigits → right.InFourDigits →
          (StoredBelow left right ↔ left.shown.before right.shown)) ∧
      (∀ (operator : Operator) (subject : Scalar) (cells : List Cell)
        (time bound : Timestamp),
        operator.isLike = false → subject.ShowsTime cells time →
          bound.InFourDigits →
            (∀ quoted,
                (operator.testValue (.timestamp bound)).clause quoted =
                  ⟨quoted ++ (" " ++ operator.sql ++ " ?"),
                    [.timestamp bound]⟩) ∧
              ∃ sign, Reader.relationOf? operator.sql = some sign ∧
                (Test.accepts cells
                      (.relation subject sign
                        (Cell.ofValue (.timestamp bound)).kept) =
                    true ↔
                  operator.AsksOf time.shown bound.shown)) ∧
      (∀ (reading : Reading) (key : Key) (time : List Cell → Timestamp),
        reading.keys = [key] →
          (∀ cells ∈ reading.source.rows,
            passes reading.tests cells = true →
              key.scalar.ShowsTime cells (time cells)) →
          reading.sorted.Pairwise fun earlier later =>
            key.Permits (time earlier).shown (time later).shown) := by
  refine ⟨Timestamp.shown_eq_self_iff, ?_, ?_, ?_, ?_⟩
  · intro left leftYear
    exact regular_iff_storedBelow leftYear
  · intro left right leftYear rightYear
    exact storedBelow_iff_shown_before leftYear rightYear
  · intro operator subject cells time bound comparing stored year
    refine ⟨?_, ?_⟩
    · intro quoted
      cases operator <;> rfl
    · rcases exists_relationOf? comparing with ⟨sign, signed⟩
      exact ⟨sign, signed, accepts_timestamp_iff stored year signed⟩
  · intro reading key time sole stored
    exact pairwise_sorted sole time stored

/-- The last nanosecond of second 59. -/
def lastOfSecond : Timestamp :=
  ⟨⟨2016, 12, 31, by decide⟩, ⟨23, 59, 59, 999999999, by decide⟩⟩

/-- The middle of a leap second. -/
def leapSecond : Timestamp :=
  ⟨⟨2016, 12, 31, by decide⟩, ⟨23, 59, 59, 1500000000, by decide⟩⟩

/-- Two rows of one time each, with the later one first when they are sorted. -/
def latestFirst : Reading :=
  { source :=
      ⟨["at"],
        [lastOfSecond, leapSecond].map fun time =>
          [(Cell.ofValue (.timestamp time)).kept]⟩
    tests := []
    outputs := []
    keys := [⟨.column 0, true⟩]
    limit := none
    offset := none }

/-- The time that is read from the first cell of a row. -/
def firstTime (cells : List Cell) : Timestamp :=
  ((cells.head?.getD .null).toValue.timestamp?).getD lastOfSecond

theorem firstTime_stored {time : Timestamp} (regular : time.Regular) :
    firstTime [(Cell.ofValue (.timestamp time)).kept] = time := by
  change (Timestamp.read? (time.write " ")).getD lastOfSecond = time
  rw [Timestamp.read?_write_of_regular regular, Option.getD_some]

theorem storedTimes_chronological_leapSecond :
    lastOfSecond.InFourDigits ∧ leapSecond.InFourDigits ∧
      lastOfSecond.Regular ∧ leapSecond.Regular ∧
        lastOfSecond.before leapSecond ∧
        Pattern.bytesOf "2016-12-31 23:59:59.999999999" <
          Pattern.bytesOf "2016-12-31 23:59:60.500" ∧
        ¬StoredBelow leapSecond lastOfSecond ∧
        Test.accepts [.text "2016-12-31 23:59:60.500"]
            (.relation (.column 0) .greaterOrEqual
              (.text "2016-12-31 23:59:59.999999999")) =
          true ∧
        latestFirst.sorted.Pairwise fun earlier later =>
          ¬(firstTime earlier).shown.before (firstTime later).shown := by
  have lastYear : lastOfSecond.InFourDigits := by decide
  have leapYear : leapSecond.InFourDigits := by decide
  have lastRegular : lastOfSecond.Regular := by decide
  have leapRegular : leapSecond.Regular := by decide
  have before : lastOfSecond.before leapSecond := by decide
  have stored (time : Timestamp) (year : time.InFourDigits) :
      (Scalar.column 0).ShowsTime [(Cell.ofValue (.timestamp time)).kept]
        time :=
    ⟨rfl, year⟩
  have bytes :
      Pattern.bytesOf "2016-12-31 23:59:59.999999999" <
        Pattern.bytesOf "2016-12-31 23:59:60.500" := by
    rcases
      ((storedTimes_chronological.2.1 _ lastYear).1 lastRegular leapSecond
        leapYear leapRegular).1 before with
      ⟨_, _, ⟨⟩, ⟨⟩, below⟩
    exact below
  have notBelow : ¬StoredBelow leapSecond lastOfSecond := by
    rw [storedTimes_chronological.2.2.1 _ _ leapYear lastYear]
    decide
  have accepted :
      Test.accepts [.text "2016-12-31 23:59:60.500"]
          (.relation (.column 0) .greaterOrEqual
            (.text "2016-12-31 23:59:59.999999999")) =
        true := by
    rcases
      (storedTimes_chronological.2.2.2.1 .greaterOrEqual _ _ _ _ rfl
        (stored leapSecond leapYear) lastYear).2 with
      ⟨sign, ⟨⟩, asked⟩
    have notBefore : ¬leapSecond.shown.before lastOfSecond.shown := by decide
    exact asked.2 notBefore
  have sorted :=
    storedTimes_chronological.2.2.2.2 latestFirst ⟨.column 0, true⟩ firstTime
      rfl
      (by
        intro cells listed _
        simp only [latestFirst, List.map_cons, List.map_nil, List.mem_cons,
          List.not_mem_nil, or_false] at listed
        rcases listed with rfl | rfl
        · rw [firstTime_stored lastRegular]
          exact stored lastOfSecond lastYear
        · rw [firstTime_stored leapRegular]
          exact stored leapSecond leapYear)
  exact
    ⟨lastYear, leapYear, lastRegular, leapRegular, before, bytes, notBelow,
      accepted, sorted⟩

/-- The whole second behind a leap second that runs on from second 4. -/
def fifthSecond : Timestamp :=
  ⟨earlyLeap.date, ⟨23, 56, 5, 0, by decide⟩⟩

/-- The leap second is before it, but its text is behind that of the second. -/
theorem not_storedBelow_earlyLeap :
    earlyLeap.InFourDigits ∧ fifthSecond.InFourDigits ∧
      earlyLeap.before fifthSecond ∧
      Cell.ofValue (.timestamp earlyLeap) =
        .text "2015-06-30 23:56:05.333333333" ∧
      Cell.ofValue (.timestamp fifthSecond) = .text "2015-06-30 23:56:05" ∧
      ¬StoredBelow earlyLeap fifthSecond ∧
      Pattern.bytesOf "2015-06-30 23:56:05" <
        Pattern.bytesOf "2015-06-30 23:56:05.333333333" := by
  have leapYear : earlyLeap.InFourDigits := by decide
  have secondYear : fifthSecond.InFourDigits := by decide
  refine ⟨leapYear, secondYear, by decide, rfl, rfl, ?_, ?_⟩
  · rw [storedBelow_iff_shown_before leapYear secondYear]
    decide
  · have below : StoredBelow fifthSecond earlyLeap := by
      rw [storedBelow_iff_shown_before secondYear leapYear]
      decide
    rcases below with ⟨_, _, ⟨⟩, ⟨⟩, bytes⟩
    exact bytes

end Engine

end Sqlwright
