import Sqlwright.Lexical.Routing

/-!
# Which statements are answered with rows

A statement is answered with rows if its verb is one that always is, or if it
changes rows and streams them: it has an `OUTPUT` that no `INTO` follows.  The
verb is the first word, or the first verb behind common table expressions.
`Runs`, `Streams` and `Answered` say this about the words of a statement and
do not look for anything in an order.

`outputsToClient` looks behind the first `OUTPUT` only.  A statement can put
its rows into a table with one `OUTPUT` and stream them with another one; such
a statement forks.  The main theorem says that the decision about a text is
the rule for the statements that do not fork, and that the two disagree about
exactly those texts that have a statement that forks and no other statement
that is answered.
-/

namespace Sqlwright.Lexical

/-! ## The verb of a statement -/

/-- The verb that some words run. -/
inductive Runs : List Word → String → Prop where
  | first {first : Word} {rest : List Word} :
      first.text ≠ "WITH" → Runs (first :: rest) first.text
  /-- Behind definitions, a verb that stands at the level of the `WITH`. -/
  | behind {first verb : Word} {definitions rest : List Word} :
      first.text = "WITH" →
        (∀ word ∈ definitions,
          word.depth = first.depth → word.text ∉ verbs) →
        verb.depth = first.depth → verb.text ∈ verbs →
          Runs (first :: (definitions ++ verb :: rest)) verb.text

theorem mainVerb?_eq_some_iff (words : List Word) (verb : String) :
    mainVerb? words = some verb ↔ Runs words verb := by
  constructor
  · intro found
    cases words with
    | nil => cases found
    | cons first rest =>
        rw [mainVerb?] at found
        split at found
        · rename_i isWith
          rcases Option.map_eq_some_iff.1 found with ⟨word, isFirst, rfl⟩
          rcases List.find?_eq_some_iff_append.1 isFirst with
            ⟨isVerb, definitions, behind, rfl, others⟩
          simp only [Bool.and_eq_true, beq_iff_eq, List.contains_iff_mem]
            at isVerb
          refine .behind isWith ?_ isVerb.1 isVerb.2
          intro other member level isOther
          have passed := others other member
          rw [level, beq_self_eq_true, List.contains_iff_mem.2 isOther]
            at passed
          cases passed
        · rename_i other
          cases found
          exact .first other
  · intro runs
    cases runs with
    | first other => rw [mainVerb?, if_neg other]
    | @behind first verb definitions rest isWith others level isVerb =>
        have found :
            (definitions ++ verb :: rest).find? (fun word =>
                word.depth == first.depth && verbs.contains word.text) =
              some verb := by
          rw [List.find?_eq_some_iff_append]
          refine ⟨?_, definitions, rest, rfl, ?_⟩
          · simp [level, isVerb]
          · intro word member
            simp only [Bool.not_eq_true', Bool.and_eq_false_imp, beq_iff_eq]
            intro same
            rw [← Bool.not_eq_true, List.contains_iff_mem]
            exact others word member same
        rw [mainVerb?, if_pos isWith, found]
        rfl

/-! ## Where the changed rows go -/

/-- Words with an `OUTPUT` of which something holds about what follows it. -/
def HasOutput (condition : List Word → Prop) (words : List Word) : Prop :=
  ∃ output back,
    output :: back <:+ words ∧ output.text = "OUTPUT" ∧ condition back

/-- Changed rows go to the client: no `INTO` follows some `OUTPUT`. -/
def Streams : List Word → Prop :=
  HasOutput fun back => ∀ word ∈ back, word.text ≠ "INTO"

/-- Changed rows go into a table: an `INTO` follows some `OUTPUT`. -/
def Redirects : List Word → Prop :=
  HasOutput fun back => ∃ word ∈ back, word.text = "INTO"

theorem not_hasOutput_nil (condition : List Word → Prop) :
    ¬ HasOutput condition [] := by
  rintro ⟨output, back, suffix, -⟩
  exact List.cons_ne_nil output back (List.suffix_nil.1 suffix)

theorem hasOutput_cons
    (condition : List Word → Prop) (word : Word) (rest : List Word) :
    HasOutput condition (word :: rest) ↔
      (word.text = "OUTPUT" ∧ condition rest) ∨ HasOutput condition rest := by
  constructor
  · rintro ⟨output, back, suffix, isOutput, holds⟩
    rcases List.suffix_cons_iff.1 suffix with same | suffix
    · cases same
      exact .inl ⟨isOutput, holds⟩
    · exact .inr ⟨output, back, suffix, isOutput, holds⟩
  · rintro (⟨isOutput, holds⟩ | ⟨output, back, suffix, isOutput, holds⟩)
    · exact ⟨word, rest, List.suffix_rfl, isOutput, holds⟩
    · have behind := suffix.trans (List.suffix_cons word rest)
      exact ⟨output, back, behind, isOutput, holds⟩

theorem into_of_redirects
    {words : List Word} (redirects : Redirects words) :
    ∃ word ∈ words, word.text = "INTO" := by
  rcases redirects with ⟨output, back, suffix, -, word, member, into⟩
  exact ⟨word, suffix.subset (List.mem_cons_of_mem output member), into⟩

/-- Looking behind the first `OUTPUT` finds rows that go nowhere else. -/
theorem outputsToClient_iff (words : List Word) :
    outputsToClient words = true ↔ Streams words ∧ ¬ Redirects words := by
  induction words with
  | nil =>
      constructor
      · intro none
        cases none
      · intro streams
        exact absurd streams.1 (not_hasOutput_nil _)
  | cons word rest induction =>
      rw [outputsToClient_cons, Streams, Redirects, hasOutput_cons,
        hasOutput_cons]
      by_cases isOutput : word.text = "OUTPUT"
      · by_cases into : ∃ other ∈ rest, other.text = "INTO"
        · have found : (rest.any fun other => other.text == "INTO") = true := by
            simpa using into
          simp [isOutput, found, into]
        · have absent :
              (rest.any fun other => other.text == "INTO") = false := by
            simpa using into
          have keeps : ¬ Redirects rest := fun redirects =>
            into (into_of_redirects redirects)
          have none : ∀ other ∈ rest, other.text ≠ "INTO" := by
            simpa using into
          rw [if_pos isOutput, absent]
          exact
            iff_of_true rfl
              ⟨.inl ⟨isOutput, none⟩,
                not_or.2 ⟨fun both => into both.2, keeps⟩⟩
      · rw [if_neg isOutput, induction]
        simp only [isOutput, false_and, false_or]
        rfl

/-! ## The rule -/

/-- The rule for the words of one statement. -/
def Answered (words : List Word) : Prop :=
  ∃ verb, Runs words verb ∧
    (verb ∈ answeringVerbs ∨ verb ∈ changingVerbs ∧ Streams words)

/-- A statement that puts its changed rows into a table and streams them. -/
def Forks (words : List Word) : Prop :=
  ∃ verb ∈ changingVerbs,
    Runs words verb ∧ Streams words ∧ Redirects words

theorem Runs.eq
    {words : List Word} {verb other : String} (runs : Runs words verb)
    (runsOther : Runs words other) : verb = other := by
  rw [← mainVerb?_eq_some_iff] at runs runsOther
  exact Option.some.inj (runs.symm.trans runsOther)

theorem Forks.answered {words : List Word} (forks : Forks words) :
    Answered words := by
  rcases forks with ⟨verb, changing, runs, streams, -⟩
  exact ⟨verb, runs, .inr ⟨changing, streams⟩⟩

namespace Runs

variable {words : List Word} {verb : String}

theorem answered_iff (runs : Runs words verb) :
    Answered words ↔
      verb ∈ answeringVerbs ∨ verb ∈ changingVerbs ∧ Streams words := by
  constructor
  · rintro ⟨other, runsOther, rule⟩
    rw [runs.eq runsOther]
    exact rule
  · exact fun rule => ⟨verb, runs, rule⟩

theorem forks_iff (runs : Runs words verb) :
    Forks words ↔
      verb ∈ changingVerbs ∧ Streams words ∧ Redirects words := by
  constructor
  · rintro ⟨other, changing, runsOther, both⟩
    rw [runs.eq runsOther]
    exact ⟨changing, both⟩
  · rintro ⟨changing, both⟩
    exact ⟨verb, changing, runs, both⟩

theorem answersRows_iff (runs : Runs words verb) :
    answersRows words = true ↔
      verb ∈ answeringVerbs ∨
        verb ∈ changingVerbs ∧ Streams words ∧ ¬ Redirects words := by
  rw [answersRows, (mainVerb?_eq_some_iff words verb).2 runs]
  simp [outputsToClient_iff]

end Runs

theorem answersRows_of_mainVerb?_eq_none
    {words : List Word} (none : mainVerb? words = none) :
    answersRows words = false ∧ ¬ Answered words := by
  constructor
  · rw [answersRows, none]
  · rintro ⟨verb, runs, -⟩
    rw [← mainVerb?_eq_some_iff, none] at runs
    cases runs

/-- A statement is decided by the rule, unless it forks. -/
theorem answersRows_iff (words : List Word) :
    answersRows words = true ↔ Answered words ∧ ¬ Forks words := by
  cases found : mainVerb? words with
  | none =>
      rcases answersRows_of_mainVerb?_eq_none found with ⟨decided, idle⟩
      rw [decided]
      exact iff_of_false Bool.false_ne_true fun both => idle both.1
  | some verb =>
      have runs := (mainVerb?_eq_some_iff words verb).1 found
      have apart : ∀ verb ∈ answeringVerbs, verb ∉ changingVerbs := by decide
      rw [runs.answersRows_iff, runs.answered_iff, runs.forks_iff]
      constructor
      · rintro (answering | ⟨changing, streams, keeps⟩)
        · exact ⟨.inl answering, fun both => apart verb answering both.1⟩
        · exact ⟨.inr ⟨changing, streams⟩, fun both => keeps both.2.2⟩
      · rintro ⟨answering | ⟨changing, streams⟩, noFork⟩
        · exact .inl answering
        · refine .inr ⟨changing, streams, ?_⟩
          exact fun redirects => noFork ⟨changing, streams, redirects⟩

/--
A text is answered with rows exactly if it has a statement that the rule says
is answered and that does not fork.  So the decision is the rule unless the
text has a statement that forks, and then it is if the decision is for rows.
-/
theorem returnsRows_iff_answered (sql : String) :
    (returnsRows sql = true ↔
        ∃ words ∈ statementWords sql, Answered words ∧ ¬ Forks words) ∧
      ((returnsRows sql = true ↔ ∃ words ∈ statementWords sql, Answered words) ↔
        ((∃ words ∈ statementWords sql, Forks words) →
          returnsRows sql = true)) := by
  have decided :
      returnsRows sql = true ↔
        ∃ words ∈ statementWords sql, Answered words ∧ ¬ Forks words := by
    rw [returnsRows, List.any_eq_true]
    simp only [answersRows_iff]
  refine ⟨decided, ?_, ?_⟩
  · rintro rule ⟨words, member, forks⟩
    exact rule.2 ⟨words, member, forks.answered⟩
  · intro forking
    constructor
    · intro returns
      rcases decided.1 returns with ⟨words, member, answered, -⟩
      exact ⟨words, member, answered⟩
    · rintro ⟨words, member, answered⟩
      by_cases forks : Forks words
      · exact forking ⟨words, member, forks⟩
      · exact decided.2 ⟨words, member, answered, forks⟩

/-- A deletion that logs its rows in a table and streams them as well. -/
def loggedDeletion : String :=
  "DELETE FROM t OUTPUT deleted.id INTO @log OUTPUT deleted.id"

/-- The rule has the logged deletion answered with rows, the decision not. -/
theorem answered_loggedDeletion :
    (∃ words ∈ statementWords loggedDeletion, Answered words) ∧
      returnsRows loggedDeletion = false := by
  have words :
      statementWords loggedDeletion =
        [[⟨"DELETE", 0⟩, ⟨"FROM", 0⟩, ⟨"T", 0⟩, ⟨"OUTPUT", 0⟩, ⟨"DELETED", 0⟩,
          ⟨"ID", 0⟩, ⟨"INTO", 0⟩, ⟨"@LOG", 0⟩, ⟨"OUTPUT", 0⟩, ⟨"DELETED", 0⟩,
          ⟨"ID", 0⟩]] := by
    decide
  constructor
  · rw [words]
    refine ⟨_, List.mem_singleton_self _, "DELETE", .first (by decide), ?_⟩
    refine .inr ⟨by decide, ⟨"OUTPUT", 0⟩, [⟨"DELETED", 0⟩, ⟨"ID", 0⟩], ?_⟩
    exact ⟨by decide, rfl, by decide⟩
  · decide

end Sqlwright.Lexical
