import ColumnFilter.Json.Read
import ColumnFilter.Proofs.Json.Entries
import ColumnFilter.Proofs.Result

/-!
# What readers yield

What every field of an object keeps is true of the object that is read.  So the keys of a
map are read without repetition, sorted or in the order in which they come first, and a
record is as each of its fields leaves it.
-/

namespace ColumnFilter.Json

variable {α β σ : Type}

/-- Every value that is read is as said. -/
def Yields (reader : Reader α) (holds : α → Prop) : Prop :=
  ∀ input reading, reader input = .ok reading → holds reading.value

theorem yields_any (reader : Reader α) : Yields reader fun _ => True :=
  fun _ _ _ => trivial

theorem Yields.map {reader : Reader α} {holds : α → Prop} (yields : Yields reader holds)
    {f : α → β} {holds' : β → Prop} (turns : ∀ value, holds value → holds' (f value)) :
    Yields (reader.map f) holds' := by
  intro input reading read
  obtain ⟨inner, read', rfl⟩ := Except.exists_of_map_eq_ok read
  exact turns inner.value (yields input inner read')

variable {step : σ → String → Except Problem (Reader σ)} {holds : σ → Prop}

theorem yields_readField
    (keeps : ∀ state key reader, holds state → step state key = .ok reader → Yields reader holds)
    {state : σ} (before : holds state) : Yields (readField step state) holds := by
  intro input
  fun_cases readField step state input with
  | case1 => simp [readField, truncated]
  | case2 parts fault rest problem wrong => simp [readField, wrong]
  | case3 parts fault rest key text problem wrong => simp [readField, text, wrong]
  | case4 parts fault key text reader found => simp [readField, text, found, truncated]
  | case5 parts fault key text reader found rest =>
      intro reading read
      simp only [readField, text, found] at read
      obtain ⟨inner, read', rfl⟩ := Except.exists_of_map_eq_ok read
      exact keeps state _ reader before found _ inner read'
  | case6 parts fault rest key text reader found ended other =>
      simp [readField, text, found, malformed]
  | case7 ended other => simp [readField, malformed]

/-- One reading after the other, the second with what the first has read. -/
theorem holds_of_sequence {lexeme : Lexeme} {rest : List Lexeme}
    {field : Except Problem (Reading σ (lexeme :: rest))}
    (next : (taken : Reading σ (lexeme :: rest)) → Except Problem (Reading σ taken.rest))
    (now : ∀ taken, field = .ok taken → holds taken.value)
    (later : ∀ taken tail, holds taken.value → next taken = .ok tail → holds tail.value)
    {reading : Reading σ (lexeme :: rest)}
    (read : (match field with
      | .error problem => .error problem
      | .ok taken => (next taken).map fun tail => tail.behind (Nat.le_of_lt taken.shorter) :
        Except Problem (Reading σ (lexeme :: rest))) = .ok reading) :
    holds reading.value := by
  cases field with
  | error problem => simp at read
  | ok taken =>
      obtain ⟨tail, read', rfl⟩ := Except.exists_of_map_eq_ok read
      exact later taken tail (now taken rfl) read'

theorem holds_readFields
    (keeps : ∀ state key reader, holds state → step state key = .ok reader → Yields reader holds)
    {first : Bool} {state : σ} (before : holds state) {input : List Lexeme}
    {reading : Reading σ input} (read : readFields step first state input = .ok reading) :
    holds reading.value := by
  unfold readFields at read
  split at read
  · simp [truncated] at read
  · cases read
    exact before
  · refine holds_of_sequence (fun taken => readFields step false taken.value taken.rest)
      ?_ ?_ read
    · intro taken found
      split at found
      · exact yields_readField keeps before _ taken found
      · split at found
        · obtain ⟨inner, found', rfl⟩ := Except.exists_of_map_eq_ok found
          exact yields_readField keeps before _ inner found'
        · simp [malformed] at found
    · intro taken tail now read'
      have shorter := taken.shorter
      exact holds_readFields keeps now read'
termination_by input.length

theorem mismatch_ne_ok (lexeme : Lexeme) (expected : String) (value : α) :
    mismatch lexeme expected ≠ .ok value := by
  cases lexeme with
  | string parts fault =>
      cases text : stringValue parts fault <;> simp [mismatch, text]
  | number numeral fault =>
      cases number : numberValue numeral fault <;> simp [mismatch, number]
  | _ => simp [mismatch, malformed]

/-- The entries of a map are what putting one after the other makes of none. -/
theorem yields_readMap {put : List (String × α) → String → α → List (String × α)} {depth : Nat}
    {reader : Nat → Reader α} {usable : α → Prop} {holds : List (String × α) → Prop}
    (yields : ∀ depth, Yields (reader depth) usable) (empty : holds [])
    (keeps : ∀ entries key value, holds entries → usable value → holds (put entries key value)) :
    Yields (readMap put depth reader) holds := by
  intro input reading read
  unfold readMap at read
  split at read
  · simp [truncated] at read
  · split at read
    · simp [malformed] at read
    · obtain ⟨inner, read', rfl⟩ := Except.exists_of_map_eq_ok read
      have kept : ∀ entries key reader', holds entries →
          Except.ok ((reader (depth - 1)).map (put entries key)) =
            (.ok reader' : Except Problem (Reader (List (String × α)))) →
          Yields reader' holds := by
        intro entries key _ before found
        cases found
        exact (yields _).map fun value usable => keeps entries key value before usable
      have later := holds_readFields kept empty read'
      exact later
  · exact absurd read (mismatch_ne_ok _ _ reading)

theorem yields_readPositions {schema : Schema σ} {depth : Nat} {fields : List (Field σ)}
    (keeps : ∀ field ∈ fields, ∀ record, holds record → Yields (field.read depth record) holds)
    {position : Nat} {record : σ} (before : holds record) :
    Yields (schema.readPositions depth fields position record) holds := by
  induction fields generalizing position record with
  | nil =>
      intro input reading read
      unfold Schema.readPositions at read
      split at read
      · simp [truncated] at read
      · cases read
        exact before
      · simp [malformed] at read
  | cons field fields induction =>
      obtain ⟨here, later⟩ := List.forall_mem_cons.mp keeps
      intro input reading read
      unfold Schema.readPositions at read
      split at read
      · simp [truncated] at read
      · split at read
        · simp at read
        · exact induction later before _ reading read
      · refine holds_of_sequence
          (fun taken => schema.readPositions depth fields (position + 1) taken.value taken.rest)
          ?_ (fun taken tail now read' => induction later now _ tail read') read
        intro taken found
        split at found
        · exact here record before _ taken found
        · split at found
          · simp [malformed] at found
          · obtain ⟨inner, found', rfl⟩ := Except.exists_of_map_eq_ok found
            exact here record before _ inner found'
          · simp [malformed] at found

theorem Schema.yields_step {schema : Schema σ} {depth : Nat}
    (keeps : ∀ field ∈ schema.fields, ∀ record, holds record →
      Yields (field.read depth record) holds)
    (state : σ × List String) (key : String) (reader : Reader (σ × List String))
    (before : holds state.1) (found : schema.step depth state key = .ok reader) :
    Yields reader fun state => holds state.1 := by
  revert found
  fun_cases Schema.step schema depth state key with
  | case1 =>
      intro found
      cases found
      exact (yields_any skipValue).map fun _ _ => before
  | case2 => simp
  | case3 field listed =>
      intro found
      cases found
      exact (keeps field (List.mem_of_find?_eq_some listed) state.1 before).map
        fun record now => now

/-- A record is as its fields leave it, whether they are read by key or by position. -/
theorem Schema.yields_read {schema : Schema σ} {depth : Nat} {record : σ} (before : holds record)
    (keeps : ∀ field ∈ schema.fields, ∀ record, holds record →
      Yields (field.read (depth - 1) record) holds) :
    Yields (schema.read depth record) holds := by
  intro input
  fun_cases Schema.read schema depth record input with
  | case1 => simp [Schema.read, truncated]
  | case2 rest shallow => simp [Schema.read, shallow, malformed]
  | case3 rest deep =>
      intro reading read
      simp only [Schema.read, if_neg deep] at read
      obtain ⟨inner, read', rfl⟩ := Except.exists_of_map_eq_ok read
      exact yields_readPositions keeps before _ inner read'
  | case4 rest shallow => simp [Schema.read, shallow, malformed]
  | case5 rest deep problem wrong => simp [Schema.read, deep, wrong]
  | case6 rest deep fields found field missing =>
      intro reading read
      simp only [Schema.read, if_neg deep, found, missing] at read
      contradiction
  | case7 rest deep fields found complete =>
      intro reading read
      simp only [Schema.read, if_neg deep, found, complete] at read
      cases read
      exact holds_readFields (Schema.yields_step keeps) before found
  | case8 lexeme rest bracket brace =>
      intro reading read
      simp only [Schema.read] at read
      exact absurd read (mismatch_ne_ok _ _ reading)

theorem holds_of_readText {reader : Reader α} {holds : α → Prop} (yields : Yields reader holds)
    {text : String} {value : α} (read : readText reader text = .ok value) : holds value := by
  unfold readText at read
  cases found : reader (lexemes text.toList) with
  | error problem => simp [found] at read
  | ok reading =>
      simp only [found] at read
      split at read
      · cases read
        exact yields _ reading found
      · simp [malformed] at read

end ColumnFilter.Json
