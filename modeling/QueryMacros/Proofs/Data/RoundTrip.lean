import QueryMacros.Data.Json.Reader
import QueryMacros.Proofs.Data.Tokens

/-!
# Reading written data

The reader goes over the tokens of a written tree and comes out with the tree: from the
wish for a value it comes to where the value has been put, whatever lies on the stack and
whatever follows. So a plain tree is what is read of the text that it is written as.
-/
namespace QueryMacros.Json

/-- The tokens of a tree are taken where a value is wanted, and leave the tree there. -/
def Taken (data : Data) : Prop :=
  ∀ stack more, (tokensOf data ++ more).foldlM step (.value stack) =
    more.foldlM step (place data stack)

/-- A token that can be taken is taken before the others. -/
theorem foldlM_step_cons {state next : State} {token : Token}
    (stepped : step state token = some next) (more : List Token) :
    (token :: more).foldlM step state = more.foldlM step next := by
  rw [List.foldlM_cons, stepped]
  rfl

/-- No tree begins with the end of a list. -/
theorem tokensOf_eq_cons (data : Data) :
    ∃ token tokens, tokensOf data = token :: tokens ∧ token ≠ .closeList := by
  cases data with
  | _ =>
    rw [tokensOf]
    refine ⟨_, _, rfl, ?_⟩
    intro same
    cases same

/-- The first item of a list is read like a value behind a comma. -/
theorem foldlM_firstItem (data : Data) (stack : List Frame) (more : List Token) :
    (tokensOf data ++ more).foldlM step (.firstItem stack) =
      (tokensOf data ++ more).foldlM step (.value (.list [] :: stack)) := by
  obtain ⟨token, tokens, begun, other⟩ := tokensOf_eq_cons data
  have same : step (.firstItem stack) token = step (.value (.list [] :: stack)) token := by
    cases token with
    | closeList => exact absurd rfl other
    | _ => rfl
  rw [begun, List.cons_append, List.foldlM_cons, List.foldlM_cons, same]

/-- The items of a list are put behind each other up to its end. -/
theorem foldlM_itemTokens {item : Data} {items : List Data}
    (each : ∀ data ∈ item :: items, Taken data) (done : List Data) (stack : List Frame)
    (more : List Token) :
    (itemTokens (item :: items) ++ .closeList :: more).foldlM step (.value (.list done :: stack)) =
      more.foldlM step (place (.list (done.reverse ++ item :: items)) stack) := by
  induction items generalizing item done with
  | nil =>
    obtain ⟨here, -⟩ := List.forall_mem_cons.1 each
    have closed : step (place item (.list done :: stack)) .closeList =
        some (place (.list (item :: done).reverse) stack) := rfl
    rw [itemTokens, here, foldlM_step_cons closed, List.reverse_cons]
  | cons second items inductionHypothesis =>
    obtain ⟨here, there⟩ := List.forall_mem_cons.1 each
    have comma : step (place item (.list done :: stack)) .comma =
        some (.value (.list (item :: done) :: stack)) := rfl
    rw [itemTokens_cons_cons, List.append_assoc, here, List.cons_append, foldlM_step_cons comma,
      inductionHypothesis there, List.reverse_cons, List.append_assoc, List.singleton_append]

/-- A field is read where a name is wanted, and its value is put behind the fields before. -/
theorem foldlM_field (name : Text) {value : Data} (taken : Taken value)
    (done : List (Option Text × Data)) (stack : List Frame) (more : List Token) :
    (.text (some name) :: .colon :: (tokensOf value ++ more)).foldlM step (.name done stack) =
      more.foldlM step (.afterField ((some name, value) :: done) stack) := by
  have begun : step (.name done stack) (.text (some name)) =
      some (.colon done (some name) stack) := rfl
  have colon : step (.colon done (some name) stack) .colon =
      some (.value (.record done (some name) :: stack)) := rfl
  rw [foldlM_step_cons begun, foldlM_step_cons colon, taken]
  rfl

/-- The fields of a record are put behind each other up to its end. -/
theorem foldlM_fieldTokens {name : Text} {value : Data} {fields : List (Option Text × Data)}
    (named : ∀ field ∈ fields, field.1.isSome = true) (here : Taken value)
    (each : ∀ field ∈ fields, Taken field.2)
    (done : List (Option Text × Data)) (stack : List Frame) (more : List Token) :
    (fieldTokens ((some name, value) :: fields) ++ .closeRecord :: more).foldlM step
        (.name done stack) =
      more.foldlM step (place (.record (done.reverse ++ (some name, value) :: fields)) stack) := by
  induction fields generalizing name value done with
  | nil =>
    have closed : step (.afterField ((some name, value) :: done) stack) .closeRecord =
        some (place (.record ((some name, value) :: done).reverse) stack) := rfl
    rw [fieldTokens, Option.getD_some, List.cons_append, List.cons_append, foldlM_field name here,
      foldlM_step_cons closed, List.reverse_cons]
  | cons second fields inductionHypothesis =>
    obtain ⟨secondName, secondValue⟩ := second
    obtain ⟨secondNamed, othersNamed⟩ := List.forall_mem_cons.1 named
    obtain ⟨secondTaken, othersTaken⟩ := List.forall_mem_cons.1 each
    obtain ⟨secondName, rfl⟩ := Option.isSome_iff_exists.1 secondNamed
    have comma : step (.afterField ((some name, value) :: done) stack) .comma =
        some (.name ((some name, value) :: done) stack) := rfl
    have later := @inductionHypothesis secondName secondValue othersNamed secondTaken othersTaken
      ((some name, value) :: done)
    rw [fieldTokens_cons_cons, Option.getD_some, List.cons_append, List.cons_append,
      List.append_assoc, List.cons_append, List.cons_append, foldlM_field name here,
      foldlM_step_cons comma, later, List.reverse_cons, List.append_assoc, List.singleton_append]

/-- The first name of a record is read like a name behind a comma. -/
theorem foldlM_firstName (name : Option Text) (stack : List Frame) (more : List Token) :
    (.text name :: more).foldlM step (.firstName stack) =
      (.text name :: more).foldlM step (.name [] stack) := by
  have first : step (.firstName stack) (.text name) = some (.colon [] name stack) := rfl
  have later : step (.name [] stack) (.text name) = some (.colon [] name stack) := rfl
  rw [foldlM_step_cons first, foldlM_step_cons later]

/-- A list is taken if its items are. -/
theorem taken_list {items : List Data} (each : ∀ item ∈ items, Taken item) :
    Taken (.list items) := by
  intro stack more
  have opened : step (.value stack) .openList = some (.firstItem stack) := rfl
  have behind : tokensOf (.list items) ++ more =
      .openList :: (itemTokens items ++ .closeList :: more) := by
    simp [tokensOf]
  rw [behind, foldlM_step_cons opened]
  cases items with
  | nil => exact foldlM_step_cons rfl more
  | cons item items =>
    have begun : ∃ rest, itemTokens (item :: items) ++ .closeList :: more =
        tokensOf item ++ rest := by
      cases items with
      | nil => exact ⟨_, rfl⟩
      | cons second items =>
        rw [itemTokens_cons_cons, List.append_assoc]
        exact ⟨_, rfl⟩
    obtain ⟨rest, same⟩ := begun
    rw [same, foldlM_firstItem, ← same]
    exact foldlM_itemTokens each [] stack more

/-- A record of named values is taken if they are. -/
theorem taken_record {fields : List (Option Text × Data)}
    (named : ∀ field ∈ fields, field.1.isSome = true) (each : ∀ field ∈ fields, Taken field.2) :
    Taken (.record fields) := by
  intro stack more
  have opened : step (.value stack) .openRecord = some (.firstName stack) := rfl
  have behind : tokensOf (.record fields) ++ more =
      .openRecord :: (fieldTokens fields ++ .closeRecord :: more) := by
    simp [tokensOf]
  rw [behind, foldlM_step_cons opened]
  cases fields with
  | nil => exact foldlM_step_cons rfl more
  | cons field fields =>
    obtain ⟨name, value⟩ := field
    obtain ⟨firstNamed, othersNamed⟩ := List.forall_mem_cons.1 named
    obtain ⟨firstTaken, othersTaken⟩ := List.forall_mem_cons.1 each
    obtain ⟨name, rfl⟩ := Option.isSome_iff_exists.1 firstNamed
    have begun : ∃ rest, fieldTokens ((some name, value) :: fields) ++ .closeRecord :: more =
        .text (some name) :: rest := by
      cases fields with
      | nil => exact ⟨_, rfl⟩
      | cons second fields =>
        rw [fieldTokens_cons_cons]
        exact ⟨_, rfl⟩
    obtain ⟨rest, same⟩ := begun
    rw [same, foldlM_firstName, ← same]
    exact foldlM_fieldTokens othersNamed firstTaken othersTaken [] stack more

/-- A plain tree is taken. -/
theorem Plain.taken {data : Data} (plain : Plain data) : Taken data := by
  induction plain with
  | null | boolean _ | whole _ | text _ =>
    intro stack more
    rw [tokensOf]
    exact foldlM_step_cons rfl more
  | list _ each => exact taken_list each
  | record named _ each => exact taken_record named each

/-- A plain tree is read back as it was written. -/
theorem Plain.read?_write {data : Data} (plain : Plain data) : read? (write data) = some data := by
  have taken := plain.taken [] []
  rw [List.append_nil] at taken
  have ended : [].foldlM step (place data []) = some (State.complete data) := rfl
  rw [read?, plain.tokens?_write, Option.bind_eq_bind, Option.bind_some, taken, ended]
  rfl

end QueryMacros.Json
