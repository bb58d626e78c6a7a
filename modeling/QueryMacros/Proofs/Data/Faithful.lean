import QueryMacros.Data.Record
import QueryMacros.Proofs.Data.RoundTrip

/-!
# Faithful encodings

An encoding is faithful if its decoder finds each value again in the tree that the value is
encoded as, and if that tree is one that is written as it is. Lists and optional values of
what is encoded faithfully are encoded faithfully, and so is a record with its fields in
the order of their names, of which those without a value may be left out.
-/
namespace QueryMacros.Data

open Json (Plain)

/-- An encoding into plain trees that a decoder undoes. -/
structure Faithful {α : Type} (encode : α → Data) (decode : Data → Option α) : Prop where
  plain (value : α) : Plain (encode value)
  decoded (value : α) : decode (encode value) = some value

/-- What is encoded faithfully is read back from the text that it is written as. -/
theorem Faithful.read {α : Type} {encode : α → Data} {decode : Data → Option α}
    (faithful : Faithful encode decode) (value : α) :
    (Json.read? (Json.write (encode value))).bind decode = some value := by
  rw [(faithful.plain value).read?_write, Option.bind_some, faithful.decoded]

/-- If each value is decoded from its encoding, so is a list of them. -/
theorem mapM_map_eq_some {α β γ : Type} {decode : β → Option γ} {encode : α → β} {result : α → γ}
    {values : List α} (each : ∀ value ∈ values, decode (encode value) = some (result value)) :
    (values.map encode).mapM decode = some (values.map result) := by
  induction values with
  | nil => rfl
  | cons value values inductionHypothesis =>
    obtain ⟨here, there⟩ := List.forall_mem_cons.1 each
    rw [List.map_cons, List.mapM_cons, here, inductionHypothesis there]
    rfl

section Parts

variable {α : Type} {encode : α → Data} {decode : Data → Option α}

/-- A default is not used where there is data. -/
theorem withDefault_some (default : α) (data : Data) :
    withDefault default decode (some data) = decode data := rfl

/-- Texts are decoded from their encoding. -/
theorem faithful_text : Faithful .text toText? where
  plain value := .text value
  decoded _ := rfl

/-- A number of 64 bits is read in full. -/
theorem faithful_word :
    Faithful (fun word : UInt64 => .whole word.toNat)
      (fun written => written.toWord?.map UInt64.ofNat) where
  plain word := .whole word.toNat
  decoded word := by
    have range : (0 : Int) ≤ word.toNat ∧ (word.toNat : Int) < UInt64.size :=
      ⟨Int.natCast_nonneg _, Int.ofNat_lt.2 word.toNat_lt_size⟩
    rw [toWord?, if_pos range, Int.toNat_natCast, Option.map_some, UInt64.ofNat_toNat]

/-- Lists of a faithful encoding are faithfully encoded. -/
theorem Faithful.list (item : Faithful encode decode) :
    Faithful (ofList encode) (toList? decode) where
  plain values := by
    refine .list ?_
    intro data member
    obtain ⟨value, -, rfl⟩ := List.mem_map.1 member
    exact item.plain value
  decoded values := by
    have each : ∀ value ∈ values, decode (encode value) = some (id value) :=
      fun value _ => item.decoded value
    rw [ofList, toList?, mapM_map_eq_some each, List.map_id]

/-- Only what is never encoded as null can be told from an absent value. -/
theorem Faithful.option (item : Faithful encode decode)
    (solid : ∀ value, encode value ≠ .null) :
    Faithful (ofOption encode) (toOption? decode) where
  plain value := by
    cases value with
    | none => exact .null
    | some value => exact item.plain value
  decoded value := by
    cases value with
    | none => rfl
    | some value =>
      have found : toOption? decode (encode value) = (decode (encode value)).map some := by
        unfold toOption?
        split
        · next null => exact absurd null (solid value)
        · rfl
      rw [ofOption, found, item.decoded, Option.map_some]

end Parts

/-! ## Records -/

/-- The fields that have a value, of those that may have one. -/
def present (fields : List (Text × Option Data)) : List (Text × Data) :=
  fields.filterMap fun (name, value) => value.map (name, ·)

/-- The first field is among the present ones if it has a value. -/
theorem present_cons (name : Text) (value : Option Data) (fields : List (Text × Option Data)) :
    present ((name, value) :: fields) = (value.map (name, ·)).toList ++ present fields := by
  cases value <;> rfl

/-- A field that is present has one of the names that fields may have. -/
theorem mem_names_of_mem_present {fields : List (Text × Option Data)} {field : Text × Data}
    (member : field ∈ present fields) : field.1 ∈ fields.map Prod.fst := by
  obtain ⟨origin, inside, same⟩ := List.mem_filterMap.1 member
  obtain ⟨data, -, rfl⟩ := Option.map_eq_some_iff.1 same
  exact List.mem_map_of_mem inside

/-- A record of plain fields is plain. -/
theorem plain_ofFields {fields : List (Text × Data)} (each : ∀ field ∈ fields, Plain field.2) :
    Plain (ofFields fields) := by
  refine .record ?_ ?_
  · intro field member
    obtain ⟨written, -, rfl⟩ := List.mem_map.1 member
    rfl
  · intro field member
    obtain ⟨written, inside, rfl⟩ := List.mem_map.1 member
    exact each written inside

/-- Among fields of different names a name finds its own value only. -/
theorem filter_present {fields : List (Text × Option Data)}
    (distinct : (fields.map Prod.fst).Nodup) {name : Text} {value : Option Data}
    (member : (name, value) ∈ fields) :
    (present fields).filter (fun field => some field.1 == some name) =
      (value.map (name, ·)).toList := by
  induction fields with
  | nil => cases member
  | cons field fields inductionHypothesis =>
    obtain ⟨first, firstValue⟩ := field
    obtain ⟨apart, others⟩ := List.nodup_cons.1 distinct
    rw [present_cons, List.filter_append]
    rcases List.mem_cons.1 member with here | there
    · obtain ⟨rfl, rfl⟩ := Prod.mk.inj here
      have absent : (present fields).filter (fun field => some field.1 == some name) = [] := by
        rw [List.filter_eq_nil_iff]
        intro field written named
        obtain rfl := Option.some.inj (eq_of_beq named)
        exact apart (mem_names_of_mem_present written)
      rw [absent, List.append_nil]
      cases value <;> simp
    · have different : first ≠ name := by
        rintro rfl
        exact apart (List.mem_map.2 ⟨_, there, rfl⟩)
      rw [inductionHypothesis others there]
      cases firstValue <;> simp [different]

/-- A record is read field by field as it was encoded. -/
theorem fields?_present (surplus : Surplus) (fields : List (Text × Option Data))
    (distinct : (fields.map Prod.fst).Nodup) :
    fields? surplus (fields.map Prod.fst) (ofFields (present fields)) =
      some (fields.map Prod.snd) := by
  have known : ((present fields).map fun field => (some field.1, field.2)).all
      (fun field => field.1.any fun name =>
        (fields.map Prod.fst).contains name || isPassable field.2) = true := by
    rw [List.all_map, List.all_eq_true]
    intro field member
    have name := mem_names_of_mem_present member
    simpa using Or.inl name
  have each : ∀ field ∈ fields, field? ((present fields).map fun field =>
      (some field.1, field.2)) field.1 = some field.2 := by
    rintro ⟨name, value⟩ member
    have found := filter_present distinct member
    unfold field?
    rw [List.filter_map]
    simp only [Function.comp_def, found]
    cases value <;> rfl
  exact (if_pos known).trans (mapM_map_eq_some each)

/-- A record is faithful if it can be built again from the values of its fields. -/
theorem faithful_record {α : Type} {encode : α → Data} {build : List (Option Data) → Option α}
    (surplus : Surplus) (names : List Text) (values : α → List (Option Data))
    (distinct : names.Nodup) (sized : ∀ value, (values value).length = names.length)
    (encoded : ∀ value, encode value = ofFields (present (names.zip (values value))))
    (plain : ∀ value, ∀ data, some data ∈ values value → Plain data)
    (built : ∀ value, build (values value) = some value) :
    Faithful encode fun data => (fields? surplus names data).bind build where
  plain value := by
    rw [encoded]
    apply plain_ofFields
    intro field member
    obtain ⟨⟨name, origin⟩, inside, same⟩ := List.mem_filterMap.1 member
    obtain ⟨data, rfl, rfl⟩ := Option.map_eq_some_iff.1 same
    exact plain value data (List.of_mem_zip inside).2
  decoded value := by
    have firsts := List.map_fst_zip (Nat.le_of_eq (sized value).symm)
    have seconds := List.map_snd_zip (Nat.le_of_eq (sized value))
    have read := fields?_present surplus (names.zip (values value)) (by rwa [firsts])
    rw [firsts, seconds] at read
    rw [encoded, read, Option.bind_some, built]

end QueryMacros.Data
