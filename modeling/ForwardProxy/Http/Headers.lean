import ForwardProxy.Http.Token

/-!
# Header fields

A message carries header fields in order. Each name has one or more values. Names stand in the
order in which they first appeared, and all values of a name stand together in the order in which
they were added. The names are distinct, and `Headers.fields` is the view through which everything
else is said.
-/

namespace ForwardProxy.Http

/-- A header name with its values, of which there is at least one. -/
structure Field where
  /-- The name. -/
  name : FieldName
  /-- The value that was added first. -/
  first : FieldValue
  /-- The values that were added later. -/
  rest : List FieldValue
  deriving DecidableEq

/-- All values of the field, in order. -/
def Field.values (field : Field) : List FieldValue := field.first :: field.rest

/-- The field with one value more at the end. -/
def Field.push (field : Field) (value : FieldValue) : Field :=
  { field with rest := field.rest ++ [value] }

/-- Adds a value to the field of that name, or a field at the end if there is none. -/
def appendField (name : FieldName) (value : FieldValue) : List Field → List Field
  | [] => [⟨name, value, []⟩]
  | field :: fields =>
    if field.name = name then field.push value :: fields
    else field :: appendField name value fields

/-- Gives the field of that name the one value, or adds a field at the end if there is none. -/
def replaceField (name : FieldName) (value : FieldValue) : List Field → List Field
  | [] => [⟨name, value, []⟩]
  | field :: fields =>
    if field.name = name then ⟨name, value, []⟩ :: fields
    else field :: replaceField name value fields

theorem map_name_appendField (name : FieldName) (value : FieldValue) (fields : List Field) :
    (appendField name value fields).map Field.name =
      if name ∈ fields.map Field.name then fields.map Field.name
      else fields.map Field.name ++ [name] := by
  induction fields with
  | nil => simp [appendField]
  | cons field fields ih =>
    simp only [appendField]
    by_cases h : field.name = name
    · simp [h, Field.push]
    · simp only [h, if_false, List.map_cons, ih, List.mem_cons, Ne.symm h, false_or]
      split <;> simp

theorem map_name_replaceField (name : FieldName) (value : FieldValue) (fields : List Field) :
    (replaceField name value fields).map Field.name =
      if name ∈ fields.map Field.name then fields.map Field.name
      else fields.map Field.name ++ [name] := by
  induction fields with
  | nil => simp [replaceField]
  | cons field fields ih =>
    simp only [replaceField]
    by_cases h : field.name = name
    · simp [h]
    · simp only [h, if_false, List.map_cons, ih, List.mem_cons, Ne.symm h, false_or]
      split <;> simp

private theorem nodup_concat {names : List FieldName} {name : FieldName} (hd : names.Nodup)
    (h : name ∉ names) : (names ++ [name]).Nodup := by
  rw [List.nodup_append]
  refine ⟨hd, by simp, ?_⟩
  rintro a ha b hb rfl
  exact h (List.mem_singleton.1 hb ▸ ha)

/-- The header fields of a message. -/
@[ext] structure Headers where
  /-- The fields in the order of their first appearance. -/
  fields : List Field
  /-- No name has two fields. -/
  distinct : (fields.map Field.name).Nodup
  deriving DecidableEq

namespace Headers

/-- No fields. -/
def empty : Headers := ⟨[], List.nodup_nil⟩

instance : Inhabited Headers := ⟨empty⟩

/-- All values of a name, in order. -/
def values (headers : Headers) (name : FieldName) : List FieldValue :=
  match headers.fields.find? (·.name = name) with
  | some field => field.values
  | none => []

/-- The first value of a name. -/
def get? (headers : Headers) (name : FieldName) : Option FieldValue :=
  (headers.values name).head?

/-- Whether a name has values. -/
def contains (headers : Headers) (name : FieldName) : Bool :=
  (headers.get? name).isSome

/-- Adds a value of a name after those it has. -/
def append (headers : Headers) (name : FieldName) (value : FieldValue) : Headers where
  fields := appendField name value headers.fields
  distinct := by
    rw [map_name_appendField]
    split
    · exact headers.distinct
    · next h => exact nodup_concat headers.distinct h

/-- Gives a name one value in place of those it has. -/
def insert (headers : Headers) (name : FieldName) (value : FieldValue) : Headers where
  fields := replaceField name value headers.fields
  distinct := by
    rw [map_name_replaceField]
    split
    · exact headers.distinct
    · next h => exact nodup_concat headers.distinct h

/-- Gives a name the one value with these octets, if they are a value. -/
def insertOctets (headers : Headers) (name : FieldName) (octets : Bytes) : Headers :=
  match FieldValue.ofBytes? octets with
  | some value => headers.insert name value
  | none => headers

/-- Takes a name away with all its values. -/
def erase (headers : Headers) (name : FieldName) : Headers where
  fields := headers.fields.filter (·.name ≠ name)
  distinct := headers.distinct.sublist (List.filter_sublist.map _)

/-- Takes several names away. -/
def eraseAll (headers : Headers) (names : List FieldName) : Headers :=
  names.foldl erase headers

/-- One line for each value, in order. -/
def lines (headers : Headers) : List (FieldName × FieldValue) :=
  headers.fields.flatMap fun field => field.values.map fun value => (field.name, value)

/-- The fields that arise when lines are added one by one. -/
def ofLines (lines : List (FieldName × FieldValue)) : Headers :=
  lines.foldl (fun headers line => headers.append line.1 line.2) empty

/-- The fields of `headers`, then those of `other`, whose names lose the values they had. -/
def extend (headers other : Headers) : Headers :=
  other.fields.foldl
    (fun merged field =>
      field.rest.foldl (fun merged value => merged.append field.name value)
        (merged.insert field.name field.first))
    headers

end Headers

end ForwardProxy.Http
