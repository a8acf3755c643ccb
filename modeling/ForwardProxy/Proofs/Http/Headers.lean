import ForwardProxy.Http.Headers
import ForwardProxy.Proofs.Keyed
import Mathlib.Data.List.Induction

/-!
# Values of header fields

What each operation does to the values of a name. These are the only facts about header fields that
the policy and the proxy rely on. The written lines of header fields determine them: adding the
lines one by one gives the fields back, in the same order.
-/

namespace ForwardProxy.Http

/-- A new value joins the field of its name and leaves every other field alone. -/
theorem find?_appendField (name other : FieldName) (value : FieldValue) (fields : List Field) :
    (appendField name value fields).find? (·.name = other) =
      if other = name then
        some (((fields.find? (·.name = name)).map (·.push value)).getD ⟨name, value, []⟩)
      else fields.find? (·.name = other) := by
  induction fields with
  | nil => by_cases h : other = name <;> simp [appendField, h, eq_comm]
  | cons field fields ih =>
    by_cases hname : field.name = name
    · by_cases hother : other = name
      · simp [appendField, hname, hother, Field.push]
      · have hne : name ≠ other := fun heq => hother heq.symm
        simp [appendField, hname, hother, Field.push, hne]
    · by_cases hother : other = name
      · subst hother
        simpa [appendField, hname] using ih
      · simp only [appendField, hname, if_false, List.find?_cons, hother] at ih ⊢
        rw [ih]

/-- A value that replaces others makes up the field of its name and leaves every other field
alone. -/
theorem find?_replaceField (name other : FieldName) (value : FieldValue) (fields : List Field) :
    (replaceField name value fields).find? (·.name = other) =
      if other = name then some ⟨name, value, []⟩ else fields.find? (·.name = other) := by
  induction fields with
  | nil => by_cases h : other = name <;> simp [replaceField, h, eq_comm]
  | cons field fields ih =>
    by_cases hname : field.name = name
    · by_cases hother : other = name
      · simp [replaceField, hname, hother]
      · have hne : name ≠ other := fun heq => hother heq.symm
        simp [replaceField, hname, hother, hne]
    · by_cases hother : other = name
      · subst hother
        simpa [replaceField, hname] using ih
      · simp only [replaceField, hname, if_false, List.find?_cons, hother] at ih ⊢
        rw [ih]

/-- Names that stand in no field get a field of their own at the end. -/
theorem appendField_of_not_mem {name : FieldName} {fields : List Field} (value : FieldValue)
    (h : name ∉ fields.map Field.name) :
    appendField name value fields = fields ++ [⟨name, value, []⟩] := by
  induction fields with
  | nil => rfl
  | cons field fields ih =>
    simp only [List.map_cons, List.mem_cons, not_or] at h
    simp [appendField, Ne.symm h.1, ih h.2]

/-- A value joins the last field if that has its name and no field before it does. -/
theorem appendField_concat {fields : List Field} (field : Field) (value : FieldValue)
    (h : field.name ∉ fields.map Field.name) :
    appendField field.name value (fields ++ [field]) = fields ++ [field.push value] := by
  induction fields with
  | nil => simp [appendField]
  | cons other fields ih =>
    simp only [List.map_cons, List.mem_cons, not_or] at h
    simp [appendField, Ne.symm h.1, ih h.2]

namespace Headers

@[simp] theorem values_empty (name : FieldName) : empty.values name = [] := rfl

@[simp] theorem values_append (headers : Headers) (name other : FieldName) (value : FieldValue) :
    (headers.append name value).values other =
      if other = name then headers.values name ++ [value] else headers.values other := by
  simp only [values, append, find?_appendField]
  by_cases h : other = name
  · subst h
    cases headers.fields.find? (·.name = other) <;> simp [Field.values, Field.push]
  · simp [h]

@[simp] theorem values_insert (headers : Headers) (name other : FieldName) (value : FieldValue) :
    (headers.insert name value).values other =
      if other = name then [value] else headers.values other := by
  simp only [values, insert, find?_replaceField]
  by_cases h : other = name <;> simp [h, Field.values]

/-- Octets that are a value are given to a name as one. -/
theorem insertOctets_eq_insert {octets : Bytes} {value : FieldValue}
    (h : FieldValue.ofBytes? octets = some value) (headers : Headers) (name : FieldName) :
    headers.insertOctets name octets = headers.insert name value := by
  rw [insertOctets, h]

/-- Whether octets are a value or not, inserting them under a name leaves the values of every other
name. -/
theorem values_insertOctets_of_ne {name other : FieldName} (h : other ≠ name) (headers : Headers)
    (octets : Bytes) : (headers.insertOctets name octets).values other = headers.values other := by
  unfold insertOctets
  split
  · rw [values_insert, if_neg h]
  · rfl

@[simp] theorem values_erase (headers : Headers) (name other : FieldName) :
    (headers.erase name).values other = if other = name then [] else headers.values other := by
  simp only [values, erase, find?_filter_key_ne]
  by_cases h : other = name <;> simp [h]

/-- Taking several names away leaves the values of every other name. -/
@[simp] theorem values_eraseAll (headers : Headers) (names : List FieldName) (other : FieldName) :
    (headers.eraseAll names).values other =
      if other ∈ names then [] else headers.values other := by
  induction names generalizing headers with
  | nil => rfl
  | cons name names ih =>
    have hstep : headers.eraseAll (name :: names) = (headers.erase name).eraseAll names := rfl
    rw [hstep, ih, values_erase]
    by_cases hrest : other ∈ names
    · simp [hrest]
    · by_cases hname : other = name <;> simp [hname, hrest]

/-- Giving several names a value each leaves the values of every other name. -/
theorem values_foldl_insert {fields : List (FieldName × FieldValue)} {name : FieldName}
    (h : name ∉ fields.map (·.1)) (headers : Headers) :
    (fields.foldl (fun headers field => headers.insert field.1 field.2) headers).values name =
      headers.values name := by
  induction fields generalizing headers with
  | nil => rfl
  | cons field fields ih =>
    simp only [List.map_cons, List.mem_cons, not_or] at h
    rw [List.foldl_cons, ih h.2, values_insert, if_neg h.1]

/-- Giving several names a value each leaves each of them with this value alone. -/
theorem values_foldl_insert_of_mem {fields : List (FieldName × FieldValue)}
    (hdistinct : (fields.map (·.1)).Nodup) {field : FieldName × FieldValue} (h : field ∈ fields)
    (headers : Headers) :
    (fields.foldl (fun headers field => headers.insert field.1 field.2) headers).values field.1 =
      [field.2] := by
  induction fields generalizing headers with
  | nil => cases h
  | cons first fields ih =>
    rw [List.map_cons, List.nodup_cons] at hdistinct
    rw [List.foldl_cons]
    rcases List.mem_cons.mp h with rfl | hrest
    · rw [values_foldl_insert hdistinct.1, values_insert, if_pos rfl]
    · exact ih hdistinct.2 hrest _

/-- Adding values to a name leaves those of every other name. -/
theorem values_foldl_append (values : List FieldValue) (headers : Headers) (name other : FieldName) :
    (values.foldl (fun headers value => headers.append name value) headers).values other =
      if other = name then headers.values name ++ values else headers.values other := by
  induction values generalizing headers with
  | nil => by_cases h : other = name <;> simp [h]
  | cons value values ih =>
    rw [List.foldl_cons, ih, values_append, values_append]
    by_cases h : other = name <;> simp [h]

/-- The fields of another header take the place of those with the same names. -/
@[simp] theorem values_extend (headers other : Headers) (name : FieldName) :
    (headers.extend other).values name =
      if other.values name = [] then headers.values name else other.values name := by
  obtain ⟨fields, hdistinct⟩ := other
  unfold extend
  induction fields generalizing headers with
  | nil => simp [values]
  | cons field fields ih =>
    rw [List.map_cons, List.nodup_cons] at hdistinct
    rw [List.foldl_cons, ih _ hdistinct.2, values_foldl_append, values_insert, values_insert]
    by_cases hname : name = field.name
    · subst hname
      have hnone : fields.find? (·.name = field.name) = none := by
        rw [List.find?_eq_none]
        intro other hother heq
        exact hdistinct.1 (of_decide_eq_true heq ▸ List.mem_map_of_mem hother)
      simp [values, hnone, Field.values]
    · simp [values, hname, Ne.symm hname]

/-- The first value of a name is that of its values. -/
theorem get?_eq_head? (headers : Headers) (name : FieldName) :
    headers.get? name = (headers.values name).head? := rfl

/-- Adding the values of one field to fields that do not have its name adds the field. -/
theorem foldl_append_field {fields : List Field} {field : Field}
    (h : field.name ∉ fields.map Field.name) :
    (field.values.map fun value => (field.name, value)).foldl
        (fun fields line => appendField line.1 line.2 fields) fields = fields ++ [field] := by
  obtain ⟨name, first, rest⟩ := field
  simp only [Field.values, List.map_cons, List.foldl_cons, appendField_of_not_mem first h]
  -- The field has its first value; the later ones join it one by one.
  induction rest using List.reverseRecOn with
  | nil => rfl
  | append_singleton rest value ih =>
    rw [List.map_append, List.foldl_append, ih h]
    exact appendField_concat ⟨name, first, rest⟩ value h

/-- Adding the lines of fields one by one gives these fields. -/
theorem foldl_append_fields (fields others : List Field)
    (h : ((fields ++ others).map Field.name).Nodup) :
    (others.flatMap fun field => field.values.map fun value => (field.name, value)).foldl
        (fun fields line => appendField line.1 line.2 fields) fields = fields ++ others := by
  induction others generalizing fields with
  | nil => simp
  | cons field others ih =>
    have hfield : field.name ∉ fields.map Field.name := by
      rw [List.map_append, List.nodup_append] at h
      intro hmem
      exact h.2.2 _ hmem field.name (by simp) rfl
    have hrest : (((fields ++ [field]) ++ others).map Field.name).Nodup := by simpa using h
    rw [List.flatMap_cons, List.foldl_append, foldl_append_field hfield, ih _ hrest]
    simp

/-- The fields of a header to which lines are added. -/
theorem fields_foldl_append (lines : List (FieldName × FieldValue)) (headers : Headers) :
    (lines.foldl (fun headers line => headers.append line.1 line.2) headers).fields =
      lines.foldl (fun fields line => appendField line.1 line.2 fields) headers.fields := by
  induction lines generalizing headers with
  | nil => rfl
  | cons line lines ih => exact ih _

/-- The lines of a header make it up again. -/
theorem ofLines_lines (headers : Headers) : ofLines headers.lines = headers := by
  have h := foldl_append_fields [] headers.fields (by simpa using headers.distinct)
  apply Headers.ext
  rw [ofLines, fields_foldl_append]
  simpa [lines, empty] using h

end Headers

end ForwardProxy.Http
