import RemoteQuery.Proofs.Json.Texts
import RemoteQuery.Proofs.Record
set_option autoImplicit false

/-! Records as ordered maps of what has been inserted.  A column is inserted in place or at
the end, so the columns stand in the order of their first inserts, each once, and each has
the value of its last.  As no name is repeated, the JSON text of a record has all that the
record has, in the same order. -/

namespace RemoteQuery.Record

/-! ### One insert -/

theorem insertField_eq (column value : String) {fields : List (String × String)}
    (distinct : (fields.map (·.1)).Nodup) :
    insertField column value fields
      = if column ∈ fields.map (·.1) then
          fields.map fun field => (field.1, if field.1 = column then value else field.2)
        else fields ++ [(column, value)] := by
  induction fields with
  | nil => rfl
  | cons field fields inductionHypothesis =>
      obtain ⟨name, existing⟩ := field
      obtain ⟨single, others⟩ := List.nodup_cons.mp distinct
      rw [insertField]
      by_cases here : name = column
      · have rest : fields.map (fun field =>
            (field.1, if field.1 = column then value else field.2)) = fields := by
          refine (List.map_congr_left fun field member => ?_).trans (List.map_id fields)
          rw [if_neg]
          · rfl
          · exact fun same => single (List.mem_map.mpr ⟨field, member, same.trans here.symm⟩)
        rw [if_pos here, if_pos (by rw [here]; exact List.mem_cons_self), List.map_cons, rest,
          if_pos here]
      · have other : column ∈ ((name, existing) :: fields).map (·.1) ↔
            column ∈ fields.map (·.1) := by
          rw [List.map_cons, List.mem_cons]
          exact or_iff_right fun same => here same.symm
        rw [if_neg here, inductionHypothesis others]
        by_cases found : column ∈ fields.map (·.1)
        · rw [if_pos found, if_pos (other.mpr found), List.map_cons, if_neg here]
        · rw [if_neg found, if_neg fun member => found (other.mp member), List.cons_append]

/-- What an insert does to a record: the column has the value, all other columns keep
theirs, every position keeps its column, and a new column stands at the end. -/
structure Inserts (column value : String) (before after : Record) : Prop where
  here : after.get? column = some value
  others : ∀ other, other ≠ column → after.get? other = before.get? other
  positions : ∀ (position : Nat) (name existing : String),
    before.fields[position]? = some (name, existing) →
    after.fields[position]? = some (name, if name = column then value else existing)
  known : column ∈ before.columns → after.columns = before.columns
  added : column ∉ before.columns → after.fields = before.fields ++ [(column, value)]

private theorem insert_inserts {record : Record} (distinct : record.columns.Nodup)
    (column value : String) : Inserts column value record (record.insert column value) where
  here := by rw [get?_insert, if_pos rfl]
  others := by
    intro other different
    rw [get?_insert, if_neg fun same => different same.symm]
  positions := by
    intro position name existing found
    rw [insert, insertField_eq column value distinct]
    by_cases there : column ∈ record.fields.map (·.1)
    · rw [if_pos there, List.getElem?_map, found]
      rfl
    · have different : name ≠ column := by
        intro same
        apply there
        rw [← same]
        exact List.mem_map_of_mem (List.mem_of_getElem? found)
      rw [if_neg there, if_neg different,
        List.getElem?_append_left (List.getElem?_eq_some_iff.mp found).1, found]
  known := by
    intro there
    rw [columns_insert, if_pos there]
  added := by
    intro absent
    exact (insertField_eq column value distinct).trans (if_neg absent)

/-! ### Many inserts -/

def insertAll (record : Record) (pairs : List (String × String)) : Record :=
  pairs.foldl (fun record pair => record.insert pair.1 pair.2) record

private theorem insertAll_ofPairs (pairs more : List (String × String)) :
    (ofPairs pairs).insertAll more = ofPairs (pairs ++ more) :=
  List.foldl_append.symm

private theorem mem_columns_ofPairs {pairs : List (String × String)} {column : String} :
    column ∈ (ofPairs pairs).columns ↔ column ∈ pairs.map (·.1) := by
  rw [columns_ofPairs, List.mem_eraseDups]

theorem contains_iff {record : Record} {column : String} :
    record.contains column = true ↔ column ∈ record.columns := by
  rw [contains, Option.isSome_iff_ne_none, ne_eq, get?_eq_none_iff, Decidable.not_not]

theorem length_eq (record : Record) : record.length = record.columns.length :=
  (List.length_map _).symm

theorem isEmpty_iff {record : Record} : record.isEmpty = true ↔ record.columns = [] := by
  rw [isEmpty, List.isEmpty_iff, columns, List.map_eq_nil_iff]

private theorem mem_fields_of_get? {record : Record} {column value : String}
    (found : record.get? column = some value) : (column, value) ∈ record.fields := by
  obtain ⟨⟨name, existing⟩, first, same⟩ := Option.map_eq_some_iff.mp found
  have named : (name == column) = true :=
    @List.find?_some _ (fun field : String × String => field.1 == column) _ _ first
  cases beq_iff_eq.mp named
  cases same
  exact List.mem_of_find?_eq_some first

theorem get?_eq_some_iff {record : Record} (distinct : record.columns.Nodup)
    {column value : String} :
    record.get? column = some value ↔ (column, value) ∈ record.fields := by
  constructor
  · exact mem_fields_of_get?
  · intro member
    have present : column ∈ record.columns := List.mem_map.mpr ⟨_, member, rfl⟩
    cases found : record.get? column with
    | none => exact ((record.get?_eq_none_iff column).mp found present).elim
    | some other =>
        have same := List.inj_on_of_nodup_map distinct (mem_fields_of_get? found) member rfl
        rw [(Prod.mk.inj same).2]

/-- Names that are listed once each stand in the order in which they first occur. -/
theorem eraseDups_ordered (names : List String) :
    names.eraseDups.Pairwise fun first second => names.idxOf first < names.idxOf second := by
  induction names using List.reverseRecOn with
  | nil => exact .nil
  | append_singleton names name inductionHypothesis =>
      have before : names.eraseDups.Pairwise fun first second =>
          (names ++ [name]).idxOf first < (names ++ [name]).idxOf second := by
        apply inductionHypothesis.imp_of_mem
        intro first second isFirst isSecond earlier
        rw [List.idxOf_append_of_mem (List.mem_eraseDups.mp isFirst),
          List.idxOf_append_of_mem (List.mem_eraseDups.mp isSecond)]
        exact earlier
      rw [eraseDups_concat]
      by_cases found : name ∈ names
      · rw [if_pos found]
        exact before
      · rw [if_neg found, List.pairwise_append]
        refine ⟨before, List.pairwise_singleton _ _, fun first isFirst second isSecond => ?_⟩
        have inside := List.mem_eraseDups.mp isFirst
        rw [List.mem_singleton.mp isSecond, List.idxOf_append_of_mem inside,
          List.idxOf_append_of_notMem found]
        exact Nat.lt_add_right _ (List.idxOf_lt_length_of_mem inside)

/-- A JSON text is that of a record: an object without repeated names, with the pairs of the
record in their order. -/
def IsWritten (record : Record) (text : String) : Prop :=
  ∃ fields, Json.read? text = some (.object fields) ∧ (fields.map (·.1)).Nodup ∧
    fields = record.fields.map fun field => (field.1, .text field.2)

private theorem isWritten_of_read {record : Record} {text : String}
    (distinct : record.columns.Nodup)
    (read : Json.read? text = some (.object (Json.textFields record.fields))) :
    record.IsWritten text := by
  refine ⟨_, read, ?_, rfl⟩
  rw [Json.textFields, List.map_map]
  exact distinct

/-- A record is the ordered map of the pairs that have been inserted. -/
structure IsMapOf (inserted : List (String × String)) (record : Record) : Prop where
  distinct : record.columns.Nodup
  ordered : record.columns.Pairwise fun first second =>
    (inserted.map (·.1)).idxOf first < (inserted.map (·.1)).idxOf second
  last : ∀ before column value after, inserted = before ++ (column, value) :: after →
    column ∉ after.map (·.1) → record.get? column = some value
  never : ∀ column, record.get? column = none ↔ column ∉ inserted.map (·.1)
  contains_iff : ∀ column, record.contains column = true ↔ record.get? column ≠ none
  columns_iff : ∀ column, column ∈ record.columns ↔ record.get? column ≠ none
  length_eq : record.length = record.columns.length
  isEmpty_iff : record.isEmpty = true ↔ ∀ column, record.get? column = none
  fields_iff : ∀ column value, (column, value) ∈ record.fields ↔ record.get? column = some value
  inserts : ∀ column value, Inserts column value record (record.insert column value)
  compact : record.IsWritten (Json.compact record.encode)
  spread : record.IsWritten (Json.spread record.encode)

/-- Whatever is collected and then inserted, the record is the ordered map of it. -/
theorem insertAll_isMapOf (collected inserted : List (String × String)) :
    IsMapOf (collected ++ inserted) ((ofPairs collected).insertAll inserted) := by
  rw [insertAll_ofPairs]
  generalize collected ++ inserted = pairs
  have distinct := nodup_columns_ofPairs pairs
  have present (column : String) :
      column ∈ (ofPairs pairs).columns ↔ (ofPairs pairs).get? column ≠ none := by
    rw [ne_eq, get?_eq_none_iff, Decidable.not_not]
  exact {
    distinct := distinct
    ordered := by
      rw [columns_ofPairs]
      exact eraseDups_ordered (pairs.map (·.1))
    last := by
      intro before column value after split absent
      rw [split]
      exact get?_ofPairs_last before after value absent
    never := by
      intro column
      rw [get?_eq_none_iff, mem_columns_ofPairs]
    contains_iff := fun column => Record.contains_iff.trans (present column)
    columns_iff := present
    length_eq := Record.length_eq _
    isEmpty_iff := by
      rw [Record.isEmpty_iff, List.eq_nil_iff_forall_not_mem]
      simp only [get?_eq_none_iff]
    fields_iff := fun _ _ => (get?_eq_some_iff distinct).symm
    inserts := insert_inserts distinct
    compact := isWritten_of_read distinct (Json.read?_compact_textFields _)
    spread := isWritten_of_read distinct (Json.read?_spread_textFields _) }

/-- A column keeps its place when it gets another value. -/
example : ((ofPairs [("id", "1"), ("name", "Ann")]).insertAll [("id", "2")]).fields
    = [("id", "2"), ("name", "Ann")] := by decide

end RemoteQuery.Record
