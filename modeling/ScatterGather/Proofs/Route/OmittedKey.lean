import ScatterGather.Proofs.Sharding.Insertion
import ScatterGather.Route.Admission

/-!
# Proofs/Route/OmittedKey — INSERT ... SELECT and generated keys

`permit` refuses an INSERT ... SELECT that leaves its key to the generator, which cannot number rows
that no one has seen yet.  Derivation asks the same question again, of the columns that the
statement fills; admission asks it of the columns that the statement **declares**.  The two differ
where none are declared (`permit_insertSelect`): then every INSERT ... SELECT into a table with a
key generator is refused, though all columns of the table are filled, the key among them.
-/

namespace ScatterGather

open Sharding

variable {rule : ShardingRule} {schema : Schema} {clock : Clock} {parameters : List Value}
  {insert : Insert} {select : Select} {table : Table} {columns : List String}

/-- **Admission looks for the key among the declared columns.** -/
theorem permitInsert_eq_error_iff (hselect : insert.select = some select)
    (hduplicate : insert.onDuplicate = []) {e : Error} :
    permitInsert rule insert = .error e ↔
      ∃ key, rule.keyColumn? insert.table = some key ∧
        (∀ column ∈ insert.columns, Text.sameName column key = false) ∧
          e = .unsupported (.keyFromSelect key) := by
  rw [permitInsert, hduplicate, List.find?_nil, hselect]
  cases rule.keyColumn? insert.table with
  | none => simp
  | some key =>
    dsimp only
    cases hany : insert.columns.any fun c => Text.sameName c key with
    | true =>
      obtain ⟨column, hcolumn, hname⟩ := List.any_eq_true.1 hany
      simp only [if_true, reduceCtorEq, Option.some.injEq, false_iff]
      rintro ⟨_, rfl, hne, -⟩
      exact Bool.false_ne_true ((hne column hcolumn).symm.trans hname)
    | false =>
      have hnone : ∀ column ∈ insert.columns, Text.sameName column key = false :=
        fun column hcolumn => Bool.eq_false_iff.2 (List.any_eq_false.1 hany column hcolumn)
      simp only [Bool.false_eq_true, if_false, Except.error.injEq, Option.some.injEq,
        exists_eq_left']
      exact ⟨fun he => ⟨hnone, he.symm⟩, fun he => he.2.symm⟩

theorem exists_permitInsert_eq_error_iff (hselect : insert.select = some select)
    (hduplicate : insert.onDuplicate = []) :
    (∃ e, permitInsert rule insert = .error e) ↔ rule.OmitsKey insert.table insert.columns := by
  simp only [permitInsert_eq_error_iff hselect hduplicate]
  constructor
  · rintro ⟨e, key, hkey, hcolumns, -⟩
    exact ⟨key, hkey, hcolumns⟩
  · rintro ⟨key, hkey, hcolumns⟩
    exact ⟨_, key, hkey, hcolumns, rfl⟩

/-! ## Admission and derivation

Both look for the key column by name, one among the declared columns, the other among those that are
filled. -/

/-- **Derivation generates keys exactly if the filled columns omit them.** -/
theorem isSome_keys_of_insert {conditions : ShardingConditions}
    (hcolumns : insertColumns schema insert = .ok columns)
    (h : (deriveConditions rule schema clock (.insert insert) parameters).result =
      .ok conditions) :
    conditions.keys.isSome ↔ rule.OmitsKey insert.table columns := by
  rw [← isSome_omittedKey?_iff]
  rw [deriveConditions, deriveInsert, hcolumns] at h
  dsimp only at h
  split at h
  · cases h
  split at h
  · rename_i hkey
    cases h
    rw [hkey]
    rfl
  · rename_i key hkey
    rw [hkey]
    split at h
    · cases h
    · rename_i added moved hadd
      cases h
      obtain ⟨⟨keys, _⟩, -, hadd⟩ := bind_eq_ok.1 hadd
      cases hadd
      exact Iff.rfl

/-- The columns that are filled are those declared, or all of the table. -/
theorem insertColumns_eq_ok (htable : schema.get insert.table = .ok table) :
    insertColumns schema insert =
      .ok (if insert.columns = [] then table.columnNames else insert.columns) := by
  rw [insertColumns, htable]
  cases insert.columns <;> rfl

/-- **Admission and derivation agree on INSERT ... SELECT, except without declared columns**: then
admission refuses even a statement that fills the key column, for which no key would be
generated. -/
theorem permit_insertSelect (hselect : insert.select = some select)
    (hduplicate : insert.onDuplicate = []) (htable : schema.get insert.table = .ok table) :
    ∃ columns, insertColumns schema insert = .ok columns ∧
      (∀ e, permit rule schema (.insert insert) parameters = .error e ↔
        ∃ key, rule.keyColumn? insert.table = some key ∧
          (∀ column ∈ insert.columns, Text.sameName column key = false) ∧
            e = .unsupported (.keyFromSelect key)) ∧
      (∀ clock conditions,
        (deriveConditions rule schema clock (.insert insert) parameters).result = .ok conditions →
          (conditions.keys.isSome ↔ rule.OmitsKey insert.table columns)) ∧
      (((∃ e, permit rule schema (.insert insert) parameters = .error e) ↔
          rule.OmitsKey insert.table columns) ↔
        ¬(insert.columns = [] ∧ ∃ key, rule.keyColumn? insert.table = some key ∧
          ∃ column ∈ table.columnNames, Text.sameName column key = true)) := by
  have hcolumns := insertColumns_eq_ok htable
  refine ⟨_, hcolumns, fun e => permitInsert_eq_error_iff hselect hduplicate,
    fun clock conditions h => isSome_keys_of_insert hcolumns h, ?_⟩
  rw [permit, exists_permitInsert_eq_error_iff hselect hduplicate]
  split
  · rename_i hnil
    rw [hnil]
    simp only [ShardingRule.OmitsKey, List.not_mem_nil, false_implies, implies_true, and_true,
      true_and]
    cases rule.keyColumn? insert.table with
    | none => simp
    | some key => simp
  · rename_i hne
    simp [hne]

/-- A schema of orders alone. -/
def orderSchema : Schema :=
  .ofTables [⟨"t_order", [⟨"ORDER_ID", .integer, true, true, false⟩,
    ⟨"user_id", .integer, false, false, false⟩], []⟩]

/-- The orders of user 3, inserted again into all columns of their table. -/
def copyOrders : Insert where
  table := "t_order"
  columns := []
  values := []
  select := some
    { tables := ["t_order"]
      list := ⟨[], false⟩
      condition := some (.test (.compare .equal "user_id" (.literal (.integer 3))))
      groupBy := [], orderBy := [], having := none, pagination := none, lock := false
      subquery := false }
  onDuplicate := []

/-- The copy is refused, though it fills the key column. -/
theorem permit_copyOrders :
    permit keyedOrders orderSchema (.insert copyOrders) [] =
        .error (.unsupported (.keyFromSelect "order_id")) ∧
      ∃ columns, insertColumns orderSchema copyOrders = .ok columns ∧
        ¬keyedOrders.OmitsKey "t_order" columns := by
  obtain ⟨columns, hcolumns, hpermit, -, hagree⟩ :=
    @permit_insertSelect keyedOrders orderSchema [] copyOrders _ _ rfl rfl rfl
  have hrefused := (hpermit _).2 ⟨"order_id", by decide, by simp [copyOrders], rfl⟩
  have hfills : ∃ key, keyedOrders.keyColumn? "t_order" = some key ∧
      ∃ column ∈ ["ORDER_ID", "user_id"], Text.sameName column key = true :=
    ⟨"order_id", by decide, "ORDER_ID", by decide, by decide⟩
  refine ⟨hrefused, columns, hcolumns, fun homits => ?_⟩
  exact hagree.1 ⟨fun _ => homits, fun _ => ⟨_, hrefused⟩⟩ ⟨rfl, hfills⟩

end ScatterGather
