import ScatterGather.Proofs.Outcome
import ScatterGather.Proofs.Sharding.Timed

/-!
# Proofs/Sharding/Insertion — one condition per inserted row, and one key

The rows of an INSERT are read in turn, and the cells of a row from left to right; each cell that is
the present instant moves the clock on.  `ReadsRows` says what a reading of all rows yields, so
`AreOfRows` can name the condition of every row: **the values of its known cells in sharding
columns, in column order, and then its own generated key**.  Keys are drawn after the last row, one
per row, and none is drawn when a row fails (`deriveInsert_cases`).  `Insert.routedColumns` lists
the columns that the condition of a row restricts, each to one value (`AreOfRows.gives`).
-/

namespace ScatterGather

/-! ## Columns of a row

A row gives a sharding column one value or none, and the key of a row may be one more.  What a
condition gives is an ordered list, since two columns may be one in another letter case. -/

/-- The columns, of those that a table is sharded by, that cells give a value to. -/
def routedCells (rule : ShardingRule) (table : String) (cells : List (String × Expression)) :
    List String :=
  (cells.filter fun c => rule.isShardingColumn c.1 table && c.2.isKnown).map (·.1)

/-- The columns that an inserted row is routed by: those its cells give a value to, and that of its
generated key. -/
def Insert.routedColumns (rule : ShardingRule) (insert : Insert) (columns : List String)
    (cells : List Expression) : List String :=
  routedCells rule insert.table (columns.zip cells) ++
    ((Sharding.omittedKey? rule insert columns).filter
      (rule.isShardingColumn · insert.table)).toList

/-- The rule generates keys for a column of the table that is not among these. -/
def ShardingRule.OmitsKey (rule : ShardingRule) (table : String) (columns : List String) : Prop :=
  ∃ key, rule.keyColumn? table = some key ∧ ∀ column ∈ columns, Text.sameName column key = false

/-- The condition gives each of these columns of a table one value, in order. -/
def ShardingCondition.Gives (table : String) (columns : List String) (c : ShardingCondition) :
    Prop :=
  List.Forall₂ (fun column r => ∃ v, r = Restriction.mk table column (.values [v])) columns
    c.restrictions

namespace ShardingCondition

variable {table : String} {columns : List String} {c : ShardingCondition}

/-- What two conditions give, both give. -/
theorem Gives.append {columns' : List String} {c' : ShardingCondition} (h : c.Gives table columns)
    (h' : c'.Gives table columns') :
    Gives table (columns ++ columns') ⟨c.restrictions ++ c'.restrictions⟩ :=
  List.rel_append h h'

/-- **A condition that gives values can be satisfied.** -/
theorem Gives.isNever_eq_false (h : c.Gives table columns) : c.isNever = false := by
  rw [isNever, List.any_eq_false]
  intro r hr
  obtain ⟨column, -, v, rfl⟩ := exists_mem_of_forall₂ h.flip hr
  exact Bool.false_ne_true

/-- What is allowed for a column is one value for each time that it is given one. -/
theorem Gives.allowedFor_eq (h : c.Gives table columns) (column : String) :
    ∃ vs : List Value, vs.length = columns.countP (Text.sameName · column) ∧
      c.allowedFor table column = vs.map fun v => .values [v] := by
  obtain ⟨restrictions⟩ := c
  rw [Gives] at h
  rw [allowedFor]
  dsimp only at h ⊢
  induction h with
  | nil => exact ⟨[], rfl, rfl⟩
  | @cons name r columns restrictions hr _ ih =>
    obtain ⟨v, rfl⟩ := hr
    obtain ⟨vs, hlength, hvs⟩ := ih
    cases hname : Text.sameName name column with
    | true => exact ⟨v :: vs, by simp [hname, hlength], by simp [hname, hvs]⟩
    | false => exact ⟨vs, by simp [hname, hlength], by simp [hname, hvs]⟩

end ShardingCondition

namespace Sharding

/-! ## Reading rows

The present instant is read anew for each cell that asks for it.  So rows are related to the clock
before and after them, and the clock is handed on from row to row. -/

/-- Reading known operands in turn, from one clock to another, restricts their columns to the
values that they show. -/
inductive Reads (table : String) (parameters : List Value) :
    Clock → List (String × Expression) → List Restriction → Clock → Prop
  | nil {clock} : Reads table parameters clock [] [] clock
  | cons {clock column operand v cells found clock'} :
      operand.valueAt clock.now.1 parameters = some v →
      Reads table parameters (operand.after clock) cells found clock' →
      Reads table parameters clock ((column, operand) :: cells)
        (⟨table, column, .values [v]⟩ :: found) clock'

/-- The cells in sharding columns whose values are known before the database sees them. -/
def knownCells (rule : ShardingRule) (table : String) (cells : List (String × Expression)) :
    List (String × Expression) :=
  cells.filter fun c => rule.isShardingColumn c.1 table && c.2.isKnown

/-- Reading the known cells of rows in turn. -/
inductive ReadsRows (rule : ShardingRule) (table : String) (columns : List String)
    (parameters : List Value) :
    Clock → List (List Expression) → List (List Restriction) → Clock → Prop
  | nil {clock} : ReadsRows rule table columns parameters clock [] [] clock
  | cons {clock cells found between rows more clock'} :
      Reads table parameters clock (knownCells rule table (columns.zip cells)) found between →
      ReadsRows rule table columns parameters between rows more clock' →
      ReadsRows rule table columns parameters clock (cells :: rows) (found :: more) clock'

section Rows

variable {rule : ShardingRule} {table : String} {columns : List String} {parameters : List Value}
  {clock clock' : Clock}

/-- There is a condition for every row. -/
theorem ReadsRows.length_eq {rows : List (List Expression)} {found : List (List Restriction)}
    (h : ReadsRows rule table columns parameters clock rows found clock') :
    found.length = rows.length := by
  induction h with
  | nil => rfl
  | cons _ _ ih => rw [List.length_cons, List.length_cons, ih]

/-- **The cells of a row are read from left to right.** -/
theorem run_cellRestrictions {cells : List (String × Expression)} {found : List Restriction}
    (h : (cellRestrictions rule table parameters cells).run clock = (.ok found, clock')) :
    Reads table parameters clock (knownCells rule table cells) found clock' := by
  induction cells generalizing clock found with
  | nil =>
    obtain ⟨rfl, rfl⟩ := run_pure_eq_ok.1 h
    exact .nil
  | cons entry rest ih =>
    obtain ⟨column, cell⟩ := entry
    rw [cellRestrictions] at h
    rw [knownCells, List.filter_cons]
    cases hsharding : rule.isShardingColumn column table with
    | false =>
      rw [hsharding] at h
      exact ih h
    | true =>
      rw [hsharding] at h
      obtain ⟨v, _, hcell, h⟩ := run_bind_eq_ok.1 h
      obtain ⟨more, _, hrest, h⟩ := run_bind_eq_ok.1 h
      obtain ⟨rfl, rfl⟩ := run_pure_eq_ok.1 h
      obtain ⟨hv, hknown, rfl⟩ := run_resolveOperand hcell
      have hrest := ih hrest
      cases v with
      | none =>
        rw [Option.isSome_none] at hknown
        rw [Expression.after_of_isKnown_eq_false hknown.symm] at hrest
        rw [← hknown]
        exact hrest
      | some v =>
        rw [← hknown]
        exact .cons hv.symm hrest

/-- **The rows are read in turn**, each having a cell for every column. -/
theorem run_rowConditions {row : Nat} {rows : List (List Expression)}
    {conditions : List ShardingCondition}
    (h : (rowConditions rule table columns parameters row rows).run clock =
      (.ok conditions, clock')) :
    (∀ cells ∈ rows, cells.length = columns.length) ∧
      ∃ found, ReadsRows rule table columns parameters clock rows found clock' ∧
        conditions = found.map ShardingCondition.mk := by
  induction rows generalizing row clock conditions with
  | nil =>
    obtain ⟨rfl, rfl⟩ := run_pure_eq_ok.1 h
    exact ⟨by simp, [], .nil, rfl⟩
  | cons cells rest ih =>
    rw [rowConditions] at h
    split at h
    · obtain ⟨_, _, hthrow, -⟩ := run_bind_eq_ok.1 h
      cases hthrow
    rename_i hlength
    obtain ⟨found, _, hfound, h⟩ := run_bind_eq_ok.1 h
    obtain ⟨conditions, _, hconditions, h⟩ := run_bind_eq_ok.1 h
    obtain ⟨rfl, rfl⟩ := run_pure_eq_ok.1 h
    obtain ⟨hlengths, more, hmore, rfl⟩ := ih hconditions
    exact ⟨List.forall_mem_cons.2 ⟨(not_not.1 hlength).symm, hlengths⟩, found :: more,
      .cons (run_cellRestrictions hfound) hmore, rfl⟩

/-- A reading restricts the columns of the cells that are read. -/
theorem Reads.gives {cells : List (String × Expression)} {found : List Restriction}
    (h : Reads table parameters clock cells found clock') :
    ShardingCondition.Gives table (cells.map (·.1)) ⟨found⟩ := by
  induction h with
  | nil => exact .nil
  | cons _ _ ih => exact .cons ⟨_, rfl⟩ ih

/-- The rows that are read restrict the columns of their known cells. -/
theorem ReadsRows.gives {rows : List (List Expression)} {found : List (List Restriction)}
    (h : ReadsRows rule table columns parameters clock rows found clock') :
    List.Forall₂ (fun cells restrictions => ShardingCondition.Gives table
      (routedCells rule table (columns.zip cells)) ⟨restrictions⟩) rows found := by
  induction h with
  | nil => exact .nil
  | cons hcells _ ih => exact .cons hcells.gives ih

end Rows

/-! ## Generated keys

Keys are drawn only after all rows have been read.  A row that fails leaves the generator alone. -/

section Keys

variable {rule : ShardingRule} {table : String} {columns : List String}

/-- A generator yields as many keys as it is asked for. -/
theorem KeyGenerator.length_of_take {g g' : KeyGenerator} {count : Nat} {keys : List Value}
    (h : g.take count = .ok (keys, g')) : keys.length = count := by
  induction count generalizing g keys with
  | zero =>
    cases h
    rfl
  | succ count ih =>
    obtain ⟨⟨key, next⟩, -, h⟩ := bind_eq_ok.1 h
    obtain ⟨⟨rest, last⟩, hrest, h⟩ := bind_eq_ok.1 h
    cases h
    rw [List.length_cons, ih hrest]

/-- There is a key for every row. -/
theorem length_of_generateKeys {moved : ShardingRule} {count : Nat} {keys : List Value}
    (h : rule.generateKeys table count = .ok (keys, moved)) : keys.length = count := by
  rw [ShardingRule.generateKeys] at h
  split at h
  · cases h
  · obtain ⟨⟨taken, g⟩, htake, h⟩ := bind_eq_ok.1 h
    cases h
    exact KeyGenerator.length_of_take htake

/-- The restriction of a row by its generated key, if that is a value of a sharding column. -/
def keyRestrictions (rule : ShardingRule) (table : String) (keys : Option GeneratedKeys)
    (row : Nat) : List Restriction :=
  match keys with
  | none => []
  | some keys =>
    if rule.isShardingColumn keys.column table then
      keys.values[row]?.toList.map fun key => ⟨table, keys.column, .values [key]⟩
    else []

/-- Going through a list by position is going through it. -/
theorem mapIdx_eq_map {α β : Type} {f : α → β} {l : List α} :
    (l.mapIdx fun _ a => f a) = l.map f :=
  List.ext_getElem (by simp) (by simp)

/-- **Each key joins the condition of its own row.** -/
theorem withKeys_eq_mapIdx {column : String} {found : List (List Restriction)}
    {keys : List Value} :
    withKeys table column (found.map ShardingCondition.mk) keys =
      found.mapIdx fun row restrictions => ⟨restrictions ++
        keys[row]?.toList.map fun key => ⟨table, column, .values [key]⟩⟩ := by
  induction found generalizing keys with
  | nil => rfl
  | cons restrictions rest ih =>
    cases keys with
    | nil => simp [withKeys, mapIdx_eq_map]
    | cons key keys =>
      rw [List.map_cons, withKeys, List.mapIdx_cons, ih]
      rfl

/-- An INSERT leaves a key to its generator exactly if its columns omit it. -/
theorem omittedKey?_eq_some {insert : Insert} {key : String} :
    omittedKey? rule insert columns = some key ↔
      rule.keyColumn? insert.table = some key ∧
        ∀ column ∈ columns, Text.sameName column key = false := by
  rw [omittedKey?, Option.filter_eq_some_iff]
  simp

/-- A key is generated if the rule omits it from the columns. -/
theorem isSome_omittedKey?_iff {insert : Insert} :
    (omittedKey? rule insert columns).isSome ↔ rule.OmitsKey insert.table columns := by
  rw [Option.isSome_iff_exists]
  exact exists_congr fun _ => omittedKey?_eq_some

end Keys

/-! ## Statements

Derivation is one of two things, with keys to be generated or without, and the statement says which
by its columns. -/

variable {rule : ShardingRule} {columns : List String} {parameters : List Value}
  {schema : Schema} {clock clock' : Clock} {insert : Insert} {moved : ShardingRule}

/-- The conditions of an INSERT of value rows into these columns, with the clock before and after
and the rule with its key generator moved on. -/
structure AreOfRows (rule : ShardingRule) (insert : Insert) (columns : List String)
    (parameters : List Value) (clock : Clock) (conditions : ShardingConditions)
    (moved : ShardingRule) (clock' : Clock) : Prop where
  /-- Every row has a cell for every column. -/
  width : ∀ cells ∈ insert.values, cells.length = columns.length
  length_conditions : conditions.conditions.length = insert.values.length
  /-- The condition of a row restricts its known cells, and then its key. -/
  restrictions : ∃ found,
    ReadsRows rule insert.table columns parameters clock insert.values found clock' ∧
      conditions.conditions = found.mapIdx fun row restrictions =>
        ⟨restrictions ++ keyRestrictions rule insert.table conditions.keys row⟩
  isSome_keys : conditions.keys.isSome ↔ rule.OmitsKey insert.table columns
  /-- The keys are the next ones of the generator, one per row. -/
  keys : ∀ keys ∈ conditions.keys, rule.keyColumn? insert.table = some keys.column ∧
    keys.values.length = insert.values.length ∧
      rule.generateKeys insert.table insert.values.length = .ok (keys.values, moved)
  moved_eq : conditions.keys = none → moved = rule

/-- The conditions of rows that leave no key to be generated. -/
theorem areOfRows_of_omittedKey?_eq_none {found : List (List Restriction)}
    (hkey : omittedKey? rule insert columns = none)
    (hwidth : ∀ cells ∈ insert.values, cells.length = columns.length)
    (hfound : ReadsRows rule insert.table columns parameters clock insert.values found clock') :
    AreOfRows rule insert columns parameters clock ⟨found.map ShardingCondition.mk, none⟩ rule
      clock' where
  width := hwidth
  length_conditions := by rw [List.length_map, hfound.length_eq]
  restrictions := ⟨found, hfound, by simp [keyRestrictions, mapIdx_eq_map]⟩
  isSome_keys := by
    rw [← isSome_omittedKey?_iff, hkey]
    rfl
  keys := by simp
  moved_eq := fun _ => rfl

/-- The conditions of rows with generated keys. -/
theorem areOfRows_of_addKeys {key : String} {found : List (List Restriction)}
    {conditions : ShardingConditions} (hselect : insert.select = none)
    (hkey : omittedKey? rule insert columns = some key)
    (hwidth : ∀ cells ∈ insert.values, cells.length = columns.length)
    (hfound : ReadsRows rule insert.table columns parameters clock insert.values found clock')
    (h : addKeys rule insert key (found.map ShardingCondition.mk) = .ok (conditions, moved)) :
    AreOfRows rule insert columns parameters clock conditions moved clock' := by
  rw [addKeys, hselect] at h
  obtain ⟨⟨keys, rule'⟩, hkeys, h⟩ := bind_eq_ok.1 h
  cases h
  have hrows : (if rule.isShardingColumn key insert.table then
        withKeys insert.table key (found.map ShardingCondition.mk) keys
      else found.map ShardingCondition.mk) =
      found.mapIdx fun row restrictions => ⟨restrictions ++
        keyRestrictions rule insert.table (some ⟨key, keys⟩) row⟩ := by
    simp only [keyRestrictions]
    split
    · exact withKeys_eq_mapIdx
    · simp [mapIdx_eq_map]
  refine ⟨hwidth, ?_, ⟨found, hfound, hrows⟩, ?_, ?_, fun h => by cases h⟩
  · dsimp only
    rw [hrows, List.length_mapIdx, hfound.length_eq]
  · rw [← isSome_omittedKey?_iff, hkey]
    rfl
  · rintro _ ⟨⟩
    exact ⟨(omittedKey?_eq_some.1 hkey).1, length_of_generateKeys hkeys, hkeys⟩

/-- **What deriving the conditions of an INSERT of value rows does**: it fails without drawing a
key, or it yields the conditions of the rows. -/
theorem deriveInsert_cases (hselect : insert.select = none) {derived : Derived}
    (h : deriveInsert rule schema clock insert parameters = derived) :
    (∃ e, derived.result = .error e ∧ derived.rule = rule) ∨
      ∃ columns conditions, derived.result = .ok conditions ∧
        insertColumns schema insert = .ok columns ∧
        AreOfRows rule insert columns parameters clock conditions derived.rule derived.clock := by
  rw [deriveInsert] at h
  split at h
  · exact .inl (h ▸ ⟨_, rfl, rfl⟩)
  rename_i columns hcolumns
  split at h
  · exact .inl (h ▸ ⟨_, rfl, rfl⟩)
  rename_i found clock' hrun
  rw [insertedConditions, hselect] at hrun
  obtain ⟨hwidth, found, hfound, rfl⟩ := run_rowConditions hrun
  split at h
  · rename_i hkey
    exact .inr (h ▸ ⟨columns, _, rfl, hcolumns,
      areOfRows_of_omittedKey?_eq_none hkey hwidth hfound⟩)
  · rename_i key hkey
    split at h
    · exact .inl (h ▸ ⟨_, rfl, rfl⟩)
    · rename_i added rule' hadd
      exact .inr (h ▸ ⟨columns, _, rfl, hcolumns,
        areOfRows_of_addKeys hselect hkey hwidth hfound hadd⟩)

/-- The generated keys are those of the omitted column. -/
theorem AreOfRows.omittedKey?_eq {conditions : ShardingConditions}
    (h : AreOfRows rule insert columns parameters clock conditions moved clock') :
    omittedKey? rule insert columns = conditions.keys.map (·.column) := by
  have hsome := isSome_omittedKey?_iff.trans h.isSome_keys.symm
  cases hkeys : conditions.keys with
  | none =>
    rw [hkeys] at hsome
    exact Option.not_isSome_iff_eq_none.1 fun hkey => Bool.false_ne_true (hsome.1 hkey)
  | some keys =>
    rw [hkeys] at hsome
    obtain ⟨key, hkey⟩ := Option.isSome_iff_exists.1 (hsome.2 rfl)
    rw [hkey]
    exact (omittedKey?_eq_some.1 hkey).1.symm.trans (h.keys keys hkeys).1

/-- The key of a row is one more value of it. -/
theorem AreOfRows.gives_key {conditions : ShardingConditions}
    (h : AreOfRows rule insert columns parameters clock conditions moved clock') {row : Nat}
    (hrow : row < insert.values.length) :
    ShardingCondition.Gives insert.table ((omittedKey? rule insert columns).filter
      (rule.isShardingColumn · insert.table)).toList
      ⟨keyRestrictions rule insert.table conditions.keys row⟩ := by
  rw [h.omittedKey?_eq]
  cases hkeys : conditions.keys with
  | none => exact .nil
  | some keys =>
    rw [Option.map_some, Option.filter_some, keyRestrictions]
    cases rule.isShardingColumn keys.column insert.table with
    | false => exact .nil
    | true =>
      obtain ⟨-, hlength, -⟩ := h.keys keys hkeys
      rw [List.getElem?_eq_getElem (hlength ▸ hrow)]
      exact .cons ⟨_, rfl⟩ .nil

/-- **The condition of a row gives one value to each column that the row is routed by.** -/
theorem AreOfRows.gives {conditions : ShardingConditions}
    (h : AreOfRows rule insert columns parameters clock conditions moved clock') :
    List.Forall₂ (fun cells c => c.Gives insert.table (insert.routedColumns rule columns cells))
      insert.values conditions.conditions := by
  obtain ⟨found, hfound, hconditions⟩ := h.restrictions
  rw [hconditions]
  refine List.forall₂_iff_get.2 ⟨by simp [hfound.length_eq], fun row hrow _ => ?_⟩
  obtain ⟨-, hcells⟩ := List.forall₂_iff_get.1 hfound.gives
  simp only [List.get_eq_getElem, List.getElem_mapIdx]
  exact (hcells row hrow (hfound.length_eq ▸ hrow)).append (h.gives_key hrow)

/-- **An INSERT of value rows has one condition per row**, which gives one value to each column that
the row is routed by. -/
theorem deriveInsert_gives {conditions : ShardingConditions} (hselect : insert.select = none)
    (h : (deriveInsert rule schema clock insert parameters).result = .ok conditions) :
    ∃ columns, insertColumns schema insert = .ok columns ∧
      (∀ cells ∈ insert.values, columns.length = cells.length) ∧
      List.Forall₂ (fun cells c => c.Gives insert.table (insert.routedColumns rule columns cells))
        insert.values conditions.conditions := by
  obtain ⟨e, he, -⟩ | ⟨columns, conditions', hok, hcolumns, hrows⟩ :=
    deriveInsert_cases hselect (rfl : deriveInsert rule schema clock insert parameters = _)
  · cases h.symm.trans he
  · obtain rfl := Except.ok.inj (h.symm.trans hok)
    exact ⟨columns, hcolumns, fun cells hcells => (hrows.width cells hcells).symm, hrows.gives⟩

/-- **An INSERT of value rows has one condition per row**: its known cells in sharding columns, in
column order, and then its key, which is generated exactly if the columns omit it.  An INSERT that
fails has drawn no key. -/
theorem deriveConditions_insert {result : Except Error ShardingConditions}
    (hselect : insert.select = none)
    (h : deriveConditions rule schema clock (.insert insert) parameters =
      ⟨result, moved, clock'⟩) :
    (∀ conditions, result = .ok conditions → ∃ columns, insertColumns schema insert = .ok columns ∧
      AreOfRows rule insert columns parameters clock conditions moved clock') ∧
    ∀ e, result = .error e → moved = rule := by
  obtain ⟨e, he, hmoved⟩ | ⟨columns, conditions, hok, hcolumns, hrows⟩ :=
    deriveInsert_cases hselect h
  · refine ⟨fun conditions hconditions => ?_, fun _ _ => hmoved⟩
    cases he.symm.trans hconditions
  · refine ⟨fun conditions' hconditions => ⟨columns, hcolumns, ?_⟩, fun e he => ?_⟩
    · obtain rfl := Except.ok.inj (hok.symm.trans hconditions)
      exact hrows
    · cases hok.symm.trans he

/-- Orders spread by user and then by order, whose numbers are generated. -/
def keyedOrders : ShardingRule where
  dataSources := ["ds_0"]
  tableRules :=
    [{ logicTable := "t_order"
       nodes := [⟨"ds_0", "t_order_0"⟩]
       database := some ⟨"user_id", "by_user", .modulo 2⟩
       table := some ⟨"order_id", "by_order", .modulo 2⟩
       key := some ⟨"order_id", "snowflake",
         .snowflake ⟨0, Clock.fixed snowflakeEpoch, 0, 0, by decide⟩⟩ }]
  broadcastTables := []
  defaultDatabase := none
  defaultTable := none
  defaultDataSource := none

/-- Three orders without numbers: of a bound user, of one that only the database knows, and of the
present instant for one. -/
def threeOrders : Insert where
  table := "T_ORDER"
  columns := ["note", "USER_ID"]
  values := [[.now, .parameter 0], [.literal .null, .complex "f()"], [.literal .null, .now]]
  select := none
  onDuplicate := []

/-- Three conditions and three keys. -/
theorem conditions_of_threeOrders : ∃ conditions moved clock',
    deriveConditions keyedOrders ⟨[]⟩ ⟨[(5, 1)], 6⟩ (.insert threeOrders) [.integer 3] =
        ⟨.ok conditions, moved, clock'⟩ ∧
      conditions.conditions.length = 3 ∧ ∃ keys ∈ conditions.keys, keys.values.length = 3 := by
  obtain ⟨conditions, moved, clock', h⟩ : ∃ conditions moved clock',
      deriveConditions keyedOrders ⟨[]⟩ ⟨[(5, 1)], 6⟩ (.insert threeOrders) [.integer 3] =
        ⟨.ok conditions, moved, clock'⟩ := ⟨_, _, _, rfl⟩
  obtain ⟨columns, hcolumns, hrows⟩ := (deriveConditions_insert rfl h).1 conditions rfl
  cases hcolumns
  have homits : keyedOrders.OmitsKey "T_ORDER" threeOrders.columns :=
    ⟨"order_id", by decide, by decide⟩
  obtain ⟨keys, hkeys⟩ := Option.isSome_iff_exists.1 (hrows.isSome_keys.2 homits)
  exact ⟨conditions, moved, clock', h, hrows.length_conditions, keys, hkeys,
    (hrows.keys keys hkeys).2.1⟩

end Sharding

end ScatterGather
