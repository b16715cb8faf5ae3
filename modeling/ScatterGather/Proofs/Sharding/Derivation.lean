import ScatterGather.Proofs.Sharding.Timed
import ScatterGather.Proofs.Value.Range

/-!
# Proofs/Sharding/Derivation — sharding conditions keep the rows of a WHERE clause

A WHERE clause says of a row's sharding columns what its predicates **demand** of them
(`Predicate.Demands`); what a predicate says about other columns, or by operands that only the
database knows, is anyone's guess.  Whatever the rest of a clause says, `ensures_whereConditions`:
**a row that satisfies the clause is admitted by one of the conditions derived from it**, unless
there are none.

Each step has a contract on a clock that always shows one instant (`Ensures`), and contracts chain
as the steps do.
-/

namespace ScatterGather

/-! ## What a WHERE clause says

A predicate is taken for what it demands of a cell, as far as that is known here.  This is weaker
than its truth in the database, and it is all that routing may rely on. -/

/-- The operands that a predicate compares its column with. -/
def Predicate.operands : Predicate → List Expression
  | compare _ _ operand => [operand]
  | between _ low high => [low, high]
  | among _ operands => operands
  | like _ _ | isNull _ | isNotNull _ => []

/-- What a predicate demands of the cell it tests, as far as its operands are known: the value
itself, or membership in the range. -/
def Predicate.Demands (now : Moment) (parameters : List Value) (cell : Value) : Predicate → Prop
  | compare .equal _ operand => ∀ b, operand.valueAt now parameters = some b → b = cell
  | compare .notEqual _ _ => True
  | compare .greater _ operand =>
    ∀ b, operand.valueAt now parameters = some b → (ValueRange.atLeast b false).contains cell
  | compare .greaterOrEqual _ operand =>
    ∀ b, operand.valueAt now parameters = some b → (ValueRange.atLeast b true).contains cell
  | compare .less _ operand =>
    ∀ b, operand.valueAt now parameters = some b → (ValueRange.atMost b false).contains cell
  | compare .lessOrEqual _ operand =>
    ∀ b, operand.valueAt now parameters = some b → (ValueRange.atMost b true).contains cell
  | between _ low high =>
    ∀ a b, low.valueAt now parameters = some a → high.valueAt now parameters = some b →
      (ValueRange.closed a b).contains cell
  | among _ operands =>
    (∀ e ∈ operands, (e.valueAt now parameters).isSome) →
      ∃ e ∈ operands, e.valueAt now parameters = some cell
  | like _ _ | isNull _ | isNotNull _ => True

/-- No value of an operand is a double. -/
def Predicate.IsExact (now : Moment) (parameters : List Value) (p : Predicate) : Prop :=
  ∀ e ∈ p.operands, ∀ v, e.valueAt now parameters = some v → v.isReal = false

namespace Condition

/-- Whether a condition holds when each of its predicates does or not. -/
def Holds (truth : Predicate → Prop) : Condition → Prop
  | test p => truth p
  | and left right => left.Holds truth ∧ right.Holds truth
  | or left right => left.Holds truth ∨ right.Holds truth

/-- The predicates of a condition, from left to right. -/
def predicates : Condition → List Predicate
  | test p => [p]
  | and left right | or left right => left.predicates ++ right.predicates

/-- **A condition holds when one of its groups does.** -/
theorem holds_iff_andGroups {truth : Predicate → Prop} {c : Condition} :
    c.Holds truth ↔ ∃ g ∈ c.andGroups, ∀ p ∈ g, truth p := by
  induction c with
  | test p => simp [Holds, andGroups]
  | and left right ihl ihr =>
    simp only [Holds, andGroups, ihl, ihr, List.mem_flatMap, List.mem_map]
    constructor
    · rintro ⟨⟨l, hl, hlt⟩, r, hr, hrt⟩
      refine ⟨l ++ r, ⟨l, hl, r, hr, rfl⟩, fun p hp => ?_⟩
      exact (List.mem_append.1 hp).elim (hlt p) (hrt p)
    · rintro ⟨_, ⟨l, hl, r, hr, rfl⟩, hp⟩
      exact ⟨⟨l, hl, fun p h => hp p (List.mem_append_left r h)⟩,
        r, hr, fun p h => hp p (List.mem_append_right l h)⟩
  | or left right ihl ihr =>
    simp only [Holds, andGroups, ihl, ihr, List.mem_append, or_and_right, exists_or]

/-- The groups list predicates of the condition. -/
theorem mem_predicates_of_mem_andGroups {c : Condition} {g : List Predicate} {p : Predicate}
    (hg : g ∈ c.andGroups) (hp : p ∈ g) : p ∈ c.predicates := by
  induction c generalizing g with
  | test q =>
    obtain rfl : g = [q] := List.mem_singleton.1 hg
    exact hp
  | and left right ihl ihr =>
    obtain ⟨l, hl, hg⟩ := List.mem_flatMap.1 hg
    obtain ⟨r, hr, rfl⟩ := List.mem_map.1 hg
    exact (List.mem_append.1 hp).elim (fun h => List.mem_append_left _ (ihl hl h))
      fun h => List.mem_append_right _ (ihr hr h)
  | or left right ihl ihr =>
    exact (List.mem_append.1 hg).elim (fun h => List.mem_append_left _ (ihl h hp))
      fun h => List.mem_append_right _ (ihr h hp)

end Condition

/-! ## What a restriction keeps

A list keeps a cell that is on it, a range one that it contains; both survive a meeting. -/

namespace Allowed

/-- The cell is on the list, or in the range, which then has no double at its ends. -/
def Keeps (cell : Value) : Allowed → Prop
  | values vs => cell ∈ vs
  | range r => r.contains cell = true ∧ r.IsExact

/-- What keeps a cell is not empty. -/
theorem Keeps.not_isEmpty {cell : Value} {a : Allowed} (h : a.Keeps cell) :
    a.isEmpty = false := by
  cases a with
  | values vs => exact List.isEmpty_eq_false_iff_exists_mem.2 ⟨cell, h⟩
  | range r => rfl

end Allowed

/-- Values that rows are placed by: not NULL, not JSON, neither doubles nor decimals. -/
def Value.isPlain : Value → Bool
  | null | json _ | real _ | numeric _ => false
  | _ => true

/-- A plain value is no double. -/
theorem Value.isReal_of_isPlain {v : Value} (h : v.isPlain = true) : v.isReal = false := by
  cases v <;> first | rfl | simp [isPlain] at h

/-- Only decimals and doubles equal anything but themselves. -/
theorem Value.equals_iff_of_isPlain {a b : Value} (h : b.isPlain = true) :
    a.equals b = true ↔ a = b := by
  cases b
  case null | json | real | numeric => simp [isPlain] at h
  all_goals cases a <;> simp [equals]

namespace Allowed

/-- What keeps a cell admits it. -/
theorem Keeps.admits {cell : Value} {a : Allowed} (hc : cell.isPlain = true) (h : a.Keeps cell) :
    a.admits cell = true := by
  cases a with
  | values vs => exact List.any_eq_true.2 ⟨cell, h, (Value.equals_iff_of_isPlain hc).2 rfl⟩
  | range r => exact h.1

/-- **What two restrictions keep, their meeting keeps.** -/
theorem Keeps.meet {cell : Value} {a b : Allowed} (hc : cell.isPlain = true) (ha : a.Keeps cell)
    (hb : b.Keeps cell) : (a.meet b).Keeps cell := by
  cases a with
  | values vs => exact List.mem_filter.2 ⟨ha, hb.admits hc⟩
  | range r =>
    cases b with
    | values ws => exact List.mem_filter.2 ⟨hb, ha.1⟩
    | range s =>
      have hv := Value.isReal_of_isPlain hc
      exact ⟨ValueRange.contains_intersect hv ha.2 hb.2 ha.1 hb.1, ha.2.intersect hb.2⟩

end Allowed

/-- A row as its table's strategies see it: a cell for every column name, in any case. -/
structure StoredRow where
  cell : String → Value
  cell_congr : ∀ {a b : String}, Text.sameName a b = true → cell a = cell b

/-- A restriction of one of the tables that keeps the row of its table, one row being given for
every table. -/
structure Restriction.Keeps (tables : List String) (rows : String → StoredRow) (r : Restriction) :
    Prop where
  table_mem : r.table ∈ tables
  isPlain : ((rows r.table).cell r.column).isPlain = true
  allowed : r.allowed.Keeps ((rows r.table).cell r.column)

namespace ShardingCondition

variable {tables : List String} {rows : String → StoredRow}

/-- A condition that keeps each row where it restricts it. -/
def Keeps (tables : List String) (rows : String → StoredRow) (c : ShardingCondition) : Prop :=
  ∀ r ∈ c.restrictions, r.Keeps tables rows

/-- A condition that keeps the rows can be satisfied. -/
theorem Keeps.not_isNever {c : ShardingCondition} (h : c.Keeps tables rows) :
    c.isNever = false := by
  rw [isNever, List.any_eq_false]
  exact fun r hr => by simp [(h r hr).allowed.not_isEmpty]

/-- Narrowing by what keeps the rows keeps them. -/
theorem keeps_restrictList {added : Restriction} {found : List Restriction}
    (ha : added.Keeps tables rows) (hf : ∀ r ∈ found, r.Keeps tables rows) :
    ∀ r ∈ restrictList added found, r.Keeps tables rows := by
  induction found with
  | nil => simpa [restrictList] using ha
  | cons r rest ih =>
    obtain ⟨hr, hrest⟩ := List.forall_mem_cons.1 hf
    rw [restrictList]
    split
    · rename_i hsame
      refine List.forall_mem_cons.2 ⟨⟨hr.table_mem, hr.isPlain, ?_⟩, hrest⟩
      refine hr.allowed.meet hr.isPlain ?_
      rw [hsame.1, hsame.2]
      exact ha.allowed
    · exact List.forall_mem_cons.2 ⟨hr, ih hrest⟩

/-- Narrowing by several restrictions that keep the rows, one after another, keeps them. -/
theorem keeps_foldl_restrictList {added found : List Restriction}
    (ha : ∀ r ∈ added, r.Keeps tables rows) (hf : ∀ r ∈ found, r.Keeps tables rows) :
    ∀ r ∈ added.foldl (fun found r => restrictList r found) found, r.Keeps tables rows := by
  induction added generalizing found with
  | nil => exact hf
  | cons a rest ih =>
    obtain ⟨ha, hrest⟩ := List.forall_mem_cons.1 ha
    exact ih hrest (keeps_restrictList ha hf)

end ShardingCondition

namespace Sharding

/-! ## What derivation ensures

From an operand up to a whole clause: each step of the derivation is given a contract, and its proof
chains the contracts of the steps inside. -/

variable {now : Moment} {parameters : List Value}

/-- A list of operands resolves to a list with every value of theirs. -/
theorem ensures_resolveList (column : String) (found : List Value) (operands : List Expression) :
    Ensures now (resolveList parameters column found operands) fun r => ∀ vs, r = some vs →
      (∀ e ∈ operands, (e.valueAt now parameters).isSome) ∧
      (∀ v ∈ found, v ∈ vs) ∧
      ∀ cell : Value, cell.isPlain = true → ∀ e ∈ operands,
        e.valueAt now parameters = some cell → cell ∈ vs := by
  induction operands generalizing found with
  | nil =>
    refine ensures_pure ?_
    rintro vs ⟨⟩
    exact ⟨by simp, fun v hv => hv, by simp⟩
  | cons operand rest ih =>
    refine (ensures_resolveOperand column operand).bind fun r hr => ?_
    cases r with
    | none => exact ensures_pure fun vs hvs => nomatch hvs
    | some v =>
      refine (ih _).mono fun r h vs hvs => ?_
      obtain ⟨hsome, hfound, hrest⟩ := h vs hvs
      refine ⟨List.forall_mem_cons.2 ⟨by simp [← hr], hsome⟩, fun w hw => hfound w ?_, ?_⟩
      · split
        · exact hw
        · exact List.mem_append_left _ hw
      · intro cell hc e he hcell
        obtain rfl | he := List.mem_cons.1 he
        · obtain rfl : v = cell := Option.some.inj (hr.trans hcell)
          refine hfound v ?_
          split
          · -- A value that equals an earlier one is left out of the list, and is that one if it is
            -- plain.
            rename_i hany
            obtain ⟨w, hw, heq⟩ := List.any_eq_true.1 hany
            exact (Value.equals_iff_of_isPlain hc).1 heq ▸ hw
          · exact List.mem_append_right _ List.mem_cons_self
        · exact hrest cell hc e he hcell

/-! ### What a comparison allows -/

/-- Every comparison but `<>` resolves its operand and allows what lies beyond it. -/
theorem allowedBy_compare {op : Comparison} (hop : op ≠ .notEqual) (column : String)
    (operand : Expression) : allowedBy parameters (.compare op column operand) = do
      return (← resolveOperand parameters column operand).bind (comparisonRange op) := by
  cases op with
  | notEqual => exact absurd rfl hop
  | _ => rfl

/-- **What a comparison demands of a cell, its range keeps.** -/
theorem keeps_of_comparisonRange {now : Moment} {op : Comparison} {column : String}
    {operand : Expression} {v cell : Value} {a : Allowed}
    (hv : operand.valueAt now parameters = some v) (hexact : v.isReal = false)
    (hp : (Predicate.compare op column operand).Demands now parameters cell)
    (ha : comparisonRange op v = some a) : a.Keeps cell := by
  cases op with
  | notEqual => cases ha
  | equal =>
    obtain rfl : Allowed.values [v] = a := Option.some.inj ha
    obtain rfl : v = cell := hp v hv
    exact List.mem_singleton.2 rfl
  | greater | greaterOrEqual | less | lessOrEqual =>
    obtain rfl := Option.some.inj ha
    refine ⟨hp v hv, ?_, ?_⟩ <;> rintro b ⟨⟩
    exact hexact

/-- **What a predicate allows keeps the cells that meet its demands.** -/
theorem ensures_allowedBy {p : Predicate} (hexact : p.IsExact now parameters) :
    Ensures now (allowedBy parameters p) fun r => ∀ a, r = some a → ∀ cell : Value,
      cell.isPlain = true → p.Demands now parameters cell → a.Keeps cell := by
  -- What allows everything keeps every cell.
  have hnone : Ensures now (pure none : Timed (Option Allowed)) fun r => ∀ a, r = some a →
      ∀ cell : Value, cell.isPlain = true → p.Demands now parameters cell →
        a.Keeps cell := ensures_pure fun a ha => nomatch ha
  cases p with
  | like column pattern => exact hnone
  | isNull column => exact hnone
  | isNotNull column => exact hnone
  | compare op column operand =>
    by_cases hop : op = .notEqual
    · subst hop
      exact hnone
    · rw [allowedBy_compare hop]
      refine (ensures_resolveOperand column operand).bind fun r hr => ensures_pure ?_
      intro a ha cell _ hp
      obtain ⟨v, rfl, ha⟩ := Option.bind_eq_some_iff.1 ha
      exact keeps_of_comparisonRange hr.symm (hexact operand List.mem_cons_self v hr.symm) hp ha
  | among column operands =>
    refine (ensures_resolveList column [] operands).bind fun r hr => ensures_pure ?_
    intro a ha cell hc hp
    obtain ⟨vs, hvs, rfl⟩ := Option.map_eq_some_iff.1 ha
    obtain ⟨hsome, -, hmem⟩ := hr vs hvs
    obtain ⟨e, he, hcell⟩ := hp hsome
    exact hmem cell hc e he hcell
  | between column low high =>
    refine (ensures_resolveOperand column low).bind fun l hl => ?_
    refine (ensures_resolveOperand column high).bind fun h hh => ensures_pure ?_
    intro a ha cell _ hp
    obtain ⟨x, hx, ha⟩ := Option.bind_eq_some_iff.1 ha
    obtain ⟨y, hy, rfl⟩ := Option.map_eq_some_iff.1 ha
    refine ⟨hp x y (hl ▸ hx) (hh ▸ hy), ?_, ?_⟩ <;> rintro b ⟨⟩
    · exact hexact low List.mem_cons_self x (hl ▸ hx)
    · exact hexact high (by simp [Predicate.operands]) y (hh ▸ hy)

/-- The rows meet a predicate's demands wherever it tests a sharding column of theirs; a column
without owner is one of every table that it shards. -/
def Meets (rule : ShardingRule) (tables : List String) (now : Moment) (parameters : List Value)
    (rows : String → StoredRow) (p : Predicate) : Prop :=
  ∀ o ∈ owningTables rule tables p.column, p.Demands now parameters ((rows o.1).cell o.2)

/-- Every sharding column of the tables has a plain value in its row. -/
def ArePlain (rule : ShardingRule) (tables : List String) (rows : String → StoredRow) : Prop :=
  ∀ t ∈ tables, ∀ column, rule.isShardingColumn column t = true →
    ((rows t).cell column).isPlain = true

/-- A column belongs to a table that has it as a sharding column, under its owner or any. -/
theorem mem_owningTables {rule : ShardingRule} {tables : List String} {column : String}
    {o : String × String} (h : o ∈ owningTables rule tables column) :
    o.1 ∈ tables ∧ rule.isShardingColumn o.2 o.1 = true := by
  obtain ⟨t, ht, rfl⟩ := List.mem_map.1 h
  obtain ⟨ht, hcol⟩ := List.mem_filter.1 ht
  exact ⟨(List.mem_filter.1 ht).1, hcol⟩

variable {rule : ShardingRule} {tables : List String} {rows : String → StoredRow}

/-- The restrictions of a predicate keep the rows that meet it. -/
theorem ensures_restrictionsOf {p : Predicate} (hplain : ArePlain rule tables rows)
    (hexact : p.IsExact now parameters) :
    Ensures now (restrictionsOf rule tables parameters p) fun added =>
      Meets rule tables now parameters rows p →
        ∀ r ∈ added, r.Keeps tables rows := by
  have hempty : Ensures now (pure [] : Timed (List Restriction)) fun added =>
      Meets rule tables now parameters rows p →
        ∀ r ∈ added, r.Keeps tables rows := ensures_pure fun _ => by simp
  rw [restrictionsOf]
  by_cases hr : restricts p = true
  · simp only [hr, if_true]
    split
    · exact hempty
    · refine (ensures_allowedBy hexact).bind fun r hr => ?_
      cases r with
      | none => exact hempty
      | some a =>
        refine ensures_pure fun hp r hmem => ?_
        obtain ⟨o, ho, rfl⟩ := List.mem_map.1 hmem
        obtain ⟨ht, hcol⟩ := mem_owningTables ho
        have hcell := hplain _ ht _ hcol
        exact ⟨ht, hcell, hr a rfl _ hcell (hp o ho)⟩
  · simp only [hr, Bool.false_eq_true, if_false, List.isEmpty_nil, if_true]
    exact hempty

/-- The restrictions of a group keep the rows that meet all its predicates. -/
theorem ensures_groupRestrictions {group : List Predicate} {found : List Restriction}
    (hplain : ArePlain rule tables rows)
    (hexact : ∀ p ∈ group, p.IsExact now parameters) :
    Ensures now (groupRestrictions rule tables parameters found group) fun all =>
      (∀ p ∈ group, Meets rule tables now parameters rows p) →
        (∀ r ∈ found, r.Keeps tables rows) → ∀ r ∈ all, r.Keeps tables rows := by
  induction group generalizing found with
  | nil => exact ensures_pure fun _ hfound => hfound
  | cons p rest ih =>
    obtain ⟨hpe, hre⟩ := List.forall_mem_cons.1 hexact
    refine (ensures_restrictionsOf hplain hpe).bind fun added hadded => ?_
    refine (ih hre).mono fun all hall hgroup hfound => ?_
    obtain ⟨hp, hrest⟩ := List.forall_mem_cons.1 hgroup
    exact hall hrest (ShardingCondition.keeps_foldl_restrictList (hadded hp) hfound)

/-- A group that the rows meet leaves a condition that keeps them. -/
theorem ensures_groupConditions {groups : List (List Predicate)}
    (hplain : ArePlain rule tables rows)
    (hexact : ∀ g ∈ groups, ∀ p ∈ g, p.IsExact now parameters) :
    Ensures now (groupConditions rule tables parameters groups) fun found =>
      ∀ cs, found = some cs → ∀ g ∈ groups,
        (∀ p ∈ g, Meets rule tables now parameters rows p) →
          ∃ c ∈ cs, c.Keeps tables rows := by
  induction groups with
  | nil => exact ensures_pure fun cs _ g hg => by simp at hg
  | cons group rest ih =>
    obtain ⟨hge, hre⟩ := List.forall_mem_cons.1 hexact
    refine (ensures_groupRestrictions hplain hge).bind fun restrictions hkeeps => ?_
    split
    · exact ensures_pure fun cs hcs => nomatch hcs
    · refine (ih hre).bind fun found hfound => ensures_pure fun cs hcs g hg hmeets => ?_
      obtain ⟨more, hmore, rfl⟩ := Option.map_eq_some_iff.1 hcs
      obtain rfl | hg := List.mem_cons.1 hg
      · exact ⟨_, List.mem_cons_self, hkeeps hmeets (by simp)⟩
      · obtain ⟨c, hc, hck⟩ := hfound more hmore g hg hmeets
        exact ⟨c, List.mem_cons_of_mem _ hc, hck⟩

/-- **A row that satisfies the WHERE clause is admitted by a condition of it**, unless the clause
leaves the statement unrestricted. -/
theorem ensures_whereConditions {condition : Option Condition} {truth : Predicate → Prop}
    (hplain : ArePlain rule tables rows)
    (hexact : ∀ c ∈ condition, ∀ p ∈ c.predicates,
      p.IsExact now parameters)
    (htruth : ∀ c ∈ condition, ∀ p ∈ c.predicates, truth p →
      Meets rule tables now parameters rows p)
    (hholds : ∀ c ∈ condition, c.Holds truth) :
    Ensures now (whereConditions rule tables parameters condition) fun cs =>
      cs = [] ∨ ∃ c ∈ cs, c.Keeps tables rows := by
  cases condition with
  | none => exact ensures_pure (Or.inl rfl)
  | some condition =>
    have hmem : ∀ g ∈ condition.andGroups, ∀ p ∈ g, p ∈ condition.predicates :=
      fun g hg p hp => Condition.mem_predicates_of_mem_andGroups hg hp
    obtain ⟨g, hg, hgt⟩ := Condition.holds_iff_andGroups.1 (hholds condition rfl)
    have hmeets : ∀ p ∈ g, Meets rule tables now parameters rows p :=
      fun p hp => htruth condition rfl p (hmem g hg p hp) (hgt p hp)
    refine (ensures_groupConditions hplain
      fun g hg p hp => hexact condition rfl p (hmem g hg p hp)).bind
      fun found hfound => ensures_pure ?_
    cases found with
    | none => exact Or.inl rfl
    | some cs => exact Or.inr (hfound cs rfl g hg hmeets)

end Sharding

end ScatterGather
