import ScatterGather.Proofs.Merge.SortKey

/-!
# Proofs/Merge/OneOrder — sorting and grouping use one order

Values other than doubles compare exactly if they are of one **family** (`Value.family?`): numbers
of every width and scale are one, so are texts whether padded or not, and so are days and instants.
Within a family the order is antisymmetric and transitive.

The rows of a merge inherit it.  Whatever the directions, the places of NULLs and the case of texts,
the order of rows is a total preorder, and the rows that tie under it are those whose group keys are
equal (`order?_and_compareRows_consistent`): what sorting leaves side by side is what grouping puts
together.
-/

namespace ScatterGather

/-! ## Families

A family is a set of values on which the order is total.  Between families there is no order, so
transitivity never has to lead from one to another. -/

/-- The families of values that compare: those on one scale, texts, and strings of bytes. -/
inductive Family where
  | scale (s : Scale)
  | text
  | bytes
  deriving DecidableEq

/-- The family of a rank. -/
def Rank.family : Rank → Family
  | point s _ => .scale s
  | text _ => .text
  | bytes _ => .bytes

/-- Ranks compare within a family. -/
theorem Rank.isSome_order?_iff {x y : Rank} : (x.order? y).isSome ↔ x.family = y.family := by
  cases x <;> cases y
  case point.point s m t n => by_cases h : s = t <;> simp [order?, family, h]
  all_goals simp [order?, family]

namespace Value

/-- The family of a value; doubles and JSON have none. -/
def family? : Value → Option Family
  | null => some (.scale .null)
  | smallInt _ | integer _ | numeric _ => some (.scale .number)
  | text _ | char _ => some .text
  | boolean _ => some (.scale .boolean)
  | date _ | timestamp _ => some (.scale .instant)
  | timestampTz _ => some (.scale .zoned)
  | uuid _ => some (.scale .uuid)
  | bytea _ => some .bytes
  | real _ | json _ => none

/-- The family of a value is that of its rank. -/
theorem family?_eq (v : Value) : v.family? = v.rank?.map Rank.family := by
  cases v <;> rfl

variable {a b : Value}

/-- **Values compare exactly within a family.** -/
theorem isSome_order?_iff (ha : a.isReal = false) (hb : b.isReal = false) :
    (a.order? b).isSome ↔ ∃ f, a.family? = some f ∧ b.family? = some f := by
  rw [order?_eq ha hb, family?_eq, family?_eq]
  cases a.rank? with
  | none => simp
  | some x =>
    cases b.rank? with
    | none => simp
    | some y =>
      simp only [Option.bind_some, Option.map_some, Option.some.injEq, Rank.isSome_order?_iff]
      exact ⟨fun h => ⟨_, h, rfl⟩, fun ⟨_, hx, hy⟩ => hx.trans hy.symm⟩

end Value

/-! ## Rows

A row is compared key by key, and each key looks at cells of one column.  Rows tie where all of
their cells do, which is how group keys are compared. -/

variable {types : Nat → Variant} {keys : List SortKey} {x y : Row}

/-- **Rows tie exactly if their group keys are equal.** -/
theorem compareRows_eq_eq_iff_equalsAll (hexact : ∀ k ∈ keys, (types k.index).IsExact)
    (hx : Row.HasVariants types keys x) (hy : Row.HasVariants types keys y) :
    compareRows keys x y = .eq ↔ Value.equalsAll (groupKey keys x) (groupKey keys y) = true := by
  rw [compareRows_eq_eq_iff hexact hx hy]
  exact (equalsAll_groupKey_iff (hx.hasNoDoubles hexact) (hy.hasNoDoubles hexact)).symm

/-- **Sorting and grouping use one order.**  Values other than doubles compare within a family,
antisymmetrically and transitively across its types; and where the cells in the column of each key
are NULL or of one type with an order, rows are totally preordered, and tie exactly if their group
keys are equal. -/
theorem order?_and_compareRows_consistent {a b c : Value} (ha : a.isReal = false)
    (hb : b.isReal = false) (hc : c.isReal = false)
    (hexact : ∀ k ∈ keys, (types k.index).IsExact)
    (hx : Row.HasVariants types keys x) (hy : Row.HasVariants types keys y) :
    ((a.order? b).isSome ↔ ∃ f, a.family? = some f ∧ b.family? = some f) ∧
      b.order? a = (a.order? b).map Ordering.swap ∧
      (∀ o p, a.order? b = some o → b.order? c = some p → o.isLE → p.isLE →
        a.order? c = some (o.then p)) ∧
      PreorderOn (compareRows keys) (Row.HasVariants types keys) ∧
      (compareRows keys x y = .eq ↔
        Value.equalsAll (groupKey keys x) (groupKey keys y) = true) := by
  refine ⟨Value.isSome_order?_iff ha hb, Value.order?_swap ha hb, ?_,
    preorderOn_compareRows hexact, compareRows_eq_eq_iff_equalsAll hexact hx hy⟩
  intro o p hab hbc ho hp
  exact Value.order?_trans ha hb hc hab hbc (Ordering.isLE_iff_eq_lt_or_eq_eq.1 ho)
    (Ordering.isLE_iff_eq_lt_or_eq_eq.1 hp)

/-- A numeric column and one of texts. -/
def amountThenName (index : Nat) : Variant := if index = 0 then .numeric else .text

/-- By amount, greatest first, then by name whatever its case. -/
def byAmountThenName : List SortKey := [⟨0, .desc, .low, true⟩, ⟨1, .asc, .high, false⟩]

/-- The integer 3 compares with 3.00, and that with 7, so 3 comes before 7; rows that write one
amount and one name in two ways tie and are of one group. -/
theorem order?_and_compareRows_consistent_amounts :
    (∀ k ∈ byAmountThenName, (amountThenName k.index).IsExact) ∧
      Row.HasVariants amountThenName byAmountThenName
        [.numeric ⟨false, 10, 1, by decide, by decide⟩, .text "Ab"] ∧
      Row.HasVariants amountThenName byAmountThenName
        [.numeric ⟨false, 100, 2, by decide, by decide⟩, .text "aB"] ∧
      (Value.smallInt 3).order? (.integer 7) = some .lt ∧
      compareRows byAmountThenName [.numeric ⟨false, 10, 1, by decide, by decide⟩, .text "Ab"]
        [.numeric ⟨false, 100, 2, by decide, by decide⟩, .text "aB"] = .eq := by
  have hexact : ∀ k ∈ byAmountThenName, (amountThenName k.index).IsExact := by decide
  have hrow : ∀ d s, Row.HasVariants amountThenName byAmountThenName [.numeric d, .text s] := by
    simp [Row.HasVariants, byAmountThenName, Value.HasVariant, amountThenName, cellAt,
      Value.variant?]
  have hx := hrow ⟨false, 10, 1, by decide, by decide⟩ "Ab"
  have hy := hrow ⟨false, 100, 2, by decide, by decide⟩ "aB"
  obtain ⟨-, -, htrans, -, htie⟩ := order?_and_compareRows_consistent (a := .smallInt 3)
    (b := .numeric ⟨false, 300, 2, by decide, by decide⟩) (c := .integer 7) rfl rfl rfl hexact hx hy
  exact ⟨hexact, hx, hy, htrans .eq .lt (by decide) (by decide) rfl rfl, htie.2 (by decide +kernel)⟩

end ScatterGather
