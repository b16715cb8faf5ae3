import ScatterGather.Merge.SortKey
import ScatterGather.Proofs.Value.Variant

/-!
# Proofs/Merge/SortKey — sorting and grouping use one order

Whatever the directions, the places of NULLs and the case of texts, `compareRows` is a total
preorder of rows whose cells compare with each other column by column
(`preorderOn_compareRows_of_areComparable`).

Where the cells of every key's column are NULL or of one exact type (`Row.HasVariants`):

* `compareRows` is a total preorder (`preorderOn_compareRows`);
* rows tie under it exactly if they belong to one group (`compareRows_eq_eq_iff`).

Groups are told apart by an **identity** (`groupId`): the group key as a hash table sees it.
-/

namespace ScatterGather

/-! ## Cells of a column

A key compares cells in four steps: NULLs, case, types, direction.  Each step keeps a preorder a
preorder, so none has to be looked at together with the others. -/

/-- A cell of a column of that type, which may be NULL. -/
def Value.HasVariant (t : Variant) (v : Value) : Prop := ∀ u ∈ v.variant?, u = t

namespace Value

variable {v a b : Value} {t : Variant}

/-- A cell that is not NULL has the type of its column. -/
theorem variant?_of_not_isNull (h : v.HasVariant t) (hv : v.isNull = false) :
    v.variant? = some t := by
  cases hu : v.variant? with
  | none => cases v <;> simp [isNull, variant?] at hv hu
  | some u => exact congrArg some (h u hu)

theorem eq_null_of_isNull (hv : v.isNull = true) : v = null := by
  cases v <;> first | rfl | exact nomatch hv

/-- A column of another type holds no doubles. -/
theorem isReal_of_hasVariant (h : v.HasVariant t) (ht : t.IsExact) : v.isReal = false := by
  cases hv : v.isNull with
  | true => rw [eq_null_of_isNull hv]; rfl
  | false => exact isReal_of_variant? (variant?_of_not_isNull h hv) ht

@[simp] theorem variant?_foldCase (v : Value) : v.foldCase.variant? = v.variant? := by
  cases v <;> rfl

@[simp] theorem isNull_foldCase (v : Value) : v.foldCase.isNull = v.isNull := by
  cases v <;> rfl

@[simp] theorem isReal_foldCase (v : Value) : v.foldCase.isReal = v.isReal := by
  cases v <;> rfl

/-- Lower case changes nothing about which values compare. -/
theorem isSome_order?_foldCase (a b : Value) :
    (a.foldCase.order? b.foldCase).isSome = (a.order? b).isSome := by
  cases a <;> cases b
  case text.text | text.char | char.text | char.char =>
    simp only [foldCase, order?, text?, Option.isSome_some]
  all_goals rfl

/-- Comparing without case is comparing in lower case. -/
theorem orderFolded?_eq (a b : Value) : a.orderFolded? b = a.foldCase.order? b.foldCase := by
  cases a <;> cases b <;> rfl

/-- Cells that can be sorted together: no doubles, and any two that differ compare, NULLs aside. -/
structure AreComparable (cells : List Value) : Prop where
  real : ∀ a ∈ cells, a.isReal = false
  order : ∀ a ∈ cells, ∀ b ∈ cells, a.isNull = false → b.isNull = false → a ≠ b →
    (a.order? b).isSome

end Value

namespace SortKey

variable {k : SortKey} {t : Variant} {a b : Value}

/-- The cell as the key sees it. -/
def folded (k : SortKey) (v : Value) : Value := if k.caseSensitive then v else v.foldCase

@[simp] theorem variant?_folded (k : SortKey) (v : Value) : (k.folded v).variant? = v.variant? := by
  rw [folded]
  split
  · rfl
  · exact v.variant?_foldCase

@[simp] theorem isNull_folded (k : SortKey) (v : Value) : (k.folded v).isNull = v.isNull := by
  rw [folded]
  split
  · rfl
  · exact v.isNull_foldCase

@[simp] theorem isReal_folded (k : SortKey) (v : Value) : (k.folded v).isReal = v.isReal := by
  rw [folded]
  split
  · rfl
  · exact v.isReal_foldCase

/-- Cells that compare also do so as the key sees them. -/
theorem exists_order?_folded (h : (a.order? b).isSome) :
    ∃ o, (k.folded a).order? (k.folded b) = some o := by
  rw [folded, folded]
  split
  · exact Option.isSome_iff_exists.1 h
  · exact Option.isSome_iff_exists.1 (Value.isSome_order?_foldCase a b ▸ h)

/-- The order of cells as the key sees them, ascending. -/
def orderCells (k : SortKey) (a b : Value) : Ordering := ((k.folded a).order? (k.folded b)).getD .eq

/-- Cells compare as the key sees them, in its direction. -/
theorem compareCells_eq (k : SortKey) (a b : Value) : k.compareCells a b =
    match k.direction with
    | .asc => k.orderCells a b
    | .desc => (k.orderCells a b).swap := by
  have hfold : (if k.caseSensitive then a.order? b else a.orderFolded? b) =
      (k.folded a).order? (k.folded b) := by
    rw [folded, folded]
    split
    · rfl
    · exact Value.orderFolded?_eq a b
  rw [compareCells, hfold]
  cases k.direction <;> rfl

/-- Cells of one exact type are in order. -/
theorem preorderOn_orderCells (ht : t.IsExact) :
    PreorderOn k.orderCells fun v => v.variant? = some t where
  swap {a b} ha hb := by
    rw [← variant?_folded k] at ha hb
    rw [orderCells, orderCells, Value.order?_swap (Value.isReal_of_variant? ha ht)
      (Value.isReal_of_variant? hb ht)]
    cases (k.folded a).order? (k.folded b) <;> rfl
  trans {a b c} ha hb hc hab hbc := by
    rw [← variant?_folded k] at ha hb hc
    obtain ⟨o, ho⟩ := Value.exists_order?_eq ha hb ht
    obtain ⟨p, hp⟩ := Value.exists_order?_eq hb hc ht
    rw [orderCells, ho] at hab
    rw [orderCells, hp] at hbc
    obtain ⟨q, hq, hle⟩ := Value.isLE_order?_trans (Value.isReal_of_variant? ha ht)
      (Value.isReal_of_variant? hb ht) (Value.isReal_of_variant? hc ht) ho hp hab hbc
    rw [orderCells, hq]
    exact hle

/-- Cells that compare with each other are in a preorder. -/
theorem preorderOn_orderCells_of_areComparable {cells : List Value}
    (h : Value.AreComparable cells) :
    PreorderOn k.orderCells fun v => v ∈ cells ∧ v.isNull = false where
  swap {a b} ha hb := by
    rw [orderCells, orderCells, Value.order?_swap (k.isReal_folded a ▸ h.real a ha.1)
      (k.isReal_folded b ▸ h.real b hb.1)]
    cases (k.folded a).order? (k.folded b) <;> rfl
  trans {a b c} ha hb hc hab hbc := by
    -- cells that are the same need not compare: JSON does not
    rcases Decidable.em (a = b) with rfl | hne
    · exact hbc
    rcases Decidable.em (b = c) with rfl | hne'
    · exact hab
    obtain ⟨o, ho⟩ := exists_order?_folded (h.order a ha.1 b hb.1 ha.2 hb.2 hne)
    obtain ⟨p, hp⟩ := exists_order?_folded (h.order b hb.1 c hc.1 hb.2 hc.2 hne')
    rw [orderCells, ho] at hab
    rw [orderCells, hp] at hbc
    obtain ⟨q, hq, hle⟩ := Value.isLE_order?_trans (k.isReal_folded a ▸ h.real a ha.1)
      (k.isReal_folded b ▸ h.real b hb.1) (k.isReal_folded c ▸ h.real c hc.1) ho hp hab hbc
    rw [orderCells, hq]
    exact hle

/-- Whatever orders cells ascending orders them in the direction of the key. -/
theorem preorderOn_compareCells_of {P : Value → Prop} (h : PreorderOn k.orderCells P) :
    PreorderOn k.compareCells P := by
  cases hdir : k.direction with
  | asc =>
    have heq : k.compareCells = k.orderCells := by
      funext a b
      rw [compareCells_eq, hdir]
    exact heq ▸ h
  | desc =>
    have heq : k.compareCells = fun a b => (k.orderCells a b).swap := by
      funext a b
      rw [compareCells_eq, hdir]
    exact heq ▸ h.reverse

theorem compare_of_not_isNull (ha : a.isNull = false) (hb : b.isNull = false) :
    k.compare a b = k.compareCells a b := by
  rw [compare, ha, hb]

/-- **A key that orders cells other than NULL orders all**, NULLs at one end. -/
theorem preorderOn_compare_of {P : Value → Prop}
    (h : PreorderOn k.orderCells fun v => P v ∧ v.isNull = false) : PreorderOn k.compare P where
  swap {a b} ha hb := by
    cases hna : a.isNull <;> cases hnb : b.isNull
    · rw [compare_of_not_isNull hna hnb, compare_of_not_isNull hnb hna]
      exact (preorderOn_compareCells_of h).swap ⟨ha, hna⟩ ⟨hb, hnb⟩
    all_goals
      rw [compare, compare, hna, hnb]
      cases k.nullsFirst <;> rfl
  trans {a b c} ha hb hc hab hbc := by
    cases hna : a.isNull <;> cases hnb : b.isNull <;> cases hnc : c.isNull
    · rw [compare_of_not_isNull hna hnb] at hab
      rw [compare_of_not_isNull hnb hnc] at hbc
      rw [compare_of_not_isNull hna hnc]
      exact (preorderOn_compareCells_of h).trans ⟨ha, hna⟩ ⟨hb, hnb⟩ ⟨hc, hnc⟩ hab hbc
    -- a NULL on one side decides, and NULLs do not lie at both ends
    all_goals
      rw [compare, hna, hnb] at hab
      rw [compare, hnb, hnc] at hbc
      rw [compare, hna, hnc]
      cases hk : k.nullsFirst <;> rw [hk] at hab hbc <;>
        first
        | rfl
        | exact absurd hab Bool.false_ne_true
        | exact absurd hbc Bool.false_ne_true

/-- **A key orders the cells of its column** where they are of one exact type. -/
theorem preorderOn_compare (ht : t.IsExact) : PreorderOn k.compare (Value.HasVariant t) :=
  preorderOn_compare_of ((preorderOn_orderCells ht).comap id fun _ hv =>
    Value.variant?_of_not_isNull hv.1 hv.2)

/-- **A key orders cells that compare with each other**, whatever their types. -/
theorem preorderOn_compare_of_areComparable {cells : List Value} (h : Value.AreComparable cells) :
    PreorderOn k.compare (· ∈ cells) :=
  preorderOn_compare_of (preorderOn_orderCells_of_areComparable h)

/-- Cells of one exact type tie only if the key sees them as one. -/
theorem orderCells_eq_eq_iff (ha : a.variant? = some t) (hb : b.variant? = some t)
    (ht : t.IsExact) : k.orderCells a b = .eq ↔ (k.folded a).key = (k.folded b).key := by
  rw [← variant?_folded k] at ha hb
  obtain ⟨o, ho⟩ := Value.exists_order?_eq ha hb ht
  rw [← Value.order?_eq_eq_iff ha hb ht, orderCells, ho, Option.getD_some, Option.some.injEq]

theorem compareCells_eq_eq_iff : k.compareCells a b = .eq ↔ k.orderCells a b = .eq := by
  rw [compareCells_eq]
  cases k.direction
  · rfl
  · exact Ordering.swap_eq_eq

/-- **Cells tie exactly if they are one key of a hash table.** -/
theorem compare_eq_eq_iff (ha : a.HasVariant t) (hb : b.HasVariant t) (ht : t.IsExact) :
    k.compare a b = .eq ↔ (k.folded a).key = (k.folded b).key := by
  have hnull : (k.folded a).key = (k.folded b).key → a.isNull = b.isNull := fun h => by
    rw [← isNull_folded k a, ← isNull_folded k b, ← Value.isNull_key, h, Value.isNull_key]
  cases hna : a.isNull <;> cases hnb : b.isNull
  · rw [compare_of_not_isNull hna hnb, compareCells_eq_eq_iff]
    exact orderCells_eq_eq_iff (Value.variant?_of_not_isNull ha hna)
      (Value.variant?_of_not_isNull hb hnb) ht
  · refine iff_of_false (fun h => ?_) fun h => ?_
    · rw [compare, hna, hnb] at h
      cases hk : k.nullsFirst <;> simp [hk] at h
    · exact nomatch hna.symm.trans ((hnull h).trans hnb)
  · refine iff_of_false (fun h => ?_) fun h => ?_
    · rw [compare, hna, hnb] at h
      cases hk : k.nullsFirst <;> simp [hk] at h
    · exact nomatch hna.symm.trans ((hnull h).trans hnb)
  · rw [compare, hna, hnb, Value.eq_null_of_isNull hna, Value.eq_null_of_isNull hnb]
    exact iff_of_true rfl rfl

end SortKey

/-! ## Rows

Rows are compared key by key up to the first difference. -/

/-- The cells of the row in the columns of the keys have the types of their columns. -/
def Row.HasVariants (types : Nat → Variant) (keys : List SortKey) (row : Row) : Prop :=
  ∀ k ∈ keys, (cellAt row k.index).HasVariant (types k.index)

/-- No cell of the row in the columns of the keys is a double. -/
def Row.HasNoDoubles (keys : List SortKey) (row : Row) : Prop :=
  ∀ k ∈ keys, (cellAt row k.index).isReal = false

/-- What tells the row's group from others: its group key as a hash table sees it. -/
def groupId (keys : List SortKey) (row : Row) : List Value := (groupKey keys row).map Value.key

variable {types : Nat → Variant} {keys : List SortKey} {a b : Row}

theorem groupKey_eq (keys : List SortKey) (row : Row) :
    groupKey keys row = keys.map fun k => k.folded (cellAt row k.index) := rfl

/-- Rows have one identity if their cells are the same to each key. -/
theorem groupId_eq_iff : groupId keys a = groupId keys b ↔
    ∀ k ∈ keys, (k.folded (cellAt a k.index)).key = (k.folded (cellAt b k.index)).key := by
  rw [groupId, groupId, groupKey_eq, groupKey_eq, List.map_map, List.map_map]
  exact List.map_inj_left

/-- Keys that look at one column with the same case see the same. -/
theorem folded_eq_of_groupId {k k' : SortKey} (hk' : k' ∈ keys) (hindex : k'.index = k.index)
    (hcase : k'.caseSensitive = k.caseSensitive) (hid : groupId keys a = groupId keys b) :
    (k.folded (cellAt a k.index)).key = (k.folded (cellAt b k.index)).key := by
  have hfolded : ∀ v, k'.folded v = k.folded v := fun v => by
    rw [SortKey.folded, SortKey.folded, hcase]
  have hcells := groupId_eq_iff.1 hid k' hk'
  rwa [hindex, hfolded, hfolded] at hcells

theorem compareRows_cons (k : SortKey) (keys : List SortKey) (a b : Row) :
    compareRows (k :: keys) a b =
      (k.compare (cellAt a k.index) (cellAt b k.index)).then (compareRows keys a b) := rfl

/-- **Rows compare by a preorder** where each key orders the cells of its column. -/
theorem preorderOn_compareRows_of {P : Row → Prop} (h : ∀ k ∈ keys,
    PreorderOn (fun a b => k.compare (cellAt a k.index) (cellAt b k.index)) P) :
    PreorderOn (compareRows keys) P := by
  induction keys with
  | nil => exact .const
  | cons k keys ih =>
    obtain ⟨hk, hkeys⟩ := List.forall_mem_cons.1 h
    exact hk.andThen (ih hkeys)

/-- Rows compare by a preorder where the cells of each column are of one exact type. -/
theorem preorderOn_compareRows (hexact : ∀ k ∈ keys, (types k.index).IsExact) :
    PreorderOn (compareRows keys) (Row.HasVariants types keys) :=
  preorderOn_compareRows_of fun k hk =>
    (SortKey.preorderOn_compare (hexact k hk)).comap (cellAt · k.index) fun _ h => h k hk

/-- **Rows whose cells compare column by column compare by a preorder.** -/
theorem preorderOn_compareRows_of_areComparable {rows : List Row}
    (h : ∀ k ∈ keys, Value.AreComparable (rows.map (cellAt · k.index))) :
    PreorderOn (compareRows keys) (· ∈ rows) :=
  preorderOn_compareRows_of fun k hk =>
    (SortKey.preorderOn_compare_of_areComparable (h k hk)).comap (cellAt · k.index)
      fun _ hrow => List.mem_map_of_mem hrow

/-- **Rows tie exactly if they are of one group.** -/
theorem compareRows_eq_eq_iff (hexact : ∀ k ∈ keys, (types k.index).IsExact)
    (ha : Row.HasVariants types keys a) (hb : Row.HasVariants types keys b) :
    compareRows keys a b = .eq ↔ groupId keys a = groupId keys b := by
  induction keys with
  | nil => exact iff_of_true rfl rfl
  | cons k keys ih =>
    obtain ⟨hk, hkeys⟩ := List.forall_mem_cons.1 hexact
    obtain ⟨hak, ha⟩ := List.forall_mem_cons.1 ha
    obtain ⟨hbk, hb⟩ := List.forall_mem_cons.1 hb
    rw [compareRows_cons, Ordering.then_eq_eq, SortKey.compare_eq_eq_iff hak hbk hk, ih hkeys ha hb]
    exact List.cons_eq_cons.symm

/-- A hash table tells group keys apart cell by cell. -/
theorem sameKeys_groupKey (keys : List SortKey) (a b : Row) :
    Value.sameKeys (groupKey keys a) (groupKey keys b) = true ↔ ∀ k ∈ keys,
      (k.folded (cellAt a k.index)).sameKey (k.folded (cellAt b k.index)) = true := by
  rw [groupKey_eq, groupKey_eq]
  induction keys with
  | nil => simp [Value.sameKeys]
  | cons k keys ih =>
    rw [List.map_cons, List.map_cons, Value.sameKeys, Bool.and_eq_true, ih, List.forall_mem_cons]

/-- Group keys are equal cell by cell, as the keys see the cells. -/
theorem equalsAll_groupKey (keys : List SortKey) (a b : Row) :
    Value.equalsAll (groupKey keys a) (groupKey keys b) = true ↔ ∀ k ∈ keys,
      (k.folded (cellAt a k.index)).equals (k.folded (cellAt b k.index)) = true := by
  rw [groupKey_eq, groupKey_eq]
  induction keys with
  | nil => simp [Value.equalsAll]
  | cons k keys ih =>
    rw [List.map_cons, List.map_cons, Value.equalsAll, Bool.and_eq_true, ih, List.forall_mem_cons]

/-- **Group keys without doubles are equal exactly if they have one identity.** -/
theorem equalsAll_groupKey_iff (ha : Row.HasNoDoubles keys a) (hb : Row.HasNoDoubles keys b) :
    Value.equalsAll (groupKey keys a) (groupKey keys b) = true ↔
      groupId keys a = groupId keys b := by
  rw [equalsAll_groupKey, groupId_eq_iff]
  exact forall₂_congr fun k hk => Value.equals_iff ((k.isReal_folded _).trans (ha k hk))
    ((k.isReal_folded _).trans (hb k hk))

theorem Row.HasVariants.hasNoDoubles (ha : Row.HasVariants types keys a)
    (hexact : ∀ k ∈ keys, (types k.index).IsExact) : Row.HasNoDoubles keys a :=
  fun k hk => Value.isReal_of_hasVariant (ha k hk) (hexact k hk)

end ScatterGather
