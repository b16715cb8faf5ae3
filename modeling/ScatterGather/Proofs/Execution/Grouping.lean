import Mathlib.Algebra.Order.Floor.Div
import Mathlib.Data.List.Nodup
import ScatterGather.Execution.Grouping
import ScatterGather.Proofs.Sharding.Target

/-!
# Proofs/Execution/Grouping — every unit runs once, on few enough connections

The groups of a data source are its units cut into batches (`filter_groups`).  A batch has at most
the ceiling of units per connection, and as many batches as connections hold all of them
(`length_chunks_le`), so **grouping loses no unit and keeps to the limit**
(`prepare_spreadsUnits`).
-/

namespace ScatterGather

/-- How units should be spread over groups when a statement may hold so many connections on each
data source. -/
structure SpreadsUnits (maxConnections : Nat) (units : List ExecutionUnit)
    (groups : List ExecutionGroup) : Prop where
  /-- The groups of a data source stand together, data sources in the order in which they appear
  among the units. -/
  inOrder : groups = (units.map (·.dataSource)).eraseDups.flatMap fun ds =>
    groups.filter (·.dataSource = ds)
  /-- The groups of a data source run its units in their order. -/
  units_eq : ∀ ds, (groups.filter (·.dataSource = ds)).flatMap (·.units) =
    units.filter (·.dataSource = ds)
  length_le : ∀ ds, (groups.filter (·.dataSource = ds)).length ≤ maxConnections
  nonempty : ∀ g ∈ groups, g.units ≠ []
  size_le : ∀ g ∈ groups,
    g.units.length ≤ (units.filter (·.dataSource = g.dataSource)).length ⌈/⌉ maxConnections
  /-- Units share connections exactly where there are more of them. -/
  mode_iff : ∀ g ∈ groups, g.mode = .connectionStrictly ↔
    maxConnections < (units.filter (·.dataSource = g.dataSource)).length
  /-- Where they do not, each runs alone. -/
  single : ∀ g ∈ groups, (units.filter (·.dataSource = g.dataSource)).length ≤ maxConnections →
    g.units.length = 1

namespace Grouping

/-! ## Batches

A list is cut into batches of one size, the last one as long as what is left.  Batches of the
ceiling of units per connection are never more than the connections. -/

section Chunks

variable {α : Type} {size count : Nat} {items batch : List α}

/-- Batches joined are the list. -/
theorem flatten_chunks (size : Nat) (items : List α) : (chunks size items).flatten = items := by
  fun_induction chunks size items with
  | case1 => rfl
  | case2 a rest ih => rw [List.flatten_cons, ih, List.cons_append, List.take_append_drop]

/-- A batch has an item, and no more than its size. -/
theorem length_of_mem_chunks (h : batch ∈ chunks size items) :
    0 < batch.length ∧ batch.length ≤ size + 1 := by
  fun_induction chunks size items with
  | case1 => exact nomatch h
  | case2 a rest ih =>
    obtain rfl | h := List.mem_cons.1 h
    · simp
    · exact ih h

/-- **There are no more batches than it takes.** -/
theorem length_chunks_le (h : items.length ≤ (size + 1) * count) :
    (chunks size items).length ≤ count := by
  fun_induction chunks size items generalizing count with
  | case1 => exact Nat.zero_le count
  | case2 a rest ih =>
    cases count with
    | zero => simp at h
    | succ count =>
      rw [List.length_cons, Nat.mul_succ] at h
      exact Nat.succ_le_succ (ih (by rw [List.length_drop]; omega))

end Chunks

variable {maxConnections : Nat} {ds : String} {units : List ExecutionUnit} {g : ExecutionGroup}

/-- A batch takes the ceiling of units per connection. -/
theorem batchSize_eq {count : Nat} (hmax : 0 < maxConnections) (hcount : 0 < count) :
    batchSize maxConnections count = count ⌈/⌉ maxConnections := by
  have hpos : 0 < count ⌈/⌉ maxConnections := by
    by_contra hzero
    have hle := (ceilDiv_le_iff_le_mul hmax).1 (Nat.le_of_not_gt hzero)
    omega
  rw [batchSize, ← Nat.ceilDiv_eq_add_pred_div]
  exact Nat.max_eq_right hpos

/-! ## The groups of one data source

On one data source a group is a batch of its units, and its mode says whether connections have to be
shared. -/

/-- The groups of one data source run all of its units in their order. -/
theorem flatMap_units_groupsOn (maxConnections : Nat) (ds : String) (units : List ExecutionUnit) :
    (groupsOn maxConnections ds units).flatMap (·.units) = units := by
  rw [groupsOn, List.flatMap_map]
  exact List.flatMap_id'.trans (flatten_chunks _ units)

/-- What the groups of one data source have in common: its name, the mode, and a batch of its units.
-/
theorem mem_groupsOn (h : g ∈ groupsOn maxConnections ds units) :
    g.dataSource = ds ∧ (g.mode = .connectionStrictly ↔ maxConnections < units.length) ∧
      g.units ∈ chunks (batchSize maxConnections units.length - 1) units := by
  obtain ⟨batch, hbatch, rfl⟩ := List.mem_map.1 h
  refine ⟨rfl, ?_, hbatch⟩
  by_cases hmax : maxConnections < units.length <;> simp [hmax]

/-- **A data source gets no more groups than connections.** -/
theorem length_groupsOn_le (hmax : 0 < maxConnections) (ds : String) (units : List ExecutionUnit) :
    (groupsOn maxConnections ds units).length ≤ maxConnections := by
  rw [groupsOn, List.length_map]
  refine length_chunks_le ?_
  have hle : units.length ≤ maxConnections * (units.length ⌈/⌉ maxConnections) :=
    (ceilDiv_le_iff_le_mul hmax).1 le_rfl
  have hsize : units.length ⌈/⌉ maxConnections ≤ batchSize maxConnections units.length :=
    Nat.le_max_right 1 _
  have hpos : 0 < batchSize maxConnections units.length := Nat.le_max_left 1 _
  calc units.length ≤ maxConnections * (units.length ⌈/⌉ maxConnections) := hle
    _ ≤ maxConnections * batchSize maxConnections units.length := Nat.mul_le_mul_left _ hsize
    _ = (batchSize maxConnections units.length - 1 + 1) * maxConnections := by
      rw [Nat.sub_add_cancel hpos, Nat.mul_comm]

/-- **A group has a unit, and at most the ceiling of units per connection.** -/
theorem length_units_of_mem_groupsOn (hmax : 0 < maxConnections)
    (h : g ∈ groupsOn maxConnections ds units) :
    0 < g.units.length ∧ g.units.length ≤ units.length ⌈/⌉ maxConnections := by
  obtain ⟨-, -, hbatch⟩ := mem_groupsOn h
  obtain ⟨hpos, hle⟩ := length_of_mem_chunks hbatch
  have hcount : 0 < units.length := by
    refine List.length_pos_iff.2 ?_
    rintro rfl
    simp [chunks] at hbatch
  have hsize : 0 < batchSize maxConnections units.length := Nat.le_max_left 1 _
  rw [Nat.sub_add_cancel hsize, batchSize_eq hmax hcount] at hle
  exact ⟨hpos, hle⟩

/-! ## The groups of all data sources

Data sources are grouped one after another.  Their names are distinct and a group carries the name
of its own, so that filtering by a name gives back what was made for it. -/

/-- Of distinct items, only the one that is asked for contributes. -/
theorem flatMap_ite_of_nodup {α β : Type} [DecidableEq α] {l : List α} {a : α} (f : α → List β)
    (h : l.Nodup) : (l.flatMap fun b => if b = a then f b else []) = if a ∈ l then f a else [] := by
  induction l with
  | nil => simp
  | cons b l ih =>
    obtain ⟨hb, hl⟩ := List.nodup_cons.1 h
    rw [List.flatMap_cons, ih hl]
    by_cases hba : b = a
    · subst hba
      simp [hb]
    · simp [hba, Ne.symm hba]

/-- No group of a data source is another's. -/
theorem filter_groupsOn (maxConnections : Nat) (other ds : String) (units : List ExecutionUnit) :
    (groupsOn maxConnections other units).filter (·.dataSource = ds) =
      if other = ds then groupsOn maxConnections other units else [] := by
  split
  · next heq =>
    exact List.filter_eq_self.2 fun g hg => decide_eq_true ((mem_groupsOn hg).1.trans heq)
  · next hne =>
    refine List.filter_eq_nil_iff.2 fun g hg => ?_
    rw [(mem_groupsOn hg).1, decide_eq_true_iff]
    exact hne

/-- **The groups of a data source are its units cut into batches.** -/
theorem filter_groups (maxConnections : Nat) (units : List ExecutionUnit) (ds : String) :
    (groups maxConnections units).filter (·.dataSource = ds) =
      groupsOn maxConnections ds (units.filter (·.dataSource = ds)) := by
  rw [groups, List.filter_flatMap]
  simp only [filter_groupsOn]
  rw [flatMap_ite_of_nodup _ (Sharding.nodup_distinct _)]
  split
  · rfl
  · next hnone =>
    have hempty : units.filter (·.dataSource = ds) = [] := by
      refine List.filter_eq_nil_iff.2 fun u hu hds => hnone ?_
      exact Sharding.mem_distinct.2 (List.mem_map.2 ⟨u, hu, of_decide_eq_true hds⟩)
    rw [hempty, groupsOn, chunks, List.map_nil]

/-- A group is one of the groups of its own data source. -/
theorem mem_groupsOn_of_mem (h : g ∈ groups maxConnections units) :
    g ∈ groupsOn maxConnections g.dataSource (units.filter (·.dataSource = g.dataSource)) := by
  rw [← filter_groups]
  exact List.mem_filter.2 ⟨h, decide_eq_true rfl⟩

/-- **Units are spread over groups as they should be.** -/
theorem spreadsUnits_groups (hmax : 0 < maxConnections) (units : List ExecutionUnit) :
    SpreadsUnits maxConnections units (groups maxConnections units) where
  inOrder := by
    rw [← Sharding.distinct_eq_eraseDups]
    simp only [filter_groups]
    rfl
  units_eq ds := by rw [filter_groups, flatMap_units_groupsOn]
  length_le ds := by
    rw [filter_groups]
    exact length_groupsOn_le hmax ds _
  nonempty g hg :=
    List.length_pos_iff.1 (length_units_of_mem_groupsOn hmax (mem_groupsOn_of_mem hg)).1
  size_le g hg := (length_units_of_mem_groupsOn hmax (mem_groupsOn_of_mem hg)).2
  mode_iff g hg := (mem_groupsOn (mem_groupsOn_of_mem hg)).2.1
  single g hg hfew := by
    obtain ⟨hpos, hle⟩ := length_units_of_mem_groupsOn hmax (mem_groupsOn_of_mem hg)
    have hone := (ceilDiv_le_iff_le_mul hmax).2 (hfew.trans_eq (Nat.mul_one maxConnections).symm)
    exact Nat.le_antisymm (hle.trans hone) hpos

end Grouping

/-- **Preparing a statement spreads its units over the connections it may hold.** -/
theorem prepare_spreadsUnits {maxConnections : Nat} (hmax : 0 < maxConnections) (route : Route)
    (units : List ExecutionUnit) :
    ∃ g groups, Grouping.create maxConnections = .ok g ∧ g.prepare route units = .ok groups ∧
      SpreadsUnits maxConnections units groups :=
  ⟨⟨maxConnections, [], hmax⟩, Grouping.groups maxConnections units, by
    rw [Grouping.create, dif_pos hmax], rfl, Grouping.spreadsUnits_groups hmax units⟩

/-- Three units on one data source, another in between. -/
def threeAroundOne : List ExecutionUnit :=
  ["ds_1", "ds_0", "ds_1", "ds_1"].map fun ds => ⟨ds, "SELECT 1", []⟩

/-- With two connections, two of the three share one. -/
theorem prepare_spreadsUnits_threeAroundOne : 0 < 2 ∧ ∃ g groups, Grouping.create 2 = .ok g ∧
    g.prepare .empty threeAroundOne = .ok groups ∧ SpreadsUnits 2 threeAroundOne groups :=
  ⟨by decide, prepare_spreadsUnits (by decide) .empty threeAroundOne⟩

example : (Grouping.groups 2 threeAroundOne).map (fun g => (g.dataSource, g.units.length)) =
    [("ds_1", 2), ("ds_1", 1), ("ds_0", 1)] := by
  decide +kernel

end ScatterGather
