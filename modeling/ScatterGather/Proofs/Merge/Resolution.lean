import Mathlib.Data.List.Forall2
import ScatterGather.Merge.SortKey
import ScatterGather.Proofs.Outcome
import ScatterGather.Proofs.Text.Name

/-!
# Proofs/Merge/Resolution — the columns that items name

Items are bound to columns of the results (`index_lt_of_sortKeys`).  Names that match find one
column, so items that order rows alike are bound alike (`sortKeys_of_sameAll`) — given that a column
known before is the one its target names.
-/

namespace ScatterGather

/-! ## Names of columns

A name may be qualified, and its owner is left out before columns are searched.  Dots and letter
case do not get in each other's way. -/

namespace Text

/-- A dot is its own lower case, and that of nothing else. -/
theorem toLower_eq_dot_iff (c : Char) : c.toLower = '.' ↔ c = '.' := by
  constructor
  · intro h
    obtain rfl | ⟨-, hdot⟩ := eq_or_isLetter (h.trans (by decide : '.' = '.'.toLower))
    · rfl
    · exact absurd hdot (by unfold IsLetter; decide)
  · rintro rfl
    decide

/-- Lower case leaves the places of dots. -/
theorem splitFirst?_map_toLower (cs : List Char) :
    splitFirst? '.' (cs.map Char.toLower) =
      (splitFirst? '.' cs).map fun halves =>
        (halves.1.map Char.toLower, halves.2.map Char.toLower) := by
  induction cs with
  | nil => rfl
  | cons c cs ih =>
    rw [List.map_cons, splitFirst?, splitFirst?]
    by_cases hdot : c = '.'
    · rw [if_pos hdot, if_pos ((toLower_eq_dot_iff c).2 hdot)]
      rfl
    · rw [if_neg hdot, if_neg (mt (toLower_eq_dot_iff c).1 hdot), ih, Option.map_map,
        Option.map_map]
      rfl

theorem splitLast?_map_toLower (cs : List Char) :
    splitLast? '.' (cs.map Char.toLower) =
      (splitLast? '.' cs).map fun halves =>
        (halves.1.map Char.toLower, halves.2.map Char.toLower) := by
  rw [splitLast?, splitLast?, ← List.map_reverse, splitFirst?_map_toLower, Option.map_map,
    Option.map_map]
  congr 1
  funext halves
  simp

end Text

/-- The name of a column without its owner, in lower case. -/
theorem foldName_bareColumn (name : String) : Text.foldName (bareColumn name) =
    ((Text.splitLast? '.' (Text.foldName name)).map Prod.snd).getD (Text.foldName name) := by
  rw [bareColumn, splitColumn, Text.foldName, Text.foldName, Text.splitLast?_map_toLower]
  cases Text.splitLast? '.' name.toList with
  | none => rfl
  | some halves => simp

/-- Names that match do so without their owners. -/
theorem sameName_bareColumn {a b : String} (h : Text.sameName a b = true) :
    Text.sameName (bareColumn a) (bareColumn b) = true := by
  rw [Text.sameName_iff] at h ⊢
  rw [foldName_bareColumn, foldName_bareColumn, h]

/-- **Names that match find one column.** -/
theorem labelIndex?_congr {a b : String} (h : Text.sameName a b = true) (labels : List String) :
    labelIndex? labels a = labelIndex? labels b := by
  rw [labelIndex?, labelIndex?]
  simp only [Text.sameName_congr h, Text.sameName_congr (sameName_bareColumn h)]

/-! ## Columns of items

An item knows its column before the merge, or finds it by its target.  The two have to agree, which
is asked for where it matters (`OrderItem.IsConsistent`). -/

section Items

variable {labels : List String} {caseSensitive : List Bool} {keys : List SortKey}

/-- The column that is found is one of the labels. -/
theorem labelIndex?_lt {name : String} {i : Nat} (h : labelIndex? labels name = some i) :
    i < labels.length := by
  obtain h | ⟨-, h⟩ := Option.or_eq_some_iff.1 h
  · exact (List.findIdx?_eq_some_iff_findIdx_eq.1 h).1
  · exact (List.findIdx?_eq_some_iff_findIdx_eq.1 h).1

theorem OrderItem.column_lt {item : OrderItem} {i : Nat}
    (hindex : ∀ i ∈ item.index, i < labels.length) (h : item.column labels = .ok i) :
    i < labels.length := by
  rw [column.eq_def] at h
  split at h
  · rename_i index hi
    exact Except.ok.inj h ▸ hindex index hi
  · split at h
    · rw [← Except.ok.inj h]
      omega
    · exact nomatch h
  · split at h
    · rename_i hlabel
      exact Except.ok.inj h ▸ labelIndex?_lt hlabel
    · exact nomatch h

/-- **Items are bound to columns of the results.** -/
theorem index_lt_of_sortKeys {items : List OrderItem}
    (hindex : ∀ item ∈ items, ∀ i ∈ item.index, i < labels.length)
    (h : sortKeys items labels caseSensitive = .ok keys) : ∀ k ∈ keys, k.index < labels.length := by
  intro k hk
  obtain ⟨item, hitem, hkey⟩ := exists_of_mem_mapM h hk
  obtain ⟨i, hi, rfl⟩ := map_eq_ok.1 hkey
  exact item.column_lt (hindex item hitem) hi

/-- Whether case counts depends on the column alone. -/
theorem caseSensitive_of_sortKeys {items : List OrderItem}
    (h : sortKeys items labels caseSensitive = .ok keys) :
    ∀ k ∈ keys, k.caseSensitive = caseSensitive.getD k.index false := by
  intro k hk
  obtain ⟨item, -, hkey⟩ := exists_of_mem_mapM h hk
  obtain ⟨i, -, rfl⟩ := map_eq_ok.1 hkey
  rfl

/-- Items have keys. -/
theorem sortKeys_ne_nil {items : List OrderItem} (hitems : items ≠ [])
    (h : sortKeys items labels caseSensitive = .ok keys) : keys ≠ [] := by
  rintro rfl
  exact hitems (List.forall₂_nil_right_iff.1 (mapM_eq_ok.1 h))

/-- The column that the target of an item names, whatever is known before. -/
def OrderItem.named (labels : List String) (item : OrderItem) : Except Error Nat :=
  column labels { item with index := none }

/-- An item whose column, where it is known before, is the one that the target names. -/
def OrderItem.IsConsistent (labels : List String) (item : OrderItem) : Prop :=
  ∀ i ∈ item.index, item.named labels = .ok i

variable {a b item : OrderItem}

theorem OrderItem.IsConsistent.index_lt (h : item.IsConsistent labels) :
    ∀ i ∈ item.index, i < labels.length := by
  intro i hi
  have hnamed : column labels { item with index := none } = .ok i := h i hi
  exact column_lt (by simp) hnamed

theorem OrderItem.IsConsistent.column_eq (h : item.IsConsistent labels) :
    item.column labels = item.named labels := by
  obtain ⟨target, direction, nulls, index⟩ := item
  cases index with
  | none => rfl
  | some i => exact (h i rfl).symm

theorem OrderItem.named_label {name : String} (h : item.target = .label name) (i : Nat) :
    item.named labels = .ok i ↔ labelIndex? labels name = some i := by
  obtain ⟨target, direction, nulls, index⟩ := item
  obtain rfl : target = .label name := h
  cases hlabel : labelIndex? labels name <;> simp [named, column, hlabel]

theorem OrderItem.same_iff : a.same b = true ↔
    a.target.same b.target = true ∧ a.direction = b.direction ∧ a.nulls = b.nulls := by
  simp [same, and_assoc]

/-- Items that order rows alike name one column. -/
theorem OrderItem.named_of_same {i : Nat} (h : a.target.same b.target = true)
    (ha : a.named labels = .ok i) : b.named labels = .ok i := by
  rw [OrderTarget.same.eq_def] at h
  split at h
  · rename_i name name' htarget htarget'
    rw [named_label htarget] at ha
    rwa [named_label htarget', ← labelIndex?_congr h]
  · obtain ⟨target, direction, nulls, index⟩ := a
    obtain rfl : target = b.target := beq_iff_eq.1 h
    exact ha

/-- **Items that order rows alike are bound alike.** -/
theorem sortKeys_of_sameAll {as bs : List OrderItem} (h : OrderItem.sameAll as bs = true)
    (ha : ∀ item ∈ as, item.IsConsistent labels) (hb : ∀ item ∈ bs, item.IsConsistent labels)
    (hkeys : sortKeys as labels caseSensitive = .ok keys) :
    sortKeys bs labels caseSensitive = .ok keys := by
  simp only [OrderItem.sameAll, Bool.and_eq_true, beq_iff_eq, List.all_eq_true] at h
  have hsame : List.Forall₂ (fun a b : OrderItem => a.same b = true) as bs :=
    List.forall₂_iff_zip.2 ⟨h.1.2, fun hmem => h.2 _ hmem⟩
  rw [sortKeys, mapM_eq_ok] at hkeys ⊢
  clear h
  induction hsame generalizing keys with
  | nil =>
    obtain rfl := List.forall₂_nil_left_iff.1 hkeys
    exact .nil
  | @cons a b as bs hab _ ih =>
    obtain ⟨k, rest, hk, hrest, rfl⟩ := List.forall₂_cons_left_iff.1 hkeys
    obtain ⟨ha, has⟩ := List.forall_mem_cons.1 ha
    obtain ⟨hb, hbs⟩ := List.forall_mem_cons.1 hb
    obtain ⟨htarget, hdirection, hnulls⟩ := OrderItem.same_iff.1 hab
    obtain ⟨i, hi, rfl⟩ := map_eq_ok.1 hk
    refine .cons ?_ (ih has hbs hrest)
    rw [hb.column_eq, OrderItem.named_of_same htarget (ha.column_eq ▸ hi), hdirection, hnulls]
    rfl

end Items

end ScatterGather
