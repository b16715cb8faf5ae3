import ScatterGather.Value.Order

/-!
# Proofs/Value/Rank — the order of values is the order of their ranks

Apart from doubles, a value has a **rank**: a point of one of several linear orders.  Numbers of
every width share one of them, in units of `10⁻²⁸`; days and instants share another.  `order?`
compares ranks (`order?_eq`), so what comparison needs of an order is proved once, on `Rank`:

* values that tie have one rank (`rank?_eq_of_order?`), so one can replace the other in any
  comparison;
* comparison is antisymmetric (`order?_swap`) and transitive (`order?_trans`).
-/

namespace ScatterGather

/-- Comparisons that do not point opposite ways compose. -/
theorem compare_then {α : Type} {cmp : α → α → Ordering} [Std.TransCmp cmp] {x y z : α}
    {side : Ordering} (hxy : cmp x y = side ∨ cmp x y = .eq)
    (hyz : cmp y z = side ∨ cmp y z = .eq) : cmp x z = (cmp x y).then (cmp y z) := by
  obtain hxy | hxy := hxy
  · obtain hyz | hyz := hyz
    · rw [hxy, hyz, Ordering.then_self]
      cases side with
      | lt => exact Std.TransCmp.lt_trans hxy hyz
      | eq => exact Std.TransCmp.eq_trans hxy hyz
      | gt => exact Std.TransCmp.gt_trans hxy hyz
    · rw [hyz, Ordering.then_eq, Std.TransCmp.congr_right hyz]
  · rw [hxy, Ordering.eq_then, Std.TransCmp.congr_left hxy]

/-! ## Ranks

A rank forgets the type of a value and keeps what comparing needs: an integer on some scale, or the
value's own text or bytes. -/

/-- The families of values that one integer orders. -/
inductive Scale where
  | null
  | number
  | boolean
  | instant
  | zoned
  | uuid
  deriving DecidableEq

/-- Where a value stands among those it compares with. -/
inductive Rank where
  | point (scale : Scale) (n : Int)
  | text (s : String)
  | bytes (b : List Nat)
  deriving DecidableEq

namespace Rank

/-- The order of two ranks of one family. -/
def order? : Rank → Rank → Option Ordering
  | point f m, point g n => if f = g then some (compare m n) else none
  | text s, text t => some (compare s t)
  | bytes b, bytes c => some (compare b c)
  | _, _ => none

/-- **Ranks that tie are one.** -/
theorem eq_of_order? {x y : Rank} (h : x.order? y = some .eq) : x = y := by
  cases x <;> cases y <;> simp_all [order?, Std.LawfulEqCmp.compare_eq_iff_eq]

theorem order?_swap (x y : Rank) : y.order? x = (x.order? y).map Ordering.swap := by
  cases x <;> cases y
  case point.point f m g n =>
    by_cases h : f = g
    · simp only [order?, h, if_true, Option.map_some, Option.some.injEq]
      exact Std.OrientedCmp.eq_swap
    · have hg : g ≠ f := fun hg => h hg.symm
      simp [order?, h, hg]
  case text.text s t => exact congrArg some Std.OrientedCmp.eq_swap
  case bytes.bytes b c => exact congrArg some Std.OrientedCmp.eq_swap
  all_goals rfl

/-- **The order of ranks is transitive**, within each family. -/
theorem order?_trans {x y z : Rank} {o p side : Ordering} (hxy : x.order? y = some o)
    (hyz : y.order? z = some p) (ho : o = side ∨ o = .eq) (hp : p = side ∨ p = .eq) :
    x.order? z = some (o.then p) := by
  cases x <;> cases y <;> simp [order?] at hxy <;> cases z <;> simp [order?] at hyz
  case point.point.point f m g n k l =>
    obtain ⟨rfl, rfl⟩ := hxy
    obtain ⟨rfl, rfl⟩ := hyz
    rw [order?, if_pos rfl, compare_then ho hp]
  case text.text.text s t u =>
    subst hxy hyz
    exact congrArg some (compare_then ho hp)
  case bytes.bytes.bytes b c d =>
    subst hxy hyz
    exact congrArg some (compare_then ho hp)

end Rank

/-- Scaling both sides keeps an order. -/
theorem compare_mul_right {k : Int} (hk : 0 < k) (m n : Int) :
    compare (m * k) (n * k) = compare m n := by
  have hlt : m * k < n * k ↔ m < n := Int.mul_lt_mul_right hk
  have heq : m * k = n * k ↔ m = n := Int.mul_eq_mul_right_iff (Int.ne_of_gt hk)
  simp only [compare, compareOfLessAndEq, hlt, heq]

/-- Naturals are ordered as integers are. -/
theorem compare_natCast (m n : Nat) : compare (m : Int) (n : Int) = compare m n := by
  simp only [compare, compareOfLessAndEq, Int.ofNat_lt, Int.ofNat_inj]

theorem Decimal.atMaxScale_ofInt64 (n : Int64) :
    (Decimal.ofInt64 n).atMaxScale = n.toInt * 10 ^ 28 := by
  have hlt : n.toInt.natAbs < 2 ^ 96 := by
    have := n.toInt_lt
    have := n.le_toInt
    omega
  rw [ofInt64, make?, ofParts?, dif_pos ⟨hlt, by decide⟩, Option.getD_some, atMaxScale,
    signedCoefficient]
  congr 1
  by_cases h : n.toInt < 0
  · have hne : n.toInt.natAbs ≠ 0 := by omega
    have hnegative : (decide (n.toInt < 0) && decide (n.toInt.natAbs ≠ 0)) = true := by
      rw [decide_eq_true h, decide_eq_true hne]
      rfl
    rw [if_pos hnegative]
    change -(n.toInt.natAbs : Int) = n.toInt
    omega
  · have hpositive : (decide (n.toInt < 0) && decide (n.toInt.natAbs ≠ 0)) ≠ true := by
      rw [decide_eq_false h]
      exact Bool.false_ne_true
    rw [if_neg hpositive]
    change (n.toInt.natAbs : Int) = n.toInt
    omega

namespace Value

/-- The rank of a value; doubles and JSON have none. -/
def rank? : Value → Option Rank
  | null => some (.point .null 0)
  | smallInt n => some (.point .number (n.toInt64.toInt * 10 ^ 28))
  | integer n => some (.point .number (n.toInt * 10 ^ 28))
  | numeric d => some (.point .number d.atMaxScale)
  | text s | char s => some (.text s)
  | boolean b => some (.point .boolean b.toNat)
  | date d => some (.point .instant d.midnight.nanos)
  | timestamp m => some (.point .instant m.nanos)
  | timestampTz m => some (.point .zoned m.nanos)
  | uuid u => some (.point .uuid u.toNat)
  | bytea bytes => some (.bytes (bytes.map UInt8.toNat))
  | real _ | json _ => none

/-- **Values compare as their ranks do.** -/
theorem order?_eq {a b : Value} (ha : a.isReal = false) (hb : b.isReal = false) :
    a.order? b = a.rank?.bind fun x => b.rank?.bind fun y => x.order? y := by
  cases a
  case real x => simp [isReal] at ha
  all_goals
    cases b
    case real y => simp [isReal] at hb
    -- families that differ, and those whose payload is the rank, agree by computation
    all_goals try rfl
  case smallInt.smallInt m n => exact congrArg some (compare_mul_right (by decide) _ _).symm
  case smallInt.integer m n => exact congrArg some (compare_mul_right (by decide) _ _).symm
  case integer.smallInt m n => exact congrArg some (compare_mul_right (by decide) _ _).symm
  case integer.integer m n => exact congrArg some (compare_mul_right (by decide) _ _).symm
  case date.date d e => exact congrArg some (compare_mul_right (by decide) _ _).symm
  case boolean.boolean x y => exact congrArg some (compare_natCast _ _).symm
  case uuid.uuid u v => exact congrArg some (compare_natCast _ _).symm
  all_goals
    simp only [order?, text?, isNumeric, Bool.and_self, if_true, orderNumbers?, int?, isReal,
      Bool.or_self, Bool.false_eq_true, if_false, decimal?, Option.bind_some, Option.map_some,
      Decimal.order, Decimal.atMaxScale_ofInt64, rank?, Rank.order?]

/-! ## Values by their ranks

From here on nothing looks at the types of values any more. -/

/-- Values that tie have one rank. -/
theorem rank?_eq_of_order? {a b : Value} (ha : a.isReal = false) (hb : b.isReal = false)
    (h : a.order? b = some .eq) : a.rank? = b.rank? := by
  rw [order?_eq ha hb] at h
  obtain ⟨x, hx, hxb⟩ := Option.bind_eq_some_iff.1 h
  obtain ⟨y, hy, hxy⟩ := Option.bind_eq_some_iff.1 hxb
  rw [hx, hy, Rank.eq_of_order? hxy]

/-- **A value can stand for one it ties with**: it compares alike with every value. -/
theorem order?_congr_right {v a b : Value} (hv : v.isReal = false) (ha : a.isReal = false)
    (hb : b.isReal = false) (h : a.order? b = some .eq) : v.order? a = v.order? b := by
  rw [order?_eq hv ha, order?_eq hv hb, rank?_eq_of_order? ha hb h]

theorem order?_swap {a b : Value} (ha : a.isReal = false) (hb : b.isReal = false) :
    b.order? a = (a.order? b).map Ordering.swap := by
  rw [order?_eq ha hb, order?_eq hb ha]
  cases hx : a.rank? with
  | none => cases b.rank? <;> rfl
  | some x =>
    cases hy : b.rank? with
    | none => rfl
    | some y => exact Rank.order?_swap x y

/-- **The order of values is transitive** across types, doubles aside. -/
theorem order?_trans {a b c : Value} {o p side : Ordering} (ha : a.isReal = false)
    (hb : b.isReal = false) (hc : c.isReal = false) (hab : a.order? b = some o)
    (hbc : b.order? c = some p) (ho : o = side ∨ o = .eq) (hp : p = side ∨ p = .eq) :
    a.order? c = some (o.then p) := by
  rw [order?_eq ha hb] at hab
  rw [order?_eq hb hc] at hbc
  obtain ⟨x, hx, hxb⟩ := Option.bind_eq_some_iff.1 hab
  obtain ⟨y, hy, hxy⟩ := Option.bind_eq_some_iff.1 hxb
  obtain ⟨y', hy', hyc⟩ := Option.bind_eq_some_iff.1 hbc
  obtain ⟨z, hz, hyz⟩ := Option.bind_eq_some_iff.1 hyc
  obtain rfl : y = y' := Option.some.inj (hy.symm.trans hy')
  rw [order?_eq ha hc, hx, hz]
  exact Rank.order?_trans hxy hyz ho hp

theorem isLE_order?_trans {a b c : Value} {o p : Ordering} (ha : a.isReal = false)
    (hb : b.isReal = false) (hc : c.isReal = false) (hab : a.order? b = some o)
    (hbc : b.order? c = some p) (ho : o.isLE) (hp : p.isLE) :
    ∃ q, a.order? c = some q ∧ q.isLE := by
  have ho := Ordering.isLE_iff_eq_lt_or_eq_eq.1 ho
  have hp := Ordering.isLE_iff_eq_lt_or_eq_eq.1 hp
  refine ⟨_, order?_trans ha hb hc hab hbc ho hp, ?_⟩
  obtain rfl | rfl := ho
  · rfl
  · exact Ordering.isLE_iff_eq_lt_or_eq_eq.2 hp

end Value

end ScatterGather
