import Mathlib.Data.List.Perm.Basic
import ScatterGather.Merge.Queue
import ScatterGather.Power

/-!
# Proofs/Merge/Queue — a heap in the shape of a complete tree

Three facts about a `Queue`, each carried by its own invariant through adding and taking out.

* **Nothing is lost or doubled** (`Queue.IsFull.push`, `Queue.IsFull.perm_pop?`).  This needs the
  shape: the items fill the places `1, …, size` of the tree (`Queue.IsFull`), so the next place is
  free and the last one has no children.
* **The first item precedes or ties the others** (`Queue.IsOrdered.pop?`), where precedence is a
  preorder (`Tree.Ranks`) and the tree a heap (`Tree.IsHeap`).
* **Only comparisons matter** (`Queue.Matches.push`, `Queue.Matches.pop?`): two queues with matching
  items go on matching.
-/

namespace ScatterGather

open scoped List

namespace Tree

/-! ## Places

The root stands at place 1, and the children of place `i` at `2 i` and `2 i + 1`. -/

/-- The place that turns lead to from place `i`. -/
def placeFrom (i : Nat) (turns : List Bool) : Nat :=
  turns.foldl (fun i right => 2 * i + right.toNat) i

@[simp] theorem placeFrom_nil (i : Nat) : placeFrom i [] = i := rfl

@[simp] theorem placeFrom_cons (i : Nat) (right : Bool) (turns : List Bool) :
    placeFrom i (right :: turns) = placeFrom (2 * i + right.toNat) turns := rfl

/-- **The path of a place leads to it.** -/
theorem placeFrom_path {n : Nat} (hn : 0 < n) : placeFrom 1 (path n) = n := by
  have key : ∀ k, placeFrom (n / 2 ^ k) ((List.range k).reverse.map n.testBit) = n := by
    intro k
    induction k with
    | zero => simp
    | succ k ih =>
      have hstep : 2 * (n / 2 ^ (k + 1)) + (n.testBit k).toNat = n / 2 ^ k := by
        rw [Nat.toNat_testBit, Nat.pow_succ, ← Nat.div_div_eq_div_mul]
        omega
      rw [List.range_succ, List.reverse_append, List.reverse_singleton, List.singleton_append,
        List.map_cons, placeFrom_cons, hstep, ih]
  have hlog : n / 2 ^ n.log2 = 1 := by
    refine Nat.div_eq_of_lt_le ?_ ?_
    · rw [Nat.one_mul]
      exact Nat.log2_self_le (Nat.ne_of_gt hn)
    · have := @Nat.lt_log2_self n
      rw [Nat.pow_succ] at this
      omega
  have := key n.log2
  rwa [hlog] at this

/-- The places below `i` at depth `k` are those from `i 2ᵏ` to before `(i + 1) 2ᵏ`. -/
theorem placeFrom_bounds (i : Nat) (turns : List Bool) :
    i * 2 ^ turns.length ≤ placeFrom i turns ∧
      placeFrom i turns < (i + 1) * 2 ^ turns.length := by
  induction turns generalizing i with
  | nil => simp
  | cons right turns ih =>
    obtain ⟨hlow, hhigh⟩ := ih (2 * i + right.toNat)
    rw [List.length_cons, placeFrom_cons, Nat.pow_succ]
    have hright : right.toNat ≤ 1 := Bool.toNat_le right
    constructor
    · refine Nat.le_trans ?_ hlow
      rw [Nat.mul_comm (2 ^ turns.length), ← Nat.mul_assoc]
      exact Nat.mul_le_mul_right _ (by omega)
    · refine Nat.lt_of_lt_of_le hhigh ?_
      rw [Nat.mul_comm (2 ^ turns.length), ← Nat.mul_assoc]
      exact Nat.mul_le_mul_right _ (by omega)

/-- **Left and right of a place are different places.** -/
theorem placeFrom_left_ne_right {i : Nat} (hi : 0 < i) (turns turns' : List Bool) :
    placeFrom (2 * i) turns ≠ placeFrom (2 * i + 1) turns' := by
  obtain ⟨hlow, hhigh⟩ := placeFrom_bounds (2 * i) turns
  obtain ⟨hlow', hhigh'⟩ := placeFrom_bounds (2 * i + 1) turns'
  obtain hlt | hle := Nat.lt_or_ge turns'.length turns.length
  · have hpow : 2 ^ (turns'.length + 1) ≤ 2 ^ turns.length := Nat.pow_le_pow_right (by decide) hlt
    have hmul := Nat.mul_le_mul_left (2 * i) hpow
    have hgap : (2 * i + 1 + 1) * 2 ^ turns'.length ≤ 2 * i * 2 ^ (turns'.length + 1) := by
      rw [Nat.pow_succ, Nat.mul_comm (2 ^ turns'.length), ← Nat.mul_assoc]
      exact Nat.mul_le_mul_right _ (by omega)
    omega
  · have hpow : 2 ^ turns.length ≤ 2 ^ turns'.length := Nat.pow_le_pow_right (by decide) hle
    have := Nat.mul_le_mul_left (2 * i + 1) hpow
    omega

/-- Turns lead to higher places. -/
theorem le_placeFrom (i : Nat) (turns : List Bool) : i ≤ placeFrom i turns :=
  Nat.le_trans (Nat.le_mul_of_pos_right i (Nat.two_pow_pos _)) (placeFrom_bounds i turns).1

/-! ## Full trees

The shape of the tree is given by its size alone: the places from 1 on are filled.  So the path of
the next place leads through nodes that are there, and the path of the last one ends at a leaf. -/

/-- The tree rooted at place `i` has items at its places up to `n`, and nowhere else. -/
def Fills (n i : Nat) : Tree α → Prop
  | empty => n < i
  | node _ left right => i ≤ n ∧ left.Fills n (2 * i) ∧ right.Fills n (2 * i + 1)

variable {α β : Type} {n i : Nat}

/-- A place elsewhere may come or go. -/
theorem fills_congr {m : Nat} {t : Tree α} (h : t.Fills n i)
    (hother : ∀ turns, placeFrom i turns ≤ m ↔ placeFrom i turns ≤ n) : t.Fills m i := by
  induction t generalizing i with
  | empty =>
    have := hother []
    simp only [Fills, placeFrom_nil] at h this ⊢
    omega
  | node a left right ihl ihr =>
    obtain ⟨hi, hl, hr⟩ := h
    exact ⟨(hother []).2 hi, ihl hl fun turns => hother (false :: turns),
      ihr hr fun turns => hother (true :: turns)⟩

/-- A tree that does not reach the place `n + 1` has as many items with it as without. -/
theorem fills_succ_iff {t : Tree α} (hother : ∀ turns, placeFrom i turns ≠ n + 1) :
    t.Fills (n + 1) i ↔ t.Fills n i := by
  have hiff : ∀ turns, placeFrom i turns ≤ n + 1 ↔ placeFrom i turns ≤ n := fun turns => by
    have := hother turns
    omega
  exact ⟨fun h => fills_congr h fun turns => (hiff turns).symm, fun h => fills_congr h hiff⟩

/-- The item at the root. -/
def root? : Tree α → Option α
  | empty => none
  | node a _ _ => some a

/-- The items below the root. -/
def rest : Tree α → List α
  | empty => []
  | node _ left right => left.toList ++ right.toList

/-- What lifting does: the child's risen root changes places with its parent, or nothing moves. -/
theorem lift_cases (before : α → α → Bool) (a : α) (child : Tree α) (risen : Bool)
    (build : α → Tree α → Tree α) :
    (∃ b left right, risen = true ∧ child = node b left right ∧ before b a = true ∧
      lift before a child risen build = (build b (node a left right), true)) ∨
    ((∀ b left right, risen = true → child = node b left right → before b a = false) ∧
      lift before a child risen build = (build a child, false)) := by
  cases risen with
  | false => exact Or.inr ⟨fun _ _ _ => Bool.noConfusion, rfl⟩
  | true =>
    cases child with
    | empty => exact Or.inr ⟨fun _ _ _ _ h => by simp at h, rfl⟩
    | node b left right =>
      by_cases hb : before b a = true
      · exact Or.inl ⟨b, left, right, rfl, rfl, hb, if_pos hb⟩
      · refine Or.inr ⟨?_, if_neg hb⟩
        rintro _ _ _ - ⟨⟩
        exact Bool.eq_false_iff.2 hb

/-- **Lifting builds over a tree of the child's shape**, and keeps the items. -/
theorem exists_lift_eq (before : α → α → Bool) (a : α) (child : Tree α) (risen : Bool)
    (build : α → Tree α → Tree α) :
    ∃ top under, (lift before a child risen build).1 = build top under ∧
      (∀ m j, child.Fills m j → under.Fills m j) ∧
      top :: under.toList ~ a :: child.toList := by
  obtain ⟨b, left, right, -, rfl, -, hlift⟩ | ⟨-, hlift⟩ := lift_cases before a child risen build
  · exact ⟨b, node a left right, by rw [hlift], fun m j h => h, List.Perm.swap _ _ _⟩
  · exact ⟨a, child, by rw [hlift], fun m j h => h, List.Perm.refl _⟩

/-- The left child has got `x`, and a lift may have changed the top. -/
theorem perm_left {a top x : α} {child left right under : List α}
    (hlift : top :: under ~ a :: child) (hchild : child ~ x :: left) :
    top :: (under ++ right) ~ x :: a :: (left ++ right) :=
  calc (top :: under) ++ right
    _ ~ (a :: child) ++ right := hlift.append_right right
    _ ~ (a :: x :: left) ++ right := (hchild.cons a).append_right right
    _ ~ (x :: a :: left) ++ right := (List.Perm.swap _ _ _).append_right right

/-- The right child has got `x`, and a lift may have changed the top. -/
theorem perm_right {a top x : α} {child left right under : List α}
    (hlift : top :: under ~ a :: child) (hchild : child ~ x :: right) :
    top :: (left ++ under) ~ x :: a :: (left ++ right) :=
  calc top :: (left ++ under)
    _ ~ top :: (under ++ left) := List.perm_append_comm.cons top
    _ ~ x :: a :: (right ++ left) := perm_left hlift hchild
    _ ~ x :: a :: (left ++ right) := (List.perm_append_comm.cons a).cons x

theorem insertAt_left (before : α → α → Bool) (x a : α) (turns : List Bool)
    (left right : Tree α) : insertAt before x (false :: turns) (node a left right) =
      lift before a (insertAt before x turns left).1 (insertAt before x turns left).2
        fun a left => node a left right := rfl

theorem insertAt_right (before : α → α → Bool) (x a : α) (turns : List Bool)
    (left right : Tree α) : insertAt before x (true :: turns) (node a left right) =
      lift before a (insertAt before x turns right).1 (insertAt before x turns right).2
        fun a right => node a left right := rfl

section Sink

variable {before : α → α → Bool} {x a b c : α} {ll lr rl rr : Tree α}

theorem sink_one : sink before x (node a (node b ll lr) empty) =
    lift before b (sink before x (node b ll lr)).1 (sink before x (node b ll lr)).2
      fun a left => node a left empty := rfl

theorem sink_left (h : before b c = true) :
    sink before x (node a (node b ll lr) (node c rl rr)) =
      lift before b (sink before x (node b ll lr)).1 (sink before x (node b ll lr)).2
        fun a left => node a left (node c rl rr) := by
  rw [sink, if_pos h]

theorem sink_right (h : ¬ before b c = true) :
    sink before x (node a (node b ll lr) (node c rl rr)) =
      lift before c (sink before x (node c rl rr)).1 (sink before x (node c rl rr)).2
        fun a right => node a (node b ll lr) right := by
  rw [sink, if_neg h]

end Sink

section Shape

variable {before : α → α → Bool} {x : α} {t : Tree α} {turns : List Bool}

/-- **Inserting at the next free place** fills it, and adds just the new item. -/
theorem insertAt_spec (hi : 0 < i) (h : t.Fills n i) (hplace : placeFrom i turns = n + 1) :
    (insertAt before x turns t).1.Fills (n + 1) i ∧
      (insertAt before x turns t).1.toList ~ x :: t.toList := by
  induction turns generalizing i t with
  | nil =>
    rw [placeFrom_nil] at hplace
    cases t with
    | empty => exact ⟨⟨by omega, by simp only [Fills]; omega, by simp only [Fills]; omega⟩, .refl _⟩
    | node a left right =>
      have := h.1
      omega
  | cons turn turns ih =>
    rw [placeFrom_cons] at hplace
    cases t with
    | empty =>
      have hle := le_placeFrom (2 * i + turn.toNat) turns
      have hn : n < i := h
      omega
    | node a left right =>
      obtain ⟨hin, hl, hr⟩ := h
      -- the other child does not reach the place that is filled
      cases turn with
      | false =>
        have hr' : right.Fills (n + 1) (2 * i + 1) := (fills_succ_iff fun turns' heq =>
          placeFrom_left_ne_right hi turns turns' (hplace.trans heq.symm)).2 hr
        obtain ⟨hfills, hperm⟩ := ih (by omega) hl hplace
        obtain ⟨top, under, heq, hunder, hlist⟩ := exists_lift_eq before a
          (insertAt before x turns left).1 (insertAt before x turns left).2
          fun a left => node a left right
        rw [insertAt_left, heq]
        exact ⟨⟨by omega, hunder _ _ hfills, hr'⟩, perm_left hlist hperm⟩
      | true =>
        have hl' : left.Fills (n + 1) (2 * i) := (fills_succ_iff fun turns' heq =>
          placeFrom_left_ne_right hi turns' turns (heq.trans hplace.symm)).2 hl
        obtain ⟨hfills, hperm⟩ := ih (by omega) hr hplace
        obtain ⟨top, under, heq, hunder, hlist⟩ := exists_lift_eq before a
          (insertAt before x turns right).1 (insertAt before x turns right).2
          fun a right => node a left right
        rw [insertAt_right, heq]
        exact ⟨⟨by omega, hl', hunder _ _ hfills⟩, perm_right hlist hperm⟩

/-- **The item at the last place can be taken away**, and leaves the others. -/
theorem exists_removeAt_eq (hi : 0 < i) (h : t.Fills (n + 1) i)
    (hplace : placeFrom i turns = n + 1) :
    ∃ last t', removeAt turns t = some (last, t') ∧ t'.Fills n i ∧
      t.toList ~ last :: t'.toList := by
  induction turns generalizing i t with
  | nil =>
    rw [placeFrom_nil] at hplace
    cases t with
    | empty =>
      have : n + 1 < i := h
      omega
    | node a left right =>
      obtain ⟨-, hl, hr⟩ := h
      -- below the last place there is nothing
      cases left with
      | node b _ _ => have := hl.1; omega
      | empty =>
        cases right with
        | node b _ _ => have := hr.1; omega
        | empty => exact ⟨a, empty, rfl, by simp only [Fills]; omega, .refl _⟩
  | cons turn turns ih =>
    rw [placeFrom_cons] at hplace
    cases t with
    | empty =>
      have hle := le_placeFrom (2 * i + turn.toNat) turns
      have hn : n + 1 < i := h
      omega
    | node a left right =>
      obtain ⟨hin, hl, hr⟩ := h
      have hlt : i ≤ n := by
        have hle := le_placeFrom (2 * i + turn.toNat) turns
        omega
      cases turn with
      | false =>
        have hr' : right.Fills n (2 * i + 1) := (fills_succ_iff fun turns' heq =>
          placeFrom_left_ne_right hi turns turns' (hplace.trans heq.symm)).1 hr
        obtain ⟨last, left', heq, hfills, hperm⟩ := ih (by omega) hl hplace
        refine ⟨last, node a left' right, by rw [removeAt, heq]; rfl, ⟨hlt, hfills, hr'⟩, ?_⟩
        exact perm_left (.refl _) hperm
      | true =>
        have hl' : left.Fills n (2 * i) := (fills_succ_iff fun turns' heq =>
          placeFrom_left_ne_right hi turns' turns (heq.trans hplace.symm)).1 hl
        obtain ⟨last, right', heq, hfills, hperm⟩ := ih (by omega) hr hplace
        refine ⟨last, node a left right', by rw [removeAt, heq]; rfl, ⟨hlt, hl', hfills⟩, ?_⟩
        exact perm_right (.refl _) hperm

/-- **An item that sinks from the root** leaves the shape, and replaces just the old root. -/
theorem sink_spec (h : t.Fills n i) :
    (sink before x t).1.Fills n i ∧ (t ≠ empty → (sink before x t).1.toList ~ x :: t.rest) := by
  induction t generalizing i with
  | empty => exact ⟨h, fun hne => absurd rfl hne⟩
  | node a left right ihl ihr =>
    obtain ⟨hin, hl, hr⟩ := h
    obtain ⟨hfl, hpl⟩ := ihl hl
    obtain ⟨hfr, hpr⟩ := ihr hr
    cases left with
    | empty => exact ⟨⟨hin, hl, hr⟩, fun _ => .refl _⟩
    | node b ll lr =>
      obtain ⟨top, under, heq, hunder, hlist⟩ := exists_lift_eq before b
        (sink before x (node b ll lr)).1 (sink before x (node b ll lr)).2
        fun a left => node a left right
      cases right with
      | empty =>
        rw [sink_one, heq]
        exact ⟨⟨hin, hunder _ _ hfl, hr⟩, fun _ => perm_left hlist (hpl nofun)⟩
      | node c rl rr =>
        by_cases hbc : before b c = true
        · rw [sink_left hbc, heq]
          exact ⟨⟨hin, hunder _ _ hfl, hr⟩, fun _ => perm_left hlist (hpl nofun)⟩
        · obtain ⟨top, under, heq, hunder, hlist⟩ := exists_lift_eq before c
            (sink before x (node c rl rr)).1 (sink before x (node c rl rr)).2
            fun a right => node a (node b ll lr) right
          rw [sink_right hbc, heq]
          refine ⟨⟨hin, hl, hunder _ _ hfr⟩, fun _ => ?_⟩
          exact (perm_right hlist (hpr nofun)).trans (List.perm_middle.symm.cons x)

end Shape

/-! ## Heaps

An item that comes into a tree may stand in the wrong place until it has been lifted.  `Settled`
says what is known meanwhile, and one lift passes it on to the parent. -/

/-- Among the items with the property, `before` is the strict part of a preorder in which any two
compare. -/
structure Ranks (before : α → α → Bool) (P : α → Prop) : Prop where
  asymm : ∀ {a b}, P a → P b → before a b = true → before b a = false
  trans : ∀ {a b c}, P a → P b → P c → before b a = false → before c b = false →
    before c a = false

/-- No item of the tree comes before `a`. -/
def IsAbove (before : α → α → Bool) (a : α) (items : List α) : Prop :=
  ∀ b ∈ items, before b a = false

/-- No item comes before one that stands above it. -/
def IsHeap (before : α → α → Bool) : Tree α → Prop
  | empty => True
  | node a left right =>
    IsAbove before a (left.toList ++ right.toList) ∧ left.IsHeap before ∧ right.IsHeap before

section Heap

variable {before : α → α → Bool} {P : α → Prop} {x a : α}

/-- An item has come into a tree, and is at the root if the flag says so: the tree is a heap, and
otherwise the item lies below one of the others. -/
structure Settled (before : α → α → Bool) (x : α) (others : List α) (r : Tree α × Bool) :
    Prop where
  heap : r.1.IsHeap before
  root : r.2 = true → r.1.root? = some x
  under : r.2 = false → ∃ d ∈ others, before x d = false

/-- **Lifting restores the order** between a parent `a` and a child heap that has got `x` beside the
old items, which lie below `a`. -/
theorem Settled.exists_lift_eq (hranks : Ranks before P) (ha : P a) (hx : P x)
    {child : Tree α × Bool} {others : List α} (h : Settled before x others child)
    (build : α → Tree α → Tree α) (hothers : ∀ b ∈ others, P b)
    (hlist : child.1.toList ~ x :: others) (habove : IsAbove before a others) :
    ∃ top under risen, lift before a child.1 child.2 build = (build top under, risen) ∧
      under.IsHeap before ∧ IsAbove before top under.toList ∧
      (∀ items, (∀ b ∈ items, P b) → IsAbove before a items → IsAbove before top items) ∧
      (risen = true → top = x) ∧ (risen = false → before x a = false) := by
  obtain ⟨child, risen⟩ := child
  obtain ⟨hheap, hroot, hunder⟩ := h
  obtain ⟨b, left, right, rfl, rfl, hba, hlift⟩ | ⟨hstay, hlift⟩ :=
    lift_cases before a child risen build
  · obtain rfl : b = x := Option.some.inj (hroot rfl)
    -- The new item is on top of the child and comes before its parent: the two change places.
    have hperm : left.toList ++ right.toList ~ others := hlist.cons_inv
    obtain ⟨hb, hl, hr⟩ := hheap
    have hab : before a b = false := hranks.asymm hx ha hba
    refine ⟨b, node a left right, true, hlift, ⟨fun d hd => habove d (hperm.subset hd), hl, hr⟩,
      ?_, ?_, fun _ => rfl, fun h => nomatch h⟩
    · exact List.forall_mem_cons.2 ⟨hab, hb⟩
    · exact fun items hitems h d hd => hranks.trans hx ha (hitems d hd) hab (h d hd)
  · -- The parent stays.  Then the new item is not before it: by comparison if the item is on top of
    -- the child, and through an item above it otherwise.
    have hxa : before x a = false := by
      cases risen with
      | true =>
        cases child with
        | empty => exact nomatch hroot rfl
        | node b left right =>
          obtain rfl : b = x := Option.some.inj (hroot rfl)
          exact hstay b left right rfl rfl
      | false =>
        obtain ⟨d, hd, hxd⟩ := hunder rfl
        exact hranks.trans ha (hothers d hd) hx (habove d hd) hxd
    refine ⟨a, child, false, hlift, hheap, fun d hd => ?_, fun _ _ h => h, (fun h => nomatch h),
      fun _ => hxa⟩
    obtain rfl | hd := List.mem_cons.1 (hlist.subset hd)
    · exact hxa
    · exact habove d hd

/-- Lifting from the left child. -/
theorem Settled.lift_left (hranks : Ranks before P) (ha : P a) (hx : P x) {child : Tree α × Bool}
    {others all : List α} (h : Settled before x others child) (hothers : ∀ b ∈ others, P b)
    (hlist : child.1.toList ~ x :: others) (habove : IsAbove before a others) {right : Tree α}
    (hright : right.IsHeap before) (hPr : ∀ b ∈ right.toList, P b)
    (har : IsAbove before a right.toList) (hall : a ∈ all) :
    Settled before x all (lift before a child.1 child.2 fun a left => node a left right) := by
  obtain ⟨top, under, risen, hlift, hunder, htop, hrest, hup, hstay⟩ :=
    h.exists_lift_eq hranks ha hx (fun a left => node a left right) hothers hlist habove
  rw [hlift]
  refine ⟨⟨?_, hunder, hright⟩, fun h => congrArg some (hup h), fun h => ⟨a, hall, hstay h⟩⟩
  exact List.forall_mem_append.2 ⟨htop, hrest _ hPr har⟩

/-- Lifting from the right child. -/
theorem Settled.lift_right (hranks : Ranks before P) (ha : P a) (hx : P x) {child : Tree α × Bool}
    {others all : List α} (h : Settled before x others child) (hothers : ∀ b ∈ others, P b)
    (hlist : child.1.toList ~ x :: others) (habove : IsAbove before a others) {left : Tree α}
    (hleft : left.IsHeap before) (hPl : ∀ b ∈ left.toList, P b)
    (hal : IsAbove before a left.toList) (hall : a ∈ all) :
    Settled before x all (lift before a child.1 child.2 fun a right => node a left right) := by
  obtain ⟨top, under, risen, hlift, hunder, htop, hrest, hup, hstay⟩ :=
    h.exists_lift_eq hranks ha hx (fun a right => node a left right) hothers hlist habove
  rw [hlift]
  refine ⟨⟨?_, hleft, hunder⟩, fun h => congrArg some (hup h), fun h => ⟨a, hall, hstay h⟩⟩
  exact List.forall_mem_append.2 ⟨hrest _ hPl hal, htop⟩

variable {t : Tree α} {turns : List Bool}

/-- A new item without children is settled, at the root of what is left. -/
theorem settled_leaf (others : List α) :
    Settled before x others (node x empty empty, true) :=
  ⟨⟨by simp [IsAbove, toList], trivial, trivial⟩, fun _ => rfl, fun h => nomatch h⟩

/-- **Inserting keeps a heap.** -/
theorem settled_insertAt (hranks : Ranks before P) (hx : P x) (hP : ∀ b ∈ t.toList, P b)
    (hi : 0 < i) (hfills : t.Fills n i) (hplace : placeFrom i turns = n + 1)
    (hheap : t.IsHeap before) : Settled before x t.toList (insertAt before x turns t) := by
  induction turns generalizing i t with
  | nil =>
    cases t with
    | empty => exact settled_leaf _
    | node a left right =>
      rw [placeFrom_nil] at hplace
      have := hfills.1
      omega
  | cons turn turns ih =>
    cases t with
    | empty => exact settled_leaf _
    | node a left right =>
      rw [placeFrom_cons] at hplace
      obtain ⟨-, hfl, hfr⟩ := hfills
      obtain ⟨ha, hl, hr⟩ := hheap
      obtain ⟨hal, har⟩ := List.forall_mem_append.1 ha
      obtain ⟨hPa, hPrest⟩ := List.forall_mem_cons.1 hP
      obtain ⟨hPl, hPr⟩ := List.forall_mem_append.1 hPrest
      cases turn with
      | false =>
        rw [insertAt_left]
        exact (ih hPl (by omega) hfl hplace hl).lift_left hranks hPa hx hPl
          (insertAt_spec (by omega) hfl hplace).2 hal hr hPr har List.mem_cons_self
      | true =>
        rw [insertAt_right]
        exact (ih hPr (by omega) hfr hplace hr).lift_right hranks hPa hx hPr
          (insertAt_spec (by omega) hfr hplace).2 har hl hPl hal List.mem_cons_self

/-- **An item that sinks leaves a heap.** -/
theorem settled_sink (hranks : Ranks before P) (hx : P x) (hP : ∀ b ∈ t.rest, P b)
    (hfills : t.Fills n i) (hheap : t.IsHeap before) (hne : t ≠ empty) :
    Settled before x t.rest (sink before x t) := by
  induction t generalizing i with
  | empty => exact absurd rfl hne
  | node a left right ihl ihr =>
    obtain ⟨-, hfl, hfr⟩ := hfills
    obtain ⟨-, hl, hr⟩ := hheap
    obtain ⟨hPleft, hPright⟩ := List.forall_mem_append.1 hP
    cases left with
    | empty =>
      cases right with
      | node c _ _ =>
        -- A left child comes before a right one in the numbering, so no tree has a right child
        -- alone.
        have hleft : n < 2 * i := hfl
        have hright : 2 * i + 1 ≤ n := hfr.1
        omega
      | empty => exact settled_leaf _
    | node b ll lr =>
      obtain ⟨hPb, hPl⟩ := List.forall_mem_cons.1 hPleft
      have hleft := ihl hPl hfl hl nofun
      cases right with
      | empty =>
        rw [sink_one]
        exact hleft.lift_left hranks hPb hx hPl ((sink_spec hfl).2 nofun) hl.1 hr hPright
          (by simp [IsAbove, toList]) List.mem_cons_self
      | node c rl rr =>
        obtain ⟨hPc, hPr⟩ := List.forall_mem_cons.1 hPright
        by_cases hbc : before b c = true
        · -- The child that precedes rises, and the other one is below it with all that is under
          -- that.
          have hcb : before c b = false := hranks.asymm hPb hPc hbc
          rw [sink_left hbc]
          refine hleft.lift_left hranks hPb hx hPl ((sink_spec hfl).2 nofun) hl.1 hr hPright ?_
            List.mem_cons_self
          exact List.forall_mem_cons.2
            ⟨hcb, fun d hd => hranks.trans hPb hPc (hPr d hd) hcb (hr.1 d hd)⟩
        · have hbc' : before b c = false := Bool.eq_false_iff.2 hbc
          rw [sink_right hbc]
          refine (ihr hPr hfr hr nofun).lift_right hranks hPc hx hPr ((sink_spec hfr).2 nofun) hr.1
            hl hPleft ?_ (List.mem_append_right _ List.mem_cons_self)
          exact List.forall_mem_cons.2
            ⟨hbc', fun d hd => hranks.trans hPc hPb (hPl d hd) hbc' (hl.1 d hd)⟩

/-- Taking an item away keeps a heap, its root while there is one, and no other item. -/
theorem isHeap_removeAt {last : α} {t' : Tree α} (h : removeAt turns t = some (last, t'))
    (hheap : t.IsHeap before) :
    t'.IsHeap before ∧ (∀ b ∈ t'.toList, b ∈ t.toList) ∧ ∀ a ∈ t'.root?, a ∈ t.root? := by
  induction turns generalizing t t' with
  | nil =>
    cases t with
    | empty => cases h
    | node a left right =>
      obtain ⟨-, rfl⟩ := Prod.mk.inj (Option.some.inj h)
      exact ⟨trivial, by simp [toList], by simp [root?]⟩
  | cons turn turns ih =>
    cases t with
    | empty => cases h
    | node a left right =>
      obtain ⟨ha, hl, hr⟩ := hheap
      cases turn with
      | false =>
        obtain ⟨⟨_, left'⟩, hleft, heq⟩ := Option.map_eq_some_iff.1 h
        obtain ⟨rfl, rfl⟩ := Prod.mk.inj heq
        obtain ⟨hheap, hsub, -⟩ := ih hleft hl
        have hsub' : ∀ b ∈ left'.toList ++ right.toList, b ∈ left.toList ++ right.toList :=
          fun b hb => List.mem_append.2 ((List.mem_append.1 hb).imp_left (hsub b))
        refine ⟨⟨fun b hb => ha b (hsub' b hb), hheap, hr⟩, ?_, fun _ h => h⟩
        exact List.cons_subset_cons a hsub'
      | true =>
        obtain ⟨⟨_, right'⟩, hright, heq⟩ := Option.map_eq_some_iff.1 h
        obtain ⟨rfl, rfl⟩ := Prod.mk.inj heq
        obtain ⟨hheap, hsub, -⟩ := ih hright hr
        have hsub' : ∀ b ∈ left.toList ++ right'.toList, b ∈ left.toList ++ right.toList :=
          fun b hb => List.mem_append.2 ((List.mem_append.1 hb).imp_right (hsub b))
        refine ⟨⟨fun b hb => ha b (hsub' b hb), hl, hheap⟩, ?_, fun _ h => h⟩
        exact List.cons_subset_cons a hsub'

end Heap

/-! ## Matching trees

Operations look at items only through comparisons. -/

/-- Trees of one shape with matching items at each place. -/
inductive Matches (R : α → β → Prop) : Tree α → Tree β → Prop
  | empty : Matches R empty empty
  | node {a b left left' right right'} : R a b → Matches R left left' → Matches R right right' →
      Matches R (node a left right) (node b left' right')

section Matches

variable {R : α → β → Prop} {before : α → α → Bool} {before' : β → β → Bool}

theorem Matches.mono {S : α → β → Prop} (hRS : ∀ a b, R a b → S a b) {t : Tree α} {t' : Tree β}
    (h : t.Matches R t') : t.Matches S t' := by
  induction h with
  | empty => exact .empty
  | node hab _ _ ihl ihr => exact .node (hRS _ _ hab) ihl ihr

/-- Matching results of an operation on trees. -/
def MatchesRisen (R : α → β → Prop) (r : Tree α × Bool) (r' : Tree β × Bool) : Prop :=
  r.1.Matches R r'.1 ∧ r.2 = r'.2

/-- Both orders compare matching items alike. -/
def Agree (R : α → β → Prop) (before : α → α → Bool) (before' : β → β → Bool) : Prop :=
  ∀ ⦃a b a' b'⦄, R a a' → R b b' → before a b = before' a' b'

theorem MatchesRisen.lift (hagree : Agree R before before') {a : α} {a' : β} (ha : R a a')
    {r : Tree α × Bool} {r' : Tree β × Bool} (h : MatchesRisen R r r')
    {build : α → Tree α → Tree α} {build' : β → Tree β → Tree β}
    (hbuild : ∀ {b b' t t'}, R b b' → t.Matches R t' → (build b t).Matches R (build' b' t')) :
    MatchesRisen R (lift before a r.1 r.2 build) (lift before' a' r'.1 r'.2 build') := by
  obtain ⟨child, risen⟩ := r
  obtain ⟨child', risen'⟩ := r'
  obtain ⟨hchild, hrisen⟩ := h
  obtain rfl : risen = risen' := hrisen
  cases hchild with
  | empty => cases risen <;> exact ⟨hbuild ha .empty, rfl⟩
  | node hb hl hr =>
    cases risen with
    | false => exact ⟨hbuild ha (.node hb hl hr), rfl⟩
    | true =>
      rw [Tree.lift, Tree.lift, hagree hb ha]
      split
      · exact ⟨hbuild hb (.node ha hl hr), rfl⟩
      · exact ⟨hbuild ha (.node hb hl hr), rfl⟩

theorem Matches.insertAt (hagree : Agree R before before') {x : α} {x' : β} (hx : R x x')
    (turns : List Bool) {t : Tree α} {t' : Tree β} (h : t.Matches R t') :
    MatchesRisen R (insertAt before x turns t) (insertAt before' x' turns t') := by
  induction turns generalizing t t' with
  | nil =>
    cases h with
    | empty => exact ⟨.node hx .empty .empty, rfl⟩
    | node ha hl hr => exact ⟨.node hx hl hr, rfl⟩
  | cons turn turns ih =>
    cases h with
    | empty => exact ⟨.node hx .empty .empty, rfl⟩
    | node ha hl hr =>
      cases turn with
      | false => exact (ih hl).lift hagree ha fun hb ht => .node hb ht hr
      | true => exact (ih hr).lift hagree ha fun hb ht => .node hb hl ht

theorem Matches.sink (hagree : Agree R before before') {x : α} {x' : β} (hx : R x x')
    {t : Tree α} {t' : Tree β} (h : t.Matches R t') :
    MatchesRisen R (sink before x t) (sink before' x' t') := by
  induction h with
  | empty => exact ⟨.empty, rfl⟩
  | node ha hl hr ihl ihr =>
    cases hl with
    | empty => exact ⟨.node hx .empty hr, rfl⟩
    | node hb hll hlr =>
      cases hr with
      | empty => exact ihl.lift hagree hb fun hb ht => .node hb ht .empty
      | node hc hrl hrr =>
        rw [Tree.sink, Tree.sink, hagree hb hc]
        split
        · exact ihl.lift hagree hb fun hb ht => .node hb ht (.node hc hrl hrr)
        · exact ihr.lift hagree hc fun hd ht => .node hd (.node hb hll hlr) ht

/-- Taking away fails on both trees, or takes matching items from both. -/
theorem Matches.removeAt (turns : List Bool) {t : Tree α} {t' : Tree β} (h : t.Matches R t') :
    (removeAt turns t = none ∧ removeAt turns t' = none) ∨
      ∃ x u x' u', removeAt turns t = some (x, u) ∧ removeAt turns t' = some (x', u') ∧ R x x' ∧
        u.Matches R u' := by
  induction turns generalizing t t' with
  | nil =>
    cases h with
    | empty => exact Or.inl ⟨rfl, rfl⟩
    | node ha hl hr => exact Or.inr ⟨_, _, _, _, rfl, rfl, ha, .empty⟩
  | cons turn turns ih =>
    cases h with
    | empty => exact Or.inl ⟨rfl, rfl⟩
    | node ha hl hr =>
      cases turn with
      | false =>
        obtain ⟨h, h'⟩ | ⟨x, u, x', u', h, h', hx, hu⟩ := ih hl
        · exact Or.inl ⟨by rw [Tree.removeAt, h]; rfl, by rw [Tree.removeAt, h']; rfl⟩
        · exact Or.inr ⟨_, _, _, _, by rw [Tree.removeAt, h]; rfl, by rw [Tree.removeAt, h']; rfl,
            hx, .node ha hu hr⟩
      | true =>
        obtain ⟨h, h'⟩ | ⟨x, u, x', u', h, h', hx, hu⟩ := ih hr
        · exact Or.inl ⟨by rw [Tree.removeAt, h]; rfl, by rw [Tree.removeAt, h']; rfl⟩
        · exact Or.inr ⟨_, _, _, _, by rw [Tree.removeAt, h]; rfl, by rw [Tree.removeAt, h']; rfl,
            hx, .node ha hl hu⟩

end Matches

end Tree

/-! ## Queues

Each of the three invariants is carried over to the operations that a merge uses: adding an item and
taking out the first one. -/

namespace Queue

variable {α β : Type} {q q' : Queue α} {before : α → α → Bool} {x first : α}

/-- The items stand at the places from 1 to the queue's size. -/
def IsFull (q : Queue α) : Prop := q.tree.Fills q.size 1

@[simp] theorem toList_empty : (empty : Queue α).toList = [] := rfl

theorem isFull_empty : (empty : Queue α).IsFull := Nat.zero_lt_one

/-- **Adding an item adds just it.** -/
theorem IsFull.push (h : q.IsFull) :
    (q.push before x).IsFull ∧ (q.push before x).toList ~ x :: q.toList :=
  Tree.insertAt_spec Nat.one_pos h (Tree.placeFrom_path (Nat.succ_pos q.size))

/-- Only a queue without items has nothing to take out. -/
theorem IsFull.pop?_eq_none (h : q.IsFull) : q.pop? before = none ↔ q.toList = [] := by
  obtain ⟨tree, size⟩ := q
  constructor
  · intro hpop
    cases size with
    | zero =>
      have hfills : tree.Fills 0 1 := h
      cases tree with
      | empty => rfl
      | node a left right => exact absurd hfills.1 (by decide)
    | succ n =>
      obtain ⟨last, t, heq, -⟩ := Tree.exists_removeAt_eq Nat.one_pos h
        (Tree.placeFrom_path (Nat.succ_pos n))
      rw [pop?, heq] at hpop
      cases t <;> exact nomatch hpop
  · intro hnil
    cases tree with
    | empty => rw [pop?]; cases Tree.path size <;> rfl
    | node a left right => exact nomatch hnil

/-- What taking out does: it takes the last item away, and the item at the root unless that is the
same, in whose place the last one sinks. -/
theorem IsFull.pop?_cases (h : q.IsFull) (hpop : q.pop? before = some (first, q')) :
    ∃ last t, q.tree.removeAt (Tree.path q.size) = some (last, t) ∧ t.Fills (q.size - 1) 1 ∧
      q.toList ~ last :: t.toList ∧
      (t = .empty ∧ first = last ∧ q' = empty ∨
        t.root? = some first ∧ q' = ⟨(t.sink before last).1, q.size - 1⟩) := by
  obtain ⟨tree, size⟩ := q
  cases size with
  | zero =>
    have hfills : tree.Fills 0 1 := h
    cases tree with
    | empty => exact nomatch hpop
    | node a left right => exact absurd hfills.1 (by decide)
  | succ n =>
    obtain ⟨last, t, heq, hfills, hlist⟩ := Tree.exists_removeAt_eq Nat.one_pos h
      (Tree.placeFrom_path (Nat.succ_pos n))
    refine ⟨last, t, heq, hfills, hlist, ?_⟩
    rw [pop?, heq] at hpop
    cases t with
    | empty =>
      obtain ⟨rfl, rfl⟩ := Prod.mk.inj (Option.some.inj hpop)
      exact Or.inl ⟨rfl, rfl, rfl⟩
    | node a left right =>
      obtain ⟨rfl, rfl⟩ := Prod.mk.inj (Option.some.inj hpop)
      exact Or.inr ⟨rfl, rfl⟩

/-- **Taking out takes just the first item.** -/
theorem IsFull.perm_pop? (h : q.IsFull) (hpop : q.pop? before = some (first, q')) :
    q'.IsFull ∧ q.toList ~ first :: q'.toList := by
  obtain ⟨last, t, -, hfills, hlist, ⟨rfl, rfl, rfl⟩ | ⟨hroot, rfl⟩⟩ := h.pop?_cases hpop
  · exact ⟨isFull_empty, hlist⟩
  · cases t with
    | empty => exact nomatch hroot
    | node a left right =>
      obtain rfl : a = first := Option.some.inj hroot
      have hsink : (Tree.sink before last (.node a left right)).1.Fills _ _ ∧ _ :=
        Tree.sink_spec hfills
      obtain ⟨hfills', hperm⟩ := hsink
      exact ⟨hfills', hlist.trans ((List.Perm.swap _ _ _).trans ((hperm nofun).symm.cons a))⟩

/-! The order needs a preorder among the items. -/

/-- No item comes before one that stands above it in the tree. -/
def IsOrdered (before : α → α → Bool) (q : Queue α) : Prop := q.tree.IsHeap before

theorem isOrdered_empty : (empty : Queue α).IsOrdered before := trivial

section Order

variable {P : α → Prop}

theorem IsOrdered.push (hranks : Tree.Ranks before P) (hx : P x) (hP : ∀ b ∈ q.toList, P b)
    (hfull : q.IsFull) (h : q.IsOrdered before) : (q.push before x).IsOrdered before :=
  (Tree.settled_insertAt hranks hx hP Nat.one_pos hfull
    (Tree.placeFrom_path (Nat.succ_pos q.size)) h).heap

/-- **What is taken out comes first**: no item that stays precedes it. -/
theorem IsOrdered.pop? (hranks : Tree.Ranks before P) (hP : ∀ b ∈ q.toList, P b)
    (hfull : q.IsFull) (h : q.IsOrdered before) (hpop : q.pop? before = some (first, q')) :
    q'.IsOrdered before ∧ ∀ b ∈ q'.toList, before b first = false := by
  have hperm := (hfull.perm_pop? hpop).2
  obtain ⟨last, t, hremove, hfills, hlist, ⟨rfl, rfl, rfl⟩ | ⟨hroot, rfl⟩⟩ :=
    hfull.pop?_cases hpop
  · exact ⟨isOrdered_empty, by simp [empty, toList, Tree.toList]⟩
  · obtain ⟨hheap, hsub, hkeep⟩ := Tree.isHeap_removeAt hremove h
    have hlast : P last := hP last (hlist.symm.subset List.mem_cons_self)
    have hrest : ∀ b ∈ t.rest, P b := by
      cases t with
      | empty => exact nomatch hroot
      | node a left right => exact fun b hb => hP b (hsub b (List.mem_cons_of_mem a hb))
    have hne : t ≠ .empty := by
      rintro rfl
      exact nomatch hroot
    refine ⟨(Tree.settled_sink hranks hlast hrest hfills hheap hne).heap, ?_⟩
    -- the first item was the root of the whole tree already
    obtain ⟨tree, size⟩ := q
    have hfirst : tree.root? = some first := hkeep first hroot
    cases tree with
    | empty => exact nomatch hfirst
    | node a left right =>
      obtain rfl : a = first := Option.some.inj hfirst
      exact fun b hb => h.1 b (hperm.cons_inv.symm.subset hb)

end Order

/-! Only comparisons matter. -/

/-- Queues of one shape with matching items at each place. -/
def Matches (R : α → β → Prop) (q : Queue α) (q' : Queue β) : Prop :=
  q.tree.Matches R q'.tree ∧ q.size = q'.size

section Matches

variable {R : α → β → Prop} {before' : β → β → Bool} {p : Queue β}

theorem matches_empty : (empty : Queue α).Matches R (empty : Queue β) := ⟨.empty, rfl⟩

theorem Matches.mono {S : α → β → Prop} (hRS : ∀ a b, R a b → S a b) (h : q.Matches R p) :
    q.Matches S p := ⟨h.1.mono hRS, h.2⟩

/-- **Matching queues match after matching items are added.** -/
theorem Matches.push (hagree : Tree.Agree R before before') {y : β} (hx : R x y)
    (h : q.Matches R p) : (q.push before x).Matches R (p.push before' y) := by
  obtain ⟨htree, hsize⟩ := h
  refine ⟨?_, congrArg (· + 1) hsize⟩
  rw [Queue.push, Queue.push, hsize]
  exact (htree.insertAt hagree hx _).1

/-- **Matching queues give matching items**, and go on matching. -/
theorem Matches.pop? (hagree : Tree.Agree R before before') (h : q.Matches R p) :
    (q.pop? before = none ∧ p.pop? before' = none) ∨
      ∃ a q' b p', q.pop? before = some (a, q') ∧ p.pop? before' = some (b, p') ∧ R a b ∧
        q'.Matches R p' := by
  obtain ⟨tree, size⟩ := q
  obtain ⟨tree', size'⟩ := p
  obtain ⟨htree, rfl : size = size'⟩ := h
  rw [Queue.pop?, Queue.pop?]
  obtain ⟨h, h'⟩ | ⟨x, u, x', u', h, h', hx, hu⟩ := htree.removeAt (Tree.path size)
  · exact Or.inl ⟨by rw [h], by rw [h']⟩
  · refine Or.inr ?_
    rw [h, h']
    cases hu with
    | empty => exact ⟨_, _, _, _, rfl, rfl, hx, matches_empty⟩
    | node ha hl hr =>
      exact ⟨_, _, _, _, rfl, rfl, ha, ((Tree.Matches.node ha hl hr).sink hagree hx).1, rfl⟩

end Matches

end Queue

end ScatterGather
