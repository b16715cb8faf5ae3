import ScatterGather.Proofs.Inline.RoundTrip
import ScatterGather.Proofs.Sharding.Target
import ScatterGather.Proofs.Text.Name

/-!
# Proofs/Sharding/ModuloTemplate — one number, computed and spelled

Targets are numbered from zero, each named by one beginning and its number.  MOD computes a number
and looks for the target whose name ends in it; INLINE spells the whole name and looks for the
target of that name.  Both find the number's target and no other (`find?_suffixNumber`,
`find?_sameName`), so **MOD and the template of a remainder choose the same target**
(`exists_target_remainder`).
-/

namespace ScatterGather.Sharding

variable {base column : String} {targets : List String} {v : Value} {n i : Int64} {k count : Nat}

/-! ## Numbered targets

A number has one numeral without zeros in front, and the number at the end of a name is read back up
to the first character that is no digit.  Hence the condition on what stands before the number. -/

/-- The targets are a beginning with each of the numbers below the count, in any order. -/
def AreNumbered (base : String) (count : Nat) (targets : List String) : Prop :=
  targets.Perm ((List.range count).map fun k => base ++ Text.ofNat k)

instance : Decidable (AreNumbered base count targets) := inferInstanceAs (Decidable (List.Perm _ _))

/-- The targets are the names with the numbers below the count. -/
theorem AreNumbered.mem_iff (h : AreNumbered base count targets) {t : String} :
    t ∈ targets ↔ ∃ k < count, t = base ++ Text.ofNat k := by
  rw [List.Perm.mem_iff h, List.mem_map]
  simp [eq_comm]

/-- **The only item that passes a test is found.** -/
theorem find?_eq_some_of_unique {α : Type} {p : α → Bool} {l : List α} {a : α} (ha : a ∈ l)
    (hp : p a = true) (h : ∀ b ∈ l, p b = true → b = a) : l.find? p = some a := by
  obtain ⟨b, hb⟩ := Option.isSome_iff_exists.1 (List.find?_isSome.2 ⟨a, ha, hp⟩)
  rw [hb, h b (List.mem_of_find?_eq_some hb) (List.find?_some hb)]

/-- A number is written in digits. -/
theorem isDigit_toDigits (k : Nat) : ∀ c ∈ Nat.toDigits 10 k, c.isDigit = true := fun _ =>
  Nat.isDigit_of_mem_toDigits (by decide) (by decide)

/-- **A name ends in its number**, if what stands before ends in no digit. -/
theorem suffixNumber?_append (hbase : ∀ c ∈ base.toList.getLast?, c.isDigit = false) (k : Nat) :
    suffixNumber? (base ++ Text.ofNat k) = Text.toInt64? k := by
  have hdigits : ∀ c ∈ (Nat.toDigits 10 k).reverse, c.isDigit = true := fun c hc =>
    isDigit_toDigits k c (List.mem_reverse.1 hc)
  have hstops : Inline.Stops Char.isDigit base.toList.reverse := by
    rwa [Inline.Stops, List.head?_reverse]
  have hname : (base ++ Text.ofNat k).toList.reverse =
      (Nat.toDigits 10 k).reverse ++ base.toList.reverse := by simp [Text.ofNat]
  rw [suffixNumber?, hname, Inline.takeWhile_append_of_stops hdigits hstops, List.reverse_reverse]
  have hnumeral := Text.integer?_signedDigits false k
  rw [Text.signedDigits, if_neg Bool.false_ne_true, if_neg Bool.false_ne_true,
    List.nil_append] at hnumeral
  rw [Text.int64?, hnumeral, Option.bind_some]

/-- Digits have one case. -/
theorem toLower_of_isDigit {c : Char} (h : c.isDigit = true) : c.toLower = c := by
  refine Char.toNat_inj.1 ?_
  have hrange := Text.toNat_of_isDigit h
  rw [Text.toNat_toLower, if_neg (by omega)]

/-- **Names with one beginning match when their numbers are equal.** -/
theorem sameName_append_iff {j : Nat} :
    Text.sameName (base ++ Text.ofNat j) (base ++ Text.ofNat k) = true ↔ j = k := by
  have hfold (k : Nat) : Text.foldName (base ++ Text.ofNat k) =
      Text.foldName base ++ Nat.toDigits 10 k := by
    rw [Text.foldName, String.toList_append, List.map_append, Text.ofNat, String.toList_ofList,
      List.map_congr_left fun c hc => toLower_of_isDigit (isDigit_toDigits k c hc), List.map_id']
    rfl
  rw [Text.sameName_iff, hfold, hfold, List.append_cancel_left_eq]
  refine ⟨fun h => ?_, fun h => h ▸ rfl⟩
  have hread := Text.natural?_toDigits j
  rw [h, Text.natural?_toDigits] at hread
  exact (Option.some.inj hread).symm

/-! ## Finding a target

Each of the two searches passes exactly one target, so it does not matter in which order they
stand. -/

section Find

variable (htargets : AreNumbered base count targets) (hk : k < count)

include htargets hk

/-- The number finds its target. -/
theorem find?_suffixNumber (hcount : count ≤ 2 ^ 63)
    (hbase : ∀ c ∈ base.toList.getLast?, c.isDigit = false) :
    targets.find? (fun t => (suffixNumber? t).map Int64.toInt == some (k : Int)) =
      some (base ++ Text.ofNat k) := by
  have hnumber (j : Nat) (hj : j < count) :
      (suffixNumber? (base ++ Text.ofNat j)).map Int64.toInt = some (j : Int) := by
    rw [suffixNumber?_append hbase, Text.toInt64?, if_pos (by omega), Option.map_some,
      Int64.toInt_ofInt_of_le (by omega) (by omega)]
  refine find?_eq_some_of_unique (htargets.mem_iff.2 ⟨k, hk, rfl⟩) (by simp [hnumber k hk]) ?_
  intro t ht hfound
  obtain ⟨j, hj, rfl⟩ := htargets.mem_iff.1 ht
  rw [hnumber j hj, beq_iff_eq, Option.some.injEq, Int.natCast_inj] at hfound
  rw [hfound]

/-- The name finds its target. -/
theorem find?_sameName :
    targets.find? (fun t => Text.sameName t (base ++ Text.ofNat k)) =
      some (base ++ Text.ofNat k) := by
  refine find?_eq_some_of_unique (htargets.mem_iff.2 ⟨k, hk, rfl⟩) (Text.sameName_refl _) ?_
  intro t ht hfound
  obtain ⟨j, -, rfl⟩ := htargets.mem_iff.1 ht
  rw [sameName_append_iff.1 hfound]

end Find

/-! ## The template

The remainder is written as a template, with a blank on either side of its operator, so that it is
one text that both parsing and evaluating can be asked about. -/

/-- The text of a template that ends in the remainder of a column by a number. -/
def remainderText (base column : String) (n : Int64) : String :=
  base ++ "$\x7b" ++ column ++ " % " ++ Text.ofInt n.toInt ++ "\x7d"

/-- The placeholder of the remainder. -/
def remainder (column : String) (n : Int64) : Inline.Placeholder :=
  .column column (some (.modulo, n))

/-- The beginning, if there is any, and the remainder. -/
def remainderSegments (base column : String) (n : Int64) : List Inline.Segment :=
  if base = "" then [.placeholder (remainder column n)]
  else [.literal base, .placeholder (remainder column n)]

/-- A blank on either side of an operator, and no others. -/
def spacedOperator : Inline.Layout :=
  { arrow := false, inside := .none, item := fun _ => .none,
    operator := { before := [' '], after := [' '] } }

/-- The text is one writing of the segments. -/
theorem written_remainderSegments (base column : String) (n : Int64) :
    String.ofList (Inline.written (fun _ => spacedOperator) (remainderSegments base column n)) =
      remainderText base column n := by
  refine String.toList_inj.1 ?_
  rw [remainderSegments]
  split <;>
    simp [*, Inline.written, Inline.Layout.write, Inline.Layout.opener, Inline.Layout.body,
      Inline.Margins.around, Inline.Margins.none, Inline.digits, Inline.Operator.symbol,
      spacedOperator, remainder, remainderText]

/-- The segments can be written. -/
theorem areWritable_remainderSegments (hname : Inline.IsName column.toList)
    (hopener : ¬ Inline.HasOpener base.toList)
    (hblank : ∀ c ∈ base.toList.head?, Text.isBlank c = false) (n : Int64) :
    Inline.AreWritable (remainderSegments base column n) := by
  rw [remainderSegments]
  split
  · exact
      { each := List.forall_mem_singleton.2 hname
        apart := by simp
        first := nofun
        last := nofun }
  · rename_i hne
    exact
      { each := List.forall_mem_cons.2 ⟨⟨hne, hopener⟩, List.forall_mem_singleton.2 hname⟩
        apart := by simp [Inline.Segment.isLiteral]
        first := by
          rintro _ ⟨rfl⟩
          exact hblank
        last := nofun }

/-- **The text parses as the beginning and the remainder.** -/
theorem parse_remainderText (hname : Inline.IsName column.toList)
    (hopener : ¬ Inline.HasOpener base.toList)
    (hblank : ∀ c ∈ base.toList.head?, Text.isBlank c = false) (n : Int64) :
    Inline.Template.parse (remainderText base column n) =
      .ok ⟨remainderText base column n, remainderSegments base column n⟩ := by
  have hparse := Inline.parse_written
    (areWritable_remainderSegments hname hopener hblank n) fun _ => spacedOperator
  rwa [written_remainderSegments] at hparse

/-- **A template of a remainder spells the number's name.** -/
theorem evaluate_remainder (hn : 0 < n.toInt) (hv : v.int? = some i) (source : String) :
    (Inline.Template.mk source (remainderSegments base column n)).evaluate column v =
      .ok (base ++ Text.ofInt (i.toInt % n.toInt)) := by
  have hlow := Int.emod_nonneg i.toInt (Int.ne_of_gt hn)
  have hhigh := Int.lt_trans (Int.emod_lt_of_pos i.toInt hn) n.toInt_lt
  have happly : Inline.Operator.modulo.apply? i.toInt n.toInt =
      some (Int64.ofInt (i.toInt % n.toInt)) := by
    unfold Inline.Operator.apply?
    rw [if_neg (by omega), Text.toInt64?, if_pos (by omega)]
  have hsegment : Inline.Segment.evaluate source column v (.placeholder (remainder column n)) =
      .ok (Text.ofInt (i.toInt % n.toInt)) := by
    rw [remainder, Inline.Segment.evaluate, if_pos (Text.sameName_refl column),
      Inline.columnText, hv]
    dsimp only
    rw [happly]
    dsimp only
    rw [Int64.toInt_ofInt_of_le (by omega) (by omega)]
  have hliteral : Inline.Segment.evaluate source column v (.literal base) = .ok base := rfl
  rw [Inline.Template.evaluate, remainderSegments]
  split
  · rename_i hbase
    rw [mapM_eq_ok.2 (.cons hsegment .nil), hbase]
    rfl
  · rw [mapM_eq_ok.2 (.cons hliteral (.cons hsegment .nil))]
    simp [Except.map]

/-- The template is about the column alone. -/
theorem columns_remainderSegments (source base column : String) (n : Int64) :
    (Inline.Template.mk source (remainderSegments base column n)).columns = [column] := by
  rw [remainderSegments]
  split <;> rfl

/-! ## The two algorithms

Both algorithms are built from texts, as settings have them. -/

namespace Algorithm

/-- The count is read from its digits. -/
theorem create_modulo (hn : 0 < n.toInt) :
    create "MOD" [("sharding-count", Text.ofInt n.toInt)] = .ok (.modulo n.toInt.toNat) := by
  have hname : Text.upper "MOD" = "MOD" := by decide +kernel
  have hblank : ∀ c ∈ (Text.ofInt n.toInt).toList, Text.isBlank c = false := by
    rw [Text.ofInt_eq]
    exact Text.isBlank_of_mem_signedDigits
  have hread : Text.int64? (Text.trimChars (Text.ofInt n.toInt).toList) = some n :=
    (Text.trimChars_eq_self hblank).symm ▸ (Inline.denotes_digits n).2
  have hpositive : Option.filter (fun m : Int64 => 0 < m.toInt) (some n) = some n :=
    Option.filter_some_pos (decide_eq_true hn)
  rw [create, hname, if_pos rfl, shardingCount, required, List.lookup_cons_self]
  simp only [bind, Except.bind, hread, hpositive, Except.map]

/-- The template is read from its text. -/
theorem create_inline (hname : Inline.IsName column.toList)
    (hopener : ¬ Inline.HasOpener base.toList)
    (hblank : ∀ c ∈ base.toList.head?, Text.isBlank c = false) (n : Int64) :
    create "INLINE" [("algorithm-expression", remainderText base column n)] =
      .ok (.inline ⟨remainderText base column n, remainderSegments base column n⟩) := by
  have hupper : Text.upper "INLINE" = "INLINE" := by decide +kernel
  rw [create, hupper, if_neg (by decide), if_neg (by decide), if_pos rfl, inlineTemplate, required,
    List.lookup_cons_self]
  simp [parse_remainderText hname hopener hblank, columns_remainderSegments, Except.map, bind,
    Except.bind]

section Target

variable (hn : 0 < n.toInt) (htargets : AreNumbered base n.toInt.toNat targets)
  (hv : v.int? = some i)

include hn

/-- The remainder is a number of a target. -/
theorem exists_emod_eq (i : Int64) :
    ∃ k < n.toInt.toNat, i.toInt % n.toInt = (k : Int) ∧
      Text.ofInt (i.toInt % n.toInt) = Text.ofNat k := by
  obtain ⟨k, hk⟩ := Int.eq_ofNat_of_zero_le (Int.emod_nonneg i.toInt (Int.ne_of_gt hn))
  have hlt := Int.emod_lt_of_pos i.toInt hn
  refine ⟨k, by omega, hk, ?_⟩
  rw [hk]
  rfl

include htargets hv

/-- The template's target is the one with the number of the remainder. -/
theorem target_inline (source : String) :
    (inline ⟨source, remainderSegments base column n⟩).target targets column v =
      .ok (base ++ Text.ofInt (i.toInt % n.toInt)) := by
  obtain ⟨k, hk, -, hspelled⟩ := exists_emod_eq hn i
  rw [target, evaluate_remainder hn hv, hspelled]
  dsimp only
  rw [find?_sameName htargets hk]

/-- The target of MOD is the one with the number of the remainder. -/
theorem target_modulo (hdigit : ∀ c ∈ base.toList.getLast?, c.isDigit = false) :
    (modulo n.toInt.toNat).target targets column v =
      .ok (base ++ Text.ofInt (i.toInt % n.toInt)) := by
  obtain ⟨k, hk, hnumber, hspelled⟩ := exists_emod_eq hn i
  have hcount : (n.toInt.toNat : Int) = n.toInt := Int.toNat_of_nonneg (Int.le_of_lt hn)
  have hlong : integerValue v = .ok i := by rw [integerValue, hv]
  have hfound := find?_suffixNumber htargets hk (by have := n.toInt_lt; omega) hdigit
  rw [← hnumber, ← hcount] at hfound
  rw [target, hlong, hspelled]
  exact targetWithSuffix_eq_ok.2 hfound

end Target

/-- **MOD and the template of the remainder choose the same target.**  The count is one that both
algorithms read, an integer of 64 bits. -/
theorem exists_target_remainder (hn : 1 ≤ n.toInt) (hopener : ¬ Inline.HasOpener base.toList)
    (hblank : ∀ c ∈ base.toList.head?, Text.isBlank c = false)
    (hdigit : ∀ c ∈ base.toList.getLast?, c.isDigit = false)
    (htargets : AreNumbered base n.toInt.toNat targets) (hname : Inline.IsName column.toList)
    (hv : v.int? = some i) :
    ∃ inline modulo,
      create "INLINE" [("algorithm-expression", remainderText base column n)] = .ok inline ∧
      create "MOD" [("sharding-count", Text.ofInt n.toInt)] = .ok modulo ∧
      inline.target targets column v = .ok (base ++ Text.ofInt (i.toInt % n.toInt)) ∧
      modulo.target targets column v = .ok (base ++ Text.ofInt (i.toInt % n.toInt)) := by
  have hpos : 0 < n.toInt := Int.lt_of_lt_of_le Int.zero_lt_one hn
  exact ⟨_, _, create_inline hname hopener hblank n, create_modulo hpos,
    target_inline hpos htargets hv _, target_modulo hpos htargets hv hdigit⟩

/-- The least integer has remainder 1 by 3; its target stands last. -/
theorem exists_target_remainder_least : ∃ inline modulo,
    create "INLINE" [("algorithm-expression", "t_$\x7border_id % 3\x7d")] = .ok inline ∧
    create "MOD" [("sharding-count", "3")] = .ok modulo ∧
    inline.target ["t_2", "t_0", "t_1"] "order_id" (.integer Int64.minValue) = .ok "t_1" ∧
    modulo.target ["t_2", "t_0", "t_1"] "order_id" (.integer Int64.minValue) = .ok "t_1" :=
  @exists_target_remainder "t_" "order_id" ["t_2", "t_0", "t_1"] (.integer Int64.minValue) 3
    Int64.minValue (by decide) (by decide +kernel) (by rintro _ ⟨rfl⟩; decide)
    (by rintro _ ⟨rfl⟩; decide) (by decide +kernel) (by decide +kernel) rfl

end Algorithm

end ScatterGather.Sharding
