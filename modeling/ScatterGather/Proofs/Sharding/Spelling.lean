import ScatterGather.Proofs.Outcome
import ScatterGather.Proofs.Text.Numeral
import ScatterGather.Proofs.Value.Rank
import ScatterGather.Proofs.Value.WholeNumber
import ScatterGather.Sharding.Algorithm

/-!
# Proofs/Sharding/Spelling — targets of equal values

Values that compare equal may be spelled differently: `1.5` and `1.50`, a day and its midnight.
Algorithms that read an integer see a spelling only by its places (`integerValue_of_order?`);
algorithms that take the text see all of it, and equal values have the same text if they also agree
on places, on the sign of a zero and on being a day (`render_eq_of_order?`).  So
**equal values of one form share a target** (`target_of_order?`).
-/

namespace ScatterGather

open Sharding

/-! ## Spellings

The three ways in which equal values may be spelled apart: places after the point, the sign of a
zero, and a day written with its time or without. -/

namespace Value

/-- The places after the point of a decimal; other values have none. -/
def places : Value → Nat
  | numeric d => d.scale
  | _ => 0

/-- Whether the value is a zero with a minus sign. -/
def isNegativeZero : Value → Bool
  | numeric d => d.negative && d.coefficient = 0
  | _ => false

/-- Whether the value is a day. -/
def isDay : Value → Bool
  | date _ => true
  | _ => false

/-- Two values are of one form. -/
structure SameForm (a b : Value) : Prop where
  places : a.places = b.places
  negativeZero : a.isNegativeZero = b.isNegativeZero
  day : a.isDay = b.isDay

end Value

/-! ## Texts of numbers and days

What is written is read again only in part: a text with a point or a hyphen inside is no integer. -/

namespace Decimal

variable {d e : Decimal}

/-- A decimal without places is written as its digits. -/
theorem toList_render_of_scale (h : d.scale = 0) :
    d.render.toList = Text.signedDigits d.negative d.coefficient := by
  simp [render, h, Text.paddedDigits_one, Text.signedDigits]

/-- The decimal of an integer has the integer's parts. -/
theorem ofInt64_parts (n : Int64) : (ofInt64 n).scale = 0 ∧
    (ofInt64 n).coefficient = n.toInt.natAbs ∧ (ofInt64 n).negative = decide (n.toInt < 0) := by
  have hlt : n.toInt.natAbs < 2 ^ 96 := by
    have := n.toInt_lt
    have := n.le_toInt
    omega
  rw [ofInt64, make?, ofParts?, dif_pos ⟨hlt, by decide⟩, Option.getD_some]
  refine ⟨rfl, rfl, ?_⟩
  by_cases h : n.toInt < 0
  · have hne : n.toInt.natAbs ≠ 0 := by omega
    simp [h, hne]
  · simp [h]

/-- **An integer is written as its decimal.** -/
theorem render_ofInt64 (n : Int64) : (ofInt64 n).render = Text.ofInt n.toInt := by
  obtain ⟨hscale, hcoefficient, hnegative⟩ := ofInt64_parts n
  refine String.toList_inj.1 ?_
  rw [toList_render_of_scale hscale, hcoefficient, hnegative, Text.ofInt_eq]

/-- Decimals of one number, one scale and one sign are one. -/
theorem eq_of_atMaxScale (h : d.atMaxScale = e.atMaxScale) (hscale : d.scale = e.scale)
    (hzero : (d.negative && d.coefficient = 0) = (e.negative && e.coefficient = 0)) : d = e := by
  have hsigned : d.signedCoefficient = e.signedCoefficient := by
    rw [atMaxScale, atMaxScale, hscale] at h
    exact mul_right_cancel₀ (pow_scale_ne_zero _) h
  obtain ⟨negative, coefficient, scale, _, _⟩ := d
  obtain ⟨negative', coefficient', scale', _, _⟩ := e
  obtain rfl : scale = scale' := hscale
  have hcoefficient : coefficient = coefficient' := by
    have habs := congrArg Int.natAbs hsigned
    simp only [signedCoefficient] at habs
    split at habs <;> split at habs <;> simpa using habs
  subst hcoefficient
  have hnegative : negative = negative' := by
    cases negative <;> cases negative' <;> simp [signedCoefficient] at hsigned hzero ⊢ <;> omega
  subst hnegative
  rfl

/-- **A decimal is read as an integer if it is written without places.** -/
theorem int64?_render (d : Decimal) : Text.int64? (Text.trimChars d.render.toList) =
    if d.scale = 0 then Text.toInt64? d.signedCoefficient else none := by
  split
  · rename_i h
    rw [toList_render_of_scale h, Text.int64?_trimChars_signedDigits]
    rfl
  · rename_i h
    have hlength := Text.le_length_paddedDigits (d.scale + 1) d.coefficient
    simp only [render, h, if_false, String.toList_ofList]
    refine Text.int64?_trimChars_eq_none ?_ ?_ (by decide) (by decide)
    · refine List.append_ne_nil_of_right_ne_nil _ (List.ne_nil_of_length_pos ?_)
      rw [List.length_take]
      omega
    · intro x hx
      obtain hx | hx := List.mem_append.1 hx
      · cases hneg : d.negative with
        | true =>
          obtain rfl : x = '-' := by simpa [hneg] using hx
          decide
        | false => simp [hneg] at hx
      · exact Text.isBlank_eq_false_of_isDigit
          (Text.isDigit_of_mem_paddedDigits (List.mem_of_mem_take hx))

end Decimal

namespace Date

/-- A year is written with some character. -/
theorem yearText_ne_nil (year : Int) : (yearText year).toList ≠ [] := by
  have hpadded : ∀ n, Text.paddedDigits 4 n ≠ [] := fun n =>
    List.ne_nil_of_length_pos (Nat.lt_of_lt_of_le (by decide) (Text.le_length_paddedDigits 4 n))
  rw [yearText]
  split <;> simp [Text.padded, hpadded]

/-- No character of a year is blank. -/
theorem isBlank_of_mem_yearText {year : Int} :
    ∀ c ∈ (yearText year).toList, Text.isBlank c = false := by
  intro c hc
  have hpadded : ∀ n, c ∈ Text.paddedDigits 4 n → Text.isBlank c = false := fun n hc =>
    Text.isBlank_eq_false_of_isDigit (Text.isDigit_of_mem_paddedDigits hc)
  rw [yearText] at hc
  split at hc
  · exact hpadded _ (by simpa [Text.padded] using hc)
  · rw [String.toList_append, List.mem_append] at hc
    obtain hc | hc := hc
    · split at hc <;> obtain rfl := List.mem_singleton.1 hc <;> decide
    · exact hpadded _ (by simpa [Text.padded] using hc)

/-- A text that begins with a day is not read as an integer: a hyphen follows the year. -/
theorem int64?_render_append (d : Date) (cs : List Char) :
    Text.int64? (Text.trimChars (d.render.toList ++ cs)) = none := by
  have hrender : d.render.toList = (yearText d.civil.1).toList ++ '-' ::
      ((Text.padded 2 d.civil.2.1).toList ++ '-' :: (Text.padded 2 d.civil.2.2).toList) := by
    simp [render]
  rw [hrender, List.append_assoc, List.cons_append]
  exact Text.int64?_trimChars_eq_none (yearText_ne_nil _) isBlank_of_mem_yearText (by decide)
    (by decide)

end Date

namespace Value

variable {a b : Value}

/-- A value ranked as a number is a decimal or fits into one. -/
theorem exists_decimal?_of_rank? {n : Int} (h : a.rank? = some (.point .number n)) :
    ∃ d, a.decimal? = some d ∧ d.atMaxScale = n := by
  cases a with
  | smallInt m | integer m =>
    refine ⟨_, rfl, ?_⟩
    rw [Decimal.atMaxScale_ofInt64]
    cases h
    rfl
  | numeric d =>
    cases h
    exact ⟨d, rfl, rfl⟩
  | _ => exact nomatch h

/-- A value ranked as a text has that text. -/
theorem text?_of_rank? {s : String} (h : a.rank? = some (.text s)) : a.text? = some s := by
  cases a <;> cases h <;> rfl

/-- A value ranked as an instant is one, or a day. -/
theorem cases_of_rank?_instant {n : Int} (h : a.rank? = some (.point .instant n)) :
    (∃ d, a = date d ∧ d.midnight.nanos = n) ∨ a = timestamp ⟨n⟩ := by
  cases a with
  | date d =>
    cases h
    exact Or.inl ⟨d, rfl, rfl⟩
  | timestamp m =>
    cases h
    exact Or.inr rfl
  | _ => exact nomatch h

/-- Otherwise a value is the only one of its rank. -/
theorem eq_of_rank? {x : Rank} (hx : a.rank? = some x) (hbx : b.rank? = some x)
    (htext : ∀ s, x ≠ .text s) (hnumber : ∀ n, x ≠ .point .number n)
    (hinstant : ∀ n, x ≠ .point .instant n) : a = b := by
  cases a
  case real | json => cases hx
  case text | char => exact absurd (Option.some.inj hx).symm (htext _)
  case smallInt | integer | numeric => exact absurd (Option.some.inj hx).symm (hnumber _)
  case date | timestamp => exact absurd (Option.some.inj hx).symm (hinstant _)
  all_goals
    obtain rfl := Option.some.inj hx
    cases b <;> simp [rank?] at hbx
  case null.null => rfl
  case boolean.boolean x y => cases x <;> cases y <;> first | rfl | cases hbx
  case timestampTz.timestampTz m m' => exact congrArg (fun n => timestampTz ⟨n⟩) hbx.symm
  case uuid.uuid u u' => exact congrArg uuid (BitVec.eq_of_toNat_eq hbx.symm)
  case bytea.bytea bs cs =>
    exact congrArg bytea (List.map_injective_iff.2 (fun _ _ => UInt8.toNat_inj.1) hbx.symm)

/-- **Values that compare equal**, doubles aside, are one value, or have one text, or one number, or
are a day and its midnight. -/
theorem cases_of_order? (ha : a.isReal = false) (hb : b.isReal = false)
    (h : a.order? b = some .eq) :
    a = b ∨ (∃ s, a.text? = some s ∧ b.text? = some s) ∨
      (∃ d e, a.decimal? = some d ∧ b.decimal? = some e ∧ d.atMaxScale = e.atMaxScale) ∨
      ∃ d m, (a = date d ∧ b = timestamp m) ∨ (a = timestamp m ∧ b = date d) := by
  obtain ⟨x, hx, hbx⟩ : ∃ x, a.rank? = some x ∧ b.rank? = some x := by
    have hrank := rank?_eq_of_order? ha hb h
    rw [order?_eq ha hb] at h
    obtain ⟨x, hx, -⟩ := Option.bind_eq_some_iff.1 h
    exact ⟨x, hx, hrank ▸ hx⟩
  match x, hx, hbx with
  | .text s, hx, hbx => exact .inr (.inl ⟨s, text?_of_rank? hx, text?_of_rank? hbx⟩)
  | .point .number n, hx, hbx =>
    obtain ⟨d, hd, hdn⟩ := exists_decimal?_of_rank? hx
    obtain ⟨e, he, hen⟩ := exists_decimal?_of_rank? hbx
    exact .inr (.inr (.inl ⟨d, e, hd, he, hdn.trans hen.symm⟩))
  | .point .instant n, hx, hbx =>
    obtain ⟨d, rfl, hd⟩ | rfl := cases_of_rank?_instant hx <;>
      obtain ⟨e, rfl, he⟩ | rfl := cases_of_rank?_instant hbx
    · have hdays : d.days = e.days := Int.eq_of_mul_eq_mul_right (by decide) (hd.trans he.symm)
      exact .inl (congrArg (fun n => date ⟨n⟩) hdays)
    · exact .inr (.inr (.inr ⟨d, _, .inl ⟨rfl, rfl⟩⟩))
    · exact .inr (.inr (.inr ⟨e, _, .inr ⟨rfl, rfl⟩⟩))
    · exact .inl rfl
  | .point .null n, hx, hbx | .point .boolean n, hx, hbx | .point .zoned n, hx, hbx
  | .point .uuid n, hx, hbx | .bytes l, hx, hbx =>
    exact .inl (eq_of_rank? hx hbx nofun nofun nofun)

/-! ## What algorithms see of a value

MOD and BOUNDARY_RANGE read an integer, HASH_MOD takes the text, and a template takes the text and
may compute with the integer. -/

/-- A value that is no integer is read from its text. -/
theorem integerValue_of_int?_eq_none (h : a.int? = none) :
    (integerValue a).toOption = Text.int64? (Text.trimChars a.render.toList) := by
  rw [integerValue, h]
  cases Text.int64? (Text.trimChars a.render.toList) <;> rfl

/-- A text is spelled as it is. -/
theorem render_eq_of_text? {s : String} (h : a.text? = some s) : a.render = s ∧ a.int? = none := by
  cases a <;> cases h <;> exact ⟨rfl, rfl⟩

/-- Neither a day nor an instant is read as an integer. -/
theorem integerValue_date (d : Date) : (integerValue (date d)).toOption = none := by
  rw [integerValue_of_int?_eq_none rfl, render, ← List.append_nil d.render.toList]
  exact d.int64?_render_append []

/-- An instant is not read as an integer. -/
theorem integerValue_timestamp (m : Moment) : (integerValue (timestamp m)).toOption = none := by
  rw [integerValue_of_int?_eq_none rfl, render, Moment.render, String.toList_append,
    String.toList_append, List.append_assoc]
  exact m.date.int64?_render_append _

/-- **Numbers are spelled as their decimals**, integers as decimals without places. -/
theorem render_eq_of_decimal? {d : Decimal} (ha : a.isReal = false) (h : a.decimal? = some d) :
    a.render = d.render ∧ a.places = d.scale ∧ a.isNegativeZero = (numeric d).isNegativeZero := by
  have hinteger : ∀ n : Int64, (numeric (.ofInt64 n)).isNegativeZero = false := by
    intro n
    obtain ⟨-, hcoefficient, hnegative⟩ := Decimal.ofInt64_parts n
    simp only [isNegativeZero, hcoefficient, hnegative, Bool.and_eq_false_imp, decide_eq_true_eq,
      decide_eq_false_iff_not]
    omega
  cases a with
  | smallInt n =>
    cases h
    rw [Decimal.render_ofInt64, Int16.toInt_toInt64, hinteger, (Decimal.ofInt64_parts _).1]
    exact ⟨rfl, rfl, rfl⟩
  | integer n =>
    cases h
    rw [Decimal.render_ofInt64, hinteger, (Decimal.ofInt64_parts _).1]
    exact ⟨rfl, rfl, rfl⟩
  | numeric e =>
    cases h
    exact ⟨rfl, rfl, rfl⟩
  | real x => exact nomatch ha
  | _ => exact nomatch h

/-- A number is read as an integer if it is written without places. -/
theorem integerValue_of_decimal? {d : Decimal} (ha : a.isReal = false)
    (h : a.decimal? = some d) : (integerValue a).toOption =
      if a.places = 0 then Text.toInt64? d.signedCoefficient else none := by
  have hinteger : ∀ n : Int64, Text.toInt64? (Decimal.ofInt64 n).signedCoefficient = some n := by
    intro n
    have hwhole := (Decimal.ofInt64_spec n).2.whole?_eq.symm.trans (Decimal.ofInt64_spec n).1
    rw [Option.some.inj hwhole, Text.toInt64?_eq_some_iff]
  cases a with
  | smallInt n | integer n =>
    cases h
    rw [hinteger]
    rfl
  | numeric e =>
    cases h
    rw [integerValue_of_int?_eq_none rfl]
    exact Decimal.int64?_render _
  | real x => exact nomatch ha
  | _ => exact nomatch h

/-- **Equal values are read as the same integer**, or neither is one, unless only one of them has
places. -/
theorem integerValue_of_order? (ha : a.isReal = false) (hb : b.isReal = false)
    (h : a.order? b = some .eq) (hplaces : a.places = 0 ↔ b.places = 0) :
    (integerValue a).toOption = (integerValue b).toOption := by
  obtain rfl | ⟨s, hs, hs'⟩ | ⟨d, e, hd, he, hde⟩ | ⟨d, m, h⟩ := cases_of_order? ha hb h
  · rfl
  · obtain ⟨hrender, hint⟩ := render_eq_of_text? hs
    obtain ⟨hrender', hint'⟩ := render_eq_of_text? hs'
    rw [integerValue_of_int?_eq_none hint, integerValue_of_int?_eq_none hint', hrender, hrender']
  · rw [integerValue_of_decimal? ha hd, integerValue_of_decimal? hb he]
    by_cases hzero : a.places = 0
    · have hscale := (render_eq_of_decimal? ha hd).2.1.symm.trans hzero
      have hscale' := (render_eq_of_decimal? hb he).2.1.symm.trans (hplaces.1 hzero)
      rw [Decimal.atMaxScale, Decimal.atMaxScale, hscale, hscale'] at hde
      rw [if_pos hzero, if_pos (hplaces.1 hzero),
        mul_right_cancel₀ (Decimal.pow_scale_ne_zero _) hde]
    · rw [if_neg hzero, if_neg (mt hplaces.2 hzero)]
  · obtain ⟨rfl, rfl⟩ | ⟨rfl, rfl⟩ := h
    · rw [integerValue_date, integerValue_timestamp]
    · rw [integerValue_date, integerValue_timestamp]

/-- **Equal values of one form have one text.** -/
theorem render_eq_of_order? (ha : a.isReal = false) (hb : b.isReal = false)
    (h : a.order? b = some .eq) (hform : SameForm a b) : a.render = b.render := by
  obtain rfl | ⟨s, hs, hs'⟩ | ⟨d, e, hd, he, hde⟩ | ⟨d, m, h⟩ := cases_of_order? ha hb h
  · rfl
  · rw [(render_eq_of_text? hs).1, (render_eq_of_text? hs').1]
  · obtain ⟨hrender, hscale, hzero⟩ := render_eq_of_decimal? ha hd
    obtain ⟨hrender', hscale', hzero'⟩ := render_eq_of_decimal? hb he
    have hsame : d = e := Decimal.eq_of_atMaxScale hde
      (hscale.symm.trans (hform.places.trans hscale'))
      (hzero.symm.trans (hform.negativeZero.trans hzero'))
    rw [hrender, hrender', hsame]
  · obtain ⟨rfl, rfl⟩ | ⟨rfl, rfl⟩ := h <;> exact nomatch hform.day

/-- Equal values that are both integers, or neither of which is, are the same integer or none. -/
theorem int?_eq_of_order? (ha : a.isReal = false) (hb : b.isReal = false)
    (h : a.order? b = some .eq) (hint : a.int?.isSome = b.int?.isSome) : a.int? = b.int? := by
  cases hai : a.int? with
  | none =>
    rw [hai] at hint
    exact (Option.isNone_iff_eq_none.1 (by simpa using hint.symm)).symm
  | some n =>
    rw [hai] at hint
    obtain ⟨m, hbi⟩ := Option.isSome_iff_exists.1 hint.symm
    have hvalue : ∀ {v : Value} {n : Int64}, v.int? = some n →
        v.places = 0 ∧ (integerValue v).toOption = some n := by
      intro v n hv
      constructor
      · cases v <;> first | rfl | exact nomatch hv
      · rw [integerValue, hv]
        rfl
    have hread := integerValue_of_order? ha hb h
      (by rw [(hvalue hai).1, (hvalue hbi).1])
    rw [(hvalue hai).2, (hvalue hbi).2] at hread
    rw [hbi, hread]

end Value

/-! ## Targets

The two kinds of dependence are put together for every algorithm, and the excluded cases are shown
to be needed one by one. -/

namespace Inline

/-- Whether the template computes with the column's value. -/
def Template.calculates (t : Template) : Bool :=
  t.segments.any fun
    | .placeholder (.column _ operation) => operation.isSome
    | _ => false

/-- **A template sees the text of a value**, and the integer where it computes with it. -/
theorem evaluate_congr {t : Template} {column : String} {a b : Value}
    (hrender : a.render = b.render) (hint : t.calculates = true → a.int? = b.int?) :
    (t.evaluate column a).toOption = (t.evaluate column b).toOption := by
  rw [Template.evaluate, Template.evaluate, toOption_map, toOption_map]
  refine congrArg _ (toOption_mapM_congr fun s hs => ?_)
  match s with
  | .literal text => rfl
  | .placeholder (.range first last) => rfl
  | .placeholder (.items texts) => rfl
  | .placeholder (.column name none) => simp only [Segment.evaluate, columnText, hrender]
  | .placeholder (.column name (some (op, operand))) =>
    have hsame := hint (List.any_eq_true.2 ⟨_, hs, rfl⟩)
    simp only [Segment.evaluate, columnText, hsame]
    split
    · cases b.int? with
      | none => rfl
      | some n => rfl
    · rfl

end Inline

namespace Sharding

/-- Whether the algorithm computes with the integer that a column's value is. -/
def Algorithm.calculates : Algorithm → Bool
  | inline template => template.calculates
  | _ => false

/-- Whether the algorithm reads values as integers. -/
def Algorithm.readsIntegers : Algorithm → Bool
  | modulo _ | boundaries _ => true
  | hashModulo _ | inline _ => false

variable {algorithm : Algorithm} {a b : Value}

/-- Errors aside, the target depends on the number alone. -/
theorem targetWithSuffix_toOption (targets : List String) (suffix : Int) (v : Value) :
    (targetWithSuffix targets suffix v).toOption =
      targets.find? fun t => (suffixNumber? t).map Int64.toInt == some suffix := by
  rw [targetWithSuffix]
  split
  · rename_i t ht
    exact ht.symm
  · rename_i ht
    exact ht.symm

/-- **Equal values share a target**, or neither has one: where the algorithm reads integers, unless
only one of them has places; where it does not, if they are of one form, and both or neither an
integer in case it computes. -/
theorem target_of_order? (ha : a.isReal = false) (hb : b.isReal = false)
    (h : a.order? b = some .eq) (targets : List String) (column : String) :
    (algorithm.readsIntegers = true → (a.places = 0 ↔ b.places = 0) →
      (algorithm.target targets column a).toOption = (algorithm.target targets column b).toOption) ∧
    (algorithm.readsIntegers = false → Value.SameForm a b →
      (algorithm.calculates = true → a.int?.isSome = b.int?.isSome) →
      (algorithm.target targets column a).toOption =
        (algorithm.target targets column b).toOption) := by
  cases algorithm with
  | modulo count | boundaries limits =>
    refine ⟨fun _ hplaces => ?_, nofun⟩
    simp only [Algorithm.target, toOption_bind, targetWithSuffix_toOption,
      Value.integerValue_of_order? ha hb h hplaces]
  | hashModulo count =>
    refine ⟨nofun, fun _ hform _ => ?_⟩
    simp only [Algorithm.target, targetWithSuffix_toOption, hash,
      Value.render_eq_of_order? ha hb h hform]
  | inline template =>
    refine ⟨nofun, fun _ hform hcalculates => ?_⟩
    -- A template reads the spelling of a value, and its integer only where it computes.
    have hname : (template.evaluate column a).toOption = (template.evaluate column b).toOption :=
      Inline.evaluate_congr (Value.render_eq_of_order? ha hb h hform)
        fun hc => Value.int?_eq_of_order? ha hb h (hcalculates hc)
    have htarget : ∀ v, (Algorithm.target (.inline template) targets column v).toOption =
        (template.evaluate column v).toOption.bind fun name =>
          targets.find? fun t => Text.sameName t name := by
      intro v
      rw [Algorithm.target]
      cases template.evaluate column v with
      | error why => rfl
      | ok name =>
        cases hfind : targets.find? fun t => Text.sameName t name <;> simp [Except.toOption, hfind]
    rw [htarget, htarget, hname]

/-- Seven as an integer and as a decimal, and as a text of either type. -/
theorem target_of_sevens : (Value.integer 7).order? (.numeric (.ofInt64 7)) = some .eq ∧
    ((Algorithm.modulo 2).target ["t_0", "t_1"] "id" (.integer 7)).toOption = some "t_1" ∧
    ((Algorithm.modulo 2).target ["t_0", "t_1"] "id" (.numeric (.ofInt64 7))).toOption =
      some "t_1" ∧
    ((Algorithm.hashModulo 2).target ["t_0", "t_1"] "id" (.text "7")).toOption =
      ((Algorithm.hashModulo 2).target ["t_0", "t_1"] "id" (.char "7")).toOption := by
  have horder : (Value.integer 7).order? (.numeric (.ofInt64 7)) = some .eq := by decide +kernel
  have htexts : (Value.text "7").order? (.char "7") = some .eq := by decide +kernel
  have hinteger : ((Algorithm.modulo 2).target ["t_0", "t_1"] "id" (.integer 7)).toOption =
      some "t_1" := by decide +kernel
  refine ⟨horder, hinteger, ?_, ?_⟩
  · rw [← hinteger]
    exact ((target_of_order? rfl rfl horder _ _).1 rfl Iff.rfl).symm
  · exact (target_of_order? rfl rfl htexts _ _).2 rfl ⟨rfl, rfl, rfl⟩ nofun

/-- The values compare equal and do not share a target. -/
def Apart (algorithm : Algorithm) (targets : List String) (a b : Value) : Prop :=
  a.order? b = some .eq ∧
    (algorithm.target targets "id" a).toOption ≠ (algorithm.target targets "id" b).toOption

instance (algorithm : Algorithm) (targets : List String) (a b : Value) :
    Decidable (Apart algorithm targets a b) := inferInstanceAs (Decidable (_ ∧ _))

/-- Tables named after the value of a column, or after a result of it. -/
def namedAfter (operation : Option (Inline.Operator × Int64)) : Algorithm :=
  .inline ⟨"", [.literal "t_", .placeholder (.column "id" operation)]⟩

/-- **Equal values can lead apart**: by their places, by the sign of a zero, as a day and its
midnight, and where only one of them is an integer to compute with. -/
theorem apart_of_spelling :
    Apart (.modulo 2) ["t_0", "t_1"] (.integer 1)
      (.numeric ⟨false, 10, 1, by decide, by decide⟩) ∧
    Apart (.hashModulo 4) ["t_0", "t_1", "t_2", "t_3"]
      (.numeric ⟨false, 15, 1, by decide, by decide⟩)
      (.numeric ⟨false, 150, 2, by decide, by decide⟩) ∧
    Apart (namedAfter none) ["t_0"] (.integer 0) (.numeric ⟨true, 0, 0, by decide, by decide⟩) ∧
    Apart (namedAfter none) ["t_1970-01-01"] (.date ⟨0⟩) (.timestamp ⟨0⟩) ∧
    Apart (namedAfter (some (.modulo, 2))) ["t_0", "t_1"] (.integer 3)
      (.numeric ⟨false, 3, 0, by decide, by decide⟩) := by
  decide +kernel

end Sharding

end ScatterGather
