import ScatterGather.Text.Case

/-!
# Proofs/Text/Name — matching names have one lower case

`sameName` folds ASCII letters only; `lower` follows Unicode and looks at the letters around a
capital sigma.  An ASCII letter plays the same part there in either case, so **names that match have
the same lower case** (`lower_eq_of_sameName`), and a list of tables without repetitions up to
`lower` has no two matching names.
-/

namespace ScatterGather.Text

/-! ## Letters of ASCII

For such a letter both ways to fold case agree, and it is cased in either case. -/

/-- The code points of the ASCII letters. -/
def IsLetter (n : Nat) : Prop := (65 ≤ n ∧ n ≤ 90) ∨ (97 ≤ n ∧ n ≤ 122)

theorem toNat_toLower (c : Char) :
    c.toLower.toNat = if 65 ≤ c.toNat ∧ c.toNat ≤ 90 then c.toNat + 32 else c.toNat := by
  have hiff : (c.val ≥ 'A'.val ∧ c.val ≤ 'Z'.val) ↔ (65 ≤ c.toNat ∧ c.toNat ≤ 90) := Iff.rfl
  delta Char.toLower
  split
  case isTrue h =>
    have h' := hiff.1 h
    rw [if_pos h', Char.toNat_mk]
    change (c.val + 32).toNat = c.val.toNat + 32
    rw [UInt32.toNat_add]
    have : c.val.toNat ≤ 90 := h'.2
    exact Nat.mod_eq_of_lt (by change c.val.toNat + 32 < 2 ^ 32; omega)
  case isFalse h => rw [if_neg fun h' => h (hiff.2 h')]

/-- **Characters with one ASCII lower case** are equal, or two cases of one letter. -/
theorem eq_or_isLetter {c d : Char} (h : c.toLower = d.toLower) :
    c = d ∨ IsLetter c.toNat ∧ IsLetter d.toNat := by
  have hn := congrArg Char.toNat h
  rw [toNat_toLower, toNat_toLower] at hn
  by_cases hcd : c.toNat = d.toNat
  · exact Or.inl (Char.toNat_inj.1 hcd)
  · refine Or.inr ?_
    unfold IsLetter
    split at hn <;> split at hn <;> omega

theorem lt_of_isLetter {n : Nat} (h : IsLetter n) : n < 128 := by
  unfold IsLetter at h
  omega

/-- ASCII letters are cased, and none is passed over in looking for a cased letter. -/
theorem cased_of_isLetter {n : Nat} (h : IsLetter n) :
    inRanges casedRanges n = true ∧ inRanges caseIgnorableRanges n = false := by
  have all : ∀ n < 123, (65 ≤ n ∧ n ≤ 90) ∨ (97 ≤ n ∧ n ≤ 122) →
      inRanges casedRanges n = true ∧ inRanges caseIgnorableRanges n = false := by decide +kernel
  exact all n (by unfold IsLetter at h; omega) h

theorem lowerChar_congr {c d : Char} (h : c.toLower = d.toLower) : lowerChar c = lowerChar d := by
  obtain rfl | ⟨hc, hd⟩ := eq_or_isLetter h
  · rfl
  · rw [lowerChar, lowerChar, if_pos (lt_of_isLetter hc), if_pos (lt_of_isLetter hd), h]

/-! ## Looking for cased letters

A capital sigma is lowered by what stands around it: whether a cased letter comes before and none
after it.  Changing the case of other letters changes neither. -/

theorem meetsCased_cons (c : Char) (cs : List Char) :
    meetsCased (c :: cs) = if inRanges caseIgnorableRanges c.toNat then meetsCased cs
      else inRanges casedRanges c.toNat := by
  rw [meetsCased, List.dropWhile_cons]
  by_cases h : inRanges caseIgnorableRanges c.toNat = true
  · rw [if_pos h, if_pos h, meetsCased]
  · rw [if_neg h, if_neg h]

theorem meetsCased_congr {cs ds : List Char} (h : cs.map Char.toLower = ds.map Char.toLower) :
    meetsCased cs = meetsCased ds := by
  induction cs generalizing ds with
  | nil => rw [List.map_nil, eq_comm, List.map_eq_nil_iff] at h; rw [h]
  | cons c cs ih =>
    cases ds with
    | nil => simp at h
    | cons d ds =>
      obtain ⟨hcd, hrest⟩ := List.cons.inj h
      obtain rfl | ⟨hc, hd⟩ := eq_or_isLetter hcd
      · rw [meetsCased_cons, meetsCased_cons, ih hrest]
      · simp [meetsCased_cons, cased_of_isLetter hc, cased_of_isLetter hd]

theorem lowerFrom_congr {cs ds before before' : List Char}
    (h : cs.map Char.toLower = ds.map Char.toLower)
    (hb : before.map Char.toLower = before'.map Char.toLower) :
    lowerFrom before cs = lowerFrom before' ds := by
  induction cs generalizing ds before before' with
  | nil => rw [List.map_nil, eq_comm, List.map_eq_nil_iff] at h; rw [h]; rfl
  | cons c cs ih =>
    cases ds with
    | nil => simp at h
    | cons d ds =>
      obtain ⟨hcd, hrest⟩ := List.cons.inj h
      have hsigma : c = 'Σ' ↔ d = 'Σ' := by
        obtain rfl | ⟨hc, hd⟩ := eq_or_isLetter hcd
        · rfl
        · have hbig : ¬ ('Σ'.toNat < 128) := by decide
          exact ⟨fun he => absurd (lt_of_isLetter hc) (he ▸ hbig),
            fun he => absurd (lt_of_isLetter hd) (he ▸ hbig)⟩
      have hbefore : (c :: before).map Char.toLower = (d :: before').map Char.toLower :=
        List.cons_eq_cons.2 ⟨hcd, hb⟩
      simp only [lowerFrom, hsigma, lowerChar_congr hcd, meetsCased_congr hb,
        meetsCased_congr hrest, ih hrest hbefore]

/-- Names that match match the same names. -/
theorem sameName_congr {a b : String} (h : sameName a b = true) (l : String) :
    sameName l a = sameName l b := by
  rw [sameName, sameName, sameName_iff.1 h]

/-- **Names that match have the same lower case.** -/
theorem lower_eq_of_sameName {a b : String} (h : sameName a b = true) : lower a = lower b :=
  congrArg String.ofList (lowerFrom_congr (sameName_iff.1 h) rfl)

end ScatterGather.Text
