import ScatterGather.Proofs.Text.Blank
import ScatterGather.Text.Numeral

/-!
# Proofs/Text/Numeral — numerals read back

The digits of a number read back as the number, blanks around them or not
(`int64?_trimChars_signedDigits`).  A text that has anything but digits and blanks after its first
character is no numeral (`int64?_trimChars_eq_none`).
-/

namespace ScatterGather.Text

/-! ## Digits

A number is built up from the left, ten times what came before and the next digit; its digits are
listed the same way. -/

theorem digit?_digitChar {d : Nat} (h : d < 10) : digit? (Nat.digitChar d) = some d := by
  have hall : ∀ d < 10, digit? (Nat.digitChar d) = some d := by decide
  exact hall d h

/-- Digits are read in two goes or in one. -/
theorem naturalFrom?_append (value : Nat) (cs ds : List Char) :
    naturalFrom? value (cs ++ ds) = (naturalFrom? value cs).bind (naturalFrom? · ds) := by
  induction cs generalizing value with
  | nil => rfl
  | cons c cs ih => cases hd : digit? c <;> simp [naturalFrom?, hd, ih]

/-- **The digits of a number denote it.** -/
theorem natural?_toDigits (n : Nat) : natural? (Nat.toDigits 10 n) = some n := by
  have hfrom : naturalFrom? 0 (Nat.toDigits 10 n) = some n := by
    induction n using Nat.strongRecOn with
    | ind n ih =>
      rw [Nat.toDigits_eq_if (by decide)]
      split
      · rename_i hlt
        simp [naturalFrom?, digit?_digitChar hlt]
      · rename_i hge
        rw [naturalFrom?_append, ih (n / 10) (by omega)]
        simp [naturalFrom?, digit?_digitChar (Nat.mod_lt n (by decide : 0 < 10))]
        omega
  rw [natural?, if_neg (by simp [Nat.toDigits_ne_nil]), hfrom]

/-- Whatever is read, nothing but digits was. -/
theorem isDigit_of_naturalFrom? {value n : Nat} {cs : List Char}
    (h : naturalFrom? value cs = some n) : ∀ c ∈ cs, c.isDigit = true := by
  induction cs generalizing value with
  | nil => simp
  | cons c cs ih =>
    obtain ⟨d, hd, hrest⟩ := Option.bind_eq_some_iff.1 h
    refine List.forall_mem_cons.2 ⟨?_, ih hrest⟩
    rw [digit?] at hd
    split at hd
    · assumption
    · exact nomatch hd

/-- A natural number is written in digits alone. -/
theorem isDigit_of_natural? {n : Nat} {cs : List Char} (h : natural? cs = some n) :
    ∀ c ∈ cs, c.isDigit = true := by
  rw [natural?] at h
  split at h
  · exact nomatch h
  · exact isDigit_of_naturalFrom? h

/-! ## Signs

A numeral may have a sign of either kind, but is written with a minus sign or none. -/

theorem integer?_minus (cs : List Char) :
    integer? ('-' :: cs) = (natural? cs).map fun n : Nat => -(n : Int) := by
  rw [integer?]
  cases natural? cs <;> rfl

theorem integer?_plus (cs : List Char) :
    integer? ('+' :: cs) = (natural? cs).map fun n : Nat => (n : Int) := by
  rw [integer?]
  cases natural? cs <;> rfl

/-- Without a sign the digits are read from the start. -/
theorem integer?_unsigned {x : Char} {cs : List Char} (hminus : x ≠ '-') (hplus : x ≠ '+') :
    integer? (x :: cs) = (natural? (x :: cs)).map fun n : Nat => (n : Int) := by
  rw [integer?.eq_def]
  split
  · rename_i h
    exact absurd (List.cons.inj h).1 hminus
  · rename_i h
    exact absurd (List.cons.inj h).1 hplus
  · cases natural? (x :: cs) <;> rfl

/-- After its first character an integer is written in digits alone. -/
theorem isDigit_of_integer? {i : Int} {x : Char} {cs : List Char}
    (h : integer? (x :: cs) = some i) : ∀ c ∈ cs, c.isDigit = true := by
  obtain rfl | hminus := eq_or_ne x '-'
  · rw [integer?_minus] at h
    obtain ⟨n, hn, -⟩ := Option.map_eq_some_iff.1 h
    exact isDigit_of_natural? hn
  obtain rfl | hplus := eq_or_ne x '+'
  · rw [integer?_plus] at h
    obtain ⟨n, hn, -⟩ := Option.map_eq_some_iff.1 h
    exact isDigit_of_natural? hn
  · rw [integer?_unsigned hminus hplus] at h
    obtain ⟨n, hn, -⟩ := Option.map_eq_some_iff.1 h
    exact fun c hc => isDigit_of_natural? hn c (List.mem_cons_of_mem x hc)

/-- The digits of a number, after a minus sign or not. -/
def signedDigits (negative : Bool) (n : Nat) : List Char :=
  (if negative then ['-'] else []) ++ Nat.toDigits 10 n

/-- **A number with its sign reads back.** -/
theorem integer?_signedDigits (negative : Bool) (n : Nat) :
    integer? (signedDigits negative n) = some (if negative then -(n : Int) else n) := by
  cases negative with
  | true =>
    rw [signedDigits, if_pos rfl, List.singleton_append, integer?_minus, natural?_toDigits]
    rfl
  | false =>
    obtain ⟨x, cs, hcs⟩ := List.exists_cons_of_ne_nil (Nat.toDigits_ne_nil (n := n) (b := 10))
    have hx : x.isDigit = true := Nat.isDigit_of_mem_toDigits (by decide) (by decide)
      (hcs ▸ List.mem_cons_self)
    rw [signedDigits, if_neg Bool.false_ne_true, List.nil_append, hcs,
      integer?_unsigned (by rintro rfl; simp at hx) (by rintro rfl; simp at hx), ← hcs,
      natural?_toDigits]
    rfl

/-- An integer is written as its signed digits. -/
theorem ofInt_eq (i : Int) : (ofInt i).toList = signedDigits (i < 0) i.natAbs := by
  rw [ofInt, signedDigits]
  split <;> simp_all [ofNat]

/-! ## Blanks

Blanks are trimmed before a numeral is read.  No digit and no sign is blank, so trimming stops at
them. -/

theorem toNat_of_isDigit {c : Char} (h : c.isDigit = true) : 48 ≤ c.toNat ∧ c.toNat ≤ 57 := by
  simpa [Char.isDigit, UInt32.le_iff_toNat_le] using h

theorem isBlank_eq_false_of_isDigit {c : Char} (h : c.isDigit = true) : isBlank c = false := by
  have hrange := toNat_of_isDigit h
  rw [isBlank]
  simp
  omega

/-- Trimming keeps a first character that is not blank, and after it all that are not. -/
theorem exists_trimChars_cons {x : Char} (hx : isBlank x = false) (cs : List Char) :
    ∃ ds, trimChars (x :: cs) = x :: ds ∧ ∀ c ∈ cs, isBlank c = false → c ∈ ds := by
  have hkeep : ∀ c ∈ cs, isBlank c = false → c ∈ cs.reverse.dropWhile isBlank := by
    intro c hc hblank
    rw [← List.mem_reverse, ← List.takeWhile_append_dropWhile (p := isBlank) (l := cs.reverse),
      List.mem_append] at hc
    exact hc.resolve_left fun htake => by simp [List.mem_takeWhile_imp htake] at hblank
  rw [trimChars, List.dropWhile_cons, hx, if_neg Bool.false_ne_true, List.reverse_cons,
    List.dropWhile_append]
  split
  · rename_i hempty
    refine ⟨[], by simp [hx], fun c hc hblank => ?_⟩
    rw [List.isEmpty_iff.1 hempty] at hkeep
    exact hkeep c hc hblank
  · exact ⟨(cs.reverse.dropWhile isBlank).reverse, by simp, by simpa using hkeep⟩

/-! ## What reads back, and what does not

The two halves of reading a value as an integer: the text of an integer is read as it, and a text
with anything else inside is refused. -/

/-- No character of a numeral is blank. -/
theorem isBlank_of_mem_signedDigits {negative : Bool} {n : Nat} :
    ∀ c ∈ signedDigits negative n, isBlank c = false := by
  intro c hc
  obtain hc | hc := List.mem_append.1 hc
  · cases negative with
    | true =>
      obtain rfl := List.mem_singleton.1 hc
      decide
    | false => exact absurd hc List.not_mem_nil
  · exact isBlank_eq_false_of_isDigit (Nat.isDigit_of_mem_toDigits (by decide) (by decide) hc)

/-- **A number with its sign reads back, if it fits.** -/
theorem int64?_trimChars_signedDigits (negative : Bool) (n : Nat) :
    int64? (trimChars (signedDigits negative n)) =
      toInt64? (if negative then -(n : Int) else n) := by
  rw [trimChars_eq_self isBlank_of_mem_signedDigits, int64?, integer?_signedDigits,
    Option.bind_some]

/-- **A text with anything but digits and blanks inside is no numeral.** -/
theorem int64?_trimChars_eq_none {front back : List Char} {c : Char} (hne : front ≠ [])
    (hfront : ∀ x ∈ front, isBlank x = false) (hblank : isBlank c = false)
    (hdigit : c.isDigit = false) : int64? (trimChars (front ++ c :: back)) = none := by
  obtain ⟨x, rest, rfl⟩ := List.exists_cons_of_ne_nil hne
  obtain ⟨ds, htrim, hds⟩ :=
    exists_trimChars_cons (hfront x List.mem_cons_self) (rest ++ c :: back)
  have hc : c ∈ ds := hds c (List.mem_append_right _ List.mem_cons_self) hblank
  rw [List.cons_append, htrim, int64?]
  cases hi : integer? (x :: ds) with
  | none => rfl
  | some i => exact absurd (isDigit_of_integer? hi c hc) (by simp [hdigit])

/-! ## 64 bits

An integer is read at any length and then has to fit. -/

/-- What fits is the integer itself. -/
theorem toInt64?_eq_some_iff {n : Int} {k : Int64} :
    toInt64? n = some k ↔ k.toInt = n := by
  rw [toInt64?]
  constructor
  · intro h
    split at h
    · rename_i hn
      rw [← Option.some.inj h]
      exact Int64.toInt_ofInt_of_le hn.1 hn.2
    · exact nomatch h
  · rintro rfl
    rw [if_pos ⟨k.le_toInt, k.toInt_lt⟩, Int64.ofInt_toInt]

/-- An integer fits from the least to the greatest. -/
theorem isSome_toInt64?_iff {n : Int} :
    (toInt64? n).isSome ↔ -2 ^ 63 ≤ n ∧ n < 2 ^ 63 := by
  rw [toInt64?]
  split
  · rename_i hn
    exact iff_of_true rfl hn
  · rename_i hn
    exact iff_of_false Bool.false_ne_true hn

/-! ## Padding -/

theorem isDigit_of_mem_paddedDigits {width n : Nat} {c : Char} (h : c ∈ paddedDigits width n) :
    c.isDigit = true := by
  obtain hc | hc := List.mem_append.1 h
  · rw [List.eq_of_mem_replicate hc]
    decide
  · exact Nat.isDigit_of_mem_toDigits (by decide) (by decide) hc

theorem le_length_paddedDigits (width n : Nat) : width ≤ (paddedDigits width n).length := by
  rw [paddedDigits]
  simp
  omega

/-- A number is not padded to one digit. -/
theorem paddedDigits_one (n : Nat) : paddedDigits 1 n = Nat.toDigits 10 n := by
  have hlength : 1 - (Nat.toDigits 10 n).length = 0 :=
    Nat.sub_eq_zero_of_le Nat.length_toDigits_pos
  rw [paddedDigits, hlength]
  rfl

end ScatterGather.Text
