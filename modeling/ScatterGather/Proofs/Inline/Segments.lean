import Mathlib.Data.List.Infix
import ScatterGather.Proofs.Inline.Grammar
import ScatterGather.Proofs.Outcome

/-!
# Proofs/Inline/Segments — how a text splits into segments

`Splits cs segments` says that a text is made of the segments' texts: spellings of placeholders,
and literals as they are, without openers and not next to each other.  No opener begins in a
literal and ends behind it, as nothing but the first character of an opener is a dollar sign; so
**reading finds the split if there is one** (`readSegments_eq_ok_iff`).

Where there is none, reading stops at an opener outside placeholders that starts no placeholder
(`readSegments_eq_error_iff`).
-/

namespace ScatterGather.Inline

variable {c : Char} {cs text rest a b before after literal : List Char} {p : Placeholder}
  {segments : List Segment} {fuel : Nat}

/-! ## Openers

Everything turns on where an opener can begin.  It has one dollar sign, its first character, so it
cannot begin in one segment and end in the next: that one begins with a dollar sign of its own. -/

/-- The text begins with an opener. -/
def StartsOpener (cs : List Char) : Prop := ∃ opener, Opens opener ∧ opener <+: cs

/-- There is an opener somewhere in the text. -/
def HasOpener (cs : List Char) : Prop := ∃ opener, Opens opener ∧ opener <:+: cs

theorem isSome_opener?_iff : (opener? cs).isSome = true ↔ StartsOpener cs := by
  rw [Option.isSome_iff_exists]
  constructor
  · rintro ⟨rest, h⟩
    obtain ⟨opener, hopener, rfl⟩ := exists_of_opener? h
    exact ⟨opener, hopener, List.prefix_append opener rest⟩
  · rintro ⟨opener, hopener, rest, rfl⟩
    exact ⟨rest, hopener.opener?_append rest⟩

theorem Opens.ne_nil {opener : List Char} (h : Opens opener) : opener ≠ [] := by
  cases h <;> simp

/-- Only the first character of an opener is a dollar sign. -/
theorem Opens.exists_cons {opener : List Char} (h : Opens opener) :
    ∃ tail, opener = '$' :: tail ∧ '$' ∉ tail := by
  cases h
  · exact ⟨_, rfl, by decide⟩
  · exact ⟨_, rfl, by decide⟩

theorem StartsOpener.head?_eq (h : StartsOpener cs) : cs.head? = some '$' := by
  obtain ⟨opener, hopener, rest, rfl⟩ := h
  obtain ⟨tail, rfl, -⟩ := hopener.exists_cons
  rfl

/-- More text behind does not take an opener away. -/
theorem StartsOpener.append (h : StartsOpener cs) (rest : List Char) :
    StartsOpener (cs ++ rest) := by
  obtain ⟨opener, hopener, hbegins⟩ := h
  exact ⟨opener, hopener, hbegins.trans (List.prefix_append cs rest)⟩

/-- **An opener ends before the next dollar sign.** -/
theorem StartsOpener.of_append (hne : cs ≠ []) (hrest : ∀ c ∈ rest.head?, c = '$')
    (h : StartsOpener (cs ++ rest)) : StartsOpener cs := by
  obtain ⟨opener, hopener, tail, htail⟩ := h
  obtain ⟨more, rfl, -⟩ | ⟨more, hmore, rfl⟩ := List.append_eq_append_iff.1 htail
  · exact ⟨opener, hopener, List.prefix_append opener more⟩
  cases more with
  | nil => exact ⟨opener, hopener, by simp [hmore]⟩
  | cons d more =>
    obtain rfl : d = '$' := hrest d rfl
    obtain ⟨run, hrun, hdollar⟩ := hopener.exists_cons
    obtain ⟨e, cs, rfl⟩ := List.exists_cons_of_ne_nil hne
    rw [hmore, List.cons_append] at hrun
    exact absurd ((List.cons.inj hrun).2 ▸ by simp) hdollar

theorem Spells.startsOpener (h : Spells text p) : StartsOpener text := by
  obtain ⟨hopener, -, -, -⟩ := h
  exact ⟨_, hopener, List.prefix_append _ _⟩

/-- What follows a placeholder is shorter. -/
theorem Spells.length_lt (h : Spells text p) (rest : List Char) :
    rest.length < (text ++ rest).length := by
  obtain ⟨opener, hopener, hbegins⟩ := h.startsOpener
  have := List.length_pos_iff.2 hopener.ne_nil
  have := hbegins.length_le
  rw [List.length_append]
  omega

/-- The text begins with an opener and not with a placeholder. -/
def IsBlocked (cs : List Char) : Prop :=
  StartsOpener cs ∧ ∀ text p, Spells text p → ¬ text <+: cs

/-- **A text begins with no opener, with a placeholder, or with an opener that starts none.** -/
theorem startsOpener_cases (cs : List Char) :
    ¬ StartsOpener cs ∨ (∃ text p rest, Spells text p ∧ cs = text ++ rest) ∨ IsBlocked cs := by
  by_cases hopener : StartsOpener cs
  · by_cases h : ∃ text p, Spells text p ∧ text <+: cs
    · obtain ⟨text, p, htext, rest, rfl⟩ := h
      exact .inr (.inl ⟨text, p, rest, htext, rfl⟩)
    · exact .inr (.inr ⟨hopener, fun text p htext hbegins => h ⟨text, p, htext, hbegins⟩⟩)
  · exact .inl hopener

theorem IsBlocked.placeholder?_eq_none (h : IsBlocked cs) : placeholder? cs = none := by
  refine Option.eq_none_iff_forall_ne_some.2 fun ⟨p, rest⟩ hread => ?_
  obtain ⟨text, htext, rfl⟩ := placeholder?_eq_some_iff.1 hread
  exact h.2 text p htext (List.prefix_append text rest)

/-- No opener begins in the text, whatever `rest` goes on with. -/
def Quiet : List Char → List Char → Prop
  | [], _ => True
  | c :: text, rest => ¬ StartsOpener (c :: (text ++ rest)) ∧ Quiet text rest

/-- A joined text is quiet if its first part is, followed by the second, and the second is. -/
theorem quiet_append : Quiet (a ++ b) rest ↔ Quiet a (b ++ rest) ∧ Quiet b rest := by
  induction a with
  | nil => simp [Quiet]
  | cons c a ih => simp only [List.cons_append, Quiet, ih, List.append_assoc, and_assoc]

/-- A quiet text has no opener. -/
theorem not_hasOpener_of_quiet (h : Quiet text rest) : ¬ HasOpener text := by
  rintro ⟨opener, hopener, before, after, rfl⟩
  rw [List.append_assoc, quiet_append] at h
  obtain ⟨tail, rfl, -⟩ := hopener.exists_cons
  exact h.2.1 ⟨_, hopener, by simp⟩

/-- **No opener begins in a text without one**, if nothing or a dollar sign follows it. -/
theorem quiet_of_not_hasOpener (htext : ¬ HasOpener text) (hrest : ∀ c ∈ rest.head?, c = '$') :
    Quiet text rest := by
  induction text with
  | nil => trivial
  | cons c text ih =>
    refine ⟨fun hopener => htext ?_, ih fun hopener => htext ?_⟩
    · have hstarts : StartsOpener (c :: text) := StartsOpener.of_append (by simp) hrest hopener
      obtain ⟨opener, hopener, hbegins⟩ := hstarts
      exact ⟨opener, hopener, hbegins.isInfix⟩
    · obtain ⟨opener, hopener, hinside⟩ := hopener
      exact ⟨opener, hopener, hinside.trans (List.infix_cons List.infix_rfl)⟩

/-! ## Splits

A text can be split in one way at most; this is a consequence of what follows and is not built into
the relation. -/

/-- Whether the segment is a literal. -/
def Segment.isLiteral : Segment → Bool
  | .literal _ => true
  | .placeholder _ => false

/-- The text is made of the texts of the segments. -/
inductive Splits : List Char → List Segment → Prop
  | nil : Splits [] []
  | literal {text rest : List Char} {segments : List Segment} (hne : text ≠ [])
      (hopener : ¬ HasOpener text) (hapart : ∀ s ∈ segments.head?, s.isLiteral = false)
      (hrest : Splits rest segments) :
      Splits (text ++ rest) (.literal (String.ofList text) :: segments)
  | placeholder {text rest : List Char} {p : Placeholder} {segments : List Segment}
      (htext : Spells text p) (hrest : Splits rest segments) :
      Splits (text ++ rest) (.placeholder p :: segments)

/-- Without a literal to begin with, a text is empty or begins with an opener. -/
theorem Splits.startsOpener (h : Splits cs segments)
    (hapart : ∀ s ∈ segments.head?, s.isLiteral = false) : cs = [] ∨ StartsOpener cs := by
  cases h with
  | nil => exact .inl rfl
  | literal => exact absurd (hapart _ rfl) (by simp [Segment.isLiteral])
  | placeholder htext => exact .inr (htext.startsOpener.append _)

/-- What follows a literal begins with a dollar sign. -/
theorem Splits.dollar (h : Splits cs segments)
    (hapart : ∀ s ∈ segments.head?, s.isLiteral = false) : ∀ c ∈ cs.head?, c = '$' := by
  obtain rfl | hopener := h.startsOpener hapart
  · simp
  · simp [hopener.head?_eq]

/-! ## Reading

The reader collects the characters of a literal until an opener comes up.  Its invariant is that no
opener begins in what it has collected, whatever follows. -/

theorem readSegments_nil : readSegments fuel literal [] = .ok (consLiteral literal []) := by
  cases fuel <;> rfl

/-- A character that begins no opener is collected. -/
theorem readSegments_of_not_startsOpener (h : ¬ StartsOpener (c :: rest)) :
    readSegments (fuel + 1) literal (c :: rest) = readSegments fuel (c :: literal) rest := by
  rw [readSegments, if_neg (isSome_opener?_iff.not.2 h)]

/-- A placeholder is read at one go. -/
theorem readSegments_placeholder (h : Spells text p) (rest : List Char) :
    readSegments (fuel + 1) literal (text ++ rest) =
      (readSegments fuel [] rest).map fun found =>
        consLiteral literal (.placeholder p :: found) := by
  have hopener := isSome_opener?_iff.2 (h.startsOpener.append rest)
  have hread := h.placeholder?_append rest
  generalize hcs : text ++ rest = cs at *
  cases cs with
  | nil => exact nomatch hread
  | cons c cs =>
    rw [readSegments, if_pos hopener, hread]

/-- An opener that starts no placeholder is an error. -/
theorem readSegments_of_isBlocked (h : IsBlocked cs) :
    readSegments (fuel + 1) literal cs = .error cs := by
  cases cs with
  | nil => exact nomatch h.1.head?_eq
  | cons c cs =>
    rw [readSegments, if_pos (isSome_opener?_iff.2 h.1), h.placeholder?_eq_none]

/-- **The characters of a literal are taken one by one.** -/
theorem readSegments_quiet (h : Quiet text rest) :
    readSegments (text.length + fuel) literal (text ++ rest) =
      readSegments fuel (text.reverse ++ literal) rest := by
  induction text generalizing literal with
  | nil => simp
  | cons c text ih =>
    rw [List.length_cons, Nat.add_right_comm, List.cons_append,
      readSegments_of_not_startsOpener h.1, ih h.2]
    simp

/-- Where no literal goes on, the one before stands alone. -/
theorem readSegments_of_boundary (h : rest = [] ∨ StartsOpener rest) :
    readSegments fuel literal rest = (readSegments fuel [] rest).map (consLiteral literal) := by
  cases fuel with
  | zero => rfl
  | succ fuel =>
    obtain rfl | hopener := h
    · rfl
    obtain hnot | ⟨text, p, tail, htext, rfl⟩ | hblocked := startsOpener_cases rest
    · exact absurd hopener hnot
    · rw [readSegments_placeholder htext, readSegments_placeholder htext]
      cases readSegments fuel [] tail <;> rfl
    · rw [readSegments_of_isBlocked hblocked, readSegments_of_isBlocked hblocked]
      rfl

/-- **A split is read**, if there is fuel for each character. -/
theorem Splits.readSegments_eq (h : Splits cs segments) (hfuel : cs.length < fuel) :
    readSegments fuel [] cs = .ok segments := by
  induction h generalizing fuel with
  | nil => exact readSegments_nil
  | @literal text rest segments hne hopener hapart hrest ih =>
    rw [List.length_append] at hfuel
    obtain ⟨left, rfl⟩ := Nat.exists_eq_add_of_le (Nat.le_of_lt (Nat.lt_of_add_right_lt hfuel))
    rw [readSegments_quiet (quiet_of_not_hasOpener hopener (hrest.dollar hapart)),
      readSegments_of_boundary (hrest.startsOpener hapart), ih (by omega)]
    simp [Except.map, consLiteral, hne]
  | @placeholder text rest p segments htext hrest ih =>
    obtain ⟨left, rfl⟩ := Nat.exists_eq_add_one.2 (Nat.zero_lt_of_lt hfuel)
    have hlt := htext.length_lt rest
    rw [readSegments_placeholder htext, ih (by omega)]
    rfl

/-- The literal so far and the rest of the text split alike. -/
theorem Splits.consLiteral (hrest : Splits rest segments) (hquiet : Quiet literal.reverse rest)
    (hapart : ∀ s ∈ segments.head?, s.isLiteral = false) :
    Splits (literal.reverse ++ rest) (Inline.consLiteral literal segments) := by
  rw [Inline.consLiteral]
  split
  · rename_i hempty
    rw [List.isEmpty_iff.1 hempty]
    exact hrest
  · rename_i hne
    exact .literal (by simpa using hne) (not_hasOpener_of_quiet hquiet) hapart hrest

/-- What is read is a split. -/
theorem splits_of_readSegments (hquiet : Quiet literal.reverse cs) (hfuel : cs.length < fuel)
    (h : readSegments fuel literal cs = .ok segments) :
    Splits (literal.reverse ++ cs) segments := by
  induction fuel generalizing literal cs segments with
  | zero => exact absurd hfuel (Nat.not_lt_zero _)
  | succ fuel ih =>
    obtain hnot | ⟨text, p, tail, htext, rfl⟩ | hblocked := startsOpener_cases cs
    · cases cs with
      | nil =>
        rw [readSegments_nil] at h
        obtain rfl := Except.ok.inj h
        exact Splits.nil.consLiteral hquiet (by simp)
      | cons c cs =>
        rw [readSegments_of_not_startsOpener hnot] at h
        have hquiet' : Quiet (c :: literal).reverse cs := by
          rw [List.reverse_cons, quiet_append]
          exact ⟨hquiet, hnot, trivial⟩
        simpa using ih hquiet' (Nat.lt_of_succ_lt_succ hfuel) h
    · have hlt := htext.length_lt tail
      rw [readSegments_placeholder htext] at h
      obtain ⟨found, htail, rfl⟩ := map_eq_ok.1 h
      have hsplit : Splits ([].reverse ++ tail) found := ih trivial (by omega) htail
      exact (Splits.placeholder htext hsplit).consLiteral hquiet (by simp [Segment.isLiteral])
    · exact nomatch (readSegments_of_isBlocked hblocked).symm.trans h

/-- **Reading finds the split of a text, if there is one.** -/
theorem readSegments_eq_ok_iff (hfuel : cs.length < fuel) :
    readSegments fuel [] cs = .ok segments ↔ Splits cs segments :=
  ⟨@splits_of_readSegments cs [] segments fuel trivial hfuel, fun h => h.readSegments_eq hfuel⟩

/-! ## Openers that start nothing

Where a text has no split, the reader stops at the first opener that starts no placeholder and
reports the text from there on. -/

/-- `Outside cs rest`: scanning `cs` from the left, past placeholders and other characters, comes to
`rest`. -/
inductive Outside : List Char → List Char → Prop
  | here {cs : List Char} : Outside cs cs
  | next {c : Char} {cs rest : List Char} (hopener : ¬ StartsOpener (c :: cs))
      (h : Outside cs rest) : Outside (c :: cs) rest
  | past {text cs rest : List Char} {p : Placeholder} (htext : Spells text p)
      (h : Outside cs rest) : Outside (text ++ cs) rest

/-- Reading reports the blocked opener that scanning comes to. -/
theorem Outside.readSegments_eq (h : Outside cs rest) (hblocked : IsBlocked rest)
    (hfuel : cs.length < fuel) : readSegments fuel literal cs = .error rest := by
  induction h generalizing fuel literal with
  | here =>
    obtain ⟨left, rfl⟩ := Nat.exists_eq_add_one.2 (Nat.zero_lt_of_lt hfuel)
    exact readSegments_of_isBlocked hblocked
  | next hopener _ ih =>
    obtain ⟨left, rfl⟩ := Nat.exists_eq_add_one.2 (Nat.zero_lt_of_lt hfuel)
    rw [readSegments_of_not_startsOpener hopener]
    exact ih hblocked (Nat.lt_of_succ_lt_succ hfuel)
  | @past text cs rest p htext _ ih =>
    obtain ⟨left, rfl⟩ := Nat.exists_eq_add_one.2 (Nat.zero_lt_of_lt hfuel)
    have hlt := htext.length_lt cs
    rw [readSegments_placeholder htext, ih hblocked (by omega)]
    rfl

/-- **Reading fails where scanning comes to an opener that starts no placeholder.** -/
theorem readSegments_eq_error_iff (hfuel : cs.length < fuel) :
    readSegments fuel literal cs = .error rest ↔ Outside cs rest ∧ IsBlocked rest := by
  refine ⟨fun h => ?_, fun h => h.1.readSegments_eq h.2 hfuel⟩
  induction fuel generalizing literal cs with
  | zero => exact absurd hfuel (Nat.not_lt_zero _)
  | succ fuel ih =>
    obtain hnot | ⟨text, p, tail, htext, rfl⟩ | hblocked := startsOpener_cases cs
    · cases cs with
      | nil => exact nomatch readSegments_nil.symm.trans h
      | cons c cs =>
        rw [readSegments_of_not_startsOpener hnot] at h
        exact (ih (Nat.lt_of_succ_lt_succ hfuel) h).imp_left (.next hnot)
    · have hlt := htext.length_lt tail
      rw [readSegments_placeholder htext] at h
      exact (ih (by omega) (map_eq_error.1 h)).imp_left (.past htext)
    · obtain rfl := Except.error.inj ((readSegments_of_isBlocked hblocked).symm.trans h)
      exact ⟨.here, hblocked⟩

end ScatterGather.Inline
