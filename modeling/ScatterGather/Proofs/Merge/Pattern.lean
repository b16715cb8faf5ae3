import Mathlib.Data.List.Forall2
import ScatterGather.Merge.Pattern

/-!
# Proofs/Merge/Pattern — LIKE finds a way to split the text

A text matches a pattern when it can be cut into parts, one for every character of the pattern
(`Divides`).  The search goes back to the last percent sign only.  That loses nothing: if an
earlier sign with a longer run led to a match, the last sign could take what lies between
(`LikeRetry.Behind.divides`).  So the search succeeds exactly where there is a match
(`likeMatches_iff`).
-/

namespace ScatterGather

/-! ## Ways to split a text

The specification has no search in it: there is a way to cut the text, or there is none. -/

/-- A character of a pattern takes a part of the text: a percent sign any run, an underscore one
character, any other character itself. -/
def Takes (p : Char) (part : List Char) : Prop :=
  if p = '%' then True else if p = '_' then part.length = 1 else part = [p]

/-- The text can be cut into parts that the characters of the pattern take, in order. -/
def Divides (pattern text : List Char) : Prop :=
  ∃ parts, List.Forall₂ Takes pattern parts ∧ parts.flatten = text

section Divides

variable {p c : Char} {pattern passed text rest : List Char}

/-- What a character takes, as the search has it. -/
theorem takes_iff (hp : p ≠ '%') {part : List Char} :
    Takes p part ↔ ∃ c, part = [c] ∧ standsFor p c = true := by
  rw [Takes, if_neg hp]
  split
  · next hany => simp [standsFor, hany, List.length_eq_one_iff]
  · next hother =>
    have hsame (c : Char) : standsFor p c = true ↔ p = c := by simp [standsFor, hother]
    simp only [hsame, exists_eq_right']

@[simp] theorem divides_nil : Divides [] text ↔ text = [] := by
  constructor
  · rintro ⟨parts, hparts, rfl⟩
    rw [List.forall₂_nil_left_iff.1 hparts, List.flatten_nil]
  · rintro rfl
    exact ⟨[], .nil, rfl⟩

/-- The first character of a pattern takes a beginning of the text. -/
theorem divides_cons :
    Divides (p :: pattern) text ↔
      ∃ part rest, Takes p part ∧ Divides pattern rest ∧ part ++ rest = text := by
  constructor
  · rintro ⟨parts, hparts, rfl⟩
    obtain ⟨part, parts, hpart, hrest, rfl⟩ := List.forall₂_cons_left_iff.1 hparts
    exact ⟨part, parts.flatten, hpart, ⟨parts, hrest, rfl⟩, rfl⟩
  · rintro ⟨part, _, hpart, ⟨parts, hparts, rfl⟩, rfl⟩
    exact ⟨part :: parts, .cons hpart hparts, rfl⟩

/-- A percent sign leaves any end of the text. -/
theorem divides_percent :
    Divides ('%' :: pattern) text ↔ ∃ rest, rest <:+ text ∧ Divides pattern rest := by
  rw [divides_cons]
  constructor
  · rintro ⟨part, rest, -, hrest, rfl⟩
    exact ⟨rest, List.suffix_append part rest, hrest⟩
  · rintro ⟨rest, ⟨part, rfl⟩, hrest⟩
    exact ⟨part, rest, by simp [Takes], hrest, rfl⟩

/-- Any other character takes the first character of the text. -/
theorem divides_cons_of_ne (hp : p ≠ '%') :
    Divides (p :: pattern) text ↔
      ∃ c rest, text = c :: rest ∧ standsFor p c = true ∧ Divides pattern rest := by
  rw [divides_cons]
  constructor
  · rintro ⟨part, rest, hpart, hrest, rfl⟩
    obtain ⟨c, rfl, hc⟩ := (takes_iff hp).1 hpart
    exact ⟨c, rest, rfl, hc, hrest⟩
  · rintro ⟨c, rest, rfl, hc, hrest⟩
    exact ⟨[c], rest, (takes_iff hp).2 ⟨c, rfl, hc⟩, hrest, rfl⟩

/-- The empty text is left to percent signs. -/
theorem divides_empty : Divides pattern [] ↔ pattern.all (· == '%') = true := by
  induction pattern with
  | nil => simp
  | cons p pattern ih =>
    by_cases hp : p = '%'
    · subst hp
      simp [divides_percent, ih]
    · simp [divides_cons_of_ne hp, hp]

/-- A percent sign takes nothing, or one more character than it does in the rest. -/
theorem divides_percent_cons :
    Divides ('%' :: pattern) (c :: rest) ↔
      Divides pattern (c :: rest) ∨ Divides ('%' :: pattern) rest := by
  simp only [divides_percent, List.suffix_cons_iff, or_and_right, exists_or, exists_eq_left]

/-- Of two percent signs one is enough. -/
theorem divides_percent_percent :
    Divides ('%' :: '%' :: pattern) text ↔ Divides ('%' :: pattern) text := by
  constructor
  · intro h
    obtain ⟨rest, hrest, hdivides⟩ := divides_percent.1 h
    obtain ⟨left, hleft, hdivides⟩ := divides_percent.1 hdivides
    exact divides_percent.2 ⟨left, hleft.trans hrest, hdivides⟩
  · exact fun h => divides_percent.2 ⟨text, List.suffix_refl text, h⟩

/-- A character that does not fit has no match. -/
theorem not_divides_of_misfit (hpercent : pattern.head? ≠ some '%')
    (hfits : ¬ pattern.head?.any (standsFor · c) = true) : ¬ Divides pattern (c :: rest) := by
  cases pattern with
  | nil => simp
  | cons p pattern =>
    have hp : p ≠ '%' := by simpa using hpercent
    rw [divides_cons_of_ne hp]
    rintro ⟨_, _, ⟨rfl, rfl⟩, hc, -⟩
    exact hfits hc

/-- **Without a percent sign a pattern takes as many characters as it has.** -/
theorem Divides.drop (hpassed : '%' ∉ passed) (h : Divides (passed ++ pattern) text) :
    Divides pattern (text.drop passed.length) := by
  induction passed generalizing text with
  | nil => exact h
  | cons p passed ih =>
    obtain ⟨hp, hpassed⟩ := not_or.1 (List.mem_cons.not.1 hpassed)
    obtain ⟨c, rest, rfl, -, hrest⟩ := (divides_cons_of_ne (Ne.symm hp)).1 h
    exact ih hpassed hrest

end Divides

/-! ## The search

The search keeps the last percent sign and how much that has taken so far.  Two facts carry it: a
sign may take one more character, and a sign that comes later makes an earlier one needless. -/

namespace LikeRetry

variable {r : LikeRetry} {p c : Char} {text rest pattern : List Char}

/-- The retry can lead to a match, with as many characters more for its percent sign as it takes. -/
def Succeeds (r : LikeRetry) : Prop := Divides ('%' :: r.pattern) r.text

/-- The search has come from the retry: since then it has passed no percent sign, and it has one
character more to go than the retry would have. -/
def Behind (r : LikeRetry) (text pattern : List Char) : Prop :=
  ∃ passed, '%' ∉ passed ∧ r.pattern = passed ++ pattern ∧ r.text.drop passed.length <:+ text

/-- A retry lies behind where its percent sign has just been passed. -/
theorem behind_of_suffix (h : r.text <:+ text) : r.Behind text r.pattern :=
  ⟨[], List.not_mem_nil, rfl, h⟩

/-- A character that fits leaves the retry behind. -/
theorem Behind.next (h : r.Behind (c :: rest) (p :: pattern)) (hp : p ≠ '%') :
    r.Behind rest pattern := by
  obtain ⟨passed, hpassed, hpattern, hleft⟩ := h
  refine ⟨passed ++ [p], by simp [hpassed, Ne.symm hp], by simp [hpattern], ?_⟩
  rw [List.length_append, List.length_singleton, ← List.drop_drop]
  obtain heq | hsuffix := List.suffix_cons_iff.1 hleft
  · rw [heq]
    exact List.suffix_refl rest
  · exact (List.drop_suffix 1 _).trans hsuffix

/-- **A percent sign makes the retry behind it needless**: where that would succeed, so does the
sign. -/
theorem Behind.divides (h : r.Behind text pattern) (hr : r.Succeeds) :
    Divides ('%' :: pattern) text := by
  obtain ⟨passed, hpassed, hpattern, hleft⟩ := h
  obtain ⟨rest, ⟨taken, htaken⟩, hrest⟩ := divides_percent.1 hr
  rw [hpattern] at hrest
  have hends : rest.drop passed.length <:+ r.text.drop passed.length := by
    rw [← htaken, List.drop_append]
    exact (List.drop_suffix_drop_left rest (Nat.sub_le _ _)).trans (List.suffix_append _ _)
  exact divides_percent.2 ⟨_, hends.trans hleft, hrest.drop hpassed⟩

/-- A percent sign finds what any retry behind it would. -/
theorem divides_of_behind {retry : Option LikeRetry} (h : ∀ r ∈ retry, r.Behind text pattern) :
    (∃ r ∈ retry, r.Succeeds) → Divides ('%' :: pattern) text := by
  rintro ⟨r, hr, hsucceeds⟩
  exact (h r hr).divides hsucceeds

/-- A retry that succeeds does so at once, or with one more character for its percent sign. -/
theorem succeeds_iff :
    r.Succeeds ↔ Divides r.pattern r.text ∨ LikeRetry.Succeeds ⟨r.text.tail, r.pattern⟩ := by
  obtain ⟨text, pattern⟩ := r
  cases text with
  | nil => simp [Succeeds, divides_percent]
  | cons c rest => exact divides_percent_cons

end LikeRetry

/-- **The search finds a match now or in the retry, if there is one.** -/
theorem likeFrom_iff {retry : Option LikeRetry} {text pattern : List Char}
    (h : ∀ r ∈ retry, r.Behind text pattern) :
    likeFrom retry text pattern = true ↔
      Divides pattern text ∨ ∃ r ∈ retry, r.Succeeds := by
  fun_induction likeFrom retry text pattern with
  | case1 retry pattern =>
    -- At the end of the text the retry would only come to this point again.
    have hneedless : (∃ r ∈ retry, r.Succeeds) → Divides pattern [] := fun hr => by
      simpa [divides_percent] using LikeRetry.divides_of_behind h hr
    rw [← divides_empty, or_iff_left_of_imp hneedless]
  | case2 retry pattern c rest hpercent ih =>
    obtain ⟨after, rfl⟩ := List.head?_eq_some_iff.1 hpercent
    have hneedless : (∃ r ∈ retry, r.Succeeds) → Divides ('%' :: after) (c :: rest) := fun hr =>
      divides_percent_percent.1 (LikeRetry.divides_of_behind h hr)
    have hbehind : ∀ r ∈ some (LikeRetry.mk rest after), r.Behind (c :: rest) after := by
      rintro _ ⟨rfl⟩
      exact LikeRetry.behind_of_suffix (List.suffix_cons c rest)
    rw [ih hbehind, or_iff_left_of_imp hneedless, divides_percent_cons]
    simp [LikeRetry.Succeeds]
  | case3 retry pattern c rest hpercent hfits ih =>
    obtain ⟨p, hhead, hp⟩ := (Option.any_eq_true _ _).1 hfits
    obtain ⟨after, rfl⟩ := List.head?_eq_some_iff.1 hhead
    have hne : p ≠ '%' := by
      rintro rfl
      exact hpercent rfl
    rw [List.tail_cons] at ih ⊢
    rw [ih fun r hr => (h r hr).next hne, divides_cons_of_ne hne]
    simp [hp]
  | case4 pattern c rest hpercent hfits =>
    simp [not_divides_of_misfit hpercent hfits]
  | case5 pattern c rest hpercent hfits r ih =>
    have hbehind : ∀ r' ∈ some (LikeRetry.mk r.text.tail r.pattern),
        r'.Behind r.text r.pattern := by
      rintro _ ⟨rfl⟩
      exact LikeRetry.behind_of_suffix (List.tail_suffix r.text)
    rw [ih hbehind]
    simp [not_divides_of_misfit hpercent hfits, LikeRetry.succeeds_iff (r := r)]

/-- **A text matches a pattern exactly when it can be cut into parts, one for every character of
the pattern**: any run for a percent sign, one character for an underscore, and every other
character itself. -/
theorem likeMatches_iff (text pattern : String) :
    likeMatches text pattern = true ↔
      ∃ parts, List.Forall₂ Takes pattern.toList parts ∧ parts.flatten = text.toList := by
  rw [likeMatches, likeFrom_iff (by simp)]
  simp [Divides]

end ScatterGather
