import ScatterGather.Proofs.Inline.Segments
import ScatterGather.Proofs.Text.Blank

/-!
# Proofs/Inline/Parsing — which texts are templates

Parsing leaves blanks at the ends of a text aside and splits the rest (`parse_eq_ok_iff`).  Blanks
neither open a placeholder nor end one, so a text is stuck with them if it is stuck without
(`isStuck_trimChars`): **parsing fails exactly where an opener outside placeholders starts none**
(`exists_parse_eq_error_iff`).
-/

namespace ScatterGather.Inline

variable {cs text rest before after : List Char} {p : Placeholder} {segments : List Segment}

/-! ## Blanks at the ends

Parsing trims first, but where it fails is to be said of the whole text.  So blanks at the ends must
neither begin a placeholder, nor end one, nor hide an opener. -/

/-- Scanning the text comes to an opener that starts no placeholder. -/
def IsStuck (cs : List Char) : Prop := ∃ rest, Outside cs rest ∧ IsBlocked rest

/-- A beginning whose last character is not added behind the text is one of the text. -/
theorem prefix_of_prefix_append (hlast : ∀ c ∈ text.getLast?, c ∉ after)
    (h : text <+: cs ++ after) : text <+: cs := by
  obtain ⟨tail, htail⟩ := h
  obtain ⟨more, rfl, -⟩ | ⟨more, rfl, rfl⟩ := List.append_eq_append_iff.1 htail
  · exact List.prefix_append text more
  · cases hmore : more.getLast? with
    | none => simp [List.getLast?_eq_none_iff.1 hmore]
    | some c =>
      have hc : (cs ++ more).getLast? = some c := by simp [List.getLast?_append, hmore]
      exact absurd (List.mem_append_left tail (List.mem_of_getLast? hmore)) (hlast c hc)

theorem Opens.getLast?_eq {opener : List Char} (h : Opens opener) :
    opener.getLast? = some '\x7b' := by
  cases h <;> rfl

theorem Spells.getLast?_eq (h : Spells text p) : text.getLast? = some '\x7d' := by
  obtain ⟨-, -, -, -⟩ := h
  simp [List.getLast?_append]

/-- What scanning comes to is the end of the text. -/
theorem Outside.suffix (h : Outside cs rest) : rest <:+ cs := by
  induction h with
  | here => exact List.suffix_rfl
  | next _ _ ih => exact ih.trans (List.suffix_cons _ _)
  | past _ _ ih => exact ih.trans (List.suffix_append _ _)

section After

variable (hafter : ∀ c ∈ after, Text.isBlank c = true)

include hafter

theorem not_mem_of_isBlank {c : Char} (hc : Text.isBlank c = false) : c ∉ after := fun hmem =>
  Bool.false_ne_true (hc.symm.trans (hafter c hmem))

theorem startsOpener_append_iff : StartsOpener (cs ++ after) ↔ StartsOpener cs := by
  refine ⟨?_, fun h => h.append after⟩
  rintro ⟨opener, hopener, hbegins⟩
  refine ⟨opener, hopener, prefix_of_prefix_append (fun c hc => ?_) hbegins⟩
  rw [hopener.getLast?_eq] at hc
  exact not_mem_of_isBlank hafter (Option.some.inj hc ▸ by decide)

theorem Spells.prefix_append_iff (h : Spells text p) : text <+: cs ++ after ↔ text <+: cs := by
  refine ⟨prefix_of_prefix_append fun c hc => ?_, fun h => h.trans (List.prefix_append cs after)⟩
  rw [h.getLast?_eq] at hc
  exact not_mem_of_isBlank hafter (Option.some.inj hc ▸ by decide)

/-- Blanks behind a text do not change whether it is blocked. -/
theorem isBlocked_append_iff : IsBlocked (cs ++ after) ↔ IsBlocked cs :=
  and_congr (startsOpener_append_iff hafter) (forall₃_congr fun _ _ htext =>
    not_congr (htext.prefix_append_iff hafter))

/-- What scanning comes to is followed by the blanks. -/
theorem Outside.append (h : Outside cs rest) : Outside (cs ++ after) (rest ++ after) := by
  induction h with
  | here => exact .here
  | @next c cs _ hopener _ ih =>
    have hnext : ¬ StartsOpener (c :: cs ++ after) := (startsOpener_append_iff hafter).not.2 hopener
    exact .next hnext ih
  | past htext _ ih =>
    rw [List.append_assoc]
    exact .past htext ih

/-- **Scanning does not come to an opener among the blanks.** -/
theorem Outside.exists_of_append (hstarts : StartsOpener rest) {whole : List Char}
    (h : Outside whole rest) :
    ∀ cs, whole = cs ++ after → ∃ left, rest = left ++ after ∧ Outside cs left := by
  induction h with
  | here => exact fun cs hcs => ⟨cs, hcs, .here⟩
  | @next c more rest hopener h ih =>
    intro cs hcs
    cases cs with
    | nil =>
      have hmem : '$' ∈ after := by
        rw [← List.nil_append after, ← hcs]
        exact List.mem_cons_of_mem c (h.suffix.subset (List.mem_of_head? hstarts.head?_eq))
      exact absurd hmem (not_mem_of_isBlank hafter (by decide))
    | cons d cs =>
      obtain ⟨rfl, rfl⟩ := List.cons.inj hcs
      obtain ⟨left, hleft, houtside⟩ := ih hstarts cs rfl
      exact ⟨left, hleft, .next (fun h => hopener (h.append after)) houtside⟩
  | @past text more rest p htext h ih =>
    intro cs hcs
    obtain ⟨tail, rfl⟩ := (htext.prefix_append_iff hafter).1 ⟨more, hcs⟩
    obtain ⟨left, hleft, houtside⟩ :=
      ih hstarts tail (List.append_cancel_left (hcs.trans (List.append_assoc text tail after)))
    exact ⟨left, hleft, .past htext houtside⟩

/-- Blanks behind do not matter to being stuck. -/
theorem isStuck_append_iff : IsStuck (cs ++ after) ↔ IsStuck cs := by
  constructor
  · rintro ⟨rest, houtside, hblocked⟩
    obtain ⟨left, rfl, hleft⟩ := Outside.exists_of_append hafter hblocked.1 houtside cs rfl
    exact ⟨left, hleft, (isBlocked_append_iff hafter).1 hblocked⟩
  · rintro ⟨rest, houtside, hblocked⟩
    exact ⟨rest ++ after, houtside.append hafter, (isBlocked_append_iff hafter).2 hblocked⟩

end After

/-- A character that opens nothing is passed. -/
theorem isStuck_cons_iff {c : Char} (h : ¬ StartsOpener (c :: cs)) :
    IsStuck (c :: cs) ↔ IsStuck cs := by
  refine exists_congr fun rest => and_congr_left fun hblocked => ?_
  refine ⟨fun houtside => ?_, .next h⟩
  generalize hcs : c :: cs = whole at *
  cases houtside with
  | here => exact absurd hblocked.1 h
  | next _ houtside =>
    obtain rfl := (List.cons.inj hcs).2
    exact houtside
  | past htext => exact absurd (htext.startsOpener.append _) h

/-- Blanks in front do not change whether parsing gets stuck. -/
theorem isStuck_blank_append_iff (hbefore : ∀ c ∈ before, Text.isBlank c = true) :
    IsStuck (before ++ cs) ↔ IsStuck cs := by
  induction before with
  | nil => rfl
  | cons c before ih =>
    obtain ⟨hc, hbefore⟩ := List.forall_mem_cons.1 hbefore
    have hopener : ¬ StartsOpener (c :: (before ++ cs)) := fun h => by
      obtain rfl : c = '$' := Option.some.inj h.head?_eq
      exact absurd hc (by decide)
    exact (isStuck_cons_iff hopener).trans (ih hbefore)

/-- **A text is stuck with blanks at its ends if it is stuck without.** -/
theorem isStuck_trimChars (cs : List Char) : IsStuck (Text.trimChars cs) ↔ IsStuck cs := by
  obtain ⟨before, after, hbefore, hafter, hcs⟩ := Text.exists_trimChars cs
  rw [← isStuck_append_iff hafter, ← isStuck_blank_append_iff hbefore, ← hcs]

/-! ## Parsing -/

namespace Template

/-- Parsing trims the text and reads its segments, with fuel for each character. -/
theorem parse_eq (text : String) : parse text =
    match readSegments ((Text.trimChars text.toList).length + 1) []
      (Text.trimChars text.toList) with
    | .ok found => .ok ⟨String.ofList (Text.trimChars text.toList), found⟩
    | .error rest => .error (.placeholder (String.ofList (Text.trimChars text.toList))
        (String.ofList rest)) := rfl

/-- **A template is a text that splits**, blanks at its ends aside. -/
theorem parse_eq_ok_iff {text : String} {t : Template} : parse text = .ok t ↔
    t.source = String.ofList (Text.trimChars text.toList) ∧
      Splits (Text.trimChars text.toList) t.segments := by
  rw [parse_eq, ← readSegments_eq_ok_iff (Nat.lt_succ_self _)]
  cases readSegments _ [] (Text.trimChars text.toList) with
  | error rest => simp
  | ok found =>
    obtain ⟨source, segments⟩ := t
    simp [eq_comm]

/-- **Parsing fails exactly where an opener outside placeholders starts none.** -/
theorem exists_parse_eq_error_iff {text : String} :
    (∃ why, parse text = .error why) ↔ IsStuck text.toList := by
  have hread (rest : List Char) :
      readSegments ((Text.trimChars text.toList).length + 1) [] (Text.trimChars text.toList) =
        .error rest ↔ Outside (Text.trimChars text.toList) rest ∧ IsBlocked rest :=
    readSegments_eq_error_iff (Nat.lt_succ_self _)
  rw [← isStuck_trimChars, IsStuck, parse_eq]
  simp only [← hread]
  cases readSegments _ [] (Text.trimChars text.toList) <;> simp

end Template

end ScatterGather.Inline
