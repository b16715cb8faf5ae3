import Mathlib.Algebra.Group.Nat.Defs
import ScatterGather.Inline.Basic
import ScatterGather.Proofs.Outcome

/-!
# Proofs/Inline/Choices — the texts of a template

A segment offers texts, a text of a template takes one offer of every segment, and a choice of
offers is a list of their positions.  **A template expands into one text for every choice, the
choices in lexicographic order** (`exists_expandsInto`): the leftmost segment varies slowest.
-/

namespace ScatterGather.Inline

/-! ## Offers

What a segment offers is said once, apart from how a template goes through the offers. -/

/-- The texts that a segment stands for, in their order: a range counts up from its first
integer. -/
inductive Offers : Segment → List String → Prop
  | literal (text : String) : Offers (.literal text) [text]
  | items (texts : List String) : Offers (.placeholder (.items texts)) texts
  | range {first last : Int64} {texts : List String}
      (hlength : (texts.length : Int) = last.toInt - first.toInt + 1)
      (htexts : ∀ (i : Nat) (h : i < texts.length), texts[i] = Text.ofInt (first.toInt + i)) :
      Offers (.placeholder (.range first last)) texts

/-- Segments with offers: ranges count up, and there are no columns. -/
def Segment.IsExpandable : Segment → Prop
  | .literal _ | .placeholder (.items _) => True
  | .placeholder (.range first last) => first.toInt ≤ last.toInt
  | .placeholder (.column _ _) => False

/-- A segment with offers hands them out. -/
theorem exists_offers {s : Segment} (h : s.IsExpandable) (source : String) :
    ∃ texts, s.alternatives source = .ok texts ∧ Offers s texts := by
  match s, h with
  | .literal text, _ => exact ⟨_, rfl, .literal text⟩
  | .placeholder (.items texts), _ => exact ⟨_, rfl, .items texts⟩
  | .placeholder (.range first last), h =>
    have hle : first.toInt ≤ last.toInt := h
    refine ⟨_, if_neg (Int.not_lt.2 hle), .range ?_ fun i hi => ?_⟩
    · simp only [between, List.length_map, List.length_range]
      omega
    · simp [between]

/-! ## Choices

A choice is a list of positions, and choices are compared as such lists.  The order of the texts is
then the order of numbers of mixed radix, whatever the texts are. -/

section Choices

variable {alternatives : List (List String)} {choice : List Nat}

/-- A position for every segment. -/
def IsChoice (alternatives : List (List String)) (choice : List Nat) : Prop :=
  List.Forall₂ (fun texts i => i < texts.length) alternatives choice

/-- The text that a choice makes. -/
def chosen (alternatives : List (List String)) (choice : List Nat) : String :=
  String.join (List.zipWith (fun texts i => texts.getD i "") alternatives choice)

/-- A list with one text for every choice, in lexicographic order of the choices. -/
def ListsChoices (alternatives : List (List String)) (texts : List String) : Prop :=
  ∃ choices : List (List Nat), choices.Pairwise (· < ·) ∧
    (∀ choice, choice ∈ choices ↔ IsChoice alternatives choice) ∧
    texts = choices.map (chosen alternatives)

/-- All choices, the first position varying slowest. -/
def allChoices : List (List String) → List (List Nat)
  | [] => [[]]
  | texts :: rest => (List.range texts.length).flatMap fun i => (allChoices rest).map (i :: ·)

theorem mem_allChoices : choice ∈ allChoices alternatives ↔ IsChoice alternatives choice := by
  induction alternatives generalizing choice with
  | nil => simp [allChoices, IsChoice]
  | cons texts rest ih =>
    simp only [allChoices, List.mem_flatMap, List.mem_range, List.mem_map, ih, IsChoice,
      List.forall₂_cons_left_iff]
    grind

/-- **The choices are listed in lexicographic order.** -/
theorem pairwise_allChoices : (allChoices alternatives).Pairwise (· < ·) := by
  induction alternatives with
  | nil => simp [allChoices]
  | cons texts rest ih =>
    refine List.pairwise_flatMap.2 ⟨fun i _ => ?_, ?_⟩
    · exact List.pairwise_map.2 (ih.imp fun hlt => List.cons_lt_cons_iff.2 (.inr ⟨rfl, hlt⟩))
    · refine List.pairwise_lt_range.imp fun {i j} hij => ?_
      intro x hx y hy
      obtain ⟨_, -, rfl⟩ := List.mem_map.1 hx
      obtain ⟨_, -, rfl⟩ := List.mem_map.1 hy
      exact List.cons_lt_cons_iff.2 (.inl hij)

/-- There are as many choices as the numbers of offers multiply to. -/
theorem length_allChoices :
    (allChoices alternatives).length = (alternatives.map List.length).prod := by
  induction alternatives with
  | nil => rfl
  | cons texts rest ih => simp [allChoices, List.length_flatMap, ih]

end Choices

/-! ## Expansion

Expanding goes from left to right and multiplies what there is by the next segment's offers; the
choices are listed from the other end.  The two meet because the product of lists of texts is
associative. -/

/-- Texts can be multiplied in either grouping. -/
theorem product_assoc (a b c : List String) :
    product (product a b) c = product a (product b c) := by
  simp only [product, List.flatMap_assoc, List.flatMap_map, List.map_flatMap, List.map_map]
  simp [Function.comp_def, String.append_assoc]

theorem product_empty_left (texts : List String) : product [""] texts = texts := by
  simp [product]

theorem product_empty_right (texts : List String) : product texts [""] = texts := by
  simp [product, List.flatMap_singleton']

/-- The texts of all choices begin with the first segment's offers. -/
theorem map_chosen_allChoices_cons (texts : List String) (rest : List (List String)) :
    (allChoices (texts :: rest)).map (chosen (texts :: rest)) =
      product texts ((allChoices rest).map (chosen rest)) := by
  have hrange : (List.range texts.length).map (texts.getD · "") = texts :=
    List.ext_getElem (by simp) (by simp +contextual)
  calc (allChoices (texts :: rest)).map (chosen (texts :: rest))
      = (List.range texts.length).flatMap fun i =>
          ((allChoices rest).map (chosen rest)).map (texts.getD i "" ++ ·) := by
        simp [allChoices, List.map_flatMap, chosen, Function.comp_def, String.join_cons]
    _ = product ((List.range texts.length).map (texts.getD · ""))
          ((allChoices rest).map (chosen rest)) := by
        rw [product, List.flatMap_map]
    _ = product texts ((allChoices rest).map (chosen rest)) := by rw [hrange]

/-- Expanding the rest multiplies the texts so far by the texts of all choices. -/
theorem expandFrom_eq {source : String} {segments : List Segment}
    {alternatives : List (List String)} (texts : List String)
    (h : List.Forall₂ (fun s offers => s.alternatives source = .ok offers) segments alternatives) :
    expandFrom source texts segments =
      .ok (product texts ((allChoices alternatives).map (chosen alternatives))) := by
  induction h generalizing texts with
  | nil => simp [expandFrom, allChoices, chosen, product_empty_right]
  | @cons s offers _ alternatives hs _ ih =>
    rw [map_chosen_allChoices_cons, ← product_assoc, ← ih (product texts offers), expandFrom, hs]
    rfl

/-- The template's texts are one for every choice of offers, in lexicographic order of the choices,
and as many as the numbers of offers multiply to. -/
def Template.ExpandsInto (t : Template) (texts : List String) : Prop :=
  t.expand = .ok texts ∧ ∃ alternatives, List.Forall₂ Offers t.segments alternatives ∧
    ListsChoices alternatives texts ∧ texts.length = (alternatives.map List.length).prod

/-- **A template expands into one text for every choice of offers.** -/
theorem Template.exists_expandsInto {t : Template} (h : ∀ s ∈ t.segments, s.IsExpandable) :
    ∃ texts, t.ExpandsInto texts := by
  obtain ⟨alternatives, halternatives⟩ :=
    exists_forall₂ fun s hs => exists_offers (h s hs) t.source
  refine ⟨_, ?_, alternatives, halternatives.imp fun _ _ h => h.2,
    ⟨allChoices alternatives, pairwise_allChoices, fun _ => mem_allChoices, rfl⟩, ?_⟩
  · rw [Template.expand, expandFrom_eq [""] (halternatives.imp fun _ _ h => h.1),
      product_empty_left]
  · rw [List.length_map, length_allChoices]

end ScatterGather.Inline
