import ScatterGather.Inline.Expand
import ScatterGather.Proofs.Inline.Choices
import ScatterGather.Proofs.Inline.Parsing

/-!
# Proofs/Inline/Lists — lists of templates

The commas between templates are found by counting open braces and brackets, without parsing.  A
placeholder opens as many as it closes, unless an item of a list holds one, and a literal none; so
**the parts of a list are its templates** (`parts_intercalate`), and the list expands into what they
expand into, in order (`expandAll_join`).
-/

namespace ScatterGather.Inline

/-! ## Depth

Cutting at commas keeps one number, the depth.  A text that neither ends a part nor changes the
depth for good can be passed over as a whole (`Leads`), and such texts can be joined. -/

section Depth

variable {depth depth' depth'' : Nat} {c : Char} {cs text rest a b : List Char}

/-- Puts characters before the first part. -/
def pushFront (cs : List Char) : List (List Char) → List (List Char)
  | [] => [cs]
  | part :: more => (cs ++ part) :: more

/-- The depth after a character. -/
def nest (depth : Nat) (c : Char) : Nat :=
  if c = '\x7b' || c = '[' then depth + 1
  else if c = '\x7d' || c = ']' then depth - 1
  else depth

theorem parts_ne_nil (depth : Nat) (cs : List Char) : parts depth cs ≠ [] := by
  cases cs with
  | nil => simp [parts]
  | cons c cs =>
    rw [parts]
    split
    · simp
    · dsimp only
      split <;> simp

/-- A comma outside of everything ends a part. -/
theorem parts_comma (cs : List Char) : parts 0 (',' :: cs) = [] :: parts 0 cs := rfl

/-- Any other character, or a comma inside, goes on with the part. -/
theorem parts_cons (h : c = ',' → 0 < depth) :
    parts depth (c :: cs) = pushFront [c] (parts (nest depth c) cs) := by
  have hcomma : ¬ (c = ',' && depth = 0) = true := by
    simp only [Bool.and_eq_true, decide_eq_true_eq, not_and]
    exact fun hc => Nat.ne_of_gt (h hc)
  rw [parts, if_neg hcomma]
  change (match parts (nest depth c) cs with
    | [] => [[c]]
    | part :: more => (c :: part) :: more) = _
  cases parts (nest depth c) cs <;> rfl

theorem pushFront_pushFront (cs : List (List Char)) :
    pushFront a (pushFront b cs) = pushFront (a ++ b) cs := by
  cases cs <;> simp [pushFront]

theorem pushFront_nil {cs : List (List Char)} (h : cs ≠ []) : pushFront [] cs = cs := by
  obtain ⟨part, more, rfl⟩ := List.exists_cons_of_ne_nil h
  rfl

/-- The text stays in one part, and leads from one depth to the other. -/
def Leads (depth : Nat) (text : List Char) (depth' : Nat) : Prop :=
  ∀ rest, parts depth (text ++ rest) = pushFront text (parts depth' rest)

theorem Leads.append (ha : Leads depth a depth') (hb : Leads depth' b depth'') :
    Leads depth (a ++ b) depth'' := fun rest => by
  rw [List.append_assoc, ha, hb, pushFront_pushFront]

/-- A single character leads to the depth after it, a comma only inside something. -/
theorem leads_singleton (h : c = ',' → 0 < depth) : Leads depth [c] (nest depth c) := fun _ =>
  parts_cons h

/-- No bracket and no brace is among the characters. -/
def Unbracketed (cs : List Char) : Prop := ∀ c ∈ cs, c ∉ ['[', ']', '\x7b', '\x7d']

instance : DecidablePred Unbracketed := List.decidableBAll _

/-- **Text without brackets and braces stays at its depth**, commas being allowed inside others. -/
theorem Unbracketed.leads (h : Unbracketed text) (hcomma : ',' ∈ text → 0 < depth) :
    Leads depth text depth := by
  induction text with
  | nil => exact fun rest => (pushFront_nil (parts_ne_nil depth rest)).symm
  | cons c text ih =>
    obtain ⟨hc, htext⟩ := List.forall_mem_cons.1 h
    have hnest : nest depth c = depth := by
      simp only [List.mem_cons, List.not_mem_nil, or_false, not_or] at hc
      simp [nest, hc]
    have hfirst : Leads depth [c] (nest depth c) :=
      leads_singleton fun heq => hcomma (by simp [heq])
    rw [hnest] at hfirst
    exact hfirst.append (ih htext fun hmem => hcomma (List.mem_cons_of_mem c hmem))

theorem unbracketed_append : Unbracketed (a ++ b) ↔ Unbracketed a ∧ Unbracketed b :=
  List.forall_mem_append

theorem unbracketed_cons :
    Unbracketed (c :: cs) ↔ c ∉ ['[', ']', '\x7b', '\x7d'] ∧ Unbracketed cs :=
  List.forall_mem_cons

end Depth

/-! ## Placeholders at their depth

A placeholder raises the depth at its brace and lowers it again at the end, whatever its list holds
in between. -/

section Placeholders

variable {cs text : List Char} {p : Placeholder} {segments : List Segment}

theorem Spaces.unbracketed (h : Spaces cs) : Unbracketed cs := by
  intro c hc hmem
  simp only [List.mem_cons, List.not_mem_nil, or_false] at hmem
  obtain rfl | rfl | rfl | rfl := hmem <;> exact absurd (h _ hc) (by decide)

theorem IsNumeral.unbracketed (h : IsNumeral text) : Unbracketed text := by
  have hdigits {digits : List Char} (h : ∀ c ∈ digits, c.isDigit = true) :
      Unbracketed digits := by
    intro c hc hmem
    simp only [List.mem_cons, List.not_mem_nil, or_false] at hmem
    obtain rfl | rfl | rfl | rfl := hmem <;> exact absurd (h _ hc) (by decide)
  cases h with
  | unsigned _ h => exact hdigits h
  | negative _ h => exact unbracketed_cons.2 ⟨by decide, hdigits h⟩

theorem SpellsItem.unbracketed {item : String} (h : SpellsItem text item)
    (hitem : Unbracketed item.toList) : Unbracketed text := by
  cases h with
  | single | double =>
    rw [String.toList_ofList] at hitem
    exact unbracketed_cons.2 ⟨by decide, unbracketed_append.2 ⟨hitem, by simp [Unbracketed]⟩⟩
  | numeral h => exact h.1.unbracketed

theorem SpellsItems.unbracketed {items : List String} (h : SpellsItems text items)
    (hitems : ∀ item ∈ items, Unbracketed item.toList) : Unbracketed text := by
  induction h with
  | last hbefore htext hafter =>
    simp only [unbracketed_append]
    exact ⟨hbefore.unbracketed, htext.unbracketed (hitems _ List.mem_cons_self),
      hafter.unbracketed⟩
  | next hbefore htext hafter _ ih =>
    obtain ⟨hitem, hitems⟩ := List.forall_mem_cons.1 hitems
    simp only [unbracketed_append, unbracketed_cons]
    exact ⟨hbefore.unbracketed, htext.unbracketed hitem, hafter.unbracketed, by decide, ih hitems⟩

/-- What may stand in a list of templates: literals without commas, brackets and braces, ranges that
count up, and lists without brackets and braces in their items. -/
def Segment.IsListable : Segment → Prop
  | .literal text => ∀ c ∈ text.toList, c ∉ [',', '[', ']', '\x7b', '\x7d']
  | .placeholder (.range first last) => first.toInt ≤ last.toInt
  | .placeholder (.items items) => ∀ item ∈ items, Unbracketed item.toList
  | .placeholder (.column _ _) => False

instance : DecidablePred Segment.IsListable
  | .literal text => List.decidableBAll _ text.toList
  | .placeholder (.range _ _) => inferInstanceAs (Decidable (_ ≤ _))
  | .placeholder (.items items) => List.decidableBAll _ items
  | .placeholder (.column _ _) => inferInstanceAs (Decidable False)

/-- What may stand in a list has offers. -/
theorem Segment.IsListable.isExpandable {s : Segment} (h : s.IsListable) : s.IsExpandable := by
  match s, h with
  | .literal _, _ | .placeholder (.items _), _ => trivial
  | .placeholder (.range _ _), h => exact h

/-- What stands between the braces leads back to its depth. -/
theorem SpellsBody.leads (h : SpellsBody text p) (hp : Segment.IsListable (.placeholder p)) :
    Leads 1 text 1 := by
  cases h with
  | @range a b _ _ ha hb =>
    have htext : Unbracketed (a ++ '.' :: '.' :: b) := by
      simp only [unbracketed_append, unbracketed_cons]
      exact ⟨ha.1.unbracketed, by decide, by decide, hb.1.unbracketed⟩
    exact htext.leads fun _ => Nat.one_pos
  | items h =>
    have hopen : Leads 1 ['['] 2 := leads_singleton (by decide)
    have hinner : Leads 2 _ 2 := (h.unbracketed hp).leads fun _ => Nat.two_pos
    have hclose : Leads 2 [']'] 1 := leads_singleton (by decide)
    exact hopen.append (hinner.append hclose)
  | column | arithmetic => exact hp.elim

/-- **A placeholder stays in one part.** -/
theorem Spells.leads (h : Spells text p) (hp : Segment.IsListable (.placeholder p)) :
    Leads 0 text 0 := by
  obtain @⟨opener, _, _, _, _, hopener, hbefore, hbody, hafter⟩ := h
  have hopen : Leads 0 opener 1 := by
    have hbrace : Leads 0 ['\x7b'] 1 := leads_singleton (by decide)
    cases hopener with
    | brace =>
      have hdollar : Leads 0 ['$'] 0 := leads_singleton (by decide)
      exact hdollar.append hbrace
    | arrow =>
      have harrow : Leads 0 ['$', '-', '>'] 0 := Unbracketed.leads (by decide) (by decide)
      exact harrow.append hbrace
  have hclose : Leads 1 ['\x7d'] 0 := leads_singleton (by decide)
  have hspaces {cs : List Char} (h : Spaces cs) : Leads 1 cs 1 :=
    h.unbracketed.leads fun _ => Nat.one_pos
  exact hopen.append ((hspaces hbefore).append
    ((hbody.leads hp).append ((hspaces hafter).append hclose)))

/-- **A template stays in one part.** -/
theorem Splits.leads (h : Splits cs segments) (hsegments : ∀ s ∈ segments, s.IsListable) :
    Leads 0 cs 0 := by
  induction h with
  | nil => exact Unbracketed.leads (by simp [Unbracketed]) (by simp)
  | @literal text _ _ _ _ _ _ ih =>
    obtain ⟨hliteral, hsegments⟩ := List.forall_mem_cons.1 hsegments
    have hliteral : ∀ c ∈ text, c ∉ [',', '[', ']', '\x7b', '\x7d'] := by
      simpa [Segment.IsListable] using hliteral
    have htext : Unbracketed text := fun c hc hmem =>
      hliteral c hc (List.mem_cons_of_mem ',' hmem)
    exact (htext.leads fun hcomma => absurd List.mem_cons_self (hliteral _ hcomma)).append
      (ih hsegments)
  | placeholder htext _ ih =>
    obtain ⟨hp, hsegments⟩ := List.forall_mem_cons.1 hsegments
    exact (htext.leads hp).append (ih hsegments)

end Placeholders

/-! ## Lists

The entries of a list may stand between blanks, which neither cutting nor parsing sees. -/

/-- **The parts of a list are what its commas stand between.** -/
theorem parts_intercalate {texts : List (List Char)} (hne : texts ≠ [])
    (h : ∀ text ∈ texts, Leads 0 text 0) : parts 0 (List.intercalate [','] texts) = texts := by
  induction texts with
  | nil => exact absurd rfl hne
  | cons text texts ih =>
    obtain ⟨htext, htexts⟩ := List.forall_mem_cons.1 h
    cases texts with
    | nil =>
      rw [List.intercalate_singleton, ← List.append_nil text, htext]
      simp [parts, pushFront]
    | cons next texts =>
      rw [List.intercalate_cons_cons, List.append_assoc, htext, List.singleton_append, parts_comma,
        ih (by simp) htexts]
      simp [pushFront]

/-- A template in a list: its text, and the blanks around it. -/
structure Entry where
  before : List Char
  text : String
  after : List Char

/-- The text with its blanks. -/
def Entry.whole (e : Entry) : String := String.ofList (e.before ++ (e.text.toList ++ e.after))

/-- The entry is the template, with nothing in it that a list cannot hold. -/
structure Entry.Holds (e : Entry) (t : Template) : Prop where
  before : ∀ c ∈ e.before, Text.isBlank c = true
  after : ∀ c ∈ e.after, Text.isBlank c = true
  visible : Text.trimChars e.text.toList ≠ []
  parse : Template.parse e.text = .ok t
  listable : ∀ s ∈ t.segments, s.IsListable

namespace Entry.Holds

variable {e : Entry} {t : Template}

theorem trimChars_whole (h : e.Holds t) :
    Text.trimChars e.whole.toList = Text.trimChars e.text.toList := by
  rw [Entry.whole, String.toList_ofList, Text.trimChars_append h.before h.after]

/-- Parsing does not see the blanks around a template. -/
theorem parse_whole (h : e.Holds t) : Template.parse e.whole = .ok t := by
  rw [← h.parse, Template.parse_eq, Template.parse_eq, h.trimChars_whole]

/-- Blanks stay at their depth. -/
theorem leads_of_isBlank {cs : List Char} (h : ∀ c ∈ cs, Text.isBlank c = true) :
    Leads 0 cs 0 := by
  have hvisible {d : Char} (hd : Text.isBlank d = false) : d ∉ cs := fun hmem =>
    Bool.false_ne_true (hd.symm.trans (h d hmem))
  refine Unbracketed.leads (fun c hc hmem => ?_) fun hcomma =>
    absurd hcomma (hvisible (by decide))
  simp only [List.mem_cons, List.not_mem_nil, or_false] at hmem
  obtain rfl | rfl | rfl | rfl := hmem <;> exact hvisible (by decide) hc

/-- An entry stays in one part. -/
theorem leads_whole (h : e.Holds t) : Leads 0 e.whole.toList 0 := by
  obtain ⟨before, after, hbefore, hafter, hcs⟩ := Text.exists_trimChars e.whole.toList
  rw [hcs]
  exact (leads_of_isBlank hbefore).append
    (((Template.parse_eq_ok_iff.1 h.parse_whole).2.leads h.listable).append
      (leads_of_isBlank hafter))

end Entry.Holds

section Join

variable {entries : List Entry} {templates : List Template}

/-- **The parts of a list that are not blank are its entries.** -/
theorem filter_parts_join (h : List.Forall₂ Entry.Holds entries templates) :
    (parts 0 (Text.join "," (entries.map Entry.whole)).toList).filter
        (fun part => !(Text.trimChars part).isEmpty) =
      entries.map fun e => e.whole.toList := by
  have hholds : ∀ e ∈ entries, ∃ t, e.Holds t := fun e he =>
    (exists_mem_of_forall₂ h he).imp fun _ ht => ht.2
  have htexts : (Text.join "," (entries.map Entry.whole)).toList =
      List.intercalate [','] (entries.map fun e => e.whole.toList) := by
    rw [Text.join, String.toList_intercalate, List.map_map]
    rfl
  rw [htexts]
  by_cases hne : entries = []
  · subst hne
    rfl
  · rw [parts_intercalate (by simpa using hne), List.filter_eq_self]
    · intro text htext
      obtain ⟨e, he, rfl⟩ := List.mem_map.1 htext
      obtain ⟨t, ht⟩ := hholds e he
      simpa [ht.trimChars_whole] using ht.visible
    · intro text htext
      obtain ⟨e, he, rfl⟩ := List.mem_map.1 htext
      obtain ⟨t, ht⟩ := hholds e he
      exact ht.leads_whole

/-- An entry expands into what its template does. -/
theorem expandText_whole {e : Entry} {t : Template} (h : e.Holds t) :
    expandText e.whole.toList = t.expand := by
  rw [expandText, String.ofList_toList, h.parse_whole]
  rfl

/-- **A list of templates expands into what its templates expand into, in order**, and each of them
into one text for every choice of offers, in lexicographic order. -/
theorem expandAll_join (h : List.Forall₂ Entry.Holds entries templates) :
    ∃ expansions : List (List String),
      expandAll (Text.join "," (entries.map Entry.whole)) = .ok expansions.flatten ∧
        List.Forall₂ Template.ExpandsInto templates expansions := by
  obtain ⟨expansions, hexpand, hinto⟩ : ∃ expansions,
      List.Forall₂ (fun e texts => expandText e.whole.toList = .ok texts) entries expansions ∧
      List.Forall₂ Template.ExpandsInto templates expansions := by
    induction h with
    | nil => exact ⟨[], .nil, .nil⟩
    | cons hentry _ ih =>
      obtain ⟨expansions, hexpand, hinto⟩ := ih
      obtain ⟨texts, htexts⟩ :=
        Template.exists_expandsInto fun s hs => (hentry.listable s hs).isExpandable
      exact ⟨texts :: expansions, .cons ((expandText_whole hentry).trans htexts.1) hexpand,
        .cons htexts hinto⟩
  have hsteps : (entries.map fun e => e.whole.toList).mapM expandText = .ok expansions :=
    mapM_eq_ok.2 (List.forall₂_map_left_iff.2 hexpand)
  refine ⟨expansions, ?_, hinto⟩
  rw [expandAll, filter_parts_join h, hsteps]
  rfl

/-- Two templates between blanks, with commas inside the first. -/
def nodeEntries : List Entry :=
  [⟨[' '], "ds_$\x7b['a,b', -1]\x7d.t_$->\x7b0..1\x7d", []⟩, ⟨['\n'], "ds.t", [' ', ' ']⟩]

/-- What the entries parse as. -/
def nodeTemplates : List Template :=
  [⟨"ds_$\x7b['a,b', -1]\x7d.t_$->\x7b0..1\x7d",
      [.literal "ds_", .placeholder (.items ["a,b", "-1"]), .literal ".t_",
        .placeholder (.range 0 1)]⟩,
    ⟨"ds.t", [.literal "ds.t"]⟩]

/-- The first template has four choices, its list varying slower than its range. -/
theorem expandAll_join_nodes :
    List.Forall₂ Entry.Holds nodeEntries nodeTemplates ∧
      expandAll (Text.join "," (nodeEntries.map Entry.whole)) =
        .ok ["ds_a,b.t_0", "ds_a,b.t_1", "ds_-1.t_0", "ds_-1.t_1", "ds.t"] ∧
      ∃ expansions : List (List String),
        expandAll (Text.join "," (nodeEntries.map Entry.whole)) = .ok expansions.flatten ∧
          List.Forall₂ Template.ExpandsInto nodeTemplates expansions := by
  have hblank (cs : List Char) (h : cs.all Text.isBlank = true) :
      ∀ c ∈ cs, Text.isBlank c = true := List.all_eq_true.1 h
  have hholds : List.Forall₂ Entry.Holds nodeEntries nodeTemplates :=
    .cons
      { before := hblank [' '] rfl
        after := hblank [] rfl
        visible := by decide +kernel
        parse := by decide +kernel
        listable := by decide +kernel }
      (.cons
        { before := hblank ['\n'] rfl
          after := hblank [' ', ' '] rfl
          visible := by decide +kernel
          parse := by decide +kernel
          listable := by decide +kernel } .nil)
  exact ⟨hholds, by decide +kernel, expandAll_join hholds⟩

end Join

end ScatterGather.Inline
