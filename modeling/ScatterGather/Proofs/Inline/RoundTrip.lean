import Mathlib.Data.List.Chain
import ScatterGather.Proofs.Inline.Parsing
import ScatterGather.Proofs.Text.Numeral

/-!
# Proofs/Inline/RoundTrip — templates read back as they are written

Segments are written with a layout for each of them: which opener, and which blanks inside the
braces, around the items of a list and around an operator (`written`).  Literals stand as they are,
numbers in decimal digits, items of lists in single quotes.  **Whatever the layouts, parsing gives
the segments back, and it fails on no other texts than those that are stuck at an opener**
(`parse_written_and_isStuck`).
-/

namespace ScatterGather.Inline

/-! ## Writing

Nothing in the program writes a template, and one segment has many texts that parse as it.  A layout
names one of them, so that a statement for all layouts is one about every such text. -/

/-- Blanks on either side of something. -/
structure Margins where
  before : List Char
  after : List Char
  spaces_before : Spaces before := by decide
  spaces_after : Spaces after := by decide

/-- No blanks. -/
def Margins.none : Margins := { before := [], after := [] }

/-- The text between its margins. -/
def Margins.around (m : Margins) (cs : List Char) : List Char := m.before ++ (cs ++ m.after)

/-- What the writing of a placeholder leaves open. -/
structure Layout where
  /-- Whether an arrow stands in the opener. -/
  arrow : Bool
  inside : Margins
  item : Nat → Margins
  operator : Margins

/-- The digits of an integer. -/
def digits (n : Int64) : List Char := (Text.ofInt n.toInt).toList

/-- An item in single quotes. -/
def quotedItem (item : String) : List Char := '\'' :: (item.toList ++ ['\''])

/-- Items with their margins, commas between them. -/
def writtenItems (margins : Nat → Margins) (items : List String) : List Char :=
  List.intercalate [','] (items.mapIdx fun i item => (margins i).around (quotedItem item))

namespace Layout

/-- The opener of a placeholder. -/
def opener (layout : Layout) : List Char :=
  if layout.arrow then ['$', '-', '>', '\x7b'] else ['$', '\x7b']

/-- What stands between the braces. -/
def body (layout : Layout) : Placeholder → List Char
  | .range first last => digits first ++ '.' :: '.' :: digits last
  | .items items => '[' :: (writtenItems layout.item items ++ [']'])
  | .column name none => name.toList
  | .column name (some (op, n)) => name.toList ++ (layout.operator.around [op.symbol] ++ digits n)

/-- A segment as the layout has it. -/
def write (layout : Layout) : Segment → List Char
  | .literal text => text.toList
  | .placeholder p => layout.opener ++ (layout.inside.around (layout.body p) ++ ['\x7d'])

end Layout

/-- The segments one after the other, each with its layout. -/
def written (layouts : Nat → Layout) (segments : List Segment) : List Char :=
  (segments.mapIdx fun i s => (layouts i).write s).flatten

/-! ## What can be written

Some lists of segments are the parse of no text, such as two literals next to each other.  The
conditions here are those that a parsed text meets and that writing needs. -/

/-- A list has an item, and no item has a single quote; a column has a name. -/
def Placeholder.IsWritable : Placeholder → Prop
  | .range _ _ => True
  | .items texts => texts ≠ [] ∧ ∀ text ∈ texts, '\'' ∉ text.toList
  | .column name _ => IsName name.toList

/-- A literal has a character and no opener. -/
def Segment.IsWritable : Segment → Prop
  | .literal text => text ≠ "" ∧ ¬ HasOpener text.toList
  | .placeholder p => p.IsWritable

/-- There is an opener in a text if one of the two is a part of it. -/
theorem hasOpener_iff {cs : List Char} :
    HasOpener cs ↔ ['$', '\x7b'] <:+: cs ∨ ['$', '-', '>', '\x7b'] <:+: cs := by
  constructor
  · rintro ⟨opener, hopener, hinside⟩
    cases hopener
    · exact .inl hinside
    · exact .inr hinside
  · rintro (hinside | hinside)
    · exact ⟨_, .brace, hinside⟩
    · exact ⟨_, .arrow, hinside⟩

instance : DecidablePred HasOpener := fun _ => decidable_of_iff _ hasOpener_iff.symm

instance : DecidablePred IsName
  | [] => inferInstanceAs (Decidable False)
  | _ :: run => @instDecidableAnd _ _ _ (List.decidableBAll _ run)

instance : DecidablePred Segment.IsWritable
  | .literal _ => inferInstanceAs (Decidable (_ ∧ _))
  | .placeholder (.range _ _) => inferInstanceAs (Decidable True)
  | .placeholder (.items texts) => inferInstanceAs (Decidable (_ ∧ ∀ text ∈ texts, _))
  | .placeholder (.column name _) => inferInstanceAs (Decidable (IsName name.toList))

/-- No two literals stand next to each other, and none begins or ends the text with a blank. -/
structure AreWritable (segments : List Segment) : Prop where
  each : ∀ s ∈ segments, s.IsWritable
  apart : segments.IsChain fun s t => ¬ (s.isLiteral = true ∧ t.isLiteral = true)
  first : ∀ text, segments.head? = some (.literal text) →
    ∀ c ∈ text.toList.head?, Text.isBlank c = false
  last : ∀ text, segments.getLast? = some (.literal text) →
    ∀ c ∈ text.toList.getLast?, Text.isBlank c = false

/-! ## Writing spells

Each part that is written stands in the relation of its spellings; from there on the lemmas about
reading apply. -/

section Spelling

variable {layout : Layout} {layouts : Nat → Layout} {margins : Nat → Margins} {p : Placeholder}
  {s : Segment} {segments : List Segment}

/-- The digits of an integer denote it. -/
theorem denotes_digits (n : Int64) : Denotes (digits n) n := by
  have hfits : Text.toInt64? n.toInt = some n := Text.toInt64?_eq_some_iff.2 rfl
  have hvalue : (if decide (n.toInt < 0) = true then -(n.toInt.natAbs : Int)
      else n.toInt.natAbs) = n.toInt := by
    simp only [decide_eq_true_eq]
    split <;> omega
  have hdigit : ∀ c ∈ Nat.toDigits 10 n.toInt.natAbs, c.isDigit = true := fun _ =>
    Nat.isDigit_of_mem_toDigits (by decide) (by decide)
  rw [digits, Text.ofInt_eq]
  constructor
  · rw [Text.signedDigits]
    split
    · exact .negative Nat.toDigits_ne_nil hdigit
    · exact .unsigned Nat.toDigits_ne_nil hdigit
  · rw [Text.int64?, Text.integer?_signedDigits, Option.bind_some, hvalue, hfits]

theorem spellsItem_quotedItem {item : String} (h : '\'' ∉ item.toList) :
    SpellsItem (quotedItem item) item := by
  have hspells := SpellsItem.single h
  rwa [String.ofList_toList] at hspells

/-- The first of several items is followed by a comma and the others. -/
theorem writtenItems_cons_cons (item next : String) (items : List String) :
    writtenItems margins (item :: next :: items) =
      (margins 0).around (quotedItem item) ++
        ',' :: writtenItems (fun i => margins (i + 1)) (next :: items) := by
  simp [writtenItems, List.mapIdx_cons, List.intercalate_cons_cons]

/-- Written items spell the items. -/
theorem spellsItems_writtenItems {items : List String} (hne : items ≠ [])
    (h : ∀ item ∈ items, '\'' ∉ item.toList) :
    SpellsItems (writtenItems margins items) items := by
  induction items generalizing margins with
  | nil => exact absurd rfl hne
  | cons item items ih =>
    obtain ⟨hitem, hitems⟩ := List.forall_mem_cons.1 h
    have hspells := spellsItem_quotedItem hitem
    cases items with
    | nil =>
      rw [writtenItems, List.mapIdx_cons, List.mapIdx_nil, List.intercalate_singleton]
      exact .last (margins 0).spaces_before hspells (margins 0).spaces_after
    | cons next items =>
      rw [writtenItems_cons_cons, Margins.around, List.append_assoc, List.append_assoc]
      exact .next (margins 0).spaces_before hspells (margins 0).spaces_after
        (ih (by simp) hitems)

/-- **What is written between the braces spells the placeholder.** -/
theorem spellsBody_body (h : p.IsWritable) : SpellsBody (layout.body p) p := by
  match p, h with
  | .range first last, _ => exact .range (denotes_digits first) (denotes_digits last)
  | .items items, h => exact .items (spellsItems_writtenItems h.1 h.2)
  | .column name none, h =>
    have hspells : SpellsBody name.toList (.column (String.ofList name.toList) none) := .column h
    rwa [String.ofList_toList] at hspells
  | .column name (some (op, n)), h =>
    have hspells : SpellsBody _ (.column (String.ofList name.toList) (some (op, n))) :=
      .arithmetic h layout.operator.spaces_before layout.operator.spaces_after (denotes_digits n)
    rw [String.ofList_toList] at hspells
    simpa [Layout.body, Margins.around] using hspells

/-- A written placeholder spells the placeholder. -/
theorem spells_write (h : p.IsWritable) : Spells (layout.write (.placeholder p)) p := by
  have hopener : Opens layout.opener := by
    rw [Layout.opener]
    split
    · exact .arrow
    · exact .brace
  rw [Layout.write, Margins.around, List.append_assoc, List.append_assoc]
  exact .intro hopener layout.inside.spaces_before (spellsBody_body h) layout.inside.spaces_after

theorem written_cons : written layouts (s :: segments) =
    (layouts 0).write s ++ written (fun i => layouts (i + 1)) segments := by
  simp [written, List.mapIdx_cons]

/-- **What is written splits into the segments.** -/
theorem splits_written (heach : ∀ s ∈ segments, s.IsWritable)
    (hapart : segments.IsChain fun s t => ¬ (s.isLiteral = true ∧ t.isLiteral = true)) :
    Splits (written layouts segments) segments := by
  induction segments generalizing layouts with
  | nil => exact .nil
  | cons s segments ih =>
    obtain ⟨hs, heach⟩ := List.forall_mem_cons.1 heach
    obtain ⟨hnext, hapart⟩ := List.isChain_cons.1 hapart
    have hrest : Splits (written (fun i => layouts (i + 1)) segments) segments := ih heach hapart
    rw [written_cons]
    cases s with
    | literal text =>
      have hnext : ∀ t ∈ segments.head?, t.isLiteral = false := fun t ht => by
        simpa [Segment.isLiteral] using hnext t ht
      have hsplits := Splits.literal (by simpa using hs.1) hs.2 hnext hrest
      rwa [String.ofList_toList] at hsplits
    | placeholder p => exact .placeholder (spells_write hs) hrest

theorem write_ne_nil (h : s.IsWritable) : layout.write s ≠ [] := by
  cases s with
  | literal text => simpa [Layout.write] using h.1
  | placeholder p =>
    intro hnil
    have hlast : (layout.write (.placeholder p)).getLast? = some '\x7d' :=
      (spells_write h).getLast?_eq
    rw [hnil] at hlast
    exact nomatch hlast

/-- The writing ends as its last segment does. -/
theorem getLast?_written (layouts : Nat → Layout) (h : ∀ s ∈ segments, s.IsWritable) :
    ∃ layout : Layout, (written layouts segments).getLast? =
      segments.getLast?.bind fun s => (layout.write s).getLast? := by
  induction segments generalizing layouts with
  | nil => exact ⟨layouts 0, rfl⟩
  | cons s segments ih =>
    obtain ⟨hs, hsegments⟩ := List.forall_mem_cons.1 h
    obtain ⟨layout, hlast⟩ := ih (fun i => layouts (i + 1)) hsegments
    cases segments with
    | nil => exact ⟨layouts 0, by simp [written]⟩
    | cons t segments =>
      refine ⟨layout, ?_⟩
      have hne : written (fun i => layouts (i + 1)) (t :: segments) ≠ [] := by
        rw [written_cons]
        exact List.append_ne_nil_of_left_ne_nil (write_ne_nil (hsegments t List.mem_cons_self)) _
      rw [written_cons, List.getLast?_append_of_ne_nil _ hne, hlast, List.getLast?_cons_cons]

/-- **No blank begins or ends a writing.** -/
theorem trimChars_written (h : AreWritable segments) :
    Text.trimChars (written layouts segments) = written layouts segments := by
  refine Text.trimChars_of_ends (fun c hc => ?_) (fun c hc => ?_)
  · cases segments with
    | nil => exact nomatch hc
    | cons s segments =>
      have hs := h.each s List.mem_cons_self
      rw [written_cons, List.head?_append_of_ne_nil _ (write_ne_nil hs)] at hc
      cases s with
      | literal text => exact h.first text rfl c hc
      | placeholder p =>
        rw [(spells_write hs).startsOpener.head?_eq] at hc
        exact Option.some.inj hc ▸ by decide
  · obtain ⟨layout, hlast⟩ := getLast?_written layouts h.each
    rw [hlast] at hc
    obtain ⟨s, hs, hc⟩ := Option.bind_eq_some_iff.1 hc
    cases s with
    | literal text => exact h.last text hs c hc
    | placeholder p =>
      have hwritable := h.each _ (List.mem_of_getLast? hs)
      rw [(spells_write hwritable).getLast?_eq] at hc
      exact Option.some.inj hc ▸ by decide

end Spelling

/-! ## Round trip -/

/-- **What is written parses as what it was written from.** -/
theorem parse_written {segments : List Segment} (h : AreWritable segments)
    (layouts : Nat → Layout) :
    Template.parse (String.ofList (written layouts segments)) =
      .ok ⟨String.ofList (written layouts segments), segments⟩ := by
  rw [Template.parse_eq_ok_iff, String.toList_ofList, trimChars_written h]
  exact ⟨rfl, splits_written h.each h.apart⟩

/-- **Segments read back from every writing, and parsing fails exactly where an opener outside
placeholders starts none.** -/
theorem parse_written_and_isStuck :
    (∀ segments, AreWritable segments → ∀ layouts : Nat → Layout,
      Template.parse (String.ofList (written layouts segments)) =
        .ok ⟨String.ofList (written layouts segments), segments⟩) ∧
      ∀ text, (∃ why, Template.parse text = .error why) ↔ IsStuck text.toList :=
  ⟨fun _ => parse_written, fun _ => Template.exists_parse_eq_error_iff⟩

/-- Segments whose literals, items and numbers look like parts of placeholders. -/
def trickySegments : List Segment :=
  [.literal "ds $-", .placeholder (.range (-1) 2), .placeholder (.items ["a,b", "]\x7d"]),
    .literal "\x7d$", .placeholder (.column "user_id" (some (.minus, -3)))]

/-- An arrow and blanks everywhere, or neither. -/
def wideOrNarrow (i : Nat) : Layout :=
  let wide : Margins := { before := [' ', '\t'], after := ['\n'] }
  if i % 2 = 0 then ⟨true, wide, fun _ => wide, wide⟩
  else ⟨false, .none, fun _ => .none, .none⟩

/-- A literal ends in a dollar sign, an item holds brackets, and a minus sign follows another one; a
range without an end is stuck. -/
theorem parse_written_and_isStuck_tricky :
    AreWritable trickySegments ∧
      String.ofList (written wideOrNarrow trickySegments) =
        "ds $-$\x7b-1..2\x7d" ++ "$->\x7b \t[ \t'a,b'\n, \t']\x7d'\n]\n\x7d" ++
          "\x7d$" ++ "$->\x7b \tuser_id \t-\n-3\n\x7d" ∧
      Template.parse (String.ofList (written wideOrNarrow trickySegments)) =
        .ok ⟨String.ofList (written wideOrNarrow trickySegments), trickySegments⟩ ∧
      IsStuck "t_$\x7b0..\x7d".toList := by
  have hwritable : AreWritable trickySegments :=
    { each := by decide +kernel
      apart := by decide
      first := by
        rintro _ ⟨rfl⟩ _ ⟨rfl⟩
        decide
      last := by rintro _ ⟨⟩ }
  exact ⟨hwritable, by decide +kernel, parse_written_and_isStuck.1 _ hwritable _,
    (parse_written_and_isStuck.2 _).1
      ⟨.placeholder "t_$\x7b0..\x7d" "$\x7b0..\x7d", by decide +kernel⟩⟩

end ScatterGather.Inline
