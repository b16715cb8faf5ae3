import Mathlib.Data.List.Chain
import ScatterGather.Execution.Token
import ScatterGather.Proofs.Text.Name

/-!
# Proofs/Execution/Token — what is left of logical names in renamed SQL

Scanning is local: a text can be cut where a token ends (`SqlToken.scan_append`), and each token
scans to itself.  Neighbours keep apart (`SqlToken.Apart`), and a word is never next to another
word, so replacing words by texts without an open literal leaves the tokens around them as they
were (`SqlToken.scan_flatMap`).  A logical name that a renamed SQL text still mentions is therefore
part of an actual name (`mentions_renameTables`).
-/

namespace ScatterGather

namespace SqlToken

/-! ## Cutting a text

A token is finished by the character that it does not go on with.  So scanning two texts one after
the other is scanning each of them, if the first one's last token ends there. -/

/-- There is a token, at least the one that scanning is at. -/
theorem scanFrom_ne_nil (t : SqlToken) (cs : List Char) : scanFrom t cs ≠ [] := by
  induction cs generalizing t with
  | nil => exact List.cons_ne_nil t []
  | cons c rest ih =>
    rw [scanFrom]
    split
    · exact ih _
    · exact List.cons_ne_nil _ _

/-- A token that does not go on with the text is its first one. -/
theorem scanFrom_of_ends {t : SqlToken} {cs : List Char}
    (h : ∀ c ∈ cs.head?, t.extend? c = none) : scanFrom t cs = t :: scan cs := by
  cases cs with
  | nil => rfl
  | cons c cs =>
    rw [scanFrom, h c rfl]
    rfl

/-- The last of these tokens, if there is one, does not go on with the text. -/
def Ends (ts : List SqlToken) (cs : List Char) : Prop :=
  ∀ t ∈ ts.getLast?, ∀ c ∈ cs.head?, t.extend? c = none

/-- **Where a token ends, the rest is scanned afresh.** -/
theorem scanFrom_append {t : SqlToken} {cs ds : List Char} (h : Ends (scanFrom t cs) ds) :
    scanFrom t (cs ++ ds) = scanFrom t cs ++ scan ds := by
  induction cs generalizing t with
  | nil => exact scanFrom_of_ends (h t rfl)
  | cons c cs ih =>
    rw [List.cons_append, scanFrom, scanFrom]
    rw [scanFrom] at h
    cases hlonger : t.extend? c with
    | some longer =>
      rw [hlonger] at h
      exact ih h
    | none =>
      rw [hlonger] at h
      dsimp only at h ⊢
      rw [ih fun last hlast => h last (by rwa [List.getLast?_cons_of_ne_nil (scanFrom_ne_nil _ _)]),
        List.cons_append]

theorem scan_append {cs ds : List Char} (h : Ends (scan cs) ds) :
    scan (cs ++ ds) = scan cs ++ scan ds := by
  cases cs with
  | nil => rfl
  | cons c cs => exact scanFrom_append h

/-! ## Single tokens

A token that scanning makes is found again in its own text.  This is what lets a text be taken apart
into tokens and put together from them. -/

/-- A token as scanning makes them: it scans to itself, and a word begins with a character that
would continue one. -/
structure IsScanned (t : SqlToken) : Prop where
  scan_text : scan t.text = [t]
  begins : t.kind = .identifier → ∀ c ∈ t.text.head?, continues c = true

theorem continues_of_beginsIdentifier {c : Char} (h : beginsIdentifier c = true) :
    continues c = true := by
  rw [beginsIdentifier, Text.isAsciiLetter, Bool.or_eq_true] at h
  obtain h | h := h <;> simp [continues, Char.isAlphanum, h]

/-- A token of one character is as scanning makes it. -/
theorem isScanned_ofChar (c : Char) : (ofChar c).IsScanned := by
  refine ⟨rfl, fun hkind d hd => ?_⟩
  obtain rfl : c = d := Option.some.inj hd
  rw [ofChar] at hkind
  split at hkind
  · exact nomatch hkind
  · split at hkind
    · exact continues_of_beginsIdentifier ‹_›
    · split at hkind <;> exact nomatch hkind

/-- One more character at the end makes a single token longer, if it goes on with it. -/
theorem scanFrom_concat {t u longer : SqlToken} {cs : List Char} {c : Char}
    (h : scanFrom t cs = [u]) (hlonger : u.extend? c = some longer) :
    scanFrom t (cs ++ [c]) = [longer] := by
  induction cs generalizing t with
  | nil =>
    obtain rfl := (List.cons.inj h).1
    rw [List.nil_append, scanFrom, hlonger]
    rfl
  | cons d cs ih =>
    rw [List.cons_append, scanFrom]
    rw [scanFrom] at h
    cases hd : t.extend? d with
    | some t' =>
      rw [hd] at h
      exact ih h
    | none =>
      rw [hd] at h
      exact absurd (List.cons.inj h).2 (scanFrom_ne_nil _ _)

/-- A word grows from a word. -/
theorem kind_of_extend? {t longer : SqlToken} {c : Char} (h : t.extend? c = some longer)
    (hkind : longer.kind = .identifier) : t.kind = .identifier := by
  cases ht : t.kind <;> grind [SqlToken.extend?]

namespace IsScanned

variable {t longer : SqlToken} {c : Char}

theorem text_ne_nil (h : t.IsScanned) : t.text ≠ [] := by
  intro hnil
  have hscan := h.scan_text
  rw [hnil] at hscan
  exact nomatch hscan

/-- A longer token is as scanning makes it as well. -/
theorem extend? (h : t.IsScanned) (hlonger : t.extend? c = some longer) : longer.IsScanned := by
  have htext := text_extend? hlonger
  obtain ⟨d, cs, hcs⟩ := List.exists_cons_of_ne_nil h.text_ne_nil
  have hscan := h.scan_text
  rw [hcs] at hscan htext
  refine ⟨?_, fun hkind e he => h.begins (kind_of_extend? hlonger hkind) e ?_⟩
  · rw [htext]
    exact scanFrom_concat hscan hlonger
  · rw [hcs]
    rwa [htext] at he

end IsScanned

/-! ## Neighbours

Scanning makes no two tokens of which the first would have gone on with the second. -/

/-- The one token ends where the other begins. -/
def Apart (t u : SqlToken) : Prop := ∀ c ∈ u.text.head?, t.extend? c = none

/-- Tokens as scanning makes them, each ending where the next one begins. -/
structure AreScanned (ts : List SqlToken) : Prop where
  scanned : ∀ t ∈ ts, t.IsScanned
  apart : ts.IsChain Apart

/-- **Scanning makes tokens that keep apart**, the first of which begins where the text does. -/
theorem areScanned_scanFrom {t : SqlToken} (ht : t.IsScanned) (cs : List Char) :
    AreScanned (scanFrom t cs) ∧
      ∀ u ∈ (scanFrom t cs).head?, u.text.head? = t.text.head? := by
  induction cs generalizing t with
  | nil =>
    refine ⟨⟨?_, .singleton t⟩, ?_⟩
    · simp [scanFrom, ht]
    · simp [scanFrom]
  | cons c cs ih =>
    rw [scanFrom]
    cases hlonger : t.extend? c with
    | some longer =>
      obtain ⟨hscanned, hhead⟩ := ih (ht.extend? hlonger)
      refine ⟨hscanned, fun u hu => (hhead u hu).trans ?_⟩
      rw [text_extend? hlonger, List.head?_append_of_ne_nil t.text ht.text_ne_nil]
    | none =>
      obtain ⟨⟨hscanned, hapart⟩, hhead⟩ := ih (isScanned_ofChar c)
      refine ⟨⟨List.forall_mem_cons.2 ⟨ht, hscanned⟩, ?_⟩, fun u hu => ?_⟩
      · refine List.isChain_cons.2 ⟨fun u hu d hd => ?_, hapart⟩
        rw [hhead u hu] at hd
        obtain rfl : c = d := Option.some.inj hd
        exact hlonger
      · rw [← Option.some.inj hu]

theorem areScanned_scan (cs : List Char) : AreScanned (scan cs) := by
  cases cs with
  | nil => exact ⟨by simp [scan], .nil⟩
  | cons c cs => exact (areScanned_scanFrom (isScanned_ofChar c) cs).1

/-! ## Replacing words

Putting another text in the place of a word must not join it with a neighbour.  A word has no word
next to it, and everything else ends before any character that does not continue a word, so only an
open literal could swallow what follows. -/

/-- A text with a literal that is not closed. -/
def opensLiteral (cs : List Char) : Bool := (scan cs).any fun t => t.kind == .openLiteral

/-- A text for a token: its own, or for a word any text without an open literal. -/
def Replaces (cs : List Char) (t : SqlToken) : Prop :=
  cs = t.text ∨ t.kind = .identifier ∧ opensLiteral cs = false

/-- What does not continue a word ends any token but an open literal. -/
theorem extend?_eq_none {t : SqlToken} {c : Char} (hkind : t.kind ≠ .openLiteral)
    (hc : continues c = false) : t.extend? c = none := by
  cases ht : t.kind <;> grind [SqlToken.extend?]

/-- A word ends where it is not continued. -/
theorem continues_eq_false {t : SqlToken} {c : Char} (hkind : t.kind = .identifier)
    (h : t.extend? c = none) : continues c = false := by
  grind [SqlToken.extend?]

/-- A token that ends where a word might begin ends anywhere. -/
theorem extend?_eq_none_of_continues {t : SqlToken} {c : Char} (h : t.extend? c = none)
    (hc : continues c = true) (d : Char) : t.extend? d = none := by
  cases ht : t.kind <;> grind [SqlToken.extend?]

section Replaces

variable {t u : SqlToken} {ts : List SqlToken} {cs : List Char} {f : SqlToken → List Char}

/-- A text ends where the token ends that it stands for. -/
theorem Replaces.ends (h : Replaces cs t) (ht : t.IsScanned) {ds : List Char}
    (hds : ∀ c ∈ ds.head?, t.extend? c = none) : Ends (scan cs) ds := by
  intro last hlast c hc
  obtain rfl | ⟨hkind, hclosed⟩ := h
  · rw [ht.scan_text] at hlast
    obtain rfl := Option.some.inj hlast
    exact hds c hc
  · refine extend?_eq_none (fun hopen => ?_) (continues_eq_false hkind (hds c hc))
    exact Bool.false_ne_true (hclosed.symm.trans
      (List.any_eq_true.2 ⟨last, List.mem_of_getLast? hlast, beq_iff_eq.2 hopen⟩))

/-- A token ends where the texts for the tokens after it begin: where the next one is a word, the
token ends anywhere. -/
theorem AreScanned.extend?_eq_none (hts : AreScanned (t :: ts))
    (hf : ∀ u ∈ ts, Replaces (f u) u) : ∀ c ∈ (ts.flatMap f).head?, t.extend? c = none := by
  intro c hc
  cases ts with
  | nil => exact nomatch hc
  | cons u ts =>
    have hu : u.IsScanned := hts.scanned u (by simp)
    have hapart : Apart t u := (List.isChain_cons_cons.1 hts.apart).1
    obtain heq | ⟨hkind, -⟩ := hf u List.mem_cons_self
    · rw [List.flatMap_cons, heq, List.head?_append_of_ne_nil u.text hu.text_ne_nil] at hc
      exact hapart c hc
    · obtain ⟨d, rest, htext⟩ := List.exists_cons_of_ne_nil hu.text_ne_nil
      have hd : d ∈ u.text.head? := by rw [htext]; rfl
      exact extend?_eq_none_of_continues (hapart d hd) (hu.begins hkind d hd) c

/-- **Words are replaced between the other tokens**, which stay as they are. -/
theorem scan_flatMap (hts : AreScanned ts) (hf : ∀ t ∈ ts, Replaces (f t) t) :
    scan (ts.flatMap f) = ts.flatMap fun t => scan (f t) := by
  induction ts with
  | nil => rfl
  | cons t ts ih =>
    obtain ⟨ht, hscanned⟩ := List.forall_mem_cons.1 hts.scanned
    obtain ⟨hft, hf⟩ := List.forall_mem_cons.1 hf
    have hends : Ends (scan (f t)) (ts.flatMap f) := hft.ends ht (hts.extend?_eq_none hf)
    rw [List.flatMap_cons, List.flatMap_cons, scan_append hends, ih ⟨hscanned, hts.apart.tail⟩ hf]

end Replaces

end SqlToken

/-! ## Renamed tables

Renaming is such a replacement: an actual name for each word that is a logical one. -/

section Rename

variable {u : RouteUnit} {sql name : String}

namespace RouteUnit

/-- Which table a name stands for does not depend on its letter case. -/
theorem actualTable?_congr {a b : String} (h : Text.sameName a b = true) (u : RouteUnit) :
    u.actualTable? a = u.actualTable? b := by
  simp only [actualTable?, Text.sameName_congr h]

theorem exists_of_actualTable? {actual : String} (h : u.actualTable? name = some actual) :
    ∃ m ∈ u.tables, m.actual = actual := by
  obtain ⟨m, hm, rfl⟩ := Option.map_eq_some_iff.1 h
  exact ⟨m, List.mem_of_find?_eq_some hm, rfl⟩

/-- What stands in renamed SQL for a token. -/
def textFor (u : RouteUnit) (t : SqlToken) : List Char :=
  ((t.name?.bind u.actualTable?).map String.toList).getD t.text

/-- A token stands for itself, or for an actual name if it is a word. -/
theorem textFor_cases (u : RouteUnit) (t : SqlToken) :
    (t.name?.bind u.actualTable? = none ∧ u.textFor t = t.text) ∨
      t.kind = .identifier ∧ ∃ m ∈ u.tables, u.textFor t = m.actual.toList := by
  cases hname : t.name?.bind u.actualTable? with
  | none => exact .inl ⟨rfl, by rw [textFor, hname]; rfl⟩
  | some actual =>
    obtain ⟨word, hword, hactual⟩ := Option.bind_eq_some_iff.1 hname
    obtain ⟨m, hm, rfl⟩ := exists_of_actualTable? hactual
    have hkind : t.kind = .identifier := by
      rw [SqlToken.name?] at hword
      split at hword
      · assumption
      · exact nomatch hword
    exact .inr ⟨hkind, m, hm, by rw [textFor, hname]; rfl⟩

/-- Actual names without an open literal stand for words. -/
theorem replaces_textFor
    (hclosed : ∀ m ∈ u.tables, SqlToken.opensLiteral m.actual.toList = false) (t : SqlToken) :
    SqlToken.Replaces (u.textFor t) t := by
  obtain ⟨-, heq⟩ | ⟨hkind, m, hm, heq⟩ := u.textFor_cases t
  · exact .inl heq
  · exact .inr ⟨hkind, heq ▸ hclosed m hm⟩

end RouteUnit

/-- **Renaming replaces words token by token.** -/
theorem toList_renameTables (u : RouteUnit) (sql : String) :
    (renameTables u sql).toList = (SqlToken.scan sql.toList).flatMap u.textFor := by
  rw [renameTables]
  split
  · next hempty =>
    have htext : u.textFor = SqlToken.text := by
      funext t
      obtain ⟨-, h⟩ | ⟨-, m, hm, -⟩ := u.textFor_cases t
      · exact h
      · rw [List.isEmpty_iff.1 hempty] at hm
        exact nomatch hm
    rw [htext, SqlToken.flatMap_text_scan]
  · exact String.toList_ofList

/-- **A logical name in renamed SQL is part of an actual name**, unless an actual name opens a
literal. -/
theorem mentions_renameTables (htable : (u.actualTable? name).isSome)
    (h : mentions (renameTables u sql) name = true) :
    ∃ m ∈ u.tables, mentions m.actual name = true ∨
      SqlToken.opensLiteral m.actual.toList = true := by
  by_cases hopen : ∃ m ∈ u.tables, SqlToken.opensLiteral m.actual.toList = true
  · obtain ⟨m, hm, hopens⟩ := hopen
    exact ⟨m, hm, .inr hopens⟩
  have hscanned := SqlToken.areScanned_scan sql.toList
  have hclosed : ∀ m ∈ u.tables, SqlToken.opensLiteral m.actual.toList = false := fun m hm =>
    Bool.eq_false_iff.2 fun hopens => hopen ⟨m, hm, hopens⟩
  rw [mentions, toList_renameTables,
    SqlToken.scan_flatMap hscanned fun t _ => RouteUnit.replaces_textFor hclosed t,
    List.any_eq_true] at h
  obtain ⟨w, hw, hname⟩ := h
  obtain ⟨t, ht, hw⟩ := List.mem_flatMap.1 hw
  obtain ⟨hnone, heq⟩ | ⟨-, m, hm, heq⟩ := u.textFor_cases t
  · rw [heq, (hscanned.scanned t ht).scan_text] at hw
    obtain rfl := List.mem_singleton.1 hw
    obtain ⟨word, hword, hsame⟩ := Option.any_eq_true _ _ |>.1 hname
    rw [hword, Option.bind_some, RouteUnit.actualTable?_congr hsame] at hnone
    rw [hnone] at htable
    exact nomatch htable
  · rw [heq] at hw
    exact ⟨m, hm, .inl (List.any_eq_true.2 ⟨w, hw, hname⟩)⟩

end Rename

end ScatterGather
