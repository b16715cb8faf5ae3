import Mathlib.Data.List.TakeWhile
import ScatterGather.Proofs.Execution.Token

/-!
# Proofs/Execution/Lexing — renamed SQL has the same tokens but for the tables

`Lexes` says which tokens a text consists of, kind by kind.  Every text has exactly one such split,
the one that scanning finds (`lexes_iff`).  Renaming goes from token to token: **an identifier that
names a logical table becomes the actual name, and every other token stays**
(`lexes_renameTables`).
-/

namespace ScatterGather

namespace SqlToken

/-! ## Tokens of a text

The relation says what a token is without saying how it is found: each kind has its first
characters, and a word goes on as far as it can.  It is the specification that scanning is measured
by. -/

/-- The letters and the underscore, which begin identifiers. -/
def IsWordStart (c : Char) : Prop := ('A' ≤ c ∧ c ≤ 'Z') ∨ ('a' ≤ c ∧ c ≤ 'z') ∨ c = '_'

/-- The decimal digits, which begin numbers. -/
def IsDecimal (c : Char) : Prop := '0' ≤ c ∧ c ≤ '9'

/-- What goes on in identifiers and numbers. -/
def IsWordPart (c : Char) : Prop := IsWordStart c ∨ IsDecimal c ∨ c = '$'

instance : DecidablePred IsWordStart := fun _ => inferInstanceAs (Decidable (_ ∨ _))

instance : DecidablePred IsWordPart := fun _ => inferInstanceAs (Decidable (_ ∨ (_ ∧ _) ∨ _))

/-- A text that is one identifier. -/
def IsIdentifier : List Char → Prop
  | [] => False
  | c :: run => IsWordStart c ∧ ∀ d ∈ run, IsWordPart d

instance : DecidablePred IsIdentifier
  | [] => inferInstanceAs (Decidable False)
  | c :: run => decidable_of_iff (IsWordStart c ∧ run.all fun d => IsWordPart d)
    (by simp [IsIdentifier])

/-- The longest run of word parts: the rest does not begin with one. -/
def IsRun (run rest : List Char) : Prop :=
  (∀ d ∈ run, IsWordPart d) ∧ ∀ d ∈ rest.head?, ¬ IsWordPart d

/-- `Lexes cs ts`: from left to right the text consists of the tokens. -/
inductive Lexes : List Char → List SqlToken → Prop
  | nil : Lexes [] []
  | literal {body rest : List Char} {ts : List SqlToken} (hbody : quote ∉ body)
      (hrest : Lexes rest ts) :
      Lexes (quote :: (body ++ quote :: rest)) (⟨.literal, quote :: (body ++ [quote])⟩ :: ts)
  /-- Without a closing quote a literal takes the rest of the text. -/
  | openLiteral {body : List Char} (hbody : quote ∉ body) :
      Lexes (quote :: body) [⟨.openLiteral, quote :: body⟩]
  | identifier {c : Char} {run rest : List Char} {ts : List SqlToken} (hc : IsWordStart c)
      (hrun : IsRun run rest) (hrest : Lexes rest ts) :
      Lexes (c :: (run ++ rest)) (⟨.identifier, c :: run⟩ :: ts)
  | number {c : Char} {run rest : List Char} {ts : List SqlToken} (hc : IsDecimal c)
      (hrun : IsRun run rest) (hrest : Lexes rest ts) :
      Lexes (c :: (run ++ rest)) (⟨.number, c :: run⟩ :: ts)
  | mark {c : Char} {rest : List Char} {ts : List SqlToken} (hquote : c ≠ quote)
      (hword : ¬ IsWordStart c) (hdigit : ¬ IsDecimal c) (hrest : Lexes rest ts) :
      Lexes (c :: rest) (⟨.mark, [c]⟩ :: ts)

/-! ## Scanning finds the split

Scanning extends a token character by character.  Each lemma here follows it through one kind of
token, up to the character at which that token ends. -/

section Scan

variable {c : Char} {cs run rest : List Char} {ts : List SqlToken} {t : SqlToken}

theorem isDigit_iff : c.isDigit = true ↔ IsDecimal c :=
  Bool.and_eq_true_iff.trans (and_congr decide_eq_true_iff decide_eq_true_iff)

theorem beginsIdentifier_iff : beginsIdentifier c = true ↔ IsWordStart c := by
  have hletter : Text.isAsciiLetter c = true ↔ c.isUpper = true ∨ c.isLower = true :=
    Bool.or_eq_true_iff
  have hupper : c.isUpper = true ↔ 'A' ≤ c ∧ c ≤ 'Z' := decide_eq_true_iff
  have hlower : c.isLower = true ↔ 'a' ≤ c ∧ c ≤ 'z' :=
    Bool.and_eq_true_iff.trans (and_congr decide_eq_true_iff decide_eq_true_iff)
  rw [beginsIdentifier, Bool.or_eq_true, hletter, hupper, hlower, beq_iff_eq, or_assoc, IsWordStart]

theorem continues_iff : continues c = true ↔ IsWordPart c := by
  rw [IsWordPart, ← isDigit_iff, ← beginsIdentifier_iff]
  simp only [continues, beginsIdentifier, Char.isAlphanum, Text.isAsciiLetter, Bool.or_eq_true,
    beq_iff_eq]
  grind

/-- A token that goes on with each of these characters takes them all. -/
theorem scanFrom_run {kind : TokenKind} (text : List Char)
    (h : ∀ d ∈ run, ∀ text, (SqlToken.mk kind text).extend? d = some ⟨kind, text ++ [d]⟩)
    (rest : List Char) :
    scanFrom ⟨kind, text⟩ (run ++ rest) = scanFrom ⟨kind, text ++ run⟩ rest := by
  induction run generalizing text with
  | nil => simp
  | cons d run ih =>
    obtain ⟨hd, hrun⟩ := List.forall_mem_cons.1 h
    rw [List.cons_append, scanFrom, hd]
    dsimp only
    rw [ih _ hrun, List.append_assoc, List.singleton_append]

theorem not_isWordStart_of_isDecimal (h : IsDecimal c) : ¬ IsWordStart c := by
  rintro (⟨hle, -⟩ | ⟨hle, -⟩ | rfl)
  · exact absurd (Char.le_trans hle h.2) (by decide)
  · exact absurd (Char.le_trans hle h.2) (by decide)
  · exact absurd h.2 (by decide)

theorem ofChar_of_isWordStart (h : IsWordStart c) : ofChar c = ⟨.identifier, [c]⟩ := by
  have hquote : c ≠ quote := by
    rintro rfl
    exact absurd (beginsIdentifier_iff.2 h) (by decide)
  rw [ofChar, if_neg hquote, if_pos (beginsIdentifier_iff.2 h)]

theorem ofChar_of_isDecimal (h : IsDecimal c) : ofChar c = ⟨.number, [c]⟩ := by
  have hquote : c ≠ quote := by
    rintro rfl
    exact absurd (isDigit_iff.2 h) (by decide)
  rw [ofChar, if_neg hquote, if_neg (beginsIdentifier_iff.not.2 (not_isWordStart_of_isDecimal h)),
    if_pos (isDigit_iff.2 h)]

theorem ofChar_mark (hquote : c ≠ quote) (hword : ¬ IsWordStart c) (hdigit : ¬ IsDecimal c) :
    ofChar c = ⟨.mark, [c]⟩ := by
  rw [ofChar, if_neg hquote, if_neg (beginsIdentifier_iff.not.2 hword),
    if_neg (isDigit_iff.not.2 hdigit)]

/-- An identifier or a number takes its run and ends there. -/
theorem scanFrom_word {kind : TokenKind} (hkind : kind = .identifier ∨ kind = .number)
    (hrun : IsRun run rest) :
    scanFrom ⟨kind, [c]⟩ (run ++ rest) = ⟨kind, c :: run⟩ :: scan rest := by
  have hextend (text : List Char) (d : Char) : (SqlToken.mk kind text).extend? d =
      if continues d then some ⟨kind, text ++ [d]⟩ else none := by
    obtain rfl | rfl := hkind <;> rfl
  rw [scanFrom_run [c] fun d hd text => by rw [hextend, if_pos (continues_iff.2 (hrun.1 d hd))]]
  refine scanFrom_of_ends fun d hd => ?_
  rw [hextend, if_neg (continues_iff.not.2 (hrun.2 d hd))]

/-- An open literal goes on up to the next quote. -/
theorem scanFrom_body {body : List Char} (hbody : quote ∉ body) (rest : List Char) :
    scanFrom ⟨.openLiteral, [quote]⟩ (body ++ rest) =
      scanFrom ⟨.openLiteral, quote :: body⟩ rest := by
  refine scanFrom_run [quote] (fun d hd text => ?_) rest
  have hd : d ≠ quote := fun heq => hbody (heq ▸ hd)
  rw [SqlToken.extend?, if_neg hd]

/-- **The split is the one that scanning finds.** -/
theorem Lexes.scan_eq (h : Lexes cs ts) : scan cs = ts := by
  induction h with
  | nil => rfl
  | @literal body rest ts hbody _ ih =>
    have hends : scanFrom ⟨.literal, quote :: (body ++ [quote])⟩ rest =
        ⟨.literal, quote :: (body ++ [quote])⟩ :: scan rest :=
      scanFrom_of_ends fun _ _ => rfl
    rw [scan, ofChar, if_pos rfl, scanFrom_body hbody, scanFrom, SqlToken.extend?, if_pos rfl]
    exact hends.trans (congrArg _ ih)
  | @openLiteral body hbody =>
    rw [scan, ofChar, if_pos rfl, ← List.append_nil body, scanFrom_body hbody, List.append_nil]
    rfl
  | identifier hc hrun _ ih =>
    rw [scan, ofChar_of_isWordStart hc, scanFrom_word (.inl rfl) hrun, ih]
  | number hc hrun _ ih =>
    rw [scan, ofChar_of_isDecimal hc, scanFrom_word (.inr rfl) hrun, ih]
  | mark hquote hword hdigit _ ih =>
    rw [scan, ofChar_mark hquote hword hdigit, scanFrom_of_ends fun _ _ => rfl, ih]

/-- A text begins with a longest run of word parts, if only an empty one. -/
theorem exists_isRun (cs : List Char) : ∃ run rest, cs = run ++ rest ∧ IsRun run rest := by
  refine ⟨cs.takeWhile continues, cs.dropWhile continues, List.takeWhile_append_dropWhile.symm,
    fun d hd => continues_iff.1 (List.mem_takeWhile_imp hd), fun d hd hpart => ?_⟩
  have hnot := List.head?_dropWhile_not continues cs
  rw [Option.mem_def.1 hd] at hnot
  exact Bool.false_ne_true (hnot.symm.trans (continues_iff.2 hpart))

/-- Every text has a split. -/
theorem exists_lexes (cs : List Char) : ∃ ts, Lexes cs ts := by
  induction hlength : cs.length using Nat.strongRecOn generalizing cs with
  | ind n ih =>
    subst hlength
    cases cs with
    | nil => exact ⟨[], .nil⟩
    | cons c cs =>
      by_cases hquote : c = quote
      · subst hquote
        by_cases hclosed : quote ∈ cs
        · obtain ⟨body, rest, rfl, hbody⟩ := List.eq_append_cons_of_mem hclosed
          have hlt : rest.length < (quote :: (body ++ quote :: rest)).length := by
            rw [List.length_cons, List.length_append, List.length_cons]
            omega
          obtain ⟨ts, hts⟩ := ih rest.length hlt rest rfl
          exact ⟨_, .literal hbody hts⟩
        · exact ⟨_, .openLiteral hclosed⟩
      obtain ⟨run, rest, rfl, hrun⟩ := exists_isRun cs
      have hlt : rest.length < (c :: (run ++ rest)).length := by
        rw [List.length_cons, List.length_append]
        omega
      obtain ⟨ts, hts⟩ := ih rest.length hlt rest rfl
      by_cases hword : IsWordStart c
      · exact ⟨_, .identifier hword hrun hts⟩
      by_cases hdigit : IsDecimal c
      · exact ⟨_, .number hdigit hrun hts⟩
      obtain ⟨ts, hts⟩ := ih (run ++ rest).length (by simp) (run ++ rest) rfl
      exact ⟨_, .mark hquote hword hdigit hts⟩

/-- **Every text has exactly one split**, the one that scanning finds. -/
theorem lexes_iff : Lexes cs ts ↔ ts = scan cs := by
  constructor
  · exact fun h => h.scan_eq.symm
  · rintro rfl
    obtain ⟨ts, hts⟩ := exists_lexes cs
    rwa [hts.scan_eq]

/-- An identifier is one token. -/
theorem IsIdentifier.scan_eq (h : IsIdentifier cs) : scan cs = [⟨.identifier, cs⟩] := by
  cases cs with
  | nil => exact h.elim
  | cons c run =>
    have hlexes := Lexes.identifier h.1 ⟨h.2, by simp⟩ .nil
    rw [List.append_nil] at hlexes
    exact hlexes.scan_eq

end Scan

end SqlToken

/-! ## Renamed tables

With tokens at hand, renaming is a function of single tokens, and a statement about a whole text is
one about all of its tokens. -/

open SqlToken

namespace RouteUnit

variable {u : RouteUnit} {t : SqlToken}

/-- What a token becomes: the actual name of the first table with that logical name, if the token
is an identifier that names one up to the case of ASCII letters. -/
def rename (u : RouteUnit) (t : SqlToken) : SqlToken :=
  match u.tables.find? fun m =>
    t.kind == .identifier && Text.sameName m.logic (String.ofList t.text) with
  | some m => ⟨.identifier, m.actual.toList⟩
  | none => t

/-- A token that names no table stays. -/
theorem rename_eq_self (h : ∀ m ∈ u.tables, t.kind = .identifier →
    Text.sameName m.logic (String.ofList t.text) = false) : u.rename t = t := by
  have hnone : u.tables.find? (fun m =>
      t.kind == .identifier && Text.sameName m.logic (String.ofList t.text)) = none := by
    rw [List.find?_eq_none]
    intro m hm
    rw [Bool.and_eq_true, beq_iff_eq]
    rintro ⟨hkind, hsame⟩
    exact Bool.false_ne_true ((h m hm hkind).symm.trans hsame)
  rw [rename, hnone]

/-- The text of a renamed token is the text that stands for it. -/
theorem text_rename (u : RouteUnit) (t : SqlToken) : (u.rename t).text = u.textFor t := by
  rw [textFor, name?]
  by_cases hkind : t.kind = .identifier
  · rw [if_pos hkind, Option.bind_some, actualTable?, rename]
    simp only [hkind, beq_self_eq_true, Bool.true_and]
    cases u.tables.find? fun m => Text.sameName m.logic (String.ofList t.text) <;> rfl
  · rw [if_neg hkind, rename_eq_self fun _ _ hword => absurd hword hkind]
    rfl

/-- Where actual names are identifiers, a token becomes one token. -/
theorem scan_textFor (hactual : ∀ m ∈ u.tables, IsIdentifier m.actual.toList)
    (ht : t.IsScanned) : scan (u.textFor t) = [u.rename t] := by
  rw [← text_rename, rename]
  split
  · next m hm => exact (hactual m (List.mem_of_find?_eq_some hm)).scan_eq
  · exact ht.scan_text

end RouteUnit

section Rename

variable {u : RouteUnit}

/-- **Scanning renamed SQL finds the tokens renamed.** -/
theorem scan_renameTables (hactual : ∀ m ∈ u.tables, IsIdentifier m.actual.toList) (sql : String) :
    scan (renameTables u sql).toList = (scan sql.toList).map u.rename := by
  have hscanned := areScanned_scan sql.toList
  have hclosed : ∀ m ∈ u.tables, opensLiteral m.actual.toList = false := by
    intro m hm
    rw [opensLiteral, (hactual m hm).scan_eq]
    rfl
  rw [toList_renameTables, scan_flatMap hscanned fun t _ => RouteUnit.replaces_textFor hclosed t,
    List.flatMap_congr fun t ht => RouteUnit.scan_textFor hactual (hscanned.scanned t ht),
    ← List.map_eq_flatMap]

/-- A name is mentioned where an identifier equals it up to the case of ASCII letters. -/
theorem mentions_iff {sql name : String} :
    mentions sql name = true ↔ ∃ t ∈ scan sql.toList, t.kind = .identifier ∧
      Text.sameName (String.ofList t.text) name = true := by
  have hname (t : SqlToken) : (t.name?.any fun word => Text.sameName word name) = true ↔
      t.kind = .identifier ∧ Text.sameName (String.ofList t.text) name = true := by
    rw [name?]
    split <;> simp [*]
  simp only [mentions, List.any_eq_true, hname]

/-- SQL that mentions no logical table is left as it is. -/
theorem renameTables_eq_self {sql : String} (h : ∀ m ∈ u.tables, mentions sql m.logic = false) :
    renameTables u sql = sql := by
  have hself : ∀ t ∈ scan sql.toList, u.textFor t = t.text := by
    intro t ht
    rw [← u.text_rename, RouteUnit.rename_eq_self]
    intro m hm hkind
    refine Bool.eq_false_iff.2 fun hsame => ?_
    rw [Text.sameName_comm] at hsame
    exact Bool.false_ne_true ((h m hm).symm.trans (mentions_iff.2 ⟨t, ht, hkind, hsame⟩))
  rw [← String.toList_inj, toList_renameTables, List.flatMap_congr hself, flatMap_text_scan]

/-- **Renaming replaces whole identifiers, once and all together.**  The tokens of renamed SQL are
those of the SQL, each renamed; SQL that mentions no logical table stays as it is; and a name is
mentioned exactly where an identifier equals it. -/
theorem lexes_renameTables (hactual : ∀ m ∈ u.tables, IsIdentifier m.actual.toList)
    (sql : String) :
    ∃ ts, (∀ ts', Lexes sql.toList ts' ↔ ts' = ts) ∧
      (∀ ts', Lexes (renameTables u sql).toList ts' ↔ ts' = ts.map u.rename) ∧
      ((∀ m ∈ u.tables, mentions sql m.logic = false) → renameTables u sql = sql) ∧
      ∀ name, mentions sql name = true ↔ ∃ t ∈ ts, t.kind = .identifier ∧
        Text.sameName (String.ofList t.text) name = true := by
  refine ⟨scan sql.toList, fun ts' => lexes_iff, fun ts' => ?_, renameTables_eq_self,
    fun name => mentions_iff⟩
  rw [lexes_iff, scan_renameTables hactual]

/-- A unit on which two tables have each other's name. -/
def tablesSwapped : RouteUnit := .on "ds_0" [⟨"t_a", "t_b"⟩, ⟨"t_b", "t_a"⟩]

/-- Neither name is replaced twice, and a quoted one, one in a number or one in a longer name not at
all. -/
theorem lexes_renameTables_swapped :
    (∀ m ∈ tablesSwapped.tables, IsIdentifier m.actual.toList) ∧
      renameTables tablesSwapped "T_A.x+t_b-'t_a''t_b'*1t_a/t_a$" =
        "t_b.x+t_a-'t_a''t_b'*1t_a/t_a$" ∧
      ∃ ts, (∀ ts', Lexes "T_A.x+t_b-'t_a''t_b'*1t_a/t_a$".toList ts' ↔ ts' = ts) ∧
        ∀ ts', Lexes (renameTables tablesSwapped "T_A.x+t_b-'t_a''t_b'*1t_a/t_a$").toList ts' ↔
          ts' = ts.map tablesSwapped.rename := by
  have hactual : ∀ m ∈ tablesSwapped.tables, IsIdentifier m.actual.toList := by decide +kernel
  obtain ⟨ts, hts, hrenamed, -⟩ := lexes_renameTables hactual "T_A.x+t_b-'t_a''t_b'*1t_a/t_a$"
  exact ⟨hactual, by decide +kernel, ts, hts, hrenamed⟩

end Rename

end ScatterGather
