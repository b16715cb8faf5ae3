import Mathlib.Data.List.TakeWhile
import ScatterGather.Inline.Parser
import ScatterGather.Proofs.Text.Numeral

/-!
# Proofs/Inline/Grammar — the texts of placeholders

`Spells text p` says which texts stand for a placeholder: an opener, a range, a list or a column
between blanks, and a closing brace.  The alternatives exclude each other by their first character,
and what is read as far as it goes (digits, names) is followed by a character that it could not
take.  So **a placeholder is read off the head of a text exactly where the text begins with one of
its spellings** (`placeholder?_eq_some_iff`), and a text has one reading at most.

Each reader has two lemmas: it takes a spelling whole (`…_append`), and what it takes is a spelling
(`exists_of_…`).
-/

namespace ScatterGather.Inline

/-! ## Spellings

One relation for each part of a placeholder, with a constructor for every way to write it.  None of
them mentions the reader. -/

/-- Blanks that may stand inside a placeholder. -/
def Spaces (cs : List Char) : Prop := ∀ c ∈ cs, isSpace c = true

instance : DecidablePred Spaces := List.decidableBAll _

/-- The two openers of a placeholder. -/
inductive Opens : List Char → Prop
  | brace : Opens ['$', '\x7b']
  | arrow : Opens ['$', '-', '>', '\x7b']

/-- Digits, at least one, after a minus sign or not. -/
inductive IsNumeral : List Char → Prop
  | unsigned {digits : List Char} (hne : digits ≠ []) (h : ∀ c ∈ digits, c.isDigit = true) :
      IsNumeral digits
  | negative {digits : List Char} (hne : digits ≠ []) (h : ∀ c ∈ digits, c.isDigit = true) :
      IsNumeral ('-' :: digits)

/-- A numeral of an integer of 64 bits. -/
def Denotes (text : List Char) (n : Int64) : Prop :=
  IsNumeral text ∧ Text.int64? text = some n

/-- An item of a list: a text between quotes of one kind, or an integer as it is written. -/
inductive SpellsItem : List Char → String → Prop
  | single {text : List Char} (h : '\'' ∉ text) :
      SpellsItem ('\'' :: (text ++ ['\''])) (String.ofList text)
  | double {text : List Char} (h : '"' ∉ text) :
      SpellsItem ('"' :: (text ++ ['"'])) (String.ofList text)
  | numeral {text : List Char} {n : Int64} (h : Denotes text n) :
      SpellsItem text (String.ofList text)

/-- Items, at least one, between commas, with blanks around each of them. -/
inductive SpellsItems : List Char → List String → Prop
  | last {before text after : List Char} {item : String} (hbefore : Spaces before)
      (htext : SpellsItem text item) (hafter : Spaces after) :
      SpellsItems (before ++ (text ++ after)) [item]
  | next {before text after rest : List Char} {item : String} {items : List String}
      (hbefore : Spaces before) (htext : SpellsItem text item) (hafter : Spaces after)
      (hrest : SpellsItems rest items) :
      SpellsItems (before ++ (text ++ (after ++ ',' :: rest))) (item :: items)

/-- A column name: a letter from a to z or an underscore, then letters and numbers of any script
and underscores. -/
def IsName : List Char → Prop
  | [] => False
  | c :: run => (Text.isAsciiLetter c || c = '_') = true ∧ ∀ d ∈ run, isNameChar d = true

/-- The character of an operator. -/
def Operator.symbol : Operator → Char
  | .modulo => '%'
  | .plus => '+'
  | .minus => '-'
  | .times => '*'
  | .dividedBy => '/'

/-- What stands between the braces, blanks at either end aside. -/
inductive SpellsBody : List Char → Placeholder → Prop
  | range {a b : List Char} {first last : Int64} (ha : Denotes a first) (hb : Denotes b last) :
      SpellsBody (a ++ '.' :: '.' :: b) (.range first last)
  | items {text : List Char} {items : List String} (h : SpellsItems text items) :
      SpellsBody ('[' :: (text ++ [']'])) (.items items)
  | column {name : List Char} (h : IsName name) :
      SpellsBody name (.column (String.ofList name) none)
  | arithmetic {name before after text : List Char} {op : Operator} {n : Int64} (h : IsName name)
      (hbefore : Spaces before) (hafter : Spaces after) (htext : Denotes text n) :
      SpellsBody (name ++ (before ++ op.symbol :: (after ++ text)))
        (.column (String.ofList name) (some (op, n)))

/-- A whole placeholder. -/
inductive Spells : List Char → Placeholder → Prop
  | intro {opener before body after : List Char} {p : Placeholder} (hopener : Opens opener)
      (hbefore : Spaces before) (hbody : SpellsBody body p) (hafter : Spaces after) :
      Spells (opener ++ (before ++ (body ++ (after ++ ['\x7d'])))) p

/-! ## Longest runs

Digits and names are read as far as they go.  Such a run is found again in a longer text exactly if
the text does not go on with its class. -/

section Runs

variable {p : Char → Bool} {run rest cs : List Char}

/-- The text does not go on with a character of the class. -/
def Stops (p : Char → Bool) (rest : List Char) : Prop := ∀ c ∈ rest.head?, p c = false

theorem stops_cons {c : Char} : Stops p (c :: rest) ↔ p c = false := by simp [Stops]

theorem takeWhile_append_of_stops (hrun : ∀ c ∈ run, p c = true) (hrest : Stops p rest) :
    (run ++ rest).takeWhile p = run := by
  rw [List.takeWhile_append_of_pos hrun]
  cases rest with
  | nil => simp
  | cons c rest => simp [stops_cons.1 hrest]

theorem dropWhile_append_of_stops (hrun : ∀ c ∈ run, p c = true) (hrest : Stops p rest) :
    (run ++ rest).dropWhile p = rest := by
  rw [List.dropWhile_append_of_pos hrun]
  cases rest with
  | nil => rfl
  | cons c rest => simp [stops_cons.1 hrest]

theorem stops_dropWhile (p : Char → Bool) (cs : List Char) : Stops p (cs.dropWhile p) := by
  intro c hc
  have hnot := List.head?_dropWhile_not p cs
  rwa [Option.mem_def.1 hc] at hnot

end Runs

/-! ## Blanks and numerals

Blanks are skipped where they may stand, and a numeral is a longest run of digits behind a minus
sign or none. -/

section Numerals

variable {c : Char} {text rest cs before : List Char} {n : Int64}

theorem skipSpace_append (hbefore : Spaces before) (hcs : Stops isSpace cs) :
    skipSpace (before ++ cs) = cs :=
  dropWhile_append_of_stops hbefore hcs

theorem exists_spaces (cs : List Char) : ∃ before, Spaces before ∧ cs = before ++ skipSpace cs :=
  ⟨cs.takeWhile isSpace, fun _ hc => List.mem_takeWhile_imp hc,
    List.takeWhile_append_dropWhile.symm⟩

theorem isSpace_eq_false_of_isDigit (h : c.isDigit = true) : isSpace c = false := by
  rw [isSpace]
  simp only [Bool.or_eq_false_iff, decide_eq_false_iff_not]
  refine ⟨⟨⟨?_, ?_⟩, ?_⟩, ?_⟩ <;> rintro rfl <;> exact absurd h (by decide)

theorem isDigit_eq_false_of_isSpace (h : isSpace c = true) : c.isDigit = false :=
  Bool.eq_false_iff.2 fun hdigit =>
    Bool.false_ne_true ((isSpace_eq_false_of_isDigit hdigit).symm.trans h)

/-- A numeral begins with a minus sign or a digit. -/
theorem IsNumeral.exists_cons (h : IsNumeral text) :
    ∃ c cs, text = c :: cs ∧ (c = '-' ∨ c.isDigit = true) := by
  cases h with
  | @unsigned digits hne h =>
    obtain ⟨c, cs, rfl⟩ := List.exists_cons_of_ne_nil hne
    exact ⟨c, cs, rfl, .inr (h c List.mem_cons_self)⟩
  | negative => exact ⟨_, _, rfl, .inl rfl⟩

theorem IsNumeral.stops_isSpace (h : IsNumeral text) (rest : List Char) :
    Stops isSpace (text ++ rest) := by
  obtain ⟨c, cs, rfl, rfl | hc⟩ := h.exists_cons
  · exact stops_cons.2 (by decide)
  · exact stops_cons.2 (isSpace_eq_false_of_isDigit hc)

theorem numeralText?_minus (cs : List Char) :
    numeralText? ('-' :: cs) = if (cs.takeWhile Char.isDigit).isEmpty then none
      else some ('-' :: cs.takeWhile Char.isDigit, cs.dropWhile Char.isDigit) := rfl

theorem numeralText?_of_ne (h : cs.head? ≠ some '-') :
    numeralText? cs = if (cs.takeWhile Char.isDigit).isEmpty then none
      else some (cs.takeWhile Char.isDigit, cs.dropWhile Char.isDigit) := by
  rw [numeralText?.eq_def]
  split
  rename_i hsign
  split at hsign
  · exact absurd rfl h
  · obtain ⟨rfl, rfl⟩ := Prod.mk.inj hsign
    rfl

theorem numeralText?_append (h : IsNumeral text) (hrest : Stops Char.isDigit rest) :
    numeralText? (text ++ rest) = some (text, rest) := by
  cases h with
  | unsigned hne h =>
    have hhead : (text ++ rest).head? ≠ some '-' := by
      obtain ⟨c, cs, rfl⟩ := List.exists_cons_of_ne_nil hne
      rintro ⟨rfl⟩
      exact absurd (h '-' List.mem_cons_self) (by decide)
    rw [numeralText?_of_ne hhead, takeWhile_append_of_stops h hrest,
      dropWhile_append_of_stops h hrest, if_neg (by simpa using hne)]
  | @negative digits hne h =>
    rw [List.cons_append, numeralText?_minus, takeWhile_append_of_stops h hrest,
      dropWhile_append_of_stops h hrest, if_neg (by simpa using hne)]

theorem isNumeral_of_numeralText? (h : numeralText? cs = some (text, rest)) :
    IsNumeral text ∧ cs = text ++ rest := by
  have hdigits {l : List Char} : ∀ c ∈ l.takeWhile Char.isDigit, c.isDigit = true :=
    fun _ hc => List.mem_takeWhile_imp hc
  by_cases hminus : cs.head? = some '-'
  · obtain ⟨tail, rfl⟩ := List.head?_eq_some_iff.1 hminus
    rw [numeralText?_minus, Option.ite_none_left_eq_some] at h
    obtain ⟨hne, ⟨rfl, rfl⟩⟩ := h
    exact ⟨.negative (by simpa using hne) hdigits, by simp [List.takeWhile_append_dropWhile]⟩
  · rw [numeralText?_of_ne hminus, Option.ite_none_left_eq_some] at h
    obtain ⟨hne, ⟨rfl, rfl⟩⟩ := h
    exact ⟨.unsigned (by simpa using hne) hdigits, List.takeWhile_append_dropWhile.symm⟩

/-- **A numeral is read whole** where no digit follows it. -/
theorem integer?_append (h : Denotes text n) (hrest : Stops Char.isDigit rest) :
    integer? (text ++ rest) = some (n, rest) := by
  rw [integer?, numeralText?_append h.1 hrest, Option.bind_some]
  exact congrArg (Option.map fun n => (n, rest)) h.2

theorem exists_of_integer? (h : integer? cs = some (n, rest)) :
    ∃ text, Denotes text n ∧ cs = text ++ rest := by
  obtain ⟨⟨text, rest'⟩, hnumeral, hread⟩ := Option.bind_eq_some_iff.1 h
  obtain ⟨m, hm, heq⟩ := Option.map_eq_some_iff.1 hread
  obtain ⟨rfl, rfl⟩ := Prod.mk.inj heq
  obtain ⟨htext, hcs⟩ := isNumeral_of_numeralText? hnumeral
  exact ⟨text, ⟨htext, hm⟩, hcs⟩

/-- Nothing but a minus sign and digits begins an integer. -/
theorem integer?_eq_none (hminus : c ≠ '-') (hdigit : c.isDigit = false) (cs : List Char) :
    integer? (c :: cs) = none := by
  rw [integer?, numeralText?_of_ne (by simpa using hminus)]
  simp [hdigit]

end Numerals

/-! ## Lists

Items end at a quote, or where a numeral does, and are followed by a comma or the closing bracket.
The reader spends fuel on each item, and a list has fewer items than characters. -/

section Lists

variable {quote : Char} {text rest cs before after : List Char} {item : String}
  {items : List String} {p : Char → Bool}

/-- Blanks do not go on with a class that has no blanks. -/
theorem Spaces.stops (hafter : Spaces after) (hspace : ∀ c, isSpace c = true → p c = false)
    (hrest : Stops p rest) : Stops p (after ++ rest) := by
  cases after with
  | nil => exact hrest
  | cons c after => exact stops_cons.2 (hspace c (hafter c List.mem_cons_self))

theorem quoted?_append (h : quote ∉ text) (rest : List Char) :
    quoted? quote (text ++ quote :: rest) = some (text, rest) := by
  have hrun : ∀ c ∈ text, decide (c ≠ quote) = true := fun c hc =>
    decide_eq_true fun heq => h (heq ▸ hc)
  have hstops : Stops (fun c => decide (c ≠ quote)) (quote :: rest) := stops_cons.2 (by simp)
  rw [quoted?, dropWhile_append_of_stops hrun hstops, takeWhile_append_of_stops hrun hstops]

theorem exists_of_quoted? (h : quoted? quote cs = some (text, rest)) :
    quote ∉ text ∧ cs = text ++ quote :: rest := by
  have hstops := stops_dropWhile (fun c => decide (c ≠ quote)) cs
  have hsplit := List.takeWhile_append_dropWhile (p := fun c => decide (c ≠ quote)) (l := cs)
  rw [quoted?] at h
  split at h
  · cases h
  · rename_i c tail hdrop
    obtain ⟨rfl, rfl⟩ := Prod.mk.inj (Option.some.inj h)
    rw [hdrop] at hstops hsplit
    obtain rfl : c = quote := by simpa using stops_cons.1 hstops
    exact ⟨fun hc => by simpa using List.mem_takeWhile_imp hc, hsplit.symm⟩

/-- Where no quote begins an item, a numeral has to. -/
theorem item?_of_ne (hsingle : cs.head? ≠ some '\'') (hdouble : cs.head? ≠ some '"') :
    item? cs = (numeralText? cs).bind fun (text, rest) =>
      (Text.int64? text).map fun _ => (String.ofList text, rest) := by
  rw [item?.eq_def]
  split
  · exact absurd rfl hsingle
  · exact absurd rfl hdouble
  · rfl

theorem SpellsItem.stops_isSpace (h : SpellsItem text item) (rest : List Char) :
    Stops isSpace (text ++ rest) := by
  cases h with
  | single | double => exact stops_cons.2 (by decide)
  | numeral h => exact h.1.stops_isSpace rest

/-- **An item is read whole** where no digit follows it. -/
theorem item?_append (h : SpellsItem text item) (hrest : Stops Char.isDigit rest) :
    item? (text ++ rest) = some (item, rest) := by
  cases h with
  | single h | double h =>
    rw [List.cons_append, List.append_assoc, List.singleton_append, item?]
    rw [quoted?_append h]
    rfl
  | numeral h =>
    have hhead : ∀ quote ∈ ['\'', '"'], (text ++ rest).head? ≠ some quote := by
      obtain ⟨c, cs, rfl, hc⟩ := h.1.exists_cons
      rintro quote hquote ⟨rfl⟩
      obtain rfl | hc := hc
      · exact absurd hquote (by decide)
      · obtain rfl | rfl : c = '\'' ∨ c = '"' := by simpa using hquote
        · exact absurd hc (by decide)
        · exact absurd hc (by decide)
    rw [item?_of_ne (hhead _ (by simp)) (hhead _ (by simp)), numeralText?_append h.1 hrest,
      Option.bind_some]
    exact congrArg (Option.map fun _ => (String.ofList text, rest)) h.2

theorem exists_of_item? (h : item? cs = some (item, rest)) :
    ∃ text, SpellsItem text item ∧ cs = text ++ rest := by
  by_cases hsingle : cs.head? = some '\''
  · obtain ⟨tail, rfl⟩ := List.head?_eq_some_iff.1 hsingle
    obtain ⟨⟨text, rest'⟩, hread, ⟨rfl, rfl⟩⟩ := Option.map_eq_some_iff.1 h
    obtain ⟨hquote, rfl⟩ := exists_of_quoted? hread
    exact ⟨_, .single hquote, by simp⟩
  by_cases hdouble : cs.head? = some '"'
  · obtain ⟨tail, rfl⟩ := List.head?_eq_some_iff.1 hdouble
    obtain ⟨⟨text, rest'⟩, hread, ⟨rfl, rfl⟩⟩ := Option.map_eq_some_iff.1 h
    obtain ⟨hquote, rfl⟩ := exists_of_quoted? hread
    exact ⟨_, .double hquote, by simp⟩
  rw [item?_of_ne hsingle hdouble] at h
  obtain ⟨⟨text, rest'⟩, hnumeral, hread⟩ := Option.bind_eq_some_iff.1 h
  obtain ⟨n, hn, ⟨rfl, rfl⟩⟩ := Option.map_eq_some_iff.1 hread
  obtain ⟨htext, hcs⟩ := isNumeral_of_numeralText? hnumeral
  exact ⟨text, .numeral ⟨htext, hn⟩, hcs⟩

/-- **Items are read up to the closing bracket**, if there is fuel for each of them. -/
theorem items?_append (h : SpellsItems text items) (rest : List Char) {fuel : Nat}
    (hfuel : items.length ≤ fuel) :
    items? fuel (text ++ ']' :: rest) = some (items, ']' :: rest) := by
  have hdigit : ∀ c, isSpace c = true → c.isDigit = false := fun _ =>
    isDigit_eq_false_of_isSpace
  induction h generalizing fuel with
  | last hbefore htext hafter =>
    obtain ⟨fuel, rfl⟩ : ∃ n, fuel = n + 1 := Nat.exists_eq_add_one.2 hfuel
    rw [List.append_assoc, List.append_assoc, items?,
      skipSpace_append hbefore (htext.stops_isSpace _),
      item?_append htext (hafter.stops hdigit (stops_cons.2 (by decide))), Option.bind_some]
    dsimp only
    rw [skipSpace_append hafter (stops_cons.2 (by decide))]
    rfl
  | next hbefore htext hafter _ ih =>
    obtain ⟨fuel, rfl⟩ : ∃ n, fuel = n + 1 := Nat.exists_eq_add_one.2 (Nat.zero_lt_of_lt hfuel)
    rw [List.append_assoc, List.append_assoc, List.append_assoc, List.cons_append, items?,
      skipSpace_append hbefore (htext.stops_isSpace _),
      item?_append htext (hafter.stops hdigit (stops_cons.2 (by decide))), Option.bind_some]
    dsimp only
    rw [skipSpace_append hafter (stops_cons.2 (by decide))]
    exact congrArg (Option.map _) (ih (Nat.le_of_succ_le_succ hfuel))

theorem exists_of_items? {fuel : Nat} (h : items? fuel cs = some (items, rest)) :
    ∃ text, SpellsItems text items ∧ cs = text ++ rest := by
  induction fuel generalizing cs items with
  | zero => exact nomatch h
  | succ fuel ih =>
    obtain ⟨before, hbefore, hcs⟩ := exists_spaces cs
    obtain ⟨⟨item, tail⟩, hitem, hmore⟩ := Option.bind_eq_some_iff.1 h
    obtain ⟨text, htext, htail⟩ := exists_of_item? hitem
    obtain ⟨after, hafter, hskip⟩ := exists_spaces tail
    dsimp only at hmore
    split at hmore
    · rename_i more hcomma
      obtain ⟨⟨items', rest'⟩, hitems, ⟨rfl, rfl⟩⟩ := Option.map_eq_some_iff.1 hmore
      obtain ⟨text', htext', rfl⟩ := ih hitems
      refine ⟨_, .next hbefore htext hafter htext', ?_⟩
      rw [hcs, htail, hskip, hcomma]
      simp
    · obtain ⟨rfl, rfl⟩ := Prod.mk.inj (Option.some.inj hmore)
      refine ⟨_, .last hbefore htext hafter, ?_⟩
      rw [hcs, htail, List.append_assoc, List.append_assoc, ← hskip]

/-- A list of items has a character for each of them. -/
theorem SpellsItems.length_le (h : SpellsItems text items) : items.length ≤ text.length := by
  have hpos {text : List Char} {item : String} (h : SpellsItem text item) : 0 < text.length := by
    cases h with
    | single | double => simp
    | numeral h =>
      obtain ⟨c, cs, rfl, -⟩ := h.1.exists_cons
      simp
  induction h with
  | last _ htext _ =>
    have := hpos htext
    simp only [List.length_append, List.length_singleton]
    omega
  | next _ htext _ _ ih =>
    have := hpos htext
    simp only [List.length_append, List.length_cons]
    omega

theorem list?_append (h : SpellsItems text items) (rest : List Char) :
    list? ('[' :: (text ++ [']']) ++ rest) = some (.items items, rest) := by
  have hfuel : items.length ≤ (text ++ ']' :: rest).length + 1 := by
    have := h.length_le
    rw [List.length_append]
    omega
  have hcs : '[' :: (text ++ [']']) ++ rest = '[' :: (text ++ ']' :: rest) := by simp
  rw [hcs, list?, expect?, if_pos rfl, Option.bind_some, items?_append h rest hfuel,
    Option.bind_some]
  rfl

theorem exists_of_expect? {c : Char} (h : expect? c cs = some rest) : cs = c :: rest := by
  cases cs with
  | nil => exact nomatch h
  | cons d cs =>
    obtain ⟨rfl, ⟨rfl⟩⟩ := Option.ite_none_right_eq_some.1 h
    rfl

theorem exists_of_list? {q : Placeholder} (h : list? cs = some (q, rest)) :
    ∃ text items, SpellsItems text items ∧ q = .items items ∧
      cs = '[' :: (text ++ [']']) ++ rest := by
  obtain ⟨inner, hopen, h⟩ := Option.bind_eq_some_iff.1 h
  obtain ⟨⟨items, tail⟩, hitems, h⟩ := Option.bind_eq_some_iff.1 h
  obtain ⟨rest', hclose, ⟨rfl, rfl⟩⟩ := Option.map_eq_some_iff.1 h
  obtain ⟨text, htext, rfl⟩ := exists_of_items? hitems
  obtain rfl := exists_of_expect? hopen
  obtain rfl := exists_of_expect? hclose
  exact ⟨text, items, htext, rfl, by simp⟩

end Lists

/-! ## Columns

A column is a name, alone or with an operator and an integer.  Blanks may stand between the three,
and no operator is a part of a name. -/

section Columns

variable {c : Char} {name text rest cs before after : List Char} {op : Operator} {n : Int64}

theorem isNameChar_eq_false_of_isSpace (h : isSpace c = true) : isNameChar c = false := by
  simp only [isSpace, Bool.or_eq_true, decide_eq_true_eq] at h
  obtain ((rfl | rfl) | rfl) | rfl := h <;> decide

theorem isNameChar_symbol (op : Operator) : isNameChar op.symbol = false := by
  cases op <;> decide

theorem isSpace_symbol (op : Operator) : isSpace op.symbol = false := by
  cases op <;> decide

theorem operator?_eq_some_iff : operator? c = some op ↔ c = op.symbol := by
  constructor
  · intro h
    cases op <;> grind [operator?, Operator.symbol]
  · rintro rfl
    cases op <;> rfl

theorem operation?_append (hbefore : Spaces before) (hafter : Spaces after)
    (htext : Denotes text n) (hrest : Stops Char.isDigit rest) :
    operation? (before ++ op.symbol :: (after ++ (text ++ rest))) = some ((op, n), rest) := by
  rw [operation?, skipSpace_append hbefore (stops_cons.2 (isSpace_symbol op))]
  dsimp only
  rw [operator?_eq_some_iff.2 rfl, Option.bind_some,
    skipSpace_append hafter (htext.1.stops_isSpace rest), integer?_append htext hrest]
  rfl

theorem exists_of_operation? (h : operation? cs = some ((op, n), rest)) :
    ∃ before after text, Spaces before ∧ Spaces after ∧ Denotes text n ∧
      cs = before ++ op.symbol :: (after ++ (text ++ rest)) := by
  obtain ⟨before, hbefore, hcs⟩ := exists_spaces cs
  rw [operation?] at h
  split at h
  · cases h
  · rename_i c tail hskip
    obtain ⟨op', hop, h⟩ := Option.bind_eq_some_iff.1 h
    obtain ⟨⟨n', rest'⟩, hinteger, ⟨⟨rfl, rfl⟩, rfl⟩⟩ := Option.map_eq_some_iff.1 h
    obtain ⟨after, hafter, htail⟩ := exists_spaces tail
    obtain ⟨text, htext, hsplit⟩ := exists_of_integer? hinteger
    refine ⟨before, after, text, hbefore, hafter, htext, ?_⟩
    rw [hcs, hskip, operator?_eq_some_iff.1 hop, ← hsplit, ← htail]

theorem isDigit_eq_false_of_isAlpha {c : Char} (h : c.isAlpha = true) : c.isDigit = false := by
  have hlow : 65 ≤ c.toNat := by
    obtain hupper | hlower := Bool.or_eq_true_iff.1 h
    · exact UInt32.le_iff_toNat_le.1 (of_decide_eq_true hupper).1
    · have : 97 ≤ c.toNat :=
        UInt32.le_iff_toNat_le.1 (of_decide_eq_true (Bool.and_eq_true_iff.1 hlower).1)
      omega
  refine Bool.eq_false_iff.2 fun hdigit => ?_
  have := Text.toNat_of_isDigit hdigit
  omega

/-- A name begins with neither a digit nor a mark. -/
theorem IsName.exists_cons (h : IsName name) :
    ∃ c run, name = c :: run ∧ c.isDigit = false ∧ c ≠ '-' ∧ c ≠ '[' ∧ isSpace c = false := by
  cases name with
  | nil => exact h.elim
  | cons c run =>
    have hc : c.isAlpha = true ∨ c = '_' := by simpa [IsName, Text.isAsciiLetter] using h.1
    have hstart {d : Char} (hd : ¬ (d.isAlpha = true ∨ d = '_')) : c ≠ d := by
      rintro rfl
      exact hd hc
    refine ⟨c, run, rfl, ?_, hstart (by decide), hstart (by decide), ?_⟩
    · obtain hc | rfl := hc
      · exact isDigit_eq_false_of_isAlpha hc
      · decide
    · simp only [isSpace, Bool.or_eq_false_iff, decide_eq_false_iff_not]
      exact ⟨⟨⟨hstart (by decide), hstart (by decide)⟩, hstart (by decide)⟩, hstart (by decide)⟩

/-- **A name is read whole**, and then arithmetic if there is any. -/
theorem column?_append (h : IsName name) (hrest : Stops isNameChar rest) :
    column? (name ++ rest) = match operation? rest with
      | some (operation, rest) => some (.column (String.ofList name) (some operation), rest)
      | none => some (.column (String.ofList name) none, rest) := by
  cases name with
  | nil => exact h.elim
  | cons c run =>
    have htake := takeWhile_append_of_stops h.2 hrest
    have hdrop := dropWhile_append_of_stops h.2 hrest
    cases hoperation : operation? rest with
    | none => simp [column?, h.1, htake, hdrop, hoperation]
    | some found => simp [column?, h.1, htake, hdrop, hoperation]

theorem exists_of_column? {q : Placeholder} (h : column? cs = some (q, rest)) :
    ∃ text, SpellsBody text q ∧ cs = text ++ rest := by
  cases cs with
  | nil => exact nomatch h
  | cons c cs =>
    obtain ⟨hc, h⟩ := Option.ite_none_right_eq_some.1 h
    have hname : IsName (c :: cs.takeWhile isNameChar) :=
      ⟨hc, fun _ hd => List.mem_takeWhile_imp hd⟩
    have hsplit : c :: cs = c :: cs.takeWhile isNameChar ++ cs.dropWhile isNameChar := by
      rw [List.cons_append, List.takeWhile_append_dropWhile]
    split at h
    · rename_i operation tail hoperation
      obtain ⟨rfl, rfl⟩ := Prod.mk.inj (Option.some.inj h)
      obtain ⟨before, after, text, hbefore, hafter, htext, htail⟩ :=
        exists_of_operation? hoperation
      refine ⟨_, .arithmetic hname hbefore hafter htext, ?_⟩
      rw [hsplit, htail]
      simp
    · obtain ⟨rfl, rfl⟩ := Prod.mk.inj (Option.some.inj h)
      exact ⟨_, .column hname, hsplit⟩

end Columns

/-! ## Placeholders

The alternatives between the braces are tried in order.  They exclude each other by the first
character: a minus sign or a digit begins a range, a bracket a list, and anything else a name. -/

section Placeholders

variable {a b text rest cs after : List Char} {first last : Int64} {p : Placeholder}

theorem range?_append (ha : Denotes a first) (hb : Denotes b last)
    (hrest : Stops Char.isDigit rest) :
    range? (a ++ '.' :: '.' :: b ++ rest) = some (.range first last, rest) := by
  have hcs : a ++ '.' :: '.' :: b ++ rest = a ++ '.' :: '.' :: (b ++ rest) := by simp
  rw [hcs, range?, integer?_append ha (stops_cons.2 (by decide)), Option.bind_some]
  exact congrArg (Option.map _) (integer?_append hb hrest)

theorem exists_of_range? (h : range? cs = some (p, rest)) :
    ∃ text, SpellsBody text p ∧ cs = text ++ rest := by
  obtain ⟨⟨first, tail⟩, hfirst, hsecond⟩ := Option.bind_eq_some_iff.1 h
  obtain ⟨a, ha, rfl⟩ := exists_of_integer? hfirst
  dsimp only at hsecond
  split at hsecond
  · obtain ⟨⟨last, rest'⟩, hlast, ⟨rfl, rfl⟩⟩ := Option.map_eq_some_iff.1 hsecond
    obtain ⟨b, hb, rfl⟩ := exists_of_integer? hlast
    exact ⟨_, .range ha hb, by simp⟩
  · exact nomatch hsecond

theorem SpellsBody.stops_isSpace (h : SpellsBody text p) (rest : List Char) :
    Stops isSpace (text ++ rest) := by
  cases h with
  | range ha =>
    rw [List.append_assoc]
    exact ha.1.stops_isSpace _
  | items => exact stops_cons.2 (by decide)
  | column h =>
    obtain ⟨c, run, rfl, -, -, -, hc⟩ := h.exists_cons
    exact stops_cons.2 hc
  | arithmetic h =>
    obtain ⟨c, run, rfl, -, -, -, hc⟩ := h.exists_cons
    exact stops_cons.2 hc

/-- No range begins with anything but a minus sign or a digit. -/
theorem range?_eq_none {c : Char} (hminus : c ≠ '-') (hdigit : c.isDigit = false)
    (cs : List Char) : range? (c :: cs) = none := by
  rw [range?, integer?_eq_none hminus hdigit, Option.bind_none]

/-- A text that begins with a name is neither a range nor a list. -/
theorem body?_of_isName {name : List Char} (h : IsName name) (rest : List Char) :
    body? (name ++ rest) = column? (name ++ rest) := by
  obtain ⟨c, run, rfl, hdigit, hminus, hbracket, -⟩ := h.exists_cons
  rw [List.cons_append, body?, range?_eq_none hminus hdigit, list?, expect?, if_neg hbracket]
  rfl

/-- **What stands between the braces is read up to the blanks before the closing brace.** -/
theorem body?_append (h : SpellsBody text p) (hafter : Spaces after) (rest : List Char) :
    body? (text ++ (after ++ '\x7d' :: rest)) = some (p, after ++ '\x7d' :: rest) := by
  have hdigit : Stops Char.isDigit (after ++ '\x7d' :: rest) :=
    hafter.stops (fun _ => isDigit_eq_false_of_isSpace) (stops_cons.2 (by decide))
  cases h with
  | range ha hb => rw [body?, range?_append ha hb hdigit]
  | items h =>
    rw [body?, List.cons_append, range?_eq_none (by decide) (by decide), ← List.cons_append,
      list?_append h]
  | column h =>
    have hname : Stops isNameChar (after ++ '\x7d' :: rest) :=
      hafter.stops (fun _ => isNameChar_eq_false_of_isSpace) (stops_cons.2 (by decide))
    have hoperation : operation? (after ++ '\x7d' :: rest) = none := by
      rw [operation?, skipSpace_append hafter (stops_cons.2 (by decide))]
      rfl
    rw [body?_of_isName h, column?_append h hname, hoperation]
  | @arithmetic _ before after' text op _ h hbefore hafter' htext =>
    have hname (tail : List Char) : Stops isNameChar (before ++ op.symbol :: tail) :=
      hbefore.stops (fun _ => isNameChar_eq_false_of_isSpace)
        (stops_cons.2 (isNameChar_symbol op))
    simp only [List.append_assoc, List.cons_append]
    rw [body?_of_isName h, column?_append h (hname _),
      operation?_append hbefore hafter' htext hdigit]

theorem exists_of_body? (h : body? cs = some (p, rest)) :
    ∃ text, SpellsBody text p ∧ cs = text ++ rest := by
  rw [body?] at h
  split at h
  · rename_i found hrange
    exact exists_of_range? (hrange.trans h)
  · split at h
    · rename_i found hlist
      obtain ⟨text, items, htext, rfl, hcs⟩ := exists_of_list? (hlist.trans h)
      exact ⟨_, .items htext, hcs⟩
    · exact exists_of_column? h

theorem Opens.opener?_append {opener : List Char} (h : Opens opener) (rest : List Char) :
    opener? (opener ++ rest) = some rest := by
  cases h <;> rfl

theorem exists_of_opener? (h : opener? cs = some rest) :
    ∃ opener, Opens opener ∧ cs = opener ++ rest := by
  rw [opener?.eq_def] at h
  split at h
  · obtain rfl := Option.some.inj h
    exact ⟨_, .brace, rfl⟩
  · obtain rfl := Option.some.inj h
    exact ⟨_, .arrow, rfl⟩
  · exact nomatch h

/-- **Every spelling of a placeholder is read whole.** -/
theorem Spells.placeholder?_append (h : Spells text p) (rest : List Char) :
    placeholder? (text ++ rest) = some (p, rest) := by
  obtain ⟨hopener, hbefore, hbody, hafter⟩ := h
  simp only [List.append_assoc, List.singleton_append]
  rw [placeholder?, hopener.opener?_append, Option.bind_some,
    skipSpace_append hbefore (hbody.stops_isSpace _), body?_append hbody hafter, Option.bind_some]
  dsimp only
  rw [skipSpace_append hafter (stops_cons.2 (by decide))]
  rfl

/-- **A placeholder is read where, and only where, the text begins with one of its spellings.** -/
theorem placeholder?_eq_some_iff :
    placeholder? cs = some (p, rest) ↔ ∃ text, Spells text p ∧ cs = text ++ rest := by
  constructor
  · intro h
    obtain ⟨inner, hopen, h⟩ := Option.bind_eq_some_iff.1 h
    obtain ⟨⟨q, tail⟩, hread, h⟩ := Option.bind_eq_some_iff.1 h
    obtain ⟨rest', hclose, ⟨rfl, rfl⟩⟩ := Option.map_eq_some_iff.1 h
    obtain ⟨opener, hopener, rfl⟩ := exists_of_opener? hopen
    obtain ⟨before, hbefore, hinner⟩ := exists_spaces inner
    obtain ⟨body, hbody, hbodied⟩ := exists_of_body? hread
    obtain ⟨after, hafter, htail⟩ := exists_spaces tail
    refine ⟨_, .intro hopener hbefore hbody hafter, ?_⟩
    rw [hinner, hbodied, htail, exists_of_expect? hclose]
    simp
  · rintro ⟨text, htext, rfl⟩
    exact htext.placeholder?_append rest

end Placeholders

end ScatterGather.Inline
