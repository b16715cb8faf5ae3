import ScatterGather.Route.Basic

/-!
# Execution/Token — the words of SQL text

`SqlToken.scan` cuts a text into quoted literals, identifiers, numbers and single marks; put
together again they are the text.  `renameTables` replaces identifiers that name logical tables.
-/

namespace ScatterGather

/-- The kinds of tokens. -/
inductive TokenKind where
  | identifier
  /-- Digits and what follows them without a gap, such as an exponent. -/
  | number
  /-- A quoted literal without its closing quote. -/
  | openLiteral
  | literal
  | mark
  deriving DecidableEq

/-- A piece of SQL text. -/
structure SqlToken where
  kind : TokenKind
  text : List Char
  deriving DecidableEq

namespace SqlToken

/-- The single quote. -/
def quote : Char := Char.ofNat 39

/-- Letters and underscores begin identifiers. -/
def beginsIdentifier (c : Char) : Bool := Text.isAsciiLetter c || c == '_'

/-- Letters, digits, underscores and dollar signs continue identifiers and numbers. -/
def continues (c : Char) : Bool := c.isAlphanum || c == '_' || c == '$'

/-- The token that a character begins. -/
def ofChar (c : Char) : SqlToken :=
  ⟨if c = quote then .openLiteral else if beginsIdentifier c then .identifier
    else if c.isDigit then .number else .mark, [c]⟩

/-- The token with one more character, if that belongs to it. -/
def extend? (t : SqlToken) (c : Char) : Option SqlToken :=
  match t.kind with
  | .identifier | .number => if continues c then some ⟨t.kind, t.text ++ [c]⟩ else none
  | .openLiteral => some ⟨if c = quote then .literal else .openLiteral, t.text ++ [c]⟩
  | .literal | .mark => none

/-- The tokens of a text, the first of which has begun. -/
def scanFrom (t : SqlToken) : List Char → List SqlToken
  | [] => [t]
  | c :: rest =>
    match t.extend? c with
    | some longer => scanFrom longer rest
    | none => t :: scanFrom (ofChar c) rest

/-- The tokens of a text. -/
def scan : List Char → List SqlToken
  | [] => []
  | c :: rest => scanFrom (ofChar c) rest

theorem text_extend? {t longer : SqlToken} {c : Char} (h : t.extend? c = some longer) :
    longer.text = t.text ++ [c] := by
  cases ht : t.kind <;> grind [extend?]

theorem flatMap_text_scanFrom (t : SqlToken) (cs : List Char) :
    (scanFrom t cs).flatMap text = t.text ++ cs := by
  induction cs generalizing t with
  | nil => simp [scanFrom]
  | cons c rest ih =>
    rw [scanFrom]
    split
    next longer h => rw [ih, text_extend? h, List.append_assoc, List.singleton_append]
    next => rw [List.flatMap_cons, ih]; rfl

/-- Nothing of a text is lost in its tokens. -/
theorem flatMap_text_scan (cs : List Char) : (scan cs).flatMap text = cs := by
  cases cs with
  | nil => rfl
  | cons c rest => exact flatMap_text_scanFrom (ofChar c) rest

/-- The name, if the token is an identifier. -/
def name? (t : SqlToken) : Option String :=
  if t.kind = .identifier then some (String.ofList t.text) else none

end SqlToken

/-- The SQL text with the logical tables of a unit replaced by its actual ones. -/
def renameTables (unit : RouteUnit) (sql : String) : String :=
  if unit.tables.isEmpty then sql
  else
    String.ofList ((SqlToken.scan sql.toList).flatMap fun t =>
      ((t.name?.bind unit.actualTable?).map String.toList).getD t.text)

/-- Whether a name occurs in a SQL text as an identifier, up to the case of ASCII letters. -/
def mentions (sql name : String) : Bool :=
  (SqlToken.scan sql.toList).any fun t => t.name?.any fun word => Text.sameName word name

end ScatterGather
