/-!
# Merge/Pattern — LIKE

In a pattern a percent sign stands for any run of characters and an underscore for one.  `likeFrom`
reads the text from the left.  Where a character does not fit, the last percent sign takes one more
character and the pattern after it is tried anew; the percent signs before it keep what they have.
-/

namespace ScatterGather

/-- Whether a character of a pattern stands for a character of a text. -/
def standsFor (p c : Char) : Bool := p == '_' || p == c

/-- What to try when a character does not fit: the text behind one more character for the last
percent sign, against the pattern after that sign. -/
structure LikeRetry where
  text : List Char
  pattern : List Char
  deriving DecidableEq

/-- Whether the rest of a text matches the rest of a pattern, now or in a retry. -/
def likeFrom (retry : Option LikeRetry) (text pattern : List Char) : Bool :=
  match text with
  | [] => pattern.all (· == '%')
  | c :: rest =>
    if pattern.head? = some '%' then
      likeFrom (some ⟨rest, pattern.tail⟩) (c :: rest) pattern.tail
    else if pattern.head?.any (standsFor · c) then likeFrom retry rest pattern.tail
    else
      match retry with
      | none => false
      | some r => likeFrom (some ⟨r.text.tail, r.pattern⟩) r.text r.pattern
-- A percent sign leaves a shorter pattern for all that follows, a retry a shorter text for the next
-- one, and a character that fits a shorter text.
termination_by
  (max pattern.length (retry.elim 0 (·.pattern.length)), retry.elim 0 (·.text.length), text.length)
decreasing_by
  all_goals simp only [Prod.lex_def, Option.elim, List.length_tail, List.length_cons]
  · cases pattern <;> grind
  · grind
  · cases h : r.text <;> grind

/-- Whether a text matches a pattern. -/
def likeMatches (text pattern : String) : Bool := likeFrom none text.toList pattern.toList

end ScatterGather
