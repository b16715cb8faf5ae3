import ScatterGather.Text.CaseTable

/-!
# Text/Case — lower and upper case of whole texts

`lower` and `upper` follow the full case maps of Unicode: one character may become several, and a
capital sigma becomes a final sigma at the end of a word.  `foldName` and `sameName` compare names
of tables, columns and groups, which fold ASCII letters only.
-/

namespace ScatterGather.Text

/-- The name with its ASCII letters in lower case. -/
def foldName (s : String) : List Char := s.toList.map Char.toLower

/-- Names match when they differ only in the case of ASCII letters. -/
def sameName (a b : String) : Bool := foldName a == foldName b

@[simp] theorem sameName_refl (a : String) : sameName a a = true := by simp [sameName]

theorem sameName_iff {a b : String} : sameName a b = true ↔ foldName a = foldName b := by
  simp [sameName]

theorem sameName_comm (a b : String) : sameName a b = sameName b a := by
  simp only [sameName, Bool.beq_comm]

theorem sameName_trans {a b c : String} (hab : sameName a b = true) (hbc : sameName b c = true) :
    sameName a c = true := by
  rw [sameName_iff] at *
  exact hab.trans hbc

/-- Lower case of one character, its place in the text aside. -/
def lowerChar (c : Char) : List Char :=
  if c.toNat < 128 then [c.toLower]
  else if c.toNat = 0x130 then ['i', Char.ofNat 0x307]
  else [((imageInRuns? lowerRuns c.toNat).map Char.ofNat).getD c]

/-- Upper case of one character. -/
def upperChar (c : Char) : List Char :=
  if c.toNat < 128 then [c.toUpper]
  else match upperExpansions.lookup c.toNat with
    | some images => images.map Char.ofNat
    | none => [((imageInRuns? upperRuns c.toNat).map Char.ofNat).getD c]

/-- Whether the first character that is not passed over is a cased letter. -/
def meetsCased (cs : List Char) : Bool :=
  match cs.dropWhile fun c => inRanges caseIgnorableRanges c.toNat with
  | [] => false
  | c :: _ => inRanges casedRanges c.toNat

/-- Lower case of a text whose characters so far, last first, are `before`: a capital sigma is
final when a cased letter stands before it and none after it. -/
def lowerFrom (before : List Char) : List Char → List Char
  | [] => []
  | c :: rest =>
    (if c = 'Σ' then [if meetsCased before && !meetsCased rest then 'ς' else 'σ']
      else lowerChar c) ++ lowerFrom (c :: before) rest

/-- The text in lower case. -/
def lower (s : String) : String := String.ofList (lowerFrom [] s.toList)

/-- The text in upper case. -/
def upper (s : String) : String := String.ofList (s.toList.flatMap upperChar)

end ScatterGather.Text
