import Proximity.Text.Blank
import Proximity.Text.CaseTable

/-!
# Lower case

`lower` maps every character of a text to its lower case. Two rules go beyond a character for a
character: a capital I with a dot becomes an i and a combining dot, and a capital sigma takes its
final form at the end of a word, that is, after a cased character and not before one, where
ignorable characters between them do not count.
-/

namespace Proximity

namespace Text

/-- Whether `c` is an upper-case, lower-case or title-case character. -/
def isCased (c : Char) : Bool :=
  inRanges casedRanges c

/-- Whether `c` is skipped when the case around a character is looked for. -/
def isCaseIgnorable (c : Char) : Bool :=
  inRanges caseIgnorableRanges c

/-- Whether the first character that counts is cased. -/
def casedFirst (cs : List Char) : Bool :=
  match cs.dropWhile isCaseIgnorable with
  | [] => false
  | c :: _ => isCased c

/-- The lower case of one character, whatever stands around it. -/
def lowerChar (c : Char) : List Char :=
  if c = 'İ' then ['i', '\u0307']
  else
    let n := c.toNat
    match lowercaseRuns.find? fun (first, last, step, _) =>
        first ≤ n && n ≤ last && (n - first) % step == 0 with
    | some (_, _, _, offset) => [Char.ofNat (n + offset).toNat]
    | none => [c]

/-- The lower case of a text that follows `before`, whose last character comes first. -/
def lowerAfter (before : List Char) : List Char → List Char
  | [] => []
  | c :: cs =>
    (if c = 'Σ' then [if casedFirst before && !casedFirst cs then 'ς' else 'σ'] else lowerChar c)
      ++ lowerAfter (c :: before) cs

/-- A text in lower case. -/
def lower (s : String) : String :=
  String.ofList (lowerAfter [] s.toList)

/-- A text as it is compared with others: without the blank space around it, in lower case. -/
def fold (s : String) : String :=
  lower (trim s)

theorem fold_trim (s : String) : fold (trim s) = fold s := by
  rw [fold, trim_trim, fold]

theorem lowerChar_ne_nil (c : Char) : lowerChar c ≠ [] := by
  unfold lowerChar
  split
  · simp
  · simp only []
    split <;> simp

theorem lower_eq_empty_iff {s : String} : lower s = "" ↔ s = "" := by
  rw [lower, ← String.toList_inj, String.toList_ofList, ← String.toList_inj, String.toList_empty]
  rcases s.toList with _ | ⟨c, cs⟩
  · simp [lowerAfter]
  · simp only [lowerAfter, List.append_eq_nil_iff, reduceCtorEq, iff_false, not_and]
    split
    · simp
    · exact fun h => absurd h (lowerChar_ne_nil c)

/-- Nothing is left of a text to compare only if the text is blank. -/
theorem fold_eq_empty_iff {s : String} : fold s = "" ↔ blank s = true := by
  rw [fold, lower_eq_empty_iff, trim_eq_empty_iff]

end Text

end Proximity
