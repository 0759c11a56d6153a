import Mathlib.Data.List.TakeDrop
import Proximity.Decimal.Value
import Proximity.Sql.Token

/-!
# The tokens of what is written

The text of a fragment is taken apart into the tokens that it was written for, whatever stands
behind it, as long as that does not run on into it. Behind an expression or a condition stands
nothing, a blank, a comma or a closing parenthesis, and none of these runs on into anything.
-/

namespace Proximity

namespace Sql

variable {d : Dialect} {n : Nat}

theorem span_of_all {p : Char → Bool} {ds : List Char} (hd : ∀ c ∈ ds, p c = true)
    (rest : List Char) (hr : ∀ c ∈ rest.head?, p c = false) : (ds ++ rest).span p = (ds, rest) := by
  have hrest : rest.takeWhile p = [] ∧ rest.dropWhile p = rest := by
    rcases rest with _ | ⟨c, rest⟩
    · exact ⟨rfl, rfl⟩
    · have hc := hr c rfl
      simp [hc]
  rw [List.span_eq_takeWhile_dropWhile, List.takeWhile_append_of_pos hd,
    List.dropWhile_append_of_pos hd, hrest.1, hrest.2, List.append_nil]

/-- A text in which the mark is doubled ends at the first mark that is not. -/
theorem Token.quoted_doubled {mark : Char} : ∀ (cs : List Char) {rest : List Char},
    (∀ c ∈ rest.head?, c ≠ mark) →
      Token.quoted mark ((cs.flatMap fun c => if c = mark then [c, c] else [c]) ++ mark :: rest) =
        some (cs, rest)
  | [], rest, h => by
    rcases rest with _ | ⟨c, rest⟩
    · simp [Token.quoted]
    · have hc := h c rfl
      simp [Token.quoted, hc]
  | c :: cs, rest, h => by
    have ih := Token.quoted_doubled cs h
    by_cases hc : c = mark
    · simp [Token.quoted, hc, ih]
    · rw [List.flatMap_cons, if_neg hc, List.append_assoc, List.singleton_append]
      unfold Token.quoted
      rw [if_neg hc, ih]
      rfl

theorem Token.quotedString_doubled {mark : Char} (s : String) {rest : List Char}
    (h : ∀ c ∈ rest.head?, c ≠ mark) :
    Token.quotedString mark (doubled mark s ++ mark :: rest) = some (s, rest) := by
  unfold Token.quotedString doubled
  rw [Token.quoted_doubled s.toList h, Option.map_some]
  simp only [String.ofList_toList]

theorem lex_nil : lex d n [] = some [] := by
  unfold lex
  rfl

theorem lex_blank (cs : List Char) : lex d n (' ' :: cs) = lex d n cs := by
  rw [lex.eq_def, lex.eq_def d n cs]
  rfl

theorem lex_of_next {c : Char} {cs rest : List Char} {t : Token} (hc : c ≠ ' ')
    (h : Token.next? d n (c :: cs) = some (t, rest)) (hl : rest.length ≤ cs.length) :
    lex d n (c :: cs) = (lex d (t.count n) rest).map (t :: ·) := by
  have hd : (c :: cs).dropWhile (· == ' ') = c :: cs := by
    rw [List.dropWhile_cons_of_neg]
    simpa using hc
  rw [lex.eq_def]
  split
  · rename_i h'
    rw [hd] at h'
    cases h'
  · rename_i h'
    rw [hd] at h'
    cases h'
    simp only [h, if_pos hl]

theorem lex_lparen (rest : List Char) :
    lex d n ('(' :: rest) = (lex d n rest).map (.lparen :: ·) := by
  rcases d with _ | _ <;> exact lex_of_next (by decide) rfl le_rfl

theorem lex_rparen (rest : List Char) :
    lex d n (')' :: rest) = (lex d n rest).map (.rparen :: ·) := by
  rcases d with _ | _ <;> exact lex_of_next (by decide) rfl le_rfl

theorem lex_comma (rest : List Char) :
    lex d n (',' :: rest) = (lex d n rest).map (.comma :: ·) := by
  rcases d with _ | _ <;> exact lex_of_next (by decide) rfl le_rfl

theorem lex_arrow (rest : List Char) :
    lex d n ('-' :: '>' :: '>' :: rest) = (lex d n rest).map (.arrow :: ·) := by
  rcases d with _ | _ <;> exact lex_of_next (by decide) rfl (by simp; omega)

theorem lex_arith (op : ArithOp) (rest : List Char) :
    lex d n ((" " ++ op.sign ++ " ").toList ++ rest) = (lex d n rest).map (.arith op :: ·) := by
  rcases d with _ | _ <;> rcases op with _ | _ | _ <;>
    exact (lex_blank _).trans ((lex_of_next (by decide) rfl le_rfl).trans
      (congrArg (Option.map _) (lex_blank rest)))

theorem lex_compare (op : Comparison) (rest : List Char) :
    lex d n ((" " ++ op.sign ++ " ").toList ++ rest) = (lex d n rest).map (.compare op :: ·) := by
  rcases d with _ | _ <;> rcases op with _ | _ <;>
    exact (lex_blank _).trans ((lex_of_next (by decide) rfl (by simp)).trans
      (congrArg (Option.map _) (lex_blank rest)))

theorem lex_minus {c : Char} (hc : c.isDigit = true) (rest : List Char) :
    lex d n ('-' :: c :: rest) = (lex d n (c :: rest)).map (.arith .sub :: ·) := by
  have hm : c ≠ '-' := by rintro rfl; cases hc
  have ha : c ≠ '>' := by rintro rfl; cases hc
  have hs : Token.sign? ('-' :: c :: rest) = some (.arith .sub, c :: rest) := by
    unfold Token.sign?
    split <;> simp_all
  rcases d with _ | _ <;> exact lex_of_next (by decide) hs le_rfl

/-- Whether a text is spelled like a word. -/
def Token.isWord (w : String) : Bool :=
  w.toList.all isWordChar && w.toList.head?.any isWordStart

/-- A plain name of a function: a word that is none of the language. -/
def PlainName (function : String) : Prop :=
  Token.isWord function = true ∧ Token.capitals function.toList ∉ Token.words

instance (function : String) : Decidable (PlainName function) := by
  unfold PlainName
  infer_instance

/-- Letters and the low line come behind the digits. -/
theorem isDigit_of_isWordStart {c : Char} (h : Token.isWordStart c = true) : c.isDigit = false := by
  have hw : Token.isWordStart c = ((decide (c.val ≥ 'A'.val ∧ c.val ≤ 'Z'.val) ||
      (decide (c.val ≥ 'a'.val) && decide (c.val ≤ 'z'.val))) || c == '_') := rfl
  have hd : c.isDigit = (decide (c.val ≥ '0'.val) && decide (c.val ≤ '9'.val)) := rfl
  have hle : c.isDigit = true → c.val.toNat ≤ 57 := by
    intro hc
    rw [hd, Bool.and_eq_true, decide_eq_true_eq, decide_eq_true_eq] at hc
    exact UInt32.le_iff_toNat_le.mp hc.2
  have hge : 65 ≤ c.val.toNat := by
    rw [hw, Bool.or_eq_true, Bool.or_eq_true, Bool.and_eq_true] at h
    rcases h with (h | ⟨h, -⟩) | h
    · exact UInt32.le_iff_toNat_le.mp (of_decide_eq_true h).1
    · have ha : 97 ≤ c.val.toNat := UInt32.le_iff_toNat_le.mp (of_decide_eq_true h)
      omega
    · rw [eq_of_beq h]
      decide
  by_contra hc
  have := hle (Bool.eq_true_of_not_eq_false hc)
  omega

theorem isWordStart_ne {c : Char} (h : Token.isWordStart c = true) :
    c ≠ ' ' ∧ c ≠ d.nameMark ∧ c ≠ '\'' ∧ c.isDigit = false := by
  refine ⟨?_, ?_, ?_, isDigit_of_isWordStart h⟩
  · rintro rfl
    cases h
  · rcases d with _ | _ <;> rintro rfl <;> cases h
  · rintro rfl
    cases h

theorem next?_word {c : Char} (h : Token.isWordStart c = true) (cs : List Char) :
    Token.next? d n (c :: cs) = Token.word? (c :: cs) := by
  obtain ⟨-, hm, hq, hd⟩ := isWordStart_ne (d := d) h
  rw [Token.next?, if_neg hm, if_neg hq, hd, if_neg Bool.false_ne_true, if_pos h]

theorem Token.isWord_iff {w : String} : isWord w = true ↔
    (∀ c ∈ w.toList, isWordChar c = true) ∧
      ∃ c cs, w.toList = c :: cs ∧ isWordStart c = true := by
  unfold isWord
  rcases w.toList with _ | ⟨c, cs⟩ <;> simp

/-- A word is taken off a text as a whole. -/
theorem lex_of_word {w : String} (h : Token.isWord w = true) {rest rest' : List Char} {t : Token}
    (ht : Token.word? (w.toList ++ rest) = some (t, rest')) (hr : rest'.length ≤ rest.length) :
    lex d n (w.toList ++ rest) = (lex d (t.count n) rest').map (t :: ·) := by
  obtain ⟨-, c, cs, hw, hc⟩ := Token.isWord_iff.mp h
  rw [hw, List.cons_append] at ht ⊢
  refine lex_of_next (isWordStart_ne (d := d) hc).1 ((next?_word hc _).trans ht) ?_
  rw [List.length_append]
  omega

theorem lex_call {function : String} (h : PlainName function) (rest : List Char) :
    lex d n (function.toList ++ '(' :: rest) = (lex d n rest).map (.call function :: ·) := by
  obtain ⟨hword, hcap⟩ := h
  have hs := span_of_all (Token.isWord_iff.mp hword).1 ('(' :: rest) (by rintro c ⟨⟩; rfl)
  refine lex_of_word hword ?_ (Nat.le_succ _)
  unfold Token.word?
  rw [hs]
  simp only [if_neg hcap, String.ofList_toList]

theorem words_spelled : ∀ w ∈ Token.words,
    Token.isWord w = true ∧ Token.capitals w.toList = w := by
  decide

/-- A word of the language, before anything that does not run on into it. -/
theorem lex_word {w : String} (h : w ∈ Token.words) {rest : List Char}
    (hr : ∀ c ∈ rest.head?, Token.isWordChar c = false) :
    lex d n (w.toList ++ rest) = (lex d n rest).map (.word w :: ·) := by
  obtain ⟨hword, hcap⟩ := words_spelled w h
  have hs := span_of_all (Token.isWord_iff.mp hword).1 rest hr
  refine lex_of_word hword ?_ le_rfl
  unfold Token.word?
  rw [hs]
  simp only [hcap, if_pos h]

/-! ## Names and texts in quotes -/

/-- What stands behind an expression or a condition: nothing, a blank, a comma or a closing
parenthesis. -/
def Boundary (rest : List Char) : Prop :=
  ∀ c ∈ rest.head?, c = ' ' ∨ c = ',' ∨ c = ')'

theorem nameMark_ne_dot : '.' ≠ d.nameMark := by
  rcases d with _ | _ <;> decide

theorem next?_name (cs : List Char) :
    Token.next? d n (d.nameMark :: cs) = Token.column? d.nameMark cs := by
  rw [Token.next?, if_pos rfl]

theorem toList_enclosed (mark : Char) (s : String) (rest : List Char) :
    (enclosed mark s).toList ++ rest = mark :: (doubled mark s ++ mark :: rest) := by
  unfold enclosed
  simp

theorem lex_enclosed {name : String} {rest rest' : List Char} {t : Token}
    (h : Token.column? d.nameMark (doubled d.nameMark name ++ d.nameMark :: rest) = some (t, rest'))
    (hl : rest'.length ≤ rest.length) :
    lex d n ((d.quote name).toList ++ rest) = (lex d (t.count n) rest').map (t :: ·) := by
  unfold Dialect.quote
  rw [toList_enclosed]
  refine lex_of_next ?_ ((next?_name _).trans h) ?_
  · rcases d with _ | _ <;> decide
  · simp only [List.length_append, List.length_cons]
    omega

theorem lex_name (name : String) {rest : List Char} (hm : ∀ c ∈ rest.head?, c ≠ d.nameMark)
    (hd : ∀ more, rest ≠ '.' :: d.nameMark :: more) :
    lex d n ((d.quote name).toList ++ rest) =
      (lex d n rest).map (.column (.bare name) :: ·) := by
  refine lex_enclosed (t := .column (.bare name)) ?_ le_rfl
  unfold Token.column?
  rw [Token.quotedString_doubled name hm]
  simp only [Option.bind_eq_bind, Option.bind_some]
  split
  · rename_i c more
    rw [if_neg]
    rintro rfl
    exact hd more rfl
  · rfl

theorem lex_names (table name : String) {rest : List Char}
    (hm : ∀ c ∈ rest.head?, c ≠ d.nameMark) :
    lex d n ((d.quote table).toList ++ '.' :: ((d.quote name).toList ++ rest)) =
      (lex d n rest).map (.column (.of table name) :: ·) := by
  refine lex_enclosed (t := .column (.of table name)) ?_ ?_
  · have hdot : ∀ c ∈ ('.' :: ((d.quote name).toList ++ rest)).head?, c ≠ d.nameMark := by
      rintro c ⟨⟩
      exact nameMark_ne_dot
    unfold Token.column?
    rw [Token.quotedString_doubled table hdot, Dialect.quote, toList_enclosed]
    simp only [Option.bind_eq_bind, Option.bind_some, if_pos]
    rw [Token.quotedString_doubled name hm]
    rfl
  · simp only [List.length_append, List.length_cons]
    omega

/-- A text in quotes; in MySQL there must be no backslash in it. -/
theorem lex_literal {s : String} (hs : '\\' ∉ s.toList) {rest : List Char}
    (hr : ∀ c ∈ rest.head?, c ≠ '\'') :
    lex d n ((enclosed '\'' s).toList ++ rest) = (lex d n rest).map (.literal s :: ·) := by
  have hq : '\'' ≠ d.nameMark := by rcases d with _ | _ <;> decide
  rw [toList_enclosed]
  refine lex_of_next (t := .literal s) (by decide) ?_ ?_
  · rw [Token.next?, if_neg hq, if_pos rfl, Token.quotedString_doubled s hr]
    simp [hs]
  · simp only [List.length_append, List.length_cons]
    omega

/-! ## Numbers -/

theorem Boundary.ne {rest : List Char} (h : Boundary rest) {p : Char → Bool} (hb : p ' ' = false)
    (hc : p ',' = false) (hp : p ')' = false) : ∀ c ∈ rest.head?, p c = false := by
  intro c hm
  rcases h c hm with rfl | rfl | rfl
  · exact hb
  · exact hc
  · exact hp

theorem Boundary.not_wordChar {rest : List Char} (h : Boundary rest) :
    ∀ c ∈ rest.head?, Token.isWordChar c = false :=
  h.ne rfl rfl rfl

theorem Boundary.not_continued {rest : List Char} (h : Boundary rest) :
    rest.head?.any (fun c => Token.isWordChar c || c == '.') = false := by
  rcases rest with _ | ⟨c, rest⟩
  · rfl
  · exact h.ne (p := fun c => Token.isWordChar c || c == '.') rfl rfl rfl c rfl

theorem number?_whole {ds rest : List Char} (hd : ∀ c ∈ ds, c.isDigit = true) (hne : ds ≠ [])
    (hr : Boundary rest) :
    Token.number? (ds ++ rest) = some ((Decimal.ofDigits ds : ℚ), rest) := by
  have hs := span_of_all hd rest (hr.ne rfl rfl rfl)
  unfold Token.number?
  rw [hs]
  rcases rest with _ | ⟨c, rest⟩
  · simp [hne]
  · rcases hr c rfl with rfl | rfl | rfl <;> simp [hne, Token.isWordChar]

theorem number?_fraction {ds fs rest : List Char} (hd : ∀ c ∈ ds, c.isDigit = true) (hne : ds ≠ [])
    (hf : ∀ c ∈ fs, c.isDigit = true) (hr : Boundary rest) :
    Token.number? (ds ++ '.' :: (fs ++ rest)) =
      some ((Decimal.ofDigits (ds ++ fs) : ℚ) / 10 ^ fs.length, rest) := by
  have hs := span_of_all hd ('.' :: (fs ++ rest)) (by rintro c ⟨⟩; rfl)
  have hs' := span_of_all hf rest (hr.ne rfl rfl rfl)
  unfold Token.number?
  rw [hs]
  simp only [hs', hne, false_or, hr.not_continued, if_neg Bool.false_ne_true]

/-- A decimal number without its sign is read as its magnitude, wherever the point stands in it. -/
theorem number?_positional (x : Decimal) {rest : List Char} (hr : Boundary rest) :
    Token.number? (x.positional false ++ rest) = some (x.magnitude, rest) := by
  rcases lt_or_ge x.exponent 0 with he | he
  · obtain ⟨whole, fraction, h⟩ := x.exists_pointed he
    rw [h.text, h.magnitude_eq, List.append_assoc, List.cons_append]
    exact number?_fraction h.digits_whole h.ne_nil h.digits_fraction hr
  · obtain ⟨ds, ht, hne, hd, hm⟩ := x.positional_of_nonneg he
    rw [ht, hm]
    exact number?_whole hd hne hr

/-- The tokens of a number and its sign. -/
def signed (negative : Bool) (x : ℚ) : List Token :=
  if negative then [.arith .sub, .number x] else [.number x]

theorem isDigit_ne {c : Char} (h : c.isDigit = true) :
    c ≠ ' ' ∧ c ≠ d.nameMark ∧ c ≠ '\'' := by
  refine ⟨?_, ?_, ?_⟩
  · rintro rfl
    cases h
  · rcases d with _ | _ <;> rintro rfl <;> cases h
  · rintro rfl
    cases h

theorem lex_number {c : Char} {cs rest : List Char} {x : ℚ} (hc : c.isDigit = true)
    (h : Token.number? (c :: cs ++ rest) = some (x, rest)) :
    lex d n (c :: cs ++ rest) = (lex d n rest).map (.number x :: ·) := by
  obtain ⟨hb, hm, hq⟩ := isDigit_ne (d := d) hc
  have hn : Token.next? d n (c :: (cs ++ rest)) = some (.number x, rest) := by
    rw [Token.next?, if_neg hm, if_neg hq, if_pos hc, ← List.cons_append, h]
    rfl
  rw [List.cons_append]
  refine lex_of_next hb hn ?_
  rw [List.length_append]
  omega

theorem lex_signed {cs rest : List Char} {x : ℚ} (negative : Bool)
    (hd : ∀ c ∈ cs.head?, c.isDigit = true) (hne : cs ≠ [])
    (h : Token.number? (cs ++ rest) = some (x, rest)) :
    lex d n ((if negative then ['-'] else []) ++ cs ++ rest) =
      (lex d n rest).map (signed negative x ++ ·) := by
  rcases cs with _ | ⟨c, cs⟩
  · exact absurd rfl hne
  · have hc := hd c rfl
    rcases negative with _ | _
    · exact lex_number hc h
    · have hl := lex_number (d := d) (n := n) hc h
      have hm := lex_minus (d := d) (n := n) hc (cs ++ rest)
      rw [List.cons_append] at hl
      rw [hl, Option.map_map] at hm
      exact hm

theorem lex_integer (m : Int) {rest : List Char} (hr : Boundary rest) :
    lex d n ((Decimal.integer m).toList ++ rest) =
      (lex d n rest).map (signed (m < 0) m.natAbs ++ ·) := by
  have hd : ∀ c ∈ Decimal.digits m.natAbs, c.isDigit = true := fun c =>
    Decimal.isDigit_of_mem_digits
  have hne := Decimal.digits_ne_nil m.natAbs
  have h := number?_whole hd hne hr
  rw [Decimal.ofDigits_digits] at h
  rw [← lex_signed (m < 0) (fun c hc => hd c (List.mem_of_mem_head? hc)) hne h]
  unfold Decimal.integer
  by_cases hm : m < 0 <;> simp [hm]

theorem isNaN_of_isFinite {x : Float} (h : x.isFinite = true) : x.isNaN = false := by
  unfold Float.isFinite Float.Model.isFinite at h
  unfold Float.isNaN Float.Model.isNaN
  cases hu : x.toModel.unpack <;> rw [hu] at h <;> first | rfl | cases h

theorem positional_head (x : Decimal) :
    x.positional false ≠ [] ∧ ∀ c ∈ (x.positional false).head?, c.isDigit = true := by
  rcases lt_or_ge x.exponent 0 with he | he
  · obtain ⟨whole, fraction, h⟩ := x.exists_pointed he
    obtain ⟨c, cs, hc⟩ := List.exists_cons_of_ne_nil h.ne_nil
    have hd : c.isDigit = true := h.digits_whole c (hc ▸ List.mem_cons_self)
    rw [h.text, hc]
    exact ⟨List.cons_ne_nil _ _, by rintro c' ⟨⟩; exact hd⟩
  · obtain ⟨ds, ht, hne, hd, -⟩ := x.positional_of_nonneg he
    rw [ht]
    exact ⟨hne, fun c hc => hd c (List.mem_of_mem_head? hc)⟩

theorem lex_float {x : Float} (hx : x.isFinite = true) {rest : List Char} (hr : Boundary rest) :
    lex d n ((floatText x).toList ++ rest) =
      (lex d n rest).map
        (signed (Decimal.shortest .away x).negative (Decimal.shortest .away x).magnitude ++ ·) := by
  have h := number?_positional (Decimal.shortest .away x) hr
  obtain ⟨hne, hd⟩ := positional_head (Decimal.shortest .away x)
  rw [← lex_signed _ hd hne h]
  unfold floatText Decimal.writeFloat Decimal.write
  rw [isNaN_of_isFinite hx, if_neg Bool.false_ne_true, if_pos hx]
  simp [floatStyle]

theorem lex_placeholder {rest : List Char} (hr : Boundary rest) :
    lex d n ((d.placeholder (n + 1)).toList ++ rest) =
      (lex d (n + 1) rest).map (.placeholder (n + 1) :: ·) := by
  rcases d with _ | _
  · have hn : Token.next? .mysql n ('?' :: rest) = some (.placeholder (n + 1), rest) := rfl
    have hl := lex_of_next (by decide) hn le_rfl
    simpa [Dialect.placeholder, Token.count] using hl
  · have hd : ∀ c ∈ Decimal.digits (n + 1), c.isDigit = true := fun c =>
      Decimal.isDigit_of_mem_digits
    have hs := span_of_all hd rest (hr.ne rfl rfl rfl)
    have hw : rest.head?.any Token.isWordChar = false := by
      rcases rest with _ | ⟨c, rest⟩
      · rfl
      · exact hr.not_wordChar c rfl
    have hp : Token.placeholder? .postgres n '$' (Decimal.digits (n + 1) ++ rest) =
        some (.placeholder (n + 1), rest) := by
      unfold Token.placeholder?
      simp only [hs, hw, Decimal.digits_ne_nil, Decimal.ofDigits_digits]
      rfl
    have hn : Token.next? .postgres n ('$' :: (Decimal.digits (n + 1) ++ rest)) =
        some (.placeholder (n + 1), rest) := by
      rw [Token.next?, if_neg (by decide), if_neg (by decide), if_neg (by decide),
        if_neg (by decide), hp]
      rfl
    have hl := lex_of_next (show '$' ≠ ' ' by decide) hn (by rw [List.length_append]; omega)
    rw [← List.cons_append] at hl
    simpa [Dialect.placeholder, Token.count] using hl

end Sql

end Proximity
