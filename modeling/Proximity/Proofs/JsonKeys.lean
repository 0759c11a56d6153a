import Proximity.Proofs.Placeholders
import Proximity.Proofs.QuotedNames

/-!
# The key in a JSON column

A key stands in a statement as a literal with its apostrophes doubled. In PostgreSQL nothing else
has a meaning in a literal, so the key is read back whatever it is. In MySQL the literal is a path
with the key between double quotes, and both the literal and the member in it have escapes: a
backslash in the key is taken for one, a double quote ends the member, and a control character may
not stand in it. Reading neither the literal nor the member makes a text longer, and a member that
is as long as its text held none of these (`length_le_of_literalBody?`, `Json.Spells.eq_of_length`).
So on MySQL the keys that are read back are those without backslashes, double quotes and control
characters, and behind a backslash even an apostrophe of the key closes the literal
(`literalBody?_closed_in_key`).
-/

namespace Proximity

namespace Json

/-- A character that stands for itself in a string of JSON. -/
def IsBare (c : Char) : Prop :=
  c ≠ '"' ∧ c ≠ '\\' ∧ 0x20 ≤ c.toNat

instance (c : Char) : Decidable (IsBare c) :=
  inferInstanceAs (Decidable (_ ∧ _ ∧ _))

/-- A text spells a string: each character stands there itself or as an escape of several. -/
inductive Spells : List Char → List Char → Prop where
  | nil : Spells [] []
  | bare {c : Char} {body s : List Char} (hc : IsBare c) (h : Spells body s) :
      Spells (c :: body) (c :: s)
  | escape (c : Char) (signs : List Char) {body s : List Char} (hl : 1 < signs.length)
      (h : Spells body s) : Spells (signs ++ body) (c :: s)

theorem Spells.length_le {body s : List Char} (h : Spells body s) : s.length ≤ body.length := by
  induction h with
  | nil => exact le_rfl
  | bare _ _ ih => exact Nat.succ_le_succ ih
  | escape _ _ hl _ ih =>
    rw [List.length_cons, List.length_append]
    omega

theorem Spells.eq_of_length {body s : List Char} (h : Spells body s)
    (hl : body.length ≤ s.length) : s = body ∧ ∀ c ∈ s, IsBare c := by
  induction h with
  | nil => exact ⟨rfl, fun c hc => nomatch hc⟩
  | bare hc _ ih =>
    obtain ⟨rfl, hs⟩ := ih (Nat.le_of_succ_le_succ hl)
    exact ⟨rfl, List.forall_mem_cons.mpr ⟨hc, hs⟩⟩
  | escape _ _ hl' h _ =>
    have hle := h.length_le
    rw [List.length_cons, List.length_append] at hl
    omega

theorem spells_of_stringBody? {cs s rest : List Char} (h : stringBody? cs = some (s, rest)) :
    ∃ body, cs = body ++ '"' :: rest ∧ Spells body s := by
  fun_induction stringBody? cs generalizing s rest with
  | case1 => cases h
  | case2 =>
    cases h
    exact ⟨[], rfl, .nil⟩
  | case3 a b c d cs ihlow ih =>
    obtain ⟨unit, -, h⟩ := Option.bind_eq_some_iff.mp h
    split_ifs at h with hhigh hlow
    · -- the first half of a pair, which has its second half behind it
      split at h
      · obtain ⟨low, -, h⟩ := Option.bind_eq_some_iff.mp h
        split_ifs at h
        obtain ⟨⟨s', rest'⟩, hs, heq⟩ := Option.bind_eq_some_iff.mp h
        cases heq
        obtain ⟨body, rfl, hb⟩ := ihlow hs
        exact ⟨_, rfl, hb.escape _ ['\\', 'u', a, b, c, d, '\\', 'u', _, _, _, _] (by simp)⟩
      · cases h
    · obtain ⟨⟨s', rest'⟩, hs, heq⟩ := Option.bind_eq_some_iff.mp h
      cases heq
      obtain ⟨body, rfl, hb⟩ := ih hs
      exact ⟨_, rfl, hb.escape _ ['\\', 'u', a, b, c, d] (by simp)⟩
  | case4 c cs _ ih =>
    obtain ⟨c', -, h⟩ := Option.bind_eq_some_iff.mp h
    obtain ⟨⟨s', rest'⟩, hs, heq⟩ := Option.bind_eq_some_iff.mp h
    cases heq
    obtain ⟨body, rfl, hb⟩ := ih hs
    exact ⟨_, rfl, hb.escape _ ['\\', c] (by simp)⟩
  | case5 => cases h
  | case6 c cs hquote _ hback hcontrol ih =>
    obtain ⟨⟨s', rest'⟩, hs, heq⟩ := Option.map_eq_some_iff.mp h
    cases heq
    obtain ⟨body, rfl, hb⟩ := ih hs
    have hne : c ≠ '\\' := by
      intro hc
      rcases body with _ | ⟨c', body⟩
      · exact hback _ _ hc rfl
      · exact hback _ _ hc rfl
    exact ⟨_, rfl, hb.bare ⟨hquote, hne, Nat.le_of_not_lt hcontrol⟩⟩

theorem stringBody?_bare {cs : List Char} (h : ∀ c ∈ cs, IsBare c) (rest : List Char) :
    stringBody? (cs ++ '"' :: rest) = some (cs, rest) := by
  induction cs with
  | nil => simp [stringBody?]
  | cons c cs ih =>
    obtain ⟨⟨hq, hb, hc⟩, hcs⟩ := List.forall_mem_cons.mp h
    have hlt : ¬ c.toNat < 0x20 := by omega
    simp [stringBody?, hb, hlt, ih hcs]

end Json

namespace Sql

variable {d : Dialect}

/-! ## Literals -/

/-- Doubled marks and whatever else stands in a literal are read as the text that they are written
for, as long as it holds no backslashes or they have no meaning. -/
theorem literalBody?_doubled_append {mark : Char} (rest : List Char) :
    ∀ cs : List Char, (d.escapes mark = true → '\\' ∉ cs) →
      d.literalBody? mark ((cs.flatMap fun c => if c = mark then [c, c] else [c]) ++ rest) =
        (d.literalBody? mark rest).map fun (s, rest') => (cs ++ s, rest')
  | [], _ => by simp
  | c :: cs, h => by
    have ih := literalBody?_doubled_append rest cs fun he hc => h he (List.mem_cons_of_mem c hc)
    by_cases hc : c = mark
    · simp [Dialect.literalBody?, hc, ih, Function.comp_def]
    · rw [List.flatMap_cons, if_neg hc, List.singleton_append, List.cons_append,
        Dialect.literalBody?.eq_def]
      simp only [hc, not_escaped h, if_false, Bool.false_eq_true, ih, Option.map_map]
      rfl

theorem literalBody?_mark {mark : Char} {rest : List Char} (h : ∀ c ∈ rest.head?, c ≠ mark) :
    d.literalBody? mark (mark :: rest) = some ([], rest) := by
  rcases rest with _ | ⟨c, rest⟩
  · simp [Dialect.literalBody?]
  · have hc := h c rfl
    simp [Dialect.literalBody?, hc]

theorem unescaped_apostrophe : unescaped '\'' = ['\''] := rfl

theorem length_unescaped (c : Char) : (unescaped c).length ≤ 2 := by
  unfold unescaped
  split <;> simp

/-- Where an apostrophe stands in the text of a literal, it is one of two or behind a backslash. So
what is read is no longer than the text with its apostrophes counted as halves. -/
theorem length_le_of_literalBody? {cs s rest : List Char}
    (h : d.literalBody? '\'' cs = some (s, rest)) :
    ∃ body, cs = body ++ '\'' :: rest ∧ 2 * s.length + body.count '\'' ≤ 2 * body.length := by
  fun_induction Dialect.literalBody? d '\'' cs generalizing s rest with
  | case1 => cases h
  | case2 =>
    cases h
    exact ⟨[], rfl, le_rfl⟩
  | case3 cs ih =>
    obtain ⟨⟨s', rest'⟩, hs, heq⟩ := Option.map_eq_some_iff.mp h
    cases heq
    obtain ⟨body, rfl, hlen⟩ := ih hs
    refine ⟨'\'' :: '\'' :: body, rfl, ?_⟩
    simp only [List.length_cons, List.count_cons_self]
    omega
  | case4 =>
    cases h
    exact ⟨[], rfl, le_rfl⟩
  | case5 => cases h
  | case6 c hne hesc c' cs ih =>
    obtain ⟨⟨s', rest'⟩, hs, heq⟩ := Option.map_eq_some_iff.mp h
    cases heq
    obtain ⟨body, rfl, hlen⟩ := ih hs
    have hlen' := length_unescaped c'
    refine ⟨c :: c' :: body, rfl, ?_⟩
    rw [List.count_cons_of_ne hne]
    by_cases hc' : c' = '\''
    · -- it is not one of two here, but then no more than one character is read for both signs
      subst hc'
      simp only [unescaped_apostrophe, List.singleton_append, List.length_cons,
        List.count_cons_self]
      omega
    · simp only [List.length_append, List.length_cons, List.count_cons_of_ne hc']
      omega
  | case7 c cs hne _ ih =>
    obtain ⟨⟨s', rest'⟩, hs, heq⟩ := Option.map_eq_some_iff.mp h
    cases heq
    obtain ⟨body, rfl, hlen⟩ := ih hs
    refine ⟨c :: body, rfl, ?_⟩
    simp only [List.length_cons, List.count_cons_of_ne hne]
    omega

theorem length_doubled (mark : Char) (s : String) :
    2 * (doubled mark s).length = 2 * s.toList.length + (doubled mark s).count mark := by
  unfold doubled
  induction s.toList with
  | nil => rfl
  | cons c cs ih =>
    rw [List.flatMap_cons, List.length_append, List.length_cons, List.count_append]
    split_ifs with hc
    · subst hc
      simp only [List.length_cons, List.length_nil, List.count_cons_self, List.count_nil]
      omega
    · rw [List.length_singleton, List.count_singleton, if_neg (by simpa using hc)]
      omega

theorem literals_quiet {cs : List Char} (h : Quiet cs) (rest : List Char) :
    d.literals (cs ++ rest) = d.literals rest := by
  induction cs with
  | nil => rfl
  | cons c cs ih =>
    rw [Quiet, List.all_cons, Bool.and_eq_true] at h
    have hmark := isQuoteMark_of_isQuiet (d := d) h.1
    have hname : c ≠ d.nameMark := by
      rintro rfl
      rw [isQuoteMark_nameMark] at hmark
      cases hmark
    rw [List.cons_append, Dialect.literals, if_neg hname, hmark, if_neg Bool.false_ne_true, ih h.2]

theorem literals_name (ident : String) {rest : List Char}
    (h : ∀ c ∈ rest.head?, c ≠ d.nameMark) :
    d.literals ((d.quote ident).toList ++ rest) = d.literals rest := by
  have hread := name?_quote ident h
  rw [Dialect.quote, toList_enclosed] at hread ⊢
  have hlen : rest.length ≤ (doubled d.nameMark ident ++ d.nameMark :: rest).length := by
    simp only [List.length_append, List.length_cons]
    omega
  rw [Dialect.literals, if_pos rfl, hread]
  exact if_pos hlen

theorem literals_column (c : Column) {rest : List Char} (h : ∀ m ∈ rest.head?, m ≠ d.nameMark) :
    d.literals ((c.sql d).toList ++ rest) = d.literals rest := by
  rw [Column.toList_sql, List.append_assoc]
  rcases c with ⟨_ | table, name⟩
  · exact literals_name name h
  · have hdot : ∀ m ∈ ('.' :: ((d.quote name).toList ++ rest)).head?, m ≠ d.nameMark := by
      rintro m ⟨⟩
      exact nameMark_ne_dot
    calc d.literals ((d.quote table).toList ++ '.' :: ((d.quote name).toList ++ rest))
      _ = d.literals (['.'] ++ ((d.quote name).toList ++ rest)) := literals_name table hdot
      _ = d.literals ((d.quote name).toList ++ rest) := literals_quiet (by decide) _
      _ = d.literals rest := literals_name name h

theorem literals_literal (cs : List Char) :
    d.literals ('\'' :: cs) = (d.literalBody? '\'' cs).bind fun (s, rest) =>
      (d.literals rest).map ((String.ofList s, rest) :: ·) := by
  have hname : '\'' ≠ d.nameMark := by rcases d with _ | _ <;> decide
  rw [Dialect.literals, if_neg hname, if_pos isQuoteMark_apostrophe]
  rcases hread : d.literalBody? '\'' cs with _ | ⟨s, rest⟩
  · rfl
  · obtain ⟨body, hcs, -⟩ := length_le_of_literalBody? hread
    have hlen : rest.length ≤ cs.length := by
      simp only [hcs, List.length_append, List.length_cons]
      omega
    exact if_pos hlen

/-! ## Keys -/

/-- What the literal for a key says: in MySQL a path, in PostgreSQL the key. -/
def Dialect.keyText : Dialect → String → String
  | .mysql, key => "$.\"" ++ key ++ "\""
  | .postgres, key => key

/-- What stands behind the literal for a key. -/
def Dialect.behindKey : Dialect → List Char
  | .mysql => [')']
  | .postgres => ") AS DOUBLE PRECISION)".toList

/-- The access to a key holds one literal and is otherwise as it is meant, and the key is what is
looked up for the literal. -/
def KeyRecovered (d : Dialect) (c : Column) (key : String) : Prop :=
  ∃ literal, d.literals (d.extractNumber (c.sql d) key).toList = some [(literal, d.behindKey)] ∧
    d.lookedUp? literal = some key

theorem literals_extractNumber (d : Dialect) (c : Column) (key : String) :
    d.literals (d.extractNumber (c.sql d) key).toList =
      (d.literalBody? '\'' (doubled '\'' (d.keyText key) ++ '\'' :: d.behindKey)).bind
        fun (s, rest) => (d.literals rest).map ((String.ofList s, rest) :: ·) := by
  rcases d with _ | _
  · have hcomma (rest : List Char) : ∀ m ∈ (", ".toList ++ rest).head?,
        m ≠ Dialect.mysql.nameMark := by
      rintro m ⟨⟩
      decide
    rw [extractNumber_mysql]
    simp only [String.toList_append, List.append_assoc]
    rw [literals_quiet, literals_column c (hcomma _), literals_quiet, toList_enclosed,
      literals_literal]
    · rfl
    · decide
    · decide
  · have harrow (rest : List Char) : ∀ m ∈ ("->>".toList ++ rest).head?,
        m ≠ Dialect.postgres.nameMark := by
      rintro m ⟨⟩
      decide
    rw [extractNumber_postgres]
    simp only [String.toList_append, List.append_assoc]
    rw [literals_quiet, literals_column c (harrow _), literals_quiet, toList_enclosed,
      literals_literal]
    · rfl
    · decide
    · decide

theorem literals_behindKey : d.literals d.behindKey = some [] := by
  have hquiet : Quiet d.behindKey := by rcases d with _ | _ <;> decide
  rw [← List.append_nil d.behindKey, literals_quiet hquiet, Dialect.literals]

theorem keyRecovered_iff_read {c : Column} {key : String} :
    KeyRecovered d c key ↔ ∃ s,
      d.literalBody? '\'' (doubled '\'' (d.keyText key) ++ '\'' :: d.behindKey) =
        some (s, d.behindKey) ∧ d.lookedUp? (String.ofList s) = some key := by
  rw [KeyRecovered, literals_extractNumber]
  constructor
  · -- the literal that is read first is the only one, so it is the one with the key
    rintro ⟨literal, hlit, hkey⟩
    obtain ⟨⟨s, rest⟩, hread, hmap⟩ := Option.bind_eq_some_iff.mp hlit
    obtain ⟨ls, -, hls⟩ := Option.map_eq_some_iff.mp hmap
    obtain ⟨rfl, rfl⟩ := Prod.mk.inj (List.cons.inj hls).1
    exact ⟨s, hread, hkey⟩
  · rintro ⟨s, hread, hkey⟩
    refine ⟨String.ofList s, ?_, hkey⟩
    rw [hread, Option.bind_some]
    exact Option.map_eq_some_iff.mpr ⟨[], literals_behindKey, rfl⟩

theorem literalBody?_keyText (key : String) (h : d = .mysql → '\\' ∉ key.toList) :
    d.literalBody? '\'' (doubled '\'' (d.keyText key) ++ '\'' :: d.behindKey) =
      some ((d.keyText key).toList, d.behindKey) := by
  have hrest : ∀ m ∈ d.behindKey.head?, m ≠ '\'' := by
    rcases d with _ | _ <;> rintro m ⟨⟩ <;> decide
  have hkey : d.escapes '\'' = true → '\\' ∉ (d.keyText key).toList := by
    intro he
    rcases d with _ | _
    · simpa [Dialect.keyText] using h rfl
    · simp [Dialect.escapes] at he
  rw [doubled, literalBody?_doubled_append _ _ hkey, literalBody?_mark hrest, Option.map_some]
  simp only [List.append_nil]

/-- An apostrophe behind a backslash is written twice like any other, and in MySQL the second of the
two closes the literal. The rest of the key then stands in the statement outside of it. -/
theorem literalBody?_closed_in_key (before behind : String) (hbefore : '\\' ∉ before.toList)
    (hbehind : ∀ c ∈ behind.toList.head?, c ≠ '\'') :
    Dialect.mysql.literalBody? '\''
        (doubled '\'' (Dialect.mysql.keyText (before ++ "\\'" ++ behind)) ++
          '\'' :: Dialect.mysql.behindKey) =
      some (("$.\"" ++ before ++ "'").toList,
        doubled '\'' (behind ++ "\"") ++ '\'' :: Dialect.mysql.behindKey) := by
  set rest := doubled '\'' (behind ++ "\"") ++ '\'' :: Dialect.mysql.behindKey with hrest
  have htext : doubled '\'' (Dialect.mysql.keyText (before ++ "\\'" ++ behind)) ++
      '\'' :: Dialect.mysql.behindKey =
        doubled '\'' ("$.\"" ++ before) ++ '\\' :: '\'' :: '\'' :: rest := by
    simp [hrest, doubled, Dialect.keyText]
  have hclosed : ∀ c ∈ rest.head?, c ≠ '\'' := by
    rcases hcs : behind.toList with _ | ⟨c, cs⟩
    · simp [hrest, doubled, hcs]
    · have hc : c ≠ '\'' := hbehind c (by simp [hcs])
      simp [hrest, doubled, hcs, hc]
  have hslash : Dialect.mysql.literalBody? '\'' ('\\' :: '\'' :: '\'' :: rest) =
      (Dialect.mysql.literalBody? '\'' ('\'' :: rest)).map fun (s, rest) => ('\'' :: s, rest) := by
    rfl
  rw [htext, doubled, literalBody?_doubled_append _ _ fun _ => by simpa using hbefore, hslash,
    literalBody?_mark hclosed]
  simp

theorem pathMember?_bare {key : String} (h : ∀ c ∈ key.toList, Json.IsBare c) :
    pathMember? (Dialect.mysql.keyText key).toList = some key := by
  have hread := Json.stringBody?_bare h []
  simp [Dialect.keyText, pathMember?, Json.quoted?, hread]

theorem spells_of_pathMember? {cs : List Char} {member : String}
    (h : pathMember? cs = some member) :
    ∃ body, cs = '$' :: '.' :: '"' :: (body ++ ['"']) ∧ Json.Spells body member.toList := by
  unfold pathMember? at h
  split at h
  · split at h
    · rename_i cs _ _ hread
      cases h
      unfold Json.quoted? at hread
      split at hread
      · obtain ⟨⟨s, rest⟩, hs, heq⟩ := Option.map_eq_some_iff.mp hread
        cases heq
        obtain ⟨body, rfl, hb⟩ := Json.spells_of_stringBody? hs
        exact ⟨body, rfl, by rwa [String.toList_ofList]⟩
      · cases hread
    · cases h
  · cases h

theorem length_keyText_mysql (key : String) :
    (Dialect.mysql.keyText key).toList.length = key.toList.length + 4 := by
  simp [Dialect.keyText]

theorem bare_of_keyRecovered {c : Column} {key : String} (h : KeyRecovered .mysql c key) :
    ∀ ch ∈ key.toList, Json.IsBare ch := by
  obtain ⟨s, hread, hkey⟩ := keyRecovered_iff_read.mp h
  obtain ⟨text, htext, hlen⟩ := length_le_of_literalBody? hread
  obtain ⟨rfl, -⟩ : doubled '\'' (Dialect.mysql.keyText key) = text ∧ _ :=
    List.append_inj' htext rfl
  obtain ⟨body, hs, hspells⟩ := spells_of_pathMember? hkey
  have hdoubled := length_doubled '\'' (Dialect.mysql.keyText key)
  have hs' : s.length = body.length + 4 := by
    simpa using congrArg List.length hs
  rw [length_keyText_mysql] at hdoubled
  -- the key, read back, is as long as what is written for it in the path
  exact (hspells.eq_of_length (by omega)).2

theorem keyRecovered_of_bare {c : Column} {key : String}
    (h : d = .mysql → ∀ ch ∈ key.toList, Json.IsBare ch) : KeyRecovered d c key := by
  have hslash : d = .mysql → '\\' ∉ key.toList := fun hd hmem => (h hd '\\' hmem).2.1 rfl
  refine keyRecovered_iff_read.mpr ⟨_, literalBody?_keyText key hslash, ?_⟩
  rw [String.ofList_toList]
  rcases d with _ | _
  · exact pathMember?_bare (h rfl)
  · rfl

/-- In the access to a key there is one literal, which is closed by the mark written for it, unless
MySQL finds a backslash in it. What is looked up for the literal is the key in PostgreSQL, and in
MySQL just if each of its characters stands for itself in a string of JSON. -/
theorem keyRecovered_iff_bare (d : Dialect) (c : Column) (key : String) :
    ((d = .mysql → '\\' ∉ key.toList) →
      d.literals (d.extractNumber (c.sql d) key).toList = some [(d.keyText key, d.behindKey)]) ∧
    (KeyRecovered d c key ↔ (d = .mysql → ∀ ch ∈ key.toList, Json.IsBare ch)) := by
  refine ⟨fun h => ?_, ⟨fun h hd => ?_, keyRecovered_of_bare⟩⟩
  · rw [literals_extractNumber, literalBody?_keyText key h, Option.bind_some]
    simp only [String.ofList_toList]
    exact Option.map_eq_some_iff.mpr ⟨[], literals_behindKey, rfl⟩
  · subst hd
    exact bare_of_keyRecovered h

/-- An apostrophe does no harm in MySQL. -/
theorem keyRecovered_iff_bare_apostrophe :
    let key := "it's"
    let c := Column.of "elements_sites" "content"
    (Dialect.mysql = .mysql → '\\' ∉ key.toList) ∧
      Dialect.mysql.literals (Dialect.mysql.extractNumber (c.sql .mysql) key).toList =
        some [("$.\"it's\"", [')'])] ∧
      KeyRecovered .mysql c key := by
  intro key c
  obtain ⟨hliteral, hkey⟩ := keyRecovered_iff_bare .mysql c key
  have hslash : Dialect.mysql = .mysql → '\\' ∉ key.toList := fun _ => by decide
  have hbare : ∀ ch ∈ key.toList, Json.IsBare ch := by simp [key, Json.IsBare]
  exact ⟨hslash, hliteral hslash, hkey.mpr fun _ => hbare⟩

/-- Behind a backslash the apostrophe of a key closes the literal in MySQL, and the mark behind the
path opens another one that nothing closes. -/
theorem not_keyRecovered_backslash :
    let key := "\\'"
    let c := Column.of "elements_sites" "content"
    Dialect.mysql.literals (Dialect.mysql.extractNumber (c.sql .mysql) key).toList = none ∧
      ¬ KeyRecovered .mysql c key := by
  intro key c
  have hread := literalBody?_closed_in_key "" "" (by decide) (by rintro c ⟨⟩)
  have hrest : doubled '\'' ("" ++ "\"") ++ '\'' :: Dialect.mysql.behindKey = ['"', '\'', ')'] := by
    decide
  have hopen : Dialect.mysql.literalBody? '"' ['\'', ')'] = none := by decide
  have hnone : Dialect.mysql.literals (Dialect.mysql.extractNumber (c.sql .mysql) key).toList =
      none := by
    rw [show key = "" ++ "\\'" ++ "" by decide, literals_extractNumber, hread, hrest,
      Option.bind_some]
    simp [Dialect.literals, hopen, Dialect.nameMark, Dialect.isQuoteMark]
  refine ⟨hnone, ?_⟩
  rintro ⟨literal, hliteral, -⟩
  rw [hnone] at hliteral
  cases hliteral

end Sql

end Proximity
