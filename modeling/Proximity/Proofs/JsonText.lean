import Proximity.Json.Parser
import Proximity.Json.Printer
import Proximity.Proofs.DecimalText
import Proximity.Proofs.Lexing

/-!
# Where the text of a value ends

A string in quotes is read back as it was written, whatever stands behind it. So one can tell from
a text where the value that it begins with ends, as long as a comma or a closing bracket follows,
and the parts of an array and the fields of an object can be told apart (`chars_append_inj`).
-/

namespace Proximity

namespace Json

theorem hexUnit?_hexByte : ∀ n < 0x20,
    hexUnit? '0' '0' (Nat.digitChar (n / 16)) (Nat.digitChar (n % 16)) = some n := by
  decide

/-- A character is taken off the text that it is written as. -/
theorem stringBody?_escapeChar (c : Char) (cs : List Char) :
    stringBody? (escapeChar c ++ cs) = (stringBody? cs).map fun (s, rest) => (c :: s, rest) := by
  unfold escapeChar
  split_ifs with h₁ h₂ h₃ h₄ h₅ h₆ h₇ h₈
  iterate 7
    · subst_vars
      rcases h : stringBody? cs with _ | ⟨s, rest⟩ <;> simp [stringBody?, unescape?, h]
  · -- a control character by its number, which is half of no surrogate pair
    have hu := hexUnit?_hexByte c.toNat h₈
    have hl : ¬ (0xD800 ≤ c.toNat ∧ c.toNat < 0xDC00) := by omega
    have hh : ¬ (0xDC00 ≤ c.toNat ∧ c.toNat < 0xE000) := by omega
    rcases h : stringBody? cs with _ | ⟨s, rest⟩ <;>
      simp [stringBody?, hexByte, hu, hl, hh, h]
  · rcases h : stringBody? cs with _ | ⟨s, rest⟩ <;> simp [stringBody?, h₂, h₈, h]

theorem stringBody?_escaped (cs rest : List Char) :
    stringBody? (cs.flatMap escapeChar ++ '"' :: rest) = some (cs, rest) := by
  induction cs with
  | nil => simp [stringBody?]
  | cons c cs ih => rw [List.flatMap_cons, List.append_assoc, stringBody?_escapeChar, ih]; rfl

theorem quoted?_quote (s : String) (rest : List Char) :
    quoted? (quote s ++ rest) = some (s, rest) := by
  have h := stringBody?_escaped s.toList rest
  simp [quote, quoted?, h]

theorem quote_append_inj {s s' : String} {r r' : List Char} (h : quote s ++ r = quote s' ++ r') :
    s = s' ∧ r = r' := by
  have hq := quoted?_quote s r
  rw [h, quoted?_quote, Option.some.injEq, Prod.mk.injEq] at hq
  exact ⟨hq.1.symm, hq.2.symm⟩

/-- A value ends before a comma, before a closing bracket and at the end of the text. -/
def Ends (rest : List Char) : Prop :=
  ∀ c ∈ rest.head?, c = ',' ∨ c = ']' ∨ c = '\x7d'

theorem ends_comma (cs : List Char) : Ends (',' :: cs) := by
  rintro c ⟨⟩
  exact .inl rfl

theorem ends_array (cs : List Char) : Ends (']' :: cs) := by
  rintro c ⟨⟩
  exact .inr (.inl rfl)

theorem ends_object (cs : List Char) : Ends ('\x7d' :: cs) := by
  rintro c ⟨⟩
  exact .inr (.inr rfl)

theorem inNumber_of_mem_number (n : Number) : ∀ c ∈ n.text.toList, Decimal.inNumber c = true := by
  rcases n with n | ⟨x, hx⟩
  · exact fun c => Decimal.inNumber_of_mem_integer
  · exact fun c => Decimal.inNumber_of_mem_writeFloat

/-- A value is written like a number, or begins with a quote or a bracket. -/
theorem chars_cases (v : Json) :
    (∀ c ∈ chars v, Decimal.inNumber c = true) ∨ (∃ s, v = .string s) ∨
      (∃ items, v = .array items) ∨ ∃ fields, v = .object fields := by
  rcases v with _ | b | n | s | items | fields
  · exact .inl (List.all_eq_true.mp (by decide))
  · cases b <;> exact .inl (List.all_eq_true.mp (by decide))
  · exact .inl (inNumber_of_mem_number n)
  · exact .inr (.inl ⟨s, rfl⟩)
  · exact .inr (.inr (.inl ⟨items, rfl⟩))
  · exact .inr (.inr (.inr ⟨fields, rfl⟩))

theorem chars_ne_nil (v : Json) : chars v ≠ [] := by
  rcases v with _ | b | n | s | items | fields
  · decide
  · cases b <;> decide
  · rcases n with n | ⟨x, hx⟩
    · exact Decimal.integer_ne_nil n
    · exact Decimal.writeFloat_ne_nil numberStyle .even x
  · exact List.cons_ne_nil _ _
  · exact List.cons_ne_nil _ _
  · exact List.cons_ne_nil _ _

/-- No value begins with what a value ends before. -/
theorem not_ends_chars (v : Json) (r : List Char) : ¬ Ends (chars v ++ r) := by
  intro h
  obtain ⟨c, cs, hv⟩ := List.exists_cons_of_ne_nil (chars_ne_nil v)
  have hc := h c (by rw [hv]; rfl)
  rcases chars_cases v with hn | ⟨s, rfl⟩ | ⟨items, rfl⟩ | ⟨fields, rfl⟩
  · have := hn c (by rw [hv]; exact List.mem_cons_self)
    rcases hc with rfl | rfl | rfl <;> cases this
  all_goals
    cases hv
    revert hc
    decide

theorem Ends.not_inNumber {rest : List Char} (h : Ends rest) :
    ∀ c ∈ rest.head?, Decimal.inNumber c = false := by
  intro c hc
  rcases h c hc with rfl | rfl | rfl <;> rfl

theorem number_append_inj {ds ds' r r' : List Char} (hd : ∀ c ∈ ds, Decimal.inNumber c = true)
    (hd' : ∀ c ∈ ds', Decimal.inNumber c = true) (hr : Ends r) (hr' : Ends r')
    (h : ds ++ r = ds' ++ r') : ds = ds' ∧ r = r' := by
  have hs := Sql.span_of_all hd r hr.not_inNumber
  rw [h, Sql.span_of_all hd' r' hr'.not_inNumber, Prod.mk.injEq] at hs
  exact ⟨hs.1.symm, hs.2.symm⟩

/-- What is written like a number is not what begins with a quote or a bracket. -/
theorem number_append_ne {ds r cs : List Char} {c : Char}
    (hd : ∀ c ∈ ds, Decimal.inNumber c = true) (hr : Ends r) (hc : c = '"' ∨ c = '[' ∨ c = '\x7b') :
    ds ++ r ≠ c :: cs := by
  intro h
  have hn : Decimal.inNumber c = false := by rcases hc with rfl | rfl | rfl <;> rfl
  rcases ds with _ | ⟨d, ds⟩
  · have := hr c (by rw [← List.nil_append r, h]; rfl)
    rcases hc with rfl | rfl | rfl <;> revert this <;> decide
  · rw [List.cons_append, List.cons.injEq] at h
    have := hd d List.mem_cons_self
    rw [h.1, hn] at this
    cases this

theorem number_chars_append_inj {ds : List Char} (hd : ∀ c ∈ ds, Decimal.inNumber c = true)
    (v' : Json) {r r' : List Char} (hr : Ends r) (hr' : Ends r') (h : ds ++ r = chars v' ++ r') :
    ds = chars v' ∧ r = r' := by
  rcases chars_cases v' with hn | ⟨s, rfl⟩ | ⟨items, rfl⟩ | ⟨fields, rfl⟩
  · exact number_append_inj hd hn hr hr' h
  · exact absurd h (number_append_ne hd hr (.inl rfl))
  · exact absurd h (number_append_ne hd hr (.inr (.inl rfl)))
  · exact absurd h (number_append_ne hd hr (.inr (.inr rfl)))

/-- What stands behind a part: the parts that follow it, or what follows all of them. -/
def behind (parts : List (List Char)) (rest : List Char) : List Char :=
  if parts = [] then rest else ',' :: (commaSeparated parts ++ rest)

theorem commaSeparated_cons (x : List Char) (xs : List (List Char)) (rest : List Char) :
    commaSeparated (x :: xs) ++ rest = x ++ behind xs rest := by
  rcases xs with _ | ⟨y, ys⟩ <;> simp [commaSeparated, behind]

theorem ends_behind (xs : List (List Char)) {rest : List Char} (h : Ends rest) :
    Ends (behind xs rest) := by
  unfold behind
  split_ifs
  · exact h
  · exact ends_comma _

/-- Behind a part either both texts go on with a further part or both end. -/
theorem behind_inj {xs xs' : List (List Char)} {c : Char} {r r' : List Char} (hc : c ≠ ',')
    (h : behind xs (c :: r) = behind xs' (c :: r')) :
    (xs = [] ∧ xs' = [] ∧ r = r') ∨
      commaSeparated xs ++ c :: r = commaSeparated xs' ++ c :: r' := by
  unfold behind at h
  split_ifs at h with h₁ h₂ h₂
  · exact .inl ⟨h₁, h₂, (List.cons.inj h).2⟩
  · exact absurd (List.cons.inj h).1 hc
  · exact absurd (List.cons.inj h).1.symm hc
  · exact .inr (List.cons.inj h).2

mutual

/-- It can be told from a text where the value that it begins with ends. -/
theorem chars_append_inj : ∀ (v v' : Json) {r r' : List Char}, Ends r → Ends r' →
    chars v ++ r = chars v' ++ r' → chars v = chars v' ∧ r = r'
  | .string s, v', r, r', hr, hr', h => by
    -- the first character tells what kind the other value is of
    rcases chars_cases v' with hn | ⟨s', rfl⟩ | ⟨items, rfl⟩ | ⟨fields, rfl⟩
    · exact absurd h.symm (number_append_ne hn hr' (.inl rfl))
    · obtain ⟨rfl, hrr⟩ := quote_append_inj h
      exact ⟨rfl, hrr⟩
    · exact absurd (List.cons.inj h).1 (by decide)
    · exact absurd (List.cons.inj h).1 (by decide)
  | .array items, v', r, r', hr, hr', h => by
    rcases chars_cases v' with hn | ⟨s', rfl⟩ | ⟨items', rfl⟩ | ⟨fields, rfl⟩
    · exact absurd h.symm (number_append_ne hn hr' (.inr (.inl rfl)))
    · exact absurd (List.cons.inj h).1 (by decide)
    · have hi := (List.cons.inj h).2
      simp only [List.append_eq, List.append_assoc, List.singleton_append] at hi
      obtain ⟨hi, hrr⟩ := itemChars_append_inj items items' hi
      exact ⟨by rw [chars, chars, hi], hrr⟩
    · exact absurd (List.cons.inj h).1 (by decide)
  | .object fields, v', r, r', hr, hr', h => by
    rcases chars_cases v' with hn | ⟨s', rfl⟩ | ⟨items, rfl⟩ | ⟨fields', rfl⟩
    · exact absurd h.symm (number_append_ne hn hr' (.inr (.inr rfl)))
    · exact absurd (List.cons.inj h).1 (by decide)
    · exact absurd (List.cons.inj h).1 (by decide)
    · have hi := (List.cons.inj h).2
      simp only [List.append_eq, List.append_assoc, List.singleton_append] at hi
      obtain ⟨hi, hrr⟩ := fieldChars_append_inj fields fields' hi
      exact ⟨by rw [chars, chars, hi], hrr⟩
  | .null, v', r, r', hr, hr', h =>
    number_chars_append_inj (List.all_eq_true.mp (by decide)) v' hr hr' h
  | .bool true, v', r, r', hr, hr', h =>
    number_chars_append_inj (List.all_eq_true.mp (by decide)) v' hr hr' h
  | .bool false, v', r, r', hr, hr', h =>
    number_chars_append_inj (List.all_eq_true.mp (by decide)) v' hr hr' h
  | .number n, v', r, r', hr, hr', h =>
    number_chars_append_inj (inNumber_of_mem_number n) v' hr hr' h

theorem itemChars_append_inj : ∀ (vs vs' : List Json) {r r' : List Char},
    commaSeparated (itemChars vs) ++ ']' :: r = commaSeparated (itemChars vs') ++ ']' :: r' →
      itemChars vs = itemChars vs' ∧ r = r'
  | [], [], r, r', h => ⟨rfl, (List.cons.inj h).2⟩
  | [], v' :: vs', r, r', h => by
    rw [itemChars, itemChars, commaSeparated_cons] at h
    have he : Ends (commaSeparated [] ++ ']' :: r) := ends_array r
    rw [h] at he
    exact absurd he (not_ends_chars v' _)
  | v :: vs, [], r, r', h => by
    rw [itemChars, itemChars, commaSeparated_cons] at h
    have he : Ends (commaSeparated [] ++ ']' :: r') := ends_array r'
    rw [← h] at he
    exact absurd he (not_ends_chars v _)
  | v :: vs, v' :: vs', r, r', h => by
    rw [itemChars, itemChars, commaSeparated_cons, commaSeparated_cons] at h
    obtain ⟨hv, hb⟩ := chars_append_inj v v' (ends_behind _ (ends_array r))
      (ends_behind _ (ends_array r')) h
    rcases behind_inj (by decide) hb with ⟨hn, hn', hr⟩ | hb
    · exact ⟨by rw [itemChars, itemChars, hv, hn, hn'], hr⟩
    · obtain ⟨hvs, hr⟩ := itemChars_append_inj vs vs' hb
      exact ⟨by rw [itemChars, itemChars, hv, hvs], hr⟩

theorem fieldChars_append_inj : ∀ (fs fs' : List (String × Json)) {r r' : List Char},
    commaSeparated (fieldChars fs) ++ '\x7d' :: r =
        commaSeparated (fieldChars fs') ++ '\x7d' :: r' →
      fieldChars fs = fieldChars fs' ∧ r = r'
  | [], [], r, r', h => ⟨rfl, (List.cons.inj h).2⟩
  | [], (k', v') :: fs', r, r', h => by
    rw [fieldChars, fieldChars, commaSeparated_cons] at h
    exact absurd (List.cons.inj h).1 (by decide)
  | (k, v) :: fs, [], r, r', h => by
    rw [fieldChars, fieldChars, commaSeparated_cons] at h
    exact absurd (List.cons.inj h).1 (by decide)
  | (k, v) :: fs, (k', v') :: fs', r, r', h => by
    rw [fieldChars, fieldChars, commaSeparated_cons, commaSeparated_cons, List.append_assoc,
      List.append_assoc] at h
    obtain ⟨rfl, hk⟩ := quote_append_inj h
    obtain ⟨hv, hb⟩ := chars_append_inj v v' (ends_behind _ (ends_object r))
      (ends_behind _ (ends_object r')) (List.cons.inj hk).2
    rcases behind_inj (by decide) hb with ⟨hn, hn', hr⟩ | hb
    · exact ⟨by rw [fieldChars, fieldChars, hv, hn, hn'], hr⟩
    · obtain ⟨hfs, hr⟩ := fieldChars_append_inj fs fs' hb
      exact ⟨by rw [fieldChars, fieldChars, hv, hfs], hr⟩

end

end Json

end Proximity
