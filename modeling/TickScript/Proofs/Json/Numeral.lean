import Mathlib.Data.List.TakeDrop
import TickScript.Json.Reader

/-
  Reading numerals back.

  The decimal digits of a number below 2^64 are read as that number, whatever text follows that does not
  go on with the numeral.  Beyond 2^64 this could fail: a long numeral may be larger than all doubles, and
  then it stands for no value.
-/

namespace TickScript.Json

/-! ## Digits -/

theorem span_append {p : Char → Bool} {ds rest : List Char} (all : ∀ c ∈ ds, p c)
    (ends : ∀ c ∈ rest.head?, p c = false) : (ds ++ rest).span p = (ds, rest) := by
  have stop : rest.takeWhile p = [] ∧ rest.dropWhile p = rest := by
    cases rest with
    | nil => exact ⟨rfl, rfl⟩
    | cons c rest =>
      have h := ends c rfl
      exact ⟨List.takeWhile_cons_of_neg (by rw [h]; nofun),
        List.dropWhile_cons_of_neg (by rw [h]; nofun)⟩
  rw [List.span_eq_takeWhile_dropWhile, List.takeWhile_append_of_pos all,
    List.dropWhile_append_of_pos all, stop.1, stop.2, List.append_nil]

/-- The digits of a number. -/
def digits (n : Nat) : List Char := Nat.toDigits 10 n

theorem isDigit_of_mem_digits {n : Nat} {c : Char} (h : c ∈ digits n) : c.isDigit :=
  Nat.isDigit_of_mem_toDigits (by decide) (by decide) h

theorem digitsValue_digits (n : Nat) : Text.digitsValue (digits n) = n := by
  have value : Nat.ofDigitChars 10 (digits n) 0 = n := Nat.ofDigitChars_ten_toDigits
  rw [Nat.ofDigitChars_eq_foldl] at value
  exact value

theorem digits_of_lt {n : Nat} (h : n < 10) : digits n = [n.digitChar] := Nat.toDigits_of_lt_base h

theorem digits_of_le {n : Nat} (h : 10 ≤ n) : digits n = digits (n / 10) ++ [(n % 10).digitChar] :=
  Nat.toDigits_of_base_le (by decide) h

/-- Only zero itself is written with a zero in front. -/
theorem digits_lead (n : Nat) : n = 0 ∨ ∃ d ds, digits n = d :: ds ∧ d ≠ '0' := by
  induction n using Nat.strongRecOn with
  | ind n ih =>
    rcases Nat.lt_or_ge n 10 with small | large
    · have lead : ∀ n < 10, n = 0 ∨ n.digitChar ≠ '0' := by decide
      exact (lead n small).imp_right fun ne => ⟨_, _, digits_of_lt small, ne⟩
    · rcases ih (n / 10) (by omega) with zero | ⟨d, ds, lead, ne⟩
      · omega
      · exact .inr ⟨d, ds ++ [(n % 10).digitChar], by rw [digits_of_le large, lead]; rfl, ne⟩

theorem le_ofDigitChars : ∀ (ds : List Char) (n : Nat), n ≤ Nat.ofDigitChars 10 ds n
  | [], n => Nat.le_of_eq Nat.ofDigitChars_nil.symm
  | d :: ds, n => by
    rw [Nat.ofDigitChars_cons]
    exact Nat.le_trans (by omega) (le_ofDigitChars ds _)

/-- As long as the number stays below 2^64, all its digits count. -/
theorem takeDigits_eq : ∀ (ds : List Char) (n : Nat),
    Nat.ofDigitChars 10 ds n < 18446744073709551616 →
      takeDigits n ds = (Nat.ofDigitChars 10 ds n, [])
  | [], n, _ => by rw [Nat.ofDigitChars_nil, takeDigits]
  | d :: ds, n, h => by
    have next : 10 * n + Text.digitsValue [d] = 10 * n + (d.toNat - '0'.toNat) := by
      simp only [Text.digitsValue, List.foldl_cons, List.foldl_nil]
      omega
    rw [Nat.ofDigitChars_cons] at h ⊢
    rw [takeDigits, next, if_pos (Nat.lt_of_le_of_lt (le_ofDigitChars ds _) h), takeDigits_eq ds _ h]

/-- A number below 2^64 is not too large. -/
theorem isFinite_digits {n : Nat} (h : n < 18446744073709551616) : isFinite (digits n) [] 0 := by
  have value : Nat.ofDigitChars 10 (digits n) 0 = n := Nat.ofDigitChars_ten_toDigits
  have taken : takeDigits 0 (digits n) = (n, []) := by
    rw [takeDigits_eq _ _ (by rw [value]; exact h), value]
  unfold isFinite
  rw [taken]
  dsimp only
  rw [takeDigits, Bool.or_eq_true, Bool.or_eq_true]
  exact .inl (.inr rfl)

/-! ## Numbers -/

/-- A text behind a numeral with which it cannot be confused. -/
def EndsNumeral (rest : List Char) : Prop :=
  ∀ c ∈ rest.head?, c.isDigit = false ∧ c ≠ '.' ∧ c ≠ 'e' ∧ c ≠ 'E'

theorem endsNumeral_nil : EndsNumeral [] := nofun

theorem endsNumeral_comma (rest : List Char) : EndsNumeral (',' :: rest) := by
  rintro c ⟨⟩
  decide

theorem endsNumeral_bracket (rest : List Char) : EndsNumeral (']' :: rest) := by
  rintro c ⟨⟩
  decide

theorem endsNumeral_brace (rest : List Char) : EndsNumeral ('\x7d' :: rest) := by
  rintro c ⟨⟩
  decide

theorem readWhole?_digits (n : Nat) {rest : List Char} (ends : EndsNumeral rest) :
    readWhole? (digits n ++ rest) = some (digits n, rest) := by
  unfold readWhole?
  rw [span_append (fun c => isDigit_of_mem_digits) fun c hc => (ends c hc).1]
  rcases digits_lead n with rfl | ⟨d, ds, lead, ne⟩
  · rfl
  · rw [lead]
    split
    next h => nomatch h
    next h => cases h; exact absurd rfl ne
    next h => cases h; rfl

theorem readFraction?_none {rest : List Char} (ends : EndsNumeral rest) :
    readFraction? rest = some ([], rest) := by
  unfold readFraction?
  split
  · exact absurd rfl (ends _ rfl).2.1
  · rfl

theorem readExponent?_none {rest : List Char} (ends : EndsNumeral rest) :
    readExponent? rest = some ([], rest) := by
  unfold readExponent?
  split
  · exact absurd rfl (ends _ rfl).2.2.1
  · exact absurd rfl (ends _ rfl).2.2.1
  · exact absurd rfl (ends _ rfl).2.2.1
  · exact absurd rfl (ends _ rfl).2.2.2
  · exact absurd rfl (ends _ rfl).2.2.2
  · exact absurd rfl (ends _ rfl).2.2.2
  · rfl

theorem digits_cons (n : Nat) : ∃ d ds, digits n = d :: ds ∧ d.isDigit := by
  cases text : digits n with
  | nil => exact absurd text Nat.toDigits_ne_nil
  | cons d ds => exact ⟨d, ds, rfl, isDigit_of_mem_digits (text ▸ List.mem_cons_self)⟩

theorem readNumber?_digits {n : Nat} (h : n < 18446744073709551616) {rest : List Char}
    (ends : EndsNumeral rest) :
    readNumber? (digits n ++ rest) = some (.int n, rest) := by
  unfold readNumber?
  split
  next negative cs signed =>
    obtain ⟨rfl, rfl⟩ : negative = false ∧ cs = digits n ++ rest := by
      obtain ⟨d, ds, text, digit⟩ := digits_cons n
      rw [text] at signed ⊢
      split at signed
      next minus =>
        cases minus
        nomatch digit
      next =>
        cases signed
        exact ⟨rfl, rfl⟩
    simp only [readWhole?_digits n ends, readFraction?_none ends, readExponent?_none ends,
      Option.bind_eq_bind, Option.bind_some, List.drop_nil, exponentValue, isFinite_digits h,
      digitsValue_digits]
    rfl

theorem readNumber?_neg_digits {n : Nat} (h : n < 18446744073709551616) (ne : n ≠ 0)
    {rest : List Char} (ends : EndsNumeral rest) :
    readNumber? ('-' :: (digits n ++ rest)) = some (.int (-n), rest) := by
  have nonzero : decide (digits n = ['0']) = false := by
    rcases digits_lead n with zero | ⟨d, ds, lead, other⟩
    · exact absurd zero ne
    · rw [lead]
      exact decide_eq_false fun h => other (List.cons.inj h).1
  unfold readNumber?
  simp only [readWhole?_digits n ends, readFraction?_none ends, readExponent?_none ends,
    Option.bind_eq_bind, Option.bind_some, List.drop_nil, exponentValue, isFinite_digits h,
    digitsValue_digits, nonzero]
  rfl

/-- The text of an integer: its digits, after a sign if it is negative. -/
theorem toList_toString (n : Int) :
    (toString n).toList = if n < 0 then '-' :: digits n.natAbs else digits n.natAbs := by
  show n.repr.toList = _
  rw [Int.repr_eq_if]
  by_cases h : 0 ≤ n
  · have size : n.toNat = n.natAbs := by omega
    rw [if_pos h, if_neg (Int.not_lt.2 h), Nat.toList_repr, size]
    rfl
  · have size : (-n).toNat = n.natAbs := by omega
    rw [if_neg h, if_pos (Int.not_le.1 h), String.toList_append, Nat.toList_repr, size]
    rfl

/-- An integer below 2^64 is read as it was written. -/
theorem readNumber?_toString {n : Int} (h : n.natAbs < 18446744073709551616) {rest : List Char}
    (ends : EndsNumeral rest) :
    readNumber? ((toString n).toList ++ rest) = some (.int n, rest) := by
  rw [toList_toString]
  split
  next negative =>
    have value : n = -(n.natAbs : Int) := by omega
    rw [List.cons_append, readNumber?_neg_digits h (by omega) ends, ← value]
  next nonneg =>
    have value : n = (n.natAbs : Int) := by omega
    rw [readNumber?_digits h ends, ← value]

end TickScript.Json
