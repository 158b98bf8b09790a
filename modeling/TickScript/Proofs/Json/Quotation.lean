import TickScript.Json.Printer
import TickScript.Json.Reader

/-
  Reading strings and names back.

  Every string survives, because each of its characters is written so that the reader takes it back in
  one step (`readString?_escapeChar`).  A name survives if it needs no escape: a name with one is read as
  the same text, but it is not plain any more.
-/

namespace TickScript.Json

/-! ## Strings -/

theorem hexValue?_digitChar : ∀ d < 16, Text.hexValue? d.digitChar = some d := by decide

theorem readHex4?_hexDigits4 {n : Nat} (h : n < 65536) (rest : List Char) :
    readHex4? (hexDigits4 n ++ rest) = some (n, rest) := by
  have value : ((n / 4096 % 16 * 16 + n / 256 % 16) * 16 + n / 16 % 16) * 16 + n % 16 = n := by omega
  have digit (m : Nat) : Text.hexValue? (m % 16).digitChar = some (m % 16) :=
    hexValue?_digitChar _ (Nat.mod_lt m (by decide))
  simp only [hexDigits4, List.map_cons, List.map_nil, List.cons_append, List.nil_append, readHex4?,
    digit, Option.bind_eq_bind, Option.bind_some, Option.pure_def, value]

theorem readEscape?_control {c : Char} (h : c.toNat < 32) (rest : List Char) :
    readEscape? ('u' :: (hexDigits4 c.toNat ++ rest)) = some (some c, rest) := by
  have high : (decide (0xD800 ≤ c.toNat) && decide (c.toNat ≤ 0xDBFF)) = false := by
    rw [decide_eq_false (by omega)]
    rfl
  have low : (decide (0xDC00 ≤ c.toNat) && decide (c.toNat ≤ 0xDFFF)) = false := by
    rw [decide_eq_false (by omega)]
    rfl
  simp only [readEscape?, readHex4?_hexDigits4 (show c.toNat < 65536 by omega), high, low,
    Option.bind_eq_bind, Option.bind_some, Char.ofNat_toNat]
  rfl

theorem readString?_escaped {bound : Nat} {seen cs rest : List Char} {c : Char}
    (h : readEscape? cs = some (some c, rest)) :
    readString? (bound + 1) (some seen) ('\\' :: cs) = readString? bound (some (c :: seen)) rest := by
  rw [readString?, h]
  rfl

/-- A written character is read as itself, in one step. -/
theorem readString?_escapeChar (bound : Nat) (seen : List Char) (c : Char) (rest : List Char) :
    readString? (bound + 1) (some seen) (escapeChar c ++ rest) =
      readString? bound (some (c :: seen)) rest := by
  unfold escapeChar
  split
  next h => exact readString?_escaped (by rw [h]; rfl)
  next quote =>
  split
  next h => exact readString?_escaped (by rw [h]; rfl)
  next backslash =>
  split
  next h => exact readString?_escaped (by rw [h]; rfl)
  split
  next h => exact readString?_escaped (by rw [h]; rfl)
  split
  next h => exact readString?_escaped (by rw [h]; rfl)
  split
  next h => exact readString?_escaped (by rw [← Char.ofNat_toNat c, h]; rfl)
  split
  next h => exact readString?_escaped (by rw [← Char.ofNat_toNat c, h]; rfl)
  split
  next h => exact readString?_escaped (readEscape?_control h rest)
  next h =>
    show readString? (bound + 1) (some seen) (c :: rest) = _
    rw [readString?, if_neg h]
    · rfl
    · exact quote
    · exact backslash

/-- A string, after its opening quote, is read back in a step for each character and one more. -/
theorem readString?_foldr : ∀ (cs : List Char) {bound : Nat} (seen rest : List Char),
    cs.length < bound →
    readString? bound (some seen) (cs.foldr (fun c k => escapeChar c ++ k) ('"' :: rest)) =
      some (some (String.ofList (seen.reverse ++ cs)), rest)
  | [], bound + 1, seen, rest, _ => by
    rw [List.foldr_nil, readString?, List.append_nil]
    rfl
  | c :: cs, bound + 1, seen, rest, h => by
    rw [List.foldr_cons, readString?_escapeChar,
      readString?_foldr cs (c :: seen) rest (Nat.lt_of_succ_lt_succ h), List.reverse_cons,
      List.append_assoc]
    rfl

theorem readString?_written {s : String} {bound : Nat} (h : s.toList.length < bound)
    (rest : List Char) :
    readString? bound (some []) (s.toList.foldr (fun c k => escapeChar c ++ k) ('"' :: rest)) =
      some (some s, rest) := by
  rw [readString?_foldr _ _ _ h, List.reverse_nil, List.nil_append, String.ofList_toList]

theorem length_escapeChar_pos (c : Char) : 1 ≤ (escapeChar c).length := by
  unfold escapeChar
  repeat' split
  all_goals exact Nat.le_add_left 1 _

/-- The text of a string has at least its characters and two quotes. -/
theorem length_writeString (s : String) (rest : List Char) :
    s.toList.length + 2 + rest.length ≤ (writeString s rest).length := by
  have body : ∀ cs : List Char, cs.length + 1 + rest.length ≤
      (cs.foldr (fun c k => escapeChar c ++ k) ('"' :: rest)).length := by
    intro cs
    induction cs with
    | nil => rw [List.foldr_nil, List.length_cons, List.length_nil]; omega
    | cons c cs ih =>
      have h := length_escapeChar_pos c
      rw [List.foldr_cons, List.length_append, List.length_cons]
      omega
  have h := body s.toList
  rw [writeString, List.length_cons]
  omega

/-! ## Names -/

/-- A name that is written without an escape, and said to be. -/
structure Name.Tidy (name : Name) : Prop where
  plain : name.plain
  verbatim : ∀ c ∈ name.text.toList, escapeChar c = [c]

theorem foldr_escapeChar : ∀ {cs : List Char} (rest : List Char),
    (∀ c ∈ cs, escapeChar c = [c]) →
    cs.foldr (fun c k => escapeChar c ++ k) rest = cs ++ rest
  | [], _, _ => rfl
  | c :: cs, rest, h => by
    obtain ⟨here, there⟩ := List.forall_mem_cons.1 h
    rw [List.foldr_cons, here, foldr_escapeChar rest there]
    rfl

theorem skipBlanks_cons {c : Char} (h : isBlank c = false) (cs : List Char) :
    skipBlanks (c :: cs) = c :: cs :=
  List.dropWhile_cons_of_neg (by rw [h]; nofun)

/-- A name is read back together with its being plain. -/
theorem readName?_written {name : Name} (tidy : name.Tidy) {bound : Nat}
    (h : name.text.toList.length < bound) (rest : List Char) :
    readName? bound (writeString name.text (':' :: rest)) = some (some name, rest) := by
  have unescaped : (((name.text.toList.foldr (fun c k => escapeChar c ++ k)
      ('"' :: ':' :: rest)).takeWhile (· ≠ '"')).contains '\\') = false := by
    have quoteless : ∀ c ∈ name.text.toList, decide (c ≠ '"') = true := by
      intro c hc
      refine decide_eq_true fun quote => ?_
      have verbatim := tidy.verbatim c hc
      rw [quote] at verbatim
      nomatch verbatim
    rw [foldr_escapeChar _ tidy.verbatim, List.takeWhile_append_of_pos quoteless,
      List.takeWhile_cons_of_neg (by decide), List.append_nil, List.contains_eq_mem]
    refine decide_eq_false fun backslash => ?_
    nomatch tidy.verbatim _ backslash
  unfold readName? writeString
  rw [skipBlanks_cons (by decide)]
  simp only [readString?_written h, unescaped, Option.bind_eq_bind, Option.bind_some]
  rw [skipBlanks_cons (by decide)]
  obtain ⟨text, plain⟩ := name
  cases tidy.plain
  rfl

end TickScript.Json
