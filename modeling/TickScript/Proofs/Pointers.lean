import Mathlib.Data.List.TakeWhile
import TickScript.Pointers
import TickScript.Proofs.Json.Forms

/-
  The text of a set of pointers.

  Every one of the 2^32 sets is read back from its text (`ofText?_text`).  The names in the text stand for
  the known bits of the set, because each of them stands for one bit, which the set either has or has not;
  the number at the end stands for the others.  The blanks around the bars are trimmed off the parts.
-/

namespace TickScript

/-! ## Parts between marks -/

namespace Text

theorem splitAt_of_not_mem {mark : Char} : ∀ {cs : List Char}, mark ∉ cs → splitAt mark cs = [cs]
  | [], _ => rfl
  | c :: cs, h => by
    have rest : splitAt mark cs = [cs] := splitAt_of_not_mem fun there => h (.tail c there)
    have other : c ≠ mark := fun here => h (here ▸ List.mem_cons_self)
    unfold splitAt at rest ⊢
    rw [List.foldr_cons, rest, if_neg other]

theorem splitAt_append {mark : Char} {rest : List Char} : ∀ {cs : List Char}, mark ∉ cs →
    splitAt mark (cs ++ mark :: rest) = cs :: splitAt mark rest
  | [], _ => by
    unfold splitAt
    rw [List.nil_append, List.foldr_cons, if_pos rfl]
  | c :: cs, h => by
    have more := @splitAt_append mark rest cs fun there => h (.tail c there)
    have other : c ≠ mark := fun here => h (here ▸ List.mem_cons_self)
    unfold splitAt at more ⊢
    rw [List.cons_append, List.foldr_cons, more, if_neg other]

/-! ## Blanks -/

/-- A word: some characters, and no blank among them. -/
structure IsWord (cs : List Char) : Prop where
  ne_nil : cs ≠ []
  solid : ∀ c ∈ cs, isBlank c = false

theorem IsWord.reverse {cs : List Char} (word : IsWord cs) : IsWord cs.reverse where
  ne_nil h := word.ne_nil (List.reverse_eq_nil_iff.1 h)
  solid c hc := word.solid c (List.mem_reverse.1 hc)

theorem IsWord.dropWhile_append {cs : List Char} (word : IsWord cs) (lead rest : List Char)
    (blank : ∀ c ∈ lead, isBlank c) :
    (lead ++ (cs ++ rest)).dropWhile isBlank = cs ++ rest := by
  rw [List.dropWhile_append_of_pos blank]
  cases cs with
  | nil => exact absurd rfl word.ne_nil
  | cons c cs =>
    have solid := word.solid c List.mem_cons_self
    rw [List.cons_append, List.dropWhile_cons_of_neg (by rw [solid]; nofun)]

/-- Blanks around a word are trimmed off. -/
theorem IsWord.trim {cs : List Char} (word : IsWord cs) (lead tail : List Char)
    (before : ∀ c ∈ lead, isBlank c) (after : ∀ c ∈ tail, isBlank c) :
    trim (lead ++ (cs ++ tail)) = cs := by
  have back := word.reverse.dropWhile_append tail.reverse []
    fun c hc => after c (List.mem_reverse.1 hc)
  unfold Text.trim
  rw [word.dropWhile_append lead tail before, List.reverse_append]
  rw [List.append_nil] at back
  rw [back, List.reverse_reverse]

/-- What is trimmed to nothing has no character that is not blank. -/
theorem isBlank_of_trim_eq_nil {cs : List Char} (h : trim cs = []) : ∀ c ∈ cs, isBlank c := by
  unfold trim at h
  have all := List.dropWhile_eq_nil_iff.1 (List.reverse_eq_nil_iff.1 h)
  have front : cs.dropWhile isBlank = [] := by
    cases rest : cs.dropWhile isBlank with
    | nil => rfl
    | cons c more =>
      have solid := List.head?_dropWhile_not isBlank cs
      rw [rest] at solid
      have blank := all c (by rw [rest]; exact List.mem_reverse.2 List.mem_cons_self)
      exact absurd blank (by rw [solid]; nofun)
  exact List.dropWhile_eq_nil_iff.1 front

/-! ## Hexadecimal numerals -/

theorem mem_toDigits_sixteen {c : Char} {n : Nat} (h : c ∈ Nat.toDigits 16 n) :
    ∃ d < 16, c = Nat.digitChar d := by
  induction n using Nat.strongRecOn with
  | ind n ih =>
    rcases Nat.lt_or_ge n 16 with small | large
    · rw [Nat.toDigits_of_lt_base small] at h
      exact ⟨n, small, List.mem_singleton.1 h⟩
    · rw [Nat.toDigits_of_base_le (by decide) large] at h
      rcases List.mem_append.1 h with more | last
      · exact ih (n / 16) (by omega) more
      · exact ⟨n % 16, Nat.mod_lt n (by decide), List.mem_singleton.1 last⟩

theorem foldlM_hexValue?_toDigits (n : Nat) :
    (Nat.toDigits 16 n).foldlM (fun n d => (hexValue? d).map (16 * n + ·)) 0 = some n := by
  induction n using Nat.strongRecOn with
  | ind n ih =>
    rcases Nat.lt_or_ge n 16 with small | large
    · rw [Nat.toDigits_of_lt_base small, List.foldlM_cons, Json.hexValue?_digitChar n small]
      simp
    · have value : 16 * (n / 16) + n % 16 = n := Nat.div_add_mod n 16
      rw [Nat.toDigits_of_base_le (by decide) large, List.foldlM_append, ih (n / 16) (by omega)]
      simp [Json.hexValue?_digitChar _ (Nat.mod_lt n (by decide)), value]

/-- A hexadecimal numeral is read back. -/
theorem readHex?_toDigits (n : Nat) : readHex? (Nat.toDigits 16 n) = some n := by
  cases text : Nat.toDigits 16 n with
  | nil => exact absurd text Nat.toDigits_ne_nil
  | cons c cs =>
    have digit : c ∈ Nat.toDigits 16 n := text ▸ List.mem_cons_self
    have unsigned : c ≠ '+' := by
      obtain ⟨d, small, rfl⟩ := mem_toDigits_sixteen digit
      have all : ∀ d < 16, Nat.digitChar d ≠ '+' := by decide
      exact all d small
    have value := foldlM_hexValue?_toDigits n
    rw [text] at value
    unfold readHex?
    split
    next h => exact absurd (List.cons.inj h).1 unsigned
    next => exact value

end Text

namespace Pointers

open Text (IsWord)

/-! ## Words between bars -/

theorem ofPart?_of_trim {part word : List Char} (isWord : IsWord word) (h : Text.trim part = word) :
    ofPart? part = ofPart? word := by
  have trimmed : Text.trim word = word := by
    have bare := isWord.trim [] [] nofun nofun
    rwa [List.nil_append, List.append_nil] at bare
  unfold ofPart?
  rw [h, trimmed]

/-- The parts between the bars of a joined text are read like the words that were joined; a blank may
    stand before the first. -/
theorem mapM_splitAt_intercalate : ∀ (words : List (List Char)) (lead : List Char), words ≠ [] →
    (∀ word ∈ words, IsWord word ∧ '|' ∉ word) → (∀ c ∈ lead, c = ' ') →
    (Text.splitAt '|' (lead ++ [' ', '|', ' '].intercalate words)).mapM ofPart? = words.mapM ofPart?
  | [], _, ne, _, _ => absurd rfl ne
  | [word], lead, _, words, spaces => by
    obtain ⟨isWord, bare⟩ := words word List.mem_cons_self
    have blank : ∀ c ∈ lead, Text.isBlank c := fun c hc => by rw [spaces c hc]; rfl
    have noBar : '|' ∉ lead ++ word := fun h => by
      rcases List.mem_append.1 h with h | h
      · nomatch spaces _ h
      · exact bare h
    have trimmed := isWord.trim lead [] blank nofun
    rw [List.append_nil] at trimmed
    rw [List.intercalate_singleton, Text.splitAt_of_not_mem noBar, List.mapM_cons, List.mapM_cons,
      ofPart?_of_trim isWord trimmed]
  | word :: next :: rest, lead, _, words, spaces => by
    obtain ⟨isWord, bare⟩ := words word List.mem_cons_self
    have blank : ∀ c ∈ lead, Text.isBlank c := fun c hc => by rw [spaces c hc]; rfl
    have noBar : '|' ∉ lead ++ (word ++ [' ']) := fun h => by
      rcases List.mem_append.1 h with h | h
      · nomatch spaces _ h
      · rcases List.mem_append.1 h with h | h
        · exact bare h
        · nomatch h
    have trimmed := isWord.trim lead [' '] blank (by simp [Text.isBlank])
    have more := mapM_splitAt_intercalate (next :: rest) [' '] nofun
      (fun w hw => words w (List.mem_cons_of_mem word hw)) (by simp)
    have cut : lead ++ [' ', '|', ' '].intercalate (word :: next :: rest) =
        (lead ++ (word ++ [' '])) ++ '|' :: ([' '] ++ [' ', '|', ' '].intercalate (next :: rest)) := by
      simp [List.intercalate_cons_cons]
    rw [cut, Text.splitAt_append noBar, List.mapM_cons, List.mapM_cons, more,
      ofPart?_of_trim isWord trimmed]

/-! ## The parts of a set -/

/-- Every name stands for its set. -/
theorem ofPart?_named : ∀ entry ∈ named, ofPart? entry.1.toList = some entry.2 := by
  decide

/-- Every name is a word without a bar. -/
theorem isWord_named : ∀ entry ∈ named, IsWord entry.1.toList ∧ '|' ∉ entry.1.toList := by
  have all : ∀ entry ∈ named, entry.1.toList ≠ [] ∧
      (entry.1.toList.all fun c => !Text.isBlank c) ∧ '|' ∉ entry.1.toList := by
    decide
  intro entry h
  obtain ⟨ne, solid, bare⟩ := all entry h
  exact ⟨⟨ne, fun c hc => by simpa using List.all_eq_true.1 solid c hc⟩, bare⟩

theorem toList_hexNumeral (n : Nat) :
    ("0x" ++ Text.hexNumeral n).toList = '0' :: 'x' :: Nat.toDigits 16 n := by
  rw [String.toList_append, Text.hexNumeral]
  exact congrArg _ String.toList_ofList

/-- A hexadecimal numeral is a word without a bar. -/
theorem solid_hexNumeral {n : Nat} {c : Char} (h : c ∈ ("0x" ++ Text.hexNumeral n).toList) :
    Text.isBlank c = false ∧ c ≠ '|' := by
  rw [toList_hexNumeral] at h
  rcases List.mem_cons.1 h with rfl | h
  · decide
  rcases List.mem_cons.1 h with rfl | h
  · decide
  · obtain ⟨d, small, rfl⟩ := Text.mem_toDigits_sixteen h
    have all : ∀ d < 16, Text.isBlank (Nat.digitChar d) = false ∧ Nat.digitChar d ≠ '|' := by decide
    exact all d small

theorem ofPart?_hexNumeral (bits : UInt32) :
    ofPart? ("0x" ++ Text.hexNumeral bits.toNat).toList = some ⟨bits⟩ := by
  have isWord : IsWord ("0x" ++ Text.hexNumeral bits.toNat).toList :=
    ⟨by rw [toList_hexNumeral]; nofun, fun c hc => (solid_hexNumeral hc).1⟩
  have trimmed := isWord.trim [] [] nofun nofun
  rw [List.nil_append, List.append_nil] at trimmed
  unfold ofPart?
  rw [trimmed, toList_hexNumeral]
  show (Text.readHex? (Nat.toDigits 16 bits.toNat)).bind
    (fun n => if n < 4294967296 then some (⟨UInt32.ofNat n⟩ : Pointers) else failure) = _
  rw [Text.readHex?_toDigits, Option.bind_some, if_pos bits.toNat_lt, UInt32.ofNat_toNat]

/-- The sets that the parts of a set stand for. -/
def sets (p : Pointers) : List Pointers :=
  (named.filter (fun entry => p.includes entry.2)).map (·.2) ++
    if (p.without known).bits = 0 then [] else [p.without known]

theorem mapM_names : ∀ {entries : List (String × Pointers)},
    (∀ entry ∈ entries, ofPart? entry.1.toList = some entry.2) →
    ((entries.map (·.1)).map String.toList).mapM ofPart? = some (entries.map (·.2))
  | [], _ => rfl
  | entry :: entries, h => by
    obtain ⟨here, there⟩ := List.forall_mem_cons.1 h
    rw [List.map_cons, List.map_cons, List.mapM_cons, here, mapM_names there]
    rfl

/-- The parts of a set are read as its sets. -/
theorem mapM_parts (p : Pointers) : (p.parts.map String.toList).mapM ofPart? = some p.sets := by
  have names := mapM_names fun entry (h : entry ∈ named.filter (fun entry => p.includes entry.2)) =>
    ofPart?_named entry (List.mem_filter.1 h).1
  unfold parts sets
  dsimp only
  rw [List.map_append, List.mapM_append, names]
  split
  next => rfl
  next =>
    rw [List.map_singleton, List.mapM_cons, ofPart?_hexNumeral]
    rfl

/-- The parts of a set are words without a bar. -/
theorem isWord_parts (p : Pointers) : ∀ word ∈ p.parts.map String.toList,
    IsWord word ∧ '|' ∉ word := by
  intro word h
  obtain ⟨part, hp, rfl⟩ := List.mem_map.1 h
  unfold parts at hp
  rcases List.mem_append.1 hp with hp | hp
  · obtain ⟨entry, kept, rfl⟩ := List.mem_map.1 hp
    exact isWord_named entry (List.mem_filter.1 kept).1
  · split at hp
    next => nomatch hp
    next =>
      cases List.mem_singleton.1 hp
      exact ⟨⟨by rw [toList_hexNumeral]; nofun, fun c hc => (solid_hexNumeral hc).1⟩,
        fun bar => (solid_hexNumeral bar).2 rfl⟩

/-! ## The bits of a set -/

theorem and_or_distrib (a b c : UInt32) : a &&& (b ||| c) = (a &&& b) ||| (a &&& c) :=
  UInt32.toBitVec_inj.1 BitVec.and_or_distrib_left

/-- A named set has one bit, which another set has or has not. -/
theorem and_named (p : Pointers) : ∀ entry ∈ named,
    p.bits &&& entry.2.bits = entry.2.bits ∨ p.bits &&& entry.2.bits = 0 := by
  intro entry h
  have single : ∀ entry ∈ named, ∃ i < 32, entry.2.bits.toBitVec = BitVec.twoPow 32 i := by decide
  obtain ⟨i, -, one⟩ := single entry h
  have cases := BitVec.and_twoPow p.bits.toBitVec i
  rw [← one] at cases
  split at cases
  · exact .inl (UInt32.toBitVec_inj.1 cases)
  · exact .inr (UInt32.toBitVec_inj.1 cases)

/-- The named sets that a set includes make up its share of them all. -/
theorem foldl_union_filter (p : Pointers) : ∀ {entries : List (String × Pointers)} (q : Pointers),
    (∀ entry ∈ entries, p.bits &&& entry.2.bits = entry.2.bits ∨ p.bits &&& entry.2.bits = 0) →
    ((entries.filter (fun entry => p.includes entry.2)).map (·.2)).foldl union ⟨p.bits &&& q.bits⟩ =
      ⟨p.bits &&& (entries.foldl (fun q entry => q.union entry.2) q).bits⟩
  | [], _, _ => rfl
  | entry :: entries, q, h => by
    obtain ⟨here, there⟩ := List.forall_mem_cons.1 h
    have rest := foldl_union_filter p (q.union entry.2) there
    rw [List.foldl_cons, ← rest]
    have share : p.bits &&& (q.union entry.2).bits = p.bits &&& q.bits ||| p.bits &&& entry.2.bits :=
      and_or_distrib _ _ _
    cases has : p.includes entry.2 with
    | true =>
      have all : p.bits &&& entry.2.bits = entry.2.bits := of_decide_eq_true has
      simp only [List.filter_cons, has, if_true, List.map_cons, List.foldl_cons, share, all]
      rfl
    | false =>
      have none : p.bits &&& entry.2.bits = 0 := here.resolve_left (of_decide_eq_false has)
      simp only [List.filter_cons, has, Bool.false_eq_true, if_false, share, none, UInt32.or_zero]

/-- A set is made up of its sets. -/
theorem foldl_union_sets (p : Pointers) : p.sets.foldl union none = p := by
  have zero : (⟨p.bits &&& none.bits⟩ : Pointers) = none := congrArg mk UInt32.and_zero
  have names := foldl_union_filter p none p.and_named
  rw [zero] at names
  have whole : p.bits &&& known.bits ||| p.bits &&& ~~~known.bits = p.bits := by
    rw [← and_or_distrib, UInt32.or_not_self]
    exact UInt32.and_neg_one
  unfold sets
  rw [List.foldl_append, names]
  split
  next unknown =>
    have unknown : p.bits &&& ~~~known.bits = 0 := unknown
    rw [unknown, UInt32.or_zero] at whole
    exact congrArg mk whole
  next => exact congrArg mk whole

/-- Every set is read back from its text. -/
theorem ofText?_text (p : Pointers) : ofText? p.text = some p := by
  have text : p.text.toList = [' ', '|', ' '].intercalate (p.parts.map String.toList) :=
    String.toList_intercalate
  have whole := p.foldl_union_sets
  have read := p.mapM_parts
  have isWord := p.isWord_parts
  unfold ofText?
  rw [text]
  cases words : p.parts.map String.toList with
  | nil =>
    rw [words] at read
    have empty : p.sets = [] := (Option.some.inj read).symm
    rw [empty] at whole
    exact congrArg some whole
  | cons word rest =>
    rw [words] at read isWord
    have joined := mapM_splitAt_intercalate (word :: rest) [] nofun isWord nofun
    rw [List.nil_append, read] at joined
    have visible : Text.trim ([' ', '|', ' '].intercalate (word :: rest)) ≠ [] := by
      intro nothing
      obtain ⟨c, cs, rfl⟩ := List.exists_cons_of_ne_nil (isWord word List.mem_cons_self).1.ne_nil
      have solid := (isWord (c :: cs) List.mem_cons_self).1.solid c List.mem_cons_self
      have first : c ∈ [' ', '|', ' '].intercalate ((c :: cs) :: rest) := by
        rw [List.intercalate_cons_cons_left]
        exact List.mem_cons_self
      exact absurd (Text.isBlank_of_trim_eq_nil nothing c first) (by rw [solid]; nofun)
    rw [if_neg (by rwa [List.isEmpty_iff]), joined]
    exact congrArg some whole

end Pointers

instance : LawfulForm Pointers where
  levels := 0
  ofJson?_toJson p := Pointers.ofText?_text p
  tidy p := .str p.text

end TickScript
