import TickScript.Proofs.Json.Numeral
import TickScript.Proofs.Json.Quotation

/-
  Reading back what was written.

  Not every JSON value has a text that is read as the same value: what is unfit has no text at all, a
  numeral could be anything, a number of twenty digits may be too large, and a name with an escape is not
  plain any more.  The values without such parts are TIDY, and what is written for a tidy value is read
  as that value, whatever text follows (`Tidy.reads`).

  The steps of a reader are bounded.  Each proof here asks for no more of them than the text of the value
  is long; to say how long that is without cutting the text off what follows, one compares the two:
  `(v.write rest).length ≤ bound + rest.length`.
-/

namespace TickScript.Json

/-! ## First characters -/

/-- What a text begins with that a value can be read from: no blank, and no bracket that closes. -/
def Leads (c : Char) : Prop := isBlank c = false ∧ c ≠ ']'

/-- The first character of a numeral is none that another value begins with. -/
structure LeadsNumeral (c : Char) : Prop where
  leads : Leads c
  ne_word : c ≠ 'n' ∧ c ≠ 't' ∧ c ≠ 'f'
  ne_quote : c ≠ '"'
  ne_opening : c ≠ '[' ∧ c ≠ '\x7b'

theorem leadsNumeral_minus : LeadsNumeral '-' := by
  refine ⟨⟨?_, ?_⟩, ?_, ?_, ?_⟩ <;> decide

theorem leadsNumeral_of_isDigit {c : Char} (h : c.isDigit) : LeadsNumeral c := by
  have ne {d : Char} (hd : d.isDigit = false) : c ≠ d := by
    rintro rfl
    nomatch hd.symm.trans h
  refine ⟨⟨?_, ne (by decide)⟩, ⟨ne (by decide), ne (by decide), ne (by decide)⟩, ne (by decide),
    ne (by decide), ne (by decide)⟩
  refine Bool.eq_false_iff.2 fun blank => ?_
  simp only [isBlank, Bool.or_eq_true, decide_eq_true_eq] at blank
  rcases blank with ((blank | blank) | blank) | blank <;> exact ne (by decide) blank

/-- The text of an integer begins with its sign or with a digit. -/
theorem toString_leads (n : Int) : ∃ c cs, (toString n).toList = c :: cs ∧ LeadsNumeral c := by
  rw [toList_toString]
  split
  · exact ⟨_, _, rfl, leadsNumeral_minus⟩
  · obtain ⟨d, ds, text, digit⟩ := digits_cons n.natAbs
    exact ⟨d, ds, text, leadsNumeral_of_isDigit digit⟩

/-! ## Tidy values -/

/-- `v.Tidy levels`: nothing in the value is changed by writing and reading, and its arrays and objects
    are nested to no more than so many levels. -/
inductive Tidy : Nat → Json → Prop where
  | null {levels : Nat} : Tidy levels .null
  | bool {levels : Nat} (b : Bool) : Tidy levels (.bool b)
  | int {levels : Nat} {n : Int} : n.natAbs < 18446744073709551616 → Tidy levels (.int n)
  | str {levels : Nat} (s : String) : Tidy levels (.str s)
  | arr {levels : Nat} {items : List Json} :
      (∀ v ∈ items, Tidy levels v) → Tidy (levels + 1) (.arr items)
  | obj {levels : Nat} {members : List (Name × Json)} :
      (∀ m ∈ members, m.1.Tidy) → (∀ m ∈ members, Tidy levels m.2) → Tidy (levels + 1) (.obj members)

namespace Tidy

variable {levels : Nat} {v : Json}

theorem mono {more : Nat} (tidy : v.Tidy levels) (h : levels ≤ more) : v.Tidy more := by
  induction tidy generalizing more with
  | null => exact .null
  | bool b => exact .bool b
  | int small => exact .int small
  | str s => exact .str s
  | arr _ ih =>
    obtain ⟨more, rfl⟩ := Nat.exists_eq_add_of_lt h
    exact .arr fun v hv => ih v hv (by omega)
  | obj names _ ih =>
    obtain ⟨more, rfl⟩ := Nat.exists_eq_add_of_lt h
    exact .obj names fun m hm => ih m hm (by omega)

theorem itemsFit_of : ∀ {items : List Json}, (∀ v ∈ items, v.isFit) → itemsFit items
  | [], _ => rfl
  | v :: vs, h => by
    obtain ⟨here, there⟩ := List.forall_mem_cons.1 h
    rw [itemsFit, here, itemsFit_of there]
    rfl

theorem membersFit_of : ∀ {members : List (Name × Json)}, (∀ m ∈ members, m.2.isFit) →
    membersFit members
  | [], _ => rfl
  | (_, v) :: ms, h => by
    obtain ⟨here, there⟩ := List.forall_mem_cons.1 h
    rw [membersFit, here, membersFit_of there]
    rfl

/-- A tidy value has no unfit part. -/
theorem isFit (tidy : v.Tidy levels) : v.isFit := by
  induction tidy with
  | null => rfl
  | bool b => rfl
  | int small => rfl
  | str s => rfl
  | arr _ ih => rw [Json.isFit, itemsFit_of ih]
  | obj _ _ ih => rw [Json.isFit, membersFit_of ih]

/-- As many levels as a tidy value may have leave it as it is. -/
theorem upToDepth (tidy : v.Tidy levels) : v.upToDepth levels = v := by
  induction tidy with
  | @null levels => cases levels <;> rfl
  | @bool levels b => cases levels <;> rfl
  | @int levels n small => cases levels <;> rfl
  | @str levels s => cases levels <;> rfl
  | @arr levels items _ ih =>
    rw [Json.upToDepth, List.map_congr_left ih, List.map_id']
  | @obj levels members _ _ ih =>
    have same : ∀ m ∈ members, (m.1, m.2.upToDepth levels) = m := fun m hm => by rw [ih m hm]
    rw [Json.upToDepth, List.map_congr_left same, List.map_id']

end Tidy

/-! ## Lengths -/

/-- How long the text of a value is at least; only a numeral could be no text at all. -/
def leastLength : Json → Nat
  | .decimal _ => 0
  | _ => 1

mutual

theorem length_le_write : ∀ (v : Json) (rest : List Char),
    rest.length + v.leastLength ≤ (v.write rest).length
  | .null, rest | .unfit, rest | .bool true, rest | .bool false, rest | .arr [], rest
  | .obj [], rest => by
    simp only [leastLength, write, List.length_cons]
    omega
  | .int n, rest => by
    obtain ⟨c, cs, text, -⟩ := toString_leads n
    simp only [leastLength, write, text, List.length_append, List.length_cons]
    omega
  | .decimal numeral, rest => by
    rw [write, List.length_append]
    exact Nat.le_add_left _ _
  | .str s, rest => by
    have h := length_writeString s rest
    rw [leastLength, write]
    · omega
    · nofun
  | .arr (v :: vs), rest => by
    have h := length_le_write v (writeItems vs (']' :: rest))
    have t := length_le_writeItems vs (']' :: rest)
    simp only [leastLength, write, List.length_cons] at t ⊢
    omega
  | .obj ((name, v) :: ms), rest => by
    have n := length_writeString name.text (':' :: write v (writeMembers ms ('\x7d' :: rest)))
    have h := length_le_write v (writeMembers ms ('\x7d' :: rest))
    have t := length_le_writeMembers ms ('\x7d' :: rest)
    simp only [leastLength, write, List.length_cons] at n t ⊢
    omega

theorem length_le_writeItems : ∀ (vs : List Json) (rest : List Char),
    rest.length ≤ (writeItems vs rest).length
  | [], rest => Nat.le_refl rest.length
  | v :: vs, rest => by
    have h := length_le_write v (writeItems vs rest)
    have t := length_le_writeItems vs rest
    rw [writeItems, List.length_cons]
    omega

theorem length_le_writeMembers : ∀ (ms : List (Name × Json)) (rest : List Char),
    rest.length ≤ (writeMembers ms rest).length
  | [], rest => Nat.le_refl rest.length
  | (name, v) :: ms, rest => by
    have n := length_writeString name.text (':' :: write v (writeMembers ms rest))
    have h := length_le_write v (writeMembers ms rest)
    have t := length_le_writeMembers ms rest
    rw [List.length_cons] at n
    rw [writeMembers, List.length_cons]
    omega

end

theorem Tidy.leads {levels : Nat} {v : Json} (tidy : v.Tidy levels) (rest : List Char) :
    ∃ c cs, v.write rest = c :: cs ∧ Leads c := by
  cases tidy with
  | null => refine ⟨_, _, rfl, ?_, ?_⟩ <;> decide
  | bool b => cases b <;> refine ⟨_, _, rfl, ?_, ?_⟩ <;> decide
  | @int _ n _ =>
    obtain ⟨c, cs, text, lead⟩ := toString_leads n
    exact ⟨c, cs ++ rest, by rw [write, text]; rfl, lead.leads⟩
  | str s => refine ⟨_, _, rfl, ?_, ?_⟩ <;> decide
  | @arr _ items _ => cases items <;> refine ⟨_, _, rfl, ?_, ?_⟩ <;> decide
  | @obj _ members _ _ => cases members <;> refine ⟨_, _, rfl, ?_, ?_⟩ <;> decide

theorem Tidy.length_lt_write {levels : Nat} {v : Json} (tidy : v.Tidy levels) (rest : List Char) :
    rest.length < (v.write rest).length := by
  have least : v.leastLength = 1 := by cases tidy <;> rfl
  have h := length_le_write v rest
  omega

/-! ## Steps of the reader -/

section Steps

variable {bound : Nat} {cs rest : List Char} {v : Json}

theorem readItems?_comma {seen : List Json} (h : readValue? bound cs = some (v, ',' :: rest)) :
    readItems? (bound + 1) seen cs = readItems? bound (v :: seen) rest := by
  rw [readItems?, h]
  dsimp only
  rw [skipBlanks_cons (by decide)]
  rfl

theorem readItems?_bracket {seen : List Json} (h : readValue? bound cs = some (v, ']' :: rest)) :
    readItems? (bound + 1) seen cs = some (.arr (v :: seen).reverse, rest) := by
  rw [readItems?, h]
  dsimp only
  rw [skipBlanks_cons (by decide)]
  rfl

theorem readMembers?_comma {seen : List (Name × Json)} {name : Name} {value : List Char}
    (named : readName? bound cs = some (some name, value))
    (h : readValue? bound value = some (v, ',' :: rest)) :
    readMembers? (bound + 1) (some seen) cs = readMembers? bound (some ((name, v) :: seen)) rest := by
  rw [readMembers?, named]
  dsimp only
  rw [h]
  dsimp only
  rw [skipBlanks_cons (by decide)]
  rfl

theorem readMembers?_brace {seen : List (Name × Json)} {name : Name} {value : List Char}
    (named : readName? bound cs = some (some name, value))
    (h : readValue? bound value = some (v, '\x7d' :: rest)) :
    readMembers? (bound + 1) (some seen) cs = some (.obj ((name, v) :: seen).reverse, rest) := by
  rw [readMembers?, named]
  dsimp only
  rw [h]
  dsimp only
  rw [skipBlanks_cons (by decide)]
  rfl

theorem readValue?_numeral {c : Char} (lead : LeadsNumeral c) :
    readValue? (bound + 1) (c :: cs) = readNumber? (c :: cs) := by
  rw [readValue?, skipBlanks_cons lead.leads.1]
  split
  next h => exact absurd (List.cons.inj h).1 lead.ne_word.1
  next h => exact absurd (List.cons.inj h).1 lead.ne_word.2.1
  next h => exact absurd (List.cons.inj h).1 lead.ne_word.2.2
  next h => exact absurd (List.cons.inj h).1 lead.ne_quote
  next h => exact absurd (List.cons.inj h).1 lead.ne_opening.1
  next h => exact absurd (List.cons.inj h).1 lead.ne_opening.2
  next => rfl

theorem readValue?_quote {s : String} (h : readString? bound (some []) cs = some (some s, rest)) :
    readValue? (bound + 1) ('"' :: cs) = some (.str s, rest) := by
  rw [readValue?, skipBlanks_cons (by decide)]
  simp only [h]

theorem readValue?_bracket {c : Char} (lead : Leads c) :
    readValue? (bound + 1) ('[' :: c :: cs) = readItems? bound [] (c :: cs) := by
  rw [readValue?, skipBlanks_cons (by decide)]
  simp only [skipBlanks_cons lead.1]
  split
  next h => exact absurd (List.cons.inj h).1 lead.2
  next => rfl

theorem readValue?_brace :
    readValue? (bound + 1) ('\x7b' :: '"' :: cs) = readMembers? bound (some []) ('"' :: cs) := by
  rw [readValue?, skipBlanks_cons (by decide)]
  simp only [skipBlanks_cons (show isBlank '"' = false by decide)]
  rfl

end Steps

/-! ## Values -/

/-- `Reads v`: the value is read from its text, whatever follows. -/
def Reads (v : Json) : Prop :=
  ∀ {bound : Nat} {rest : List Char}, EndsNumeral rest →
    (v.write rest).length ≤ bound + rest.length → readValue? bound (v.write rest) = some (v, rest)

/-- The text of a tidy value has a character, so a step of the reader is there for it. -/
theorem reads_of_tidy {levels : Nat} {v : Json} (tidy : v.Tidy levels)
    (h : ∀ {bound : Nat} {rest : List Char}, EndsNumeral rest →
      (v.write rest).length ≤ bound + 1 + rest.length →
        readValue? (bound + 1) (v.write rest) = some (v, rest)) : Reads v := by
  intro bound rest ends room
  cases bound with
  | zero =>
    have longer := tidy.length_lt_write rest
    omega
  | succ bound => exact h ends room

theorem reads_int {n : Int} (h : n.natAbs < 18446744073709551616) : Reads (.int n) := by
  refine @reads_of_tidy 0 _ (.int h) fun {bound rest} ends _ => ?_
  obtain ⟨c, cs, text, lead⟩ := toString_leads n
  have number := readNumber?_toString h ends
  rw [text, List.cons_append] at number
  rw [write, text, List.cons_append, readValue?_numeral lead, number]

theorem reads_str (s : String) : Reads (.str s) := by
  refine @reads_of_tidy 0 _ (.str s) fun {bound rest} _ room => ?_
  have size := length_writeString s rest
  rw [write] at room ⊢
  exact readValue?_quote (readString?_written (by omega) rest)

theorem readItems?_written : ∀ (vs : List Json) (v : Json) {bound : Nat} (seen : List Json)
    (rest : List Char), (∀ w ∈ v :: vs, Reads w) →
    (v.write (writeItems vs (']' :: rest))).length ≤ bound + rest.length →
    readItems? bound seen (v.write (writeItems vs (']' :: rest))) =
      some (.arr (seen.reverse ++ v :: vs), rest)
  | vs, v, 0, seen, rest, _, room => by
    have h := length_le_write v (writeItems vs (']' :: rest))
    have t := length_le_writeItems vs (']' :: rest)
    rw [List.length_cons] at t
    omega
  | [], v, bound + 1, seen, rest, reads, room => by
    have here : Reads v := reads v List.mem_cons_self
    rw [writeItems] at room ⊢
    rw [readItems?_bracket (here (endsNumeral_bracket rest) (by rw [List.length_cons]; omega)),
      List.reverse_cons]
  | w :: ws, v, bound + 1, seen, rest, reads, room => by
    have here : Reads v := reads v List.mem_cons_self
    have h := length_le_write v (writeItems (w :: ws) (']' :: rest))
    have t := length_le_writeItems ws (']' :: rest)
    have more := length_le_write w (writeItems ws (']' :: rest))
    rw [writeItems, List.length_cons] at h
    rw [List.length_cons] at t
    rw [writeItems] at room ⊢
    rw [readItems?_comma (here (endsNumeral_comma _) (by rw [List.length_cons]; omega)),
      readItems?_written ws w (v :: seen) rest (fun u hu => reads u (List.mem_cons_of_mem v hu))
        (by omega),
      List.reverse_cons, List.append_assoc]
    rfl

theorem reads_arr {items : List Json} {levels : Nat} (tidy : ∀ v ∈ items, v.Tidy levels)
    (reads : ∀ v ∈ items, Reads v) : Reads (.arr items) := by
  refine reads_of_tidy (.arr tidy) fun {bound rest} _ room => ?_
  cases items with
  | nil => rfl
  | cons v vs =>
    rw [write] at room ⊢
    rw [List.length_cons] at room
    obtain ⟨c, cs, text, lead⟩ := (tidy v List.mem_cons_self).leads (writeItems vs (']' :: rest))
    have items := @readItems?_written vs v bound [] rest reads (by omega)
    rw [text] at items ⊢
    rw [readValue?_bracket lead, items]
    rfl

theorem readMembers?_written : ∀ (ms : List (Name × Json)) (name : Name) (v : Json) {bound : Nat}
    (seen : List (Name × Json)) (rest : List Char), (∀ m ∈ (name, v) :: ms, m.1.Tidy) →
    (∀ m ∈ (name, v) :: ms, Reads m.2) →
    (writeString name.text (':' :: v.write (writeMembers ms ('\x7d' :: rest)))).length ≤
      bound + rest.length →
    readMembers? bound (some seen)
        (writeString name.text (':' :: v.write (writeMembers ms ('\x7d' :: rest)))) =
      some (.obj (seen.reverse ++ (name, v) :: ms), rest)
  | ms, name, v, 0, seen, rest, _, _, room => by
    have n := length_writeString name.text (':' :: v.write (writeMembers ms ('\x7d' :: rest)))
    have h := length_le_write v (writeMembers ms ('\x7d' :: rest))
    have t := length_le_writeMembers ms ('\x7d' :: rest)
    rw [List.length_cons] at n t
    omega
  | [], name, v, bound + 1, seen, rest, names, reads, room => by
    have here : Reads v := reads (name, v) List.mem_cons_self
    have n := length_writeString name.text (':' :: v.write (writeMembers [] ('\x7d' :: rest)))
    have h := length_le_write v (writeMembers [] ('\x7d' :: rest))
    rw [List.length_cons] at n
    rw [writeMembers] at h n room ⊢
    rw [List.length_cons] at h
    have named := @readName?_written name (names _ List.mem_cons_self) bound (by omega)
      (v.write ('\x7d' :: rest))
    rw [readMembers?_brace named (here (endsNumeral_brace rest) (by rw [List.length_cons]; omega)),
      List.reverse_cons]
  | (other, w) :: ms, name, v, bound + 1, seen, rest, names, reads, room => by
    have here : Reads v := reads (name, v) List.mem_cons_self
    have n := length_writeString name.text
      (':' :: v.write (writeMembers ((other, w) :: ms) ('\x7d' :: rest)))
    have h := length_le_write v (writeMembers ((other, w) :: ms) ('\x7d' :: rest))
    have t := length_le_writeMembers ((other, w) :: ms) ('\x7d' :: rest)
    rw [List.length_cons] at n t
    rw [writeMembers] at h n t room ⊢
    rw [List.length_cons] at h t
    have named := @readName?_written name (names _ List.mem_cons_self) bound (by omega)
      (v.write (',' :: writeString other.text (':' :: w.write (writeMembers ms ('\x7d' :: rest)))))
    rw [readMembers?_comma named (here (endsNumeral_comma _) (by rw [List.length_cons]; omega)),
      readMembers?_written ms other w ((name, v) :: seen) rest
        (fun m hm => names m (List.mem_cons_of_mem _ hm))
        (fun m hm => reads m (List.mem_cons_of_mem _ hm)) (by omega),
      List.reverse_cons, List.append_assoc]
    rfl

theorem reads_obj {members : List (Name × Json)} {levels : Nat} (names : ∀ m ∈ members, m.1.Tidy)
    (tidy : ∀ m ∈ members, m.2.Tidy levels) (reads : ∀ m ∈ members, Reads m.2) :
    Reads (.obj members) := by
  refine reads_of_tidy (.obj names tidy) fun {bound rest} _ room => ?_
  rcases members with _ | ⟨⟨name, v⟩, ms⟩
  · rfl
  · rw [write] at room ⊢
    rw [List.length_cons] at room
    exact readValue?_brace.trans (readMembers?_written ms name v [] rest names reads (by omega))

/-- A tidy value is read from its text. -/
theorem Tidy.reads {levels : Nat} {v : Json} (tidy : v.Tidy levels) : Reads v := by
  induction tidy with
  | null => exact @reads_of_tidy 0 _ .null fun _ _ => rfl
  | bool b =>
    refine @reads_of_tidy 0 _ (.bool b) fun _ _ => ?_
    cases b <;> rfl
  | int small => exact reads_int small
  | str s => exact reads_str s
  | arr items ih => exact reads_arr items ih
  | obj names values ih => exact reads_obj names values ih

/-- What is written for a tidy value that is not nested too deeply is read as that value. -/
theorem read?_compact {v : Json} (tidy : v.Tidy maxDepth) : read? v.compact = some v := by
  have text : v.compact.toList = v.write [] := String.toList_ofList
  have reads : readValue? ((v.write []).length + 1) (v.write []) = some (v, []) :=
    tidy.reads endsNumeral_nil (by omega)
  unfold read?
  dsimp only
  rw [text, reads]
  dsimp only
  rw [tidy.upToDepth]
  rfl

end TickScript.Json
