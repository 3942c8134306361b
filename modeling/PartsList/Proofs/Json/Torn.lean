import PartsList.Proofs.Json.RoundTrip

/-!
# Records behind a torn text

A record that is written right behind a text that was cut off cannot be read: what the torn text
began is not ended by the record, or the record is left behind as something that should not follow.
Only blanks may stand in front of it.
-/

namespace PartsList.Json

/-! ## Fuel -/

theorem bind_mono {α β : Type} {o o' : Option α} {f f' : α → Option β} {b : β}
    (first : ∀ a, o = some a → o' = some a) (next : ∀ a, f a = some b → f' a = some b)
    (same : o.bind f = some b) : o'.bind f' = some b := by
  obtain ⟨a, found, rest⟩ := Option.bind_eq_some_iff.1 same
  rw [first a found]
  exact next a rest

/-- What is read with some fuel is read with more. -/
theorem read_succ (fuel : Nat) :
    (∀ input answer, readValue fuel input = some answer →
        readValue (fuel + 1) input = some answer) ∧
      (∀ input answer, readItems fuel input = some answer →
        readItems (fuel + 1) input = some answer) ∧
      ∀ input answer, readMembers fuel input = some answer →
        readMembers (fuel + 1) input = some answer := by
  induction fuel with
  | zero => exact ⟨nofun, nofun, nofun⟩
  | succ fuel induction =>
      obtain ⟨values, items, members⟩ := induction
      refine ⟨?_, ?_, ?_⟩
      · intro input answer
        rw [readValue, readValue]
        split
        · exact id
        · exact id
        · exact id
        · exact id
        · split
          · exact id
          · exact bind_mono (items _) fun _ same => same
        · split
          · exact id
          · exact bind_mono (members _) fun _ same => same
        · exact id
      · intro input answer
        rw [readItems, readItems]
        refine bind_mono (values _) fun a => ?_
        dsimp only
        split
        · exact bind_mono (items _) fun _ same => same
        · exact id
        · exact id
      · intro input answer
        rw [readMembers, readMembers]
        split
        · refine bind_mono (fun _ same => same) fun a => ?_
          dsimp only
          split
          · refine bind_mono (values _) fun a => ?_
            split
            · exact bind_mono (members _) fun _ same => same
            · exact id
            · exact id
          · exact id
        · exact id
theorem readValue_of_le {fuel fuel' : Nat} (le : fuel ≤ fuel') {input : List Char}
    {answer : Json × List Char} (read : readValue fuel input = some answer) :
    readValue fuel' input = some answer := by
  induction le with
  | refl => exact read
  | step _ induction => exact (read_succ _).1 _ _ induction

/-- Whatever the fuel, nothing is left of a written value. -/
theorem rest_of_readValue {value : Json} (writable : Writable value) {fuel : Nat}
    {answer : Json × List Char} (read : readValue fuel (chars value) = some answer) :
    answer.2 = [] := by
  have enough := readValue_of_le (Nat.le_max_left fuel (2 * (chars value).length)) read
  have all := readValue_append writable closes_nil (Nat.le_max_right fuel _)
  rw [List.append_nil, enough] at all
  cases all
  rfl

/-! ## Characters that are passed -/

/-- The reader passes from one input to the other over characters other than the brace that opens a
record. -/
def Passes (input rest : List Char) : Prop :=
  ∃ front, '{' ∉ front ∧ input = front ++ rest

/-- The rest begins inside the torn text. -/
def Inside (torn line rest : List Char) : Prop :=
  ∃ left, left <:+ torn ∧ rest = left ++ line

theorem Passes.refl (input : List Char) : Passes input input :=
  ⟨[], List.not_mem_nil, rfl⟩

theorem Passes.cons {c : Char} (other : c ≠ '{') {input rest : List Char}
    (passes : Passes input rest) : Passes (c :: input) rest := by
  obtain ⟨front, none, rfl⟩ := passes
  exact ⟨c :: front, by simp [other.symm, none], rfl⟩

theorem Passes.trans {input middle rest : List Char} (first : Passes input middle)
    (second : Passes middle rest) : Passes input rest := by
  obtain ⟨front, none, rfl⟩ := first
  obtain ⟨back, none', rfl⟩ := second
  exact ⟨front ++ back, by simp [none, none'], by rw [List.append_assoc]⟩

/-- A reader that passes over no brace stays in front of the record. -/
theorem Passes.inside {torn line rest : List Char} (passes : Passes (torn ++ '{' :: line) rest) :
    Inside torn ('{' :: line) rest := by
  obtain ⟨front, none, same⟩ := passes
  rcases List.append_eq_append_iff.1 same with ⟨extra, front_eq, record⟩ | ⟨left, rfl, rest_eq⟩
  · cases extra with
    | nil => exact ⟨[], List.nil_suffix, record.symm⟩
    | cons c extra =>
        obtain ⟨rfl, -⟩ := List.cons_eq_cons.1 record
        exact absurd (front_eq ▸ List.mem_append_right _ List.mem_cons_self) none
  · exact ⟨left, List.suffix_append _ _, rest_eq⟩

theorem Inside.trans {torn left line rest : List Char} (suffix : left <:+ torn)
    (inside : Inside left line rest) : Inside torn line rest := by
  obtain ⟨last, suffix', rfl⟩ := inside
  exact ⟨last, suffix'.trans suffix, rfl⟩

theorem passes_spanDigits (input : List Char) : Passes input (spanDigits input).2 := by
  rw [spanDigits, List.span_eq_takeWhile_dropWhile]
  refine ⟨input.takeWhile Char.isDigit, fun mem => ?_, List.takeWhile_append_dropWhile.symm⟩
  exact absurd (List.mem_takeWhile_imp mem) (by decide)

theorem passes_readWhole {input digits rest : List Char}
    (read : readWhole input = some (digits, rest)) : Passes input rest := by
  have passes := passes_spanDigits input
  unfold readWhole at read
  split at read
  · cases read
  · cases read
  · next spanned =>
      cases read
      rw [spanned] at passes
      exact passes

theorem passes_readFraction {input rest : List Char} {fraction : Option (List Char)}
    (read : readFraction input = some (fraction, rest)) : Passes input rest := by
  unfold readFraction at read
  split at read
  · next behind =>
      have passes := passes_spanDigits behind
      split at read
      · cases read
      · next spanned =>
          cases read
          rw [spanned] at passes
          exact passes.cons (by decide)
  · cases read
    exact Passes.refl _

theorem passes_readSign (input : List Char) : Passes input (readSign input).2 := by
  unfold readSign
  split
  · exact (Passes.refl _).cons (by decide)
  · exact (Passes.refl _).cons (by decide)
  · exact Passes.refl _

theorem passes_readExponent {input rest : List Char} {exponent : Option (Bool × List Char)}
    (read : readExponent input = some (exponent, rest)) : Passes input rest := by
  unfold readExponent at read
  split at read
  · next c behind =>
      split at read
      · next mark =>
          have sign := passes_readSign behind
          have passes := passes_spanDigits (readSign behind).2
          dsimp only at read
          split at read
          · cases read
          · next spanned =>
              cases read
              rw [spanned] at passes
              refine (sign.trans passes).cons ?_
              rintro rfl
              revert mark
              decide
      · cases read
        exact Passes.refl _
  · cases read
    exact Passes.refl _

theorem passes_readUnsigned {negative : Bool} {input rest : List Char} {n : Numeral}
    (read : readUnsigned negative input = some (n, rest)) : Passes input rest := by
  obtain ⟨⟨whole, first⟩, readFirst, read⟩ := Option.bind_eq_some_iff.1 read
  obtain ⟨⟨fraction, second⟩, readSecond, read⟩ := Option.bind_eq_some_iff.1 read
  obtain ⟨⟨exponent, third⟩, readThird, read⟩ := Option.bind_eq_some_iff.1 read
  cases read
  exact ((passes_readWhole readFirst).trans (passes_readFraction readSecond)).trans
    (passes_readExponent readThird)

theorem passes_readNumber {input rest : List Char} {n : Numeral}
    (read : readNumber input = some (n, rest)) : Passes input rest := by
  unfold readNumber at read
  split at read
  · exact (passes_readUnsigned read).cons (by decide)
  · exact passes_readUnsigned read

variable {more : List Char}

theorem not_mem_of_hexCode {a b c d : Char} {code : Nat} (read : hexCode a b c d = some code) :
    '{' ∉ [a, b, c, d] := by
  intro mem
  exact absurd (Hexadecimal.isSome_value_of_number? read _ mem) (by decide)

/-- A string that the torn text began ends inside it or with the first quote of the record. -/
theorem readCodes_torn {torn rest : List Char} {codes : List Nat}
    (read : readCodes (torn ++ '{' :: '"' :: 'f' :: more) = some (codes, rest)) :
    Inside torn ('{' :: '"' :: 'f' :: more) rest ∨ rest = 'f' :: more := by
  generalize input_eq : torn ++ '{' :: '"' :: 'f' :: more = input at read
  fun_induction readCodes input generalizing torn codes with
  | case1 => cases read
  | case2 behind =>
      cases read
      refine Or.inl (Passes.inside (input_eq ▸ ?_))
      exact (Passes.refl _).cons (by decide)
  | case3 a b c d behind induction =>
      obtain ⟨code, hex, read⟩ := Option.bind_eq_some_iff.1 read
      obtain ⟨⟨later, after⟩, read, same⟩ := Option.bind_eq_some_iff.1 read
      cases same
      have passes : Passes ('\\' :: 'u' :: a :: b :: c :: d :: behind) behind := by
        have absent := not_mem_of_hexCode hex
        exact ⟨['\\', 'u', a, b, c, d], by simpa using absent, rfl⟩
      rw [← input_eq] at passes
      obtain ⟨left, suffix, same⟩ := passes.inside
      exact (induction same.symm read).imp_left (Inside.trans suffix)
  | case4 c behind _ induction =>
      obtain ⟨code, escaped, read⟩ := Option.bind_eq_some_iff.1 read
      obtain ⟨⟨later, after⟩, read, same⟩ := Option.bind_eq_some_iff.1 read
      cases same
      have passes : Passes ('\\' :: c :: behind) behind := by
        refine ((Passes.refl _).cons ?_).cons (by decide)
        rintro rfl
        cases escaped
      rw [← input_eq] at passes
      obtain ⟨left, suffix, same⟩ := passes.inside
      exact (induction same.symm read).imp_left (Inside.trans suffix)
  | case5 behind _ _ _ induction =>
      obtain ⟨⟨later, after⟩, read, same⟩ := Option.bind_eq_some_iff.1 read
      cases same
      have passes : Passes (strayMark :: behind) behind := (Passes.refl _).cons (by decide)
      rw [← input_eq] at passes
      obtain ⟨left, suffix, same⟩ := passes.inside
      exact (induction same.symm read).imp_left (Inside.trans suffix)
  | case6 => cases read
  | case7 c behind _ _ _ _ _ induction =>
      obtain ⟨⟨later, after⟩, read, same⟩ := Option.bind_eq_some_iff.1 read
      cases same
      cases torn with
      | nil =>
          -- The brace of the record is a character of the string, and its first quote the end.
          obtain ⟨-, rfl⟩ := List.cons_eq_cons.1 input_eq
          cases read
          exact Or.inr rfl
      | cons d torn =>
          obtain ⟨-, same⟩ := List.cons_eq_cons.1 input_eq
          exact (induction same read).imp_left (Inside.trans (List.suffix_cons _ _))

theorem skipSpace_brace (rest : List Char) : skipSpace ('{' :: rest) = '{' :: rest :=
  skipSpace_cons (by decide) rest

theorem skipSpace_torn (torn : List Char) {record : List Char}
    (solid : skipSpace record = record) :
    ((∀ c ∈ torn, isSpace c) ∧ skipSpace (torn ++ record) = record) ∨
      ∃ c left, isSpace c = false ∧ c :: left <:+ torn ∧
        skipSpace (torn ++ record) = c :: (left ++ record) := by
  induction torn with
  | nil => exact Or.inl ⟨nofun, solid⟩
  | cons c torn induction =>
      cases space : isSpace c with
      | false => exact Or.inr ⟨c, torn, space, List.suffix_rfl, skipSpace_cons space _⟩
      | true =>
          have skipped : skipSpace (c :: torn ++ record) = skipSpace (torn ++ record) := by
            simp [skipSpace, space]
          rw [skipped]
          rcases induction with ⟨all, same⟩ | ⟨d, left, other, suffix, same⟩
          · exact Or.inl ⟨by simpa [space] using all, same⟩
          · exact Or.inr ⟨d, left, other, suffix.trans (List.suffix_cons _ _), same⟩

/-- Where the reader of a value stops: inside the torn text, behind the first quote of the record,
or at its end when there are only blanks in front of it. -/
def Stops (torn record rest : List Char) : Prop :=
  Inside torn record rest ∨ (∃ behind, rest = 'f' :: behind) ∨
    rest = [] ∧ ∀ c ∈ torn, isSpace c

/-- No record follows a mark. -/
theorem Stops.mark {torn rest behind : List Char} {c : Char}
    (stops : Stops torn ('{' :: '"' :: 'f' :: more) rest) (skipped : skipSpace rest = c :: behind)
    (other : c ≠ '{') (other' : c ≠ 'f') : Inside torn ('{' :: '"' :: 'f' :: more) behind := by
  rcases stops with ⟨left, suffix, rfl⟩ | ⟨after, rfl⟩ | ⟨rfl, -⟩
  · rcases skipSpace_torn left (skipSpace_brace _) with
      ⟨-, same⟩ | ⟨d, last, -, suffix', same⟩
    · rw [same] at skipped
      exact absurd (List.cons_eq_cons.1 skipped).1.symm other
    · rw [same] at skipped
      obtain ⟨rfl, rfl⟩ := List.cons_eq_cons.1 skipped
      exact ⟨last, (List.suffix_cons _ _).trans (suffix'.trans suffix), rfl⟩
  · rw [skipSpace_cons (by decide)] at skipped
    exact absurd (List.cons_eq_cons.1 skipped).1.symm other'
  · cases skipped

/-- The reader of a whole input stops at the end of the record. -/
theorem Stops.blank {torn rest : List Char} (stops : Stops torn ('{' :: '"' :: 'f' :: more) rest)
    (skipped : skipSpace rest = []) : ∀ c ∈ torn, isSpace c := by
  rcases stops with ⟨left, -, rfl⟩ | ⟨after, rfl⟩ | ⟨-, blank⟩
  · rcases skipSpace_torn left (skipSpace_brace _) with ⟨-, same⟩ | ⟨c, last, -, -, same⟩
    · rw [same] at skipped
      cases skipped
    · rw [same] at skipped
      cases skipped
  · rw [skipSpace_cons (by decide)] at skipped
    cases skipped
  · exact blank

theorem Inside.skipSpace {torn input : List Char}
    (inside : Inside torn ('{' :: '"' :: 'f' :: more) input) :
    Inside torn ('{' :: '"' :: 'f' :: more) (skipSpace input) := by
  obtain ⟨left, suffix, rfl⟩ := inside
  rcases skipSpace_torn left (skipSpace_brace _) with ⟨-, same⟩ | ⟨c, last, -, suffix', same⟩
  · exact ⟨[], List.nil_suffix, same⟩
  · exact ⟨c :: last, suffix'.trans suffix, same⟩

/-! ## Readers in front of a record -/

/-- The readers stop in front of the record, or they read the record itself behind blanks. -/
def ValuesStop (more : List Char) (fuel : Nat) : Prop :=
  ∀ torn answer, readValue fuel (torn ++ '{' :: '"' :: 'f' :: more) = some answer →
    Stops torn ('{' :: '"' :: 'f' :: more) answer.2

/-- The items of an array that the torn text began end inside it. -/
def ItemsStop (more : List Char) (fuel : Nat) : Prop :=
  ∀ torn answer, readItems fuel (torn ++ '{' :: '"' :: 'f' :: more) = some answer →
    Inside torn ('{' :: '"' :: 'f' :: more) answer.2

/-- The members of an object that the torn text began end inside it. -/
def MembersStop (more : List Char) (fuel : Nat) : Prop :=
  ∀ torn answer, readMembers fuel (torn ++ '{' :: '"' :: 'f' :: more) = some answer →
    Inside torn ('{' :: '"' :: 'f' :: more) answer.2

theorem valuesStop_succ {fuel : Nat}
    (whole : ∀ fuel answer, readValue fuel ('{' :: '"' :: 'f' :: more) = some answer →
      answer.2 = [])
    (items : ItemsStop more fuel)
    (members : MembersStop more fuel) : ValuesStop more (fuel + 1) := by
  intro torn answer read
  rcases skipSpace_torn torn (skipSpace_brace _) with
    ⟨blank, same⟩ | ⟨c, left, solid, suffix, same⟩
  · have first : readValue (fuel + 1) ('{' :: '"' :: 'f' :: more) = some answer := by
      rw [← read, readValue, readValue, same, skipSpace_brace]
    exact Or.inr (Or.inr ⟨whole _ _ first, blank⟩)
  · have behind {rest : List Char}
        (inside : Inside (c :: left) ('{' :: '"' :: 'f' :: more) rest) :
        Stops torn ('{' :: '"' :: 'f' :: more) rest := Or.inl (inside.trans suffix)
    rw [readValue, same] at read
    split at read
    · next word =>
        cases read
        refine behind (Passes.inside ⟨['n', 'u', 'l', 'l'], by decide, word⟩)
    · next word =>
        cases read
        exact behind (Passes.inside ⟨['t', 'r', 'u', 'e'], by decide, word⟩)
    · next word =>
        cases read
        exact behind (Passes.inside ⟨['f', 'a', 'l', 's', 'e'], by decide, word⟩)
    · next quote =>
        obtain ⟨-, rfl⟩ := List.cons_eq_cons.1 quote
        obtain ⟨⟨value, rest⟩, first, read⟩ := Option.bind_eq_some_iff.1 read
        cases read
        obtain ⟨⟨codes, rest'⟩, coded, same⟩ := Option.bind_eq_some_iff.1 first
        cases same
        rcases readCodes_torn coded with inside | same
        · exact behind (inside.trans (List.suffix_cons _ _))
        · exact Or.inr (Or.inl ⟨_, same⟩)
    · next bracket =>
        obtain ⟨-, rfl⟩ := List.cons_eq_cons.1 bracket
        have inner : Inside (c :: left) ('{' :: '"' :: 'f' :: more)
            (left ++ '{' :: '"' :: 'f' :: more) := ⟨left, List.suffix_cons _ _, rfl⟩
        split at read
        · next close =>
            cases read
            exact behind (Stops.mark (Or.inl inner) close (by decide) (by decide))
        · obtain ⟨others, second, read⟩ := Option.bind_eq_some_iff.1 read
          cases read
          obtain ⟨last, suffix', same'⟩ := inner.skipSpace
          rw [same'] at second
          exact behind ((items last _ second).trans suffix')
    · next brace =>
        obtain ⟨-, rfl⟩ := List.cons_eq_cons.1 brace
        have inner : Inside (c :: left) ('{' :: '"' :: 'f' :: more)
            (left ++ '{' :: '"' :: 'f' :: more) := ⟨left, List.suffix_cons _ _, rfl⟩
        split at read
        · next close =>
            cases read
            exact behind (Stops.mark (Or.inl inner) close (by decide) (by decide))
        · obtain ⟨others, second, read⟩ := Option.bind_eq_some_iff.1 read
          cases read
          obtain ⟨last, suffix', same'⟩ := inner.skipSpace
          rw [same'] at second
          exact behind ((members last _ second).trans suffix')
    · obtain ⟨number, numbered, read⟩ := Option.bind_eq_some_iff.1 read
      cases read
      rw [← List.cons_append] at numbered
      exact behind (passes_readNumber numbered).inside

theorem itemsStop_succ {fuel : Nat} (values : ValuesStop more fuel) (items : ItemsStop more fuel) :
    ItemsStop more (fuel + 1) := by
  intro torn answer read
  rw [readItems] at read
  obtain ⟨⟨item, rest⟩, first, read⟩ := Option.bind_eq_some_iff.1 read
  have stops := values torn _ first
  dsimp only at read
  split at read
  · next skipped =>
      obtain ⟨left, suffix, rfl⟩ := stops.mark skipped (by decide) (by decide)
      obtain ⟨others, second, read⟩ := Option.bind_eq_some_iff.1 read
      cases read
      exact (items left _ second).trans suffix
  · next skipped =>
      cases read
      exact stops.mark skipped (by decide) (by decide)
  · cases read

theorem membersStop_succ {fuel : Nat} (values : ValuesStop more fuel)
    (members : MembersStop more fuel) : MembersStop more (fuel + 1) := by
  intro torn answer read
  rw [readMembers] at read
  split at read
  · next opening =>
      obtain ⟨⟨name, rest⟩, named, read⟩ := Option.bind_eq_some_iff.1 read
      have start := Stops.mark (Or.inl ⟨torn, List.suffix_rfl, rfl⟩) opening (by decide)
        (by decide)
      obtain ⟨left, suffix, rfl⟩ := start
      obtain ⟨⟨codes, rest'⟩, coded, same⟩ := Option.bind_eq_some_iff.1 named
      cases same
      have stops : Stops torn ('{' :: '"' :: 'f' :: more) rest :=
        (readCodes_torn coded).imp (·.trans suffix) fun same => Or.inl ⟨_, same⟩
      dsimp only at read
      split at read
      · next colon =>
          obtain ⟨second, suffix', rfl⟩ := stops.mark colon (by decide) (by decide)
          obtain ⟨⟨value, after⟩, first, read⟩ := Option.bind_eq_some_iff.1 read
          have ends := values second _ first
          dsimp only at read
          split at read
          · next comma =>
              obtain ⟨third, suffix'', rfl⟩ := ends.mark comma (by decide) (by decide)
              obtain ⟨others, next, read⟩ := Option.bind_eq_some_iff.1 read
              cases read
              exact ((members third _ next).trans suffix'').trans suffix'
          · next close =>
              cases read
              exact (ends.mark close (by decide) (by decide)).trans suffix'
          · cases read
      · cases read
  · cases read

theorem stop_all
    (whole : ∀ fuel answer, readValue fuel ('{' :: '"' :: 'f' :: more) = some answer →
      answer.2 = []) (fuel : Nat) :
    ValuesStop more fuel ∧ ItemsStop more fuel ∧ MembersStop more fuel := by
  induction fuel with
  | zero => exact ⟨nofun, nofun, nofun⟩
  | succ fuel induction =>
      obtain ⟨values, items, members⟩ := induction
      exact ⟨valuesStop_succ whole items members, itemsStop_succ values items,
        membersStop_succ values members⟩

/-- A record is read behind blanks and behind nothing else. -/
theorem readChars_torn {value : Json} (writable : Writable value)
    (shape : chars value = '{' :: '"' :: 'f' :: more) (torn : List Char) :
    readChars (torn ++ chars value) = if torn.all isSpace then some value else none := by
  by_cases blank : torn.all isSpace
  · rw [if_pos blank]
    rw [List.all_eq_true] at blank
    have read := readValue_append writable closes_nil
      (show 2 * (chars value).length ≤ 2 * (torn ++ chars value).length + 2 by
        rw [List.length_append]; omega)
    rw [List.append_nil, readValue, ← skipSpace_append blank, ← readValue] at read
    simp only [readChars, read, Option.bind_eq_bind, Option.bind_some]
    rfl
  · rw [if_neg blank]
    unfold readChars
    cases read : readValue (2 * (torn ++ chars value).length + 2) (torn ++ chars value) with
    | none => rfl
    | some answer =>
        have stops := (stop_all (fun fuel answer same => rest_of_readValue writable
          (shape ▸ same)) _).1 torn answer (shape ▸ read)
        simp only [Option.bind_eq_bind, Option.bind_some]
        split
        · next ends => exact absurd (stops.blank ends) (by simpa using blank)
        · rfl

end PartsList.Json
