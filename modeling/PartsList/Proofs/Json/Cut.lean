import PartsList.Proofs.Json.Torn

/-!
# Records that are cut off

What a reader finds at the front of a text it also finds there when the text goes on, unless it is a
number at the very end.  A record is read up to its last brace, so no part of its text that ends
before that brace is the text of a value.
-/

namespace PartsList.Json

variable {input rest : List Char}

/-! ## Texts that go on -/

theorem skipSpace_extend {c : Char} (skipped : skipSpace input = c :: rest) (more : List Char) :
    skipSpace (input ++ more) = c :: (rest ++ more) := by
  rw [skipSpace] at skipped
  rw [skipSpace, List.dropWhile_append, skipped]
  rfl

theorem readCodes_extend {codes : List Nat} (read : readCodes input = some (codes, rest))
    (more : List Char) : readCodes (input ++ more) = some (codes, rest ++ more) := by
  fun_induction readCodes input generalizing codes with
  | case1 => cases read
  | case2 behind =>
      cases read
      simp [readCodes]
  | case3 a b c d behind induction =>
      obtain ⟨code, hex, read⟩ := Option.bind_eq_some_iff.1 read
      obtain ⟨⟨later, after⟩, read, same⟩ := Option.bind_eq_some_iff.1 read
      cases same
      simp [readCodes, hex, induction read]
  | case4 c behind _ induction =>
      obtain ⟨code, escaped, read⟩ := Option.bind_eq_some_iff.1 read
      obtain ⟨⟨later, after⟩, read, same⟩ := Option.bind_eq_some_iff.1 read
      cases same
      have letter : c ≠ 'u' := by
        rintro rfl
        cases escaped
      simp [readCodes, escaped, induction read, letter]
  | case5 behind _ _ _ induction =>
      obtain ⟨⟨later, after⟩, read, same⟩ := Option.bind_eq_some_iff.1 read
      cases same
      simp [readCodes, induction read, strayMark]
  | case6 => cases read
  | case7 c behind quote _ _ stray solid induction =>
      obtain ⟨⟨later, after⟩, read, same⟩ := Option.bind_eq_some_iff.1 read
      cases same
      simp only [Bool.or_eq_true, decide_eq_true_eq, beq_iff_eq, not_or] at solid
      rw [List.cons_append, readCodes]
      · rw [if_neg stray, if_neg (by simpa using solid), induction read]
        rfl
      · exact quote
      · exact fun _ _ _ _ _ same _ => solid.2 same
      · exact fun _ _ same _ => solid.2 same

theorem readString_extend {value : Option String} (read : readString input = some (value, rest))
    (more : List Char) : readString (input ++ more) = some (value, rest ++ more) := by
  obtain ⟨⟨codes, after⟩, coded, same⟩ := Option.bind_eq_some_iff.1 read
  cases same
  simp [readString, readCodes_extend coded more]

/-! ### Numbers -/

section Numbers

variable {c : Char}

theorem spanDigits_extend {digits : List Char} (spanned : spanDigits input = (digits, c :: rest))
    (more : List Char) : spanDigits (input ++ more) = (digits, c :: (rest ++ more)) := by
  rw [spanDigits, List.span_eq_takeWhile_dropWhile] at spanned ⊢
  obtain ⟨rfl, left⟩ := Prod.mk.inj spanned
  have inside : (input.takeWhile Char.isDigit).length ≠ input.length := by
    intro all
    have lengths := congrArg List.length
      (List.takeWhile_append_dropWhile (p := Char.isDigit) (l := input))
    rw [List.length_append, left, List.length_cons] at lengths
    omega
  rw [List.takeWhile_append, if_neg inside, List.dropWhile_append, left]
  rfl

theorem readWhole_extend {digits : List Char} (read : readWhole input = some (digits, c :: rest))
    (more : List Char) : readWhole (input ++ more) = some (digits, c :: (rest ++ more)) := by
  unfold readWhole at read ⊢
  split at read
  · cases read
  · cases read
  · next some_ plain spanned =>
      cases read
      rw [spanDigits_extend spanned more]
      split
      · next none => exact absurd (Prod.mk.inj none).1 some_
      · next zero => exact absurd (Prod.mk.inj zero).1 (plain _ _)
      · next same =>
          cases same
          rfl

theorem readFraction_extend {fraction : Option (List Char)}
    (read : readFraction input = some (fraction, c :: rest)) (more : List Char) :
    readFraction (input ++ more) = some (fraction, c :: (rest ++ more)) := by
  unfold readFraction at read
  split at read
  · next behind =>
      split at read
      · cases read
      · next some_ spanned =>
          cases read
          rw [List.cons_append, readFraction, spanDigits_extend spanned more]
          split
          · next none => exact absurd (Prod.mk.inj none).1 some_
          · next same =>
              cases same
              rfl
  · next plain =>
      cases read
      unfold readFraction
      split
      · next same => exact absurd (congrArg (· :: rest) (List.cons.inj same).1) (plain rest)
      · rfl

theorem readSign_cons (c : Char) (rest more : List Char) :
    readSign (c :: rest ++ more) =
      ((readSign (c :: rest)).1, (readSign (c :: rest)).2 ++ more) := by
  unfold readSign
  split <;> split <;> simp_all

theorem readExponent_extend {exponent : Option (Bool × List Char)}
    (read : readExponent input = some (exponent, c :: rest)) (more : List Char) :
    readExponent (input ++ more) = some (exponent, c :: (rest ++ more)) := by
  unfold readExponent at read
  split at read
  · next first behind =>
      rw [List.cons_append]
      unfold readExponent
      dsimp only
      split at read
      · next mark =>
          rw [if_pos mark]
          dsimp only at read
          split at read
          · cases read
          · next some_ spanned =>
              cases read
              cases behind with
              | nil => cases spanned
              | cons second behind =>
                  rw [readSign_cons second behind more]
                  dsimp only
                  rw [spanDigits_extend spanned more]
                  split
                  · next none => exact absurd (Prod.mk.inj none).1 some_
                  · next same =>
                      cases same
                      rfl
      · next plain =>
          cases read
          exact if_neg plain
  · cases read

theorem readUnsigned_extend {negative : Bool} {n : Numeral}
    (read : readUnsigned negative input = some (n, c :: rest)) (more : List Char) :
    readUnsigned negative (input ++ more) = some (n, c :: (rest ++ more)) := by
  obtain ⟨⟨whole, first⟩, readFirst, read⟩ := Option.bind_eq_some_iff.1 read
  obtain ⟨⟨fraction, second⟩, readSecond, read⟩ := Option.bind_eq_some_iff.1 read
  obtain ⟨⟨exponent, third⟩, readThird, read⟩ := Option.bind_eq_some_iff.1 read
  cases read
  -- Something is left at the end, so something was left after each part.
  cases second with
  | nil => cases readThird
  | cons d second =>
      cases first with
      | nil => cases readSecond
      | cons e first =>
          simp only [readUnsigned, readWhole_extend readFirst more, Option.bind_eq_bind,
            Option.bind_some]
          rw [← List.cons_append, readFraction_extend readSecond more]
          simp only [Option.bind_some]
          rw [← List.cons_append, readExponent_extend readThird more]
          rfl

/-- A number begins with a sign or a digit. -/
theorem first_of_readNumber {n : Numeral} {first : Char}
    (read : readNumber (first :: input) = some (n, rest)) : first = '-' ∨ first.isDigit := by
  unfold readNumber at read
  split at read
  · next same => exact Or.inl (List.cons.inj same).1
  · obtain ⟨⟨whole, after⟩, digits, -⟩ := Option.bind_eq_some_iff.1 read
    refine Or.inr (Classical.byContradiction fun other => ?_)
    have none : spanDigits (first :: input) = ([], first :: input) := by
      rw [spanDigits, List.span_eq_takeWhile_dropWhile]
      simp [other]
    rw [readWhole, none] at digits
    cases digits

theorem readNumber_extend {n : Numeral} (read : readNumber input = some (n, c :: rest))
    (more : List Char) : readNumber (input ++ more) = some (n, c :: (rest ++ more)) := by
  unfold readNumber at read
  split at read
  · exact readUnsigned_extend read more
  · next plain =>
      have read := readUnsigned_extend read more
      cases input with
      | nil => cases ‹readUnsigned false [] = _›
      | cons first input =>
          unfold readNumber
          split
          · next same => exact absurd (congrArg (· :: input) (List.cons.inj same).1) (plain input)
          · exact read

end Numbers

/-! ### Values -/

theorem readValue_nil (fuel : Nat) : readValue fuel [] = none := by
  cases fuel <;> rfl

theorem readItems_nil (fuel : Nat) : readItems fuel [] = none := by
  cases fuel with
  | zero => rfl
  | succ fuel =>
      rw [readItems, readValue_nil]
      rfl

theorem readMembers_nil (fuel : Nat) : readMembers fuel [] = none := by
  cases fuel <;> rfl

/-- What the reader of a value finds does not depend on what comes behind: it is no number, or
something follows the number. -/
def Ends (value : Json) (rest : List Char) : Prop :=
  rest ≠ [] ∨ ∀ n, value ≠ .number n

/-- The readers find what they find also when the text goes on. -/
structure Extends (more : List Char) (fuel : Nat) : Prop where
  /-- Values are found. -/
  values : ∀ input value rest, readValue fuel input = some (value, rest) → Ends value rest →
    readValue fuel (input ++ more) = some (value, rest ++ more)
  /-- Items are found. -/
  items : ∀ input items rest, readItems fuel input = some (items, rest) →
    readItems fuel (input ++ more) = some (items, rest ++ more)
  /-- Members are found. -/
  members : ∀ input members rest, readMembers fuel input = some (members, rest) →
    readMembers fuel (input ++ more) = some (members, rest ++ more)

variable {more : List Char} {fuel : Nat}

theorem Extends.value_succ (extend : Extends more fuel) {value : Json}
    (read : readValue (fuel + 1) input = some (value, rest)) (ends : Ends value rest) :
    readValue (fuel + 1) (input ++ more) = some (value, rest ++ more) := by
  rw [readValue] at read ⊢
  split at read
  · next word =>
      cases read
      rw [skipSpace_extend word more]
      rfl
  · next word =>
      cases read
      rw [skipSpace_extend word more]
      rfl
  · next word =>
      cases read
      rw [skipSpace_extend word more]
      rfl
  · next quote =>
      obtain ⟨⟨text, after⟩, first, read⟩ := Option.bind_eq_some_iff.1 read
      cases read
      rw [skipSpace_extend quote more]
      simp [readString_extend first more]
  · next inner bracket =>
      rw [skipSpace_extend bracket more]
      simp only
      split at read
      · next close =>
          cases read
          rw [skipSpace_extend close more]
          rfl
      · next open_ =>
          obtain ⟨⟨items, after⟩, first, read⟩ := Option.bind_eq_some_iff.1 read
          cases read
          have longer := extend.items _ _ _ first
          cases skipped : skipSpace inner with
          | nil =>
              rw [skipped, readItems_nil] at first
              cases first
          | cons c cs =>
              rw [skipped] at longer
              rw [skipSpace_extend skipped more]
              split
              · next same =>
                  exact absurd (congrArg (· :: cs) (List.cons.inj same).1) (skipped ▸ open_ cs)
              · rw [← List.cons_append, longer]
                rfl
  · next inner brace =>
      rw [skipSpace_extend brace more]
      simp only
      split at read
      · next close =>
          cases read
          rw [skipSpace_extend close more]
          rfl
      · next open_ =>
          obtain ⟨⟨members, after⟩, first, read⟩ := Option.bind_eq_some_iff.1 read
          cases read
          have longer := extend.members _ _ _ first
          cases skipped : skipSpace inner with
          | nil =>
              rw [skipped, readMembers_nil] at first
              cases first
          | cons c cs =>
              rw [skipped] at longer
              rw [skipSpace_extend skipped more]
              split
              · next same =>
                  exact absurd (congrArg (· :: cs) (List.cons.inj same).1) (skipped ▸ open_ cs)
              · rw [← List.cons_append, longer]
                rfl
  · next plain =>
      obtain ⟨⟨n, after⟩, numbered, read⟩ := Option.bind_eq_some_iff.1 read
      cases read
      have behind : rest ≠ [] := ends.resolve_right fun other => other n rfl
      obtain ⟨c, rest, rfl⟩ := List.exists_cons_of_ne_nil behind
      have longer := readNumber_extend numbered more
      cases skipped : skipSpace input with
      | nil =>
          rw [skipped] at numbered
          cases numbered
      | cons first cs =>
          rw [skipped] at numbered longer
          have letter {d : Char} (other : d ≠ '-') (no_digit : d.isDigit = false) : first ≠ d := by
            rintro rfl
            rcases first_of_readNumber numbered with same | digit
            · exact other same
            · rw [no_digit] at digit
              cases digit
          rw [skipSpace_extend skipped more]
          split
          · next same => exact absurd (List.cons.inj same).1 (letter (by decide) (by decide))
          · next same => exact absurd (List.cons.inj same).1 (letter (by decide) (by decide))
          · next same => exact absurd (List.cons.inj same).1 (letter (by decide) (by decide))
          · next same => exact absurd (List.cons.inj same).1 (letter (by decide) (by decide))
          · next same => exact absurd (List.cons.inj same).1 (letter (by decide) (by decide))
          · next same => exact absurd (List.cons.inj same).1 (letter (by decide) (by decide))
          · rw [← List.cons_append, longer]
            rfl

/-- A value that is followed by a mark ends. -/
theorem ends_of_skipSpace {value : Json} {c : Char} {behind : List Char}
    (skipped : skipSpace rest = c :: behind) : Ends value rest := by
  refine Or.inl fun none => ?_
  rw [none] at skipped
  cases skipped

theorem Extends.items_succ (extend : Extends more fuel) {items : List Json}
    (read : readItems (fuel + 1) input = some (items, rest)) :
    readItems (fuel + 1) (input ++ more) = some (items, rest ++ more) := by
  rw [readItems] at read
  obtain ⟨⟨item, after⟩, first, read⟩ := Option.bind_eq_some_iff.1 read
  dsimp only at read
  split at read
  · next comma =>
      obtain ⟨⟨others, behind⟩, second, read⟩ := Option.bind_eq_some_iff.1 read
      cases read
      rw [readItems, extend.values _ _ _ first (ends_of_skipSpace comma)]
      simp only [Option.bind_eq_bind, Option.bind_some, skipSpace_extend comma more]
      simp [extend.items _ _ _ second]
  · next close =>
      cases read
      exact readItems_last (extend.values _ _ _ first (ends_of_skipSpace close))
        (skipSpace_extend close more)
  · cases read

theorem Extends.members_succ (extend : Extends more fuel) {members : List (Option String × Json)}
    (read : readMembers (fuel + 1) input = some (members, rest)) :
    readMembers (fuel + 1) (input ++ more) = some (members, rest ++ more) := by
  rw [readMembers] at read ⊢
  split at read
  · next opening =>
      obtain ⟨⟨name, after⟩, named, read⟩ := Option.bind_eq_some_iff.1 read
      dsimp only at read
      rw [skipSpace_extend opening more]
      simp only [Option.bind_eq_bind, Option.bind_some, readString_extend named more]
      split at read
      · next colon =>
          obtain ⟨⟨value, behind⟩, first, read⟩ := Option.bind_eq_some_iff.1 read
          dsimp only at read
          simp only [skipSpace_extend colon more]
          split at read
          · next comma =>
              obtain ⟨⟨others, last⟩, second, read⟩ := Option.bind_eq_some_iff.1 read
              cases read
              simp only [extend.values _ _ _ first (ends_of_skipSpace comma), Option.bind_some,
                skipSpace_extend comma more]
              simp [extend.members _ _ _ second]
          · next close =>
              cases read
              simp only [extend.values _ _ _ first (ends_of_skipSpace close), Option.bind_some,
                skipSpace_extend close more]
              rfl
          · cases read
      · cases read
  · cases read

theorem extends_all (more : List Char) (fuel : Nat) : Extends more fuel := by
  induction fuel with
  | zero => exact ⟨nofun, nofun, nofun⟩
  | succ fuel induction =>
      exact ⟨fun _ _ _ => induction.value_succ, fun _ _ _ => induction.items_succ,
        fun _ _ _ => induction.members_succ⟩

/-! ## Records that are cut off -/

/-- What begins with a brace is an object, if it is a value. -/
theorem object_of_brace {value : Json} (read : readValue fuel ('{' :: input) = some (value, rest)) :
    ∃ members, value = .object members := by
  cases fuel with
  | zero => cases read
  | succ fuel =>
      rw [readValue, skipSpace_brace] at read
      simp only at read
      split at read
      · cases read
        exact ⟨[], rfl⟩
      · obtain ⟨⟨members, after⟩, -, read⟩ := Option.bind_eq_some_iff.1 read
        cases read
        exact ⟨members, rfl⟩

/-- A part of a record's text that ends before the record does is not the text of a value. -/
theorem readChars_cut {members : List (Option String × Json)}
    (writable : Writable (.object members))
    {front back : List Char} (cut : chars (.object members) = front ++ back) (some_ : back ≠ []) :
    readChars front = none := by
  unfold readChars
  cases read : readValue (2 * front.length + 2) front with
  | none => rfl
  | some answer =>
      obtain ⟨value, rest⟩ := answer
      have object : ∀ n, value ≠ .number n := by
        cases front with
        | nil => cases read
        | cons c front =>
            rw [chars] at cut
            obtain ⟨rfl, -⟩ := List.cons.inj cut
            obtain ⟨members, rfl⟩ := object_of_brace read
            exact fun _ same => nomatch same
      have whole := (extends_all back _).values _ _ _ read (Or.inr object)
      rw [← cut] at whole
      have none := rest_of_readValue writable whole
      exact absurd (List.append_eq_nil_iff.1 none).2 some_

end PartsList.Json
