import Mathlib.Data.List.Basic
import PartsList.Text.Keyword
import PartsList.Text.Lowercase

/-!
# Where keywords occur

A text mentions a keyword exactly if it holds a word that is the keyword when case is ignored, both
ends of the word being boundaries.  So a text that stands between blanks keeps what it mentions, and
texts that differ in case alone mention the same keywords.
-/

namespace PartsList.Text

/-- What decides where keywords occur: which character this is when case is ignored, and whether it
belongs to a word. -/
def key (c : Char) : Char × Bool :=
  (fold c, isWord c)

theorem dropFolded_iff {keyword text rest : List Char} : dropFolded keyword text = some rest ↔
    ∃ word, text = word ++ rest ∧ word.map fold = keyword.map fold := by
  induction keyword generalizing text with
  | nil => simp [dropFolded, eq_comm]
  | cons k keyword induction =>
    cases text with
    | nil => simp [dropFolded]
    | cons c text =>
      rw [dropFolded]
      split
      · next same =>
        rw [induction]
        constructor
        · rintro ⟨word, rfl, folds⟩
          exact ⟨c :: word, rfl, by simp [folds, beq_iff_eq.1 same]⟩
        · rintro ⟨word, equal, folds⟩
          cases word with
          | nil => simp at folds
          | cons d word =>
            obtain ⟨rfl, rfl⟩ := List.cons.inj equal
            exact ⟨word, rfl, (List.cons.inj folds).2⟩
      · next apart =>
        refine iff_of_false (by simp) ?_
        rintro ⟨word, equal, folds⟩
        cases word with
        | nil => simp at folds
        | cons d word =>
          obtain ⟨rfl, -⟩ := List.cons.inj equal
          exact apart (beq_iff_eq.2 (List.cons.inj folds).1.symm)

/-- The word is the keyword when case is ignored, and stands between boundaries. -/
def Stands (keyword word : List Char) (left right : Option Char) : Prop :=
  word.map fold = keyword.map fold ∧ isBoundary left (word.head?.or right) = true ∧
    isBoundary (word.getLast?.or left) right = true

theorem keywordHere_iff {keyword text : List Char} {before : Option Char} :
    keywordHere keyword before text = true ↔
      ∃ word rest, text = word ++ rest ∧ Stands keyword word before rest.head? := by
  unfold keywordHere
  cases dropped : dropFolded keyword text with
  | none =>
    refine iff_of_false (by simp) ?_
    rintro ⟨word, rest, rfl, folds, -⟩
    have found : dropFolded keyword (word ++ rest) = some rest :=
      dropFolded_iff.2 ⟨word, rfl, folds⟩
    rw [dropped] at found
    cases found
  | some rest =>
    obtain ⟨word, rfl, folds⟩ := dropFolded_iff.1 dropped
    have long : keyword.length = word.length := by
      simpa using (congrArg List.length folds).symm
    simp only [long, List.take_left, Bool.and_eq_true, List.head?_append]
    constructor
    · rintro ⟨first, last⟩
      exact ⟨word, rest, rfl, folds, first, last⟩
    · rintro ⟨word', rest', equal, folds', first, last⟩
      have long' : word.length = word'.length := by
        simpa using congrArg List.length (folds.trans folds'.symm)
      obtain ⟨rfl, rfl⟩ := List.append_inj equal long'
      exact ⟨first, last⟩

theorem keywordFrom_iff {keyword text : List Char} {before : Option Char} :
    keywordFrom keyword before text = true ↔
      ∃ left word right, text = left ++ (word ++ right) ∧
        Stands keyword word (left.getLast?.or before) right.head? := by
  induction text generalizing before with
  | nil =>
    rw [keywordFrom, keywordHere_iff]
    constructor
    · rintro ⟨word, rest, equal, stands⟩
      exact ⟨[], word, rest, equal, stands⟩
    · rintro ⟨left, word, rest, equal, stands⟩
      obtain ⟨rfl, none⟩ := List.append_eq_nil_iff.1 equal.symm
      exact ⟨word, rest, none.symm, stands⟩
  | cons c text induction =>
    rw [keywordFrom, Bool.or_eq_true, keywordHere_iff, induction]
    constructor
    · rintro (⟨word, rest, equal, stands⟩ | ⟨left, word, right, rfl, stands⟩)
      · exact ⟨[], word, rest, equal, stands⟩
      · refine ⟨c :: left, word, right, rfl, ?_⟩
        rw [List.getLast?_cons]
        cases last : left.getLast? <;> simpa [last] using stands
    · rintro ⟨left, word, right, equal, stands⟩
      cases left with
      | nil => exact .inl ⟨word, right, equal, stands⟩
      | cons d left =>
        obtain ⟨rfl, rfl⟩ := List.cons.inj equal
        refine .inr ⟨left, word, right, rfl, ?_⟩
        rw [List.getLast?_cons] at stands
        cases last : left.getLast? <;> simpa [last] using stands

/-- A text mentions a keyword exactly if the keyword stands somewhere in it. -/
theorem mentions_iff {text keyword : String} : mentions text keyword = true ↔
    ∃ left word right, text.toList = left ++ (word ++ right) ∧
      Stands keyword.toList word left.getLast? right.head? := by
  simpa [mentions] using
    @keywordFrom_iff keyword.toList text.toList none

/-! ## Neighbours -/

theorem isBoundary_congr {left left' right right' : Option Char}
    (lefts : left.any isWord = left'.any isWord) (rights : right.any isWord = right'.any isWord) :
    isBoundary left right = isBoundary left' right' := by
  rw [isBoundary, lefts, rights, isBoundary]

theorem any_or (first second : Option Char) :
    (first.or second).any isWord = (first.map isWord).getD (second.any isWord) := by
  cases first <;> rfl

theorem any_or_congr {first other other' : Option Char}
    (same : other.any isWord = other'.any isWord) :
    (first.or other).any isWord = (first.or other').any isWord := by
  rw [any_or, any_or, same]

/-- Only whether the neighbours of a word belong to words matters. -/
theorem Stands.congr {keyword word : List Char} {left left' right right' : Option Char}
    (stands : Stands keyword word left right) (lefts : left.any isWord = left'.any isWord)
    (rights : right.any isWord = right'.any isWord) : Stands keyword word left' right' := by
  obtain ⟨folds, first, last⟩ := stands
  refine ⟨folds, ?_, ?_⟩
  · rwa [← isBoundary_congr lefts (any_or_congr rights)]
  · rwa [← isBoundary_congr (any_or_congr lefts) rights]

/-- A text between characters that belong to no words keeps what it mentions. -/
theorem mentions_of_between {text whole keyword : String} {before after : List Char}
    (parts : whole.toList = before ++ (text.toList ++ after))
    (left : before.getLast?.any isWord = false) (right : after.head?.any isWord = false)
    (mentioned : mentions text keyword = true) : mentions whole keyword = true := by
  rw [mentions_iff] at mentioned ⊢
  obtain ⟨first, word, last, split, stands⟩ := mentioned
  refine ⟨before ++ first, word, last ++ after, by rw [parts, split]; simp, stands.congr ?_ ?_⟩
  · rw [List.getLast?_append, any_or, left]
    cases first.getLast? <;> rfl
  · rw [List.head?_append, any_or, right]
    cases last.head? <;> rfl

/-! ## Case -/

theorem map_fold_of_key {cs ds : List Char} (same : cs.map key = ds.map key) :
    cs.map fold = ds.map fold := by
  have firsts := congrArg (List.map Prod.fst) same
  rwa [List.map_map, List.map_map] at firsts

theorem map_isWord_of_key {cs ds : List Char} (same : cs.map key = ds.map key) :
    cs.map isWord = ds.map isWord := by
  have seconds := congrArg (List.map Prod.snd) same
  rwa [List.map_map, List.map_map] at seconds

theorem head?_of_key {cs ds : List Char} (same : cs.map key = ds.map key) :
    cs.head?.map isWord = ds.head?.map isWord := by
  rw [← List.head?_map, map_isWord_of_key same, List.head?_map]

theorem getLast?_of_key {cs ds : List Char} (same : cs.map key = ds.map key) :
    cs.getLast?.map isWord = ds.getLast?.map isWord := by
  rw [← List.getLast?_map, map_isWord_of_key same, List.getLast?_map]

theorem any_congr {first other : Option Char} (same : first.map isWord = other.map isWord) :
    first.any isWord = other.any isWord := by
  cases first <;> cases other <;> simp_all

theorem Stands.of_key {keyword word word' : List Char} {left left' right right' : Option Char}
    (stands : Stands keyword word left right) (words : word.map key = word'.map key)
    (lefts : left.any isWord = left'.any isWord) (rights : right.any isWord = right'.any isWord) :
    Stands keyword word' left' right' := by
  obtain ⟨folds, first, last⟩ := stands
  refine ⟨(map_fold_of_key words).symm.trans folds, ?_, ?_⟩
  · rwa [← isBoundary_congr lefts]
    rw [any_or, any_or, head?_of_key words, rights]
  · refine (isBoundary_congr ?_ rights).symm.trans last
    rw [any_or, any_or, getLast?_of_key words, lefts]

/-- Texts that are the same when case is ignored mention the same keywords. -/
theorem mentions_of_key {text other keyword : String}
    (same : text.toList.map key = other.toList.map key) (mentioned : mentions text keyword = true) :
    mentions other keyword = true := by
  rw [mentions_iff] at mentioned ⊢
  obtain ⟨left, word, right, split, stands⟩ := mentioned
  rw [split, List.map_append, List.map_append] at same
  obtain ⟨left', rest, split', lefts, rest_eq⟩ := List.map_eq_append_iff.1 same.symm
  obtain ⟨word', right', rfl, words, rights⟩ := List.map_eq_append_iff.1 rest_eq
  exact ⟨left', word', right', split', stands.of_key words.symm
    (any_congr (getLast?_of_key lefts.symm)) (any_congr (head?_of_key rights.symm))⟩

/-! ## Labels -/

theorem toNat_ofNat_of_valid {n : ℕ} (valid : n.isValidChar) : (Char.ofNat n).toNat = n := by
  rw [Char.ofNat, dif_pos valid]
  rfl

/-- No character from 128 on has a small letter below 128, apart from the sign for degrees
Kelvin. -/
theorem kelvin_of_lowercase {c : Char} (high : 128 ≤ c.toNat)
    (low : (mapByRuns lowercaseRuns c).toNat < 128) : c = Char.ofNat 8490 := by
  have table : ∀ run ∈ lowercaseRuns, run.last < 128 ∨ run = ⟨8490, 8490, 1, -8383⟩ ∨
      128 ≤ run.first + run.offset ∧ (run.last + run.offset < 0xD800 ∨
        0xDFFF < run.first + run.offset ∧ run.last + run.offset < 0x110000) := by
    decide +kernel
  unfold mapByRuns at low
  split at low
  · next run found =>
    have holds := List.find?_some found
    simp only [MappingRun.holds, Bool.and_eq_true, decide_eq_true_eq] at holds
    obtain ⟨⟨first, last⟩, -⟩ := holds
    rcases table run (List.mem_of_find?_eq_some found) with small | rfl | ⟨least, valid⟩
    · omega
    · rw [← Char.ofNat_toNat c]
      congr 1
      exact Nat.le_antisymm last first
    · rw [MappingRun.shift, toNat_ofNat_of_valid] at low
      · omega
      · unfold Nat.isValidChar
        omega
  · omega

/-- What holds of the first 128 characters holds of each character below 128. -/
theorem of_small {P : Char → Prop} (table : ∀ n : Fin 128, P (Char.ofNat n)) {c : Char}
    (small : c.toNat < 128) : P c := by
  have here := table ⟨c.toNat, small⟩
  rwa [Char.ofNat_toNat] at here

theorem toNat_toLower_lt {c : Char} (small : c.toNat < 128) : c.toLower.toNat < 128 :=
  @of_small (fun c => c.toLower.toNat < 128) (by decide +kernel) c small

theorem isWord_toLower {c : Char} (small : c.toNat < 128) : isWord c.toLower = isWord c :=
  @of_small (fun c => isWord c.toLower = isWord c) (by decide +kernel) c small

theorem key_of_toLower {c d : Char} (small : c.toNat < 128) (small' : d.toNat < 128)
    (same : c.toLower = d.toLower) : key c = key d := by
  rw [key, fold, if_pos small, ← isWord_toLower small, same, isWord_toLower small', key, fold,
    if_pos small']

/-- A character whose small form is below 128 has one that is a single character, and is the same as
each character below 128 with that small form when case is ignored. -/
theorem exists_lowercaseAt {before after : List Char} {c : Char}
    (low : ∀ d ∈ lowercaseAt before c after, d.toNat < 128) :
    ∃ d, lowercaseAt before c after = [d] ∧
      ∀ e : Char, e.toNat < 128 → e.toLower = d → key c = key e := by
  unfold lowercaseAt at low ⊢
  split at low
  · next small =>
    rw [if_pos small]
    exact ⟨_, rfl, fun e small' same => key_of_toLower small small' same.symm⟩
  next high =>
  rw [if_neg high]
  split at low
  · split at low <;> exact absurd (low _ List.mem_cons_self) (by decide)
  next notSigma =>
  rw [if_neg notSigma]
  split at low
  · exact absurd (low (Char.ofNat 0x307) (by simp)) (by decide)
  next notDotted =>
  rw [if_neg notDotted]
  refine ⟨_, rfl, fun e small same => ?_⟩
  obtain rfl := kelvin_of_lowercase (Nat.le_of_not_lt high) (low _ List.mem_cons_self)
  have kelvin : key (Char.ofNat 8490) = key 'k' := by decide +kernel
  have letter : mapByRuns lowercaseRuns (Char.ofNat 8490) = 'k' := by decide +kernel
  rw [kelvin]
  exact key_of_toLower (by decide) small (letter.symm.trans same.symm)

/-- A text whose small form is that of characters below 128 is the same as these when case is
ignored. -/
theorem map_key_of_lowercaseAfter {before text label : List Char}
    (small : ∀ c ∈ label, c.toNat < 128)
    (same : lowercaseAfter before text = label.map Char.toLower) :
    text.map key = label.map key := by
  induction text generalizing before label with
  | nil =>
    rw [List.map_eq_nil_iff.1 same.symm]
  | cons c text induction =>
    rw [lowercaseAfter] at same
    have low : ∀ d ∈ lowercaseAt before c text, d.toNat < 128 := by
      intro d mem
      have inside : d ∈ label.map Char.toLower := same ▸ List.mem_append_left _ mem
      obtain ⟨e, of, rfl⟩ := List.mem_map.1 inside
      exact toNat_toLower_lt (small e of)
    obtain ⟨d, single, keys⟩ := exists_lowercaseAt low
    rw [single] at same
    cases label with
    | nil => cases same
    | cons e label =>
      obtain ⟨first, rest⟩ := List.cons.inj same
      rw [List.map_cons, List.map_cons, keys e (small e List.mem_cons_self) first.symm,
        induction (fun c mem => small c (List.mem_cons_of_mem _ mem)) rest]

theorem lowercaseAfter_eq {before label : List Char} (small : ∀ c ∈ label, c.toNat < 128) :
    lowercaseAfter before label = label.map Char.toLower := by
  induction label generalizing before with
  | nil => rfl
  | cons c label induction =>
    rw [lowercaseAfter, lowercaseAt, if_pos (small c List.mem_cons_self),
      induction fun d mem => small d (List.mem_cons_of_mem _ mem)]
    rfl

theorem mem_of_mem_trim {text : String} {c : Char} (mem : c ∈ (trim text).toList) :
    c ∈ text.toList := by
  rw [trim, String.toList_ofList, trimChars, List.mem_reverse] at mem
  exact (List.dropWhile_sublist _).subset
    (List.mem_reverse.1 ((List.dropWhile_sublist _).subset mem))

/-- A text that is the same label as one of characters below 128 mentions what that one mentions. -/
theorem mentions_of_normalize {text label keyword : String}
    (small : ∀ c ∈ label.toList, c.toNat < 128) (same : normalize text = normalize label)
    (mentioned : mentions (trim label) keyword = true) : mentions (trim text) keyword = true := by
  have small' : ∀ c ∈ (trim label).toList, c.toNat < 128 :=
    fun c mem => small c (mem_of_mem_trim mem)
  have chars : lowercaseAfter [] (trim text).toList = lowercaseAfter [] (trim label).toList :=
    String.ofList_injective same
  rw [lowercaseAfter_eq small'] at chars
  exact mentions_of_key (map_key_of_lowercaseAfter small' chars).symm mentioned

end PartsList.Text
