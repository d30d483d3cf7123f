import Mathlib
import RationalCalc.Proofs.Admission
import RationalCalc.Proofs.ExactReading

/-!
Texts written in another way: with wide forms, or in the other case of their ASCII letters. Folding
takes a character to its narrow form in lower case. It leaves the class of every character as it is,
so that the pieces of a text stay where they are, and the tokens of a folded text are the folded
tokens of the text. The filter does not tell the two apart.
-/

namespace RationalCalc

open Character (isWhiteSpace isAlphabetic isNumeric)
open RationalCalc.Filter (admitted)

/-! Characters in lower case -/

/-- The characters that have a lower case of their own here. -/
def capitals : List Char :=
  "ABCDEFGHIJKLMNOPQRSTUVWXYZ".toList

theorem lowered_cases (c : Char) : c.toLower = c ∨ c ∈ capitals := by
  by_cases upper : c.isUpper = true
  · right
    have range : 'A'.val ≤ c.val ∧ c.val ≤ 'Z'.val := of_decide_eq_true upper
    have low : 65 ≤ c.toNat := range.1
    have high : c.toNat ≤ 90 := range.2
    have letters : (List.range' 65 26).all (fun n => capitals.contains (Char.ofNat n)) = true := by
      decide
    have member := List.all_eq_true.mp letters c.toNat (List.mem_range'_1.mpr (by omega))
    simpa using member
  · exact .inl (Char.toLower_eq_of_not_isUpper upper)

theorem capital_letter (c : Char) (capital : c ∈ capitals) :
    isAlphabetic c = true ∧ isAlphabetic c.toLower = true := by
  have letters : (capitals.all fun c => isAlphabetic c && isAlphabetic c.toLower) = true := by decide
  exact (Bool.and_eq_true ..).mp (List.all_eq_true.mp letters c capital)

namespace Lexer

theorem kind_lowered (kind : Kind) (c : Char) : kind.has c.toLower = kind.has c := by
  rcases lowered_cases c with same | capital
  · rw [same]
  · obtain ⟨letter, lowered⟩ := capital_letter c capital
    rw [Bool.eq_iff_iff]
    constructor
    · intro has
      rw [kind_unique kind .letter _ has lowered]
      exact letter
    · intro has
      rw [kind_unique kind .letter _ has letter]
      exact lowered

theorem space_lowered (c : Char) : isWhiteSpace c.toLower = isWhiteSpace c :=
  kind_lowered .space c

theorem number_lowered (c : Char) : inNumber c.toLower = inNumber c :=
  kind_lowered .digit c

theorem letter_lowered (c : Char) : isAlphabetic c.toLower = isAlphabetic c :=
  kind_lowered .letter c

theorem lowered_other (c : Char) (other : isAlphabetic c = false) : c.toLower = c := by
  rcases lowered_cases c with same | capital
  · exact same
  · rw [(capital_letter c capital).1] at other
    cases other

theorem takeWhile_lowered (kind : Kind) (text : List Char) :
    (text.map Char.toLower).takeWhile kind.has = (text.takeWhile kind.has).map Char.toLower := by
  rw [List.takeWhile_map]
  congr 2
  funext c
  exact kind_lowered kind c

end Lexer

/-! Folded tokens -/

def Operator.folded : Operator → Operator
  | arrange letter => arrange letter.toLower
  | choose letter => choose letter.toLower
  | op => op

def Token.folded : Token → Token
  | name text => name (String.ofList (Rpn.lowered text))
  | operator op => operator op.folded
  | token => token

def Fault.folded : Fault → Fault
  | unknownCharacter c start => unknownCharacter c.toLower start
  | unknownName name => unknownName (String.ofList (Rpn.lowered name))
  | afterEnding token => afterEnding token.folded
  | strayToken token => strayToken token.folded
  | notExecutable token => notExecutable token.folded
  | fault => fault

theorem Fault.folded_kind (fault : Fault) : fault.folded.kind = fault.kind := by
  cases fault <;> rfl

theorem Fault.folded_position (fault : Fault) : fault.folded.position? = fault.position? := by
  cases fault <;> rfl

/-- An outcome with its fault folded and its value changed. -/
def refold (change : α → β) : Except Fault α → Except Fault β
  | .ok value => .ok (change value)
  | .error fault => .error fault.folded

theorem refold_bind {change : α → β} {change' : γ → δ} {outcome : Except Fault α}
    {next : α → Except Fault γ} {next' : β → Except Fault δ}
    (later : ∀ value, next' (change value) = refold change' (next value)) :
    refold change outcome >>= next' = refold change' (outcome >>= next) := by
  cases outcome with
  | error fault => rfl
  | ok value => exact later value

theorem refold_map {change : α → β} {later : β → γ} {before : α → δ} {after : δ → γ}
    {outcome : Except Fault α} (commutes : ∀ value, later (change value) = after (before value)) :
    (refold change outcome).map later = refold after (outcome.map before) := by
  cases outcome with
  | error fault => rfl
  | ok value => exact congrArg Except.ok (commutes value)

theorem refold_alike (one two : Except Fault α) (same : refold id one = refold id two) :
    (∃ value, one = .ok value ∧ two = .ok value) ∨
      ∃ fault other, one = .error fault ∧ two = .error other ∧ fault.folded = other.folded := by
  cases one with
  | ok value =>
      cases two with
      | ok other =>
          cases same
          exact .inl ⟨_, rfl, rfl⟩
      | error other => cases same
  | error fault =>
      cases two with
      | ok other => cases same
      | error other => exact .inr ⟨fault, other, rfl, rfl, Except.error.inj same⟩

namespace Lexer

/-! The lexer -/

def Lexed.folded (lexed : Lexed) : Lexed :=
  ⟨lexed.tokens.map Token.folded, lexed.fault.map Fault.folded⟩

theorem after_folded (token : Token) (rest : Lexed) :
    (rest.after token).folded = rest.folded.after token.folded :=
  rfl

theorem outcome_folded (lexed : Lexed) :
    lexed.folded.outcome = refold (List.map Token.folded) lexed.outcome := by
  cases stopped : lexed.fault <;> simp [Lexed.outcome, Lexed.folded, stopped, refold]

theorem word_lowered (letters : List Char) :
    word (letters.map Char.toLower) = (word letters).folded := by
  match letters with
  | [] => rfl
  | first :: second :: rest => simp [word, Token.folded, Rpn.lowered]
  | [c] =>
      -- a lone capital may be the letter of an operator
      rcases lowered_cases c with same | capital
      · have kept : (word [c]).folded = word [c] := by
          simp only [word]
          split
          · simp only [Token.folded, Operator.folded, same]
          · split <;> simp [Token.folded, Operator.folded, Rpn.lowered, same]
        rw [List.map_singleton, same, kept]
      · have capitals_read :
            (capitals.all fun c => word [c.toLower] == (word [c]).folded) = true := by decide +kernel
        simpa using List.all_eq_true.mp capitals_read c capital

theorem double_letter (c d : Char) (letter : isAlphabetic d = true) : double c d = none := by
  cases found : double c d with
  | none => rfl
  | some token =>
      obtain ⟨member, spelled⟩ := (double_iff c d token).mp found
      have inside := symbol_chars token member d (by simp [spelled])
      rw [(symbol_plain d inside).2.2] at letter
      cases letter

theorem double_lowered (c d : Char) : double c d.toLower = double c d := by
  rcases lowered_cases d with same | capital
  · rw [same]
  · obtain ⟨letter, lowered⟩ := capital_letter d capital
    rw [double_letter c _ letter, double_letter c _ lowered]

theorem symbol_lowered (c : Char) (rest : List Char) :
    symbol c (rest.map Char.toLower) = symbol c rest := by
  cases rest with
  | nil => rfl
  | cons d rest => simp only [symbol, List.map_cons, double_lowered]

theorem symbol_token (c : Char) (rest : List Char) (token : Token) (more : Nat)
    (found : symbol c rest = some (token, more)) : token ∈ symbolTokens := by
  have alone (read : (single c).map (·, 0) = some (token, more)) : token ∈ symbolTokens := by
    obtain ⟨other, one, same⟩ := Option.map_eq_some_iff.mp read
    cases same
    exact ((single_iff c token).mp one).1
  cases rest with
  | nil => exact alone found
  | cons d rest =>
      cases pair : double c d with
      | none => exact alone (by simpa [symbol, pair] using found)
      | some both =>
          have same : both = token := by simpa [symbol, pair] using congrArg (Option.map Prod.fst) found
          exact same ▸ ((double_iff c d both).mp pair).1

theorem symbol_folded : ∀ token ∈ symbolTokens, token.folded = token := by
  decide

theorem takeWhile_number (text : List Char) :
    (text.map Char.toLower).takeWhile inNumber = text.takeWhile inNumber := by
  have digits : ∀ c ∈ text.takeWhile inNumber, c.toLower = c := by
    intro c member
    exact lowered_other c (number_not_letter c (List.all_eq_true.mp List.all_takeWhile c member))
  exact (takeWhile_lowered .digit text).trans ((List.map_congr_left digits).trans (List.map_id' _))

theorem scan_folded (start : Nat) (text : List Char) :
    scan start (text.map Char.toLower) = (scan start text).folded := by
  -- whatever is no letter stands as it is, so that only the runs of letters change
  induction start, text using scan.induct with
  | case1 start =>
      rw [List.map_nil, scan]
      rfl
  | case2 start c rest space ih =>
      rw [List.map_cons, scan, scan, space_lowered, if_pos space, if_pos space]
      exact ih
  | case3 start c rest space number more refused =>
      have same := lowered_other c (number_not_letter c number)
      rw [List.map_cons, same, scan, scan]
      simp only [space, number, takeWhile_number, refused, more, Bool.false_eq_true, if_false, if_true]
      rfl
  | case4 start c rest space number more value read ih =>
      have same := lowered_other c (number_not_letter c number)
      rw [List.map_cons, same, scan, scan]
      simp only [space, number, takeWhile_number, read, more, Bool.false_eq_true, if_false, if_true,
        ← List.map_drop, ih]
      rfl
  | case5 start c rest space number letter more ih =>
      have run : (rest.map Char.toLower).takeWhile isAlphabetic = more.map Char.toLower :=
        takeWhile_lowered .letter rest
      have read : word (c.toLower :: more.map Char.toLower) = (word (c :: more)).folded :=
        word_lowered (c :: more)
      rw [List.map_cons, scan, scan]
      simp only [space_lowered, number_lowered, letter_lowered, space, number, letter, run, read,
        List.length_map, ← List.map_drop, ih, Bool.false_eq_true, if_false, if_true]
      rfl
  | case6 start c rest space number letter unknown =>
      have same := lowered_other c (Bool.eq_false_iff.mpr letter)
      rw [List.map_cons, same, scan, scan]
      simp only [space, number, letter, symbol_lowered, unknown, Bool.false_eq_true, if_false]
      rw [Lexed.folded, Option.map_some, Fault.folded, same]
      rfl
  | case7 start c rest space number letter token more found ih =>
      have same := lowered_other c (Bool.eq_false_iff.mpr letter)
      have kept := symbol_folded token (symbol_token c rest token more found)
      rw [List.map_cons, same, scan, scan]
      simp only [space, number, letter, symbol_lowered, found, ← List.map_drop, ih,
        Bool.false_eq_true, if_false]
      rw [after_folded, kept]

end Lexer

/-! Texts -/

namespace Text

def fold (c : Char) : Char :=
  (narrow c).toLower

def folded (text : String) : String :=
  String.ofList (text.toList.map fold)

theorem narrow_fold (c : Char) : narrow (fold c) = fold c := by
  rcases lowered_cases (narrow c) with same | capital
  · rw [fold, same, narrow_narrow]
  · have ascii : (capitals.all fun c => Character.isAscii c.toLower) = true := by decide
    exact narrow_ascii _ (List.all_eq_true.mp ascii _ capital)

theorem narrowed_folded (text : String) :
    (narrowed (folded text)).toList = (narrowed text).toList.map Char.toLower := by
  simp only [narrowed, folded, String.toList_ofList, List.map_map]
  exact List.map_congr_left fun c _ => narrow_fold c

end Text

namespace Lexer

theorem tokenize_folded (text : String) :
    tokenize (Text.folded text) = refold (List.map Token.folded) (tokenize text) := by
  rw [tokenize, lex, Text.narrowed_folded, scan_folded, outcome_folded]
  rfl

end Lexer

/-! The filter -/

/-- A property of characters that is the same for wide forms and for capitals. -/
theorem fold_property (p : Char → Bool) (wide : ∀ c, p (Text.narrow c) = p c)
    (lower : capitals.all (fun c => p c.toLower == p c) = true) (c : Char) :
    p (Text.fold c) = p c := by
  rw [← wide c, Text.fold]
  rcases lowered_cases (Text.narrow c) with same | capital
  · rw [same]
  · simpa using List.all_eq_true.mp lower _ capital

theorem fold_numeric (c : Char) : isNumeric (Text.fold c) = isNumeric c := by
  apply fold_property isNumeric _ (by decide)
  intro c
  unfold Text.narrow
  split
  all_goals rfl

theorem fold_admitted (c : Char) : admitted (Text.fold c) = admitted c :=
  fold_property admitted narrow_admitted (by decide) c

theorem isCandidate_folded (text : String) :
    Filter.isCandidate (Text.folded text) = Filter.isCandidate text := by
  simp only [Filter.isCandidate, Text.folded, String.toList_ofList, List.all_map, Function.comp_def,
    fold_numeric, fold_admitted]

end RationalCalc
