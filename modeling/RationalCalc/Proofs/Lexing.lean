import RationalCalc.Proofs.Segments

/-!
The lexer against segmentation. Wherever it stands it takes the longest piece, so that a text which
it reads to the end has a segmentation, and the tokens are those of its pieces. A text that it does
not read to the end is one that it reads up to the first character or run of digits that is no piece
with a meaning.
-/

namespace RationalCalc.Lexer

open Character

/-! One piece -/

theorem first_mem (piece : Piece) (formed : piece.WellFormed) (c : Char) (rest : List Char)
    (begins : piece.chars <+: c :: rest) : c ∈ piece.chars := by
  obtain ⟨d, more, same⟩ := List.exists_cons_of_ne_nil (Piece.chars_filled formed)
  rw [same] at begins ⊢
  rw [(List.cons_prefix_cons.mp begins).1]
  exact List.mem_cons_self ..

theorem run_longest (kind : Kind) (c : Char) (rest : List Char) (has : kind.has c = true)
    (other : Piece) (formed : other.WellFormed) (begins : other.chars <+: c :: rest) :
    other.chars.length ≤ (c :: rest.takeWhile kind.has).length := by
  have same := Piece.kind_of_char formed c (first_mem other formed c rest begins) kind has
  have inside : ∀ d ∈ other.chars, kind.has d = true := same ▸ Piece.chars_kind formed
  obtain ⟨after, joined⟩ := begins
  calc
    other.chars.length ≤ (other.chars ++ after.takeWhile kind.has).length := by simp
    _ = ((other.chars ++ after).takeWhile kind.has).length := by
      rw [List.takeWhile_append_of_pos inside]
    _ = (c :: rest.takeWhile kind.has).length := by rw [joined, List.takeWhile_cons_of_pos has]

theorem run_leads (kind : Kind) (c : Char) (rest : List Char) (has : kind.has c = true)
    (piece : Piece) (formed : piece.WellFormed) (run : piece.chars = c :: rest.takeWhile kind.has) :
    Leads piece (c :: rest) := by
  refine ⟨formed, ?_, ?_⟩
  · rw [run]
    exact List.cons_prefix_cons.mpr ⟨rfl, List.takeWhile_prefix _⟩
  · intro other otherFormed begins
    rw [run]
    exact run_longest kind c rest has other otherFormed begins

theorem run_kind (kind : Kind) (c : Char) (rest : List Char) (has : kind.has c = true) :
    ∀ d ∈ c :: rest.takeWhile kind.has, kind.has d = true := by
  intro d member
  rcases List.mem_cons.mp member with rfl | later
  · exact has
  · exact List.all_eq_true.mp List.all_takeWhile d later

theorem run_rest (p : Char → Bool) (c : Char) (rest : List Char) :
    c :: rest = (c :: rest.takeWhile p) ++ rest.drop (rest.takeWhile p).length :=
  congrArg (List.cons c) (List.prefix_iff_eq_append.mp (List.takeWhile_prefix p)).symm

theorem arrange_spelling (c : Char) : (Token.operator (.arrange c)).spelling.toList = [c] := by
  simp [Token.spelling, Operator.spelling]

theorem choose_spelling (c : Char) : (Token.operator (.choose c)).spelling.toList = [c] := by
  simp [Token.spelling, Operator.spelling]

theorem word_name (letters : List Char)
    (other : ∀ token ∈ letterTokens, token.spelling.toList ≠ letters) :
    word letters = .name (String.ofList letters) := by
  match letters with
  | [] => rfl
  | _ :: _ :: _ => rfl
  | [c] =>
      have arranged (d : Char) (member : Token.operator (.arrange d) ∈ letterTokens) : c ≠ d := by
        rintro rfl
        exact other _ member (arrange_spelling c)
      have chosen (d : Char) (member : Token.operator (.choose d) ∈ letterTokens) : c ≠ d := by
        rintro rfl
        exact other _ member (choose_spelling c)
      simp [word, arranged 'a' (by decide), arranged 'A' (by decide), arranged 'p' (by decide),
        arranged 'P' (by decide), chosen 'c' (by decide), chosen 'C' (by decide)]

theorem word_piece (letters : List Char) (filled : letters ≠ [])
    (all : ∀ c ∈ letters, isAlphabetic c = true) :
    ∃ piece : Piece, piece.WellFormed ∧ piece.Readable ∧ piece.chars = letters ∧
      piece.token? = some (word letters) := by
  by_cases lone : ∃ token ∈ letterTokens, token.spelling.toList = letters
  · obtain ⟨token, member, rfl⟩ := lone
    have read : ∀ token ∈ letterTokens, word token.spelling.toList = token := by decide +kernel
    exact ⟨.fixed token, List.mem_append_right _ member, trivial, rfl,
      congrArg some (read token member).symm⟩
  · have other : ∀ token ∈ letterTokens, token.spelling.toList ≠ letters :=
      fun token member same => lone ⟨token, member, same⟩
    exact ⟨.name letters, ⟨filled, all, other⟩, trivial, rfl,
      congrArg some (word_name letters other).symm⟩

theorem symbol_chars (token : Token) (member : token ∈ symbolTokens) :
    ∀ c ∈ token.spelling.toList, c ∈ symbols := by
  intro c spelled
  have has := List.all_eq_true.mp
    (Piece.fixed_spelling token (List.mem_append_left _ member)).2 c spelled
  simpa [Piece.kind, member, Kind.has] using has

theorem single_iff (c : Char) (token : Token) :
    single c = some token ↔ token ∈ symbolTokens ∧ token.spelling.toList = [c] := by
  constructor
  · intro found
    unfold single at found
    split at found
    case h_10 => cases found
    all_goals
      cases found
      decide +kernel
  · rintro ⟨member, spelled⟩
    have all : ∀ token ∈ symbolTokens, token.spelling.toList.length = 1 →
        token.spelling.toList.head?.bind single = some token := by
      decide +kernel
    simpa [spelled] using all token member

theorem double_iff (c d : Char) (token : Token) :
    double c d = some token ↔ token ∈ symbolTokens ∧ token.spelling.toList = [c, d] := by
  constructor
  · intro found
    unfold double at found
    split at found
    case h_3 => cases found
    all_goals
      cases found
      decide +kernel
  · rintro ⟨member, spelled⟩
    have all : ∀ token ∈ symbolTokens, token.spelling.toList.length = 2 →
        (token.spelling.toList.head?.bind fun c =>
          token.spelling.toList.getLast?.bind (double c)) = some token := by
      decide +kernel
    simpa [spelled] using all token member

theorem symbol_piece (piece : Piece) (formed : piece.WellFormed) (c : Char) (member : c ∈ symbols)
    (first : c ∈ piece.chars) : ∃ token ∈ symbolTokens, piece = .fixed token := by
  have has : Kind.symbol.has c = true := by simpa [Kind.has] using member
  have kind := Piece.kind_of_char formed c first .symbol has
  cases piece with
  | fixed token =>
      refine ⟨token, ?_, rfl⟩
      simp only [Piece.kind] at kind
      split at kind
      · assumption
      · cases kind
  | _ => cases kind

theorem symbol_leads (c : Char) (rest : List Char) (member : c ∈ symbols) :
    ∃ token more, symbol c rest = some (token, more) ∧ token.spelling.toList.length = more + 1 ∧
      Leads (.fixed token) (c :: rest) := by
  have short : ∀ token ∈ symbolTokens, token.spelling.toList.length ≤ 2 := by decide +kernel
  have alone : (symbols.all fun c => (single c).isSome) = true := by decide
  have others (piece : Piece) (formed : piece.WellFormed) (begins : piece.chars <+: c :: rest) :
      ∃ token ∈ symbolTokens, piece = .fixed token :=
    symbol_piece piece formed c member (first_mem piece formed c rest begins)
  obtain ⟨token, found⟩ := Option.isSome_iff_exists.mp (List.all_eq_true.mp alone c member)
  obtain ⟨written, spelled⟩ := (single_iff c token).mp found
  cases rest with
  | nil =>
      refine ⟨token, 0, by simp [symbol, found], by simp [spelled], ?_⟩
      refine ⟨List.mem_append_left _ written, by simp [Piece.chars, spelled], ?_⟩
      intro other _ begins
      simpa [Piece.chars, spelled] using begins.length_le
  | cons d rest =>
      cases pair : double c d with
      | some both =>
          obtain ⟨writtenBoth, spelledBoth⟩ := (double_iff c d both).mp pair
          refine ⟨both, 1, by simp [symbol, pair], by simp [spelledBoth], ?_⟩
          refine ⟨List.mem_append_left _ writtenBoth, ?_, ?_⟩
          · simp [Piece.chars, spelledBoth, List.cons_prefix_cons]
          · intro other formed begins
            obtain ⟨twin, inside, rfl⟩ := others other formed begins
            simpa [Piece.chars, spelledBoth] using short twin inside
      | none =>
          refine ⟨token, 0, by simp [symbol, pair, found], by simp [spelled], ?_⟩
          refine ⟨List.mem_append_left _ written, ?_, ?_⟩
          · simp [Piece.chars, spelled, List.cons_prefix_cons]
          · intro other formed begins
            obtain ⟨twin, inside, rfl⟩ := others other formed begins
            have most : twin.spelling.toList.length ≤ 2 := short twin inside
            have not : twin.spelling.toList.length ≠ 2 := by
              intro two
              have spelledTwin : twin.spelling.toList = [c, d] := by
                have taken := List.prefix_iff_eq_take.mp begins
                simpa [Piece.chars, two] using taken
              rw [(double_iff c d twin).mpr ⟨inside, spelledTwin⟩] at pair
              cases pair
            simp only [Piece.chars, spelled, List.length_cons, List.length_nil]
            omega

theorem symbol_stray (c : Char) (rest : List Char) (other : c ∉ symbols) : symbol c rest = none := by
  have one : single c = none := by
    cases found : single c with
    | none => rfl
    | some token =>
        obtain ⟨member, spelled⟩ := (single_iff c token).mp found
        exact absurd (symbol_chars token member c (by simp [spelled])) other
  cases rest with
  | nil => simp [symbol, one]
  | cons d rest =>
      cases pair : double c d with
      | none => simp [symbol, pair, one]
      | some token =>
          obtain ⟨member, spelled⟩ := (double_iff c d token).mp pair
          exact absurd (symbol_chars token member c (by simp [spelled])) other

/-! One step -/

def Lexed.behind (piece : Piece) (rest : Lexed) : Lexed :=
  { rest with tokens := piece.token?.toList ++ rest.tokens }

/-- A step on a text that begins with a known character: the longest piece is taken, or refused. -/
theorem scan_first (start : Nat) (c : Char) (rest : List Char) (may : known c = true) :
    ∃ piece tail, Leads piece (c :: rest) ∧ c :: rest = piece.chars ++ tail ∧
      (piece.Readable →
        scan start (c :: rest) = (scan (start + piece.chars.length) tail).behind piece) ∧
      (¬ piece.Readable →
        scan start (c :: rest) = ⟨[], some (.badLiteral (String.ofList piece.chars) start)⟩) := by
  obtain ⟨kind, has⟩ := (known_iff c).mp may
  cases kind with
  | space =>
      have space : isWhiteSpace c = true := has
      refine ⟨.blank c, rest, ⟨space, List.prefix_append [c] rest, ?_⟩, rfl, ?_, ?_⟩
      · intro other formed begins
        have single := Piece.space_solitary c space other formed
          (first_mem other formed c rest begins)
        exact Nat.le_of_eq (congrArg List.length single)
      · intro _
        rw [scan, if_pos space]
        rfl
      · intro refused
        exact absurd trivial refused
  | digit =>
      have number : inNumber c = true := has
      have space := number_not_space c number
      have inside : ∀ d ∈ c :: rest.takeWhile inNumber, inNumber d = true :=
        run_kind .digit c rest has
      refine ⟨.number (c :: rest.takeWhile inNumber), rest.drop (rest.takeWhile inNumber).length,
        run_leads .digit c rest has _ ⟨List.cons_ne_nil _ _, inside⟩ rfl, run_rest inNumber c rest,
        ?_, ?_⟩
      · intro readable
        have read := (Literal.read_iff _ _).mpr
          ⟨fun d member => (inNumber_iff d).mp (inside d member), readable, rfl⟩
        rw [scan]
        simp only [space, number, read, Bool.false_eq_true, ↓reduceIte]
        rw [Nat.add_assoc, Nat.add_comm 1]
        rfl
      · intro refused
        have read : Literal.read? (c :: rest.takeWhile inNumber) = none := by
          apply Option.eq_none_iff_forall_ne_some.mpr
          intro value found
          exact refused ((Literal.read_iff _ value).mp found).2.1
        rw [scan]
        simp only [space, number, read, Bool.false_eq_true, ↓reduceIte]
        rfl
  | letter =>
      have letter : isAlphabetic c = true := has
      obtain ⟨piece, formed, readable, run, token⟩ := word_piece (c :: rest.takeWhile isAlphabetic)
        (List.cons_ne_nil _ _) (run_kind .letter c rest has)
      refine ⟨piece, rest.drop (rest.takeWhile isAlphabetic).length,
        run_leads .letter c rest has piece formed run, ?_, ?_, ?_⟩
      · rw [run]
        exact run_rest isAlphabetic c rest
      · intro _
        have number : inNumber c = false := by
          rw [Bool.eq_false_iff]
          intro number
          cases kind_unique .letter .digit c has number
        rw [scan]
        simp only [letter_not_space c letter, number, letter, Bool.false_eq_true, ↓reduceIte]
        rw [Nat.add_assoc, Nat.add_comm 1, Lexed.behind, token, run]
        rfl
      · intro refused
        exact absurd readable refused
  | symbol =>
      have member : c ∈ symbols := by simpa [Kind.has] using has
      obtain ⟨space, number, letter⟩ := symbol_plain c member
      obtain ⟨token, more, found, length, leads⟩ := symbol_leads c rest member
      refine ⟨.fixed token, rest.drop more, leads, ?_, ?_, ?_⟩
      · have joined := List.prefix_iff_eq_append.mp leads.begins
        rw [Piece.chars, length, List.drop_succ_cons] at joined
        exact joined.symm
      · intro _
        rw [scan]
        simp only [space, number, letter, found, Bool.false_eq_true, ↓reduceIte]
        rw [Piece.chars, length, Nat.add_assoc, Nat.add_comm 1]
        rfl
      · intro refused
        exact absurd trivial refused

theorem scan_leads (start : Nat) (piece : Piece) (tail : List Char)
    (leads : Leads piece (piece.chars ++ tail)) :
    (piece.Readable →
      scan start (piece.chars ++ tail) = (scan (start + piece.chars.length) tail).behind piece) ∧
    (¬ piece.Readable →
      scan start (piece.chars ++ tail) =
        ⟨[], some (.badLiteral (String.ofList piece.chars) start)⟩) := by
  obtain ⟨c, more, shape⟩ := List.exists_cons_of_ne_nil (Piece.chars_filled leads.formed)
  have text : piece.chars ++ tail = c :: (more ++ tail) := by rw [shape, List.cons_append]
  have may : known c = true :=
    (known_iff c).mpr ⟨piece.kind, Piece.chars_kind leads.formed c (by simp [shape])⟩
  obtain ⟨twin, rest, first, joined, taken, refused⟩ := scan_first start c (more ++ tail) may
  rw [← text] at first joined taken refused
  have same := leads_unique twin piece _ first leads
  subst same
  have behind := List.append_cancel_left joined
  subst behind
  exact ⟨taken, refused⟩

theorem scan_segments (start : Nat) (text : List Char) (pieces : List Piece)
    (cut : Segments text pieces) (readable : ∀ piece ∈ pieces, piece.Readable) :
    scan start text = ⟨pieces.filterMap Piece.token? ++ [.ending], none⟩ := by
  induction cut generalizing start with
  | nil => rw [scan]; rfl
  | cons piece rest pieces leads more ih =>
      have taken := (scan_leads start piece rest leads).1 (readable piece (List.mem_cons_self ..))
      have later := ih (start + piece.chars.length)
        fun other member => readable other (List.mem_cons_of_mem piece member)
      rw [taken, later]
      cases token : piece.token? <;> simp [Lexed.behind, token]

/-! Where the lexer stops -/

/-- A text whose head is refused, and the fault if the head is at `start`. -/
inductive Stuck (start : Nat) : List Char → Fault → Prop where
  | literal (run after : List Char) (leads : Leads (.number run) (run ++ after))
      (bad : ¬ Literal.WellWritten run) :
      Stuck start (run ++ after) (.badLiteral (String.ofList run) start)
  | character (c : Char) (after : List Char) (unknown : known c = false) :
      Stuck start (c :: after) (.unknownCharacter c start)

def Cut (before after : List Char) : Prop :=
  ∀ d ∈ before.getLast?, ∀ e ∈ after.head?, ¬ (inNumber d = true ∧ inNumber e = true)

theorem leads_shorter (piece : Piece) (text more : List Char) (leads : Leads piece (text ++ more))
    (begins : piece.chars <+: text) : Leads piece text := by
  refine ⟨leads.formed, begins, ?_⟩
  intro other formed also
  exact leads.longest other formed (also.trans (List.prefix_append text more))

theorem digit_piece (piece : Piece) (formed : piece.WellFormed) (d : Char) (member : d ∈ piece.chars)
    (digit : inNumber d = true) : ∃ run, piece = .number run := by
  have kind := Piece.kind_of_char formed d member .digit digit
  cases piece with
  | number run => exact ⟨run, rfl⟩
  | fixed token => exact absurd kind (Piece.fixed_visible formed).2
  | _ => cases kind

theorem leads_cut (piece : Piece) (rest : List Char) (leads : Leads piece (piece.chars ++ rest)) :
    Cut piece.chars rest := by
  rintro d last e first ⟨digit, next⟩
  obtain ⟨run, rfl⟩ := digit_piece piece leads.formed d (List.mem_of_getLast? last) digit
  obtain ⟨more, rfl⟩ := List.head?_eq_some_iff.mp first
  have grown : (Piece.number (run ++ [e])).WellFormed := by
    refine ⟨by simp, ?_⟩
    intro c member
    rcases List.mem_append.mp member with old | new
    · exact leads.formed.2 c old
    · rw [List.mem_singleton.mp new]
      exact next
  have begins : (Piece.number (run ++ [e])).chars <+: run ++ e :: more :=
    ⟨more, by simp [Piece.chars]⟩
  have longer := leads.longest _ grown begins
  simp only [Piece.chars, List.length_append, List.length_cons, List.length_nil] at longer
  omega

theorem cut_append (front before after : List Char) (first : Cut front (before ++ after))
    (later : Cut before after) : Cut (front ++ before) after := by
  cases before with
  | nil => simpa using first
  | cons c more =>
      intro d last
      rw [List.getLast?_append, List.getLast?_cons] at last
      exact later d (by simpa [List.getLast?_cons] using last)

def Legible (text : List Char) : Prop :=
  ∃ pieces, Segments text pieces ∧ ∀ piece ∈ pieces, piece.Readable

theorem legible_cons (piece : Piece) (rest : List Char) (leads : Leads piece (piece.chars ++ rest))
    (readable : piece.Readable) (more : Legible rest) : Legible (piece.chars ++ rest) := by
  obtain ⟨pieces, cut, all⟩ := more
  exact ⟨piece :: pieces, .cons piece rest pieces leads cut,
    List.forall_mem_cons.mpr ⟨readable, all⟩⟩

/-- The lexer reads the text up to `rest`, whose head it refuses. -/
structure Stops (start : Nat) (before rest : List Char) (fault : Fault) : Prop where
  legible : Legible before
  stuck : Stuck (start + before.length) rest fault
  seam : Cut before rest

theorem stops_here (start : Nat) (rest : List Char) (fault : Fault)
    (stuck : Stuck start rest fault) : Stops start [] rest fault :=
  ⟨⟨[], .nil, by simp⟩, stuck, by simp [Cut]⟩

theorem stops_later (start : Nat) (piece : Piece) (before rest : List Char) (fault : Fault)
    (leads : Leads piece (piece.chars ++ (before ++ rest))) (readable : piece.Readable)
    (stops : Stops (start + piece.chars.length) before rest fault) :
    Stops start (piece.chars ++ before) rest fault := by
  have seam := cut_append piece.chars before rest (leads_cut piece _ leads) stops.seam
  rw [← List.append_assoc] at leads
  have first := leads_shorter piece _ rest leads (List.prefix_append ..)
  refine ⟨legible_cons piece before first readable stops.legible, ?_, seam⟩
  rw [List.length_append, ← Nat.add_assoc]
  exact stops.stuck

theorem scan_stray (start : Nat) (c : Char) (rest : List Char) (unknown : known c = false) :
    scan start (c :: rest) = ⟨[], some (.unknownCharacter c start)⟩ := by
  simp only [known, Bool.or_eq_false_iff] at unknown
  obtain ⟨⟨⟨space, number⟩, letter⟩, other⟩ := unknown
  have none := symbol_stray c rest (by simpa using other)
  rw [scan]
  simp only [space, number, letter, none, Bool.false_eq_true, ↓reduceIte]

/-- Texts one piece at a time: empty ones, those with a head that is refused, and those that go on
behind a piece with a meaning. -/
@[elab_as_elim]
theorem text_induction {motive : List Char → Prop} (nil : motive [])
    (stray : ∀ c rest, known c = false → motive (c :: rest))
    (refused : ∀ run rest, Leads (.number run) (run ++ rest) → ¬ Literal.WellWritten run →
      motive (run ++ rest))
    (taken : ∀ piece rest, Leads piece (piece.chars ++ rest) → piece.Readable → motive rest →
      motive (piece.chars ++ rest)) (text : List Char) : motive text := by
  match text with
  | [] => exact nil
  | c :: rest =>
      by_cases may : known c = true
      · obtain ⟨piece, tail, leads, joined, -⟩ := scan_first 0 c rest may
        have shorter := congrArg List.length joined
        have filled := List.length_pos_iff.mpr (Piece.chars_filled leads.formed)
        rw [joined] at leads ⊢
        by_cases readable : piece.Readable
        · exact taken piece tail leads readable (text_induction nil stray refused taken tail)
        · -- only a run of digits is refused
          cases piece with
          | number run => exact refused run tail leads readable
          | _ => exact absurd trivial readable
      · exact stray c rest (Bool.eq_false_iff.mpr may)
termination_by text.length
decreasing_by
  simp only [List.length_append, List.length_cons] at shorter ⊢
  omega

theorem scan_cases (start : Nat) (text : List Char) :
    Legible text ∨ ∃ before rest fault, text = before ++ rest ∧ Stops start before rest fault ∧
      (scan start text).fault = some fault := by
  induction text using text_induction generalizing start with
  | nil => exact .inl ⟨[], .nil, by simp⟩
  | stray c rest unknown =>
      refine .inr ⟨[], _, _, rfl, stops_here start _ _ (.character c rest unknown), ?_⟩
      rw [scan_stray start c rest unknown]
  | refused run rest leads bad =>
      refine .inr ⟨[], _, _, rfl, stops_here start _ _ (.literal run rest leads bad), ?_⟩
      exact congrArg Lexed.fault ((scan_leads start (.number run) rest leads).2 bad)
  | taken piece rest leads readable ih =>
      have run := (scan_leads start piece rest leads).1 readable
      rcases ih (start + piece.chars.length) with more | ⟨before, tail, fault, rfl, stops, stopped⟩
      · exact .inl (legible_cons piece rest leads readable more)
      · refine .inr ⟨piece.chars ++ before, tail, fault, by simp,
          stops_later start piece before tail fault leads readable stops, ?_⟩
        rw [run]
        exact stopped

end RationalCalc.Lexer
