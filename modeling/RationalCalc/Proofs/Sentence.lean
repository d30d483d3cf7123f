import RationalCalc.Token

/-!
Infix sentences. A sentence is one item or several joined by binary operators; an item is a primary
with signs before it and bangs after it; a primary is a number, a name or a sentence in parentheses.
The grammar says nothing about how tightly operators bind.
-/

namespace RationalCalc

def Operator.isSign (op : Operator) : Prop :=
  op = .plus ∨ op = .minus

mutual

inductive Primary : List Token → Prop where
  | number (value : Rat) : Primary [.number value]
  | name (text : String) : Primary [.name text]
  | group (tokens : List Token) (inner : Sentence tokens) :
      Primary (.opening :: tokens ++ [.closing])

inductive Item : List Token → Prop where
  | intro (signs : List Operator) (tokens : List Token) (bangs : Nat)
      (signed : ∀ op ∈ signs, op.isSign) (primary : Primary tokens) :
      Item (signs.map .operator ++ tokens ++ List.replicate bangs .bang)

inductive Sentence : List Token → Prop where
  | item (tokens : List Token) (only : Item tokens) : Sentence tokens
  | join (tokens : List Token) (op : Operator) (more : List Token)
      (first : Sentence tokens) (last : Item more) : Sentence (tokens ++ .operator op :: more)

end

namespace Sentence

/-- Whether tokens bring a sentence to its end. Of the sentence `depth` parentheses are open, and
`after` says that it stands behind an operand. -/
def completes : Bool → Nat → List Token → Prop
  | false, depth, .number _ :: rest => completes true depth rest
  | false, depth, .name _ :: rest => completes true depth rest
  | false, depth, .opening :: rest => completes false (depth + 1) rest
  | false, depth, .operator op :: rest => op.isSign ∧ completes false depth rest
  | true, depth, .operator _ :: rest => completes false depth rest
  | true, depth, .bang :: rest => completes true depth rest
  | true, depth + 1, .closing :: rest => completes true depth rest
  | true, 0, [] => True
  | _, _, _ => False

theorem completes_bangs (bangs depth : Nat) (rest : List Token)
    (follows : completes true depth rest) :
    completes true depth (List.replicate bangs .bang ++ rest) := by
  induction bangs with
  | zero => exact follows
  | succ bangs ih => simpa [List.replicate_succ, completes] using ih

theorem completes_signs (signs : List Operator) (depth : Nat) (rest : List Token)
    (signed : ∀ op ∈ signs, op.isSign) (follows : completes false depth rest) :
    completes false depth (signs.map .operator ++ rest) := by
  induction signs with
  | nil => exact follows
  | cons op signs ih =>
      have tail := ih fun other member => signed other (List.mem_cons_of_mem op member)
      exact ⟨signed op (List.mem_cons_self ..), tail⟩

mutual

theorem completes_primary : ∀ {tokens : List Token}, Primary tokens → ∀ depth rest,
    completes true depth rest → completes false depth (tokens ++ rest)
  | _, .number _, _, _, follows => follows
  | _, .name _, _, _, follows => follows
  | _, .group tokens inner, depth, rest, follows => by
      have closed : completes true (depth + 1) (.closing :: rest) := follows
      simpa [completes] using completes_sentence inner (depth + 1) (.closing :: rest) closed

theorem completes_item : ∀ {tokens : List Token}, Item tokens → ∀ depth rest,
    completes true depth rest → completes false depth (tokens ++ rest)
  | _, .intro signs tokens bangs signed primary, depth, rest, follows => by
      have tail := completes_bangs bangs depth rest follows
      have whole := completes_signs signs depth _ signed (completes_primary primary depth _ tail)
      simpa only [List.append_assoc] using whole

theorem completes_sentence : ∀ {tokens : List Token}, Sentence tokens → ∀ depth rest,
    completes true depth rest → completes false depth (tokens ++ rest)
  | _, .item _ only, depth, rest, follows => completes_item only depth rest follows
  | _, .join tokens op more first last, depth, rest, follows => by
      have tail : completes true depth (.operator op :: (more ++ rest)) :=
        completes_item last depth rest follows
      simpa only [List.append_assoc, List.cons_append] using completes_sentence first depth _ tail

end

/-! What completes a sentence is one -/

theorem bang {tokens : List Token} (sentence : Sentence tokens) : Sentence (tokens ++ [.bang]) := by
  have longer : ∀ {item : List Token}, Item item → Item (item ++ [.bang]) := by
    rintro _ ⟨signs, tokens, bangs, signed, primary⟩
    have whole := Item.intro signs tokens (bangs + 1) signed primary
    simpa only [List.replicate_succ', List.append_assoc] using whole
  cases sentence with
  | item _ only => exact .item _ (longer only)
  | join tokens op more first last =>
      simpa only [List.append_assoc, List.cons_append] using Sentence.join _ op _ first (longer last)

def Awaits (tokens : List Token) : Prop :=
  ∀ item, Item item → Sentence (tokens ++ item)

theorem awaits_nil : Awaits [] :=
  .item

theorem awaits_operator {tokens : List Token} (op : Operator) (sentence : Sentence tokens) :
    Awaits (tokens ++ [.operator op]) := by
  intro item last
  simpa only [List.append_assoc, List.singleton_append] using Sentence.join tokens op item sentence last

theorem awaits_sign {tokens : List Token} (op : Operator) (mark : op.isSign) (awaits : Awaits tokens) :
    Awaits (tokens ++ [.operator op]) := by
  rintro _ ⟨signs, item, bangs, signed, primary⟩
  have marks : ∀ other ∈ op :: signs, other.isSign := by
    intro other member
    rcases List.mem_cons.mp member with rfl | later
    · exact mark
    · exact signed other later
  have whole := awaits _ (.intro (op :: signs) item bangs marks primary)
  simpa only [List.map_cons, List.append_assoc, List.cons_append, List.nil_append] using whole

theorem awaits_primary {tokens primary : List Token} (awaits : Awaits tokens)
    (operand : Primary primary) : Sentence (tokens ++ primary) := by
  simpa using awaits _ (.intro [] primary 0 (by simp) operand)

/-- What stands before the innermost open parenthesis, that parenthesis included; `frames` are the
parts between the open parentheses, the innermost first. -/
def opened : List (List Token) → List Token
  | [] => []
  | frame :: outer => opened outer ++ frame ++ [.opening]

theorem completed (tokens current : List Token) (after : Bool) (frames : List (List Token))
    (outside : ∀ frame ∈ frames, Awaits frame)
    (inside : if after then Sentence current else Awaits current)
    (follows : completes after frames.length tokens) :
    Sentence (opened frames ++ current ++ tokens) := by
  -- what was read of the innermost sentence is whole behind an operand, and awaits one elsewhere
  induction tokens generalizing current after frames with
  | nil =>
      cases after with
      | false => exact follows.elim
      | true =>
          cases frames with
          | nil => simpa [opened] using inside
          | cons frame outer => exact follows.elim
  | cons token rest ih =>
      have read (next : Bool) (outside : ∀ frame ∈ frames, Awaits frame)
          (inside : if next then Sentence (current ++ [token]) else Awaits (current ++ [token]))
          (follows : completes next frames.length rest) :
          Sentence (opened frames ++ current ++ token :: rest) := by
        simpa using ih (current ++ [token]) next frames outside inside follows
      cases after with
      | false =>
          cases token with
          | number value => exact read true outside (awaits_primary inside (.number value)) follows
          | name text => exact read true outside (awaits_primary inside (.name text)) follows
          | operator op =>
              exact read false outside (awaits_sign op follows.1 inside) follows.2
          | opening =>
              have deeper : ∀ frame ∈ current :: frames, Awaits frame := by
                intro frame member
                rcases List.mem_cons.mp member with rfl | outer
                · exact inside
                · exact outside frame outer
              simpa [opened] using ih [] false (current :: frames) deeper awaits_nil follows
          | _ => exact follows.elim
      | true =>
          cases token with
          | operator op => exact read false outside (awaits_operator op inside) follows
          | bang => exact read true outside inside.bang follows
          | closing =>
              cases frames with
              | nil => exact follows.elim
              | cons frame outer =>
                  have group := awaits_primary (outside frame (List.mem_cons_self ..))
                    (.group current inside)
                  have further : ∀ frame ∈ outer, Awaits frame := fun other member =>
                    outside other (List.mem_cons_of_mem frame member)
                  simpa [opened] using ih _ true outer further group follows
          | _ => exact follows.elim

theorem sentence_iff (tokens : List Token) : Sentence tokens ↔ completes false 0 tokens := by
  constructor
  · intro sentence
    simpa using completes_sentence sentence 0 [] trivial
  · intro follows
    simpa [opened] using completed tokens [] false [] (by simp) awaits_nil follows

end Sentence

end RationalCalc
