import RationalCalc.Text.Quoted
import RationalCalc.Token

/-!
Why a text has no value. There is one fault for each cause; the kind groups causes that a caller
treats alike, and the message is what a user reads. Only the two faults of the lexer know where in
the text they arose.
-/

namespace RationalCalc

inductive Kind where
  | invalidNumber
  | unknownCharacter
  | mismatchedParentheses
  | unexpectedToken
  | stackUnderflow
  | unknownIdentifier
  | divisionByZero
  | infiniteResult
  | resultTooBig
  | invalidExpression
  | moduloRequiresInt
  | modByZero
  | permutationRequiresInt
  | invalidPermutation
  | combinationRequiresInt
  | invalidCombination
  | factorialRequiresInt
  | factorialNegative
  deriving DecidableEq

def Kind.label : Kind → String
  | invalidNumber => "InvalidNumber"
  | unknownCharacter => "UnknownCharacter"
  | mismatchedParentheses => "MismatchedParentheses"
  | unexpectedToken => "UnexpectedToken"
  | stackUnderflow => "StackUnderflow"
  | unknownIdentifier => "UnknownIdentifier"
  | divisionByZero => "DivisionByZero"
  | infiniteResult => "InfiniteResult"
  | resultTooBig => "ResultTooBig"
  | invalidExpression => "InvalidExpression"
  | moduloRequiresInt => "ModuloRequiresInt"
  | modByZero => "ModByZero"
  | permutationRequiresInt => "PermutationRequiresInt"
  | invalidPermutation => "InvalidPermutation"
  | combinationRequiresInt => "CombinationRequiresInt"
  | invalidCombination => "InvalidCombination"
  | factorialRequiresInt => "FactorialRequiresInt"
  | factorialNegative => "FactorialNegative"

inductive Fault where
  /-- A run of digits and points that is no decimal literal. -/
  | badLiteral (raw : String) (start : Nat)
  | unknownCharacter (c : Char) (start : Nat)
  | unbalanced
  /-- A token that follows the ending. -/
  | afterEnding (token : Token)
  /-- A sign among the tokens to convert. -/
  | strayToken (token : Token)
  /-- A parenthesis or a sign in a program. -/
  | notExecutable (token : Token)
  | missingOperand
  /-- The number of values left when a program did not end with exactly one. -/
  | leftover (depth : Nat)
  | unknownName (name : String)
  | zeroDivisor
  | zeroFloorDivisor
  | zeroToNegative
  | notFinite
  | tooBig
  | fractionalRemainder
  | zeroModulus
  | fractionalArrangement
  | arrangementRange
  | fractionalCombination
  | combinationRange
  | fractionalFactorial
  | negativeFactorial
  deriving DecidableEq

namespace Fault

def kind : Fault → Kind
  | badLiteral _ _ => .invalidNumber
  | unknownCharacter _ _ => .unknownCharacter
  | unbalanced => .mismatchedParentheses
  | afterEnding _ => .unexpectedToken
  | strayToken _ => .unexpectedToken
  | notExecutable _ => .unexpectedToken
  | missingOperand => .stackUnderflow
  | leftover _ => .invalidExpression
  | unknownName _ => .unknownIdentifier
  | zeroDivisor => .divisionByZero
  | zeroFloorDivisor => .divisionByZero
  | zeroToNegative => .divisionByZero
  | notFinite => .infiniteResult
  | tooBig => .resultTooBig
  | fractionalRemainder => .moduloRequiresInt
  | zeroModulus => .modByZero
  | fractionalArrangement => .permutationRequiresInt
  | arrangementRange => .invalidPermutation
  | fractionalCombination => .combinationRequiresInt
  | combinationRange => .invalidCombination
  | fractionalFactorial => .factorialRequiresInt
  | negativeFactorial => .factorialNegative

/-- Positions count characters of the text, from zero. -/
def position? : Fault → Option Nat
  | badLiteral _ start => some start
  | unknownCharacter _ start => some start
  | _ => none

def message : Fault → String
  | badLiteral raw _ => "nombre invalide: " ++ raw
  | unknownCharacter c start =>
      "caractère inconnu: " ++ Text.quoteChar c ++ " à la position " ++ start.repr
  | unbalanced => "parenthèses non appariées"
  | afterEnding token => "jeton inattendu après la fin: " ++ token.spelling
  | strayToken token => "jeton inattendu: " ++ token.spelling
  | notExecutable token => "jeton inattendu en RPN: " ++ token.spelling
  | missingOperand => "pile vide (opérande manquant)"
  | leftover depth => "expression invalide, la pile contient " ++ depth.repr ++ " éléments"
  | unknownName name => "identifiant inconnu: " ++ name
  | zeroDivisor => "division par zéro"
  | zeroFloorDivisor => "division entière par zéro"
  | zeroToNegative => "division par zéro (0 ^ négatif)"
  | notFinite => "résultat infini ou indéfini"
  | tooBig => "résultat trop grand"
  | fractionalRemainder => "le modulo exige des entiers"
  | zeroModulus => "modulo par zéro"
  | fractionalArrangement => "les arrangements exigent des entiers"
  | arrangementRange => "arrangement invalide (il faut 0 <= r <= n)"
  | fractionalCombination => "les combinaisons exigent des entiers"
  | combinationRange => "combinaison invalide (il faut 0 <= r <= n)"
  | fractionalFactorial => "la factorielle exige un entier"
  | negativeFactorial => "factorielle d'un nombre négatif"

end Fault

end RationalCalc
