/-!
The lines of a stream of bytes. A line ends with a newline, or with the stream if anything is left;
one carriage return just before the newline belongs to the line end.
-/

namespace RationalCalc.CommandLine

def newline : UInt8 := 10
def carriageReturn : UInt8 := 13

/-- A line read backwards, without a carriage return at its end. -/
def withoutReturn : List UInt8 → List UInt8
  | [] => []
  | byte :: line => if byte = carriageReturn then line else byte :: line

/-- The lines of a stream of which `line` has been read, backwards. -/
def linesAfter (line : List UInt8) : List UInt8 → List (List UInt8)
  | [] => if line.isEmpty then [] else [line.reverse]
  | byte :: rest =>
      if byte = newline then (withoutReturn line).reverse :: linesAfter [] rest
      else linesAfter (byte :: line) rest

def lines (stream : List UInt8) : List (List UInt8) :=
  linesAfter [] stream

def decode? (line : List UInt8) : Option String :=
  String.fromUTF8? ⟨line.toArray⟩

end RationalCalc.CommandLine
