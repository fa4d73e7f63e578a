import ThemeSwitch.Unicode.CharSet

/-! # Sets of ASCII characters -/
namespace ThemeSwitch.Unicode.CharSet

def asciiDigits : CharSet := range '0' '9'

def asciiLetters : CharSet := union (range 'A' 'Z') (range 'a' 'z')

def asciiBlanks : CharSet := union (single ' ') (range '\t' '\r')

def asciiWordParts : CharSet := unions [asciiDigits, asciiLetters, single '_']

/-- The sets that a class names between `[:` and `:]`. -/
def ofAsciiName? : String → Option CharSet
  | "alnum" => some (union asciiDigits asciiLetters)
  | "alpha" => some asciiLetters
  | "ascii" => some ascii
  | "blank" => some (union (single ' ') (single '\t'))
  | "cntrl" => some (union (range '\x00' '\x1F') (single '\x7F'))
  | "digit" => some asciiDigits
  | "graph" => some (range '!' '~')
  | "lower" => some (range 'a' 'z')
  | "print" => some (range ' ' '~')
  | "punct" => some (diff (range '!' '~') (union asciiDigits asciiLetters))
  | "space" => some asciiBlanks
  | "upper" => some (range 'A' 'Z')
  | "word" => some asciiWordParts
  | "xdigit" => some (unions [asciiDigits, range 'a' 'f', range 'A' 'F'])
  | _ => Option.none

/-- The set with the letters of ASCII that differ from its own in case only. -/
def foldedAscii (s : CharSet) : CharSet :=
  let small := (List.range 26).map (· + 'a'.toNat)
  let capital := (List.range 26).map (· + 'A'.toNat)
  let other (codes others : List Nat) : List Nat :=
    ((codes.zip others).filter fun row => s.hasCode row.1).map (·.2)
  union s (ofCodes (other small capital ++ other capital small))

end ThemeSwitch.Unicode.CharSet
