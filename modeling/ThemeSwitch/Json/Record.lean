import ThemeSwitch.Json.Pass

/-! # Records read from JSON

A record has a fixed list of fields, all read in the same way. It is written as an object, in which
other members are passed over, or as a list with the values of the fields in their order. -/
namespace ThemeSwitch.Json

/-- A reader of values, which takes at least one character. -/
structure ValueReader (α : Type) where
  read : List Char → Reading α
  length_lt : ∀ {cs a rest}, read cs = .ok (a, rest) → rest.length < cs.length

/-- The stop at a value that is not of the expected type, where the value begins. -/
def mismatch (expected : String) (cs : List Char) : Stop :=
  let scalar : Reading Found → Stop
    | .ok (found, rest) => .here (.wrongType found expected) rest
    | .error stop => stop
  let word (letters : String) (found : Found) (cs : List Char) : Stop :=
    scalar ((readWord letters.toList cs).map fun rest => (found, rest))
  match cs with
  | [] => .ahead .endInValue []
  | 'n' :: cs => word "ull" .null cs
  | 't' :: cs => word "rue" (.boolean true) cs
  | 'f' :: cs => word "alse" (.boolean false) cs
  | '"' :: cs => scalar ((readString cs).map fun p => (.string (String.ofList p.1), p.2))
  | '[' :: _ => .here (.wrongType .sequence expected) cs
  | '{' :: _ => .here (.wrongType .map expected) cs
  | c :: _ =>
    if c = '-' ∨ c.isDigit then scalar ((readNumber cs).map fun p => (p.1.found, p.2))
    else .ahead .noValue cs

def readText (cs : List Char) : Reading String :=
  match skipBlanks cs with
  | '"' :: cs => (readString cs).map fun p => (String.ofList p.1, p.2)
  | cs => .error (mismatch "a string" cs)

def readBoolean (cs : List Char) : Reading Bool :=
  match skipBlanks cs with
  | 't' :: cs => (readWord "rue".toList cs).map fun rest => (true, rest)
  | 'f' :: cs => (readWord "alse".toList cs).map fun rest => (false, rest)
  | cs => .error (mismatch "a boolean" cs)

def readNull (cs : List Char) : Reading Unit :=
  match skipBlanks cs with
  | 'n' :: cs => (readWord "ull".toList cs).map fun rest => ((), rest)
  | cs => .error (mismatch "unit" cs)

def ValueReader.text : ValueReader String where
  read := readText
  length_lt {cs a rest} h := by
    have := length_skipBlanks_le cs
    unfold readText at h
    split at h
    · obtain ⟨p, hr, e⟩ := map_eq_ok_iff.1 h
      have := length_readString hr
      grind
    · simp at h

def ValueReader.boolean : ValueReader Bool where
  read := readBoolean
  length_lt {cs a rest} h := by
    have := length_skipBlanks_le cs
    unfold readBoolean at h
    split at h
    · obtain ⟨p, hr, e⟩ := map_eq_ok_iff.1 h
      have := length_readWord hr
      grind
    · obtain ⟨p, hr, e⟩ := map_eq_ok_iff.1 h
      have := length_readWord hr
      grind
    · simp at h

structure Shape (α : Type) where
  /-- What errors call the record. -/
  title : String
  fields : List String
  value : ValueReader α
  /-- No field may be missing. -/
  complete : Bool

/-- Fields with their values, in the order in which they were found. -/
abbrev Fields (α : Type) := List (String × α)

/-- What is left after the closing character, if that comes next. -/
def afterClosing (closing : Char) (cs : List Char) : List Char :=
  match skipBlanks cs with
  | c :: rest => if c = closing then rest else c :: rest
  | [] => []

/-- What follows a member: another key, with the rest after its quote, or the end of the object,
with the rest after its brace. -/
def readComma (cs : List Char) : Except Stop (Bool × List Char) :=
  match skipBlanks cs with
  | [] => .error (.ahead .endInObject [])
  | '}' :: rest => .ok (false, rest)
  | ',' :: rest =>
    match skipBlanks rest with
    | [] => .error (.ahead .endInValue [])
    | '"' :: rest => .ok (true, rest)
    | '}' :: rest => .error (.ahead .trailingComma ('}' :: rest))
    | rest => .error (.ahead .keyNotString rest)
  | rest => .error (.ahead .noCommaOrObjectEnd rest)

/-- The end of a list whose elements have been read. -/
def closeList (cs : List Char) : Except Stop (List Char) :=
  match skipBlanks cs with
  | [] => .error (.ahead .endInList [])
  | ']' :: rest => .ok rest
  | ',' :: rest =>
    match skipBlanks rest with
    | ']' :: rest => .error (.ahead .trailingComma (']' :: rest))
    | rest => .error (.ahead .trailingCharacters rest)
  | rest => .error (.ahead .trailingCharacters rest)

theorem length_readComma {cs rest : List Char} {more : Bool} (h : readComma cs = .ok (more, rest)) :
    rest.length < cs.length := by
  unfold readComma at h
  split at h
  · cases h
  · next tail hclose =>
    cases h
    exact length_lt_of_skipBlanks hclose
  · next tail hcomma =>
    split at h
    · cases h
    · next key hquote =>
      cases h
      exact Nat.lt_trans (length_lt_of_skipBlanks hquote) (length_lt_of_skipBlanks hcomma)
    · cases h
    · cases h
  · cases h

namespace Shape

variable {α : Type} (shape : Shape α)

/-- The value of a member, which is passed over unless its key is a field. -/
def readMember (found : Fields α) (key : String) (cs : List Char) : Reading (Fields α) :=
  if key ∈ shape.fields then (shape.value.read cs).map fun p => (found ++ [(key, p.1)], p.2)
  else (passValue [] cs).map fun rest => (found, rest)

theorem length_readMember {found fields : Fields α} {key : String} {cs rest : List Char}
    (h : shape.readMember found key cs = .ok (fields, rest)) : rest.length < cs.length := by
  unfold readMember at h
  split at h
  · obtain ⟨p, hr, e⟩ := map_eq_ok_iff.1 h
    have := shape.value.length_lt hr
    grind
  · obtain ⟨p, hr, e⟩ := map_eq_ok_iff.1 h
    have := length_passValue hr
    grind

/-- The members of an object from after the quote of a key, with those found before it. -/
def readMembers (found : Fields α) (cs : List Char) : Reading (Fields α) :=
  match _hs : readString cs with
  | .error stop => .error stop
  | .ok (key, rest) =>
    let key := String.ofList key
    if key ∈ shape.fields ∧ key ∈ found.map (·.1) then
      .error (.here (.duplicate key) (afterClosing '}' rest))
    else
      match _hc : readColon rest with
      | .error stop => .error stop
      | .ok rest =>
        match _hm : shape.readMember found key rest with
        | .error stop => .error stop
        | .ok (found, rest) =>
          match _hn : readComma rest with
          | .error stop => .error stop
          | .ok (false, rest) => .ok (found, rest)
          | .ok (true, rest) => readMembers found rest
termination_by cs.length
decreasing_by
  have := length_readString _hs
  have := length_readColon _hc
  have := shape.length_readMember _hm
  have := length_readComma _hn
  omega

/-- The fields of an object, from after its brace. -/
def readObject (cs : List Char) : Reading (Fields α) :=
  match skipBlanks cs with
  | [] => .error (.ahead .endInObject [])
  | '}' :: rest => .ok ([], rest)
  | '"' :: rest => shape.readMembers [] rest
  | rest => .error (.ahead .keyNotString rest)

/-- The elements that a list holds for the given fields, from after its bracket or an element. -/
def readElements : List String → Fields α → List Char → Reading (Fields α)
  | [], found, cs => .ok (found, cs)
  | field :: fields, found, cs =>
    let element (cs : List Char) : Reading (Fields α) :=
      match shape.value.read cs with
      | .error stop => .error stop
      | .ok (a, rest) => readElements fields (found ++ [(field, a)]) rest
    match skipBlanks cs, found with
    | [], _ => .error (.ahead .endInList [])
    | ']' :: rest, _ => .ok (found, ']' :: rest)
    | rest, [] => element rest
    | ',' :: rest, _ =>
      match skipBlanks rest with
      | [] => .error (.ahead .endInValue [])
      | ']' :: rest => .error (.ahead .trailingComma (']' :: rest))
      | rest => element rest
    | rest, _ => .error (.ahead .noCommaOrListEnd rest)

/-- The expectation that too short a list does not meet. -/
def expectation : String :=
  let n := shape.fields.length
  shape.title ++ " with " ++ toString n ++ (if n = 1 then " element" else " elements")

/-- The fields that a text begins with, as an object or as a list. -/
def read (cs : List Char) : Reading (Fields α) :=
  match skipBlanks cs with
  | '{' :: cs =>
    match shape.readObject cs with
    | .error stop => .error stop
    | .ok (found, rest) =>
      match shape.fields.find? fun field => shape.complete && !(found.map (·.1)).contains field with
      | some field => .error (.here (.missing field) rest)
      | none => .ok (found, rest)
  | '[' :: cs =>
    match shape.readElements shape.fields [] cs with
    | .error stop => .error stop
    | .ok (found, rest) =>
      if shape.complete ∧ found.length < shape.fields.length then
        .error (.here (.tooShort found.length shape.expectation) (afterClosing ']' rest))
      else (closeList rest).map fun rest => (found, rest)
  | cs => .error (mismatch shape.title cs)

end Shape

/-- What a reader finds in a whole text, of which only blanks may be left. -/
def readWhole {α : Type} (read : List Char → Reading α) (text : List Char) : Except Stop α :=
  match read text with
  | .error stop => .error stop
  | .ok (a, rest) =>
    match skipBlanks rest with
    | [] => .ok a
    | rest => .error (.ahead .trailingCharacters rest)

end ThemeSwitch.Json
