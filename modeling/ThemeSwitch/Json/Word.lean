import ThemeSwitch.Json.Stop
import ThemeSwitch.Text.Digits

/-! # JSON blanks, words and strings

Each reader takes the beginning of a text and gives what it read and the rest, which is shorter. -/
namespace ThemeSwitch.Json

/-- What a reader that succeeds gives: a value and the rest of the text. -/
abbrev Reading (α : Type) := Except Stop (α × List Char)

theorem map_eq_ok_iff {α β : Type} {x : Except Stop α} {f : α → β} {b : β} :
    x.map f = .ok b ↔ ∃ a, x = .ok a ∧ f a = b := by
  cases x <;> simp [Except.map]

theorem bind_eq_ok_iff {α β : Type} {x : Except Stop α} {f : α → Except Stop β} {b : β} :
    x.bind f = .ok b ↔ ∃ a, x = .ok a ∧ f a = .ok b := by
  cases x <;> simp [Except.bind]

def isBlank (c : Char) : Bool := c = ' ' || c = '\n' || c = '\t' || c = '\r'

def skipBlanks (cs : List Char) : List Char := cs.dropWhile isBlank

/-- Takes the letters of a word that has begun. -/
def readWord : List Char → List Char → Except Stop (List Char)
  | [], cs => .ok cs
  | _ :: _, [] => .error (.here .endInValue [])
  | w :: ws, c :: cs => if c = w then readWord ws cs else .error (.ahead .noWord (c :: cs))

/-- The four digits of a numbered escape. What counts is the next four bytes: where fewer are left
the text ends too early, and where they are no digits the escape is bad. -/
def readHex (cs : List Char) : Reading Nat :=
  match cs with
  | a :: b :: c :: d :: rest =>
    match Text.hexadecimal? [a, b, c, d] with
    | some n => .ok (n, rest)
    | none => .error ⟨.badEscape, byteLength cs - 4⟩
  | _ =>
    if byteLength cs < 4 then .error (.here .endInString [])
    else .error ⟨.badEscape, byteLength cs - 4⟩

def isTrailing (unit : Nat) : Bool := 0xDC00 ≤ unit && unit ≤ 0xDFFF

def isLeading (unit : Nat) : Bool := 0xD800 ≤ unit && unit ≤ 0xDBFF

/-- The character of two surrogates. -/
def joined (leading trailing : Nat) : Char :=
  Char.ofNat ((leading - 0xD800) * 0x400 + (trailing - 0xDC00) + 0x10000)

/-- The second of two numbered escapes that give one character together. -/
def readTrailing (leading : Nat) : List Char → Reading Char
  | '\\' :: 'u' :: cs =>
    match readHex cs with
    | .error stop => .error stop
    | .ok (n, rest) =>
      if isTrailing n then .ok (joined leading n, rest) else .error (.here .loneSurrogate rest)
  | ['\\'] => .error (.here .endInString [])
  | '\\' :: cs => .error (.ahead .endOfHexEscape cs)
  | [] => .error (.here .endInString [])
  | cs => .error (.ahead .endOfHexEscape cs)

/-- The character of an escape, after its backslash. -/
def readEscape : List Char → Reading Char
  | [] => .error (.here .endInString [])
  | '"' :: cs => .ok ('"', cs)
  | '\\' :: cs => .ok ('\\', cs)
  | '/' :: cs => .ok ('/', cs)
  | 'b' :: cs => .ok ('\x08', cs)
  | 'f' :: cs => .ok ('\x0c', cs)
  | 'n' :: cs => .ok ('\n', cs)
  | 'r' :: cs => .ok ('\r', cs)
  | 't' :: cs => .ok ('\t', cs)
  | 'u' :: cs =>
    match readHex cs with
    | .error stop => .error stop
    | .ok (n, rest) =>
      if isTrailing n then .error (.here .loneSurrogate rest)
      else if isLeading n then readTrailing n rest
      else .ok (Char.ofNat n, rest)
  | cs => .error (.ahead .badEscape cs)

theorem length_readHex {cs rest : List Char} {n : Nat} (h : readHex cs = .ok (n, rest)) :
    rest.length < cs.length := by
  unfold readHex at h
  split at h
  · next a b c d tail =>
    split at h
    · cases h
      simp only [List.length_cons]
      omega
    · cases h
  · split at h
    · cases h
    · cases h

/-- A second surrogate is read only from a numbered escape. -/
theorem readTrailing_numbered {leading : Nat} {cs rest : List Char} {c : Char}
    (h : readTrailing leading cs = .ok (c, rest)) :
    ∃ digits n, cs = '\\' :: 'u' :: digits ∧ readHex digits = .ok (n, rest) := by
  unfold readTrailing at h
  split at h
  · next digits =>
    split at h
    · cases h
    · next n tail hex =>
      split at h
      · simp only [Except.ok.injEq, Prod.mk.injEq] at h
        exact ⟨digits, n, rfl, h.2 ▸ hex⟩
      · cases h
  · cases h
  · cases h
  · cases h
  · cases h

theorem length_readTrailing {l : Nat} {cs rest : List Char} {c : Char}
    (h : readTrailing l cs = .ok (c, rest)) : rest.length < cs.length := by
  obtain ⟨digits, n, rfl, hex⟩ := readTrailing_numbered h
  have := length_readHex hex
  simp only [List.length_cons]
  omega

/-- An escape is one sign, or a number with perhaps a second one after it. -/
theorem readEscape_cases {cs rest : List Char} {c : Char} (h : readEscape cs = .ok (c, rest)) :
    (∃ sign, cs = sign :: rest) ∨
    ∃ digits n tail, cs = 'u' :: digits ∧ readHex digits = .ok (n, tail) ∧
      (tail = rest ∨ readTrailing n tail = .ok (c, rest)) := by
  unfold readEscape at h
  split at h
  case h_10 digits =>
    split at h
    · cases h
    · next n tail hex =>
      split at h
      · next trailing => cases h
      · split at h
        · next leading => exact .inr ⟨digits, n, tail, rfl, hex, .inr h⟩
        · next single =>
          cases h
          exact .inr ⟨digits, n, _, rfl, hex, .inl rfl⟩
  -- the end of the text and a sign that is no escape
  case h_1 | h_11 => cases h
  -- the escapes of one sign
  all_goals
    cases h
    exact .inl ⟨_, rfl⟩

theorem length_readEscape {cs rest : List Char} {c : Char} (h : readEscape cs = .ok (c, rest)) :
    rest.length < cs.length := by
  rcases readEscape_cases h with ⟨sign, rfl⟩ | ⟨digits, n, tail, rfl, hex, rfl | paired⟩
  · simp
  · have := length_readHex hex
    simp only [List.length_cons]
    omega
  · have := length_readHex hex
    have := length_readTrailing paired
    simp only [List.length_cons]
    omega

/-- The characters of a string, after its opening quote. -/
def readString (cs : List Char) : Reading (List Char) :=
  match cs with
  | [] => .error (.here .endInString [])
  | '"' :: cs => .ok ([], cs)
  | '\\' :: cs =>
    match _h : readEscape cs with
    | .error stop => .error stop
    | .ok (c, rest) => (readString rest).map fun p => (c :: p.1, p.2)
  | c :: cs =>
    if c.toNat < 0x20 then .error (.ahead .controlCharacter (c :: cs))
    else (readString cs).map fun p => (c :: p.1, p.2)
termination_by cs.length
decreasing_by
  · have := length_readEscape _h
    simp
    omega
  · simp

/-- The rest after an escape that nobody asks for. -/
def passEscape : List Char → Except Stop (List Char)
  | [] => .error (.here .endInString [])
  | 'u' :: cs =>
    match readHex cs with
    | .error stop => .error stop
    | .ok (_, rest) => .ok rest
  | c :: cs =>
    if "\"\\/bfnrt".toList.contains c then .ok cs else .error (.ahead .badEscape (c :: cs))

theorem length_passEscape {cs rest : List Char} (h : passEscape cs = .ok rest) :
    rest.length < cs.length := by
  unfold passEscape at h
  split at h
  · cases h
  · next digits =>
    split at h
    · cases h
    · next n tail hex =>
      have := length_readHex hex
      cases h
      simp only [List.length_cons]
      omega
  · split at h
    · cases h
      simp
    · cases h

/-- The rest after a string that nobody asks for, from after its opening quote. Surrogates may
stand alone in it. -/
def passString (cs : List Char) : Except Stop (List Char) :=
  match cs with
  | [] => .error (.here .endInString [])
  | '"' :: cs => .ok cs
  | '\\' :: cs =>
    match _h : passEscape cs with
    | .error stop => .error stop
    | .ok rest => passString rest
  | c :: cs =>
    if c.toNat < 0x20 then .error (.here .controlCharacter (c :: cs)) else passString cs
termination_by cs.length
decreasing_by
  · have := length_passEscape _h
    simp
    omega
  · simp

theorem length_skipBlanks_le (cs : List Char) : (skipBlanks cs).length ≤ cs.length :=
  (List.dropWhile_suffix _).length_le

theorem length_lt_of_skipBlanks {cs rest : List Char} {c : Char} (h : skipBlanks cs = c :: rest) :
    rest.length < cs.length := by
  have := length_skipBlanks_le cs
  rw [h, List.length_cons] at this
  exact this

theorem length_readWord {ws cs rest : List Char} (h : readWord ws cs = .ok rest) :
    rest.length ≤ cs.length := by
  induction ws generalizing cs with
  | nil => simp_all [readWord]
  | cons w ws ih =>
    cases cs with
    | nil => simp [readWord] at h
    | cons c cs =>
      rw [readWord] at h
      split at h
      · have := ih h
        simp
        omega
      · simp at h

theorem length_passString {cs rest : List Char} (h : passString cs = .ok rest) :
    rest.length < cs.length := by
  fun_induction passString cs with
  | case1 | case3 | case5 => cases h
  -- the closing quote
  | case2 =>
    cases h
    simp
  -- an escape
  | case4 escaped tail hescape ih =>
    have := length_passEscape hescape
    have := ih h
    simp only [List.length_cons]
    omega
  -- any other character
  | case6 c tail _ _ _ ih => exact Nat.lt_succ_of_lt (ih h)

theorem length_readString {cs s rest : List Char} (h : readString cs = .ok (s, rest)) :
    rest.length < cs.length := by
  fun_induction readString cs generalizing s rest with
  | case1 | case3 | case5 => cases h
  -- the closing quote
  | case2 =>
    cases h
    simp
  -- an escape
  | case4 escaped c tail hescape ih =>
    obtain ⟨p, hread, e⟩ := map_eq_ok_iff.1 h
    cases e
    have := length_readEscape hescape
    have := ih hread
    simp only [List.length_cons]
    omega
  -- any other character
  | case6 c tail _ _ _ ih =>
    obtain ⟨p, hread, e⟩ := map_eq_ok_iff.1 h
    cases e
    exact Nat.lt_succ_of_lt (ih hread)

end ThemeSwitch.Json
