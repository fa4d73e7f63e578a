import ThemeSwitch.Json.Number

/-! # Passing over a JSON value

A value that nobody asks for is passed over, however deep it goes: the containers that are open are
kept in a list. Its form is checked, but neither the range of its numbers nor the pairs of its
surrogates. -/
namespace ThemeSwitch.Json

/-- A container that is open. -/
inductive Frame
  | list
  | object
deriving DecidableEq

namespace Frame

def close : Frame → Char
  | list => ']'
  | object => '}'

/-- The text ended in the container. -/
def ended : Frame → Cause
  | list => .endInList
  | object => .endInObject

/-- Something stands after an element that does not belong there. -/
def noComma : Frame → Cause
  | list => .noCommaOrListEnd
  | object => .noCommaOrObjectEnd

end Frame

/-- Passes a value that is no container, given its first character. -/
def passScalar (c : Char) (cs : List Char) : Except Stop (List Char) :=
  if c = 'n' then readWord "ull".toList cs
  else if c = 't' then readWord "rue".toList cs
  else if c = 'f' then readWord "alse".toList cs
  else if c = '"' then passString cs
  else if c = '-' ∨ c.isDigit then passNumber (c :: cs)
  else .error (.ahead .noValue (c :: cs))

/-- Takes a colon. -/
def readColon (cs : List Char) : Except Stop (List Char) :=
  match skipBlanks cs with
  | [] => .error (.ahead .endInObject [])
  | ':' :: rest => .ok rest
  | rest => .error (.ahead .noColon rest)

/-- Passes what stands in front of an element: in an object a key and a colon. -/
def passKey : Frame → List Char → Except Stop (List Char)
  | .list, cs => .ok cs
  | .object, cs =>
    match skipBlanks cs with
    | [] => .error (.ahead .endInObject [])
    | '"' :: rest => (passString rest).bind readColon
    | rest => .error (.ahead .keyNotString rest)

theorem length_passScalar {c : Char} {cs rest : List Char} (h : passScalar c cs = .ok rest) :
    rest.length ≤ cs.length := by
  unfold passScalar at h
  split at h
  · exact length_readWord h
  split at h
  · exact length_readWord h
  split at h
  · exact length_readWord h
  split at h
  · exact Nat.le_of_lt (length_passString h)
  split at h
  · have := length_passNumber h
    simp at this
    omega
  · simp at h

theorem length_readColon {cs rest : List Char} (h : readColon cs = .ok rest) :
    rest.length < cs.length := by
  unfold readColon at h
  split at h
  · cases h
  · next tail hcolon =>
    cases h
    exact length_lt_of_skipBlanks hcolon
  · cases h

theorem length_passKey {frame : Frame} {cs rest : List Char} (h : passKey frame cs = .ok rest) :
    rest.length ≤ cs.length := by
  cases frame with
  | list =>
    cases h
    exact Nat.le_refl _
  | object =>
    simp only [passKey] at h
    split at h
    · cases h
    · next key hquote =>
      obtain ⟨colon, hkey, hcolon⟩ := bind_eq_ok_iff.1 h
      have := length_lt_of_skipBlanks hquote
      have := length_passString hkey
      have := length_readColon hcolon
      omega
    · cases h

mutual

/-- Passes a value that stands in the given containers, the innermost first, and then what is left
of these. -/
def passValue (frames : List Frame) (cs : List Char) : Except Stop (List Char) :=
  match _h : skipBlanks cs with
  | [] => .error (.ahead .endInValue [])
  | '[' :: rest => passFirst .list frames rest
  | '{' :: rest => passFirst .object frames rest
  | c :: rest =>
    match _hs : passScalar c rest with
    | .error stop => .error stop
    | .ok rest => passAfter frames rest
termination_by (cs.length, 0)
decreasing_by
  all_goals
    have := length_skipBlanks_le cs
    simp only [_h, List.length_cons] at this
    apply Prod.Lex.left
  · omega
  · omega
  · have := length_passScalar _hs
    omega

/-- Goes on after the opening of a container. -/
def passFirst (frame : Frame) (frames : List Frame) (cs : List Char) : Except Stop (List Char) :=
  match _h : skipBlanks cs with
  | [] => .error (.ahead frame.ended [])
  | c :: rest =>
    if c = frame.close then passAfter frames rest
    else
      match _hk : passKey frame (c :: rest) with
      | .error stop => .error stop
      | .ok rest => passValue (frame :: frames) rest
termination_by (cs.length, 1)
decreasing_by
  all_goals
    have := length_skipBlanks_le cs
    simp only [_h, List.length_cons] at this
  · apply Prod.Lex.left
    omega
  · have := length_passKey _hk
    simp only [List.length_cons] at this
    rcases Nat.lt_or_eq_of_le (Nat.le_trans this ‹_›) with lt | eq
    · exact Prod.Lex.left _ _ lt
    · rw [eq]
      exact Prod.Lex.right _ (by omega)

/-- Goes on after a value in the given containers. -/
def passAfter (frames : List Frame) (cs : List Char) : Except Stop (List Char) :=
  match frames with
  | [] => .ok cs
  | frame :: frames =>
    match _h : skipBlanks cs with
    | [] => .error (.ahead frame.ended [])
    | ',' :: rest =>
      match _hk : passKey frame rest with
      | .error stop => .error stop
      | .ok rest => passValue (frame :: frames) rest
    | c :: rest =>
      if c = frame.close then passAfter frames rest else .error (.ahead frame.noComma (c :: rest))
termination_by (cs.length, 0)
decreasing_by
  all_goals
    have := length_skipBlanks_le cs
    simp only [_h, List.length_cons] at this
    apply Prod.Lex.left
  · have := length_passKey _hk
    omega
  · omega

end

/-! ## One step at a time -/

theorem passValue_eq (frames : List Frame) (cs : List Char) : passValue frames cs =
    match skipBlanks cs with
    | [] => .error (.ahead .endInValue [])
    | '[' :: rest => passFirst .list frames rest
    | '{' :: rest => passFirst .object frames rest
    | c :: rest => (passScalar c rest).bind (passAfter frames) := by
  rw [passValue]
  split
  · next h => rw [h]
  · next h =>
    rw [h]
    rfl
  · next h =>
    rw [h]
    rfl
  · next h =>
    rw [h]
    split
    · next hs => simp [hs, Except.bind]
    · next hs => simp [hs, Except.bind]

theorem passFirst_eq (frame : Frame) (frames : List Frame) (cs : List Char) :
    passFirst frame frames cs =
      match skipBlanks cs with
      | [] => .error (.ahead frame.ended [])
      | c :: rest =>
        if c = frame.close then passAfter frames rest
        else (passKey frame (c :: rest)).bind (passValue (frame :: frames)) := by
  rw [passFirst]
  split
  · next h => rw [h]
  · next h =>
    rw [h]
    dsimp only
    split
    · rfl
    · split
      · next hs => simp [hs, Except.bind]
      · next hs => simp [hs, Except.bind]

theorem passAfter_eq (frame : Frame) (frames : List Frame) (cs : List Char) :
    passAfter (frame :: frames) cs =
      match skipBlanks cs with
      | [] => .error (.ahead frame.ended [])
      | ',' :: rest => (passKey frame rest).bind (passValue (frame :: frames))
      | c :: rest =>
        if c = frame.close then passAfter frames rest
        else .error (.ahead frame.noComma (c :: rest)) := by
  rw [passAfter]
  split
  · next h => rw [h]
  · next h =>
    rw [h]
    split
    · next hs => simp [hs, Except.bind]
    · next hs => simp [hs, Except.bind]
  · next h => simp [h]

/-- A value that is passed is a list, an object or a scalar. -/
theorem passValue_cases {frames : List Frame} {cs rest : List Char}
    (h : passValue frames cs = .ok rest) :
    (∃ inside, skipBlanks cs = '[' :: inside ∧ passFirst .list frames inside = .ok rest) ∨
    (∃ inside, skipBlanks cs = '{' :: inside ∧ passFirst .object frames inside = .ok rest) ∨
    ∃ c tail after, skipBlanks cs = c :: tail ∧ passScalar c tail = .ok after ∧
      passAfter frames after = .ok rest := by
  rw [passValue_eq] at h
  split at h
  · cases h
  · next inside hlist => exact .inl ⟨inside, hlist, h⟩
  · next inside hobject => exact .inr (.inl ⟨inside, hobject, h⟩)
  · next c tail _ _ hscalar =>
    obtain ⟨after, hpass, hafter⟩ := bind_eq_ok_iff.1 h
    exact .inr (.inr ⟨c, tail, after, hscalar, hpass, hafter⟩)

/-- A container that has been opened is closed at once or begins with an element. -/
theorem passFirst_cases {frame : Frame} {frames : List Frame} {cs rest : List Char}
    (h : passFirst frame frames cs = .ok rest) :
    (∃ tail, skipBlanks cs = frame.close :: tail ∧ passAfter frames tail = .ok rest) ∨
    ∃ element, passKey frame (skipBlanks cs) = .ok element ∧
      passValue (frame :: frames) element = .ok rest := by
  rw [passFirst_eq] at h
  split at h
  · cases h
  · next c tail hbegin =>
    split at h
    · next closing => exact .inl ⟨tail, closing ▸ hbegin, h⟩
    · next other => exact .inr (hbegin ▸ bind_eq_ok_iff.1 h)

/-- After a value its container is closed or goes on with a comma and another element. -/
theorem passAfter_cases {frame : Frame} {frames : List Frame} {cs rest : List Char}
    (h : passAfter (frame :: frames) cs = .ok rest) :
    (∃ tail, skipBlanks cs = frame.close :: tail ∧ passAfter frames tail = .ok rest) ∨
    ∃ tail element, skipBlanks cs = ',' :: tail ∧ passKey frame tail = .ok element ∧
      passValue (frame :: frames) element = .ok rest := by
  rw [passAfter_eq] at h
  split at h
  · cases h
  · next tail hcomma =>
    obtain ⟨element, hkey, hvalue⟩ := bind_eq_ok_iff.1 h
    exact .inr ⟨tail, element, hcomma, hkey, hvalue⟩
  · next c tail _ hbegin =>
    split at h
    · next closing => exact .inl ⟨tail, closing ▸ hbegin, h⟩
    · next other => cases h

/-! ## What is left is shorter -/

/-- A value takes something of the text, and the rest of the open containers gives nothing back. -/
theorem length_pass (cs : List Char) :
    (∀ frames rest, passValue frames cs = .ok rest → rest.length < cs.length) ∧
    ∀ frames rest, passAfter frames cs = .ok rest → rest.length ≤ cs.length := by
  induction hn : cs.length using Nat.strongRecOn generalizing cs with
  | ind n ih =>
  subst hn
  have hvalue {cs' rest : List Char} {frames : List Frame} (hlt : cs'.length < cs.length)
      (h : passValue frames cs' = .ok rest) : rest.length < cs'.length :=
    (ih _ hlt cs' rfl).1 frames rest h
  have hafter {cs' rest : List Char} {frames : List Frame} (hlt : cs'.length < cs.length)
      (h : passAfter frames cs' = .ok rest) : rest.length ≤ cs'.length :=
    (ih _ hlt cs' rfl).2 frames rest h
  have hfirst {frame : Frame} {inside rest : List Char} {frames : List Frame}
      (hlt : inside.length < cs.length) (h : passFirst frame frames inside = .ok rest) :
      rest.length < inside.length := by
    rcases passFirst_cases h with ⟨tail, hclose, htail⟩ | ⟨element, hkey, helement⟩
    · have := length_lt_of_skipBlanks hclose
      have := hafter (by omega) htail
      omega
    · have := length_skipBlanks_le inside
      have := length_passKey hkey
      have := hvalue (by omega) helement
      omega
  constructor
  · intro frames rest h
    rcases passValue_cases h with
      ⟨inside, hlist, h⟩ | ⟨inside, hobject, h⟩ | ⟨c, tail, after, hscalar, hpass, h⟩
    · have := length_lt_of_skipBlanks hlist
      have := hfirst this h
      omega
    · have := length_lt_of_skipBlanks hobject
      have := hfirst this h
      omega
    · have := length_lt_of_skipBlanks hscalar
      have := length_passScalar hpass
      have := hafter (by omega) h
      omega
  · intro frames rest h
    cases frames with
    | nil =>
      rw [passAfter] at h
      cases h
      exact Nat.le_refl _
    | cons frame frames =>
      rcases passAfter_cases h with ⟨tail, hclose, htail⟩ | ⟨tail, element, hcomma, hkey, helement⟩
      · have := length_lt_of_skipBlanks hclose
        have := hafter this htail
        omega
      · have := length_lt_of_skipBlanks hcomma
        have := length_passKey hkey
        have := hvalue (by omega) helement
        omega

theorem length_passValue {cs rest : List Char} {frames : List Frame}
    (h : passValue frames cs = .ok rest) : rest.length < cs.length :=
  (length_pass cs).1 frames rest h

end ThemeSwitch.Json
