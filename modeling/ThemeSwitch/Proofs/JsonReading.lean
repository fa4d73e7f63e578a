import ThemeSwitch.Json.Pass
import ThemeSwitch.Proofs.JsonGrammar

/-! # Texts of JSON values are read, and passed over

A reader that meets a text of a string takes all of it and knows the characters. A value that nobody
asks for is passed over: what is left is what follows its text, whatever stands in it and however
deep it goes. -/
namespace ThemeSwitch.Json

/-! ## Strings -/

theorem hexValue?_of_isHex {c : Char} {n : Nat} (h : IsHex c n) : Text.hexValue? c = some n := by
  have hall : ∀ n < 16, Text.hexValue? (hexDigit n) = some n ∧
      Text.hexValue? (hexDigit n).toUpper = some n := by decide
  obtain ⟨hn, rfl | rfl⟩ := h
  · exact (hall n hn).1
  · exact (hall n hn).2

theorem readHex_numbered {digits : List Char} {n : Nat} (h : Numbered digits n)
    (rest : List Char) : readHex (digits ++ rest) = .ok (n, rest) := by
  cases h with
  | @of a b c d k l m n ha hb hc hd =>
    have hall : Text.hexadecimal? [a, b, c, d] = some (((k * 16 + l) * 16 + m) * 16 + n) := by
      simp [Text.hexadecimal?, hexValue?_of_isHex ha, hexValue?_of_isHex hb,
        hexValue?_of_isHex hc, hexValue?_of_isHex hd]
      omega
    rw [List.cons_append, List.cons_append, List.cons_append, List.cons_append, List.nil_append,
      readHex, hall]

/-- No character is half of a surrogate pair. -/
theorem not_surrogate (c : Char) : isTrailing c.toNat = false ∧ isLeading c.toNat = false := by
  have hvalid : c.toNat < 0xD800 ∨ 0xDFFF < c.toNat ∧ c.toNat < 0x110000 := c.valid
  constructor
  · simp [isTrailing]
    omega
  · simp [isLeading]
    omega

theorem escape_short {e c : Char} (h : (e, c) ∈ shortEscapes) (rest : List Char) :
    readEscape (e :: rest) = .ok (c, rest) ∧ passEscape (e :: rest) = .ok rest := by
  simp only [shortEscapes, List.mem_cons, Prod.mk.injEq, List.not_mem_nil, or_false] at h
  rcases h with ⟨rfl, rfl⟩ | ⟨rfl, rfl⟩ | ⟨rfl, rfl⟩ | ⟨rfl, rfl⟩ | ⟨rfl, rfl⟩ | ⟨rfl, rfl⟩ |
    ⟨rfl, rfl⟩ | ⟨rfl, rfl⟩
  all_goals exact ⟨rfl, rfl⟩

theorem readEscape_numbered {digits : List Char} {c : Char} (h : Numbered digits c.toNat)
    (rest : List Char) : readEscape ('u' :: (digits ++ rest)) = .ok (c, rest) := by
  obtain ⟨htrailing, hleading⟩ := not_surrogate c
  rw [readEscape, readHex_numbered h]
  simp [htrailing, hleading]

theorem readEscape_paired {high low : List Char} {k l : Nat} {c : Char}
    (hh : Numbered high (0xD800 + k)) (hl : Numbered low (0xDC00 + l)) (hk : k < 0x400)
    (hll : l < 0x400) (hc : c.toNat = 0x10000 + 0x400 * k + l) (rest : List Char) :
    readEscape ('u' :: (high ++ '\\' :: 'u' :: (low ++ rest))) = .ok (c, rest) := by
  have hhigh : isTrailing (0xD800 + k) = false ∧ isLeading (0xD800 + k) = true := by
    constructor
    · simp [isTrailing]
      omega
    · simp [isLeading]
      omega
  have hlow : isTrailing (0xDC00 + l) = true := by
    simp [isTrailing]
    omega
  have hsum : (0xD800 + k - 0xD800) * 0x400 + (0xDC00 + l - 0xDC00) + 0x10000 = c.toNat := by omega
  have hjoined : joined (0xD800 + k) (0xDC00 + l) = c := by rw [joined, hsum, Char.ofNat_toNat]
  rw [readEscape, readHex_numbered hh]
  simp only [hhigh, Bool.false_eq_true, if_false, if_true]
  rw [readTrailing, readHex_numbered hl]
  simp only [hlow, if_true, hjoined]

theorem readString_escape {c : Char} {cs rest : List Char} (h : readEscape cs = .ok (c, rest)) :
    readString ('\\' :: cs) = (readString rest).map fun p => (c :: p.1, p.2) := by
  rw [readString, h]

theorem readString_plain {c : Char} (hquote : c ≠ '"') (hslash : c ≠ '\\') (h : ¬ c.toNat < 0x20)
    (rest : List Char) :
    readString (c :: rest) = (readString rest).map fun p => (c :: p.1, p.2) := by
  rw [readString]
  · rw [if_neg h]
  · simpa using hquote
  · simpa using hslash

theorem readString_letter {l : List Char} {c : Char} (h : Letter l c) (rest : List Char) :
    readString (l ++ rest) = (readString rest).map fun p => (c :: p.1, p.2) := by
  cases h with
  | plain hq hs hc => exact readString_plain hq hs (Nat.not_lt.2 hc) rest
  | short h => exact readString_escape (escape_short h rest).1
  | numbered h => exact readString_escape (readEscape_numbered h rest)
  | paired hh hl hk hll hc =>
    rw [List.cons_append, List.cons_append, List.append_assoc]
    exact readString_escape (readEscape_paired hh hl hk hll hc rest)

theorem readString_spelled {t s : List Char} (h : Spelled t s) (rest : List Char) :
    readString (t ++ '"' :: rest) = .ok (s, rest) := by
  induction h with
  | nil => rw [List.nil_append, readString]
  | cons h ht ih =>
    rw [List.append_assoc, readString_letter h, ih]
    rfl

theorem passString_escape {cs rest : List Char} (h : passEscape cs = .ok rest) :
    passString ('\\' :: cs) = passString rest := by
  rw [passString, h]

theorem passEscape_numbered {digits : List Char} {n : Nat} (h : Numbered digits n)
    (rest : List Char) : passEscape ('u' :: (digits ++ rest)) = .ok rest := by
  rw [passEscape, readHex_numbered h]

theorem passString_letter {l : List Char} {c : Char} (h : Letter l c) (rest : List Char) :
    passString (l ++ rest) = passString rest := by
  cases h with
  | plain hq hs hc =>
    rw [List.cons_append, List.nil_append, passString]
    · exact if_neg (Nat.not_lt.2 hc)
    · simpa using hq
    · simpa using hs
  | short h => exact passString_escape (escape_short h rest).2
  | numbered h => exact passString_escape (passEscape_numbered h rest)
  | paired hh hl hk hll hc =>
    rw [List.cons_append, List.cons_append, List.append_assoc,
      passString_escape (passEscape_numbered hh _)]
    exact passString_escape (passEscape_numbered hl rest)

theorem passString_spelled {t s : List Char} (h : Spelled t s) (rest : List Char) :
    passString (t ++ '"' :: rest) = .ok rest := by
  induction h with
  | nil => rw [List.nil_append, passString]
  | cons h ht ih => rw [List.append_assoc, passString_letter h, ih]

/-! ## Numbers -/

/-- What follows a value: nothing, or a character that cannot go on with a number. -/
def Ends (rest : List Char) : Prop :=
  ∀ c ∈ rest.head?, isBlank c = true ∨ c = ',' ∨ c = ']' ∨ c = '}'

theorem Ends.of_cons {c : Char} {cs : List Char}
    (h : isBlank c = true ∨ c = ',' ∨ c = ']' ∨ c = '}') : Ends (c :: cs) := by
  simpa [Ends] using h

/-- A character that may follow a number does not go on with it. -/
theorem Ends.of_head {c : Char} {cs : List Char} (h : Ends (c :: cs)) :
    c.isDigit = false ∧ c ≠ '.' ∧ c ≠ 'e' ∧ c ≠ 'E' := by
  have hc : isBlank c = true ∨ c = ',' ∨ c = ']' ∨ c = '}' := h c rfl
  simp only [isBlank, Bool.or_eq_true, decide_eq_true_eq] at hc
  rcases hc with (((rfl | rfl) | rfl) | rfl) | rfl | rfl | rfl
  all_goals decide

theorem dropDigits_append {ds rest : List Char} (h : ∀ d ∈ ds, d.isDigit = true)
    (hrest : ∀ c ∈ rest.head?, c.isDigit = false) :
    (ds ++ rest).dropWhile Char.isDigit = rest := by
  rw [List.dropWhile_append_of_pos h]
  cases rest with
  | nil => rfl
  | cons c cs => exact List.dropWhile_cons_of_neg (by simp [hrest c rfl])

theorem Ends.not_digit {rest : List Char} (h : Ends rest) :
    ∀ c ∈ rest.head?, c.isDigit = false := by
  cases rest with
  | nil => simp
  | cons c cs => simpa using h.of_head.1

theorem passExponent_digits {ds rest : List Char} (h : Digits ds) (hrest : Ends rest) :
    passExponent (ds ++ rest) = .ok rest := by
  cases ds with
  | nil => exact absurd rfl h.1
  | cons d ds =>
    obtain ⟨hd, hds⟩ := List.forall_mem_cons.1 h.2
    rw [List.cons_append, passExponent, if_pos hd, dropDigits_append hds hrest.not_digit]

theorem ne_of_isDigit {c d : Char} (hc : c.isDigit = true) (hd : d.isDigit = false) : c ≠ d := by
  rintro rfl
  rw [hc] at hd
  cases hd

theorem passPower_power {power rest : List Char} (h : Power power) (hrest : Ends rest) :
    passPower (power ++ rest) = .ok rest := by
  cases h with
  | none =>
    rw [List.nil_append]
    unfold passPower
    split
    · exact absurd rfl hrest.of_head.2.2.1
    · exact absurd rfl hrest.of_head.2.2.2
    · rfl
  | @digits e sign ds he hs h =>
    have hsign : dropSign ['+', '-'] (sign ++ (ds ++ rest)) = ds ++ rest := by
      rcases hs with rfl | rfl | rfl
      · cases ds with
        | nil => exact absurd rfl h.1
        | cons d ds =>
          have hplus : d ≠ '+' := ne_of_isDigit (h.2 d (by simp)) rfl
          have hminus : d ≠ '-' := ne_of_isDigit (h.2 d (by simp)) rfl
          simp [dropSign, hplus, hminus]
      · rfl
      · rfl
    rw [List.cons_append, List.append_assoc]
    rcases he with rfl | rfl
    all_goals rw [passPower, hsign, passExponent_digits h hrest]

/-- Neither a power nor what follows a number begins with a digit or a point. -/
theorem head_power {power rest : List Char} (h : Power power) (hrest : Ends rest) :
    ∀ c ∈ (power ++ rest).head?, c.isDigit = false ∧ c ≠ '.' := by
  cases h with
  | none =>
    cases rest with
    | nil => simp
    | cons c cs => simpa using ⟨hrest.of_head.1, hrest.of_head.2.1⟩
  | digits he hs h =>
    intro c hc
    cases hc
    rcases he with rfl | rfl
    all_goals decide

theorem passFraction_fraction {fraction power rest : List Char} (hf : Fraction fraction)
    (hp : Power power) (hrest : Ends rest) :
    passFraction (fraction ++ (power ++ rest)) = .ok rest := by
  have hhead := head_power hp hrest
  cases hf with
  | none =>
    rw [List.nil_append]
    rw [← passPower_power hp hrest]
    generalize power ++ rest = cs at hhead
    unfold passFraction
    split
    · simp at hhead
    · simp at hhead
    · rfl
  | @digits ds h =>
    cases ds with
    | nil => exact absurd rfl h.1
    | cons d ds =>
      obtain ⟨hd, hds⟩ := List.forall_mem_cons.1 h.2
      rw [List.cons_append, List.cons_append, passFraction, if_pos hd,
        dropDigits_append hds fun c hc => (hhead c hc).1, passPower_power hp hrest]

theorem head_fraction {fraction power rest : List Char} (hf : Fraction fraction)
    (hp : Power power) (hrest : Ends rest) :
    ∀ c ∈ (fraction ++ (power ++ rest)).head?, c.isDigit = false := by
  cases hf with
  | none => exact fun c hc => (head_power hp hrest c hc).1
  | digits h =>
    intro c hc
    cases hc
    rfl

theorem passUnsigned_whole {whole tail rest : List Char} (hw : Whole whole)
    (htail : ∀ c ∈ tail.head?, c.isDigit = false) (h : passFraction tail = .ok rest) :
    passUnsigned (whole ++ tail) = .ok rest := by
  cases hw with
  | zero =>
    cases tail with
    | nil => exact h
    | cons c cs =>
      have hc : ¬ c.isDigit = true := by simp [htail c rfl]
      rw [List.cons_append, List.nil_append, passUnsigned, if_neg hc, h]
  | @digits c cs hc hz hcs =>
    rw [List.cons_append, passUnsigned, if_pos hc, dropDigits_append hcs htail, h]
    exact fun _ _ hzero => absurd hzero hz

theorem passNumber_literal {t rest : List Char} (h : Literal t) (hrest : Ends rest) :
    passNumber (t ++ rest) = .ok rest := by
  cases h with
  | @of sign whole fraction power hs hw hf hp =>
    have hunsigned : passUnsigned (whole ++ (fraction ++ (power ++ rest))) = .ok rest :=
      passUnsigned_whole hw (head_fraction hf hp hrest) (passFraction_fraction hf hp hrest)
    have hsign : dropSign ['-'] (sign ++ (whole ++ (fraction ++ (power ++ rest)))) =
        whole ++ (fraction ++ (power ++ rest)) := by
      rcases hs with rfl | rfl
      · cases hw with
        | zero => rfl
        | digits hc hz hcs => simp [dropSign, ne_of_isDigit hc (d := '-') rfl]
      · rfl
    rw [passNumber]
    simp only [List.append_assoc]
    rw [hsign, hunsigned]

end ThemeSwitch.Json
