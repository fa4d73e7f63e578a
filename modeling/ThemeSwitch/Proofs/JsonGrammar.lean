import ThemeSwitch.Json.Printer
import ThemeSwitch.Json.Word

/-! # The texts of JSON values

A value may be written in many ways: with blanks around every sign, with any character of a string
given by an escape, with members in any order. `Written` says which texts are texts of a value. It
knows nothing of readers, and a text that spells half of a surrogate pair is no text of a string. -/
namespace ThemeSwitch.Json

/-- A value of JSON. A number stands for itself as it is written. -/
inductive Value
  | null
  | boolean (b : Bool)
  | number (literal : List Char)
  | string (s : String)
  | list (elements : List Value)
  | object (members : List (String × Value))

def Blanks (cs : List Char) : Prop := ∀ c ∈ cs, isBlank c = true

instance (cs : List Char) : Decidable (Blanks cs) :=
  decidable_of_iff (cs.all isBlank = true) List.all_eq_true

/-! ## Numbers -/

/-- Decimal digits, at least one. -/
def Digits (cs : List Char) : Prop := cs ≠ [] ∧ ∀ c ∈ cs, c.isDigit = true

instance (cs : List Char) : Decidable (Digits cs) :=
  decidable_of_iff (cs ≠ [] ∧ cs.all Char.isDigit = true) (and_congr_right' List.all_eq_true)

/-- The digits before the point, which do not begin with a zero that could be left out. -/
inductive Whole : List Char → Prop
  | zero : Whole ['0']
  | digits {c : Char} {cs : List Char} (hc : c.isDigit = true) (hz : c ≠ '0')
    (h : ∀ d ∈ cs, d.isDigit = true) : Whole (c :: cs)

inductive Fraction : List Char → Prop
  | none : Fraction []
  | digits {cs : List Char} (h : Digits cs) : Fraction ('.' :: cs)

inductive Power : List Char → Prop
  | none : Power []
  | digits {e : Char} {sign cs : List Char} (he : e = 'e' ∨ e = 'E')
    (hs : sign = [] ∨ sign = ['+'] ∨ sign = ['-']) (h : Digits cs) : Power (e :: (sign ++ cs))

inductive Literal : List Char → Prop
  | of {sign whole fraction power : List Char} (hs : sign = [] ∨ sign = ['-']) (hw : Whole whole)
    (hf : Fraction fraction) (hp : Power power) : Literal (sign ++ (whole ++ (fraction ++ power)))

/-! ## Strings -/

/-- The character is the hexadecimal digit of the value, in either case. -/
def IsHex (c : Char) (n : Nat) : Prop := n < 16 ∧ (c = hexDigit n ∨ c = (hexDigit n).toUpper)

instance (c : Char) (n : Nat) : Decidable (IsHex c n) := inferInstanceAs (Decidable (_ ∧ (_ ∨ _)))

/-- Four hexadecimal digits of the value. -/
inductive Numbered : List Char → Nat → Prop
  | of {a b c d : Char} {k l m n : Nat} (ha : IsHex a k) (hb : IsHex b l) (hc : IsHex c m)
    (hd : IsHex d n) : Numbered [a, b, c, d] (((k * 16 + l) * 16 + m) * 16 + n)

/-- The letters that stand for a character after a backslash. -/
def shortEscapes : List (Char × Char) :=
  [('"', '"'), ('\\', '\\'), ('/', '/'), ('b', '\x08'), ('f', '\x0c'), ('n', '\n'), ('r', '\r'),
    ('t', '\t')]

/-- The ways to write one character in a string: as itself, by a letter, by its number, or as a pair
of surrogates. -/
inductive Letter : List Char → Char → Prop
  | plain {c : Char} (hq : c ≠ '"') (hs : c ≠ '\\') (hc : 0x20 ≤ c.toNat) : Letter [c] c
  | short {e c : Char} (h : (e, c) ∈ shortEscapes) : Letter ['\\', e] c
  | numbered {digits : List Char} {c : Char} (h : Numbered digits c.toNat) :
    Letter ('\\' :: 'u' :: digits) c
  | paired {high low : List Char} {k l : Nat} {c : Char} (hh : Numbered high (0xD800 + k))
    (hl : Numbered low (0xDC00 + l)) (hk : k < 0x400) (hll : l < 0x400)
    (hc : c.toNat = 0x10000 + 0x400 * k + l) :
    Letter ('\\' :: 'u' :: (high ++ '\\' :: 'u' :: low)) c

/-- The ways to write the characters of a string between its quotes. -/
inductive Spelled : List Char → List Char → Prop
  | nil : Spelled [] []
  | cons {l t s : List Char} {c : Char} (h : Letter l c) (ht : Spelled t s) :
    Spelled (l ++ t) (c :: s)

/-! ## Values -/

/-- What a text may be a text of. -/
inductive Form
  | value (v : Value)
  /-- A value with blanks around it. -/
  | padded (v : Value)
  /-- What stands between the brackets of a list that is not empty. -/
  | elements (vs : List Value)
  | member (key : String) (v : Value)
  /-- What stands between the braces of an object that is not empty. -/
  | members (ms : List (String × Value))

inductive Written : Form → List Char → Prop
  | null : Written (.value .null) ['n', 'u', 'l', 'l']
  | true : Written (.value (.boolean true)) ['t', 'r', 'u', 'e']
  | false : Written (.value (.boolean false)) ['f', 'a', 'l', 's', 'e']
  | number {t : List Char} (h : Literal t) : Written (.value (.number t)) t
  | string {t s : List Char} (h : Spelled t s) :
    Written (.value (.string (String.ofList s))) ('"' :: (t ++ ['"']))
  | emptyList {b : List Char} (h : Blanks b) : Written (.value (.list [])) ('[' :: (b ++ [']']))
  | list {vs : List Value} {t : List Char} (h : Written (.elements vs) t) :
    Written (.value (.list vs)) ('[' :: (t ++ [']']))
  | emptyObject {b : List Char} (h : Blanks b) :
    Written (.value (.object [])) ('{' :: (b ++ ['}']))
  | object {ms : List (String × Value)} {t : List Char} (h : Written (.members ms) t) :
    Written (.value (.object ms)) ('{' :: (t ++ ['}']))
  | padded {v : Value} {b t b' : List Char} (hb : Blanks b) (h : Written (.value v) t)
    (hb' : Blanks b') : Written (.padded v) (b ++ (t ++ b'))
  | lastElement {v : Value} {t : List Char} (h : Written (.padded v) t) :
    Written (.elements [v]) t
  | element {v : Value} {vs : List Value} {t ts : List Char} (h : Written (.padded v) t)
    (hs : Written (.elements vs) ts) : Written (.elements (v :: vs)) (t ++ ',' :: ts)
  | keyed {key b k b' t : List Char} {v : Value} (hb : Blanks b) (hk : Spelled k key)
    (hb' : Blanks b') (h : Written (.padded v) t) :
    Written (.member (String.ofList key) v) (b ++ '"' :: (k ++ '"' :: (b' ++ ':' :: t)))
  | lastMember {key : String} {v : Value} {t : List Char} (h : Written (.member key v) t) :
    Written (.members [(key, v)]) t
  | furtherMember {key : String} {v : Value} {ms : List (String × Value)} {t ts : List Char}
    (h : Written (.member key v) t) (hs : Written (.members ms) ts) :
    Written (.members ((key, v) :: ms)) (t ++ ',' :: ts)

theorem Written.of_eq {form : Form} {t t' : List Char} (h : Written form t) (e : t = t') :
    Written form t' := e ▸ h

end ThemeSwitch.Json
