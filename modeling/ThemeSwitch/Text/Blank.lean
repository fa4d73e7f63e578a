/-! # Blank characters, trimming and words

A character is blank when it has the Unicode property `White_Space`. Cookie names and values are
trimmed of blanks, class lists are split at them, and no class may hold one. Trimming leaves a
stretch of the text (`isInfix_trim`) with no blank at either end (`trimmed_trim`, `trimmed_iff`). -/
namespace ThemeSwitch.Text

/-- Unicode `White_Space`: twenty-five characters, among them the no-break space but not the
zero-width space. -/
def isBlank (c : Char) : Bool :=
  let n := c.toNat
  (0x09 ≤ n && n ≤ 0x0D) || n == 0x20 || n == 0x85 || n == 0xA0 || n == 0x1680 ||
    (0x2000 ≤ n && n ≤ 0x200A) || n == 0x2028 || n == 0x2029 || n == 0x202F || n == 0x205F ||
    n == 0x3000

def trimStart (cs : List Char) : List Char := cs.dropWhile isBlank

def trimEnd (cs : List Char) : List Char := (trimStart cs.reverse).reverse

/-- The text without its blank beginning and its blank end. -/
def trim (cs : List Char) : List Char := trimEnd (trimStart cs)

/-- No blank at either end. -/
def Trimmed (cs : List Char) : Prop := trim cs = cs

instance (cs : List Char) : Decidable (Trimmed cs) := inferInstanceAs (Decidable (trim cs = cs))

/-- Letters and digits of ASCII are not blank. -/
theorem isBlank_of_isAlphanum {c : Char} (h : c.isAlphanum = true) : isBlank c = false := by
  change (decide (65 ≤ c.val ∧ c.val ≤ 90) || (decide (97 ≤ c.val) && decide (c.val ≤ 122)) ||
    (decide (48 ≤ c.val) && decide (c.val ≤ 57))) = true at h
  simp only [Bool.or_eq_true, Bool.and_eq_true, decide_eq_true_eq, UInt32.le_iff_toNat_le] at h
  change ((65 ≤ c.toNat ∧ c.toNat ≤ 90) ∨ 97 ≤ c.toNat ∧ c.toNat ≤ 122) ∨
    48 ≤ c.toNat ∧ c.toNat ≤ 57 at h
  simp [isBlank]
  omega

/-- The maximal runs of characters that are not blank, in order. -/
def words (cs : List Char) : List (List Char) := (cs.splitOnP isBlank).filter (!·.isEmpty)

@[simp] theorem trimStart_nil : trimStart [] = [] := rfl

@[simp] theorem trim_nil : trim [] = [] := rfl

theorem isSuffix_trimStart (cs : List Char) : trimStart cs <:+ cs := List.dropWhile_suffix _

theorem isPrefix_trimEnd (cs : List Char) : trimEnd cs <+: cs := by
  simpa [trimEnd] using List.reverse_prefix.2 (isSuffix_trimStart cs.reverse)

theorem trimStart_eq_self_iff {cs : List Char} :
    trimStart cs = cs ↔ ∀ c ∈ cs.head?, isBlank c = false := by
  cases cs with
  | nil => simp
  | cons c cs =>
    by_cases h : isBlank c
    · simp only [trimStart, List.dropWhile_cons_of_pos h, List.head?_cons, Option.mem_some,
        forall_eq', h, Bool.true_eq_false, iff_false]
      intro e
      have := congrArg List.length e
      have := (List.dropWhile_suffix isBlank (l := cs)).length_le
      grind
    · simp [trimStart, h]

theorem head_trimStart (cs : List Char) : ∀ c ∈ (trimStart cs).head?, isBlank c = false := by
  intro c hc
  have := List.head?_dropWhile_not isBlank cs
  rw [trimStart] at hc
  simp_all

/-- A text is trimmed when neither its first nor its last character is blank. -/
theorem trimmed_iff {cs : List Char} : Trimmed cs ↔
    (∀ c ∈ cs.head?, isBlank c = false) ∧ ∀ c ∈ cs.getLast?, isBlank c = false := by
  have last (ds : List Char) : trimEnd ds = ds ↔ ∀ c ∈ ds.getLast?, isBlank c = false := by
    rw [trimEnd, List.reverse_eq_iff, trimStart_eq_self_iff, List.head?_reverse]
  rw [← last, ← trimStart_eq_self_iff, Trimmed, trim]
  refine ⟨fun h => ?_, fun ⟨h, k⟩ => by rw [h, k]⟩
  have e : trimStart cs = cs := by
    refine (isSuffix_trimStart cs).eq_of_length_le ?_
    calc cs.length = (trimEnd (trimStart cs)).length := by rw [h]
      _ ≤ (trimStart cs).length := (isPrefix_trimEnd _).length_le
  rw [e] at h
  exact ⟨e, h⟩

theorem trimmed_trim (cs : List Char) : Trimmed (trim cs) := by
  rw [trimmed_iff]
  constructor
  · intro c hc
    refine head_trimStart cs c ?_
    have p := isPrefix_trimEnd (trimStart cs)
    obtain ⟨t, ht⟩ := p
    rw [trim] at hc
    rw [← ht, List.head?_append, hc]
    rfl
  · intro c hc
    rw [trim, trimEnd, List.getLast?_reverse] at hc
    exact head_trimStart _ c hc

@[simp] theorem trim_trim (cs : List Char) : trim (trim cs) = trim cs := trimmed_trim cs

theorem isInfix_trim (cs : List Char) : trim cs <:+: cs :=
  (isPrefix_trimEnd _).isInfix.trans (isSuffix_trimStart cs).isInfix

theorem mem_of_mem_trim {cs : List Char} {c : Char} (h : c ∈ trim cs) : c ∈ cs :=
  (isInfix_trim cs).subset h

/-- No piece of a split text holds a separator. -/
theorem eq_false_of_mem_splitOnP {sep : Char → Bool} {cs w : List Char} (hw : w ∈ cs.splitOnP sep) :
    ∀ c ∈ w, sep c = false := by
  induction cs generalizing w with
  | nil => simp_all
  | cons d cs ih =>
    rw [List.splitOnP_cons_eq_if_modifyHead] at hw
    split at hw
    · rcases List.mem_cons.1 hw with rfl | hw
      · simp
      · exact ih hw
    · next hd =>
      cases h : cs.splitOnP sep with
      | nil => simp [h] at hw
      | cons v vs =>
        rw [h, List.modifyHead_cons] at hw
        rcases List.mem_cons.1 hw with rfl | hw
        · simpa [hd] using ih (h ▸ List.mem_cons_self)
        · exact ih (h ▸ List.mem_cons_of_mem _ hw)

/-- A word is not empty and holds no blank. -/
theorem of_mem_words {cs w : List Char} (h : w ∈ words cs) :
    w ≠ [] ∧ ∀ c ∈ w, isBlank c = false := by
  obtain ⟨hw, hne⟩ := List.mem_filter.1 h
  exact ⟨by simpa using hne, eq_false_of_mem_splitOnP hw⟩

theorem words_append_blank {c : Char} (hc : isBlank c = true) (cs ds : List Char) :
    words (cs ++ c :: ds) = words cs ++ words ds := by
  rw [words, List.splitOnP_append_cons cs ds hc, List.filter_append, words, words]

theorem words_of_word {cs : List Char} (hne : cs ≠ []) (h : ∀ c ∈ cs, isBlank c = false) :
    words cs = [cs] := by
  rw [words, List.splitOnP_eq_singleton h]
  simp [hne]

/-- Words with single spaces between them are the words of the text that they make. -/
theorem words_intercalate {ws : List (List Char)}
    (h : ∀ w ∈ ws, w ≠ [] ∧ ∀ c ∈ w, isBlank c = false) : words ([' '].intercalate ws) = ws := by
  induction ws with
  | nil => rfl
  | cons w ws ih =>
    obtain ⟨⟨hne, hw⟩, hws⟩ := List.forall_mem_cons.1 h
    cases ws with
    | nil => simpa using words_of_word hne hw
    | cons v ws =>
      have hspace : isBlank ' ' = true := by decide
      rw [List.intercalate_cons_cons, List.append_assoc, List.singleton_append,
        words_append_blank hspace, words_of_word hne hw, ih hws]
      rfl

end ThemeSwitch.Text
