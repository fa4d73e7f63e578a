import ThemeSwitch.Proofs.EnvironmentFileLines

/-! # Values in single quotes

Between single quotes every character stands for itself, whatever it means elsewhere in a line. A
line that sets a key to a text in single quotes therefore sets it to that text. -/
namespace ThemeSwitch.Environment
open Text

/-! ## The value -/

theorem read?_single {cs : List Char} (h : '\'' ∉ cs) (rest : List Char) :
    Mode.read? (.plain .single) (cs ++ '\'' :: rest) =
      (Mode.read? (.plain .none) rest).map (cs.map Piece.char ++ ·) := by
  induction cs with
  | nil => simp [Mode.read?, Mode.next?]
  | cons c cs ih =>
    rw [List.mem_cons, not_or] at h
    have hstep : Mode.next? (.plain .single) c = some ([.char c], .plain .single) := by
      rw [Mode.next?, if_neg (Ne.symm h.1)]
    rw [List.cons_append, Mode.read?, hstep]
    dsimp only
    rw [ih h.2, Option.map_map]
    rfl

theorem readValue?_single {cs : List Char} (h : '\'' ∉ cs) :
    Line.readValue? ('\'' :: cs ++ ['\'']) = some (cs.map .char) := by
  have hblank : isBlank '\'' = false := by decide
  have hopen : Mode.read? (.plain .none) ('\'' :: (cs ++ ['\''])) =
      (Mode.read? (.plain .single) (cs ++ ['\''])).map ([] ++ ·) := rfl
  have hclosed : Mode.read? (.plain .none) [] = some [] := rfl
  rw [Line.readValue?, trimStart, List.cons_append, List.dropWhile_cons_of_neg (by simp [hblank])]
  change Mode.read? (.plain .none) ('\'' :: (cs ++ ['\''])) = _
  rw [hopen, read?_single h, hclosed]
  simp

theorem expand_chars (env : Environment) (cs : List Char) :
    expand env (cs.map .char) = String.ofList cs := by
  have hjoin : (String.join (cs.map Char.toString)).toList = cs := by
    rw [String.toList_join, List.flatMap_map]
    simp [Char.toString]
  rw [expand, List.map_map, ← hjoin, String.ofList_toList, hjoin]
  rfl

/-! ## The line -/

namespace Line

/-- The line that sets a key to a value in single quotes. -/
def quoting (key value : String) : String := key ++ "='" ++ value ++ "'"

/-- A text that can be the key of a line. -/
def IsKey (key : List Char) : Prop :=
  ∃ c cs, key = c :: cs ∧ isKeyStart c = true ∧ ∀ d ∈ cs, isKeyChar d = true

theorem isKey_cons {c : Char} {cs : List Char} :
    IsKey (c :: cs) ↔ isKeyStart c = true ∧ ∀ d ∈ cs, isKeyChar d = true := by
  constructor
  · rintro ⟨_, _, ⟨rfl, rfl⟩, h⟩
    exact h
  · exact fun h => ⟨c, cs, rfl, h⟩

instance : (key : List Char) → Decidable (IsKey key)
  | [] => isFalse (by simp [IsKey])
  | c :: cs =>
    decidable_of_iff (isKeyStart c = true ∧ cs.all isKeyChar = true) (by simp [isKey_cons])

theorem isBlank_of_isKeyStart {c : Char} (h : isKeyStart c = true) : isBlank c = false := by
  rcases Bool.or_eq_true_iff.1 h with h | h
  · exact isBlank_of_isAlphanum (by simp [Char.isAlphanum, h])
  · rw [beq_iff_eq.1 h]
    decide

theorem readKey?_append {key : List Char} (h : IsKey key) (rest : List Char) :
    readKey? (key ++ '=' :: rest) = some (key, '=' :: rest) := by
  obtain ⟨c, cs, rfl, hc, hcs⟩ := h
  have hsign : isKeyChar '=' = false := by decide
  have hblank : isBlank '=' = false := by decide
  rw [List.cons_append, readKey?, if_pos hc, List.takeWhile_append_of_pos hcs,
    List.dropWhile_append_of_pos hcs, List.takeWhile_cons_of_neg (by simp [hsign]),
    List.dropWhile_cons_of_neg (by simp [hsign]), List.append_nil, trimStart,
    List.dropWhile_cons_of_neg (by simp [hblank])]

theorem readAssignment?_append {key : List Char} (h : IsKey key) (rest : List Char) :
    readAssignment? (key ++ '=' :: rest) = some (key, rest) := by
  rw [readAssignment?, readKey?_append h]
  rfl

/-- What an assignment does, in a line without blanks around it. -/
theorem parse?_of_readAssignment? {cs key rest : List Char} {pieces : List Piece} (ht : Trimmed cs)
    (hc : ∀ c ∈ cs.head?, c ≠ '#') (ha : readAssignment? cs = some (key, rest))
    (hv : readValue? rest = some pieces) :
    parse? cs = some (.binding (String.ofList key) pieces) := by
  rw [parse?, ht]
  split
  · cases ha
  · exact absurd rfl (hc '#' rfl)
  · rw [ha, Option.bind_eq_bind, Option.bind_some]
    dsimp only
    rw [hv]
    rfl

theorem parse?_quoting {key value : String} (hk : IsKey key.toList) (hv : '\'' ∉ value.toList) :
    parse? (quoting key value).toList = some (.binding key (value.toList.map .char)) := by
  have hl : (quoting key value).toList =
      key.toList ++ '=' :: ('\'' :: value.toList ++ ['\'']) := by
    simp [quoting]
  have hfirst : ∀ c ∈ (quoting key value).toList.head?, isKeyStart c = true := by
    obtain ⟨c, cs, hkey, hc, -⟩ := hk
    rw [hl, hkey]
    simpa using hc
  have hlast : (quoting key value).toList.getLast? = some '\'' := by
    have hout : (quoting key value).toList =
        key.toList ++ "='".toList ++ value.toList ++ ['\''] := by
      simp [quoting]
    rw [hout, List.getLast?_concat]
  have ht : Trimmed (quoting key value).toList := by
    refine trimmed_iff.2 ⟨fun c hc => isBlank_of_isKeyStart (hfirst c hc), fun c hc => ?_⟩
    rw [hlast, Option.mem_some] at hc
    rw [← hc]
    decide
  have hnumber : ∀ c ∈ (quoting key value).toList.head?, c ≠ '#' := by
    rintro c hc rfl
    exact absurd (hfirst '#' hc) (by decide)
  have ha : readAssignment? (quoting key value).toList =
      some (key.toList, '\'' :: value.toList ++ ['\'']) := by
    rw [hl, readAssignment?_append hk]
  rw [parse?_of_readAssignment? ht hnumber ha (readValue?_single hv), String.ofList_toList]

theorem newline_not_mem_quoting {key value : String} (hk : IsKey key.toList)
    (hv : '\n' ∉ value.toList) : '\n' ∉ (quoting key value).toList := by
  obtain ⟨c, cs, hkey, hc, hcs⟩ := hk
  have hfirst : '\n' ≠ c := by
    rintro rfl
    exact absurd hc (by decide)
  have hothers : '\n' ∉ cs := fun hm => absurd (hcs '\n' hm) (by decide)
  simp [quoting, hkey, hfirst, hothers, hv]

end Line

/-! ## What the line does -/

theorem obey_quoting {env : Environment} {key : String} (h : env.text? key = none)
    (value : String) : env.obey (.binding key (value.toList.map .char)) = env.set key value := by
  rw [obey, h, if_neg (by simp), expand_chars, String.ofList_toList]

/-- A text that can stand between single quotes in a line. -/
def Quotable (value : String) : Prop := '\'' ∉ value.toList ∧ '\n' ∉ value.toList

instance (value : String) : Decidable (Quotable value) :=
  inferInstanceAs (Decidable (_ ∧ _))

/-- A file of two such lines sets both variables, if neither is set. The last line may end with a
newline or with the file. -/
theorem load_quoting {env : Environment} {key value key' value' ending : String}
    (hk : Line.IsKey key.toList) (hv : Quotable value) (hk' : Line.IsKey key'.toList)
    (hv' : Quotable value') (hne : key' ≠ key) (h : env.text? key = none)
    (h' : env.text? key' = none) (he : ending = "" ∨ ending = "\n") :
    env.load (some
        (Line.quoting key value ++ "\n" ++ (Line.quoting key' value' ++ ending)).toUTF8) =
      (env.set key value).set key' value' := by
  have hset : (env.set key value).text? key' = none := by rw [text?_set, if_neg hne, h']
  have hline := Line.newline_not_mem_quoting hk hv.2
  have hline' := Line.newline_not_mem_quoting hk' hv'.2
  have hp := Line.parse?_quoting hk hv.1
  have hp' := Line.parse?_quoting hk' hv'.1
  rw [load_line_append hline hp, obey_quoting h]
  rcases he with rfl | rfl
  · rw [String.append_empty, load_line hline' hp', obey_quoting hset]
  · rw [← String.append_empty (s := Line.quoting key' value' ++ "\n"),
      load_line_append hline' hp', obey_quoting hset]
    exact load_empty _

end ThemeSwitch.Environment
