import ThemeSwitch.Environment.File

/-! # What a file of lines does

A file ends at its first bad line: with anything behind it, it does what it does without that line
and all that follows. A file that is a text consists of the lines of the text, since no character
but the newline has the byte of a newline in its UTF-8 form. -/
namespace ThemeSwitch.Environment

/-! ## Lines that do nothing, or end the reading -/

theorem decodeLine?_nil : decodeLine? [] = some .skipped := by
  have htext : String.fromUTF8? ⟨([] : List UInt8).toArray⟩ = some "" := fromUTF8?_toUTF8 ""
  rw [decodeLine?, htext]
  rfl

theorem obeyLines_bad {bad : List UInt8} (h : decodeLine? bad = none) (env : Environment)
    (back : List (List UInt8)) : env.obeyLines (bad :: back) = env := by
  rw [obeyLines, h]

theorem obeyLines_blank (env : Environment) : env.obeyLines [[]] = env := by
  rw [obeyLines, decodeLine?_nil]
  rfl

/-- Of two endings that do the same everywhere, either will do. -/
theorem obeyLines_append_congr {back back' : List (List UInt8)}
    (h : ∀ env : Environment, env.obeyLines back = env.obeyLines back') (env : Environment)
    (front : List (List UInt8)) :
    env.obeyLines (front ++ back) = env.obeyLines (front ++ back') := by
  induction front generalizing env with
  | nil => exact h env
  | cons line front ih =>
    rw [List.cons_append, List.cons_append, obeyLines, obeyLines]
    cases decodeLine? line with
    | none => rfl
    | some line => exact ih (env.obey line)

/-! ## Files in bytes -/

theorem fileLines_append_newline (front back : ByteArray) :
    fileLines (front ++ "\n".toUTF8 ++ back) = fileLines front ++ fileLines back := by
  have hnewline : "\n".toUTF8.data.toList = [0x0A] := by decide
  rw [fileLines, ByteArray.data_append, ByteArray.data_append, Array.toList_append,
    Array.toList_append, hnewline, List.append_assoc, List.singleton_append]
  exact List.splitOnP_append_cons _ _ (by decide)

theorem fileLines_of_line {line : ByteArray} (h : 0x0A ∉ line.data.toList) :
    fileLines line = [line.data.toList] := List.splitOn_eq_singleton h

/-- A content that is made of lines, each with a newline at its end. -/
def Whole (content : ByteArray) : Prop :=
  content = .empty ∨ ∃ front, content = front ++ "\n".toUTF8

/-- A line behind whole lines takes the place of the empty one after the last newline. -/
theorem Whole.exists_fileLines {content : ByteArray} (h : Whole content) :
    ∃ front, fileLines content = front ++ [[]] ∧
      ∀ line : ByteArray, 0x0A ∉ line.data.toList →
        fileLines (content ++ line) = front ++ [line.data.toList] := by
  rcases h with rfl | ⟨front, rfl⟩
  · refine ⟨[], rfl, fun line hl => ?_⟩
    rw [ByteArray.empty_append, fileLines_of_line hl, List.nil_append]
  · refine ⟨fileLines front, ?_, fun line hl => ?_⟩
    · have hempty := fileLines_append_newline front .empty
      rw [ByteArray.append_empty] at hempty
      exact hempty
    · rw [fileLines_append_newline, fileLines_of_line hl]

/-- Behind whole lines, a bad one ends the file. -/
theorem load_of_bad {content line : ByteArray} (hw : Whole content)
    (hl : 0x0A ∉ line.data.toList) (hb : decodeLine? line.data.toList = none) (rest : ByteArray)
    (env : Environment) :
    env.load (some (content ++ line ++ "\n".toUTF8 ++ rest)) = env.load (some content) := by
  obtain ⟨front, hcontent, hline⟩ := hw.exists_fileLines
  have hends (env : Environment) :
      env.obeyLines (line.data.toList :: fileLines rest) = env.obeyLines [[]] := by
    rw [obeyLines_bad hb, obeyLines_blank]
  calc env.obeyLines (fileLines (content ++ line ++ "\n".toUTF8 ++ rest))
    _ = env.obeyLines (front ++ line.data.toList :: fileLines rest) := by
      rw [fileLines_append_newline, hline line hl, List.append_assoc, List.singleton_append]
    _ = env.obeyLines (front ++ [[]]) := obeyLines_append_congr hends env front
    _ = env.obeyLines (fileLines content) := by rw [hcontent]

/-! ## Files in text -/

theorem eq_newline_of_mem_utf8EncodeChar {c : Char} (h : 0x0A ∈ String.utf8EncodeChar c) :
    c = '\n' := by
  have hbyte {n : Nat} (e : 0x0A = UInt8.ofNat n) : n % 256 = 10 := by
    simpa using (congrArg UInt8.toNat e).symm
  have hnot {n : Nat} (hl : 128 ≤ n) (hu : n < 256) : ¬ 0x0A = UInt8.ofNat n := by
    intro e
    have := hbyte e
    omega
  simp only [String.utf8EncodeChar, Char.toNat_val] at h
  split at h
  · next hone =>
    have hc : c.toNat % 256 = 10 := hbyte (List.mem_singleton.1 h)
    exact Char.toNat_inj.1 (show c.toNat = 10 by omega)
  -- Of several bytes every one is at least 128.
  · refine absurd h ?_
    repeat' split
    all_goals
      simp only [List.mem_cons, List.not_mem_nil, or_false, not_or]
      and_intros
    all_goals exact hnot (by omega) (by omega)

theorem newline_not_mem_toUTF8 {text : String} (h : '\n' ∉ text.toList) :
    0x0A ∉ text.toUTF8.data.toList := by
  intro hm
  rw [String.toUTF8_eq_toByteArray, ← String.utf8Encode_toList, List.utf8Encode,
    List.toList_data_toByteArray] at hm
  obtain ⟨c, hc, hb⟩ := List.mem_flatMap.1 hm
  exact h (eq_newline_of_mem_utf8EncodeChar hb ▸ hc)

theorem decodeLine?_toUTF8 (text : String) :
    decodeLine? text.toUTF8.data.toList = Line.parse? text.toList := by
  rw [decodeLine?, Array.toArray_toList, fromUTF8?_toUTF8, Option.bind_some]

theorem fileLines_toUTF8_append {line : String} (h : '\n' ∉ line.toList) (rest : String) :
    fileLines (line ++ "\n" ++ rest).toUTF8 =
      line.toUTF8.data.toList :: fileLines rest.toUTF8 := by
  have happend : (line ++ "\n" ++ rest).toUTF8 = line.toUTF8 ++ "\n".toUTF8 ++ rest.toUTF8 := by
    simp only [String.toUTF8_eq_toByteArray, String.toByteArray_append]
  rw [happend, fileLines_append_newline, fileLines_of_line (newline_not_mem_toUTF8 h),
    List.singleton_append]

theorem load_empty (env : Environment) : env.load (some .empty) = env :=
  env.obeyLines_blank

theorem load_line {line : String} (h : '\n' ∉ line.toList) {meaning : Line}
    (hp : Line.parse? line.toList = some meaning) (env : Environment) :
    env.load (some line.toUTF8) = env.obey meaning := by
  rw [load, fileLines_of_line (newline_not_mem_toUTF8 h), obeyLines, decodeLine?_toUTF8, hp]
  rfl

/-- A good line is obeyed, and the rest of the file in what it leaves. -/
theorem load_line_append {line : String} (h : '\n' ∉ line.toList) {meaning : Line}
    (hp : Line.parse? line.toList = some meaning) (rest : String) (env : Environment) :
    env.load (some (line ++ "\n" ++ rest).toUTF8) =
      (env.obey meaning).load (some rest.toUTF8) := by
  rw [load, fileLines_toUTF8_append h, obeyLines, decodeLine?_toUTF8, hp]
  rfl

end ThemeSwitch.Environment
