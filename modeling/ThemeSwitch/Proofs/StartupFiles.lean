import ThemeSwitch.Proofs.ConfigEnvironment
import ThemeSwitch.Proofs.EnvironmentQuotes
import ThemeSwitch.Proofs.StartupEnvironment

/-! # Starting with an environment file

Of a file that the program starts with, nothing counts from the first bad line on, and no other file
takes its place. A file that gives names in single quotes is as good as an environment that has
them. -/
namespace ThemeSwitch

/-- The two environments are the same to whoever asks for a variable. -/
def Environment.Agrees (env env' : Environment) : Prop := ∀ name, env.get? name = env'.get? name

namespace Environment.Agrees

variable {env env' : Environment}

theorem text?_eq (h : Agrees env env') (name : String) : env.text? name = env'.text? name := by
  rw [text?, h name, text?]

theorem set_comm (env : Environment) {key key' : String} (hne : key ≠ key')
    (value value' : String) :
    Agrees ((env.set key value).set key' value') ((env.set key' value').set key value) := by
  intro name
  simp only [get?_set]
  by_cases h : name = key
  · simp [h, hne]
  · simp [h]

end Environment.Agrees

open Environment in
theorem Page.frames_of_agrees {env env' : Environment} (h : Agrees env env')
    (clicks : List (Int × Click)) : frames env clicks = frames env' clicks := by
  have hvariable (key fallback : String) :
      Config.variableOr env key fallback = Config.variableOr env' key fallback := by
    rw [Config.variableOr, h.text?_eq, Config.variableOr]
  have hconfig : Config.ofEnvironment env = Config.ofEnvironment env' := by
    rw [Config.ofEnvironment, hvariable, hvariable, Config.ofEnvironment]
  rw [frames, mount, hconfig, frames, mount]

namespace Startup
open Environment

variable {env env' : Environment}

theorem withFilter_of_agrees (h : Agrees env env') : Agrees (withFilter env) (withFilter env') := by
  intro name
  rw [withFilter, withFilter, h.text?_eq]
  split
  · exact h name
  · rw [get?_set, get?_set, h name]

theorem filter_of_agrees (h : Agrees env env') : filter env = filter env' := by
  rw [filter, h.text?_eq, filter]

/-- The page and its log, as far as it is seen, in an environment. -/
def seen (env : Environment) (clicks : List (Int × Click)) : List Frame :=
  (Page.frames env clicks).map (visible (filter env))

theorem run_eq (env : Environment) (file : ByteArray) (above : List (Option ByteArray))
    (clicks : List (Int × Click)) :
    run env (some file :: above) clicks =
      (withFilter (env.load (some file)), seen (withFilter (env.load (some file))) clicks) := rfl

theorem seen_of_agrees (h : Agrees env env') (clicks : List (Int × Click)) :
    seen env clicks = seen env' clicks := by
  rw [seen, Page.frames_of_agrees h, filter_of_agrees h, seen]

/-! ## A file with a bad line -/

theorem text?_withFilter {name text : String} (h : env.text? name = some text) :
    (withFilter env).text? name = some text := by
  have hs : (env.text? name).isSome = true := by rw [h, Option.isSome_some]
  rw [(extends_withFilter env).text?_eq hs, h]

/-- A start with whole lines, a bad line and anything behind it is the start with the whole lines
alone, in its environment and in all that is seen of the page, and whatever files there are in the
directories above. What the lines in front have set stays set. -/
theorem bad_line_ends_file {content line : ByteArray} (hw : Whole content)
    (hl : 0x0A ∉ line.data.toList)
    (hb : String.fromUTF8? line = none ∨
      ∃ text, String.fromUTF8? line = some text ∧ Line.parse? text.toList = none)
    (env : Environment) (rest : ByteArray) (above above' : List (Option ByteArray))
    (clicks : List (Int × Click)) :
    let cut := run env (some (content ++ line ++ "\n".toUTF8 ++ rest) :: above) clicks
    cut = run env (some content :: above') clicks ∧
    ∀ key value, .binding key value ∈ heeded (some content) →
      ∃ text, (env.load (some content)).text? key = some text ∧ cut.1.text? key = some text := by
  intro cut
  have hbad : decodeLine? line.data.toList = none := by
    rw [decodeLine?, Array.toArray_toList]
    rcases hb with hb | ⟨text, ht, hp⟩
    · rw [hb, Option.bind_none]
    · rw [ht, Option.bind_some, hp]
  have hload : env.load (some (content ++ line ++ "\n".toUTF8 ++ rest)) = env.load (some content) :=
    load_of_bad hw hl hbad rest env
  have hcut : cut = run env (some content :: above') clicks := by
    simp only [cut, run_eq, hload]
  refine ⟨hcut, fun key value hm => ?_⟩
  have hsettled : (env.load (some content)).Settled (.binding key value) := by
    rw [load_eq_foldl]
    exact settled_foldl_obey (heeded (some content)) env _ hm
  obtain ⟨text, ht⟩ := Option.isSome_iff_exists.1 hsettled
  rw [hcut, run_eq]
  exact ⟨text, ht, text?_withFilter ht⟩

/-- A quote that is left open takes the names behind it with it, but not the one before it. -/
theorem bad_line_ends_file_open_quote :
    let content := "THEME_COOKIE_NAME='night'\n".toUTF8
    let line := "THEME_DARK_CLASS=\"night".toUTF8
    let rest := "THEME_DARK_CLASS=black\n".toUTF8
    let files := [some (content ++ line ++ "\n".toUTF8 ++ rest), some rest]
    (Whole content ∧ 0x0A ∉ line.data.toList ∧
      ∃ text, String.fromUTF8? line = some text ∧ Line.parse? text.toList = none) ∧
    run .empty files [(0, .toggle)] = run .empty [some content] [(0, .toggle)] ∧
    (run .empty files [(0, .toggle)]).1.text? "THEME_COOKIE_NAME" = some "night" := by
  intro content line rest files
  have hw : Whole content := .inr ⟨"THEME_COOKIE_NAME='night'".toUTF8, by decide⟩
  have hl : 0x0A ∉ line.data.toList := by decide
  have hb : ∃ text, String.fromUTF8? line = some text ∧ Line.parse? text.toList = none :=
    ⟨_, fromUTF8?_toUTF8 _, by decide +kernel⟩
  have hnight : .binding "THEME_COOKIE_NAME" ("night".toList.map .char) ∈
      heeded (some content) := by decide +kernel
  obtain ⟨hrun, hset⟩ :=
    bad_line_ends_file hw hl (.inr hb) .empty rest [some rest] [] [(0, .toggle)]
  obtain ⟨text, hload, hafter⟩ := hset _ _ hnight
  have htext : some text = some "night" := hload.symm.trans (by decide +kernel)
  exact ⟨⟨hw, hl, hb⟩, hrun, hafter.trans htext⟩

/-! ## A file with names in quotes -/

/-- A start without names in the environment but with a file of two lines, in either order, that
give them in single quotes, is the start with these names in the environment and an empty file: the
variables are the same afterwards, and so is all that is seen of the page. The names may be any
texts that have no single quote and no newline in them, valid or not. -/
theorem quoted_names_as_if_set {env : Environment} {cookieName darkClass ending : String}
    (hn : env.text? Config.cookieNameVariable = none)
    (hd : env.text? Config.darkClassVariable = none)
    (hcookieName : Quotable cookieName) (hdarkClass : Quotable darkClass)
    (he : ending = "" ∨ ending = "\n") (above above' : List (Option ByteArray))
    (clicks : List (Int × Click)) :
    let first := Line.quoting Config.cookieNameVariable cookieName
    let second := Line.quoting Config.darkClassVariable darkClass
    let supplied := run ((env.set Config.cookieNameVariable cookieName).set
      Config.darkClassVariable darkClass) (some .empty :: above') clicks
    ∀ text ∈ [first ++ "\n" ++ (second ++ ending), second ++ "\n" ++ (first ++ ending)],
      let filed := run env (some text.toUTF8 :: above) clicks
      (∀ name, filed.1.get? name = supplied.1.get? name) ∧ filed.2 = supplied.2 := by
  intro first second supplied text htext filed
  have hne : Config.darkClassVariable ≠ Config.cookieNameVariable := by decide
  have hkn : Line.IsKey Config.cookieNameVariable.toList := by decide
  have hkd : Line.IsKey Config.darkClassVariable.toList := by decide
  have hload : Agrees (env.load (some text.toUTF8))
      ((env.set Config.cookieNameVariable cookieName).set Config.darkClassVariable darkClass) := by
    rcases List.mem_cons.1 htext with rfl | hswapped
    · rw [load_quoting hkn hcookieName hkd hdarkClass hne hn hd he]
      exact fun name => rfl
    · rw [List.mem_singleton.1 hswapped,
        load_quoting hkd hdarkClass hkn hcookieName hne.symm hd hn he]
      exact .set_comm env hne darkClass cookieName
  have hagree := withFilter_of_agrees hload
  simp only [filed, supplied, run_eq, load_empty]
  exact ⟨hagree, seen_of_agrees hagree clicks⟩

/-- A name that is full of signs with a meaning of their own, and not a valid one. -/
theorem quoted_names_as_if_set_signs :
    let env := Environment.empty.set "RUST_LOG" "debug"
    let cookieName := " #$HOME=$\x7bX\x7d\\\"n "
    let text := "THEME_DARK_CLASS='night'\nTHEME_COOKIE_NAME=' #$HOME=$\x7bX\x7d\\\"n '\n"
    let filed := run env [some text.toUTF8] [(0, .toggle)]
    let supplied := run ((env.set Config.cookieNameVariable cookieName).set
      Config.darkClassVariable "night") [some .empty] [(0, .toggle)]
    (env.text? Config.cookieNameVariable = none ∧ env.text? Config.darkClassVariable = none ∧
      Quotable cookieName ∧ Quotable "night") ∧
    (∀ name, filed.1.get? name = supplied.1.get? name) ∧ filed.2 = supplied.2 ∧
      filed.1.text? "THEME_COOKIE_NAME" = some cookieName := by
  intro env cookieName text filed supplied
  have hn : env.text? Config.cookieNameVariable = none := by decide +kernel
  have hd : env.text? Config.darkClassVariable = none := by decide +kernel
  have hcookieName : Quotable cookieName := by decide
  have hdarkClass : Quotable "night" := by decide
  have htext : text ∈ [
      Line.quoting Config.cookieNameVariable cookieName ++ "\n" ++
        (Line.quoting Config.darkClassVariable "night" ++ "\n"),
      Line.quoting Config.darkClassVariable "night" ++ "\n" ++
        (Line.quoting Config.cookieNameVariable cookieName ++ "\n")] := by decide
  obtain ⟨hget, hseen⟩ := quoted_names_as_if_set hn hd hcookieName hdarkClass (.inr rfl) [] []
    [(0, .toggle)] text htext
  exact ⟨⟨hn, hd, hcookieName, hdarkClass⟩, hget, hseen, by decide +kernel⟩

end Startup
end ThemeSwitch
