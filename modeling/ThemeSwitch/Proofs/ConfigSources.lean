import Mathlib.Data.List.Permutation
import ThemeSwitch.Config.Json
import ThemeSwitch.Proofs.ConfigEnvironment
import ThemeSwitch.Proofs.JsonRecords

/-! # The environment and the page agree

A configuration may come from two variables of the environment or from a record that a page embeds.
Where the variables hold the very names that the record has as members, the two ways end alike: with
the configuration of these names and the usual ones for those that are missing, or with its first
defect. The JSON form of a configuration in particular reads back as the configuration. -/
namespace ThemeSwitch.Config
open Json

/-- The members of a record with those of the two names that are given. -/
def members (cookieName darkClass : Option String) : Fields String :=
  (cookieName.map fun name => (cookieNameField, name)).toList ++
    (darkClass.map fun name => (darkClassField, name)).toList

/-- The record of the members, as a page embeds it. -/
def embedded (fields : Fields String) : String :=
  String.ofList (printFields (fun s => printString s.toList) fields)

/-- The configuration of the names that are given and the usual ones for the others. -/
def orUsual (cookieName darkClass : Option String) : Config where
  cookieName := cookieName.getD "dark"
  darkClass := darkClass.getD "dark"

theorem toJson_eq_embedded (config : Config) :
    config.toJson = embedded (members (some config.cookieName) (some config.darkClass)) := rfl

theorem ofEnvironment_fst (env : Environment) : (ofEnvironment env).1 =
    (orUsual (env.text? cookieNameVariable) (env.text? darkClassVariable)).validated := by
  obtain ⟨events, he, -⟩ := ofEnvironment_eq env
  rw [he]
  rfl

/-- The names of the members are fields, each at most once. -/
theorem names_members_sublist (cookieName darkClass : Option String) :
    ((members cookieName darkClass).map (·.1)).Sublist shape.fields := by
  have hone (name : Option String) (field : String) :
      ((name.map fun text => (field, text)).toList.map (·.1)).Sublist [field] := by
    cases name <;> simp
  rw [members, List.map_append]
  exact (hone cookieName cookieNameField).append (hone darkClass darkClassField)

/-- In whatever order the names are found, they make up the same configuration. -/
theorem ofFields_of_perm {cookieName darkClass : Option String} {fields : Fields String}
    (h : fields.Perm (members cookieName darkClass)) :
    ofFields fields = orUsual cookieName darkClass := by
  cases cookieName with
  | none =>
    cases darkClass with
    | none =>
      rw [List.perm_nil.1 h]
      rfl
    | some darkClass =>
      rw [List.perm_singleton.1 h]
      rfl
  | some cookieName =>
    cases darkClass with
    | none =>
      rw [List.perm_singleton.1 h]
      rfl
    | some darkClass =>
      rcases List.perm_pair.1 h with rfl | rfl
      · rfl
      · rfl

/-- A record of the two names, or of one or none of them, is read as their configuration. -/
theorem ofJson_embedded {cookieName darkClass : Option String} {fields : Fields String}
    (h : fields.Perm (members cookieName darkClass)) :
    ofJson (embedded fields) = (orUsual cookieName darkClass).validated := by
  have hnames : (fields.map (·.1)).Perm ((members cookieName darkClass).map (·.1)) := h.map _
  have hsub := names_members_sublist cookieName darkClass
  have hfields : ∀ f ∈ fields, f.1 ∈ shape.fields :=
    fun f hf => hsub.subset (hnames.subset (List.mem_map_of_mem hf))
  have hnodup : (fields.map (·.1)).Nodup := hnames.nodup_iff.2 (hsub.nodup (by decide))
  have hread : readWhole shape.read (embedded fields).toList = .ok fields := by
    rw [embedded, String.toList_ofList]
    exact Shape.readWhole_printFields interprets_text rfl written_printString (fun s => rfl) hfields
      hnodup
  rw [ofJson, hread]
  exact congrArg validated (ofFields_of_perm h)

theorem ofJson_toJson (config : Config) : ofJson config.toJson = config.validated := by
  rw [toJson_eq_embedded, ofJson_embedded (.refl _)]
  rfl

/-- The environment gives what the page gives: with either name that is given as a variable there
and as a member here, in either order of the members, and with the other missing on both sides.
Where both are missing this is also what a page without a record gives. The JSON form of any
configuration reads back as this configuration if it is valid, and otherwise gives its first
defect. -/
theorem environment_agrees_with_page {env : Environment} {cookieName darkClass : Option String}
    (hcookie : env.text? cookieNameVariable = cookieName)
    (hdark : env.text? darkClassVariable = darkClass) :
    let result := (ofEnvironment env).1
    (∀ fields, fields.Perm (members cookieName darkClass) →
      ofPageMeta (some (embedded fields)) = result) ∧
    (cookieName = none → darkClass = none → ofPageMeta none = result) ∧
    result = (orUsual cookieName darkClass).validated ∧
    ∀ config : Config, (config.Valid → ofJson config.toJson = .ok config) ∧
      ∀ defect, config.defect? = some defect →
        ofJson config.toJson = .error ⟨.invalidConfig, defect.message⟩ := by
  intro result
  have hresult : result = (orUsual cookieName darkClass).validated := by
    rw [← hcookie, ← hdark]
    exact ofEnvironment_fst env
  refine ⟨fun fields hf => ?_, ?_, hresult, fun config => ⟨fun hv => ?_, fun defect hd => ?_⟩⟩
  · exact (ofJson_embedded hf).trans hresult.symm
  · rintro rfl rfl
    rw [hresult]
    rfl
  · rw [ofJson_toJson, validated_of_valid hv]
  · rw [ofJson_toJson, validated, hd]

/-- Both names given, the class with signs that JSON escapes and in front of the cookie name. -/
theorem environment_agrees_on_escapes :
    let env :=
      (Environment.empty.set cookieNameVariable "night").set darkClassVariable "\"\\\x01😀"
    let fields := [(darkClassField, "\"\\\x01😀"), (cookieNameField, "night")]
    env.text? cookieNameVariable = some "night" ∧
      env.text? darkClassVariable = some "\"\\\x01😀" ∧
      fields.Perm (members (some "night") (some "\"\\\x01😀")) ∧
      embedded fields =
        "\x7b\"dark_class\":\"\\\"\\\\\\u0001😀\",\"cookie_name\":\"night\"\x7d" ∧
      ofPageMeta (some (embedded fields)) = (ofEnvironment env).1 := by
  intro env fields
  have hcookie : env.text? cookieNameVariable = some "night" := by
    rw [Environment.text?_set, if_neg (by decide), Environment.text?_set, if_pos rfl]
  have hdark : env.text? darkClassVariable = some "\"\\\x01😀" := by
    rw [Environment.text?_set, if_pos rfl]
  have hperm : fields.Perm (members (some "night") (some "\"\\\x01😀")) := .swap ..
  exact ⟨hcookie, hdark, hperm, by decide +kernel,
    (environment_agrees_with_page hcookie hdark).1 fields hperm⟩

end ThemeSwitch.Config
