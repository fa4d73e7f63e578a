import ThemeSwitch.Config.Json
import ThemeSwitch.Proofs.ConfigEnvironment
import ThemeSwitch.Proofs.JsonRecords

/-! # Which objects are configurations

An object is read as a configuration if it gives each of the two names at most once, as a string,
and the configuration of these names is valid. Neither the way in which it is written matters nor
what else it holds, however deep that goes. -/
namespace ThemeSwitch.Config
open Json

/-- The members give the name to the field: once, as a string, or not at all where it is the usual
name. -/
def Gives (ms : List (String × Value)) (field name : String) : Prop :=
  valuesOf ms field = [.string name] ∨ valuesOf ms field = [] ∧ name = "dark"

/-- The members give both names of the configuration. -/
structure Describes (ms : List (String × Value)) (config : Config) : Prop where
  cookieName : Gives ms cookieNameField config.cookieName
  darkClass : Gives ms darkClassField config.darkClass

/-- The members that are looked at. -/
def known (ms : List (String × Value)) : List (String × Value) :=
  ms.filter fun m => m.1 ∈ shape.fields

theorem valuesOf_known {field : String} (h : field ∈ shape.fields) (ms : List (String × Value)) :
    valuesOf (known ms) field = valuesOf ms field := by
  rw [valuesOf, valuesOf, known, List.filter_filter]
  refine congrArg _ (List.filter_congr fun m _ => ?_)
  by_cases he : m.1 = field
  · simp [he, h]
  · simp [he]

theorem describes_of_known {ms others : List (String × Value)} (h : known others = known ms)
    {config : Config} (hd : Describes ms config) : Describes others config := by
  have hvalues {field : String} (hf : field ∈ shape.fields) :
      valuesOf others field = valuesOf ms field := by
    rw [← valuesOf_known hf others, h, valuesOf_known hf ms]
  constructor
  · rw [Gives, hvalues (by simp [shape])]
    exact hd.cookieName
  · rw [Gives, hvalues (by simp [shape])]
    exact hd.darkClass

theorem gives_iff {ms : List (String × Value)} {field name : String} :
    Gives ms field name ↔
      ∃ text?, only? Value.text? none (valuesOf ms field) = some text? ∧
        text?.getD "dark" = name := by
  simp only [only?_eq_some_iff]
  constructor
  · rintro (h | ⟨h, rfl⟩)
    · exact ⟨some name, .inr ⟨_, name, h, rfl, rfl⟩, rfl⟩
    · exact ⟨none, .inl ⟨h, rfl⟩, rfl⟩
  · rintro ⟨text?, ⟨h, rfl⟩ | ⟨v, text, h, hv, rfl⟩, rfl⟩
    · exact .inr ⟨h, rfl⟩
    · cases v with
      | string s =>
        cases hv
        exact .inl h
      | null | boolean | number | list | object => cases hv

/-- What the members describe is made of the fields that are read from them. -/
theorem describes_iff {ms : List (String × Value)} {config : Config} : Describes ms config ↔
    ∃ fields, ms.foldlM (shape.enter Value.text?) [] = some fields ∧ ofFields fields = config := by
  constructor
  · rintro ⟨hcookie, hdark⟩
    obtain ⟨cookieName?, hc, hcookieName⟩ := gives_iff.1 hcookie
    obtain ⟨darkClass?, hd, hdarkClass⟩ := gives_iff.1 hdark
    let value? (field : String) := if field = cookieNameField then cookieName? else darkClass?
    have hall : ∀ field ∈ shape.fields,
        only? Value.text? none (valuesOf ms field) = some (value? field) := by
      simpa [shape, value?, show darkClassField ≠ cookieNameField by decide] using ⟨hc, hd⟩
    have hread : ∃ fields, ms.foldlM (shape.enter Value.text?) [] = some fields ∧
        ∀ field ∈ shape.fields, fields.lookup field = value? field :=
      Shape.exists_fields_iff.2 hall
    obtain ⟨fields, hfields, hlookup⟩ := hread
    have hlc : fields.lookup cookieNameField = cookieName? := hlookup _ (by simp [shape])
    have hld : fields.lookup darkClassField = darkClass? := hlookup _ (by simp [shape])
    refine ⟨fields, hfields, ?_⟩
    rw [ofFields, hlc, hld, hcookieName, hdarkClass]
  · rintro ⟨fields, hfields, rfl⟩
    have hall := Shape.exists_fields_iff.1 ⟨fields, hfields, fun field _ => rfl⟩
    exact ⟨gives_iff.2 ⟨_, hall cookieNameField (by simp [shape]), rfl⟩,
      gives_iff.2 ⟨_, hall darkClassField (by simp [shape]), rfl⟩⟩

theorem validated_eq_ok_iff {config config' : Config} :
    config.validated = .ok config' ↔ config = config' ∧ config'.Valid := by
  by_cases hv : config.Valid
  · rw [validated_of_valid hv, Except.ok.injEq]
    exact ⟨fun h => ⟨h, h ▸ hv⟩, And.left⟩
  · obtain ⟨defect, -, h⟩ := validated_of_not_valid hv
    rw [h]
    refine ⟨fun e => ?_, fun e => absurd (e.1 ▸ e.2) hv⟩
    cases e

theorem ofJson_eq_ok_iff {text : String} {config : Config} : ofJson text = .ok config ↔
    ∃ fields, (readWhole shape.read text.toList).toOption = some fields ∧
      ofFields fields = config ∧ config.Valid := by
  rw [ofJson]
  cases readWhole shape.read text.toList with
  | error stop => simp [Except.toOption]
  | ok fields => simp [Except.toOption, validated_eq_ok_iff]

theorem ofJson_written {text : String} {ms : List (String × Value)}
    (h : Written (.padded (.object ms)) text.toList) {config : Config} :
    ofJson text = .ok config ↔ Describes ms config ∧ config.Valid := by
  have hread : (readWhole shape.read text.toList).toOption =
      ms.foldlM (shape.enter Value.text?) [] := by
    rw [← List.append_nil text.toList, Shape.toOption_readWhole interprets_text rfl h]
    exact if_pos fun c hc => absurd hc List.not_mem_nil
  rw [ofJson_eq_ok_iff, describes_iff, hread]
  constructor
  · rintro ⟨fields, hfields, rfl, hv⟩
    exact ⟨⟨fields, hfields, rfl⟩, hv⟩
  · rintro ⟨⟨fields, hfields, rfl⟩, hv⟩
    exact ⟨fields, hfields, rfl, hv⟩

/-- A text that is no configuration is an invalid one. -/
theorem exists_message_of_ne {text : String} (h : ∀ config, ofJson text ≠ .ok config) :
    ∃ message, ofJson text = .error ⟨.invalidConfig, message⟩ := by
  cases hr : readWhole shape.read text.toList with
  | error stop => exact ⟨stop.message text.toList, by rw [ofJson, hr]⟩
  | ok fields =>
    have hread : ofJson text = (ofFields fields).validated := by rw [ofJson, hr]
    by_cases hv : (ofFields fields).Valid
    · exact absurd (hread.trans (validated_of_valid hv)) (h _)
    · obtain ⟨defect, -, he⟩ := validated_of_not_valid hv
      exact ⟨defect.message, hread.trans he⟩

/-- A text of an object is read as a configuration if and only if its members give each of the two
names at most once, as a string, and the configuration of these names and of the usual one for each
that is missing is valid. Otherwise it is an invalid configuration. Members with other keys may
therefore come and go anywhere, and nothing but blanks may follow the object. -/
theorem ofJson_reads_objects {text : String} {members : List (String × Value)}
    (h : Written (.padded (.object members)) text.toList) :
    (∀ config, ofJson text = .ok config ↔ Describes members config ∧ config.Valid) ∧
    ((¬ ∃ config, Describes members config ∧ config.Valid) →
      ∃ message, ofJson text = .error ⟨.invalidConfig, message⟩) ∧
    (∀ others text', Written (.padded (.object others)) text'.toList →
      known others = known members →
        ∀ config, ofJson text = .ok config ↔ ofJson text' = .ok config) ∧
    ∀ tail : String, ¬ Blanks tail.toList →
      ∃ message, ofJson (text ++ tail) = .error ⟨.invalidConfig, message⟩ := by
  refine ⟨fun config => ofJson_written h, fun hnone => ?_, fun others text' h' hknown config => ?_,
    fun tail htail => ?_⟩
  · exact exists_message_of_ne fun config hc => hnone ⟨config, (ofJson_written h).1 hc⟩
  · rw [ofJson_written h, ofJson_written h']
    exact and_congr_left' ⟨describes_of_known hknown, describes_of_known hknown.symm⟩
  · refine exists_message_of_ne fun config hc => ?_
    obtain ⟨fields, hfields, -⟩ := ofJson_eq_ok_iff.1 hc
    rw [String.toList_append, Shape.toOption_readWhole interprets_text rfl h,
      if_neg htail] at hfields
    cases hfields

/-- Past a list that holds an object with a brace and a quote in its key, and a number, a key that
begins with an escape is found. -/
theorem ofJson_past_nested_member :
    let text :=
      "\n\x7b\"more\":[\x7b\"\\\"\x7d\":null\x7d,-0.5E+7] ,\"\\u0063ookie_name\":\"night\"\x7d"
    let plain := "\x7b\"cookie_name\":\"night\"\x7d"
    let cookie : String × Value := (cookieNameField, .string "night")
    let more : String × Value :=
      ("more", .list [.object [("\"\x7d", .null)], .number "-0.5E+7".toList])
    Written (.padded (.object [more, cookie])) text.toList ∧ ofJson text = .ok ⟨"night", "dark"⟩ ∧
      ofJson plain = .ok ⟨"night", "dark"⟩ ∧
      ∃ message, ofJson (text ++ "\x7d") = .error ⟨.invalidConfig, message⟩ := by
  intro text plain cookie more
  have hnested : Written (.value (.object [("\"\x7d", .null)]))
      "\x7b\"\\\"\x7d\":null\x7d".toList :=
    .object (.lastMember (written_printMember "\"\x7d" .null))
  have hnumber : Literal "-0.5E+7".toList := by
    have hfraction : Fraction ".5".toList := .digits (by decide)
    have hpower : Power "E+7".toList := .digits (.inr rfl) (.inr (.inl rfl)) (by decide)
    exact .of (.inr rfl) .zero hfraction hpower
  have hlist : Written (.padded more.2) ("[\x7b\"\\\"\x7d\":null\x7d,-0.5E+7]".toList ++ [' ']) :=
    .padded blanks_nil (.list (.element hnested.bare (.lastElement (Written.number hnumber).bare)))
      (by decide)
  have hmore : Written (.member "more" more.2) _ :=
    .keyed blanks_nil (spelled_flatMap "more".toList) blanks_nil hlist
  have hescape : Letter ['\\', 'u', '0', '0', '6', '3'] 'c' :=
    .numbered (.of (k := 0) (l := 0) (m := 6) (n := 3) (by decide) (by decide) (by decide)
      (by decide))
  have hname : Spelled "\\u0063ookie_name".toList "cookie_name".toList :=
    .cons hescape (spelled_flatMap "ookie_name".toList)
  have hcookie : Written (.member cookieNameField cookie.2) _ :=
    .keyed blanks_nil hname blanks_nil (written_printString "night").bare
  have hobject : Written (.value (.object [more, cookie])) _ :=
    .object (.furtherMember hmore (.lastMember hcookie))
  have htext : Written (.padded (.object [more, cookie])) text.toList :=
    (Written.padded (b := ['\n']) (by decide) hobject blanks_nil).of_eq (by decide +kernel)
  have hplain : Written (.padded (.object [cookie])) plain.toList :=
    (written_printFields written_printString [(cookieNameField, "night")]).bare.of_eq
      (by decide +kernel)
  obtain ⟨hok, -, hothers, htail⟩ := ofJson_reads_objects htext
  have hnight : ofJson text = .ok ⟨"night", "dark"⟩ :=
    (hok ⟨"night", "dark"⟩).2 ⟨⟨.inl rfl, .inr ⟨rfl, rfl⟩⟩, by decide⟩
  exact ⟨htext, hnight, (hothers _ plain hplain rfl _).1 hnight, htail "\x7d" (by decide)⟩

end ThemeSwitch.Config
