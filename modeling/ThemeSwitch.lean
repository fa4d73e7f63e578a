import ThemeSwitch.Action
import ThemeSwitch.Calendar.Moment
import ThemeSwitch.Calendar.Stamp
import ThemeSwitch.ClassList
import ThemeSwitch.Config
import ThemeSwitch.Config.FromEnvironment
import ThemeSwitch.Config.Json
import ThemeSwitch.Controller.Basic
import ThemeSwitch.Controller.Run
import ThemeSwitch.Cookie.Directive
import ThemeSwitch.Cookie.Jar
import ThemeSwitch.Cookie.Pair
import ThemeSwitch.Decimal.Shortest
import ThemeSwitch.Document
import ThemeSwitch.Environment
import ThemeSwitch.Environment.File
import ThemeSwitch.Environment.Line
import ThemeSwitch.Failure
import ThemeSwitch.Json.Number
import ThemeSwitch.Json.Pass
import ThemeSwitch.Json.Printer
import ThemeSwitch.Json.Record
import ThemeSwitch.Json.Stop
import ThemeSwitch.Json.Word
import ThemeSwitch.Log.Event
import ThemeSwitch.Log.Filter
import ThemeSwitch.Main
import ThemeSwitch.Page.Basic
import ThemeSwitch.Page.Html
import ThemeSwitch.Page.View
import ThemeSwitch.Pattern.Basic
import ThemeSwitch.Pattern.Beginning
import ThemeSwitch.Pattern.Bracket
import ThemeSwitch.Pattern.Escape
import ThemeSwitch.Pattern.Look
import ThemeSwitch.Pattern.Parser
import ThemeSwitch.Pattern.Part
import ThemeSwitch.Pattern.Scan
import ThemeSwitch.Pattern.Search
import ThemeSwitch.Pattern.Size
import ThemeSwitch.Pattern.Tally
import ThemeSwitch.Preference
import ThemeSwitch.Proofs.AccountedActions
import ThemeSwitch.Proofs.ActionOutcomes
import ThemeSwitch.Proofs.CalendarForms
import ThemeSwitch.Proofs.CalendarSeconds
import ThemeSwitch.Proofs.CalendarStamps
import ThemeSwitch.Proofs.ClassListText
import ThemeSwitch.Proofs.ClassListUpdates
import ThemeSwitch.Proofs.ConfigObjects
import ThemeSwitch.Proofs.ConfigSources
import ThemeSwitch.Proofs.ControllerActions
import ThemeSwitch.Proofs.ControllerCoherence
import ThemeSwitch.Proofs.ControllerFailures
import ThemeSwitch.Proofs.ControllerFrame
import ThemeSwitch.Proofs.ControllerOutcomes
import ThemeSwitch.Proofs.ControllerRecords
import ThemeSwitch.Proofs.ControllerSetting
import ThemeSwitch.Proofs.ControllerSettling
import ThemeSwitch.Proofs.ControllerSwitch
import ThemeSwitch.Proofs.CookieEviction
import ThemeSwitch.Proofs.CookieExpiry
import ThemeSwitch.Proofs.CookieJarSeeding
import ThemeSwitch.Proofs.CookieJarText
import ThemeSwitch.Proofs.CookieJarUpdates
import ThemeSwitch.Proofs.CookieLookup
import ThemeSwitch.Proofs.CookiePieces
import ThemeSwitch.Proofs.EnvironmentFileLines
import ThemeSwitch.Proofs.EnvironmentLoading
import ThemeSwitch.Proofs.EnvironmentQuotes
import ThemeSwitch.Proofs.JsonGrammar
import ThemeSwitch.Proofs.JsonObjects
import ThemeSwitch.Proofs.JsonPassing
import ThemeSwitch.Proofs.JsonReading
import ThemeSwitch.Proofs.JsonRecords
import ThemeSwitch.Proofs.PageClicks
import ThemeSwitch.Proofs.PageMarkup
import ThemeSwitch.Proofs.PreferenceCookie
import ThemeSwitch.Proofs.PreferenceNames
import ThemeSwitch.Proofs.QuietActions
import ThemeSwitch.Proofs.StartupEnvironment
import ThemeSwitch.Proofs.StartupFiles
import ThemeSwitch.Proofs.ToggleCycle
import ThemeSwitch.Route
import ThemeSwitch.Startup
import ThemeSwitch.Text.Blank
import ThemeSwitch.Text.Cut
import ThemeSwitch.Text.Digits
import ThemeSwitch.Text.Quoted
import ThemeSwitch.Theme
import ThemeSwitch.Theme.Json
import ThemeSwitch.Unicode.Category
import ThemeSwitch.Unicode.CharSet
import ThemeSwitch.Unicode.Fold
import ThemeSwitch.Unicode.Property
import ThemeSwitch.Unicode.Property.Age
import ThemeSwitch.Unicode.Property.Ascii
import ThemeSwitch.Unicode.Property.Binary
import ThemeSwitch.Unicode.Property.Break
import ThemeSwitch.Unicode.Property.Category
import ThemeSwitch.Unicode.Property.Name
import ThemeSwitch.Unicode.Property.Script
import ThemeSwitch.Unicode.Property.ScriptExtension
import ThemeSwitch.Unicode.Property.Table
import ThemeSwitch.Unicode.Utf8
