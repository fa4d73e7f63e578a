import ThemeSwitch.Startup

/-! # The program

Shows the page in its environment and after each click: the markup on standard output, the log on
standard error. Every line of standard input is a click, `toggle` or `home`. -/
namespace ThemeSwitch.Main

/-- The page writes cookies only for the session or to expire when 1970 began, so that every second
from then on serves as the time of a click. -/
def second : Int := 0

/-- The content of a file, if it can be read. -/
def content? (path : String) : IO (Option ByteArray) := do
  try
    return some (← IO.FS.readBinFile path)
  catch _ =>
    return none

/-- The files of the working directory and of the directories above it. -/
def environmentFiles : IO (List (Option ByteArray)) :=
  (List.range 64).mapM fun up => content? (String.join (List.replicate up "../") ++ ".env")

/-- The variables of the process that the program or its files name. -/
def processEnvironment (names : List String) : IO Environment :=
  names.foldlM
    (fun env name => do
      match ← IO.getEnv name with
      | some value => return env.set name value
      | none => return env)
    .empty

def report (filter : Log.Filter) (events : List Log.Event) : IO Unit :=
  for event in events do
    if filter.admits event then
      IO.eprintln ("[" ++ event.level.name ++ " " ++ event.source.target ++ "] " ++ event.message)

def click? (line : String) : Option Click :=
  match line.trimAscii.toString with
  | "toggle" => some .toggle
  | "home" => some .home
  | _ => none

/-- Shows the page, then waits for clicks until the input ends. -/
partial def serve (filter : Log.Filter) (page : Page) (events : List Log.Event) : IO Unit := do
  report filter events
  IO.println page.html
  await
where
  await : IO Unit := do
    let line ← (← IO.getStdin).getLine
    if line.isEmpty then return
    match click? line with
    | some click =>
      let (page, events) := page.click second click
      serve filter page events
    | none => await

end ThemeSwitch.Main

def main : IO Unit := do
  let files ← ThemeSwitch.Main.environmentFiles
  let names := [ThemeSwitch.Startup.filterVariable, ThemeSwitch.Config.cookieNameVariable,
    ThemeSwitch.Config.darkClassVariable]
  let used := ((files.findSome? id).map ThemeSwitch.Environment.fileNames).getD []
  let env ← ThemeSwitch.Main.processEnvironment (names ++ used)
  let env := ThemeSwitch.Startup.prepare env files
  let (page, events) := ThemeSwitch.Page.mount env
  ThemeSwitch.Main.serve (ThemeSwitch.Startup.filter env) page events
