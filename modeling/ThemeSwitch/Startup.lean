import ThemeSwitch.Environment.File
import ThemeSwitch.Log.Filter
import ThemeSwitch.Page.Basic

/-! # Starting the program

The environment is completed from a file, the log filter is taken from it, and the page is
mounted. -/
namespace ThemeSwitch.Startup
open Log

def filterVariable : String := "RUST_LOG"

/-- The environment to run in: completed from the first file there is, where `files` are those of
the working directory and the directories above it, and with a log filter for information where
there is none. -/
def prepare (env : Environment) (files : List (Option ByteArray)) : Environment :=
  let env := env.load (files.findSome? id)
  if (env.text? filterVariable).isSome then env else env.set filterVariable "info"

/-- The filter that the environment asks for. -/
def filter (env : Environment) : Filter := .parse ((env.text? filterVariable).getD "")

/-- The frame with those events that the filter lets through. -/
def visible (filter : Filter) (frame : Frame) : Frame :=
  { frame with events := frame.events.filter filter.admits }

/-- The environment in which the program runs, and what is then seen of its page. -/
def run (env : Environment) (files : List (Option ByteArray)) (clicks : List (Int × Click)) :
    Environment × List Frame :=
  let env := prepare env files
  (env, (Page.frames env clicks).map (visible (filter env)))

end ThemeSwitch.Startup
