import AreaOfInterest.CommandLine.Arguments

/-!
# Help texts

What the program tells about itself and its commands.
-/

namespace AreaOfInterest.CommandLine

/-- The name of the program. -/
def programName : String := "aoikit"

/-- The name of the program with its version. -/
def versionText : String := programName ++ " 0.1.0"

/-- What a command does. -/
def CommandName.about : CommandName → String
  | validate => "Report polygon validity and whether the selection is acceptable"
  | area => "Ellipsoidal area of every feature in km²"
  | buffer => "Buffer every feature and union the result into one shape"
  | bbox => "Geographic bounding box [minLon, minLat, maxLon, maxLat]"
  | search => "Find a place by name and print it as a GeoJSON feature"

/-- The operand of a command, and what it is. -/
def CommandName.operand : CommandName → String × String
  | validate => ("<FILE>", "GeoJSON file (FeatureCollection, Feature or bare geometry)")
  | area | buffer | bbox => ("<FILE>", "")
  | search => ("<QUERY>", "")

/-- What the `help` command does. -/
def helpAbout : String := "Print this message or the help of the given subcommand(s)"

/-- What an option does in a place. -/
def OptionName.about (place : Option CommandName) : OptionName → String
  | config => "Path to config file (optional, auto-searches aoikit.toml if not provided)"
  | verbose => "Enable verbose logging"
  | distance => "Buffer distance in meters"
  | output => if place = some .buffer then "Output file (defaults to stdout)" else ""
  | help => "Print help"
  | version => "Print version"

/-- The forms of an option, the letter first. -/
def OptionName.forms (name : OptionName) : String :=
  let letter := match name.letter? with
    | some c => String.ofList ['-', c, ',', ' ']
    | none => "    "
  letter ++ "--" ++ name.long ++ if name.takesValue then " <" ++ name.long.toUpper ++ ">" else ""

/-- Lines of two columns under a heading. -/
def columns (heading : String) (rows : List (String × String)) : String :=
  let width := (rows.map (·.1.length)).foldl max 0
  let line (row : String × String) : String :=
    "  " ++ row.1 ++ String.ofList (List.replicate (width - row.1.length + 2) ' ') ++ row.2 ++ "\n"
  heading ++ ":\n" ++ String.join (rows.map line)

/-- The options of a place with what they do. -/
def optionRows (place : Option CommandName) : List (String × String) :=
  (OptionName.allowed place).map fun name => (name.forms, name.about place)

/-- The text of a topic. -/
def Topic.text : Topic → String
  | program =>
    let commands := CommandName.all.map fun name => (name.text, name.about)
    "Area-of-interest geometry engine: draw, edit, validate and buffer map selections\n\nUsage: " ++ programName ++
      " [OPTIONS] <COMMAND>\n\n" ++ columns "Commands" (commands ++ [("help", helpAbout)]) ++ "\n" ++
      columns "Options" (optionRows none)
  | command name =>
    let required := if name = .buffer then " --distance <DISTANCE>" else ""
    name.about ++ "\n\nUsage: " ++ programName ++ " " ++ name.text ++ " [OPTIONS]" ++ required ++ " " ++
      name.operand.1 ++ "\n\n" ++ columns "Arguments" [name.operand] ++ "\n" ++
      columns "Options" (optionRows (some name))
  | help =>
    helpAbout ++ "\n\nUsage: " ++ programName ++ " help [COMMAND]...\n\n" ++
      columns "Arguments" [("[COMMAND]...", "Print help for the subcommand(s)")]

end AreaOfInterest.CommandLine
