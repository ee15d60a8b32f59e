import AreaOfInterest.CommandLine.Environment
import AreaOfInterest.CommandLine.Help
import AreaOfInterest.CommandLine.Report
import AreaOfInterest.Geometry.Backend
import AreaOfInterest.Json.Printer
import AreaOfInterest.Settings.File

/-!
# Running commands

A run reads its arguments, then the configuration, and then does what the command says. The first fault ends it; what
was printed before stays.
-/

namespace AreaOfInterest.CommandLine

/-- Why a command fails. -/
inductive CommandFault where
  | configMissing (path : String)
  | config (fault : ConfigFault) (path : String)
  | unreadableFile (path : String)
  | malformedFile (path : String)
  | notAcceptable (path : String)
  | unreadableFeature (index : Nat)
  | geometry (failure : Failure Float)
  | noCoordinates (path : String)
  | buffer (failure : Failure Float)
  | lookup (fault : LookupFault)
  | unwritableFile (path : String)

/-- What a fault is told as. -/
def CommandFault.message : CommandFault → String
  | configMissing path => "Config file not found: " ++ Text.quotedPath path
  | config fault path => fault.message ++ ": " ++ path
  | unreadableFile path => "Failed to read " ++ path
  | malformedFile path => "Failed to parse GeoJSON in " ++ path
  | notAcceptable path => path ++ " is not an acceptable area of interest"
  | unreadableFeature index => "Feature " ++ toString index ++ " has unreadable geometry"
  | geometry failure => failure.message
  | noCoordinates path => path ++ " has no coordinates"
  | buffer _ => "Buffer failed"
  | lookup fault => fault.message
  | unwritableFile path => "Failed to write " ++ path

/-- How a run ends. -/
inductive Outcome where
  | success
  | misuse
  | failed (fault : CommandFault)

/-- The exit code of an outcome. A ring without points breaks off a run. -/
def Outcome.code : Outcome → UInt32
  | success => 0
  | misuse => 2
  | failed (.buffer .emptyRing) => 101
  | failed _ => 1

variable {m : Type → Type} [Monad m]

/-- The settings of one configuration file. -/
def loadFrom (env : Environment m) (path : String) : ExceptT CommandFault m (FileSettings Float) := do
  unless ← env.isPresent path do throw (.configMissing path)
  match FileSettings.read (← env.read path) with
  | .error fault => throw (.config fault path)
  | .ok settings => return settings

/-- The settings of the first of several files that can be used. -/
def loadFirst (env : Environment m) : List String → m (Option (FileSettings Float))
  | [] => return none
  | path :: rest => do
    match FileSettings.read (← env.read path) with
    | .error _ => loadFirst env rest
    | .ok settings => return some settings

/-- The places where a configuration file is looked for, in order. -/
def configPaths (configHome home : Option String) : List String :=
  ["aoikit.toml", ".aoikit.toml"] ++ (configHome.map (· ++ "/aoikit/config.toml")).toList ++
    (home.map (· ++ "/.aoikit.toml")).toList

/-- The settings of the named file, else of the first usable one, else the defaults. -/
def loadSettings (env : Environment m) (named : Option String) : ExceptT CommandFault m (EditorSettings Float) := do
  match named with
  | some path => return .ofFile (← loadFrom env path)
  | none =>
    let paths := configPaths (← env.configHome) (← env.home)
    return .ofFile ((← ExceptT.lift (loadFirst env paths)).getD .default)

/-- The collection in a file. -/
def loadCollection (env : Environment m) (path : String) : ExceptT CommandFault m (FeatureCollection Float) := do
  let some text ← env.read path | throw (.unreadableFile path)
  match Document.parse text with
  | .error _ => throw (.malformedFile path)
  | .ok document => return document.toFeatures

/-- Writes a value to a file, or prints it. -/
def deliver (env : Environment m) (value : Json) (output : Option String) : ExceptT CommandFault m Unit := do
  let text := value.pretty 0
  match output with
  | none => env.print (text ++ "\n")
  | some path =>
    unless ← env.write path text do throw (.unwritableFile path)
    env.note ("Wrote " ++ path ++ "\n")

/-- Does what a command says. -/
def Command.run (env : Environment m) (settings : EditorSettings Float) : Command → ExceptT CommandFault m Unit
  | .validate path => do
    let report := (← loadCollection env path).validityReport .standard settings
    env.print (report.text (fileName path))
    unless report.isAcceptable do throw (.notAcceptable path)
  | .area path => do
    let c ← loadCollection env path
    let areas := c.areasSqKm
    env.print (areaLines areas)
    if areas.length < c.geometries.length then throw (.unreadableFeature areas.length)
    env.print (totalLine areas)
  | .buffer path distance output => do
    match (← loadCollection env path).buffered .standard settings (fileName path) distance with
    | .error failure => throw (.buffer failure)
    | .ok c => deliver env c.toJson output
  | .bbox path => do
    match (← loadCollection env path).projectedExtent with
    | .error failure => throw (.geometry failure)
    | .ok none => throw (.noCoordinates path)
    | .ok (some e) => env.print (boxLine e.serialize)
  | .search query output => do
    match LookupRequest.make query settings.lookup with
    | .error fault => throw (.lookup fault)
    | .ok request =>
      match LookupReply.place query (← env.fetch request) with
      | .error fault => throw (.lookup fault)
      | .ok place =>
        unless place.description == "" do env.note ("  " ++ place.description ++ "\n")
        deliver env place.feature.toJson output

/-- Does what an invocation says. -/
def Invocation.run (env : Environment m) (invocation : Invocation) : ExceptT CommandFault m Unit := do
  invocation.command.run env (← loadSettings env invocation.config)

/-- Does what arguments say. -/
def run (env : Environment m) (arguments : List String) : m Outcome := do
  match Invocation.ofArguments arguments with
  | .error .misuse => return .misuse
  | .error .version =>
    env.print (versionText ++ "\n")
    return .success
  | .error (.help topic) =>
    env.print topic.text
    return .success
  | .ok invocation =>
    match ← (invocation.run env).run with
    | .error fault => return .failed fault
    | .ok () => return .success

end AreaOfInterest.CommandLine
