import AreaOfInterest.Settings
import AreaOfInterest.Toml.Document

/-!
# Configuration files

A configuration file is a TOML document. Entries that are not known are passed over, missing ones take their
defaults, and an entry of the wrong type makes the file unusable. The lookup table may also be written as an array
of its values in order; a date or time in its place counts as a table without known entries.
-/

namespace AreaOfInterest

/-- Why a configuration file cannot be used. -/
inductive ConfigFault where
  | unreadable
  | malformed
  deriving DecidableEq, Repr

/-- What is said about a configuration file that cannot be used. -/
def ConfigFault.message : ConfigFault → String
  | .unreadable => "Failed to read config file"
  | .malformed => "Failed to parse config file"

/-- The entry of a table read as a value, or the default when it is missing. -/
def Toml.entryOr {β : Type} (t : Toml) (key : String) (read : Toml → Option β) (default : β) : Option β :=
  match t.entry? key with
  | none => some default
  | some v => read v

/-- The item of an array read as a value, or the default when there are fewer items. -/
def Toml.itemOr {β : Type} (items : List Toml) (index : Nat) (read : Toml → Option β) (default : β) : Option β :=
  match items[index]? with
  | none => some default
  | some v => read v

/-- The lookup settings of a table, an array, or a date or time, which gives none of them. -/
def LookupSettings.ofToml? (v : Toml) : Option LookupSettings :=
  let default : LookupSettings := {}
  let seconds := Toml.natUpTo? (Nat.pow 2 63 - 1)
  match v with
  | .table _ | .moment => do
    return { url := ← v.entryOr "url" Toml.text? default.url
             timeoutSecs := ← v.entryOr "timeout_secs" seconds default.timeoutSecs
             userAgent := ← v.entryOr "user_agent" Toml.text? default.userAgent }
  | .array items => do
    return { url := ← Toml.itemOr items 0 Toml.text? default.url
             timeoutSecs := ← Toml.itemOr items 1 seconds default.timeoutSecs
             userAgent := ← Toml.itemOr items 2 Toml.text? default.userAgent }
  | _ => none

namespace FileSettings

/-- The settings of a document. -/
def ofToml? (t : Toml) : Option (FileSettings Float) := do
  let d : FileSettings Float := .default
  let zoom := Toml.natUpTo? 255
  return { maxArea := ← t.entryOr "max_aoi_sq_km" (fun v => v.float?.map some) d.maxArea
           maxBuffer := ← t.entryOr "max_buffer_m" Toml.float? d.maxBuffer
           vertexTolerance := ← t.entryOr "vertex_tolerance_px" Toml.float? d.vertexTolerance
           minZoom := ← t.entryOr "min_zoom" zoom d.minZoom
           maxZoom := ← t.entryOr "max_zoom" zoom d.maxZoom
           initialZoom := ← t.entryOr "initial_zoom" Toml.float? d.initialZoom
           tileSize := ← t.entryOr "tile_size_px" Toml.float? d.tileSize
           viewportWidth := ← t.entryOr "viewport_width_px" Toml.float? d.viewportWidth
           viewportHeight := ← t.entryOr "viewport_height_px" Toml.float? d.viewportHeight
           lookup := ← t.entryOr "nominatim" (fun v => (LookupSettings.ofToml? v).map some) d.lookup }

/-- The settings of a file with the given text; none for a file that cannot be read. -/
def read (text : Option String) : Except ConfigFault (FileSettings Float) :=
  match text with
  | none => .error .unreadable
  | some text =>
    match (Toml.parse? text).bind ofToml? with
    | none => .error .malformed
    | some settings => .ok settings

end FileSettings

end AreaOfInterest
