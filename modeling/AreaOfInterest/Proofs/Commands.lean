import AreaOfInterest.CommandLine.Run
import AreaOfInterest.Proofs.BufferParts

/-!
# Commands and editors agree

Two of the commands do what an editor does, without having one: to validate a file is to ask whether the next step would
be enabled after importing it, and to buffer a file is to import it and apply the buffer. An editor goes other ways
about it. It puts what it imports on the map, fits the view to that, and remembers the answer until it changes.

Neither the layer nor the view comes into the answer. So the commands agree with a new editor, whatever its view is.
-/

namespace AreaOfInterest

section Editors

variable {α : Type} [Scalar α] {settings : EditorSettings α} {ops : PlanarOps α}

/-- The view that settings begin with; none when they leave no range of resolutions. -/
def EditorSettings.view? (settings : EditorSettings α) : Option (Viewport α) :=
  ((Viewport.new settings.viewportWidth settings.viewportHeight).withTileSize? settings.tileSize).bind fun v =>
    (v.withZoomLimits? settings.minZoom settings.maxZoom).map (·.setZoom settings.initialZoom)

/-- A new editor, with any view. -/
def Editor.fresh (settings : EditorSettings α) (ops : PlanarOps α) (viewport : Viewport α) : Editor α :=
  { settings, viewport, session := ⟨none, ops, settings.maxBuffer, settings.maxArea⟩, draw := .new, layer := [],
    marker := none, preview := none, pendingBuffer := 0.0, nextEnabled := false }

/-- A new editor has the view that its settings begin with. -/
theorem Editor.new?_eq_map (settings : EditorSettings α) (ops : PlanarOps α) :
    new? settings ops = settings.view?.map (fresh settings ops) := by
  rw [new?, EditorSettings.view?, Option.bind_eq_bind]
  cases Viewport.withTileSize? _ settings.tileSize with
  | none => rfl
  | some v =>
    rw [Option.bind_some, Option.bind_some]
    cases v.withZoomLimits? settings.minZoom settings.maxZoom <;> rfl

/-- What the command buffers is what the session of a new editor previews after the import. -/
theorem FeatureCollection.buffered_eq_previewBuffer (c : FeatureCollection α) (title name : String) (distance : α)
    (viewport : Viewport α) :
    c.buffered ops settings title distance =
      ((Editor.fresh settings ops viewport).session.selectImport c name).previewBuffer distance := by
  rw [buffered, Session.applyBuffer_snd]
  -- The name that is imported under goes into the record, but not into the base of the buffer.
  rfl

variable [Surface α]

/-- Importing selects, and looks whether the selection may be used. -/
theorem Editor.importFeatures_spec (e : Editor α) (c : FeatureCollection α) (name : String) :
    (e.importFeatures c name).session = e.session.selectImport c name ∧
      (e.importFeatures c name).nextEnabled = (e.session.selectImport c name).nextEnabled := by
  obtain ⟨v, hv⟩ := zoomToSelection_eq { e.handle .cancel with session := e.session.selectImport c name }.showWorking
  have himport : e.importFeatures c name = _ := hv
  exact ⟨congrArg session himport, congrArg nextEnabled himport⟩

/-- After an import the next step is enabled when what was imported is acceptable. -/
theorem Editor.nextEnabled_importFeatures (c : FeatureCollection α) (name : String) (viewport : Viewport α) :
    ((fresh settings ops viewport).importFeatures c name).signals.nextEnabled =
      Session.isAcceptable c settings.maxArea :=
  (importFeatures_spec (fresh settings ops viewport) c name).2

/-- After an import a buffer is refused just when the command fails, and for the same reason. -/
theorem Editor.applyBuffer_importFeatures_eq_error_iff (c : FeatureCollection α) (name title : String)
    (viewport : Viewport α) {distance : α} {failure : Failure α} :
    (((fresh settings ops viewport).importFeatures c name).applyBuffer distance).2 = .error failure ↔
      c.buffered ops settings title distance = .error failure := by
  rw [c.buffered_eq_previewBuffer title name distance viewport, ← (importFeatures_spec _ c name).1]
  constructor
  · intro refused
    exact (applyBuffer_eq_error_iff.mp (Prod.ext rfl refused)).1
  · intro refused
    exact congrArg Prod.snd (applyBuffer_eq_error_iff.mpr ⟨refused, rfl⟩)

/-- When the command comes to something, the buffer is applied after an import. -/
theorem Editor.exists_applyBuffer_importFeatures {c result : FeatureCollection α} {title : String} {distance : α}
    (computed : c.buffered ops settings title distance = .ok result) (name : String) (viewport : Viewport α) :
    ∃ edited, ((fresh settings ops viewport).importFeatures c name).applyBuffer distance = (edited, .ok ()) := by
  rcases happly : ((fresh settings ops viewport).importFeatures c name).applyBuffer distance
    with ⟨edited, failure | _⟩
  · have hfailed := (applyBuffer_importFeatures_eq_error_iff c name title viewport).mp (congrArg Prod.snd happly)
    cases computed.symm.trans hfailed
  · exact ⟨edited, rfl⟩

/-- After an import and a buffer the editor works on what the command computes. -/
theorem Editor.working_of_applyBuffer_importFeatures (c : FeatureCollection α) (name title : String)
    (viewport : Viewport α) {distance : α} {edited : Editor α}
    (applied : ((fresh settings ops viewport).importFeatures c name).applyBuffer distance = (edited, .ok ())) :
    ∃ result, edited.working = some result ∧ c.buffered ops settings title distance = .ok result := by
  obtain ⟨session, result, hsession, rfl⟩ := applyBuffer_eq_ok_iff.mp applied
  rw [(importFeatures_spec _ c name).1] at hsession
  obtain ⟨r, -, hpreview, rfl⟩ := Session.applyBuffer_eq_ok_iff.mp hsession
  exact ⟨result, rfl, (c.buffered_eq_previewBuffer title name distance viewport).trans hpreview⟩

end Editors

/-- A lone point is buffered by every admitted distance that comes to something. -/
theorem FeatureCollection.exists_buffered_point (settings : EditorSettings Float) (title : String) (distance : Float)
    {c : FeatureCollection Float} {p : Coord Float} (lone : c.shapes = [.point p])
    (admitted : 0.0 ≤ distance ∧ distance ≤ settings.maxBuffer)
    (positive : 0.0 < PlanarOps.effectiveDistance distance) :
    ∃ result, c.buffered .standard settings title distance = .ok result := by
  have houtline : PlanarOps.standard.buffer? (.point (Mercator.project p)) (PlanarOps.effectiveDistance distance) =
      some [.ofRings (Outline.disc (Mercator.project p) (PlanarOps.effectiveDistance distance)) []] := by
    simp [PlanarOps.standard, Outline.ofShape?, positive]
  obtain ⟨w, hw⟩ := PlanarOps.exists_bufferFeatures_point lone houtline (List.cons_ne_nil _ _)
  refine ⟨w, ?_⟩
  rw [c.buffered_eq_previewBuffer title title distance (.new 1024.0 768.0)]
  exact Session.previewBuffer_eq_ok_iff.mpr ⟨Session.admitsBuffer_iff.mpr admitted, _, rfl, hw⟩

namespace CommandLine

variable {σ : Type} {env : Environment (StateM σ)} {settings : EditorSettings Float} {path : String}
  {world after : σ} {c : FeatureCollection Float}

/-- A program that goes on with the collection of a file goes on with what was read. -/
theorem run_loadCollection_bind (read : (loadCollection env path).run.run world = (.ok c, after)) {β : Type}
    (next : FeatureCollection Float → ExceptT CommandFault (StateM σ) β) :
    (loadCollection env path >>= next).run.run world = (next c).run.run after := by
  rw [ExceptT.run_bind, StateT.run_bind, read]
  rfl

/-- A file that was read is valid when its collection is acceptable. -/
theorem run_validate (read : (loadCollection env path).run.run world = (.ok c, after)) :
    (((Command.validate path).run env settings).run.run world).1 =
      if Session.isAcceptable c settings.maxArea then .ok () else .error (.notAcceptable path) := by
  rw [Command.run, run_loadCollection_bind read]
  simp only [FeatureCollection.validityReport]
  by_cases h : Session.isAcceptable c settings.maxArea
  · simp only [h]
    rfl
  · simp only [h]
    rfl

/-- A file that was read is buffered by buffering its collection. -/
theorem run_buffer (read : (loadCollection env path).run.run world = (.ok c, after)) (distance : Float)
    (output : Option String) :
    ((Command.buffer path distance output).run env settings).run.run world =
      match c.buffered .standard settings (fileName path) distance with
      | .error failure => (.error (.buffer failure), after)
      | .ok result => (deliver env result.toJson output).run.run after := by
  rw [Command.run, run_loadCollection_bind read]
  cases c.buffered .standard settings (fileName path) distance <;> rfl

/-- How a run ends that delivers a text: it is printed, or written to a file and noted to be, or the file cannot be
written. -/
inductive Delivers (env : Environment (StateM σ)) (text : String) (world : σ) :
    Option String → Except CommandFault Unit × σ → Prop where
  | printed : Delivers env text world none (.ok (), ((env.print (text ++ "\n")).run world).2)
  | written {path : String} {after : σ} (wrote : (env.write path text).run world = (true, after)) :
      Delivers env text world (some path) (.ok (), ((env.note ("Wrote " ++ path ++ "\n")).run after).2)
  | unwritable {path : String} {after : σ} (failed : (env.write path text).run world = (false, after)) :
      Delivers env text world (some path) (.error (.unwritableFile path), after)

/-- A program that goes on with the answer of the environment goes on in the world that the answer leaves. -/
theorem run_lift_bind {β γ : Type} (ask : StateM σ β) (next : β → ExceptT CommandFault (StateM σ) γ) (world : σ) :
    ((liftM ask : ExceptT CommandFault (StateM σ) β) >>= next).run.run world =
      (next (ask.run world).1).run.run (ask.run world).2 := rfl

/-- A value is delivered as its text. -/
theorem delivers_deliver (env : Environment (StateM σ)) (value : Json) (output : Option String) (world : σ) :
    Delivers env (value.pretty 0) world output ((deliver env value output).run.run world) := by
  cases output with
  | none => exact .printed
  | some path =>
    simp only [deliver]
    rw [run_lift_bind]
    rcases hwrite : (env.write path (value.pretty 0)).run world with ⟨_ | _, after⟩
    · exact .unwritable hwrite
    · exact .written hwrite

/-- Buffering a file that was read fails when its collection cannot be buffered, and never on the way out. -/
theorem run_buffer_eq_error_iff (read : (loadCollection env path).run.run world = (.ok c, after)) (distance : Float)
    (output : Option String) {failure : Failure Float} :
    ((Command.buffer path distance output).run env settings).run.run world = (.error (.buffer failure), after) ↔
      c.buffered .standard settings (fileName path) distance = .error failure := by
  rw [run_buffer read]
  cases c.buffered .standard settings (fileName path) distance with
  | error failure' =>
    constructor
    · intro ended
      have hfault := congrArg Prod.fst ended
      cases hfault
      rfl
    · intro failed
      cases failed
      rfl
  | ok result =>
    refine ⟨fun ended => ?_, fun failed => by cases failed⟩
    have hended : (deliver env result.toJson output).run.run after = (.error (.buffer failure), after) := ended
    have hdelivers := delivers_deliver env result.toJson output after
    rw [hended] at hdelivers
    cases hdelivers

/-- On a file that was read a command does what a new editor does that imports it. Validating succeeds exactly when the
next step is enabled after the import. Buffering fails exactly when the editor refuses to apply the buffer, and for the
same reason. Else the collection that the editor works on then is printed, or written to the file that is asked for. -/
theorem run_agrees_with_editor (settings : EditorSettings Float)
    (read : (loadCollection env path).run.run world = (.ok c, after)) (name : String) (viewport : Viewport Float) :
    Editor.new? settings .standard = settings.view?.map (Editor.fresh settings .standard) ∧
      let imported := (Editor.fresh settings .standard viewport).importFeatures c name
      (((Command.validate path).run env settings).run.run world).1 =
        (if imported.signals.nextEnabled then .ok () else .error (.notAcceptable path)) ∧
      ∀ distance output,
        let ended := ((Command.buffer path distance output).run env settings).run.run world
        (∀ failure, (imported.applyBuffer distance).2 = .error failure ↔
          ended = (.error (.buffer failure), after)) ∧
        ∀ edited, imported.applyBuffer distance = (edited, .ok ()) → ∃ result, edited.working = some result ∧
          Delivers env (result.toJson.pretty 0) after output ended := by
  refine ⟨Editor.new?_eq_map settings .standard, ?_, fun distance output =>
    ⟨fun failure => ?_, fun edited applied => ?_⟩⟩
  · rw [run_validate read, Editor.nextEnabled_importFeatures]
  · rw [Editor.applyBuffer_importFeatures_eq_error_iff c name (fileName path) viewport]
    exact (run_buffer_eq_error_iff read distance output).symm
  · obtain ⟨result, hworking, hbuffered⟩ :=
      Editor.working_of_applyBuffer_importFeatures c name (fileName path) viewport applied
    refine ⟨result, hworking, ?_⟩
    rw [run_buffer read, hbuffered]
    exact delivers_deliver env result.toJson output after

/-- What a run leaves behind: what it printed and noted, and the files that it wrote, the latest first. -/
structure Traces where
  printed : String := ""
  noted : String := ""
  written : List (String × String) := []

/-- A world of one file, which keeps what a run leaves behind. -/
def oneFile (text : String) : Environment (StateM Traces) where
  isPresent _ := pure true
  read _ := pure (some text)
  write path text := do
    modify fun left => { left with written := (path, text) :: left.written }
    return true
  fetch _ := pure none
  print line := modify fun left => { left with printed := left.printed ++ line }
  note line := modify fun left => { left with noted := left.noted ++ line }
  configHome := pure none
  home := pure none

/-- What is read there is the document of the text. -/
theorem run_loadCollection_oneFile (text path : String) (world : Traces) (accepts : FeatureCollection Float → Bool)
    (h : (Document.parse text).toOption.any (accepts ·.toFeatures)) :
    ∃ c, (loadCollection (oneFile text) path).run.run world = (.ok c, world) ∧ accepts c := by
  cases hparse : Document.parse text with
  | error failure => rw [hparse] at h; cases h
  | ok document =>
    rw [hparse] at h
    have hread : (loadCollection (oneFile text) path).run.run world = pure (.ok document.toFeatures, world) := by
      simp [loadCollection, oneFile, hparse]
    exact ⟨document.toFeatures, hread, h⟩

variable {text printed : String} {left : Traces} {ended : Except CommandFault Unit × Traces}

/-- What is delivered there without a path is printed. -/
theorem Delivers.oneFile_none (h : Delivers (oneFile text) printed left none ended) :
    ended = (.ok (), { left with printed := left.printed ++ (printed ++ "\n") }) := by
  cases h
  rfl

/-- What is delivered there to a path is written, and noted to be. -/
theorem Delivers.oneFile_some (h : Delivers (oneFile text) printed left (some path) ended) :
    ended = (.ok (), { left with
      noted := left.noted ++ ("Wrote " ++ path ++ "\n"), written := (path, printed) :: left.written }) := by
  cases h with
  | written wrote =>
    cases wrote
    rfl
  | unwritable failed => cases failed

/-- Whether a collection is a lone point. -/
def isLonePoint (c : FeatureCollection Float) : Bool :=
  match c.shapes with
  | [.point _] => true
  | _ => false

/-- The shapes of a lone point. -/
theorem exists_shapes_of_isLonePoint (h : isLonePoint c) : ∃ p, c.shapes = [.point p] := by
  unfold isLonePoint at h
  split at h
  · next p lone => exact ⟨p, lone⟩
  · cases h

/-- The text of a field. -/
def fieldText : String := "\x7b\"type\":\"Polygon\",\"coordinates\":[[[0,0],[10,0],[10,10],[0,0]]]\x7d"

/-- The text of a well. -/
def wellText : String := "\x7b\"type\":\"Point\",\"coordinates\":[12.5,41.9]\x7d"

/-- A field is a valid file, and cannot be buffered by less than nothing. A well is buffered: the collection that the
editor works on then is printed, or written to a file and noted to be. -/
theorem run_agrees_with_editor_plots :
    (∃ c : FeatureCollection Float, (loadCollection (oneFile fieldText) "field.json").run.run {} = (.ok c, {}) ∧
      (((Command.validate "field.json").run (oneFile fieldText) .default).run.run {}).1 = .ok () ∧
      ((Command.buffer "field.json" (-1.0) none).run (oneFile fieldText) .default).run.run {} =
        (.error (.buffer (.bufferOutOfRange (-1.0) EditorSettings.default.maxBuffer)), {})) ∧
    ∃ (c : FeatureCollection Float) (edited : Editor Float) (result : FeatureCollection Float),
      (loadCollection (oneFile wellText) "well.json").run.run {} = (.ok c, {}) ∧
      ((Editor.fresh .default .standard (.new 1024.0 768.0)).importFeatures c "well").applyBuffer 250.0 =
        (edited, .ok ()) ∧
      edited.working = some result ∧
      ((Command.buffer "well.json" 250.0 none).run (oneFile wellText) .default).run.run {} =
        (.ok (), { printed := result.toJson.pretty 0 ++ "\n" }) ∧
      ((Command.buffer "well.json" 250.0 (some "zone.json")).run (oneFile wellText) .default).run.run {} =
        (.ok (), { noted := "Wrote zone.json\n", written := [("zone.json", result.toJson.pretty 0)] }) := by
  constructor
  · obtain ⟨c, read, acceptable⟩ := run_loadCollection_oneFile fieldText "field.json" {}
      (Session.isAcceptable · (EditorSettings.default : EditorSettings Float).maxArea) (by decide +kernel)
    obtain ⟨-, hvalidate, hbuffer⟩ := run_agrees_with_editor .default read "field" (.new 1024.0 768.0)
    refine ⟨c, read, ?_, ((hbuffer (-1.0) none).1 _).mp ?_⟩
    · rw [hvalidate, Editor.nextEnabled_importFeatures]
      exact if_pos acceptable
    · rw [Editor.applyBuffer_importFeatures_eq_error_iff c "field" "field" (.new 1024.0 768.0),
        c.buffered_eq_previewBuffer "field" "field" (-1.0) (.new 1024.0 768.0),
        Session.previewBuffer_of_not_admits fun h => absurd h.1 (by decide +kernel)]
      rfl
  · obtain ⟨c, read, lone⟩ := run_loadCollection_oneFile wellText "well.json" {}
      isLonePoint (by decide +kernel)
    obtain ⟨p, hlone⟩ := exists_shapes_of_isLonePoint lone
    obtain ⟨-, -, hbuffer⟩ := run_agrees_with_editor .default read "well" (.new 1024.0 768.0)
    obtain ⟨w, hw⟩ := FeatureCollection.exists_buffered_point .default "well" 250.0 hlone (by decide +kernel)
      (by decide +kernel)
    obtain ⟨edited, happly⟩ := Editor.exists_applyBuffer_importFeatures hw "well" (.new 1024.0 768.0)
    obtain ⟨result, hworking, hprinted⟩ := (hbuffer 250.0 none).2 edited happly
    obtain ⟨result', hworking', hwritten⟩ := (hbuffer 250.0 (some "zone.json")).2 edited happly
    cases hworking.symm.trans hworking'
    refine ⟨c, edited, result, read, happly, hworking, ?_, ?_⟩
    · exact hprinted.oneFile_none
    · exact hwritten.oneFile_some

end CommandLine

end AreaOfInterest
