import AreaOfInterest.Proofs.FlatWorld
import AreaOfInterest.Proofs.Sessions

/-!
# Vertex edits

A selection is put on the map and edited by its vertices. When a vertex is let go, the shape that it belongs to is
judged, but what is selected is the whole layer. Shapes that were refused or left behind in the middle of a drag are
still on it.

So each place of the layer is followed through the pointer events: as it was loaded, moved, accepted or refused. From
this it can be read off whether a committed selection is valid.
-/

namespace AreaOfInterest

variable {α : Type} [Scalar α]

/-- The events of the pointer that edit vertices. -/
inductive PointerEvent (α : Type) where
  | down (pixel : Coord α)
  | drag (pixel : Coord α)
  | up

/-- The action of a pointer event. -/
def PointerEvent.action : PointerEvent α → Action α
  | down pixel => .pointerDown pixel
  | drag pixel => .pointerDrag pixel
  | up => .pointerUp

/-- How a shape on the layer stands after pointer events. -/
inductive Standing where
  | loaded
  /-- Moved and not judged since. -/
  | moved
  /-- Found valid when its vertex was let go. -/
  | accepted
  /-- Found invalid when its vertex was let go. -/
  | refused
  deriving DecidableEq

/-- How a dragged shape stands by what became of the event; none when it stands as before. -/
def DragOutcome.standing? : DragOutcome α → Option Standing
  | moved => some .moved
  | committed _ => some .accepted
  | invalid => some .refused
  | idle | rejected => none

/-- What is known of the shape at a place of a layer by how it stands. -/
def Shape.Stands (ops : PlanarOps α) (layer : List (Shape α)) (i : Nat) (shape : Shape α) : Standing → Prop
  | .loaded => layer[i]? = some shape
  | .moved => True
  | .accepted => ops.isValidFeature shape.toFeature
  | .refused => ¬ ops.isValidFeature shape.toFeature

/-- A first feature with a readable geometry is shown first. -/
theorem FeatureCollection.toProjected_cons {f : Feature α} {shape : Shape α} (h : f.toShape? = some shape)
    (rest : List (Feature α)) :
    (FeatureCollection.ofFeatures (f :: rest)).toProjected =
      Mercator.projectShape shape :: (FeatureCollection.ofFeatures rest).toProjected := by
  obtain ⟨g, hg, hshape⟩ := Option.bind_eq_some_iff.mp h
  simp [toProjected, geometries, ofFeatures, hg, hshape]

/-- Where every feature has a readable geometry, the layer shows them at their places. -/
theorem FeatureCollection.getElem?_toProjected {ops : PlanarOps α} {features : List (Feature α)}
    (valid : features.all ops.isValidFeature) (i : Nat) :
    (FeatureCollection.ofFeatures features).toProjected[i]? =
      (features[i]?.bind Feature.toShape?).map Mercator.projectShape := by
  induction features generalizing i with
  | nil => rfl
  | cons f rest ih =>
    rw [List.all_cons, Bool.and_eq_true] at valid
    cases hshape : f.toShape? with
    | none => simp [PlanarOps.isValidFeature, hshape] at valid
    | some shape =>
      rw [toProjected_cons hshape]
      cases i with
      | zero => simp [hshape]
      | succ i => simpa using ih valid.2 i

variable [Surface α]

/-- How the shape at a place stands after a turn, by how it stood before. -/
def Turn.standing (t : Turn α) (i : Nat) (earlier : Standing) : Standing :=
  match t.before.draw.drag, t.reply with
  | some drag, .dragged outcome =>
    if drag.feature = i then outcome.standing?.getD earlier else earlier
  | _, _ => earlier

/-- A turn that tells nothing of the dragged shape leaves every shape standing as before. -/
theorem Turn.standing_of_none {t : Turn α} (h : ∀ outcome, t.reply = .dragged outcome → outcome.standing? = none)
    (i : Nat) (earlier : Standing) : t.standing i earlier = earlier := by
  unfold standing
  split
  · next drag outcome _ hreply => simp [h outcome hreply]
  · rfl

/-- A turn leaves every shape but the dragged one standing as before. -/
theorem Turn.standing_of_ne {t : Turn α} {drag : VertexDrag α} {i : Nat} (dragged : t.before.draw.drag = some drag)
    (other : drag.feature ≠ i) (earlier : Standing) : t.standing i earlier = earlier := by
  cases hreply : t.reply <;> simp [standing, dragged, hreply, other]

/-- How the shape at a place stands after some turns. -/
def standing : History α → Nat → Standing
  | [], _ => .loaded
  | t :: earlier, i => t.standing i (standing earlier i)

namespace Editor

/-- The editors that pointer events lead to, each with the turns since the start. -/
inductive Pointed (start : Editor α) : History α → Editor α → Prop where
  | start : Pointed start [] start
  | event {history : History α} {e : Editor α} (event : PointerEvent α) :
      Pointed start history e → Pointed start (⟨e, event.action⟩ :: history) (e.step event.action).1

/-- Several pointer events lead from the start to such an editor. -/
theorem Pointed.run {start e : Editor α} {history : History α} (hp : start.Pointed history e)
    (events : List (PointerEvent α)) :
    start.Pointed (e.turns (events.map PointerEvent.action) history) (e.run (events.map PointerEvent.action)) := by
  induction events generalizing e history with
  | nil => exact hp
  | cons event rest ih => exact ih (hp.event event)

/-- What pointer events keep, and what they tell of the layer. -/
structure Followed (start : Editor α) (history : History α) (e : Editor α) : Prop where
  selected : e.session.record.isSome
  ops : e.session.ops = start.session.ops
  length : e.layer.length = start.layer.length
  known : ∀ i, standing history i ≠ .loaded → i < start.layer.length
  place : ∀ (i : Nat) (shape : Shape α), e.layer[i]? = some shape →
    shape.Stands start.session.ops start.layer i (standing history i)

variable {start e e' : Editor α} {history : History α} {t : Turn α}

/-- A turn that keeps the layer and is no judgement of it. -/
theorem Followed.keep (h : start.Followed history e) (session : e'.session = e.session)
    (layer : e'.layer = e.layer) (same : ∀ i, t.standing i (standing history i) = standing history i) :
    start.Followed (t :: history) e' where
  selected := by rw [session]; exact h.selected
  ops := by rw [session]; exact h.ops
  length := by rw [layer]; exact h.length
  known i hi := h.known i (by rwa [standing, same] at hi)
  place i shape hi := by
    rw [standing, same]
    exact h.place i shape (by rwa [layer] at hi)

/-- A turn that replaces the shape of the dragged vertex and tells how the new one stands. -/
theorem Followed.set (h : start.Followed history e) {feature : Nat} {old shape : Shape α} {s : Standing}
    (selected : e'.session.record.isSome) (ops : e'.session.ops = e.session.ops)
    (there : e.layer[feature]? = some old) (layer : e'.layer = e.layer.set feature shape)
    (now : ∀ i, t.standing i (standing history i) = if feature = i then s else standing history i)
    (stands : shape.Stands start.session.ops start.layer feature s) : start.Followed (t :: history) e' where
  selected := selected
  ops := ops.trans h.ops
  length := by rw [layer, List.length_set]; exact h.length
  known i hi := by
    rw [standing, now] at hi
    split at hi
    · next heq =>
      subst heq
      rw [← h.length]
      exact (List.getElem?_eq_some_iff.mp there).1
    · exact h.known i hi
  place i other hi := by
    rw [standing, now]
    rw [layer, List.getElem?_set] at hi
    split
    · next heq =>
      subst heq
      have hlt : feature < e.layer.length := (List.getElem?_eq_some_iff.mp there).1
      simp only [↓reduceIte, hlt] at hi
      cases hi
      exact stands
    · next hne =>
      rw [if_neg hne] at hi
      exact h.place i other hi

/-- Pointer events keep what is followed. -/
theorem Followed.event (h : start.Followed history e) (event : PointerEvent α) :
    start.Followed (⟨e, event.action⟩ :: history) (e.step event.action).1 := by
  cases event with
  | down pixel =>
    have hend := e.pointerDown_ends pixel
    have hafter : (e.step (PointerEvent.down pixel).action).1 = (e.pointerDown pixel).1 := rfl
    have hreply : Turn.reply ⟨e, (PointerEvent.down pixel).action⟩ = .picked (e.pointerDown pixel).2 := rfl
    rw [hafter]
    generalize (e.pointerDown pixel).1 = e', (e.pointerDown pixel).2 = started at hend hreply
    cases hend with
    | missed | picked => exact h.keep rfl rfl fun i => Turn.standing_of_none (by simp [hreply]) i _
  | drag pixel =>
    have hend := e.pointerDrag_ends pixel
    have hafter : (e.step (PointerEvent.drag pixel).action).1 = (e.pointerDrag pixel).1 := rfl
    have hreply : Turn.reply ⟨e, (PointerEvent.drag pixel).action⟩ = .dragged (e.pointerDrag pixel).2 := rfl
    rw [hafter]
    generalize (e.pointerDrag pixel).1 = e', (e.pointerDrag pixel).2 = outcome at hend hreply
    cases hend with
    | idle | rejected =>
      refine h.keep rfl rfl fun i => Turn.standing_of_none (fun outcome houtcome => ?_) i _
      cases hreply.symm.trans houtcome
      rfl
    | moved dragged there part accepted =>
      refine h.set h.selected rfl there rfl (s := .moved) (fun i => ?_) trivial
      simp only [Turn.standing, hreply, dragged, DragOutcome.standing?, Option.getD_some]
  | up =>
    have hend := e.pointerUp_ends
    have hafter : (e.step PointerEvent.up.action).1 = e.pointerUp.1 := rfl
    have hreply : Turn.reply ⟨e, PointerEvent.up.action⟩ = .dragged e.pointerUp.2 := rfl
    rw [hafter]
    generalize e.pointerUp.1 = e', e.pointerUp.2 = outcome at hend hreply
    cases hend with
    | idle | offLayer =>
      refine h.keep rfl rfl fun i => Turn.standing_of_none (fun outcome houtcome => ?_) i _
      cases hreply.symm.trans houtcome
      rfl
    | unselected _ _ _ unselected =>
      have hselected := h.selected
      simp [unselected] at hselected
    | committed dragged there valid edited =>
      obtain ⟨r, -, hsession⟩ := Session.commitEdit_eq_ok_iff.mp edited
      subst hsession
      refine h.set rfl rfl there rfl (s := .accepted) (fun i => ?_) (by rw [← h.ops]; exact valid)
      simp only [Turn.standing, hreply, dragged, DragOutcome.standing?, Option.getD_some]
    | invalid dragged there invalid =>
      refine h.set h.selected rfl there rfl (s := .refused) (fun i => ?_) (by rw [← h.ops]; exact invalid)
      simp only [Turn.standing, hreply, dragged, DragOutcome.standing?, Option.getD_some]

omit [Surface α] in
/-- A layer is valid as a collection when it has shapes and each of them is valid. -/
theorem allValid_geographic {ops : PlanarOps α} {layer : List (Shape α)} :
    ops.allValid (geographic layer) ↔
      layer ≠ [] ∧ ∀ (i : Nat) (shape : Shape α), layer[i]? = some shape → ops.isValidFeature shape.toFeature := by
  have hplaces : (∀ shape ∈ layer, ops.isValidFeature shape.toFeature) ↔
      ∀ (i : Nat) (shape : Shape α), layer[i]? = some shape → ops.isValidFeature shape.toFeature := by
    refine ⟨fun h i shape hi => h shape (List.mem_of_getElem? hi), fun h shape hmem => ?_⟩
    obtain ⟨i, hi⟩ := List.mem_iff_getElem?.mp hmem
    exact h i shape hi
  rw [← hplaces]
  simp [PlanarOps.allValid, geographic_features]

/-- Pointer events are followed from any selection that is on the map. -/
theorem Pointed.followed (hp : start.Pointed history e) (selected : start.session.record.isSome) :
    start.Followed history e := by
  induction hp with
  | start => exact ⟨selected, rfl, rfl, fun i hi => absurd rfl hi, fun i shape hi => hi⟩
  | event event _ ih => exact ih.event event

/-- The shapes on the layer other than a given one are valid: none was refused, the ones that were left behind in a
drag are valid as they lie, and so are the ones never moved, after the way to the map and back. -/
structure OthersValid (ops : PlanarOps α) (c : FeatureCollection α) (history : History α) (layer : List (Shape α))
    (feature : Nat) : Prop where
  refused : ∀ i, i ≠ feature → standing history i ≠ .refused
  moved : ∀ (i : Nat) (shape : Shape α), i ≠ feature → standing history i = .moved → layer[i]? = some shape →
    ops.isValidFeature shape.toFeature
  loaded : ∀ (i : Nat) (f : Feature α) (shape : Shape α), i ≠ feature → standing history i = .loaded →
    c.features[i]? = some f → f.toShape? = some shape → ops.isValidFeature (Mercator.projectShape shape).toFeature

/-- A shape that stands as it was loaded is the one that was loaded. -/
theorem Followed.getElem?_of_loaded (h : start.Followed history e) {i : Nat} (hi : standing history i = .loaded) :
    e.layer[i]? = start.layer[i]? := by
  cases hshape : e.layer[i]? with
  | none =>
    rw [List.getElem?_eq_none_iff, h.length] at hshape
    exact (List.getElem?_eq_none_iff.mpr hshape).symm
  | some shape =>
    have hstands := h.place i shape hshape
    rw [hi] at hstands
    exact hstands.symm

/-- The shapes other than a given one are valid exactly when what is known of each of them says so. -/
theorem Followed.others_iff {c : FeatureCollection α} (h : start.Followed history e)
    (loaded : start.layer = c.toProjected) (valid : start.session.ops.allValid c) (feature : Nat) :
    (∀ (i : Nat) (shape : Shape α), i ≠ feature → e.layer[i]? = some shape →
      start.session.ops.isValidFeature shape.toFeature) ↔
        OthersValid start.session.ops c history e.layer feature := by
  have hfeatures : c.features.all start.session.ops.isValidFeature := (Bool.and_eq_true_iff.mp valid).2
  have hshown (i : Nat) : start.layer[i]? = (c.features[i]?.bind Feature.toShape?).map Mercator.projectShape := by
    rw [loaded]
    exact FeatureCollection.getElem?_toProjected hfeatures i
  constructor
  · intro hothers
    refine ⟨fun i hne hrefused => ?_, fun i shape hne _ hi => hothers i shape hne hi,
      fun i f shape hne hloaded hf hshape => ?_⟩
    · have hlt : i < e.layer.length := by
        rw [h.length]
        exact h.known i (by simp [hrefused])
      have hi := List.getElem?_eq_getElem hlt
      have hstands := h.place i _ hi
      rw [hrefused] at hstands
      exact hstands (hothers i _ hne hi)
    · refine hothers i _ hne ?_
      rw [h.getElem?_of_loaded hloaded, hshown, hf, Option.bind_some, hshape, Option.map_some]
  · intro hknown i shape hne hi
    cases hstanding : standing history i with
    | loaded =>
      rw [h.getElem?_of_loaded hstanding, hshown] at hi
      obtain ⟨original, horiginal, rfl⟩ := Option.map_eq_some_iff.mp hi
      obtain ⟨f, hf, hshape⟩ := Option.bind_eq_some_iff.mp horiginal
      exact hknown.loaded i f original hne hstanding hf hshape
    | moved => exact hknown.moved i shape hne hstanding hi
    | accepted =>
      have hstands := h.place i shape hi
      rw [hstanding] at hstands
      exact hstands
    | refused => exact absurd hstanding (hknown.refused i hne)

omit [Surface α] in
/-- A layer with one shape replaced by a valid one is valid when the others are. -/
theorem allValid_set {ops : PlanarOps α} {layer : List (Shape α)} {feature : Nat} {old shape : Shape α}
    (there : layer[feature]? = some old) (valid : ops.isValidFeature shape.toFeature) :
    ops.allValid (geographic (layer.set feature shape)) ↔
      ∀ (i : Nat) (other : Shape α), i ≠ feature → layer[i]? = some other → ops.isValidFeature other.toFeature := by
  have hlt : feature < layer.length := (List.getElem?_eq_some_iff.mp there).1
  rw [allValid_geographic]
  constructor
  · rintro ⟨-, h⟩ i other hne hi
    exact h i other (by rwa [List.getElem?_set_ne (Ne.symm hne)])
  · refine fun h => ⟨fun hnil => ?_, fun i other hi => ?_⟩
    · have hlength := congrArg List.length hnil
      rw [List.length_set, List.length_nil] at hlength
      omega
    · by_cases hne : i = feature
      · subst hne
        rw [List.getElem?_set_self hlt] at hi
        cases hi
        exact valid
      · rw [List.getElem?_set_ne (Ne.symm hne)] at hi
        exact h i other hne hi

/-- A selection that is committed after pointer events on a valid one is valid exactly when all shapes but the one
let go last are: none of them was refused, none was left behind in an invalid position, and those never moved stay
valid on the way to the map and back. -/
theorem Pointed.allValid_iff {c₀ c : FeatureCollection α} (hp : start.Pointed history e)
    (selected : start.working = some c₀) (loaded : start.layer = c₀.toProjected)
    (valid : start.session.ops.allValid c₀) (committed : e.pointerUp.2 = .committed c) :
    ∃ drag, e.draw.drag = some drag ∧
      (start.session.ops.allValid c ↔ OthersValid start.session.ops c₀ history e.layer drag.feature) := by
  have hselected : start.session.record.isSome := by
    obtain ⟨r, hr, -⟩ := Option.map_eq_some_iff.mp selected
    simp [hr]
  have h := hp.followed hselected
  have hend := e.pointerUp_ends
  generalize e.pointerUp.1 = e', e.pointerUp.2 = outcome at hend committed
  cases hend with
  | idle | offLayer | unselected | invalid => cases committed
  | @committed drag shape session dragged there judged edited =>
    cases committed
    refine ⟨drag, dragged, ?_⟩
    rw [← h.others_iff loaded valid drag.feature]
    rw [h.ops] at judged
    exact allValid_set there judged

/-- A vertex edit that a pointer event committed is the outcome of letting go. -/
theorem committed_of_edit? {c : FeatureCollection α} (h : (Turn.mk e .pointerUp).edit? = some c) :
    e.pointerUp.2 = .committed c := by
  have hreply : Turn.reply ⟨e, .pointerUp⟩ = .dragged e.pointerUp.2 := rfl
  unfold Turn.edit? at h
  rw [hreply] at h
  cases hup : e.pointerUp.2 with
  | committed d => rw [hup] at h; cases h; rfl
  | idle | moved | rejected | invalid => rw [hup] at h; cases h

/-- Two fields on the flat world, neither of them a box. -/
def fields : FeatureCollection Rat :=
  .ofFeatures
    [.ofGeometry (.polygon [[[-100, -40], [-60, -40], [-60, 0], [-100, 10], [-100, -40]]]),
      .ofGeometry (.polygon [[[60, -40], [100, -40], [100, 0], [60, 10], [60, -40]]])]

/-- The editor that shows the fields. -/
def fieldEditor : Editor Rat := FlatWorld.start.importFeatures fields "fields"

/-- The fields are on the map as they were selected. -/
theorem fieldEditor_loaded : fieldEditor.working = some fields ∧ fieldEditor.layer = fields.toProjected := by
  obtain ⟨v, hv⟩ := zoomToSelection_eq
    { FlatWorld.start.handle .cancel with session := FlatWorld.start.session.selectImport fields "fields" }.showWorking
  have h : fieldEditor = { FlatWorld.start.handle .cancel with
      session := FlatWorld.start.session.selectImport fields "fields" }.showWorking.zoomToSelection := rfl
  rw [h, hv]
  exact ⟨rfl, rfl⟩

/-- The pixel of a position in degrees. -/
def fieldPixel (longitude latitude : Rat) : Coord Rat :=
  fieldEditor.viewport.pixelOf (Mercator.project ⟨longitude, latitude⟩)

/-- The upper left corner of the second field is dragged upwards. -/
def raised : List (PointerEvent Rat) := [.down (fieldPixel 60 10), .drag (fieldPixel 60 20)]

/-- What is committed when the corner is let go is valid, the first field being as it was loaded. -/
theorem allValid_raised :
    ∃ c, (fieldEditor.run (raised.map PointerEvent.action)).pointerUp.2 = .committed c ∧
      fieldEditor.session.ops.allValid c := by
  have hstart : fieldEditor.Pointed [] fieldEditor := .start
  have hp := hstart.run raised
  obtain ⟨hselected, hloaded⟩ := fieldEditor_loaded
  have hup : (Turn.mk (fieldEditor.run (raised.map PointerEvent.action)) .pointerUp).edit?.isSome := by decide +kernel
  obtain ⟨c, hc⟩ := Option.isSome_iff_exists.mp hup
  have hcommitted := committed_of_edit? hc
  obtain ⟨drag, hdrag, hiff⟩ := hp.allValid_iff hselected hloaded (by decide +kernel) hcommitted
  refine ⟨c, hcommitted, hiff.mpr ?_⟩
  have hfeature : drag.feature = 1 := by
    have h : (fieldEditor.run (raised.map PointerEvent.action)).draw.drag.all (·.feature = 1) := by decide +kernel
    simpa [hdrag] using h
  -- Two fields were loaded, so a place that is not the second one stands as loaded.
  have hfirst : standing (fieldEditor.turns (raised.map PointerEvent.action) []) 0 = .loaded := by decide +kernel
  have hothers (i : Nat) (hne : i ≠ drag.feature) :
      standing (fieldEditor.turns (raised.map PointerEvent.action) []) i = .loaded := by
    refine Classical.byContradiction fun hmoved => ?_
    have hlt := (hp.followed (by decide +kernel)).known i hmoved
    have hlength : fieldEditor.layer.length = 2 := by decide +kernel
    have hzero : i = 0 := by omega
    exact hmoved (hzero ▸ hfirst)
  refine ⟨fun i hne => by simp [hothers i hne], fun i shape hne hmoved => by simp [hothers i hne] at hmoved,
    fun i f shape hne _ hf hshape => ?_⟩
  have hzero : i = 0 := by
    have hlt : i < fields.features.length := (List.getElem?_eq_some_iff.mp hf).1
    have hlength : fields.features.length = 2 := rfl
    omega
  have hvalid : (fields.features[0]?.bind Feature.toShape?).all fun shape =>
      fieldEditor.session.ops.isValidFeature (Mercator.projectShape shape).toFeature := by decide +kernel
  subst hzero
  simpa [hf, hshape] using hvalid

/-- Before that, a corner of the first field is dragged across it and let go. -/
def crossedFirst : List (PointerEvent Rat) :=
  [.down (fieldPixel (-60) 0), .drag (fieldPixel (-120) (-20)), .up] ++ raised

/-- What is committed then is not valid, although the fields were. -/
theorem not_allValid_crossedFirst :
    (fieldEditor.draw.mode = .normal ∧ fieldEditor.working = some fields ∧
        fieldEditor.layer = fields.toProjected ∧ fieldEditor.session.ops.allValid fields) ∧
      ∃ c, (fieldEditor.run (crossedFirst.map PointerEvent.action)).pointerUp.2 = .committed c ∧
        ¬ fieldEditor.session.ops.allValid c := by
  obtain ⟨hselected, hloaded⟩ := fieldEditor_loaded
  refine ⟨⟨by decide +kernel, hselected, hloaded, by decide +kernel⟩, ?_⟩
  have hup : (Turn.mk (fieldEditor.run (crossedFirst.map PointerEvent.action)) .pointerUp).edit?.any
      (fun c => !fieldEditor.session.ops.allValid c) := by decide +kernel
  obtain ⟨c, hc, hinvalid⟩ := (Option.any_eq_true _ _).mp hup
  exact ⟨c, committed_of_edit? hc, by simpa using hinvalid⟩

end Editor

end AreaOfInterest
