import AreaOfInterest.Geometry.Measure

/-!
# Areas on the ellipsoid

Polygons whose edges are geodesics of the WGS84 ellipsoid. The area of a ring is the sum of the signed
areas between its edges and the equator. Each of those follows from the azimuths of the edge at its two
ends, which are found by Newton's method on the longitude difference, and from a Fourier series whose
coefficients are polynomials in the flattening, carried to sixth order.

A ring counts as running counter-clockwise for an exterior and clockwise for a hole; one that runs the
other way bounds the rest of the earth's surface. Latitudes beyond the poles have no area.
-/

namespace AreaOfInterest.Geodesic

/-- Half the turn of a circle. -/
def pi : Float := 3.141592653589793

/-- Equatorial radius in metres. -/
def equatorialRadius : Float := 6378137.0

/-- Flattening. -/
def flattening : Float := 1.0 / 298.257223563

/-- Ratio of the polar to the equatorial radius. -/
def axisRatio : Float := 1.0 - flattening

/-- Polar radius in metres. -/
def polarRadius : Float := equatorialRadius * axisRatio

/-- Square of the first eccentricity. -/
def eccentricity : Float := flattening * (2.0 - flattening)

/-- Square of the second eccentricity. -/
def secondEccentricity : Float := eccentricity / (axisRatio * axisRatio)

/-- Third flattening. -/
def thirdFlattening : Float := flattening / (2.0 - flattening)

/-- Square of the radius of the sphere with the ellipsoid's area. -/
def authalicSquare : Float :=
  (equatorialRadius * equatorialRadius +
    polarRadius * polarRadius * Float.atanh (Float.sqrt eccentricity) / Float.sqrt eccentricity) / 2.0

/-- Area of the whole ellipsoid in square metres. -/
def wholeArea : Float := 4.0 * pi * authalicSquare

/-- Relative rounding unit of doubles. -/
def unit : Float := 2.220446049250313e-16

/-- Square root of the rounding unit. -/
def rootUnit : Float := Float.sqrt unit

/-- A length that is not zero but has no weight. -/
def tiny : Float := Float.sqrt 2.2250738585072014e-308

/-- Bound on the relative length of lines that need no iteration. -/
def shortLineBound : Float :=
  0.1 * rootUnit / Float.sqrt (max 0.001 flattening * min 1.0 (1.0 - flattening / 2.0) / 2.0)

/-- The value of a polynomial, highest coefficient first. -/
def polynomial (coefficients : List Float) (x : Float) : Float :=
  coefficients.foldl (fun y c => y * x + c) 0.0

/-- A direction as sine and cosine. -/
structure Angle where
  sin : Float
  cos : Float

/-- Length of the vector that a sine and cosine form. -/
def Angle.norm (a : Angle) : Float := Float.sqrt (a.sin * a.sin + a.cos * a.cos)

/-- The direction scaled to unit length. -/
def Angle.unit (a : Angle) : Angle := ⟨a.sin / a.norm, a.cos / a.norm⟩

/-- The direction of an angle in radians. -/
def Angle.ofRadians (x : Float) : Angle := ⟨Float.sin x, Float.cos x⟩

/-- Angles in degrees brought to the half-open turn around zero. -/
def normalizeDegrees (x : Float) : Float :=
  let y := x - 360.0 * (x / 360.0).round
  if y ≤ -180.0 then y + 360.0 else if y > 180.0 then y - 360.0 else y

/-- Tiny angles rounded, so that neighbours of zero become multiples of one small unit. -/
def roundDegrees (x : Float) : Float :=
  let y := x.abs
  let y := if y < 0.0625 then 0.0625 - (0.0625 - y) else y
  if x == 0.0 then 0.0 else if x < 0.0 then -y else y

/-- The direction of an angle in degrees, exact at multiples of a right angle. -/
def Angle.ofDegrees (x : Float) : Angle :=
  let r := x - 360.0 * (x / 360.0).round
  let quarter := (r / 90.0 + 0.5).floor
  let s := Float.sin ((r - 90.0 * quarter) * (pi / 180.0))
  let c := Float.cos ((r - 90.0 * quarter) * (pi / 180.0))
  if quarter == 0.0 then ⟨s, c⟩
  else if quarter == 1.0 then ⟨c, -s⟩
  else if quarter == -1.0 then ⟨-c, s⟩
  else ⟨-s, -c⟩

/-- A sum and its rounding error. -/
def exactSum (u v : Float) : Float × Float :=
  let s := u + v
  let up := s - v
  let vpp := s - up
  (s, -((up - u) + (vpp - v)))

/-- Longitude difference in degrees and its rounding error. -/
def longitudeDifference (x y : Float) : Float × Float :=
  let (d, t) := exactSum (normalizeDegrees (-x)) (normalizeDegrees y)
  let d := normalizeDegrees d
  exactSum (if d == 180.0 && t > 0.0 then -180.0 else d) t

/-- Clenshaw's sum of `c₁ sin 2x + c₂ sin 4x + …`. -/
def sineSeries (x : Angle) (coefficients : List Float) : Float :=
  let ar := 2.0 * (x.cos - x.sin) * (x.cos + x.sin)
  let (y, _) := coefficients.foldr (fun c (y, z) => (ar * y - z + c, y)) (0.0, 0.0)
  2.0 * x.sin * x.cos * y

/-- Clenshaw's sum of `c₀ cos x + c₁ cos 3x + …`. -/
def cosineSeries (x : Angle) (coefficients : List Float) : Float :=
  let ar := 2.0 * (x.cos - x.sin) * (x.cos + x.sin)
  let (y, z) := coefficients.foldr (fun c (y, z) => (ar * y - z + c, y)) (0.0, 0.0)
  x.cos * (y - z)

/-- Coefficients of a series whose `i`-th one is a polynomial times the `i`-th power of `eps`, from `i = 1`. -/
def powers (eps power : Float) : List Float → List Float
  | [] => []
  | c :: rest => c * power :: powers eps (power * eps) rest

/-- Mean of the distance integral, less one. -/
def meanDistance (eps : Float) : Float :=
  let t := polynomial [1.0, 4.0, 64.0, 0.0] (eps * eps) / 256.0
  (t + eps) / (1.0 - eps)

/-- Fourier coefficients of the distance integral. -/
def distanceSeries (eps : Float) : List Float :=
  let square := eps * eps
  powers eps eps [polynomial [-1.0, 6.0, -16.0] square / 32.0, polynomial [-9.0, 64.0, -128.0] square / 2048.0,
    polynomial [9.0, -16.0] square / 768.0, polynomial [3.0, -5.0] square / 512.0, -7.0 / 1280.0, -7.0 / 2048.0]

/-- Mean of the reduced-length integral, less one. -/
def meanReduced (eps : Float) : Float :=
  let t := polynomial [-11.0, -28.0, -192.0, 0.0] (eps * eps) / 256.0
  (t - eps) / (1.0 + eps)

/-- Fourier coefficients of the reduced-length integral. -/
def reducedSeries (eps : Float) : List Float :=
  let square := eps * eps
  powers eps eps [polynomial [1.0, 2.0, 16.0] square / 32.0, polynomial [35.0, 64.0, 384.0] square / 2048.0,
    polynomial [15.0, 80.0] square / 768.0, polynomial [7.0, 35.0] square / 512.0, 63.0 / 1280.0, 77.0 / 2048.0]

/-- Mean of the longitude integral. -/
def meanLongitude (eps : Float) : Float :=
  let n := thirdFlattening
  polynomial [-3.0 / 128.0, polynomial [-2.0, -3.0] n / 64.0, polynomial [-1.0, -3.0, -1.0] n / 16.0,
    polynomial [3.0, -1.0, -2.0] n / 8.0, polynomial [1.0, -1.0] n / 2.0, 1.0] eps

/-- Fourier coefficients of the longitude integral. -/
def longitudeSeries (eps : Float) : List Float :=
  let n := thirdFlattening
  powers eps eps
    [polynomial [3.0 / 128.0, polynomial [2.0, 5.0] n / 128.0, polynomial [-1.0, 3.0, 3.0] n / 64.0,
      polynomial [-1.0, 0.0, 1.0] n / 8.0, polynomial [-1.0, 1.0] n / 4.0] eps,
    polynomial [5.0 / 256.0, polynomial [1.0, 3.0] n / 128.0, polynomial [-3.0, -2.0, 3.0] n / 64.0,
      polynomial [1.0, -3.0, 2.0] n / 32.0] eps,
    polynomial [7.0 / 512.0, polynomial [-10.0, 9.0] n / 384.0, polynomial [5.0, -9.0, 5.0] n / 192.0] eps,
    polynomial [7.0 / 512.0, polynomial [-14.0, 7.0] n / 512.0] eps,
    21.0 / 2560.0]

/-- Fourier coefficients of the area integral. -/
def areaSeries (eps : Float) : List Float :=
  let n := thirdFlattening
  powers eps 1.0
    [polynomial [97.0 / 15015.0, polynomial [1088.0, 156.0] n / 45045.0, polynomial [-224.0, -4784.0, 1573.0] n / 45045.0,
      polynomial [-10656.0, 14144.0, -4576.0, -858.0] n / 45045.0,
      polynomial [64.0, 624.0, -4576.0, 6864.0, -3003.0] n / 15015.0,
      polynomial [100.0, 208.0, 572.0, 3432.0, -12012.0, 30030.0] n / 45045.0] eps,
    polynomial [1.0 / 9009.0, polynomial [-2944.0, 468.0] n / 135135.0, polynomial [5792.0, 1040.0, -1287.0] n / 135135.0,
      polynomial [5952.0, -11648.0, 9152.0, -2574.0] n / 135135.0,
      polynomial [-64.0, -624.0, 4576.0, -6864.0, 3003.0] n / 135135.0] eps,
    polynomial [8.0 / 10725.0, polynomial [1856.0, -936.0] n / 225225.0, polynomial [-8448.0, 4992.0, -1144.0] n / 225225.0,
      polynomial [-1440.0, 4160.0, -4576.0, 1716.0] n / 225225.0] eps,
    polynomial [-136.0 / 63063.0, polynomial [1024.0, -208.0] n / 105105.0,
      polynomial [3584.0, -3328.0, 1144.0] n / 315315.0] eps,
    polynomial [-128.0 / 135135.0, polynomial [-2560.0, 832.0] n / 405405.0] eps,
    128.0 / 99099.0]

/-- The expansion parameter of a geodesic with `cosine` of its azimuth at the equator. -/
def expansion (cosine : Float) : Float :=
  let k2 := cosine * cosine * secondEccentricity
  k2 / (2.0 * (1.0 + Float.sqrt (1.0 + k2)) + k2)

/-- The two ends of an edge, swapped and mirrored so that the first one is the more distant from the equator
and lies south of it: reduced latitudes, their scale factors and the longitude difference. -/
structure Ends where
  bet1 : Angle
  bet2 : Angle
  dn1 : Float
  dn2 : Float
  lam12 : Float
  lam : Angle

/-- Azimuths of a geodesic at its two ends and the longitude difference on the auxiliary sphere. -/
structure Solution where
  alp1 : Angle
  alp2 : Angle
  omg : Angle
  meridional : Bool

/-- The reduced length of an arc, in units of the polar radius. -/
def reducedLength (e : Ends) (eps sig12 : Float) (sig1 sig2 : Angle) : Float :=
  let a1 := meanDistance eps
  let a2 := meanReduced eps
  let c1 := distanceSeries eps
  let c2 := reducedSeries eps
  let b1 := sineSeries sig2 c1 - sineSeries sig1 c1
  let b2 := sineSeries sig2 c2 - sineSeries sig1 c2
  let j12 := (a1 - a2) * sig12 + ((1.0 + a1) * b1 - (1.0 + a2) * b2)
  e.dn2 * (sig1.cos * sig2.sin) - e.dn1 * (sig1.sin * sig2.cos) - sig1.cos * sig2.cos * j12

/-- The angle from the first direction to the second one, not negative. -/
def arc (a b : Angle) : Float :=
  Float.atan2 (max 0.0 (a.cos * b.sin - a.sin * b.cos)) (a.cos * b.cos + a.sin * b.sin)

/-- What an azimuth at the first end leads to: the error in longitude, its derivative, the azimuth at the
second end and the longitude difference on the auxiliary sphere. -/
structure Trial where
  error : Float
  slope : Float
  alp2 : Angle
  domg : Float

/-- Follows the geodesic that leaves the first end at an azimuth to the latitude of the second end. -/
def tryAzimuth (e : Ends) (alp1 : Angle) : Trial :=
  let alp1 := if e.bet1.sin == 0.0 && alp1.cos == 0.0 then ⟨alp1.sin, -tiny⟩ else alp1
  let salp0 := alp1.sin * e.bet1.cos
  let calp0 := Angle.norm ⟨alp1.sin * e.bet1.sin, alp1.cos⟩
  let omg1 : Angle := ⟨salp0 * e.bet1.sin, alp1.cos * e.bet1.cos⟩
  let sig1 := Angle.unit ⟨e.bet1.sin, omg1.cos⟩
  let salp2 := if e.bet2.cos != e.bet1.cos then salp0 / e.bet2.cos else alp1.sin
  let calp2 :=
    if e.bet2.cos != e.bet1.cos || e.bet2.sin.abs != -e.bet1.sin then
      let gap := if e.bet1.cos < -e.bet1.sin then (e.bet2.cos - e.bet1.cos) * (e.bet1.cos + e.bet2.cos)
        else (e.bet1.sin - e.bet2.sin) * (e.bet1.sin + e.bet2.sin)
      Float.sqrt ((alp1.cos * e.bet1.cos) * (alp1.cos * e.bet1.cos) + gap) / e.bet2.cos
    else alp1.cos.abs
  let omg2 : Angle := ⟨salp0 * e.bet2.sin, calp2 * e.bet2.cos⟩
  let sig2 := Angle.unit ⟨e.bet2.sin, omg2.cos⟩
  let sig12 := arc sig1 sig2
  let somg12 := max 0.0 (omg1.cos * omg2.sin - omg1.sin * omg2.cos)
  let comg12 := omg1.cos * omg2.cos + omg1.sin * omg2.sin
  let eta := Float.atan2 (somg12 * e.lam.cos - comg12 * e.lam.sin) (comg12 * e.lam.cos + somg12 * e.lam.sin)
  let eps := expansion calp0
  let c3 := longitudeSeries eps
  let b312 := sineSeries sig2 c3 - sineSeries sig1 c3
  let domg := -flattening * meanLongitude eps * salp0 * (sig12 + b312)
  let slope :=
    if calp2 == 0.0 then -2.0 * axisRatio * e.dn1 / e.bet1.sin
    else reducedLength e eps sig12 sig1 sig2 * (axisRatio / (calp2 * e.bet2.cos))
  ⟨eta + domg, slope, ⟨salp2, calp2⟩, domg⟩

/-- The positive root of the astroid's equation `k⁴ + 2k³ − (x² + y² − 1)k² − 2y²k − y² = 0`. -/
def astroid (x y : Float) : Float :=
  let p := x * x
  let q := y * y
  let r := (p + q - 1.0) / 6.0
  if q == 0.0 && r ≤ 0.0 then 0.0
  else
    let s := p * q / 4.0
    let r2 := r * r
    let r3 := r * r2
    let disc := s * (s + 2.0 * r3)
    let u :=
      if disc ≥ 0.0 then
        let t3 := s + r3
        let t3 := t3 + (if t3 < 0.0 then -Float.sqrt disc else Float.sqrt disc)
        let t := Float.cbrt t3
        r + t + (if t != 0.0 then r2 / t else 0.0)
      else
        let ang := Float.atan2 (Float.sqrt (-disc)) (-(s + r3))
        r + 2.0 * r * Float.cos (ang / 3.0)
    let v := Float.sqrt (u * u + q)
    let uv := if u < 0.0 then q / (v - u) else u + v
    let w := (uv - q) / (2.0 * v)
    uv / (Float.sqrt (uv + w * w) + w)

/-- The azimuth from which the iteration starts, or the whole solution for a short edge. -/
def start (e : Ends) : Angle ⊕ Solution :=
  let sbet12 := e.bet2.sin * e.bet1.cos - e.bet2.cos * e.bet1.sin
  let cbet12 := e.bet2.cos * e.bet1.cos + e.bet2.sin * e.bet1.sin
  let sbet12a := e.bet2.sin * e.bet1.cos + e.bet2.cos * e.bet1.sin
  let isShort := cbet12 ≥ 0.0 && sbet12 < 0.5 && e.bet2.cos * e.lam12 < 0.5
  let dnm :=
    let s := (e.bet1.sin + e.bet2.sin) * (e.bet1.sin + e.bet2.sin)
    let c := (e.bet1.cos + e.bet2.cos) * (e.bet1.cos + e.bet2.cos)
    Float.sqrt (1.0 + secondEccentricity * (s / (s + c)))
  let omg := if isShort then Angle.ofRadians (e.lam12 / (axisRatio * dnm)) else e.lam
  let salp1 := e.bet2.cos * omg.sin
  let calp1 :=
    if omg.cos ≥ 0.0 then sbet12 + e.bet2.cos * e.bet1.sin * (omg.sin * omg.sin) / (1.0 + omg.cos)
    else sbet12a - e.bet2.cos * e.bet1.sin * (omg.sin * omg.sin) / (1.0 - omg.cos)
  let ssig12 := Angle.norm ⟨salp1, calp1⟩
  let csig12 := e.bet1.sin * e.bet2.sin + e.bet1.cos * e.bet2.cos * omg.cos
  let finish (a : Angle) : Angle := if !(a.sin ≤ 0.0) then a.unit else ⟨1.0, 0.0⟩
  if isShort && ssig12 < shortLineBound then
    let ratio := if omg.cos ≥ 0.0 then omg.sin * omg.sin / (1.0 + omg.cos) else 1.0 - omg.cos
    let alp2 := Angle.unit ⟨e.bet1.cos * omg.sin, sbet12 - e.bet1.cos * e.bet2.sin * ratio⟩
    .inr ⟨finish ⟨salp1, calp1⟩, alp2, omg, false⟩
  else if csig12 ≥ 0.0 || ssig12 ≥ 6.0 * thirdFlattening * pi * (e.bet1.cos * e.bet1.cos) then
    .inl (finish ⟨salp1, calp1⟩)
  else
    -- nearly antipodal ends: coordinates around the antipode, scaled so that the astroid has unit size
    let lam12x := Float.atan2 (-e.lam.sin) (-e.lam.cos)
    let scale := flattening * e.bet1.cos * meanLongitude (expansion e.bet1.sin) * pi
    let x := lam12x / scale
    let y := sbet12a / (scale * e.bet1.cos)
    if y > -200.0 * unit && x > -1.0 - 1000.0 * rootUnit then
      let s := min 1.0 (-x)
      .inl (finish ⟨s, -Float.sqrt (1.0 - s * s)⟩)
    else
      let k := astroid x y
      let omg := scale * (-x * k / (1.0 + k))
      let somg := Float.sin omg
      let comg := -Float.cos omg
      .inl (finish ⟨e.bet2.cos * somg, sbet12a - e.bet2.cos * e.bet1.sin * (somg * somg) / (1.0 - comg)⟩)

/-- State of the search for the azimuth: the present one, the bracket around the root and the stop marks. -/
structure Search where
  alp1 : Angle
  low : Angle
  high : Angle
  nearRoot : Bool
  narrow : Bool

/-- Newton's method with bisection where it leaves the bracket; `left` counts the remaining steps. -/
def solve (e : Ends) (left : Nat) (s : Search) : Angle × Trial :=
  let trial := tryAzimuth e s.alp1
  match left with
  | 0 => (s.alp1, trial)
  | left + 1 =>
    let bound := (if s.nearRoot then 8.0 else 1.0) * unit
    if s.narrow || !(trial.error.abs ≥ bound) then (s.alp1, trial)
    else
      let newton := left > 63
      let ratio := s.alp1.cos / s.alp1.sin
      let s :=
        if trial.error > 0.0 && (!newton || ratio > s.high.cos / s.high.sin) then { s with high := s.alp1 }
        else if trial.error < 0.0 && (!newton || ratio < s.low.cos / s.low.sin) then { s with low := s.alp1 }
        else s
      let step := -trial.error / trial.slope
      let turned := Angle.ofRadians step
      let salp := s.alp1.sin * turned.cos + s.alp1.cos * turned.sin
      if newton && trial.slope > 0.0 && salp > 0.0 && step.abs < pi then
        let alp1 := Angle.unit ⟨salp, s.alp1.cos * turned.cos - s.alp1.sin * turned.sin⟩
        solve e left { s with alp1, nearRoot := trial.error.abs ≤ 16.0 * unit }
      else
        let alp1 := Angle.unit ⟨(s.low.sin + s.high.sin) / 2.0, (s.low.cos + s.high.cos) / 2.0⟩
        let tolerance := unit * rootUnit
        let narrow := (s.low.sin - alp1.sin).abs + (s.low.cos - alp1.cos) < tolerance ||
          (alp1.sin - s.high.sin).abs + (alp1.cos - s.high.cos) < tolerance
        solve e left { s with alp1, nearRoot := false, narrow }

/-- The solution along a meridian, unless the shortest path leaves it. -/
def meridian? (e : Ends) (first : Float) : Option Solution :=
  if first == -90.0 || e.lam.sin == 0.0 then
    let alp1 : Angle := e.lam
    let sig1 : Angle := ⟨e.bet1.sin, alp1.cos * e.bet1.cos⟩
    let sig2 : Angle := ⟨e.bet2.sin, e.bet2.cos⟩
    let sig12 := arc sig1 sig2
    if sig12 < 1.0 || reducedLength e thirdFlattening sig12 sig1 sig2 ≥ 0.0 then
      some ⟨alp1, ⟨0.0, 1.0⟩, ⟨0.0, 1.0⟩, true⟩
    else none
  else none

/-- The geodesic between two ends; `first` is the latitude of the first one and `supplement` what the
longitude difference lacks of a half turn, both in degrees. -/
def inverse (e : Ends) (first supplement : Float) : Solution :=
  match meridian? e first with
  | some s => s
  | none =>
    if e.bet1.sin == 0.0 && supplement ≥ flattening * 180.0 then
      ⟨⟨1.0, 0.0⟩, ⟨1.0, 0.0⟩, Angle.ofRadians (e.lam12 / axisRatio), false⟩
    else
      match start e with
      | .inr s => s
      | .inl alp1 =>
        let (alp1, trial) := solve e 83 ⟨alp1, ⟨tiny, 1.0⟩, ⟨tiny, -1.0⟩, false, false⟩
        let d := Angle.ofRadians trial.domg
        ⟨alp1, trial.alp2, ⟨e.lam.sin * d.cos - e.lam.cos * d.sin, e.lam.cos * d.cos + e.lam.sin * d.sin⟩, false⟩

/-- The signed area between an edge and the equator, for the arrangement of the ends. -/
def areaOfSolution (e : Ends) (s : Solution) : Float :=
  let salp0 := s.alp1.sin * e.bet1.cos
  let calp0 := Angle.norm ⟨s.alp1.sin * e.bet1.sin, s.alp1.cos⟩
  let bulge :=
    if calp0 != 0.0 && salp0 != 0.0 then
      let sig1 := Angle.unit ⟨e.bet1.sin, s.alp1.cos * e.bet1.cos⟩
      let sig2 := Angle.unit ⟨e.bet2.sin, s.alp2.cos * e.bet2.cos⟩
      let c4 := areaSeries (expansion calp0)
      equatorialRadius * equatorialRadius * calp0 * salp0 * eccentricity * (cosineSeries sig2 c4 - cosineSeries sig1 c4)
    else 0.0
  let excess :=
    if !s.meridional && s.omg.cos > -0.7071 && e.bet2.sin - e.bet1.sin < 1.75 then
      let domg := 1.0 + s.omg.cos
      let dbet1 := 1.0 + e.bet1.cos
      let dbet2 := 1.0 + e.bet2.cos
      2.0 * Float.atan2 (s.omg.sin * (e.bet1.sin * dbet2 + e.bet2.sin * dbet1))
        (domg * (e.bet1.sin * e.bet2.sin + dbet1 * dbet2))
    else
      let salp12 := s.alp2.sin * s.alp1.cos - s.alp2.cos * s.alp1.sin
      let calp12 := s.alp2.cos * s.alp1.cos + s.alp2.sin * s.alp1.sin
      if salp12 == 0.0 && calp12 < 0.0 then Float.atan2 (tiny * s.alp1.cos) (-1.0) else Float.atan2 salp12 calp12
  bulge + authalicSquare * excess

/-- The reduced latitude of a latitude in degrees. -/
def reducedLatitude (latitude : Float) : Angle :=
  let a := Angle.ofDegrees latitude
  let b := Angle.unit ⟨a.sin * axisRatio, a.cos⟩
  ⟨b.sin, max tiny b.cos⟩

/-- The signed area between the geodesic from one position to another and the equator, positive eastwards north
of the equator. -/
def areaUnder (a b : Coord Float) : Float :=
  let (difference, rest) := longitudeDifference a.x b.x
  let lonSign := if difference ≥ 0.0 then 1.0 else -1.0
  let lon12 := lonSign * roundDegrees difference
  let supplement := roundDegrees ((180.0 - lon12) - lonSign * rest)
  let lam : Angle :=
    if lon12 > 90.0 then let s := Angle.ofDegrees supplement; ⟨s.sin, -s.cos⟩ else Angle.ofDegrees lon12
  let lat1 := roundDegrees a.y
  let lat2 := roundDegrees b.y
  let swap := lat1.abs < lat2.abs
  let (lat1, lat2) := if swap then (lat2, lat1) else (lat1, lat2)
  let lonSign := if swap then -lonSign else lonSign
  let latSign := if lat1 < 0.0 then 1.0 else -1.0
  let bet1 := reducedLatitude (lat1 * latSign)
  let bet2 := reducedLatitude (lat2 * latSign)
  let bet2 : Angle :=
    if bet1.cos < -bet1.sin then
      if bet2.cos == bet1.cos then ⟨if bet2.sin < 0.0 then bet1.sin else -bet1.sin, bet2.cos⟩ else bet2
    else if bet2.sin.abs == -bet1.sin then ⟨bet2.sin, bet1.cos⟩ else bet2
  let scale (bet : Angle) := Float.sqrt (1.0 + secondEccentricity * (bet.sin * bet.sin))
  let e : Ends := ⟨bet1, bet2, scale bet1, scale bet2, lon12 * (pi / 180.0), lam⟩
  let area := areaOfSolution e (inverse e (lat1 * latSign) supplement)
  area * (if swap then -1.0 else 1.0) * lonSign * latSign

/-- One for an edge that crosses the prime meridian eastwards, minus one westwards, else zero. -/
def transit (a b : Coord Float) : Int :=
  let (difference, _) := longitudeDifference a.x b.x
  let x := normalizeDegrees a.x
  let y := normalizeDegrees b.x
  if x ≤ 0.0 && y > 0.0 && difference > 0.0 then 1
  else if y ≤ 0.0 && x > 0.0 && difference < 0.0 then -1
  else 0

/-- Whether a position has a place on the ellipsoid. -/
def isOnGlobe (c : Coord Float) : Bool := c.x.isFinite && c.y.abs ≤ 90.0

/-- The side of a directed ring. -/
inductive Side where
  | left | right

/-- Area on one side of a closed ring in square metres, from zero up to the whole ellipsoid. An edge between two
antipodes passes over a pole, and which one it is depends on the direction of the ring. -/
def ringArea (side : Side) (ring : Polyline Float) : Float :=
  if !ring.all isOnGlobe then 0.0 / 0.0
  else
    let edges := Polyline.segments (ring ++ ring.head?.toList)
    let total := edges.foldl (fun sum (a, b) => sum + areaUnder a b) 0.0
    let crossings : Int := edges.foldl (fun count (a, b) => count + transit a b) 0
    let total := total - wholeArea * (total / wholeArea).round
    let total :=
      if crossings % 2 ≠ 0 then (if total < 0.0 then total + wholeArea / 2.0 else total - wholeArea / 2.0) else total
    let area := match side with
      | .left => -total
      | .right => total
    if area ≥ wholeArea then area - wholeArea else if area < 0.0 then area + wholeArea else area + 0.0

/-- Area of a polygon: its exterior's area less the areas to the right of its holes. -/
def polygonArea (p : Polygon Float) : Float :=
  let holes := p.interiors.foldl (fun sum ring => sum + (ringArea .right ring).abs) 0.0
  ringArea .left p.exterior - holes

/-- Doubles measure the WGS84 ellipsoid. -/
instance surface : Surface Float := ⟨polygonArea⟩

end AreaOfInterest.Geodesic
