import ScriptedMap.Proofs.Binary64.Order
import ScriptedMap.Proofs.Geo.Loading
import ScriptedMap.Proofs.Json.Finite

namespace ScriptedMap

open Binary64 (AtMost SameValue)

/-- Both coordinates are finite. -/
structure Point.IsFinite (p : Point) : Prop where
  lng : p.lng.isFinite = true
  lat : p.lat.isFinite = true

namespace Box

/-- The point is neither west nor south of the lesser corner, neither east nor
north of the greater. -/
structure Contains (b : Box) (p : Point) : Prop where
  west : AtMost b.min.lng p.lng
  south : AtMost b.min.lat p.lat
  east : AtMost p.lng b.max.lng
  north : AtMost p.lat b.max.lat

/-- The box has the points in it, and on each of its sides there is one. -/
structure IsHull (P : Point → Prop) (b : Box) : Prop where
  contains : ∀ p, P p → b.Contains p
  west : ∃ p, P p ∧ p.lng = b.min.lng
  south : ∃ p, P p ∧ p.lat = b.min.lat
  east : ∃ p, P p ∧ p.lng = b.max.lng
  north : ∃ p, P p ∧ p.lat = b.max.lat

/-- The sides of the two boxes are numerically equal. -/
structure SameSides (b c : Box) : Prop where
  west : SameValue b.min.lng c.min.lng
  south : SameValue b.min.lat c.min.lat
  east : SameValue b.max.lng c.max.lng
  north : SameValue b.max.lat c.max.lat

section Side

variable {P : Point → Prop} {p : Point} {side : Point → Binary64} {x y : Binary64}

/-- A side is on one of the points, and on the same hand of all of them. Of the side and one more
point the better one is so again, whichever of the two it is. -/
theorem side_extend {R : Binary64 → Binary64 → Prop} (htrans : ∀ {u v w}, R u v → R v w → R u w)
    (hp : R (side p) (side p)) (hbetter : y = x ∧ R x (side p) ∨ y = side p ∧ R (side p) x)
    (hx : ∃ q, P q ∧ side q = x) (h : ∀ q, P q → R x (side q)) :
    (∃ q, (P q ∨ q = p) ∧ side q = y) ∧ ∀ q, P q ∨ q = p → R y (side q) := by
  rcases hbetter with ⟨rfl, hle⟩ | ⟨rfl, hle⟩
  · obtain ⟨q, hq, hside⟩ := hx
    refine ⟨⟨q, .inl hq, hside⟩, ?_⟩
    rintro r (hr | rfl)
    · exact h r hr
    · exact hle
  · refine ⟨⟨p, .inr rfl, rfl⟩, ?_⟩
    rintro r (hr | rfl)
    · exact htrans hle (h r hr)
    · exact hp

variable (hfinite : ∀ q, P q ∨ q = p → (side q).isFinite = true) (hx : ∃ q, P q ∧ side q = x)

include hfinite hx

theorem min_side (h : ∀ q, P q → AtMost x (side q)) :
    (∃ q, (P q ∨ q = p) ∧ side q = x.min (side p)) ∧
      ∀ q, P q ∨ q = p → AtMost (x.min (side p)) (side q) := by
  have hp := hfinite p (.inr rfl)
  obtain ⟨q, hq, hside⟩ := hx
  have hfinite' : x.isFinite = true := hside ▸ hfinite q (.inl hq)
  exact side_extend AtMost.trans (Binary64.atMost_refl hp) (Binary64.min_cases hfinite' hp)
    ⟨q, hq, hside⟩ h

theorem max_side (h : ∀ q, P q → AtMost (side q) x) :
    (∃ q, (P q ∨ q = p) ∧ side q = x.max (side p)) ∧
      ∀ q, P q ∨ q = p → AtMost (side q) (x.max (side p)) := by
  have hp := hfinite p (.inr rfl)
  obtain ⟨q, hq, hside⟩ := hx
  have hfinite' : x.isFinite = true := hside ▸ hfinite q (.inl hq)
  exact side_extend (R := fun u v => AtMost v u) (fun huv hvw => hvw.trans huv)
    (Binary64.atMost_refl hp) (Binary64.max_cases hfinite' hp) ⟨q, hq, hside⟩ h

end Side

theorem IsHull.extend {P : Point → Prop} {b : Box} (h : b.IsHull P) {p : Point}
    (hfinite : ∀ q, P q ∨ q = p → q.IsFinite) : (b.extend p).IsHull fun q => P q ∨ q = p := by
  have hlng := fun q hq => (hfinite q hq).lng
  have hlat := fun q hq => (hfinite q hq).lat
  obtain ⟨hwest, hwest'⟩ := min_side hlng h.west fun q hq => (h.contains q hq).west
  obtain ⟨hsouth, hsouth'⟩ := min_side hlat h.south fun q hq => (h.contains q hq).south
  obtain ⟨heast, heast'⟩ := max_side hlng h.east fun q hq => (h.contains q hq).east
  obtain ⟨hnorth, hnorth'⟩ := max_side hlat h.north fun q hq => (h.contains q hq).north
  exact ⟨fun q hq => ⟨hwest' q hq, hsouth' q hq, heast' q hq, hnorth' q hq⟩, hwest, hsouth, heast,
    hnorth⟩

theorem isHull_singleton {p : Point} (hp : p.IsFinite) : IsHull (· = p) ⟨p, p⟩ := by
  refine ⟨?_, ⟨p, rfl, rfl⟩, ⟨p, rfl, rfl⟩, ⟨p, rfl, rfl⟩, ⟨p, rfl, rfl⟩⟩
  rintro q rfl
  have hlng := Binary64.atMost_refl hp.lng
  have hlat := Binary64.atMost_refl hp.lat
  exact ⟨hlng, hlat, hlng, hlat⟩

theorem IsHull.congr {P Q : Point → Prop} {b : Box} (h : b.IsHull P) (hPQ : ∀ p, P p ↔ Q p) :
    b.IsHull Q := by
  have hsame : P = Q := funext fun p => propext (hPQ p)
  rwa [← hsame]

/-- However many more points there are, what comes out is the hull of all of them. -/
theorem isHull_foldl {P : Point → Prop} {b : Box} (h : b.IsHull P) {ps : List Point}
    (hfinite : ∀ q, P q ∨ q ∈ ps → q.IsFinite) :
    (ps.foldl extend b).IsHull fun q => P q ∨ q ∈ ps := by
  induction ps generalizing P b with
  | nil => exact h.congr fun q => by simp
  | cons p ps ih =>
    have hassoc (q : Point) : (P q ∨ q = p) ∨ q ∈ ps ↔ P q ∨ q ∈ p :: ps := by
      rw [or_assoc, List.mem_cons]
    have hstep := h.extend (p := p) fun q hq => hfinite q ((hassoc q).mp (.inl hq))
    exact (ih hstep fun q hq => hfinite q ((hassoc q).mp hq)).congr hassoc

theorem isHull_of_around? {ps : List Point} (hfinite : ∀ q ∈ ps, q.IsFinite) {b : Box}
    (h : around? ps = some b) : b.IsHull (· ∈ ps) := by
  cases ps with
  | nil => cases h
  | cons p ps =>
    cases h
    have hmem (q : Point) : q = p ∨ q ∈ ps ↔ q ∈ p :: ps := List.mem_cons.symm
    have hfirst := isHull_singleton (hfinite p List.mem_cons_self)
    exact (isHull_foldl hfirst fun q hq => hfinite q ((hmem q).mp hq)).congr hmem

theorem around?_eq_none_iff {ps : List Point} : around? ps = none ↔ ps = [] := by
  cases ps <;> simp [around?]

/-- The hull of some points has one place on the map only. -/
theorem IsHull.sameSides {P : Point → Prop} {b c : Box} (hb : b.IsHull P) (hc : c.IsHull P) :
    b.SameSides c := by
  constructor
  · obtain ⟨p, hp, hside⟩ := hb.west
    obtain ⟨q, hq, hside'⟩ := hc.west
    exact (hside' ▸ (hb.contains q hq).west).antisymm (hside ▸ (hc.contains p hp).west)
  · obtain ⟨p, hp, hside⟩ := hb.south
    obtain ⟨q, hq, hside'⟩ := hc.south
    exact (hside' ▸ (hb.contains q hq).south).antisymm (hside ▸ (hc.contains p hp).south)
  · obtain ⟨p, hp, hside⟩ := hb.east
    obtain ⟨q, hq, hside'⟩ := hc.east
    exact (hside ▸ (hc.contains p hp).east).antisymm (hside' ▸ (hb.contains q hq).east)
  · obtain ⟨p, hp, hside⟩ := hb.north
    obtain ⟨q, hq, hside'⟩ := hc.north
    exact (hside ▸ (hc.contains p hp).north).antisymm (hside' ▸ (hb.contains q hq).north)

end Box

/-- The same members in another order, where members that are related count as the same. -/
def ReorderedBy {α : Type} (R : α → α → Prop) (xs ys : List α) : Prop :=
  ∃ zs, xs.Perm zs ∧ List.Forall₂ R zs ys

theorem ReorderedBy.exists_iff {α : Type} {R : α → α → Prop} {M : α → Prop}
    (hR : ∀ a b, R a b → (M a ↔ M b)) {xs ys : List α} (h : ReorderedBy R xs ys) :
    (∃ a ∈ xs, M a) ↔ ∃ b ∈ ys, M b := by
  obtain ⟨zs, hperm, hsame⟩ := h
  have hzs : (∃ a ∈ xs, M a) ↔ ∃ a ∈ zs, M a := by simp only [hperm.mem_iff]
  rw [hzs]
  clear hperm hzs
  induction hsame with
  | nil => exact Iff.rfl
  | cons hab _ ih =>
    rw [List.exists_mem_cons_iff, List.exists_mem_cons_iff]
    exact or_congr (hR _ _ hab) ih

namespace Territory

/-- The point is a position of one of the rings. -/
def HasPosition (t : Territory) (p : Point) : Prop :=
  ∃ polygon ∈ t.polygons, ∃ ring ∈ polygon, p ∈ ring

def IsFinite (t : Territory) : Prop := ∀ p, t.HasPosition p → p.IsFinite

/-- The polygons are the same but for their own order and that of the rings and the positions in
them. -/
def Reordered (t u : Territory) : Prop :=
  ReorderedBy (ReorderedBy List.Perm) t.polygons u.polygons

theorem mem_positions_iff {t : Territory} {p : Point} : p ∈ t.positions ↔ t.HasPosition p := by
  simp only [positions, List.mem_flatten, HasPosition]
  constructor
  · rintro ⟨ring, ⟨polygon, hpolygon, hring⟩, hp⟩
    exact ⟨polygon, hpolygon, ring, hring, hp⟩
  · rintro ⟨polygon, hpolygon, ring, hring, hp⟩
    exact ⟨ring, ⟨polygon, hpolygon, hring⟩, hp⟩

theorem Reordered.hasPosition_iff {t u : Territory} (h : t.Reordered u) (p : Point) :
    t.HasPosition p ↔ u.HasPosition p :=
  h.exists_iff fun _ _ hpolygon => hpolygon.exists_iff fun _ _ hring => hring.mem_iff

theorem bounds?_eq_none_iff {t : Territory} : t.bounds? = none ↔ ¬∃ p, t.HasPosition p := by
  rw [bounds?, Box.around?_eq_none_iff, List.eq_nil_iff_forall_not_mem, not_exists]
  simp only [mem_positions_iff]

theorem isHull_of_bounds? {t : Territory} (ht : t.IsFinite) {b : Box} (h : t.bounds? = some b) :
    b.IsHull t.HasPosition :=
  (Box.isHull_of_around? (fun q hq => ht q (mem_positions_iff.mp hq)) h).congr fun _ =>
    mem_positions_iff

theorem Reordered.sameBounds {t u : Territory} (h : t.Reordered u) (ht : t.IsFinite) :
    Option.Rel Box.SameSides t.bounds? u.bounds? := by
  have hu : u.IsFinite := fun p hp => ht p ((h.hasPosition_iff p).mpr hp)
  have hnone : t.bounds? = none ↔ u.bounds? = none := by
    simp only [bounds?_eq_none_iff, h.hasPosition_iff]
  cases hb : t.bounds? with
  | none =>
    rw [hnone.mp hb]
    exact .none
  | some b =>
    cases hc : u.bounds? with
    | none =>
      rw [hnone.mpr hc] at hb
      cases hb
    | some c =>
      have hhull := isHull_of_bounds? hu hc
      have hsame :=
        (isHull_of_bounds? ht hb).sameSides (hhull.congr fun p => (h.hasPosition_iff p).symm)
      exact .some hsame

end Territory

/-- What holds of whatever is related to a value of finite numbers holds of the members of a list
that is related to an array of them. -/
theorem Json.IsFinite.of_isArrayOf {α : Type} {R : Json → α → Prop} {P : α → Prop}
    (hR : ∀ w a, w.IsFinite → R w a → P a) {v : Json} (hv : v.IsFinite) {as : List α}
    (h : v.IsArrayOf R as) : ∀ a ∈ as, P a := by
  obtain ⟨items, rfl, hitems⟩ := h
  have hfinite := hv.items rfl
  clear hv
  induction hitems with
  | nil => exact List.forall_mem_nil P
  | cons hwa _ ih =>
    rw [List.forall_mem_cons] at hfinite ⊢
    exact ⟨hR _ _ hfinite.1 hwa, ih hfinite.2⟩

theorem Point.isFinite_of_isFrom (v : Json) (p : Point) (hv : v.IsFinite) (h : Point.IsFrom v p) :
    p.IsFinite := by
  obtain ⟨lng, lat, rest, rfl, hlng, hlat⟩ := h
  have hitems := hv.items rfl
  exact ⟨(hitems lng (by simp)).real? hlng, (hitems lat (by simp)).real? hlat⟩

theorem Ring.isFinite_of_isFrom (v : Json) (r : Ring) (hv : v.IsFinite) (h : Ring.IsFrom v r) :
    ∀ p ∈ r, p.IsFinite := hv.of_isArrayOf Point.isFinite_of_isFrom h

theorem Polygon.isFinite_of_isFrom (v : Json) (polygon : Polygon) (hv : v.IsFinite)
    (h : Polygon.IsFrom v polygon) : ∀ r ∈ polygon, ∀ p ∈ r, p.IsFinite :=
  hv.of_isArrayOf Ring.isFinite_of_isFrom h

theorem Feature.HasPolygons.isFinite {feature : Json} {ps : List Polygon}
    (h : HasPolygons feature ps)
    (hfeature : feature.IsFinite) : ∀ polygon ∈ ps, ∀ r ∈ polygon, ∀ p ∈ r, p.IsFinite := by
  have hcoordinates {kind : Option String} {coordinates : Json}
      (h : HasCoordinates feature kind coordinates) : coordinates.IsFinite := by
    obtain ⟨geometry, hgeometry, hcoordinates, -⟩ := h
    exact (hfeature.field? hgeometry).field? hcoordinates
  cases h with
  | missing => exact List.forall_mem_nil _
  | polygon hgeometry h =>
    rw [List.forall_mem_singleton]
    exact Polygon.isFinite_of_isFrom _ _ (hcoordinates hgeometry) h
  | multiPolygon hgeometry h =>
    exact (hcoordinates hgeometry).of_isArrayOf Polygon.isFinite_of_isFrom h
  | other => exact List.forall_mem_nil _

theorem Feature.Describes.isFinite {names parents : List String} {feature : Json} {t : Territory}
    (h : Describes names parents feature t) (hfeature : feature.IsFinite) : t.IsFinite := by
  rintro p ⟨polygon, hpolygon, ring, hring, hp⟩
  exact h.polygons.isFinite hfeature polygon hpolygon ring hring p hp

theorem Dataset.HasFeatures.isFinite {text : String} {fs : List Json} (h : HasFeatures text fs) :
    ∀ f ∈ fs, f.IsFinite := by
  obtain ⟨root, hroot, hfeatures⟩ := h
  exact ((Json.isFinite_of_readable? hroot).field? hfeatures).items rfl

theorem Dataset.Holds.forall_mem {α : Type} {names : List String} {IsOf : Json → α → Prop}
    {P : α → Prop} (hof : ∀ f a, f.IsFinite → IsOf f a → P a) {text : String} {as : List α}
    (h : Holds names IsOf text as) : ∀ a ∈ as, P a := by
  obtain ⟨fs, hfs, has⟩ := h
  have hnamed : ∀ f ∈ fs.filter fun f => Feature.IsNamed names f, f.IsFinite :=
    fun f hf => hfs.isFinite f (List.mem_of_mem_filter hf)
  exact (Json.IsFinite.array hnamed).of_isArrayOf hof ⟨_, rfl, has⟩

/-- The territory is one of the atlas, a country or a region. -/
def Atlas.HasTerritory (atlas : Atlas) (t : Territory) : Prop :=
  (∃ c ∈ atlas.countries, c.territory = t) ∨ ∃ r ∈ atlas.regions, r.territory = t

theorem Atlas.isFinite_of_read {config : Config} {countries : String} {regions : Option String}
    {atlas : Atlas} (h : read config countries regions = .ok atlas) {t : Territory}
    (ht : atlas.HasTerritory t) : t.IsFinite := by
  obtain ⟨-, hcountries, hregions⟩ := of_read h
  rcases ht with ⟨c, hc, rfl⟩ | ⟨r, hr, rfl⟩
  · exact hcountries.forall_mem (P := fun c => c.territory.IsFinite)
      (fun f c hf hc => hc.territory.isFinite hf) c hc
  · cases regions with
    | none =>
      rw [hregions] at hr
      cases hr
    | some text =>
      exact Dataset.Holds.forall_mem (P := fun r => r.territory.IsFinite)
        (fun f r hf hr => hr.territory.isFinite hf) hregions r hr

/-- A territory has a box if there is a position in any of its rings, and then the box is the hull
of all the positions, in whatever order they and the rings and polygons come. This is so for all
territories of finite coordinates, and no others are read. -/
theorem Territory.bounds?_isHull :
    (∀ config countries regions atlas, Atlas.read config countries regions = .ok atlas →
      ∀ t, atlas.HasTerritory t → t.IsFinite) ∧
    ∀ t : Territory, t.IsFinite →
      (t.bounds? = none ↔ ¬∃ p, t.HasPosition p) ∧
      (∀ b, t.bounds? = some b → b.IsHull t.HasPosition) ∧
      ∀ u, t.Reordered u → Option.Rel Box.SameSides t.bounds? u.bounds? := by
  refine ⟨fun _ _ _ _ h t ht => Atlas.isFinite_of_read h ht, fun t ht => ⟨?_, ?_, ?_⟩⟩
  · exact bounds?_eq_none_iff
  · exact fun b hb => isHull_of_bounds? ht hb
  · exact fun u hu => hu.sameBounds ht

/-- A territory with one ring of two positions is read, and in the other order they have the same
box. -/
theorem Territory.bounds?_isHull_square : ∃ config countries regions atlas t b u,
    Atlas.read config countries regions = .ok atlas ∧ atlas.HasTerritory t ∧ t.bounds? = some b ∧
      b.IsHull t.HasPosition ∧ t.Reordered u ∧ Option.Rel Box.SameSides t.bounds? u.bounds? := by
  let square := Atlas.ofGeometry "Square" (.object [("type", .text "Polygon"), ("coordinates",
    .array [.array [.array [.ofNat 1, .ofNat 2], .array [.ofNat 3, .ofNat 1]]])])
  let text := (Json.object [("features", .array [square])]).compact
  let p : Point := ⟨.ofInt 1, .ofInt 2⟩
  let q : Point := ⟨.ofInt 3, .ofInt 1⟩
  let t : Territory := ⟨"Square", none, [[[p, q]]]⟩
  let c := Feature.countryOf square "Square" [[[p, q]]]
  have hreread : [square].map Json.reread = [square] := by
    simp [square, Atlas.ofGeometry, Json.reread, Json.rereadFields, Json.rereadItems,
      Json.reread_ofNat]
  have hfs : Feature.ofText text = .ok [square] := Feature.ofText_compact hreread rfl
  have hcs : Atlas.readCountries text = .ok [c] := by
    rw [Atlas.readCountries, hfs]
    rfl
  have hread : Atlas.read .standard text none =
      .ok { Atlas.empty .standard with countries := [c], regions := [] } := by
    rw [Atlas.read_eq, hcs]
    rfl
  have ht : Atlas.HasTerritory { Atlas.empty .standard with countries := [c], regions := [] } t :=
    .inl ⟨c, List.mem_singleton_self c, rfl⟩
  obtain ⟨hfinite, hbounds⟩ := Territory.bounds?_isHull
  obtain ⟨hnone, hhull, hreordered⟩ := hbounds t (hfinite _ _ _ _ hread t ht)
  have hposition : t.HasPosition p := ⟨[[p, q]], by simp [t], [p, q], by simp, by simp⟩
  obtain ⟨b, hb⟩ := Option.ne_none_iff_exists'.mp (hnone.not.mpr (not_not.mpr ⟨p, hposition⟩))
  have hu : t.Reordered { t with polygons := [[[q, p]]] } :=
    ⟨_, .refl _, .cons ⟨_, .refl _, .cons (.swap q p []) .nil⟩ .nil⟩
  exact ⟨_, text, none, _, t, b, _, hread, ht, hb, hhull b hb, hu, hreordered _ hu⟩

end ScriptedMap
