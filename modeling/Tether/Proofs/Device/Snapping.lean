import Tether.Proofs.Device.Offers

/-!
# Settings snap to the nearest value on offer

A camera that is given a value for its aperture, its sensitivity or its shutter speed stores the
nearest choice, of two that are equally near the one listed first (`nearest_spec`). Distances are
those of integers without a bound, so values at the ends of their range snap like all others.

Whatever the order of the list, a greater value never snaps to a smaller choice (`nearest_mono`): of
two choices the smaller one is nearest up to the middle between them, the greater one from there on,
and in the middle itself the list decides.

Shutter speeds have a range of their own: beyond the slowest one, and for bulb itself, the camera
stores bulb (`settings_snap`).
-/

namespace Tether

namespace Simulated

/-- A choice is nearest to a value, and of those that are the first one listed. -/
structure Nearest (choices : List Int32) (value chosen : Int32) : Prop where
  offered : chosen ∈ choices
  least : ∀ choice ∈ choices,
    (chosen.toInt - value.toInt).natAbs ≤ (choice.toInt - value.toInt).natAbs
  first : ∃ earlier later, choices = earlier ++ chosen :: later ∧ ∀ choice ∈ earlier,
    (chosen.toInt - value.toInt).natAbs < (choice.toInt - value.toInt).natAbs

namespace Nearest

variable {choices rest : List Int32} {value other best choice chosen : Int32}

theorem singleton (value choice : Int32) : Nearest [choice] value choice where
  offered := List.mem_singleton_self choice
  least other member := Nat.le_of_eq (by rw [List.mem_singleton.mp member])
  first := ⟨[], [], rfl, fun _ => nofun⟩

/-- A choice that is nearer than the best one before it takes its place. -/
theorem replace (closer : distance choice value < distance best value)
    (nearest : Nearest (choice :: rest) value chosen) :
    Nearest (best :: choice :: rest) value chosen := by
  have further := Nat.lt_of_le_of_lt (nearest.least choice List.mem_cons_self) closer
  refine ⟨List.mem_cons_of_mem best nearest.offered, ?_, ?_⟩
  · rintro other (_ | ⟨_, member⟩)
    · exact Nat.le_of_lt further
    · exact nearest.least other member
  · obtain ⟨earlier, later, split, nearer⟩ := nearest.first
    refine ⟨best :: earlier, later, congrArg (best :: ·) split, ?_⟩
    rintro other (_ | ⟨_, member⟩)
    · exact further
    · exact nearer other member

/-- A choice that is not nearer than the best one before it is passed over. -/
theorem keep (further : ¬distance choice value < distance best value)
    (nearest : Nearest (best :: rest) value chosen) :
    Nearest (best :: choice :: rest) value chosen := by
  have close := Nat.not_lt.mp further
  refine ⟨?_, ?_, ?_⟩
  · rcases List.mem_cons.mp nearest.offered with rfl | member
    · exact List.mem_cons_self
    · exact List.mem_cons_of_mem best (List.mem_cons_of_mem choice member)
  · rintro other (_ | ⟨_, _ | ⟨_, member⟩⟩)
    · exact nearest.least best List.mem_cons_self
    · exact Nat.le_trans (nearest.least best List.mem_cons_self) close
    · exact nearest.least other (List.mem_cons_of_mem best member)
  · obtain ⟨earlier, later, split, nearer⟩ := nearest.first
    cases earlier with
    | nil =>
      cases split
      exact ⟨[], choice :: rest, rfl, fun _ => nofun⟩
    | cons head earlier =>
      cases split
      have closer := nearer best List.mem_cons_self
      refine ⟨best :: choice :: earlier, later, rfl, ?_⟩
      rintro other (_ | ⟨_, _ | ⟨_, member⟩⟩)
      · exact closer
      · exact Nat.lt_of_lt_of_le closer close
      · exact nearer other (List.mem_cons_of_mem best member)

/-- A value that is on offer is nearest to itself. -/
theorem eq_of_mem (nearest : Nearest choices value chosen) (offered : value ∈ choices) :
    chosen = value := by
  have none := nearest.least value offered
  apply Int32.toInt_inj.mp
  omega

/-- Of two values the greater one does not have the smaller choice. -/
theorem le_of_lt {greater choice : Int32} (nearest : Nearest choices value chosen)
    (other : Nearest choices greater choice) (less : value < greater) : chosen ≤ choice := by
  have toChosen := nearest.least choice other.offered
  have toChoice := other.least chosen nearest.offered
  rw [Int32.lt_iff_toInt_lt] at less
  rw [Int32.le_iff_toInt_le]
  omega

end Nearest

theorem foldl_nearer_nearest (value : Int32) (rest : List Int32) (best : Int32) :
    Nearest (best :: rest) value (rest.foldl (nearer value) best) := by
  induction rest generalizing best with
  | nil => exact .singleton value best
  | cons choice rest ih =>
    rw [List.foldl_cons, nearer]
    split
    · next closer => exact (ih choice).replace closer
    · next further => exact (ih best).keep further

theorem nearest_spec {choices : List Int32} (nonempty : choices ≠ []) (value : Int32) :
    Nearest choices value (nearest choices value) := by
  cases choices with
  | nil => exact absurd rfl nonempty
  | cons first rest => exact foldl_nearer_nearest value rest first

theorem nearest_mono {choices : List Int32} (nonempty : choices ≠ []) {value other : Int32}
    (le : value ≤ other) : nearest choices value ≤ nearest choices other := by
  rcases Int32.lt_or_eq_of_le le with less | rfl
  · exact (nearest_spec nonempty value).le_of_lt (nearest_spec nonempty other) less
  · exact Int32.le_refl _

/-! ## Setting a value -/

/-- The values of a range snap to some choices. -/
structure Snaps (choices : List Int32) (range : Int32 → Prop)
    (snap : Int32 → Int32) : Prop where
  nearest : ∀ value, range value → Nearest choices value (snap value)
  offered : ∀ choice ∈ choices, range choice ∧ snap choice = choice
  idempotent : ∀ value, range value → snap (snap value) = snap value
  monotone : ∀ value other, range value → range other → value ≤ other →
    snap value ≤ snap other

theorem snaps_nearest {choices : List Int32} {range : Int32 → Prop} (nonempty : choices ≠ [])
    (within : ∀ choice ∈ choices, range choice) : Snaps choices range (nearest choices) := by
  have keeps : ∀ choice ∈ choices, nearest choices choice = choice :=
    fun choice offered => (nearest_spec nonempty choice).eq_of_mem offered
  exact {
    nearest := fun value _ => nearest_spec nonempty value
    offered := fun choice offered => ⟨within choice offered, keeps choice offered⟩
    idempotent := fun value _ => keeps _ (nearest_spec nonempty value).offered
    monotone := fun _ _ _ _ le => nearest_mono nonempty le }

/-- What a camera does with values for its settings. -/
structure SettingsSnap (lateness : Nat → Nat) (camera : Simulated) : Prop where
  aperture : ∃ snap, Snaps apertureChoices (fun _ => True) snap ∧ ∀ value,
    (driver lateness).perform (.setAperture value) camera =
      (.ok (), { camera with aperture := snap value })
  iso : ∃ snap, Snaps isoChoices (fun _ => True) snap ∧ ∀ value,
    (driver lateness).perform (.setIso value) camera = (.ok (), { camera with iso := snap value })
  shutterSpeed : ∃ snap,
    Snaps timedChoices (fun value => value ≠ -1 ∧ value ≤ 30000000) snap ∧
    ∀ value, value ≠ -1 → value ≤ 30000000 →
      (driver lateness).perform (.setShutterSpeed value) camera =
        (.ok (), { camera with shutterSpeed := snap value })
  /-- Bulb keeps its exposure. -/
  bulb : (driver lateness).perform (.setShutterSpeed (-1)) camera =
    (.ok (), { camera with shutterSpeed := -1 })
  /-- What is slower than all choices becomes the exposure of bulb. -/
  slower : ∀ value : Int32, 30000000 < value →
    ∃ duration : Nat, (duration : Int) = value.toInt ∧
    (driver lateness).perform (.setShutterSpeed value) camera =
      (.ok (), { camera with shutterSpeed := -1, bulbDuration := duration }) ∧
    ({ camera with shutterSpeed := -1, bulbDuration := duration } : Simulated).exposure = duration

theorem timed_within : ∀ choice ∈ timedChoices, choice ≠ -1 ∧ choice ≤ 30000000 := by
  intro choice offered
  have within : timedChoices.all fun choice => choice ≠ -1 ∧ choice ≤ 30000000 := by
    decide +kernel
  exact of_decide_eq_true (List.all_eq_true.mp within choice offered)

section Shutter

variable (camera : Simulated) {microseconds : Int32}

theorem chooseShutter_bulb : camera.chooseShutter (-1) = { camera with shutterSpeed := -1 } :=
  if_pos rfl

theorem chooseShutter_timed (timed : microseconds ≠ -1) (notSlower : microseconds ≤ 30000000) :
    camera.chooseShutter microseconds =
      { camera with shutterSpeed := nearest timedChoices microseconds } := by
  unfold chooseShutter bulb slowestShutter
  rw [if_neg timed, if_neg (Int32.not_lt.mpr notSlower)]

theorem chooseShutter_slower (slower : 30000000 < microseconds) :
    camera.chooseShutter microseconds =
      { camera with shutterSpeed := -1, bulbDuration := microseconds.toInt.natAbs } := by
  have timed : microseconds ≠ -1 := by
    rintro rfl
    exact absurd slower (by decide)
  unfold chooseShutter bulb slowestShutter
  rw [if_neg timed, if_pos slower]

end Shutter

theorem settings_snap (lateness : Nat → Nat) {camera : Simulated}
    (connected : camera.connected = true) : SettingsSnap lateness camera where
  aperture := ⟨nearest apertureChoices, snaps_nearest (by decide) (fun _ _ => trivial),
    fun value => driver_connected lateness (.setAperture value) connected⟩
  iso := ⟨nearest isoChoices, snaps_nearest (by decide) (fun _ _ => trivial),
    fun value => driver_connected lateness (.setIso value) connected⟩
  shutterSpeed := by
    refine ⟨nearest timedChoices, snaps_nearest (by decide) timed_within, ?_⟩
    intro value timed notSlower
    rw [driver_connected lateness _ connected, perform, chooseShutter_timed camera timed notSlower]
  bulb := by
    rw [driver_connected lateness _ connected, perform, chooseShutter_bulb]
  slower := by
    intro value slower
    refine ⟨value.toInt.natAbs, ?_, ?_, ?_⟩
    · rw [Int32.lt_iff_toInt_lt] at slower
      have positive : 0 ≤ value.toInt := Int.le_trans (by decide) (Int.le_of_lt slower)
      exact Int.natAbs_of_nonneg positive
    · rw [driver_connected lateness _ connected, perform, chooseShutter_slower camera slower]
    · exact if_pos rfl

/-- Between two apertures the wider one is listed first, between two speeds the slower one. -/
theorem settings_snap_ties :
    let camera := { new default 1000000 with connected := true }
    camera.connected = true ∧ SettingsSnap (fun _ => 0) camera ∧
      (camera.perform (fun _ => 0) (.setAperture 230)).2.aperture = 180 ∧
      (camera.perform (fun _ => 0) (.setShutterSpeed 375)).2.shutterSpeed = 500 := by
  refine ⟨rfl, settings_snap (fun _ => 0) rfl, ?_, ?_⟩
  · decide
  · decide +kernel

end Simulated

end Tether
