import HexGesture.Lattice.Coord

/-! Distance as the length of a shortest route. One step changes the distance to a point by one at
most, so no route is shorter than the distance it covers. From anywhere else some step comes nearer
to the point, and taking such steps one after another gives a route of just that length. -/
namespace HexGesture.Coord

/-- Where a route ends: its steps are taken one after another. -/
def follow (a : Coord) (route : List Direction) : Coord := route.foldl step a

@[simp] theorem follow_nil (a : Coord) : a.follow [] = a := rfl

@[simp] theorem follow_cons (a : Coord) (d : Direction) (route : List Direction) :
    a.follow (d :: route) = (a.step d).follow route := rfl

theorem follow_append (a : Coord) (route route' : List Direction) :
    a.follow (route ++ route') = (a.follow route).follow route' := List.foldl_append

theorem distance_le_iff {a b : Coord} {n : Nat} :
    a.distance b ≤ n ↔ (-n ≤ a.q - b.q ∧ a.q - b.q ≤ n) ∧ (-n ≤ a.r - b.r ∧ a.r - b.r ≤ n) ∧
      (-n ≤ a.q - b.q + (a.r - b.r) ∧ a.q - b.q + (a.r - b.r) ≤ n) := by
  simp only [distance, Nat.max_le]
  omega

@[simp] theorem distance_self (a : Coord) : a.distance a = 0 := by simp [distance]

theorem eq_of_distance_eq_zero {a b : Coord} (h : a.distance b = 0) : a = b := by
  have hle := distance_le_iff.mp (Nat.le_of_eq h)
  apply ext <;> omega

theorem distance_le_comm (a b : Coord) : a.distance b ≤ b.distance a := by
  have hle := distance_le_iff.mp (Nat.le_refl (b.distance a))
  rw [distance_le_iff]
  omega

theorem distance_comm (a b : Coord) : a.distance b = b.distance a :=
  Nat.le_antisymm (distance_le_comm a b) (distance_le_comm b a)

theorem distance_le_step (a b : Coord) (d : Direction) :
    a.distance b ≤ (a.step d).distance b + 1 := by
  have hle := distance_le_iff.mp (Nat.le_refl ((a.step d).distance b))
  rw [distance_le_iff]
  cases d <;> simp only [step, Direction.offset, add_q, add_r] at hle ⊢ <;> omega

/-- The first step of a shortest route. If the two differences have one sign, only a step along one
axis comes nearer; if they differ in sign, a step along both does. -/
def toward (a b : Coord) : Direction :=
  if a.q < b.q then if b.r < a.r then .northEast else .east
  else if b.q < a.q then if a.r < b.r then .southWest else .west
  else if a.r < b.r then .southEast else .northWest

theorem distance_toward_lt {a b : Coord} (h : a ≠ b) :
    (a.step (a.toward b)).distance b < a.distance b := by
  have hne : ¬ (a.q = b.q ∧ a.r = b.r) := fun hsame => h (ext hsame.1 hsame.2)
  have hle := distance_le_iff.mp (Nat.le_refl (a.distance b))
  rw [Nat.lt_iff_le_pred (Nat.pos_of_ne_zero fun h0 => h (eq_of_distance_eq_zero h0)),
    distance_le_iff]
  unfold toward
  repeat' split
  all_goals simp only [step, Direction.offset, add_q, add_r]; omega

theorem distance_toward {a b : Coord} (h : a ≠ b) :
    (a.step (a.toward b)).distance b + 1 = a.distance b :=
  Nat.le_antisymm (distance_toward_lt h) (distance_le_step a b _)

/-- No route is shorter than the distance between its ends. -/
theorem distance_follow_le (a : Coord) (route : List Direction) :
    a.distance (a.follow route) ≤ route.length := by
  induction route generalizing a with
  | nil => simp
  | cons d route ih =>
    have hstep := a.distance_le_step ((a.step d).follow route) d
    have hrest := ih (a.step d)
    rw [follow_cons, List.length_cons]
    omega

theorem exists_follow_eq (a b : Coord) :
    ∃ route, a.follow route = b ∧ route.length = a.distance b := by
  -- on the distance that is left to go
  induction hn : a.distance b generalizing a with
  | zero => exact ⟨[], eq_of_distance_eq_zero hn, rfl⟩
  | succ n ih =>
    have hne : a ≠ b := by
      rintro rfl
      rw [distance_self] at hn
      cases hn
    have hnearer := distance_toward hne
    obtain ⟨route, hend, hlength⟩ := ih (a.step (a.toward b)) (by omega)
    exact ⟨a.toward b :: route, hend, by rw [List.length_cons, hlength]⟩

theorem distance_triangle (a b c : Coord) : a.distance c ≤ a.distance b + b.distance c := by
  obtain ⟨route, rfl, hroute⟩ := exists_follow_eq a b
  obtain ⟨route', rfl, hroute'⟩ := exists_follow_eq (a.follow route) c
  rw [← hroute, ← hroute', ← follow_append, ← List.length_append]
  exact distance_follow_le a (route ++ route')

/-- The distance of two points is the number of steps from one to the other: some route takes just
so many steps, and no route takes fewer. So only a point itself is at distance zero, the way back is
as long as the way there, and no detour is shorter than the straight way. -/
theorem distance_geodesic (a b : Coord) :
    (∃ route, a.follow route = b ∧ route.length = a.distance b) ∧
    (∀ route, a.follow route = b → a.distance b ≤ route.length) ∧
    (a.distance b = 0 ↔ a = b) ∧
    a.distance b = b.distance a ∧
    ∀ c, a.distance c ≤ a.distance b + b.distance c := by
  refine ⟨exists_follow_eq a b, ?_, ?_, distance_comm a b, distance_triangle a b⟩
  · rintro route rfl
    exact distance_follow_le a route
  · constructor
    · exact eq_of_distance_eq_zero
    · rintro rfl
      exact distance_self a

end HexGesture.Coord
