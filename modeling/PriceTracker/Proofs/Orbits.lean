import Mathlib.Data.List.Nodup
import Mathlib.Data.List.Perm.Subperm

/-!
# Going on step by step

A walk through a page and a way up from a node go on by steps, and are followed for a limited number
of them. `orbit next n a` are the first `n` places from `a` on. If going on comes to an end
(`Ends`), no place comes twice, so no more steps are needed than there are places
(`orbit_eq_of_subset`). Two ways of going on that agree along a map have the same orbits but for the
map (`orbit_map`).
-/

namespace PriceTracker

variable {α β : Type} {next : α → Option α} {a b x : α} {m n : Nat}

/-- The first places that going on from a place comes to, the place included. -/
def orbit (next : α → Option α) : Nat → α → List α
  | 0, _ => []
  | n + 1, a => a ::
    match next a with
    | none => []
    | some b => orbit next n b

/-- Going on from here comes to an end: some number of steps is not used up. -/
def Ends (next : α → Option α) (a : α) : Prop :=
  ∃ n, (orbit next n a).length < n

theorem orbit_of_none (h : next a = none) (n : Nat) : orbit next (n + 1) a = [a] := by
  rw [orbit, h]

theorem orbit_of_some (h : next a = some b) (n : Nat) :
    orbit next (n + 1) a = a :: orbit next n b := by
  rw [orbit, h]

/-! ## Numbers of steps -/

theorem take_orbit (h : m ≤ n) (a : α) : (orbit next n a).take m = orbit next m a := by
  induction m generalizing n a with
  | zero => rfl
  | succ m ih =>
    obtain ⟨n, rfl⟩ : ∃ k, n = k + 1 := ⟨n - 1, by omega⟩
    cases hnext : next a with
    | none => rw [orbit_of_none hnext, orbit_of_none hnext, List.take_succ_cons, List.take_nil]
    | some b =>
      rw [orbit_of_some hnext, orbit_of_some hnext, List.take_succ_cons, ih (by omega)]

/-- Steps that are not needed change nothing. -/
theorem orbit_of_length_lt (h : (orbit next n a).length < n) (hm : n ≤ m) :
    orbit next m a = orbit next n a := by
  induction n generalizing m a with
  | zero => exact absurd h (Nat.not_lt_zero _)
  | succ n ih =>
    obtain ⟨m, rfl⟩ : ∃ k, m = k + 1 := ⟨m - 1, by omega⟩
    cases hnext : next a with
    | none => rw [orbit_of_none hnext, orbit_of_none hnext]
    | some b =>
      rw [orbit_of_some hnext, List.length_cons] at h
      rw [orbit_of_some hnext, orbit_of_some hnext, ih (by omega) (by omega)]

/-- Behind a place of an orbit comes the orbit of that place. -/
theorem drop_orbit {i : Nat} (h : (orbit next n a)[i]? = some x) :
    (orbit next n a).drop i = orbit next (n - i) x := by
  induction i generalizing n a with
  | zero =>
    cases n with
    | zero => simp [orbit] at h
    | succ n =>
      obtain rfl : a = x := by simpa [orbit] using h
      rfl
  | succ i ih =>
    cases n with
    | zero => simp [orbit] at h
    | succ n =>
      cases hnext : next a with
      | none => simp [orbit_of_none hnext] at h
      | some b =>
        rw [orbit_of_some hnext, List.getElem?_cons_succ] at h
        rw [orbit_of_some hnext, List.drop_succ_cons, ih h, Nat.succ_sub_succ]

/-! ## Orbits that end -/

theorem Ends.of_none (h : next a = none) : Ends next a :=
  ⟨2, by rw [orbit_of_none h]; exact Nat.lt_succ_self 1⟩

theorem Ends.of_some (h : next a = some b) (ends : Ends next b) : Ends next a := by
  obtain ⟨n, hn⟩ := ends
  refine ⟨n + 1, ?_⟩
  rw [orbit_of_some h, List.length_cons]
  exact Nat.succ_lt_succ hn

/-- A place that came again would come again and again. -/
theorem nodup_orbit_of_length_lt (h : (orbit next n a).length < n) :
    (orbit next n a).Nodup := by
  rw [List.nodup_iff_getElem?_ne_getElem?]
  intro i j hij hj hsame
  obtain ⟨x, hx⟩ : ∃ x, (orbit next n a)[j]? = some x := ⟨_, List.getElem?_eq_getElem hj⟩
  have hdropj := congrArg List.length (drop_orbit hx)
  have hdropi := congrArg List.length (drop_orbit (hsame.trans hx))
  rw [List.length_drop] at hdropi hdropj
  have hrest : orbit next (n - i) x = orbit next (n - j) x :=
    orbit_of_length_lt (by omega) (by omega)
  rw [hrest, ← hdropj] at hdropi
  omega

theorem Ends.nodup_orbit (h : Ends next a) (n : Nat) : (orbit next n a).Nodup := by
  obtain ⟨k, hk⟩ := h
  obtain hle | hle := Nat.le_total k n
  · rw [orbit_of_length_lt hk hle]
    exact nodup_orbit_of_length_lt hk
  · rw [← take_orbit hle]
    exact (nodup_orbit_of_length_lt hk).sublist (List.take_sublist n _)

/-- **No more steps are needed than there are places.** -/
theorem Ends.orbit_eq_of_subset {places : List α} (h : Ends next a)
    (hsubset : orbit next n a ⊆ places) (hn : places.length < n) (hm : places.length < m) :
    orbit next m a = orbit next n a := by
  have hlength : (orbit next n a).length ≤ places.length :=
    ((h.nodup_orbit n).subperm hsubset).length_le
  have htake : (orbit next n a).take (places.length + 1) = orbit next (places.length + 1) a :=
    take_orbit (by omega) a
  have hshort : (orbit next (places.length + 1) a).length < places.length + 1 := by
    rw [← htake, List.length_take]
    omega
  rw [orbit_of_length_lt hshort hn, orbit_of_length_lt hshort hm]

/-- Ways of going on that agree along a map have the same orbits but for the map. -/
theorem orbit_map {next' : β → Option β} {f : α → β}
    (h : ∀ x ∈ orbit next n a, next' (f x) = (next x).map f) :
    orbit next' n (f a) = (orbit next n a).map f := by
  induction n generalizing a with
  | zero => rfl
  | succ n ih =>
    have hfirst := h a (by rw [orbit]; exact List.mem_cons_self)
    cases hnext : next a with
    | none =>
      rw [hnext] at hfirst
      rw [orbit_of_none hnext, orbit_of_none hfirst, List.map_singleton]
    | some b =>
      rw [hnext] at hfirst
      rw [orbit_of_some hnext] at h ⊢
      rw [orbit_of_some hfirst, List.map_cons, ih fun x hx => h x (List.mem_cons_of_mem _ hx)]

/-- What holds of a place and is kept by going on holds of all places of its orbit. -/
theorem forall_mem_orbit {P : α → Prop} (start : P a) (step : ∀ x y, P x → next x = some y → P y) :
    ∀ x ∈ orbit next n a, P x := by
  induction n generalizing a with
  | zero => exact List.forall_mem_nil _
  | succ n ih =>
    cases hnext : next a with
    | none =>
      rw [orbit_of_none hnext]
      exact List.forall_mem_singleton.2 start
    | some b =>
      rw [orbit_of_some hnext]
      exact List.forall_mem_cons.2 ⟨start, ih (step a b start hnext)⟩

end PriceTracker
