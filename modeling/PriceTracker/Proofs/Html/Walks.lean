import PriceTracker.Html.Selector
import PriceTracker.Proofs.Orbits

/-!
# Walks and ways up

What a selector asks of a node depends on the elements on its way up, and what is found in a node on
the walk through it. Both are orbits, which the model follows for a number of steps that depends on
the size of the document. In a document whose links make a finite web (`Document.IsFinite`) this
number does not matter. Every tree is such a document.

* `walkUpTo_eq`, `ancestors_eq`: walks and ways up as orbits;
* `above_of_parent`: a way up goes to the parent and on from there.
-/

namespace PriceTracker.Html.Document

namespace Stop

/-- The node that the walk is at. -/
def node : Stop → NodeId
  | enter id => id
  | leave id => id

/-- The node that the walk comes to, if it comes to one. -/
def entered? : Stop → Option NodeId
  | enter id => some id
  | leave _ => none

/-- The same stop at another node. -/
def map (f : NodeId → NodeId) : Stop → Stop
  | enter id => enter (f id)
  | leave id => leave (f id)

@[simp] theorem entered?_map (f : NodeId → NodeId) (stop : Stop) :
    (stop.map f).entered? = stop.entered?.map f := by
  cases stop <;> rfl

end Stop

variable {d : Document} {n p start : NodeId}

/-- The node above a node. -/
def parent? (d : Document) (n : NodeId) : Option NodeId :=
  (d.node n).parent

/-- The nodes on the way up from a node, the nearest first. -/
def above (d : Document) (n : NodeId) : List NodeId :=
  (orbit d.parent? (d.nodes.size + 1) n).tail

/-- The links lead to nodes of the document, and neither a way up nor a walk goes on forever. -/
structure IsFinite (d : Document) : Prop where
  parent : ∀ n p, (d.node n).parent = some p → p < d.nodes.size
  next : ∀ n m, (d.node n).next = some m → m < d.nodes.size
  child : ∀ n first last, (d.node n).children = some (first, last) → first < d.nodes.size
  up : ∀ n, Ends d.parent? n
  through : ∀ n, Ends (d.nextStop? n) (.enter n)

/-! ## Walks as orbits -/

theorem walkUpTo_eq (d : Document) (start : NodeId) (fuel : Nat) (stop : Stop) :
    d.walkUpTo start fuel stop = (orbit (d.nextStop? start) fuel stop).filterMap Stop.entered? := by
  induction fuel generalizing stop with
  | zero => rfl
  | succ fuel ih =>
    cases hnext : d.nextStop? start stop with
    | none =>
      rw [orbit_of_none hnext]
      cases stop <;> rw [walkUpTo, hnext] <;> rfl
    | some stop' =>
      rw [orbit_of_some hnext]
      cases stop <;> rw [walkUpTo, hnext] <;> dsimp only <;> rw [ih] <;> rfl

/-- The nodes that a walk comes to are followed by more only if it goes on. -/
theorem walkUpTo_subset_of_next {stop stop' : Stop} (h : d.nextStop? start stop = some stop')
    (fuel : Nat) : d.walkUpTo start fuel stop' ⊆ d.walkUpTo start (fuel + 1) stop := by
  rw [walkUpTo_eq, walkUpTo_eq, orbit_of_some h]
  cases stop with
  | enter id => exact List.subset_cons_self id _
  | leave id => exact List.Subset.refl _

/-- **A walk goes where it comes to, and to parents from there.** What holds of the nodes that a
walk comes to, and of the parent of a node that it holds of, holds wherever the walk is. -/
theorem forall_mem_walk {P : NodeId → Prop} {fuel : Nat} {stop : Stop} (hstop : P stop.node)
    (entered : ∀ n ∈ d.walkUpTo start fuel stop, P n)
    (parent : ∀ n p, P n → (d.node n).parent = some p → P p) :
    ∀ x ∈ orbit (d.nextStop? start) fuel stop, P x.node := by
  induction fuel generalizing stop with
  | zero => exact List.forall_mem_nil _
  | succ fuel ih =>
    cases hnext : d.nextStop? start stop with
    | none =>
      rw [orbit_of_none hnext]
      exact List.forall_mem_singleton.2 hstop
    | some stop' =>
      have hentered : ∀ n ∈ d.walkUpTo start fuel stop', P n := fun n hn =>
        entered n (walkUpTo_subset_of_next hnext fuel hn)
      rw [orbit_of_some hnext]
      refine List.forall_mem_cons.2 ⟨hstop, ?_⟩
      cases fuel with
      | zero => exact List.forall_mem_nil _
      | succ fuel =>
        refine ih ?_ hentered
        cases stop' with
        | enter id => exact hentered id List.mem_cons_self
        | leave id =>
          cases stop with
          | enter id' =>
            rw [nextStop?] at hnext
            split at hnext
            · simp at hnext
            · obtain rfl : id' = id := by simpa using hnext
              exact hstop
          | leave id' =>
            rw [nextStop?] at hnext
            split at hnext
            · simp at hnext
            · split at hnext
              · simp at hnext
              · obtain ⟨p, hp, hleave⟩ := Option.map_eq_some_iff.1 hnext
                obtain rfl : p = id := by simpa using hleave
                exact parent id' p hstop hp

/-! ## Ways up as orbits -/

theorem ancestorsUpTo_eq (d : Document) (fuel : Nat) (n : NodeId) :
    d.ancestorsUpTo fuel n =
      (((orbit d.parent? (fuel + 1) n).tail.map d.element?).takeWhile Option.isSome).filterMap id := by
  induction fuel generalizing n with
  | zero =>
    cases hparent : d.parent? n with
    | none => rw [orbit_of_none hparent]; rfl
    | some p => rw [orbit_of_some hparent]; rfl
  | succ fuel ih =>
    rw [ancestorsUpTo]
    cases hparent : d.parent? n with
    | none =>
      have hnode : (d.node n).parent = none := hparent
      rw [orbit_of_none hparent, hnode]
      rfl
    | some p =>
      have hnode : (d.node n).parent = some p := hparent
      rw [orbit_of_some hparent, hnode]
      dsimp only
      rw [List.tail_cons, orbit, List.map_cons]
      cases helement : d.element? p with
      | none => rfl
      | some e =>
        rw [List.takeWhile_cons_of_pos rfl]
        exact congrArg (e :: ·) (ih p)

theorem ancestors_eq (d : Document) (n : NodeId) :
    d.ancestors n = (((d.above n).map d.element?).takeWhile Option.isSome).filterMap id :=
  d.ancestorsUpTo_eq _ n

theorem node_of_le (h : d.nodes.size ≤ n) : d.node n = { content := .remark } := by
  rw [node, Array.getD_eq_getD_getElem?, Array.getElem?_eq_none h]
  rfl

theorem lt_of_parent (h : (d.node n).parent = some p) : n < d.nodes.size := by
  by_contra hle
  simp [node_of_le (Nat.le_of_not_lt hle)] at h

theorem above_of_none (h : (d.node n).parent = none) : d.above n = [] := by
  rw [above, orbit_of_none h, List.tail_cons]

namespace IsFinite

theorem orbit_subset (h : d.IsFinite) (hn : n < d.nodes.size) (fuel : Nat) :
    orbit d.parent? fuel n ⊆ List.range d.nodes.size := fun x hx =>
  List.mem_range.2 (forall_mem_orbit (P := (· < d.nodes.size)) hn (fun y z _ hz => h.parent y z hz)
    x hx)

theorem above_of_parent (h : d.IsFinite) (hp : (d.node n).parent = some p) :
    d.above n = p :: d.above p := by
  have hnext : d.parent? n = some p := hp
  have hn : n < d.nodes.size := lt_of_parent hp
  have hnodup := (h.up n).nodup_orbit (d.nodes.size + 1)
  rw [orbit_of_some hnext] at hnodup
  have hsubset : n :: orbit d.parent? d.nodes.size p ⊆ List.range d.nodes.size := by
    rw [← orbit_of_some hnext]
    exact h.orbit_subset hn _
  have hlength := (hnodup.subperm hsubset).length_le
  rw [List.length_cons, List.length_range] at hlength
  have hmore : orbit d.parent? (d.nodes.size + 1) p = orbit d.parent? d.nodes.size p :=
    orbit_of_length_lt (by omega) (Nat.le_succ _)
  rw [above, orbit_of_some hnext, List.tail_cons, above, ← hmore, orbit,
    List.tail_cons]

/-- No node is above itself. -/
theorem not_mem_above (h : d.IsFinite) (n : NodeId) : n ∉ d.above n := by
  have hnodup := (h.up n).nodup_orbit (d.nodes.size + 1)
  rw [orbit] at hnodup
  exact (List.nodup_cons.1 hnodup).1

theorem mem_above_iff (h : d.IsFinite) {top : NodeId} (hp : (d.node n).parent = some p) :
    top ∈ d.above n ↔ top = p ∨ top ∈ d.above p := by
  rw [h.above_of_parent hp, List.mem_cons]

/-- A walk comes to nodes of the document only. -/
theorem lt_of_mem_inside (h : d.IsFinite) (hstart : start < d.nodes.size)
    (hn : n ∈ start :: d.inside start) : n < d.nodes.size := by
  have hwalk : start :: d.inside start =
      d.walkUpTo start (2 * d.nodes.size + 1) (.enter start) := rfl
  rw [hwalk, walkUpTo_eq, List.mem_filterMap] at hn
  obtain ⟨x, hx, hxn⟩ := hn
  have hlt : x.node < d.nodes.size := by
    refine forall_mem_orbit (P := fun stop : Stop => stop.node < d.nodes.size)
      (show (Stop.enter start).node < _ from hstart) (fun y z hy hz => ?_) x hx
    cases y with
    | enter id =>
      rw [nextStop?] at hz
      split at hz
      · next first last hchildren =>
        obtain rfl := Option.some.inj hz
        exact h.child id first last hchildren
      · obtain rfl := Option.some.inj hz
        exact hy
    | leave id =>
      rw [nextStop?] at hz
      split at hz
      · simp at hz
      · split at hz
        · next next hnext =>
          obtain rfl := Option.some.inj hz
          exact h.next id next hnext
        · obtain ⟨p, hp, rfl⟩ := Option.map_eq_some_iff.1 hz
          exact h.parent id p hp
  cases x with
  | enter id =>
    obtain rfl : id = n := Option.some.inj hxn
    exact hlt
  | leave id => simp [Stop.entered?] at hxn

end IsFinite

end PriceTracker.Html.Document
