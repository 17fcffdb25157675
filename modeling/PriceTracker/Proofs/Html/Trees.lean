import Mathlib.Data.Finset.Lattice.Fold
import PriceTracker.Proofs.Html.Cutting

/-!
# Documents that are trees

In most documents the links agree with each other: the children of a node know their parent, and
neighbours have the same. Such a document is a tree (`Document.IsTree`). All ways up and all walks
through it end (`IsTree.isFinite`), and a walk through a node comes to nodes below it only
(`IsTree.mem_above_of_mem_inside`). So reading a node keeps clear of another one if neither is below
the other (`IsTree.keepsClear`).
-/

namespace PriceTracker.Html.Document

variable {d : Document} {a b c m n p start : NodeId}

/-- The links agree with each other, and lead neither around among a node and those above it nor
around among neighbours. -/
structure IsTree (d : Document) : Prop where
  parent : ∀ n p, (d.node n).parent = some p → p < d.nodes.size
  child : ∀ n first last, (d.node n).children = some (first, last) → (d.node first).parent = some n
  neighbour : ∀ n m, (d.node n).next = some m →
    (d.node n).parent ≠ none ∧ (d.node m).parent = (d.node n).parent
  deeper : ∃ depth : NodeId → Nat, ∀ n p, (d.node n).parent = some p → depth p < depth n
  later : ∃ place : NodeId → Nat, ∀ n m, (d.node n).next = some m → place n < place m

/-- If nodes are numbered parents first and neighbours in order, only the links of nodes that are
there have to be looked at. -/
theorem isTree_of_numbered
    (parent : ∀ n < d.nodes.size, ∀ p ∈ (d.node n).parent, p < n)
    (child : ∀ n < d.nodes.size, ∀ ends ∈ (d.node n).children, (d.node ends.1).parent = some n)
    (neighbour : ∀ n < d.nodes.size, ∀ m ∈ (d.node n).next,
      n < m ∧ (d.node n).parent ≠ none ∧ (d.node m).parent = (d.node n).parent) : d.IsTree := by
  have hlt : ∀ n, d.node n ≠ { content := .remark } → n < d.nodes.size := fun n hn => by
    by_contra hle
    exact hn (node_of_le (Nat.le_of_not_lt hle))
  have hparent : ∀ n p, (d.node n).parent = some p → p < n := fun n p hp =>
    parent n (hlt n fun hn => by simp [hn] at hp) p hp
  have hneighbour : ∀ n m, (d.node n).next = some m →
      n < m ∧ (d.node n).parent ≠ none ∧ (d.node m).parent = (d.node n).parent := fun n m hm =>
    neighbour n (hlt n fun hn => by simp [hn] at hm) m hm
  refine ⟨fun n p hp => (hparent n p hp).trans (lt_of_parent hp), fun n first last h => ?_,
    fun n m hm => (hneighbour n m hm).2, ⟨id, hparent⟩, ⟨id, fun n m hm => (hneighbour n m hm).1⟩⟩
  exact child n (hlt n fun hn => by simp [hn] at h) (first, last) h

namespace IsTree

/-- Neighbours have the same parent. -/
theorem exists_parent (h : d.IsTree) (hm : (d.node n).next = some m) :
    ∃ p, (d.node n).parent = some p ∧ (d.node m).parent = some p := by
  obtain ⟨hsome, hsame⟩ := h.neighbour n m hm
  obtain ⟨p, hp⟩ := Option.ne_none_iff_exists'.1 hsome
  exact ⟨p, hp, hsame.trans hp⟩

theorem ends_up (h : d.IsTree) (n : NodeId) : Ends d.parent? n := by
  obtain ⟨depth, hdepth⟩ := h.deeper
  induction hn : depth n using Nat.strong_induction_on generalizing n with
  | _ k ih =>
    cases hparent : d.parent? n with
    | none => exact .of_none hparent
    | some p => exact .of_some hparent (ih (depth p) (hn ▸ hdepth n p hparent) p rfl)

/-- Numbers of the nodes of a document have a bound. -/
theorem exists_bound (d : Document) (f : NodeId → Nat) : ∃ k, ∀ n < d.nodes.size, f n ≤ k :=
  ⟨(Finset.range d.nodes.size).sup f, fun _ hn => Finset.le_sup (Finset.mem_range.2 hn)⟩

/-- A walk that ends once it has been through a node also ends from the moment when it comes to the
node. The induction is on the depth, from the bottom up, and for the children of a node on their
place, from the last to the first. -/
theorem ends_enter (h : d.IsTree) {depth : NodeId → Nat}
    (hdepth : ∀ n p, (d.node n).parent = some p → depth p < depth n)
    (below : depth start ≤ depth n) (ends : Ends (d.nextStop? start) (.leave n)) :
    Ends (d.nextStop? start) (.enter n) := by
  obtain ⟨bottom, hbottom⟩ := exists_bound d depth
  obtain ⟨place, hplace⟩ := h.later
  obtain ⟨final, hfinal⟩ := exists_bound d place
  induction hk : bottom - depth n using Nat.strong_induction_on generalizing n with
  | _ k ih =>
    cases hchildren : (d.node n).children with
    | none => exact .of_some (by rw [nextStop?, hchildren]) ends
    | some children =>
      obtain ⟨first, last⟩ := children
      have hchild : ∀ c, (d.node c).parent = some n → Ends (d.nextStop? start) (.enter c) := by
        intro c hc
        induction hj : final - place c using Nat.strong_induction_on generalizing c with
        | _ j ihplace =>
          have hless := hdepth c n hc
          have hc' := hbottom c (lt_of_parent hc)
          have hne : c ≠ start := by
            rintro rfl
            omega
          refine ih (bottom - depth c) (by omega) (by omega) ?_ rfl
          cases hnext : (d.node c).next with
          | none =>
            refine .of_some (b := Stop.leave n) ?_ ends
            rw [nextStop?, if_neg hne, hnext, hc]
            rfl
          | some c' =>
            obtain ⟨p, hp, hp'⟩ := h.exists_parent hnext
            obtain rfl : n = p := Option.some.inj (hc.symm.trans hp)
            have hlater := hplace c c' hnext
            have hlast := hfinal c' (lt_of_parent hp')
            refine .of_some (b := Stop.enter c') ?_ (ihplace _ (by omega) c' hp' rfl)
            rw [nextStop?, if_neg hne, hnext]
      refine .of_some (b := Stop.enter first) ?_ (hchild first (h.child n first last hchildren))
      rw [nextStop?, hchildren]

/-- **All ways up a tree and all walks through it end.** -/
theorem isFinite (h : d.IsTree) : d.IsFinite where
  parent := h.parent
  next n m hm := by
    obtain ⟨p, -, hp⟩ := h.exists_parent hm
    exact lt_of_parent hp
  child n first last hchildren := lt_of_parent (h.child n first last hchildren)
  up := h.ends_up
  through n := by
    obtain ⟨depth, hdepth⟩ := h.deeper
    refine h.ends_enter hdepth (Nat.le_refl _) (.of_none ?_)
    rw [nextStop?, if_pos rfl]

/-! ## Above and below -/

theorem mem_above_trans (h : d.IsTree) (hcm : c ∈ d.above m) (hmn : m ∈ d.above n) :
    c ∈ d.above n := by
  obtain ⟨depth, hdepth⟩ := h.deeper
  induction hn : depth n using Nat.strong_induction_on generalizing n with
  | _ k ih =>
    cases hparent : (d.node n).parent with
    | none => simp [above_of_none hparent] at hmn
    | some p =>
      rw [h.isFinite.mem_above_iff hparent] at hmn ⊢
      obtain rfl | hmp := hmn
      · exact Or.inr hcm
      · exact Or.inr (ih (depth p) (hn ▸ hdepth n p hparent) hmp rfl)

/-- Of two nodes above a third, one is above the other. -/
theorem above_of_above (h : d.IsTree) (ha : a ∈ d.above n) (hb : b ∈ d.above n) :
    a = b ∨ a ∈ d.above b ∨ b ∈ d.above a := by
  obtain ⟨depth, hdepth⟩ := h.deeper
  induction hn : depth n using Nat.strong_induction_on generalizing n with
  | _ k ih =>
    cases hparent : (d.node n).parent with
    | none => simp [above_of_none hparent] at ha
    | some p =>
      rw [h.isFinite.mem_above_iff hparent] at ha hb
      obtain rfl | ha := ha
      · exact hb.elim (fun hb => Or.inl hb.symm) fun hb => Or.inr (Or.inr hb)
      · obtain rfl | hb := hb
        · exact Or.inr (Or.inl ha)
        · exact ih (depth p) (hn ▸ hdepth n p hparent) ha hb rfl

/-- A walk through a node is at the node or below it. -/
theorem mem_above_of_mem_walk (h : d.IsTree) (c : NodeId) (fuel : Nat) :
    ∀ x ∈ orbit (d.nextStop? c) fuel (.enter c), x.node = c ∨ c ∈ d.above x.node := by
  refine forall_mem_orbit (P := fun stop : Stop => stop.node = c ∨ c ∈ d.above stop.node)
    (Or.inl rfl) fun x y hx hy => ?_
  cases x with
  | enter id =>
    rw [nextStop?] at hy
    split at hy
    · next first last hchildren =>
      obtain rfl := Option.some.inj hy
      have hparent := h.child id first last hchildren
      refine Or.inr ((h.isFinite.mem_above_iff hparent).2 ?_)
      exact hx.imp_left fun hid => hid.symm
    · obtain rfl := Option.some.inj hy
      exact hx
  | leave id =>
    rw [nextStop?] at hy
    split at hy
    · simp at hy
    · next hne =>
      have habove : c ∈ d.above id := hx.resolve_left hne
      split at hy
      · next next hnext =>
        obtain rfl := Option.some.inj hy
        obtain ⟨p, hp, hp'⟩ := h.exists_parent hnext
        rw [h.isFinite.mem_above_iff hp] at habove
        exact Or.inr ((h.isFinite.mem_above_iff hp').2 habove)
      · obtain ⟨p, hp, rfl⟩ := Option.map_eq_some_iff.1 hy
        rw [h.isFinite.mem_above_iff hp] at habove
        exact habove.imp_left fun hcp => hcp.symm

/-- **A walk through a node comes to nodes below it only.** -/
theorem mem_above_of_mem_inside (h : d.IsTree) (hn : n ∈ d.inside c) : c ∈ d.above n := by
  have hwalk : (c :: d.inside c) =
      (orbit (d.nextStop? c) (2 * d.nodes.size + 1) (.enter c)).filterMap Stop.entered? :=
    walkUpTo_eq d c (2 * d.nodes.size + 1) (.enter c)
  have hnodup : (c :: d.inside c).Nodup := by
    rw [hwalk]
    refine List.Nodup.filterMap (fun x y id hx hy => ?_) ((h.isFinite.through c).nodup_orbit _)
    cases x <;> cases y <;> simp_all [Stop.entered?]
  have hmem := List.mem_cons_of_mem c hn
  rw [hwalk, List.mem_filterMap] at hmem
  obtain ⟨x, hx, hxn⟩ := hmem
  obtain rfl : x.node = n := by
    cases x with
    | enter id => exact Option.some.inj hxn
    | leave id => simp [Stop.entered?] at hxn
  refine (h.mem_above_of_mem_walk c _ x hx).resolve_left fun heq => ?_
  exact (List.nodup_cons.1 hnodup).1 (heq ▸ hn)

/-- **Reading a node keeps clear of another one if neither is below the other.** -/
theorem keepsClear (h : d.IsTree) (ne : c ≠ b) (hbc : b ∉ d.above c) (hcb : c ∉ d.above b) :
    d.KeepsClear b c where
  ne := ne
  above := hbc
  region n hn := by
    obtain ⟨m, hm, hnm⟩ := List.mem_flatMap.1 hn
    have hmn := h.mem_above_of_mem_inside hnm
    have hcn : c ∈ d.above n := by
      obtain rfl | hinside := List.mem_cons.1 hm
      · exact hmn
      · exact h.mem_above_trans (h.mem_above_of_mem_inside hinside) hmn
    refine ⟨?_, fun hbn => ?_⟩
    · rintro rfl
      exact hcb hcn
    · obtain heq | habove | habove := h.above_of_above hcn hbn
      · exact ne heq
      · exact hcb habove
      · exact hbc habove

end IsTree

end PriceTracker.Html.Document
