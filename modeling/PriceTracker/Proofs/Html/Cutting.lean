import Mathlib.Data.List.Find
import PriceTracker.Proofs.Html.Walks

/-!
# Cutting out a node

`Document.without b` is a document without what `b` is and without the nodes below it: the others
keep their order and are numbered anew. Two documents that are the same in this way differ only
within a node (`Document.DifferWithin`).

What is read of a node outside does not depend on what was cut out:

* `names_without`: a selector looks at the node and the elements on its way up;
* `select_around`: a selector that names nothing below `b` names the same nodes before and after it;
* `inside_without`: a walk that keeps clear of `b` comes to the same nodes.
-/

namespace PriceTracker.Html

/-- The node with links to nodes under other numbers. -/
def Node.renumber (f : NodeId → NodeId) (n : Node) : Node where
  content := n.content
  parent := n.parent.map f
  previous := n.previous.map f
  next := n.next.map f
  children := n.children.map fun (first, last) => (f first, f last)

/-- Whether a node is an element that hangs below something and is named. -/
def Selector.picks (s : Selector) (d : Document) (n : NodeId) : Bool :=
  (d.element? n).isSome && (d.node n).parent.isSome && s.names d n

theorem Document.select_eq (d : Document) (s : Selector) :
    d.select s = (List.range d.nodes.size).filter (s.picks d) := by
  rw [select, elements, List.filter_filter]
  exact List.filter_congr fun n _ => Bool.and_comm _ _

namespace Document

/-- The nodes that are not below `b`, in the order of making. -/
def outside (d : Document) (b : NodeId) : List NodeId :=
  (List.range d.nodes.size).filter fun n => b ∉ d.above n

/-- The number that a node has when the nodes below `b` are gone. A link that led below `b` then
leads nowhere. -/
def newNumber (d : Document) (b n : NodeId) : NodeId :=
  (d.outside b).idxOf n

/-- The document without the nodes below `b`, and with a remark in the place of `b`. -/
def without (d : Document) (b : NodeId) : Document where
  nodes := ((d.outside b).map fun n =>
    let node := (d.node n).renumber (d.newNumber b)
    if n = b then { node with content := .remark, children := none } else node).toArray

/-- But for what `b` and `b'` are and for the nodes below them, two documents are the same, and `b`
is in the place of `b'`. -/
structure DifferWithin (d : Document) (b : NodeId) (d' : Document) (b' : NodeId) : Prop where
  rest : d.without b = d'.without b'
  place : d.newNumber b b = d'.newNumber b' b'

variable {d d' : Document} {b b' c n m p : NodeId}

/-! ## Nodes outside -/

theorem mem_outside : n ∈ d.outside b ↔ n < d.nodes.size ∧ b ∉ d.above n := by
  simp [outside]

theorem length_outside_le (d : Document) (b : NodeId) : (d.outside b).length ≤ d.nodes.size := by
  have hle := List.length_filter_le (fun n => decide (b ∉ d.above n)) (List.range d.nodes.size)
  rwa [List.length_range] at hle

theorem nodup_outside (d : Document) (b : NodeId) : (d.outside b).Nodup :=
  List.nodup_range.filter _

theorem map_newNumber (d : Document) (b : NodeId) :
    (d.outside b).map (d.newNumber b) = List.range (d.outside b).length := by
  apply List.ext_getElem
  · rw [List.length_map, List.length_range]
  · intro i hi _
    rw [List.getElem_map, List.getElem_range]
    exact (d.nodup_outside b).idxOf_getElem i _

theorem newNumber_lt (h : n ∈ d.outside b) : d.newNumber b n < (d.outside b).length :=
  List.idxOf_lt_length_of_mem h

theorem newNumber_inj (hn : n ∈ d.outside b) :
    d.newNumber b n = d.newNumber b m ↔ n = m :=
  List.idxOf_inj hn

/-- The nodes that are left keep their order. -/
theorem newNumber_lt_newNumber (hn : n ∈ d.outside b) (hm : m ∈ d.outside b) :
    d.newNumber b n < d.newNumber b m ↔ n < m := by
  have hlt : ∀ {x y}, x ∈ d.outside b → y ∈ d.outside b →
      d.newNumber b x < d.newNumber b y → x < y := fun {x y} hx hy hxy => by
    have hsorted : (d.outside b).Pairwise (· < ·) := List.pairwise_lt_range.filter _
    have hxlt := newNumber_lt hx
    have hylt := newNumber_lt hy
    have hxget : (d.outside b)[d.newNumber b x] = x := List.getElem_idxOf _
    have hyget : (d.outside b)[d.newNumber b y] = y := List.getElem_idxOf _
    have hget := List.pairwise_iff_getElem.1 hsorted _ _ hxlt hylt hxy
    rwa [hxget, hyget] at hget
  refine ⟨hlt hn hm, fun h => ?_⟩
  obtain hlt' | heq | hgt := Nat.lt_trichotomy (d.newNumber b n) (d.newNumber b m)
  · exact hlt'
  · exact absurd ((newNumber_inj hn).1 heq) h.ne
  · exact absurd (hlt hm hn hgt) h.asymm

theorem size_without (d : Document) (b : NodeId) :
    (d.without b).nodes.size = (d.outside b).length := by
  rw [without, List.size_toArray, List.length_map]

theorem getD_without (hn : n ∈ d.outside b) :
    (d.without b).node (d.newNumber b n) =
      let node := (d.node n).renumber (d.newNumber b)
      if n = b then { node with content := .remark, children := none } else node := by
  have hlt := newNumber_lt hn
  have hget : (d.outside b)[d.newNumber b n] = n := List.getElem_idxOf _
  rw [node, Array.getD_eq_getD_getElem?, without, List.getElem?_toArray, List.getElem?_map,
    List.getElem?_eq_getElem hlt, hget]
  rfl

theorem node_without (hn : n ∈ d.outside b) (ne : n ≠ b) :
    (d.without b).node (d.newNumber b n) = (d.node n).renumber (d.newNumber b) := by
  rw [getD_without hn]
  exact if_neg ne

theorem parent_without (hn : n ∈ d.outside b) :
    ((d.without b).node (d.newNumber b n)).parent = (d.node n).parent.map (d.newNumber b) := by
  rw [getD_without hn]
  dsimp only
  split <;> rfl

theorem element?_without (hn : n ∈ d.outside b) (ne : n ≠ b) :
    (d.without b).element? (d.newNumber b n) = d.element? n := by
  rw [element?, element?, node_without hn ne]
  rfl

theorem element?_without_self (hb : b ∈ d.outside b) :
    (d.without b).element? (d.newNumber b b) = none := by
  rw [element?, getD_without hb, if_pos rfl]

theorem text?_without (hn : n ∈ d.outside b) (ne : n ≠ b) :
    (d.without b).text? (d.newNumber b n) = d.text? n := by
  rw [text?, text?, node_without hn ne]
  rfl

/-- What is above a node outside is outside, too, and above `b` if it is not `b` itself. -/
theorem IsFinite.outside_of_parent (h : d.IsFinite) (hn : n ∈ d.outside b)
    (hp : (d.node n).parent = some p) : p ∈ d.outside b ∧ p ≠ b := by
  have habove : b ∉ d.above n := (mem_outside.1 hn).2
  rw [h.mem_above_iff hp, not_or] at habove
  exact ⟨mem_outside.2 ⟨h.parent n p hp, habove.2⟩, Ne.symm habove.1⟩

theorem IsFinite.self_mem_outside (h : d.IsFinite) (hb : b < d.nodes.size) : b ∈ d.outside b :=
  mem_outside.2 ⟨hb, h.not_mem_above b⟩

/-! ## Ways up -/

theorem above_without (h : d.IsFinite) (hn : n ∈ d.outside b) :
    (d.without b).above (d.newNumber b n) = (d.above n).map (d.newNumber b) := by
  have hsize : (d.outside b).length < d.nodes.size + 1 := Nat.lt_succ_of_le (d.length_outside_le b)
  have houtside : ∀ x ∈ orbit d.parent? (d.nodes.size + 1) n, x ∈ d.outside b :=
    forall_mem_orbit (P := (· ∈ d.outside b)) hn fun y z hy hz => (h.outside_of_parent hy hz).1
  have henough : orbit d.parent? ((d.outside b).length + 1) n =
      orbit d.parent? (d.nodes.size + 1) n :=
    (h.up n).orbit_eq_of_subset houtside hsize (Nat.lt_succ_self _)
  rw [above, above, size_without, ← henough, List.map_tail]
  refine congrArg List.tail (orbit_map fun x hx => ?_)
  exact parent_without (houtside x (henough ▸ hx))

theorem ancestors_without (h : d.IsFinite) (hn : n ∈ d.outside b) :
    (d.without b).ancestors (d.newNumber b n) = d.ancestors n := by
  have houtside : ∀ x ∈ d.above n, x ∈ d.outside b := fun x hx =>
    forall_mem_orbit (P := (· ∈ d.outside b)) hn (fun y z hy hz => (h.outside_of_parent hy hz).1) x
      (List.mem_of_mem_tail hx)
  have hne : ∀ x ∈ d.above n, x ≠ b := fun x hx => ne_of_mem_of_not_mem hx (mem_outside.1 hn).2
  rw [ancestors_eq, ancestors_eq, above_without h hn, List.map_map]
  congr 2
  exact List.map_congr_left fun x hx => element?_without (houtside x hx) (hne x hx)

/-- **A selector looks at the node and the elements on its way up.** -/
theorem names_without (h : d.IsFinite) (hn : n ∈ d.outside b) (ne : n ≠ b) (s : Selector) :
    s.names (d.without b) (d.newNumber b n) = s.names d n := by
  rw [Selector.names, Selector.names, element?_without hn ne, ancestors_without h hn]

theorem attribute?_without (hn : n ∈ d.outside b) (ne : n ≠ b) (name : String) :
    (d.without b).attribute? (d.newNumber b n) name = d.attribute? n name := by
  rw [attribute?, attribute?, element?_without hn ne]

/-! ## What a selector names -/

theorem pairwise_select (d : Document) (s : Selector) : (d.select s).Pairwise (· < ·) := by
  rw [select_eq]
  exact List.pairwise_lt_range.filter _

theorem lt_of_mem_select {s : Selector} (hn : n ∈ d.select s) : n < d.nodes.size := by
  rw [select_eq] at hn
  exact List.mem_range.1 (List.mem_filter.1 hn).1

/-- A selector that names nothing below `b` names the same nodes without it, but for `b` itself. -/
theorem select_without (h : d.IsFinite) {s : Selector} (hs : ∀ n ∈ d.select s, b ∉ d.above n) :
    (d.without b).select s = ((d.select s).filter (· ≠ b)).map (d.newNumber b) := by
  have hsame : ∀ n ∈ d.outside b,
      s.picks (d.without b) (d.newNumber b n) = (decide (n ≠ b) && s.picks d n) := fun n hn => by
    by_cases ne : n = b
    · subst ne
      rw [Selector.picks, element?_without_self hn, decide_eq_false (not_not.2 rfl)]
      rfl
    · rw [Selector.picks, Selector.picks, element?_without hn ne, parent_without hn,
        Option.isSome_map, names_without h hn ne, decide_eq_true ne, Bool.true_and]
  have hpicked : d.select s = (d.outside b).filter (s.picks d) := by
    rw [select_eq, outside, List.filter_filter]
    refine List.filter_congr fun n hn => ?_
    cases hpicks : s.picks d n with
    | false => rw [Bool.false_and]
    | true =>
      have hmem : n ∈ d.select s := by
        rw [select_eq]
        exact List.mem_filter.2 ⟨hn, hpicks⟩
      rw [Bool.true_and, decide_eq_true (hs n hmem)]
  calc (d.without b).select s
      = ((d.outside b).map (d.newNumber b)).filter (s.picks (d.without b)) := by
        rw [select_eq, size_without, map_newNumber]
    _ = ((d.outside b).filter (s.picks (d.without b) ∘ d.newNumber b)).map (d.newNumber b) :=
        List.filter_map
    _ = ((d.outside b).filter fun n => decide (n ≠ b) && s.picks d n).map (d.newNumber b) :=
        congrArg _ (List.filter_congr hsame)
    _ = ((d.select s).filter (· ≠ b)).map (d.newNumber b) := by rw [hpicked, List.filter_filter]

/-- The nodes that a selector names and that were made before `b`, and after it. -/
def selectBefore (d : Document) (s : Selector) (b : NodeId) : List NodeId :=
  (d.select s).filter (· < b)

@[inherit_doc selectBefore]
def selectAfter (d : Document) (s : Selector) (b : NodeId) : List NodeId :=
  (d.select s).filter (b < ·)

theorem mem_selectBefore {s : Selector} : n ∈ d.selectBefore s b ↔ n ∈ d.select s ∧ n < b := by
  rw [selectBefore, List.mem_filter, decide_eq_true_iff]

theorem mem_selectAfter {s : Selector} : n ∈ d.selectAfter s b ↔ n ∈ d.select s ∧ b < n := by
  rw [selectAfter, List.mem_filter, decide_eq_true_iff]

/-- **A selector that names nothing below `b` names the same nodes before and after it without
it.** -/
theorem select_around (h : d.IsFinite) (hb : b < d.nodes.size) {s : Selector}
    (hs : ∀ n ∈ d.select s, b ∉ d.above n) :
    (d.selectBefore s b).map (d.newNumber b) = (d.without b).selectBefore s (d.newNumber b b) ∧
      (d.selectAfter s b).map (d.newNumber b) = (d.without b).selectAfter s (d.newNumber b b) := by
  have hself := h.self_mem_outside hb
  have houtside : ∀ n ∈ d.select s, n ∈ d.outside b := fun n hn =>
    mem_outside.2 ⟨lt_of_mem_select hn, hs n hn⟩
  rw [selectBefore, selectBefore, selectAfter, selectAfter, select_without h hs, List.filter_map,
    List.filter_map, List.filter_filter, List.filter_filter]
  refine ⟨congrArg _ (List.filter_congr fun n hn => ?_), congrArg _ (List.filter_congr fun n hn => ?_)⟩
  · have hlt := newNumber_lt_newNumber (houtside n hn) hself
    simp only [Function.comp_apply, hlt, ← Bool.decide_and, decide_eq_decide]
    exact ⟨fun h => ⟨h, h.ne⟩, And.left⟩
  · have hlt := newNumber_lt_newNumber hself (houtside n hn)
    simp only [Function.comp_apply, hlt, ← Bool.decide_and, decide_eq_decide]
    exact ⟨fun h => ⟨h, h.ne'⟩, And.left⟩

/-- Rising numbers are those before a number, the number itself if it is there, and those after
it. -/
theorem eq_filter_around {l : List Nat} (rising : l.Pairwise (· < ·)) (k : Nat) :
    l = l.filter (· < k) ++ ((if k ∈ l then [k] else []) ++ l.filter (k < ·)) := by
  induction l with
  | nil => rfl
  | cons i rest ih =>
    obtain ⟨hfirst, hrest⟩ := List.pairwise_cons.1 rising
    obtain hlt | hle := Nat.lt_or_ge i k
    · simp [hlt, hlt.ne', hlt.asymm, ← ih hrest]
    · have hlater : ∀ j ∈ rest, k < j := fun j hj => hle.trans_lt (hfirst j hj)
      have hbefore : rest.filter (· < k) = [] := by simpa using fun j hj => (hlater j hj).le
      have hafter : rest.filter (k < ·) = rest := by simpa using hlater
      obtain rfl | hgt := hle.eq_or_lt
      · simp [hbefore, hafter]
      · have hmem : k ∉ rest := fun hk => (hlater k hk).false
        simp [hbefore, hafter, hgt, hgt.ne, hgt.asymm, hmem]

theorem select_eq_around (d : Document) (s : Selector) (b : NodeId) :
    d.select s =
      d.selectBefore s b ++ ((if b ∈ d.select s then [b] else []) ++ d.selectAfter s b) :=
  eq_filter_around (d.pairwise_select s) b

/-- **What is read of the named nodes before and after `b` can be read without it.** -/
theorem filterMap_select_around {γ : Type} (h : d.IsFinite) (hb : b < d.nodes.size) {s : Selector}
    (hs : ∀ n ∈ d.select s, b ∉ d.above n) {f g : NodeId → Option γ}
    (same : ∀ n ∈ d.select s, n ≠ b → g (d.newNumber b n) = f n) :
    (d.select s).filterMap f =
      ((d.without b).selectBefore s (d.newNumber b b)).filterMap g ++
        ((if b ∈ d.select s then [b] else []).filterMap f ++
          ((d.without b).selectAfter s (d.newNumber b b)).filterMap g) := by
  obtain ⟨hbefore, hafter⟩ := select_around h hb hs
  refine (congrArg (List.filterMap f) (select_eq_around d s b)).trans ?_
  rw [List.filterMap_append, List.filterMap_append, ← hbefore, ← hafter, List.filterMap_map,
    List.filterMap_map]
  congr 1
  · refine List.filterMap_congr fun n hn => ?_
    obtain ⟨hn, hlt⟩ := mem_selectBefore.1 hn
    exact (same n hn hlt.ne).symm
  · congr 1
    refine List.filterMap_congr fun n hn => ?_
    obtain ⟨hn, hlt⟩ := mem_selectAfter.1 hn
    exact (same n hn hlt.ne').symm

/-- Where two documents differ within nodes that are the same element, a selector picks both or
neither. -/
theorem DifferWithin.mem_select_iff (differ : DifferWithin d b d' b') (h : d.IsFinite)
    (h' : d'.IsFinite) (hb : b < d.nodes.size) (hb' : b' < d'.nodes.size)
    (same : d.element? b = d'.element? b') (s : Selector) :
    b ∈ d.select s ↔ b' ∈ d'.select s := by
  have hself := h.self_mem_outside hb
  have hself' := h'.self_mem_outside hb'
  have hancestors : d.ancestors b = d'.ancestors b' := by
    rw [← ancestors_without h hself, ← ancestors_without h' hself', differ.rest, differ.place]
  have hparent : (d.node b).parent.isSome = (d'.node b').parent.isSome := by
    rw [← Option.isSome_map (f := d.newNumber b), ← parent_without hself, differ.rest, differ.place,
      parent_without hself', Option.isSome_map]
  have hpicks : s.picks d b = s.picks d' b' := by
    rw [Selector.picks, Selector.picks, Selector.names, Selector.names, same, hparent, hancestors]
  rw [select_eq, select_eq, List.mem_filter, List.mem_filter, List.mem_range, List.mem_range, hpicks,
    and_iff_right hb, and_iff_right hb']

/-! ## Walks -/

theorem nextStop?_without (c : NodeId) {stop : Stop} (hstop : stop.node ∈ d.outside b)
    (ne : stop.node ≠ b) :
    (d.without b).nextStop? (d.newNumber b c) (stop.map (d.newNumber b)) =
      (d.nextStop? c stop).map (Stop.map (d.newNumber b)) := by
  cases stop with
  | enter id =>
    have hnode := node_without hstop ne
    simp only [Stop.node] at hnode
    simp only [Stop.map, nextStop?, hnode, Node.renumber]
    cases (d.node id).children with
    | none => rfl
    | some ends => rfl
  | leave id =>
    have hnode := node_without hstop ne
    simp only [Stop.node] at hnode hstop
    simp only [Stop.map, nextStop?, hnode, Node.renumber, newNumber_inj hstop]
    split
    · rfl
    · cases (d.node id).next with
      | some next => rfl
      | none => cases (d.node id).parent <;> rfl

/-- The stops at nodes outside. -/
def stopsOutside (d : Document) (b : NodeId) : List Stop :=
  (d.outside b).map .enter ++ (d.outside b).map .leave

theorem mem_stopsOutside {stop : Stop} (h : stop.node ∈ d.outside b) : stop ∈ d.stopsOutside b := by
  cases stop with
  | enter id => exact List.mem_append_left _ (List.mem_map_of_mem h)
  | leave id => exact List.mem_append_right _ (List.mem_map_of_mem h)

theorem length_stopsOutside (d : Document) (b : NodeId) :
    (d.stopsOutside b).length = 2 * (d.outside b).length := by
  rw [stopsOutside, List.length_append, List.length_map, List.length_map, Nat.two_mul]

/-- A walk that keeps clear of `b` and of what is below is at nodes outside all the time. -/
theorem outside_of_mem_walk (h : d.IsFinite) (hc : c ∈ d.outside b) (ne : c ≠ b)
    (clear : ∀ n ∈ d.inside c, n ≠ b ∧ b ∉ d.above n) :
    ∀ x ∈ orbit (d.nextStop? c) (2 * d.nodes.size + 1) (.enter c),
      x.node ∈ d.outside b ∧ x.node ≠ b := by
  refine forall_mem_walk (P := fun n => n ∈ d.outside b ∧ n ≠ b) ⟨hc, ne⟩ (fun n hn => ?_)
    fun n p hn hp => h.outside_of_parent hn.1 hp
  have hlt : n < d.nodes.size := h.lt_of_mem_inside (mem_outside.1 hc).1 hn
  obtain rfl | hinside := List.mem_cons.1 (show n ∈ c :: d.inside c from hn)
  · exact ⟨hc, ne⟩
  · exact ⟨mem_outside.2 ⟨hlt, (clear n hinside).2⟩, (clear n hinside).1⟩

/-- **A walk that keeps clear of `b` and of what is below comes to the same nodes without it.** -/
theorem inside_without (h : d.IsFinite) (hc : c ∈ d.outside b) (ne : c ≠ b)
    (clear : ∀ n ∈ d.inside c, n ≠ b ∧ b ∉ d.above n) :
    (d.without b).inside (d.newNumber b c) = (d.inside c).map (d.newNumber b) := by
  have houtside := outside_of_mem_walk h hc ne clear
  have hsize := d.length_outside_le b
  have henough : orbit (d.nextStop? c) (2 * (d.outside b).length + 1) (.enter c) =
      orbit (d.nextStop? c) (2 * d.nodes.size + 1) (.enter c) := by
    have hsubset : orbit (d.nextStop? c) (2 * d.nodes.size + 1) (.enter c) ⊆ d.stopsOutside b :=
      fun x hx => mem_stopsOutside (houtside x hx).1
    refine (h.through c).orbit_eq_of_subset hsubset ?_ ?_ <;> rw [length_stopsOutside] <;> omega
  have hwalk : orbit ((d.without b).nextStop? (d.newNumber b c)) (2 * (d.outside b).length + 1)
      (.enter (d.newNumber b c)) =
        (orbit (d.nextStop? c) (2 * d.nodes.size + 1) (.enter c)).map (Stop.map (d.newNumber b)) := by
    rw [← henough]
    refine orbit_map (f := Stop.map (d.newNumber b)) (a := Stop.enter c) fun x hx => ?_
    obtain ⟨hx, hne⟩ := houtside x (henough ▸ hx)
    exact nextStop?_without c hx hne
  rw [inside, inside, walkUpTo_eq, walkUpTo_eq, size_without, hwalk, List.filterMap_map,
    List.map_tail, List.map_filterMap]
  congr 2
  funext x
  exact Stop.entered?_map _ x

/-! ## What is read of a node -/

/-- The nodes that reading a node comes to: those on the walk through it, and those on the walks
through these. -/
def region (d : Document) (c : NodeId) : List NodeId :=
  (c :: d.inside c).flatMap d.inside

/-- Reading `c` keeps clear of `b` and of what is below. -/
structure KeepsClear (d : Document) (b c : NodeId) : Prop where
  ne : c ≠ b
  above : b ∉ d.above c
  region : ∀ n ∈ d.region c, n ≠ b ∧ b ∉ d.above n

namespace KeepsClear

theorem clear_of_mem (clear : d.KeepsClear b c) (hn : n ∈ c :: d.inside c) :
    ∀ m ∈ d.inside n, m ≠ b ∧ b ∉ d.above m := fun m hm =>
  clear.region m (List.mem_flatMap.2 ⟨n, hn, hm⟩)

theorem outside_of_mem (clear : d.KeepsClear b c) (h : d.IsFinite) (hc : c < d.nodes.size)
    (hn : n ∈ c :: d.inside c) : n ∈ d.outside b ∧ n ≠ b := by
  obtain rfl | hinside := List.mem_cons.1 hn
  · exact ⟨mem_outside.2 ⟨hc, clear.above⟩, clear.ne⟩
  · obtain ⟨hne, habove⟩ := clear.clear_of_mem List.mem_cons_self n hinside
    exact ⟨mem_outside.2 ⟨h.lt_of_mem_inside hc hn, habove⟩, hne⟩

end KeepsClear

section

variable (h : d.IsFinite) (hc : c < d.nodes.size) (clear : d.KeepsClear b c)

include h hc clear

theorem inside_without_of_mem (hn : n ∈ c :: d.inside c) :
    (d.without b).inside (d.newNumber b n) = (d.inside n).map (d.newNumber b) := by
  obtain ⟨houtside, hne⟩ := clear.outside_of_mem h hc hn
  exact inside_without h houtside hne (clear.clear_of_mem hn)

theorem find?_inside_without (s : Selector) :
    ((d.without b).inside (d.newNumber b c)).find? (s.names (d.without b)) =
      ((d.inside c).find? (s.names d)).map (d.newNumber b) := by
  rw [inside_without_of_mem h hc clear List.mem_cons_self, List.find?_map]
  congr 1
  refine List.find?_congr fun n hn => ?_
  obtain ⟨houtside, hne⟩ := clear.outside_of_mem h hc (List.mem_cons_of_mem c hn)
  exact names_without h houtside hne s

theorem visibleText_without (hn : n ∈ d.inside c) :
    (d.without b).visibleText (d.newNumber b n) = d.visibleText n := by
  have hmem : n ∈ c :: d.inside c := List.mem_cons_of_mem c hn
  have htexts : (d.without b).texts (d.newNumber b n) = d.texts n := by
    rw [texts, texts, inside_without_of_mem h hc clear hmem, List.filterMap_map]
    refine List.filterMap_congr fun m hm => ?_
    obtain ⟨hne, habove⟩ := clear.clear_of_mem hmem m hm
    have hlt : m < d.nodes.size :=
      h.lt_of_mem_inside (h.lt_of_mem_inside hc hmem) (List.mem_cons_of_mem n hm)
    rw [Function.comp_apply, text?_without (mem_outside.2 ⟨hlt, habove⟩) hne]
  rw [visibleText, visibleText, htexts]

theorem firstText?_without (s : Selector) :
    (d.without b).firstText? (d.newNumber b c) s = d.firstText? c s := by
  rw [firstText?, firstText?, find?_inside_without h hc clear]
  cases hfirst : (d.inside c).find? (s.names d) with
  | none => rfl
  | some first =>
    rw [Option.map_some]
    dsimp only
    rw [visibleText_without h hc clear (List.mem_of_find?_eq_some hfirst)]

theorem firstAttribute?_without (s : Selector) (name : String) :
    (d.without b).firstAttribute? (d.newNumber b c) s name = d.firstAttribute? c s name := by
  rw [firstAttribute?, firstAttribute?, find?_inside_without h hc clear]
  cases hfirst : (d.inside c).find? (s.names d) with
  | none => rfl
  | some first =>
    have hmem := List.mem_cons_of_mem c (List.mem_of_find?_eq_some hfirst)
    obtain ⟨houtside, hne⟩ := clear.outside_of_mem h hc hmem
    exact attribute?_without houtside hne name

end

end Document

end PriceTracker.Html
