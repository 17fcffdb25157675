import PriceTracker.Proofs.Url.Characters

/-!
# Where the marks of a URL stand

A slash ends the authority of a web page and each segment of its path, a question mark ends the
path. The written parts themselves hold neither mark (`covers_isMark`): users and passwords are
percent-encoded, hosts are addresses or domain names, and paths were cut at all slashes
(`isRegular_pathFrom`). So the marks tell the parts of a written URL apart.
-/

namespace PriceTracker.Url

/-- A mark that ends the authority or a segment. -/
def isMark (c : Char) : Bool :=
  c == '/' || c == '?'

theorem eq_of_isMark {c : Char} (h : ¬isMark c = false) : c = '/' ∨ c = '?' := by
  simpa only [isMark, Bool.not_eq_false, Bool.or_eq_true, beq_iff_eq] using h

/-- The text holds no such mark. -/
def Unmarked (s : String) : Prop :=
  ∀ c ∈ s.toList, isMark c = false

instance (s : String) : Decidable (Unmarked s) :=
  decidable_of_iff (s.toList.all (!isMark ·) = true) (by simp [Unmarked])

theorem unmarked_append {a b : String} : Unmarked (a ++ b) ↔ Unmarked a ∧ Unmarked b :=
  madeOf_append

/-- The characters of an authority are no marks. -/
theorem covers_isMark : Covers fun c => isMark c = false where
  user c hc := by
    by_contra hmark
    obtain rfl | rfl := eq_of_isMark hmark <;> exact absurd hc (by decide)
  domain c hc := by
    by_contra hmark
    obtain rfl | rfl := eq_of_isMark hmark <;> exact absurd hc (by decide)
  marks := by decide

/-! ## Paths -/

/-- The segments hold no mark. -/
def Path.IsRegular : Path → Prop
  | .undivided _ => False
  | .segments items => ∀ s ∈ items, Unmarked s

theorem Path.isRegular_of_segments {path : Path}
    (h : ∃ items, path = .segments items ∧ ∀ s ∈ items, Unmarked s) : path.IsRegular := by
  obtain ⟨items, rfl, hitems⟩ := h
  exact hitems

/-- Besides slashes, only encoded characters are marks of a path. -/
theorem isMark_of_inPathSet {c : Char} (hslash : c ≠ '/') (hset : inPathSet c = false) :
    isMark c = false := by
  by_contra hmark
  obtain rfl | rfl := eq_of_isMark hmark
  · exact hslash rfl
  · exact absurd hset (by decide)

theorem isRegular_pathFrom {directory : List String} (h : ∀ s ∈ directory, Unmarked s)
    (cs : List Char) : (pathFrom .web directory cs).IsRegular :=
  Path.isRegular_of_segments (covers_isMark.pathFrom (fun _ => isMark_of_inPathSet) h cs)

theorem isRegular_pathAfterHost (cs : List Char) : (pathAfterHost .web cs).IsRegular :=
  Path.isRegular_of_segments (covers_isMark.pathAfterHost (fun _ => isMark_of_inPathSet) cs)

end PriceTracker.Url
