import Mathlib.Data.List.Basic
import Mathlib.Data.Option.Basic
import Mathlib.Tactic.Common
import PriceTracker.Environment.File

/-!
# Blank variables and files

A variable that is set keeps its value when a file of variables is loaded, even if the value is
blank and the file has a better one. `Shadows` compares such an environment with the one in which
the variable is not set, through all assignments of a file (`rel_loadFile?`). Whatever the file
says, it is refused in both or in none, and the same variables are set besides the blank one. A
value may refer to the variable, so values can differ: without the blank there is as much to see in
each, or more, and just as much as long as the variable is missing or blank after all.
-/

namespace PriceTracker.Environment

open scoped List

variable {env env' : Environment} {name other : String}

/-! ## Variables that are missing -/

/-- The environment without a variable. -/
def unset (env : Environment) (name : String) : Environment :=
  { entries := env.entries.filter (·.1 != name) }

/-- The variable is not set, or blank. -/
def lacks (env : Environment) (name : String) : Bool :=
  Text.isBlankText ((env.get? name).getD "")

/-- The characters of a text that are no blanks. -/
def inked (cs : List Char) : List Char :=
  cs.filter (!Text.isBlank ·)

/-- What is to be seen of the value of a variable. -/
def seen (env : Environment) (name : String) : List Char :=
  inked ((env.get? name).getD "").toList

theorem lacks_iff : env.lacks name = true ↔ env.seen name = [] := by
  simp [lacks, seen, inked, Text.isBlankText]

theorem lacks_of_get?_eq_none (h : env.get? name = none) : env.lacks name = true := by
  rw [lacks, h]
  rfl

theorem get?_unset_self : (env.unset name).get? name = none := by
  simp [get?, unset]

theorem get?_unset_of_ne (h : other ≠ name) : (env.unset name).get? other = env.get? other := by
  rw [get?, unset, List.find?_filter, get?]
  congr 2
  funext entry
  cases hentry : entry.1 == other with
  | false => simp
  | true => simp [eq_of_beq hentry, h]

theorem get?_offer_of_ne (h : other ≠ name) (value : String) :
    (env.offer name value).get? other = env.get? other := by
  cases hname : env.get? name with
  | some v => rw [get?_offer_of_some hname]
  | none =>
    rw [offer, hname]
    simp [get?, List.find?_append, h.symm]

/-- A set variable keeps its value, whatever is offered. -/
theorem get?_offer_of_get?_eq_some {kept : String} (h : env.get? name = some kept)
    (other value : String) : (env.offer other value).get? name = some kept := by
  obtain rfl | hne := eq_or_ne name other
  · rwa [get?_offer_of_some h]
  · rwa [get?_offer_of_ne hne]

theorem isSome_get?_offer (other value : String) :
    ((env.offer other value).get? name).isSome = ((env.get? name).isSome || name == other) := by
  obtain rfl | hne := eq_or_ne name other
  · cases hname : env.get? name with
    | none => simp [get?_offer_of_none hname]
    | some kept => simp [get?_offer_of_some hname, hname]
  · simp [get?_offer_of_ne hne, hne]

theorem lacks_of_lacks_offer {value : String} (h : (env.offer other value).lacks name = true) :
    env.lacks name = true := by
  cases hname : env.get? name with
  | none => exact lacks_of_get?_eq_none hname
  | some kept =>
    rw [lacks, get?_offer_of_get?_eq_some hname] at h
    rwa [lacks, hname]

theorem seen_offer_self (h : env.get? name = none) (value : String) :
    (env.offer name value).seen name = inked value.toList := by
  rw [seen, get?_offer_of_none h, Option.getD_some]

theorem seen_offer_of_ne (h : other ≠ name) (value : String) :
    (env.offer name value).seen other = env.seen other := by
  rw [seen, get?_offer_of_ne h, seen]

/-! ## Reading values -/

/-- A relation of texts that goes on from their parts to the whole. -/
structure Congruent (R : List Char → List Char → Prop) : Prop where
  refl : ∀ cs, R cs cs
  append : ∀ {a b c d : List Char}, R a b → R c d → R (a ++ c) (b ++ d)

section

variable {R : List Char → List Char → Prop} {a b a' b' : Option (List Char)}
  {f g : List Char → List Char}

theorem rel_map (h : Option.Rel R a b) (hfg : ∀ {x y}, R x y → R (f x) (g y)) :
    Option.Rel R (a.map f) (b.map g) := by
  cases h with
  | none => exact .none
  | some h => exact .some (hfg h)

theorem rel_ite {c : Prop} [Decidable c] (h : Option.Rel R a b) (h' : Option.Rel R a' b') :
    Option.Rel R (if c then a else a') (if c then b else b') := by
  split
  · exact h
  · exact h'

/-- **A value is read alike** in environments in which all references are alike. The cases are those
of the reader. -/
theorem rel_readValue (hR : Congruent R)
    (href : ∀ name, R (referenced env name) (referenced env' name)) (place : ValuePlace)
    (cs : List Char) : Option.Rel R (readValue env place cs) (readValue env' place cs) := by
  have hcons {c : Char} {x y : List Char} (h : R x y) : R (c :: x) (c :: y) :=
    hR.append (hR.refl [c]) h
  have hname {name x y : List Char} (h : R x y) :
      R (referenced env name ++ x) (referenced env' name ++ y) := hR.append (href name) h
  induction cs generalizing place with
  | nil =>
    cases place with
    | plain quoted => exact rel_ite .none (.some (hR.refl _))
    | single => exact .none
    | escape quoted => exact rel_ite .none (.some (hR.refl _))
    | reference quoted name => exact rel_ite .none (.some (href _))
    | braced quoted name => exact .none
    | ended => exact .some (hR.refl _)
  | cons c cs ih =>
    cases place with
    | plain quoted =>
      exact rel_ite (ih _) <| rel_ite (ih _) <| rel_ite (ih _) <| rel_ite (rel_map (ih _) hcons) <|
        rel_ite (ih _) <| rel_ite (ih _) <| rel_map (ih _) hcons
    | single => exact rel_ite (ih _) (rel_map (ih _) hcons)
    | escape quoted =>
      exact rel_ite (rel_map (ih _) hcons) (rel_ite (rel_map (ih _) hcons) .none)
    | reference quoted name =>
      exact rel_ite (ih _) <| rel_ite (ih _) <| rel_ite (rel_map (ih _) hname) <|
        rel_map (ih _) fun h => hname (hcons h)
    | braced quoted name => exact rel_ite (rel_map (ih _) hname) (ih _)
    | ended => exact rel_ite (ih _) (rel_ite (.some (hR.refl _)) .none)

end

/-! ## Lines and files -/

/-- The name in a line and the text of its value. -/
def assignment? (cs : List Char) : Option (List Char × List Char) :=
  match readName cs with
  | none => none
  | some (name, rest) =>
    match behindEquals? (rest.dropWhile Text.isBlank) with
    | some rest => some (name, rest)
    | none =>
      if name == "export".toList then exported? (rest.dropWhile Text.isBlank) else none

/-- The value of a variable, which may be but a comment. -/
def assignedValue (env : Environment) (cs : List Char) : Option (List Char) :=
  let cs := cs.dropWhile Text.isBlank
  if cs.head? == some '#' then some [] else readValue env (.plain false) cs

theorem loadLine?_eq (env : Environment) (line : List Char) : loadLine? env line =
    let cs := Text.trimBy Text.isBlank line
    if cs.isEmpty || cs.head? == some '#' then some env
    else (assignment? cs).bind fun parts => (assignedValue env parts.2).bind fun value =>
      some (env.offer (String.ofList parts.1) (String.ofList value)) := by
  rw [loadLine?]
  generalize Text.trimBy Text.isBlank line = cs
  dsimp only
  split
  · rfl
  -- The rest of the line is read alike wherever the equals sign was found.
  have hoffer (parts : List Char × List Char) :
      (let cs := parts.2.dropWhile Text.isBlank
      if cs.head? == some '#' then some (env.offer (String.ofList parts.1) (String.ofList []))
      else (readValue env (.plain false) cs).bind fun value =>
        some (env.offer (String.ofList parts.1) (String.ofList value))) =
      (assignedValue env parts.2).bind fun value =>
        some (env.offer (String.ofList parts.1) (String.ofList value)) := by
    rw [assignedValue]
    dsimp only
    split <;> rfl
  rw [assignment?]
  cases readName cs with
  | none => rfl
  | some parts =>
    obtain ⟨name, rest⟩ := parts
    dsimp only
    cases hval : behindEquals? (rest.dropWhile Text.isBlank) with
    | some value =>
      simp only [Option.bind_eq_bind, Option.bind_some, hval]
      exact hoffer (name, value)
    | none =>
      simp only [Option.bind_eq_bind, Option.bind_some, hval]
      split
      · cases exported? (rest.dropWhile Text.isBlank) with
        | none => rfl
        | some parts => exact hoffer parts
      · rfl

/-! ## Environments with and without a blank variable -/

/-- The first environment has a blank variable. The second one has none, or the one that some file
gives; all else is as far alike as a file can tell. -/
structure Shadows (name : String) (env env' : Environment) : Prop where
  blank : ∃ value, env.get? name = some value ∧ Text.isBlankText value = true
  isSome {other : String} (h : other ≠ name) : (env.get? other).isSome = (env'.get? other).isSome
  sublist (other : String) : env.seen other <+ env'.seen other
  seen_eq (h : env'.lacks name = true) (other : String) : env.seen other = env'.seen other

theorem congruent_sublist : Congruent fun a b => inked a <+ inked b where
  refl _ := List.Sublist.refl _
  append h h' := by
    rw [inked, inked, List.filter_append, List.filter_append]
    exact h.append h'

theorem congruent_inked_eq : Congruent fun a b => inked a = inked b where
  refl _ := rfl
  append h h' := by
    rw [inked, inked, List.filter_append, List.filter_append]
    exact congrArg₂ (· ++ ·) h h'

namespace Shadows

/-- A variable that is missing or blank without the blank one is so with it. -/
theorem lacks_of_lacks (h : Shadows name env env') (hlacks : env'.lacks other = true) :
    env.lacks other = true := by
  rw [lacks_iff] at hlacks ⊢
  exact List.sublist_nil.1 (hlacks ▸ h.sublist other)

/-- What is offered is taken in both environments, or in none. -/
theorem seen_offer_cases {n : String} (h : Shadows name env env') (hn : n ≠ name)
    (other value value' : String) :
    (env.offer other value).seen n = inked value.toList ∧
        (env'.offer other value').seen n = inked value'.toList ∨
      (env.offer other value).seen n = env.seen n ∧
        (env'.offer other value').seen n = env'.seen n := by
  obtain rfl | hne := eq_or_ne n other
  · have hset := h.isSome hn
    cases hget : env.get? n with
    | none =>
      rw [hget, Option.isSome_none, eq_comm, Option.isSome_eq_false_iff,
        Option.isNone_iff_eq_none] at hset
      exact Or.inl ⟨seen_offer_self hget _, seen_offer_self hset _⟩
    | some kept =>
      rw [hget, Option.isSome_some, eq_comm, Option.isSome_iff_exists] at hset
      obtain ⟨kept', hget'⟩ := hset
      rw [get?_offer_of_some hget, get?_offer_of_some hget']
      exact Or.inr ⟨rfl, rfl⟩
  · exact Or.inr ⟨seen_offer_of_ne hne _, seen_offer_of_ne hne _⟩

/-- An assignment of values that are alike. -/
theorem offer {value value' : String} (h : Shadows name env env') (other : String)
    (hsub : inked value.toList <+ inked value'.toList)
    (heq : env'.lacks name = true → inked value.toList = inked value'.toList) :
    Shadows name (env.offer other value) (env'.offer other value') := by
  obtain ⟨blank, hget, hblank⟩ := h.blank
  have hkept := get?_offer_of_get?_eq_some hget other value
  have hnil : (env.offer other value).seen name = [] := by
    rw [← lacks_iff, lacks, hkept]
    exact hblank
  refine ⟨⟨blank, hkept, hblank⟩, fun hn => ?_, fun n => ?_, fun hlacks n => ?_⟩
  · rw [isSome_get?_offer, isSome_get?_offer, h.isSome hn]
  · obtain rfl | hn := eq_or_ne n name
    · rw [hnil]
      exact List.nil_sublist _
    · obtain ⟨hseen, hseen'⟩ | ⟨hseen, hseen'⟩ := h.seen_offer_cases hn other value value'
      · rwa [hseen, hseen']
      · rw [hseen, hseen']
        exact h.sublist n
  · obtain rfl | hn := eq_or_ne n name
    · rw [hnil, lacks_iff.1 hlacks]
    · have hlacks' := lacks_of_lacks_offer hlacks
      obtain ⟨hseen, hseen'⟩ | ⟨hseen, hseen'⟩ := h.seen_offer_cases hn other value value'
      · rw [hseen, hseen', heq hlacks']
      · rw [hseen, hseen', h.seen_eq hlacks' n]

end Shadows

theorem shadows_unset {value : String} (h : env.get? name = some value)
    (hblank : Text.isBlankText value = true) : Shadows name env (env.unset name) := by
  have hseen (other : String) : env.seen other = (env.unset name).seen other := by
    obtain rfl | hne := eq_or_ne other name
    · rw [lacks_iff.1 (lacks_of_get?_eq_none get?_unset_self), ← lacks_iff, lacks, h]
      exact hblank
    · rw [seen, seen, get?_unset_of_ne hne]
  refine ⟨⟨value, h, hblank⟩, fun hne => ?_, fun other => ?_, fun _ => hseen⟩
  · rw [get?_unset_of_ne hne]
  · rw [hseen]

/-! ## Loading -/

theorem rel_assignedValue {R : List Char → List Char → Prop} (hR : Congruent R)
    (href : ∀ name, R (referenced env name) (referenced env' name)) (cs : List Char) :
    Option.Rel R (assignedValue env cs) (assignedValue env' cs) :=
  rel_ite (.some (hR.refl _)) (rel_readValue hR href _ _)

/-- **A line is carried out alike.** -/
theorem rel_loadLine? (h : Shadows name env env') (line : List Char) :
    Option.Rel (Shadows name) (loadLine? env line) (loadLine? env' line) := by
  rw [loadLine?_eq, loadLine?_eq]
  dsimp only
  split
  · exact .some h
  cases assignment? (Text.trimBy Text.isBlank line) with
  | none => exact .none
  | some parts =>
    have hsub := rel_assignedValue congruent_sublist (fun n => h.sublist (String.ofList n)) parts.2
    have heq (hlacks : env'.lacks name = true) :=
      rel_assignedValue congruent_inked_eq (fun n => h.seen_eq hlacks (String.ofList n)) parts.2
    simp only [Option.bind_some]
    generalize assignedValue env parts.2 = value at hsub heq
    generalize assignedValue env' parts.2 = value' at hsub heq
    cases hsub with
    | none => exact .none
    | some hsub =>
      refine .some (h.offer _ (by simpa using hsub) fun hlacks => ?_)
      cases heq hlacks with
      | some heq => simpa using heq

theorem rel_foldlM {lines : List (List Char)} (h : Shadows name env env') :
    Option.Rel (Shadows name) (lines.foldlM loadLine? env) (lines.foldlM loadLine? env') := by
  induction lines generalizing env env' with
  | nil => exact .some h
  | cons line lines ih =>
    rw [List.foldlM_cons, List.foldlM_cons]
    have hline := rel_loadLine? h line
    generalize loadLine? env line = next at hline
    generalize loadLine? env' line = next' at hline
    cases hline with
    | none => exact .none
    | some hnext => exact ih hnext

/-- **A file is loaded alike.** -/
theorem rel_loadFile? (h : Shadows name env env') (bytes : List UInt8) :
    Option.Rel (Shadows name) (loadFile? env bytes) (loadFile? env' bytes) := by
  rw [loadFile?, loadFile?]
  cases Text.Utf8.decode? bytes with
  | none => exact .none
  | some text =>
    simp only [Option.bind_eq_bind, Option.bind_some]
    cases assignmentLines .plain [] (if text.head? == some '\uFEFF' then text.tail else text) with
    | none => exact .none
    | some lines => exact rel_foldlM h

end PriceTracker.Environment
