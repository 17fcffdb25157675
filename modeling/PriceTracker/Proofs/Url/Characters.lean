import PriceTracker.Proofs.Url.Domain
import PriceTracker.Url.Parse

/-!
# What the parts of a URL are written with

A part of the URL of a web page is percent-encoded, a domain name, an address or a number. So a
property of characters holds throughout if it holds of what these leave as it is and of what they
add. That is said once, for any kind of characters:

* `Covers` lists what the kind has to have for the authority;
* `Covers.host` and `Covers.readAuthority`: then all of the authority is of the kind;
* `Covers.follow`: so are the segments of a path, if they were before and what is not encoded in
  them is.
-/

namespace PriceTracker.Url

/-- The text has characters of a kind only. -/
def MadeOf (kind : Char → Prop) (s : String) : Prop :=
  ∀ c ∈ s.toList, kind c

/-- The kind has the characters that user names, passwords, hosts and ports are written with. -/
structure Covers (kind : Char → Prop) : Prop where
  /-- Those that are left as they are in a user name. -/
  user : ∀ c, inUserSet c = false → kind c
  /-- Those of a domain name. -/
  domain : ∀ c, Domain.IsPlain c → kind c
  /-- Those that stand between. -/
  marks : MadeOf kind ":@[]"

variable {kind : Char → Prop}

instance [DecidablePred kind] (s : String) : Decidable (MadeOf kind s) :=
  List.decidableBAll kind s.toList

theorem madeOf_ofList {cs : List Char} : MadeOf kind (String.ofList cs) ↔ ∀ c ∈ cs, kind c := by
  rw [MadeOf, String.toList_ofList]

theorem madeOf_append {a b : String} :
    MadeOf kind (a ++ b) ↔ MadeOf kind a ∧ MadeOf kind b := by
  simp only [MadeOf, String.toList_append, List.mem_append, or_imp, forall_and]

theorem madeOf_empty : MadeOf kind "" :=
  fun _ hc => absurd hc List.not_mem_nil

theorem inUserSet_digitChar : ∀ d < 16, inUserSet (Nat.digitChar d) = false := by
  decide

theorem inUserSet_upperHexDigit : ∀ d < 16, inUserSet (upperHexDigit d) = false := by
  decide

namespace Covers

/-! ## Numbers -/

theorem toDigits (h : Covers kind) {base : Nat} (hbase : 1 < base) (hle : base ≤ 16) (n : Nat) :
    ∀ c ∈ Nat.toDigits base n, kind c := by
  have hdigit : ∀ d < 16, kind (Nat.digitChar d) := fun d hd => h.user _ (inUserSet_digitChar d hd)
  induction n using Nat.strongRecOn with
  | ind n ih =>
    rw [Nat.toDigits_eq_if hbase]
    split
    · intro c hc
      rw [List.mem_singleton] at hc
      exact hc ▸ hdigit n (by omega)
    · intro c hc
      obtain hc | hc := List.mem_append.1 hc
      · exact ih _ (Nat.div_lt_self (by omega) hbase) c hc
      · rw [List.mem_singleton] at hc
        exact hc ▸ hdigit _ (Nat.lt_of_lt_of_le (Nat.mod_lt n (by omega)) hle)

theorem toString (h : Covers kind) (n : Nat) : MadeOf kind (ToString.toString n) := by
  rw [Nat.toString_eq_ofList_toDigits, madeOf_ofList]
  exact h.toDigits (by omega) (by omega) n

theorem colon (h : Covers kind) : MadeOf kind ":" :=
  List.forall_mem_singleton.2 (h.marks ':' (by decide))

theorem portText (h : Covers kind) (port : Option Nat) : MadeOf kind (portText port) := by
  cases port with
  | none => exact madeOf_empty
  | some p => exact madeOf_append.2 ⟨h.colon, h.toString p⟩

/-! ## Percent-encoding -/

theorem encodeChar (h : Covers kind) {inSet : Char → Bool} {c : Char}
    (hset : inSet c = false → kind c) : ∀ d ∈ encodeChar inSet c, kind d := by
  intro d hd
  unfold Url.encodeChar at hd
  split at hd
  · obtain ⟨b, -, hd⟩ := List.mem_flatMap.1 hd
    have hb := b.toNat_lt
    simp only [List.mem_cons, List.not_mem_nil, or_false] at hd
    obtain rfl | rfl | rfl := hd
    · exact h.user _ (by decide)
    · exact h.user _ (inUserSet_upperHexDigit _ (by omega))
    · exact h.user _ (inUserSet_upperHexDigit _ (by omega))
  · next hnot =>
    rw [List.mem_singleton] at hd
    exact hd ▸ hset (by simpa using hnot)

/-- A text is encoded into the kind if what is left as it is in it is of the kind. -/
theorem percentEncode (h : Covers kind) {inSet : Char → Bool} {cs : List Char}
    (hset : ∀ c ∈ cs, inSet c = false → kind c) : MadeOf kind (percentEncode inSet cs) := by
  rw [Url.percentEncode, madeOf_ofList]
  intro d hd
  obtain ⟨c, hc, hd⟩ := List.mem_flatMap.1 hd
  exact h.encodeChar (hset c hc) d hd

/-! ## Hosts -/

theorem hexPieces (h : Covers kind) (pieces : List Nat) :
    MadeOf kind (":".intercalate (pieces.map Host.hexPiece)) := by
  intro c hc
  rw [String.toList_intercalate] at hc
  obtain hc | ⟨l, hl, hc⟩ := mem_intercalate hc
  · exact h.colon c hc
  · obtain ⟨s, hs, rfl⟩ := List.mem_map.1 hl
    obtain ⟨n, -, rfl⟩ := List.mem_map.1 hs
    rw [Host.hexPiece, String.toList_ofList] at hc
    exact h.toDigits (by omega) (by omega) n c hc

theorem ipv6Text (h : Covers kind) (pieces : List Nat) : MadeOf kind (Host.ipv6Text pieces) := by
  unfold Host.ipv6Text
  dsimp only
  split
  · have hcolons : MadeOf kind "::" := madeOf_append.2 ⟨h.colon, h.colon⟩
    exact madeOf_append.2 ⟨madeOf_append.2 ⟨h.hexPieces _, hcolons⟩, h.hexPieces _⟩
  · exact h.hexPieces pieces

theorem ipv4Text (h : Covers kind) (address : Nat) : MadeOf kind (Host.ipv4Text address) := by
  have hdot : MadeOf kind (ToString.toString ".") :=
    List.forall_mem_singleton.2 (h.user '.' (by decide))
  simp only [Host.ipv4Text, madeOf_append, h.toString, hdot, and_self]

theorem bracketed (h : Covers kind) {cs : List Char} {host : Host}
    (hhost : Host.bracketed cs = .ok host) : MadeOf kind host.toString := by
  unfold Host.bracketed at hhost
  split at hhost
  · obtain rfl := Except.ok.inj hhost
    have hopen : MadeOf kind "[" := List.forall_mem_singleton.2 (h.marks '[' (by decide))
    have hclose : MadeOf kind "]" := List.forall_mem_singleton.2 (h.marks ']' (by decide))
    exact madeOf_append.2 ⟨madeOf_append.2 ⟨hopen, h.ipv6Text _⟩, hclose⟩
  · simp at hhost

/-- The host of a web page is an address or a domain name. -/
theorem host (h : Covers kind) {cs : List Char} {host : Host} (hhost : Host.parse cs = .ok host) :
    MadeOf kind host.toString := by
  unfold Host.parse at hhost
  split at hhost
  · exact h.bracketed hhost
  · split at hhost
    · simp at hhost
    · simp at hhost
    · next domain _ hdomain =>
      split at hhost
      · split at hhost
        · obtain rfl := Except.ok.inj hhost
          exact h.ipv4Text _
        · simp at hhost
      · obtain rfl := Except.ok.inj hhost
        obtain ⟨name, -, hascii⟩ := Option.bind_eq_some_iff.1 hdomain
        exact madeOf_ofList.2 fun c hc => h.domain c (Domain.isPlain_of_mem_toAscii? hascii c hc)

theorem credentials (h : Covers kind) {u : Url} (username : MadeOf kind u.username)
    (password : MadeOf kind u.password) : MadeOf kind u.credentials := by
  unfold Url.credentials
  split
  · exact madeOf_empty
  · have hat : MadeOf kind "@" := List.forall_mem_singleton.2 (h.marks '@' (by decide))
    refine madeOf_append.2 ⟨madeOf_append.2 ⟨username, ?_⟩, hat⟩
    split
    · exact madeOf_empty
    · exact madeOf_append.2 ⟨h.colon, password⟩

end Covers

theorem exists_of_bind_eq_ok {ε α β : Type} {x : Except ε α} {f : α → Except ε β} {y : β}
    (h : x >>= f = .ok y) : ∃ a, x = .ok a ∧ f a = .ok y := by
  cases x with
  | error e => exact absurd h (by simp [bind, Except.bind])
  | ok a => exact ⟨a, rfl, h⟩

/-- User names and passwords are encoded, and the host of a web page is read as one. -/
theorem parts_of_readAuthority {scheme : String} {isLast : Bool} {cs : List Char} {a : Authority}
    (hscheme : schemeKind scheme = .web) (h : readAuthority scheme isLast cs = .ok a) :
    (∃ name, a.username = percentEncode inUserSet name) ∧
      (∃ secret, a.password = percentEncode inUserSet secret) ∧
      ∃ place, Host.parse place = .ok a.host := by
  simp only [readAuthority, hscheme] at h
  split at h
  · simp at h
  · split at h
    · simp at h
    · obtain ⟨host, hhost, h⟩ := exists_of_bind_eq_ok h
      split at h
      · simp at h
      · obtain ⟨port, -, h⟩ := exists_of_bind_eq_ok h
        obtain rfl := Except.ok.inj h
        exact ⟨⟨_, rfl⟩, ⟨_, rfl⟩, ⟨_, hhost⟩⟩

/-- **The authority of a web page is of the kind.** -/
theorem Covers.readAuthority (h : Covers kind) {scheme : String} {isLast : Bool} {cs : List Char}
    {a : Authority} (hscheme : schemeKind scheme = .web)
    (ha : readAuthority scheme isLast cs = .ok a) :
    MadeOf kind a.username ∧ MadeOf kind a.password ∧ MadeOf kind a.host.toString := by
  obtain ⟨⟨name, hname⟩, ⟨secret, hsecret⟩, place, hplace⟩ := parts_of_readAuthority hscheme ha
  rw [hname, hsecret]
  exact ⟨h.percentEncode fun c _ => h.user c, h.percentEncode fun c _ => h.user c, h.host hplace⟩

/-! ## Paths -/

theorem mem_of_mem_shorten {path : List String} {s : String} (h : s ∈ shorten .web path) :
    s ∈ path := by
  unfold shorten at h
  split at h
  · simp at h
  · exact (List.dropLast_sublist path).subset h

/-- The segments of a path are of the kind if those before were and what is left as it is in the new
pieces is. -/
theorem Covers.follow (h : Covers kind) {path : List String} {pieces : List (List Char)}
    (hpath : ∀ s ∈ path, MadeOf kind s)
    (hpieces : ∀ piece ∈ pieces, ∀ c ∈ piece, inPathSet c = false → kind c) :
    ∀ s ∈ follow .web path pieces, MadeOf kind s := by
  have hadd : ∀ path : List String, (∀ s ∈ path, MadeOf kind s) → ∀ t, MadeOf kind t →
      ∀ s ∈ path ++ [t], MadeOf kind s := by
    intro path hpath t ht s hs
    obtain hs | hs := List.mem_append.1 hs
    · exact hpath s hs
    · rw [List.mem_singleton] at hs
      exact hs ▸ ht
  induction pieces generalizing path with
  | nil => exact hpath
  | cons piece rest ih =>
    obtain ⟨hpiece, hrest⟩ := List.forall_mem_cons.1 hpieces
    have hshorten : ∀ s ∈ shorten .web path, MadeOf kind s :=
      fun s hs => hpath s (mem_of_mem_shorten hs)
    rw [Url.follow]
    dsimp only
    split
    · refine ih ?_ hrest
      split
      · exact hadd _ hshorten "" madeOf_empty
      · exact hshorten
    · split
      · refine ih ?_ hrest
        split
        · exact hadd _ hpath "" madeOf_empty
        · exact hpath
      · exact ih (hadd _ hpath _ (h.percentEncode hpiece)) hrest

/-- The path that a text names from a directory. Slashes do not get into its segments. -/
theorem Covers.pathFrom (h : Covers kind) (hset : ∀ c, c ≠ '/' → inPathSet c = false → kind c)
    {directory : List String} (hdirectory : ∀ s ∈ directory, MadeOf kind s) (cs : List Char) :
    ∃ items, pathFrom .web directory cs = .segments items ∧ ∀ s ∈ items, MadeOf kind s := by
  refine ⟨_, rfl, h.follow hdirectory fun piece hpiece c hc => hset c ?_⟩
  have hslash := (mem_of_mem_splitOnP hpiece c hc).2
  rintro rfl
  simp [SchemeKind.isSlash] at hslash

theorem Covers.pathAfterHost (h : Covers kind)
    (hset : ∀ c, c ≠ '/' → inPathSet c = false → kind c) (cs : List Char) :
    ∃ items, pathAfterHost .web cs = .segments items ∧ ∀ s ∈ items, MadeOf kind s := by
  unfold Url.pathAfterHost
  split
  · exact ⟨_, rfl, List.forall_mem_singleton.2 madeOf_empty⟩
  · exact h.pathFrom hset (List.forall_mem_nil _) _

end PriceTracker.Url
