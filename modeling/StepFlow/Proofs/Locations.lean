import StepFlow.Proofs.PathReading

/-
  StepFlow.Proofs.Locations
  ─────────────────────────
  Every location has a path.

  A location in a value is a list of places: keys of objects and indices of lists.
  Written as text, a place is a segment of a path; a key is its own text, an index is
  written in decimal digits.

  A segment leads to the place that it is the text of: digits read back as the number
  they were made from (`word?_natDigits`), and segments that hold no point come apart
  again where they were joined (`segments_intercalate`).

  `locations_addressable`: the path of a location leads to exactly what stands there,
  and a walk along two lists of segments is a walk along the first and then one along
  the second.
-/

namespace StepFlow

namespace Path

/-! ## §1. Places and their texts -/

/-- One step of the way into a value. -/
inductive Place where
  /-- To the member under a key.  A key with a point in it has no path. -/
  | key (name : String) (noPoint : '.' ∉ name.toList)
  /-- To the item at an index.  An index is a word, as the length of a list is. -/
  | index (i : UInt64)

/-- A place as a segment of a path. -/
def Place.text : Place → String
  | .key name _ => name
  | .index i => String.ofList (Number.natDigits i.toNat)

/-- The path of a location in the state: `$.` and its places, joined by points. -/
def ofPlaces (places : List Place) : String :=
  "$." ++ String.intercalate "." (places.map Place.text)

end Path

open StepFlow.Path

/-- What stands at a location in a value. -/
inductive Value.LeadsTo : Value → List Place → Value → Prop where
  /-- The value itself. -/
  | here (v : Value) : LeadsTo v [] v
  /-- Through a member of an object. -/
  | member {members : List (String × Value)} {name : String} {noPoint : '.' ∉ name.toList}
      {part w : Value} {places : List Place} (hget : Dict.get? members name = some part)
      (h : LeadsTo part places w) : LeadsTo (.obj members) (.key name noPoint :: places) w
  /-- Through an item of a list. -/
  | item {items : List Value} {i : UInt64} {part w : Value} {places : List Place}
      (hget : items[i.toNat]? = some part) (h : LeadsTo part places w) :
      LeadsTo (.arr items) (.index i :: places) w

namespace Path

/-! ## §2. Digits -/

theorem isDigit_of_mem_natDigits {n : Nat} {c : Char} (h : c ∈ Number.natDigits n) :
    c.isDigit = true :=
  Nat.isDigit_of_mem_toDigits (by decide) (by decide) h

theorem digitsValue_natDigits (n : Nat) : digitsValue (Number.natDigits n) = n := by
  have hstep : (fun (m : Nat) (d : Char) => m * 10 + (d.toNat - '0'.toNat)) =
      fun m d => 10 * m + (d.toNat - '0'.toNat) := by
    funext m d
    rw [Nat.mul_comm]
  unfold digitsValue Number.natDigits
  rw [hstep, ← Nat.ofDigitChars_eq_foldl]
  exact Nat.ofDigitChars_ten_toDigits

/-- The decimal digits of a word are read as that word. -/
theorem word?_natDigits {n : Nat} (hn : n < twoPow 64) :
    word? (String.ofList (Number.natDigits n)) = some n := by
  have hne : Number.natDigits n ≠ [] := Nat.toDigits_ne_nil
  have hall : (Number.natDigits n).all Char.isDigit = true :=
    List.all_eq_true.mpr fun c hc => isDigit_of_mem_natDigits hc
  unfold word?
  rw [String.toList_ofList]
  dsimp only
  split
  · next ds hplus =>
      -- a plus may come before the digits, but it is none of them
      have hdigit : '+'.isDigit = true := by
        apply isDigit_of_mem_natDigits (n := n)
        rw [hplus]
        exact List.mem_cons_self
      cases hdigit
  · simp [hne, hall, digitsValue_natDigits, hn]

theorem toNat_lt_twoPow (i : UInt64) : i.toNat < twoPow 64 :=
  i.toNat_lt

/-! ## §3. Joining segments -/

theorem Place.not_mem_text (p : Place) : '.' ∉ p.text.toList := by
  cases p with
  | key name noPoint => exact noPoint
  | index i =>
      intro hpoint
      have hdigit : '.'.isDigit = true := by
        apply isDigit_of_mem_natDigits (n := i.toNat)
        simpa [Place.text] using hpoint
      cases hdigit

/-- Segments without points come apart where they were joined. -/
theorem segments_intercalate {parts : List String} (hne : parts ≠ [])
    (hparts : ∀ part ∈ parts, '.' ∉ part.toList) :
    segments (String.intercalate "." parts) = parts := by
  have hlists : (parts.map String.toList) ≠ [] := by simpa using hne
  have hpoints : ∀ cs ∈ parts.map String.toList, '.' ∉ cs := by
    intro cs hcs
    obtain ⟨part, hpart, rfl⟩ := List.mem_map.mp hcs
    exact hparts part hpart
  unfold segments
  rw [splitDots_eq_splitOn, String.toList_intercalate]
  show List.map String.ofList ((['.'].intercalate (parts.map String.toList)).splitOn '.') = parts
  rw [List.splitOn_intercalate '.' hpoints hlists, List.map_map]
  simp

theorem segments_texts {places : List Place} (hne : places ≠ []) :
    segments (String.intercalate "." (places.map Place.text)) = places.map Place.text := by
  apply segments_intercalate
  · simpa using hne
  · intro part hpart
    obtain ⟨p, -, rfl⟩ := List.mem_map.mp hpart
    exact p.not_mem_text

/-! ## §4. Following the texts of places -/

/-- The segments of a location lead to what stands there. -/
theorem select_texts {v w : Value} {places : List Place} (h : v.LeadsTo places w) :
    select v (places.map Place.text) = some w := by
  -- on the way: each place is entered by its own text
  induction h with
  | here v => rfl
  | @member members name noPoint part w places hget h ih =>
      show select (.obj members) (name :: places.map Place.text) = some w
      rw [select_cons]
      show (Dict.get? members name).bind _ = some w
      rw [hget]
      exact ih
  | @item items i part w places hget h ih =>
      have henter : enter (.arr items) (Place.index i).text = some part := by
        show (word? (String.ofList (Number.natDigits i.toNat))).bind _ = some part
        rw [word?_natDigits (toNat_lt_twoPow i)]
        exact hget
      show select (.arr items) ((Place.index i).text :: places.map Place.text) = some w
      rw [select_cons, henter]
      exact ih

/-- A walk in two parts leads nowhere exactly if one of the parts does. -/
theorem select_append_eq_none_iff (v : Value) (first second : List String) :
    select v (first ++ second) = none ↔
      select v first = none ∨ ∃ w, select v first = some w ∧ select w second = none := by
  rw [select_append]
  cases select v first with
  | none => simp
  | some w => simp

end Path

namespace Roots

/-- The path of a location in the state leads to what stands there. -/
theorem resolve_ofPlaces (r : Roots) {places : List Place} {w : Value} (hne : places ≠ [])
    (h : (Value.obj r.state).LeadsTo places w) : r.resolve (ofPlaces places) = some w := by
  have hname : '.' ∉ "$".toList := by decide
  show r.resolve ("$" ++ "." ++ String.intercalate "." (places.map Place.text)) = some w
  rw [resolve_below r hname, segments_texts hne]
  exact select_texts h

/-- **Every location is addressable, and paths compose.**  From a state, the path made of the keys
and the decimal indices of a location leads to exactly what stands there.  Following two lists of
segments, one after the other, is following both at once, and that leads nowhere exactly if one
of the two does. -/
theorem locations_addressable :
    (∀ (r : Roots) (places : List Place) (w : Value), places ≠ [] →
      (Value.obj r.state).LeadsTo places w → r.resolve (ofPlaces places) = some w) ∧
    ∀ (v : Value) (first second : List String),
      select v (first ++ second) = ((select v first).bind fun w => select w second) ∧
        (select v (first ++ second) = none ↔
          select v first = none ∨ ∃ w, select v first = some w ∧ select w second = none) := by
  constructor
  · intro r places w hne h
    exact r.resolve_ofPlaces hne h
  · intro v first second
    exact ⟨select_append v first second, select_append_eq_none_iff v first second⟩

/-- A state with an empty key and a list of eleven items under it. -/
def deepRoots : Roots :=
  ⟨[("a", .obj [("", .arr (List.replicate 10 .null ++ [.obj [("0", .str "here")]]))])], []⟩

/-- Through an empty key and an index of two digits to a key that looks like an index. -/
def deepPlaces : List Place :=
  [.key "a" (by decide), .key "" (by decide), .index 10, .key "0" (by decide)]

theorem deepPlaces_addressable :
    ofPlaces deepPlaces = "$.a..10.0" ∧ deepRoots.resolve (ofPlaces deepPlaces) = some (.str "here") ∧
      Path.select (.obj deepRoots.state) (["a", ""] ++ ["11"]) = none := by
  have hleads : (Value.obj deepRoots.state).LeadsTo deepPlaces (.str "here") :=
    .member rfl (.member rfl (.item rfl (.member rfl (.here _))))
  obtain ⟨hresolve, hselect⟩ := locations_addressable
  refine ⟨by decide, hresolve deepRoots deepPlaces _ (by simp [deepPlaces]) hleads, ?_⟩
  exact (hselect _ ["a", ""] ["11"]).2.mpr (.inr ⟨_, rfl, by decide⟩)

end Roots

end StepFlow
