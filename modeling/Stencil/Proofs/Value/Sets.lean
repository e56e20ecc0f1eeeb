import Stencil.Proofs.Value.Equality

/-!
# Sets without floats

Without floats equality is an equivalence (`equivalence_equal`), at any depth and whatever sets
there are. A set then holds the first item of each class (`distinct_eq_firsts`), and two sets are
equal iff the items that they were built from belong to the same classes, however often and in
whichever order (`equal_ofDistinct_iff`).
-/

namespace Stencil.Value

variable {a b c v w : Value} {xs ys : List Value} {i j : Identity}

/-- A value that can be built and in which no float stands. -/
structure Plain (v : Value) : Prop where
  built : Built v
  noFloat : ∀ x, ¬StandsIn (float x) v

namespace Plain

theorem of_mem_parts (h : Plain v) (hw : w ∈ v.parts) : Plain w :=
  ⟨h.built.of_mem_parts hw, fun x hx => h.noFloat x (.part hw hx)⟩

theorem int (n : Int64) : Plain (int n) := ⟨.int n, by simp⟩

theorem ofDistinct (i : Identity) (h : ∀ v ∈ xs, Plain v) : Plain (ofDistinct i xs) := by
  constructor
  · exact .set i fun v hv => (h v hv).built
  · rintro x (_ | ⟨hw, hx⟩)
    exact (h _ ((distinct_sublist xs).subset hw)).noFloat x hx

/-- A plain value is equal to itself. -/
theorem equal_self (h : Plain v) : equal v v = true := by
  induction v using induction_parts with
  | step v ih =>
    have hparts : ∀ w ∈ v.parts, equal w w = true := fun w hw => ih w hw (h.of_mem_parts hw)
    rw [equal_iff_alike]
    cases v with
    | null => exact .null
    | bool b => exact .bool b
    | int n => exact .int n
    | str s => exact .str s
    | callable i f => exact .callable i f f
    | float x => exact absurd .self (h.noFloat x)
    | list i items => exact .list (List.forall₂_same.2 hparts)
    | set i items => exact .set rfl fun w hw => ⟨w, hw, hparts w hw⟩
    | record i fields =>
      exact .record (List.forall₂_same.2 fun f hf => ⟨rfl, hparts f.2 (mem_parts_record hf)⟩)

/-- Plain values have no floats in them, so rounding blurs nothing. -/
theorem not_blurs (ha : Plain a) (hb : Plain b) : ¬Blurs a b := by
  rintro ⟨i, as, j, bs, hs, ht, ⟨m, n, x, -, -, -, hx, -⟩ | ⟨m, n, x, -, -, -, hx, -⟩⟩
  · exact hb.noFloat x (hx.trans ht)
  · exact ha.noFloat x (hx.trans hs)

theorem symm (ha : Plain a) (hb : Plain b) (h : equal a b = true) : equal b a = true :=
  (equal_symm_iff ha.built hb.built (ha.not_blurs hb)).1 h

theorem trans (hb : Plain b) (hab : equal a b = true) (hbc : equal b c = true) :
    equal a c = true :=
  equal_trans (fun _ _ x _ hx => absurd hx (hb.noFloat x)) hab hbc

end Plain

/-- Equality of plain values is an equivalence. -/
theorem equivalence_equal : Equivalence fun v w : {v // Plain v} => equal v.1 w.1 = true where
  refl v := v.2.equal_self
  symm {v w} h := v.2.symm w.2 h
  trans {_ v _} h h' := v.2.trans h h'

/-! ## What a set holds -/

/-- The items that none before them equals. -/
def firsts (xs : List Value) : List Value :=
  (xs.zipIdx.filter fun p => !p.1.within (xs.take p.2)).map Prod.fst

/-- Another value is a new first one unless there is an equal one already. -/
theorem firsts_append_singleton (xs : List Value) (v : Value) :
    firsts (xs ++ [v]) = if v.within xs then firsts xs else firsts xs ++ [v] := by
  have hfront : ∀ p ∈ xs.zipIdx, (xs ++ [v]).take p.2 = xs.take p.2 := by
    rintro ⟨w, i⟩ hp
    obtain ⟨-, hlt, -⟩ := List.mem_zipIdx hp
    exact List.take_append_of_le_length (by omega)
  have hold : (xs.zipIdx.filter fun p => !p.1.within ((xs ++ [v]).take p.2)) =
      xs.zipIdx.filter fun p => !p.1.within (xs.take p.2) :=
    List.filter_congr fun p hp => by rw [hfront p hp]
  rw [firsts, List.zipIdx_append, List.filter_append, List.map_append, hold, ← firsts]
  by_cases hv : v.within xs = true
  · simp [hv]
  · simp [hv]

/-- Every item equals one that is kept. -/
theorem exists_mem_distinct (hxs : ∀ v ∈ xs, Plain v) (hv : v ∈ xs) :
    ∃ w ∈ distinct xs, equal w v = true := by
  rcases mem_distinct_or hv with h | h
  · exact ⟨v, h, (hxs v hv).equal_self⟩
  · exact h

/-- An item is found among all items iff it is found among those that were kept. -/
theorem within_distinct (hxs : ∀ v ∈ xs, Plain v) (v : Value) :
    v.within (distinct xs) = v.within xs := by
  rw [Bool.eq_iff_iff, within_iff, within_iff]
  constructor
  · rintro ⟨w, hw, heq⟩
    exact ⟨w, (distinct_sublist xs).subset hw, heq⟩
  · rintro ⟨w, hw, heq⟩
    obtain ⟨u, hu, huw⟩ := exists_mem_distinct hxs hw
    exact ⟨u, hu, (hxs w hw).trans huw heq⟩

/-- A set holds the first of each class of equal values, in order. -/
theorem distinct_eq_firsts (hxs : ∀ v ∈ xs, Plain v) : distinct xs = firsts xs := by
  induction xs using List.reverseRecOn with
  | nil => rfl
  | append_singleton xs v ih =>
    rw [List.forall_mem_append] at hxs
    rw [distinct_append_singleton, firsts_append_singleton, within_distinct hxs.1, ih hxs.1]

/-- Building a set from the items of a set changes nothing. -/
theorem ofDistinct_of_built (h : Built (set i xs)) : ofDistinct i xs = set i xs :=
  congrArg (set i) (distinct_eq_self h.pairwise)

/-! ## When sets are equal -/

/-- Each item of the first list equals one of the second. -/
def Covers (xs ys : List Value) : Prop := ∀ v ∈ xs, ∃ w ∈ ys, equal v w = true

/-- Distinct items are covered by distinct ones. -/
theorem Covers.distinct (hys : ∀ w ∈ ys, Plain w) (hxs : ∀ v ∈ xs, Plain v) (h : Covers xs ys) :
    ∀ v ∈ distinct xs, ∃ w ∈ distinct ys, equal w v = true := by
  intro v hv
  have hv' := (distinct_sublist xs).subset hv
  obtain ⟨w, hw, hvw⟩ := h v hv'
  obtain ⟨u, hu, huw⟩ := exists_mem_distinct hys hw
  exact ⟨u, hu, (hys w hw).trans huw ((hxs v hv').symm (hys w hw) hvw)⟩

/-- Covering lists make sets with at least as many items. -/
theorem Covers.length_distinct_le (hxs : ∀ v ∈ xs, Plain v) (hys : ∀ w ∈ ys, Plain w)
    (h : Covers xs ys) : (Value.distinct xs).length ≤ (Value.distinct ys).length := by
  refine length_le_of_matched (h.distinct hys hxs) ((pairwise_distinct xs).imp_of_mem ?_)
  intro v v' hv _ hne w hw hwv hwv'
  have hw := hys w ((distinct_sublist ys).subset hw)
  have hv := hxs v ((distinct_sublist xs).subset hv)
  exact hne (hw.trans (hw.symm hv hwv) hwv')

theorem covers_of_equal (hxs : ∀ v ∈ xs, Plain v) (hys : ∀ w ∈ ys, Plain w)
    (h : equal (ofDistinct i xs) (ofDistinct j ys) = true) : Covers xs ys := by
  rw [equal_iff_alike] at h
  cases h with
  | set hlength hitems =>
    intro v hv
    obtain ⟨u, hu, huv⟩ := exists_mem_distinct hxs hv
    obtain ⟨w, hw, hwu⟩ := hitems u hu
    have hu := hxs u ((distinct_sublist xs).subset hu)
    have hw' := (distinct_sublist ys).subset hw
    exact ⟨w, hw', (hys w hw').symm (hxs v hv) (hu.trans hwu huv)⟩

/-- Sets are equal exactly if each covers the other. -/
theorem equal_ofDistinct_iff (hxs : ∀ v ∈ xs, Plain v) (hys : ∀ w ∈ ys, Plain w) :
    equal (ofDistinct i xs) (ofDistinct j ys) = true ↔ Covers xs ys ∧ Covers ys xs := by
  constructor
  · intro h
    have h' := (Plain.ofDistinct i hxs).symm (Plain.ofDistinct j hys) h
    exact ⟨covers_of_equal hxs hys h, covers_of_equal hys hxs h'⟩
  · rintro ⟨h, h'⟩
    rw [equal_iff_alike]
    have hle := h.length_distinct_le hxs hys
    have hge := h'.length_distinct_le hys hxs
    exact .set (le_antisymm hle hge) (h.distinct hys hxs)

/-- Without floats equality is an equivalence. Sets are equal iff each item that one was built from
equals one that the other was built from; a set holds the first item of each class, in order; and
building a set from the items of one gives the same again. -/
theorem equal_plain :
    (Equivalence fun v w : {v // Plain v} => equal v.1 w.1 = true) ∧
    (∀ i j xs ys, (∀ v ∈ xs, Plain v) → (∀ w ∈ ys, Plain w) →
      (equal (ofDistinct i xs) (ofDistinct j ys) = true ↔ Covers xs ys ∧ Covers ys xs)) ∧
    (∀ i xs, (∀ v ∈ xs, Plain v) → ofDistinct i xs = set i (firsts xs)) ∧
    ∀ i items, Built (set i items) → ofDistinct i items = set i items := by
  refine ⟨equivalence_equal, ?_, ?_, ?_⟩
  · intro i j xs ys hxs hys
    exact equal_ofDistinct_iff hxs hys
  · intro i xs hxs
    exact congrArg (set i) (distinct_eq_firsts hxs)
  · intro i items h
    exact ofDistinct_of_built h

/-- Two sets that hold a number and a set, given in different order and with a repetition. -/
theorem equal_plain_of_nested :
    let xs := [int 2, ofDistinct (.given [0]) [int 1, int 3], int 2]
    let ys := [ofDistinct (.given [1]) [int 3, int 1, int 3], int 2]
    (∀ v ∈ xs, Plain v) ∧ (∀ w ∈ ys, Plain w) ∧
      equal (ofDistinct (.given [2]) xs) (ofDistinct (.given [3]) ys) = true ∧
      ofDistinct (.given [2]) xs = set (.given [2]) [int 2, set (.given [0]) [int 1, int 3]] ∧
      ofDistinct (.given [0]) [int 1, int 3] = set (.given [0]) [int 1, int 3] := by
  intro xs ys
  have hxs : ∀ v ∈ xs, Plain v := by simp [xs, Plain.int, Plain.ofDistinct]
  have hys : ∀ w ∈ ys, Plain w := by simp [ys, Plain.int, Plain.ofDistinct]
  obtain ⟨-, hequal, hfirsts, hsame⟩ := equal_plain
  have hinner : distinct [int 1, int 3] = [int 1, int 3] := distinct_eq_self (by simp [equal])
  have hbuilt : Built (set (.given [0]) [int 1, int 3]) := by
    rw [← hinner]
    exact .set _ (by simp [Built.int])
  refine ⟨hxs, hys, (hequal _ _ xs ys hxs hys).2 ⟨?_, ?_⟩, ?_, hsame _ _ hbuilt⟩
  · simp [Covers, xs, ys, ofDistinct, distinct, equal, number?, coveredBy, within]
  · simp [Covers, xs, ys, ofDistinct, distinct, equal, number?, coveredBy, within]
  · rw [hfirsts _ xs hxs]
    simp [firsts, xs, ofDistinct, distinct, equal, number?, within]

end Stencil.Value
