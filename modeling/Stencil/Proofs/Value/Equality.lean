import Mathlib.Data.List.Forall2
import Stencil.Proofs.Value.Distinct
import Stencil.Proofs.Value.Rounding

/-!
# When equality is symmetric

Equality goes down into lists, sets and records (`equal_iff_alike`). It is transitive unless a float
in the middle value is what two different integers are rounded to (`equal_trans`).

Equality of sets looks for each item of the first in the second. The items of a set are distinct, so
if equality of the items is transitive then no two of them are found in the same place, and since
there are equally many, the search succeeds in the other direction too. So equality is symmetric
unless two sets are compared of which one holds two integers and the other a float that both are
rounded to (`Blurs`).
-/

namespace Stencil.Value

variable {a b c v w : Value}

/-! ## Parts -/

/-- The values that a value is made of directly. -/
def parts : Value → List Value
  | list _ items => items
  | set _ items => items
  | record _ fields => fields.map Prod.snd
  | _ => []

theorem mem_parts_record {i : Identity} {fields : List (String × Value)} {f : String × Value}
    (h : f ∈ fields) : f.2 ∈ (record i fields).parts :=
  List.mem_map_of_mem h

/-- The value stands somewhere in the other one, at any depth. -/
inductive StandsIn (v : Value) : Value → Prop
  | self : StandsIn v v
  | part {u w : Value} (hw : w ∈ u.parts) (h : StandsIn v w) : StandsIn v u

/-- What stands in a part stands in the whole. -/
theorem StandsIn.trans {u : Value} (h : StandsIn v w) (hw : StandsIn w u) : StandsIn v u := by
  induction hw with
  | self => exact h
  | part hw _ ih => exact .part hw ih

theorem standsIn_iff : StandsIn v w ↔ v = w ∨ ∃ u ∈ w.parts, StandsIn v u := by
  constructor
  · rintro (_ | ⟨hu, h⟩)
    · exact .inl rfl
    · exact .inr ⟨_, hu, h⟩
  · rintro (rfl | ⟨u, hu, h⟩)
    · exact .self
    · exact .part hu h

theorem standsIn_of_parts_eq_nil (h : w.parts = []) : StandsIn v w ↔ v = w := by
  rw [standsIn_iff, h]
  simp

@[simp] theorem standsIn_int {n : Int64} : StandsIn v (int n) ↔ v = int n :=
  standsIn_of_parts_eq_nil rfl

@[simp] theorem standsIn_float {x : Float} : StandsIn v (float x) ↔ v = float x :=
  standsIn_of_parts_eq_nil rfl

@[simp] theorem standsIn_list {id : Identity} {items : List Value} :
    StandsIn v (list id items) ↔ v = list id items ∨ ∃ w ∈ items, StandsIn v w :=
  standsIn_iff

@[simp] theorem standsIn_set {id : Identity} {items : List Value} :
    StandsIn v (set id items) ↔ v = set id items ∨ ∃ w ∈ items, StandsIn v w :=
  standsIn_iff

/-- Parts are smaller, so that a recursion into them ends. -/
theorem sizeOf_lt_of_mem_parts (h : w ∈ v.parts) : sizeOf w < sizeOf v := by
  cases v with
  | list id items =>
    have hlt : sizeOf w < sizeOf items := List.sizeOf_lt_of_mem h
    simp only [list.sizeOf_spec]
    omega
  | set id items =>
    have hlt : sizeOf w < sizeOf items := List.sizeOf_lt_of_mem h
    simp only [set.sizeOf_spec]
    omega
  | record id fields =>
    obtain ⟨⟨name, u⟩, hmem, rfl⟩ := List.mem_map.1 h
    have hlt := List.sizeOf_lt_of_mem hmem
    simp only [record.sizeOf_spec, Prod.mk.sizeOf_spec] at hlt ⊢
    omega
  | _ => cases h

/-- What holds of a value if it holds of its parts holds of all values. -/
@[elab_as_elim]
theorem induction_parts {motive : Value → Prop}
    (step : ∀ v, (∀ w ∈ v.parts, motive w) → motive v) (v : Value) : motive v :=
  step v fun w hw =>
    have := sizeOf_lt_of_mem_parts hw
    induction_parts step w
termination_by sizeOf v

/-! ## One level of equality -/

/-- Values that hold the same if their parts are compared by `R`. -/
inductive Alike (R : Value → Value → Prop) : Value → Value → Prop
  | null : Alike R null null
  | bool (b : Bool) : Alike R (bool b) (bool b)
  | str (s : String) : Alike R (str s) (str s)
  | callable (id : Identity) (f g : Function) : Alike R (callable id f) (callable id g)
  | int (n : Int64) : Alike R (int n) (int n)
  | float {x y : Float} (h : (x == y) = true) : Alike R (float x) (float y)
  | intFloat {n : Int64} {x : Float} (h : (rounded n == x) = true) : Alike R (int n) (float x)
  | floatInt {x : Float} {n : Int64} (h : (x == rounded n) = true) : Alike R (float x) (int n)
  | list {i j : Identity} {as bs : List Value} (h : List.Forall₂ R as bs) :
    Alike R (list i as) (list j bs)
  | set {i j : Identity} {as bs : List Value} (hlength : as.length = bs.length)
    (h : ∀ v ∈ as, ∃ w ∈ bs, R w v) : Alike R (set i as) (set j bs)
  | record {i j : Identity} {fs gs : List (String × Value)}
    (h : List.Forall₂ (fun f g => f.1 = g.1 ∧ R f.2 g.2) fs gs) :
    Alike R (record i fs) (record j gs)

theorem equalItems_iff {as bs : List Value} :
    equalItems as bs = true ↔ List.Forall₂ (fun v w => equal v w = true) as bs := by
  induction as generalizing bs with
  | nil => cases bs <;> simp [equalItems]
  | cons v as ih => cases bs <;> simp [equalItems, ih]

theorem equalFields_iff {fs gs : List (String × Value)} :
    equalFields fs gs = true ↔
      List.Forall₂ (fun f g => f.1 = g.1 ∧ equal f.2 g.2 = true) fs gs := by
  induction fs generalizing gs with
  | nil => cases gs <;> simp [equalFields]
  | cons f fs ih =>
    cases gs with
    | nil => simp [equalFields]
    | cons g gs =>
      obtain ⟨m, v⟩ := f
      obtain ⟨n, w⟩ := g
      simp [equalFields, ih]

/-- Values that are equal hold the same, with equal parts. -/
theorem alike_of_equal (h : equal a b = true) : Alike (fun v w => equal v w = true) a b := by
  cases a with
  | null =>
    cases b with
    | null => exact .null
    | _ => simp [equal, number?] at h
  | bool x =>
    cases b with
    | bool y =>
      obtain rfl : x = y := by simpa [equal] using h
      exact .bool x
    | _ => simp [equal, number?] at h
  | str s =>
    cases b with
    | str t =>
      obtain rfl : s = t := by simpa [equal] using h
      exact .str s
    | _ => simp [equal, number?] at h
  | callable i f =>
    cases b with
    | callable j g =>
      obtain rfl : i = j := by simpa [equal] using h
      exact .callable i f g
    | _ => simp [equal, number?] at h
  | int m =>
    cases b with
    | int n =>
      obtain rfl : m = n := by simpa [equal] using h
      exact .int m
    | float x => exact .intFloat (by simpa [equal, number?] using h)
    | _ => simp [equal, number?] at h
  | float x =>
    cases b with
    | int n => exact .floatInt (by simpa [equal, number?] using h)
    | float y => exact .float (by simpa [equal, number?] using h)
    | _ => simp [equal, number?] at h
  | list i as =>
    cases b with
    | list j bs =>
      rw [equal, equalItems_iff] at h
      exact .list h
    | _ => simp [equal, number?] at h
  | set i as =>
    cases b with
    | set j bs =>
      rw [equal, Bool.and_eq_true, beq_iff_eq, coveredBy_iff] at h
      exact .set h.1 h.2
    | _ => simp [equal, number?] at h
  | record i fs =>
    cases b with
    | record j gs =>
      rw [equal, equalFields_iff] at h
      exact .record h
    | _ => simp [equal, number?] at h

/-- Values that hold the same, with equal parts, are equal. -/
theorem equal_of_alike (h : Alike (fun v w => equal v w = true) a b) : equal a b = true := by
  cases h with
  | null => simp [equal]
  | bool b => simp [equal]
  | str s => simp [equal]
  | callable id f g => simp [equal]
  | int n => simp [equal]
  | float h => simpa [equal, number?] using h
  | intFloat h => simpa [equal, number?] using h
  | floatInt h => simpa [equal, number?] using h
  | list h => rwa [equal, equalItems_iff]
  | set hlength h =>
    rw [equal, Bool.and_eq_true, beq_iff_eq, coveredBy_iff]
    exact ⟨hlength, h⟩
  | record h => rwa [equal, equalFields_iff]

/-- Equality is one step of comparing, with itself for the parts. -/
theorem equal_iff_alike : equal a b = true ↔ Alike (fun v w => equal v w = true) a b :=
  ⟨alike_of_equal, equal_of_alike⟩

/-! ## Transitivity -/

/-- Two lists that are related item by item to the same third one are related to each other. -/
theorem forall₂_trans {α β γ : Type} {R : α → β → Prop} {S : β → γ → Prop} {T : α → γ → Prop}
    {as : List α} {bs : List β} {cs : List γ}
    (h : ∀ a ∈ as, ∀ b ∈ bs, ∀ c ∈ cs, R a b → S b c → T a c) (hR : List.Forall₂ R as bs)
    (hS : List.Forall₂ S bs cs) : List.Forall₂ T as cs := by
  induction hR generalizing cs with
  | nil =>
    cases hS
    exact .nil
  | @cons a b as bs hab hR ih =>
    cases hS with
    | @cons _ c _ cs hbc hS =>
      constructor
      · exact h a (.head as) b (.head bs) c (.head cs) hab hbc
      · refine ih (fun a' ha b' hb c' hc => ?_) hS
        exact h a' (.tail a ha) b' (.tail b hb) c' (.tail c hc)

/-- No float in `b` is what an integer in `a` and a different one in `c` are rounded to. -/
def TellsApart (a b c : Value) : Prop :=
  ∀ m n x, StandsIn (int m) a → StandsIn (float x) b → StandsIn (int n) c →
    (rounded m == x) = true → (x == rounded n) = true → m = n

/-- Values that can be told apart have parts that can. -/
theorem TellsApart.parts (h : TellsApart a b c) {u v w : Value} (hu : u ∈ a.parts)
    (hv : v ∈ b.parts) (hw : w ∈ c.parts) : TellsApart u v w :=
  fun m n x hm hx hn => h m n x (.part hu hm) (.part hv hx) (.part hw hn)

theorem TellsApart.swap (h : TellsApart a b c) : TellsApart c b a :=
  fun m n x hm hx hn hmx hxn => (h n m x hn hx hm (BEq.symm hxn) (BEq.symm hmx)).symm

/-- Equality is transitive where no float in the middle is equal to an integer on the one side and to
a different one on the other. -/
theorem equal_trans (h : TellsApart a b c) (hab : equal a b = true) (hbc : equal b c = true) :
    equal a c = true := by
  induction b using induction_parts generalizing a c with
  | step b ih =>
    rw [equal_iff_alike] at hab hbc ⊢
    cases hab with
    | null => exact hbc
    | bool x => exact hbc
    | str s => exact hbc
    | callable id f g => cases hbc; exact .callable ..
    | int n => exact hbc
    | float hxy =>
      cases hbc with
      | float hyz => exact .float (BEq.trans hxy hyz)
      | floatInt hyn => exact .floatInt (BEq.trans hxy hyn)
    | intFloat hmx =>
      cases hbc with
      | float hxy => exact .intFloat (BEq.trans hmx hxy)
      | floatInt hxn =>
        obtain rfl := h _ _ _ .self .self .self hmx hxn
        exact .int _
    | floatInt hxn =>
      cases hbc with
      | int => exact .floatInt hxn
      | intFloat hny => exact .float (BEq.trans hxn hny)
    | @list i j as bs hitems =>
      cases hbc with
      | @list _ k _ cs hitems' =>
        refine .list (forall₂_trans ?_ hitems hitems')
        intro u hu v hv w hw
        exact ih v hv (h.parts hu hv hw)
    | @record i j as bs hitems =>
      cases hbc with
      | @record _ k _ cs hitems' =>
        refine .record (forall₂_trans ?_ hitems hitems')
        rintro f hf g hg e he ⟨hname, hfg⟩ ⟨hname', hge⟩
        have htells := h.parts (mem_parts_record hf) (mem_parts_record hg) (mem_parts_record he)
        exact ⟨hname.trans hname', ih g.2 (mem_parts_record hg) htells hfg hge⟩
    | @set i j as bs hlength hitems =>
      cases hbc with
      | @set _ k _ cs hlength' hitems' =>
        refine .set (hlength.trans hlength') ?_
        intro u hu
        obtain ⟨v, hv, hvu⟩ := hitems u hu
        obtain ⟨w, hw, hwv⟩ := hitems' v hv
        exact ⟨w, hw, ih v hv (h.parts hu hv hw).swap hwv hvu⟩

/-! ## Symmetry -/

/-- Values as they can be built: a set holds the distinct ones of a list of items. -/
inductive Built : Value → Prop
  | null : Built null
  | bool (b : Bool) : Built (bool b)
  | int (n : Int64) : Built (int n)
  | float (x : Float) : Built (float x)
  | str (s : String) : Built (str s)
  | callable (id : Identity) (f : Function) : Built (callable id f)
  | list (id : Identity) {items : List Value} (h : ∀ v ∈ items, Built v) : Built (list id items)
  | set (id : Identity) {items : List Value} (h : ∀ v ∈ items, Built v) :
    Built (ofDistinct id items)
  | record (id : Identity) {fields : List (String × Value)} (h : ∀ f ∈ fields, Built f.2) :
    Built (record id fields)

/-- Parts of values that can be built can be built. -/
theorem Built.of_mem_parts (hv : Built v) (hw : w ∈ v.parts) : Built w := by
  cases hv with
  | list id h => exact h w hw
  | set id h => exact h w ((distinct_sublist _).subset hw)
  | record id h =>
    obtain ⟨f, hf, rfl⟩ := List.mem_map.1 hw
    exact h f hf
  | _ => cases hw

/-- No two items of a set are equal. -/
theorem Built.pairwise {id : Identity} {items : List Value} (h : Built (.set id items)) :
    items.Pairwise fun v w => ¬equal v w = true := by
  generalize hs : Value.set id items = s at h
  cases h with
  | @set id' items' h =>
    rw [ofDistinct, set.injEq] at hs
    rw [hs.2]
    exact pairwise_distinct items'
  | _ => cases hs

/-- In `s` stand two different integers, and in `t` a float that both are rounded to. -/
def Confuses (s t : Value) : Prop :=
  ∃ m n x, m ≠ n ∧ StandsIn (int m) s ∧ StandsIn (int n) s ∧ StandsIn (float x) t ∧
    (rounded m == x) = true ∧ (x == rounded n) = true

/-- Of two sets, one in each of the values, one holds two different integers, and the other one a
float that both are rounded to. -/
def Blurs (a b : Value) : Prop :=
  ∃ i as j bs, StandsIn (set i as) a ∧ StandsIn (set j bs) b ∧
    (Confuses (set i as) (set j bs) ∨ Confuses (set j bs) (set i as))

theorem Blurs.symm (h : Blurs a b) : Blurs b a := by
  obtain ⟨i, as, j, bs, ha, hb, hconfuses⟩ := h
  exact ⟨j, bs, i, as, hb, ha, hconfuses.symm⟩

/-- If two parts blur, then so do the values. -/
theorem Blurs.of_parts (hv : v ∈ a.parts) (hw : w ∈ b.parts) (h : Blurs v w) : Blurs a b := by
  obtain ⟨i, as, j, bs, ha, hb, hconfuses⟩ := h
  exact ⟨i, as, j, bs, .part hv ha, .part hw hb, hconfuses⟩

/-- The items of two sets that do not confuse each other can be told apart. -/
theorem tellsApart_of_not_confuses {s t : Value} (h : ¬Confuses s t) {u v w : Value}
    (hu : u ∈ s.parts) (hv : v ∈ t.parts) (hw : w ∈ s.parts) : TellsApart u v w := by
  intro m n x hm hx hn hmx hxn
  by_contra hne
  exact h ⟨m, n, x, hne, .part hu hm, .part hw hn, .part hv hx, hmx, hxn⟩

/-- Items that are related one way are related the other way if each pair of them is. -/
theorem forall₂_symm {α β : Type} {R : α → β → Prop} {S : β → α → Prop} {as : List α} {bs : List β}
    (h : ∀ a ∈ as, ∀ b ∈ bs, R a b → S b a) (hR : List.Forall₂ R as bs) :
    List.Forall₂ S bs as := by
  induction hR with
  | nil => exact .nil
  | @cons a b as bs hab hR ih =>
    constructor
    · exact h a (.head as) b (.head bs) hab
    · exact ih fun a' ha b' hb => h a' (.tail a ha) b' (.tail b hb)

/-- Equality turns around if that of the parts does. -/
theorem equal_symm_of_parts (ha : Built a) (hblurs : ¬Blurs a b)
    (hparts : ∀ v ∈ a.parts, ∀ w ∈ b.parts, equal v w = true ↔ equal w v = true)
    (h : equal a b = true) : equal b a = true := by
  rw [equal_iff_alike] at h ⊢
  cases h with
  | null => exact .null
  | bool x => exact .bool x
  | str s => exact .str s
  | callable id f g => exact .callable id g f
  | int n => exact .int n
  | float h => exact .float (BEq.symm h)
  | intFloat h => exact .floatInt (BEq.symm h)
  | floatInt h => exact .intFloat (BEq.symm h)
  | list h => exact .list (forall₂_symm (fun v hv w hw => (hparts v hv w hw).1) h)
  | record h =>
    refine .record (forall₂_symm ?_ h)
    rintro f hf g hg ⟨hname, hfg⟩
    exact ⟨hname.symm, (hparts _ (mem_parts_record hf) _ (mem_parts_record hg)).1 hfg⟩
  | @set i j as bs hlength h =>
    -- No item of `bs` equals two items of `as`, or these would be equal.
    have hapart : as.Pairwise fun v v' => ∀ w ∈ bs, equal w v = true → ¬equal w v' = true := by
      refine ha.pairwise.imp_of_mem ?_
      intro v v' hv hv' hne w hw hwv hwv'
      have htells := tellsApart_of_not_confuses
        (fun hc => hblurs ⟨i, as, j, bs, .self, .self, .inl hc⟩) hv hw hv'
      exact hne (equal_trans htells ((hparts v hv w hw).2 hwv) hwv')
    refine .set hlength.symm ?_
    intro w hw
    obtain ⟨v, hv, hwv⟩ := exists_of_matched hlength.ge h hapart w hw
    exact ⟨v, hv, (hparts v hv w hw).2 hwv⟩

/-- For values that can be built and do not blur, either both ways of comparing them succeed or
none. -/
theorem equal_symm_iff (ha : Built a) (hb : Built b) (h : ¬Blurs a b) :
    equal a b = true ↔ equal b a = true := by
  induction a using induction_parts generalizing b with
  | step a ih =>
    have hparts : ∀ v ∈ a.parts, ∀ w ∈ b.parts, equal v w = true ↔ equal w v = true := by
      intro v hv w hw
      exact ih v hv (ha.of_mem_parts hv) (hb.of_mem_parts hw) fun hvw => h (.of_parts hv hw hvw)
    constructor
    · exact equal_symm_of_parts ha h hparts
    · exact equal_symm_of_parts hb (fun hba => h hba.symm) fun w hw v hv => (hparts v hv w hw).symm

/-- Equality is symmetric, unless two sets are compared of which one holds two integers that a float
in the other one equals. -/
theorem equal_comm (ha : Built a) (hb : Built b) (h : ¬Blurs a b) : equal a b = equal b a :=
  Bool.eq_iff_iff.2 (equal_symm_iff ha hb h)

/-- An integer equals a float that stands inside of a list in the other set, and the other way
around. -/
theorem equal_comm_of_mixed :
    let a := ofDistinct (.given [0]) [int 1, list (.given [1]) [float (rounded 2)]]
    let b := ofDistinct (.given [2]) [list (.given [3]) [int 2], float (rounded 1)]
    Built a ∧ Built b ∧ ¬Blurs a b ∧ equal a b = equal b a ∧ equal b a = true := by
  intro a b
  have ha : Built a := .set _ (by simp [Built.int, Built.list, Built.float])
  have hb : Built b := .set _ (by simp [Built.int, Built.list, Built.float])
  have hints : (∀ m, StandsIn (int m) a → m = 1) ∧ ∀ m, StandsIn (int m) b → m = 2 := by
    simp [a, b, ofDistinct, distinct_eq_self, equal, number?]
  have hblurs : ¬Blurs a b := by
    rintro ⟨i, as, j, bs, hs, ht, ⟨m, n, x, hne, hm, hn, -⟩ | ⟨m, n, x, hne, hm, hn, -⟩⟩
    · exact hne ((hints.1 m (hm.trans hs)).trans (hints.1 n (hn.trans hs)).symm)
    · exact hne ((hints.2 m (hm.trans ht)).trans (hints.2 n (hn.trans ht)).symm)
  have hone : (rounded 1 == rounded 1) = true := (rounded_beq_iff _ _).2 rfl
  have htwo : (rounded 2 == rounded 2) = true := (rounded_beq_iff _ _).2 rfl
  have hequal : equal b a = true := by
    simp [a, b, ofDistinct, distinct_eq_self, equal, coveredBy, within, equalItems, number?, hone,
      htwo]
  exact ⟨ha, hb, hblurs, equal_comm ha hb hblurs, hequal⟩

/-- A float equals two different integers, so that a set with both has each of its items in a set
with the float, but not the other way around. -/
theorem equal_not_comm :
    let a := ofDistinct (.given [0]) [int 9007199254740992, int 9007199254740993]
    let b := ofDistinct (.given [1]) [float (rounded 9007199254740992), str "x"]
    Built a ∧ Built b ∧ equal a b = true ∧ equal b a = false := by
  intro a b
  have hsame : (rounded 9007199254740992 == rounded 9007199254740992) = true :=
    (rounded_beq_iff _ _).2 rfl
  have hblur : (rounded 9007199254740992 == rounded 9007199254740993) = true :=
    (rounded_beq_iff _ _).2 (by decide)
  have ha : a = set (.given [0]) [int 9007199254740992, int 9007199254740993] :=
    congrArg _ (distinct_eq_self (by simp [equal]))
  have hb : b = set (.given [1]) [float (rounded 9007199254740992), str "x"] :=
    congrArg _ (distinct_eq_self (by simp [equal, number?]))
  refine ⟨.set _ ?_, .set _ ?_, ?_, ?_⟩
  · simp [Built.int]
  · simp [Built.float, Built.str]
  · rw [ha, hb]
    simp [equal, coveredBy, within, number?, hsame, hblur]
  · rw [ha, hb]
    simp [equal, coveredBy, within, number?]

end Stencil.Value
