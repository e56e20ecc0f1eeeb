/-!
# First occurrences

Where one text first occurs in another.
-/

namespace Stencil.Text

/-- What stands before the first occurrence of `needle`, and what stands after it. -/
def splitAtFirst? (needle : List Char) : List Char → Option (List Char × List Char)
  | [] => if needle = [] then some ([], []) else none
  | c :: cs =>
    if needle.isPrefixOf (c :: cs) then some ([], (c :: cs).drop needle.length)
    else (splitAtFirst? needle cs).map fun (before, after) => (c :: before, after)

/-- Whether `needle` occurs in `cs`. -/
def occursIn (needle cs : List Char) : Bool := (splitAtFirst? needle cs).isSome

/-- A split loses nothing. -/
theorem eq_of_splitAtFirst? {needle cs before after : List Char}
    (h : splitAtFirst? needle cs = some (before, after)) : cs = before ++ needle ++ after := by
  induction cs generalizing before after with
  | nil =>
    simp only [splitAtFirst?] at h
    split at h <;> simp_all
  | cons c cs ih =>
    simp only [splitAtFirst?] at h
    split at h
    · rename_i found
      obtain ⟨t, ht⟩ := List.isPrefixOf_iff_prefix.1 found
      simp only [Option.some.injEq, Prod.mk.injEq] at h
      obtain ⟨rfl, rfl⟩ := h
      rw [← ht]
      simp
    · obtain ⟨⟨b, a⟩, hb, hab⟩ := Option.map_eq_some_iff.1 h
      simp only [Prod.mk.injEq] at hab
      obtain ⟨rfl, rfl⟩ := hab
      simp [ih hb]

end Stencil.Text
