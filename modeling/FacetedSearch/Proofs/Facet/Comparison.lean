import FacetedSearch.Facet.Basic

/-!
# Equal values and equal ids

Values are compared by value, and two that are equal need not be the same: the two zeros
are equal as numbers and have different texts.  This is the only way in which equality by
value and equality of ids come apart for the values that ids are read as.  So it is enough
to exclude the negative zero on the other side.

* `Binary64.isNegativeZero`, `Bounds.hasNegativeZero`, `FacetValue.hasNegativeZero`;
* `Binary64.eq_of_sameValue`, `Bounds.eq_of_sameValue`: equal by value is the same;
* `FacetValue.withoutZeroSigns`, `FacetValue.map_withoutZeroSigns_of_sameValues`: with zeros
  unsigned, equal by value is the same as well.
-/

namespace FacetedSearch

namespace Binary64

/-- The zero with a minus sign. -/
def isNegativeZero : Binary64 → Bool
  | .finite true rank => rank.val == 0
  | _ => false

/-- What equals an unsigned double by value is the double itself or the negative zero. -/
theorem eq_of_sameValue {x y : Binary64} (hy : y.isUnsigned = true)
    (hx : x.isNegativeZero = false) (h : x.sameValue y = true) : x = y := by
  cases y with
  | nan => exact absurd hy (by decide)
  | infinity negative => exact absurd hy (by simp)
  | finite negative rank =>
    obtain rfl : negative = false := by simpa using hy
    have hrank := rank.isLt
    cases x with
    | nan => cases h
    | infinity negative =>
      have hpos : position (.infinity negative) = position (.finite false rank) := by
        rw [← Std.compare_eq_iff_eq]
        simpa [sameValue, compare?] using h
      cases negative <;> simp only [position] at hpos <;> omega
    | finite negative other =>
      have hpos : position (.finite negative other) = position (.finite false rank) := by
        rw [← Std.compare_eq_iff_eq]
        simpa [sameValue, compare?] using h
      cases negative with
      | false =>
        simp only [position] at hpos
        rw [Fin.ext (Int.ofNat.inj hpos)]
      | true =>
        have hne : other.val ≠ 0 := by simpa [isNegativeZero] using hx
        simp only [position] at hpos
        omega

end Binary64

namespace Bounds

/-- Whether one of the bounds is the zero with a minus sign. -/
def hasNegativeZero (bounds : Bounds) : Bool :=
  bounds.lower.any Binary64.isNegativeZero || bounds.upper.any Binary64.isNegativeZero

theorem bound_eq_of_compareBound? {a b : Option Binary64} (hb : isEncodableBound b = true)
    (ha : a.any Binary64.isNegativeZero = false) (h : (compareBound? a b == some .eq) = true) :
    a = b := by
  cases a with
  | none =>
    cases b with
    | none => rfl
    | some y => exact absurd h (by simp [compareBound?])
  | some x =>
    cases b with
    | none => exact absurd h (by simp [compareBound?])
    | some y => rw [Binary64.eq_of_sameValue hb ha h]

/-- An interval without a negative zero that equals one that an id can carry is the same. -/
theorem eq_of_sameValue {a b : Bounds} (hb : b.isEncodable = true)
    (ha : a.hasNegativeZero = false) (h : a.sameValue b = true) : a = b := by
  rw [isEncodable, Bool.and_eq_true] at hb
  rw [hasNegativeZero, Bool.or_eq_false_iff] at ha
  rw [sameValue, Bool.and_eq_true] at h
  have hlower := bound_eq_of_compareBound? hb.1 ha.1 h.1
  have hupper := bound_eq_of_compareBound? hb.2 ha.2 h.2
  cases a
  cases b
  simp only at hlower hupper
  rw [hlower, hupper]

end Bounds

namespace FacetValue

/-- Whether a value is an interval with a bound that is the zero with a minus sign. -/
def hasNegativeZero : FacetValue → Bool
  | .term _ => false
  | .range bounds => bounds.hasNegativeZero

/-- Equal to a text is only the text. -/
theorem eq_of_sameValue_text {value : FacetValue} {text : String}
    (h : value.sameValue (.term (.text text)) = true) : value = .term (.text text) := by
  cases value with
  | range bounds => cases h
  | term t =>
    cases t with
    | int n => cases h
    | float x => cases h
    | text s => rw [beq_iff_eq.1 h]

/-- Equal to an integer is only the integer. -/
theorem eq_of_sameValue_int {value : FacetValue} {n : Int64}
    (h : value.sameValue (.term (.int n)) = true) : value = .term (.int n) := by
  cases value with
  | range bounds => cases h
  | term t =>
    cases t with
    | int m => rw [beq_iff_eq.1 h]
    | float x => cases h
    | text s => cases h

/-- Equal to an interval that an id can carry is only the interval, but for negative
zeros. -/
theorem eq_of_sameValue_range {value : FacetValue} {bounds : Bounds}
    (hb : bounds.isEncodable = true) (hv : value.hasNegativeZero = false)
    (h : value.sameValue (.range bounds) = true) : value = .range bounds := by
  cases value with
  | term t => cases h
  | range other => rw [Bounds.eq_of_sameValue hb hv h]

/-- A list equals itself by value exactly if all of its values do. -/
theorem sameValues_self_iff {values : List FacetValue} :
    sameValues values values = true ↔ ∀ value ∈ values, value.sameValue value = true := by
  induction values with
  | nil => exact ⟨fun _ _ h => absurd h List.not_mem_nil, fun _ => rfl⟩
  | cons value rest ih => rw [sameValues, Bool.and_eq_true, ih, List.forall_mem_cons]

end FacetValue

/-! ## Zeros without their sign -/

namespace Binary64

/-- The same number, but the zero without its sign. -/
def withoutZeroSign (x : Binary64) : Binary64 := if x.isNegativeZero then zero else x

theorem withoutZeroSign_of_rank_eq_zero (negative : Bool) {rank : Fin finiteMagnitudes}
    (h : rank.val = 0) : (Binary64.finite negative rank).withoutZeroSign = zero := by
  obtain rfl : rank = ⟨0, by decide⟩ := Fin.ext h
  cases negative <;> rfl

/-- But for the sign of a zero, the place of a finite number says which one it is. -/
theorem withoutZeroSign_eq_of_position {negative other : Bool} {rank rank' : Fin finiteMagnitudes}
    (h : position (.finite negative rank) = position (.finite other rank')) :
    (Binary64.finite negative rank).withoutZeroSign =
      (Binary64.finite other rank').withoutZeroSign := by
  by_cases hzero : rank.val = 0
  · have hzero' : rank'.val = 0 := by
      cases negative <;> cases other <;> simp only [position] at h <;> omega
    rw [withoutZeroSign_of_rank_eq_zero negative hzero,
      withoutZeroSign_of_rank_eq_zero other hzero']
  · have hboth : negative = other ∧ rank.val = rank'.val := by
      cases negative <;> cases other <;> simp only [position] at h
      · exact ⟨rfl, by omega⟩
      · omega
      · omega
      · exact ⟨rfl, by omega⟩
    rw [hboth.1, Fin.ext hboth.2]

theorem withoutZeroSign_eq_of_sameValue {x y : Binary64} (h : x.sameValue y = true) :
    x.withoutZeroSign = y.withoutZeroSign := by
  have hplace : ∀ a b : Binary64, (some (compare a.position b.position) == some .eq) = true →
      a.position = b.position := by
    intro a b hab
    rw [← Std.compare_eq_iff_eq]
    simpa using hab
  cases x with
  | nan => cases h
  | infinity negative =>
    cases y with
    | nan => cases negative <;> cases h
    | infinity other => cases negative <;> cases other <;> first | rfl | cases h
    | finite other rank =>
      have hrank := rank.isLt
      have hpos := hplace _ _ h
      cases negative <;> cases other <;> simp only [position] at hpos <;> omega
  | finite negative rank =>
    cases y with
    | nan => cases h
    | infinity other =>
      have hrank := rank.isLt
      have hpos := hplace _ _ h
      cases negative <;> cases other <;> simp only [position] at hpos <;> omega
    | finite other rank' => exact withoutZeroSign_eq_of_position (hplace _ _ h)

end Binary64

/-- The same term, but a zero without its sign. -/
def Term.withoutZeroSign : Term → Term
  | .float x => .float x.withoutZeroSign
  | other => other

theorem Term.withoutZeroSign_eq_of_sameValue {a b : Term} (h : a.sameValue b = true) :
    a.withoutZeroSign = b.withoutZeroSign := by
  cases a with
  | int n =>
    cases b with
    | int m => rw [beq_iff_eq.1 h]
    | float y => cases h
    | text t => cases h
  | float x =>
    cases b with
    | int m => cases h
    | float y => exact congrArg Term.float (Binary64.withoutZeroSign_eq_of_sameValue h)
    | text t => cases h
  | text s =>
    cases b with
    | int m => cases h
    | float y => cases h
    | text t => rw [beq_iff_eq.1 h]

namespace Bounds

/-- The same interval, but bounds that are zero without their signs. -/
def withoutZeroSigns (bounds : Bounds) : Bounds :=
  ⟨bounds.lower.map Binary64.withoutZeroSign, bounds.upper.map Binary64.withoutZeroSign⟩

theorem map_withoutZeroSign_of_compareBound? {a b : Option Binary64}
    (h : (compareBound? a b == some .eq) = true) :
    a.map Binary64.withoutZeroSign = b.map Binary64.withoutZeroSign := by
  cases a with
  | none =>
    cases b with
    | none => rfl
    | some y => cases h
  | some x =>
    cases b with
    | none => cases h
    | some y => exact congrArg some (Binary64.withoutZeroSign_eq_of_sameValue h)

theorem withoutZeroSigns_eq_of_sameValue {a b : Bounds} (h : a.sameValue b = true) :
    a.withoutZeroSigns = b.withoutZeroSigns := by
  rw [sameValue, Bool.and_eq_true] at h
  rw [withoutZeroSigns, withoutZeroSigns, map_withoutZeroSign_of_compareBound? h.1,
    map_withoutZeroSign_of_compareBound? h.2]

end Bounds

namespace FacetValue

/-- The same value, but zeros without their signs. -/
def withoutZeroSigns : FacetValue → FacetValue
  | .term t => .term t.withoutZeroSign
  | .range bounds => .range bounds.withoutZeroSigns

theorem withoutZeroSigns_eq_of_sameValue {a b : FacetValue} (h : a.sameValue b = true) :
    a.withoutZeroSigns = b.withoutZeroSigns := by
  cases a with
  | term t =>
    cases b with
    | term u => exact congrArg FacetValue.term (Term.withoutZeroSign_eq_of_sameValue h)
    | range bounds => cases h
  | range bounds =>
    cases b with
    | term u => cases h
    | range other => exact congrArg FacetValue.range (Bounds.withoutZeroSigns_eq_of_sameValue h)

/-- Lists of values that are equal by value are the same list, but for the signs of zeros. -/
theorem map_withoutZeroSigns_of_sameValues {as bs : List FacetValue}
    (h : sameValues as bs = true) : as.map withoutZeroSigns = bs.map withoutZeroSigns := by
  induction as generalizing bs with
  | nil =>
    cases bs with
    | nil => rfl
    | cons b bs => cases h
  | cons a as ih =>
    cases bs with
    | nil => cases h
    | cons b bs =>
      rw [sameValues, Bool.and_eq_true] at h
      rw [List.map_cons, List.map_cons, withoutZeroSigns_eq_of_sameValue h.1, ih h.2]

end FacetValue
end FacetedSearch
