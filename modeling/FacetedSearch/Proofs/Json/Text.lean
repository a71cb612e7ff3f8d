import Mathlib.Algebra.Ring.Int.Defs
import FacetedSearch.Proofs.Assoc
import FacetedSearch.Proofs.Json.Scanning
import FacetedSearch.Proofs.Number.PlainText

/-!
# The text of a document reads back

A document is not read back from its text whatever it holds.  An integer that does not fit into 64
bits is read as a double, and infinities and `NaN` are written as `null`.  An object that repeats a
key loses a member, and what is nested too deeply is not read at all.  Doubles are the delicate
case.  They are written with the fewest digits that name them, but numerals are read with more than
one rounding, so that a neighbour may come out; a double is only taken for granted here if its own
numeral denotes it.

Nothing else is lost.  The induction is on how such a document is put together, and what it carries
is that reading the characters of a document, wherever a value may stand, is putting the document
into the innermost open array or object.

* `Json.ofNumeral?_integerChars`, `Json.ofUnsignedNumeral?_of_point`: the numerals of integers,
  and those with a point;
* `Json.Spelled`: the documents, with a bound on how deep arrays and objects are nested;
* `Json.Taken`, `Json.Spelled.taken`: reading a document wherever a value may stand;
* `Json.read?_text`: reading a document.
-/

namespace FacetedSearch
namespace Json

/-! ## Integers -/

theorem head?_toDigits_ne {n : Nat} (h : 0 < n) : (Nat.toDigits 10 n).head? ≠ some '0' := by
  induction n using Nat.strongRecOn with
  | ind n ih =>
    by_cases hdigit : n < 10
    · have hall : ∀ n : Fin 10, 0 < n.val → [Nat.digitChar n.val].head? ≠ some '0' := by decide
      rw [Nat.toDigits_of_lt_base hdigit]
      exact hall ⟨n, hdigit⟩ h
    · have hfront := ih (n / 10) (by omega) (by omega)
      rw [Nat.toDigits_of_base_le (by decide) (by omega),
        List.head?_append_of_ne_nil _ Nat.toDigits_ne_nil]
      exact hfront

/-- Digits alone are a numeral without point and exponent. -/
theorem ofUnsignedNumeral?_toDigits (negative : Bool) (n : Nat) :
    ofUnsignedNumeral? negative (Nat.toDigits 10 n) =
      ofWholeNumeral? negative (Nat.toDigits 10 n) := by
  have hdigits : ∀ c ∈ Nat.toDigits 10 n, c.isDigit = true :=
    fun c hc => isDigit_of_mem_toDigits_ten hc
  have hshape : ¬(Nat.toDigits 10 n = [] ∨
      (Nat.toDigits 10 n).head? = some '0' ∧ 1 < (Nat.toDigits 10 n).length) := by
    rintro (hnone | ⟨hhead, hlength⟩)
    · exact Nat.toDigits_ne_nil hnone
    · rcases Nat.eq_zero_or_pos n with rfl | hpos
      · exact absurd hlength (by decide)
      · exact head?_toDigits_ne hpos hhead
  unfold ofUnsignedNumeral?
  simp only [List.takeWhile_eq_self_iff.2 hdigits, List.dropWhile_eq_nil_iff.2 hdigits, hshape,
    if_false]

theorem ofNumeral?_of_digit {c : Char} {rest : List Char} (h : c.isDigit = true) :
    ofNumeral? (c :: rest) = ofUnsignedNumeral? false (c :: rest) := by
  have hminus : c ≠ '-' := by
    rintro rfl
    exact absurd h (by decide)
  unfold ofNumeral?
  split
  · next heq => exact absurd (List.cons.inj heq).1 hminus
  · rfl

/-- **An integer that fits into 64 bits, signed or not, is read back from its numeral.** -/
theorem ofNumeral?_integerChars {n : Int} (hlow : -2 ^ 63 ≤ n) (hhigh : n < 2 ^ 64) :
    ofNumeral? (integerChars n) = some (.int n) := by
  have hdigits : Decimal.ofDigits (Nat.toDigits 10 n.natAbs) = n.natAbs :=
    Decimal.ofDigits_digits n.natAbs
  unfold integerChars
  split
  · next hneg =>
    have habs : -(n.natAbs : Int) = n := by omega
    have hne : n.natAbs ≠ 0 := by omega
    have hfits : (int64Of? n).isSome = true := by
      rw [int64Of?, if_pos (Int64.toInt_ofInt_of_le hlow (by omega))]
      rfl
    show ofUnsignedNumeral? true (Nat.toDigits 10 n.natAbs) = _
    rw [ofUnsignedNumeral?_toDigits, ofWholeNumeral?]
    simp only [hdigits, habs, if_true]
    rw [if_pos ⟨hne, hfits⟩]
  · next hpos =>
    have habs : (n.natAbs : Int) = n := by omega
    have hfits : n.natAbs < UInt64.size := by
      have hsize : UInt64.size = 2 ^ 64 := rfl
      omega
    obtain ⟨c, rest, hcons⟩ :=
      List.exists_cons_of_ne_nil (Nat.toDigits_ne_nil (b := 10) (n := n.natAbs))
    have hdigit : c.isDigit = true :=
      isDigit_of_mem_toDigits_ten (n := n.natAbs) (by rw [hcons]; exact List.mem_cons_self)
    rw [hcons, ofNumeral?_of_digit hdigit, ← hcons, ofUnsignedNumeral?_toDigits, ofWholeNumeral?]
    simp only [hdigits, Bool.false_eq_true, if_false, if_pos hfits, habs]

/-- Digits around a point are scaled down by those behind it. -/
theorem ofUnsignedNumeral?_of_point (negative : Bool) {whole fraction : List Char}
    (hwhole : ∀ c ∈ whole, c.isDigit = true) (hfraction : ∀ c ∈ fraction, c.isDigit = true)
    (hshape : ¬(whole = [] ∨ whole.head? = some '0' ∧ 1 < whole.length)) (hne : fraction ≠ []) :
    ofUnsignedNumeral? negative (whole ++ '.' :: fraction) =
      (scaled? negative ((Gathered.ofWhole whole).addFraction fraction).significand
        ((Gathered.ofWhole whole).addFraction fraction).scale).map .float := by
  have htake : (whole ++ '.' :: fraction).takeWhile Char.isDigit = whole := by
    rw [List.takeWhile_append_of_pos hwhole, List.takeWhile_cons_of_neg (by decide),
      List.append_nil]
  have hdrop : (whole ++ '.' :: fraction).dropWhile Char.isDigit = '.' :: fraction := by
    rw [List.dropWhile_append_of_pos hwhole, List.dropWhile_cons_of_neg (by decide)]
  have hhigh : ¬exponentLimit ≤ 0 := by decide
  have hlow : ¬(0 : Int) ≤ -exponentLimit := by decide
  unfold ofUnsignedNumeral?
  simp only [htake, hdrop, List.takeWhile_eq_self_iff.2 hfraction,
    List.dropWhile_eq_nil_iff.2 hfraction, hshape, hne, if_false, Decimal.exponentPart?,
    Option.bind_some, Gathered.double?, hhigh, hlow, Int.add_zero]

/-- The double one is written with a point, and read back. -/
theorem ofNumeral?_one : ofNumeral? ['1', '.', '0'] =
    some (.float (.finite false ⟨1023 * blockRanks, by decide⟩)) := by
  have hgathered : (Gathered.ofWhole ['1']).addFraction ['0'] = ⟨10, -1, false⟩ := rfl
  have hscaled : scaled? false 10 (-1) =
      some (.finite false ⟨1023 * blockRanks, by decide⟩) := by
    rw [scaled?, if_pos (by decide), scaledDown, dif_pos (by decide)]
    decide +kernel
  have hpoint : ofUnsignedNumeral? false (['1'] ++ '.' :: ['0']) = _ :=
    ofUnsignedNumeral?_of_point false (List.forall_mem_singleton.2 rfl)
      (List.forall_mem_singleton.2 rfl) (by decide) (List.cons_ne_nil _ _)
  rw [hgathered, hscaled] at hpoint
  exact hpoint

/-! ## Documents that have a text -/

/-- What is read back from its text where so many arrays and objects may be nested. -/
inductive Spelled : Nat → Json → Prop where
  | null (room : Nat) : Spelled room .null
  | bool (room : Nat) (value : Bool) : Spelled room (.bool value)
  | int (room : Nat) {n : Int} (hlow : -2 ^ 63 ≤ n) (hhigh : n < 2 ^ 64) : Spelled room (.int n)
  | float (room : Nat) {x : Binary64} (h : ofNumeral? (floatChars x) = some (.float x)) :
      Spelled room (.float x)
  | str (room : Nat) (s : String) : Spelled room (.str s)
  | arr {room : Nat} {items : List Json} (h : ∀ item ∈ items, Spelled room item) :
      Spelled (room + 1) (.arr items)
  | obj {room : Nat} {members : Assoc Json} (hkeys : (Assoc.keys members).Nodup)
      (h : ∀ member ∈ members, Spelled room member.2) : Spelled (room + 1) (.obj members)

/-! ## Reading a document -/

variable {limit room : Nat} {document : Json}

/-- Wherever a value may stand, with room for so many arrays and objects, reading the characters
of a document is placing it. -/
def Taken (limit room : Nat) (document : Json) : Prop :=
  ∀ {frames : List Frame} {expects : Expects} {rest : List Char}, frames.length + room ≤ limit →
    expects = .value ∨ expects = .itemOrEnd → IsEnd rest →
      readFrom? limit (.between, ⟨frames, expects⟩) (document.chars ++ rest) =
        readFrom? limit (.between, Assembly.place frames document) rest

theorem step?_value {frames : List Frame} {expects : Expects}
    (h : expects = .value ∨ expects = .itemOrEnd) (value : Json) :
    (Assembly.mk frames expects).step? limit (.value value) =
      some (Assembly.place frames value) := by
  rcases h with rfl | rfl <;> rfl

/-- A numeral or word is taken as the value that it denotes. -/
theorem taken_lexeme (document : Json)
    (hchars : ∀ c ∈ document.chars, Scan.isLexemeChar c = true)
    (hvalue : Scan.lexemeValue? document.chars.reverse = some document) :
    document.Taken limit room := by
  intro frames expects rest _ hexpects hrest
  have hne : document.chars ≠ [] := by
    intro hnone
    rw [hnone] at hvalue
    cases hvalue
  rw [readFrom?_lexeme hne hchars hvalue hrest, step?_value hexpects, Option.bind_some]

theorem taken_numeral (document : Json) (h : ofNumeral? document.chars = some document) :
    document.Taken limit room :=
  taken_lexeme document (Scan.isLexemeChar_of_ofNumeral? h) (Scan.lexemeValue?_of_ofNumeral? h)

theorem taken_str (s : String) : (Json.str s).Taken limit room := by
  intro frames expects rest _ hexpects _
  show readFrom? limit _ (stringChars s ++ rest) = _
  rw [readFrom?_string, step?_value hexpects, Option.bind_some]

/-- An array or object is opened if there is room for it. -/
theorem step?_open {frames : List Frame} {expects : Expects}
    (hexpects : expects = .value ∨ expects = .itemOrEnd) (hroom : frames.length < limit) :
    (Assembly.mk frames expects).step? limit (.mark '[') =
        some ⟨.items [] :: frames, .itemOrEnd⟩ ∧
      (Assembly.mk frames expects).step? limit (.mark '\x7b') =
        some ⟨.members [] "" :: frames, .keyOrEnd⟩ := by
  rcases hexpects with rfl | rfl
  · exact ⟨if_pos hroom, if_pos hroom⟩
  · exact ⟨if_pos hroom, if_pos hroom⟩

/-- The items of an array are put behind those before them. -/
theorem readFrom?_items {items : List Json} (hne : items ≠ [])
    (h : ∀ item ∈ items, item.Taken limit room) {frames : List Frame} {before : List Json}
    {expects : Expects} (hexpects : expects = .value ∨ expects = .itemOrEnd)
    (hroom : frames.length + 1 + room ≤ limit) (rest : List Char) :
    readFrom? limit (.between, ⟨.items before :: frames, expects⟩)
        (itemsChars items ++ ']' :: rest) =
      readFrom? limit (.between, Assembly.place frames (.arr (before.reverse ++ items))) rest := by
  induction items generalizing before expects with
  | nil => exact absurd rfl hne
  | cons item others ih =>
    obtain ⟨hitem, hothers⟩ := List.forall_mem_cons.1 h
    have hinside : (Frame.items before :: frames).length + room ≤ limit := hroom
    cases others with
    | nil =>
      have hclose : (Assembly.mk (.items (item :: before) :: frames) .commaOrEnd).step? limit
          (.mark ']') = some (Assembly.place frames (.arr (item :: before).reverse)) := rfl
      have hend : IsEnd (']' :: rest) := isEnd_cons rfl
      rw [itemsChars, hitem hinside hexpects hend, Assembly.place, readFrom?_mark rfl, hclose,
        Option.bind_some, List.reverse_cons]
    | cons next more =>
      have hcomma : (Assembly.mk (.items (item :: before) :: frames) .commaOrEnd).step? limit
          (.mark ',') = some ⟨.items (item :: before) :: frames, .value⟩ := rfl
      have hsplit : itemsChars (item :: next :: more) ++ ']' :: rest =
          item.chars ++ ',' :: (itemsChars (next :: more) ++ ']' :: rest) := by
        rw [itemsChars, List.append_assoc, List.cons_append]
        exact fun hnone => nomatch hnone
      have hend : IsEnd (',' :: (itemsChars (next :: more) ++ ']' :: rest)) := isEnd_cons rfl
      rw [hsplit, hitem hinside hexpects hend, Assembly.place, readFrom?_mark rfl, hcomma,
        Option.bind_some, ih (List.cons_ne_nil _ _) hothers (Or.inl rfl), List.reverse_cons,
        List.append_assoc]
      rfl

theorem taken_arr {items : List Json} (h : ∀ item ∈ items, item.Taken limit room) :
    (Json.arr items).Taken limit (room + 1) := by
  intro frames expects rest hroom hexpects _
  have hopen : (Assembly.mk frames expects).step? limit (.mark '[') =
      some ⟨.items [] :: frames, .itemOrEnd⟩ := (step?_open hexpects (by omega)).1
  rw [chars, List.cons_append, List.append_assoc, readFrom?_mark rfl, hopen, Option.bind_some]
  cases items with
  | nil =>
    have hclose : (Assembly.mk (.items [] :: frames) .itemOrEnd).step? limit (.mark ']') =
        some (Assembly.place frames (.arr [])) := rfl
    show readFrom? limit _ (']' :: rest) = _
    rw [readFrom?_mark rfl, hclose, Option.bind_some]
  | cons item others =>
    exact readFrom?_items (List.cons_ne_nil _ _) h (Or.inr rfl) (by omega) rest

/-- The members of an object are written into those before them. -/
theorem readFrom?_members {members : Assoc Json} (hne : members ≠ [])
    (h : ∀ member ∈ members, member.2.Taken limit room) {frames : List Frame} {before : Assoc Json}
    {last : String} {expects : Expects} (hexpects : expects = .keyOrEnd ∨ expects = .key)
    (hroom : frames.length + 1 + room ≤ limit) (rest : List Char) :
    readFrom? limit (.between, ⟨.members before last :: frames, expects⟩)
        (membersChars members ++ '\x7d' :: rest) =
      readFrom? limit (.between, Assembly.place frames (.obj (Assoc.extend before members)))
        rest := by
  induction members generalizing before last expects with
  | nil => exact absurd rfl hne
  | cons member others ih =>
    obtain ⟨hmember, hothers⟩ := List.forall_mem_cons.1 h
    obtain ⟨key, value⟩ := member
    have hkey : (Assembly.mk (.members before last :: frames) expects).step? limit
        (.value (.str key)) = some ⟨.members before key :: frames, .colon⟩ := by
      rcases hexpects with rfl | rfl <;> rfl
    have hcolon : (Assembly.mk (.members before key :: frames) .colon).step? limit (.mark ':') =
        some ⟨.members before key :: frames, .value⟩ := rfl
    have hinside : (Frame.members before key :: frames).length + room ≤ limit := hroom
    cases others with
    | nil =>
      have hclose : (Assembly.mk (.members (before.insert key value) key :: frames)
          .commaOrEnd).step? limit (.mark '\x7d') =
            some (Assembly.place frames (.obj (before.insert key value))) := rfl
      have hend : IsEnd ('\x7d' :: rest) := isEnd_cons rfl
      rw [membersChars, List.append_assoc, readFrom?_string, hkey, Option.bind_some,
        List.cons_append, readFrom?_mark rfl, hcolon, Option.bind_some,
        hmember hinside (Or.inl rfl) hend, Assembly.place, readFrom?_mark rfl, hclose,
        Option.bind_some]
      rfl
    | cons next more =>
      have hcomma : (Assembly.mk (.members (before.insert key value) key :: frames)
          .commaOrEnd).step? limit (.mark ',') =
            some ⟨.members (before.insert key value) key :: frames, .key⟩ := rfl
      have hsplit : membersChars ((key, value) :: next :: more) ++ '\x7d' :: rest =
          stringChars key ++ ':' ::
            (value.chars ++ ',' :: (membersChars (next :: more) ++ '\x7d' :: rest)) := by
        rw [membersChars, List.append_assoc, List.cons_append, List.append_assoc,
          List.cons_append]
        exact fun hnone => nomatch hnone
      have hend : IsEnd (',' :: (membersChars (next :: more) ++ '\x7d' :: rest)) := isEnd_cons rfl
      rw [hsplit, readFrom?_string, hkey, Option.bind_some, readFrom?_mark rfl, hcolon,
        Option.bind_some, hmember hinside (Or.inl rfl) hend, Assembly.place, readFrom?_mark rfl,
        hcomma, Option.bind_some, ih (List.cons_ne_nil _ _) hothers (Or.inr rfl)]
      rfl

theorem taken_obj {members : Assoc Json} (hkeys : (Assoc.keys members).Nodup)
    (h : ∀ member ∈ members, member.2.Taken limit room) :
    (Json.obj members).Taken limit (room + 1) := by
  intro frames expects rest hroom hexpects _
  have hopen : (Assembly.mk frames expects).step? limit (.mark '\x7b') =
      some ⟨.members [] "" :: frames, .keyOrEnd⟩ := (step?_open hexpects (by omega)).2
  rw [chars, List.cons_append, List.append_assoc, readFrom?_mark rfl, hopen, Option.bind_some]
  cases members with
  | nil =>
    have hclose : (Assembly.mk (.members [] "" :: frames) .keyOrEnd).step? limit
        (.mark '\x7d') = some (Assembly.place frames (.obj [])) := rfl
    show readFrom? limit _ ('\x7d' :: rest) = _
    rw [readFrom?_mark rfl, hclose, Option.bind_some]
  | cons member others =>
    -- keys being distinct, nothing is overwritten
    have hall : Assoc.extend [] (member :: others) = member :: others :=
      Assoc.extend_of_nodup hkeys
    refine (readFrom?_members (List.cons_ne_nil _ _) h (Or.inl rfl) (by omega) rest).trans ?_
    rw [hall]

/-- **A document that has a text is taken off it**, wherever a value may stand. -/
theorem Spelled.taken (h : Spelled room document) : document.Taken limit room := by
  induction h with
  | null room => exact taken_lexeme .null (List.all_eq_true.1 rfl) rfl
  | bool room value =>
    cases value with
    | false => exact taken_lexeme (.bool false) (List.all_eq_true.1 rfl) rfl
    | true => exact taken_lexeme (.bool true) (List.all_eq_true.1 rfl) rfl
  | @int room n hlow hhigh => exact taken_numeral (.int n) (ofNumeral?_integerChars hlow hhigh)
  | @float room x h => exact taken_numeral (.float x) h
  | str room s => exact taken_str s
  | arr _ ih => exact taken_arr ih
  | obj hkeys _ ih => exact taken_obj hkeys ih

/-- **A document is read back from its text.** -/
theorem read?_text (h : Spelled limit document) : read? limit document.text = some document := by
  have hread : readFrom? limit (.between, .start) (document.chars ++ []) =
      readFrom? limit (.between, Assembly.place [] document) [] :=
    h.taken (Nat.le_of_eq (Nat.zero_add limit)) (Or.inl rfl) isEnd_nil
  rw [List.append_nil] at hread
  rw [read?_eq_readFrom?, text, String.toList_ofList]
  exact hread

end Json
end FacetedSearch
